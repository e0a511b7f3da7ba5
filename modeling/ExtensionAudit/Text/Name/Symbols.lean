import ExtensionAudit.Text.Name.Run

/-!
# Names: symbols

The names of punctuation, arrows, operators and other symbols from U+2000 to U+2FFF.
-/

namespace ExtensionAudit.Text

/-- The names from U+2000 to U+2FFF. -/
def symbolNames : NameRun :=
  ⟨0x2000, 57066, "~Rh*L4dsMvBSiqgVx12~DV6pAa!mBfrojJAO6O$O;urJ;xMT%pWW7v<xSh@E^YnscysXlHt9OAJQhbZ7r
*JEy+?WrPi)vLmTB5=[GF:]y3+HmZcmdH1qIv88JK7^byOVMc()yGx@CwYJ7E+vW~DzXk&XvWhZ,0:+7(>*?%Otj^0|*d~E$480(
nrJxIDyS)=LlqTd)^4Lr.=y>D<[o+I8Ar5jCyAUe;G=7:F@40rgzaqIi,g!q!PuW@UiKjfiM$)05bR|ON)V8E~9lnPhgEWA~Uw)g
VsKk[jzrQqZb@|fh<,ECy%gjWE<:yh@[zbbs5<$<2FE)i5GdS|u3r5;VWA^tBDqHl~pebh5^pycrp1D?%zX,QOF6J|2f1N+<f3XC
,wF)Do+=XiQwN?JJ3>lC!z3K+WX9%vE*|l24AB+Gvj(>c@Y^v.yTlLeR1TIysImkk6ym9ACPQ5@e$CBRBlMJHbu|IYl>u1lra2J+
PlYTnH+3^S.z2%NmiQ)fxPp2@L*0goBSOEU7neZ!gH*28n&7sJfyj%EUaH@JnHT|,hDD*73,@brZ:wQVhG_lCc4ENoX>Ugka:+1?
q,*s2D65xXoqnpa9cWRT5BEre&a]1;eicSApOYgi~qSh&BWoN:;z:[sNW$(g0ENFSQ%T4>r^~BNOv4WHGJY@7(zMnRK|2W4&XTsf
7cqjF!_^yXy]*6%QZ6Q8x(;x.NWWQG!!*:hi$nH&^hGSkycUB(sg]r;&xLCI!!!&Q8StN5>%G2X7JdR%wC12wrGpSmo0:8gYaP;+
WO+t|]vL9HlMg7<IUC9[SB9Vi[WD>Toxi9NWfBzcI.4=Q[eQX41<*87r(K&*4EECe5w4@&4K!h|.=~vuD,et$,YBj;tRXhbT4;4$
%m8wozqgx508y3+U6Wc>5>9haJ;hcNf==5DneavdB%m]kzchuOvjsF%Fl_UtK]VYpZ[z?oVY<*_3DS*]G*Vc^5;kHZ4Ebv!+sniL
J&c26=uX;|]Xij!MUV!4rpa.n,dXb6;dB$5Z<9~fYvk.ocFZcgt,h=MaFhex*HHzbfA,)mw<R~k;zVp|%cXE7!)<C[)6ZVDTzIof
@JZnb?hiSs?:K<)xg]LtnACsa[o7&U7iDKKw7!1Yjc;dQK>yOz5WM&_mCmTNig7&&SWy26En~Y|aKt0qT;TYuBrg:Ah5SgbIiSeS
J(Lp+wXvC0=w6!FjOWzaeC)+<C5usy0>KQDkH^([n$b&~E|jgR?k<8on33t5MK_Q%S]8m1pWgoeYW!Qqsz;_LoxD:_dA3[h,jzET
BQCpRy6Hp@t=q3]px]o%G[;VCm7y4u^jp~V3iJRfjOx>~j!<M@$uap%F?H1:ET:;W1hAyu^JD,l[E2~$Kb]E^ZObSElM^>F=$)QK
:S._u)x7yxEp?(2z9|>+xsJ_6][!3UHT?s:Yc(bYi!PRDBs6K_eV4^6(iqSMFSrW$hBXDCU[@F$:O5%GTX37kGQ:m=jPNv2VTUm]
u4jo=FcQ0K!0v~_burcPF!zOcCAq0*:mrlYg?uv=R;K6PAa3MTZv,(kD4g9h.16L;1djk;(Pfk834Cq3mGDWMigo%YE]Oi<nTr?5
y[lFZIYkSwY9,|g8?4OzF!3;Xc5pP0R=R$w]e,hgWpd6cp)qH?|Jl%A_u[VI0z|0zsAL^1=qXlo82nyOmC5.Yn8U]<I93xi4~BBD
^4||RagZ[oUf3ylJ<]E5L9*9K+jg54Oo57F2IiR2N:4NLe;<8P>k::j!KivdiO=P?a@H+>Lai,yZ92C!V.w7J~|Zv](UH9xv1@!4
idX~cXOS:ei0y6D(uA*FBi[AHKB*:R:W@m!met3V%V!&JoOe=BoKQAe!bX!=jy|]$b;pm:ZZE5H&bEIO>PW&S=3PP%k2]iQk0jio
;XskBp*^%:uZUSI<XFD?KfFhM6T2n6>k7?%U(mtrT[0SjdRvj5<3$aBX?3@lw89gw1Og^?L$P4k?2jy*Fg[WSw1nUcM2n>GDue]i
pLPx1?N=ezowJ~XALI4>G=tbh?iETGJPD~zg4bvCJ1_App|wrae7DB&ZtiI3Pv%>xJkDy2(O?R^YK$uK$sFM4e~:prw11n*XM1B3
sQvyi9wHnU_r]oK[@yq~?@T0Ds8GiBjq!J]l!Cg;vi9C,y$>?_>jtG;Ovw^Tg44gC,NSYc&II%oIN_@JAl>EwB73kV.4:$_4aKyt
Uq8[^ke8(Qs.Uy;4G51fz?d<,Hd?lc4J97T907v]UiC,bApVV~R[w(iwt]sK1m3*DFdQQknNq?Vjdj7iDwG<opreE_sh(?hJ2U;I
d_)m%OZNV4LDQSFeg>oAmB_wGt3w1<$8Y]c~~kLJic[<57[NhpBwfCacM9K8tN.ta~x>M6Mn;SbDmK^yg5;)@a=T^e5RTjoY(NI5
Q<EZmCSsUCYcC~6?wmYq(f68Ro|hAOH!]&kCor6;$WP@a2YYocaP<v[Y?)l~@2JDD3<j;=_N,hiO&wX2Gim4]d!)JG[@3PQ:.YC_
xM_0IcX;U(IMA~@AZm|uPA9V:l+W3w%LK:CKl&%Pdhy$uam5HVmj]HVXJ0h>VTiC+FSD6MDoo:yfl2OyyNfBWcSfSaC5n,3jR4T>
_QRV(ik5it>YWjRGEd=IZe)d;!3vqG%j7~gY(|Bz_zCL[P&oIGbtF[$WR8y!eHDBvoIovalhSTAk:Kai1,h%YkWPe2KB&JMfW>1j
1(N:pXtlmlbBC1&0GU?,Si+0TbhXa1tY.kO|bbKZAtt9B,~SYfj]xC*eK@yP~&PZyERJ(=;x_pj~l&bN_,_J.jW<t!fKO5e)RXH$
f@Wp=bmzJuMBJpn9;.C(8V*[BfA&<=i&^5M(Jlh9WAQB6c;x6~J,8XT,7UA,A4c)%y@zV<~5I@q;ewluHdO<@$dR.a5gCxQ7p=xc
jskk>q*1fPh[Q=5j_U[+M88(:@]e&XyX%14p_vpWX(T07NfW4T;hH9sMn4Klef<gEx9c!kd=R9lcDtQ0na=*<HNxAy&^(3jul5c6
;<5w,(J.^$?|Xn9&Zk_wxw7elPmY:7!JzTnA0~!]ap[WiuKELHbcEc.>;6YLDT1i3ep*Knc9[N!kbS!~w9a]1e,u=*[gBD(gS,XL
K302@?f^ura9J[ZCg^C;S2FIk&S2:%0DE%N8a!0E6<W4Samx|N5$zy^D$6eb?657TPAa>0O!n5N:v,fV3]1nzgtVIGZz^chVJ.~P
7d|Zz4m7%s7Q0b%Yj;H;e<br04IW37g?KRv7uw:Yg?$yU~ap:,ASyq7d?$~.Y&zA=*QONiLvI>^,aypS4~efjsf@U9JQwx72Xhfi
noR+(02~rg1lva8@<r;j68ps(<]K3=lXQx2WAdY7y_W!;;1f6(^,^eH+jX=F!y!4;fbw).59R9(F,)RGt_CZ&YhawrUxlA=h[GoQ
Wu[R%T?inhYK3^w0!krU65qvtrI|$toa.|=Y3(?b+ZHgt43hBDz_Di]4&@?>_ieu:N(Ptb&u1LUQ)9$L%DIc0p,R9X:&mzXiF!]g
u?iS(iyxOKVDS4Bls%[4%(02j_r)V[b$bN]Sf0ILEh+h[zYnq;D]:pcIvq(f8D*f4)^&(]Y&M$~*a:7kvY?@mLhoqA1(+QYc*q5Q
]T(S5I3d9]mvGEp)_I)y$vqu@[rg(s0H.V)wmy7Pq_e1jyQ>AfYwx4&9D|miItqi&f~R6b>=>l_mh]olrb9,4<9qv5ew;N4y%*>g
5MDcVp=ntBO~m,VFcJCQefC,:*hkgClk~|hy9dm8U0^tTWLSle|V*J2wt1$6UAooa60=+]AZxvXwE?)&E87f$BOy6t<pKLbXTl+*
>ih5WRD4SneAi8nHH4jW*S9>K]u2XVgyV[j<c==t(iaLwXGjl;],;VCPk16pQ+Y]9>F4h<&*JD:$&>?o>0sPgZjGD&OM8faC3gge
r.GW8z&oE2$He$p%5nH._)0O.y.2byQ6P)gvm.cX^fhU]5.<%pa&]]$?~rEax)rks]V_KmK|Y+3.ChU~Yd5Gy&yc)2,@uhGysv*f
rZ.j2+IPm0@;$ak=Up4d*^rwD]<5z:kpHK~L412JVCwH+]GV(lAoMaS9+*&.$HA,j+ldxSlxE%9e~_gH|(>RJbhd!8P^PA71aueA
S|L+eB)wn*S2jd@!:y4n+7^QcuO~NEXQO1,EvT;:T+I2XfG[*+m7EvTMlHpX=X4<MiR.fbArHm=;nXA)Vfs^oKbUXlY>vqL%=2S(
.kWc$L=!TmVm[Nd1diz!KgKguqC=@bKT(aXH]@qOt!6EjgP=xG>]zviIpI[[GI__dBq1WTwHS*7[+]JC_~prZr._.ivKQkunzmXF
yPZ1yau2b!0J(8AXgf^$+7VSfc&q9TxrC<ThlP*dUb86!hiI17l=x$03S.*e)0,Es>!@W,((H!sGhV0l1>)LM0!0cmH)agpX&R2H
R6QnLg8XPe7@FfLN*?(F]ShU*G^%RdMmDIyu0a2RusUmryu:Ql)dL+6kOC%$1bF%B3wBrrqGxj|AiQkqI^ZF]?eb13R?k]@InNQK
W5^**zMK?K?_@5jY%oRhVUJK<x57X?:2ke7,!(3r&Sw4w8O^vX8gP_)s~5$C1n,zptb)uH?596T1,s>D00.<Y?L]43<=IEDS>zCn
sZemE_HSguLXfCSsJmdKch?X!U55KEuVt9$&+U.Rg+Ka!(j6GOuc3eO11a3eV[=vW|%X*c0NdO*yo;ljRxDE!S)=$[&2ZUoLKuah
Nk,WH14J%>[S^_<4N5&d0!YT28uq(@hcRBjiyE@Ybf0Zof|H489wgCp|XEEcsnQs~V,|L3^XF:krEE5O%A|saTbuybK8S0l>s(t(
@Ksgg)Mk%8Xvx^jvGog)mhkAaWMJ);Ip6u^Bg^ztLL6$K<od^Fei(+S$y$T01<zDM<!3R5!qD,RwUBV%qsw=BU].!3GS;LQzaPkm
DBOoV_>c*3ulz]Ev4:YAB%8u8V4mtXUy^iajRGDNPYex5bC,xKBv]U_FEUeK8s$a[>|=q@L?=|TRYZB+Qq9QO$ZvW^^A@~77YR>;
wvtep_rv?iLOh:tB.k]=K=V5CWVG3SqfH&$C7ZkGsKBQhWj;YGf+TV+QuB!.T$z,_uRFtnI75Y:*%HhLLgBE<~GI:m.PHOJKJ[(&
=A(fVeYVBVFRI:G+xYxdzp<p1)TxS7(L(pUXtcmTva%9uaTbh09WLxO:A7Lm|7h0Ly5Z7YYGbVP)ViEOjLyKT?nh(Q$fQ~6tDfmI
uZrpk?d~4zs2S|+ukz,HXQ2k>^BWp@PCt8vj@ejI=L<BM;eymOO;k!<gKGh8!!N66!1ZU<W=0)$y]^a~FxE$BovjAaR&Le)L[zKY
6OuIJ!4zXJyvw+_r;t.5!(~(*~7R0CwLZ~!*OCYy&x5w%atB+1_]aI%s1@kS$ZFt9MTb4mmAY<i2pj6AeD@QHZwaGrXq0ahAjBjY
MRYmo>8fwq>RpOj.uL1(+RS%5UrIUlam9g,z&Q*[Hf>e!yGysVRK:KT1kfM^ve~,c!=c.wuTBB^$gQz]3zHzHk2l5JDfr,DXi)%G
K<nsmTvL^c.qOJWo:Zhg&kDk5$mcdr36FAy|:=gVfW$;N]wn]Yu.I(68]A1S*679$47@h:6.?p]rS@j4L;owMRz7o@nZ><u5lHV1
+AOE8r?+83nc^,+WXHRfF!iyk+=&b988:&EQD_WUO@34q[5]8FwIOCftwn_x7S5Mx~QaT6c4V;4$rr[_Xsdu?]Xo6SVx@Gg=xg_;
vSS,cq;@nc=iX,$8C!<y:j!fzyjM|9BGi3K*MKc6=is^F&t!bjxoCW3JvWOx[u)O5ZDhWe*7?6gWCyT$04Mt]~!vGiD(Cs+uIVxT
Eb[Ndq(LOltf>=B$FG6DrBM|$fq]19gP3NE^sHR6uNjkJ~+:q2S1mnnhW@9trep5;u]MD$r|lgRgGF(_VOge7RQn%]S<!%bdde0d
dcl:J>=pnn6v:@IhGtTgkKn[WK]v9Nrr])f3!P~1WZR%~%N!z@=TveB7UD0C*]8aa*MUpG.p=3cj!RiTvydw,jc~@=|;@Q_3JNZM
dN1z*;,+|elD@9GIU!HpeH0qH@KL?rzi_+G=apQB5;qsYS7K@I(,0]TX);paRqxN7z|fyBB$&.G+ika.8^*$Lni8HM%:mM%n&PTY
+sn6.7b>BnH3BIRbyVSzlE$MCB&w*O%m.4NsF:~Wp~mmY$5D4wcRx3Q8_Ty5u|4bH~.2%N2J(&Kz8aGH<W]EV^g4t;Gl%7*Tr6sH
g,FaDKg|6(H[XVE?_~T&B&Ds:w7jw^U.XUCKQAQPbl^qQU|1SV4KB%:M@$JZ(y~DrzLzG.@.ix7wI5LV]Qw)CSo&)].sKo11Qo~@
uc0W.c$CItj6UBBGyBtdf4vNrY_!&.q9PLeW&|wN)$C(Uf8kcVH>oxMz@!8%vIagXU4l2gn^brKpb&*n,>vdKG<IpbNh5:+)JiRp
|@LM;$mu0x+fFXTkDsB*H%k0ueFFcLR;_jm)Cv&&VjA(FvD?jZ6*8@Y5Z^2<RFlZlyrw|@>z$RdWgmI4CtyjkI>D~dkBBOt$tkSF
ptjLci[%IC4@4za5~s?2qEh+ltHcVz5si4lbqtD;l4.uP@OzmamK5E36KV|4)>3]ZEKE6yjx1F8Cg7p:q[.B5d0v5%$]G*N]C+~H
O$YA9It)|l>HiHXQhBjdM>X*VWJ_Ig7g&WG!k1jeaH61fuvMVy;%c5A9glAoy2Sq[mEvQj)t~CbNk8T+:]NE_[xLDzRpy+tobZkT
%e*Fe!~!RwII;lP?[HPFx92.FLFAJaNp1dpd$:n;.Dr_o|xEHSSSFo%tZTz.P@[z6;nz(IKJ80F^0G0(yP%4QnxCXrYkt>(tqv4L
eF:Gh[d&.Tb~@,EBQ^?$ivo0*Fbbjk!*I^G,vAcAZJn<.zwpHa^J,0fNkWkq74ZETkU8E[SSY?rd]tCK1GgGxOmdbARLj7vj?c<=
&FUN1;6oTg6AIg=PgeT$jD5.7Yx3JV^yxl4uKfVp5!sq(;cnk42m?_D3BfGE%:yvN3Au8Frli:Ek)HMe?EHFig1dn3h5xW56esy?
4C8a3q1mGAGoCmmi>=7UaIh!Hl55*L2Ygm8(efOqku@Wwi=5t|r*b~6>=bTH_K5O;D@5>;EhCmaWQjKe9FDLl&oBz,!$4doU,%gp
p!Oxl58|y_NN$F>t^bgCp&K799z5J,L=IfJ%jCZMDy$_<th2YF$&JJFCLM3)tvaIHR[vd2Ph(iJgGwOhvq0+0VtmRxH=r?smxeM*
s.~T=F7+rKA6D5~X)&)3vMYV%m[m!<GzPCa.PM%(~+b]V<cYlI8Cq:hCc2Z<nkR(Q[j0dHwNa~Up8V.;n*TTlviL%D6YrvR8Y,T7
&gTp|=u<+5C5i|K]Tvl^>BNtlX,4xV0+BT&noe@$@$j%VBk[SzQDj2u[.Hwc9RXt^C&rHt^c1_I)wlm71%N0UjQszx,O&EdQ),h+
O!71F~nKL0q$fX,2*Mk]=8J5!5YL?p!Cu<iwT0Oxe7ST<p1GPey|EK(@0W<gjKe4p^iWbY[Y*V>d(AsLy6mKmzP5ERdRE;Q:MOee
fy~H2_gH;i:L_k2i5v:N+%@LCuOH?tFk?:P>6(|ZHD|ODD7PW,FtQlzzJ4Vn@nxrnEfGcgKiUJSd*zn3!A8yUH8.5^mfY)=Sl@<>
yhIU95G3Vw*)1+fcKZuN7*g:j=i|(e*l2s;uaYQ|:_3<:L^]]]34|Y)0yYCd02EpqBXB93lA[QUFX^2293_?&.zCK(JmFfSDqeRa
rKF?wyP?8%E>dsGbG+:C!iNxatr7P$xz>XaG2EN4V%L<bgtzl,c~h>KGZ?j,Zcu(koMBM^jNrW)juwKbHUnb*ffXMD=bH[5nS.yX
=Xg(SSIagysftO!Dsjtp+:wJUh~xa*sG:wH]4s|!Y~;_;)BRaQfs><F$h_lmG<,<=VYfG.x.uTPxmL4aHEQV$:BtgcMqVAULUtJ=
$URN=D3,M%x$aQ];.%2]+u3KEo?__:>%E4XqFJ6C<9IzYSMxvk|3>Sgs65gERjp=)zNoRb[1He^@p_K!>K|T=nz:L0zQgNWUARrj
UvNR_Ld~0lh)!F?XOfjNuq;)uuZZ)^tv,Gne.=M1Iz=Q~4gb@2HuEC)DlPbX^k3%GDxdb2I3I>qkdj*a;J2QB^Nhx86F9_Qz_:J%
i&ySLCK.wd9jX_cxy|tOIlizujqbvRy7:.?aL4Z?5zt]=MCBWR(~.MY=7+M6t9Ls5lp;_^6<m@UdJ2=Y_iZ8=FBDP~!kIDgz<Eq!
omqE3NUy7$65S&laBQaV6:KFUWh3Q%(:r@o+a1<@9NK~Wq:5oi&R4<9_4;WoT$Cb9hFU6*AL]LE1Nc5FUZYn9X|E5yh63LZroj:j
m9OZ|w_8X,:|r;4mbYnNC3riVdr:(HHl+8L,Wrn:2fgU&CP<U@|H;OCk;ANO[RqG*K]%<60F=4m]:]9|OoDIdMltO*[ZJedYVPj_
65_~shLA$[WZO]CuWR^<VXTPX&vzFMxm5?@qa&kklTGmxn*c;:S^5ymVxHB[.H+wI4y9u|hyz]o_nV[7rj_=V5Z,!Dwn0W=YYsft
Qo|%KSAvC?IOu?Vxz?J4t%>ODM:0;(aqDQf03K>j6=fps;Z!+US;cI?bQ>+>M7OuZMH+;HKx3&f>FdURoJvey&TSPA[J5sJ$>:Be
j=mn<*S3Cvpk[BDO,zW]J1JG[@;~rnUXxh0Na&iVc2jLW@n>Vo~FU<9fes<_I^H@|Rx3G^]%HgEU2lc|X[n=HuTjPjR*|Q@IGvKi
y41N*NLF8o6plFsvL*LBKIzdl[nV3b0F&g5XUBLT_rH<9~dCPXjLSIS7A]z6ZK+t)5Y+@f32AQfa?k?y|uDaU=)3Y;js@CD.aKm<
;T9tMMJzN7GY|AKLnPIhIJOjZ>VLV^G0IVnPaPh,x;%(i]FSww5vU*HUrd)YV|(:Z+xdYk&(Ku(1StLQOBG743dcZL(*2MDrc)AE
Vtw^XhSF,vvdKZu~KV(4;dTpIb?)qh(>|G&;HIY!BZMe]er.!qD.rFFOc^iigb4JC>~~+O6r<7j&TW|F6Hen92B!wiWY%lO(M@t!
5KG[ivMGk$kWqswsJu@A>^L(c9loca1|W1c%^=C4etx4BxpcOH5pNOUS8S&76K@GZFXnDI[>R)*Th+z%BszjoC;x]<wRvPO3pc;c
qwjQW+CNAq0E;5C[okDtqvy+$sQY3$D=8OWs5mug(EVPrWgHdJ$G)c*a6I?M:h><MBGaBr8wrqN1OJuV.O(1hk?*4^8rB_W;eQF=
YzCZ:T<RWQb7x0zBo,Px+AlJnEWK+H,>n%k>MmL7AnXYv*@t:5P9<ZD$Jms[0=<AKKGe*Hy.BdIDrhOtr;FV36u~]qb.$ECO!I4Q
28CMT!;YdZMq0Pt|SgGm=V%<4>D4OIv]J.x+Tw?t9DDGTXD<8>6@%8f3x.4k.OAkMV7Z%j6V9GZB~46Uo(=M<.CX3OMu_r=B5NCy
lHe$+t&xX_yU&HrN:gv|>8caV3BFay@8gkZ_Ims+n_9G+n%j3e4Tjv2z&0N=Pj%Y229<Dh7X:mQPD]QNzVJ|op(7dss7f0c>7Sb_
<&8w.8q9A%3IKPCfEgL@aY9&Obak1fiC.PHrn~e=xV:b(O60Hes6jLTMnkbbk^.mTQHFFc%n~Lpl?<s&&4csiuS,j=qxQ|*Y&Ra|
)Kk~m@=Vc]F)5Z$sdx)<2TOM0ujNmr3g~<@!w+98U7Ka88~NiD.V,n.awDT,h&VPHM,2jI,zSl=6YJv[GXz~L8147,T?n5+%~5%i
oy!pgrpRgLhIAdUbjwL+x212P[[vrV14xZH5>*lJdj@lCzHut9v)O=QHDMqkM_7iuozEG8&C[nr%PU5w8Qyu2j>_p@YAR,|Rou!$
IOua|PUGua6D&Fh%py3p[hGO>kqOsW!muV1vz^|>a@fkMNhxV2KSc<g;s^buNdVny_6lUyFlmrN8+,+U%Qf[>Z5z66&!!aK.~UC|
j%R|)E4CgimIiJSpTQUV$iuF[+1=v4[q+|3]GRS=5z9rdvD|V)&Pe7VOO|n(;PvA5J|E2|Oy|f*k3s=J6?M1iU^7Wfb5[G[[BOp&
pwU04DVDLCtduhVPeSx=MvxF,I5Gbg,U?kQU.|NqQ7W^DGoLgDA]$4@s@:t,,v^:b~A8Mo5q9tebfVhE)kRb,u]Vo4)|K&zf3AuO
KXwWeo?<xqJk8f<MAd:e,kD~XE8I&+4*RVX$jb^)IlUL:J?]*RDEE0I3DBKDO@DjNi1?I=cNxDg2I1UwdzD<hNy?t*bqnkjq|!!J
@zirRI%Omsm)IK~u?k|TyY6CohL=](3kxH8QfR?Ao>uAp|I%S.Ecpsg@9<,*^.lsL^Kwy^<;$qIsF72HTJxjJje3TK@T7Orc&[.O
wPj2q5Awr9cnm_6Ic=mWhI>G+AMA%Pk_N&W7@3=HV^bO3PE>s0Rk8x70Mzk[>1t^T=;q00vC9@?D]q$+~KH+^<^L40RFvH!6>*S6
U.A(OxTc:<20An:(PjaBqXuxH[[U$rtza6G(aP3Jnwz<6A..a1DLh4;Yqn9l~s&QN!d>BSPi0YxTD@iM*7mM244P3kqa2&@T?AQI
In2.GEHJPqZWUO^G(~&Da7,=2nnhGGjnI1>rk[Li!mEM4oJy8pm5_V75)C+nHWC7<]hr@BS~s,4;3tXzIrbB(0hAGjdHz<g*h[fW
:RfMt8(_wdcrq!a0]0=Ou_Ote]tr5Jtl>pdGg__2k$yvT=WoQf=I[it(@++9sRpg(03tkoN25,OERTS%i6Ar>G.gN&.:rUk5ps*U
B2^1sq9BUGt6=hg(4WWw4E2MH&xzE$gF]KdSO&WZE:xZOMlVg@XKN+]F&s]:Fsy=d^pxaG_.9s0GDSu6Io+hsBMs[py1k$,MwqgC
6FzD%HU@Ch_rqp3l@GyAiGWkd%|n5NPkGt!Q00p<<k)[,6QoLEYJs0E;~uf<oxV+a&cADNel<7@EIkv]~W>>1?RyFOzH5ZLM<JJG
5dft(1ibrBb3^p@.Q9<B32t=k4,,VcNyBu3zmTc$G*X%tUK;y3x7hCO*)&)*_b~8]aZU%d+svNA,U415)]qQGD(%7@KvI4Fr%VDe
gIIK%Ru?8PTMN(X9.):xszvBnYuisQ=[I9%!Oy$1CtxN<0Lr%G&D)f!$vURvd.s3brXR2G3N0ImR2SwOgTHg9lbkdKe!6|N2mIf2
:3TVh3~xXNRNY;Ace^r^v68V;d1x;QC~AlfP1|+1Cu=35qZw88aaEIrSwHVM6h(RVXy8JAnn)0*FI$xqtht>L8&1%G^g:@4sF=56
Z>TI0[w)YEa%Wo]iqk!qDStP*AnzBsl96?g$|D!=jl5&&4.&+fBN;YSO]Mz?nA|LzHnrT4iL&Wf;8uU9wf%]C0MCC5yY2R4]gWOI
p9oIzv$Y7KMX(=EOGE]hI1zAQ=6Ztv2pmJ=C4cH_lYU8YW$y<*BQX,O^h9+c<[cT[10tAs,25egIxBfec3rA_Lz7lnNvX?|t^5;o
gr,m^*pZ9hko$?V4r8L&.%yTw7>zf=j5&19k9k$8^4AcD=x>w~@nnF?iwlIcO(E__xO+NJ=P[|L]?J2)&cZcZb4ZC[;;OA)P+?G3
XZv;6PQQsLT*7s=g0ox]P.|bJV<&b;LNC=!h[vpp7VBot6WkMdr3~3$lP(,a!!qwAy_g+twWF9QjSYY^@j=Y4P=re7n<b)9|g!Ty
)31pL[Z)P+99%udQX?fD&0npQYjs.lE)TgqwhMp^Gov?d4<B+g!azQWwYdeZtQ3hPM;VOfdz;4a20yl8fXMY$6.eH=o%nw$gj.:B
^R5i%dOx)QVp_)r&!3l3$%wv1oLS>Lo]1D,[ZH*.ERpWU._!DI7SiIv_nJxAWwDpuIfOgE^FJQj)b$YF7(I4BdSZ,8*=FW&Hrpqk
R[uDQhV4e~fxTXeoOgv@N)ix71Oqur5iHM38hfYRg8jPpt.JrjEu>?BdM2tGns<BVtT&l,K,DQHQscOGG4F%_(gkO^L$||6JuNYC
=6<M3R((U9PI8wy.o|GR;?GFiQ9~_t5L!gjKzXG],<oErMJr_XJ|J.t!k@YfYV&AG&5:_EM1v.E1!h]ZTnMyF27_Bsl3_Pcz(Yn!
H8y,P07M1<Z_,s@X|,+cBLZ1A$g|.ik$>mbOA?!KMbaf;Ux~14pS%0k00+V;LqASU056xx@pS2E]CEoGld2<BkPBV|^$SU)SE%Jw
r8V[%fcoIOd+>pT.!7U__|Dbjc@V=L1uR(L;4XrxCiV%!PH],;Gk0uVi==P)^dCGDs[)5s]vb8~XBi^Ob6!SY_2Gqj<N:[ZWe]0T
|W@UW[Y%]%RC7)f~Pr)QMSj2JEw0|u.NC<=a8s6&]Zxkjs9;Q7!B42EG%V8PX>VoAUU*f%^!XKDkHt+hj.S)GwvZpYn)95^qt;|.
B!7qYj;V6P&CtE]FdtS|dPh>;%r=[OZc,mgPs(3FOu_FHbC~%Y[V)jC)LOin[V(Udm:fRR*Bx%frxXilJJs;9)=O7G^6*:bRA=4%
J7Gs3uT8xrC$bABMf<ZIC|@k7P1t~?N%vMf)dGD+>k2lYeV!5bh%9HYfj7UxvA&eh|PENS41&5I2xxpjU|imomuCdE+??gYfTGz+
$v9JXl_GovA(&zkYrR;GZ!r0Oxs!0kEG~wg!N=ohuDEYdPVC64~!_qiw)RqE<K?xW~tWQSGtv!W6r9A~2Dwdqtiko@<o%e9sw8[g
4[e_KkW]3R+ELdaW9KK_]C4;$8AfL<n9rd?4qPv+HA7gk2|PaES_+c!Ud!3^5d8IdCbM_rrvp:5;@dj%f*]U0IbkuJ2!Z@nPt0|K
u*y5?K9XFvrRJfcqUr+(yBGEFvzSnU%6;3KF]|(m~L~)Nijd|D+=UI*_>6d3v:U.G17j~lu]f<AuNHN~,uQWSB@1Vf7ka1i0_y1D
gXI+^(3IL5fUFD?JCF0Hl=VAOS]<+LbsZ2((BjDWfXR4@bXs[v&@^XNE>&;PHw_MBC=U^k1gN8gh1Zv=hSjEBH)qKAg]orn(J$G+
i3mB2MKfG[(%q_p5@m]]b*A1OpI4D!lL1MlCE?leFBwWWhb@!DH*]Qok=:czkOecE+!9>+lT9n(qJ3;yt$GSUy~2r13J1krl:E1u
*)6<*Stqz&g?CXk$cfKg6]qs9pGPLjz_iLc+K*<5ItAFXw9cHXBlb4mdpOd;YErw_hJ!k$.&yd!pZvS2h&kGtMH<(>.VetGWna,b
@U3u(IsR.awMc]yfOEIXoDKCL?p3:fU2EJ%7O&kVcs[Jc(^<E+aHOZ([^%=d>2twtM08*RA~xr5VRK$rL4%3,>VGvVD.t~gVr.am
24139XBQJ?t1@R~Dx7.*rE11UC^PR[M*lYp=qc7YxwcbLhZa,ERo:,@qHfI4_eHk1d:tAP]kViZ|Ia+GT,*3&j@T9yY)DvWD?=^i
!a6XjmUJ^xX0y+OgXd5^A5P~!=1pr1iuKFFq5LlZLC_E4yk5ZT&oGQkQRKZi&emXDXb,L!Y76q::![(0SKe]g^hi>[N=iSZ1$<sY
sU)XDYUzG06GZIAy1RDL(Ec<42h(5z[AnV,|,sn8Zy1uyApD71SK2U9imC!&%SRngp*4J^f2mQBSc(h^DPTgc7x&:3]ug!4cP%[+
sTeK>@7M.u.QXXjjQ&|k4JEJ1~.tT5S6:7]dG=lsBvtZ6U!<t1UB&fKNHSic)K0J[bDLDZ52NHlOi59cc,PgGPdr?BC_YfgTHh>b
S@MO0[@=~5H&s$**bYkl&e.:aVnk^>Yi;z(~7L^jFkPoiqVk36OEd[*EQ&cpz?f%xf&()xV>rSvwpxyHgw^[fWdmYN>Felpy|Qkw
Xng+&UuM3xJj%jvMbnia$d_c9T@|2?BEkR,>PsS&sWV+QZC<4BW86HgqRrA0rFs.+RE,[>4K!>e~E0oYCa,SzikYT_T(Eyv(x=:|
+nt+j)Fc!gzSPsCa=&G;i<1H&zz2xfICU)H^Zk8y)FzWH&9^_NHy.un^%EfU]CkE;iE5Y@218X]b@3Fc~KU9r?yXjY,7qzZb!clO
uML0JOEQs+>s|v)7eDsBWGN&0MJlwfu1|F_~r1+[|_Ztb~fYw$1^8i<fFRrXy=&:cI>,*M5.g_nB+gQAxhOg|lZ*zIg..GJKdGb.
Zvx7[9|?=14)z)6EHve,k.4=^nNd!Ts5b&;bEYHI6Ic)=tMX=1:+*D2,Fh+O<Yjw<vA?:QIGM5I]IbdWz^W9x!LD.lMNm7]TyBx_
%9MkyCoPiHngM9&WpzhGklgvr&4JhBvBnm,HTM~rAVmNLv46,ANGg[[h7~RbOI+lQkMGvel9odlst8)cYiqX!@Uu~WQ85e%ju>G]
;!=Rq%12u5bpD=2!;H9l!Krgtze83iNQ@ZDLGI0cynhOPEKcjiQ=~^z%9ki62Z&I>>b0T)@Ml4rbby?n=A[oYU40d6HM.t&|0b^w
&]dVg1ITF*>Yw$2]m5f4m$s<m3z5b&u.[N2AUfstEo7<IIQrb.bxg|Z9~1vRT.U!DofqhZE&,HS:&^xUFryl]d;8pVHfHU8p1nLY
LHYDK18c>2]v,pdH4z+S_]A;xi3857&P9xb,Nx)3ge:?Gu7A6S_Y0nZlchik<?I4zML)2tw;DoF(L!oZCdnCAqnzdRG*Q0JM>xZ7
%r*m=&Nx;KLs7e0UIgflJYdt+CB9tci%pwLqfCPdv>D>?1nZ1yy07Wrq8T=>$:D>Vg197@q;TdL|75qnp?*fysO)e@Mx^UN|t%g@
n4Y]AyYf!j0!W]i*Id$?c?.?Na;d=7Olk3k?9l+EZnG2C_^$kfKlK[%EMn]FLwClPnXqvmElu5F=uYs|*d!?F33V9i2LF@qs*|c5
RM?mpDYhlmjtD1Vs_1cQ7k_.y<$[b+^@@?w3Bg^[ci97JCNpLjqz5V~3CpqGr,T[1A<w*z?un1,k.B|pmyN&unh[(@hW?z*1Mu^P
IRi7O!>*&vx,+VjLl4jSQXL*XZxw1qfYs(!yKXD>%^3?iiK3jL:]|Nx42(nR%=TJ$,orPi:+$ece[19E9T7T0i*cZ?FvSg<M;g|m
pRI9~A0JVAI;cpsVGQaHhSu:BG&fJM=1eL.(6CoLM@g4ytYj%_wShz42@XFF?>boW2ET(d_uJ4,gz|M9bEr3M_Aw~$?k0)&txkxk
hD_;MjyeghC4q:;oqskK?ONWlzW&!A0d+gJ,2mBN]_(SteE.+XbUHD6iM|!!!!!!!!!!JK*K%u]o[zuz!kY*9BAh(OxvH~(x$9nG
)*(?>o+,@7>kNX%+)UW<mj19v(GEO[f=.(~(7a%&Yhnul<=~Gb6K6AnU]9$e)b4aE$j0EjjK?xqH@PX!|ImRd<a0>eM4az[bO9Hg
~$GsNpQj8^B%o+8jyz&2V!(pac6:,r54p,Kvo+x]WfUAZTq9zqYn79:dI191$+)^du7G]RQYP(6I?oM+7jw>gup&<hGrFfPk[Tco
YjP<~KW$3:uuczLhzup?)ME!WI>q&)lne*F.R__cJ;Z*zEveh_:~O=$f|)3gk58rK+9U|Fuc72Y%[ZgE%@DHf%sfWY1ei?f|]s4b
pH8QNHr;F_yMY4<ok%Ex~cLy8FgpMM|<~u>]xzgztdiSx?Za4aj%pr=!nW:?4,17OwfJNazR)Vw2RdBK6F|vAIW(b!b3BTtmW|gI
9!b?hN0W12VX8T)]Ia%YqZFGT6sg|:|+GXUeStwwmM.3t:;JWRUW)~bg3~3elv4TVYpzihPr5o1vCJ.IKMiksd[bznDIC5*kiWP4
.Hu)A>KBUe?gP~9MH;pdLTc@P!!!$5C,&N!!!!$=:G5TuMXuW]&Bq3CQBFY~c49U[hG7?m^JC,Ub^q*KiO>;=[ciLQ$J<Z$gR6DO
KF9aBet^RP!EncjDReX7^2s,(r%1QhcluY%F&?1^Yg|YV&smvnuAZ:NB^OT,<n0ZWjetJ,*;Xu|iY_*HMyoY0tQgVB^&.0K0VA.t
+JR4Q,lMWBGUg>j,9hipsaMbKYk8bsl;62o+h3Q@34|WSBwJbM)kaK|Fg$z.%&au:](QI%04U$qa^Df=If6O3B,;rmj.L=wk_@Rx
WLLcB[|X&+[=mD=4F+n|c|Yol[,%[O+S7N(Ba9>_]Soavc!BMISvGv_DEGNrjnqkhPmx4PlsuAKOCo;YR@GN|0zIqJgdI[YVC=<O
xl^jR6xGnY@2ylBY,Tixcg)Ti+sP20dni7]*^ySTQyVz,]]LFNud>r<_Do<z;Z;K2P2.87=eI(1@|<yEeO!!r&BMTVRcqqy20xIe
cJM~hK+Z$7f>O$Iz:@|l]([%3h:RV!dW2SFu;viBf:bWXF;[1d%>JxwcO$$Qqigx_Qu2sC;iA5SriIa0NoiSqruqz3y]wY&kIEMj
=2TqkQ>V5m4>psziG7xG+.j]+|vk>?w~zNQ3E(ve4ec][]jwC2Y&6D1;>B8b,R__+&;AFxb,45MmK[an>1!&]U*EYlV)<j@5__rm
2jDefD@q@<R7z7EL?kyG2*W&7VbJnOAk$OAcr2OZ*cdc;v<_z;+;!PGMV:O|5)%~0_,kJuz|ctXAPkNYw9di]GvQt;C,4WhF(nCx
]k2CKYkKa35|.^bUw.OjX0Vi2.hON|s5&VuVnpY_;GHAQRX~DB[[x1IVRlUHxxHpiu|&TuDeyB7Hg<l>dM?~9%S5Z.[g=ml14Mj(
[0*WOd@PH_c(9EUZQ|KtIiYA;~Xy(>$9,U+BL1wVqLbN)EH2pNI.KuKUwOT4fnO%Fj<PdT*C@[p;I:EpCG|Jq^Z7wHQm%_NjEM+]
86AO8+;US.!3ql865EQAyo:)(Q9Yz.<hR30]WW59;p[qm3tahY,hNiaW>SsT8CxJZ*M.40Qplovqh%Jry+$5;~bWQM2Z?p|6iUC.
e?lUM>dex3>k+~]MiPAA4vUnD|^X_DS7]?F79I(1$6P)XUw+=o?9FCba(VAVJSksyp;>U4*6YLS5V<e%h:x3q_+,BzamF.Nwh$6r
[p;Ytt9|(m$N]aIY>Y:gu26gx6UtaGqmZ_C(L9flYf$5X0Ns!I434FYTpvUQb^zE2vyS3yaaUlowJhO*atAv.e+$zR>CG|v?i336
3>QwgFfK$0G0F9V?Jn]4@DmgBYIfM2@45=m|8z?PIC9xcC3J@.m%7kI!BOb7(?rJhDd+pK;B00p;%~NOaP<4cls9RsGaL_,A(xrA
dh^0%C6Z[o2!::~q*Witg~DUCQC:k)$<bDi=BLnTlVq5EZ*^sFDt$7o%s~Ipim2tP.3ZLk@+46qdU<4Hy4nR97iX6P%cC1O.IgJV
*AM7)5A3r?^O+E8S>V2g.z12ZNWWk*]*+2.qi=6rfPQkOkS2lsh4;nEOv??z3od^w_QTt3H)rTN&KUcO?(g3boRif;..VEr)eyFW
L&X!lQA2.Y$=r,?HSK92(YtdS]pCbito~CQx$EjBlT.1@vCRk1SRkC;TimC7uZ6MHu72*5y,hQHbE,v=i1,OsNB3m+3&tPvo1]vK
OAhX?ZU^V.Z;v]nn>B34!qw!>wBX~v8z~7wXfB9TDw,fkp%y[u^Fj<X|zIg[1n[u(8C.^>?7F]X^KyQo*n]aYEgVSAP]+K*nfV_6
<*vVgal,4M>B)N1MGannT9kw9!a8sikjJp0TMCeKdl6IGEbm)v,G^ahK+I_m[MG=My[jRuelG,j>7xWsNXDdusOf^=jt:X=p*dnl
3IE%:uivX75%dL]p;<G2F!Gg5WR$M8Wbc1GFKy>wV%,!ePZQcVI>D5&MX=+I$Ze]MoW6sw~9e$$r9(m)(41>*]=HbZyjJ%z.)rv:
J[jTki1hvyuMUu6@VrWVC[&|XO)@wO12xv[oV+~1=0(&ZmF_Q08rVh|nURGlNOn2OI>fEoWPB.TfmKx~gh!mOGWTvA*b7ZN_@]8U
?!juovut.|ud2d)1QIw|fE~HOd)1FGO4*+O+B;l,2IUcD+MRL?Kc7XW8nj;18Hv2IzVq&69se$a[5MPJSd&a36a36vD=UWt$4b]>
GBD|vOTV]4&muea.Ab=wZI8888g%O$w$DaAWyl.d]1*=8hG^G&W^>6prR@MM?hNpq&u+h9&6wiBvDqu3v4od+yZ4NH>e7*+:rX!;
G2_IR[TPA.+V+MZWiRf^|^U(C$PQCa?gaq2f,WI@[kqHtifWcThP>Lm$&1cNRm:^hD<[AMIu_[^o)c=,qiNOuMA1Qxe<63P;01AG
7SnsB(,bs0<D9XF^H$7bjuBK_x^PpV|9[D8+1*y;3,G]rCs:@!Li4K$^BC!!!!"⟩

end ExtensionAudit.Text
