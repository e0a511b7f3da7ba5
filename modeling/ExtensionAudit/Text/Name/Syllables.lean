import ExtensionAudit.Text.Name.Run

/-!
# Names: more scripts

The names of the scripts from U+1000 to U+1FFF.
-/

namespace ExtensionAudit.Text

/-- The names from U+1000 to U+1FFF. -/
def syllableNames : NameRun :=
  ⟨0x1000, 31649, "gTClOenvyCiu<^jgd<de22j8tuGnv^1U=%in.S_1&4QI][aaO%dN@_E0k,DJxNguxR&)Yqd,&ZZ);JZe=
j]![sFtGLiDNAl5+99,9o]T~SgN09fz,Xy]h_x_7MPvffjp[vk[JOexPZ,m:,7)k8c6RGjG&?CjjKl>jnZHok[6LhKBT85m6JP5B
[K!3NY0)YT7^=5jP>L!~!4d4WQ|aTnKYy2URj,w=4|sKI^QiXQUt8n+fiw:z+&QY^8|oCgAS579kmEj!9H]@Og23Ey$~xgXo)9:j
F&k@boP9Y5b:VPbX,BrkZ$jTkr^1=x*oSbKf3<|?5t*3RUZrV*F9AA4nuvxLdOpTMOs+Nbc[Lbwl,xk6l$KU+is:&TAb(t_Q$@QW
0p5fsS4m^:]~K)+a]P&k7FTEE.bAi@skHohl,wG5O.jWZw3AytrB7@eMN*?wy8L>Q0A4Lv6x$NIM~B$Gl|*Fd7V9nWPzn_A~rGIh
+:|9?u88?.Xl+=5]fG3&P[nJ^&PQ[E^aT)>ZUDTqs*C%kfsYR~E%l;KBM+n!1$K*fUe@=oBIr5gYhTtJW>3=W9ieqDZzhFZsNm=<
9G7z3sFPeB*irmk;*sz?3g5^[E>u;e(Rz<:hFw(=LT[$sO3;kN14!N.R@Yzy06ha<Ts:6$zE7XT0QjzLfCX<62)OY:xW;vl)zH%,
i|z>l[yhtmkYBiop6|B4td:DFjMM;eVdU<)7JU,>W=m8g^)FWMtC:Lcg?,7sKdG%UTw.L:<Z*=N:ehwYbwTC74LJ%&%%Z23ge;$]
MOHkiIe7mmOSU(WyO^i![|ks%Vur7UYn(US.vVa)RZh|]fM++kYf_6irDdgn!)B0AyZ*qne.HPnZ&U8Q93U<QW=7U~wBy5QGhj9,
507TxMjbeCJ*2<0*g0RP2:nRzY2>yU3d(4lJw9pZ(ApIkYPt(4)Hr<tob,D?Q~Pp+TyqQW9t_cJfWk^8[V+k+hNZx:k6zedkUm!P
_pFKDr[R**2sMA|VR[@j~I6Ta.>[lg@c4ff4e(E(%A!8b;!]kK(~Zga|oL%K11u709)s%1J8a1JUi]h%Jn1=ivv?ISCWZcynO;:4
dR=;biaBW8Z&!)z;pnUIeJqF&EyS.[M*H=8pcU%V(ZBtI!2Qc@VAXhl>!krj!(5|D1fm6;U~p_j:9d]!.?J4ZwJ9$gV)?rea|R4G
^|IS.vkgTlmvJDZOy&qa7qKqnPbBZ(FH1S_]?:b&l3zmf5Dn61~wGfCLMGHR%|*?&d;=%76RDczQxbxHV9Mu.UMB6]>3_:wR:LnL
MRve9:RWpFVY^OuK?>Y=$o%H1qiqg[>i+>|*N(qVeZC]ys;]b46U$~fzJ(E$tb8T!U%5K!ee)Sh&5|G.Dfm8F2lUq.m;nk&olydF
i:6EYG0~xmu^A|_c=*,r?Fr&Xe3dE+b]f^hD.GW(xN|s(nKR:@<TD.paVeq$a+:VGr.M=ppWzy|6HinxS*XzWCcA;|Y~te0W*k.$
(%ya*3Gw)?|y>Nc(,^=R7ZFSRtY+muL%VLwcG)ypJ%LbF,kp0vkWF3dc.I&Gm|~OaTij]Gy:~DH0Gn7]oA[zP;!5uPfsVZC+HeGN
|!lDxjl>lbUI,RBkR6NjPCyc9hTWc@^&R?MRIyrY?UnlTQ~($G&A$pF82CmhA[))@TcO,DVX6q~W!B8EubHn)LQrTX0%v<|.a&9l
B8gbC)j4SMZO:x4wCgXshHxalY1e!,bDRg0i6j_VOzK|~Nggut^80mLfs3iMT96bRAbqF,[*CJ]MRqu&Wt[R]W*.Y$<a>:y7<3G0
v2V|MqVU)RASO+vl=dv^U8_&(%.XO9xU;~XddoX].vz?9gRl33EZ@X12L&vd0HaVOSZvlV.);@zfr90qr7lE8zjf%fcbi%sObh5x
3*QHV_,0QgXjo_Un$6nU+]2aD]l*;WIuHtQybcTTFQfYF@=VelzfqP=(V|,oFYk&n::7jI()a+l;v!czO*>b>agZA>?fM8:thX+8
8F@dRrW;%?pQ%T?jiaXrPA^u5I]t6HI_lAiqgt33q<G<)N>I8:Avy>o]V]Y1wT79ScUFZ?nKX,p&LVmdsL7uQhP92$[o@1w<a!F@
pd2RYS_:~=d~nOFCXy(|ajhVXVV6F;!.G]9LgfTFNJFqO2A>FTjO.u|s<y,&xcvm,~r<W.&&5tnPq%.ND>|^X2+~quCB=_cyPlTt
wOi,)C[QK_HS|ZT[J0EFJ_r.^?41f@l7f:!!.J)><OzkvZhtT+$OBP.Q2^mH5KS@ySbJxJgiiGXXIq9F~F!,f<>sf0=7,>T]MGqu
xiClsyhj7+fdGe4Bx<FBMT8I%UEeM6G2l:u0M2uZ&!|.9*8UlJrhH1B:)Dsngk)!YeCXZE.m5%zl!puth;UJO,pvBlth]F%Q%SMm
=tr*o;wF?m6w,nfzV1t:+qyDN9gYOY_y_)2c]AkgEpV66[D]=)!%H$e.IDXsfKrYGYYQY[oOP[(a+Y%Aq$8km4!9]mDhnRPp=t67
_&YlZT@Ny|zoiK0scL2d_V=h4%7Hk%WC]isL!(DLiHjlvsQ;4lNcxZ_VDN^K^DC7*F,h>fWN*Z[MYPQ0E,CZU2~:)]UJmo)gY+Ku
ySFo;qK_1:dDT;*;,2JmxiAUU_pR[?[^u+DJSK@~*ILq6bHGS!clC!%:Av<>Tv7_4rA8I@xm,R<q1Ezk$LkB(~sKB!<%Z@I[OVjn
RdLq9p4T7a&Eq|q1IuliTKuChL4sRVIKZmjnK:t~3]6*L&EE;aL2kiKTpgIc]pg~,D;,=my(B>97h(rbT&O!,Pm~m7E_f[fgfC@U
USnbkPN735w~>69)S2Xw.bVyejYQUjTe1UVE25DRcuHt?_UQ;Eqbi%(SQUP!G|@aZVv^SmXIao.fd:U:w9)GYxrRo_]yQZt>P.4,
z(u^CrA@rlNMZO7]2X9H:k>.M|PN0YebFWM6)bQrL)f>_)PVUUBm%8Jr~l,a>k(9GGHc[N!lMO]iF9LId9?7Kjh$_?CUk^,g3bwh
ypuK7NAhIHjvL&hZ@T7O=,LaXU2~Qd3:oP_%jAkvZTg0yF?L(C3?Q~I,iz1OD<3|Y5M>TytEanN1D(KG_A97>xt|ns!dXU9zHV88
G~pmn%RVgg$hPSq%2p<^cc]O8kFMY>~k)R*+9_.Nh.B?=Yl(|IuEd<Zs)iA*vrajzymRTFa|Ic?!&WZx(Z?o>8rbaqR[R3kEBE5H
:LFm09e4,Hca!gEnWT1:z>=qn?*iY?B+[W?Q*cg&LC5l5!_!^YV_lC>!whyHQO~$&+rM?+PiYWuaq0z55c;$J~Sr~39sw$&JN82r
dY>hI61*X:OWiZ_i72EzR7ib1s_MLo!J_ScB+LC$ZLa?ESJk&k+TK02;z&Th>Sv|*p5HI0(W~t0xb9~;BU|ait[q7O^ZS_[~nPG8
!>AV]w:RPR;OrBh6AEv0gj(aRC(V!B$sZJ8BJgqAnY|fA0yGM;f?EQLA?nle;vBk(u(pQj,sFyA>vcFSqq1NUYI?<3F&uoI4*&@Q
;;2f+69U6J9,[i+].H@Fl]&)Wb!+lJ%|1;_CYQ_+M_0HbMik]kZ6ut)6nioMi+7k6YaP*;kWy0mSloMd^1F%5mDj1(5eSgK.&~md
<K8GQp;YZ2T_M^&sy%VM~?FOKInDk<0t@p4H~x0F?0NXF1p7dO!PfhGuvx%Nviee!o(YSVi?.ys]uDzAKC9PW=dQXdgQbs48uede
VPONS6oq]C)SWBYG$<M92:Y6RdHEaS|6wR%UqX*^A3j?JUmPeYgeB(_9MN4iHK;E%vUNlYd_Fd0!ANl:.=j.?3T>kVjCZ6&$6*g=
7b~ONQNun?q?nO[IKrr$nTOl&qcMm<0u_C_In)9!@VAVUc;oX]Qd7At=B3I%o$:|>b%Pu_kRHqY+mnc%6=[IF@Adh2w[5wnfSEr)
XgQ5RA,)c%?uruW0a%Hf>.3lcLTa(<.xYi9!)R;izXdcU3bho_K6Zzz+,llV<j<Y8jYD)V$yp;,nM7XT$BDrNRNZ81[ckCEY:lVl
d,HlN%:!hH!r8y(^M)d|pmglN*c+2%)XE2ULayJ|z*EDl?[aF%9_7T+@U_fEwq53N?rm|>FRPNkIOCQc~2hq&Fg^D17!:g+K%XbN
Q<_Eg[%(*JoSISiAuU0sPI*=8Sy?>iSutvc_Humi=Wybwjvwm[;Q36|NFu$3ByB[$awZ*)tUG%Qz>D$Hx<H[jlCU&=Q=x|!xLhn|
D39~jsSu[jZaq,zTJwIa<!ztAS,0(y3QTZ!h5_dWlDx1[SunQKWP:lKB?|X($E$ug$&oaq:zm97@;rn^K%Iy7j=QKI),UqwR>gUs
*QWPXDgK;aXcXy@4^LkP5UlA@N&|PLO0^z=fDOqSEF3v6K%Xv@c_iiG$pMm&Y$DsK.HBXg7C>eMjSVP04aQushR1Vj.SNkls8vP3
[Qs;W[z0U^D8c=G1@>g8&@JFe86x@_,jEGo&6^6:9POZPJlMKI3%u|SC[.gJk7:=$zGemAwZq(^0l^DXM_IBP!R4b]]p39beIf)H
?@=QNpUoL$&A>|vWCwakYfrz@z37)OXrJ>w(eCd5&<SXB^q;X[uc(!r$do1+Sw!RlKn0[Y~7NXA+.^<X:x!s7DbWy^Ff5jW;(0O(
]^@ZB@+m1I*k;.bJ0U^2,qp*RL6GBj5N6[c]:8c4tzmo78~EOX*q3.1L.[EG=&5^|ONH9&chagj:$,uN9psp4[(7dC5mZEj,qoAA
@>2!C4xeb.gihk!X[GpCsH1EFy.3)t!:8?&Jw.r+HL>u:[=0j.;h>JLbzZ^L=w8o(@8l0to9~;fz,@!@&_vbF(mZ|!B@lmzGa~&n
mF:?,1Hv4eEC|uf>^ee0vtf,FqC@&SPKl9+4lgaNdAD9.t7JzreEEN3G5dgv*c4RW:<7rv)kAoe48G%)D?W>ZigMwfBLe^cu:@gf
]@chEslwKL~Iqa6]cTAcrb77hJz*0Uz@)*4ljvt)68L]D9%v_vLT(@EUFwK%gjyTtmn~TQA.y<uX1Kg;n2Msi]W0K3@ypbRM:!6T
Z]vY*COgKZsKV:P6e6~..YkYa^Ti+<eFMbn:[~]oMTPnDaGzS$:&i.V_(0>zy9G54()6fzi)+lo~wg$XL3@j;oz>W4BGvfGkjS8S
xdt_xz@arXjZgWXY6BdkiT1%mEvP:>N)NmLO|>HS^NL>6mlUw)h[3n2[XAvhoggKL44wi&kDlIqT&jVgqu+l)o1F[xT(aXjqb4_f
J=io4+Ym6KTO&=6*1l38co4A*]&HhRlmFaVI%(][w9UJK+3f3?UXzSj!ouLQ&t2OPMc$aeLbndy59*sXIKgqzZPhEC+Ry%c%<VVg
BrxurLt)<PKQq1GuB2=Z1W.e*2h^rR0M=?X.%w6iGtjkle6x_?<%X!5:z59kaFQUSEc.C6I~f:aX3c*fNFY3(Fr2Zl%ei$SOk$6I
B&V^hWfX0b*!sUcp2+UO.*!9z~6;9R|XbZP1U,NapoKO9b[:Y_Y[HTt5a5PL9h(e;.XUq!6?@bdY^hTzc:SYxd(v2fryVE,YrTA|
+QPUL_ZeW*u^gMH3u$VX+m|tMZG!oYqD?f;Aq^6pUe@K0p)XVG:rwL&RQ1KiNo(qAzS5!eOo*isGCVQ:tKMdL:f[2ghxkQghNcik
8Hug.o~c.VJh?PkZfOcTD&^WB]IW,;Y)tsaV?f;d$M)GL9aNtL7:Xaxft,wQ%I&&1WGh0)%R6wF?S]4~xLOj|v1A+qVplMjv%;9d
1Eh$ARJR5rop4$]$qg71KH+8&RVy*p.Rgw1nc$f5|fq.Y=0J5Kmn?WJArlz*&U=T5]:*LY5=B%X<s23t0rB.5whWSuxaZ%7Z,=,Y
w<9^R8VggWlr5@zc^d8.eX7~PH2h|1TP|v=x<;gX3vcHx.zXfDu(:y(7rXAnR_KSI9XvQnS!&SyTri~Jy<CEq6Jk2,vUaHPaZa)S
BC(~GLco&oB@iPMNf51nCjerlO=N~v:Iu~!GRrEqJ[cuNRgJJCccOC*@0ELJZfT:c6D]UTPbZ~R_<o^?_zdEBJup!LI5IpYQ&D*r
_1+I0I)J;4Cj!xCxqpM9C:aev!G3m7Iid;uGa&Fk]%N(Kqh|<VeXQx8xP!v;_tSnz(8+WGzJCqUg@b%o@sC=,qx5jmcNNy2g[*e,
!G3w<5Kqz;<:~r3T6gV0,pne.@uL2.0jmC;A2C,4h)n793t|o?Vbd&wD*Qj^q<$EQqCSQb3Hpo0&Q[pRxqRxlLwtn]I)iXMOSJ]K
YB5)d,^;y]ra)4?d:m6!x,tI0BLlR?*BWnb!G_+P<^HLh~eIxSbfFG<vW_UW!zC)<3nb7qFTvcJ1;@fV@:t=,eppP(v5<ooMFAn*
je?m56gCUGX3c<@mn)>e52p>Fo21(~81$vP|19:h7l73mz?O9@(S,NImmnD(QKhSf8rWX*5q?:EEAE:rYCs;HHT!hk:2YzJRHHm<
0PFAkD?hu04:aXETPwPr_rq_,l%_U,PW@lPmDaH9+g[<J0bjdhDa?:~7IWzF>t(Ejv7>(*HC>ZTQ^%JqZlt:Hs?uaFaBssb7iB,D
><llE?izRW&fX),2anD@!<zkbIF897bD9cP$xjd;X4Dw=B&mzuCThhj9e7_xo=elw34ehr,$qCOBSU3C,P&<d3]ozs!n!C6adWu%
NQl~Itshe<QZpV2;,G!dKsk,110SZ<!v85AOt41>|OpzWxPFVSRK^uqd4%23NK:J*:yAX[,oLa~Q8>st[JxY$3@x:9KIP4<Bn@$C
_?fY|5g3Z$LNN9]8P!rK@N5m@lx3T&G?ct<Gwh8hFP%r@Ym]sdrUY0!~UlP@.zQAM^fFC>.~VpgLRMn+tMWU+T22c<n6nuPhu>oK
1Zytvi[@hGTKrl2)4ZKQoSQzn+9[@p@E(V+q_AY?^Z?FW_X?P0][C61<29)1P60P0[sHbMD.k0z?Piivh<.S^4nDF)MP[u<6_Qdy
(yi]Kh?Ff6h2$gqX0;sF;,7F0B*BHs2s5iZew;@SQmZXY.JVsWuIupM0)ur+>pgzcenbzAfT1kZeWC,~xr[KQ^L~Ks(|m:JLBE<1
],1nc+Aof!5?F7_v8euQF&HJn1]^WgB[v|!~Q~*!YZ!AT?eH3;h=>g[uTz.H6slQx^btS!kY*Y,OQ%B7ulwknI,pblw(fgH3Bb&b
n,72Xrv>;2_INjsH&N=eW07yic!t_$rZtJ$,W0)2$L>s_IFETliE4r62e1_v1!8?.gBQCszpVDLRbv8TZ%IvkQnkv0mfk5R@s_AN
K^;Z$SF+_!X;;oVe,Iiv1Gk&eiugj3oB_2ybQM,Nb!?|en)$;0wK!Z]vC~~fQal4f?DU$taI%)7Lj;=tVzXN;)_P8<bk3o_,<V*f
sPg4xtWQ4<kct5i9x_QN4x%zN8(L0?S[*LjR6;m?cW|mgg7I^q=TNaC:$mc&ykV;e:4JFr6wEhowyG?k9%)K$ZO.QmY+G9=.tc0G
$W0i[yVL@*_]hW=.>h?T7oBq%;ynQ[&PbdD2S>MneJB?ABEJF,M3t$hQO8StfU7%^&&|eyxQFNX.dQW>5)0WJ&W&gB&:UOr&+.++
InS=)9N_h@5cXRIuq|rmk*P)9w;h=QNN0Rrp)~]U@_W)rLl[9J>r4yb%xn2X[8Bk4UCIvw6<(BEe,MGzYHdZF:Z_jDMy_=Y^7ri]
D$9SJFbL[U6G]t7CL<[r]yLpvK+z?eqES_%pDB6m]c*:RFu3Be,>SNdj%0!M]t8%aFD$6?n@dH<dC@k)F2nOYLRUhDbedzr(AIy)
%ZHFCRVEWbR;(mE_.xw[vC4q5vF.Lp^lT4@g6FK4y1hNnS22xAJHy7XCLTMbFEdwgYCiccSc3O4D~JF>*@@~w.Ua3NZx8a4RBr([
coD%|sVss4X2c>8;X>6,u*|cpYEQJ!K!Hix[U!0_24P^uTLqC0&=L*g^r]EQf5C!X]bI^@=DajU:,Fuf5Ha>6Bt]Z$1m((.0~K.X
v8P6)2>DlQa@m7yN@>9%ewtc]l>7Mk0&O,C+jweo%FQ8?u$:[rq?>*L$V94Qw^h2VvwTHk<]^.i);>(x*)ES7mo1Z)J27a?Eks0]
FdmPZFsQii=erOrX~KKB<|Hei%M%auYB^|FJ^<r6_cDOC>d,Q,_.mM%MeN8!NM_~i.hT|C>dhvz)57y8&Zg+b2)PCj~s=YjWnBjZ
A2[wehpK7fFJhbfj:FE_8(I:b|nJb19X9MwFPFM?@9qbjJkdsu>EBy9Dx^?E&HoonygGC^l5NHk0bG_aw$vJZU(bH~0hL>X~f,qM
wv%IMnT>?DD[!B]y7Q%_N>=ZoN0lvG$+i@y!=LX:A:3*Xn:_smz2en*7o+Hi?(K.b@ulYLabT?z(Zg6G2a47(!;x+qe9y]>LPLe(
zy7@ktB,P|Ndo?cln%]OA_?is&yB~g%aU1fpQj5$8[<ODMW8<OWB=T7e<^qN;,[muL1h!4wOgnx~i5[6@exZSi^,2Kk%JUTCZ:h]
@41(WSK^oR<,ll|^EP@cG>nnw5yv6ab<lQbr0.)V)UQ,ZF~_*2HZH%vUZa(yL;?M;Wghs.]QJd<VE:K@Wx9e5jM.Q*usvldv$hyT
Kil<bQ;VQJoq>IJ22Ce^LO$8XHvTh@~t^iBV<[yg*T?J3|tISFF=Kr0&JJ.X5w$EIyF,Q*urn&.4J*Sq0_0MMOx!TM5vfu%|tN(.
)c|y04TFAoV6FXhe?>R=VsE9VexQ|n;>yM>j_SJ9M*M>o[e;OZ88=w~E&9dysl]?1apkkKlBn1*8Y^K$6*SUNUE]EJ@HLb2$6Gmz
:zmb!O=iyR2u3x~%oTcduj(Q~^K=sG1qJ5N7ohy6CpC>I^6klC5)A.e+PK2YjKS>]TwYB9Q*E9on@a@DZmB(U;D9Lu1ssumn_7gJ
=j|SX+PPCM4!@DC$J.P3X4|q>wpmWDwwRz0KHSAqVm18R26vr%cT1epgf[3|K)V$l%y6[Szh^H!PEQ]JG4K!d]=5|5%T!EY>jN<g
%1sTg,XbsUaTCrc1)AfSY$dh2+bWABwG:7y&AEwi6[8T?t*(aRg=t)A4cKI__~;bjIfoYi3@OW)yZ((p$1H!g^MaS)HfOCGF3>SO
:<RS.)IKGn44^e=SatBQRQVUyTmH8TD%b;TCaP0Br:3)b8+G=C=uN()8f(6nqX$20tyYtbl*_P,DAvc%&Lf!1ayW17aD(0:S7]PQ
JAj]IUeLI]5wloCP~!Xv(|Rg0LQN==T<or..u36zOP]X<LHXe3Y$y_8xFqP)KnxH1NWjfwCPNCO65r_RR>Km;PARib1,a;b_O2Al
7=+H8X)4YE.NHKZ2:$f<n%2KtVFj!Cj796@GaMEE@qgFM!gdAjP!JAE!M_j6!j0C<lMkPW5fB@J)%myXYh&j_wI(*VzULHNg_5GH
Pur2CC>Wthphuaxg:[FWIT5B22[Vbl*O.2ey4>PW~4YBBPJoc+4irUl^lKD7o@7;GR5~<GOcqCWzhWBYwpgEmTfaHTm]JitOpmO<
bpWBD$]IEnel8MQ%f4BVz_OHh1OnA.F>LiFo;t9L!L1CJwdoDf6GI5mwxssmo0VwmnOTv3_(AQ^)gPPtd!^0f4dMp13tZpUcFJ1:
6M<7o*b=%lm5pO[m!sP.(Ur4qh>X6kkJM5Lm+wwD&7pPXp%baLI2OSVeoi6$xYp<K|@:It:by|iKCSx>Hj?mLU_19RRYgb?!A4m<
kjOM&b973z_=($i&3?==z2=J+u12bHcZ]F~nR:9i?C~LgCWia6X*5m>2Lq0sT5qvA.A7)oLbX1QpB$W$c^CnUXFARJQk9*TpVq0N
BF3dM3(4M!>V<[zBCR?I(NWemXGMWn8Z5e=t2xt7R:u=3xaN:eI=b$2RF_5(rFP8G3sl3q~C;odSsox8ri@m8x8J(_;2?EoO;mY[
?&j0dBcXy8,0mNSsf(]Ph6K4[eDBy&uaM|ri8.d+$f$RWKQRqkVId~CcnENKaSFo>AV=6q+N96p%&F&u8dB:*S1C=<u?1P&AhHGK
Gly[>8aG2FCY*NUl)<XR!MA4DRH~>g8QY3jXOdfa[=U2G4(c%bBAz$rgb<,rjg]%D9$(oxvZ(w5R)*vbGN9ZBA~r[Cu*%J3Jk9b@
qL(dZY)5TkdXN.MMc^KI:[BdebD0]:DrcEvvf_)dm,g<O<6qwoi%ip$@v5(vE5mHWz8OSW_W4fMdDPX)C.6yY,oB!d5*8+%q7KJw
uyS1~ZPk^H.DOpX7UlHqOj3br.mW.1oiT<4h]SbFf8mls:tc<hox4%0TU.pq%Z?yV<O<s.,WpKwKuL<J3N3QKc]B2&2sH]dAru[[
B)NQTXJrw?Ks)8_zoqmJd^(*RiMsf.iS<;<>hU7B:yI!q)CyA]_8qOH~tB1<%LjKavou;<7KH^GI@St[FS9T)^BWamQh_tH8B^Do
k7pGRw<nVs*htl)?L|K*aO]x1TAAu~i^KMV&Tx>8P+@(nR[9g1&zWO_ZFj!hhqMQWCEsZC7$OOTjwP!FPF1*G7!~Q8v+oE2Uf0JU
WGaapvu.E6Nhpy+9ZT2cBumxLep9x=q%trT3(hjN)VVf)Oj>0[F[amJ><>Iy7C]_LF5g2hA6?*F[.&~estzZ&Im!BdV?id$.F3N2
je788E^0e$z!P]iUDoUk;GAY?Ty<PX3CUBS%SEc^B%;y0?6EW^2%[Krzy[KL=_qp&a7_0jkYRG&;D,Z!%bhP8k=y2T^;h!A2^)~0
,dkCe4PqEv_S|,hMj;qkxnI^pc3!wop_P[5k.[]8=@tPsZK2_I[QRe1^>ZDLRcbYcMA^uuZqhcr4=Oa(%N<bZB(Zw~sHBKPI^k1r
+:[KO|Q6*j^~7Ai(8=CiM<y3[^@lDn~fs9NmlDd_~2p&V2$Jk$l=_4w5I1qjwwvT[5^0=^cxiCPNPMrt9UT.~ftu^|088O+a$6tP
T]>WD)^k[GN^HCD6V0P]oP.~j1^cz9=,Jd44;6=BhsG=M[j*k:HqXL7;H[6Z.r5v%UhE_eX%be$F!KZMapb%[RYc[i8cBDnju.Re
6h<b~^jJmWsSB6=4_%*bz=yrcRA$lCTQK)50jwp7jlA~(]7n2e=Qd9cUDlxK:JM>6QouC=+qdT*2Aet)MuX&hMwZSi>PW]T5m.NL
wOROOcd=XsZWupU|rECx^~yQ~LynvC*_O1w&K(VteJm@+L9J$pL23>[V8,brulC$9*R>I@13yF?%+V%rK|mzfv7H]_Mrpxtvv66!
Hq<Ufy?_Q?v(^MKBDk+$gq?$?.gTIuH,k_L3=IPmNh=f)xnqc~uoWtmNWdOi=m<Ur=]Dy*+CLLJycOO:_50=X8A)%.rV[!kHd[>.
X$aT+9G.5zBCj9<EAsNrbPtE:y:=f.0n.zjTz^SQxfx_f0l5;e(9!!!!!"⟩

end ExtensionAudit.Text
