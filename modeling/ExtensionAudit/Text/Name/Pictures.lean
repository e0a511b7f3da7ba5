import ExtensionAudit.Text.Name.Run

/-!
# Names: notation and pictures

The names of notation, pictures and tags from U+1D000 on.
-/

namespace ExtensionAudit.Text

/-- The names from U+1D000 on. -/
def pictureNames : NameRun :=
  ⟨0x1d000, 57629, "rY!,t*zMIlQ0Htgus=IhpJ~&CSjI)_ugm8h5(7m%D7|dD;liKSf|K,w5fIF0@$GneYBWt)Lv:zq4P]<%
Xny+]9bKycC!zT_rhDen+j,ozu5;?EGV.^VQMSRDcf)b7za!eoRJGZIpH<5mpZHdif)T:=Oic:RQq;Eg!SDD^GEJ$Dvi5_tfkI)Z
1n3_D5RpYSRx6xGKlQe_Z2E<iB7&5gow,uxl(^4oGnodPq0%clyss<z:5xMM62lqAU:4Y~w;hKkMh33cf)lm;?sAXn~uTrQQVy03
3*&W[m(B[]6602CxC3U9!UxL!,sYDc%=eJ|(UU@KdTO_a;krwamtZ7lrpMyN7=ZTj%v3HI8|[QJ0B=n*s=tBL<YSqg:Ra!Z0AcQV
=Fp11SD^B5>hQfUK?+SvwCg$Wmnr@^7ua7lU0Ah)Ozu58Geql]9N*I%M|M4~BM0U8J,|@jVRa>sDG4bDhaGhm4UQ1Z_GBB4VHQDO
]YnLNm%]@_VZ.+f+!eU8!gD:!A+]I:?MYuQgrKnme%T.N$Wo<G@_b>JAUhf&S0m_O|wa10]LgISyPSj09wj2o!Q9eEdjd>k]B.wQ
A0orS[B%r)veP,j._zT7&fk0GZFbMFq*:_;)mVBNr6M:@Za><f$fDXWqMS;I?oYx:wfrv<J?=R&yg;gktPkU(9GL;ug;,1K7mxb)
l9_F0O%Z@X@C(AT4$rNsP*wjaX:w5WMJ=:Se_U>9Z575L*f1:[+@M^jg3K0r$:+evNMwRdreJ;L<=U4h~A8MR$&q$G4u^x!lo|xN
x!T.N$&_X86vzEJRvjw3hZ4hHpkr;ad]]fvF0HL5Y0@pl80Okh=PsF^?Jo3)i|*=Fo!@$;XBVE&uKUsk6MY1&*_B2ZFq@([q:2X:
EW|CYN(i7wskgNGS$O[LuaWks^Ogqaf<>HE$E5!|9JrnJ@?bJIB!1Ez6eguSIa5Bozi,pF[qzl=WOW2,kh4bWeMAEuvN8I.J>ief
q;t9]X)q[&L8b>7&rwMgAa&1ToYicY;.UcJ8FiTEr4OTYIf.0Sd~dj&nU2S9x4yiCwfdIiXJ9GdhRXr(uvbA_xC=Y&nhs+.B,>K3
<E*PK&,+<5gn9oC;at,JJf&v;+XQ10orCBSeiO8]IqWn>QHoqgj;&l<QM$*9nJzz|k,>*~VS.8,jL0JEj_a+K;%9o0RI_ugSo0Nu
,BDUzFo])!k|OtK(NAV[ljy*[Bo<R<W1XJr0[7HarC.xm8$O|%s(oH%>8s)t*:etskK?~MPh!,OZ%TnsJ5g(%,LzP;=XA:[t$voE
wr[cQZ~s2qw@DF)AO@~HWx9le=v7g>x2va;w^<<xqrq:gM1l:^P(ADWU*]?q(2K%9@]:i@UoA^<|S,y&Modp%$(>2|+KMy6upb<I
i6!D;$M;j*;3!Nq%skgMezO01MiI]isB[RV(F)_BU?cgWn$S,kGGmGciw,b]+|5kYU*?UzBLQz<x$X@,mjNHfumBF9NU2]1n1cRO
9DFec:yXN*860?w)&b<E.4%z%C2seu@Ll!XZDJy9gOfb>?lgpKf>45,mz|BN[o!le0+pU@j22DQk7uKqey==LUSLCn@*)N7yMl[9
MmD~9u_&tl1l6;CS?BD!>_v?>f7$x|0n6~_haYZ(Ob,,tg:9sfFu!OtVkFGoFMCUiT!!N(7@7K6?D!v_+ZSX0y49W@6XgoZ:kzR^
nEUhm]k|Uh+p5tWFOV2^qrD!rKc_<CLGp7Rd!qCmtQ6?I8vGZMK*1TlKeM30yB+t|zIXAWlF>Hl,vz=[<f1hfYl1fI?^y$7pwf|E
A3g$x1H5XGJi&d^PjZ9MRw5hFL.=U&L@3dJUn7zu9w!oZ=|1C_;>VzG6N@~uc97AUduk[=jXMkxm$~VTa!t^NXe?sYK)I|rPLJGq
,t&&R5Z|M+MOPbC2v3zes&ZJ3dKJylhc_;IwMjtO4>J~z5x_GHCQhmIU?(P22ODP@P0J<)RUk![ZZzJ9ei(BXX*TUxMj>LVP+T>j
_$IH>BD+==k8~8GoBOt,g|Yv&!?*zbjEm|TVxwROB3O[75Pbe=Qo0DNMf&dGbspDAI0:5kS]_[+R|DL=^Ky.rg3Pq!s2e(W8jo]s
uu2_AlYbrRmSL7HwzF?dC%OdkD*s29jn1ar>i|APfARSKuL|Q7*B@3HaEwuy)Y&:7ucOSq%,NZ:c?h)51[A]96g]5j2w,g.J@3R~
ib>w3<&FY&qUi)TqW);v47~q6v]|;A4dxrZ0M_vdujK)wdFBn!_*vwg&V1[.1[J|L1BgZt=JXF%,;]uB~4;Nvg<!kd1Vl;&xLGX=
+Pfv8D.Q8,K67|+J9@zy~tv@=i0@Ny$=tnTEA.+.jUNtFYH*L9*)SZg]j7Ug@mzcvTOyfWCkN<T[Fh%[O>L0,z;%KmC_<SmDx+!~
3g6lGfVnH%lhQM35ejn=7TD2FOJ*L$<!12A,Q?1==(_e0K.Lo76ufuoc%IQC$[7^K:3OL>skwP;5sjiB2j]5:waa00HcjsAEZ!<u
d4qiFF,]r(CY3?[+X3&5CY3V,GZcfl2z5up[K$CEOa+C,U=6XQHZCqL]%Ps%ImB+~J@<R9ae~dw4yKrIepeM(Qx(H.oq)6sF)KlJ
3AuPpnvAPW0vhh?|n@M&Gnwb4SpwxFL]r3uCLH!cL:1_3!f*Ny>4dsuHWDD(~%>$Hdp=!2y~W$a36k^jkM7K%jA@<T?$zZVUJ9op
.EB_%R(A1%4,VukAg5bwib$V[?[Xp?mmj5OhZE]y[;T3qaB+N+35$LbVqqRzpTNbK.3=Yz8S0~K23LCOQa2lVWdu~4W>IdsUC:DW
d$Hl:?iNyt0iIhr=j.6zsmP0:a;gKYOVkCuZ?l?A:kseCJ!l[in[XuEnE9%K6K<U<FqOd47Il%^Pw|x3iKda@vtwo?4kXDT=l,rK
CdlAkm~N|X1EQuw9svl=Z;<%4JuIDI@.ZP1~k(V^LE523BA:=tAj^8;^v93mw|oR6~UGoSUK3Nb;^aH9.t1k0~7uVAiH8,Kjb0zU
c7ON>MqI<(MehT$VTj8BDZf0<~hbYCQF$9W13]pZLg]~?aIk:EFl3<L>Gt!Q1?3i^*ihAreD5St%cwI~rVf0:ULz^]][%I!^jD2H
bbgqrcg4u6+hMz<.Kn63rH~o(a|p3|;2=?$^ezt9&fIT|gcAdyB_8Tj.*(y1Eb04o8Vmbg26@:gio,[S|,IW2EKqvN%==.h5r)iB
=cHq~%CHD<zd(:0@&[7s^%qIs6y=eQ4*^s@lOEEPv_).BQt@Ga+xcF:2<2RzKr~x=a*;uTpc*Qtk=.ZS]XBM7MbN&m0k;&+B4ji|
.HKb]L?fctD,tmPDUtuZ^Bw&XeaV6DtOs^$srbfD3xM^qAsQa=F(pvHzxl)|m+*H.lwlML]l^Y5S|~BN@1SB]h:$KfS:U~D(O1zQ
C(Eq0]RsBZwpKX*DO!?B[!Gn,*Rxajr7>R>w]aDdA!H]+o|U;AUbL%!Hjj;BjlVaLY24:RCr;*;f9]j3Z3~O7B8G6Md!^bSr1(6h
T0L<1U~ch|fdn8$hR|;rLDNScI,s~ki!=gVkN&SVj4aGoK^oc9?jlH]:(<yYx<XL4Al+=j+NZbB,q=V[7xQUCP&L)4@S*QI+uImX
Y^6Yp11%Ax[8Qm(6ZFu%v%uZ~78.&Ci@4BYtSIaU56vtM@rigF,FhjBG42%AL9FEyQBOK_<9i!rWQmSV4~cUrWtg0DiCoVANC3Mv
@uv7Uj%qANtr7StOGGF9=6EWbGASYnYqlNvN+7>8q;Tm+44[NHJ.usqOrFh_OS)g<jekd+y62HwNOx[s;iCZSFk8w5P.lqDGDvPK
C*|Eej5p5<RB|Ra[sVu_fiG[t2+*bmhbHp,0Kw2tjNCgY8T3xJZO2MxMB&N_S,khj$Ry?.V0m^VnldkBqK974zx8d.,:+lDiZmf2
h?N,29.uV6JaB%Ug73wL3gEorl+o)nVj>vUATyR)1;QKc6Rp6t;XDYv!1G$Qq0i^HHtghDb1ps$,%*9Gb<Qr~Y(%5DHY5gKD^i3^
r2XA?UMR.$ri:goUCFOGm2rXm502<39Af4*gm:^i^krAy!pu%;:.|4W+>UdURV&vj7&q5[BvP<*UxeQSb8dlN[>Y]Zva=10YK%J_
)LL(X&@vda~wy0A9)JFEa,kX;L6_FpVo[YxE4,v=%xiu7TPKQoM.bd]=GsTW_N4Pb:+$y,C!poi:Azy0i$ppoaYw~z29!VxwMJs,
IW!ZQbne98MMtYM[hEmPJ.T@J(8am?oRl2MHfF7F@PoFBa(udG=?]CWVW)GnNa^p>iy80y+&,fhZx:y;!@>cB81CO<hXh7uM6hv+
hiyqjDg_|*jkHKDxusY!Vm+_:(IVb%pTS96]BH3A9,tL@^m_kqr8e![[ARt38tO^::f^7Go8Km4v^lR,8azSLUnZ$0DzXKwO31)C
l4r*?]NH^7++$p&S?z*ja!WTN7vtEw?:Eqfc24GxB.@>Q@@?Qu[0ty@B.pZW+$nhIB?*afoT[,1w[:6XQ(g,*q5T4ySRmJ2FI4Au
ihcua7+>vohf%&x&A^SV]:3AvhVsmS)%]6CmmiOQ5%8VY4v7c3_Oav[a[Wd@m0pde@W7=yBKfu<yB6>=*nIQ7ay)yg$J,^6nmymC
xA?@8&TsBG6AcoadF4yBqoRNJ,r)c1_Q?!2hFV2K4cQYbkdI7pGi5xsph_D[imUDetUoA3ZgD*Qg1cn6_o7wB5_Ov8s1b].=0t7l
7fZj^vc?0:l044n$T_V0L[>;M4ckxuKKa5hjXf?dIQ+>N1$fYq6&?O<JM^$LC78f,TEnEC$rF^1?JS9RTk2Sl^PP<$e>_[$gDAQc
VfsyN|Qg5LYJ(ko:UH.ukg<k*Ikoc[vOwyC7bPWUjsWP02C&0P5g]jm:7k,MeceVuPH6nJ]_@g4IG0tOwt]QLp:!0b+:BAGy2)4P
H0g>r.u[bC6:l0N_kSUxD@a1@&DNTleq=_^N=>9eQ9:D5r@z%7^kDL*wAVLgZ2n[eh92Hvls%@YkF,:n=1CIZ>Idx@c!iAU1LGA.
pMOfPLR,yfepd[?mwWc1D!QwG)0C9~qr&)P9=F3Vw;fhxsKZhtQk.v1O,aPAm83R,~>;|szve^tgfZ&k&5vcP,4i|Z~qC1c|0oPf
QCa2hS]V0=CT9Gt>bd*WJRYoE=K1NP;+6+v~WXvh(jcVktH@inP=ws2FiI@@5%jjg>FADz.IEAd!HTuqb6JWCJ|,@p=:V.XeQ>||
uhaVlaeUv^dRxnEz~@l&7|~P^TmQWx_%Fu(MS~<9[zXofUpnld8TJwYJn5[KFogMDP=*%AU8xN1N?(ach,8Jal~lf|1g&AsUVcZs
:Cs=LdBdq:Z,>*!|tlAKW?YRp_w)tONaHb8D][B>fgcV@QjDYrgDy%=MLc>MNw=1|I<^R+eFyGS|qnWM[6yf5&P(Oe8FRN,r.?jI
3y]xl^)M$Pg|*Xjx.FhHlfLzk3Jfs<?Xc_hIx|Ty,[=Yq_+0dZQgwakRMz170R73(7:09295vb>&.rJa!CqfL~SggHf462xGm(Fu
rU)TOG[jiy=(_@cU%EzwpH2aRno5$M=QZ)+>V~8;xBkd+x=xr]Zg;<6<SC2pPT@E^40nq*fP6MY0FHoVZXSXr^&()Ua,*yfRp|G|
h^7OOcV0>[Py<+.&2)ALlToer^e8]D]ZzERn?aR;e?:f@7BKDksrbv5I4gL_ZzHOXe|Vur2)8Ja7!:_@J]vX:|ee+xno[gtbJE8d
B?Ks|?HV,*|A@C0gy4j<[HuXmTQ?[ZD|m2e4kqB)UAMnpo%?X0NkSK.~G0D8VhSSqV=VT)!0Gk)D@jfyV+ZD+VBg!s%!9hJ=cKoj
FKMyQ,~qqj)w)2Nj^D_7L2a%KHwR:z4DFsh09:8X3r2)=;$E?Owx]TY$_[3<Uoy*=ppb<S6K!_LyfiKgacLhF(3+8gPSgZLo+z;_
lEazCpTb?8Lh]&uRSPJh2~6p,R?+Y=7^Ie+JY2Co8i?GP0H@sjiQl>9yc)jpU=5|wnq.>|]i:h5Qsi1iX,QOcK?rEdy~J;PaBb%0
2U=6dWna>bKZ0R&MH?YA]M|jBINcUkt@2WIE33oqH7d!9c[Oc!s_UbZwz;hkbLR0_S^0g8*qZG6[rNsvx=062Xaxo:Lri![,Xm~D
U%,t@ETNF&vmaz,4u&s$IOojs:ljsAi?B1Cn!~FIw7v*qf_Jf5tstFa%ahQ29+KQe17zWX)C>T_1@$KjmC9u%e[N;?SrCI1x3Wl?
jbiXFGH]cy7LqX9aYCA|S,GA7_Fmc;As^%Sf,P3]^fq+jHR_Woizp)cf%Zt~6osQGc!9:Jt]MgM0oYK@l[ndWzFsal5U],=RWjT;
Bc%reOm@$5YiaHTy@~x_!I)goX,L6=t(JeJUMTOg[cAs_2~!VWtMQxG&D:.5AL=CI(^6<Zb.NBnnjq79]5@..By%fIKWYA,GM7.C
3G2z8^+BHLwXmBj4Z&Aq1I6&>tdUvm*!u>v)E(k7x*EbU7IiwT]2piDV6eXW*ADqVZ[<cMRQArk&@fq1v4GsB?e]Os,]R?@?Xh9M
lf3c8^erklr[cf6:r.i52NSTphxJ$bY~InZ<kL5!,ZyQh&_pq)IJOHw?nXbKvWdO|5D@y_pK47>|^S:QSj.[VmgPoqRd_c%yW|5K
%%KS,VBv$[b(D8d3srdoytg;vzTbS:*eoMEVG*T+C|D*Jj,VILUn6Db2~kWJzBSIEw*_f)M.rS^dTS&b*^*;p*GorK*~v|nu]k%y
yg5sp[3[v0fs<j?w(nNb(CJ:j]fXa|~]2?:fC@AFGZ5sOnu$DFVXjig*<E[7R(YB<]]>bk<!n57_B56WDno75pvg+a?!E&K*+Q$^
t0A=y%(+Yp[v2wwXe%(8vTx4FUv<e]Ob&RaTu_e@_yGcwm]G[yd.hX6QC8>+i|RR=eJf@U|GJ0qI;OV(>gWM|ag)*a_OE0u8(Phu
y|<Ph;8hh(+nvE,hwn<j0TH+x_wNql42%,nltqP+ffo6vZ6@@i2+FhgJ<9o]Fa>)D+a@iK:%d5sThL=vgU]P?3+V4Z1XM5|+?.GY
[iEW:uChtk)cKbLU+UEZso15F(ta@k=moU[Qu]OM5vTFQlF5.SGX=kG4CAWtAn..WgZ3s(^sE%]d4[XiM4*]f%u!e0)zo1ng(Uf&
>s+746ZaacYRYlehmTzU;AeJm;gzI(2(m].@^PcS$@3mZ%NYlOD8Fg.2wg2E8FDNgUc[xjR29l,;!~Je;x,!)WVe2393Vj&n|To.
VK%dE|_m99TN2f|H)~^!u_mY$?Nw=IEM56PM=Q9F[&v<|;%o_2b*VMY<YElpwyjV*^QGIqz!T?&V2s9QG2pnO8eVrZN%LN:OrhbW
6r%s?DrJ.gX@9PQgTp,VtU8F~S?KWhl.E)szfCoB5g^LMc%0vC&d,&o;(AZ+KJv5nmOtyu9ib>>)>h:PTmGC[M2frX?~v=G5o7&2
DvSrUoTr!y<y[C>q+?BmHNmzB*[~JHfVMrd|PK?sz2icbV@M)sdFC_Yd%ATSb*Xch:Vm97f[?I[Hg7c>ZY,yutq(!7CI2A^pLBhu
>e@B_S<+K,moSZMDjnJvOXq8lh~YDFkNzM2]v73M6PO2++Kgi)MFT0D]9Bm7~gK:xs9|0N,&l|7sYwFPjL6%.K|=K5mQ4Rf]cdMJ
bT:XNi3%ZrT1R:ZXDk&L>0*(!R|8T=hA_S=;=$tcTzgevEp>5NSGLZkh4@dG[KGgZ8LVS[KDK%f>.q;h[?T(zo?b3c_v2K(5CU;9
+Hl3EBUT;>IB,p(l=c5mUUr3L&iF.0>+xP+Qa0xZ+mY.^CB@4$crE235Rj3[5vfg?X.1@$T:9R@_*I8%m@,)6YZ>VkG7rBGxm*sE
pnO5;0FQPmk@^W+e5j[z,sD56<D%K=MH0e6~%,]Vr9cBujg@Pp,Em%&m]8$]I9DskS4Q0<4wC>tS@co+.I(V)JrKOjSIaLx>]ig9
HNO1,x0Vi].i^dUU:+hSI:p5K_P_d%]r6.e[wM&E?Vce.zEb9H?)5X?:qRmhKAfM5)*dMagTS1(fH49zrHzA=[hi7mIv19J&&1x!
)Wn*eUyWjWs1qb(uIF9DlrU,X:N7@m)T|!M|5V^LkFspdoHBU4YM6tB[At2_=VF7J$~uBDTMUGKP_p6A!rDB84NLr4<<ye3&4aLH
HwF()G>[eQPX9nhHro^:v|5oLj3)>3DGEI1~UHBSRr%gt+Y~%H=P*0XE84,|e+9rCoE1sFMxtuCd6afixsuAm9xQ:xJ5YV&dP.tE
rEp$3DWI[]en4%rcBh3(^<GQ93pU&QedJ>,m&6jE3:~9_s?5J,P:>mI9[CwO,uHO8&lOKhSe$CSp!8c$oTy:UM.D*pe=LhZwn*G&
5wy5K6NM2Z4FjB[mV9pU_~jt6<&O.G~>uk<D)Ur[Zc;QY&Z6Gzm308si~Xif~P8k3<A)+<T8>@?mHNWlR.fx0OY9ga5,fam$,wOz
kpUzf$~W*X48_[hF:80ESU9(Yk(^Dm$&xeA@wzk]G4c+|lp:W?c(4zPq;573vMsncd?rzy3F:zSg8YeE?uL.D@kC^rPvXOw[()N^
|vS|]0VT)*6*I(=dAHcH:Q!jSKj=uC~b]A=RysU61G(D2qBpkRJxe[<0ytP%(BBbj|]M&e.1@WqLjAHtHM*%_NyTWOo3*9;PpRcO
(yjo>a:(n*+]OS<mWoNG6B?YZd+.3CbPRt:!Ry4,_q7hYe=tVmuWe[I1UoP2E(|AEa)XY~)guwfOu.xs5%|o=qK~k.R5=8)LISOu
e~Sl.T1ccM7S6McOeJINK$5mCx(>jf1B+KS>iD14mK%;]hcg!3Er&;VARPomwb75wscFg;>piiA%WA,OGW>lm1J,l[~G3TB)]=<5
pD)Lq5RWbSmN+3PhLf<kQ]:AZg8+WN)%yG6,X,levs<F,CT^*r3Is)CIVsfsgk%wvchW3[yjVB7b,Y$[j~C2uf3bpaN4R0u[D=W3
W0a$[!@Btva[GaH:w2TJhw|y3JO%)~dT3&,K%T;TS9X!bF%w]J:l|Q,Uvn@[.9@7@a1)8C,pXY%iQv]A0iWt)MnY^9.LGkrQ;%,W
!?TYd|g%Z%B1)Z?tu^&8Whp%l8TLg0WJ[s3Y$5B%jiQDY%>U$ia4>oXn@Gu5Jtvk$O*)Sf5PM<rXt.N]ISkZWkN^^aRB@vbSMD9u
?lojXN%99<ObK6a25vtC2OlCZ[=jBD3YBT4Y[w_uJvrIcPK4e6*sfvXBf9b!zQpoJqbLi_Tw%Fp&uRY@1PnKr<HJ7n,E@&$?Y46h
PbKv<CEF>L2mo)tHw7(tJIX@V6ciK%0PzLh;[MvKU*lrFa|u~GNL:]FR>oiPi;H.MF:zeMj::NRdQn.leP61+2[8$[D9PqGk]87U
$$5zr2=wV7qs?!.+Trlp>&[b03[^0Zz?@bW(QDL!jm]*.!TJFZnx(|.~pKBdrfT&&dzpc(mvZi(%*~@MOko,ST8nOl]V*ht4*bij
C7yu,Lu[J&V+$E,R).!DDL(oM8@M35rYSt+3f5DL(r=_z8$__G2huUl5It+GiOQIcxk~i&hRr:5nA3;9<<qW[|iuz|+~p2sH+(F&
.9^)1nxtqQeVdm!?8KP24EzTIxw~eR]*L!;7u)X^+&x^>&ln^[>BKjsL_IGs%XC*I0QUd4J6ECb%Az(_8bt,.Z]eTM~wlW.Mbfvt
u(M9=@4Iat+C]>E^Xd7bTz+Erv*^h%0m.dFf_ph+8GJCMN2mMs$lrZ[OX;61KGxV)tQ*|KVnp]rvrt67$T^CeFS4IlBpwjyOMSu@
Ul+RXOq2<3F8l&SH6vKAS8sr^i@&N+=m*G87_SzZ+Ll$@r%>A~xP%CInMFxlbV[,+T6Rs;sb![!n8xGi9FJR*cP(W&.A$CQ[FZ<W
H^<8ot.uqE6d@OIw2iy(4o58pK6Z61=2&13qXwgDlcS_j?rCIz.[skZzw0uS^v3+.oIUZ,Y9Iy_|ih9kgtR<gn7U]+p%|np_q%fr
PLmch(Fh=^=ttIiA&qngn2BoET.8ESxe(!b,ee1VwKL(N@UO|uyM%f;*NS(_x~|=Syh.=f~[4Z~jlxL|TO9L_$Z6Rf4*@EuK^&7)
P,yZG0Kf|Wv;wzA|E,H3zwVC:9v_jh5csA2gob$DVlqgr[;g70D3Ar!?]8fXBUl?nPNV^~B%*~@I*DB@4~73%Rqz0[Dt]43h&WIc
I<0Z6VW:Co@fHLUn6JfKf=aK3;vWCfC$!2Uo7[nK<;<lMM3b*WtW:AEoT^jBAn^h9!9oiU=bs&DvcooY5G_v6s+:nVow&RWIkRAk
dK$bg^^F49cUS=]K_RZ646pyC0M_3_h>BfK_^Ina:S7&,*E42X?4dF_7YaOq,M,?)S=<]QW(o+OrgOM!ZVB0$8ytT*cJa!QQ.g0j
U_iyG>F=4$HqFv[Ho<1C0V>gKJldt_ndjo;_:63%;J:AJiw9,.i<D$vCEzZDfHY,apek=CQngRU))jW$geT?Cz7ujm+$:7r[0.h<
=M7r?@|fmXLuCM,[m.J6qN$Z_g,kv%DA@_w$@!!1Q@hI~gM1A.+[U|1=DVdaLy<_fz1,gt!ftwG5UOwM1y(aSAnCfub$3+>h.qvp
Gi6aUU!Wx^Lco;2vL=pF+U&T>PIV(y1AE<26B6~ig^$23Nm[REGj:bElp?zxN@ExxN$VwBE=6%qBWg2m5~!0$Za1V,_Lg1oM.^J.
ROAuxS%&_JU^6of6t^:$*bQgQ>R1Lj7!hpvx~OeY!qtGcz>Gyq=2Jj^F*6_?S+iN~,$wy!IL,L^=D<ww[L8]ohK5CA>nrVqYBjup
,~0FA[)l_&L>nyhrLt.(ao1MuKG.w.J;Dr)(9ubYfDOk0QqM*xV<S:?vh=Hu[eLf*Z,aU)F173oMz;Lx?2LA_]kI|Q4FzGIIgiu6
BUs+gSJugt<f|5Zx23.]:S)&64?5?fCI^A9Gi3$Awb+.l5_k$x|yLW.R+bzV;f_tZ7Y5QkMx0F+4SZzYe36UzG!HuCn$.T_rFJgj
q1?PA<4<=nhdDA8AP0iaj$C[h)11&Fo|61Q*8zy0B6.pl$N.Q~m^^9n0*~i,bc?U$z4XSn]^T%B?Pblo6~T|?v=H(67[4=+W0S1T
S<=k%E*eOxo6SlLv5JGT>Cz:CAb7@+Ed.y.BenoImM2.KsZz0wf^K8PQCT(YSgf@Cin:jAomOlgF0.elR^AnA4G=3b)28v~HbSIf
^oCoc>+S6r*sTxfu)dPwXVsbL^Xr>LEE%0oyce)u~]EJMxY5(ACq)6p;Z:K|7)icKMt|ot9CUR[.q3Svy_byI0rifoewo)TWid4P
o|ZM52X+wrV,xe$fo%&55r^[FzP~ur!yo5hvz?zB(aY>>DJV;@tFj[|0|.H3H28PP=iPnC!G14_J>YC.6Jqhw.YpZ771?xlwu@D_
:HhVY+3Ym.2C%pU1XG1X)A(gu]38GNYJm6QEg:f%AJQJJ)qYFl3;<Sn7kMQWF.%.>=tgraIBvRxEO1~iZ+:@Es$XW(RF>34_PKKa
PNVkDy;:Np)|ACpPyGeWSkDpuSruFQVU+]?=raYd31(rD<FE~kuuvvbe7Z9i;R^B>8?Y<w|6SUlMYPsp.[VZ;+c7TgYKnbVYwz]*
~F*K84K1HJ^Uo)~tuh+z^,shIt2lng2l2,)]4Ygtz)RiOI1Q]K[Na,XK&&&)yw_<%6Dy1N4.YGNMzlzL@&%1eQMLsQ,Jc6Xc7<10
1eyMi++qsKW;~Uh_kf[~*%6mo*%6R>^lO@Sq)01|QoT7?D4r*P]<ZvE:Q]&9PB[aEG>hw8_P.,9FRt|v8Mf,StrA7|F.q?u_2@<+
7?5O$g8hHmOV;=<c&Kg=N_:4o&lU*NB4O(jLD!yrV^COD3$tHXj*r3Cn^]00O;@w]):8l1MUq~w!q3irZGb%iFgx!uf4>b!,r[7^
n|k|n=>uaE_7iEJRz@BG)@_MJaqVx.X(D[$1(ojWbx!4csaLTPK_Pw7UMCn17YVYz!Rq.ai)9WyBC>&7,eSTG4%:<4l*5j9iA%6>
b6v0sqZ%9~x;_1d6:O*e(?~=@yi1?!rXs7x$CL8xviW*EJt9NZ1@Tg=,bcTEf3.XY2BplC*NJI<RbXUgr&c8dfoYeS~t0Ab)hPNv
wtjObNfytGDnH=_!22xL]8aR_qyxuun~<o_)9)rH78uGVG?UOm)jowTsrv&8B%wH_+ljlU~+0?<A*Io39+(J3<6Kdvv1lrdd[Z]%
.z8ptl5%$DFgzK2o7D!c=gR&yn6Og02hN=s,+BWOI1~ia(_OTJN4c!:+<K,?n)ECh:GgFuu2maatOxvZm37!&|QR)%|ZrYbNPhIX
2nyGS>4mo.%(k;vmj3Sus;j:CVd>D_qp$VL:f=Z^J,M7LRPA+QcI!O;=Y&Xd%!81Czaq)aLZ*ev8&iDwxJuZH4hr~$Ma),TRn:9+
px[j^CQw>j^3frr8%]KJIKF+=mzl(cC!QU4!x)%D_O)x[IG>KzDS>jRCyf<)K|1F@5q]eVL8gGEE^&YN2E:i]h7p5xc)pwGUIFLi
a(@r+Xb*PdF9=7T*fMCjBYumc|;6WCR1~XhoHnq;=V7!l^7m>XRex5Q3O]B=|M?D&~8v,qUsecz[*F+,>:^h+U0AO2wXX,Mqjr*%
*E30q2!U1e0PlYiWZn4;@Gp>P6JXaA.SgL+!r[X:N*%[(0Mx(Sp=&+zfu|zO,)=>K$|g_7[Bi&!!Zgw=];*AJEL$wXVu?f8plt0+
DJG~1uaMU9a[SwH|MO]FQj22:R_A|H6.2q@B2WfDPZv$Dw(e4NgeW+:D(P65[SWBZv)u<Pn2r=~q4SG=7owi$SAHb!z0igcsIli=
IZTluN*!e%BwNBCdubU.9CQ8+hK3ltGGG]f[4VcP,ZojfW[1Hf0k)?A*(_]=!l5<GC,PEJz~h8Q2CUx9KQZ~up2).3WQ*v;tm;jE
mdGkzU=R(mjsv>8MYW+v!K+iB08OLO3oB88?6?DG!C$%Rp!L)B1):8jy@?GU_s..i*wDZJ!exEiK$DD[JEo[J@CYghh.uU2sp*Lx
su]!CpKl?bQk_+hn3Zn!T*EM^d>0|feX<?EsR]4G.XkKv?).bLN~W|BvG;3F.J%pi_hAj7Df$?RsWJkN>:W<7<DLnhUUXTBP~Z&5
goiMX|rwd_uaiOK]NN1j37t9XX[F;a&GH4hPxsNVQmex4Wa>uZ0_(MPEFxByYj$C4ND(5hnBpI)<*.>_eR>:+e;U;O^b2a1>5XRz
g.O.bliAyqH+:4puie*q@hp9mF=|,Gp2N_]m=n|eEEDN~%S>um68(!aIS!R5d*q8vApqY04!fXsC0|,p?Qd@^&$%~A^hS&59**q0
%G5yJKfRK>KrwdpH908q[GR~:g$$+?>rm@&z<*wZSpT?eax[oHa=3g)ppTTgzoyRF6*%_c^1E^|@_3R,7A5Hrs~]u)u1h*_D4Fi~
5E|>oDjHv5,=ze,y&+qiEnZ,0~OVir[,nX,z=jGJ[5>Zns5h5sSMRtk*xnm1?AEBE;1?YmLonxwNdau@Kfd4_z;P2gplq!?z=?&f
.dK:OGOj=D*uJLliRM%a8W<;+]=~[3eq?Dy<^uH.^eQ~ZIVt_&>7UY[e=3E+2RZ6uaA,;7q^mwSX)5o+sfvM6!8:v[V1vbE*8Q3.
W8Xp<&:*7)sDmwRXU)~PX<t0?Zz7G*pa@PCmXzclGVR@z~,(i,og7P6v~HVW3J|&Q.1OdOpq!hGiS)@W+5u2|5hDE7Eu]d%GeKJ4
<=@N^EPdpeZhc*udyWPC3nd:~zcMBvhEfYEk:Y+R6z0Bkj8[Sk,(3P)tIs1UseK]U%ev_En2=o8ly33GL79H=DZJu3O~0_eD]r(M
))EhWVh>%>Lv2@BZ=Tl%R_MC~<qG9q4O(a;I87<YUp0ko3b$F!bPOF:9^AWfM|9,R0b|Y(7jMDXvdaFPcs.0M]z.7UZV4<Qcdkg+
cza%l.J]?ve7Pml^1RYka=aLZBg+j3Aaf$~M62r1,r:EGD[io4T?fa,+?hgyW!M?K8uaEfS@Mp~5SGA@sL|V|7Cos%^|KuO2WFxx
WWf7u*u9mNatq&18S9Zxf:%XLk6~bB=YHw4zw7>uQ^~K0z@;=)xt+4flcM,O[lvz7uICK)D@F$7KGLV,5]XCwPGUYq1?&Z$HvYYi
oJCK=]*mDpY=ix_6TZflx,@!~[%A~D)3Jy62y;$upZuGsP=;bmjeXw&*d^?!P^ME[G=y[$dr$%H%3%@lhg)*5P<9+@=EO2?I!,p]
hHEy9QO^%37[)sDt=9s2Rp6q$eIxTD2Uq>x5G!g[ZQMWqdc1%f[Exj$XC.KRvmQ149!OLjgWdET%PJ=(mAXp.QzHfgjLd0=8SCUb
4$mp[Zog?u)U_D=,:PFLbMew=|v).@=zpe)ONU7jS?lDIdOWVhZls;(Gyh.Xam]HLm?dAb>bLbvaWu_ZJMSB)XCa3[OioNCYUNmN
+3kxb*AylQKP4Af?,@.Z!HH]|5d,gZNOw(kP<n^AYw8^|p~_m=LDK((33r]j]98HNX%qUSh%t[.qV^FB;7B22GYR42_6FHmLc3kV
0o$n3Fr5*mhpsHl)s:y),aFhCU!U,|y4Mi?=uU0UK6IK~ZS+89tSz=yv>i?20]&XaN(*.gzlJDjQ<+HtCNTg8K7y^b?[sILN*[C(
9A5cg7+Jza$dZm=lsKh.Is88_!lFHY3P.=[HuizK?E[oDJ0foP%TxB?6m;?ryh(ivu_)_Lr7Xu:_bB+ozvfX4rMIEUNBSyPd=@xw
lQt@7bXam%KvJQ9o*=)a*LR>wXn*Mu!V2~!tP~X]H]G|F?Fv;$cgFdLk1*x:9AW@bQooUr%N.~!Z7|YvNrT+8K)@]$^(Os~Ltq2a
dm;]51>f[zTrF=LWX,7qcho@^[Tu?3ql21J)(rPNHbxs4!BrSybG?!e5koIB<|ObphQV(;Po4HoHmNBE|jXE6XVVP1gX:S%:3NYN
AWxRPpPymHuD40zZ>N]%0)kRrU@gox?xmvQ>:.YfPqM;yn&WCFdC;iqFy)8DR65!T|r~TruvQ$@;w0UIPm3Wr8S]XqnIrmhGuIly
kL~v,RR7Mh>^1~taCL5SM~?YI&69HhJ?eAkHR]3%Qj_c|ux[r?|LKsN0+9;SZbA1j>h|z=V_^CL$!ls6Fs~ZDQ]_;__WwbCXt?u)
<wEZAvd*ETumvSu)aozmWM.QeSeV&@YSbRGRf=vj$gRes9va~QvIIF*<i949zR&mVZgNbSI=yq4H0<LPG<awZ54oF(17V[YO]6=,
BjF(yI!LOAkqu|@gN)X[tZVbuwHLj=G3>]U;~1d=k8=^l.CnMkP(sZ|(6ug6kwjv=%wt~n4RL;%0ORhdbX1X4LxbC?Q3!Wcdlb|$
P.s5OnnO[X=o8vRzTE.7$Xh|w!lx^sI>;](g$Kt~nR&(exo;fGcrJgZ8?~G,Z%9UG;n4kMs39f.p)Rh.4U~=v(c|M!7G,x9TjAzb
IKIy.Eich7rHSX=Z03CffUSS)tfGI4PjzT)TJCJ(1ylA:E)oxWa*<4r4qdjx,Mjy[Tg]xu@5H?$)$5UL>kd!Sk(t;gWD^T)^L^pn
Ms~spo++1_b_v;dn,cBPAj=aT+KQ2:;+,_*yezO5C8hnW)z|9sLeB:@~t?%CVzk:9na&b4WD9A:9MrH;Xz[.AGm1Psj,5MCNXC2Y
W3@e)h?7>AorzPnZf4![2g(Q|qKZi0>pp1B&u)||K3[G$QF[fXY4sD^[e|[0llZNyRp5neXX7WV|BfVv&1Z[qklbmRO)edT_RY;w
R?qK.LP)CjBai;q(6qP$NffH4r1_.V+zDQj?_Rh=9d>)vfyWmbg6Z[pG&WKQ@l]gK^s[Uy*0z:sov+zjSFWYeMtm)^roCtSg&_mU
3F&k|d@;a<:0zPN78=Zg*pXB8q4L)Vpw+Cy6ydy?Sr,A@U8lagUU!PnN>fQ3we~KCppxkQIggEsiEWyfwFQtz!0Bzw,0S12!|5@3
eP3<4)lZ:ZFN>byLn%(8c!6ugiK%aFe7$3F055MqvnPs%D:^1A1+XM[M>9h2OPbg9|4v]]~_[r]d0O3z^)KP>L,ktXd4WQW>iGq%
$riJ~+Lmf9|~IXs?Frc[d);o9KYWw$ms6j$|nZHaT?i@m)3!oaKAKpdXxc;joSSqLv%PyVv%lJLW$X!|.$92sH*5RnLfJ&o[Y%k&
D3%1,6Pug*a;%fR^(iJ(C9>Z0>tRpb&gS=kbE4q:H?6+?vcr&n)V7S3c|gwi$jj8Uq[dhKME3:FYY)nR]Y*0Zz:ihzZcM[H?L5Rj
v,_Lrmtn]acz,Ar$7xiXsv+>_o(!ZE+mW:Uh:MkZAC2@K=LM%r4gHf+nYE.;+hs5v^1C)HE$r)6khrVM[u^U~(5?WCvDwgOSZVOz
VE8dJ<szhA;~+vB+6f1H.K86$<LWeN<|j8ecmMHrnY%m?5rm;jdF8JjdeuxwU?==s<w!4<!]pk5=*Cn>!%NedwpFbaylwXqfx2Rf
Ar,|0.oS<zDlkNE(0=DA_U&E;^bqZtIUovo%PFFwtd|llwFXzrFR2a=MEa?t~y7A>[k7wfmrE5qSz8JZhu9fRlYJ52R_~P~55D,c
g[BJnFYYRbMrBzN>jZf;mT[.NB;E~wNKsuBEtU^kA_dL|cM8Bou_6GHJN;fJ]7cY$o|v=ME0QpeiNX9sun3OiKE,(NDB2?s8RY@*
CzwrazRN&WZ7D<fRHeg19NCy(V!DqR%gL33nPJ>7dB5FDwln1L$^FG_=^M,U^ecu?U;2qNA+CVr%~>Ic!>sLrt:T@mutBfdANEa<
,Wv?RzU,_*:*MMO1m~Xa%UY1bMtRI_p6g|q)dApnM]M(::.0eJfQ+Dbq?UoEDI.ll;:DoyvLX,fiUyku!b$XFphTyQKnkvYf(=,c
:~c>.0A:eS>Qi[lbnUUwo+Tg@vdCI(]Y].cZW0&DGO4TV!;nHYIz,u|^:$>H9:@~e6?t@CtHuzx4xDiW80eE2pWcdsybfGB!eKf,
3A;CvB>iqQYg4Yyc)T,!Zxo)kFA8GLIml9Bkf0E&00g9[Z<oBIfFC3?6e^kJ.Kih~pmR,UtfqC:H&@PY2K,yOL8H_[m=oR>m=2,!
J&s=3$?;hkib9)P60:|=k6VoG_A]!E!cf8N4lW<*C*o:Pjq6LL8Io%R*frbm0_jj+x|aAAEBL+mh@fil*fLa?c*L:(ytu:SW:=%+
KBB2bi>V&6bS5c9v0<71aOjGTcD_mO[URkK>TPOfDI6D4e,<taKZHHrnK!yj+V63+;.L>Yat&mWHM@CBOZ$H[EjHpuMxNEp!q2eH
J.%e8[B.J$y5x7Aq*8Lh~K>4PI6_pS9KsJsd<>UB?2k?=!T&uJ8zpltdnppa2Ay)Led[)c]F;f_J?U(!Z,9o_Ut%jwm;,A&%dNTC
m.l1pn,)LAnU&!|Tp55N,R=d_NzACQb;Xi.g?c|(HC|1EtE%cva)>$!.a8dABKpVG0lM<*mM.45tkr0P!uh5j,[QcJ*%E_x>@_an
FW?;(Jy(jGbPUy[rFh);1a.M:8$@dnSW2=JgAbn)H^Qqp>Df(@nX2@5i^,*OA+ksA=IK8NAR_b50EVSrYWkSjq0R;ecf>^gEpj7%
9JOQaZpxy9q*uS>6J2P~6[PNkd~@ZO!$t0bs9b4HI]7cG~^NLQZ@|(Ns_a_!)hW)7tQi?w!7V8Q<^EYy~<J[8gX.C4)~tU?GDEgT
h$HQ(_dMVFX>(|m!r7l8E0vdIUA2f^MO9BACdwNRRL~;V+;]46;yqaH]pMG&m+ZKD2d2Z0>!7i!F:?b^2q^x2N5(^QAOK30<&lZd
M2c=V$.+EJLmMjO<V[|LSIN(l,I(p$&:Q]sNhh:)fG(iq0C0I|~7>Us+$o^TP3@%2RgWy8Hw?jgn)<Eh@xNVZa^50X$qr9V6[lco
BMaS8Trz!p]J5a20Mi:^$Dwrw_WsbU9HKReGBeNjrH%q@:>!<WlDE6dj<A%n^<+Ss]sGhNhpq_c=wtz[QZ~yUJsStx*zN9Y!;LuT
iflDtC>cr)[!X.%Gt7DPUG_BCe8YSHgts+,Cd1+>VTXv(:(TsM>M:*ki~Lm4S0M*P@vk8vg?3ZliC.9]n>0OS31(psf=sP$5,&U<
dl|Fi)FBSb>Wn(PqnXrq7K?qf.<sha|EtK&B&a<*Q$AQ&N<$uW0WM^7r(p%@$k^890t8fy)J>>Ix&4zSEC_7&NkmEatZYRcwjJwv
G3ut$e:c@%.,1JpIK>mVIcSduMg~x+5fmkK2.bKiduWA>ziiP7?YPk&enRu.V|d@|gX[eq_F;e=arT?!^vg~KJnnq3BUKE:40!M(
BjD]*B1o:LX?+_?emoNOKR,NG5?Yl<1Y9)0YpEK$vw^ZB;Qm|RFmzjj6o8&%yt<2VF<OEqPug?E>0HSfmI|E_PA7N1D=Uu~fX?_3
zmQu%y1^X3[%Rvhsv!0F4M^aEOnOUyU,c@5yQ;16lr?9qRz.H*_ij_A.m)s>Orb.NPTJ=Nwwz*[If]sMVIWqjd$4If[r4SC6I4=w
dAFNVLk^|gf;L<l_w_yoBgTwxdHE=a*]Q?gzXZ^o9sG=A4yi7K|CIa(C?G%tO|bd)x=8[S9.^tAuXDVIHE*!d>;v%<[Az.+R]e93
v&9Pi)DsW70h>p@TgQEz[(&qcq&E+M7+Q07Mo)PcM5c9Hh@Cd;fU~v9B9;K~vk3+D4:4&.i6$EE[UCf$IEET=&xBkNQ;E&=++0hU
WHj[(L(yML_*[VJVOlO0UeptS32Sv<:,)nG$y!6Lnwh^<qwI+Rh^:0vA)U%DSqYhV,GCeD,ekGLN+(1sl@wOwk5R2X34rCG4iMD?
zmC+E8D<EaPcNKq3Z8t$3C5(|[sJ81naN(;oL&)XOA=L;rw2:n]|tkdDpTT?4@[:DeE4TqAorkg2G3N!2]=tGh4Pr;j[rwC7rt_G
3*~4ekR688e<x0Zjlly5)%![yZJR<_~Xn]zXi2OZc0WiRSvlmk7yY%T99ei(L:2:n&vV,)BJ?l+qIih]rSowrlfBc@T6QG0=tIe(
i_o|.Vkm0_OpPntf2Uq32v:QQu53bUPyWy0S&rvx!4g48+C)1Ue%z3:wNc]TDW&0tdg7<fvtXQZS~(&BL7S!vyEVB%;f6fMQ>LhL
!ubXv;JILU>scn:0g[Rv|5A!FQA4I@xN4X]Jb+&m(4do^cQxJEi1!kWxJ5H8lbAkvFT8h+]08ep_.;|~sC^=2K9|b3OWVOemC=%b
4LEFCq!g^t5JM|A<R>EzJM<s9u[,js6H|pkH~i:o0;(+^+uA%a@1gQCSpkh0bKIPS|Q]r3I]2aAWg4^01,B@?By0_xiDZSyzza@)
29@LxG>4N5_V[ry1pUui8$Q_ms<]BUFN+]]jSA_DD!^ptJ[&JmPn5tcyrl[GY01x>8w!,f@+u$?Y[UQBb)bGSdDp5HNcf@Alr)YG
bSYFfb1eH6m0^vB[,4CN4dUY2svwqdgN20JGzjzLZbqbBR|n|R9YGAxGs<%a8FG2PU:|)cDGLrh?M5T5DlDn?b<lu$XCYj5enbCE
57*gpKB@t.ZIsnH_eE3$osmerJihA&I|1cc]@T>a!@>x7o.M$lj?Hw.Z~IHKU&45kqX4JXeuyVjw2L+Obip!>*$o=*iJV1p|Rm8A
K$@Ozx[P3@fL]xw%pg?hq*R)nUci7X>5slR%CX;*KU8)bdQ](OMuc=?1Rxq>8uBYWh7)j7N93qt*Ct_2zXTssij]sCWvf~R+N,F6
p~:+HRwJ;c|camGGZ:oz~)]@v9y3Osjafadr$wFTi%8$yW$SgvW6R1Px:E:l9twDM7^w^BnKApMrNr<h?G3S%m3bj362cV+UM6=s
BGb,rWQm4XGUrN;4(H%B=JYJ^C_<QOS,lt*Nq>*qt]a0Wx&Bf[tQ7p(qPoW*nx(@k,n7y>DT@c^&38BPHU1^OY9$S@n.LSwePZO1
&WhpKCYt$BFtlZ+.?@:jejypq=FOP(T!^dYeHr1y&&UZ,!qM:RwjQNsGee@bB=gyMINXH6%ind>a:cnoG_Q=2aYkCwvv;Yf&Qo1a
YRpW@<q^qd+VvX<UPpa.xIl55pgjs<e+V]OXq(!7Dm;s;o1|X~CbxJrS1PD6$hTbA[.)6~]x=KEeDvU<]v3+7^2sXLF;hj<8Q%Mm
yF:MYAsh<.J=0wSIar_of9BQPU1.HY~a7_[)r<;9g&0@(e&t*)ryW]sHLtw)DY]yEv1:x&N4vC&!IRYs9Q~r9b>_GSy^vTdh(Huz
D:HWINREi_H([1FdD$u=zq%xb=Il(Ix43>1D_!$)LAgH3z2v>zbbR)OZYc%0b|Sp..Xdf3V],YjF)6d(zcZNBjL@0L|y|o2Diwh,
@sVIJA+=|7ME!E*?IdN@5g8%XGsYATI!.*MweCR.t@80c)Qq7TYQ(,rXyV=P.D|Q1*^@)3ks@=]@vQU+Tl~8ui6:8KZX^Wae;@NJ
yg,_h&qe.m%b1+d1copynRSXi5H!@;SKLCeh,&ZZ<%qq5W(sfICIr.]NC9lnh?|A<H+APyFq<9jY;A>cmd>$AG$%ILX$sh:,4AzP
_C1t08xpCz1T(XjhTef3VAqj4VwylcZ79HU)~L)aqf:ZH<NDQ8Xa>pUQJB@kBiEIm_9:?5nUZEVEAS.Ry0uS3LOBnFK?imW3xWdx
W=2)wX4cRzRLks3ws^AgXYMQ==pUR(wgO,11~]FFD[pWC@9bOWpz?5|2CHMy9b)D4s1z7rDpr!w6pKYEJaR&Zv7Z:W_ptUYBwYa@
j).<mBt<;(X3jp;Ep$sXexsgn$qdkHW?|9pH98%DzqI1P(NVm!*|Ky1Y|H6Jz>,*!?rI7XbWHu5s^KVXAd+Jt=.T>*X!SWY8Tg~?
GO82d~^.gpp>HtkXWMww@^[niA]gb.)JX,T@86!VvJDXkl?~v%3AmOSrkCulJO*zos2]_LJLZt*todxtav8m^pV]>YSiKEt^:!F|
)di$3^)c>]9XN<|oFZaUZAnC+v@:e?Wo,zS[]c73IV0VE3%GWP[IoL:*iyjDjwG4EtGISqAeeS,*SzTq$MHLQ5cZU+MSDfQw5vc]
zjitv&Zn?E6Q,]nXlPd:QMWSRn7G$5y6<Vtr7a,e@FV~aEkF)dRHAE8k)i]=mfB?aCrfw?YoO>(.AIq0qQu|?[P(xkYJtC[cG2+u
M:GUW*>~h>Gjxh!1SMWE<nlsmpE4=5TV+ps%@X+V91)j4G&AvW1m|&wXpBL?,Ab,_!5J+rZj6Ia>u~!d1pX1>8bP$I6X29,xtgX1
v[%[|!sXy@_cvb_X6=V+kKG)GU|x5+P7~p^kgMC0EA@x*dM1QMvhkQ4Hf@J[[=?q%[_Eb|H;=)@35alI53rLk1FFMf~_&DV]s4G%
SR1g,8z=I:r[3~|CqGTU$bzgAw22Keio4U$b>7OuXyaZx_s,b&8A)eKR9GNfYg1nM[~n4sk|sM&yr.a?6S9;J@WK3I!un88s!vaB
3u<.UH,4m~.?I%Fz!Rz!jszRqde0~$Q*8_&<EKud0VbsQP.VD>FMJ9[DQ@BwVx9Ro!9um2(k2%bCnSgh]u*y[Dv^rG4m<,w]bi~Z
WqzImU0uN*nB_[0]ZD7i)lP2vQ?Y5Vb%w[_I>7b[VKGG=l|nw+3>_k7yqH1FgUPg+b2+Ry&(eg?]]+@t,f60OQB%,D=R;zEo^G_s
0_$$+$xmOfG%(DV*FSA2?R9?w?cx,kSx.g2Z&r2Rj=t!4H[km*SD?!wW_gzNN0T1&CbftF3C*gLCkU6Xv<?m@9Wh%vd%.)&)LQAh
=e:&_q=(xrY$4z;k?EDkKV+NGn]+p0p.@*iIwv5<DH]@DW1$$AY~Q!@c27X>r95Qkx8DMBv*+NY+Q0ADG@FDK4>$w6d&w[Uh4an;
I6(UxTYWUe~T9_JLFch:<C5gEuz%MyGi,QFxJr$&,x%y5Em|d!FbtH^50!qc1[]5u:?xc?4U+K9[OgVwv4cQdJn?+6oH<j|XxaSV
_c&zt2x4i.^LILKadG[~P$Tt](u@Wq<e6H~OK=r8DIzQ%rv^ej5p0Ma?skKMKm9vG6iNw(opJU.&YC33VM3DM^EFug;$,@NLWhu>
Q%2BG|mWo>2A9yjEC2?Wcj3EV3m@?g3w*er:QDk~V@f,[k(izV+hAsBw98QurRwB3m?.X^zI>Q=O0XzLCGbe?ri+.xSvClm.jUgK
>O._Y[[PJRd<1z==F(wsw)QyK1gOP?)ZtA*56;)KZwWLaJ&7_W(xk1LRH^ZgMAl)i]^+vu?Z+9T3]uU;i3b)^S>L^>!i)V;E.k4T
+&sCjAywpR9()2FyzaBJa;(1E!Wz?shjTvBG!8~SYGt.nDl~Bh;RM<aLky0ytnB*T+2Pwrgrh,518tBTyJNK~CyzqQ!PZN84BB^S
W9YcVCbh2L_e<vr;SF)&c*nW<SH]c&DOhWsCFZ(dAR;(67wSq[zN0Dbbo%0vmtV9*~)!yWeB+&w2>O8tpx+25<.TjPXplkoR3s&[
3TNSfH@lK&HY^Mz<KXsG>GEkV$T99GVfHM28AGKKsn(E!=:OC]Y]iPGBSY]A(ND=trn2=KV8iVA!I2]w*NVNj]qz>i?Jd+AV+|D[
.0rzlf^=H,Hr[!HNHBjQ103wVaFXvratpTVaBk8WkK3POI1Me.~IDXam?T]dX:h3,(wOGk!|_r)aU(PuJ*W5&D|$6%.;<7.Ly:W.
kwEauGP<o]?bnNezVaFatWX)@,Si(UzRhZy%gd^780;[4Cy,>dAz;3A;_5j!Y)y.|E$V(rN6[iH~%349Q[|e,hCQD2Hy9SWzykA?
S,ZB!f(U<E)CR6n6<4yFn=<Ejbms*Ju*e)wtbP6a%3=M$%.C9sw|;8Pcz4!NE*C;3+>d^3[$dfg(ZE9e)<QZL>0qem|BvNfsp?Di
l=7HnBKB:fB3Yi^&Zj&$+P]W=Pa[(em6RYQgSvplALytYDQ%5V,+PSh+)QNuZQ=xO+u[J9z%;AA1|BugFQu5BE8[>EW]~rJ7_3x(
g,NEZ4.cl8,:s+S<i$E5hA,CCkJo!oQjTzj*;_!!!!!"⟩

end ExtensionAudit.Text
