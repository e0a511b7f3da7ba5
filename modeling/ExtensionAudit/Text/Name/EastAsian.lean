import ExtensionAudit.Text.Name.Run

/-!
# Names: East Asian characters

The names of kana, radicals, forms and the other characters from U+3000 to U+FFFF.
-/

namespace ExtensionAudit.Text

/-- The names from U+3000 to U+FFFF. -/
def eastAsianNames : NameRun :=
  ⟨0x3000, 40831, "qqwC2QVv9<9aB%zIx?usIJ@idm01]Pra,6Q6y~k5QId>rN4Eq,^oVvc|*ni.W5@iwQ@nXqdKUuWmj%&~A
>w@s;UpSuEie*dFNOnQSi*krAs+&n1i)J4PXwqP^KR![d,=c0YtLupsY[suS[>(w5eo,*f$cz9PT)ro.9Tb[x>|!>E6MQ8BwA4UJ
^nWpW1rsGfQcCE>[)*^m!=BK&o$0c+43,8x|pzlNEp8$QNueW)o,:fYnDww)[sr=D1FZtTa5b,%yJcpXJsQtSXV4ZKJHu[&%kz)T
RujpWrOX)7W6efxggi%9dJ]CU:%vIr)1P~6;_47~~0XUQVwpo[k,smaTNTBzxhW1+NG<4RNi(,a3C@Xd9Bj^KFiIO5>cs,x=OPNY
(G8)$ad;w~;h;GrH4rxyw|qbrrr~ilvA;fadH80;=g[ws<7Q%<.us=p:FJ<ke_0*+LmxKmfJHp3njBE6(7L%(&R~3H4s,wC7Gz6N
*v3:TuVEV$=&xI).ZmS^[ynotZbM|t9S5><DXmQ3z(QVcPREyNOsO+d$Iy!wXZA7rbL^fNE8sGEkx%>x)umiO4A]y!ZSik(fc=sO
UvICCERyQDkQC1:VO9=pD9D^u9s+[]ud!(=2d2bz4dId[,!!_tyD1^$qV*|r6;:cJy*ae(o6jJdk])V[WTn[4KI*<qlMtQu:LPln
RL^Kjc3;.$<^OzJ+ajF,D(T5BMaV6&eSugj+;xCsbN<>|EL%O4xg!Fb_pV=V>J+:CaoHxLwU|HC$bSzek)5;*]s*4RiPIaw*yScf
<H7zl~qxM~!jmNY)>Y^?<j,f>h3fe&ydwSxnvLg$93RqDUak4cM*7lZ[3%~!*hHr]lRHCQw5~O$j+.?4XXD>hW9F<+=x?_44MCIr
NdcEF5fR?pHej@P^S|kNw:@<13=*afpl03qb@pZK9=5xf7Bea0+LO3$dI.=P|+Ef,Zd9M$_5IHc:7i<t*=,xc!;vaG^s_i[+D_Y?
._Rdw_$@R$R^+pNF6[d<s$_IT$YTaqU~|YwEkE^SEn(1FWm]qxCA|q7>JDXk04)HjH0^aMXrW(6]6:Wmq1&[GKvPI&SPE)V:$og,
J0x_[El+MJC_GdLwE^3G$|2N;&R0t*JDfYJnBb9zF>I<2+1Yn(KyGztjZksw||?76lzD1&9Oyig_CL<9,u|chp]BBv>Ciz~=4XA$
HKaTa7^(jebRdK7.zV;Gp*b>yex07WzATh;x&TmU^lMz@>~b%cRkxYf46t6.%wQLAc73I:Fv!lt($R..ppHf*?1yGy+jA0)GvOz$
>ij4yGuS%;$v;5Lh=4>@[56!YU0YT@f8+M|njurqkmmm|P8i=nNt1FFN9k%);6Q+5pVpV<>xIQs;qaB*5Y?&kdi,6A*$T+5BK_sO
5|x|VKPr5Mm~Txv[~~,uAA?<x|tD<dgvedUOAI2==$z5<o_PVs|27UFnI@daePsv:9s<sg3<$SD+kv0%dBq&oc@c_ra:N(M8KSI(
yU%C5~7Qyfsy+i?hiu?jX?J^)pO&lRD[]L=*IWa2&780OACvwM>hJ@=m*GWg=juNk%)V8Y)U7PSA*9(Hu|Q6!s8DKw^7C)[)*fb[
_;1Y*>S2w$v,z*a@Nt)jrP,Pjf)F*X]1ZSLBhnHk9KJh@w|?OFGjClJn&=wjhCPo=.2[s;tpr?Y>D|xpj?xST@xC2=QRK<@iT4>.
~z1C0<,82.CS4rwkTQ;&&IuF$w(h:Of24^]zQb|GRZ*>;(~WDPEdW(wV&LDOSg:k[YBds2PdEY5qsT,9s5bJu,GVi*AYP,$;Q_nD
a)9>(:V)gpC%3l0V26WjAgnz2Kq@ZkH|wUN1lyyU$,L.y%GmP0OJJZBD3cr,0KNJ<oJ786<39M@^DNKM:Pprlqsx3&kCS!|8@!.:
!K%GR!V1uhx8bjk[l4~y%2|q4;@|9fHWt1s2ar>:%E<.h@U_P;<B]D4DiHAceP7cGu;!yXv1e*QJuj%bkIwKM14Vd4~lhzOV1my9
m;c~i.~~:U7.P%G*@9Gy(>o*gS|TvHT,pzVu(T30)T]dvyEMY3bNnS!CHsuuWG&c:xIo@95)R<)AQe;o[_^g_TW7d2lc$cHYUpoi
jaA&=_ZbL4U;IPAT!,]S]!S**X16+ln5Hf,=eo^c9L&j.PBx2Y.])hbG[h(u=m>)IY=)@+2<+UI=o7i2Ir&cd(PT4N@%vSshWLVw
uL!mAmFn3s1|ZuNJKs;l(i5bslU]cq9^!PIO??rWCs@+T^F7R1@M+O.Xhtmi<J%3Gn1BC[82)v(nyV!urpteIsXN4UiM$FzgJF.q
TIR0T@B6vHL.u0iWZ|E0+WPYVXEr6KHNC2:M+w<pNr59?JcU7Cj?~NhoIJC1;RUH2WUQ9+x(u$PsaHn=[c..g&ku0?,].LlC9LYG
L>@?UIp=KpG_qf]<Tr:)75vxE_&Y(!yfH)1%J4da?R+n.z>Fj|hy+lh+muj1ESIEJzs+K|S3T6G?!pxKF]Y;yi4dIq|J[@zH1iW6
0W,q^];PDYO=6mI2<%7gJO:dgdgQ]1k|WdQ=g,HwAo;Cg?=|xXbK4$)40[AVhEw:ASzG@g;77Fy7$Gt60]T$:z^x@4eA,X|k@*QG
Ou6bMHo1oevG@+?ALwHhbHM7$NP.F=($(sJ7|nE.[ml;CYL=c;=36zt_Kq6Xu(G0ZP3u,3;3,QW_,3&G]O5)P[7M|j=!)nTtx>KM
q^kq_3shG_Z(*;rf4C;Vvd^RX$dBU+J!U:9]wd5~iEI;7I4+OK]YirrA>f1Fu&&aeB$Q=;[U2H[2^eqp58hqU%U?@ut+$?V3AW*F
=D1P2fGI2H8r1~hsjHze5Or]1FG)QaNJDxW04FWVuKr(c=9g>m^Skc2n1786i;EO@H55C0[BBZd8a*@~9^0oVe5u:h8cUHIR%7~~
ZD*B%m=BnA6R*Al59[SeNAkZannK10jXLGzW8Gl,kVQ^E(qv+u5dA1QJc>Hsen5l$iibs[;E[q8+Xlm!e[M3UF|g5G9EP(Ni*K2G
94>yidKN.]HrRn6aq,XztJ6,7.WCLI;?t23TUW5,i;At)rW|4yJ23QNNp(2GN<*ww@BzGZbZbQ:w@n0i198lkj_[.JICb=pgg[>a
&zF.^$]]=3P)^OZZpBBv8C0&3PdmB0C)bt[@KXnR$Ev!?,2%Zk@2|$IvKdYQSX]W@kM<&EKcR,jEX0M6.l[,h$>+sLAv?)u2Q$y:
8mVO>8rBZ*kdN4*h,6$^YQm>*yVoyf6:X*<*<5|;xdhkL6Q(2mL@uyNC=K9ac!;g|wc!+e=Xp@jF3qujBhb*Ax2..^I:p9Z@|>js
o1UFv@$)I<$jLDI@*3?,T|m2Q*?Oord+a<txcuIGf.J4S(QAhkmc6SLZ@mR9yzkVMh&E[;M,|JKA_n4)eQ^_YwNcTkD!k=64U59n
4(H&xyYJTX55gqw95BEpf;W$3qyI!86<w(l+pz833Ra0XIkO&?%]9@!=J2[6MTt_c:Ny[DgQc:S3pu6sE]wM9x,~g4G%U$]c99@5
>d5gY[Rqr!c;fll7~>M~y9|f=B3nG,KMFGiy<AbKy2@3J,_TR(R2p]NaLCYt9fpcn4wRjV>I>JB!0u?=.E>w+(ZSKLu)x;F8m6)|
t_yu?~4K1TIO3])na%2m!>|MUrBc$QxLt6^!Y0bCm)kwF)>nhr&Ag:9U7D=GrXNEfcYh^%,g^;HWGD%yF[.xR+UBb4kc8+Xf@h.U
f5x5~RHlJ2cX.5F97VKpn8sNm0?uS26@T%tY6ovQ_>wgSP2yy2ltK_D2PQ(F2n4cmaQeOS7+%sYy[^NoH*VUAss30W9et~(B;6*=
8Y=nHeISIM*hjuf^nvLIPc(f^39HwyRF!8.9My=Xn%Uokk&!gI8!A5w1x|Bm^xsibrU+YAvbsEUtZd,h;vK:zmFQO;qAW*z<WaL>
[<x2*cIVgI_Ru@n$+UIM%v*P=Ccf=Sr*@kZcF;KVAoHiL;&eRof&YE*S]fsjMl@dx^!!VA_~lN%=[FW%B;1Uoh.d3F5oitn]Uw;]
l+Pww^^c5j^Tgkb]V5c2Wh*ll7$qj2.3)nobLF8[vd.5jqBPB].J+wwghVtRLrHI878ZE9l7[UpWztDe?,ehr&nJ=>)l8&2!N*2s
ID%)_gqj)syflhC,0hHI58Ry[%l$>11Yr+&Tt:xDLggIa)bDiEbPJvHq.^d(6|??(a$sw&yFa6k$k5!aYLOQgGNi(*XX1S~0]Ic.
yC8O6?@_qHJkv_)E<Q5smAItb1qbt:]W(+PFDxF_f3Tqun,|3h@;I7L?(h*RoWP932iVhQnGiGFZEl|u~0)t%y<o=q[]f;ITREv!
[f)(lgh<($LDRw!6=Rl)r6oRl@uURh,TG]1.%)VFQ.$lQPB78O_)*xW$pUUP?z0STo]0of^<b_j,6!Lv$GG_H[*[>f:+HRbV,_$o
eCbe_LVC[(GJ&yOUugiFI1oezivRu*5Vt[y%Pjp.Nd9Z+M7Fj7>moqcGXnh8[uKs2NiX^FmR8R<gq<yTvh4LBqb<J]R2j2Y.4@w&
4rRFE>o:7Qw9Zs*lA7]~x&WGs_>|r_$7K3&pG%Qc1G6i1Fw7>J(d,_sT19=$AS%(6N+8oXs6F<%DRtrNWCksLGZ(%^Fd*zIfP?k9
ioW^oro(fR*g+XRZUnqi,xEMzj$5anJeOrKl2QiYAUqy?((co!D&V@76SCA&q_<vVa$L5O__;0iSz?j,&iKW^C3u<jFB,4((%gLp
!:Oq>@x;*=UX!w,>,A6*%f3R.OPim>]MQjP0[0P)yc49poYSDWXVnJ;Jsf4jRK$t6sKX>0E@jLCxYCfnZA<@AuTWGc7pD+R=4ru8
pDRdp6>f]CDC,]I_,I@Gk98f6Y(C~dRs(x1AMROi,(HV2?2WSg*XM@t~9JMaFT1V[1!RIVFWV0:p>0k59R!6@[Vt0Zu@0BKT++EI
I|3LP0+L|49%)Dl6rvxP*K@8q!L)KgvnVk=,voyMtz9I;MzBKu_iFvv&o+1R@ZV>p1X;2Pp=$IEIBvJj~0W3XCXdB!|QaPkMW@kN
On$4j.mEsWuA03HfPIhX.A0PqfEMpxp3eC:nNJ(3LDC;mpyCibw*VdEVxE:VGCS*v7Z@(S69j%<p&&PCShSfr1k%XiNX$I,as^G$
vbBgBvE>[IWvTZ<$N^U7!6X!|$cduKC;dWoD0nRazG>MT*0$zBdILg6t@G+;@)C8.G;~Aqto$,XsxDiUZP]*q84~8N!ODdgaZ.?)
B&kJbOKC03A=*I6X)(Dow1@qY.4GNQj_ZR>G^czqr7sP$,V,HqFFonRsaQN~zk9[*??3aB,AEar5sdhhIKR$?[Qgcpjq6;Fta@%h
bZ_DC6X=kvC;OkdZEzWh26WEYBdvxyLlu9%5wHC&J5OfkROzM3irNUosaLM|M6z~rIfnow>3cUsI%Y,pP&u2+7gA$Di_lagkB@xG
Irje0$o1Hip5I)Ukv%fh9eGqitMG1?9g+K(3g,rz;:wXf[6?Wzb*6:JwQ!|yfI924qxIb9Uuj$uFL:X?PFH]F0YpvzR%FhAQiJJi
|z(tB[RZO~K~u2Ox<&f(%z$&1opB|ulz%eGg*do.DVojq<V0*Q?%K~fBOVb)Yk?[d%*:p).EiFU2R6kO8!,M%IXb7+=T[:S^xW%i
:KjuGD<P;7l;+==e@0M(Fq%O]y:pJUAb!Cj>u2LwDT*nk3jL78e=)yOe2;2,uHiHP*[zd.vzY=]9?(b<ol45Pp=?[jPd|9+<R+iH
VxQ=7Od+A(D]Z|&r:FJHcA.qbhYE[QpB[L,v&T^V*8,N%Jds?;~D:I3jU<j|u.k_KWE|FHbPCqW^4FhWcH@i@6pive^xpa:_vn7y
2V0I=PO2>iH:Iy[tsr^62nr;b~fuu=F;s6N*GXFHFtg1(DODT@d!D:G|z>&myHa?UcNxwPWb|_9lPy&1=[xG|d9ElUet4ab~5e@f
wSz6_5~Z%72nsW|fi7a^@$eCETK)0p:%?smlaw%[)mONtH1TYUh&|?xkg:*lkLJwPeX>Lhw=SZFMjr?@9QeN0q,Q0sBq_=JqyR?6
yN0>^0fMa(HWWnHGhAUfu%eCLFY+Ka;(aQps8j9Ltl~zhmdEx7Cs&kB$sOvDwbuQ<pGtc20tWBig]f*wxn5Lwe^4<;Fk++5uMa27
i.BW09?fxxYVk@~!cyhw4kKIb364,K5XS_@DGIXF!D|4!d|4p~~F[$X_G!)oM4pOb)pFp1I0.TO^|B|t!MTR(Eyar[jlG2?kR0%=
&Fl^V)yct4NDT;%+&!PU8D3I<axn4V?_lK!^l6X1J;J||qR(Vb^(zD|@4+,F<TKLS7Bt9_TO.ZucP4sD]?pi@b&@(nlVn^e;5v@:
OzT(^o=VdQkDo>+?mQy>>^>%b|pwz=Q73,HBS!1M2UYZhz+T;1o!CQJ|2lS|i;gWz[U?@Y7&Q_;692ZzMw;RoUN1mkC.Qb:eqgSy
cH,7&GQRekT^Lkc4zIB5j9m)+dMKt4H(qEr8kR^>X=y|JZK22aScMwl>(eoy;T1[ti(.BB6VP_hkp6?2SsKn<pL&wcd7nY%.FjiY
~@F06Y5?.xEwPay[sJ<OU$2o+m;Yr~H)21kfVL<zf2h4Pd=a|nBSY_zgKQ>MwT~p0,r4(ux*_5anAfXPWaVfRYrx7Traxa~r9+%_
Q$vwh$Bw3w^Buy.DQX5LOf^^c+PSthC6PYP6u2(lmqj_UZ.F=3t.<+:(mkZGL!<eyg*WEG$@iU?aX1uUHv8~R);uqDg~YEy<X6P1
@dPoiFhL?^s3G8T!J@+npjjRm+5!5%yM4&U<^mp0@%=,8[|PhK;g5|v(@eOD!ULzIU_yC=K9!DAb+>VzgTk0WlpkIGp~<(eL+^>r
hF,yvu<iOC1e+0I(sYJ_:c1u8EZ,4Q_n.2m751g*tdS4;_5r!gemRVWpWT)Go$r3Q;2@5%l7s2BN3)UI?fT.4GQ0j!N%w]^5=%~Y
m.*lhF7cS5e=I(P;plVaQEFSQN~G|P2,rXHe?(Ckl1HM*Qy?zl=M&$9Nei>OdpM8rH|iF=d+uKKk<wpd(5Z+>.lZG|,oVjEAaFET
Ys1!lJPeKv2h51k7|<%$sfD?+$HVO?PpUUObG:*~,gD~m+h.?kA=l]Ip*.d!|@&O;x]sm4F!>[S~8ULYyd31Cw6CaH=.VXhJsQ<y
JDGplOD]Iwgsz05=IT.iLy?@tc6LUFLjJ[nVd|izHfo4cfhK!Vr!jHSb&+mQ]zqDxYSLLI_k*Pm!+>Amkfe];n9!V1?o6_<zlnjc
o~(*9M:uHeCIM>nicR_q+ZSkF3tb3NEk<i!W57aJfkU6sM~cr_difBRO|N+h6J&wlqQ)By,S3j41_2B&4p&P9CX^XAqE*C2:L)|(
yNHADW:60X;YT..vz37]$)6n_syf3UZ4%684H(S.pKUOQNF;kn@qEpD<n~*jv|pgtvrgK%:tik!sKS5rA(x?q_dxL6=HaI(wLk:[
!Q9d;Z<*U&=3y5|M3Z>R41*Q:5Y=$Y9cZ&&lP&s7]m~!Ic>t7=8wtVpe_Lf8DCF*H!uojDqmLoHTc2bG5zeOM9iRT>C@pHRky4*q
0?jM]Q<DR[vjWF+:Qg)^@!|;N%!K%H;C.JhI$CmN,A)chaC[mn)4wY;5mg2]Fxi.$ikL7v&N=5Mu+9aP4u[!v3qeEm@r&5WofU[*
uYj,+A8p7fJ:q[v?C,kc(OOLiffr$i(yBl6w:VM2B+LXc.iL!tVzgH5l$_6n4!0i%CRK>qIFkP04=$Y>LhaYHfXn$D,yBUIPnTQ|
!i]s62r_EiMfk5Ot@Au)tlMsK3qfbZLz~sI1s_7%,(py$izU,veWu|KIn^|nrAQytZP!(RWNoJ:?aU9!>Ie1JE<KPgaPzvkv|c)2
i*rW$q(bnwi^Knuf>KW3G5rchgtv]B5<*c9NMfgDt>zid)CuTYA9b)@>ssQs_C1:dq^c6f!H,CdBG%t%$g>%th3zza^c(1dQA2>F
TX]or^6<mRsdzOvR3Ql!qDh.W^f.p0wwmli_tAVUtgP&(I).r:Fy?b7NUPqX18*wK7[FTo51ynhdQ$0bL)fPkjq^yyC^sB*g1iWT
+i9B,TDnZSUu!2wId0ar0uSvfvK%aM?6.6x2oT_HpaOi%7eyliYCs4eR>z:6uV*5ytM[B_LKr7?6hEEWl3yM,rn,S*jiF[?O~0al
$m4oJvkyl0$$K;R|<2qdC^!l++>KJQ,AnF9UR&!hEfW($*.@)R3)DNE0kh&ql:$3wys.3=?tl|@6b8=M>(DT[+E=R?8><$UH>cfZ
&tEB=)u;v$=8,=SpV$[M!AZ$?4[A+Uk>|K6=[|+lylHE3VrV|12LKoFRo[p312~94dHUh+w+vAlP2IWIm>!_S|?df*DXm_Y)IAZ%
t~I|i1YiA0QwH9,=*Un62Oh0B~4K!L:e~4)+5e)KICN]HiO~Ak!yFl+v@59UA8[zJO]^xdlx*Q;KhkD(z!j.W%j~<J00nZrZf4Gf
L[|[n,JAXglPq!ou<oPbu*^@0UvHxM08x!$0A%OJ]?hZ[8<J&6Qs(?=J(ww=6woWo;:f%=,Cs@m;!G6]bGP0dKtyy|:Tl@TovY?f
w8F8Jj=t,EA7Moqk5xF.C1j&wvigz^]rBZ@FSqAXw5pfVVmXct];:y%xvfE7XQawsr[8(|liJCtGTM510V5z=aTzt;FlCKrD4R(L
p2A^4+7IUL+qTg?XIyEquZ*ab@o3KCR_vfcNru1PVp:s(SLb|km&fZdJ2aJ6p8Q0kecVs.0tw=wRl>25chhBPRuKq<U<Gg_?*6+y
lREQ|9@cTXXN!OV0!p$+*zIdbia>XSJN,,.E4%0rI[|yLOU%+&SkE336eqbGLs?X<s3K7IWgRyoOv;^CaW~!M~QQX%J<,8[$f&DV
|<RhRp:3*q_Vc;,;MjRbe^,;2UGU1I(Y9~H:4EvF4Cg|?8UJbQv&ARdcvN39X9W>g)x:+$U5S(rwHBM)o+.Cila7gY>3H2f<RWy~
aGfT[x3Uj2akagJiX:Ul|$S[gvOMa5t*9_?(8oo.b2O?FOo+]if$)@]5FSC7x<=07oylAaM535MrjOV1w293P,prz[<7PGpvdv1f
rzrn45iNPF],]~m8Nk3T&,Pu?Fflm:m(aHtI)Bbw1F>u+pCa2Pr%O5AjF^*|y6Nfsu?t=+<t?7lLN3IC=ZxS*J(f045lnLrLeBUX
W<1WYUX=W8G7@zF,^(aV,bXkO8)XWg;Z0kB|&fem0PbaQ2ldpuMlfRZh.):[:MN8:4)jVxDw6W!9ymN^>=W=0w:a=B*vU~4~v&(*
_Ogv&U=P72rXUkFzfZazeXw)PDVWl;YHfi9e&y,,cs.&%^,dRWn,L$@3iFA:6o3:v@hd2uGUho:mkFmyTCvxqrQk39@1aoBf71?s
t2bZsU9Qt)A[Q$TeGj6()<X$=A~[U&CC?c(~@xU.amvCw4G<CAScJz:=.@o[PaD>4lb<$=oca@+QP3:rw5^384R1o1I8;=*3[Lp;
+%m6FLw*KZL>q44sJk|1&l=H>SV?okGLu0M$UkWa4>dR?1U<M.uEL5Zh^>+yfJSX8d~ECtdL&X(~Nq&I2m$8v;Sp;%LVJMD~ILVw
C65sX.UMOa8][6]|KsYy03M2%uf8S<;:(uDtyb)3Mu^Dg!BgIlPYla7kE:1P6a@M6^K16A90Kq,1thX[xv44W$U;B,Y1B28.4Z!T
qqotkp[6nv>wFy++hItKGvl7GUGZDe@w7C@WCF;@%E69rWtiU5ig%p=B1f!)T$;*KVB8$kREv1c],>F860qJ9tEgd[p?U>Z8,Xgh
:Fd[8,eq(Y:Diq8LqO+9UlSIs~F&YmPNpGC^?a0:@1_d$;XITh4^,20C)Qkk8QSUc;oH~8c$%|V;cS|!Nu<bUV^a$q(0~1ujJG.d
Ze_cWp3Y&G;=x5ZLz=z&S2A9objofDNIOzsKJC=gdC2XrCuZr;Y:E<lp+pq@M$&ib8H;H3|Sv!xFPY,fx)MMH!+kM(wB43uh=*,o
=&VhPl5S&dCzpfh@+owT](w>Fp4.W_&BSgaRSc_pSuM.i.NM81o,iOS:k0^urUg=FXMy(|dy5:JOb]|X>v8iu!v_o1u|^t1&uK6D
Pe%0^i<03NhtvV(YIM[T&UcRLh9k$dOfJRi:u>y4auH4KPD>:@,Blq5Ln;(nFe0*H$hV%A8>z,H+M[~WSFh2TlpFT9ex2i84J|?0
gNx_U)X*M8A?c67f]VUJI~?q3e!t67QaGLzj+@HW4j+0iYR;;xPEI;?BK8Zeyc%*srkli_v=&nn8d+n!$plGwj1&c.6<*K$s:Y+C
EsmQx8GGG^6)!jY8sXs?_w_)iwSOcfU>~v$4W4X3Ckj;GC8<;rjmO05=jF%4pw7gt~aFh3zv3|$G66kgw]I>do6rmZOUucq8(tIW
OO[Hd@LE40)9[o:B:RSe:)mT^NASOk2CG4ta=Jfg&z+kLqL+U0nc(!;(.|t7AA,IK1KAmSN0C:GUzXiTTm21T^Ab>9@SJc3^m.8Z
2qdD_k6T)%55KYmjj5yAAlEW<euVpH8dO7JHK|Tf.)vSgUar(O)+5Trpov3==6aL1V2bHT)C!*>9$*UpK$nb^%l2Z!JRmY+rX:GG
IfQugboT~Khb_xQb&1_2BK<qAkAJ^icQOjB~<CBvWQIQ<z?0m[ZltzB@b:S4.HE?%^<?S91B3a%KwSHro@9T~oaGPrIzb3L(,L2<
2Fm[s[=,mSlh^Ni?Qtf[*,SR+ycr<is,eixy)UZ;Fq;*Q$u;K?Ei3^6;yT;.Q+&tDzaXbC@ULWaC5)hI2X]E$VaeQ:[a3zwrpBD)
Lmh6]xT9Xrb4sbs$+ON|mCmwz)]O~bGsMPVzKh>u*PwnoZ)~Tk2j:eLZD(qS]0s81uaJEEa,[wB+;?]Kll[O6SK%d&j5Gm[z=!HK
4bftZLnY0DD:1!aDV!e7]?el68Cs?d=ZR<*;r?2$:Hp!<0.i^e$k;56Z57a<!c<8@iVIM2[S+LTuG,[:Pdb(o>4P*@H%e[$sZa7Z
Bxil~Y_>RksgO,>.)<]kB&0WBM_RP8Kx8>d9z]xRU[ZTj.Yyetyve<][B^<0+8zaXiu%rB3Ok2bNYUqhc5]BpxKOek)),&pjuJtD
BLAY;nz%5L,SVO[7k&<s*6JvwVba&$3g%d%Us5;l>zS|g]1Qg<e%X$@:3rEQ$?5.%f9BH(O?x[B~PPCE_~fPL%AQzDJZ!IzZxw7Z
7KSsI]N&|^)Z[W$hXI0Wno8ScgpXJZHkufp]lGkHm!PzWPcXj9tR7j~+~H>FJ1jtN|<=,[pc@AkTf=VmEmyOcTq*0LVw]2(YsQFw
u)?R)+D19bSerU_55H_GFtOvNy&pApbYxDR;;LX*vs+Rv(Q:LKQ9fcaX[%T@tH4=RVaTwdcczdJI$&_Sa?6wY4L~tO_X$W<lqC&~
67WV^+KLX;HK8CZ;AN=<9I[N6I>P.>]kYYPA2Qw8cc1e)RBhNBgp:v+CR0Tih7D598h.>9u>r4*2.58F>D>A1|Kh$*rYbBzThd@u
3^@4Przwj4DLy^8M+Y8B0H*(2FSlnmct:(To)bq4CZo8ooTVOLep(1rkeOVFq%gP.%chsNZ4yf4pdd[W?capgVA0P6Qnop>iUWX^
jUsebyx=eJv>Nd5ZNwt@6MBtK,<f93a05q5WXwwKQ,wY6mw<;CQ+Av?<&8[Tv6HA[=QIzs4HalC+Lr[dK+iGm|4S.O]|Glq9(Vro
82<>k!rDtyBI(Z@.E.mYC<IFg@)YXH6+^Zy>>Jdz!c!hMgitfWU(nKY4G0aF[I9;!Hfu@^>+p:&M;23<;8)8A~0QmBs^7m^BtcGD
+>PC+?O4Nx5sgkA@8nyGo[8q^B7jzB?&8xV&+p1@c59W36A]S(JXxBPk2JjQ0L(;J^+vKF]lk.h+$9n*4+]loI@W$Ei!@?r8]gRd
y0[8^Wnr_*2:ns2<1=d*Z28Ghj?!o;C3;G7U5BrtAug)0mi0WMUbp0dKJjv%hrJ~B](C~b|Ovr|JlrDy7Gmh:m=kq1j|20H|M>:L
WBLX3r:<6X[M]B5fzc5qSuBydW<8VF$tKWz5tSDPZA.5i0DA@&Rhd1Dh31t,JE8A$>7J__Nf~n[7G=o_u:[Yk?)t(pOba@cbz^(T
B9(0_vX^7AA,$9)2=__G(d$Du.fvR&0bU(!+ry6y@)]Jd$L3GY~4ip%D$lKoh4bZ<P)p_~UfGZZo7x;Ci+db)]PiY9E6.r)B[iZ6
aOcOW$P56wL.L5p!*J4x0~u<4Z3QUYw9*:tatH1NU%Mu>;7jH,FkR%!,zSnHtz|)nj1Btr~Zs*zo@v7cc2@7446i^z?9r[.v])Bk
Xqp,[>^~nUEfO>dZ0|LF01)SytJ]qwYcKvvltx2Uilt_bW0eT.mW]CS&qbMmNJoH6rVFd3jKUGx+L=41IG=U&|k!n)Cc7R[HAqOC
f_mck%oiths(L?.f2ArZzSLB(OcC%(kr4g8Gdn@mObtrp|S[K(e4kU$XZ4Q.+MWz5mTS<2NwzkxX!Rti>=c(aS+P!CUGxgkXl3*I
Y.F6W4Qjw|?|[)M[R[.[.Oe<5.~4,1x1A4[4kWM+wHR7s4@Thm8y1E:]olie]D|5SSEklM2U;ZJ(q1&qszcPGMjo9Ccao19nj^H<
zT@w.IcF4u>WYm*4jWAjm5A[FWHw!t^ZH9*yZ]E09gEVo4C*NXV7]MIeoJ0;AF0yPoCuly7Eu2_9,!n0TEp^*sOA.xiRalQ*W*P;
6AK!r@_@U^$_[eAU:FMzb2r=SQj<vhb[rMF2g?eBysyc6U6k3$*)=1.Y0Me]o.o,,2,,PGFsbA2=?einlNTN7I&gHok2~JP^bM^6
VVU|*BEhecmc?t[lS@=cYxc%1oq6IutQ38(p77g4upIe1sS_w;l4BR3cQ*>(T0)Mz)!1y1vrM@JAKi,y3<^1Pa6gp6C;qBaKG?XN
[q1bD!s)pF^]pbzq3uqDwQrTzC2.bG]gS$;4FM=OFR<JUav4[*l:.c,|Ik+qm,KQvPm([uy$;9;Yoq|?n;OqA,NVtjw^@&=J6%[J
Nh|9SlnQeSff4rK~c!Coiwj&<[j|:0:WRoj^<;ny7nxq7<tfd.!3&<&QtWOA=j@_m*.x4d)wboZgG:VrfUPM$$3_$W(JXJy*)GDN
fwR!n=gqG[CQv><]E6!*K^9F+nXYGOfijS&cJf(Ppez_&ioL5aaw_%7ipoD<8?y]YMWEOExF3o8a.]~|,B$z9t;ETCE<e^8nN8!C
;&L>rTos|JaYpN!CXO$qbE6ABHvP6KD[Y$_WyjT|r6Q]y,57Ca.rCCO<1(XAtQy<_MyG8bXX1hAbfUnM>OS]Zno08W5foSJ6yMb.
.Z0ezRAZ3J%vK[ZJwKq$$e.8iWshET5KM)EsNaAC7.U1.P<GC]Ac!sDl>tnTYV+C9BeWB@bX_v[@V0X)20s93Jcgr_bcC4^0dAOm
.XWTp1ktQPeQc,e?NOTI%;K<!aW[>Jr9pN_bj^tRS~wfA1w<8@[OThu|bc?]*<w%LoG5[frmMc=C;g=a=^c@UIHM+vtG!$h_]B7c
@>+Vw:GA;Jte<Jr^lmQomU*v~~iNsmSxmRW(o,,o*];lph$!tWST4IeONU64b(P8OF6eKYKvmcU(.?&*VHDb_4:Q(>5mOv=XIP=s
^?c,,<5n<SpKMF2lu7Ib:&nS[nKnj&~I:Odfm=)gu+.EyMRyRt2H4!F>^Ef7O)ndly!<AzSsWsjQbvqp>%dkPiyL=B@x>wO95q<p
)E7i_o3u_*syXKiwEX]2<Lhry<aZwiy<OjjLU[ExRTDXJ!<y8:;I;1vp|ebCoy=3Au|t?LDyfsoow4nG[,4RW0f8[0i]w.,Ee>*y
YbWTSNoHRR2F!eBeiX;u((a@h;sWwGELu=]vhN^fPY<wVopPeV6N)doi~Z$!]x%aQ?ioIGV?<0msB+4ZluJj*k]<q0OueJS9WAb%
hVrL4QWY^2vh$C8:UQ_M3e<J8](x]%$.w+:D>yK3uaLL(C=FToPt<YfE!HJ@1@dDKHW1$MD(f&!^8,%DubpuW5r>Mw_[bD7Ll@g!
cPv3y+Z5DkskOE<P&G@z3i,*9<fyX_=GmkX.0TH3RuPw7diPcQ]Bvl<im<O6$fiDQ+Z([K:kL9pzRciGPi=7I3<NhY7F8H&9r7cL
P:yy,GCu*7>>x!w.aP+9Nzw||vc$Wr]21S@p7Vbh]Bi&qoE2gmTYTDHXepI9]*nQ*yPxV=>5(54<Le)o+9xkjj4aZ[uMR15|2<u5
dSI[&]a$T(|:lQp(VP%T<*[rfX=Y&&8]1Q(1Gm3F0kFQl$DQ?3_[!tMJs<T*Za$S>B0vh$=sV8h_$l__p,ACl5$^dM<w1hzRCw%e
nId,T?KlTxG[tHkL6w!7+8H*a9*OTdrL~s*hq>5i2GLqCEMPeGNE6!WU)6SQ+,yBA]:.jg(6ib!>V5T3m4Io6k$Sh[@2NPlX4M$Y
~9pPdILz++H2$FB!O]Y+o$Q|65BWN4qKaMNl+wknq:fk:<c!rbGM!Eb,j%$KdAY%;z!z7PdB2523Ytt$o>DyTF6ZN1zTDz7[W<Cj
,M>8R?8aq?eL=6!J(O13hyx_yBKHT4f_m?A_gVttyc@QCb.c>sWQ2;eE7+5I.h@wthluoBxAoTZ4p<a=)6kVsY.Y.0yWM]z8::LG
Wnzw&cyQ6[3_u7C$V!!!!!"⟩

end ExtensionAudit.Text
