import ExtensionAudit.Text.Name.Run

/-!
# Names: alphabets

The names of Latin, Greek, Cyrillic and the other alphabets below U+1000.
-/

namespace ExtensionAudit.Text

/-- The names below U+1000. -/
def alphabetNames : NameRun :=
  ⟨0x20, 36864, "?^!+[UpzU=$@OxFiRE(mVdyoA&7rsLHBW_%]G=B>SOM1^P[E)dDU6JSv(v%xwCOHXM1MHB|S[Vi7QmOfer3
ylU%UG$aR7I0^Ev+GzfP)?aA|K1OkomM8.Kb.~A[%S_MHYsV|gr[C&=4fpmocTL@R=3&BTD?eR)f^S8$+&IBfKPsG[?k1I5zw*2H
jtl,qujC0:ld9Qti~D_j*eONRB@e|Foibm+UFH@3ECpjmiA2R~LJu~kx1Z5,q8r|(3VOF;%B^f*)]mRz>Mz?BOD)=oR^sm&Rl@H6
EIhpaNlF4X<~7vcV&&psPY~,8B_:$&]N*&g1IQqF863!Jt5]ECGBYhd18=Z3o?BtN*C.Kbn!EIW&w2Fofcfl%PqsoJRt?Bg.,oR%
Q.QVP4KOT][0yL_I)&uttH[z:u,YzeQloBY,%_Yg6[J6oR$v0wwVy:MED1>hD%ek~m(v8;REI2i<VRlzpxb5q5H4Clz])Nm>R;z9
t2xrOGAJ&thi)TVrkhxEOo7,Cu7xuoHigTt.9S|W.(Oa4Wa!jeo[=7)+,_fc[x8$d@Kd2)h&x8.Pf*lyWPN](v,7wD~!MoNV~pfP
9h:64>H@OC%4caR;Aef,_FBZBPi(b>Nqyq!+6]WTi?4tolVz5y4=b?x*(>nw|HVZmd=Md+REoC.%|>432Wy(M[5>eP4GW86tTs~u
NT4h8Tf[QLeBHG:m[RqTk]05ltWy_QDU4G,W7rZRH:qrWBc_|[8jjJHDb2snSE_?fV)z&(Nv$47.VGG$0Zdp:Jjxi^LEZ^_~2_;+
VqPt.yVU2iO)JlXP^8W2z>S01PNAK~grjD.9vs|(|[(TkntZ?|66GCJwj6Mzby!ZN%jK3nd=kcZhh4^F:<!.FNskaN;4$Tg9+WBP
w!9;EL@VAGwzi,(kc[LFYm+<>[q[.U_DyAB+*%^<CHtkYd%sQ8h^wz2p5litXXD6R:h504r~Z,j(wkh$6icQ,s:5&GZS:|pV>E>y
HI?.T1gTg(PzNEVNynPrT9kI!fBEDMKG|QRL(Q(>fOwftR(%Zpu&;N;QE+*V2Yy;V>LF3z<wU3%Kf9EG2?FcyvHJcQe;z|[.19rv
~r,~GyxrKcQwedF$AoKtPCaGiuQ6,:wIWHrkck)4<Wh0!*ungdoTEyO7e6AW<>w<JOK?DYTe$fruTu&3_UAMfuQTtnbWoz4&?>@g
zVg70[MLFJIRnV,%M)+C.GCt=xeeYWroc)^Q,(ky*!rvOY759,OhTDC):~cmkJRzT,ii:S@11cAl>~u6Uo:?TeB|aW%cVAjT5ka*
Pcu[KA,|:bC:bAtPFG4WtapL=jrLhzYnO]:h6D3h34EGx_F=zUbhYx!nwg*gz=6TV(%?z&^C>!Y%WX93E<a)*YYDV~s?jsWSPoE^
bZK$%p?R05rr0wEzPi@Rmq^QMI7YU=ZVK*qQml8H=[(t60,PXn8PM7na8Z+JR?w.uhk7s_,Szw%YwM+*brmvd)E2IT_o8Yfif@o:
SrP~[Zv8$&o6Qnm^E>@n<wg4YtU@5dalf8J|oUl~U7k@yRVRmJ*KopB3!fVI_A[avuzZei!0WahPm]%IpxzhO|A,wmIH$:BhYBg6
:5j<x.toylJnl3|Z|KVXQT<i2vvXe4X9tWf0(w?qCSCxZsO_nVS0H,+$Q;G:Ep2,i_N:hpN)rB;^&t+Pwd$[L>NVv0yD[!<5&XWi
(5Y<NoCaE3Z?7oc=ar!io6]obHJd5WN~QdktH:plH[]!Q=dlbN[m1d]Q3^+sDhx78h3RTC7QC&F7_.QPWLputHTeq75fB>3fD$QQ
~SZZNFR=mit~DA]LF7Y+iBeN_aiYNmc3^:=i>w7WuZ&=lm|LIKbT*guT4Uq>3Q,G?Cf@l&MUA!gk>(08Z;nz80T[X*08=J!Bl%BC
OSTkV,]=><bXr><<ZtJ5>Uutf_k!Y!yS;sg~WvUxpWKIY$Gfk=7xAP1T~e^e7z3Zw=,?I^cc7V<4&wCZR:4b>9nsttFpaqCE_:v[
lzlvj7:Cj|^m^47upn<JBKvnFM$)BJcV)*.MJJqFU@*%%xu<HvJAd~?[Tt98yy=[<yczmTy*And[3x,m;>r!tOe|;a|NUW>O|dky
XE62q:H)Sxl=K,=x,=ICO1k2:mhnR,RY@:qs+^R]1,U.,1!0XRG;<WQbXXt&5913N%z]90wL*pz:ilVl;YfDAEPSd_Yy*;VL%bNX
7tZs]yEO]<Da5B,UEx=e4ZMfCfpJWa6ioDhd!.ITdiHw:c:z_PtM<^O4RhvS[25Y,J*N_:6Se%_px;Oh|DL:B20rG@LG^bx7]8!l
y6UFGa0F?I[hYehC7d(@LrL+55E8HEy&gV|^RUlzw$1l4u*PGiEucHmnS3sU%1)F^c88q6HBV!*0UZQ)ObxKth1a2cr2UJpjL!;%
GGKg0v%yrHCdf1oc?b2vhTeabyZi1[KqLl5lcfUk)07fW$CH(xvgwtHSVc>R18.~_C9Ik0cUlb(=i|TDQjnNI09B%dX+,Hq0;AKR
~>,JY$*B?M~Rm>poEdXiI(dOao?jIp*|w~988YrrLSAi_srgnrflvq0h_:jtn~vUUv!x5;Mi^JofMFpF4T;:=TIEN=tHVQ8tE4E|
U|)^aHVQzf7WgBmD&Le.7h+5g6D~vA+k&U[CR5,>c6$~5h)D!IzGY9C39x|N.jZ?VSM=Zd64C%b$^e?T=~_gN_h=8n@tUj>=.ryk
FTyX;u[~v!RbF~:P_+nBE29e$&~QBx:znNnIFqJ^zWPWc:nRUix*R.9PVEF%BGF;xOWPqeh,2j[p=N%DdpiRR.dHFs+p,,yP88>T
f;t9+Dmx<TkWdI7vq?z;|BtZMCera)dQ)mi2h0DI@.nlz,>x~q3aUU]>6aQKW=kBIcEPiu97.>7YQz~hIcc+q]NQmmX0EffD9PVr
Pa%QUy0A>$J7rOi<N]iS2)QjZ2:0nfe[VM7M_ghbROQJKSD.dUtMHlj^8@t,iFDbffm$9h,0(sICz3^Rm;U0LIHWn0dP&G$tk5k+
Txqq@wxg5DT]2hGYFDb30&B,?Ts8&SiD&bU^F$!MnulBgbJLE_2e+(w>w*(pHrQ[zvgCr$c1j3(d*:>BRfZO=*:>WLhjmC[)0aZT
ULV_GWQ=q82GS:BJ:%3;!5%^9~K7$3HddxZC*yVD$1Lzbbex|4>z;g5LAffy70NwqAss8LGTv80)NA~Scne;sc!_@;q6=banS**b
bXteEJ%UK_~bpceO8t?~|FU^f]$aEW0^&Oe4Hp_Js:>&DF*[Yh2b!?Bt@@R|GG3RpAIt;J|;^MI?Jg+i6&lewvfg([Z68vp@DY57
nIe7WUF9CupD[W~gxo=qUk;+_ZwBH7NtT.!FA+&&Bx5[0KSpE|kca8O6t]M;Ihk%XNd^vaczVqzr&gA540g+m?,0;4iK5=,q7o?q
oxew[s%=<mB+6:MNQR~4P_:QJ0Rp?[=&EmsK2RIN6=g:SSP5r,<:Q+]*+zj@Iy9^+S4(,;pMtZ^[25u|_shEk5_F6XiZF.:4Q&1)
fJ>E:F_,c*M=Y,DrsY!WR4JuoiAl8>,4*iVSB(9A~%UkgyLdy],1Q>w&4UPMJ7su%VeOML8s)c:~sq^*grHa>[D%zGI[~1<RDMw~
C1o|~5%1x]hFo2Vo+O*!$8D_|hlRpznT(bn&>~fO*2)]o*JpAXi9XDYcB<s.,BTkCF3,Wh2zvlcGrcC>^%(6[v(46SMXUeUpsc;|
!!!HQVm)HARvP!U%?!!+ZK3mLa4M_RUY.V,J7<EbcGq:cn]uz3w@!,EF~UkqkcY8Wa*Ym@[gTx3yORhI9SZK^:!CvqU0S4KNnW!>
(Xgys0R32h=8h.M*EB90Cpq>N;Cms@NQ1f(N7o>gja<wO$kMVFJdrnK3k)idf=XEd<MX|:rLTZdf5tSyA7.7;F5M<h=HIjH2O$;N
_m^<_rB.8sW<rX1,(?s6;8UyeU5S+>8^o+^&aYt)Yj&8u!u64Is@|@FJO8)LFW2HV37XZXLqEm1_6e~%9FKg~~0qk$),57~7_KqI
PP]E7dxX!i+lpddexT=Mkn~~LJxoMaSEk!Z>|00BZM$XsylpQwezL:bJi3O5D>pHBccjb9D*g4R75w+1&vev%v|![0KrCf3qEnpP
;O9ow691<IpbBjwj4.KQEV@U|+pXXr!W9~@[>4&8;fkYfyqKy_Zmw=Uu<I)@g3gqNj[%=1V0g,PJWJl.u3*BXAyn,:ezA4*G>6gq
ThI6vOyzN,NuP!?:W+@PiQ=^FAUWMZknUmRy$!jj(%$Ur|9@tkY:m|ag=NK%y,u@K3Sd|)22hZfYSfrm1DuDqsqF7,sOvf;)f;rZ
_!c5h<Uh6DFUPEG604c99.iR9Xt3Wd0HvUt2?9l64$k@grtfk$NSId+sb0EuMBE_D$h06Lvaa[5%38!i?~$=i+Q1<2uVSQ&JFWTc
5|]eKLQ)6LQNvZ)3&7>(Uv~OADkLAGH[XuRF~y4$04ZB>!!!LG+2@N!!!0=ANb8HTPt]~yH]Qh|Rud!&+F*fk=GRaN_5owKXO+r1
YwS1vcSLYJn[aYB(ZHnCZ2M)ISlvejGl&cEt8Poo5M1)pU,cA!w0u8&?I^)Wxf8qT14j8rV(y[1s2_u~hB%v&G@v2vjj:QO<+:86
HI2&3~5:0euIPTZg9j]7==NNZco>s$9l&vs5Tkze0,t;=_%29dl|_jzMcI<v(Ii!;Q^j2.NNqse^;H;7&*XEvSsqZ79^>%[0b6h(
Q0ZZ&.]rUKrr&$8nWK7Upb2g!x7)s+;a.Px**lL~+$p^J[|A7R??bHNFTU3e1Ea_T.,Ia^T~3]DErRfjJGot;K$Br7N>%3ZYw+LE
=9GQHFOvTJ:Nif=t^x,i:[bZqB?zx|NV=PCcvjv]<?n3o%e;8Up5Q@n:)]BAR9U|[1co1p*Q.rbSY2gN2_vy@i?7)y,*MAUPXR%<
s>D=Ty>H@uT=Oc4mP;ldDak>]=vFrQNHi(Y],LEZ_yj>E|nrAbVDEwm5h5tlKu@(Wkr^_VIU,>.Fq^UV]47;iI(U=~B~s_M0wVhw
JPomO,?:5b6B*y|^;<zlKM4|L~rN8h_PB[65<J)ESbp[r;@,xZJbP,$vqamA+O)0[)DFK8soE~|4Anh=jjM:.g~,4,S6B*vW?MxR
7kxBu~.6pPSr5TpC]QW0$<t%ZFgus!(qu*_hO+adXAj?Wbmx)q09hP%Ld70x=a=FbnG&uaKc&+8g,Nn1;NC,xjuwPCuj9@2H(n.&
^Kswfoy2aRh2Lsm.f($<$~ruX<ui<3%y>Ht9ngA4W:rZZH8AWm?*lf,]nks>[tCqJkGYC2xUJ:+W9:Z=_P3=jVBUe@+jM;dOlx45
CWHCx64Gepjn:do%icRga:R7O<kSCMkRngx(yUnI2H=ZVH3d%~;iH~%X24fBfGDANWK,1Ob!DD!g1Sxnx6&pa;B)@rjm;mZo==v_
v~lVUPI]3Oc~~9[&$M!!q.Lr9Le3arF0sCx0X6$mmrT5@%jabmKj63L^sOnk,i!|p<F^11aX)QMX8e$UyA6O[=_c~@**P0OK=P>]
B8_x.5vOJ7NyAC$;>)SiY3=H?WxBMzopb%DLF+j.&Lf]7ZKrv=I3ntnifFZN<37unj:zjXoozYEj5RF33c~42e.td1~6Xg=b^e]8
VO]4^|>GU?i6VRFczpR(xOF0+(Tuffe>HQ6+%FZMG6x,@E+rKMR16d4xj3h9z)UZ.w8Ch21<XzMn_oZ7PVx2F:xb~9RmS;&GAPuj
[s.lv9z(!no!!Xa=%nBE:@xwsqL^e|h=)+3)_=hzxLSEO4gSrZN?dVr%~eSvO=~z.k4:gPh%0M@i[0&wZJOsOR6U.JoGh9IaS.AF
EEy&:,J,:$KGgdC@$:anZw|Pn=%VbDfsD;HOrxftlB*G8O&r@Y4GCgKP=ubVlFcQ%DgMPo<&3i9:T&saR4CkFtHSN>.9sd!fnnq:
S|x^]iv87Vvc;P5jD:d::.JCST!U)wv2t6[dOAN>;B7A;HBt![pbl<?A*;htjNlE9as,BT+5!5zt~mT[Y!IHH53^fm.10Z.U%5)S
*SFax@ujxCR<=u,p:6IJcf5IkBXTbcb_zXoWp7<EQ*wNXB[?O1fLr:@G.[&UKb6?0D7;G$roSObSXtUVl8,0w;L*HBXK>2GP@I7V
nl[%<D^j>O]>5KPXG(ba,1ozYI:;OM(gD4j;K3R6?CO9bsk>Aq1w1P?z(d[y|?o0Yatt9!%M%9fteg7fm2V.<LnNP%?2&uoc&P+9
xmmZ1YZri%6X:lj9wIy:ijuaS_Y;@n(hcRa*1dx>0EyjSPaz?jdJgh)hwgjOAUc:aZj:b?(L?,TDHx?WH^@G~a.rZ?_jgG+Py$)6
isaS%D$Nn?@QwpC%>:wII2iG70^:cke~w&uFChaC[S!CQYwhW*~~Z&GgANz~lOhAyAiC6USj>$]c6i;5TFqXVx|kPmd=SR6<Lw_j
Mlb,>lk15)l::_&dHB2@He[HzKV&7d$@uY3i[qu8fE^tWRo48%Gfz==&A=B&l4xQYTqAV4sW)t)_[Ie:*4<nS*[A+k.<r94y%6Pr
!2KM]wdg%8T$lcfxA|bqVQ:U)oKmLen_w]$cw5K0[6u0AA]pf^4nwiB:LHWO!3.BG%mOjf.0%&Sh=d6H63:p4JsPuKli@S5U:USy
O$qTCg%5)7nc.TYYdZ@5oX<A6ouK.q)l==)2;XTGT%,[&(u?j9Oo^9kO%h+5kjd$yRarrH7Uul^m0Z!:sL7S),W.+0^!g^nD@KL^
!@g@8UqTirkAp!6Ep?].oJUj@5eXyP2K*+Qi>oN$I,fztgXXfM*)sdTqtN$8y,HT@~DEt@SrDKbh?4$ONfin)]uSG]pV6,ENBJff
vRK4+15B^0tn~.x=V5[$f+O$_)R39@HgSmD)&kC:G=5g4n|<d)q8myb^+n5PZJqw2=$6cNLW+GL%@O9a(q)_G|bm~m,~_w;]8yr~
xQw1wCrJ^e@780cPD*NoZsnYxePyQiJN>nzPUJbrUD8DHC+n:[BF[PO8!Gl.Qx)7<|p_S4a5!.:9~,;yHq^zl:[!Nk(ItE]jLHgV
.HrmIzBAeR(fguekv9BU2S0a)~eUu4gt$L4flSKIx5CEuZS7LWB459N&V?JDJZiEL]1%%z(1DjcH&X]<lN=hA0b2SA:6hX?iPOwU
CX15FYb~OHi8VTHvt(nM22:Z[zZ3Dy~(=[1*0=]Q6tge:f(h@S==y@m8RMSNJhhf((XUvgH>Mz<5~wq&]47vGjzcC:.&Ww::[bN=
QKy%0&b2@])$L4[HuHq?7areB%teFmZ?$F,SUFMG1JYR6?8FQR]X_tzh0*BD]a4&AdT^4>@l6sBP*%;GMqF^l)c5pHi%Cke4&op%
h+$5_ltm&Q~$yo?Ui:wQ+Z?)NdD!b*;o80zGI:_f9Ydv&:Tv>;v%hjOIjp[R:~g;8=lgAv5<(m:px)I)5aOsS2kfBv|KJQE<M8|R
9:tAm2!8$^ul5dEW1ZN@5!_cj=tJP0nsV~=cnlyNqY!3|a&z94[+ZEsIdX!n$6ve%EZa&3HU9)jqm)=NQ7Dt_^|)h7]p!Xbtgi@&
!0I1X;8iUu.0.S+Rk<zYyG_^Bo9nQ[ijB.whXpGve7ycB0ax>Po)%ZJFh<l=h4$1rd!$d?ep[UJK|>P7O+ksYs=qztu9.^|%u?3$
lxmNj]DEjMfH<qSh01$l?1*Bj%qd|^y1A8?lvsSM]8Aa;8AFu[$.?x_(qSI);(W*aqnJ=_EC.!tVRcV@mK)ZC.A$2^%)g^bZ585Q
b8iSAQ@mhvscfpR_q!Wcv=lqVk&x6fY6S~1I<jiXQj$m<@_PqWd%s]c7EXgL<CD&G=ZL*|gY,(RVD+7:kAT&Qj0(io4Jk?mQw~x;
W+K|y6zxtK)N2BsX7OTtD?nAUKJ0QUN6BW?G^nAEv7GoiNt]dyGPAZPRe]oY(v*Z0(gD$~?@,BS?q_u(WxAX%|&]9w$[C.4>kz<?
E<*:kss[Y]1BGOZzD,;fvG[cipbvtye?0KZ9lhg[HDP:,E|!W(Da<ui2dd2sPG?=qNjr0ZA.4rm~e8<G?8wU&4]MPxP(.2;Eb)(B
R&Qu*ag~xVy9|gtkgEAjnvgPO=5%OqZtNI~.ckf9VVF4mA77h&sC~(+]0i[YA^!Wp^T!ERz6>j9<V.G9y6^g8Bg:ac=NRf=K).E=
EfR$~V>!=*j>4VgIbt^*i^hi8Q(_iPtwga<dewV(wNSm0+$80~F+3yg55w9vW9)F?8YxuHX,^G*q[_HxG..<+&QP%Qy^5CQydFMz
K9p((xVmC.2Ut;.ItJiueY(Iig++744CJ+Htd+B$7xUdI?0C?,BMXW!_$V|cjnD=QO=W:m2%h)A2<[&0A;:K?Ef_BUtH0_|c(+&G
x@pkx%,qcK;UdY3DI(WO~Iw~.KG]ezA07xB@WXVeM+e60[d=Q)I1%3LOzmc36TCH=mlJs<u<%;e]x+!NUmko5_>AYbTI:9pM^ouM
L>9dxR.RWG:YQJQaS443+0rPs+oh9aBN,pywq(zhdIl7zcCx?tA>vBW[Ta;X198_9Mp;N9i_N>iO_XLzS^X(?NbPPH$?5nVhkDS%
Zeuay6sSnwo^j$6D%.*rSyiIWp;XLEaLhGI$ly%?7oRc!ohg;r];E13>tki!X)C1<zv@=o&gPA;(@nAz8Ppv:Jt>?gz7HW=;szAM
+7b;Bdc*O>j%qQ*rnk6LZ7L;&UeHhDrH<L3:k|e4,ByH&3Me;D*jPe,D@lDXIJ%]XkKI68O[gU0|?[uJ~zupTz@K(RirV:v*^]t;
@Ccvg,F!Jbk,VJ7:*=Ky5,2A;]mXkMA7qoLG|)JULgABBOPmZ)UhGHLn];>)UCG3[Eyz8jd<l_wl3A1WV=YlvDLHz@1:3^=oU]n;
]Cu!U@L?H3&CJge6f03i**HeUQq^1D|xf?.NcV?r:xgmeZwVXg?zV>9y9MdrGHIMM7NRgjm~AQS&8<67&:EY=aV(ut>w4w551c=(
Z0S!u,3[&=RvE]66@W&!Lrucz%K1itM)XaAt0.2A<nLuYUSy81%K*[&>PGte;OBZU.(L~E&X<3>HfF0.H;]n>t(XW;lqpCG,kEh~
.K&$i]AEJlxc*Lp[go5XmI4MYBc*Uf]4]4b=@>Simb[Ge2Il;=<n*9fJ3m%S[mR%QHj]o*RC8*WFLHFV@]M3[tXU1=2$(t~mcwFR
.0UBho*[feeQnvdcnlJdM@zhYZQ,2_XYe7pEZr:~LzD:n,~)cRxYN@=&>I:8n6owQh)s<8N8D%%FO[^Yo^0.9H~hyuJ9ox:erFU^
$!1r+fH~?E5~[XbWM4K=|d6rrj!C_ToZ*%%w3g@g2qgiMgD](SZBGO)&)Xx2sYd=n>h6=Lq211]n@4g8s@SH$3~&C5I6]y9H;*QF
&(S:L;,*m6V=hFz?[F!a4Io0G4]j+|qtvfEIKi0wt7Djnircj+5le*sXefPf1n^c[mEi&uJ<0ZK_O:yNQPp%BSwu<fReIMr(PQSC
OQdyG~A_tZ8*|md:Nen@Ah]wrHsWC!?GPpB<Z)7.DQD.(~Nd>nz0:5>irL7~ic[,RysFQqx+yGwQ84nk~VWTWBn0+Tl_&98glhV6
Wer]FJDAVp?S[2)k+JlnNSS7[E1B1JSCs[Li:qwF=NCO5IXahR?YM@w;tGBf%GJhs0K(,cekD:34SYTjb[B)m|gcmI=)Q&7~vxmu
)yPhrDNN8;bk^F2!L0X<>:B2.Rs]uK6?;~E*=rt_@,pd7VW9;by,uEqOgG)kG2pMyr*YCUT[FJ@W4t(Z(RqFqb4R!w<$t_=xGc?3
L.A$y~8fSJ?%u9AbNuCVgH2C~fy[KO9CRN|u>O$hQ][%8LZ+.ljey@xkoh5e7R?&QDAt_s&5qr!kq9MbEFNG!$(6Bv<9[Mhx1.<T
vPWSjd9[4?FYQSB05l5n3LCx.~p.T9zi*0.?S7z0TVdxuljc:Z!Qe8nQ^+>P&Xku$Rg6?;Q&Ut6LlFsCQP$yX<d*3K7I.aR[LKRD
)&cL|ki1B.r$A3v^ZTxphu)4mycDO@~(U~6=&;ZV;4Voll|BKbd@BTbp;W*^v+6O%SXJyYOw(&oEJp%.)p06Sa|=f[D9d(KO^:Eq
q^r0pJ?6%Kny%a;0_]7HMc8hr9!DY8O;Q=8exkUJFu$8U!El.9nRbXwbM(X4(a~V&m6u|ik>+2E7fk)5e&)rcqZc8SU=Q)r41|9e
6TCq6oh:5zs(MOCQyl0M_TNpBH&6v9Q0=P(BIX=nT&,z_g)3d^oi.mfA7&:j5x6Ud6]rW;n|)$q@M@mbQlWt%LF,z7P9Qzk?XgwH
k<;1cVV&~9bEZPWz!iFOXhqgv;B[Z3_zknqS>>f+8K5DC6izis44hp8cFAEf:U,llEdR_tB&<.&Sh3b3|Gsm!*=p1?FkRY=Y?t>@
HLi@Rp^|~ii4eN!okz!9HyHkWhhVpr_B,k<cf$^<?V]waYtY]N17__w!MAFRW~Z:prj|z.:p|9Wc&kevGLv_WVk$Jk^DYbd$h*%x
@no(m21DenfT*=Tg?,|JIVm)W&b+Z%IEK2y),yuC.];F$vO^YB>@O8J037Hf@*i+x))vmreL<nmgZWI2F?4@72=[%ehCr?^L8B0x
fYk+;JG5Y8fjwT5<wyThJFQE)Qg^V.x5BC7pK^q*[Wmi$[2H+qj@k(0*9F_;N:GQ=|g((~on:RRL6z797UZZo6v64P88kX[Ac~>a
:7OO4I.~cTqx%i4v>@c(C9=SVjCru%19yJxn&f.Nw03SLIE7EYk4TD|O!uMR8z*3KW*SAjE+dglg(E^LL$:cRlo)vD:z_(W,B;OK
abqiGn8&8rm])|>]vIpkW$q2t?p5kt@A<Yq0%bpk:SI3+ZzvKrXZexrbH2|pK<]C14J:uj&;d_j38WC_hYH^JsuaqGtF*SrX5DBI
.%j[ML(ISu8:7(YQO2Bshf5e.0[>h_KhQh)(M@A%WS6Ukn1INh?t=NGT1wtqnk]*ZnNN4:;QA0+]BO4AuC73TD14wxc8eTr2VrOi
fQV~IsuJ.M4xT+V(O>X1adspMmb*>2.OmB]QMEK7+McZKo&fqLYfgR<(uh:_%hwh>;vOzRR&NM|^C%0~?8Vv,RvKaj@ZufR1odN9
Pc&P@j)hBfv5BbjWelff>Od%[>Dt(~TL,&c2Lc_wJ>R6bv]ctm_hGbpXEMBc3>x5tlMItp0Y=*ao99_MTK$GBc^gZ3p=Eqq*7yC$
QiLvT1f:J^D>kIQXJkpE8R=k6ehK9oBh2Pmk]mm;Tnp;<x=I~f|ZIC?XzY(2eX;<Bd.Ox(~IR%mlquTGdW+r;fo3:_I&ttX3XPP_
]6ikzdOsMm%i36PW)?~|j.THLaCmk?^|e*rXn5x~NWYuu.D;Jwyc&Us2Xd1N$3_gDc5<KttL+puhiHSZdyDaS.go(GY2qTz^>~^a
]qGa.ay^E2,J(artBIa(Mmc6AL*7T.J^OrQOd2h8P:;ec|$COOCU>>)uq:Ro[q:*Ca~?A51<K*sK;Y+=x836!;h!$6%=i(zop<bp
rAFVA8a5YmslOGE[GUJq+fCGE1N8f7|pm@W.WKfq]Q8W9%YA?[p~vf<1U1nwYkIqjfc23lT5QNbB<c0HhJ*5|Br|[J(p<cMYcmEf
tBja^ce|~2:qL~@Hp=bd_&q&0F(2r]ye+Nmfa*q=T!Y]n];BPu4VF3.j~e@?_],6lY+kQg6Yo~Zp|i)(NFEg&4)w.2edsp86cgt1
tmq%!EYhnh15;f_2XfZ(,uV|y07dQ~%eO+6:bMJa)pB+%QXT7q_[*^,,+<MLuU>yPTMxJeONM6@4BBG>K.8qkdcExJRFM%Ql]7SX
!ORw4qZ4b+Gw4yYey]5i>V5B[JLLwn~)E3Ic3l49P6b0)V!4hkN4fr?.[iQySg0ysx%1n6(l=xQ^Q3IuNbs^pPb3dAQvudFc8da9
;Yec>$@8a[RiCMIbipNrafq1xW~rn,NiQqsSi.=JV:M|:8k)C2E]IoQ?Kr[5e,YWUTR8cA_8*I<En7W?G[L=PCB[cbn=(2k~|Xu5
hbuC9%tC@OS43GQ82NKjSKWYjCi=:TLIv=5Z~_hE+PrH]axjJ[ezV5@iu=|w5jX@hm~7>aw+59QfUW;$)wIe;]]SvuP3cybtBguA
[.K!DvoqhR=$:,(42CRH&!<(Qj+!XQOiIAo(rM%R^wW=BGjv<TE2vEPr$Mq|KFf_~C>A)v@4&Y+c~XAevkxt3[[;)ZO!!!!"⟩

end ExtensionAudit.Text
