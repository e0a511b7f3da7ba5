import ExtensionAudit.Text.Name.Run

/-!
# Names: historic scripts

The names of the scripts from U+10000 to U+1CFFF.
-/

namespace ExtensionAudit.Text

/-- The names from U+10000 to U+1CFFF. -/
def historicNames : NameRun :=
  ⟨0x10000, 52417, "qOyL;aeH_JFQ,~~1RSELN1(iZDfj.fi)yWy>6%fY40;8WhUSZqZp0DqE5X*4VwkxzC7j2.SFwbDs1c8v
fuXNHdCLCxtV~ZOKtiumcinZOYfrMf^i(hO<xcoaVbGP:B6TFttq0hK!JxqFi~*_D(ST!eO,2Hm4@>x_0zKE+w=52^Pqd8kw[rk=
.3njfdd4[s~vz;g8@MY9FW](M+UN*&(NNnl@p:+D)4^,|,qP|MwvoSS[d?,VZPu[Ng;xX&ys>8[j9T!N0JN03f3Z&Z%uFJ$!;~7Y
I3(!BK2+H&K51dC11YmI^r5q~oR.ofv4m,26P:prLW[;6l4ex1C)>+mpWp(WUV0Uu_SkE(m~i1b3r;ksE3E>=(k|?>(Ie6m.dP9k
?zqnH|._3*pL;*D,7p<?6Jo=$T5B<U<tt%_yfl_Nb31^YqDaiBVX8e811[u&4,P:_.?;oAFa3VzCq0OJ+?0Ij&ih(G@)vsB8Na8]
M%=]OiKfQy>E0q(b)FQ)KYZK;q8lL:2d?r52+:i(O?oW+^n>gv!_kQyk5vp?84=lY]d@eLaRyGf%O,vT);uLz@%Ti<SY1rWnTxR3
59_PT<,Ae+h@fxts]ZHtVlt?uiC8sTB<4nfZDqoZIEIBx1ZpZpjX.=A=%mezxdY5<jt4rd,!(DZAa9cm1XrWKVw*JJz[ybXO!4RM
w)>hXvuJz)eN6%tEDw@pvxf+t,)u,ou,<ybJ_BQWlz8X^A3:%XBc,Y?Db!pz.$E|p~pQRH4XNz%eF2sUtyA0lF8yJVh@]^QK=$tW
d:2d5x!e%Sy(:e!5t_C]&n=L$83Jlu)(Y=wbA!]wBvSA.tu=x),ITAq001gh>UYR2d1wRM@98SU~^%9pDmX,?$LJ&n=A,IIHVdlY
Szz,xEDi_1NgK[uP3J)>Q6fh4%!SVdyJfxVY=;;V2T.i]~&oi^RV^)tHz(Z1b,4dHvd%8zD~S,erLQ$ON&,ooDo8iYzAB1Xf9Um6
IPSP^&rbR$!!<pP<MeSeW@K0J2u,qDo&ylMPcm$m(8ae9Pq4Qb=b!E.ch~Wp3Q;$K,F+_kkM|K7Q^;uTl.wE;]PIgmE5>xH4bd%7
wrTb!*W0|mmsiZW:sk=Xl(0)&XE]FB.pUQ2tuRx]PI9$XL6r)n4HtP[X]!yS9f^8A|Otq@u8Q2mDSdB^]awL5hs+=pgRHwfvpMW@
AfLQ>BWtLj^y+P2F|UDI2KMHyfHghlHgX=V%tWx*<v3[l%S8ba*Onel5!A|4Fc]cL%vy<^AqFH_H)0GKgCk=BK@LER=D98%iCjdW
X_^a9g8K~Z1d$,!6YvO(bsDC|<86cZ.y&HEa[[Wx;Tp~;xf$U6XiL(BVnQE|6U[oSJII0!]kc%8?kcW,XH9R(g?TI0h)KEj|R<~[
J4[NehoQ&I|58W1L@5O()eg8Z6y_)IN6QFJO=3dw40AMi3mh1I:cVpd|y]d<E[L7aEc~;N:Exy4hzp(Ww6Y][&t*sfrd=E*At[9!
|x:mM1qv~YKtT)w]w|ci8t~>+NCK*Jn:K?lB>3.KiY,!7>UgE5j=P0puG6_t$u>hwLD;>mx@<@FW<I7UF0nfIldxnrX@atu!lxo!
wnjSu(7yv!~r2>DRfJty$;nP*3?Yv]!F[IY0=kR$l!=:l=q4&&D!R5mloPNr[BlVpp~@_G6ZDLl6Jb3EL;N1jhXW<5Orh$[Ry|gN
s7zBy1t00WQu)Vvmzrw7BI~*&Wr&oY+,flFS1fn1tDXe@OJ*&5;]YfLU]Szs@7i@_ZECPO]Sr4DXP*<[;tUfEMdScI4VyQ,GrpZg
[$Q^:k^]K~|Y,Eg~U6>7Lzmkx0|MAhg.Xz>k$Bk;.^EM7;;KquYr.udqoolZRr;YrM9uYf^Ej?5:0!C>;=0tXyxaJ&uqH^S=u8Na
zhF01U]]_mI&ytR,tevj9T]L0:9>X7uX|nyH$U,JjS[BmicBW*SkMO+Hi>*w=pqrnPA.5K|>Ltd1d<C.T4skB9H%)]q!Rl).y7&g
.PvI=!,iUw&^xPW~.xTSx)jOx+[_!cHhW^:~RrS3yuEjNfdx(l6*A!I^y|,]aTE5Np!?&woMg?EERypYyR5,>R;]Y*p7w9~5t.u,
GCqvh)S9d_V*Kw~:T@7;GRK8xc7sa]A|*C^djCbchI~s@g6>nf9F^F50UaYg)dx<.zq?9;u;boW,xDIyaKxwUB<N4~H~k;KIkcBs
]Ngns&elRi!kD)_VH8YlB%;!g)Y9HD;0yS4TIZY:Dd0YDHI06aK&GYNM,(^dg+!@]i$%Di?l_bHb0i0BCFb)^t4acy6enyYFEgQ8
*RU.AHS(ljmt+z1HFaBSQ_Bv)ty<Yb5)y$U(=Pb?EP>*lOyEEGc0=>Pc9ymUCCdpM1_10)S>VUN1TpWe;W9h7V,QpD[~@MZ1@nWB
f~S%TLFm4FH>RJd&)BCa[8LiQ~T+C5Q&[L:@:pQhvM5b|+u9LUWO>l]4bm+NfkkpvwZx.%gswNt$7~.Y%V<EcLRlR=wo|5a;E&+5
.hFzRc?s^:|2~YqaLIE&J;zK8;j3hT?!nrtH%ahFHA?)qg:cL]?IHcBXmCTEK*x5vOyE$zS]nYvlpBsA1M_%8QdPp([s+5pLd:*w
|ZwU+&9w:tW?pqNUK$*AE3r9]jXqAmAm_%>X8c@HpfwO|n&JJ)_pM,6,iTY&1q^06)WC%4hMkC$kka1.,m%EH70E.kRZe%WzGlZj
@<HZNt_e&,$YTb&8fK@~PXq0Vq.KP<@r9=CUA+N*1Xn%=fN!a2cz0O|$n;,_8gjkrBBB@vNwuM2+1yY$XLoH9u;c:C1=**fh]RZ&
$i8U0>^kJRGxK9It1,&n:!=01kN83hd[nX@?a_QF>t|5yXV:=>Vhb@3SPUJySb<=s+l^,jw20|)3&1jyC1&R3?:=%@(0e,JJc0za
06~0Wh7uoPgRY8AaWBt1P?pCUQkDlI<RvjJv?CFLpK0+Iix~[W0]KB%J:UV:UrK^f=+[d+8ne~V2JVJYqBp^1cK5n<n%|.Fp^F7Y
tB_~jDsp^qJz:6&ZZ|[&SZ_FTJ=6KRcle;khn)OV?0EPn>M.G46OEMCb$4G;7hNH&+6fCxz8Pc5=;i]r4=ao$$&%q8j:ztDCZri0
bmAg8B0?LEu&prXdINePYFVV]I4o!%GWtBTcS7)[J5([!~mY&JwM>pOx=s<N1IOklMh7C2mk5mWvxQZSQp;h4(_pf76W|:cDoKbH
!qA*CzT0(V_]Pm<s&Vu$eFZB%mjaVfhyCIHPUhEvF:K=|%Ca)j0K%G[s<2Av!mnHsB;aYeK0Se8^S=Tc3KkQjZxYuL<3a&)_4Wre
,M<Mj!iIpS7_mbf7?&v)>TbwAYnzNd+4+*HzzWm)LME&KLT5vW5bBj%~Z:uLB<1|Ag=V|tpPl$;hRu:43HQPnuYzvKh5IBCjD3l4
Cnk<]b4:Ri,,(?Nk~F3.bf5K!wP:jb6iMR)1%9*]]);=;G2Ski@Fsmw@qZF:AI!%eXrUj$R9rR5UuQ!sgC*|*!;(SoC8zkA(zz_1
EiY,]dn[1qFx(AR~E,EGX=(f:=o*B%GNXKMyT0z~>[Am5^M[eDFulx.j<Z[^MZ;T_R|!|0Q*b4=]Qw84$(hUN1LYyGs=|6>DM~7e
y(_2CcaX4+A$;wNcDLUR4osQk!2uxI1SO;tItW%0p6Jm^z!^IG3;~~aVt+&U(d|TE1bvg~y?OpkZtqfYdMg8MOSu5&.dzcT*m~iE
ci@N?u6b_fzpr*H&.@~Qn1=VhDiHr9p:6F%s]6Cm0yU]43aSQJ8Y9&C4evU7]JG2H=_NypsWXjKqi)Hntx(YSMb;xX&Lr]BqfY?S
H$2qRq?9~(@?lqh5Hs8$0kjE@JsM[zyV0rNSg[d1ReBA!;SOFYXY;>=EV>hO45Ir?&3Uw*ccR+TV]*DH0,|Sdb~6<c8lT6j95,77
lfXtP%D=L&M),._*B3L&@$GwN?r6MV?Wi=]Dl>iw.CrHnSnD^SGP:.9@Qw%1m)4US@!m.TiP$fHCinzom8x7_O$VEenv>]O5[0=V
I%~>HsD%!KRxM|>I7O|8JVgHOGw0[sV<@K4n=7:h)2g]>6=]*UOzxOcrQql|f&>Es^%Z9w[&?yAQV=aMMP?EYHqA]E4Lcni>POY*
[w6zV2(!UE4FUkI7*Y[t|8bF*Ar?JMj:uCCuxjlOM>4.yz&5UNxQl$M_itFMNFbeH0tT?LQ~!tV%f^iF(udCRutbuvM6aPCoeTQF
8QGT=VbF%xvUXLgz9lQdGG*_o^4m[6(oaM>y,PsmD:sLF[~X5~<kF4>bs*Hd^u<A%;4ozs@yE2eUQL<=L:VSCj?BpkoiV%.6oLMj
h]Jc)7+q3)t$<mZoz!N6V46HV+_!9DHv$3~J6u6*c=VNV:(:kbWicIfZ)dRPQI6QI=PdfZnHW?Q*B2D6QgVq>%;p6JWVHzs5[MZT
CUy<;s9Nrc)1bXE?ZwxQ2p6&G.A1gBLC&~lbH!3w^Ov;@$R.>urJ~%vzJ]F%a?88HbkaKgcDEh2.Gk(x0Yc8gceV5^*|2B=DZ5;i
G^Mj~[E)dtg9L:Js%08ZjLsU%7YsO.~eja+3kB]|Y]j8O@^5=szJE:qNdW8uxSZb@Mjv@QxqW^jSHs3VuH6E3jFQpQs;vGS?Ut~q
!y[W,1f.5S%H^08C;~2V+SpqPrubMbcN6UW1<ygA+v7X9X:mzqJGc%Kb88g:0j;*AetVSpgS4[MNy(W03L:ml:j4!T&6DU7:>%<O
%lblHgZ+v+Ty*FiW0heQpoQK7<GHymrSOA&Z=[.LWk(cLoD%pF5|B,qxV~N1hdzCA5dmvyBo7dhg+@UE<J.M=dLc,K5m!yxhD^%T
ToCRP>ri.@)u9dh!Wpu5t1mTKn.gKb.fZvhz>d3nG~)uJJCX;V8o&MOdP.autz5gZd[~K1A&bpjzg[XH[k].DSpyt<!f,3z.tuJO
z1Y0n:Cqo&!et*YNiL%04%F3Z?<bvamiY5JDa)tXg$W4yQ?v@D2k!S5kLp|L6fP)+FP*.5ph%di5m*Ef)gAk[tL!qSte+N:Wg;Rj
5A=us2WZ.i|HbJ|KLKrw?tC]YK3XpKb.%Gd]=,A(HkmSWugFA@4EQKyZY,[W?X;9g$m~r~YZI0K&kklbmAnLp)16%C_q>P?oY3><
HZ40=E!JQCmVu_s>K:MI5uS!F]*>iV)%E,u7C?d@AaWB;[W3wcdJ[srC!4nVHn>$o;Ez|q2:=AFh*]A>6cq$)DSf]E5Mdb=_OO8L
CDB&2G*sPDzcRZJ@?()D9hae(L0zlbLj~NAipKOn1y;[PIm8Mvu@Em61*p&g&X)aIMWAq]RRhM?0RFxRXtx^Zq~VJ%2zH*!=^U81
E37VAeAWic6zAU%EbUH&V?mSZl7qLey.LKfLm2o*59OjkM2F|d@K~cYx+9nry1YxKgobAm7@)K?x.Jc7=A@l%y|a5q31=NC>ni1u
~fXLr:Vda@%h3(Ff5xzYPu2qm>NKL~UuW6cX%o^3|t8V84a8c&A?RPeZ_Oya2%>tAQ%%xGsoT7l8Hmz!y)m,.TfCges5faIV9~kn
qgWWa^teCtmOt)bqxe0K7+.pdoE]ecA$:o>&I*Ly_?JDA=UuAeBsikk9Fyd1=Dx.uK^(rHtJzPq[bK;R)HntSxSSS9Vu%c$Ywl|W
A^]s]QXHUk(LdML>oSYebIWJfn_.8Ir~m8Ok<AYQJVmj!ZRHfloSipm?@R59H)3M|V91&eK_NziHh96%e*A)k:$?AB(Kv7h_r[UI
Q@c8;B2RY_XJa5Z%0K?B?r2;b@&4V@<tvuZ3%s%8(y)ID*7b,Y3N**=Y*!vO9SIgIXGU672Q^L?aZ[!2JeG^g_nYDkt*]=BNBTO]
QqwFe=6+KP>tcipKoWcP*]9DAAivyph7_C8i=:+Cn4+)@;UpS~lx48Zc~JIk!nHI:5rR;dAnPUi,:ZF:QB+GGlt>$,i^tV8+5HMR
hxTyvo2;c]]7ra[Ef9WgTJ~w.gfo2NLhq>oS@ET_&x$iW>>d@LA+oDTXR+AY.JK|C3)+M:J]~l2y6Y)+BbMgv]]zktK0gfgk%(<a
6@ZFjJZXzZhu^o$c^8%k*SwwP^gQ|NW;KifE@IN)XrkVAOeG|u]QkDFW9$:$e6Mv<=1j0zYJkWnuJZmvnW;)V!8k.]@)@VkD,fmQ
%$M<c@8mW&G^ni97+7e>bssE[NL2+Bd|@0|_j>hSCgZKWS,r=_EUhGoL;7h)nFe_pTDWoX~Ll$R)0MQF]YQqb]tKh2:^AqOy:jf8
~wS!8sVr7lqSxwQC1$Ijm$[v&eD7k0;3st$x>rZhJ7gezqr:.&v:!%&4l8Q5F4i!zu=ylhDEPP!k0!x*9Y&VRr!GCW<tk[88=onW
Z_oz|+hvO*:6:5nRnqKU$Pw8C=5;[i?xl[%uqe+(XNJ!w37GM!C5_W|N73+KsQ8zq7]Ge18?_;Q1ce,?*26dzK0H>3F539*AxnOK
aux^!FiH2xOZpm(NjpMB*jsVZZmu$h9].!KmP@wKQ%J?_q<<.0(0@QG4m?7>d+[QJGYfCL&Z0DJ!UHnJpp_l.fb8z:Vk&)CZ^@c|
(EAnUhmW]5*oyz_SJJ>*>fTFU_Jgyrz%lX$W)J;:CcU]EBGDdtekMaP1!zP,pQZm>,bPor0@:X!1TE*vI2mzZo;6FWm*mT7PV|O^
gpI@iB(QrS=Cth1V8qnL+KoJe!.5v!YLM2QiZwP@:=_Hs(<1Cmp0x?^]87PdL(f&4OXc<Y&)3IZaCu.uON*CD,)GlGBzUfJe_;Vf
EENm8e3(?5kbK;;~f=uT(?c>~k;i!2NjE=N!RC9vipS?AIUoG1Ip1JV)!shXikFvwE2(S6bOCOw~b*2q22&yE0c99dHVZUnp$0]y
y4><PK5lqe=,sBRUBu^tM+tAF!+[xF5z_.*01=6LzD)DTQ:*)LN^X@7J>fb|mUVvOKpcZB<q;Sp_+^x~?)>Y;>9lt$>1]1u,&T2m
xFs0NegN:3&3xNA(@hmnKGH:QA,fFZOd5N4QSKI^_)c)v=0Qpy]VQz|)_wRg+7^fjCMyl(j_n.70p)R<S4,[]>A3WjuA0N*eX4A@
a938weQVD*+PczE,c4A,k5my)tl9vUy,;^X10A(Jmp5AXZqoCe?z2aCx|Mn$rq.M^Dwq^4(>tJ<Efix1YC4V7NUr:YvUC_q=<Teh
XSVBPkEc%GW1q%(L[bZ)pHpq:Q@[lysOs]kKkPZ[dA3tCn*V([,ap65?]dFgsIg6sTC9jaW:7G30&Zdafa3@Pdd%C_6,%GZTQuAv
I$WZXnKIf>OLL%)d.kJWd%f$VwmF|th<ld>.pCDq:Q2agz[0.XRTQAvl3yrRJgPY4Q~fA,>0B?g!m:H:R.uKmaGToKqoR?YI;Dz2
]<FW@M!%ZJi>59M53.CmvKk?Y~A,sgksgke[S<MRwd?WflZc2A6]~ATumx^Xa[auG,c]X|i@+yGi$!cfUi%bhG$Z~xmT>e3<M&cb
<b4Q+b:X~??v(cZ!UX0*tqUT5R?!<]7^^y%7[(j&e_=1jm+ubrE890*IVh4(DW4?Cq8!kB>1Tp3V7(nDTL1Dhj)B>lks]_d6Ie,b
D[z<CZOph5&Xu@MI*AYP9R0ohgKS@GLy.~ZdC3>C(4OsuX7xGkXw0o(AyOVl,P+r|a7w(qZ$$gsY,ELq_r1!;GoKy9~K80[=P[&Y
aK!Fz(Fkdack|i!wt[UH[Ds.FQ<)oQV^8kEAZ:hvCHh<JI7D5Wm%5,DoEM2K*.c|yk<MfTLN3zAM+fxqQ$+;OA(V+!CiY>d9QGO@
=]okvXObL4$+R&Kn=|t[?|Ba0MZV|X1+Fz2gm^&RoRuFL5Q6g_@+r;u<:p=b__UZY]DBW>82tPeY3EZvQ?LeChtkLlgP<e?XqQ?p
mJrlhfh@%WK02&!q6._yW41)aY|D>AO~E8Iio3h$D?Wv1O.Uu=4WW!ur;;|9ezVJBj,N^9~yjDUksc~]qK?tM0,Tj@iXi0gH[P&%
pDE$TAQlv?uMb2)6X7|K8K:D_:9Fos?&OheS0uA~ez!bBq[(mz1z]316$ClgJu26o:1Fo@w2A2Ff6ax2P&;P[8rdTyeibFX5Z0PN
LsnvR5M)0<eQ+J2+8Lg>1+OJndJZ+XmMa.8%dQpXl.Wl%hpRe$qXR=!b,H<Tz<EvIl07lfLYs)f^E$l=2ho4eFHH9yYfEAni8<26
NlpAlq(l!)s=03.xitF6<,KKsG$Fp9bo58htcFOP)RXGiaVg!:7vIYDX7H)]ADKgqP<!,f,2a$Grb]ezLOUB5iW.oEjHy5uwT8Le
JqITC6tNqZ%b<M]OssVV,?^uGIM.LmiRdL.so]F+WaTF_W;Ag*FO2w;1D8ifKY403~QQSKa3h>BWrM1*a%~t86=OOM_<HAM=$F:r
fg&|Gy5<RJYV|;u&zKMkbCnQZ?DD!eva=fc6W%NLg~[91,@Jz8uyv|L^.>ZMVhTa,,$^^F&sds1)=FDhm+)%>o6EO6Q(jEca5E1]
!MaL2t2;TPkPIbE|^9W0ZCPD~[smB<81q&x<ZqGi3xl%_aMdXWg>t*xN4K:cX<MScXb6iN31sA0Q[akMNg?j!>zAMbd6iGZ^KpDU
ujw(W=BuzqDG$nP(2sDw_;RcN>nyRyt%;r<uv^e17MDNXe3fMFQ0qAuhf(ff0T~DtOEP^rlcd0Mth&AFu9:+03R1A@n_(L?7B:Xf
0XX,S()23,5!;F=oQw5eucK*14HNOdW@*k>>$9BmJ@ndp@*<gTZQ80l>Kz[r,|DZ;5xWe4OeYtP,fM+Dtnmsu@T&kqb8S3^IXjJ5
HSD^5:47KuJr?P7~IAD67sx&^DIYN.QncW3%.|B+n=jydBr.>|v8O.Z<?M$;QE&5u]JgltK+F|gQx~]w++7<sw*<C~i*4SY2>F;V
iK8I3qiN9E?n^0or8ua3xZqk02|~6i.),VzPGJ,(vn?@.@aIih1Fo;e=9eOfd9PlY(>tuWd11.Rs~sj,0<s9UB3:w*~erFws3;1B
;.rP61b6~3K|3E7jla?ok&s>n:jD;S]pCJPfyPX06<Aj).sC&f3@?u3ub!G[F=pgGv7l)YluIN1tH9KxQ6@_Q53SgFxM*=AW6.O~
s+W|j:!Q:,6rTuX,*uH1T|FMy0mi,xfExtkZX<DuLi%pV*g?[N>E7>be&nPFciRy?0;SK+B%Q)c&pxTTil%[*Mxbq=&G.04u24:B
UmgT61!Fmx3R2h$B>1<KfB^:^I$(,Qg~J!%.T4eD;56vZ>RRDZ8.34@1sx=yA<eCTP2;+:08q916bBceyI8Xl@q]5dL8fI[kZYf3
|7dxgAmF(a6GW@uXNfkF:iXSJ)?=hu;K1L)|p%W3nQm;ayKCHX2rF]Fu*Ri?Y]z|P?aKyD@FpJSUi$539+e.gFs+u3DuQc:QxNe;
12HnPCb+<LXC<:oV6M9MzyGLD7pY@HRC0&mo=QZ6%)p2@Shpz_O,NWC[fE0rmz_2+KmSEYRX&LpF5nME$kYNdahUPD?xO2xPjD~<
>@&ej8v;|U=S@xtNW9TC_>W;r>@$sVV%Ot,MgW1(Jq,3n<,g]kTMM<a!b>|=VbRp_;$Bh+dw$,b8c.QaB0qzVu1z(_,^[qOSJn<Y
N=(w0a3pSbJ<.pHtmr+K~y%DaXL%4b?=+Hf4Lhu)O^~s6kHs)E?C!Bz4i!3V(P>1+Cx~yKcb_!?BhQ=39ys$NRIGGuE1f%|lT3Xs
goc*[9[2ryN%DSoNGu5BHQt+DEP5GFe,Nm0e9u!<Fc0)zJYaqBZGezK&t=Wk.rZOgcai7+D!*=Ab1K%j3XywfcM$66dJ:F~8>mTW
!J3]0:hR*N;cp==$Cs*5)xN[r5ST[b9=Si9s2,K]l%e0+D>wEn?;NZxAqNbf1&JAv**xZbG$;_%*KWD&O?FmX$lO%t>Qi!;F9.+e
!OPla4DQ?0)4<M!K%v>OzX(79wbA=UiBCHoC+a(cEavR[&g(N,k^IMp8hCm.3vv50$5m9uRbGqo554CK1KL9lO|]fwLxSDb1]!>H
dr@LPe8Qq0=|HTf3?I7GpD2LFcD+%E=(NkcszuN=~&TJtO:~<ZcCgjrSjtn<208dk!S0xsp7Sf1MRLkBcyA%HgL%_EUh_8ikX+4:
f[YRuT9::qMeco5VH*oj&;v|%7zCx&K3&xff)=4Ylw?;9w+=]^GHA+Q)6Kj52J<|wR(ud5a_<m3jMfW~MS*y.+MpStn5iK7BGv8V
F0L,Ve6|G7;Pj;OQPNc=:)iR!X9xA$?hL3]BJP(:XtI&^.O~Ze6~[32S>:EQF).D)L8)5hd7>xpvrP(qt(g~7^nM,0Y;M9Yh%,=A
p>g%3zdrX<v|:<x;gA20R.c+xFD6+du)Vgjh^m6JT2odK%jKdt)%8;0eCrY:m_7T<*v@&lD9Ra&7fd<lId]OTTC:l2oXBuuuGA!w
<1JTf]:yzoiKc]T|kK_GNKh86uiyLNhi&kb2v=ezX78nC6kN)K9iaI.C&ThK>8DyGwt=1~PNoyZrBs)H<8).(Y_K.cp(%_uPIrMe
.AK|;f];TRR.pw86;La.bwKF=82j;.hm,Dh8usPrA]Qtu2jFSEy=<?_A;H(BigUFUY2:PQ]|oLyf7LEmiql8gCz;PAS(IAa[9bw@
SN)9^3J;KP:GDHDVG$<,+8F0;DyV8Y_7b[jFm|lealRueN;tsJIZdB]%@|;BhTX=d~kzSVu0.._o42aaLEhne)T)1ODoQ(FMZP!6
kp!2rQ2A:(3w9T1$qiRVj%:4+E[yX4z%Ct;f^Nj6OMmkXvyu3fm3YlIID%eeGUW<>ECnmsZx9IV;[L_0f~x~Hp>Wl]k$u0d0~*IQ
:Ml|Pu~d2@@4.5?q!HZ_oL^evOw5i%OLw(Q[^]mx|:>$!4Fb]+cgsHBSP*1Ue~15O,f8I&OG[6Hy3KeK)i?CSoZ:K+gpCCg0rTV]
M4I2|l;K8pZ!uXM22pIAD+$o&@rONBAu3~mh1_T|*&5%40q3dF>,|qC+!L,AwIrnlbdo>PhQD)xKJHmYUVne27tVtqn[Ef<b8^A|
9.CT*Rtk@sKV,(z$E$;T6KuXSXs?=O29T0m)rmgpmE=Ri!jmEA8XUD(0=(hr+xJ1b.~NppMWLQ)f+p&LcYCFIRXAid@)V+~oXQ&D
)>N|7AX^fpo*Yu&&[5CQYyqkDtoFRy1brCEELERp|5e2U]=%?.$:+;%Ro<8@X;%&|W(!1?0ws~B),_ld,^0dhma+M7f%Y~@l>%OI
4*E12Q7Lwc54]Vl(=Z6vx6:;fR;O&6RBlAI*M?z!i[HeZ+)5mzKBJio[Vc=@2]bxpo$y+DTB7Ag[O=f@*$sC*SMeVf;AOUl~:J8b
@M%gLAq)Yx%[0s^h<|)ghrZB3bWM*WegI5ysv60.oU;oGKH~D!&2zvaZ<&H_=bQldxhx;GQ(4b^kSFKAYoYEz7l(9*zGCnyPSqL!
YcL~QShRZ5at@!%~6@2;6l[sR>=B*;a[|o60csb*~*;z]04[8!:ZgZuT|4_GZp>Q5fTTsXafISSC)CVTPcRGG]q,na,U22]_Fpk&
>B9f26$cNccm8leLgNvc~qwx)Lxaa+jZs3Quuo~Hs9?x:Ej]@qOv<Ts![LVH.enkgstp3dg,niKCN5[vGY@8QD|+0o4v10R*.36c
bn,Ryj|Fo8o6Uc;l+F6j9oK6@]lr;38|hfPN%r;a>fQYV|TusJ%qIDJrFmee^(sx)7E0uLYNXsn2?kw_P:vtOP*0nx]Y^dSEx|ro
Z6]%pxVSHoR)GPPxWoNXTlUl~VBKY%y&M])NDnn?fzI0|uxl|Uaf7T=Y|Ss*W(5,X!De!S9II[_WkHkYKo<1&AZreH|zGYhrYoXO
:xuqz$*POmIYAXG<0l?6~,oC0icz[rr+WbV1o%zP)$.<tzJEDJ!M6J]>@qduar$bX2%7Fa+?u7LLN)H4tfC4.:0SSZO*y^kaav3N
Z,JZgp@3DfL36Ak[wyRr_95zkC+BCbL>VkZTB63[|o?b*pLG%18DW8uFp.F$mwR(~.j44$g>W;X[%iLxOJ]G&6xB;5:,||P$rrFK
>,V4.3j.QijQHWYCk1+[pZ)tHjfX8^%kF[y*F,ucv=vZX+~&X&C7N3fQ>3n+0cufW$_8>_PebG(tt76|M?WlZonPzJ@lk??*8?wV
xrT29O2ZkbAqquP8*D%tgX=d:f4?(7AyK5EgIq@l?rf&YCCV%jZ!ivC_FOiH_d%&^d_t8u;kI2nvK2HczUBd!YyY8%rZg2!Vb@Xy
2C~pm+?lP;Ko.0:juXqymBkZyh!T;Y~MYH9p(%pse)=tZ;G14V8$aV_PhZS.[>gq29=yMoU~MYSAha|04$O;f|]H=>k[|<Vsyn7B
s0Wam])%6W6b+<M(XI)JSU!v$*fJRwRUj=RxocYRw!FooN+nYCot,q<,7z7F|Nd;Hc+ldw~LW5z~moBNtCfrw!sdwQ)r:4$eC[cg
w3pyyL~8,8SF>spi.]YLnT35&N>Lav5):Pnaw;pp81;qy@q?I~PW2F[Ci9p&mMo6,&@z4F+Gz[I3Z_7ly.tOfM,R(NGe;p_ehyrU
+nOJ6PO~BC%yT[LtqbU]n!4Zdc_Rwm;_o%CPKKgqd]I9hrZ&r|^R4egdzgr<]Wvp~sZDr3Pf41;4+80bX$|Cj_uA4iN9w]bOAN*8
z~G23Y6$C90$,@G.9zWX4bUFwMfUi.Fj7@A+WWMU%3wcWUz$Lr=Xc^z$>^:ECQRRCqsSf<tMF59;Ru,&2^UB<uNBIo0Wa|iA)aU~
[9UT1P+?S426_8EXxcr3S4vQZyuwJS[i+lpU8TIuZ6qp];2n!GfEKd4VdBezhn9n:T2SPN(4r,7Q!x1c~vwvJ6+mP:sINtZi41J!
&&8c|8?zK7ejMEsNbNuLlOZ1qUUo%0=9YUEHXl+izai9_:[o7qNSybsPD1|4Y3B;HgA9!C3*i%;~[^5UgiNJl_:M0k5Gr>r~(9]w
**Ysh]RS0Yay:(2L=qh%sJJW^7RE7thOd*mH$_pP,=]_3.,Q*h]+bl2Zf4UIe*zp@Rh~Hg[I)&fNcNA7@eJTRMS1Sd)ejpn%Au_g
IrZ4*LYHF_Y^gihF5cI&L]GMK>d)tK]H2IbrdEW_4M,TfB~+L<9=w_Gpx+3aV,ATu7~EKT3oNC6N.u<+A,E]tU[E6$96RWr8%7WI
YGJ]y9VC_c.*gEp!b$+uT,V,q@,,.USVNy51P73+5H]k^u<j14~,~hH:^)+58[M@f.>Dqe?*|~sbmrozpUuWqs_aSME1x.&5Q[Tr
uYU4;3evQ9Lz;jFiU5:zTR9>uz(4Z(0Ju_ql9sqZlttmSK>e5>[xh[Ep:h@d?M)SSZvo~]Jx>u,+:CNi(pLdJP+j++:@_ew)nf5U
6>asSHtSm,?2=e[Y6dv73w!MTq5t@Dlgmq>2(cf;NVn,A;u~>ku1X2MM2fnKu80Xca<.ys7fvPm1r8,%1I40hV41D!N4qlYWLs95
u5773wMi0y:kQ?bXqo&tTV8u[Rk~gL)8d=ra0<;OqiPG7VTd8G=|a+>@Rd:aFRP6;bJgwIKbShIEj4,E%:JA^3c18@1SInvd(eq]
3_mWBfhYE48!2*|UVpEjd51xBJAAw^z:&N,@;p&7td+lbOsAY.&(!gq+0so~1iNX,>H+3y@^BT6(CZ;kIs]A)wDB3f8?5Tgd44X=
G3x.(+cM8>4K,8J48&8oWq9+Uk?%OnTAUGslZ87P&lW]unp,1f):KK,C=L1?^r)6<$I*(QDIV3RQez!MO>Qboq6qfcdU0QZ8P6hb
$,]EG7TpacM<+)DWdJodAT%;Wb%t~kW>]DNf7K,zzSe_pRW6(0[XQ%l~yQ$FZPrth8G^Kcts)?K[^fUbupy!TDSy~7&$U^ZzU2Cr
_=ArGuh:&<=vJ3[v6>plQo>4Mj)?O[.4l|C.Sn&Uz%8n8z;0)gjSE^Yk.Rh;X[K+?jCDb0A*LxORrLILnz$z8NFRfLH@6^om!R|H
[^g%HrwbVJ28SE3C0L8Dgz,~4jSgPJ8GFMCAu~[G7BzK)GawsG7eOay6X59[VJsw(%[Idlk7p5?TfV:aH$iQjsr.nFPb7M<n~W?]
F;LPlZu!j|w*TNA)d@Hsis(Kf?gS.>UZxt%GKxIr>Ud[W]V[K?l:pR@T3HzF^(peR.Ug6:bIpc+w$u4X%8Zkj?t*JO?XtWB,PxIR
P=CEoZl3Ogvw&_.LT$I@o5+LjgN@&fi8_n@mUXj($lVmyYRj6W1AU>!3~HEd+ZdN2>[iz[5(.$gr7+6T~8^[>5xLql,gbk|UL@y^
)w]1.|GT6c7i.D>UC|;NFd]^ql62rZyVSCLV,W2s??tx7B*=2Ig+x$)u_Ta3$cYIlVE7x:mJGQN,kf0>EQGB>?M,.]Pj&c$q|n0O
B*5D,|RHmW6<jEXL$w6I@0Ah$!XfKqKg&1M)A]je)63LKQMIta,jq2B3QKCcxKIlIz<oM_R_z78UyELYf4xp(HpLMu|(.^|$lcB*
5H?(foUL6vx*?95foZgK=BawGnn<mjhDG|!KqFm((sq[aK]~Lp4JikOoLt4OaO?,RE=6ac(7S<hU]MSC+dd+m$UM!n3(mqhBRD=g
C1a7ljv]JMSuq8&goTbmaJw5=!K9YuGM*Q1|6r+!sYl_E0%h[Cvc00pU2P[i9Zz;f[c8Kd(zvd4zt6_UAP,+Sf0v~*SeksX%3Djt
1Vg*X_St,o;gj2H_sZgmY;p=)kt2z[5_?%~al;PKU|gr2WV~mfFRZ9sLgBa!!xWB,6fFkvDQlS:~2bxT,B]+fGD~faOCK6+ENE]t
[t;S6_z4?05;deAU@zn:Lv,!HXGJa4KB4xd;.8_S%,%$[T_+bQXX+zBb0J4Y5PVM=KRoTdT[x$v7I?)%<)W*YVxLN!>Gw%~i0?bA
jgMdX+lEP8>POUH*KYi.n?%iOT+0RH1O$bx&u&M>dwDX.B&ryu*O<G(lMoR0]l9K,<|~]tY(b2MK)$zgrHwe(Fp8khv~R.vx*vK!
~A+[Pnt6(&bBI]:N8SCV4M!_Et%3Fb9pV<oy^@v[+>nW>Qll^|:7u@!<4%9*S9Qm|JMHt67[2~BmO)5,nIkAj]710BH|*tWl|v[f
;:fS9Us!Z,&00XokWgeuRO*qI6TlNv.2(^l)B^i%s6A|uD5sa[(wjA|3$[FY39H)bIi1hVGO2~mk_Ux(C*1EEj.>=!j))C1cdtw(
(fgV7DQti?C2,@]j&uR_F:s,*;RD2_PcgNw!qO(b<Pb=V*_(FK|;HeY>WR483C7pZZQ_<4,gv6SU!9jp0m&,c<I8(*:E^>7FBg.L
o4NCXg,EmG1$cj)cce2T~YF@rUU2iMKxq~!yc^O_]Dg!T|lLtTSAiCl*_2hLnR??).lJWWK(Oocb75xYs,79_RF@3g&uC$H:SI*G
F+e27FnGR+FRF7S|+71sd>43wJF5<*E&Ztpnbn|^tYEs(=<>f!Gck[Gq0(V(.ZK]r%!mxgT7*)LeDE3Lkgp+ISR|cQXjl[R.~pA+
TN=fhYa~M0cNB7K8T[~TXgVVwi&IY!yq*jGU^$UZ?E%Uv)n_w>sN]3aSkWg9=B2Qk~8ynsjpiFm7+kkmIUDP?XeswMqdK(MSp?zL
c1kGz8Ezma:g+v4U?>zoMBek,V^5mUdMiv;laWk:G6WP[43rFS~79G*]eID)h~:FDJWx>zs)AOTbRX~j04PibehOK~fObsCUQA(k
=(qxre$Hci(MH<vos2CsHJdS&9H8UhDl|,etv<^T_nvr+*SZ@LpF?Hf*fSJ+ftWqZrW>wjeS)QojqA](i+4Se<Mr+T=>$(R_j1Gp
N;*2gw>dn]J>,^61U**MJCPj;Y_ti9y;Ddn?s[2MdT?!F:SV]+yxiymGO&+FvW7Fe=3K7L7%Hb8t:n[>M[ZhDpP<Sk~QQzhKQ<5I
nJG(b2L.38o,S)AMh%ijW)xh3p7XLnQ:bN,eiy%;OZFF.p7H<pd>1zHu!I_wkpq4cN=wIjFpk6D?kXnx;N>9p35TtZ_i$[<!+*NN
)t+XF<6OSPhMv0g?A)%6MetACYt:_jfrC_FI0L,MyB.:jnb|DesK,9y&&MN>I*!(%K:4Z(c*=tnOcobez,4MTM?s(3%gA]*;_:XH
O8>0lk58Y49K(Y<iCnt!I(ZXf^l<y<kmG?Q$jmen?00nPC@U?hwVc]Qf+6j)tNN7vtcM.NL2.^+3HbOySo31i?n!+@B|QRTsf14_
W$oACV%u|sn@i|zg)g1f]Tg$<:dl4+*z[AAM;53SZ2xmT|80Ae%A=A4ek*1a*siReTX|;kE)$vLgGH:<Nsf&,6$YI!X2e>xW+DbO
ad.6%NDhN2<gFYSx2;wam;DaZ<)SH3Lq)3~j+kqiYHBmP+hE>A.0l]s_Q@H,~PhQ6eQ+j?G~RE+RnnTB^zVW1qj:PrO4)<tk[q~U
~dsJCM>W^rP6BT5]t6m)5p+)>B$Fgsc(_+kcT?6nTo(YjH3:tyVhy7d0t>EUmg]>]K]MQIC7zhnp9*N]C*tGUbyTsHsWtOex~*5^
7E<2cl+Dv_<e^@>V*xcJce4OVX[tfaU2sd;MV$b3_uGC$Ub&|U39I@|0kl@Od!_RJdzp:GJ_tWD^D@_QH.~y+o]~|SlcEgGX7A=!
;*?bkj)3HqLB^~J,cIl05pd:s609k&h|X?s,^4~w;P>N0&Svw2yU5)Cfw:gyrR)QpUwqJmU_$KqNU%&O6GXqd_w^(6*i[V_g4=^0
.bSaUPG9Jyw|__;x|x*;2p6F?JX*x6Zps6cbCuKR%[p*4H8iMN0l3)fI.SoeistYzn?hr8EEI8uyKASU~b)uz<MZa:I@pN:|BrMy
*;SSGO^HS(=[W@cCL0qF<YMOWaZBU?1@(W8MS~rXnS|E[6TYiqs[GlK(?+R^$e9ZIm_OFd&6LKBq^9[;Jl1pS$C+b+%OFh;nkKUs
(OFa@NBWo*F<BTrO%:8s6>wj?3JIjDUNaRW|sWB@*npPpLgLJJER^1$M?(=ay=Rf?ANNRzyp$KY*T7Z%n&$P@qe|@q((Sv10G|=]
$1)Y7(au^5[0|d~S<6cK:MROr1bbCE4e_hS@I?M^DHXnu)KNK@lW_+vn?ApOB$|ir,|KCr20U1BNUmtW>MUxiBh&N1o2RY@d!h;R
%$c2|.Hu]ZH(D*KD+P2WEw%,my>$sQ!L@!cXq0m35IT[9RqgU;OPd9^*[gr&_s,C:cAPcJi@71P>IwO]aLb18rkoZta+Ptg>2^T;
u+!ID>b5[vOG]8eKUZ[79EO:+xp_=,[NMUAs.4wW!Ii!or!v0UZ][[^9Vx7+PcG2iD;mR_D:ZzzSu1c|1>1*Ubg~G3W0^)JoMYUX
xA~TwtU^azd5$r&rK?RK^rMT:e<=af,0*co~NGO:&^aRkO&Ai0h;X_,]Wlji|tZFcweZOJK:JnOzJNY;:Jb|bWWcB~Qz:HLjI3Jy
VIi8X^+Z(%sEgz6^e808jAU!qfJg_<YySG1J:p@FFk).P=!j_k(yZNFn?;&Da@8M&Tr<,;fb@pIR<ZsEKcI.xCEa+XA<]rUg?gjc
pHz@F1xVKkp]q.xBtr6heLdgDgwP&!J>y)ukW1ruw>S,[iT[[i$;aEx9ayHlnG=Tu3TwOaxic8CiMXKAl^4ZOhbB..1$J5q*4:c9
Z<%qlS2<5$.O5Q*br2Kz9PvH[bFco]Qvs!Nen)@=$tZo?q:_5NMg3|a9T5Lo!ZFI76&vUy,[UrLaSa65mn|xO_6K6~ULoYdUicpU
:VQ&WIypI1vIjrS[Z34QfS?zdfbvS,_5D6u]h1F4Easjf|oGn.RfAR&m[KS]LybjCpP$M3<CACau3@rP$@%2%.|<5gShnmy,P%9j
v+[cic]GSb|c$3[6aI1t!ENa>Lt?lV[n?D|zUEj3,VW9.4K?V~jl.!5w0qDmmj+u!Kp@tNFLV~dT<,rVUQz?Aj0|F=erPwe**Kps
w5:!O_1j3QxcOy+AEwc%amB?+vKktB=1i$E[<+8Dh^1k<^[!Fl)9.mVPQkm65j,IWs*=:<_Y?@wAx%r~*ou)^Crhc!iIolSCHF6+
|4Prl~Vq_3^X[riFb_NNW!==)>D)K*k6~e<n)t9NsCsN=$Oq,jROL%A?!b05F)yZwkmA2E6H,UBOTH>A7R81Bn,dbJL68uf|wom2
Dcp,+tD3Boc5k%&um6e[I;n4l5y0H*An_Z*s,=E6Myi]nTe?v[G9,*ChMo7i:d;ePb%DdF)~;f0yBRFRQZevSJPXk]S4UiIg(aN&
b$m8yRe~fBA&R6TxJMF*~1+U9jK)mZCVcmbz0Vg9<ejg=eyc(3jHL2T01&Y>cy$dP<5C9?kCz9>|tl$kr?^zY:07K|8<Mu~(;*:j
inDuTS2]3MBv5!>$hx8!]>yD^IN(]?_HPBh!hF(8!T<i^ye]L!C:px(Z>qAYy_7b9W_E5x*Aub?2j![~TS+n;H>KK&YfTn(be0DU
OqMcG@XY=.Om7rPJV&M?+q@iRef=*7Qnn,3T_b!zp_(>M8e*@]Fw.YFU|uekL:fYD,[dK+d,R?%l$!XnM:6_:HhJN,5;>Qh1W=eD
elcnj$(*ER5@UL+Rhh]|1<N63U]QcYu1xRcD@6hK<%t3gZe?~n)f8u&lbu[p0v^?Q8a4MKgl6L]UV%Lms6c^jInFVrymHK;viyKs
+2rnw]SrR?@lw21%j%CilWk+y.o~9fVCTY_DvpRZ9mHIX;vH>1qL$!5R17pn!u$ev6NhaKyo))8pMiO|y]f~zvs,B%FJa^fb7Ny?
8(70GLRKN:6(nPjw:W,Bwja8z+@uBsK~p;I5loN^wB=teyq<vpK.M+*wFnsMB11ufFBBtVVI6xmvARk&c_xlWH:kC;[fi<b(TW,x
tF|6T9=TJ+~Br:4qdnq7sdw$ky?$s,A.Vxc~oc2vEYPNRK]yi&uL0>^j+B^,,3FsJbn,p]+.x[C%8v8[|k(m1W[uRpfkMnf$@$sx
d,Hi1fbxk)irx%fTn9[z8eRxhxeJs~$mkmgs+t,M_x1_@](d|kY0C&i+[uV*,tJgv@53,WuhQ^.SMuU&W@zy|_f6Df)FX?IZ[Nfp
[P+w1U~crBm9)[&;;xtsk?QDHPc|yismK,EcYNM.lV|A=vRW8qiDKewTn,qDGCGr>M9O@Ogg3<xRk^?:CRRbF1j^BIF(^8NT&G0$
izJe*Es<]z3@ZVMK<^0bvkt7R>JO3F+=Mly!@JX,b$C+vj[p5:ev5C+Yd0xdNav8U<[gMC3rSqLNojlRjWG(4,HAE>dj?PW%]^2K
SLa06o+.KB~ytB4&+@:T9?a?dYE<as5<I6S2t:@tnp(bEQ|Te^eO!U%:Kf.nh3Jo4[pyhn6^$IOVQU_oK)W9$F&_Eow.fXAHQ:E(
<^n|OLno!iD:q*~=%h;UiKnr8Vt<2Nxq3gt6VHkuw_=(Ght()y!R.,kdw]RUz3Me?g9]$UdgAN:D)h>Dv5e@Dh!Ji9>c;eJt)K7d
bkJ$273)(<C!w$U2RBlJH?.yU*62m*?g3XOU@SqJkq.bj7e7O[YKsC%Vj~[?Z+leMxG=yvljlcSx>(f7P!pXVl8pI<u9qV9(Q[=(
ZLIll@@f:V&;:D%MjV:hvh+IN;y!<>&i,w3IO?t)SVlDbqj9|3c?*Ib~JMr,inW?O[MHp<PsWP?uOHy&ZCIR^@iG$%E;<r!=;!LM
7,fV)dkP3O*SdKGr3@=sTbj3|[QIjR|!ifGc(HmHELXT;&9a|JM<:VT|>ic8V;Ur0!!!!!<Dnlb_l2:;@kJK&~TY8~,Mh62OIj5C
1<~&h2nVFj^[jtW4~Y)(aW*=a=f77qtDS<DHnp;vPsb~?QHBAthp3:WW]pZsIs>?2Qz6grW%YYQ;YZq9.S~[rz[lnLqH|QZY)ws|
8+=Hfa|]cL!Bpu!;Nr*^L1%lv3V]ab,7bP*=54dUUfNgv]WO08ThZgpm6R[:%MA=dlDywof3VMh:G*Ak|rS!a.g8c~EB[|SB?kJ^
:&,;+E_D7R+Nr6Vx[!6PW~GqCGW.oNG%V8z<Q>(w&2%dFVOdE:^5Diow1SU:$o|0oT=T_a|1KOYAw7M|%)E1u^pw1i4iXaAJw@n?
3Rc4%RCP1^5Pv*RL|K14uhhafQzzbXDeDog]FT7(H@@,e>iP(]@8NtYs8t4(;VMmrO79,wR;6Wv&wzJGh)_!Jt^mpU.TCZ3QHAoX
&~>><geBRD<K7nI?_uh*n]@|<KwHj8[joNaU5SL!xZ(f=j:P%8^<tEvo:3]T2UVNZrj^;?1@k3LS7R^xKKA8S8=UwFN2!!!!!!!!
!!!)2B9B%)DbzR]Xff|Ju%R!e]z_2.Tuvq!iCMMoGU);VULobm7tgL&nLU;t[gdR6v|+lK:bhjKN^;T$k_?:6&by+6bvM>3!P@^=
EF6.ltF&%C4DnS.Vrm[?FRA=yfzM=EUfKt5_Rk,.0OMuiMefap.jK5D.e$hnh.BHh__P;zT34=R?Gn*|qYd)&]o~AB!^KG[]jP:J
zyDp&o6u=P*a7DTyDu4&iVs:6dkR?_gp131ZIujb|W;ExZIZTwZ?FDMm1KGT:2gSNh(e:,Q[r&wEumz&Lde7v&KZT%m>CH.X$.YX
Tjn[V,N)6J4Q|^3YtZpOU.PeUneU$oO|o8oY24hd*86v6LPgkzli>qcF5U]B!~^8gz!6:<5JV54o<.%[Y1r^s$|Q17IZT!m6SD69
eA%AzuKlsg|p^21Rx;Lu=82>n<Xv2;~uiNUUV^rgSrh_OXT%xmo*nkCjH>]~?,Onb!BChJS]TE|:]Iv)P9|N4LpYQNM12P?Y|JLx
W+X)bE48i&Cbm9lt~qqxBsoCZJb(<L78ycQi%G7Ip=2(3uNb]TQHY3Sa3lX+^joh3>za5aMH9<OtHHzWLN0Y^s,A=~RCoYIG5((:
>W]F]F5BCZk!7mE@ijj44lQe=]974jNqC)JH!N65[&ZC6&.dAksYC&xMhFP1W)<RY1:|,f%IWpoHqO9+@G~A~1Pg$[Ca7,]92fej
[5I]6IgF4Rfx2G|U&8y2[xf,[q$3)EVR9[;nn6c7fU(W.i*zfv=!omL5do?eyM<zjFGqqFqf!i3[l8kw^qz)^,iWR2BZjs&x3uB>
ORcsw2rODyGi!hQ;Aa.L*AeY0vNP2+USwQ%$[6Epk*h^[y62=%6s:LqH@<aU9HWE@ZlDFfJ_jcK$Oo)5,^R6w6YnPI1k.0u!<~DB
||s73>V^j;CXtnHRGF~lx08RZI:q6LU02g>h9OyMK;v|J+Min+RO&T[8E3=w8^qcQwu<bl:QP=7b]wQR2rELa2(?JVt2jZ>m?3a5
2><;]UF)Yl7VIv[RvIlA>SnMeOY~ZwM=B|VOr[fZ+NW<IaMe.vQ=%VlQyH@>mt~<wCFvN6Ook~OYS2yPjkO3Z?EcdjTpoxzMTmY9
>@qGnNDmfsWcr|v%|SFgsAfU%2RX(8)$ly|1$cKdMllXp$p36eDOJePQ2CAB;0OzIv*z)vzSI,yN^6@oFnLsIM$TwV*:YQ*lQf|U
0t,7Wm9@x7D;!uzbN0u(~2O_QPCwell&=21T$t.p~*[!zC89bH<WcIAT.2%+^V=Dy&M4y~&fA+@D[1f1,~>F0_y5L9w[C=My>QkM
C,n~0(6+un0]@|5E[R4Ooe$<=Prrx%otrO0QciwlQvuvwfAi>%0r.s~)aB]]r1]pE5zpAl!(^ZDYp+0&I*sy4>7INZ$+q(9)GlwB
!^>^?Ho;q&r&WJS2*J[PB2U3VrN81*@JhC6$+0Z94iT8.;D~lu?f255PQ*)jh03ljbUqKUUFkYBE*khCILYIcNj?VYVTtG4E?Uix
<sdLaND7?_+OV2I=)i7HBQR7iO8L9sYPp&cX$OIuoEI*S+BSt:9j=.j~7OD:|0orZ+[!uS>wwmO~uJ$a0T~6Fzc4Dl(r]xhu,7dR
qV@(<[1Jc[0q.n;Vx)VSYi1XLt!_Nqnw?R=NCId2>]SCWAW,VIF8fA.W*izI|.Y?wpx64MdNeXicgKCh9+)yV)&)&brr~sso,&x!
3pX8DM.O;R+V@+JF3%u_TPyyyMD78hf=:rlH@Do@klS3O&&y=wEb!MX><V??qu+mtiBopf$sn*ab@PGRLf72=C_Y^2S3;|&@^&uq
7:&Y$wwIX(IUy!HINv(r3BwFcuq<:rlDRX^frF>H13V7Tiyq*>+40S[_E%G%:.aPVh73.hpk6M*5!oFZY@ge(RH&$3rm@2Me3z@[
FPw+BbKKwoF7|&8Dvwk@vY.2a$OrheoDW+8HAsBH4iR6wf??M>IJAIaK2w2q8(jt=fHR6J&EO~$6IL.Sz0H;Q~Y^1Db%&<u9&vF!
!!!"⟩

end ExtensionAudit.Text
