/-
  NumberRegistry.Url.DomainMapping — what becomes of a character in a domain name.
-/
import NumberRegistry.Text.Ranges

namespace NumberRegistry.Url

open Text

/-- V: kept. I: dropped. X: not allowed. P and N: shifted up and down by so many code points.
    A: the first of every two shifted up by one. T: replaced by the characters listed.
    (The mapping table of UTS 46.) -/
def domainMapping : Labels := Labels.ofLines [
    "1tV qPw 11V wX Tw 7V Tw,lk V T2p 2V I V Tw,lg 2V 2N3k Tw,ld Tqk 2V Tw,mf T1d T33 V",
    "T1d,6dg,1g T1d,6dg,1e T1f,6dg,1g V nPw V 7Pw xV 1cA T2x,lj V 2T2x,2y 4A V 6A 2T30,53 8A",
    "Tjg,32 1aA T73 6A T37 V Tgj 4A Tgk Taw V 2P5p Tb0 2V Td9 Tgp Tgr Tb6 V Tgw Tgz V Th5 Th4 Tbd",
    "3V Thb The V Thh 6A Ths Tbs V Thv 2V Tbx V Ti0 Tc0 V 2P61 4A Tia Tc9 3V Tcd 7V 3T2s,am",
    "3T30,2y 3T32,2y gA V iA V 3T2s,3e Tdx V Tb9 Tcf 14A Tbi V iA 6V T8rp Tfw V Tbe T8rq 2V Tg2 V",
    "Tao Ti1 Ti4 aA 2oV T2w Th2 T2y T36 Thl Thn Tht T3b T3d vV Tw,li Tw,lj Tw,lm Tw,mg Tw,lf",
    "Tw,ln 2V Tgz T30 T37 T3c Tid 2jV 2N1s V Tlv Tlk,ld Tqh 9V I wV 4A Tjd V Ton V 2X Tw,qh 3V",
    "T1n Ts3 4X Tw,ld Tw,lk,ld Tq4 T53 3P11 X Tr0 X 2P1r V hPw X 9Pw zV Trb Tqa Tqg Tqt Tr1 Tqz",
    "Tqu Tqo V oA Tqi Tqp Tqr V Tqg Tqd V Ts8 V Tqr Tsb 2V 3N3m gP28 wPw 1cV yA 8V 1iA Ty7 eA V",
    "2oA X 12P1c 2X 1aV T12d,136 3V 2X 3V X 1jV 8X rV 4X 6V hX mV X 2gV T17r,19w T18o,19w",
    "T1c7,19w T18q,19w 2sV X 1cV 2X 1nV 2X 2tV eX 1nV 2X 1dV 2X fV X sV 2X V X bV 5X wV 7X 23V X",
    "39V T1sl,1to T1sm,1to T1sn,1to T1ss,1to T1sx,1to T1sy,1to T1t7,1to T1tb,1to 10V X 8V 2X 2V",
    "2X mV X 7V X V 3X 4V 2X 9V 2X 2V 2X 4V 8X V 4X T1wh,1x8 T1wi,1x8 X T1wv,1x8 4V 2X pV 2X 3V X",
    "6V 4X 2V 2X mV X 7V X V T20i,20s X V T20o,20s X 2V 2X V X 5V 4X 2V 2X 3V 3X V 7X T1zq,20s",
    "T1zr,20s T1zw,20s V X T20b,20s 7X hV aX 3V X 9V X 3V X mV X 7V X 2V X 5V 2X aV X 3V X 3V 2X",
    "V fX 4V 2X cV 7X 7V X 3V X 8V 2X 2V 2X mV X 7V X 2V X 5V 2X 9V 2X 2V 2X 3V 7X 3V 4X T275,27w",
    "T276,27w X 5V 2X iV aX 2V X 6V 3X 3V X 4V 3X 2V X V X 2V 3X 2V 3X 3V 3X cV 4X 5V 3X 3V X 4V",
    "2X V 6X V eX lV 5X dV X 3V X nV X gV 2X 9V X 3V X 4V 7X 2V X 3V X 2V 2X 4V 2X aV 7X mV X 3V",
    "X nV X aV X 5V 2X 9V X 3V X 4V 7X 2V 5X 3V X 4V 2X aV X 3V cX dV X 3V X 1fV X 3V X 6V 4X gV",
    "2X qV X 3V X iV 3X oV X 9V X V 2X 7V 3X V 4X 6V X V X 8V 6X aV 2X 3V cX 1eV T2tp,2sy 7V 4X",
    "tV 11X 2V X V X 5V X oV X V X cV T2x9,2wi aV 2X 5V X V X 7V X aV 2X T2wb,2vt T2wb,2w1 2V wX",
    "cV T2yz 1iV T30i,33r 4V X 4V T30s,33r 4V T30x,33r 4V T312,33r 4V T317,33r cV T30g,33p 3V 4X",
    "2V T31t,31u V T31t,31w T33m,328 T33m,31t,328 T33n,328 T33n,31t,328 7V T31t,328 hV T32q,33r",
    "4V X 4V T330,33r 4V T335,33r 4V T33a,33r 4V T33f,33r cV T32o,33p 3V X fV X dV 11X 4gV 12P5ls",
    "X T8x3 5X T8x9 2X 18V T3bw 2qV 2I 6gV X 4V 2X 7V X V X 4V 2X 15V X 4V 2X xV X 4V 2X 7V X V X",
    "4V 2X fV X 1lV X 4V 2X 1vV 2X wV 3X qV 6X 2eV 2X 6N8 2X hsV X sV 3X 2hV 7X mV 9X oV 9X kV cX",
    "dV X 3V X 2V cX 1gV 2I 14V 2X aV 6X aV 6X bV 5I aV 6X 2hV 7X 17V 5X 1yV aX vV X cV 4X cV 4X",
    "V 3X 16V 2X 5V bX 18V 4X qV 6X bV 3X 1qV 2X 1tV X tV 2X bV 6X aV 6X eV 2X 1aV 2X cV kX 25V X",
    "4mV 8X 1oV 3X fV 3X 1fV Ttu Ttw Tu6 2N4si Tua Tui Tv7 Twuj T5my V 5X 17N2bk 2X 3N2bk 8V 8X",
    "17V 5X 18V T2p T6e T2q V 2N5os Td9 8N5os V T33 Tf7 T34 T36 2N5os T3b T2p 2N5bo T5qa T2q",
    "2N5pg Tgp 2N5bk T2v V T2z T31 T97 T33 Tgk 2N1q T34 2N5pf T5r1 Thb T3a T5r9 3N52j 2N522 T2x",
    "T36 2N5pr 2N52s Tqp 2N52b dV Tu5 yV Tgi T2r Tgl T6o Tgs T2u Tgv Tgx Th1 3N5do T5tn Til Th9",
    "T5tx Tin Thd Thc 4N5do Thk 2N5dd Tbv 2N5d9 T5r0 2N5da T3e 3N5d8 Tqg 1sV 46A 4V T2p,ji T601",
    "2V T67 V 2oA 8V 8N8 6V 2X 6N8 2X 8V 8N8 8V 8N8 6V 2X 6N8 2X 8V X T66p X T66r X T66t X T66v",
    "8V 8N8 V Tq4 V Tq5 V Tq6 V Tq7 V Tr0 V Tr1 V Tr2 2X T64g,qh T64h,qh T64i,qh T64j,qh T64k,qh",
    "T64l,qh T64m,qh T64n,qh T64g,qh T64h,qh T64i,qh T64j,qh T64k,qh T64l,qh T64m,qh T64n,qh",
    "T65c,qh T65d,qh T65e,qh T65f,qh T65g,qh T65h,qh T65i,qh T65j,qh T65c,qh T65d,qh T65e,qh",
    "T65f,qh T65g,qh T65h,qh T65i,qh T65j,qh T674,qh T675,qh T676,qh T677,qh T678,qh T679,qh",
    "T67a,qh T67b,qh T674,qh T675,qh T676,qh T677,qh T678,qh T679,qh T67a,qh T67b,qh 2V T67k,qh",
    "Tq9,qh Tq4,qh X V T69i,qh 2N8 T67k Tq4 Tq9,qh Tw,lv Tqh Tw,lv Tw,n6 Tw,lk,n6 T67o,qh Tqf,qh",
    "Tq6,qh X V T69y,qh T67m Tq5 T67o Tq6 Tqf,qh Tw,lv,lc Tw,lv,ld Tw,lv,n6 3V Tpc 2X 2V 2N8 T67q",
    "Tq7 X Tw,lw,lc Tw,lw,ld Tw,lw,n6 3V Tq8 4V 2N8 T67u Tr1 T6at Tw,lk,lc Tw,lk,ld T2o 2X",
    "T67w,qh Tqx,qh Tr2,qh X V T6ba,qh T67s Tr0 T67w Tr2 Tqx,qh Tw,ld Tw,lw X Tw Tw Tw Tw Tw Tw",
    "Tw Tw Tw Tw Tw I 2V 2X V T6c0 5V Tw,mr cV 3X V 7X Tw 3V T6cy,6cy T6cy,6cy,6cy V T6d1,6d1",
    "T6d1,6d1,6d1 4V Tx,x V Tw,lh 8V T1r,1r T1r,x Tx,1r dV T6cy,6cy,6cy,6cy 7V Tw 5I 5X 6I T1c",
    "T2x 2X 6N6dc T17 T6qa T1p 2N6dx T32 aN6ds T17 T6qa T1p 2N6ed X T2p T2t T33 T3c Tgp T2w 4N6cr",
    "T34 2N6co 3X 8V T36,37 pV eX xV fX T2p,1b,2r T2p,1b,37 T2r T4w,2r V T2r,1b,33 T2r,1b,39 Tgr",
    "V T4w,2u 2N6g3 T2w T2w T2w T87 T2x T2x T30 T30 V T32 T32,33 2V 3N6g9 T36 T36 2V T37,31",
    "T38,2t,30 T38,31 V T3e V Tqx V T3e V T2z T6d 2N6h6 V T2t 2N6h7 T6ku T31 T33 4N5et T2x V",
    "T2u,2p,3c Tqo Tqb Tqb Tqo T6q9 4V T2s 2N6hu 2N6hr 6V T1d,6dg,1j T1d,6dg,1l T1d,6dg,1d,1c",
    "T1d,6dg,1f T1e,6dg,1f T1d,6dg,1h T1e,6dg,1h T1f,6dg,1h T1g,6dg,1h T1d,6dg,1i T1h,6dg,1i",
    "T1d,6dg,1k T1f,6dg,1k T1h,6dg,1k T1j,6dg,1k T1d,6dg T2x T2x,2x T2x,2x,2x T2x,3a T3a T3a,2x",
    "T3a,2x,2x T3a,2x,2x,2x T2x,3c T3c T3c,2x T3c,2x,2x T30 2N6iy T31 T2x T2x,2x T2x,2x,2x T2x,3a",
    "T3a T3a,2x T3a,2x,2x T3a,2x,2x,2x T2x,3c T3c T3c,2x T3c,2x,2x T30 2N6je T31 3V T6mc 5V",
    "T1c,6dg,1f 2V 4X 4cV T6qz,6qz T6qz,6qz,6qz V T6r2,6r2 T6r2,6r2,6r2 6wV 2P2jj 73V mX bV lX",
    "9N75b T1d,1c T1d,1d T1d,1e T1d,1f T1d,1g T1d,1h T1d,1i T1d,1j T1d,1k T1d,1l T1e,1c T14,1d,15",
    "T14,1e,15 T14,1f,15 T14,1g,15 T14,1h,15 T14,1i,15 T14,1j,15 T14,1k,15 T14,1l,15 T14,1d,1c,15",
    "T14,1d,1d,15 T14,1d,1e,15 T14,1d,1f,15 T14,1d,1g,15 T14,1d,1h,15 T14,1d,1i,15 T14,1d,1j,15",
    "T14,1d,1k,15 T14,1d,1l,15 T14,1e,1c,15 kX T14,2p,15 T14,2q,15 T14,2r,15 T14,2s,15 T14,2t,15",
    "T14,2u,15 T14,2v,15 T14,2w,15 T14,2x,15 T14,2y,15 T14,2z,15 T14,30,15 T14,31,15 T14,32,15",
    "T14,33,15 T14,34,15 T14,35,15 T14,36,15 T14,37,15 T14,38,15 T14,39,15 T14,3a,15 T14,3b,15",
    "T14,3c,15 T14,3d,15 T14,3e,15 qN76d qN773 T1c 10hV T6qz,6qz,6qz,6qz 2vV T1m,1m,1p T1p,1p",
    "T1p,1p,1p 2tV T8gt,mw 47V 2X 3uV 1cP1c 1cV T8rl V Th7 T5tp Thp 2V 6A Tgh Thd Tgg Tgi V T8s3",
    "2V T8s6 6V T2y T3a 2N8cf 2sA 7V 4A 3V T8vn V 5X 19V X V 5X V 2X 1kV 7X T8yp V eX oV 9X 7V X",
    "7V X 7V X 7V X 7V X 7V X 7V X 7V X 3iV yX qV X 4V Tlal 2bV Tvj3 cX Tfeo Tffs Tfg6 Tfgf Tfh5",
    "Tfid Tfik Tfj4 Tfju Tg1r Tg2t Tg2z Tg3m Tg46 Tg4r Tg68 Tg6t Tg74 Tgbf Tge1 Tget Tgey Tgfs",
    "Tgg1 Tggs Tgh5 Tghu Tgja Tgjs Tgkj Th5j Th7j Thkb Thky Thl6 Thlh Thlz Tho3 Ti1c Ti2o Ti60",
    "Ti6n Ti76 Ti7s Ti9a Ti9d Tijf Tijp Tik1 Tike Tinm Tinu Tinz Tir8 Tiri Tirv Tis3 Tits Tiu9",
    "Tiur Tiwz Tjd4 Tjee Tjez Tjzj Tjzo Tk1z Tk2f Tk2s Tk3d Tk4g Tk4l Tkc0 Tkco Tkdk Tl5s Tl7m",
    "Tl89 Tl9v Tlaj Tlas Tlaz Tlcf Tlck Tldg Tm7f Tmju Tmk6 Tmkb Tmkf Tmkn Tml5 Tml7 Tmng Tmtg",
    "Tmtl Tn30 Tn3a Tn4o Tn4v Tn54 Tn5c Tn7v Tn82 Tnee Tnel Tnfy Tngf Tnhq Tnob Tnoi Tnoz Tny2",
    "To1k To1q To6s To97 Toah Tokz Tooo Tp4m Tp5d Tp6y Tp8d Tpa9 Tpak Tpaq Tpbn Tpdr Tpe1 Tpnn",
    "Tpnu Tpo3 Tpoc Tpos Tpp7 Tppb Tpri Tprm Tprs Tqj1 Tqjv Tqww Tqx8 Tqxv Tr5q Tr63 Tr82 Tr9c",
    "Trp3 Trpi Trpx Trqw Trrx Trxg Trxs Trzn Ts6j Ts7e Tsd7 Tsds Tsdx Tsk1 Tsp5 Tssm Tsss Tssx",
    "Ttiv Ttj4 Ttng Ttrq Ttrt Ttt4 Ttw1 Ttwe Ttwi Ttwp Ttzf Tu0d Tu0j Tu0x Tu5k Tu6z Tu73 Tuc6",
    "Tuc9 Tucs Tujs Tul4 Tulb Tun9 Tunj Tunm Tunw Tuoq Tuzp Tvat Tvb3 Tvc5 Tvcr Tvcz Tvd9 Tvdd",
    "Tveh Tvel Tvf2 Tvf7 Tvfk Tvgb Tvgq Tvgy Tvil Tvj0 Tvj4 16X Tw V T1a 1fV T9hu V Tgg1 2P6x7 5V",
    "X 2eV 2X 2V Tw,9ll Tw,9lm 2V T9l4,9l6 2nV T9mb,9mw 5X 17V X 2N6cx T3hm T3cy 2N689 3N6d0",
    "6N68a T3dm 3N6d7 T3dt aN6d8 lN6b2 I 2N6dt 2N68w T3ik T3im T3ir T3iv T3ix T3do T3j1 T3j3",
    "2N6dw T3ds 2N6du T3dz T3e1 5N6dp T3ea T3ee T3eo T3ev T3f0 2N68h 3N6ct 2N6bn T3go 2N6bd T3h0",
    "T3ha T3hd X 2V Tfeo Tfik Tfex Th5n Tfey Tffx Tfez Tn5e Tfh5 Tffd Tfep Thm1 Th80 Tfju 1yV aX",
    "gV T14,3cw,15 T14,3cy,15 T14,3cz,15 T14,3d1,15 T14,3d2,15 T14,3d3,15 T14,3d5,15 T14,3d7,15",
    "T14,3d8,15 T14,3da,15 T14,3db,15 T14,3dc,15 T14,3dd,15 T14,3de,15 T14,xz4,15 T14,yvs,15",
    "T14,zc4,15 T14,108s,15 T14,10p4,15 T14,115g,15 T14,1224,15 T14,12ys,15 T14,13f4,15",
    "T14,14bs,15 T14,14s4,15 T14,158g,15 T14,15os,15 T14,1654,15 T14,13p8,15 T14,1350,13ic,15",
    "T14,1350,16f8,15 X T14,feo,15 T14,fik,15 T14,fex,15 T14,h5n,15 T14,fis,15 T14,g31,15",
    "T14,fer,15 T14,g2z,15 T14,fh9,15 T14,gg1,15 T14,kco,15 T14,m7f,15 T14,ldg,15 T14,kdk,15",
    "T14,ssx,15 T14,h7j,15 T14,k4l,15 T14,kkq,15 T14,kcp,15 T14,ny6,15 T14,glp,15 T14,mm1,15",
    "T14,rs1,15 T14,nz1,15 T14,gc4,15 T14,fkz,15 T14,gos,15 T14,i1y,15 T14,nhf,15 T14,flt,15",
    "T14,rt3,15 T14,ggk,15 T14,nzh,15 T14,fm9,15 T14,pnu,15 T14,po3,15 Tgun Tinw Tk1z Toen 8V",
    "T34,38,2t T1e,1d T1e,1e T1e,1f T1e,1g T1e,1h T1e,1i T1e,1j T1e,1k T1e,1l T1f,1c T1f,1d",
    "T1f,1e T1f,1f T1f,1g T1f,1h T3cw 2N6lb 3N6la T3d5 2N6l8 5N6l7 Txz4 Tyvs Tzc4 T108s T10p4",
    "T115g T1224 T12ys T13f4 T14bs T14s4 T158g T15os T1654 T14c8,y5c T13p8,13dk T138w V Tfeo Tfik",
    "Tfex Th5n Tfis Tg31 Tfer Tg2z Tfh9 Tgg1 Tkco Tm7f Tldg Tkdk Tssx Th7j Tk4l Tkkq Tkcp Tny6",
    "Tglp Tmm1 Trs1 Tnz1 Tgc4 To2g Tn5j Tho3 Tsix Tg16 Tghc Tlig Tu11 Tfm9 Tg49 Tl7n Tfey Tffx",
    "Tfez Tijq Tgkz Tgfv Ti3b Ti1y Tnhf Tflt Trt3 Tggk Thlo T1f,1i T1f,1j T1f,1k T1f,1l T1g,1c",
    "T1g,1d T1g,1e T1g,1f T1g,1g T1g,1h T1g,1i T1g,1j T1g,1k T1g,1l T1h,1c T1d,kco T1e,kco",
    "T1f,kco T1g,kco T1h,kco T1i,kco T1j,kco T1k,kco T1l,kco T1d,1c,kco T1d,1d,kco T1d,1e,kco",
    "T2w,2v T2t,36,2v T2t,3a T30,38,2s T9lu T9lw T9ly T9m0 2Nfe T9m5 T9m7 T9m9 T9mb T9md T9mf",
    "T9mh T9mj T9ml T9mn T9mp T9ms T9mu T9mw 6Ney T9n6 T9n9 T9nc T9nf 5Neo T9no T9nq 6Nel 4Nek",
    "Tfl0,gp8 T9lu,9n5,9oc,9mw T9lu,9nv,9n9,9lt T9lu,9o3,9ne,9lu T9lu,9oc,9nv T9lw,9mz,9o3,9m8",
    "T9lw,9o3,9mp T9ly,9m1,9o3 T9m0,9mh,9m7,9oc,9mx T9m0,9oc,9m3,9oc T9m2,9o3,9mh T9m2,9oc,9nk",
    "T9m3,9lw,9nu T9m3,9nt,9mr,9mw T9m3,9nx,9nu,9oc T9m4,9nx,9o3 T9m4,9o3,9ni T9m6,9m4",
    "T9m6,9mz,9oc T9m5,9np,9nu,9oc T9m6,9nv,9mo,9oc T9m5,9nx T9m5,9nx,9m8,9nt,9nk",
    "T9m5,9nx,9nl,9oc,9mw,9nv T9m5,9nx,9nz,9mr,9mw T9m8,9nt,9nk T9m8,9nt,9nk,9mw,9o3",
    "T9m7,9nv,9mk,9lw,9nx T9m7,9nx,9oc,9n1 T9m9,9oc,9mh T9mb,9nv,9my T9mb,9oc,9nh",
    "T9md,9lw,9m7,9nv T9md,9o3,9mp,9oc,9nk T9mf,9nu,9o3,9m8 T9mj,9o3,9mp T9mj,9o3,9mw",
    "T9mo,9oc,9mh T9mv,9mf T9mx,9nv T9mw,9o3 T9my,9n2 T9n2,9mr,9mw T9n3,9lw,9ms",
    "T9n5,9oc,9mj,9o3,9mw T9n5,9oc,9ms T9n4,9oc,9nw,9nv T9n8,9lu,9mh,9mw,9nv T9n8,9m7,9nv",
    "T9n8,9mb T9n7,9nv T9n9,9lt,9nt,9mr,9mx T9n9,9lv,9oc,9mw T9na,9mr,9mf,9lz,9nv T9n9,9nt,9o3",
    "T9nc,9m7,9mn,9oc,9nv T9ne,9ml T9ne,9mz,9n6 T9nc,9nv,9ms T9ne,9o3,9mh T9ne,9oc,9mg",
    "T9nd,9oc,9mn T9nh,9lw,9o3,9mw T9ng,9nv,9mw T9nf,9o3 T9nh,9o3,9mx T9nf,9oc,9nv T9nf,9oc,9o3",
    "T9ni,9lw,9m7,9nx T9ni,9lw,9nv T9ni,9mr,9n3 T9ni,9nv,9m7 T9ni,9o3,9mf,9nr,9o3",
    "T9nj,9m7,9nx,9o3 T9nj,9nu T9nj,9nu,9n4,9oc,9nv T9nl,9m4 T9nl,9m4,9mw,9o3 T9nl,9oc,9mw,9nv",
    "T9no,9oc,9mx T9no,9oc,9nv T9nq,9lu,9o3 T9nu,9mr,9mw,9nv T9nu,9nt T9nv,9n8,9oc",
    "T9nv,9oc,9na,9nv T9nw,9nk T9nw,9o3,9mw,9ma,9o3 T9nz,9mr,9mw T1c,m9l T1d,m9l T1e,m9l T1f,m9l",
    "T1g,m9l T1h,m9l T1i,m9l T1j,m9l T1k,m9l T1l,m9l T1d,1c,m9l T1d,1d,m9l T1d,1e,m9l T1d,1f,m9l",
    "T1d,1g,m9l T1d,1h,m9l T1d,1i,m9l T1d,1j,m9l T1d,1k,m9l T1d,1l,m9l T1e,1c,m9l T1e,1d,m9l",
    "T1e,1e,m9l T1e,1f,m9l T1e,1g,m9l T2w,34,2p T2s,2p T2p,39 T2q,2p,36 T33,3a T34,2r T2s,31",
    "T2s,31,1e T2s,31,1f T2x,39 Tinn,jdc Tk6l,gp8 Thlz,l7n Tk5q,lh7 Tkkq,irz,fmi,ny6 T34,2p",
    "T32,2p Tqk,2p T31,2p T2z,2p T2z,2q T31,2q T2v,2q T2r,2p,30 T2z,2r,2p,30 T34,2u T32,2u Tqk,2u",
    "Tqk,2v T31,2v T2z,2v T2w,3e T2z,2w,3e T31,2w,3e T2v,2w,3e T38,2w,3e Tqk,30 T31,30 T2s,30",
    "T2z,30 T2u,31 T32,31 Tqk,31 T31,31 T2r,31 T2z,31 T31,31,1e T2r,31,1e T31,1e T2z,31,1e",
    "T31,31,1f T2r,31,1f T31,1f T2z,31,1f T31,6qd,37 T31,6qd,37,1e T34,2p T2z,34,2p T31,34,2p",
    "T2v,34,2p T36,2p,2s T36,2p,2s,6qd,37 T36,2p,2s,6qd,37,1e T34,37 T32,37 Tqk,37 T31,37 T34,3a",
    "T32,3a Tqk,3a T31,3a T2z,3a T31,3a T34,3b T32,3b Tqk,3b T31,3b T2z,3b T31,3b T2z,qx T31,qx X",
    "T2q,35 T2r,2r T2r,2s T2r,6qd,2z,2v X T2s,2q T2v,3d T2w,2p T2w,34 T2x,32 T2z,2z T2z,31 T2z,38",
    "T30,31 T30,32 T30,33,2v T30,3c T31,2q T31,2x,30 T31,33,30 T34,2w X T34,34,31 T34,36 T37,36",
    "T37,3a T3b,2q T3a,6qd,31 T2p,6qd,31 T1d,k4l T1e,k4l T1f,k4l T1g,k4l T1h,k4l T1i,k4l T1j,k4l",
    "T1k,k4l T1l,k4l T1d,1c,k4l T1d,1d,k4l T1d,1e,k4l T1d,1f,k4l T1d,1g,k4l T1d,1h,k4l T1d,1i,k4l",
    "T1d,1j,k4l T1d,1k,k4l T1d,1l,k4l T1e,1c,k4l T1e,1d,k4l T1e,1e,k4l T1e,1f,k4l T1e,1g,k4l",
    "T1e,1h,k4l T1e,1i,k4l T1e,1j,k4l T1e,1k,k4l T1e,1l,k4l T1f,1c,k4l T1f,1d,k4l T2v,2p,30 m8dV",
    "3X 1jV 9X 9oV kX 1aA iV sA Tui Tuk 2iV 8X yV eA 2V 1qA Tx2n 8V 4A T5tl aA 3V Tx3g V Th1 2V",
    "4A 2V kA Th2 Tgs Tgx Th8 Th6 V Tim Thz Til Txub gA Tx3o Thu T5u6 4A Th0 gA Tbf kX T37 T2r",
    "T2u T35 Tx6e 2V T87 T9f 1fV 3X aV 6X 1kV 8X 1yV 8X cV 6X 38V bX uV 3X 26V X bV 4X xV X 1jV",
    "9X eV 2X aV 2X 2vV oX sV aX 6V 2X 6V 2X 6V 9X 7V X 7V X 18V Tx0n Txtj Th7 Txua 9V Ti5 2V 4X",
    "28Ntzk 1aV 2X aV 6X 8mcV cX nV 4X 1dV 6isX Trpk Tkc4 Ts7e Trt4 Tlw1 Tfg2 Tgkl Tvj0 Tvj0 Thn5",
    "Tssx Tgw7 Thmw Tjcm Tne1 Tp6t Tqin Tqt6 Tr20 Tsjz Tkxu Tljv Tmah Tmvy Tq4d Tsq2 Tuep Tfia",
    "Tghh Tl50 Tmjf Tqi5 Tv8e Tifk Tm3v Tqfh Tr50 Tjih Tpnc Tqvz Tiq2 Tkd3 Tlm2 Tmpo Tslq Tfpi",
    "Tg53 Tgda Tjwk Tl3n Tmj4 Tnhj Tpa9 Tqh2 Tqjg Ts1b Ttv6 Tupb Tv7e Tnt8 Tnzz Totc Tq15 Tt1g",
    "Tvb3 Trfa Thjz Tiro Tokg Tpdq Tmle Tnuy Trsy Tttj Thjs Ti8y Tkyb Tlp6 Tlxr Toq7 Toxj Ttor",
    "Tgcy Tpe3 Tg64 Tg5o To4c Tou6 Tq29 Ttpx Trk0 Tjin Tkxu Trge Tfg9 Ti5j Tiz6 Tmtj Tn74 Tgev",
    "Tnwb Tfr3 Tiw9 Tff1 Tlho Tk1k Topu Tgjn Thge Tni9 Tq4p Tre2 Tla2 Tsds Tlfs Tjjy Tput Tjog",
    "Tn6t Tfji Tg2x Tg5l Tkn5 Too7 Tprj Trf6 Tssv Tgdx Tgn6 Tho3 Tir0 Tk3p Tm4e Tnxm Ttkd Tui2",
    "Tvbr Tvda Tgbf Tkau Tl87 Tsbm Tino Tj9s Tjcw Tjve Tlyb Tmdl Tn0p To22 Tovo Tpdb Ts9y Tq9a",
    "Tsgz Tt3e Tg7r Tgbn Tgql Tma0 Tr0i Tre2 Tiq1 Tiyd Tjnf Tl9q Toji Tmt1 Tfl0 Th6h Ti5j Tiii",
    "Tizg Tmuq Tmzt Tp7e Tpc6 Tsvo Ttti Ttvs Tu1k Tfpn To1a Tss4 Ttrs Tj4x Tfie Tfyy Ti5q Ti7z",
    "Tk2h Tkxu Tmha Tncy Tq9o Tsjg Tvil Tk94 Ttny Tgax Tkfv Tkj7 Tlkx Tluk Tmx5 Tn6h Tnsb Topc",
    "Tu3i Tg31 Tje6 Ttq0 Tfu3 Tie1 Tlpm Tsa2 Tivf Tj7o Tkk7 Tmtj Ttqe Tg89 Tglr Ti91 Tk5v Tkem",
    "Tko8 Tlid Tmx2 Tnaa Tp6h Tr0v Tr1d Tsss Ttsy Tgfz Tlve Tgm5 Tmhc Tn14 Tqgq Ttr7 Tuvr Tvbz",
    "Tkgn Tlor Tpns To97 Tobk Tolu Tmo0 Tm8p Triw Tfk0 Tpx2 Tg8q Tg7b Tip2 Tjir Tonq Ti2t Tljy",
    "Tkac Tsaj Tqx8 Ttot Tr63 Tiqb Tg1s Tgxs 2V Thga V Tk8k 2V Tg66 Tmqy Tngq Tny4 Tnz2 Tnz9 To0f",
    "Ttw6 Ton2 Tp8d V Tqhe V Trg8 2V Tshk Tsn1 3V Tu7j Tu7w Tu94 Tv5g Tsm6 Ttrr Tfqm Tfzb Tg25",
    "Tgcp Tgdg Tggh Tgwt Tgzq Th2g Thfk Thig Ti90 Ti9a Tj2s Tj8o Tj9q Tjci Tk0f Tk4i Tk9d Tkn9",
    "Tlmf Tlqy Tlya Tmem Tmjv Tmxu Tntd Tny6 Tnyh Tnyg Tnyo Tnyu Tnz1 2Npfp To5c To75 Tog0 Tovo",
    "Tow9 Toxt Tp6a Tpad Tpnx Tprt Tprt Tq53 Tr2o Tr6e Trgh Tri1 Trtf Truw Tsdy Tshk Ttsz Tu0v",
    "Tu2j Tj1x T36cu Tpp4 2X Tffq Tg51 Tg2w Tfpc Tg1x Tg3k Tgcn Tge2 Tgwt Tgut Tgwp Tgyq Thga",
    "Thir Thms Thn8 Thuq Ti08 Tiqa Tiqh Tiuh Tiwd Tj4o Tj7y Tj60 Tj9q Tj8g Tjci Tjec Tjpg Tjrw",
    "Tjte Tk0m Tk8k Tkd3 Tkd7 Tkeu Tl89 Tla2 Tlkx Tlwb Tlvv Tlya Tm5a Tmem Tnmv Tmk5 Tmnj Tmqy",
    "Tn01 Tn46 Tn5n Tnbx Tnbz Tngq Tnh7 Tnhw Tnka Tnk0 Tnv0 To8h Tog0 Tol7 Torf Tovo Tp4u Tpad",
    "Tpxu Tq27 Tqrd Tr41 Tr5y Tr6e Tren Trg8 Trez Trgh Trge Trfx Tri1 Trka Truw Tsag Tsj6 Tsrd",
    "Tsxi Ttq4 Ttsz Ttw6 Ttzv Tu0v Tu17 Tu2j Tumq Tvj0 T313e T3138 T33dh Tbrx Tcns Tcop T39e1",
    "T3bgw T3i6r Tvgj Tvim 12X T2u,2u T2u,2x T2u,30 T2u,2u,2x T2u,2u,30 2T37,38 cX T12s,12u",
    "T12s,12d T12s,12j T132,12u T12s,12l 5X T15l,14k V T16a,14n T15u T15c 2N1cgf 3N1cg9 T160 T162",
    "T17 T161,14x T161,14y T161,14s,14x T161,14s,14y T15c,14n T15c,14o T15c,14s T15d,14s T15e,14s",
    "T15f,14s T15g,14s T15h,14s T15i,14s X T15k,14s T15l,14s T15m,14s T15n,14s T15o,14s X",
    "T15q,14s X T15s,14s T15t,14s X T15v,14s T15w,14s X T15y,14s T15z,14s T160,14s T161,14s",
    "T162,14s T15h,14p T15d,14v T15n,14v T15w,14v T15c,15o T19t T19t T1a3 T1a3 T1a3 T1a3 T1a6",
    "T1a6 T1a6 T1a6 T1a8 T1a8 T1a8 T1a8 T1a2 T1a2 T1a2 T1a2 T1a7 T1a7 T1a7 T1a7 T1a1 T1a1 T1a1",
    "T1a1 T1b8 T1b8 T1b8 T1b8 T1ba T1ba T1ba T1ba T1ac T1ac T1ac T1ac T1ab T1ab T1ab T1ab T1ae",
    "T1ae T1ae 2N1cdz T1af T1af T1af T1al T1al T1ak T1ak T1am T1am T1ag T1ag T1aw T1aw T1ap T1ap",
    "T1bd T1bd T1bd T1bd T1bj T1bj T1bj T1bj T1bn T1bn T1bn T1bn T1bl T1bl T1bl T1bl T1bu 2N1cdh",
    "T1bv T1bv T1bv T1c0 2N1cdh T1c1 T1c1 T1c1 T1by T1by T1by T1by T1ci 2N1cd9 T1cj xV T1bh T1bh",
    "T1bh T1bh T1c7 T1c7 T1c6 T1c6 T1c8 T1c8 T1c7,19w T1cb T1cb T1c5 T1c5 T1c9 T1c9 T1cg T1cg",
    "T1cg T1cg T18p T18p 2T17q,17r 2T17q,1cl 2T17q,18o 2T17q,1c7 2T17q,1c6 2T17q,1c8 3T17q,1cg",
    "3T17q,18p T1cc T1cc T1cc T1cc T17q,17w T17q,17x T17q,18l T17q,18p T17q,18q T17s,17w T17s,17x",
    "T17s,17y T17s,18l T17s,18p T17s,18q T17u,17w T17u,17x T17u,17y T17u,18l T17u,18p T17u,18q",
    "T17v,17w T17v,18l T17v,18p T17v,18q T17w,17x T17w,18l T17x,17w T17x,18l T17y,17w T17y,17x",
    "T17y,18l T183,17w T183,17x T183,17y T183,18l T185,17x T185,18l T186,17w T186,17x T186,17y",
    "T186,18l T187,17x T187,18l T188,18l T189,17w T189,18l T18a,17w T18a,18l T18h,17w T18h,17x",
    "T18h,17y T18h,18l T18h,18p T18h,18q T18i,17x T18i,18l T18i,18p T18i,18q T18j,17r T18j,17w",
    "T18j,17x T18j,17y T18j,18k T18j,18l T18j,18p T18j,18q T18k,17w T18k,17x T18k,17y T18k,18l",
    "T18k,18p T18k,18q T18l,17w T18l,17x T18l,17y T18l,18l T18l,18p T18l,18q T18m,17w T18m,17x",
    "T18m,17y T18m,18l T18m,18p T18m,18q T18n,17w T18n,18l T18n,18p T18n,18q T18q,17w T18q,17x",
    "T18q,17y T18q,18l T18q,18p T18q,18q T180,19s T181,19s T18p,19s Tw,18s,18x Tw,18t,18x",
    "Tw,18u,18x Tw,18v,18x Tw,18w,18x Tw,18x,19s T17q,181 T17q,182 T17q,18l T17q,18m T17q,18p",
    "T17q,18q T17s,181 T17s,182 T17s,18l T17s,18m T17s,18p T17s,18q T17u,181 T17u,182 T17u,18l",
    "T17u,18m T17u,18p T17u,18q T17v,181 T17v,182 T17v,18l T17v,18m T17v,18p T17v,18q T18h,18p",
    "T18h,18q T18i,18p T18i,18q T18j,17r T18j,18k T18j,18l T18j,18p T18j,18q T18k,18l T18k,18p",
    "T18k,18q T18l,17r T18l,18l T18m,181 T18m,182 T18m,18l T18m,18m T18m,18p T18m,18q T18p,19s",
    "T18q,181 T18q,182 T18q,18l T18q,18m T18q,18p T18q,18q T17q,17w T17q,17x T17q,17y T17q,18l",
    "T17q,18n T17s,17w T17s,17x T17s,17y T17s,18l T17s,18n T17u,17w T17u,17x T17u,17y T17u,18l",
    "T17u,18n T17v,18l T17w,17x T17w,18l T17x,17w T17x,18l T17y,17w T17y,18l T183,17w T183,17x",
    "T183,17y T183,18l T185,17x T185,17y T185,18l T186,17w T186,17x T186,17y T186,18l T187,17x",
    "T188,18l T189,17w T189,18l T18a,17w T18a,18l T18h,17w T18h,17x T18h,17y T18h,18l T18i,17x",
    "T18i,18l T18j,17w T18j,17x T18j,17y T18j,18k T18j,18l T18k,17w T18k,17x T18k,17y T18k,18l",
    "T18k,18n T18l,17w T18l,17x T18l,17y T18l,18l T18m,17w T18m,17x T18m,17y T18m,18l T18m,18n",
    "T18n,17w T18n,18l T18n,19s T18q,17w T18q,17x T18q,17y T18q,18l T18q,18n T17q,18l T17q,18n",
    "T17s,18l T17s,18n T17u,18l T17u,18n T17v,18l T17v,18n T183,18l T183,18n T184,18l T184,18n",
    "T18j,18k T18j,18l T18k,18l T18m,18l T18m,18n T18q,18l T18q,18n T18g,18u,18x T18g,18v,18x",
    "T18g,18w,18x T187,18p T187,18q T189,18p T189,18q T18a,18p T18a,18q T183,18p T183,18q",
    "T184,18p T184,18q T17x,18p T17x,18q T17w,18p T17w,18q T17y,18p T17y,18q T185,18p T185,18q",
    "T186,18p T186,18q T184,17w T184,17x T184,17y T184,18l T184,181 T183,181 T185,181 T186,181",
    "T187,18p T187,18q T189,18p T189,18q T18a,18p T18a,18q T183,18p T183,18q T184,18p T184,18q",
    "T17x,18p T17x,18q T17w,18p T17w,18q T17y,18p T17y,18q T185,18p T185,18q T186,18p T186,18q",
    "T184,17w T184,17x T184,17y T184,18l T184,181 T183,181 T185,181 T186,181 T184,17w T184,17x",
    "T184,17y T184,18l T183,18n T184,18n T187,18l T183,17w T183,17x T183,17y T184,17w T184,17x",
    "T184,17y T187,18l T188,18l 2T17r,18r iV T17u,17w,18l 2T17u,17x,17w T17u,17x,18l T17u,17y,18l",
    "T17u,18l,17w T17u,18l,17x T17u,18l,17y 2T17w,18l,17x T17x,18l,18q T17x,18l,18p T183,17x,17w",
    "T183,17w,17x T183,17w,18p 2T183,18l,17x T183,18l,17w 2T183,18l,18l 2T185,17x,17x",
    "T185,18l,18l 2T184,17x,18l T184,17w,18q 2T184,18l,17y 2T184,18l,18l T186,17x,18p",
    "2T186,17y,18l 2T187,18l,17x T187,18l,18l T187,18l,18q T189,17w,18l 2T189,18l,18l",
    "T189,18l,18p T18a,18l,18l T18a,18l,18q T18a,18l,18p 2T18h,17y,18l T18i,18l,17x T18i,18l,18l",
    "T18k,17x,18l T18k,17x,18q T18k,17x,18p 2T18k,17w,17w 2T18k,17y,18l 2T18k,18l,17x",
    "T18l,17x,17w T18l,17x,18l T18l,17x,18q T18l,17w,17x T18l,17w,18l T18l,17y,17w T18l,17y,18l",
    "2V T18l,17w,17y T18n,18l,17w T18n,18l,18l T18m,17x,18l T18m,17x,18p 2T18m,17w,18l",
    "T18m,17w,18p T18m,18l,18q T18m,18l,18p 2T18q,18l,18l T17s,17y,18q T17u,17w,18q T17u,17w,18p",
    "T17u,17y,18q T17u,17y,18p T17u,18l,18q T17u,18l,18p T17w,18l,18q T17w,17x,18p T17w,18l,18p",
    "T183,17y,18p T185,17x,18q T184,17x,18q T186,17x,18q T18k,17w,18q T18k,18l,18q T18q,17x,18q",
    "T18q,17w,18q T18q,18l,18q T18l,18l,18q T18i,18l,18q T18m,17x,18q T18i,18l,17x T18k,17x,18l",
    "T189,18l,18q T18j,18l,18q T18m,17w,17x T18l,17y,18q T18k,17w,18l T18j,18l,18l T18k,17w,18l",
    "T18m,17w,17x T17w,17x,18q T17x,17w,18q T18l,17w,18q T18h,18l,18q T17s,17x,18q T18j,18l,18l",
    "T189,17w,18l T185,18l,18l T183,17y,18q T18m,17w,18q 8V wX T185,18k,1ci T18i,18k,1ci",
    "T17r,18k,18k,18n T17r,18j,17s,181 T18l,17x,18l,17z T185,18k,189,18l T181,183,18o,18k",
    "T189,18k,18q,18n T18o,183,18k,18l T185,18k,18p",
    "T185,18k,18p,w,17r,18k,18k,18n,w,189,18k,18q,18n,w,18o,183,18k,18l",
    "T17w,18k,w,17w,18k,17r,18k,18n T181,1cc,17r,18k 3V gI T18 T9hd X 2N1e55 Tx T1r 2N14ox 7X gV",
    "X T6c4 T6c3 T2n T2n 2N1e6l T3f T3h 2N14px 2N14q3 2N14qb 2N14qf 4N14qd 2V T2j T2l 4Tw,lh T2n",
    "T2n T2n T18 T9hd 2X T1n T1m T1r Tx T6c4 2N1e7l T3f T3h 2N14qx Tz T12 2N1e7r T19 T1o T1q T1p",
    "X T2k 2N1e85 T1s 4X Tw,18r T18g,18r Tw,18s V Tw,18t X Tw,18u T18g,18u Tw,18v T18g,18v Tw,18w",
    "T18g,18w Tw,18x T18g,18x Tw,18y T18g,18y 2N1d27 2N1d28 2N1d29 2N1d2a 2N1d2b T17q T17q 2N1d2e",
    "2N1d2f T17s T17s 2N1d2i 2N1d2j T17u T17u 2N1d2m T17v T17v 2N1d2p T17w T17w 2N1d2s T17x T17x",
    "2N1d2v T17y T17y 2N1d2y 2N1d2z 2N1d30 2N1d31 2N1d32 T183 T183 2N1d35 T184 T184 2N1d38 T185",
    "T185 2N1d3b T186 T186 2N1d3e T187 T187 2N1d3h T188 T188 2N1d3k T189 T189 2N1d3n T18a T18a",
    "T18a T18h T18h T18h 2N1d3n T18i T18i 2N1d3q T18j T18j 2N1d3t T18k T18k 2N1d3w T18l T18l",
    "2N1d3z T18m T18m 2N1d42 T18n T18n 2N1d45 2N1d46 2N1d47 T18q T18q T18q 2T18k,17m 2T18k,17n",
    "2T18k,17p 2T18k,17r 2X I X wN1ecg qN1ebk 10N1ecg 2N168q T1a 2N14ye T9hd T9ob T9o2 T9lt T9lv",
    "T9lx T9lz T9m1 T9nn T9np T9nr T9mr T9oc T9lu T9lw T9ly T9m0 2N14uj T9m5 T9m7 T9m9 T9mb T9md",
    "T9mf T9mh T9mj T9ml T9mn T9mp T9ms T9mu T9mw 6N14u3 T9n6 T9n9 T9nc T9nf 5N14tt T9no T9nq",
    "6N14tq T9nz T9o3 2N14w5 I 2N1b4x T3hm T3cy 2N1b09 3N1b50 6N1b0a T3dm 3N1b57 T3dt aN1b58 3X",
    "6N1b35 2X 6N1b37 2X 6N1b39 2X 3N1b3b 3X 2N1ef2 T4s Tw,lg T4m T4l T6g9 X T7b6 4N17x5 T7fk",
    "T7gr hX cV X qV X jV X 2V X fV 2X eV yX 3fV 5X 3V 4X 19V 3X 2gV X dV 3X V 1bX 1aV 3mX tV 3X",
    "1dV fX sV 4X 10V 9X uV 5X 17V 5X uV X 11V 4X eV 16X 14P14 3aV 2X aV 6X 10P14 4X 10V 4X 14V",
    "8X 1gV bX V bP13 X fP13 X 7P13 X 2P13 X bV X fV X 7V X 2V 3X 1gV cX 8nV 9X mV aX 8V oX V",
    "2N1fht T6e Tih Tgj X Tir Txuu Tit Tis 2N1flh T5u9 Tgo Tgu Tix Th0 Tgy Tgw Tij T87 Tik Th3",
    "Thw 2N1fjj Th8 T2mmc Tx3i Tha T2mmd Ti6 T2mme T6w 2N1fl9 T35 Thm T2mmg 2N1fl7 Ths Tiw Tiu",
    "Txuv Tiv Ti0 T8s1 X Ti7 2N1fki Tig 3N1fqu T2mmi T2mn2 1xX 6V 2X V X 18V X 2V 3X V 2X nV X",
    "20V 8X 9V 1cX jV X 2V 5X xV 3X rV 5X rV 12X 1kV 4X kV 2X 1eV X 2V 5X 8V X 3V X tV 2X 3V 4X",
    "aV 7X 9V 7X 1sV wX 13V 4X cV 9X 1iV 3X tV 2X rV 5X qV 7X 4V cX 7V 28X 21V 1jX 1fP1s dX 1fV",
    "7X 1aV 8X aV 6X gV mPw 3X tV 8X 2V 5sX vV X 16V X 3V 2X 2V gX 6V 8X 9V xX 1aV 8X 16V mX qV",
    "12X sV kX nV 9X 26V 4X 10V 9X 1qV X 5V dX pV 7X aV 6X 1hV X iV 8X 13V 9X 2oV X kV bX iV X",
    "1bV 1qX 7V X V X 4V X fV X bV 6X 1nV 5X aV 6X 4V X 8V 2X 2V 2X mV X 7V X 2V X 5V X aV 2X 2V",
    "2X 3V 2X V 6X V 5X 7V 2X 7V 3X 5V bX aV X V 2X V X 12V X aV X V 2X V X 4V X aV X 2V 8X 2V tX",
    "2kV X 5V uX 20V 8X aV 4mX 1iV 2X 12V yX 1xV bX aV 6X dV jX 1mV 6X aV 6X kV sX rV 2X fV 4X nV",
    "55X 1oV 2sX wPw 1fV cX 8V 2X V 2X 8V X 2V X uV X 2V 2X cV 9X aV 1yX 8V 2X 1aV 2X bV rX 20V",
    "8X 2bV dX 21V 7X aV 2eX 8V 2gX yV eX aV 6X 9V X 19V X eV aX tV 3X wV 2X mV X eV 21X 7V X 2V",
    "X 18V 3X V X 2V X 9V 8X aV 6X 6V X 2V X 11V X 2V X 6V 7X aV 6X 18V 4X aV 6uX pV 7X hV X 15V",
    "3X tV 2dX V fX 1eV dX pnV 2uX 33V X 5V bX 5gV 218X 2rV dX tsV gX mV aX 32zV 5X g7V 5a1X 1mV",
    "1c6X ftV 7X vV X aV 4X 29V X aV 6X uV 2X 6V aX 1yV aX aV X 7V X lV 5X jV c0X 1mV 5iX wPw 1nV",
    "5X pPr 2X pV 18X 23V 4X 1lV 7X hV 1sX 5V bX 7V 9X 5p2V 15X wV 2pX 37V 6ppX 4V X 7V X 2V X",
    "83V fX V tX 3V 2X V eX 4V 8X b0V 1s4X 2zV 5X dV 3X 9V 7X aV 2X 4V 4I 318X 5yV qN2iyd aN2j0g",
    "3V 3X c4V 6X nV fX hV fX 1aV 2X nV 9X 38V 1oX 6uV aX 13V 2X 1hV T2jx3,2jxh T2jx4,2jxh",
    "T2jx4,2jxh,2jxq T2jx4,2jxh,2jxr T2jx4,2jxh,2jxs T2jx4,2jxh,2jxt T2jx4,2jxh,2jxu eV 8I 1sV",
    "T2jzt,2jxh T2jzu,2jxh T2jzt,2jxh,2jxq T2jzu,2jxh,2jxq T2jzt,2jxh,2jxr T2jzu,2jxh,2jxr 16V lX",
    "1yV 3eX kV cX kV cX 2fV 9X pV 3rX qN2kdb qN2ke1 qN2ker 7N2kfh X iN2kfh qN2kg7 qN2kgx T2p X",
    "2N2khn 2X T2v 2X 2N2khn 2X 4N2khn X 8N2khn 4N2kid X T2u X 7N2kid X bN2kid qN2kj3 qN2kjt",
    "2N2kkj X 4N2kkj 2X 8N2kkj X 7N2kkj X qN2kl9 2N2klz X 4N2klz X 5N2klz X T33 3X 7N2klz X",
    "qN2kmp qN2knf qN2ko5 qN2kov qN2kpl qN2kqb qN2kr1 qN2krr qN2ksh qN2kt7 qN2ktx qN2kun qN2kvd",
    "T8h Tfr 2X hN2k8n Tqg 7N2k8n T6pz hN2k9d Tqr 7N2k9d T6pu Tqd Tqg Tqi Tqu Tqp Tqo hN2ka9 Tqg",
    "7N2ka9 T6pz hN2kaz Tqr 7N2kaz T6pu Tqd Tqg Tqi Tqu Tqp Tqo hN2kbv Tqg 7N2kbv T6pz hN2kcl Tqr",
    "7N2kcl T6pu Tqd Tqg Tqi Tqu Tqp Tqo hN2kdh Tqg 7N2kdh T6pz hN2ke7 Tqr 7N2ke7 T6pu Tqd Tqg",
    "Tqi Tqu Tqp Tqo hN2kf3 Tqg 7N2kf3 T6pz hN2kft Tqr 7N2kft T6pu Tqd Tqg Tqi Tqu Tqp Tqo Trh",
    "Trh 2X aN2l5q aN2l60 aN2l6a aN2l6k aN2l6u i4V fX 5V X fV uoX vV 6X 6V 5xX 7V X hV 2X 7V X 2V",
    "X 5V 5X 9N2m0w 3N2m0v bN2m0u Tuj 2N2m0r Tww9 Tyh Tuu Tuw Tyx Txb Ty7 9N2m1t 2N2m1s 2N2m1q",
    "Tu9 6N2m1o 2N2m1n Twh Tuu Tut Tv3 Tx7 Twup Txd xX V 34X 19V 3X eV 2X aV 4X 2V 8wX vV hX 1mV",
    "5X V cwX 16V 5yX 17V 4X V 5cX vV X mV 8X 2V 68X 7V X 4V X 2V X fV X 5hV 2X gV 15X yPy 16V 4X",
    "aV 4X 2V ltX 1wV 24X 1pV 5eX 2N2od5 T17w T17z X T18o T182 T17x T187 T18q 4N2ocn T183 T189",
    "T18h T185 T18i T181 T184 2N2odn T17y T180 T186 T188 T18a T19q T1bu T1b5 T19r X T17s T17w X",
    "T18n 2X T17x X T18q 4N2odj T183 T189 T18h T185 T18i X T184 2N2oej T17y X T186 X T18a 6X T17w",
    "4X T17x X T18q X T18k X T18m T183 T189 X T185 T18i X T184 2X T17y X T186 X T18a X T1bu X",
    "T19r X T17s T17w X T18n 2X T17x T187 T18q T18j X 2N2ofb T183 T189 T18h T185 T18i X T184",
    "2N2ogb T17y X T186 T188 T18a T19q X T1b5 X 2N2ogp T17w T17z 2N2ofx T182 T17x T187 T18q X",
    "3N2og7 T183 T189 T18h T185 T18i T181 T184 2N2oh7 T17y T180 T186 T188 T18a 5X T17s T17w T17z",
    "X T18o T182 T17x T187 T18q X 3N2oh3 T183 T189 T18h T185 T18i T181 T184 2N2oi3 T17y T180 T186",
    "T188 T18a 1gX 2V 7iX 18V 4X 2sV cX fV 2X fV X fV X 11V bX T1c,18 T1d,18 T1e,18 T1f,18 T1g,18",
    "T1h,18 T1i,18 T1j,18 T1k,18 T1l,18 5V T14,2p,15 T14,2q,15 T14,2r,15 T14,2s,15 T14,2t,15",
    "T14,2u,15 T14,2v,15 T14,2w,15 T14,2x,15 T14,2y,15 T14,2z,15 T14,30,15 T14,31,15 T14,32,15",
    "T14,33,15 T14,34,15 T14,35,15 T14,36,15 T14,37,15 T14,38,15 T14,39,15 T14,3a,15 T14,3b,15",
    "T14,3c,15 T14,3d,15 T14,3e,15 T9hw,37,9hx T2r T36 T2r,2s T3b,3e V qN2q4v T2w,3a T31,3a",
    "T37,2s T37,37 T34,34,3a T3b,2r qV T31,2r T31,2s T31,36 zV T2s,2y tV 1kX qV T9kr,9jf T9mb,9mb",
    "T9md dX Tjez Ti1j Tgjw T9mv Tfik Thlm Tr8j Thm1 Tfj8 Tk68 Tmch Tk2h Tg99 Tivg Tg3x Tk34 Tg7x",
    "Toqq Tn4v Trs9 Thkg Tgmx Tlxw Tjh1 Tjmd Tfeo Tfex Tsi2 Tijq Tffx Tgkz Tjk7 Trxs Tjf7 To01",
    "To6y Tglk Tlts Tkcp Tkco Tn5f Tgaa Tgxi Tsp9 4X T9hw,kdo,9hx T9hw,fex,9hx T9hw,fik,9hx",
    "T9hw,i2x,9hx T9hw,m9l,9hx T9hw,jf7,9hx T9hw,nh3,9hx T9hw,gd9,9hx T9hw,k0n,9hx 7X Tivr Tgkv",
    "eX 6V 4aX rdV 3X hV 3X dV 3X 62V 6X cV 4X V fX cV 4X 1kV 8X aV 6X 14V 8X uV 2X cV 4X 2V eX",
    "9V 13X 9kV 8X eV 2X dV 3X bV 3X 1lV X V 4X gV 2X cV 4X aV 7X 43V X 2kV aN2sao V slX wyoV wX",
    "3dqV 2X 4geV 2X 5rlV fX haV 1wiX Tfgd Tfg8 Tfgh T2tcy Tfog Tfqm Tfqz Tfsy Tfwa Tfx5 Tfzb",
    "Tfyn Tae6 T2ud6 Tg25 Tg2c Tg2s Tg3b T2u58 Taex Tg2v Tg3x T2u6j Tg47 Tg4k Tfkc Tg4s Tg51",
    "T3ly7 Tg6t Tg77 Tafz Tg8r Tg92 Tgaa Tgaf Tahh Tgcn Tgcp Tgdg Tge2 2N3pr8 Tgev Tgg9 Tggh Tggq",
    "Tghf Tghp Tghr Tghr Tghr T2v58 Tm7k Tgju Tgkf T2vdv Tgkr Tgkx Tgli Tgpq Tgmw Tgnc Tgo8 Tgpu",
    "Tgs6 Tgsw Tgur Tgv7 Tgw4 Tgw4 Tgwp Tgx7 Tgxf Tgxu Th7a Tgzq Th7b Th1t Th2s Tg7b Thke Thce",
    "Thdg The5 Thaj Thf6 Thf5 Thik T2x9g Thki Thkn Thl2 Thlm Thlu Thnm T2xm0 T2xnu Thrg Thsr Tht3",
    "Thqw Thuu Taum Tav0 Thzc Ti0u Ti0u T2y88 Ti4j Ti54 Ti5j Ti5v T2yhk Ti67 Ti6e Titv Ti76 Tayp",
    "Ti8w Ti9a Tibk Tia5 T2z1g Tif7 T2z1i Tige Tigb Tigs 2N3nog Tb3j Tikd Tilk Tim5 Tind Tb4y",
    "T2zr7 Tb5o Tipc Tipf Tipi Tiq2 T3pg2 Tiri T3035 T3035 Tpoh Tisi Tisi Tb7r T335k T3cgq Tiua",
    "Tiuj Tb8j Tivu Tix9 Tixj Tiyh Tj29 Tbay Tba4 Tj2s T30t0 Tj47 Tj7s Tj7w Tj7y Tj7w Tj96 Tj9q",
    "Tjaq Tjac Tjan Tjby Tjci Tjcm Tjdc Tjdn Tjfh Tjht Tjis Tjm8 T31n0 Tjlp Tjjw Tjmw Tjnn Tjqc",
    "T31td Tjs2 Tjph Tjop Tbhq Tju1 Tjum Tjvh Tjuf Tbjg Tk0f Tk18 T32mi Tk4j Tkc8 Tk7d Tbo9 Tk9d",
    "Tbns Tbms Tg42 Tg45 Tkcg Tk9o Tpf1 Tdeh Tkd3 Tkd7 Tkdd Tkf2 Tker T33cz Tbpl Tkje Tkg5 Tklu",
    "Tkn9 T33hp Tkni Tkkf Tkr8 Tbrx Tksi Tkv7 Tkx6 Tl2g T33xf Tl3v Tbvc Tl5t T34br Tl78 Tbwu Tl82",
    "Tl9b 2N3l17 T34p9 T2yvf T34sa Tle6 T354s Tlhb Tlhp Tlev Tljq Tlku Tlmf Tlkx Tlm1 Tlmg Tlmt",
    "T357i Tlkk Tlrj Tlta Tc37 Tlvv Tlvr T35jl Tlq1 Tm0e T35ni T35ou Tm2u Tm61 Tm5a Tm57 Tc5y",
    "Tm6i Tm7x Tm7r Tm99 T2u5h Tmdh T368z Tmfw T36i3 Tmjs Tmk5 Tmkw T36yw Tmm8 Tmmt T3779 T37dg",
    "Tmt6 Tmtn Tcdo Tmud Tce0 Tce0 Tmyv Tmzg Tn01 Tn0l Tn2i Tcgr Tn50 T386u Tn5q T389e Tn74 T2zrz",
    "Tnbk T38v5 T38vs T38zo Tcn0 Tcnc Tnhw T394j T394i T395l T396b 2N3iuf Tnj3 Tnka Tcop Tnm3",
    "Tcp2 Tcra T39r1 Tnri Tnt8 Tnv0 Tctf T3a5i Tnyu T3a8q T3a9x To0f To2z Tcvj To5c To5m To5r",
    "T3at8 T3b1j T3b1j Toa6 Td1e T3b8r Tog6 Tog9 Td2f T3beo Tonm Td5s Too8 Too3 Toow T3c06 Torn",
    "Td8h Touf Tow2 Toxx Td9w T3ciw T3cjr Tdax T3cnt Tp6i T3cqm Tp79 Tpa2 Tpad T3d22 T3d43 Tpcw",
    "T3d7s Tpdc T33a7 Tded Tpf6 Tphf Tdfv Tpj2 Thx1 T3dlz T3dmd T33bn T33bw Tpoh Tpok Tsda Tdij",
    "Tpsh Tpsb Tpst Tgc3 Tptd Tptf Tptp Tpuu T3ebg Tput Tpwd Tpyb Tq0d Tpwj Tq0t Tq1z Tq53 Tpxv",
    "Tq16 Tq18 Tq1o T3eie T3eqz T3emt Tdnv Tq9d Tq9f Tqae T3g0a Tqck T3f3g Tdp9 Tdpd T3f75 T3ff6",
    "Tdpn Tqj4 Tqjg Tqjr Tqjt Tqll Tqko Tqoe Tqn6 Tqrd Tqp4 Tqqz Tqrq Tdsn Tqu9 Tqv5 Tdtl Tqxs",
    "Tqxv T3giv Tr13 Tr1a Tdv9 Tr22 Taez T3gz2 T3h46 Tdz2 Tdzb Trds Trfx Trka Trpx T3hrc Trsb",
    "Trsx Trvf Trxz T3i9b T2upw Ts0b Trzw Ts1c T2uvy Ts7o Tsag T3jki T3jl9 Tsk4 Tsmp Tsnl T3ju6",
    "Tsnv Tsvs 2N3dht Tsxo Tt89 Tt91 T3ksa Ttjf Tej9 Ttkn T3l2v Teli Tts3 Tiia Ttur T3ltx T3lzu",
    "Tepa Tepi Tu00 T3mdm Ter6 T3mhi Tu17 Tu17 Tu21 T3mpi Tu76 Teur Tu95 Tucn Tude Tuf2 Tez2",
    "T3nsg Tumq Tuv4 Tv0d Tf66 Tf71 Tv3b T3owe Tf7c T3oxx T3p5a T3p8x Tvcr Tf9y Tveh Tvem Tvet",
    "Tvf3 Tvfa Tvgb T3pxc 15uX 3t7V 5X 6juV f62uX 6oI 47bkX"]

/-- Combining marks (categories Mn, Mc and Me). -/
def combiningMarks : Ranges := Ranges.ofLines [
    "lc 34 7n 7 7b 19 1 1 1 2 1 2 1 1 20 b 1c l g 1 2t 7 2 6 2 2 1 4 z 1 u r 2j b 1m 9 9 1 o 4 1",
    "9 1 3 1 5 17 3 1n 9 16 o 1 x 1i 3 1 i 1 7 a 2 t 3 1k 1 1 7 2 2 2 3 9 1 a 2 q 1 2 3 1k 1 1 5",
    "4 2 2 3 3 1 u 2 3 1 b 3 1k 1 1 8 1 3 1 3 k 2 m 6 1 3 1k 1 1 7 2 2 2 3 7 3 a 2 u 1 1n 5 3 3 1",
    "4 9 1 14 5 1j 1 1 7 1 3 1 4 7 2 b 2 t 3 1k 1 1 7 1 3 1 4 7 2 b 2 f 1 c 4 1j 2 1 7 1 3 1 4 9",
    "1 a 2 t 3 1y 1 4 6 1 1 1 8 i 2 1p 1 2 7 c 8 2q 1 2 9 b 7 21 2 r 1 1 1 1 1 4 2 1d k 1 2 5 b 1",
    "10 9 1 2s k n 4 4 3 1 3 2 7 3 4 d c 1 1 a 4 jj 3 qa 4 s 3 t 2 u 2 1s w 9 1 19 3 1 1 39 2 y 1",
    "3a c 4 c 63 5 1l a 1 t 2 1 1c 1a 2 c k 5 1b h 12 9 c 3 u d 1k e 1c k 48 3 1 l 4 1 6 1 2 3 5i",
    "1s k0 x 2da 3 3x 1 2o w fe 6 2x 2 n9w 4 1 a w 2 28 2 7k 1 3 1 4 1 n 5 4 1 2b 2 1e i q i d 1",
    "12 8 p d 18 4 1b e 10 1 1v e c 1 8 2 19 3 1e 1 1 3 2 2 5 2 1 1 15 5 5 2 6k 8 1 2 fn4 1 kh g",
    "g g r1 1 6a 1 45 5 1ae 3 1 2 5 4 14 3 4 1 4l 2 fx 4 1t 5 8t 2 25 6 1y b 1d 4 3e 3 1h f 15 1",
    "2 2 a 4 19 b 7 1 1p 3 10 e g 2 18 1 c 3 1c e 8 4 1 2 2k c 6 1 2 1 4d c l 4 1j 2 1 7 2 2 2 3",
    "9 1 a 2 2 7 3 5 1v 9 1 1 2 1 1 4 1 5 1 1 e 2 2a i n 1 29 k 6j 7 2 9 r 2 2a h 2y d 2t f 74 f",
    "6t 6 1 2 2 4 1 1 1 2 3x 7 2 7 3 1 s a 14 7 1 4 8 1 9 b 1a g 5i 8 5j 8 1 8 2a m 1 e 3e 6 3 1",
    "1 2 1 7 1 1 1u 5 1 2 1 5 9n 4 9 2 1 1 1c 7 3 5 n 1 44l 1 6 f 8ug i 1xc 5 1n 7 t4 1 1 1j 7 4",
    "29 1 b 2 f57 2 3mp 1a 2 n f2 5 3 6 8 8 2 7 u 4 44 3 1iz 1j 4 1e 8 1 e 1 m 5 1 f 11s 7 1 h 2",
    "7 1 2 1 5 2s 1 4g 7 af 1 1p 4 e4 4 72 2 6r 1 2 1 7 2 5 1 d6 7 31 7 gzhx 6o"]

end NumberRegistry.Url
