import AssetCache.Unicode.Run

/-!
# Characters in host names

Before host names are compared, each of their characters is mapped: letters lose
their case, wide and presentation forms become plain ones, and invisible
characters vanish. This is the table of that mapping. The kinds of its runs are:

* `V`: the character stays as it is;
* `X`: the character may not stand in a host name;
* `I`: the character vanishes;
* `M`: the character is mapped to the characters listed;
* `P`, `N`: the character is mapped to the one that is so many places above or below;
* `E`, `O`: of every two characters the even one, or the odd one, is mapped to its
  successor and the other stays as it is.
-/

set_option autoImplicit false

namespace AssetCache.Unicode

/-- The mapping of characters in host names. -/
def hostMapping : List Run :=
  Run.table [
    "0V 21P10 qV 15X 10N40 1V 7M10,o8 1V 1N29 1V 2I 1V 1M10,o4 1V 2N40 2M10,o1 1Po7 1V 2M10,p7",
    "1N48 1N2b 1V 1M1h,824,1k 1M1h,824,1i 1M1j,824,1k 1V 1P10 nV 1P10 7V 11E 1gM39,o7 1V 1M39,3a",
    "2E 4O 7M3c,5n 2O 8Mls,3e 1E 1eN3p 1O 6N8c 1V 1P6i 1E 4P6e 1O 2P6d 2O 2V 1P2f 1P6a 1P6b 1O",
    "2P6d 1P6f 1V 1P6j 1P6h 1E 2V 2P6j 1P6l 1V 1P6m 1E 6P6q 1O 2P6q 1V 2E 2P6q 1O 2P6p 2O 4P6r 1E",
    "2V 2E 2V 6M34,bu 3M3c,3a 3M3e,3a 3O gE jV 1M34,3q 3E 2N31 1N1o 1E 18N42 1E jV 6Pahb 1O 2N53",
    "1Pah8 1V 2O 2N63 1P25 1P27 1E aV 30Ni8 1N2b 1Ni8 1Ni1 1N1r 1N1q 1N1l 1Ni0 1Nhv 1V vM10,o6",
    "1M10,o7 1M10,oa 1M10,p8 1M10,o3 1M10,ob 1V 2N3t 1Njl 1Njf 1Njb 1N2f 1V 2rN20 2V 1N1g 1Mo8,o1",
    "1P3k 1V 9I 1V 10E 4N5r 1E 3X 2M10,tp 1V 3Nq3 1P3k 1X 4M10,o1 1M10,o8,o1 1P16 1Nmg 1P15 3X",
    "1P20 1X 1P1v 2V 1P10 hX 1P10 9V 13P8 1Nu 1Np 1Nd 1N6 1N9 1Nf 1Nm 1E pN1m 1N1g 1N1f 1V 1N1s",
    "1N20 1O 3N1m 1E 2V 1N42 3P2g gP10 10V 1gE 12V 8E 1mPf 1O eE 31X 1P1g 16X 2V 1eM1b5,1c2 1V 3X",
    "2V 3X 1V 1nX 8V rX 4V 6X hV mX 1V 2oM1h7,1jk 1M1i8,1jk 1M1m7,1jk 1M1ia,1jk 1V 34X 1V 1gX 2V",
    "1rX 2V 35X eV 1rX 2V 1hX 2V fX 1V sX 2V 1X 1V bX 5V 10X 7V 2bX 1V 3lM28l,29s 1M28m,29s",
    "1M28n,29s 1M28s,29s 1M291,29s 1M292,29s 1M29b,29s 1M29f,29s 1V 14X 1V 8X 2V 2X 2V mX 1V 7X",
    "1V 1X 3V 4X 2V 9X 2V 2X 2V 4X 8V 1X 4M2d1,2ds 1M2d2,2ds 1X 1M2df,2ds 1V 4X 2V pX 2V 3X 1V 6X",
    "4V 2X 2V mX 1V 7X 1V 1M2hi,2hs 1X 1V 1M2ho,2hs 1X 1V 2X 2V 1X 1V 5X 4V 2X 2V 3X 3V 1X",
    "7M2gm,2hs 1M2gn,2hs 1M2gs,2hs 1V 1X 1M2hb,2hs 1X 7V hX aV 3X 1V 9X 1V 3X 1V mX 1V 7X 1V 2X",
    "1V 5X 2V aX 1V 3X 1V 3X 2V 1X fV 4X 2V cX 7V 7X 1V 3X 1V 8X 2V 2X 2V mX 1V 7X 1V 2X 1V 5X 2V",
    "9X 2V 2X 2V 3X 7V 3X 4M2p1,2ps 1M2p2,2ps 1X 1V 5X 2V iX aV 2X 1V 6X 3V 3X 1V 4X 3V 2X 1V 1X",
    "1V 2X 3V 2X 3V 3X 3V cX 4V 5X 3V 3X 1V 4X 2V 1X 6V 1X eV lX 5V dX 1V 3X 1V nX 1V gX 2V 9X 1V",
    "3X 1V 4X 7V 2X 1V 3X 1V 2X 2V 4X 2V aX 7V mX 1V 3X 1V nX 1V aX 1V 5X 2V 9X 1V 3X 1V 4X 7V 2X",
    "5V 3X 1V 4X 2V aX 1V 3X cV dX 1V 3X 1V 1jX 1V 3X 1V 6X 4V gX 2V qX 1V 3X 1V iX 3V oX 1V 9X",
    "1V 1X 2V 7X 3V 1X 4V 6X 1V 1X 1V 8X 6V aX 2V 3X cV 1iM3id,3hi 1V 7X 4V tX 15V 2X 1V 1X 1V 5X",
    "1V oX 1V 1X 1V cM3md,3li 1V aX 2V 5X 1V 1X 1V 7X 1V aX 2M3lb,3kp 1M3lb,3l1 1V 2X 10V cN1 1V",
    "1mM3q2,3tn 1V 4X 1V 4M3qc,3tn 1V 4M3qh,3tn 1V 4M3qm,3tn 1V 4M3qr,3tn 1V cM3q0,3tl 1V 3X 4V",
    "2M3rh,3ri 1V 1M3rh,3rk 1M3ti,3s0 1M3ti,3rh,3s0 1M3tj,3s0 1M3tj,3rh,3s0 1V 7M3rh,3s0 1V",
    "hM3si,3tn 1V 4X 1V 4M3ss,3tn 1V 4M3t1,3tn 1V 4M3t6,3tn 1V 4M3tb,3tn 1V cM3sg,3tl 1V 3X 1V fX",
    "1V dX 15V 50P730 16X 1P730 1X 5P730 1X 2V 1cN10 1V 32I 2V 78X 1V 4X 2V 7X 1V 1X 1V 4X 2V 19X",
    "1V 4X 2V 11X 1V 4X 2V 7X 1V 1X 1V 4X 2V fX 1V 1pX 1V 4X 2V 23X 2V 10X 3V qX 6V 2mX 2N8 6X 2V",
    "k0X 1V sX 3V 2pX 7V mX 9V oX 9V kX cV dX 1V 3X 1V 2X cV 1kI 2V 18X 2V aX 6V aX 6V bI 5V aX",
    "6V 2pX 7V 1bX 5V 26X aV vX 1V cX 4V cX 4V 1X 3V 1aX 2V 5X bV 1cX 4V qX 6V bX 3V 1uX 2V 21X",
    "1V tX 2V bX 6V aX 6V eX 2V 1eX 2V cX kV 2dX 1V 56X 8V 1sX 3V fX 3V 1jN62e 1N62d 1N624 1N622",
    "2N623 1N61s 1N614 1P12e3 1O 2X 5N2u0 1bX 2N2u0 3V 8X 8V 1bX 5V 1cM31 1M76 1M32 1V 1N76c 2Met",
    "1N76c 8V 1M3f 1Mh3 1M3g 1M3i 1N76c 2M3n 1M31 1N6nk 2N24 1M32 1N774 2Mip 1N6ng 2M37 1V 1M3b",
    "1M3d 1Mab 1M3f 1Mik 1N1u 2M3g 1N773 2N1s 1Mjf 1M3m 1N1n 1N6db 3N6cq 2M39 1M3i 1N77f 2N6dk",
    "2Mu1 1N6d3 2V dN69r 1V 12Mii 1M33 1Mil 1M7g 1Mis 1M36 1Miv 1Mj1 1Mj5 1N6ps 3N1c 1Mkt 1Mjd",
    "1N15 1Mkv 1Mjh 1Mjg 1N6ps 4Mjo 1N6ph 2Mdb 1N6pd 2N4s 1N6pe 2M3q 1N6pc 3Mto 1V 20E 4mV",
    "4M31,lu 1N1q 1V 2M6v 1E 31V 8N8 8V 6X 2N8 6X 2V 8N8 8V 8N8 8V 6X 2N8 6X 2V 8X 1N8 1X 1N8 1X",
    "1N8 1X 1N8 1V 8N8 8V 1Mtc 1V 1Mtd 1V 1Mte 1V 1Mtf 1V 1Muc 1V 1Mud 1V 1Mue 1X 2M7o0,tp",
    "1M7o1,tp 1M7o2,tp 1M7o3,tp 1M7o4,tp 1M7o5,tp 1M7o6,tp 1M7o7,tp 1M7o0,tp 1M7o1,tp 1M7o2,tp",
    "1M7o3,tp 1M7o4,tp 1M7o5,tp 1M7o6,tp 1M7o7,tp 1M7p0,tp 1M7p1,tp 1M7p2,tp 1M7p3,tp 1M7p4,tp",
    "1M7p5,tp 1M7p6,tp 1M7p7,tp 1M7p0,tp 1M7p1,tp 1M7p2,tp 1M7p3,tp 1M7p4,tp 1M7p5,tp 1M7p6,tp",
    "1M7p7,tp 1M7r0,tp 1M7r1,tp 1M7r2,tp 1M7r3,tp 1M7r4,tp 1M7r5,tp 1M7r6,tp 1M7r7,tp 1M7r0,tp",
    "1M7r1,tp 1M7r2,tp 1M7r3,tp 1M7r4,tp 1M7r5,tp 1M7r6,tp 1M7r7,tp 1V 2M7rg,tp 1Mth,tp 1Mtc,tp",
    "1X 1V 1M7tm,tp 1N8 2N2a 1Mtc 1Mth,tp 1M10,oj 1Mtp 1M10,oj 1M10,q2 1M10,o8,q2 1M7rk,tp",
    "1Mtn,tp 1Mte,tp 1X 1V 1M7u6,tp 1N2m 1Mtd 1N2m 1Mte 1Mtn,tp 1M10,oj,o0 1M10,oj,o1 1M10,oj,q2",
    "1V 3Msg 1X 2V 2N8 2N34 1Mtf 1X 1M10,ok,o0 1M10,ok,o1 1M10,ok,q2 1V 3Mtg 1V 4N8 2N3g 1Mud 1N7",
    "1M10,o8,o0 1M10,o8,o1 1M30 1X 2M7rs,tp 1Mu9,tp 1Mue,tp 1X 1V 1M7vm,tp 1N40 1Muc 1N3u 1Mue",
    "1Mu9,tp 1M10,o1 1M10,ok 1X 1M10 bI 1V 2X 2V 1N1 1V 5M10,pj 1V cX 3V 1X 7M10 1V 3M81i,81i",
    "1M81i,81i,81i 1V 1M81l,81l 1M81l,81l,81l 1V 4M11,11 1V 1M10,o5 1V 8M1v,1v 1M1v,11 1M11,1v 1V",
    "dM81i,81i,81i,81i 1V 7M10 1I 5X 5I 6M1g 1M39 1X 2N820 6M1b 1Pcn 1M1t 1N82l 2M3e 1N82g aM1b",
    "1Pc7 1M1t 1N835 2X 1M31 1M35 1M3f 1M3o 1Mip 1M38 1N81b 4M3g 1N818 2X 3V 8M3i,3j 1V pX eV 11X",
    "fM31,1f,33 1M31,1f,3j 1M33 1M5g,33 1V 1M33,1f,3f 1M33,1f,3l 1Mir 1V 1M5g,36 1N853 2M38 3M97",
    "1M39 2M3c 2V 1M3e 1M3e,3f 1V 2N859 3M3i 2V 2M3j,3d 1M3k,35,3c 1M3k,3d 1V 1M3q 1V 1Mu9 1V",
    "1M3q 1V 1M3b 1M75 1N86a 2V 1M35 2M36 1Ps 1M3d 1M3f 1N6r5 4M39 1V 1M36,31,3o 1Mu0 1Mtj 2Mu0",
    "1P6h 1V 4M34 2M35 1N86v 2V 6M1h,824,1n 1M1h,824,1p 1M1h,824,1h,1g 1M1h,824,1j 1M1i,824,1j",
    "1M1h,824,1l 1M1i,824,1l 1M1j,824,1l 1M1k,824,1l 1M1h,824,1m 1M1l,824,1m 1M1h,824,1o",
    "1M1j,824,1o 1M1l,824,1o 1M1n,824,1o 1M1h,824 1M39 1M39,39 1M39,39,39 1M39,3m 1M3m 1M3m,39",
    "1M3m,39,39 1M3m,39,39,39 1M39,3o 1M3o 1M3o,39 1M3o,39,39 1M3c 1N88a 2M3d 1M39 1M39,39",
    "1M39,39,39 1M39,3m 1M3m 1M3m,39 1M3m,39,39 1M3m,39,39,39 1M39,3o 1M3o 1M3o,39 1M3o,39,39",
    "1M3c 1N88q 2M3d 1V 3O 2V 4M1g,824,1j 1V 2X 4V 4sM8hb,8hb 1M8hb,8hb,8hb 1V 1M8he,8he",
    "1M8he,8he,8he 1V 7oP36v 2V 7vX mV bX lN91f 9M1h,1g 1M1h,1h 1M1h,1i 1M1h,1j 1M1h,1k 1M1h,1l",
    "1M1h,1m 1M1h,1n 1M1h,1o 1M1h,1p 1M1i,1g 1M18,1h,19 1M18,1i,19 1M18,1j,19 1M18,1k,19",
    "1M18,1l,19 1M18,1m,19 1M18,1n,19 1M18,1o,19 1M18,1p,19 1M18,1h,1g,19 1M18,1h,1h,19",
    "1M18,1h,1i,19 1M18,1h,1j,19 1M18,1h,1k,19 1M18,1h,1l,19 1M18,1h,1m,19 1M18,1h,1n,19",
    "1M18,1h,1o,19 1M18,1h,1p,19 1M18,1i,1g,19 1X kM18,31,19 1M18,32,19 1M18,33,19 1M18,34,19",
    "1M18,35,19 1M18,36,19 1M18,37,19 1M18,38,19 1M18,39,19 1M18,3a,19 1M18,3b,19 1M18,3c,19",
    "1M18,3d,19 1M18,3e,19 1M18,3f,19 1M18,3g,19 1M18,3h,19 1M18,3i,19 1M18,3j,19 1M18,3k,19",
    "1M18,3l,19 1M18,3m,19 1M18,3n,19 1M18,3o,19 1M18,3p,19 1M18,3q,19 1N92l qN93f qM1g 1V",
    "191M8hb,8hb,8hb,8hb 1V 37M1q,1q,1t 1M1t,1t 1M1t,1t,1t 1V 35Mamt,po 1V 4nX 2V 4aP1g 1gV 1gE",
    "2Mjb 1N3n6 1Mjt 1V 2O 6Mih 1Mjh 1Mig 1Mii 1E 3O 3V 5M3a 1M3m 1Nahv 2E 34V 7O 4V 3E 2X 5V 1dX",
    "1V 1X 5V 1X 2V 1oX 7Ne 1V 1X eV oX 9V 7X 1V 7X 1V 7X 1V 7X 1V 7X 1V 7X 1V 7X 1V 7X 1V 3uX",
    "12V qX 1V 4Pf9e 1V 2jPs5c 1X cP7o0 1P7p7 1P7pk 1P7ps 1P7ql 1P7s0 1P7s6 1P7sp 1P7ti 1P8hm",
    "1P8ir 1P8j0 1P8jm 1P8k9 1P8kt 1P8mh 1P8n5 1P8nf 1P8s9 1P8v6 1P901 1P905 1P912 1P91a 1P924",
    "1P92g 1P938 1P94r 1P95c 1P966 1P9tp 1Pa00 1Paeb 1Paf1 1Paf8 1Pafi 1Pag3 1Paie 1Pb1a 1Pb2p",
    "1Pb6g 1Pb76 1Pb7o 1Pb8d 1Pba2 1Pba4 1Pbld 1Pblm 1Pbm1 1Pbmd 1Pbq0 1Pbq7 1Pbqb 1Pbtv 1Pbu8",
    "1Pbuk 1Pbur 1Pc0n 1Pc17 1Pc1o 1Pc47 1Pcmb 1Pcno 1Pcoc 1Pdff 1Pdfj 1Pdi5 1Pdik 1Pdj0 1Pdjk",
    "1Pdkq 1Pdku 1Pdt8 1Pdtv 1Pduu 1Peul 1Pf0m 1Pf1c 1Pf35 1Pf3s 1Pf44 1Pf4a 1Pf5t 1Pf61 1Pf70",
    "1Pg8m 1Pgmk 1Pgmv 1Pgn3 1Pgn6 1Pgnd 1Pgnu 1Pgnv 1Pgqf 1Ph16 1Ph1a 1Phbs 1Phc5 1Phdm 1Phds",
    "1Phe4 1Pheb 1Phh5 1Phhb 1Phoe 1Phok 1Phq4 1Phqk 1Phs2 1Pi3e 1Pi3k 1Pi44 1Piea 1Pii7 1Piic",
    "1Pio1 1Piqn 1Pis4 1Pj7t 1Pjc1 1Pjtu 1Pjuo 1Pk0g 1Pk22 1Pk45 1Pk4f 1Pk4k 1Pk5k 1Pk7v 1Pk88",
    "1Pkj1 1Pkj7 1Pkjf 1Pkjn 1Pkk6 1Pkkk 1Pkkn 1Pkn5 1Pkn8 1Pknd 1Plm1 1Plmu 1Pm5i 1Pm5t 1Pm6j",
    "1Pmfd 1Pmfp 1Pmhv 1Pmjc 1Pn52 1Pn5g 1Pn5u 1Pn70 1Pn84 1Pnea 1Pnel 1Pngn 1Pnoe 1Pnpc 1Pnvs",
    "1Po0g 1Po0k 1Po7f 1Pod6 1Poh2 1Poh7 1Pohb 1Ppeg 1Ppeo 1Ppjj 1Ppoc 1Ppoe 1Ppps 1Ppt4 1Pptg",
    "1Pptj 1Pptp 1Pq0q 1Pq1r 1Pq20 1Pq2d 1Pq7j 1Pq95 1Pq98 1Pqeu 1Pqf0 1Pqfi 1Pqnd 1Pqos 1Pqp2",
    "1Pqr7 1Pqrg 1Pqri 1Pqrr 1Pqso 1Pr92 1Prlh 1Prlq 1Prmv 1Prnk 1Prnr 1Pro4 1Pro7 1Prpe 1Prph",
    "1Prq1 1Prq5 1Prqh 1Prrb 1Prrp 1Prs0 1Prtq 1Pru8 1Prub 1X 1aM10 1V 1M1e 1V 1jN14 1V 1P8o9",
    "1P8ob 2V 5X 1V 2mX 2V 2M10,c4p 1M10,c4q 1V 2Mc48,c4a 1V 2vMc5j,c68 1X 5V 1bX 1N81h 2N7s9",
    "1N81i 1N7s9 2N81k 3N7sa 6N816 1N81r 3N813 1N81s aN7ve lI 1N82h 2N7t0 2N7st 1N7ss 1N7so 1N7sl",
    "1N7sk 1N82i 1N7si 1N7sh 1N82k 2N82j 1N82i 2N82f 1N82e 1N82d 5N82b 1N828 1N81v 1N81p 1N81l",
    "1N7sh 2N81d 3N803 2N801 1N7vp 2N7vo 1N7vf 1N7vd 1X 1V 2P73e 1P77p 1P73l 1P9a6 1P73k 1P74m",
    "1P73j 1Pgsp 1P75v 1P73u 1P735 1P9sc 1P9ci 1P78r 1V 26X aV gM18,480,19 1M18,482,19",
    "1M18,483,19 1M18,485,19 1M18,486,19 1M18,487,19 1M18,489,19 1M18,48b,19 1M18,48c,19",
    "1M18,48e,19 1M18,48f,19 1M18,48g,19 1M18,48h,19 1M18,48i,19 1M18,1b00,19 1M18,1c4o,19",
    "1M18,1cn4,19 1M18,1drs,19 1M18,1ee8,19 1M18,1f0k,19 1M18,1g5c,19 1M18,1ha4,19 1M18,1hsg,19",
    "1M18,1j18,19 1M18,1jjk,19 1M18,1k60,19 1M18,1koc,19 1M18,1lao,19 1M18,1i7s,19",
    "1M18,1hh4,1i04,19 1M18,1hh4,1lm4,19 1X 1M18,jg0,19 1M18,jkc,19 1M18,jg9,19 1M18,lmr,19",
    "1M18,jkk,19 1M18,kbd,19 1M18,jg3,19 1M18,kbb,19 1M18,jit,19 1M18,kq1,19 1M18,po8,19",
    "1M18,s3b,19 1M18,r1k,19 1M18,pp8,19 1M18,14eh,19 1M18,lov,19 1M18,pf5,19 1M18,q1a,19",
    "1M18,po9,19 1M18,u9u,19 1M18,l0d,19 1M18,sjp,19 1M18,1351,19 1M18,uat,19 1M18,klk,19",
    "1M18,jn3,19 1M18,l3s,19 1M18,mr6,19 1M18,tn3,19 1M18,jo1,19 1M18,1367,19 1M18,kqk,19",
    "1M18,ubd,19 1M18,joh,19 1M18,10fa,19 1M18,10fj,19 1P8ob 1Pb1n 1Pcq1 1Pia8 1V 8M3g,3k,35",
    "1M1i,1h 1M1i,1i 1M1i,1j 1M1i,1k 1M1i,1l 1M1i,1m 1M1i,1n 1M1i,1o 1M1i,1p 1M1j,1g 1M1j,1h",
    "1M1j,1i 1M1j,1j 1M1j,1k 1M1j,1l 1N8b0 1N8av 2N8au 3N8at 1N8as 2N8ar 5Puci 1Pvh9 1P103k",
    "1P118b 1P11qm 1P12d1 1P13ho 1P14mf 1P158q 1P16dh 1P16vs 1P17i7 1P184i 1P18mt 1M1j1o,1b70",
    "1M1i7s,1hqo 1P151i 1V 1P6s0 1P70b 1P6s7 1P92o 1P70g 1P7n8 1P6rt 1P7n4 1P6ul 1P85o 1Pd3u",
    "1Pff0 1Ped8 1Pd4r 1Pnq3 1P94g 1Pcql 1Pdcp 1Pd3n 1Phlb 1P8bp 1Pfv4 1Pmgb 1Phm6 1P80s 1Phpv",
    "1Pgkt 1P9mo 1Pned 1P7kd 1P86i 1Pei9 1Ppb5 1P73g 1P7nn 1Pe60 1P6r6 1P6s8 1P6r5 1Papv 1P8ab",
    "1P84i 1Pa7d 1Pa5r 1Ph1n 1P72k 1Pmgp 1P855 1P9jc 1M1j,1m 1M1j,1n 1M1j,1o 1M1j,1p 1M1k,1g",
    "1M1k,1h 1M1k,1i 1M1k,1j 1M1k,1k 1M1k,1l 1M1k,1m 1M1k,1n 1M1k,1o 1M1k,1p 1M1l,1g 1M1h,po8",
    "1M1i,po8 1M1j,po8 1M1k,po8 1M1l,po8 1M1m,po8 1M1n,po8 1M1o,po8 1M1p,po8 1M1h,1g,po8",
    "1M1h,1h,po8 1M1h,1i,po8 1M38,37 1M35,3i,37 1M35,3m 1M3c,3k,34 1Nhe 1Nhd 1Nhc 1Nhb 1Nha 2Nh9",
    "1Nh8 1Nh7 1Nh6 1Nh5 1Nh4 1Nh3 1Nh2 1Nh1 1Nh0 1Ngv 1Ngt 1Ngs 1Ngr 1Ngq 6Ngo 1Ngm 1Ngk 1Ngi",
    "1Ngg 5Ngf 1Nge 1Ngd 6Ngc 4Mjn4,l4c 1Mc52,c6h,c7s,c68 1Mc52,c7b,c6l,c51 1Mc52,c7j,c6q,c52",
    "1Mc52,c7s,c7b 1Mc54,c6b,c7j,c5g 1Mc54,c7j,c61 1Mc56,c59,c7j 1Mc58,c5p,c5f,c7s,c69",
    "1Mc58,c7s,c5b,c7s 1Mc5a,c7j,c5p 1Mc5a,c7s,c70 1Mc5b,c54,c7a 1Mc5b,c79,c63,c68",
    "1Mc5b,c7d,c7a,c7s 1Mc5c,c7d,c7j 1Mc5c,c7j,c6u 1Mc5e,c5c 1Mc5e,c6b,c7s 1Mc5d,c75,c7a,c7s",
    "1Mc5e,c7b,c60,c7s 1Mc5d,c7d 1Mc5d,c7d,c5g,c79,c70 1Mc5d,c7d,c71,c7s,c68,c7b",
    "1Mc5d,c7d,c7f,c63,c68 1Mc5g,c79,c70 1Mc5g,c79,c70,c68,c7j 1Mc5f,c7b,c5s,c54,c7d",
    "1Mc5f,c7d,c7s,c6d 1Mc5h,c7s,c5p 1Mc5j,c7b,c6a 1Mc5j,c7s,c6t 1Mc5l,c54,c5f,c7b",
    "1Mc5l,c7j,c61,c7s,c70 1Mc5n,c7a,c7j,c5g 1Mc5r,c7j,c61 1Mc5r,c7j,c68 1Mc60,c7s,c5p 1Mc67,c5n",
    "1Mc69,c7b 1Mc68,c7j 1Mc6a,c6e 1Mc6e,c63,c68 1Mc6f,c54,c64 1Mc6h,c7s,c5r,c7j,c68",
    "1Mc6h,c7s,c64 1Mc6g,c7s,c7c,c7b 1Mc6k,c52,c5p,c68,c7b 1Mc6k,c5f,c7b 1Mc6k,c5j 1Mc6j,c7b",
    "1Mc6l,c51,c79,c63,c69 1Mc6l,c53,c7s,c68 1Mc6m,c63,c5n,c57,c7b 1Mc6l,c79,c7j",
    "1Mc6o,c5f,c5v,c7s,c7b 1Mc6q,c5t 1Mc6q,c6b,c6i 1Mc6o,c7b,c64 1Mc6q,c7j,c5p 1Mc6q,c7s,c5o",
    "1Mc6p,c7s,c5v 1Mc6t,c54,c7j,c68 1Mc6s,c7b,c68 1Mc6r,c7j 1Mc6t,c7j,c69 1Mc6r,c7s,c7b",
    "1Mc6r,c7s,c7j 1Mc6u,c54,c5f,c7d 1Mc6u,c54,c7b 1Mc6u,c63,c6f 1Mc6u,c7b,c5f",
    "1Mc6u,c7j,c5n,c77,c7j 1Mc6v,c5f,c7d,c7j 1Mc6v,c7a 1Mc6v,c7a,c6g,c7s,c7b 1Mc71,c5c",
    "1Mc71,c5c,c68,c7j 1Mc71,c7s,c68,c7b 1Mc74,c7s,c69 1Mc74,c7s,c7b 1Mc76,c52,c7j",
    "1Mc7a,c63,c68,c7b 1Mc7a,c79 1Mc7b,c6k,c7s 1Mc7b,c7s,c6m,c7b 1Mc7c,c70 1Mc7c,c7j,c68,c5i,c7j",
    "1Mc7f,c63,c68 1M1g,s5p 1M1h,s5p 1M1i,s5p 1M1j,s5p 1M1k,s5p 1M1l,s5p 1M1m,s5p 1M1n,s5p",
    "1M1o,s5p 1M1p,s5p 1M1h,1g,s5p 1M1h,1h,s5p 1M1h,1i,s5p 1M1h,1j,s5p 1M1h,1k,s5p 1M1h,1l,s5p",
    "1M1h,1m,s5p 1M1h,1n,s5p 1M1h,1o,s5p 1M1h,1p,s5p 1M1i,1g,s5p 1M1i,1h,s5p 1M1i,1i,s5p",
    "1M1i,1j,s5p 1M1i,1k,s5p 1M38,3g,31 1M34,31 1M31,3l 1M32,31,3i 1M3f,3m 1M3g,33 1M34,3d",
    "1M34,3d,1i 1M34,3d,1j 1M39,3l 1Mnjj,ogg 1Mphd,l4c 1Mm97,qr3 1Mpge,r5r 1Mq1a,nof,joq,u9u",
    "1M3g,31 1M3e,31 1Mts,31 1M3d,31 1M3b,31 1M3b,32 1M3d,32 1M37,32 1M33,31,3c 1M3b,33,31,3c",
    "1M3g,36 1M3e,36 1Mts,36 1Mts,37 1M3d,37 1M3b,37 1M38,3q 1M3b,38,3q 1M3d,38,3q 1M37,38,3q",
    "1M3k,38,3q 1Mts,3c 1M3d,3c 1M34,3c 1M3b,3c 1M36,3d 1M3e,3d 1Mts,3d 1M3d,3d 1M33,3d 1M3b,3d",
    "1M3d,3d,1i 1M33,3d,1i 1M3d,1i 1M3b,3d,1i 1M3d,3d,1j 1M33,3d,1j 1M3d,1j 1M3b,3d,1j",
    "1M3d,8gl,3j 1M3d,8gl,3j,1i 1M3g,31 1M3b,3g,31 1M3d,3g,31 1M37,3g,31 1M3i,31,34",
    "1M3i,31,34,8gl,3j 1M3i,31,34,8gl,3j,1i 1M3g,3j 1M3e,3j 1Mts,3j 1M3d,3j 1M3g,3m 1M3e,3m",
    "1Mts,3m 1M3d,3m 1M3b,3m 1M3d,3m 1M3g,3n 1M3e,3n 1Mts,3n 1M3d,3n 1M3b,3n 1M3d,3n 1M3b,u9",
    "1M3d,u9 1X 1M32,3h 1M33,33 1M33,34 1M33,8gl,3b,37 1X 1M34,32 1M37,3p 1M38,31 1M38,3g 1M39,3e",
    "1M3b,3b 1M3b,3d 1M3b,3k 1M3c,3d 1M3c,3e 1M3c,3f,37 1M3c,3o 1M3d,32 1M3d,39,3c 1M3d,3f,3c",
    "1M3g,38 1X 1M3g,3g,3d 1M3g,3i 1M3j,3i 1M3j,3m 1M3n,32 1M3m,8gl,3d 1M31,8gl,3d 1M1h,pf5",
    "1M1i,pf5 1M1j,pf5 1M1k,pf5 1M1l,pf5 1M1m,pf5 1M1n,pf5 1M1o,pf5 1M1p,pf5 1M1h,1g,pf5",
    "1M1h,1h,pf5 1M1h,1i,pf5 1M1h,1j,pf5 1M1h,1k,pf5 1M1h,1l,pf5 1M1h,1m,pf5 1M1h,1n,pf5",
    "1M1h,1o,pf5 1M1h,1p,pf5 1M1i,1g,pf5 1M1i,1h,pf5 1M1i,1i,pf5 1M1i,1j,pf5 1M1i,1k,pf5",
    "1M1i,1l,pf5 1M1i,1m,pf5 1M1i,1n,pf5 1M1i,1o,pf5 1M1i,1p,pf5 1M1j,1g,pf5 1M1j,1h,pf5",
    "1M37,31,3c 1V s4dX 3V 1nX 9V asX kE 1eV iE sM12a 1M12c 1V 2qX 8V 12E eV 2E 1uN1 1V 8O 4M7bp",
    "1E aV 3O 2Mj5 1V 2E 4V 2E kMj6 1Mis 1Mj1 1Mjc 1Mja 1V 1Mku 1Mk7 1Mkt 1Pt0 1E gN1g 1Mk2 1M7ce",
    "1O 4Mj4 1E gMcr 1X kM3j 1M33 1M36 1M3h 1O 2V 1M97 1Maj 1V 1jX 3V aX 6V 1oX 8V 26X 8V cX 6V",
    "3kX bV uX 3V 2eX 1V bX 4V 11X 1V 1nX 9V eX 2V aX 2V 37X oV sX aV 6X 2V 6X 2V 6X 9V 7X 1V 7X",
    "1V 1cN11l 1N16 1Mjb 1Nd 1V 9Mkd 1V 2X 4N15ug 2gV 1eX 2V aX 6V at4X cV nX 4V 1hX 884Nr5o",
    "1Mpnk 1Nqho 1Nr1r 1Mrmh 1Mjhi 1Mkv5 1M17ss 2Mmah 1Nppp 1Mlc7 1Mma8 1Mofm 1Mtj9 1Nuca 1Nsmh",
    "1Nsan 1Ns0q 1Nq44 1Mqg2 1Mr8r 1Ms6p 1Msuu 1Nt6r 1Nptf 1Nnp9 1Mjk2 1Mkrl 1Mqo4 1Msgr 1Nsni",
    "1Nmo2 1Mnag 1Mrvb 1Nsqm 1Nru0 1Mom9 1Ntqe 1Ns88 1Mnma 1Mpon 1Mrba 1Msns 1Nq2u 1Mjs6 1Mkdn",
    "1Mkmu 1Mp64 1Mqmj 1Msgg 1Mtn7 1Nu9j 1Nspf 1Nsmq 1Nqq8 1Nog6 1Nnea 1Nmq0 1Mu4c 1Nvtt 1Nust",
    "1Ntbl 1Nphr 1Nmm1 1Nrjb 1Mm6v 1Mno4 1Nv74 1Nu67 1Msj2 1Mu6a 1Nr46 1Noii 1Mm6o 1Mn32 1Mqgj",
    "1Mreq 1Mrof 1Nv10 1Nuop 1Noo6 1Mkmi 1Nu68 1Mkes 1Mkec 1Nvpq 1Nusp 1Ntb7 1Non4 1Nreq 1Momf",
    "1Mqg2 1Nriv 1Mjhp 1Mmv7 1Mo0i 1Mss7 1Mtbg 1Mkon 1Mu7r 1Mjtv 1Mnt9 1Mjgd 1Mr6c 1Mpbo 1Nv28",
    "1Mku3 1Mm2u 1Mto1 1Nt95 1Nrm5 1Mqtq 1Nqe1 1Mr48 1Monu 1Ntkf 1Mot0 1Mtb5 1Mjle 1Mkb9 1Mke9",
    "1Mq41 1Nv4k 1Ntod 1Nrlb 1Nptf 1Mknl 1Ml22 1Mmbj 1Mnnc 1Mpe5 1Mrvu 1Mu9a 1Noup 1Nnot 1Nmnh",
    "1Nmlr 1Mkkr 1Mpm6 1Mqrn 1Nqhb 1Mnjk 1Mocg 1Mog0 1Mp4q 1Mrp3 1Msa9 1Mt49 1Nvub 1Nut2 1Nu98",
    "1Nqji 1Nt5b 1Nqbn 1Npih 1Mkgn 1Mkl3 1Ml5t 1Ms68 1Ns6u 1Nrnn 1Mnm9 1Mnvl 1Morr 1Mqte 1Nvb8",
    "1Msrl 1Mjn4 1Mlnp 1Mmv7 1Mndq 1Mo0s 1Msti 1Mt39 1Nugl 1Nuba 1Nprt 1Nols 1Nojb 1Nocs 1Mjsb",
    "1Mude 1Nq03 1Noo0 1Mo71 1Mjk6 1Mk6q 1Mmve 1Mn1v 1Mpcp 1Mqg2 1Msee 1Mti2 1Nt66 1Nqa7 1Nmhn",
    "1Mpk8 1Noso 1Mkk9 1Mprr 1Mpvj 1Mra1 1Mrks 1Mt09 1Mtap 1Mu3b 1Nv5v 1Nobi 1Mkbd 1Mohe 1Noqr",
    "1Mk1b 1Mn8p 1Mrfa 1Nqld 1Mnsb 1Moa4 1Mq0n 1Mss7 1Noqm 1Mkh9 1Ml0f 1Mn35 1Mpgj 1Mpqe 1Mq58",
    "1Mr75 1Mt06 1Mtf2 1Nujd 1Ns8o 1Ns87 1Nq0t 1Noo8 1Mkpv 1Mrlq 1Ml0t 1Mseg 1Mt4o 1Nsvm 1Noqe",
    "1Nncr 1Nmqk 1Mpsn 1Mreb 1Nu0e 1Nvpc 1Nvmo 1Nvb7 1Msm0 1Ms4p 1Nrl4 1Mjm0 1Ntm8 1Mkhq 1Mkg7",
    "1Mnl6 1Momj 1Nv9d 1Mms5 1Mr8u 1Mplk 1Nqmc 1Nsds 1Nots 1Ns3v 1Mnmj 1Mka0 1Mle0 1V 2Mm2q 1V",
    "1Mpjk 1V 2Mkeu 1Mspa 1Mtma 1Mu9s 1Muau 1Mub5 1Mucf 1Nom6 1Nvav 1Nuj1 1V 1Nt0e 1V 1Nrpa 1V",
    "2Nqfd 1Nq99 1V 3No9r 1No9f 1No84 1Nn3p 1Nqag 1Noro 1Mjte 1Mk77 1Mkad 1Mkm9 1Mkn4 1Mkqh 1Mlct",
    "1Mlg6 1Mlj8 1Mm20 1Mm58 1Mn34 1Mn3e 1Mo4k 1Mob8 1Moce 1Mofi 1Mpaf 1Mpf2 1Mpkh 1Mq45 1Mrbn",
    "1Mrgq 1Mrp2 1Msbe 1Mshb 1Mt12 1Mu4h 1Mu9u 1Mua9 1Mua8 1Muag 1Muam 1Muat 1N1065 2Mui0 1Nvuk",
    "1Nvkm 1Nv33 1Nv2f 1Nv0o 1Nun8 1Nuim 1Nu3f 1M10jp 2Ntg8 1Nsag 1Ns6b 1Nrr1 1Nrpa 1Nrch 1Nrat",
    "1Nqlg 1Nqhf 1Nos5 1Noja 1Nohf 1Mo3l 1P2i42 1Nu2l 1X 2Mjh6 1Mkdl 1Mkb8 1Mjs0 1Mka5 1Mkc0",
    "1Mkm7 1Mknq 1Mlct 1Mlal 1Mlcp 1Mlf2 1Mm2q 1Mm5j 1Mma4 1Mmak 1Mmj2 1Mmp8 1Mnmi 1Mnmp 1Mnr9",
    "1Mntd 1Mo6o 1Moae 1Mo88 1Moce 1Mob0 1Mofi 1Mohk 1Mou4 1Mp0s 1Mp2i 1Mpam 1Mpjk 1Mpon 1Mpor",
    "1Mpqm 1Mqrp 1Mqtq 1Mra1 1Mrmr 1Mrmb 1Mrp2 1Ms0u 1Msbe 1Mtt7 1Mshl 1Mslf 1Mspa 1Mt3h 1Mt86",
    "1Mt9r 1Mtgt 1Mtgv 1Mtma 1Mtmr 1Mtnk 1Mtqa 1Mtq0 1Mu6c 1Nvvr 1Nvnd 1Nvhj 1Nvak 1Nv5s 1Nurj",
    "1Nuld 1Ntr1 1Ntm5 1Nsps 1Nsbl 1Ns9h 1Ns92 1Nrvq 1Nru2 1Nrvg 1Nrtr 1Nrtv 1Nruh 1Nrs6 1Nrpm",
    "1Nrdp 1Nqsa 1Nqih 1Nq9b 1Nq2f 1Np2a 1Nov4 1Nori 1None 1Nomb 1Nom0 1Nokh 1Nntr 1Nmpi 1P2bbr",
    "1P2bbk 1P2e84 1Mest 1Mg0o 1Mg1p 1P2lrk 1P2ofq 1P30vs 1Nmsl 1Nmqb 1X 16M36,36 1M36,39 1M36,3c",
    "1M36,36,39 1M36,36,3c 1M3j,3k 2X cM1bk,1bm 1M1bk,1b5 1M1bk,1bb 1M1bu,1bm 1M1bk,1bd 1X",
    "5M1ep,1dk 1V 1M1fi,1dn 1M1f2 1M1eg 1N1taf 2N1ta9 3M1f8 1M1fa 1M1b 1M1f9,1e1 1M1f9,1e2",
    "1M1f9,1ds,1e1 1M1f9,1ds,1e2 1M1eg,1dn 1M1eg,1do 1M1eg,1ds 1M1eh,1ds 1M1ei,1ds 1M1ej,1ds",
    "1M1ek,1ds 1M1el,1ds 1M1em,1ds 1X 1M1eo,1ds 1M1ep,1ds 1M1eq,1ds 1M1er,1ds 1M1es,1ds 1X",
    "1M1eu,1ds 1X 1M1f0,1ds 1M1f1,1ds 1X 1M1f3,1ds 1M1f4,1ds 1X 1M1f6,1ds 1M1f7,1ds 1M1f8,1ds",
    "1M1f9,1ds 1M1fa,1ds 1M1el,1dp 1M1eh,1dv 1M1er,1dv 1M1f4,1dv 1M1eg,1es 1M1jh 2M1jr 4M1ju",
    "4M1k0 4M1jq 4M1jv 4M1jp 4M1l4 4M1l6 4M1k4 4M1k3 4M1k6 4M1k7 4M1kd 2M1kc 2M1ke 2M1k8 2M1ko",
    "2M1kh 2M1l9 4M1lf 4M1lj 4M1lh 4M1lq 2M1lr 4M1m0 2M1m1 4M1lu 4M1mi 2M1mj 2V 11M1ld 4M1m7",
    "2M1m6 2M1m8 2M1m7,1jk 1M1mb 2M1m5 2M1m9 2M1mg 4M1i9 2M1h6,1h7 2M1h6,1ml 2M1h6,1i8 2M1h6,1m7",
    "2M1h6,1m6 2M1h6,1m8 2M1h6,1mg 3M1h6,1i9 3M1mc 4M1h6,1hc 1M1h6,1hd 1M1h6,1i5 1M1h6,1i9",
    "1M1h6,1ia 1M1h8,1hc 1M1h8,1hd 1M1h8,1he 1M1h8,1i5 1M1h8,1i9 1M1h8,1ia 1M1ha,1hc 1M1ha,1hd",
    "1M1ha,1he 1M1ha,1i5 1M1ha,1i9 1M1ha,1ia 1M1hb,1hc 1M1hb,1i5 1M1hb,1i9 1M1hb,1ia 1M1hc,1hd",
    "1M1hc,1i5 1M1hd,1hc 1M1hd,1i5 1M1he,1hc 1M1he,1hd 1M1he,1i5 1M1hj,1hc 1M1hj,1hd 1M1hj,1he",
    "1M1hj,1i5 1M1hl,1hd 1M1hl,1i5 1M1hm,1hc 1M1hm,1hd 1M1hm,1he 1M1hm,1i5 1M1hn,1hd 1M1hn,1i5",
    "1M1ho,1i5 1M1hp,1hc 1M1hp,1i5 1M1hq,1hc 1M1hq,1i5 1M1i1,1hc 1M1i1,1hd 1M1i1,1he 1M1i1,1i5",
    "1M1i1,1i9 1M1i1,1ia 1M1i2,1hd 1M1i2,1i5 1M1i2,1i9 1M1i2,1ia 1M1i3,1h7 1M1i3,1hc 1M1i3,1hd",
    "1M1i3,1he 1M1i3,1i4 1M1i3,1i5 1M1i3,1i9 1M1i3,1ia 1M1i4,1hc 1M1i4,1hd 1M1i4,1he 1M1i4,1i5",
    "1M1i4,1i9 1M1i4,1ia 1M1i5,1hc 1M1i5,1hd 1M1i5,1he 1M1i5,1i5 1M1i5,1i9 1M1i5,1ia 1M1i6,1hc",
    "1M1i6,1hd 1M1i6,1he 1M1i6,1i5 1M1i6,1i9 1M1i6,1ia 1M1i7,1hc 1M1i7,1i5 1M1i7,1i9 1M1i7,1ia",
    "1M1ia,1hc 1M1ia,1hd 1M1ia,1he 1M1ia,1i5 1M1ia,1i9 1M1ia,1ia 1M1hg,1jg 1M1hh,1jg 1M1i9,1jg",
    "1M10,1ic,1ih 1M10,1id,1ih 1M10,1ie,1ih 1M10,1if,1ih 1M10,1ig,1ih 1M10,1ih,1jg 1M1h6,1hh",
    "1M1h6,1hi 1M1h6,1i5 1M1h6,1i6 1M1h6,1i9 1M1h6,1ia 1M1h8,1hh 1M1h8,1hi 1M1h8,1i5 1M1h8,1i6",
    "1M1h8,1i9 1M1h8,1ia 1M1ha,1hh 1M1ha,1hi 1M1ha,1i5 1M1ha,1i6 1M1ha,1i9 1M1ha,1ia 1M1hb,1hh",
    "1M1hb,1hi 1M1hb,1i5 1M1hb,1i6 1M1hb,1i9 1M1hb,1ia 1M1i1,1i9 1M1i1,1ia 1M1i2,1i9 1M1i2,1ia",
    "1M1i3,1h7 1M1i3,1i4 1M1i3,1i5 1M1i3,1i9 1M1i3,1ia 1M1i4,1i5 1M1i4,1i9 1M1i4,1ia 1M1i5,1h7",
    "1M1i5,1i5 1M1i6,1hh 1M1i6,1hi 1M1i6,1i5 1M1i6,1i6 1M1i6,1i9 1M1i6,1ia 1M1i9,1jg 1M1ia,1hh",
    "1M1ia,1hi 1M1ia,1i5 1M1ia,1i6 1M1ia,1i9 1M1ia,1ia 1M1h6,1hc 1M1h6,1hd 1M1h6,1he 1M1h6,1i5",
    "1M1h6,1i7 1M1h8,1hc 1M1h8,1hd 1M1h8,1he 1M1h8,1i5 1M1h8,1i7 1M1ha,1hc 1M1ha,1hd 1M1ha,1he",
    "1M1ha,1i5 1M1ha,1i7 1M1hb,1i5 1M1hc,1hd 1M1hc,1i5 1M1hd,1hc 1M1hd,1i5 1M1he,1hc 1M1he,1i5",
    "1M1hj,1hc 1M1hj,1hd 1M1hj,1he 1M1hj,1i5 1M1hl,1hd 1M1hl,1he 1M1hl,1i5 1M1hm,1hc 1M1hm,1hd",
    "1M1hm,1he 1M1hm,1i5 1M1hn,1hd 1M1ho,1i5 1M1hp,1hc 1M1hp,1i5 1M1hq,1hc 1M1hq,1i5 1M1i1,1hc",
    "1M1i1,1hd 1M1i1,1he 1M1i1,1i5 1M1i2,1hd 1M1i2,1i5 1M1i3,1hc 1M1i3,1hd 1M1i3,1he 1M1i3,1i4",
    "1M1i3,1i5 1M1i4,1hc 1M1i4,1hd 1M1i4,1he 1M1i4,1i5 1M1i4,1i7 1M1i5,1hc 1M1i5,1hd 1M1i5,1he",
    "1M1i5,1i5 1M1i6,1hc 1M1i6,1hd 1M1i6,1he 1M1i6,1i5 1M1i6,1i7 1M1i7,1hc 1M1i7,1i5 1M1i7,1jg",
    "1M1ia,1hc 1M1ia,1hd 1M1ia,1he 1M1ia,1i5 1M1ia,1i7 1M1h6,1i5 1M1h6,1i7 1M1h8,1i5 1M1h8,1i7",
    "1M1ha,1i5 1M1ha,1i7 1M1hb,1i5 1M1hb,1i7 1M1hj,1i5 1M1hj,1i7 1M1hk,1i5 1M1hk,1i7 1M1i3,1i4",
    "1M1i3,1i5 1M1i4,1i5 1M1i6,1i5 1M1i6,1i7 1M1ia,1i5 1M1ia,1i7 1M1i0,1ie,1ih 1M1i0,1if,1ih",
    "1M1i0,1ig,1ih 1M1hn,1i9 1M1hn,1ia 1M1hp,1i9 1M1hp,1ia 1M1hq,1i9 1M1hq,1ia 1M1hj,1i9",
    "1M1hj,1ia 1M1hk,1i9 1M1hk,1ia 1M1hd,1i9 1M1hd,1ia 1M1hc,1i9 1M1hc,1ia 1M1he,1i9 1M1he,1ia",
    "1M1hl,1i9 1M1hl,1ia 1M1hm,1i9 1M1hm,1ia 1M1hk,1hc 1M1hk,1hd 1M1hk,1he 1M1hk,1i5 1M1hk,1hh",
    "1M1hj,1hh 1M1hl,1hh 1M1hm,1hh 1M1hn,1i9 1M1hn,1ia 1M1hp,1i9 1M1hp,1ia 1M1hq,1i9 1M1hq,1ia",
    "1M1hj,1i9 1M1hj,1ia 1M1hk,1i9 1M1hk,1ia 1M1hd,1i9 1M1hd,1ia 1M1hc,1i9 1M1hc,1ia 1M1he,1i9",
    "1M1he,1ia 1M1hl,1i9 1M1hl,1ia 1M1hm,1i9 1M1hm,1ia 1M1hk,1hc 1M1hk,1hd 1M1hk,1he 1M1hk,1i5",
    "1M1hk,1hh 1M1hj,1hh 1M1hl,1hh 1M1hm,1hh 1M1hk,1hc 1M1hk,1hd 1M1hk,1he 1M1hk,1i5 1M1hj,1i7",
    "1M1hk,1i7 1M1hn,1i5 1M1hj,1hc 1M1hj,1hd 1M1hj,1he 1M1hk,1hc 1M1hk,1hd 1M1hk,1he 1M1hn,1i5",
    "1M1ho,1i5 1M1h7,1ib 2V iM1ha,1hc,1i5 1M1ha,1hd,1hc 2M1ha,1hd,1i5 1M1ha,1he,1i5 1M1ha,1i5,1hc",
    "1M1ha,1i5,1hd 1M1ha,1i5,1he 1M1hc,1i5,1hd 2M1hd,1i5,1ia 1M1hd,1i5,1i9 1M1hj,1hd,1hc",
    "1M1hj,1hc,1hd 1M1hj,1hc,1i9 1M1hj,1i5,1hd 2M1hj,1i5,1hc 1M1hj,1i5,1i5 2M1hl,1hd,1hd",
    "2M1hl,1i5,1i5 1M1hk,1hd,1i5 2M1hk,1hc,1ia 1M1hk,1i5,1he 2M1hk,1i5,1i5 2M1hm,1hd,1i9",
    "1M1hm,1he,1i5 2M1hn,1i5,1hd 2M1hn,1i5,1i5 1M1hn,1i5,1ia 1M1hp,1hc,1i5 1M1hp,1i5,1i5",
    "2M1hp,1i5,1i9 1M1hq,1i5,1i5 1M1hq,1i5,1ia 1M1hq,1i5,1i9 1M1i1,1he,1i5 2M1i2,1i5,1hd",
    "1M1i2,1i5,1i5 1M1i4,1hd,1i5 1M1i4,1hd,1ia 1M1i4,1hd,1i9 1M1i4,1hc,1hc 2M1i4,1he,1i5",
    "2M1i4,1i5,1hd 2M1i5,1hd,1hc 1M1i5,1hd,1i5 1M1i5,1hd,1ia 1M1i5,1hc,1hd 1M1i5,1hc,1i5",
    "1M1i5,1he,1hc 1M1i5,1he,1i5 1V 2M1i5,1hc,1he 1M1i7,1i5,1hc 1M1i7,1i5,1i5 1M1i6,1hd,1i5",
    "1M1i6,1hd,1i9 1M1i6,1hc,1i5 2M1i6,1hc,1i9 1M1i6,1i5,1ia 1M1i6,1i5,1i9 1M1ia,1i5,1i5",
    "2M1h8,1he,1ia 1M1ha,1hc,1ia 1M1ha,1hc,1i9 1M1ha,1he,1ia 1M1ha,1he,1i9 1M1ha,1i5,1ia",
    "1M1ha,1i5,1i9 1M1hc,1i5,1ia 1M1hc,1hd,1i9 1M1hc,1i5,1i9 1M1hj,1he,1i9 1M1hl,1hd,1ia",
    "1M1hk,1hd,1ia 1M1hm,1hd,1ia 1M1i4,1hc,1ia 1M1i4,1i5,1ia 1M1ia,1hd,1ia 1M1ia,1hc,1ia",
    "1M1ia,1i5,1ia 1M1i5,1i5,1ia 1M1i2,1i5,1ia 1M1i6,1hd,1ia 1M1i2,1i5,1hd 1M1i4,1hd,1i5",
    "1M1hp,1i5,1ia 1M1i3,1i5,1ia 1M1i6,1hc,1hd 1M1i5,1he,1ia 1M1i4,1hc,1i5 1M1i3,1i5,1i5",
    "1M1i4,1hc,1i5 1M1i6,1hc,1hd 1M1hc,1hd,1ia 1M1hd,1hc,1ia 1M1i5,1hc,1ia 1M1i1,1i5,1ia",
    "1M1h8,1hd,1ia 1M1i3,1i5,1i5 1M1hp,1hc,1i5 1M1hl,1i5,1i5 1M1hj,1he,1ia 1M1i6,1hc,1ia 1V 8X",
    "10M1hl,1i4,1mi 1M1i2,1i4,1mi 1M1h7,1i4,1i4,1i7 1M1h7,1i3,1h8,1hh 1M1i5,1hd,1i5,1hf",
    "1M1hl,1i4,1hp,1i5 1M1hh,1hj,1i8,1i4 1M1hp,1i4,1ia,1i7 1M1i8,1hj,1i4,1i5 1M1hl,1i4,1i9",
    "1M1hl,1i4,1i9,10,1h7,1i4,1i4,1i7,10,1hp,1i4,1ia,1i7,10,1i8,1hj,1i4,1i5",
    "1M1hc,1i4,10,1hc,1i4,1h7,1i4,1i7 1M1hh,1mc,1h7,1i4 1V 3I gM1c 1Mc01 1X 1N1vep 2M11 1M1v",
    "1N1jg1 2X 7V gX 1M80k 1M80j 1M2v 2N1vgd 2M3r 1M3t 1N1jh5 2N1jhb 2N1jhj 2N1jhn 2N1jhl 4V 2M2r",
    "1M2t 1M10,o5 4M2v 3M1c 1Mc01 1X 2M1r 1M1q 1M1v 1M11 1M80k 1N1vhh 2M3r 1M3t 1N1ji9 2M13 1M16",
    "1N1vhn 2M1d 1M1s 1M1u 1M1t 1X 1M2s 1N1vi5 2M20 1X 4M10,1ib 1M1i0,1ib 1M10,1ic 1V 1M10,1id 1X",
    "1M10,1ie 1M1i0,1ie 1M10,1if 1M1i0,1if 1M10,1ig 1M1i0,1ig 1M10,1ih 1M1i0,1ih 1M10,1ii",
    "1M1i0,1ii 1N1u2v 2N1u30 2N1u31 2N1u32 2N1u33 2M1h6 3M1h7 2M1h8 4M1h9 2M1ha 4M1hb 4M1hc 4M1hd",
    "4M1he 4M1hf 2M1hg 2M1hh 2M1hi 2M1hj 4M1hk 4M1hl 4M1hm 4M1hn 4M1ho 4M1hp 4M1hq 4M1i1 4M1i2",
    "4M1i3 4M1i4 4M1i5 4M1i6 4M1i7 4M1i8 2M1i9 2M1ia 4M1i4,1h2 2M1i4,1h3 2M1i4,1h5 2M1i4,1h7 2X",
    "2I 1X 1N1vn0 10N1vm0 qN1vn0 14N1leq 2M1e 1N1jqm 2Mc01 1Mc7r 1Mc7i 1Mc51 1Mc53 1Mc55 1Mc57",
    "1Mc59 1Mc73 1Mc75 1Mc77 1Mc63 1Mc7s 1Mc52 1Mc54 1Mc56 1Mc58 1N1jmb 2Mc5d 1Mc5f 1Mc5h 1Mc5j",
    "1Mc5l 1Mc5n 1Mc5p 1Mc5r 1Mc5t 1Mc5v 1Mc61 1Mc64 1Mc66 1Mc68 1N1jlr 6Mc6i 1Mc6l 1Mc6o 1Mc6r",
    "1N1jlh 5Mc74 1Mc76 1N1jle 6Mc7f 1Mc7j 1N1jo5 2I 1N1rl1 2M4da 1M482 1N1rfp 2N1rl4 3N1rfq",
    "6M48q 1N1rlb 3M491 1N1rlc aX 3N1rj1 6X 2N1rj3 6X 2N1rj5 6X 2N1rj7 3X 3N1vpu 2M5c 1M10,o4",
    "1M56 1M55 1M859 1X 1M982 1N1nip 4M9d0 1M9eb 1X hV cX 1V qX 1V jX 1V 2X 1V fX 2V eX 12V 3rX",
    "5V 3X 4V 1dX 3V 2oX 1V dX 3V 1X 1fV 1eX 42V tX 3V 1hX fV sX 4V 14X 9V uX 5V 1bX 5V uX 1V 15X",
    "4V eX 1aP18 18V 3mX 2V aX 6P18 14X 4V 14X 4V 18X 8V 1kX bV 1P17 bX 1P17 fX 1P17 7X 1P17 2X",
    "1V bX 1V fX 1V 7X 1V 2X 3V 1kX cV 9nX 9V mX aV 8X oV 1N215h 2M76 1Mkp 1Mij 1X 1Ml3 1Nn12",
    "1Ml5 1Ml4 1N219l 2M7ch 1Mio 1Miu 1Ml9 1Mj4 1Mj2 1Mj0 1Mkr 1M97 1Mks 1Mj7 1Mk4 1N217f 2Mjc",
    "1P1lr8 1No0f 1Mje 1P1lr6 1Mke 1P1lr5 1M7o 1N219d 2M3h 1Mjq 1P1lr1 1N219b 2Mk0 1Ml8 1Ml6",
    "1Nn26 1Ml7 1Mk8 1Mb3h 1X 1Mkf 1N218i 2Mko 1N21fm 3P1lqh 1P1lr4 1X 25V 6X 2V 1X 1V 1cX 1V 2X",
    "3V 1X 2V nX 1V 28X 8V 9X 1gV jX 1V 2X 5V 11X 3V rX 5V rX 16V 1oX 4V kX 2V 1iX 1V 2X 5V 8X 1V",
    "3X 1V tX 2V 3X 4V aX 7V 9X 7V 20X 10V 17X 4V cX 9V 1mX 3V tX 2V rX 5V qX 7V 4X cV 7X 2gV 29X",
    "1nP20 1jX dV 1jX 7V 1eX 8V aX 6V gP10 mX 3V tX 8V 2X 6gV vX 1V 1aX 1V 3X 2V 2X gV 6X 8V 9X",
    "11V 1eX 8V 1aX mV qX 16V sX kV nX 9V 2eX 4V 14X 9V 1uX 1V 5X dV pX 7V aX 6V 1lX 1V iX 8V 17X",
    "9V 30X 1V kX bV iX 1V 1fX 1uV 7X 1V 1X 1V 4X 1V fX 1V bX 6V 1rX 5V aX 6V 4X 1V 8X 2V 2X 2V",
    "mX 1V 7X 1V 2X 1V 5X 1V aX 2V 2X 2V 3X 2V 1X 6V 1X 5V 7X 2V 7X 3V 5X bV aX 1V 1X 2V 1X 1V",
    "16X 1V aX 1V 1X 2V 1X 1V 4X 1V aX 1V 2X 8V 2X tV 2sX 1V 5X uV 28X 8V aX 56V 1mX 2V 16X 12V",
    "25X bV aX 6V dX jV 1qX 6V aX 6V kX sV rX 2V fX 4V nX 5pV 1sX 34P10 10V 1jX cV 8X 2V 1X 2V 8X",
    "1V 2X 1V uX 1V 2X 2V cX 9V aX 26V 8X 2V 1eX 2V bX rV 28X 8V 2jX dV 29X 7V aX 2mV 8X 2oV 12X",
    "eV aX 6V 9X 1V 1dX 1V eX aV tX 3V 10X 2V mX 1V eX 29V 7X 1V 2X 1V 1cX 3V 1X 1V 2X 1V 9X 8V",
    "aX 6V 6X 1V 2X 1V 15X 1V 2X 1V 6X 7V aX 6V 1cX 4V aX 7mV pX 7V hX 1V 19X 3V tX 2lV 1X fV 1iX",
    "dV srX 36V 3fX 1V 5X bV 64X 2icV 33X dV 11gX gV mX aV 3srX 5V i7X 6lpV 1qX 1m6V hpX 7V vX 1V",
    "aX 4V 2hX 1V aX 6V uX 2V 6X aV 26X aV aX 1V 7X 1V lX 5V jX dgV 1qX 66P10 10V 1rX 5Pr pX 2V",
    "pX 1cV 2bX 4V 1pX 7V hX 20V 5X bV 7X 9V 76mX 19V 10X 31V 3jX 8ftV 4X 1V 7X 1V 2X 1V 93X fV",
    "1X tV 3X 2V 1X eV 4X 8V ccX 284V 3bX 5V dX 3V 9X 7V aX 2V 4I 4X 3qsV 6mN3j3l qN3j60 aV 3X 3V",
    "dkX 6V nX fV hX fV 1eX 2V nX 9V 3kX 1sV 7mX aV 17X 2V 1lM3kan,3kb5 1M3kao,3kb5",
    "1M3kao,3kb5,3kbe 1M3kao,3kb5,3kbf 1M3kao,3kb5,3kbg 1M3kao,3kb5,3kbh 1M3kao,3kb5,3kbi 1V eI",
    "8V 20M3kdp,3kb5 1M3kdq,3kb5 1M3kdp,3kb5,3kbe 1M3kdq,3kb5,3kbe 1M3kdp,3kb5,3kbf",
    "1M3kdq,3kb5,3kbf 1V 1aX lV 26X 3qV kX cV kX cV 2nX 9V pX 47N3ksv qN3ktp qN3kuj qN3kvd 7X",
    "1N3kvd iN3l07 qN3l11 qM31 1X 1N3l1r 2X 2M37 1X 2N3l1r 2X 2N3l1r 4X 1N3l1r 8N3l2l 4X 1M36 1X",
    "1N3l2l 7X 1N3l2l bN3l3f qN3l49 qN3l53 2X 1N3l53 4X 2N3l53 8X 1N3l53 7X 1N3l5t qN3l6n 2X",
    "1N3l6n 4X 1N3l6n 5X 1M3f 1X 3N3l6n 7X 1N3l7h qN3l8b qN3l95 qN3l9v qN3lap qN3lbj qN3lcd",
    "qN3ld7 qN3le1 qN3ler qN3lfl qN3lgf qN3lh9 qM9h 1Mhn 1X 2N3knn hMto 1N3knn 7M8g7 1N3koh hMu3",
    "2N3koh 6M8g2 1Mtl 1Mto 1Mtq 1Mu6 1Mu1 1Mu0 1N3kph hMto 1N3kph 7M8g7 1N3kqb hMu3 2N3kqb 6M8g2",
    "1Mtl 1Mto 1Mtq 1Mu6 1Mu1 1Mu0 1N3krb hMto 1N3krb 7M8g7 1N3ks5 hMu3 2N3ks5 6M8g2 1Mtl 1Mto",
    "1Mtq 1Mu6 1Mu1 1Mu0 1N3kt5 hMto 1N3kt5 7M8g7 1N3ktv hMu3 2N3ktv 6M8g2 1Mtl 1Mto 1Mtq 1Mu6",
    "1Mu1 1Mu0 1N3kuv hMto 1N3kuv 7M8g7 1N3kvp hMu3 2N3kvp 6M8g2 1Mtl 1Mto 1Mtq 1Mu6 1Mu1 1Mu0",
    "1Mut 2X 2N3lsu aN3lt8 aN3lti aN3lts aN3lu6 aV kcX fV 5X 1V fX 12gV vX 6V 6X 6lV 7X 1V hX 2V",
    "7X 1V 2X 1V 5X 5N3n00 9N3mvv 3N3mvu bM12b 1N3mvr 2N2ee1 1M16p 1M12m 1M12o 1M179 1M15f 1M16f",
    "1N3n11 9N3n10 2N3n0u 2M121 1N3n0s 6N3n0r 2M14h 1M12m 1M12l 1M12v 1M15b 1N2egr 1M15h 1X 11V",
    "1X 3gV 1dX 3V eX 2V aX 4V 2X a0V vX hV 1qX 5V 1X egV 1aX 6mV 1bX 4V 1X 60V vX 1V mX 8V 2X",
    "70V 7X 1V 4X 1V 2X 1V fX 1V 65X 2V gX 19P12 12V 1aX 4V aX 4V 2X ohV 24X 2cV 1tX 62N3pup",
    "2M1hc 1M1hf 1X 1M1i8 1M1hi 1M1hd 1M1hn 1M1ia 1N3pu7 4M1hj 1M1hp 1M1i1 1M1hl 1M1i2 1M1hh",
    "1M1hk 1N3pvb 2M1he 1M1hg 1M1hm 1M1ho 1M1hq 1M1je 1M1lq 1M1l1 1M1jf 1X 1M1h8 1M1hc 1X 1M1i7",
    "1X 2M1hd 1X 1M1ia 1N3pv7 4M1hj 1M1hp 1M1i1 1M1hl 1M1i2 1X 1M1hk 1N3q0b 2M1he 1X 1M1hm 1X",
    "1M1hq 1X 6M1hc 1X 4M1hd 1X 1M1ia 1X 1M1i4 1X 1M1i6 1M1hj 1M1hp 1X 1M1hl 1M1i2 1X 1M1hk 1X",
    "2M1he 1X 1M1hm 1X 1M1hq 1X 1M1lq 1X 1M1jf 1X 1M1h8 1M1hc 1X 1M1i7 1X 2M1hd 1M1hn 1M1ia 1M1i3",
    "1X 1N3q17 2M1hj 1M1hp 1M1i1 1M1hl 1M1i2 1X 1M1hk 1N3q2b 2M1he 1X 1M1hm 1M1ho 1M1hq 1M1je 1X",
    "1M1l1 1X 1N3q2p 2M1hc 1M1hf 1N3q1t 2M1hi 1M1hd 1M1hn 1M1ia 1X 1N3q27 3M1hj 1M1hp 1M1i1 1M1hl",
    "1M1i2 1M1hh 1M1hk 1N3q3b 2M1he 1M1hg 1M1hm 1M1ho 1M1hq 1X 5M1h8 1M1hc 1M1hf 1X 1M1i8 1M1hi",
    "1M1hd 1M1hn 1M1ia 1X 1N3q37 3M1hj 1M1hp 1M1i1 1M1hl 1M1i2 1M1hh 1M1hk 1N3q4b 2M1he 1M1hg",
    "1M1hm 1M1ho 1M1hq 1X 1kV 2X 8eV 1cX 4V 34X cV fX 2V fX 1V fX 1V 15X bM1g,1c 1M1h,1c 1M1i,1c",
    "1M1j,1c 1M1k,1c 1M1l,1c 1M1m,1c 1M1n,1c 1M1o,1c 1M1p,1c 1V 5M18,31,19 1M18,32,19 1M18,33,19",
    "1M18,34,19 1M18,35,19 1M18,36,19 1M18,37,19 1M18,38,19 1M18,39,19 1M18,3a,19 1M18,3b,19",
    "1M18,3c,19 1M18,3d,19 1M18,3e,19 1M18,3f,19 1M18,3g,19 1M18,3h,19 1M18,3i,19 1M18,3j,19",
    "1M18,3k,19 1M18,3l,19 1M18,3m,19 1M18,3n,19 1M18,3o,19 1M18,3p,19 1M18,3q,19 1Mc0k,3j,c0l",
    "1M33 1M3i 1M33,34 1M3n,3q 1V 1N3s6f qM38,3m 1M3d,3m 1M3j,34 1M3j,3j 1M3g,3g,3m 1M3n,33 1V",
    "qM3d,33 1M3d,34 1M3d,3i 1V 13M34,3a 1V tX 1oV qMc3r,c2b 1Mc5j,c5j 1Mc5l 1X dMoib 1Mmqn 1Mkuc",
    "1Mc67 1Mjkc 1Mm8q 1N2q1j 1Mm99 1Mjl4 1Mph0 1Ms91 1Mpcp 1Mkid 1Mnsc 1Mkcd 1Mpdg 1Mkgt 1Mva2",
    "1Mt8v 1N2pbq 1Mm7g 1Ml1p 1Mrok 1Mokl 1Moql 1Mjg0 1Mjg9 1N2of1 1Mnf6 1Mjhd 1Mkvj 1Moo7 1N2p60",
    "1Moij 1Muc1 1Mujq 1Ml08 1Mrk0 1Mpo9 1Mpo8 1Mt9j 1Mkji 1Mldm 1N2o7e 1X 4Mc0k,ppc,c0l",
    "1Mc0k,jg9,c0l 1Mc0k,jkc,c0l 1Mc0k,ms9,c0l 1Mc0k,s5p,c0l 1Mc0k,oij,c0l 1Mc0k,tmn,c0l",
    "1Mc0k,kmt,c0l 1Mc0k,pan,c0l 1X 7Mnsn 1Mkvf 1X eV 6X 4qV upX 3V hX 3V dX 3V 6qX 6V cX 4V 1X",
    "fV cX 4V 1oX 8V aX 6V 18X 8V uX 2V cX 4V 2X eV 9X 17V aoX 8V eX 2V dX 3V bX 3V 1pX 1V 1X 4V",
    "gX 2V cX 4V aX 7V 4jX 1V 2sN3uu0 aV 1X 105V 19n0X 10V 48uX 2V 5keX 2V 79hX fV jeX 2d2Mjht",
    "1Mjho 1Mji1 1N1tn1 1Mjr0 1Mjte 1Mjtr 1Mk02 1Mk3q 1Mk4p 1Mk77 1Mk6f 1Md4u 1N1sej 1Mkad 1Mkak",
    "1Mkb4 1Mkbn 1N1snm 1Md5p 1Mkb7 1Mkcd 1N1smb 1Mkcn 1Mkd4 1Mjmc 1Mkdc 1Mkdl 1Npht 1Mkfl 1Mkg3",
    "1Md6v 1Mkhr 1Mki6 1Mkji 1Mkjn 1Md8l 1Mkm7 1Mkm9 1Mkn4 1Mknq 1N5994 2Mkon 1Mkq9 1Mkqh 1Mkqq",
    "1Mkrj 1Mkrt 1Mkrv 3N1rg8 1Ms3g 1Mkua 1Mkuv 1N1r6l 1Mkvb 1Mkvh 1Ml06 1Ml4u 1Ml1o 1Ml28 1Ml38",
    "1Ml52 1Ml7m 1Ml8g 1Mlaj 1Mlb3 1Mlc4 2Mlcp 1Mldb 1Mldj 1Mle2 1Mlom 1Mlg6 1Mlon 1Mlih 1Mljk",
    "1Mkg7 1Mm7e 1Mlue 1Mlvk 1Mm0d 1Mlsb 1Mm1i 1Mm1h 1Mm5c 1N1orl 1Mm7i 1Mm7n 1Mm86 1Mm8q 1Mm92",
    "1Mmb2 1N1odo 1N1obn 1Mmfc 1Mmgr 1Mmh7 1Mmeo 1Mmj6 1Mdne 1Mdns 1Mmo8 1Mmpu 2N1nl4 1Mmu3 1Mmuo",
    "1Mmv7 1Mmvj 1N1nap 1Mmvv 1Mn06 1Mnqj 1Mn12 1Mds1 1Mn30 1Mn3e 1Mn60 1Mn4d 1N1mkn 1Mna3 1N1mkn",
    "1Mnbe 1Mnbb 1Mnbs 1N56l0 2Me1f 1Mnft 1Mnh8 1Mnht 1Mnj9 1Me32 1N1lo6 1Me3s 1Mnlg 1Mnlj 1Mnlm",
    "1Mnma 1Nl7t 1Mnnu 1M48ph 2N4tki 1Mnp2 2Me67 1N1hev 1N15lu 1Mnr2 1Mnrb 1Me73 1Mnsq 1Mnud",
    "1Mnun 1Mnvp 1Mo41 1Me9q 1Me8s 1Mo4k 1N1keg 1Mo67 1Moa8 1Moac 1Moae 1Moac 1Mobq 1Moce 1Modi",
    "1Mod4 1Modf 1Moeu 1Mofi 1Mofm 1Mogg 1Mogr 1Moit 1Molh 1Momk 1Moqg 1N1jdc 1Mopt 1Mons 1Mor8",
    "1Mos3 1Mov4 1N1j6d 1Mp12 1Mou5 1Mot9 1Mehe 1Mp39 1Mp3u 1Mp4t 1Mp3n 1Mejc 1Mpaf 1Mpbc 1N1i60",
    "1Mpf3 1Mpno 1Mpi9 1Meop 1Mpkh 1Meo8 1Men4 1Mkci 1Mkcl 1Mpo0 1Mpks 1N4u19 1Mgup 1Mpon 1Mpor",
    "1Mpp1 1Mpqu 1Mpqj 1N1h8q 1Meq9 1Mpvq 1Mps5 1Mq2i 1Mq45 1N1h3m 1Mq4e 1Mq0v 1Mq8k 1Mest 1Mqa2",
    "1Mqd3 1Mqfa 1Mql8 1N1gi9 1Mqmr 1Mf0o 1Mqp1 1N1g29 1Mqqk 1Mf2e 1Mqri 1Mqsv 1N539r 2N1fja",
    "1N1mvd 1N1ffv 1Mr2e 1N1f1v 1Mr5v 1Mr6d 1Mr37 1Mr8m 1Mr9u 1Mrbn 1Mra1 1Mrb9 1Mrbo 1Mrc5",
    "1N1ev8 1Mr9k 1Mrhf 1Mrje 1Mf9j 1Mrmb 1Mrm7 1N1ehs 1Mrfp 1Mrre 1N1edi 1N1ec3 1Mru6 1Ms1p",
    "1Ms0u 1Ms0r 1Mfcm 1Ms2a 1Ms3t 1Ms3n 1Ms5d 1N1svm 1Msa5 1N1dlq 1Mscs 1N1dbk 1Msh8 1Mshl 1Msig",
    "1N1cor 1Msk0 1Mskl 1N1cfh 1N1c8j 1Msrq 1Mssb 1Mflc 1Mst5 1Mflo 2Mt27 1Mt2s 1Mt3h 1Mt45 1Mt6a",
    "1Mfor 1Mt94 1N1b7v 1Mt9u 1N1b55 1Mtbg 1N1lsq 1Mtgg 1N1acq 1N1ac4 1N1a7p 1Mfvs 1Mg08 1Mtnk",
    "1N1a2e 1N1a2g 1N1a1a 1N1a0h 1N50h7 2Mtov 1Mtqa 1Mg1p 1Mtsb 1Mg26 1Mg4m 1N199g 1Mu2e 1Mu4c",
    "1Mu6c 1Mg73 1N18pc 1Muam 1N18lq 1N18kg 1Mucf 1Mufb 1Mg9f 1Mui0 1Muia 1Muif 1N17v0 1M4ml7",
    "2Mune 1Mgg2 1N17dm 1Muu6 1Muu9 1Mgh7 1N1775 1Mv6i 1Mgl0 1Mv78 1Mv73 1Mv80 1N16f5 1Mvb3 1Mgo1",
    "1Mve7 1Mvg2 1Mvi5 1Mgpk 1N15qa 1N15pc 1Mgqp 1N15ks 1Mvrq 1N15hp 1Mvsl 1Mvvq 1N4ubl 1N1551",
    "1N152p 1N4u8t 1N14um 1N4u8f 1N1hh1 1Mgul 1N4u6g 1N4u40 1Mh0b 1N4u27 1Mmll 1N14f0 1N14ej",
    "1N1hfm 1N1hfe 1N4tsa 1N4ts8 1N4qff 1Mh3b 1N4tnu 1N4to5 1N4tnk 1Mklj 1N4tn2 1N4tn1 1N4tmo",
    "1N4tlg 1N13ir 1N4tlj 1N4tjs 1N4thn 1N4tfe 1N4tjp 1N4tf0 1N4tdn 1N4ta8 1N4tid 1N4ten 1N4tem",
    "1N4te7 1N13be 1N131q 1N136h 1Mh9b 1N4t5n 1N4t5m 1N4t4k 1N11f1 1N4t28 1N12k1 1Mhat 1Mhb1",
    "1N12fv 1N126v 1Mhbb 1N4sr3 1N4sqo 1N4sqe 1N4sqd 1N4soe 1N4spg 1N4slb 1N4smo 1N4si2 1N4skk",
    "1N4sii 1N4sho 1Mhen 1N4sev 1N4se0 1Mhfp 1N4sb3 1N4sb1 1N10qu 1N4s7f 1N4s79 1Mhhl 1N4s6f",
    "1Md5r 1N108t 1N1036 1Mhlu 1Mhm7 1N4rpf 1N4rn3 1N4ri7 1N4rbt 1Nv9b 1N4r99 1N4r8k 1N4r5r",
    "1N4r30 1Nul9 1N1sel 1N4r0f 1N4r0v 1N4qvc 1N1s7v 1N4qoa 1N4ql7 1Nt0e 1Nsvk 1N4qae 1N4q7i",
    "1N4q6j 1Nsln 1N4q6b 1N4ptf 1N4poh 2N4pre 1N4pfi 1N4pen 1Nrfj 1N4p33 1Micl 1N4p1p 1Nr3q 1Mif6",
    "1N4opg 1Mndi 1N4omi 1Nq5h 1Nput 1Mije 1Mijm 1N4ogq 1Npfh 1Mili 1Npb7 1M160b 2N4oen 1Np2b",
    "1N4o90 1Mipj 1N4o6r 1N4o2u 1N4o24 1N4o09 1Miue 1Nnmp 1N4nno 1N4neb 1N4n8f 1Mj6e 1Mj7d 1N4n58",
    "1Nma2 1Mj7o 1Nm8d 1Nm05 1Nls3 1N4mqq 1Mjam 1N4mou 1N4moq 1N4mok 1N4mob 1N4mo5 1N4mn1 1Nl0t",
    "1X 1f2V 4qbX 5V 89aX lj46I 7gX"]

/-- What a character becomes in a host name; none if it may not stand there. -/
def mapHostChar? (c : Char) : Option (List Char) :=
  let n := c.toNat
  match Run.find? n hostMapping with
  | none => none
  | some run =>
    match run.kind, run.values with
    | 'V', _ => some [c]
    | 'I', _ => some []
    | 'M', values => some (values.map Char.ofNat)
    | 'P', [offset] => some [Char.ofNat (n + offset)]
    | 'N', [offset] => some [Char.ofNat (n - offset)]
    | 'E', _ => if n % 2 = 0 then some [Char.ofNat (n + 1)] else some [c]
    | 'O', _ => if n % 2 = 1 then some [Char.ofNat (n + 1)] else some [c]
    | _, _ => none

end AssetCache.Unicode
