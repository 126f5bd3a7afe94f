import AssetCache.Unicode.Run

/-!
# Composed characters

Each composed character with the two characters that it stands for. The syllables
of Hangul are not listed: they are composed by arithmetic.
-/

set_option autoImplicit false

namespace AssetCache.Unicode

/-- The composed characters with their parts. -/
def compositions : List Run :=
  Run.table [
    "60C21,o0 1C21,o1 1C21,o2 1C21,o3 1C21,o8 1C21,oa 2C23,p7 1C25,o0 1C25,o1 1C25,o2 1C25,o8",
    "1C29,o0 1C29,o1 1C29,o2 1C29,o8 2C2e,o3 1C2f,o0 1C2f,o1 1C2f,o2 1C2f,o3 1C2f,o8 3C2l,o0",
    "1C2l,o1 1C2l,o2 1C2l,o8 1C2p,o1 3C31,o0 1C31,o1 1C31,o2 1C31,o3 1C31,o8 1C31,oa 2C33,p7",
    "1C35,o0 1C35,o1 1C35,o2 1C35,o8 1C39,o0 1C39,o1 1C39,o2 1C39,o8 2C3e,o3 1C3f,o0 1C3f,o1",
    "1C3f,o2 1C3f,o3 1C3f,o8 3C3l,o0 1C3l,o1 1C3l,o2 1C3l,o8 1C3p,o1 2C3p,o8 1C21,o4 1C31,o4",
    "1C21,o6 1C31,o6 1C21,p8 1C31,p8 1C23,o1 1C33,o1 1C23,o2 1C33,o2 1C23,o7 1C33,o7 1C23,oc",
    "1C33,oc 1C24,oc 1C34,oc 3C25,o4 1C35,o4 1C25,o6 1C35,o6 1C25,o7 1C35,o7 1C25,p8 1C35,p8",
    "1C25,oc 1C35,oc 1C27,o2 1C37,o2 1C27,o6 1C37,o6 1C27,o7 1C37,o7 1C27,p7 1C37,p7 1C28,o2",
    "1C38,o2 3C29,o3 1C39,o3 1C29,o4 1C39,o4 1C29,o6 1C39,o6 1C29,p8 1C39,p8 1C29,o7 4C2a,o2",
    "1C3a,o2 1C2b,p7 1C3b,p7 2C2c,o1 1C3c,o1 1C2c,p7 1C3c,p7 1C2c,oc 1C3c,oc 5C2e,o1 1C3e,o1",
    "1C2e,p7 1C3e,p7 1C2e,oc 1C3e,oc 4C2f,o4 1C3f,o4 1C2f,o6 1C3f,o6 1C2f,ob 1C3f,ob 3C2i,o1",
    "1C3i,o1 1C2i,p7 1C3i,p7 1C2i,oc 1C3i,oc 1C2j,o1 1C3j,o1 1C2j,o2 1C3j,o2 1C2j,p7 1C3j,p7",
    "1C2j,oc 1C3j,oc 1C2k,p7 1C3k,p7 1C2k,oc 1C3k,oc 3C2l,o3 1C3l,o3 1C2l,o4 1C3l,o4 1C2l,o6",
    "1C3l,o6 1C2l,oa 1C3l,oa 1C2l,ob 1C3l,ob 1C2l,p8 1C3l,p8 1C2n,o2 1C3n,o2 1C2p,o2 1C3p,o2",
    "1C2p,o8 1C2q,o1 1C3q,o1 1C2q,o7 1C3q,o7 1C2q,oc 1C3q,oc 12C2f,or 1C3f,or eC2l,or 1C3l,or",
    "tC21,oc 1C31,oc 1C29,oc 1C39,oc 1C2f,oc 1C3f,oc 1C2l,oc 1C3l,oc 1C6s,o4 1C7s,o4 1C6s,o1",
    "1C7s,o1 1C6s,oc 1C7s,oc 1C6s,o0 1C7s,o0 2C64,o4 1C74,o4 1Ch6,o4 1Ch7,o4 1C66,o4 1C76,o4",
    "3C27,oc 1C37,oc 1C2b,oc 1C3b,oc 1C2f,p8 1C3f,p8 1Cfa,o4 1Cfb,o4 1Cdn,oc 1Cki,oc 1C3a,oc",
    "4C27,o1 1C37,o1 3C2e,o0 1C3e,o0 1C65,o1 1C75,o1 1C66,o1 1C76,o1 1C6o,o1 1C7o,o1 1C21,of",
    "1C31,of 1C21,oh 1C31,oh 1C25,of 1C35,of 1C25,oh 1C35,oh 1C29,of 1C39,of 1C29,oh 1C39,oh",
    "1C2f,of 1C3f,of 1C2f,oh 1C3f,oh 1C2i,of 1C3i,of 1C2i,oh 1C3i,oh 1C2l,of 1C3l,of 1C2l,oh",
    "1C3l,oh 1C2j,p6 1C3j,p6 1C2k,p6 1C3k,p6 3C28,oc 1C38,oc 7C21,o7 1C31,o7 1C25,p7 1C35,p7",
    "1C6m,o4 1C7m,o4 1C6l,o4 1C7l,o4 1C2f,o7 1C3f,o7 1Che,o4 1Chf,o4 1C2p,o4 1C3p,o4 aiC58,o1",
    "1Csh,o1 2Csl,o1 1Csn,o1 1Csp,o1 2Csv,o1 2Ct5,o1 1Ct9,o1 1Cua,o1 qCsp,o8 1Ct5,o8 1Cth,o1",
    "1Ctl,o1 1Ctn,o1 1Ctp,o1 1Cub,o1 qCtp,o8 1Cu5,o8 1Ctv,o1 1Cu5,o1 1Cu9,o1 5Cui,o1 1Cui,o8",
    "1cC10l,o0 1C10l,o8 2C10j,o1 4C106,o8 5C10q,o1 1C10o,o0 1C113,o6 bC10o,o6 10C11o,o6 nC11l,o0",
    "1C11l,o8 2C11j,o1 4C12m,o8 5C11q,o1 1C11o,o0 1C123,o6 oC13k,of 1C13l,of 2aC10m,o6 1C11m,o6",
    "eC10g,o6 1C11g,o6 1C10g,o8 1C11g,o8 3C10l,o6 1C11l,o6 3C16o,o8 1C16p,o8 1C10m,o8 1C11m,o8",
    "1C10n,o8 1C11n,o8 3C10o,o4 1C11o,o4 1C10o,o8 1C11o,o8 1C10u,o8 1C11u,o8 3C178,o8 1C179,o8",
    "1C11d,o8 1C12d,o8 1C113,o4 1C123,o4 1C113,o8 1C123,o8 1C113,ob 1C123,ob 1C117,o8 1C127,o8",
    "3C11b,o8 1C12b,o8 99C1h7,1ij 1C1h7,1ik 1C1i8,1ik 1C1h7,1il 1C1ia,1ik 4qC1ml,1ik 2C1m1,1ik",
    "hC1mi,1ik imC298,29s 8C29g,29s 3C29j,29s 4nC2e7,2du 1C2e7,2en bsC2q7,2qm 3C2q7,2pu 1C2q7,2qn",
    "28C2si,2un 1mC2u6,2tu 1C2u7,2tu 1C2u6,2un 3sC326,32m 3oC35v,36l 7C366,36l 1C366,36m",
    "2C366,362 1C36a,36l 3vC3a6,39u 1C3a7,39u 1C3a6,3an 4eC3ep,3ea 2C3ep,3ef 1C3es,3ea 1C3ep,3ev",
    "i8C415,41e 2n0C6o5,6pl 2C6o7,6pl 2C6o9,6pl 2C6ob,6pl 2C6od,6pl 4C6oh,6pl 19C6pq,6pl",
    "2C6ps,6pl 3C6pu,6pl 1C6pv,6pl 2C6q2,6pl ltC21,p5 1C31,p5 1C22,o7 1C32,o7 1C22,p3 1C32,p3",
    "1C22,ph 1C32,ph 1C67,o1 1C77,o1 1C24,o7 1C34,o7 1C24,p3 1C34,p3 1C24,ph 1C34,ph 1C24,p7",
    "1C34,p7 1C24,pd 1C34,pd 1C8i,o0 1C8j,o0 1C8i,o1 1C8j,o1 1C25,pd 1C35,pd 1C25,pg 1C35,pg",
    "1Ch8,o6 1Ch9,o6 1C26,o7 1C36,o7 1C27,o4 1C37,o4 1C28,o7 1C38,o7 1C28,p3 1C38,p3 1C28,o8",
    "1C38,o8 1C28,p7 1C38,p7 1C28,pe 1C38,pe 1C29,pg 1C39,pg 1C6f,o1 1C7f,o1 1C2b,o1 1C3b,o1",
    "1C2b,p3 1C3b,p3 1C2b,ph 1C3b,ph 1C2c,p3 1C3c,p3 1C7hm,o4 1C7hn,o4 1C2c,ph 1C3c,ph 1C2c,pd",
    "1C3c,pd 1C2d,o1 1C3d,o1 1C2d,o7 1C3d,o7 1C2d,p3 1C3d,p3 1C2e,o7 1C3e,o7 1C2e,p3 1C3e,p3",
    "1C2e,ph 1C3e,ph 1C2e,pd 1C3e,pd 1C6l,o1 1C7l,o1 1C6l,o8 1C7l,o8 1Cac,o0 1Cad,o0 1Cac,o1",
    "1Cad,o1 1C2g,o1 1C3g,o1 1C2g,o7 1C3g,o7 1C2i,o7 1C3i,o7 1C2i,p3 1C3i,p3 1C7iq,o4 1C7ir,o4",
    "1C2i,ph 1C3i,ph 1C2j,o7 1C3j,o7 1C2j,p3 1C3j,p3 1Caq,o7 1Car,o7 1Cb0,o7 1Cb1,o7 1C7j2,o7",
    "1C7j3,o7 1C2k,o7 1C3k,o7 1C2k,p3 1C3k,p3 1C2k,ph 1C3k,ph 1C2k,pd 1C3k,pd 1C2l,p4 1C3l,p4",
    "1C2l,pg 1C3l,pg 1C2l,pd 1C3l,pd 1Cb8,o1 1Cb9,o1 1Cba,o8 1Cbb,o8 1C2m,o3 1C3m,o3 1C2m,p3",
    "1C3m,p3 1C2n,o0 1C3n,o0 1C2n,o1 1C3n,o1 1C2n,o8 1C3n,o8 1C2n,o7 1C3n,o7 1C2n,p3 1C3n,p3",
    "1C2o,o7 1C3o,o7 1C2o,o8 1C3o,o8 1C2p,o7 1C3p,o7 1C2q,o2 1C3q,o2 1C2q,p3 1C3q,p3 1C2q,ph",
    "1C3q,ph 1C38,ph 1C3k,o8 1C3n,oa 1C3p,oa 2Cbv,o7 5C21,p3 1C31,p3 1C21,o9 1C31,o9 1C62,o1",
    "1C72,o1 1C62,o0 1C72,o0 1C62,o9 1C72,o9 1C62,o3 1C72,o3 1C7l0,o2 1C7l1,o2 1C82,o1 1C83,o1",
    "1C82,o0 1C83,o0 1C82,o9 1C83,o9 1C82,o3 1C83,o3 1C7l0,o6 1C7l1,o6 1C25,p3 1C35,p3 1C25,o9",
    "1C35,o9 1C25,o3 1C35,o3 1C6a,o1 1C7a,o1 1C6a,o0 1C7a,o0 1C6a,o9 1C7a,o9 1C6a,o3 1C7a,o3",
    "1C7lo,o2 1C7lp,o2 1C29,o9 1C39,o9 1C29,p3 1C39,p3 1C2f,p3 1C3f,p3 1C2f,o9 1C3f,o9 1C6k,o1",
    "1C7k,o1 1C6k,o0 1C7k,o0 1C6k,o9 1C7k,o9 1C6k,o3 1C7k,o3 1C7mc,o2 1C7md,o2 1Cd0,o1 1Cd1,o1",
    "1Cd0,o0 1Cd1,o0 1Cd0,o9 1Cd1,o9 1Cd0,o3 1Cd1,o3 1Cd0,p3 1Cd1,p3 1C2l,p3 1C3l,p3 1C2l,o9",
    "1C3l,o9 1Cdf,o1 1Cdg,o1 1Cdf,o0 1Cdg,o0 1Cdf,o9 1Cdg,o9 1Cdf,o3 1Cdg,o3 1Cdf,p3 1Cdg,p3",
    "1C2p,o0 1C3p,o0 1C2p,p3 1C3p,p3 1C2p,o9 1C3p,o9 1C2p,o3 1C3p,o3 7Cth,oj 1Cth,ok 1C7o0,o0",
    "1C7o1,o0 1C7o0,o1 1C7o1,o1 1C7o0,q2 1C7o1,q2 1Csh,oj 1Csh,ok 1C7o8,o0 1C7o9,o0 1C7o8,o1",
    "1C7o9,o1 1C7o8,q2 1C7o9,q2 1Ctl,oj 1Ctl,ok 1C7og,o0 1C7oh,o0 1C7og,o1 1C7oh,o1 3Csl,oj",
    "1Csl,ok 1C7oo,o0 1C7op,o0 1C7oo,o1 1C7op,o1 3Ctn,oj 1Ctn,ok 1C7p0,o0 1C7p1,o0 1C7p0,o1",
    "1C7p1,o1 1C7p0,q2 1C7p1,q2 1Csn,oj 1Csn,ok 1C7p8,o0 1C7p9,o0 1C7p8,o1 1C7p9,o1 1C7p8,q2",
    "1C7p9,q2 1Ctp,oj 1Ctp,ok 1C7pg,o0 1C7ph,o0 1C7pg,o1 1C7ph,o1 1C7pg,q2 1C7ph,q2 1Csp,oj",
    "1Csp,ok 1C7po,o0 1C7pp,o0 1C7po,o1 1C7pp,o1 1C7po,q2 1C7pp,q2 1Ctv,oj 1Ctv,ok 1C7q0,o0",
    "1C7q1,o0 1C7q0,o1 1C7q1,o1 3Csv,oj 1Csv,ok 1C7q8,o0 1C7q9,o0 1C7q8,o1 1C7q9,o1 3Cu5,oj",
    "1Cu5,ok 1C7qg,o0 1C7qh,o0 1C7qg,o1 1C7qh,o1 1C7qg,q2 1C7qh,q2 2Ct5,ok 2C7qp,o0 2C7qp,o1",
    "2C7qp,q2 1Cu9,oj 1Cu9,ok 1C7r0,o0 1C7r1,o0 1C7r0,o1 1C7r1,o1 1C7r0,q2 1C7r1,q2 1Ct9,oj",
    "1Ct9,ok 1C7r8,o0 1C7r9,o0 1C7r8,o1 1C7r9,o1 1C7r8,q2 1C7r9,q2 1Cth,o0 2Ctl,o0 2Ctn,o0",
    "2Ctp,o0 2Ctv,o0 2Cu5,o0 2Cu9,o0 4C7o0,q5 1C7o1,q5 1C7o2,q5 1C7o3,q5 1C7o4,q5 1C7o5,q5",
    "1C7o6,q5 1C7o7,q5 1C7o8,q5 1C7o9,q5 1C7oa,q5 1C7ob,q5 1C7oc,q5 1C7od,q5 1C7oe,q5 1C7of,q5",
    "1C7p0,q5 1C7p1,q5 1C7p2,q5 1C7p3,q5 1C7p4,q5 1C7p5,q5 1C7p6,q5 1C7p7,q5 1C7p8,q5 1C7p9,q5",
    "1C7pa,q5 1C7pb,q5 1C7pc,q5 1C7pd,q5 1C7pe,q5 1C7pf,q5 1C7r0,q5 1C7r1,q5 1C7r2,q5 1C7r3,q5",
    "1C7r4,q5 1C7r5,q5 1C7r6,q5 1C7r7,q5 1C7r8,q5 1C7r9,q5 1C7ra,q5 1C7rb,q5 1C7rc,q5 1C7rd,q5",
    "1C7re,q5 1C7rf,q5 1Cth,o6 1Cth,o4 1C7rg,q5 1Cth,q5 1Ctc,q5 2Cth,q2 1C7tm,q5 1Csh,o6 1Csh,o4",
    "1Csh,o0 2Csh,q5 5C58,q2 1C7rk,q5 1Ctn,q5 1Cte,q5 2Ctn,q2 1C7u6,q5 1Csl,o0 2Csn,o0 2Csn,q5",
    "1C7tv,o0 1C7tv,o1 1C7tv,q2 1Ctp,o6 1Ctp,o4 1Cua,o0 4Ctp,q2 1Cua,q2 1Csp,o6 1Csp,o4 1Csp,o0",
    "3C7vu,o0 1C7vu,o1 1C7vu,q2 1Cu5,o6 1Cu5,o4 1Cub,o0 2Cu1,oj 1Cu1,ok 1Cu5,q2 1Cub,q2 1Ct5,o6",
    "1Ct5,o4 1Ct5,o0 2Ct1,ok 1C58,o0 5C7rs,q5 1Cu9,q5 1Cue,q5 2Cu9,q2 1C7vm,q5 1Csv,o0 2Ct9,o0",
    "2Ct9,q5 cuC8cg,po 1C8ci,po jC8ck,po vC8eg,po 1C8ek,po 1C8ei,po 1lC8g3,po 5C8g8,po 3C8gb,po",
    "oC8h3,po 2C8h5,po rC8hs,po 3C8i3,po 3C8i5,po 2C8i8,po nC1t,po 2C8j1,po bC8id,po 1C1s,po",
    "1C1u,po 1C8j4,po 1C8j5,po 3C8ji,po 1C8jj,po 3C8jm,po 1C8jn,po 7C8jq,po 1C8jr,po 3C8k2,po",
    "1C8k3,po 3C8k6,po 1C8k7,po 13C8l2,po 1C8l8,po 1C8l9,po 1C8lb,po 1hC8js,po 1C8jt,po 1C8kh,po",
    "1C8ki,po 7C8li,po 1C8lj,po 1C8lk,po 1C8ll,po 3avCc2b,c4p 2Cc2d,c4p 2Cc2f,c4p 2Cc2h,c4p",
    "2Cc2j,c4p 2Cc2l,c4p 2Cc2n,c4p 2Cc2p,c4p 2Cc2r,c4p 2Cc2t,c4p 2Cc2v,c4p 2Cc31,c4p 3Cc34,c4p",
    "2Cc36,c4p 2Cc38,c4p 7Cc3f,c4p 1Cc3f,c4q 2Cc3i,c4p 1Cc3i,c4q 2Cc3l,c4p 1Cc3l,c4q 2Cc3o,c4p",
    "1Cc3o,c4q 2Cc3r,c4p 1Cc3r,c4q nCc26,c4p aCc4t,c4p eCc5b,c4p 2Cc5d,c4p 2Cc5f,c4p 2Cc5h,c4p",
    "2Cc5j,c4p 2Cc5l,c4p 2Cc5n,c4p 2Cc5p,c4p 2Cc5r,c4p 2Cc5t,c4p 2Cc5v,c4p 2Cc61,c4p 3Cc64,c4p",
    "2Cc66,c4p 2Cc68,c4p 7Cc6f,c4p 1Cc6f,c4q 2Cc6i,c4p 1Cc6i,c4q 2Cc6l,c4p 1Cc6l,c4q 2Cc6o,c4p",
    "1Cc6o,c4q 2Cc6r,c4p 1Cc6r,c4q nCc56,c4p 3Cc7f,c4p 1Cc7g,c4p 1Cc7h,c4p 1Cc7i,c4p 4Cc7t,c4p",
    "1nssC244p,245q 2C244r,245q fC2455,245q 43C249h,2497 1C249i,2497 gsC24q7,24pu 1C24q7,24qn",
    "bfC255p,255q 1C255p,255g 2C255p,255t 7sC25do,25df 1C25dp,25df rtC269l,269g"]

end AssetCache.Unicode
