import Descent.Unicode.Table

/-!
# Grapheme cluster breaks

* `GraphemeBreak.runs`: where each run of characters of one kind begins
* `GraphemeBreak.names`: the spellings of each kind's name
* `GraphemeBreak.members` is the set of all code points of a kind, by its long name
-/

namespace Descent.GraphemeBreak

/-- The first code point of each run of one kind, by what it does at the ends of grapheme clusters. -/
def runs : List (Nat × String) := Table.runs
  "0,Control a,LF b,Control d,CR e,Control 20,Other 7f,Control a0,Other ad,Control ae,Other
  300,Extend 370,Other 483,Extend 48a,Other 591,Extend 5be,Other 5bf,Extend 5c0,Other 5c1,Extend
  5c3,Other 5c4,Extend 5c6,Other 5c7,Extend 5c8,Other 600,Prepend 606,Other 610,Extend 61b,Other
  61c,Control 61d,Other 64b,Extend 660,Other 670,Extend 671,Other 6d6,Extend 6dd,Prepend 6de,Other
  6df,Extend 6e5,Other 6e7,Extend 6e9,Other 6ea,Extend 6ee,Other 70f,Prepend 710,Other 711,Extend
  712,Other 730,Extend 74b,Other 7a6,Extend 7b1,Other 7eb,Extend 7f4,Other 7fd,Extend 7fe,Other
  816,Extend 81a,Other 81b,Extend 824,Other 825,Extend 828,Other 829,Extend 82e,Other 859,Extend
  85c,Other 890,Prepend 892,Other 897,Extend 8a0,Other 8ca,Extend 8e2,Prepend 8e3,Extend
  903,SpacingMark 904,Other 93a,Extend 93b,SpacingMark 93c,Extend 93d,Other 93e,SpacingMark
  941,Extend 949,SpacingMark 94d,Extend 94e,SpacingMark 950,Other 951,Extend 958,Other 962,Extend
  964,Other 981,Extend 982,SpacingMark 984,Other 9bc,Extend 9bd,Other 9be,Extend 9bf,SpacingMark
  9c1,Extend 9c5,Other 9c7,SpacingMark 9c9,Other 9cb,SpacingMark 9cd,Extend 9ce,Other 9d7,Extend
  9d8,Other 9e2,Extend 9e4,Other 9fe,Extend 9ff,Other a01,Extend a03,SpacingMark a04,Other
  a3c,Extend a3d,Other a3e,SpacingMark a41,Extend a43,Other a47,Extend a49,Other a4b,Extend
  a4e,Other a51,Extend a52,Other a70,Extend a72,Other a75,Extend a76,Other a81,Extend
  a83,SpacingMark a84,Other abc,Extend abd,Other abe,SpacingMark ac1,Extend ac6,Other ac7,Extend
  ac9,SpacingMark aca,Other acb,SpacingMark acd,Extend ace,Other ae2,Extend ae4,Other afa,Extend
  b00,Other b01,Extend b02,SpacingMark b04,Other b3c,Extend b3d,Other b3e,Extend b40,SpacingMark
  b41,Extend b45,Other b47,SpacingMark b49,Other b4b,SpacingMark b4d,Extend b4e,Other b55,Extend
  b58,Other b62,Extend b64,Other b82,Extend b83,Other bbe,Extend bbf,SpacingMark bc0,Extend
  bc1,SpacingMark bc3,Other bc6,SpacingMark bc9,Other bca,SpacingMark bcd,Extend bce,Other
  bd7,Extend bd8,Other c00,Extend c01,SpacingMark c04,Extend c05,Other c3c,Extend c3d,Other
  c3e,Extend c41,SpacingMark c45,Other c46,Extend c49,Other c4a,Extend c4e,Other c55,Extend
  c57,Other c62,Extend c64,Other c81,Extend c82,SpacingMark c84,Other cbc,Extend cbd,Other
  cbe,SpacingMark cbf,Extend cc1,SpacingMark cc2,Extend cc3,SpacingMark cc5,Other cc6,Extend
  cc9,Other cca,Extend cce,Other cd5,Extend cd7,Other ce2,Extend ce4,Other cf3,SpacingMark cf4,Other
  d00,Extend d02,SpacingMark d04,Other d3b,Extend d3d,Other d3e,Extend d3f,SpacingMark d41,Extend
  d45,Other d46,SpacingMark d49,Other d4a,SpacingMark d4d,Extend d4e,Prepend d4f,Other d57,Extend
  d58,Other d62,Extend d64,Other d81,Extend d82,SpacingMark d84,Other dca,Extend dcb,Other
  dcf,Extend dd0,SpacingMark dd2,Extend dd5,Other dd6,Extend dd7,Other dd8,SpacingMark ddf,Extend
  de0,Other df2,SpacingMark df4,Other e31,Extend e32,Other e33,SpacingMark e34,Extend e3b,Other
  e47,Extend e4f,Other eb1,Extend eb2,Other eb3,SpacingMark eb4,Extend ebd,Other ec8,Extend
  ecf,Other f18,Extend f1a,Other f35,Extend f36,Other f37,Extend f38,Other f39,Extend f3a,Other
  f3e,SpacingMark f40,Other f71,Extend f7f,SpacingMark f80,Extend f85,Other f86,Extend f88,Other
  f8d,Extend f98,Other f99,Extend fbd,Other fc6,Extend fc7,Other 102d,Extend 1031,SpacingMark
  1032,Extend 1038,Other 1039,Extend 103b,SpacingMark 103d,Extend 103f,Other 1056,SpacingMark
  1058,Extend 105a,Other 105e,Extend 1061,Other 1071,Extend 1075,Other 1082,Extend 1083,Other
  1084,SpacingMark 1085,Extend 1087,Other 108d,Extend 108e,Other 109d,Extend 109e,Other 1100,L
  1160,V 11a8,T 1200,Other 135d,Extend 1360,Other 1712,Extend 1716,Other 1732,Extend 1735,Other
  1752,Extend 1754,Other 1772,Extend 1774,Other 17b4,Extend 17b6,SpacingMark 17b7,Extend
  17be,SpacingMark 17c6,Extend 17c7,SpacingMark 17c9,Extend 17d4,Other 17dd,Extend 17de,Other
  180b,Extend 180e,Control 180f,Extend 1810,Other 1885,Extend 1887,Other 18a9,Extend 18aa,Other
  1920,Extend 1923,SpacingMark 1927,Extend 1929,SpacingMark 192c,Other 1930,SpacingMark 1932,Extend
  1933,SpacingMark 1939,Extend 193c,Other 1a17,Extend 1a19,SpacingMark 1a1b,Extend 1a1c,Other
  1a55,SpacingMark 1a56,Extend 1a57,SpacingMark 1a58,Extend 1a5f,Other 1a60,Extend 1a61,Other
  1a62,Extend 1a63,Other 1a65,Extend 1a6d,SpacingMark 1a73,Extend 1a7d,Other 1a7f,Extend 1a80,Other
  1ab0,Extend 1acf,Other 1b00,Extend 1b04,SpacingMark 1b05,Other 1b34,Extend 1b3e,SpacingMark
  1b42,Extend 1b45,Other 1b6b,Extend 1b74,Other 1b80,Extend 1b82,SpacingMark 1b83,Other
  1ba1,SpacingMark 1ba2,Extend 1ba6,SpacingMark 1ba8,Extend 1bae,Other 1be6,Extend 1be7,SpacingMark
  1be8,Extend 1bea,SpacingMark 1bed,Extend 1bee,SpacingMark 1bef,Extend 1bf4,Other 1c24,SpacingMark
  1c2c,Extend 1c34,SpacingMark 1c36,Extend 1c38,Other 1cd0,Extend 1cd3,Other 1cd4,Extend
  1ce1,SpacingMark 1ce2,Extend 1ce9,Other 1ced,Extend 1cee,Other 1cf4,Extend 1cf5,Other
  1cf7,SpacingMark 1cf8,Extend 1cfa,Other 1dc0,Extend 1e00,Other 200b,Control 200c,Extend 200d,ZWJ
  200e,Control 2010,Other 2028,Control 202f,Other 2060,Control 2070,Other 20d0,Extend 20f1,Other
  2cef,Extend 2cf2,Other 2d7f,Extend 2d80,Other 2de0,Extend 2e00,Other 302a,Extend 3030,Other
  3099,Extend 309b,Other a66f,Extend a673,Other a674,Extend a67e,Other a69e,Extend a6a0,Other
  a6f0,Extend a6f2,Other a802,Extend a803,Other a806,Extend a807,Other a80b,Extend a80c,Other
  a823,SpacingMark a825,Extend a827,SpacingMark a828,Other a82c,Extend a82d,Other a880,SpacingMark
  a882,Other a8b4,SpacingMark a8c4,Extend a8c6,Other a8e0,Extend a8f2,Other a8ff,Extend a900,Other
  a926,Extend a92e,Other a947,Extend a952,SpacingMark a953,Extend a954,Other a960,L a97d,Other
  a980,Extend a983,SpacingMark a984,Other a9b3,Extend a9b4,SpacingMark a9b6,Extend a9ba,SpacingMark
  a9bc,Extend a9be,SpacingMark a9c0,Extend a9c1,Other a9e5,Extend a9e6,Other aa29,Extend
  aa2f,SpacingMark aa31,Extend aa33,SpacingMark aa35,Extend aa37,Other aa43,Extend aa44,Other
  aa4c,Extend aa4d,SpacingMark aa4e,Other aa7c,Extend aa7d,Other aab0,Extend aab1,Other aab2,Extend
  aab5,Other aab7,Extend aab9,Other aabe,Extend aac0,Other aac1,Extend aac2,Other aaeb,SpacingMark
  aaec,Extend aaee,SpacingMark aaf0,Other aaf5,SpacingMark aaf6,Extend aaf7,Other abe3,SpacingMark
  abe5,Extend abe6,SpacingMark abe8,Extend abe9,SpacingMark abeb,Other abec,SpacingMark abed,Extend
  abee,Other ac00,LV ac01,LVT ac1c,LV ac1d,LVT ac38,LV ac39,LVT ac54,LV ac55,LVT ac70,LV ac71,LVT
  ac8c,LV ac8d,LVT aca8,LV aca9,LVT acc4,LV acc5,LVT ace0,LV ace1,LVT acfc,LV acfd,LVT ad18,LV
  ad19,LVT ad34,LV ad35,LVT ad50,LV ad51,LVT ad6c,LV ad6d,LVT ad88,LV ad89,LVT ada4,LV ada5,LVT
  adc0,LV adc1,LVT addc,LV addd,LVT adf8,LV adf9,LVT ae14,LV ae15,LVT ae30,LV ae31,LVT ae4c,LV
  ae4d,LVT ae68,LV ae69,LVT ae84,LV ae85,LVT aea0,LV aea1,LVT aebc,LV aebd,LVT aed8,LV aed9,LVT
  aef4,LV aef5,LVT af10,LV af11,LVT af2c,LV af2d,LVT af48,LV af49,LVT af64,LV af65,LVT af80,LV
  af81,LVT af9c,LV af9d,LVT afb8,LV afb9,LVT afd4,LV afd5,LVT aff0,LV aff1,LVT b00c,LV b00d,LVT
  b028,LV b029,LVT b044,LV b045,LVT b060,LV b061,LVT b07c,LV b07d,LVT b098,LV b099,LVT b0b4,LV
  b0b5,LVT b0d0,LV b0d1,LVT b0ec,LV b0ed,LVT b108,LV b109,LVT b124,LV b125,LVT b140,LV b141,LVT
  b15c,LV b15d,LVT b178,LV b179,LVT b194,LV b195,LVT b1b0,LV b1b1,LVT b1cc,LV b1cd,LVT b1e8,LV
  b1e9,LVT b204,LV b205,LVT b220,LV b221,LVT b23c,LV b23d,LVT b258,LV b259,LVT b274,LV b275,LVT
  b290,LV b291,LVT b2ac,LV b2ad,LVT b2c8,LV b2c9,LVT b2e4,LV b2e5,LVT b300,LV b301,LVT b31c,LV
  b31d,LVT b338,LV b339,LVT b354,LV b355,LVT b370,LV b371,LVT b38c,LV b38d,LVT b3a8,LV b3a9,LVT
  b3c4,LV b3c5,LVT b3e0,LV b3e1,LVT b3fc,LV b3fd,LVT b418,LV b419,LVT b434,LV b435,LVT b450,LV
  b451,LVT b46c,LV b46d,LVT b488,LV b489,LVT b4a4,LV b4a5,LVT b4c0,LV b4c1,LVT b4dc,LV b4dd,LVT
  b4f8,LV b4f9,LVT b514,LV b515,LVT b530,LV b531,LVT b54c,LV b54d,LVT b568,LV b569,LVT b584,LV
  b585,LVT b5a0,LV b5a1,LVT b5bc,LV b5bd,LVT b5d8,LV b5d9,LVT b5f4,LV b5f5,LVT b610,LV b611,LVT
  b62c,LV b62d,LVT b648,LV b649,LVT b664,LV b665,LVT b680,LV b681,LVT b69c,LV b69d,LVT b6b8,LV
  b6b9,LVT b6d4,LV b6d5,LVT b6f0,LV b6f1,LVT b70c,LV b70d,LVT b728,LV b729,LVT b744,LV b745,LVT
  b760,LV b761,LVT b77c,LV b77d,LVT b798,LV b799,LVT b7b4,LV b7b5,LVT b7d0,LV b7d1,LVT b7ec,LV
  b7ed,LVT b808,LV b809,LVT b824,LV b825,LVT b840,LV b841,LVT b85c,LV b85d,LVT b878,LV b879,LVT
  b894,LV b895,LVT b8b0,LV b8b1,LVT b8cc,LV b8cd,LVT b8e8,LV b8e9,LVT b904,LV b905,LVT b920,LV
  b921,LVT b93c,LV b93d,LVT b958,LV b959,LVT b974,LV b975,LVT b990,LV b991,LVT b9ac,LV b9ad,LVT
  b9c8,LV b9c9,LVT b9e4,LV b9e5,LVT ba00,LV ba01,LVT ba1c,LV ba1d,LVT ba38,LV ba39,LVT ba54,LV
  ba55,LVT ba70,LV ba71,LVT ba8c,LV ba8d,LVT baa8,LV baa9,LVT bac4,LV bac5,LVT bae0,LV bae1,LVT
  bafc,LV bafd,LVT bb18,LV bb19,LVT bb34,LV bb35,LVT bb50,LV bb51,LVT bb6c,LV bb6d,LVT bb88,LV
  bb89,LVT bba4,LV bba5,LVT bbc0,LV bbc1,LVT bbdc,LV bbdd,LVT bbf8,LV bbf9,LVT bc14,LV bc15,LVT
  bc30,LV bc31,LVT bc4c,LV bc4d,LVT bc68,LV bc69,LVT bc84,LV bc85,LVT bca0,LV bca1,LVT bcbc,LV
  bcbd,LVT bcd8,LV bcd9,LVT bcf4,LV bcf5,LVT bd10,LV bd11,LVT bd2c,LV bd2d,LVT bd48,LV bd49,LVT
  bd64,LV bd65,LVT bd80,LV bd81,LVT bd9c,LV bd9d,LVT bdb8,LV bdb9,LVT bdd4,LV bdd5,LVT bdf0,LV
  bdf1,LVT be0c,LV be0d,LVT be28,LV be29,LVT be44,LV be45,LVT be60,LV be61,LVT be7c,LV be7d,LVT
  be98,LV be99,LVT beb4,LV beb5,LVT bed0,LV bed1,LVT beec,LV beed,LVT bf08,LV bf09,LVT bf24,LV
  bf25,LVT bf40,LV bf41,LVT bf5c,LV bf5d,LVT bf78,LV bf79,LVT bf94,LV bf95,LVT bfb0,LV bfb1,LVT
  bfcc,LV bfcd,LVT bfe8,LV bfe9,LVT c004,LV c005,LVT c020,LV c021,LVT c03c,LV c03d,LVT c058,LV
  c059,LVT c074,LV c075,LVT c090,LV c091,LVT c0ac,LV c0ad,LVT c0c8,LV c0c9,LVT c0e4,LV c0e5,LVT
  c100,LV c101,LVT c11c,LV c11d,LVT c138,LV c139,LVT c154,LV c155,LVT c170,LV c171,LVT c18c,LV
  c18d,LVT c1a8,LV c1a9,LVT c1c4,LV c1c5,LVT c1e0,LV c1e1,LVT c1fc,LV c1fd,LVT c218,LV c219,LVT
  c234,LV c235,LVT c250,LV c251,LVT c26c,LV c26d,LVT c288,LV c289,LVT c2a4,LV c2a5,LVT c2c0,LV
  c2c1,LVT c2dc,LV c2dd,LVT c2f8,LV c2f9,LVT c314,LV c315,LVT c330,LV c331,LVT c34c,LV c34d,LVT
  c368,LV c369,LVT c384,LV c385,LVT c3a0,LV c3a1,LVT c3bc,LV c3bd,LVT c3d8,LV c3d9,LVT c3f4,LV
  c3f5,LVT c410,LV c411,LVT c42c,LV c42d,LVT c448,LV c449,LVT c464,LV c465,LVT c480,LV c481,LVT
  c49c,LV c49d,LVT c4b8,LV c4b9,LVT c4d4,LV c4d5,LVT c4f0,LV c4f1,LVT c50c,LV c50d,LVT c528,LV
  c529,LVT c544,LV c545,LVT c560,LV c561,LVT c57c,LV c57d,LVT c598,LV c599,LVT c5b4,LV c5b5,LVT
  c5d0,LV c5d1,LVT c5ec,LV c5ed,LVT c608,LV c609,LVT c624,LV c625,LVT c640,LV c641,LVT c65c,LV
  c65d,LVT c678,LV c679,LVT c694,LV c695,LVT c6b0,LV c6b1,LVT c6cc,LV c6cd,LVT c6e8,LV c6e9,LVT
  c704,LV c705,LVT c720,LV c721,LVT c73c,LV c73d,LVT c758,LV c759,LVT c774,LV c775,LVT c790,LV
  c791,LVT c7ac,LV c7ad,LVT c7c8,LV c7c9,LVT c7e4,LV c7e5,LVT c800,LV c801,LVT c81c,LV c81d,LVT
  c838,LV c839,LVT c854,LV c855,LVT c870,LV c871,LVT c88c,LV c88d,LVT c8a8,LV c8a9,LVT c8c4,LV
  c8c5,LVT c8e0,LV c8e1,LVT c8fc,LV c8fd,LVT c918,LV c919,LVT c934,LV c935,LVT c950,LV c951,LVT
  c96c,LV c96d,LVT c988,LV c989,LVT c9a4,LV c9a5,LVT c9c0,LV c9c1,LVT c9dc,LV c9dd,LVT c9f8,LV
  c9f9,LVT ca14,LV ca15,LVT ca30,LV ca31,LVT ca4c,LV ca4d,LVT ca68,LV ca69,LVT ca84,LV ca85,LVT
  caa0,LV caa1,LVT cabc,LV cabd,LVT cad8,LV cad9,LVT caf4,LV caf5,LVT cb10,LV cb11,LVT cb2c,LV
  cb2d,LVT cb48,LV cb49,LVT cb64,LV cb65,LVT cb80,LV cb81,LVT cb9c,LV cb9d,LVT cbb8,LV cbb9,LVT
  cbd4,LV cbd5,LVT cbf0,LV cbf1,LVT cc0c,LV cc0d,LVT cc28,LV cc29,LVT cc44,LV cc45,LVT cc60,LV
  cc61,LVT cc7c,LV cc7d,LVT cc98,LV cc99,LVT ccb4,LV ccb5,LVT ccd0,LV ccd1,LVT ccec,LV cced,LVT
  cd08,LV cd09,LVT cd24,LV cd25,LVT cd40,LV cd41,LVT cd5c,LV cd5d,LVT cd78,LV cd79,LVT cd94,LV
  cd95,LVT cdb0,LV cdb1,LVT cdcc,LV cdcd,LVT cde8,LV cde9,LVT ce04,LV ce05,LVT ce20,LV ce21,LVT
  ce3c,LV ce3d,LVT ce58,LV ce59,LVT ce74,LV ce75,LVT ce90,LV ce91,LVT ceac,LV cead,LVT cec8,LV
  cec9,LVT cee4,LV cee5,LVT cf00,LV cf01,LVT cf1c,LV cf1d,LVT cf38,LV cf39,LVT cf54,LV cf55,LVT
  cf70,LV cf71,LVT cf8c,LV cf8d,LVT cfa8,LV cfa9,LVT cfc4,LV cfc5,LVT cfe0,LV cfe1,LVT cffc,LV
  cffd,LVT d018,LV d019,LVT d034,LV d035,LVT d050,LV d051,LVT d06c,LV d06d,LVT d088,LV d089,LVT
  d0a4,LV d0a5,LVT d0c0,LV d0c1,LVT d0dc,LV d0dd,LVT d0f8,LV d0f9,LVT d114,LV d115,LVT d130,LV
  d131,LVT d14c,LV d14d,LVT d168,LV d169,LVT d184,LV d185,LVT d1a0,LV d1a1,LVT d1bc,LV d1bd,LVT
  d1d8,LV d1d9,LVT d1f4,LV d1f5,LVT d210,LV d211,LVT d22c,LV d22d,LVT d248,LV d249,LVT d264,LV
  d265,LVT d280,LV d281,LVT d29c,LV d29d,LVT d2b8,LV d2b9,LVT d2d4,LV d2d5,LVT d2f0,LV d2f1,LVT
  d30c,LV d30d,LVT d328,LV d329,LVT d344,LV d345,LVT d360,LV d361,LVT d37c,LV d37d,LVT d398,LV
  d399,LVT d3b4,LV d3b5,LVT d3d0,LV d3d1,LVT d3ec,LV d3ed,LVT d408,LV d409,LVT d424,LV d425,LVT
  d440,LV d441,LVT d45c,LV d45d,LVT d478,LV d479,LVT d494,LV d495,LVT d4b0,LV d4b1,LVT d4cc,LV
  d4cd,LVT d4e8,LV d4e9,LVT d504,LV d505,LVT d520,LV d521,LVT d53c,LV d53d,LVT d558,LV d559,LVT
  d574,LV d575,LVT d590,LV d591,LVT d5ac,LV d5ad,LVT d5c8,LV d5c9,LVT d5e4,LV d5e5,LVT d600,LV
  d601,LVT d61c,LV d61d,LVT d638,LV d639,LVT d654,LV d655,LVT d670,LV d671,LVT d68c,LV d68d,LVT
  d6a8,LV d6a9,LVT d6c4,LV d6c5,LVT d6e0,LV d6e1,LVT d6fc,LV d6fd,LVT d718,LV d719,LVT d734,LV
  d735,LVT d750,LV d751,LVT d76c,LV d76d,LVT d788,LV d789,LVT d7a4,Other d7b0,V d7c7,Other d7cb,T
  d7fc,Other fb1e,Extend fb1f,Other fe00,Extend fe10,Other fe20,Extend fe30,Other feff,Control
  ff00,Other ff9e,Extend ffa0,Other fff0,Control fffc,Other 101fd,Extend 101fe,Other 102e0,Extend
  102e1,Other 10376,Extend 1037b,Other 10a01,Extend 10a04,Other 10a05,Extend 10a07,Other
  10a0c,Extend 10a10,Other 10a38,Extend 10a3b,Other 10a3f,Extend 10a40,Other 10ae5,Extend
  10ae7,Other 10d24,Extend 10d28,Other 10d69,Extend 10d6e,Other 10eab,Extend 10ead,Other
  10efc,Extend 10f00,Other 10f46,Extend 10f51,Other 10f82,Extend 10f86,Other 11000,SpacingMark
  11001,Extend 11002,SpacingMark 11003,Other 11038,Extend 11047,Other 11070,Extend 11071,Other
  11073,Extend 11075,Other 1107f,Extend 11082,SpacingMark 11083,Other 110b0,SpacingMark 110b3,Extend
  110b7,SpacingMark 110b9,Extend 110bb,Other 110bd,Prepend 110be,Other 110c2,Extend 110c3,Other
  110cd,Prepend 110ce,Other 11100,Extend 11103,Other 11127,Extend 1112c,SpacingMark 1112d,Extend
  11135,Other 11145,SpacingMark 11147,Other 11173,Extend 11174,Other 11180,Extend 11182,SpacingMark
  11183,Other 111b3,SpacingMark 111b6,Extend 111bf,SpacingMark 111c0,Extend 111c1,Other
  111c2,Prepend 111c4,Other 111c9,Extend 111cd,Other 111ce,SpacingMark 111cf,Extend 111d0,Other
  1122c,SpacingMark 1122f,Extend 11232,SpacingMark 11234,Extend 11238,Other 1123e,Extend 1123f,Other
  11241,Extend 11242,Other 112df,Extend 112e0,SpacingMark 112e3,Extend 112eb,Other 11300,Extend
  11302,SpacingMark 11304,Other 1133b,Extend 1133d,Other 1133e,Extend 1133f,SpacingMark 11340,Extend
  11341,SpacingMark 11345,Other 11347,SpacingMark 11349,Other 1134b,SpacingMark 1134d,Extend
  1134e,Other 11357,Extend 11358,Other 11362,SpacingMark 11364,Other 11366,Extend 1136d,Other
  11370,Extend 11375,Other 113b8,Extend 113b9,SpacingMark 113bb,Extend 113c1,Other 113c2,Extend
  113c3,Other 113c5,Extend 113c6,Other 113c7,Extend 113ca,SpacingMark 113cb,Other 113cc,SpacingMark
  113ce,Extend 113d1,Prepend 113d2,Extend 113d3,Other 113e1,Extend 113e3,Other 11435,SpacingMark
  11438,Extend 11440,SpacingMark 11442,Extend 11445,SpacingMark 11446,Extend 11447,Other
  1145e,Extend 1145f,Other 114b0,Extend 114b1,SpacingMark 114b3,Extend 114b9,SpacingMark
  114ba,Extend 114bb,SpacingMark 114bd,Extend 114be,SpacingMark 114bf,Extend 114c1,SpacingMark
  114c2,Extend 114c4,Other 115af,Extend 115b0,SpacingMark 115b2,Extend 115b6,Other 115b8,SpacingMark
  115bc,Extend 115be,SpacingMark 115bf,Extend 115c1,Other 115dc,Extend 115de,Other 11630,SpacingMark
  11633,Extend 1163b,SpacingMark 1163d,Extend 1163e,SpacingMark 1163f,Extend 11641,Other
  116ab,Extend 116ac,SpacingMark 116ad,Extend 116ae,SpacingMark 116b0,Extend 116b8,Other
  1171d,Extend 1171e,SpacingMark 1171f,Extend 11720,Other 11722,Extend 11726,SpacingMark
  11727,Extend 1172c,Other 1182c,SpacingMark 1182f,Extend 11838,SpacingMark 11839,Extend 1183b,Other
  11930,Extend 11931,SpacingMark 11936,Other 11937,SpacingMark 11939,Other 1193b,Extend
  1193f,Prepend 11940,SpacingMark 11941,Prepend 11942,SpacingMark 11943,Extend 11944,Other
  119d1,SpacingMark 119d4,Extend 119d8,Other 119da,Extend 119dc,SpacingMark 119e0,Extend 119e1,Other
  119e4,SpacingMark 119e5,Other 11a01,Extend 11a0b,Other 11a33,Extend 11a39,SpacingMark 11a3a,Other
  11a3b,Extend 11a3f,Other 11a47,Extend 11a48,Other 11a51,Extend 11a57,SpacingMark 11a59,Extend
  11a5c,Other 11a84,Prepend 11a8a,Extend 11a97,SpacingMark 11a98,Extend 11a9a,Other
  11c2f,SpacingMark 11c30,Extend 11c37,Other 11c38,Extend 11c3e,SpacingMark 11c3f,Extend 11c40,Other
  11c92,Extend 11ca8,Other 11ca9,SpacingMark 11caa,Extend 11cb1,SpacingMark 11cb2,Extend
  11cb4,SpacingMark 11cb5,Extend 11cb7,Other 11d31,Extend 11d37,Other 11d3a,Extend 11d3b,Other
  11d3c,Extend 11d3e,Other 11d3f,Extend 11d46,Prepend 11d47,Extend 11d48,Other 11d8a,SpacingMark
  11d8f,Other 11d90,Extend 11d92,Other 11d93,SpacingMark 11d95,Extend 11d96,SpacingMark 11d97,Extend
  11d98,Other 11ef3,Extend 11ef5,SpacingMark 11ef7,Other 11f00,Extend 11f02,Prepend
  11f03,SpacingMark 11f04,Other 11f34,SpacingMark 11f36,Extend 11f3b,Other 11f3e,SpacingMark
  11f40,Extend 11f43,Other 11f5a,Extend 11f5b,Other 13430,Control 13440,Extend 13441,Other
  13447,Extend 13456,Other 1611e,Extend 1612a,SpacingMark 1612d,Extend 16130,Other 16af0,Extend
  16af5,Other 16b30,Extend 16b37,Other 16d63,V 16d64,Other 16d67,V 16d6b,Other 16f4f,Extend
  16f50,Other 16f51,SpacingMark 16f88,Other 16f8f,Extend 16f93,Other 16fe4,Extend 16fe5,Other
  16ff0,Extend 16ff2,Other 1bc9d,Extend 1bc9f,Other 1bca0,Control 1bca4,Other 1cf00,Extend
  1cf2e,Other 1cf30,Extend 1cf47,Other 1d165,Extend 1d16a,Other 1d16d,Extend 1d173,Control
  1d17b,Extend 1d183,Other 1d185,Extend 1d18c,Other 1d1aa,Extend 1d1ae,Other 1d242,Extend
  1d245,Other 1da00,Extend 1da37,Other 1da3b,Extend 1da6d,Other 1da75,Extend 1da76,Other
  1da84,Extend 1da85,Other 1da9b,Extend 1daa0,Other 1daa1,Extend 1dab0,Other 1e000,Extend
  1e007,Other 1e008,Extend 1e019,Other 1e01b,Extend 1e022,Other 1e023,Extend 1e025,Other
  1e026,Extend 1e02b,Other 1e08f,Extend 1e090,Other 1e130,Extend 1e137,Other 1e2ae,Extend
  1e2af,Other 1e2ec,Extend 1e2f0,Other 1e4ec,Extend 1e4f0,Other 1e5ee,Extend 1e5f0,Other
  1e8d0,Extend 1e8d7,Other 1e944,Extend 1e94b,Other 1f1e6,Regional_Indicator 1f200,Other
  1f3fb,Extend 1f400,Other e0000,Control e0020,Extend e0080,Control e0100,Extend e01f0,Control
  e1000,Other"

/-- Each spelling of a kind's name with the long name. The kind of all other code points has no name here. -/
def names : List (String × String) := Table.spellings
  "CN:Control Control:Control CR:CR EX:Extend Extend:Extend L:L LF:LF LV:LV LVT:LVT T:T V:V
  SM:SpacingMark SpacingMark:SpacingMark PP:Prepend Prepend:Prepend RI:Regional_Indicator
  Regional_Indicator:Regional_Indicator ZWJ:ZWJ"

def members (name : String) : CodeSet := Table.members runs (· = name)

end Descent.GraphemeBreak
