import Descent.Unicode.Table

/-!
# Word breaks

* `WordBreak.runs`: where each run of characters of one kind begins
* `WordBreak.names`: the spellings of each kind's name
* `WordBreak.members` is the set of all code points of a kind, by its long name
-/

namespace Descent.WordBreak

/-- The first code point of each run of one kind, by what it does at the ends of words. -/
def runs : List (Nat × String) := Table.runs
  "0,Other a,LF b,Newline d,CR e,Other 20,WSegSpace 21,Other 22,Double_Quote 23,Other 27,Single_Quote
  28,Other 2c,MidNum 2d,Other 2e,MidNumLet 2f,Other 30,Numeric 3a,MidLetter 3b,MidNum 3c,Other
  41,ALetter 5b,Other 5f,ExtendNumLet 60,Other 61,ALetter 7b,Other 85,Newline 86,Other aa,ALetter
  ab,Other ad,Format ae,Other b5,ALetter b6,Other b7,MidLetter b8,ALetter b9,Other ba,ALetter
  bb,Other c0,ALetter d7,Other d8,ALetter f7,Other f8,ALetter 2d8,Other 2de,ALetter 300,Extend
  370,ALetter 375,Other 376,ALetter 378,Other 37a,ALetter 37e,MidNum 37f,ALetter 380,Other
  386,ALetter 387,MidLetter 388,ALetter 38b,Other 38c,ALetter 38d,Other 38e,ALetter 3a2,Other
  3a3,ALetter 3f6,Other 3f7,ALetter 482,Other 483,Extend 48a,ALetter 530,Other 531,ALetter 557,Other
  559,ALetter 55d,Other 55e,ALetter 55f,MidLetter 560,ALetter 589,MidNum 58a,ALetter 58b,Other
  591,Extend 5be,Other 5bf,Extend 5c0,Other 5c1,Extend 5c3,Other 5c4,Extend 5c6,Other 5c7,Extend
  5c8,Other 5d0,Hebrew_Letter 5eb,Other 5ef,Hebrew_Letter 5f3,ALetter 5f4,MidLetter 5f5,Other
  600,Numeric 606,Other 60c,MidNum 60e,Other 610,Extend 61b,Other 61c,Format 61d,Other 620,ALetter
  64b,Extend 660,Numeric 66a,Other 66b,Numeric 66c,MidNum 66d,Other 66e,ALetter 670,Extend
  671,ALetter 6d4,Other 6d5,ALetter 6d6,Extend 6dd,Numeric 6de,Other 6df,Extend 6e5,ALetter
  6e7,Extend 6e9,Other 6ea,Extend 6ee,ALetter 6f0,Numeric 6fa,ALetter 6fd,Other 6ff,ALetter
  700,Other 70f,ALetter 711,Extend 712,ALetter 730,Extend 74b,Other 74d,ALetter 7a6,Extend
  7b1,ALetter 7b2,Other 7c0,Numeric 7ca,ALetter 7eb,Extend 7f4,ALetter 7f6,Other 7f8,MidNum
  7f9,Other 7fa,ALetter 7fb,Other 7fd,Extend 7fe,Other 800,ALetter 816,Extend 81a,ALetter 81b,Extend
  824,ALetter 825,Extend 828,ALetter 829,Extend 82e,Other 840,ALetter 859,Extend 85c,Other
  860,ALetter 86b,Other 870,ALetter 888,Other 889,ALetter 88f,Other 890,Numeric 892,Other 897,Extend
  8a0,ALetter 8ca,Extend 8e2,Numeric 8e3,Extend 904,ALetter 93a,Extend 93d,ALetter 93e,Extend
  950,ALetter 951,Extend 958,ALetter 962,Extend 964,Other 966,Numeric 970,Other 971,ALetter
  981,Extend 984,Other 985,ALetter 98d,Other 98f,ALetter 991,Other 993,ALetter 9a9,Other 9aa,ALetter
  9b1,Other 9b2,ALetter 9b3,Other 9b6,ALetter 9ba,Other 9bc,Extend 9bd,ALetter 9be,Extend 9c5,Other
  9c7,Extend 9c9,Other 9cb,Extend 9ce,ALetter 9cf,Other 9d7,Extend 9d8,Other 9dc,ALetter 9de,Other
  9df,ALetter 9e2,Extend 9e4,Other 9e6,Numeric 9f0,ALetter 9f2,Other 9fc,ALetter 9fd,Other
  9fe,Extend 9ff,Other a01,Extend a04,Other a05,ALetter a0b,Other a0f,ALetter a11,Other a13,ALetter
  a29,Other a2a,ALetter a31,Other a32,ALetter a34,Other a35,ALetter a37,Other a38,ALetter a3a,Other
  a3c,Extend a3d,Other a3e,Extend a43,Other a47,Extend a49,Other a4b,Extend a4e,Other a51,Extend
  a52,Other a59,ALetter a5d,Other a5e,ALetter a5f,Other a66,Numeric a70,Extend a72,ALetter
  a75,Extend a76,Other a81,Extend a84,Other a85,ALetter a8e,Other a8f,ALetter a92,Other a93,ALetter
  aa9,Other aaa,ALetter ab1,Other ab2,ALetter ab4,Other ab5,ALetter aba,Other abc,Extend abd,ALetter
  abe,Extend ac6,Other ac7,Extend aca,Other acb,Extend ace,Other ad0,ALetter ad1,Other ae0,ALetter
  ae2,Extend ae4,Other ae6,Numeric af0,Other af9,ALetter afa,Extend b00,Other b01,Extend b04,Other
  b05,ALetter b0d,Other b0f,ALetter b11,Other b13,ALetter b29,Other b2a,ALetter b31,Other
  b32,ALetter b34,Other b35,ALetter b3a,Other b3c,Extend b3d,ALetter b3e,Extend b45,Other b47,Extend
  b49,Other b4b,Extend b4e,Other b55,Extend b58,Other b5c,ALetter b5e,Other b5f,ALetter b62,Extend
  b64,Other b66,Numeric b70,Other b71,ALetter b72,Other b82,Extend b83,ALetter b84,Other b85,ALetter
  b8b,Other b8e,ALetter b91,Other b92,ALetter b96,Other b99,ALetter b9b,Other b9c,ALetter b9d,Other
  b9e,ALetter ba0,Other ba3,ALetter ba5,Other ba8,ALetter bab,Other bae,ALetter bba,Other bbe,Extend
  bc3,Other bc6,Extend bc9,Other bca,Extend bce,Other bd0,ALetter bd1,Other bd7,Extend bd8,Other
  be6,Numeric bf0,Other c00,Extend c05,ALetter c0d,Other c0e,ALetter c11,Other c12,ALetter c29,Other
  c2a,ALetter c3a,Other c3c,Extend c3d,ALetter c3e,Extend c45,Other c46,Extend c49,Other c4a,Extend
  c4e,Other c55,Extend c57,Other c58,ALetter c5b,Other c5d,ALetter c5e,Other c60,ALetter c62,Extend
  c64,Other c66,Numeric c70,Other c80,ALetter c81,Extend c84,Other c85,ALetter c8d,Other c8e,ALetter
  c91,Other c92,ALetter ca9,Other caa,ALetter cb4,Other cb5,ALetter cba,Other cbc,Extend cbd,ALetter
  cbe,Extend cc5,Other cc6,Extend cc9,Other cca,Extend cce,Other cd5,Extend cd7,Other cdd,ALetter
  cdf,Other ce0,ALetter ce2,Extend ce4,Other ce6,Numeric cf0,Other cf1,ALetter cf3,Extend cf4,Other
  d00,Extend d04,ALetter d0d,Other d0e,ALetter d11,Other d12,ALetter d3b,Extend d3d,ALetter
  d3e,Extend d45,Other d46,Extend d49,Other d4a,Extend d4e,ALetter d4f,Other d54,ALetter d57,Extend
  d58,Other d5f,ALetter d62,Extend d64,Other d66,Numeric d70,Other d7a,ALetter d80,Other d81,Extend
  d84,Other d85,ALetter d97,Other d9a,ALetter db2,Other db3,ALetter dbc,Other dbd,ALetter dbe,Other
  dc0,ALetter dc7,Other dca,Extend dcb,Other dcf,Extend dd5,Other dd6,Extend dd7,Other dd8,Extend
  de0,Other de6,Numeric df0,Other df2,Extend df4,Other e31,Extend e32,Other e34,Extend e3b,Other
  e47,Extend e4f,Other e50,Numeric e5a,Other eb1,Extend eb2,Other eb4,Extend ebd,Other ec8,Extend
  ecf,Other ed0,Numeric eda,Other f00,ALetter f01,Other f18,Extend f1a,Other f20,Numeric f2a,Other
  f35,Extend f36,Other f37,Extend f38,Other f39,Extend f3a,Other f3e,Extend f40,ALetter f48,Other
  f49,ALetter f6d,Other f71,Extend f85,Other f86,Extend f88,ALetter f8d,Extend f98,Other f99,Extend
  fbd,Other fc6,Extend fc7,Other 102b,Extend 103f,Other 1040,Numeric 104a,Other 1056,Extend
  105a,Other 105e,Extend 1061,Other 1062,Extend 1065,Other 1067,Extend 106e,Other 1071,Extend
  1075,Other 1082,Extend 108e,Other 108f,Extend 1090,Numeric 109a,Extend 109e,Other 10a0,ALetter
  10c6,Other 10c7,ALetter 10c8,Other 10cd,ALetter 10ce,Other 10d0,ALetter 10fb,Other 10fc,ALetter
  1249,Other 124a,ALetter 124e,Other 1250,ALetter 1257,Other 1258,ALetter 1259,Other 125a,ALetter
  125e,Other 1260,ALetter 1289,Other 128a,ALetter 128e,Other 1290,ALetter 12b1,Other 12b2,ALetter
  12b6,Other 12b8,ALetter 12bf,Other 12c0,ALetter 12c1,Other 12c2,ALetter 12c6,Other 12c8,ALetter
  12d7,Other 12d8,ALetter 1311,Other 1312,ALetter 1316,Other 1318,ALetter 135b,Other 135d,Extend
  1360,Other 1380,ALetter 1390,Other 13a0,ALetter 13f6,Other 13f8,ALetter 13fe,Other 1401,ALetter
  166d,Other 166f,ALetter 1680,WSegSpace 1681,ALetter 169b,Other 16a0,ALetter 16eb,Other
  16ee,ALetter 16f9,Other 1700,ALetter 1712,Extend 1716,Other 171f,ALetter 1732,Extend 1735,Other
  1740,ALetter 1752,Extend 1754,Other 1760,ALetter 176d,Other 176e,ALetter 1771,Other 1772,Extend
  1774,Other 17b4,Extend 17d4,Other 17dd,Extend 17de,Other 17e0,Numeric 17ea,Other 180b,Extend
  180e,Format 180f,Extend 1810,Numeric 181a,Other 1820,ALetter 1879,Other 1880,ALetter 1885,Extend
  1887,ALetter 18a9,Extend 18aa,ALetter 18ab,Other 18b0,ALetter 18f6,Other 1900,ALetter 191f,Other
  1920,Extend 192c,Other 1930,Extend 193c,Other 1946,Numeric 1950,Other 19d0,Numeric 19db,Other
  1a00,ALetter 1a17,Extend 1a1c,Other 1a55,Extend 1a5f,Other 1a60,Extend 1a7d,Other 1a7f,Extend
  1a80,Numeric 1a8a,Other 1a90,Numeric 1a9a,Other 1ab0,Extend 1acf,Other 1b00,Extend 1b05,ALetter
  1b34,Extend 1b45,ALetter 1b4d,Other 1b50,Numeric 1b5a,Other 1b6b,Extend 1b74,Other 1b80,Extend
  1b83,ALetter 1ba1,Extend 1bae,ALetter 1bb0,Numeric 1bba,ALetter 1be6,Extend 1bf4,Other
  1c00,ALetter 1c24,Extend 1c38,Other 1c40,Numeric 1c4a,Other 1c4d,ALetter 1c50,Numeric 1c5a,ALetter
  1c7e,Other 1c80,ALetter 1c8b,Other 1c90,ALetter 1cbb,Other 1cbd,ALetter 1cc0,Other 1cd0,Extend
  1cd3,Other 1cd4,Extend 1ce9,ALetter 1ced,Extend 1cee,ALetter 1cf4,Extend 1cf5,ALetter 1cf7,Extend
  1cfa,ALetter 1cfb,Other 1d00,ALetter 1dc0,Extend 1e00,ALetter 1f16,Other 1f18,ALetter 1f1e,Other
  1f20,ALetter 1f46,Other 1f48,ALetter 1f4e,Other 1f50,ALetter 1f58,Other 1f59,ALetter 1f5a,Other
  1f5b,ALetter 1f5c,Other 1f5d,ALetter 1f5e,Other 1f5f,ALetter 1f7e,Other 1f80,ALetter 1fb5,Other
  1fb6,ALetter 1fbd,Other 1fbe,ALetter 1fbf,Other 1fc2,ALetter 1fc5,Other 1fc6,ALetter 1fcd,Other
  1fd0,ALetter 1fd4,Other 1fd6,ALetter 1fdc,Other 1fe0,ALetter 1fed,Other 1ff2,ALetter 1ff5,Other
  1ff6,ALetter 1ffd,Other 2000,WSegSpace 2007,Other 2008,WSegSpace 200b,Other 200c,Extend 200d,ZWJ
  200e,Format 2010,Other 2018,MidNumLet 201a,Other 2024,MidNumLet 2025,Other 2027,MidLetter
  2028,Newline 202a,Format 202f,ExtendNumLet 2030,Other 203f,ExtendNumLet 2041,Other 2044,MidNum
  2045,Other 2054,ExtendNumLet 2055,Other 205f,WSegSpace 2060,Format 2065,Other 2066,Format
  2070,Other 2071,ALetter 2072,Other 207f,ALetter 2080,Other 2090,ALetter 209d,Other 20d0,Extend
  20f1,Other 2102,ALetter 2103,Other 2107,ALetter 2108,Other 210a,ALetter 2114,Other 2115,ALetter
  2116,Other 2119,ALetter 211e,Other 2124,ALetter 2125,Other 2126,ALetter 2127,Other 2128,ALetter
  2129,Other 212a,ALetter 212e,Other 212f,ALetter 213a,Other 213c,ALetter 2140,Other 2145,ALetter
  214a,Other 214e,ALetter 214f,Other 2160,ALetter 2189,Other 24b6,ALetter 24ea,Other 2c00,ALetter
  2ce5,Other 2ceb,ALetter 2cef,Extend 2cf2,ALetter 2cf4,Other 2d00,ALetter 2d26,Other 2d27,ALetter
  2d28,Other 2d2d,ALetter 2d2e,Other 2d30,ALetter 2d68,Other 2d6f,ALetter 2d70,Other 2d7f,Extend
  2d80,ALetter 2d97,Other 2da0,ALetter 2da7,Other 2da8,ALetter 2daf,Other 2db0,ALetter 2db7,Other
  2db8,ALetter 2dbf,Other 2dc0,ALetter 2dc7,Other 2dc8,ALetter 2dcf,Other 2dd0,ALetter 2dd7,Other
  2dd8,ALetter 2ddf,Other 2de0,Extend 2e00,Other 2e2f,ALetter 2e30,Other 3000,WSegSpace 3001,Other
  3005,ALetter 3006,Other 302a,Extend 3030,Other 3031,Katakana 3036,Other 303b,ALetter 303d,Other
  3099,Extend 309b,Katakana 309d,Other 30a0,Katakana 30fb,Other 30fc,Katakana 3100,Other
  3105,ALetter 3130,Other 3131,ALetter 318f,Other 31a0,ALetter 31c0,Other 31f0,Katakana 3200,Other
  32d0,Katakana 32ff,Other 3300,Katakana 3358,Other a000,ALetter a48d,Other a4d0,ALetter a4fe,Other
  a500,ALetter a60d,Other a610,ALetter a620,Numeric a62a,ALetter a62c,Other a640,ALetter a66f,Extend
  a673,Other a674,Extend a67e,Other a67f,ALetter a69e,Extend a6a0,ALetter a6f0,Extend a6f2,Other
  a708,ALetter a7ce,Other a7d0,ALetter a7d2,Other a7d3,ALetter a7d4,Other a7d5,ALetter a7dd,Other
  a7f2,ALetter a802,Extend a803,ALetter a806,Extend a807,ALetter a80b,Extend a80c,ALetter
  a823,Extend a828,Other a82c,Extend a82d,Other a840,ALetter a874,Other a880,Extend a882,ALetter
  a8b4,Extend a8c6,Other a8d0,Numeric a8da,Other a8e0,Extend a8f2,ALetter a8f8,Other a8fb,ALetter
  a8fc,Other a8fd,ALetter a8ff,Extend a900,Numeric a90a,ALetter a926,Extend a92e,Other a930,ALetter
  a947,Extend a954,Other a960,ALetter a97d,Other a980,Extend a984,ALetter a9b3,Extend a9c1,Other
  a9cf,ALetter a9d0,Numeric a9da,Other a9e5,Extend a9e6,Other a9f0,Numeric a9fa,Other aa00,ALetter
  aa29,Extend aa37,Other aa40,ALetter aa43,Extend aa44,ALetter aa4c,Extend aa4e,Other aa50,Numeric
  aa5a,Other aa7b,Extend aa7e,Other aab0,Extend aab1,Other aab2,Extend aab5,Other aab7,Extend
  aab9,Other aabe,Extend aac0,Other aac1,Extend aac2,Other aae0,ALetter aaeb,Extend aaf0,Other
  aaf2,ALetter aaf5,Extend aaf7,Other ab01,ALetter ab07,Other ab09,ALetter ab0f,Other ab11,ALetter
  ab17,Other ab20,ALetter ab27,Other ab28,ALetter ab2f,Other ab30,ALetter ab6a,Other ab70,ALetter
  abe3,Extend abeb,Other abec,Extend abee,Other abf0,Numeric abfa,Other ac00,ALetter d7a4,Other
  d7b0,ALetter d7c7,Other d7cb,ALetter d7fc,Other fb00,ALetter fb07,Other fb13,ALetter fb18,Other
  fb1d,Hebrew_Letter fb1e,Extend fb1f,Hebrew_Letter fb29,Other fb2a,Hebrew_Letter fb37,Other
  fb38,Hebrew_Letter fb3d,Other fb3e,Hebrew_Letter fb3f,Other fb40,Hebrew_Letter fb42,Other
  fb43,Hebrew_Letter fb45,Other fb46,Hebrew_Letter fb50,ALetter fbb2,Other fbd3,ALetter fd3e,Other
  fd50,ALetter fd90,Other fd92,ALetter fdc8,Other fdf0,ALetter fdfc,Other fe00,Extend fe10,Other
  fe13,MidLetter fe14,Other fe20,Extend fe30,Other fe33,ExtendNumLet fe35,Other fe4d,ExtendNumLet
  fe50,MidNum fe51,Other fe52,MidNumLet fe53,Other fe54,MidNum fe55,MidLetter fe56,Other
  fe70,ALetter fe75,Other fe76,ALetter fefd,Other feff,Format ff00,Other ff07,MidNumLet ff08,Other
  ff0c,MidNum ff0d,Other ff0e,MidNumLet ff0f,Other ff10,Numeric ff1a,MidLetter ff1b,MidNum
  ff1c,Other ff21,ALetter ff3b,Other ff3f,ExtendNumLet ff40,Other ff41,ALetter ff5b,Other
  ff66,Katakana ff9e,Extend ffa0,ALetter ffbf,Other ffc2,ALetter ffc8,Other ffca,ALetter ffd0,Other
  ffd2,ALetter ffd8,Other ffda,ALetter ffdd,Other fff9,Format fffc,Other 10000,ALetter 1000c,Other
  1000d,ALetter 10027,Other 10028,ALetter 1003b,Other 1003c,ALetter 1003e,Other 1003f,ALetter
  1004e,Other 10050,ALetter 1005e,Other 10080,ALetter 100fb,Other 10140,ALetter 10175,Other
  101fd,Extend 101fe,Other 10280,ALetter 1029d,Other 102a0,ALetter 102d1,Other 102e0,Extend
  102e1,Other 10300,ALetter 10320,Other 1032d,ALetter 1034b,Other 10350,ALetter 10376,Extend
  1037b,Other 10380,ALetter 1039e,Other 103a0,ALetter 103c4,Other 103c8,ALetter 103d0,Other
  103d1,ALetter 103d6,Other 10400,ALetter 1049e,Other 104a0,Numeric 104aa,Other 104b0,ALetter
  104d4,Other 104d8,ALetter 104fc,Other 10500,ALetter 10528,Other 10530,ALetter 10564,Other
  10570,ALetter 1057b,Other 1057c,ALetter 1058b,Other 1058c,ALetter 10593,Other 10594,ALetter
  10596,Other 10597,ALetter 105a2,Other 105a3,ALetter 105b2,Other 105b3,ALetter 105ba,Other
  105bb,ALetter 105bd,Other 105c0,ALetter 105f4,Other 10600,ALetter 10737,Other 10740,ALetter
  10756,Other 10760,ALetter 10768,Other 10780,ALetter 10786,Other 10787,ALetter 107b1,Other
  107b2,ALetter 107bb,Other 10800,ALetter 10806,Other 10808,ALetter 10809,Other 1080a,ALetter
  10836,Other 10837,ALetter 10839,Other 1083c,ALetter 1083d,Other 1083f,ALetter 10856,Other
  10860,ALetter 10877,Other 10880,ALetter 1089f,Other 108e0,ALetter 108f3,Other 108f4,ALetter
  108f6,Other 10900,ALetter 10916,Other 10920,ALetter 1093a,Other 10980,ALetter 109b8,Other
  109be,ALetter 109c0,Other 10a00,ALetter 10a01,Extend 10a04,Other 10a05,Extend 10a07,Other
  10a0c,Extend 10a10,ALetter 10a14,Other 10a15,ALetter 10a18,Other 10a19,ALetter 10a36,Other
  10a38,Extend 10a3b,Other 10a3f,Extend 10a40,Other 10a60,ALetter 10a7d,Other 10a80,ALetter
  10a9d,Other 10ac0,ALetter 10ac8,Other 10ac9,ALetter 10ae5,Extend 10ae7,Other 10b00,ALetter
  10b36,Other 10b40,ALetter 10b56,Other 10b60,ALetter 10b73,Other 10b80,ALetter 10b92,Other
  10c00,ALetter 10c49,Other 10c80,ALetter 10cb3,Other 10cc0,ALetter 10cf3,Other 10d00,ALetter
  10d24,Extend 10d28,Other 10d30,Numeric 10d3a,Other 10d40,Numeric 10d4a,ALetter 10d66,Other
  10d69,Extend 10d6e,Other 10d6f,ALetter 10d86,Other 10e80,ALetter 10eaa,Other 10eab,Extend
  10ead,Other 10eb0,ALetter 10eb2,Other 10ec2,ALetter 10ec5,Other 10efc,Extend 10f00,ALetter
  10f1d,Other 10f27,ALetter 10f28,Other 10f30,ALetter 10f46,Extend 10f51,Other 10f70,ALetter
  10f82,Extend 10f86,Other 10fb0,ALetter 10fc5,Other 10fe0,ALetter 10ff7,Other 11000,Extend
  11003,ALetter 11038,Extend 11047,Other 11066,Numeric 11070,Extend 11071,ALetter 11073,Extend
  11075,ALetter 11076,Other 1107f,Extend 11083,ALetter 110b0,Extend 110bb,Other 110bd,Numeric
  110be,Other 110c2,Extend 110c3,Other 110cd,Numeric 110ce,Other 110d0,ALetter 110e9,Other
  110f0,Numeric 110fa,Other 11100,Extend 11103,ALetter 11127,Extend 11135,Other 11136,Numeric
  11140,Other 11144,ALetter 11145,Extend 11147,ALetter 11148,Other 11150,ALetter 11173,Extend
  11174,Other 11176,ALetter 11177,Other 11180,Extend 11183,ALetter 111b3,Extend 111c1,ALetter
  111c5,Other 111c9,Extend 111cd,Other 111ce,Extend 111d0,Numeric 111da,ALetter 111db,Other
  111dc,ALetter 111dd,Other 11200,ALetter 11212,Other 11213,ALetter 1122c,Extend 11238,Other
  1123e,Extend 1123f,ALetter 11241,Extend 11242,Other 11280,ALetter 11287,Other 11288,ALetter
  11289,Other 1128a,ALetter 1128e,Other 1128f,ALetter 1129e,Other 1129f,ALetter 112a9,Other
  112b0,ALetter 112df,Extend 112eb,Other 112f0,Numeric 112fa,Other 11300,Extend 11304,Other
  11305,ALetter 1130d,Other 1130f,ALetter 11311,Other 11313,ALetter 11329,Other 1132a,ALetter
  11331,Other 11332,ALetter 11334,Other 11335,ALetter 1133a,Other 1133b,Extend 1133d,ALetter
  1133e,Extend 11345,Other 11347,Extend 11349,Other 1134b,Extend 1134e,Other 11350,ALetter
  11351,Other 11357,Extend 11358,Other 1135d,ALetter 11362,Extend 11364,Other 11366,Extend
  1136d,Other 11370,Extend 11375,Other 11380,ALetter 1138a,Other 1138b,ALetter 1138c,Other
  1138e,ALetter 1138f,Other 11390,ALetter 113b6,Other 113b7,ALetter 113b8,Extend 113c1,Other
  113c2,Extend 113c3,Other 113c5,Extend 113c6,Other 113c7,Extend 113cb,Other 113cc,Extend
  113d1,ALetter 113d2,Extend 113d3,ALetter 113d4,Other 113e1,Extend 113e3,Other 11400,ALetter
  11435,Extend 11447,ALetter 1144b,Other 11450,Numeric 1145a,Other 1145e,Extend 1145f,ALetter
  11462,Other 11480,ALetter 114b0,Extend 114c4,ALetter 114c6,Other 114c7,ALetter 114c8,Other
  114d0,Numeric 114da,Other 11580,ALetter 115af,Extend 115b6,Other 115b8,Extend 115c1,Other
  115d8,ALetter 115dc,Extend 115de,Other 11600,ALetter 11630,Extend 11641,Other 11644,ALetter
  11645,Other 11650,Numeric 1165a,Other 11680,ALetter 116ab,Extend 116b8,ALetter 116b9,Other
  116c0,Numeric 116ca,Other 116d0,Numeric 116e4,Other 1171d,Extend 1172c,Other 11730,Numeric
  1173a,Other 11800,ALetter 1182c,Extend 1183b,Other 118a0,ALetter 118e0,Numeric 118ea,Other
  118ff,ALetter 11907,Other 11909,ALetter 1190a,Other 1190c,ALetter 11914,Other 11915,ALetter
  11917,Other 11918,ALetter 11930,Extend 11936,Other 11937,Extend 11939,Other 1193b,Extend
  1193f,ALetter 11940,Extend 11941,ALetter 11942,Extend 11944,Other 11950,Numeric 1195a,Other
  119a0,ALetter 119a8,Other 119aa,ALetter 119d1,Extend 119d8,Other 119da,Extend 119e1,ALetter
  119e2,Other 119e3,ALetter 119e4,Extend 119e5,Other 11a00,ALetter 11a01,Extend 11a0b,ALetter
  11a33,Extend 11a3a,ALetter 11a3b,Extend 11a3f,Other 11a47,Extend 11a48,Other 11a50,ALetter
  11a51,Extend 11a5c,ALetter 11a8a,Extend 11a9a,Other 11a9d,ALetter 11a9e,Other 11ab0,ALetter
  11af9,Other 11bc0,ALetter 11be1,Other 11bf0,Numeric 11bfa,Other 11c00,ALetter 11c09,Other
  11c0a,ALetter 11c2f,Extend 11c37,Other 11c38,Extend 11c40,ALetter 11c41,Other 11c50,Numeric
  11c5a,Other 11c72,ALetter 11c90,Other 11c92,Extend 11ca8,Other 11ca9,Extend 11cb7,Other
  11d00,ALetter 11d07,Other 11d08,ALetter 11d0a,Other 11d0b,ALetter 11d31,Extend 11d37,Other
  11d3a,Extend 11d3b,Other 11d3c,Extend 11d3e,Other 11d3f,Extend 11d46,ALetter 11d47,Extend
  11d48,Other 11d50,Numeric 11d5a,Other 11d60,ALetter 11d66,Other 11d67,ALetter 11d69,Other
  11d6a,ALetter 11d8a,Extend 11d8f,Other 11d90,Extend 11d92,Other 11d93,Extend 11d98,ALetter
  11d99,Other 11da0,Numeric 11daa,Other 11ee0,ALetter 11ef3,Extend 11ef7,Other 11f00,Extend
  11f02,ALetter 11f03,Extend 11f04,ALetter 11f11,Other 11f12,ALetter 11f34,Extend 11f3b,Other
  11f3e,Extend 11f43,Other 11f50,Numeric 11f5a,Extend 11f5b,Other 11fb0,ALetter 11fb1,Other
  12000,ALetter 1239a,Other 12400,ALetter 1246f,Other 12480,ALetter 12544,Other 12f90,ALetter
  12ff1,Other 13000,ALetter 13430,Format 13440,Extend 13441,ALetter 13447,Extend 13456,Other
  13460,ALetter 143fb,Other 14400,ALetter 14647,Other 16100,ALetter 1611e,Extend 16130,Numeric
  1613a,Other 16800,ALetter 16a39,Other 16a40,ALetter 16a5f,Other 16a60,Numeric 16a6a,Other
  16a70,ALetter 16abf,Other 16ac0,Numeric 16aca,Other 16ad0,ALetter 16aee,Other 16af0,Extend
  16af5,Other 16b00,ALetter 16b30,Extend 16b37,Other 16b40,ALetter 16b44,Other 16b50,Numeric
  16b5a,Other 16b63,ALetter 16b78,Other 16b7d,ALetter 16b90,Other 16d40,ALetter 16d6d,Other
  16d70,Numeric 16d7a,Other 16e40,ALetter 16e80,Other 16f00,ALetter 16f4b,Other 16f4f,Extend
  16f50,ALetter 16f51,Extend 16f88,Other 16f8f,Extend 16f93,ALetter 16fa0,Other 16fe0,ALetter
  16fe2,Other 16fe3,ALetter 16fe4,Extend 16fe5,Other 16ff0,Extend 16ff2,Other 1aff0,Katakana
  1aff4,Other 1aff5,Katakana 1affc,Other 1affd,Katakana 1afff,Other 1b000,Katakana 1b001,Other
  1b120,Katakana 1b123,Other 1b155,Katakana 1b156,Other 1b164,Katakana 1b168,Other 1bc00,ALetter
  1bc6b,Other 1bc70,ALetter 1bc7d,Other 1bc80,ALetter 1bc89,Other 1bc90,ALetter 1bc9a,Other
  1bc9d,Extend 1bc9f,Other 1bca0,Format 1bca4,Other 1ccf0,Numeric 1ccfa,Other 1cf00,Extend
  1cf2e,Other 1cf30,Extend 1cf47,Other 1d165,Extend 1d16a,Other 1d16d,Extend 1d173,Format
  1d17b,Extend 1d183,Other 1d185,Extend 1d18c,Other 1d1aa,Extend 1d1ae,Other 1d242,Extend
  1d245,Other 1d400,ALetter 1d455,Other 1d456,ALetter 1d49d,Other 1d49e,ALetter 1d4a0,Other
  1d4a2,ALetter 1d4a3,Other 1d4a5,ALetter 1d4a7,Other 1d4a9,ALetter 1d4ad,Other 1d4ae,ALetter
  1d4ba,Other 1d4bb,ALetter 1d4bc,Other 1d4bd,ALetter 1d4c4,Other 1d4c5,ALetter 1d506,Other
  1d507,ALetter 1d50b,Other 1d50d,ALetter 1d515,Other 1d516,ALetter 1d51d,Other 1d51e,ALetter
  1d53a,Other 1d53b,ALetter 1d53f,Other 1d540,ALetter 1d545,Other 1d546,ALetter 1d547,Other
  1d54a,ALetter 1d551,Other 1d552,ALetter 1d6a6,Other 1d6a8,ALetter 1d6c1,Other 1d6c2,ALetter
  1d6db,Other 1d6dc,ALetter 1d6fb,Other 1d6fc,ALetter 1d715,Other 1d716,ALetter 1d735,Other
  1d736,ALetter 1d74f,Other 1d750,ALetter 1d76f,Other 1d770,ALetter 1d789,Other 1d78a,ALetter
  1d7a9,Other 1d7aa,ALetter 1d7c3,Other 1d7c4,ALetter 1d7cc,Other 1d7ce,Numeric 1d800,Other
  1da00,Extend 1da37,Other 1da3b,Extend 1da6d,Other 1da75,Extend 1da76,Other 1da84,Extend
  1da85,Other 1da9b,Extend 1daa0,Other 1daa1,Extend 1dab0,Other 1df00,ALetter 1df1f,Other
  1df25,ALetter 1df2b,Other 1e000,Extend 1e007,Other 1e008,Extend 1e019,Other 1e01b,Extend
  1e022,Other 1e023,Extend 1e025,Other 1e026,Extend 1e02b,Other 1e030,ALetter 1e06e,Other
  1e08f,Extend 1e090,Other 1e100,ALetter 1e12d,Other 1e130,Extend 1e137,ALetter 1e13e,Other
  1e140,Numeric 1e14a,Other 1e14e,ALetter 1e14f,Other 1e290,ALetter 1e2ae,Extend 1e2af,Other
  1e2c0,ALetter 1e2ec,Extend 1e2f0,Numeric 1e2fa,Other 1e4d0,ALetter 1e4ec,Extend 1e4f0,Numeric
  1e4fa,Other 1e5d0,ALetter 1e5ee,Extend 1e5f0,ALetter 1e5f1,Numeric 1e5fb,Other 1e7e0,ALetter
  1e7e7,Other 1e7e8,ALetter 1e7ec,Other 1e7ed,ALetter 1e7ef,Other 1e7f0,ALetter 1e7ff,Other
  1e800,ALetter 1e8c5,Other 1e8d0,Extend 1e8d7,Other 1e900,ALetter 1e944,Extend 1e94b,ALetter
  1e94c,Other 1e950,Numeric 1e95a,Other 1ee00,ALetter 1ee04,Other 1ee05,ALetter 1ee20,Other
  1ee21,ALetter 1ee23,Other 1ee24,ALetter 1ee25,Other 1ee27,ALetter 1ee28,Other 1ee29,ALetter
  1ee33,Other 1ee34,ALetter 1ee38,Other 1ee39,ALetter 1ee3a,Other 1ee3b,ALetter 1ee3c,Other
  1ee42,ALetter 1ee43,Other 1ee47,ALetter 1ee48,Other 1ee49,ALetter 1ee4a,Other 1ee4b,ALetter
  1ee4c,Other 1ee4d,ALetter 1ee50,Other 1ee51,ALetter 1ee53,Other 1ee54,ALetter 1ee55,Other
  1ee57,ALetter 1ee58,Other 1ee59,ALetter 1ee5a,Other 1ee5b,ALetter 1ee5c,Other 1ee5d,ALetter
  1ee5e,Other 1ee5f,ALetter 1ee60,Other 1ee61,ALetter 1ee63,Other 1ee64,ALetter 1ee65,Other
  1ee67,ALetter 1ee6b,Other 1ee6c,ALetter 1ee73,Other 1ee74,ALetter 1ee78,Other 1ee79,ALetter
  1ee7d,Other 1ee7e,ALetter 1ee7f,Other 1ee80,ALetter 1ee8a,Other 1ee8b,ALetter 1ee9c,Other
  1eea1,ALetter 1eea4,Other 1eea5,ALetter 1eeaa,Other 1eeab,ALetter 1eebc,Other 1f130,ALetter
  1f14a,Other 1f150,ALetter 1f16a,Other 1f170,ALetter 1f18a,Other 1f1e6,Regional_Indicator
  1f200,Other 1f3fb,Extend 1f400,Other 1fbf0,Numeric 1fbfa,Other e0001,Format e0002,Other
  e0020,Extend e0080,Other e0100,Extend e01f0,Other"

/-- Each spelling of a kind's name with the long name. The kind of all other code points has no name here. -/
def names : List (String × String) := Table.spellings
  "LE:ALetter ALetter:ALetter FO:Format Format:Format KA:Katakana Katakana:Katakana ML:MidLetter
  MidLetter:MidLetter MN:MidNum MidNum:MidNum NU:Numeric Numeric:Numeric EX:ExtendNumLet
  ExtendNumLet:ExtendNumLet CR:CR Extend:Extend LF:LF MB:MidNumLet MidNumLet:MidNumLet NL:Newline
  Newline:Newline RI:Regional_Indicator Regional_Indicator:Regional_Indicator HL:Hebrew_Letter
  Hebrew_Letter:Hebrew_Letter SQ:Single_Quote Single_Quote:Single_Quote DQ:Double_Quote
  Double_Quote:Double_Quote ZWJ:ZWJ WSegSpace:WSegSpace"

def members (name : String) : CodeSet := Table.members runs (· = name)

end Descent.WordBreak
