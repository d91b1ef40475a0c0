import Descent.Unicode.Table

/-!
# Sentence breaks

* `SentenceBreak.runs`: where each run of characters of one kind begins
* `SentenceBreak.names`: the spellings of each kind's name
* `SentenceBreak.members` is the set of all code points of a kind, by its long name
-/

namespace Descent.SentenceBreak

/-- The first code point of each run of one kind, by what it does at the ends of sentences. -/
def runs : List (Nat × String) := Table.runs
  "0,Other 9,Sp a,LF b,Sp d,CR e,Other 20,Sp 21,STerm 22,Close 23,Other 27,Close 2a,Other
  2c,SContinue 2e,ATerm 2f,Other 30,Numeric 3a,SContinue 3c,Other 3f,STerm 40,Other 41,Upper
  5b,Close 5c,Other 5d,Close 5e,Other 61,Lower 7b,Close 7c,Other 7d,Close 7e,Other 85,Sep 86,Other
  a0,Sp a1,Other aa,Lower ab,Close ac,Other ad,Format ae,Other b5,Lower b6,Other ba,Lower bb,Close
  bc,Other c0,Upper d7,Other d8,Upper df,Lower f7,Other f8,Lower 100,Upper 101,Lower 102,Upper
  103,Lower 104,Upper 105,Lower 106,Upper 107,Lower 108,Upper 109,Lower 10a,Upper 10b,Lower
  10c,Upper 10d,Lower 10e,Upper 10f,Lower 110,Upper 111,Lower 112,Upper 113,Lower 114,Upper
  115,Lower 116,Upper 117,Lower 118,Upper 119,Lower 11a,Upper 11b,Lower 11c,Upper 11d,Lower
  11e,Upper 11f,Lower 120,Upper 121,Lower 122,Upper 123,Lower 124,Upper 125,Lower 126,Upper
  127,Lower 128,Upper 129,Lower 12a,Upper 12b,Lower 12c,Upper 12d,Lower 12e,Upper 12f,Lower
  130,Upper 131,Lower 132,Upper 133,Lower 134,Upper 135,Lower 136,Upper 137,Lower 139,Upper
  13a,Lower 13b,Upper 13c,Lower 13d,Upper 13e,Lower 13f,Upper 140,Lower 141,Upper 142,Lower
  143,Upper 144,Lower 145,Upper 146,Lower 147,Upper 148,Lower 14a,Upper 14b,Lower 14c,Upper
  14d,Lower 14e,Upper 14f,Lower 150,Upper 151,Lower 152,Upper 153,Lower 154,Upper 155,Lower
  156,Upper 157,Lower 158,Upper 159,Lower 15a,Upper 15b,Lower 15c,Upper 15d,Lower 15e,Upper
  15f,Lower 160,Upper 161,Lower 162,Upper 163,Lower 164,Upper 165,Lower 166,Upper 167,Lower
  168,Upper 169,Lower 16a,Upper 16b,Lower 16c,Upper 16d,Lower 16e,Upper 16f,Lower 170,Upper
  171,Lower 172,Upper 173,Lower 174,Upper 175,Lower 176,Upper 177,Lower 178,Upper 17a,Lower
  17b,Upper 17c,Lower 17d,Upper 17e,Lower 181,Upper 183,Lower 184,Upper 185,Lower 186,Upper
  188,Lower 189,Upper 18c,Lower 18e,Upper 192,Lower 193,Upper 195,Lower 196,Upper 199,Lower
  19c,Upper 19e,Lower 19f,Upper 1a1,Lower 1a2,Upper 1a3,Lower 1a4,Upper 1a5,Lower 1a6,Upper
  1a8,Lower 1a9,Upper 1aa,Lower 1ac,Upper 1ad,Lower 1ae,Upper 1b0,Lower 1b1,Upper 1b4,Lower
  1b5,Upper 1b6,Lower 1b7,Upper 1b9,Lower 1bb,OLetter 1bc,Upper 1bd,Lower 1c0,OLetter 1c4,Upper
  1c6,Lower 1c7,Upper 1c9,Lower 1ca,Upper 1cc,Lower 1cd,Upper 1ce,Lower 1cf,Upper 1d0,Lower
  1d1,Upper 1d2,Lower 1d3,Upper 1d4,Lower 1d5,Upper 1d6,Lower 1d7,Upper 1d8,Lower 1d9,Upper
  1da,Lower 1db,Upper 1dc,Lower 1de,Upper 1df,Lower 1e0,Upper 1e1,Lower 1e2,Upper 1e3,Lower
  1e4,Upper 1e5,Lower 1e6,Upper 1e7,Lower 1e8,Upper 1e9,Lower 1ea,Upper 1eb,Lower 1ec,Upper
  1ed,Lower 1ee,Upper 1ef,Lower 1f1,Upper 1f3,Lower 1f4,Upper 1f5,Lower 1f6,Upper 1f9,Lower
  1fa,Upper 1fb,Lower 1fc,Upper 1fd,Lower 1fe,Upper 1ff,Lower 200,Upper 201,Lower 202,Upper
  203,Lower 204,Upper 205,Lower 206,Upper 207,Lower 208,Upper 209,Lower 20a,Upper 20b,Lower
  20c,Upper 20d,Lower 20e,Upper 20f,Lower 210,Upper 211,Lower 212,Upper 213,Lower 214,Upper
  215,Lower 216,Upper 217,Lower 218,Upper 219,Lower 21a,Upper 21b,Lower 21c,Upper 21d,Lower
  21e,Upper 21f,Lower 220,Upper 221,Lower 222,Upper 223,Lower 224,Upper 225,Lower 226,Upper
  227,Lower 228,Upper 229,Lower 22a,Upper 22b,Lower 22c,Upper 22d,Lower 22e,Upper 22f,Lower
  230,Upper 231,Lower 232,Upper 233,Lower 23a,Upper 23c,Lower 23d,Upper 23f,Lower 241,Upper
  242,Lower 243,Upper 247,Lower 248,Upper 249,Lower 24a,Upper 24b,Lower 24c,Upper 24d,Lower
  24e,Upper 24f,Lower 294,OLetter 295,Lower 2b9,OLetter 2c0,Lower 2c2,Other 2c6,OLetter 2d2,Other
  2e0,Lower 2e5,Other 2ec,OLetter 2ed,Other 2ee,OLetter 2ef,Other 300,Extend 370,Upper 371,Lower
  372,Upper 373,Lower 374,OLetter 375,Other 376,Upper 377,Lower 378,Other 37a,Lower 37e,SContinue
  37f,Upper 380,Other 386,Upper 387,Other 388,Upper 38b,Other 38c,Upper 38d,Other 38e,Upper
  390,Lower 391,Upper 3a2,Other 3a3,Upper 3ac,Lower 3cf,Upper 3d0,Lower 3d2,Upper 3d5,Lower
  3d8,Upper 3d9,Lower 3da,Upper 3db,Lower 3dc,Upper 3dd,Lower 3de,Upper 3df,Lower 3e0,Upper
  3e1,Lower 3e2,Upper 3e3,Lower 3e4,Upper 3e5,Lower 3e6,Upper 3e7,Lower 3e8,Upper 3e9,Lower
  3ea,Upper 3eb,Lower 3ec,Upper 3ed,Lower 3ee,Upper 3ef,Lower 3f4,Upper 3f5,Lower 3f6,Other
  3f7,Upper 3f8,Lower 3f9,Upper 3fb,Lower 3fd,Upper 430,Lower 460,Upper 461,Lower 462,Upper
  463,Lower 464,Upper 465,Lower 466,Upper 467,Lower 468,Upper 469,Lower 46a,Upper 46b,Lower
  46c,Upper 46d,Lower 46e,Upper 46f,Lower 470,Upper 471,Lower 472,Upper 473,Lower 474,Upper
  475,Lower 476,Upper 477,Lower 478,Upper 479,Lower 47a,Upper 47b,Lower 47c,Upper 47d,Lower
  47e,Upper 47f,Lower 480,Upper 481,Lower 482,Other 483,Extend 48a,Upper 48b,Lower 48c,Upper
  48d,Lower 48e,Upper 48f,Lower 490,Upper 491,Lower 492,Upper 493,Lower 494,Upper 495,Lower
  496,Upper 497,Lower 498,Upper 499,Lower 49a,Upper 49b,Lower 49c,Upper 49d,Lower 49e,Upper
  49f,Lower 4a0,Upper 4a1,Lower 4a2,Upper 4a3,Lower 4a4,Upper 4a5,Lower 4a6,Upper 4a7,Lower
  4a8,Upper 4a9,Lower 4aa,Upper 4ab,Lower 4ac,Upper 4ad,Lower 4ae,Upper 4af,Lower 4b0,Upper
  4b1,Lower 4b2,Upper 4b3,Lower 4b4,Upper 4b5,Lower 4b6,Upper 4b7,Lower 4b8,Upper 4b9,Lower
  4ba,Upper 4bb,Lower 4bc,Upper 4bd,Lower 4be,Upper 4bf,Lower 4c0,Upper 4c2,Lower 4c3,Upper
  4c4,Lower 4c5,Upper 4c6,Lower 4c7,Upper 4c8,Lower 4c9,Upper 4ca,Lower 4cb,Upper 4cc,Lower
  4cd,Upper 4ce,Lower 4d0,Upper 4d1,Lower 4d2,Upper 4d3,Lower 4d4,Upper 4d5,Lower 4d6,Upper
  4d7,Lower 4d8,Upper 4d9,Lower 4da,Upper 4db,Lower 4dc,Upper 4dd,Lower 4de,Upper 4df,Lower
  4e0,Upper 4e1,Lower 4e2,Upper 4e3,Lower 4e4,Upper 4e5,Lower 4e6,Upper 4e7,Lower 4e8,Upper
  4e9,Lower 4ea,Upper 4eb,Lower 4ec,Upper 4ed,Lower 4ee,Upper 4ef,Lower 4f0,Upper 4f1,Lower
  4f2,Upper 4f3,Lower 4f4,Upper 4f5,Lower 4f6,Upper 4f7,Lower 4f8,Upper 4f9,Lower 4fa,Upper
  4fb,Lower 4fc,Upper 4fd,Lower 4fe,Upper 4ff,Lower 500,Upper 501,Lower 502,Upper 503,Lower
  504,Upper 505,Lower 506,Upper 507,Lower 508,Upper 509,Lower 50a,Upper 50b,Lower 50c,Upper
  50d,Lower 50e,Upper 50f,Lower 510,Upper 511,Lower 512,Upper 513,Lower 514,Upper 515,Lower
  516,Upper 517,Lower 518,Upper 519,Lower 51a,Upper 51b,Lower 51c,Upper 51d,Lower 51e,Upper
  51f,Lower 520,Upper 521,Lower 522,Upper 523,Lower 524,Upper 525,Lower 526,Upper 527,Lower
  528,Upper 529,Lower 52a,Upper 52b,Lower 52c,Upper 52d,Lower 52e,Upper 52f,Lower 530,Other
  531,Upper 557,Other 559,OLetter 55a,Other 55d,SContinue 55e,Other 560,Lower 589,STerm 58a,Other
  591,Extend 5be,Other 5bf,Extend 5c0,Other 5c1,Extend 5c3,Other 5c4,Extend 5c6,Other 5c7,Extend
  5c8,Other 5d0,OLetter 5eb,Other 5ef,OLetter 5f4,Other 600,Numeric 606,Other 60c,SContinue
  60e,Other 610,Extend 61b,Other 61c,Format 61d,STerm 620,OLetter 64b,Extend 660,Numeric 66a,Other
  66b,Numeric 66d,Other 66e,OLetter 670,Extend 671,OLetter 6d4,STerm 6d5,OLetter 6d6,Extend
  6dd,Numeric 6de,Other 6df,Extend 6e5,OLetter 6e7,Extend 6e9,Other 6ea,Extend 6ee,OLetter
  6f0,Numeric 6fa,OLetter 6fd,Other 6ff,OLetter 700,STerm 703,Other 70f,Format 710,OLetter
  711,Extend 712,OLetter 730,Extend 74b,Other 74d,OLetter 7a6,Extend 7b1,OLetter 7b2,Other
  7c0,Numeric 7ca,OLetter 7eb,Extend 7f4,OLetter 7f6,Other 7f8,SContinue 7f9,STerm 7fa,OLetter
  7fb,Other 7fd,Extend 7fe,Other 800,OLetter 816,Extend 81a,OLetter 81b,Extend 824,OLetter
  825,Extend 828,OLetter 829,Extend 82e,Other 837,STerm 838,Other 839,STerm 83a,Other 83d,STerm
  83f,Other 840,OLetter 859,Extend 85c,Other 860,OLetter 86b,Other 870,OLetter 888,Other 889,OLetter
  88f,Other 890,Numeric 892,Other 897,Extend 8a0,OLetter 8ca,Extend 8e2,Numeric 8e3,Extend
  904,OLetter 93a,Extend 93d,OLetter 93e,Extend 950,OLetter 951,Extend 958,OLetter 962,Extend
  964,STerm 966,Numeric 970,Other 971,OLetter 981,Extend 984,Other 985,OLetter 98d,Other 98f,OLetter
  991,Other 993,OLetter 9a9,Other 9aa,OLetter 9b1,Other 9b2,OLetter 9b3,Other 9b6,OLetter 9ba,Other
  9bc,Extend 9bd,OLetter 9be,Extend 9c5,Other 9c7,Extend 9c9,Other 9cb,Extend 9ce,OLetter 9cf,Other
  9d7,Extend 9d8,Other 9dc,OLetter 9de,Other 9df,OLetter 9e2,Extend 9e4,Other 9e6,Numeric
  9f0,OLetter 9f2,Other 9fc,OLetter 9fd,Other 9fe,Extend 9ff,Other a01,Extend a04,Other a05,OLetter
  a0b,Other a0f,OLetter a11,Other a13,OLetter a29,Other a2a,OLetter a31,Other a32,OLetter a34,Other
  a35,OLetter a37,Other a38,OLetter a3a,Other a3c,Extend a3d,Other a3e,Extend a43,Other a47,Extend
  a49,Other a4b,Extend a4e,Other a51,Extend a52,Other a59,OLetter a5d,Other a5e,OLetter a5f,Other
  a66,Numeric a70,Extend a72,OLetter a75,Extend a76,Other a81,Extend a84,Other a85,OLetter a8e,Other
  a8f,OLetter a92,Other a93,OLetter aa9,Other aaa,OLetter ab1,Other ab2,OLetter ab4,Other
  ab5,OLetter aba,Other abc,Extend abd,OLetter abe,Extend ac6,Other ac7,Extend aca,Other acb,Extend
  ace,Other ad0,OLetter ad1,Other ae0,OLetter ae2,Extend ae4,Other ae6,Numeric af0,Other af9,OLetter
  afa,Extend b00,Other b01,Extend b04,Other b05,OLetter b0d,Other b0f,OLetter b11,Other b13,OLetter
  b29,Other b2a,OLetter b31,Other b32,OLetter b34,Other b35,OLetter b3a,Other b3c,Extend b3d,OLetter
  b3e,Extend b45,Other b47,Extend b49,Other b4b,Extend b4e,Other b55,Extend b58,Other b5c,OLetter
  b5e,Other b5f,OLetter b62,Extend b64,Other b66,Numeric b70,Other b71,OLetter b72,Other b82,Extend
  b83,OLetter b84,Other b85,OLetter b8b,Other b8e,OLetter b91,Other b92,OLetter b96,Other
  b99,OLetter b9b,Other b9c,OLetter b9d,Other b9e,OLetter ba0,Other ba3,OLetter ba5,Other
  ba8,OLetter bab,Other bae,OLetter bba,Other bbe,Extend bc3,Other bc6,Extend bc9,Other bca,Extend
  bce,Other bd0,OLetter bd1,Other bd7,Extend bd8,Other be6,Numeric bf0,Other c00,Extend c05,OLetter
  c0d,Other c0e,OLetter c11,Other c12,OLetter c29,Other c2a,OLetter c3a,Other c3c,Extend c3d,OLetter
  c3e,Extend c45,Other c46,Extend c49,Other c4a,Extend c4e,Other c55,Extend c57,Other c58,OLetter
  c5b,Other c5d,OLetter c5e,Other c60,OLetter c62,Extend c64,Other c66,Numeric c70,Other c80,OLetter
  c81,Extend c84,Other c85,OLetter c8d,Other c8e,OLetter c91,Other c92,OLetter ca9,Other caa,OLetter
  cb4,Other cb5,OLetter cba,Other cbc,Extend cbd,OLetter cbe,Extend cc5,Other cc6,Extend cc9,Other
  cca,Extend cce,Other cd5,Extend cd7,Other cdd,OLetter cdf,Other ce0,OLetter ce2,Extend ce4,Other
  ce6,Numeric cf0,Other cf1,OLetter cf3,Extend cf4,Other d00,Extend d04,OLetter d0d,Other
  d0e,OLetter d11,Other d12,OLetter d3b,Extend d3d,OLetter d3e,Extend d45,Other d46,Extend d49,Other
  d4a,Extend d4e,OLetter d4f,Other d54,OLetter d57,Extend d58,Other d5f,OLetter d62,Extend d64,Other
  d66,Numeric d70,Other d7a,OLetter d80,Other d81,Extend d84,Other d85,OLetter d97,Other d9a,OLetter
  db2,Other db3,OLetter dbc,Other dbd,OLetter dbe,Other dc0,OLetter dc7,Other dca,Extend dcb,Other
  dcf,Extend dd5,Other dd6,Extend dd7,Other dd8,Extend de0,Other de6,Numeric df0,Other df2,Extend
  df4,Other e01,OLetter e31,Extend e32,OLetter e34,Extend e3b,Other e40,OLetter e47,Extend e4f,Other
  e50,Numeric e5a,Other e81,OLetter e83,Other e84,OLetter e85,Other e86,OLetter e8b,Other
  e8c,OLetter ea4,Other ea5,OLetter ea6,Other ea7,OLetter eb1,Extend eb2,OLetter eb4,Extend
  ebd,OLetter ebe,Other ec0,OLetter ec5,Other ec6,OLetter ec7,Other ec8,Extend ecf,Other ed0,Numeric
  eda,Other edc,OLetter ee0,Other f00,OLetter f01,Other f18,Extend f1a,Other f20,Numeric f2a,Other
  f35,Extend f36,Other f37,Extend f38,Other f39,Extend f3a,Close f3e,Extend f40,OLetter f48,Other
  f49,OLetter f6d,Other f71,Extend f85,Other f86,Extend f88,OLetter f8d,Extend f98,Other f99,Extend
  fbd,Other fc6,Extend fc7,Other 1000,OLetter 102b,Extend 103f,OLetter 1040,Numeric 104a,STerm
  104c,Other 1050,OLetter 1056,Extend 105a,OLetter 105e,Extend 1061,OLetter 1062,Extend 1065,OLetter
  1067,Extend 106e,OLetter 1071,Extend 1075,OLetter 1082,Extend 108e,OLetter 108f,Extend
  1090,Numeric 109a,Extend 109e,Other 10a0,Upper 10c6,Other 10c7,Upper 10c8,Other 10cd,Upper
  10ce,Other 10d0,OLetter 10fb,Other 10fc,Lower 10fd,OLetter 1249,Other 124a,OLetter 124e,Other
  1250,OLetter 1257,Other 1258,OLetter 1259,Other 125a,OLetter 125e,Other 1260,OLetter 1289,Other
  128a,OLetter 128e,Other 1290,OLetter 12b1,Other 12b2,OLetter 12b6,Other 12b8,OLetter 12bf,Other
  12c0,OLetter 12c1,Other 12c2,OLetter 12c6,Other 12c8,OLetter 12d7,Other 12d8,OLetter 1311,Other
  1312,OLetter 1316,Other 1318,OLetter 135b,Other 135d,Extend 1360,Other 1362,STerm 1363,Other
  1367,STerm 1369,Other 1380,OLetter 1390,Other 13a0,Upper 13f6,Other 13f8,Lower 13fe,Other
  1401,OLetter 166d,Other 166e,STerm 166f,OLetter 1680,Sp 1681,OLetter 169b,Close 169d,Other
  16a0,OLetter 16eb,Other 16ee,OLetter 16f9,Other 1700,OLetter 1712,Extend 1716,Other 171f,OLetter
  1732,Extend 1735,STerm 1737,Other 1740,OLetter 1752,Extend 1754,Other 1760,OLetter 176d,Other
  176e,OLetter 1771,Other 1772,Extend 1774,Other 1780,OLetter 17b4,Extend 17d4,STerm 17d6,Other
  17d7,OLetter 17d8,Other 17dc,OLetter 17dd,Extend 17de,Other 17e0,Numeric 17ea,Other 1802,SContinue
  1803,STerm 1804,Other 1808,SContinue 1809,STerm 180a,Other 180b,Extend 180e,Format 180f,Extend
  1810,Numeric 181a,Other 1820,OLetter 1879,Other 1880,OLetter 1885,Extend 1887,OLetter 18a9,Extend
  18aa,OLetter 18ab,Other 18b0,OLetter 18f6,Other 1900,OLetter 191f,Other 1920,Extend 192c,Other
  1930,Extend 193c,Other 1944,STerm 1946,Numeric 1950,OLetter 196e,Other 1970,OLetter 1975,Other
  1980,OLetter 19ac,Other 19b0,OLetter 19ca,Other 19d0,Numeric 19db,Other 1a00,OLetter 1a17,Extend
  1a1c,Other 1a20,OLetter 1a55,Extend 1a5f,Other 1a60,Extend 1a7d,Other 1a7f,Extend 1a80,Numeric
  1a8a,Other 1a90,Numeric 1a9a,Other 1aa7,OLetter 1aa8,STerm 1aac,Other 1ab0,Extend 1acf,Other
  1b00,Extend 1b05,OLetter 1b34,Extend 1b45,OLetter 1b4d,Other 1b4e,STerm 1b50,Numeric 1b5a,STerm
  1b5c,Other 1b5e,STerm 1b60,Other 1b6b,Extend 1b74,Other 1b7d,STerm 1b80,Extend 1b83,OLetter
  1ba1,Extend 1bae,OLetter 1bb0,Numeric 1bba,OLetter 1be6,Extend 1bf4,Other 1c00,OLetter 1c24,Extend
  1c38,Other 1c3b,STerm 1c3d,Other 1c40,Numeric 1c4a,Other 1c4d,OLetter 1c50,Numeric 1c5a,OLetter
  1c7e,STerm 1c80,Lower 1c89,Upper 1c8a,Lower 1c8b,Other 1c90,OLetter 1cbb,Other 1cbd,OLetter
  1cc0,Other 1cd0,Extend 1cd3,Other 1cd4,Extend 1ce9,OLetter 1ced,Extend 1cee,OLetter 1cf4,Extend
  1cf5,OLetter 1cf7,Extend 1cfa,OLetter 1cfb,Other 1d00,Lower 1dc0,Extend 1e00,Upper 1e01,Lower
  1e02,Upper 1e03,Lower 1e04,Upper 1e05,Lower 1e06,Upper 1e07,Lower 1e08,Upper 1e09,Lower 1e0a,Upper
  1e0b,Lower 1e0c,Upper 1e0d,Lower 1e0e,Upper 1e0f,Lower 1e10,Upper 1e11,Lower 1e12,Upper 1e13,Lower
  1e14,Upper 1e15,Lower 1e16,Upper 1e17,Lower 1e18,Upper 1e19,Lower 1e1a,Upper 1e1b,Lower 1e1c,Upper
  1e1d,Lower 1e1e,Upper 1e1f,Lower 1e20,Upper 1e21,Lower 1e22,Upper 1e23,Lower 1e24,Upper 1e25,Lower
  1e26,Upper 1e27,Lower 1e28,Upper 1e29,Lower 1e2a,Upper 1e2b,Lower 1e2c,Upper 1e2d,Lower 1e2e,Upper
  1e2f,Lower 1e30,Upper 1e31,Lower 1e32,Upper 1e33,Lower 1e34,Upper 1e35,Lower 1e36,Upper 1e37,Lower
  1e38,Upper 1e39,Lower 1e3a,Upper 1e3b,Lower 1e3c,Upper 1e3d,Lower 1e3e,Upper 1e3f,Lower 1e40,Upper
  1e41,Lower 1e42,Upper 1e43,Lower 1e44,Upper 1e45,Lower 1e46,Upper 1e47,Lower 1e48,Upper 1e49,Lower
  1e4a,Upper 1e4b,Lower 1e4c,Upper 1e4d,Lower 1e4e,Upper 1e4f,Lower 1e50,Upper 1e51,Lower 1e52,Upper
  1e53,Lower 1e54,Upper 1e55,Lower 1e56,Upper 1e57,Lower 1e58,Upper 1e59,Lower 1e5a,Upper 1e5b,Lower
  1e5c,Upper 1e5d,Lower 1e5e,Upper 1e5f,Lower 1e60,Upper 1e61,Lower 1e62,Upper 1e63,Lower 1e64,Upper
  1e65,Lower 1e66,Upper 1e67,Lower 1e68,Upper 1e69,Lower 1e6a,Upper 1e6b,Lower 1e6c,Upper 1e6d,Lower
  1e6e,Upper 1e6f,Lower 1e70,Upper 1e71,Lower 1e72,Upper 1e73,Lower 1e74,Upper 1e75,Lower 1e76,Upper
  1e77,Lower 1e78,Upper 1e79,Lower 1e7a,Upper 1e7b,Lower 1e7c,Upper 1e7d,Lower 1e7e,Upper 1e7f,Lower
  1e80,Upper 1e81,Lower 1e82,Upper 1e83,Lower 1e84,Upper 1e85,Lower 1e86,Upper 1e87,Lower 1e88,Upper
  1e89,Lower 1e8a,Upper 1e8b,Lower 1e8c,Upper 1e8d,Lower 1e8e,Upper 1e8f,Lower 1e90,Upper 1e91,Lower
  1e92,Upper 1e93,Lower 1e94,Upper 1e95,Lower 1e9e,Upper 1e9f,Lower 1ea0,Upper 1ea1,Lower 1ea2,Upper
  1ea3,Lower 1ea4,Upper 1ea5,Lower 1ea6,Upper 1ea7,Lower 1ea8,Upper 1ea9,Lower 1eaa,Upper 1eab,Lower
  1eac,Upper 1ead,Lower 1eae,Upper 1eaf,Lower 1eb0,Upper 1eb1,Lower 1eb2,Upper 1eb3,Lower 1eb4,Upper
  1eb5,Lower 1eb6,Upper 1eb7,Lower 1eb8,Upper 1eb9,Lower 1eba,Upper 1ebb,Lower 1ebc,Upper 1ebd,Lower
  1ebe,Upper 1ebf,Lower 1ec0,Upper 1ec1,Lower 1ec2,Upper 1ec3,Lower 1ec4,Upper 1ec5,Lower 1ec6,Upper
  1ec7,Lower 1ec8,Upper 1ec9,Lower 1eca,Upper 1ecb,Lower 1ecc,Upper 1ecd,Lower 1ece,Upper 1ecf,Lower
  1ed0,Upper 1ed1,Lower 1ed2,Upper 1ed3,Lower 1ed4,Upper 1ed5,Lower 1ed6,Upper 1ed7,Lower 1ed8,Upper
  1ed9,Lower 1eda,Upper 1edb,Lower 1edc,Upper 1edd,Lower 1ede,Upper 1edf,Lower 1ee0,Upper 1ee1,Lower
  1ee2,Upper 1ee3,Lower 1ee4,Upper 1ee5,Lower 1ee6,Upper 1ee7,Lower 1ee8,Upper 1ee9,Lower 1eea,Upper
  1eeb,Lower 1eec,Upper 1eed,Lower 1eee,Upper 1eef,Lower 1ef0,Upper 1ef1,Lower 1ef2,Upper 1ef3,Lower
  1ef4,Upper 1ef5,Lower 1ef6,Upper 1ef7,Lower 1ef8,Upper 1ef9,Lower 1efa,Upper 1efb,Lower 1efc,Upper
  1efd,Lower 1efe,Upper 1eff,Lower 1f08,Upper 1f10,Lower 1f16,Other 1f18,Upper 1f1e,Other 1f20,Lower
  1f28,Upper 1f30,Lower 1f38,Upper 1f40,Lower 1f46,Other 1f48,Upper 1f4e,Other 1f50,Lower 1f58,Other
  1f59,Upper 1f5a,Other 1f5b,Upper 1f5c,Other 1f5d,Upper 1f5e,Other 1f5f,Upper 1f60,Lower 1f68,Upper
  1f70,Lower 1f7e,Other 1f80,Lower 1f88,Upper 1f90,Lower 1f98,Upper 1fa0,Lower 1fa8,Upper 1fb0,Lower
  1fb5,Other 1fb6,Lower 1fb8,Upper 1fbd,Other 1fbe,Lower 1fbf,Other 1fc2,Lower 1fc5,Other 1fc6,Lower
  1fc8,Upper 1fcd,Other 1fd0,Lower 1fd4,Other 1fd6,Lower 1fd8,Upper 1fdc,Other 1fe0,Lower 1fe8,Upper
  1fed,Other 1ff2,Lower 1ff5,Other 1ff6,Lower 1ff8,Upper 1ffd,Other 2000,Sp 200b,Format 200c,Extend
  200e,Format 2010,Other 2013,SContinue 2015,Other 2018,Close 2020,Other 2024,ATerm 2025,Other
  2028,Sep 202a,Format 202f,Sp 2030,Other 2039,Close 203b,Other 203c,STerm 203e,Other 2045,Close
  2047,STerm 204a,Other 205f,Sp 2060,Format 2065,Other 2066,Format 2070,Other 2071,Lower 2072,Other
  207d,Close 207f,Lower 2080,Other 208d,Close 208f,Other 2090,Lower 209d,Other 20d0,Extend
  20f1,Other 2102,Upper 2103,Other 2107,Upper 2108,Other 210a,Lower 210b,Upper 210e,Lower 2110,Upper
  2113,Lower 2114,Other 2115,Upper 2116,Other 2119,Upper 211e,Other 2124,Upper 2125,Other 2126,Upper
  2127,Other 2128,Upper 2129,Other 212a,Upper 212e,Other 212f,Lower 2130,Upper 2134,Lower
  2135,OLetter 2139,Lower 213a,Other 213c,Lower 213e,Upper 2140,Other 2145,Upper 2146,Lower
  214a,Other 214e,Lower 214f,Other 2160,Upper 2170,Lower 2180,OLetter 2183,Upper 2184,Lower
  2185,OLetter 2189,Other 2308,Close 230c,Other 2329,Close 232b,Other 24b6,Upper 24d0,Lower
  24ea,Other 275b,Close 2761,Other 2768,Close 2776,Other 27c5,Close 27c7,Other 27e6,Close 27f0,Other
  2983,Close 2999,Other 29d8,Close 29dc,Other 29fc,Close 29fe,Other 2c00,Upper 2c30,Lower 2c60,Upper
  2c61,Lower 2c62,Upper 2c65,Lower 2c67,Upper 2c68,Lower 2c69,Upper 2c6a,Lower 2c6b,Upper 2c6c,Lower
  2c6d,Upper 2c71,Lower 2c72,Upper 2c73,Lower 2c75,Upper 2c76,Lower 2c7e,Upper 2c81,Lower 2c82,Upper
  2c83,Lower 2c84,Upper 2c85,Lower 2c86,Upper 2c87,Lower 2c88,Upper 2c89,Lower 2c8a,Upper 2c8b,Lower
  2c8c,Upper 2c8d,Lower 2c8e,Upper 2c8f,Lower 2c90,Upper 2c91,Lower 2c92,Upper 2c93,Lower 2c94,Upper
  2c95,Lower 2c96,Upper 2c97,Lower 2c98,Upper 2c99,Lower 2c9a,Upper 2c9b,Lower 2c9c,Upper 2c9d,Lower
  2c9e,Upper 2c9f,Lower 2ca0,Upper 2ca1,Lower 2ca2,Upper 2ca3,Lower 2ca4,Upper 2ca5,Lower 2ca6,Upper
  2ca7,Lower 2ca8,Upper 2ca9,Lower 2caa,Upper 2cab,Lower 2cac,Upper 2cad,Lower 2cae,Upper 2caf,Lower
  2cb0,Upper 2cb1,Lower 2cb2,Upper 2cb3,Lower 2cb4,Upper 2cb5,Lower 2cb6,Upper 2cb7,Lower 2cb8,Upper
  2cb9,Lower 2cba,Upper 2cbb,Lower 2cbc,Upper 2cbd,Lower 2cbe,Upper 2cbf,Lower 2cc0,Upper 2cc1,Lower
  2cc2,Upper 2cc3,Lower 2cc4,Upper 2cc5,Lower 2cc6,Upper 2cc7,Lower 2cc8,Upper 2cc9,Lower 2cca,Upper
  2ccb,Lower 2ccc,Upper 2ccd,Lower 2cce,Upper 2ccf,Lower 2cd0,Upper 2cd1,Lower 2cd2,Upper 2cd3,Lower
  2cd4,Upper 2cd5,Lower 2cd6,Upper 2cd7,Lower 2cd8,Upper 2cd9,Lower 2cda,Upper 2cdb,Lower 2cdc,Upper
  2cdd,Lower 2cde,Upper 2cdf,Lower 2ce0,Upper 2ce1,Lower 2ce2,Upper 2ce3,Lower 2ce5,Other 2ceb,Upper
  2cec,Lower 2ced,Upper 2cee,Lower 2cef,Extend 2cf2,Upper 2cf3,Lower 2cf4,Other 2cf9,STerm
  2cfc,Other 2d00,Lower 2d26,Other 2d27,Lower 2d28,Other 2d2d,Lower 2d2e,Other 2d30,OLetter
  2d68,Other 2d6f,OLetter 2d70,Other 2d7f,Extend 2d80,OLetter 2d97,Other 2da0,OLetter 2da7,Other
  2da8,OLetter 2daf,Other 2db0,OLetter 2db7,Other 2db8,OLetter 2dbf,Other 2dc0,OLetter 2dc7,Other
  2dc8,OLetter 2dcf,Other 2dd0,OLetter 2dd7,Other 2dd8,OLetter 2ddf,Other 2de0,Extend 2e00,Close
  2e0e,Other 2e1c,Close 2e1e,Other 2e20,Close 2e2a,Other 2e2e,STerm 2e2f,OLetter 2e30,Other
  2e3c,STerm 2e3d,Other 2e42,Close 2e43,Other 2e53,STerm 2e55,Close 2e5d,Other 3000,Sp
  3001,SContinue 3002,STerm 3003,Other 3005,OLetter 3008,Close 3012,Other 3014,Close 301c,Other
  301d,Close 3020,Other 3021,OLetter 302a,Extend 3030,Other 3031,OLetter 3036,Other 3038,OLetter
  303d,Other 3041,OLetter 3097,Other 3099,Extend 309b,Other 309d,OLetter 30a0,Other 30a1,OLetter
  30fb,Other 30fc,OLetter 3100,Other 3105,OLetter 3130,Other 3131,OLetter 318f,Other 31a0,OLetter
  31c0,Other 31f0,OLetter 3200,Other 3400,OLetter 4dc0,Other 4e00,OLetter a48d,Other a4d0,OLetter
  a4fe,Other a4ff,STerm a500,OLetter a60d,Other a60e,STerm a610,OLetter a620,Numeric a62a,OLetter
  a62c,Other a640,Upper a641,Lower a642,Upper a643,Lower a644,Upper a645,Lower a646,Upper a647,Lower
  a648,Upper a649,Lower a64a,Upper a64b,Lower a64c,Upper a64d,Lower a64e,Upper a64f,Lower a650,Upper
  a651,Lower a652,Upper a653,Lower a654,Upper a655,Lower a656,Upper a657,Lower a658,Upper a659,Lower
  a65a,Upper a65b,Lower a65c,Upper a65d,Lower a65e,Upper a65f,Lower a660,Upper a661,Lower a662,Upper
  a663,Lower a664,Upper a665,Lower a666,Upper a667,Lower a668,Upper a669,Lower a66a,Upper a66b,Lower
  a66c,Upper a66d,Lower a66e,OLetter a66f,Extend a673,Other a674,Extend a67e,Other a67f,OLetter
  a680,Upper a681,Lower a682,Upper a683,Lower a684,Upper a685,Lower a686,Upper a687,Lower a688,Upper
  a689,Lower a68a,Upper a68b,Lower a68c,Upper a68d,Lower a68e,Upper a68f,Lower a690,Upper a691,Lower
  a692,Upper a693,Lower a694,Upper a695,Lower a696,Upper a697,Lower a698,Upper a699,Lower a69a,Upper
  a69b,Lower a69e,Extend a6a0,OLetter a6f0,Extend a6f2,Other a6f3,STerm a6f4,Other a6f7,STerm
  a6f8,Other a717,OLetter a720,Other a722,Upper a723,Lower a724,Upper a725,Lower a726,Upper
  a727,Lower a728,Upper a729,Lower a72a,Upper a72b,Lower a72c,Upper a72d,Lower a72e,Upper a72f,Lower
  a732,Upper a733,Lower a734,Upper a735,Lower a736,Upper a737,Lower a738,Upper a739,Lower a73a,Upper
  a73b,Lower a73c,Upper a73d,Lower a73e,Upper a73f,Lower a740,Upper a741,Lower a742,Upper a743,Lower
  a744,Upper a745,Lower a746,Upper a747,Lower a748,Upper a749,Lower a74a,Upper a74b,Lower a74c,Upper
  a74d,Lower a74e,Upper a74f,Lower a750,Upper a751,Lower a752,Upper a753,Lower a754,Upper a755,Lower
  a756,Upper a757,Lower a758,Upper a759,Lower a75a,Upper a75b,Lower a75c,Upper a75d,Lower a75e,Upper
  a75f,Lower a760,Upper a761,Lower a762,Upper a763,Lower a764,Upper a765,Lower a766,Upper a767,Lower
  a768,Upper a769,Lower a76a,Upper a76b,Lower a76c,Upper a76d,Lower a76e,Upper a76f,Lower a779,Upper
  a77a,Lower a77b,Upper a77c,Lower a77d,Upper a77f,Lower a780,Upper a781,Lower a782,Upper a783,Lower
  a784,Upper a785,Lower a786,Upper a787,Lower a788,OLetter a789,Other a78b,Upper a78c,Lower
  a78d,Upper a78e,Lower a78f,OLetter a790,Upper a791,Lower a792,Upper a793,Lower a796,Upper
  a797,Lower a798,Upper a799,Lower a79a,Upper a79b,Lower a79c,Upper a79d,Lower a79e,Upper a79f,Lower
  a7a0,Upper a7a1,Lower a7a2,Upper a7a3,Lower a7a4,Upper a7a5,Lower a7a6,Upper a7a7,Lower a7a8,Upper
  a7a9,Lower a7aa,Upper a7af,Lower a7b0,Upper a7b5,Lower a7b6,Upper a7b7,Lower a7b8,Upper a7b9,Lower
  a7ba,Upper a7bb,Lower a7bc,Upper a7bd,Lower a7be,Upper a7bf,Lower a7c0,Upper a7c1,Lower a7c2,Upper
  a7c3,Lower a7c4,Upper a7c8,Lower a7c9,Upper a7ca,Lower a7cb,Upper a7cd,Lower a7ce,Other a7d0,Upper
  a7d1,Lower a7d2,Other a7d3,Lower a7d4,Other a7d5,Lower a7d6,Upper a7d7,Lower a7d8,Upper a7d9,Lower
  a7da,Upper a7db,Lower a7dc,Upper a7dd,Other a7f2,Lower a7f5,Upper a7f6,Lower a7f7,OLetter
  a7f8,Lower a7fb,OLetter a802,Extend a803,OLetter a806,Extend a807,OLetter a80b,Extend a80c,OLetter
  a823,Extend a828,Other a82c,Extend a82d,Other a840,OLetter a874,Other a876,STerm a878,Other
  a880,Extend a882,OLetter a8b4,Extend a8c6,Other a8ce,STerm a8d0,Numeric a8da,Other a8e0,Extend
  a8f2,OLetter a8f8,Other a8fb,OLetter a8fc,Other a8fd,OLetter a8ff,Extend a900,Numeric a90a,OLetter
  a926,Extend a92e,Other a92f,STerm a930,OLetter a947,Extend a954,Other a960,OLetter a97d,Other
  a980,Extend a984,OLetter a9b3,Extend a9c1,Other a9c8,STerm a9ca,Other a9cf,OLetter a9d0,Numeric
  a9da,Other a9e0,OLetter a9e5,Extend a9e6,OLetter a9f0,Numeric a9fa,OLetter a9ff,Other aa00,OLetter
  aa29,Extend aa37,Other aa40,OLetter aa43,Extend aa44,OLetter aa4c,Extend aa4e,Other aa50,Numeric
  aa5a,Other aa5d,STerm aa60,OLetter aa77,Other aa7a,OLetter aa7b,Extend aa7e,OLetter aab0,Extend
  aab1,OLetter aab2,Extend aab5,OLetter aab7,Extend aab9,OLetter aabe,Extend aac0,OLetter
  aac1,Extend aac2,OLetter aac3,Other aadb,OLetter aade,Other aae0,OLetter aaeb,Extend aaf0,STerm
  aaf2,OLetter aaf5,Extend aaf7,Other ab01,OLetter ab07,Other ab09,OLetter ab0f,Other ab11,OLetter
  ab17,Other ab20,OLetter ab27,Other ab28,OLetter ab2f,Other ab30,Lower ab5b,Other ab5c,Lower
  ab6a,Other ab70,Lower abc0,OLetter abe3,Extend abeb,STerm abec,Extend abee,Other abf0,Numeric
  abfa,Other ac00,OLetter d7a4,Other d7b0,OLetter d7c7,Other d7cb,OLetter d7fc,Other f900,OLetter
  fa6e,Other fa70,OLetter fada,Other fb00,Lower fb07,Other fb13,Lower fb18,Other fb1d,OLetter
  fb1e,Extend fb1f,OLetter fb29,Other fb2a,OLetter fb37,Other fb38,OLetter fb3d,Other fb3e,OLetter
  fb3f,Other fb40,OLetter fb42,Other fb43,OLetter fb45,Other fb46,OLetter fbb2,Other fbd3,OLetter
  fd3e,Close fd40,Other fd50,OLetter fd90,Other fd92,OLetter fdc8,Other fdf0,OLetter fdfc,Other
  fe00,Extend fe10,SContinue fe12,STerm fe13,SContinue fe15,STerm fe17,Close fe19,Other fe20,Extend
  fe30,Other fe31,SContinue fe33,Other fe35,Close fe45,Other fe47,Close fe49,Other fe50,SContinue
  fe52,ATerm fe53,Other fe54,SContinue fe56,STerm fe58,SContinue fe59,Close fe5f,Other
  fe63,SContinue fe64,Other fe70,OLetter fe75,Other fe76,OLetter fefd,Other feff,Format ff00,Other
  ff01,STerm ff02,Other ff08,Close ff0a,Other ff0c,SContinue ff0e,ATerm ff0f,Other ff10,Numeric
  ff1a,SContinue ff1c,Other ff1f,STerm ff20,Other ff21,Upper ff3b,Close ff3c,Other ff3d,Close
  ff3e,Other ff41,Lower ff5b,Close ff5c,Other ff5d,Close ff5e,Other ff5f,Close ff61,STerm ff62,Close
  ff64,SContinue ff65,Other ff66,OLetter ff9e,Extend ffa0,OLetter ffbf,Other ffc2,OLetter ffc8,Other
  ffca,OLetter ffd0,Other ffd2,OLetter ffd8,Other ffda,OLetter ffdd,Other fff9,Format fffc,Other
  10000,OLetter 1000c,Other 1000d,OLetter 10027,Other 10028,OLetter 1003b,Other 1003c,OLetter
  1003e,Other 1003f,OLetter 1004e,Other 10050,OLetter 1005e,Other 10080,OLetter 100fb,Other
  10140,OLetter 10175,Other 101fd,Extend 101fe,Other 10280,OLetter 1029d,Other 102a0,OLetter
  102d1,Other 102e0,Extend 102e1,Other 10300,OLetter 10320,Other 1032d,OLetter 1034b,Other
  10350,OLetter 10376,Extend 1037b,Other 10380,OLetter 1039e,Other 103a0,OLetter 103c4,Other
  103c8,OLetter 103d0,Other 103d1,OLetter 103d6,Other 10400,Upper 10428,Lower 10450,OLetter
  1049e,Other 104a0,Numeric 104aa,Other 104b0,Upper 104d4,Other 104d8,Lower 104fc,Other
  10500,OLetter 10528,Other 10530,OLetter 10564,Other 10570,Upper 1057b,Other 1057c,Upper
  1058b,Other 1058c,Upper 10593,Other 10594,Upper 10596,Other 10597,Lower 105a2,Other 105a3,Lower
  105b2,Other 105b3,Lower 105ba,Other 105bb,Lower 105bd,Other 105c0,OLetter 105f4,Other
  10600,OLetter 10737,Other 10740,OLetter 10756,Other 10760,OLetter 10768,Other 10780,Lower
  10781,OLetter 10783,Lower 10786,Other 10787,Lower 107b1,Other 107b2,Lower 107bb,Other
  10800,OLetter 10806,Other 10808,OLetter 10809,Other 1080a,OLetter 10836,Other 10837,OLetter
  10839,Other 1083c,OLetter 1083d,Other 1083f,OLetter 10856,Other 10860,OLetter 10877,Other
  10880,OLetter 1089f,Other 108e0,OLetter 108f3,Other 108f4,OLetter 108f6,Other 10900,OLetter
  10916,Other 10920,OLetter 1093a,Other 10980,OLetter 109b8,Other 109be,OLetter 109c0,Other
  10a00,OLetter 10a01,Extend 10a04,Other 10a05,Extend 10a07,Other 10a0c,Extend 10a10,OLetter
  10a14,Other 10a15,OLetter 10a18,Other 10a19,OLetter 10a36,Other 10a38,Extend 10a3b,Other
  10a3f,Extend 10a40,Other 10a56,STerm 10a58,Other 10a60,OLetter 10a7d,Other 10a80,OLetter
  10a9d,Other 10ac0,OLetter 10ac8,Other 10ac9,OLetter 10ae5,Extend 10ae7,Other 10b00,OLetter
  10b36,Other 10b40,OLetter 10b56,Other 10b60,OLetter 10b73,Other 10b80,OLetter 10b92,Other
  10c00,OLetter 10c49,Other 10c80,Upper 10cb3,Other 10cc0,Lower 10cf3,Other 10d00,OLetter
  10d24,Extend 10d28,Other 10d30,Numeric 10d3a,Other 10d40,Numeric 10d4a,OLetter 10d50,Upper
  10d66,Other 10d69,Extend 10d6e,Other 10d6f,OLetter 10d70,Lower 10d86,Other 10e80,OLetter
  10eaa,Other 10eab,Extend 10ead,Other 10eb0,OLetter 10eb2,Other 10ec2,OLetter 10ec5,Other
  10efc,Extend 10f00,OLetter 10f1d,Other 10f27,OLetter 10f28,Other 10f30,OLetter 10f46,Extend
  10f51,Other 10f55,STerm 10f5a,Other 10f70,OLetter 10f82,Extend 10f86,STerm 10f8a,Other
  10fb0,OLetter 10fc5,Other 10fe0,OLetter 10ff7,Other 11000,Extend 11003,OLetter 11038,Extend
  11047,STerm 11049,Other 11066,Numeric 11070,Extend 11071,OLetter 11073,Extend 11075,OLetter
  11076,Other 1107f,Extend 11083,OLetter 110b0,Extend 110bb,Other 110bd,Numeric 110be,STerm
  110c2,Extend 110c3,Other 110cd,Numeric 110ce,Other 110d0,OLetter 110e9,Other 110f0,Numeric
  110fa,Other 11100,Extend 11103,OLetter 11127,Extend 11135,Other 11136,Numeric 11140,Other
  11141,STerm 11144,OLetter 11145,Extend 11147,OLetter 11148,Other 11150,OLetter 11173,Extend
  11174,Other 11176,OLetter 11177,Other 11180,Extend 11183,OLetter 111b3,Extend 111c1,OLetter
  111c5,STerm 111c7,Other 111c9,Extend 111cd,STerm 111ce,Extend 111d0,Numeric 111da,OLetter
  111db,Other 111dc,OLetter 111dd,Other 111de,STerm 111e0,Other 11200,OLetter 11212,Other
  11213,OLetter 1122c,Extend 11238,STerm 1123a,Other 1123b,STerm 1123d,Other 1123e,Extend
  1123f,OLetter 11241,Extend 11242,Other 11280,OLetter 11287,Other 11288,OLetter 11289,Other
  1128a,OLetter 1128e,Other 1128f,OLetter 1129e,Other 1129f,OLetter 112a9,STerm 112aa,Other
  112b0,OLetter 112df,Extend 112eb,Other 112f0,Numeric 112fa,Other 11300,Extend 11304,Other
  11305,OLetter 1130d,Other 1130f,OLetter 11311,Other 11313,OLetter 11329,Other 1132a,OLetter
  11331,Other 11332,OLetter 11334,Other 11335,OLetter 1133a,Other 1133b,Extend 1133d,OLetter
  1133e,Extend 11345,Other 11347,Extend 11349,Other 1134b,Extend 1134e,Other 11350,OLetter
  11351,Other 11357,Extend 11358,Other 1135d,OLetter 11362,Extend 11364,Other 11366,Extend
  1136d,Other 11370,Extend 11375,Other 11380,OLetter 1138a,Other 1138b,OLetter 1138c,Other
  1138e,OLetter 1138f,Other 11390,OLetter 113b6,Other 113b7,OLetter 113b8,Extend 113c1,Other
  113c2,Extend 113c3,Other 113c5,Extend 113c6,Other 113c7,Extend 113cb,Other 113cc,Extend
  113d1,OLetter 113d2,Extend 113d3,OLetter 113d4,STerm 113d6,Other 113e1,Extend 113e3,Other
  11400,OLetter 11435,Extend 11447,OLetter 1144b,STerm 1144d,Other 11450,Numeric 1145a,Other
  1145e,Extend 1145f,OLetter 11462,Other 11480,OLetter 114b0,Extend 114c4,OLetter 114c6,Other
  114c7,OLetter 114c8,Other 114d0,Numeric 114da,Other 11580,OLetter 115af,Extend 115b6,Other
  115b8,Extend 115c1,Other 115c2,STerm 115c4,Other 115c9,STerm 115d8,OLetter 115dc,Extend
  115de,Other 11600,OLetter 11630,Extend 11641,STerm 11643,Other 11644,OLetter 11645,Other
  11650,Numeric 1165a,Other 11680,OLetter 116ab,Extend 116b8,OLetter 116b9,Other 116c0,Numeric
  116ca,Other 116d0,Numeric 116e4,Other 11700,OLetter 1171b,Other 1171d,Extend 1172c,Other
  11730,Numeric 1173a,Other 1173c,STerm 1173f,Other 11740,OLetter 11747,Other 11800,OLetter
  1182c,Extend 1183b,Other 118a0,Upper 118c0,Lower 118e0,Numeric 118ea,Other 118ff,OLetter
  11907,Other 11909,OLetter 1190a,Other 1190c,OLetter 11914,Other 11915,OLetter 11917,Other
  11918,OLetter 11930,Extend 11936,Other 11937,Extend 11939,Other 1193b,Extend 1193f,OLetter
  11940,Extend 11941,OLetter 11942,Extend 11944,STerm 11945,Other 11946,STerm 11947,Other
  11950,Numeric 1195a,Other 119a0,OLetter 119a8,Other 119aa,OLetter 119d1,Extend 119d8,Other
  119da,Extend 119e1,OLetter 119e2,Other 119e3,OLetter 119e4,Extend 119e5,Other 11a00,OLetter
  11a01,Extend 11a0b,OLetter 11a33,Extend 11a3a,OLetter 11a3b,Extend 11a3f,Other 11a42,STerm
  11a44,Other 11a47,Extend 11a48,Other 11a50,OLetter 11a51,Extend 11a5c,OLetter 11a8a,Extend
  11a9a,Other 11a9b,STerm 11a9d,OLetter 11a9e,Other 11ab0,OLetter 11af9,Other 11bc0,OLetter
  11be1,Other 11bf0,Numeric 11bfa,Other 11c00,OLetter 11c09,Other 11c0a,OLetter 11c2f,Extend
  11c37,Other 11c38,Extend 11c40,OLetter 11c41,STerm 11c43,Other 11c50,Numeric 11c5a,Other
  11c72,OLetter 11c90,Other 11c92,Extend 11ca8,Other 11ca9,Extend 11cb7,Other 11d00,OLetter
  11d07,Other 11d08,OLetter 11d0a,Other 11d0b,OLetter 11d31,Extend 11d37,Other 11d3a,Extend
  11d3b,Other 11d3c,Extend 11d3e,Other 11d3f,Extend 11d46,OLetter 11d47,Extend 11d48,Other
  11d50,Numeric 11d5a,Other 11d60,OLetter 11d66,Other 11d67,OLetter 11d69,Other 11d6a,OLetter
  11d8a,Extend 11d8f,Other 11d90,Extend 11d92,Other 11d93,Extend 11d98,OLetter 11d99,Other
  11da0,Numeric 11daa,Other 11ee0,OLetter 11ef3,Extend 11ef7,STerm 11ef9,Other 11f00,Extend
  11f02,OLetter 11f03,Extend 11f04,OLetter 11f11,Other 11f12,OLetter 11f34,Extend 11f3b,Other
  11f3e,Extend 11f43,STerm 11f45,Other 11f50,Numeric 11f5a,Extend 11f5b,Other 11fb0,OLetter
  11fb1,Other 12000,OLetter 1239a,Other 12400,OLetter 1246f,Other 12480,OLetter 12544,Other
  12f90,OLetter 12ff1,Other 13000,OLetter 13430,Format 13440,Extend 13441,OLetter 13447,Extend
  13456,Other 13460,OLetter 143fb,Other 14400,OLetter 14647,Other 16100,OLetter 1611e,Extend
  16130,Numeric 1613a,Other 16800,OLetter 16a39,Other 16a40,OLetter 16a5f,Other 16a60,Numeric
  16a6a,Other 16a6e,STerm 16a70,OLetter 16abf,Other 16ac0,Numeric 16aca,Other 16ad0,OLetter
  16aee,Other 16af0,Extend 16af5,STerm 16af6,Other 16b00,OLetter 16b30,Extend 16b37,STerm
  16b39,Other 16b40,OLetter 16b44,STerm 16b45,Other 16b50,Numeric 16b5a,Other 16b63,OLetter
  16b78,Other 16b7d,OLetter 16b90,Other 16d40,OLetter 16d6d,Other 16d6e,STerm 16d70,Numeric
  16d7a,Other 16e40,Upper 16e60,Lower 16e80,Other 16e98,STerm 16e99,Other 16f00,OLetter 16f4b,Other
  16f4f,Extend 16f50,OLetter 16f51,Extend 16f88,Other 16f8f,Extend 16f93,OLetter 16fa0,Other
  16fe0,OLetter 16fe2,Other 16fe3,OLetter 16fe4,Extend 16fe5,Other 16ff0,Extend 16ff2,Other
  17000,OLetter 187f8,Other 18800,OLetter 18cd6,Other 18cff,OLetter 18d09,Other 1aff0,OLetter
  1aff4,Other 1aff5,OLetter 1affc,Other 1affd,OLetter 1afff,Other 1b000,OLetter 1b123,Other
  1b132,OLetter 1b133,Other 1b150,OLetter 1b153,Other 1b155,OLetter 1b156,Other 1b164,OLetter
  1b168,Other 1b170,OLetter 1b2fc,Other 1bc00,OLetter 1bc6b,Other 1bc70,OLetter 1bc7d,Other
  1bc80,OLetter 1bc89,Other 1bc90,OLetter 1bc9a,Other 1bc9d,Extend 1bc9f,STerm 1bca0,Format
  1bca4,Other 1ccf0,Numeric 1ccfa,Other 1cf00,Extend 1cf2e,Other 1cf30,Extend 1cf47,Other
  1d165,Extend 1d16a,Other 1d16d,Extend 1d173,Format 1d17b,Extend 1d183,Other 1d185,Extend
  1d18c,Other 1d1aa,Extend 1d1ae,Other 1d242,Extend 1d245,Other 1d400,Upper 1d41a,Lower 1d434,Upper
  1d44e,Lower 1d455,Other 1d456,Lower 1d468,Upper 1d482,Lower 1d49c,Upper 1d49d,Other 1d49e,Upper
  1d4a0,Other 1d4a2,Upper 1d4a3,Other 1d4a5,Upper 1d4a7,Other 1d4a9,Upper 1d4ad,Other 1d4ae,Upper
  1d4b6,Lower 1d4ba,Other 1d4bb,Lower 1d4bc,Other 1d4bd,Lower 1d4c4,Other 1d4c5,Lower 1d4d0,Upper
  1d4ea,Lower 1d504,Upper 1d506,Other 1d507,Upper 1d50b,Other 1d50d,Upper 1d515,Other 1d516,Upper
  1d51d,Other 1d51e,Lower 1d538,Upper 1d53a,Other 1d53b,Upper 1d53f,Other 1d540,Upper 1d545,Other
  1d546,Upper 1d547,Other 1d54a,Upper 1d551,Other 1d552,Lower 1d56c,Upper 1d586,Lower 1d5a0,Upper
  1d5ba,Lower 1d5d4,Upper 1d5ee,Lower 1d608,Upper 1d622,Lower 1d63c,Upper 1d656,Lower 1d670,Upper
  1d68a,Lower 1d6a6,Other 1d6a8,Upper 1d6c1,Other 1d6c2,Lower 1d6db,Other 1d6dc,Lower 1d6e2,Upper
  1d6fb,Other 1d6fc,Lower 1d715,Other 1d716,Lower 1d71c,Upper 1d735,Other 1d736,Lower 1d74f,Other
  1d750,Lower 1d756,Upper 1d76f,Other 1d770,Lower 1d789,Other 1d78a,Lower 1d790,Upper 1d7a9,Other
  1d7aa,Lower 1d7c3,Other 1d7c4,Lower 1d7ca,Upper 1d7cb,Lower 1d7cc,Other 1d7ce,Numeric 1d800,Other
  1da00,Extend 1da37,Other 1da3b,Extend 1da6d,Other 1da75,Extend 1da76,Other 1da84,Extend
  1da85,Other 1da88,STerm 1da89,Other 1da9b,Extend 1daa0,Other 1daa1,Extend 1dab0,Other 1df00,Lower
  1df0a,OLetter 1df0b,Lower 1df1f,Other 1df25,Lower 1df2b,Other 1e000,Extend 1e007,Other
  1e008,Extend 1e019,Other 1e01b,Extend 1e022,Other 1e023,Extend 1e025,Other 1e026,Extend
  1e02b,Other 1e030,Lower 1e06e,Other 1e08f,Extend 1e090,Other 1e100,OLetter 1e12d,Other
  1e130,Extend 1e137,OLetter 1e13e,Other 1e140,Numeric 1e14a,Other 1e14e,OLetter 1e14f,Other
  1e290,OLetter 1e2ae,Extend 1e2af,Other 1e2c0,OLetter 1e2ec,Extend 1e2f0,Numeric 1e2fa,Other
  1e4d0,OLetter 1e4ec,Extend 1e4f0,Numeric 1e4fa,Other 1e5d0,OLetter 1e5ee,Extend 1e5f0,OLetter
  1e5f1,Numeric 1e5fb,Other 1e7e0,OLetter 1e7e7,Other 1e7e8,OLetter 1e7ec,Other 1e7ed,OLetter
  1e7ef,Other 1e7f0,OLetter 1e7ff,Other 1e800,OLetter 1e8c5,Other 1e8d0,Extend 1e8d7,Other
  1e900,Upper 1e922,Lower 1e944,Extend 1e94b,OLetter 1e94c,Other 1e950,Numeric 1e95a,Other
  1ee00,OLetter 1ee04,Other 1ee05,OLetter 1ee20,Other 1ee21,OLetter 1ee23,Other 1ee24,OLetter
  1ee25,Other 1ee27,OLetter 1ee28,Other 1ee29,OLetter 1ee33,Other 1ee34,OLetter 1ee38,Other
  1ee39,OLetter 1ee3a,Other 1ee3b,OLetter 1ee3c,Other 1ee42,OLetter 1ee43,Other 1ee47,OLetter
  1ee48,Other 1ee49,OLetter 1ee4a,Other 1ee4b,OLetter 1ee4c,Other 1ee4d,OLetter 1ee50,Other
  1ee51,OLetter 1ee53,Other 1ee54,OLetter 1ee55,Other 1ee57,OLetter 1ee58,Other 1ee59,OLetter
  1ee5a,Other 1ee5b,OLetter 1ee5c,Other 1ee5d,OLetter 1ee5e,Other 1ee5f,OLetter 1ee60,Other
  1ee61,OLetter 1ee63,Other 1ee64,OLetter 1ee65,Other 1ee67,OLetter 1ee6b,Other 1ee6c,OLetter
  1ee73,Other 1ee74,OLetter 1ee78,Other 1ee79,OLetter 1ee7d,Other 1ee7e,OLetter 1ee7f,Other
  1ee80,OLetter 1ee8a,Other 1ee8b,OLetter 1ee9c,Other 1eea1,OLetter 1eea4,Other 1eea5,OLetter
  1eeaa,Other 1eeab,OLetter 1eebc,Other 1f130,Upper 1f14a,Other 1f150,Upper 1f16a,Other 1f170,Upper
  1f18a,Other 1f676,Close 1f679,Other 1fbf0,Numeric 1fbfa,Other 20000,OLetter 2a6e0,Other
  2a700,OLetter 2b73a,Other 2b740,OLetter 2b81e,Other 2b820,OLetter 2cea2,Other 2ceb0,OLetter
  2ebe1,Other 2ebf0,OLetter 2ee5e,Other 2f800,OLetter 2fa1e,Other 30000,OLetter 3134b,Other
  31350,OLetter 323b0,Other e0001,Format e0002,Other e0020,Extend e0080,Other e0100,Extend
  e01f0,Other"

/-- Each spelling of a kind's name with the long name. The kind of all other code points has no name here. -/
def names : List (String × String) := Table.spellings
  "AT:ATerm ATerm:ATerm CL:Close Close:Close FO:Format Format:Format LO:Lower Lower:Lower NU:Numeric
  Numeric:Numeric LE:OLetter OLetter:OLetter SE:Sep Sep:Sep SP:Sp Sp:Sp ST:STerm STerm:STerm
  UP:Upper Upper:Upper CR:CR EX:Extend Extend:Extend LF:LF SC:SContinue SContinue:SContinue"

def members (name : String) : CodeSet := Table.members runs (· = name)

end Descent.SentenceBreak
