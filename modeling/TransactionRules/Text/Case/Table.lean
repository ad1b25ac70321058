import TransactionRules.Text.Ranges

/-!
# Capitals and small letters

The capital letters with their distances to the small ones, and the two classes of characters by
which a sigma is known to end a word.
-/

namespace TransactionRules

/-- First capital letter, count, step and distance to the small letter. -/
def smallLetterRuns : List (Nat × Nat × Nat × Int) :=
  [(0x41, 26, 1, 32), (0xc0, 23, 1, 32), (0xd8, 7, 1, 32), (0x100, 24, 2, 1), (0x132, 3, 2, 1),
   (0x139, 8, 2, 1), (0x14a, 23, 2, 1), (0x178, 1, 1, -121), (0x179, 3, 2, 1), (0x181, 1, 1, 210),
   (0x182, 2, 2, 1), (0x186, 1, 1, 206), (0x187, 1, 1, 1), (0x189, 2, 1, 205), (0x18b, 1, 1, 1),
   (0x18e, 1, 1, 79), (0x18f, 1, 1, 202), (0x190, 1, 1, 203), (0x191, 1, 1, 1), (0x193, 1, 1,
   205), (0x194, 1, 1, 207), (0x196, 1, 1, 211), (0x197, 1, 1, 209), (0x198, 1, 1, 1), (0x19c, 1,
   1, 211), (0x19d, 1, 1, 213), (0x19f, 1, 1, 214), (0x1a0, 3, 2, 1), (0x1a6, 1, 1, 218), (0x1a7,
   1, 1, 1), (0x1a9, 1, 1, 218), (0x1ac, 1, 1, 1), (0x1ae, 1, 1, 218), (0x1af, 1, 1, 1), (0x1b1,
   2, 1, 217), (0x1b3, 2, 2, 1), (0x1b7, 1, 1, 219), (0x1b8, 1, 1, 1), (0x1bc, 1, 1, 1), (0x1c4,
   1, 1, 2), (0x1c5, 1, 1, 1), (0x1c7, 1, 1, 2), (0x1c8, 1, 1, 1), (0x1ca, 1, 1, 2), (0x1cb, 9, 2,
   1), (0x1de, 9, 2, 1), (0x1f1, 1, 1, 2), (0x1f2, 2, 2, 1), (0x1f6, 1, 1, -97), (0x1f7, 1, 1,
   -56), (0x1f8, 20, 2, 1), (0x220, 1, 1, -130), (0x222, 9, 2, 1), (0x23a, 1, 1, 10795), (0x23b,
   1, 1, 1), (0x23d, 1, 1, -163), (0x23e, 1, 1, 10792), (0x241, 1, 1, 1), (0x243, 1, 1, -195),
   (0x244, 1, 1, 69), (0x245, 1, 1, 71), (0x246, 5, 2, 1), (0x370, 2, 2, 1), (0x376, 1, 1, 1),
   (0x37f, 1, 1, 116), (0x386, 1, 1, 38), (0x388, 3, 1, 37), (0x38c, 1, 1, 64), (0x38e, 2, 1, 63),
   (0x391, 17, 1, 32), (0x3a3, 9, 1, 32), (0x3cf, 1, 1, 8), (0x3d8, 12, 2, 1), (0x3f4, 1, 1, -60),
   (0x3f7, 1, 1, 1), (0x3f9, 1, 1, -7), (0x3fa, 1, 1, 1), (0x3fd, 3, 1, -130), (0x400, 16, 1, 80),
   (0x410, 32, 1, 32), (0x460, 17, 2, 1), (0x48a, 27, 2, 1), (0x4c0, 1, 1, 15), (0x4c1, 7, 2, 1),
   (0x4d0, 48, 2, 1), (0x531, 38, 1, 48), (0x10a0, 38, 1, 7264), (0x10c7, 1, 1, 7264), (0x10cd, 1,
   1, 7264), (0x13a0, 80, 1, 38864), (0x13f0, 6, 1, 8), (0x1c90, 43, 1, -3008), (0x1cbd, 3, 1,
   -3008), (0x1e00, 75, 2, 1), (0x1e9e, 1, 1, -7615), (0x1ea0, 48, 2, 1), (0x1f08, 8, 1, -8),
   (0x1f18, 6, 1, -8), (0x1f28, 8, 1, -8), (0x1f38, 8, 1, -8), (0x1f48, 6, 1, -8), (0x1f59, 4, 2,
   -8), (0x1f68, 8, 1, -8), (0x1f88, 8, 1, -8), (0x1f98, 8, 1, -8), (0x1fa8, 8, 1, -8), (0x1fb8,
   2, 1, -8), (0x1fba, 2, 1, -74), (0x1fbc, 1, 1, -9), (0x1fc8, 4, 1, -86), (0x1fcc, 1, 1, -9),
   (0x1fd8, 2, 1, -8), (0x1fda, 2, 1, -100), (0x1fe8, 2, 1, -8), (0x1fea, 2, 1, -112), (0x1fec, 1,
   1, -7), (0x1ff8, 2, 1, -128), (0x1ffa, 2, 1, -126), (0x1ffc, 1, 1, -9), (0x2126, 1, 1, -7517),
   (0x212a, 1, 1, -8383), (0x212b, 1, 1, -8262), (0x2132, 1, 1, 28), (0x2160, 16, 1, 16), (0x2183,
   1, 1, 1), (0x24b6, 26, 1, 26), (0x2c00, 48, 1, 48), (0x2c60, 1, 1, 1), (0x2c62, 1, 1, -10743),
   (0x2c63, 1, 1, -3814), (0x2c64, 1, 1, -10727), (0x2c67, 3, 2, 1), (0x2c6d, 1, 1, -10780),
   (0x2c6e, 1, 1, -10749), (0x2c6f, 1, 1, -10783), (0x2c70, 1, 1, -10782), (0x2c72, 1, 1, 1),
   (0x2c75, 1, 1, 1), (0x2c7e, 2, 1, -10815), (0x2c80, 50, 2, 1), (0x2ceb, 2, 2, 1), (0x2cf2, 1,
   1, 1), (0xa640, 23, 2, 1), (0xa680, 14, 2, 1), (0xa722, 7, 2, 1), (0xa732, 31, 2, 1), (0xa779,
   2, 2, 1), (0xa77d, 1, 1, -35332), (0xa77e, 5, 2, 1), (0xa78b, 1, 1, 1), (0xa78d, 1, 1, -42280),
   (0xa790, 2, 2, 1), (0xa796, 10, 2, 1), (0xa7aa, 1, 1, -42308), (0xa7ab, 1, 1, -42319), (0xa7ac,
   1, 1, -42315), (0xa7ad, 1, 1, -42305), (0xa7ae, 1, 1, -42308), (0xa7b0, 1, 1, -42258), (0xa7b1,
   1, 1, -42282), (0xa7b2, 1, 1, -42261), (0xa7b3, 1, 1, 928), (0xa7b4, 8, 2, 1), (0xa7c4, 1, 1,
   -48), (0xa7c5, 1, 1, -42307), (0xa7c6, 1, 1, -35384), (0xa7c7, 2, 2, 1), (0xa7d0, 1, 1, 1),
   (0xa7d6, 2, 2, 1), (0xa7f5, 1, 1, 1), (0xff21, 26, 1, 32), (0x10400, 40, 1, 40), (0x104b0, 36,
   1, 40), (0x10570, 11, 1, 39), (0x1057c, 15, 1, 39), (0x1058c, 7, 1, 39), (0x10594, 2, 1, 39),
   (0x10c80, 51, 1, 64), (0x118a0, 32, 1, 32), (0x16e40, 32, 1, 32), (0x1e900, 34, 1, 34)]

/-- Letters that are a capital, a small or a title letter. -/
def casedLetters : CharRanges := CharRanges.ofText <|
  String.intercalate " "
    ["41 1a 6 1a 2f 1 a 1 4 1 5 17 1 1f 1 c3 1 4 4 d0 1 24 7 2 1e 5 60 1 2a 4 2 2 2 4 1 1 6 1 1 3 1",
     "1 1 14 1 53 1 8b 8 a6 1 26 9 29 b17 26 1 1 5 1 2 2b 2 3 2a0 56 2 6 882 9 7 2b 2 3 40 c0 40 116",
     "2 6 2 26 2 6 2 8 1 1 1 1 1 1 1 1f 2 35 1 7 1 1 3 3 1 7 3 4 2 6 4 d 5 3 1 7 74 1 d 1 10 d 65 1",
     "4 1 2 a 1 1 3 5 6 1 1 1 1 1 1 4 1 6 4 1 2 4 5 5 4 1 11 20 3 2 331 34 716 e5 6 4 3 2 c 26 1 1 5",
     "1 7912 2e 12 1e 84 66 3 4 1 3b 5 2 1 1 1 5 1b 2 1 3 335 2b 1 d 7 50 4f40 7 c 5 409 1a 6 1a 4a5",
     "50 60 24 4 24 74 b 1 f 1 7 1 2 1 b 1 f 1 7 1 2 1c3 1 2 3 1 2a 1 9 4c5 33 d 33 bad 40 5560 40",
     "6580 55 1 47 1 2 2 1 2 2 2 4 1 c 1 1 1 7 1 41 1 4 2 8 1 7 1 1c 1 4 1 5 1 1 3 7 1 154 2 19 1 19",
     "1 1f 1 19 1 1f 1 19 1 1f 1 19 1 1f 1 19 1 8 734 a 1 14 9e1 44 7ec 1a 6 1a 6 1a"]

/-- Characters that do not end a word. -/
def caseIgnorable : CharRanges := CharRanges.ofText <|
  String.intercalate " "
    ["27 1 6 1 b 1 23 1 1 1 47 1 4 1 1 1 4 1 2 2 1f7 c0 4 2 4 1 9 2 1 1 fb 7 cf 1 5 1 31 2d 1 1 1 2",
     "1 2 1 1 2c 1 b 6 a b 1 1 23 1 a 15 10 1 65 8 1 a 1 4 21 1 1 1 1e 1b 5b b 3a b 4 1 2 1 18 18 2b",
     "3 2c 1 7 2 6 8 29 3a 37 1 1 1 4 8 4 1 3 7 a 2 d 1 f 1 3a 1 4 4 8 1 14 2 1a 1 2 2 39 1 4 2 4 2",
     "2 3 3 1 1e 2 3 1 b 2 39 1 4 5 1 2 4 1 14 2 16 6 1 1 3a 1 2 1 1 4 8 1 7 2 b 2 1e 1 3d 1 c 1 32",
     "1 3 1 37 1 1 3 5 3 1 4 7 2 b 2 1d 1 3a 1 2 1 6 1 5 2 14 2 1c 2 39 2 4 4 8 1 14 2 1d 1 48 1 7 3",
     "1 1 5a 1 2 7 b 9 62 1 2 9 9 1 1 6 4a 2 1b 1 1 1 1 1 37 e 1 5 1 2 5 b 1 24 9 1 66 4 1 6 1 2 2 2",
     "19 2 4 3 10 4 d 1 2 2 6 1 f 1 5e 1 260 3 3b2 3 1d 2 1e 2 1e 2 40 2 1 7 8 1 2 b 3 1 5 1 2d 5 33",
     "1 41 2 22 1 76 3 4 2 9 1 6 3 db 2 2 1 3a 1 1 7 1 1 1 1 2 8 6 a 2 1 27 1 8 1f 31 4 30 1 1 5 1 1",
     "5 1 28 9 c 2 20 4 2 2 1 3 38 1 1 2 3 1 1 3 3a 8 2 2 40 6 52 3 1 d 1 7 4 1 6 1 3 2 32 3f d 1 22",
     "65 1bd 1 1 3 b 3 d 3 d 3 d 2 c 5 8 2 a 1 2 1 2 5 31 5 1 a 1 1 d 1 10 d 33 21 b8b 2 71 3 7d 1 f",
     "1 60 20 2f 1 1d5 1 24 4 3 5 5 1 5d 6 5d 3 6f16 1 4e2 6 10e 1 62 4 1 a 1 1 1c 4 50 2 e 22 4e 1",
     "17 3 67 3 3 2 8 1 3 1 4 1 19 2 5 1 97 2 1a 12 d 1 26 8 19 b 2e 3 30 1 2 4 2 2 11 1 15 2 42 6 2",
     "2 2 2 c 1 8 1 23 1 b 1 33 1 1 3 2 2 5 2 1 1 1b 1 e 2 5 2 1 1 64 5 9 3 79 1 2 1 4 1 4f30 1 93",
     "11 23d 10 3 1 c 10 22 1 2 1 a9 1 7 1 6 1 b 1 23 1 1 1 2f 1 2d 2 43 1 15 3 201 1 e2 1 95 5 405",
     "6 1 2a 1 9 246 3 1 2 5 4 28 3 4 1 a5 2 23d 4 183 2 99 b 31 4 7b 1 36 f 29 1 2 2 a 3 31 4 2 2 2",
     "1 4 1 a 1 32 3 24 5 1 8 3e 1 c 2 34 9 a 4 2 1 5f 3 2 1 1 2 6 1 a0 1 3 8 15 2 39 2 3 1 25 7 3 5",
     "c3 8 2 3 1 1 17 1 54 6 1 1 4 2 1 2 ee 4 6 2 1 2 1b 2 55 8 2 1 1 2 6a 1 1 1 2 6 1 1 65 3 2 4 1",
     "5 103 9 1 2 100 2 1 1 4 1 90 4 2 2 4 1 20 a 28 6 2 4 8 1 9 6 2 3 2e d 1 2 196 7 1 6 1 1 52 16",
     "2 7 1 2 1 2 7a 6 3 1 1 2 1 7 1 1 48 2 3 1 1 1 15b 2 153b 9 36b7 5 3b 7 9 4 40b 1 3f 11 40 2 1",
     "2 400b 4 1 7 1 2 c9e 2 1 4 125c 2e 2 17 220 3 9 10 2 7 1e 4 94 3 7bb 37 4 32 8 1 e 1 16 5 1 f",
     "550 7 1 11 2 7 1 2 1 5 105 e 170 1 3d 4 5e0 7 6d 8 aaf 5 c0c01 1 1e 60 80 f0"]

end TransactionRules
