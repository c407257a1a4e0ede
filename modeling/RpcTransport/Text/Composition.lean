import RpcTransport.Text.CodeTable
import Std.Data.HashMap

/-!
Composition. A letter and the marks that follow it may also be written as one composite character;
so may the sounds of a Korean syllable. A composed text has a composite wherever there is one, and
the marks that are left in the order of their classes.
-/

namespace RpcTransport.Composition

/-- Composites: the first part, the second part and the composite of both. A composite that is a
part of another one comes before it. -/
def pairTable : String :=
  "61 300 E0,61 301 E1,61 302 E2,61 303 E3,61 308 E4,61 30A E5,63 327 E7,65 300 E8,65 301 E9
65 302 EA,65 308 EB,69 300 EC,69 301 ED,69 302 EE,69 308 EF,6E 303 F1,6F 300 F2,6F 301 F3
6F 302 F4,6F 303 F5,6F 308 F6,75 300 F9,75 301 FA,75 302 FB,75 308 FC,79 301 FD,79 308 FF
61 304 101,61 306 103,61 328 105,63 301 107,63 302 109,63 307 10B,63 30C 10D,64 30C 10F
65 304 113,65 306 115,65 307 117,65 328 119,65 30C 11B,67 302 11D,67 306 11F,67 307 121
67 327 123,68 302 125,69 303 129,69 304 12B,69 306 12D,69 328 12F,6A 302 135,6B 327 137
6C 301 13A,6C 327 13C,6C 30C 13E,6E 301 144,6E 327 146,6E 30C 148,6F 304 14D,6F 306 14F
6F 30B 151,72 301 155,72 327 157,72 30C 159,73 301 15B,73 302 15D,73 327 15F,73 30C 161
74 327 163,74 30C 165,75 303 169,75 304 16B,75 306 16D,75 30A 16F,75 30B 171,75 328 173
77 302 175,79 302 177,7A 301 17A,7A 307 17C,7A 30C 17E,6F 31B 1A1,75 31B 1B0,61 30C 1CE
69 30C 1D0,6F 30C 1D2,75 30C 1D4,E6 304 1E3,67 30C 1E7,6B 30C 1E9,6F 328 1EB,292 30C 1EF
6A 30C 1F0,67 301 1F5,6E 300 1F9,E6 301 1FD,F8 301 1FF,61 30F 201,61 311 203,65 30F 205
65 311 207,69 30F 209,69 311 20B,6F 30F 20D,6F 311 20F,72 30F 211,72 311 213,75 30F 215
75 311 217,73 326 219,74 326 21B,68 30C 21F,61 307 227,65 327 229,6F 307 22F,79 304 233
3B1 301 3AC,3B5 301 3AD,3B7 301 3AE,3B9 301 3AF,3B9 308 3CA,3C5 308 3CB,3BF 301 3CC,3C5 301 3CD
3C9 301 3CE,438 306 439,435 300 450,435 308 451,433 301 453,456 308 457,43A 301 45C,438 300 45D
443 306 45E,475 30F 477,436 306 4C2,430 306 4D1,430 308 4D3,435 306 4D7,4D9 308 4DB,436 308 4DD
437 308 4DF,438 304 4E3,438 308 4E5,43E 308 4E7,4E9 308 4EB,44D 308 4ED,443 304 4EF,443 308 4F1
443 30B 4F3,447 308 4F5,44B 308 4F9,627 653 622,627 654 623,648 654 624,627 655 625,64A 654 626
6D5 654 6C0,6C1 654 6C2,6D2 654 6D3,928 93C 929,930 93C 931,933 93C 934,9C7 9BE 9CB,9C7 9D7 9CC
B47 B56 B48,B47 B3E B4B,B47 B57 B4C,B92 BD7 B94,BC6 BBE BCA,BC7 BBE BCB,BC6 BD7 BCC,C46 C56 C48
CBF CD5 CC0,CC6 CD5 CC7,CC6 CD6 CC8,CC6 CC2 CCA,D46 D3E D4A,D47 D3E D4B,D46 D57 D4C,DD9 DCA DDA
DD9 DCF DDC,DD9 DDF DDE,1025 102E 1026,1B05 1B35 1B06,1B07 1B35 1B08,1B09 1B35 1B0A
1B0B 1B35 1B0C,1B0D 1B35 1B0E,1B11 1B35 1B12,1B3A 1B35 1B3B,1B3C 1B35 1B3D,1B3E 1B35 1B40
1B3F 1B35 1B41,1B42 1B35 1B43,61 325 1E01,62 307 1E03,62 323 1E05,62 331 1E07,64 307 1E0B
64 323 1E0D,64 331 1E0F,64 327 1E11,64 32D 1E13,65 32D 1E19,65 330 1E1B,66 307 1E1F,67 304 1E21
68 307 1E23,68 323 1E25,68 308 1E27,68 327 1E29,68 32E 1E2B,69 330 1E2D,6B 301 1E31,6B 323 1E33
6B 331 1E35,6C 323 1E37,6C 331 1E3B,6C 32D 1E3D,6D 301 1E3F,6D 307 1E41,6D 323 1E43,6E 307 1E45
6E 323 1E47,6E 331 1E49,6E 32D 1E4B,70 301 1E55,70 307 1E57,72 307 1E59,72 323 1E5B,72 331 1E5F
73 307 1E61,73 323 1E63,74 307 1E6B,74 323 1E6D,74 331 1E6F,74 32D 1E71,75 324 1E73,75 330 1E75
75 32D 1E77,76 303 1E7D,76 323 1E7F,77 300 1E81,77 301 1E83,77 308 1E85,77 307 1E87,77 323 1E89
78 307 1E8B,78 308 1E8D,79 307 1E8F,7A 302 1E91,7A 323 1E93,7A 331 1E95,68 331 1E96,74 308 1E97
77 30A 1E98,79 30A 1E99,61 323 1EA1,61 309 1EA3,65 323 1EB9,65 309 1EBB,65 303 1EBD,69 309 1EC9
69 323 1ECB,6F 323 1ECD,6F 309 1ECF,75 323 1EE5,75 309 1EE7,79 300 1EF3,79 323 1EF5,79 309 1EF7
79 303 1EF9,3B1 313 1F00,3B1 314 1F01,3B5 313 1F10,3B5 314 1F11,3B7 313 1F20,3B7 314 1F21
3B9 313 1F30,3B9 314 1F31,3BF 313 1F40,3BF 314 1F41,3C5 313 1F50,3C5 314 1F51,3C9 313 1F60
3C9 314 1F61,3B1 300 1F70,3B5 300 1F72,3B7 300 1F74,3B9 300 1F76,3BF 300 1F78,3C5 300 1F7A
3C9 300 1F7C,3B1 306 1FB0,3B1 304 1FB1,3B1 342 1FB6,3B7 342 1FC6,3B9 306 1FD0,3B9 304 1FD1
3B9 342 1FD6,3C5 306 1FE0,3C5 304 1FE1,3C1 313 1FE4,3C1 314 1FE5,3C5 342 1FE6,3C9 342 1FF6
2190 338 219A,2192 338 219B,2194 338 21AE,21D0 338 21CD,21D4 338 21CE,21D2 338 21CF
2203 338 2204,2208 338 2209,220B 338 220C,2223 338 2224,2225 338 2226,223C 338 2241
2243 338 2244,2245 338 2247,2248 338 2249,3D 338 2260,2261 338 2262,224D 338 226D,3C 338 226E
3E 338 226F,2264 338 2270,2265 338 2271,2272 338 2274,2273 338 2275,2276 338 2278,2277 338 2279
227A 338 2280,227B 338 2281,2282 338 2284,2283 338 2285,2286 338 2288,2287 338 2289
22A2 338 22AC,22A8 338 22AD,22A9 338 22AE,22AB 338 22AF,227C 338 22E0,227D 338 22E1
2291 338 22E2,2292 338 22E3,22B2 338 22EA,22B3 338 22EB,22B4 338 22EC,22B5 338 22ED
304B 3099 304C,304D 3099 304E,304F 3099 3050,3051 3099 3052,3053 3099 3054,3055 3099 3056
3057 3099 3058,3059 3099 305A,305B 3099 305C,305D 3099 305E,305F 3099 3060,3061 3099 3062
3064 3099 3065,3066 3099 3067,3068 3099 3069,306F 3099 3070,306F 309A 3071,3072 3099 3073
3072 309A 3074,3075 3099 3076,3075 309A 3077,3078 3099 3079,3078 309A 307A,307B 3099 307C
307B 309A 307D,3046 3099 3094,309D 3099 309E,30AB 3099 30AC,30AD 3099 30AE,30AF 3099 30B0
30B1 3099 30B2,30B3 3099 30B4,30B5 3099 30B6,30B7 3099 30B8,30B9 3099 30BA,30BB 3099 30BC
30BD 3099 30BE,30BF 3099 30C0,30C1 3099 30C2,30C4 3099 30C5,30C6 3099 30C7,30C8 3099 30C9
30CF 3099 30D0,30CF 309A 30D1,30D2 3099 30D3,30D2 309A 30D4,30D5 3099 30D6,30D5 309A 30D7
30D8 3099 30D9,30D8 309A 30DA,30DB 3099 30DC,30DB 309A 30DD,30A6 3099 30F4,30EF 3099 30F7
30F0 3099 30F8,30F1 3099 30F9,30F2 3099 30FA,30FD 3099 30FE,105D2 307 105C9,105DA 307 105E4
11099 110BA 1109A,1109B 110BA 1109C,110A5 110BA 110AB,11131 11127 1112E,11132 11127 1112F
11347 1133E 1134B,11347 11357 1134C,11382 113C9 11383,11384 113BB 11385,1138B 113C2 1138E
11390 113C9 11391,113C2 113C2 113C5,113C2 113B8 113C7,113C2 113C9 113C8,114B9 114BA 114BB
114B9 114B0 114BC,114B9 114BD 114BE,115B8 115AF 115BA,115B9 115AF 115BB,11935 11930 11938
1611E 1611E 16121,1611E 16129 16122,1611E 1611F 16123,16129 1611F 16124,1611E 16120 16125
16D67 16D67 16D68,16D63 16D67 16D69,FC 304 1D6,FC 301 1D8,FC 30C 1DA,FC 300 1DC,E4 304 1DF
227 304 1E1,1EB 304 1ED,E5 301 1FB,F6 304 22B,F5 304 22D,22F 304 231,3CA 301 390,3CB 301 3B0
CCA CD5 CCB,DDC DCA DDD,E7 301 1E09,113 300 1E15,113 301 1E17,229 306 1E1D,EF 301 1E2F
1E37 304 1E39,F5 301 1E4D,F5 308 1E4F,14D 300 1E51,14D 301 1E53,1E5B 304 1E5D,15B 307 1E65
161 307 1E67,1E63 307 1E69,169 301 1E79,16B 308 1E7B,E2 301 1EA5,E2 300 1EA7,E2 309 1EA9
E2 303 1EAB,1EA1 302 1EAD,103 301 1EAF,103 300 1EB1,103 309 1EB3,103 303 1EB5,1EA1 306 1EB7
EA 301 1EBF,EA 300 1EC1,EA 309 1EC3,EA 303 1EC5,1EB9 302 1EC7,F4 301 1ED1,F4 300 1ED3
F4 309 1ED5,F4 303 1ED7,1ECD 302 1ED9,1A1 301 1EDB,1A1 300 1EDD,1A1 309 1EDF,1A1 303 1EE1
1A1 323 1EE3,1B0 301 1EE9,1B0 300 1EEB,1B0 309 1EED,1B0 303 1EEF,1B0 323 1EF1,1F00 300 1F02
1F01 300 1F03,1F00 301 1F04,1F01 301 1F05,1F00 342 1F06,1F01 342 1F07,1F10 300 1F12
1F11 300 1F13,1F10 301 1F14,1F11 301 1F15,1F20 300 1F22,1F21 300 1F23,1F20 301 1F24
1F21 301 1F25,1F20 342 1F26,1F21 342 1F27,1F30 300 1F32,1F31 300 1F33,1F30 301 1F34
1F31 301 1F35,1F30 342 1F36,1F31 342 1F37,1F40 300 1F42,1F41 300 1F43,1F40 301 1F44
1F41 301 1F45,1F50 300 1F52,1F51 300 1F53,1F50 301 1F54,1F51 301 1F55,1F50 342 1F56
1F51 342 1F57,1F60 300 1F62,1F61 300 1F63,1F60 301 1F64,1F61 301 1F65,1F60 342 1F66
1F61 342 1F67,3CA 300 1FD2,3CA 342 1FD7,3CB 300 1FE2,3CB 342 1FE7,16121 1611F 16126
16122 1611F 16127,16121 16120 16128,16D69 16D67 16D6A"

/-- The classes of marks: a class, and the first and the last of some characters of that class. -/
def classTable : String :=
  "1 334 338,1 1CD4 1CD4,1 1CE2 1CE8,1 20D2 20D3,1 20D8 20DA,1 20E5 20E6,1 20EA 20EB,1 10A39 10A39
1 16AF0 16AF4,1 1BC9E 1BC9E,1 1D167 1D169,6 16FF0 16FF1,7 93C 93C,7 9BC 9BC,7 A3C A3C,7 ABC ABC
7 B3C B3C,7 C3C C3C,7 CBC CBC,7 1037 1037,7 1B34 1B34,7 1BE6 1BE6,7 1C37 1C37,7 A9B3 A9B3
7 110BA 110BA,7 11173 11173,7 111CA 111CA,7 11236 11236,7 112E9 112E9,7 1133B 1133C
7 11446 11446,7 114C3 114C3,7 115C0 115C0,7 116B7 116B7,7 1183A 1183A,7 11943 11943
7 11D42 11D42,7 1E94A 1E94A,8 3099 309A,9 94D 94D,9 9CD 9CD,9 A4D A4D,9 ACD ACD,9 B4D B4D
9 BCD BCD,9 C4D C4D,9 CCD CCD,9 D3B D3C,9 D4D D4D,9 DCA DCA,9 E3A E3A,9 EBA EBA,9 F84 F84
9 1039 103A,9 1714 1715,9 1734 1734,9 17D2 17D2,9 1A60 1A60,9 1B44 1B44,9 1BAA 1BAB,9 1BF2 1BF3
9 2D7F 2D7F,9 A806 A806,9 A82C A82C,9 A8C4 A8C4,9 A953 A953,9 A9C0 A9C0,9 AAF6 AAF6,9 ABED ABED
9 10A3F 10A3F,9 11046 11046,9 11070 11070,9 1107F 1107F,9 110B9 110B9,9 11133 11134
9 111C0 111C0,9 11235 11235,9 112EA 112EA,9 1134D 1134D,9 113CE 113D0,9 11442 11442
9 114C2 114C2,9 115BF 115BF,9 1163F 1163F,9 116B6 116B6,9 1172B 1172B,9 11839 11839
9 1193D 1193E,9 119E0 119E0,9 11A34 11A34,9 11A47 11A47,9 11A99 11A99,9 11C3F 11C3F
9 11D44 11D45,9 11D97 11D97,9 11F41 11F42,9 1612F 1612F,A 5B0 5B0,B 5B1 5B1,C 5B2 5B2,D 5B3 5B3
E 5B4 5B4,F 5B5 5B5,10 5B6 5B6,11 5B7 5B7,12 5B8 5B8,12 5C7 5C7,13 5B9 5BA,14 5BB 5BB,15 5BC 5BC
16 5BD 5BD,17 5BF 5BF,18 5C1 5C1,19 5C2 5C2,1A FB1E FB1E,1B 64B 64B,1B 8F0 8F0,1C 64C 64C
1C 8F1 8F1,1D 64D 64D,1D 8F2 8F2,1E 618 618,1E 64E 64E,1F 619 619,1F 64F 64F,20 61A 61A
20 650 650,21 651 651,22 652 652,23 670 670,24 711 711,54 C55 C55,5B C56 C56,67 E38 E39
6B E48 E4B,76 EB8 EB9,7A EC8 ECB,81 F71 F71,82 F72 F72,82 F7A F7D,82 F80 F80,84 F74 F74
CA 321 322,CA 327 328,CA 1DD0 1DD0,D6 1DCE 1DCE,D8 31B 31B,D8 F39 F39,D8 1D165 1D166
D8 1D16E 1D172,DA 1DFA 1DFA,DA 302A 302A,DC 316 319,DC 31C 320,DC 323 326,DC 329 333,DC 339 33C
DC 347 349,DC 34D 34E,DC 353 356,DC 359 35A,DC 591 591,DC 596 596,DC 59B 59B,DC 5A2 5A7
DC 5AA 5AA,DC 5C5 5C5,DC 655 656,DC 65C 65C,DC 65F 65F,DC 6E3 6E3,DC 6EA 6EA,DC 6ED 6ED
DC 731 731,DC 734 734,DC 737 739,DC 73B 73C,DC 73E 73E,DC 742 742,DC 744 744,DC 746 746
DC 748 748,DC 7F2 7F2,DC 7FD 7FD,DC 859 85B,DC 899 89B,DC 8CF 8D3,DC 8E3 8E3,DC 8E6 8E6
DC 8E9 8E9,DC 8ED 8EF,DC 8F6 8F6,DC 8F9 8FA,DC 952 952,DC F18 F19,DC F35 F35,DC F37 F37
DC FC6 FC6,DC 108D 108D,DC 193B 193B,DC 1A18 1A18,DC 1A7F 1A7F,DC 1AB5 1ABA,DC 1ABD 1ABD
DC 1ABF 1AC0,DC 1AC3 1AC4,DC 1ACA 1ACA,DC 1ADD 1ADD,DC 1AE6 1AE6,DC 1B6C 1B6C,DC 1CD5 1CD9
DC 1CDC 1CDF,DC 1CED 1CED,DC 1DC2 1DC2,DC 1DCA 1DCA,DC 1DCF 1DCF,DC 1DF9 1DF9,DC 1DFD 1DFD
DC 1DFF 1DFF,DC 20E8 20E8,DC 20EC 20EF,DC A92B A92D,DC AAB4 AAB4,DC FE27 FE2D,DC 101FD 101FD
DC 102E0 102E0,DC 10A0D 10A0D,DC 10A3A 10A3A,DC 10AE6 10AE6,DC 10EFA 10EFB,DC 10EFD 10EFF
DC 10F46 10F47,DC 10F4B 10F4B,DC 10F4D 10F50,DC 10F83 10F83,DC 10F85 10F85,DC 1D17B 1D182
DC 1D18A 1D18B,DC 1E4EE 1E4EE,DC 1E5EF 1E5EF,DC 1E8D0 1E8D6,DE 59A 59A,DE 5AD 5AD,DE 1939 1939
DE 302D 302D,E0 302E 302F,E2 1D16D 1D16D,E4 5AE 5AE,E4 18A9 18A9,E4 1DF7 1DF8,E4 302B 302B
E6 300 314,E6 33D 33F,E6 342 342,E6 346 346,E6 34A 34C,E6 350 352,E6 357 357,E6 35B 35B
E6 363 36F,E6 483 487,E6 592 595,E6 597 599,E6 59C 5A1,E6 5A8 5A9,E6 5AB 5AC,E6 5AF 5AF
E6 5C4 5C4,E6 610 617,E6 653 654,E6 657 65B,E6 65D 65E,E6 6D6 6DC,E6 6DF 6E2,E6 6E4 6E4
E6 6E7 6E8,E6 6EB 6EC,E6 730 730,E6 732 733,E6 735 736,E6 73A 73A,E6 73D 73D,E6 73F 741
E6 743 743,E6 745 745,E6 747 747,E6 749 74A,E6 7EB 7F1,E6 7F3 7F3,E6 816 819,E6 81B 823
E6 825 827,E6 829 82D,E6 897 898,E6 89C 89F,E6 8CA 8CE,E6 8D4 8E1,E6 8E4 8E5,E6 8E7 8E8
E6 8EA 8EC,E6 8F3 8F5,E6 8F7 8F8,E6 8FB 8FF,E6 951 951,E6 953 954,E6 9FE 9FE,E6 F82 F83
E6 F86 F87,E6 135D 135F,E6 17DD 17DD,E6 193A 193A,E6 1A17 1A17,E6 1A75 1A7C,E6 1AB0 1AB4
E6 1ABB 1ABC,E6 1AC1 1AC2,E6 1AC5 1AC9,E6 1ACB 1ADC,E6 1AE0 1AE5,E6 1AE7 1AEA,E6 1B6B 1B6B
E6 1B6D 1B73,E6 1CD0 1CD2,E6 1CDA 1CDB,E6 1CE0 1CE0,E6 1CF4 1CF4,E6 1CF8 1CF9,E6 1DC0 1DC1
E6 1DC3 1DC9,E6 1DCB 1DCC,E6 1DD1 1DF5,E6 1DFB 1DFB,E6 1DFE 1DFE,E6 20D0 20D1,E6 20D4 20D7
E6 20DB 20DC,E6 20E1 20E1,E6 20E7 20E7,E6 20E9 20E9,E6 20F0 20F0,E6 2CEF 2CF1,E6 2DE0 2DFF
E6 A66F A66F,E6 A674 A67D,E6 A69E A69F,E6 A6F0 A6F1,E6 A8E0 A8F1,E6 AAB0 AAB0,E6 AAB2 AAB3
E6 AAB7 AAB8,E6 AABE AABF,E6 AAC1 AAC1,E6 FE20 FE26,E6 FE2E FE2F,E6 10376 1037A,E6 10A0F 10A0F
E6 10A38 10A38,E6 10AE5 10AE5,E6 10D24 10D27,E6 10D69 10D6D,E6 10EAB 10EAC,E6 10F48 10F4A
E6 10F4C 10F4C,E6 10F82 10F82,E6 10F84 10F84,E6 11100 11102,E6 11366 1136C,E6 11370 11374
E6 1145E 1145E,E6 16B30 16B36,E6 1D185 1D189,E6 1D1AA 1D1AD,E6 1D242 1D244,E6 1E000 1E006
E6 1E008 1E018,E6 1E01B 1E021,E6 1E023 1E024,E6 1E026 1E02A,E6 1E08F 1E08F,E6 1E130 1E136
E6 1E2AE 1E2AE,E6 1E2EC 1E2EF,E6 1E4EF 1E4EF,E6 1E5EE 1E5EE,E6 1E6E3 1E6E3,E6 1E6E6 1E6E6
E6 1E6EE 1E6EF,E6 1E6F5 1E6F5,E6 1E944 1E949,E8 315 315,E8 31A 31A,E8 358 358,E8 1DF6 1DF6
E8 302C 302C,E8 1E4EC 1E4ED,E9 35C 35C,E9 35F 35F,E9 362 362,E9 1DFC 1DFC,EA 35D 35E,EA 360 361
EA 1AEB 1AEB,EA 1DCD 1DCD"

/-- The class of each character that has one. -/
def classes : Std.HashMap Nat Nat :=
  Std.HashMap.ofList <| (CodeTable.rows classTable).flatMap fun row =>
    match row with
    | [mark, low, high] => (CodeTable.span low high).map fun c => (c, mark)
    | _ => []

/-- The class of a character among the marks that follow a letter. Characters of class 0 start
anew. -/
def markClass (c : Char) : Nat :=
  if c.toNat < 0x300 then 0 else classes.getD c.toNat 0

/-- The composites of the table. -/
def composites : Std.HashMap (Nat × Nat) Nat :=
  Std.HashMap.ofList <| (CodeTable.rows pairTable).filterMap fun row =>
    match row with
    | [first, second, whole] => some ((first, second), whole)
    | _ => none

/-- The composites of the table, each with all its parts. -/
def parts : Std.HashMap Nat (List Nat) :=
  (CodeTable.rows pairTable).foldl
    (fun known row =>
      match row with
      | [first, second, whole] => known.insert whole (known.getD first [first] ++ [second])
      | _ => known)
    ∅

/-- Where the syllables of Korean start; before them are the leading consonants from `0x1100`, the
vowels from `0x1161` and the trailing consonants after `0x11A7`. -/
def firstSyllable : Nat := 0xAC00

/-- The number of Korean syllables. -/
def syllableCount : Nat := 19 * 21 * 28

/-- The syllable of a leading consonant and a vowel, or of such a syllable and a trailing
consonant. -/
def syllable? (first second : Nat) : Option Nat :=
  if 0x1100 ≤ first && first < 0x1100 + 19 && 0x1161 ≤ second && second < 0x1161 + 21 then
    some (firstSyllable + ((first - 0x1100) * 21 + (second - 0x1161)) * 28)
  else if firstSyllable ≤ first && first < firstSyllable + syllableCount
      && (first - firstSyllable) % 28 = 0 && 0x11A7 < second && second < 0x11A7 + 28 then
    some (first + (second - 0x11A7))
  else none

/-- The sounds of a syllable. -/
def soundsOf (syllable : Nat) : List Nat :=
  let place := syllable - firstSyllable
  let trailing := place % 28
  [0x1100 + place / 28 / 21, 0x1161 + place / 28 % 21]
    ++ (if trailing = 0 then [] else [0x11A7 + trailing])

/-- The composite of two characters. No character before the marks is a second part. -/
def composite? (first second : Char) : Option Char :=
  if second.toNat < 0x300 then none
  else
    ((syllable? first.toNat second.toNat).or composites[(first.toNat, second.toNat)]?).map
      Char.ofNat

/-- The parts of a character; a character that is not a composite is its own part. -/
def decompose (c : Char) : List Char :=
  if c.toNat < 0x80 then [c]
  else if firstSyllable ≤ c.toNat && c.toNat < firstSyllable + syllableCount then
    (soundsOf c.toNat).map Char.ofNat
  else ((parts[c.toNat]?).map (·.map Char.ofNat)).getD [c]

/-- Puts a mark before a text whose marks are in order, behind the marks of lower classes. -/
def place (mark : Char) : List Char → List Char
  | [] => [mark]
  | c :: rest =>
    if 0 < markClass c ∧ markClass c < markClass mark then c :: place mark rest
    else mark :: c :: rest

/-- A text with its marks in order; those of one class stay as they are. -/
def sortMarks : List Char → List Char
  | [] => []
  | c :: rest => if markClass c = 0 then c :: sortMarks rest else place c (sortMarks rest)

/-- A character and what follows it and did not become part of it, last first. -/
structure Cluster where
  base : Char
  others : List Char

/-- Whether a character meets the base of a cluster: nothing stands between them, or only marks of
lower classes than its own. -/
def Cluster.isMetBy (cluster : Cluster) (c : Char) : Bool :=
  cluster.others.head?.all fun last => markClass last < markClass c

/-- The clusters of a text, last first, when one more character follows. -/
def addTo (clusters : List Cluster) (c : Char) : List Cluster :=
  match clusters with
  | [] => [⟨c, []⟩]
  | last :: before =>
    match if last.isMetBy c then composite? last.base c else none with
    | some whole => { last with base := whole } :: before
    | none =>
      if markClass c = 0 then ⟨c, []⟩ :: last :: before
      else { last with others := c :: last.others } :: before

/-- A composed text. -/
def compose (text : List Char) : List Char :=
  ((sortMarks (text.flatMap decompose)).foldl addTo []).reverse.flatMap fun cluster =>
    cluster.base :: cluster.others.reverse

end RpcTransport.Composition
