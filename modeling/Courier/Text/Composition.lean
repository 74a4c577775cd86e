/-
# Courier.Text.Composition -- canonical decompositions and combining classes

The data behind the composed normal form of a text: what a character decomposes
into, which pairs compose, and in which order marks on one letter stand.
-/
import Courier.Text.Table

namespace Courier.Text

set_option autoImplicit false

/-- One step of canonical decomposition. -/
def decompositions : CharMap := .ofBlocks
  ["C0,C0,1,41,300 C1,C1,1,41,301 C2,C2,1,41,302 C3,C3,1,41,303 C4,C4,1,41,308 C5,C5,1,41,30A
    C7,C7,1,43,327 C8,C8,1,45,300 C9,C9,1,45,301 CA,CA,1,45,302 CB,CB,1,45,308 CC,CC,1,49,300
    CD,CD,1,49,301 CE,CE,1,49,302 CF,CF,1,49,308 D1,D1,1,4E,303 D2,D2,1,4F,300 D3,D3,1,4F,301
    D4,D4,1,4F,302 D5,D5,1,4F,303 D6,D6,1,4F,308 D9,D9,1,55,300 DA,DA,1,55,301 DB,DB,1,55,302
    DC,DC,1,55,308 DD,DD,1,59,301 E0,E0,1,61,300 E1,E1,1,61,301 E2,E2,1,61,302 E3,E3,1,61,303
    E4,E4,1,61,308 E5,E5,1,61,30A E7,E7,1,63,327 E8,E8,1,65,300 E9,E9,1,65,301 EA,EA,1,65,302
    EB,EB,1,65,308 EC,EC,1,69,300 ED,ED,1,69,301 EE,EE,1,69,302 EF,EF,1,69,308 F1,F1,1,6E,303
    F2,F2,1,6F,300 F3,F3,1,6F,301 F4,F4,1,6F,302 F5,F5,1,6F,303 F6,F6,1,6F,308 F9,F9,1,75,300
    FA,FA,1,75,301 FB,FB,1,75,302 FC,FC,1,75,308 FD,FD,1,79,301 FF,FF,1,79,308 100,100,1,41,304
    101,101,1,61,304 102,102,1,41,306 103,103,1,61,306 104,104,1,41,328 105,105,1,61,328",
    "106,106,1,43,301 107,107,1,63,301 108,108,1,43,302 109,109,1,63,302 10A,10A,1,43,307
    10B,10B,1,63,307 10C,10C,1,43,30C 10D,10D,1,63,30C 10E,10E,1,44,30C 10F,10F,1,64,30C
    112,112,1,45,304 113,113,1,65,304 114,114,1,45,306 115,115,1,65,306 116,116,1,45,307
    117,117,1,65,307 118,118,1,45,328 119,119,1,65,328 11A,11A,1,45,30C 11B,11B,1,65,30C
    11C,11C,1,47,302 11D,11D,1,67,302 11E,11E,1,47,306 11F,11F,1,67,306 120,120,1,47,307
    121,121,1,67,307 122,122,1,47,327 123,123,1,67,327 124,124,1,48,302 125,125,1,68,302
    128,128,1,49,303 129,129,1,69,303 12A,12A,1,49,304 12B,12B,1,69,304 12C,12C,1,49,306
    12D,12D,1,69,306 12E,12E,1,49,328 12F,12F,1,69,328 130,130,1,49,307 134,134,1,4A,302
    135,135,1,6A,302 136,136,1,4B,327 137,137,1,6B,327 139,139,1,4C,301 13A,13A,1,6C,301
    13B,13B,1,4C,327 13C,13C,1,6C,327 13D,13D,1,4C,30C 13E,13E,1,6C,30C 143,143,1,4E,301",
    "144,144,1,6E,301 145,145,1,4E,327 146,146,1,6E,327 147,147,1,4E,30C 148,148,1,6E,30C
    14C,14C,1,4F,304 14D,14D,1,6F,304 14E,14E,1,4F,306 14F,14F,1,6F,306 150,150,1,4F,30B
    151,151,1,6F,30B 154,154,1,52,301 155,155,1,72,301 156,156,1,52,327 157,157,1,72,327
    158,158,1,52,30C 159,159,1,72,30C 15A,15A,1,53,301 15B,15B,1,73,301 15C,15C,1,53,302
    15D,15D,1,73,302 15E,15E,1,53,327 15F,15F,1,73,327 160,160,1,53,30C 161,161,1,73,30C
    162,162,1,54,327 163,163,1,74,327 164,164,1,54,30C 165,165,1,74,30C 168,168,1,55,303
    169,169,1,75,303 16A,16A,1,55,304 16B,16B,1,75,304 16C,16C,1,55,306 16D,16D,1,75,306
    16E,16E,1,55,30A 16F,16F,1,75,30A 170,170,1,55,30B 171,171,1,75,30B 172,172,1,55,328
    173,173,1,75,328 174,174,1,57,302 175,175,1,77,302 176,176,1,59,302 177,177,1,79,302
    178,178,1,59,308 179,179,1,5A,301 17A,17A,1,7A,301 17B,17B,1,5A,307 17C,17C,1,7A,307",
    "17D,17D,1,5A,30C 17E,17E,1,7A,30C 1A0,1A0,1,4F,31B 1A1,1A1,1,6F,31B 1AF,1AF,1,55,31B
    1B0,1B0,1,75,31B 1CD,1CD,1,41,30C 1CE,1CE,1,61,30C 1CF,1CF,1,49,30C 1D0,1D0,1,69,30C
    1D1,1D1,1,4F,30C 1D2,1D2,1,6F,30C 1D3,1D3,1,55,30C 1D4,1D4,1,75,30C 1D5,1D5,1,DC,304
    1D6,1D6,1,FC,304 1D7,1D7,1,DC,301 1D8,1D8,1,FC,301 1D9,1D9,1,DC,30C 1DA,1DA,1,FC,30C
    1DB,1DB,1,DC,300 1DC,1DC,1,FC,300 1DE,1DE,1,C4,304 1DF,1DF,1,E4,304 1E0,1E0,1,226,304
    1E1,1E1,1,227,304 1E2,1E2,1,C6,304 1E3,1E3,1,E6,304 1E6,1E6,1,47,30C 1E7,1E7,1,67,30C
    1E8,1E8,1,4B,30C 1E9,1E9,1,6B,30C 1EA,1EA,1,4F,328 1EB,1EB,1,6F,328 1EC,1EC,1,1EA,304
    1ED,1ED,1,1EB,304 1EE,1EE,1,1B7,30C 1EF,1EF,1,292,30C 1F0,1F0,1,6A,30C 1F4,1F4,1,47,301
    1F5,1F5,1,67,301 1F8,1F8,1,4E,300 1F9,1F9,1,6E,300 1FA,1FA,1,C5,301 1FB,1FB,1,E5,301
    1FC,1FC,1,C6,301 1FD,1FD,1,E6,301 1FE,1FE,1,D8,301 1FF,1FF,1,F8,301 200,200,1,41,30F",
    "201,201,1,61,30F 202,202,1,41,311 203,203,1,61,311 204,204,1,45,30F 205,205,1,65,30F
    206,206,1,45,311 207,207,1,65,311 208,208,1,49,30F 209,209,1,69,30F 20A,20A,1,49,311
    20B,20B,1,69,311 20C,20C,1,4F,30F 20D,20D,1,6F,30F 20E,20E,1,4F,311 20F,20F,1,6F,311
    210,210,1,52,30F 211,211,1,72,30F 212,212,1,52,311 213,213,1,72,311 214,214,1,55,30F
    215,215,1,75,30F 216,216,1,55,311 217,217,1,75,311 218,218,1,53,326 219,219,1,73,326
    21A,21A,1,54,326 21B,21B,1,74,326 21E,21E,1,48,30C 21F,21F,1,68,30C 226,226,1,41,307
    227,227,1,61,307 228,228,1,45,327 229,229,1,65,327 22A,22A,1,D6,304 22B,22B,1,F6,304
    22C,22C,1,D5,304 22D,22D,1,F5,304 22E,22E,1,4F,307 22F,22F,1,6F,307 230,230,1,22E,304
    231,231,1,22F,304 232,232,1,59,304 233,233,1,79,304 340,340,1,300 341,341,1,301 343,343,1,313
    344,344,1,308,301 374,374,1,2B9 37E,37E,1,3B 385,385,1,A8,301 386,386,1,391,301 387,387,1,B7",
    "388,388,1,395,301 389,389,1,397,301 38A,38A,1,399,301 38C,38C,1,39F,301 38E,38E,1,3A5,301
    38F,38F,1,3A9,301 390,390,1,3CA,301 3AA,3AA,1,399,308 3AB,3AB,1,3A5,308 3AC,3AC,1,3B1,301
    3AD,3AD,1,3B5,301 3AE,3AE,1,3B7,301 3AF,3AF,1,3B9,301 3B0,3B0,1,3CB,301 3CA,3CA,1,3B9,308
    3CB,3CB,1,3C5,308 3CC,3CC,1,3BF,301 3CD,3CD,1,3C5,301 3CE,3CE,1,3C9,301 3D3,3D3,1,3D2,301
    3D4,3D4,1,3D2,308 400,400,1,415,300 401,401,1,415,308 403,403,1,413,301 407,407,1,406,308
    40C,40C,1,41A,301 40D,40D,1,418,300 40E,40E,1,423,306 419,419,1,418,306 439,439,1,438,306
    450,450,1,435,300 451,451,1,435,308 453,453,1,433,301 457,457,1,456,308 45C,45C,1,43A,301
    45D,45D,1,438,300 45E,45E,1,443,306 476,476,1,474,30F 477,477,1,475,30F 4C1,4C1,1,416,306
    4C2,4C2,1,436,306 4D0,4D0,1,410,306 4D1,4D1,1,430,306 4D2,4D2,1,410,308 4D3,4D3,1,430,308
    4D6,4D6,1,415,306 4D7,4D7,1,435,306 4DA,4DA,1,4D8,308 4DB,4DB,1,4D9,308 4DC,4DC,1,416,308",
    "4DD,4DD,1,436,308 4DE,4DE,1,417,308 4DF,4DF,1,437,308 4E2,4E2,1,418,304 4E3,4E3,1,438,304
    4E4,4E4,1,418,308 4E5,4E5,1,438,308 4E6,4E6,1,41E,308 4E7,4E7,1,43E,308 4EA,4EA,1,4E8,308
    4EB,4EB,1,4E9,308 4EC,4EC,1,42D,308 4ED,4ED,1,44D,308 4EE,4EE,1,423,304 4EF,4EF,1,443,304
    4F0,4F0,1,423,308 4F1,4F1,1,443,308 4F2,4F2,1,423,30B 4F3,4F3,1,443,30B 4F4,4F4,1,427,308
    4F5,4F5,1,447,308 4F8,4F8,1,42B,308 4F9,4F9,1,44B,308 622,622,1,627,653 623,623,1,627,654
    624,624,1,648,654 625,625,1,627,655 626,626,1,64A,654 6C0,6C0,1,6D5,654 6C2,6C2,1,6C1,654
    6D3,6D3,1,6D2,654 929,929,1,928,93C 931,931,1,930,93C 934,934,1,933,93C 958,958,1,915,93C
    959,959,1,916,93C 95A,95A,1,917,93C 95B,95B,1,91C,93C 95C,95C,1,921,93C 95D,95D,1,922,93C
    95E,95E,1,92B,93C 95F,95F,1,92F,93C 9CB,9CB,1,9C7,9BE 9CC,9CC,1,9C7,9D7 9DC,9DC,1,9A1,9BC
    9DD,9DD,1,9A2,9BC 9DF,9DF,1,9AF,9BC A33,A33,1,A32,A3C A36,A36,1,A38,A3C A59,A59,1,A16,A3C",
    "A5A,A5A,1,A17,A3C A5B,A5B,1,A1C,A3C A5E,A5E,1,A2B,A3C B48,B48,1,B47,B56 B4B,B4B,1,B47,B3E
    B4C,B4C,1,B47,B57 B5C,B5C,1,B21,B3C B5D,B5D,1,B22,B3C B94,B94,1,B92,BD7 BCA,BCA,1,BC6,BBE
    BCB,BCB,1,BC7,BBE BCC,BCC,1,BC6,BD7 C48,C48,1,C46,C56 CC0,CC0,1,CBF,CD5 CC7,CC7,1,CC6,CD5
    CC8,CC8,1,CC6,CD6 CCA,CCA,1,CC6,CC2 CCB,CCB,1,CCA,CD5 D4A,D4A,1,D46,D3E D4B,D4B,1,D47,D3E
    D4C,D4C,1,D46,D57 DDA,DDA,1,DD9,DCA DDC,DDC,1,DD9,DCF DDD,DDD,1,DDC,DCA DDE,DDE,1,DD9,DDF
    F43,F43,1,F42,FB7 F4D,F4D,1,F4C,FB7 F52,F52,1,F51,FB7 F57,F57,1,F56,FB7 F5C,F5C,1,F5B,FB7
    F69,F69,1,F40,FB5 F73,F73,1,F71,F72 F75,F75,1,F71,F74 F76,F76,1,FB2,F80 F78,F78,1,FB3,F80
    F81,F81,1,F71,F80 F93,F93,1,F92,FB7 F9D,F9D,1,F9C,FB7 FA2,FA2,1,FA1,FB7 FA7,FA7,1,FA6,FB7
    FAC,FAC,1,FAB,FB7 FB9,FB9,1,F90,FB5 1026,1026,1,1025,102E 1B06,1B06,1,1B05,1B35
    1B08,1B08,1,1B07,1B35 1B0A,1B0A,1,1B09,1B35 1B0C,1B0C,1,1B0B,1B35 1B0E,1B0E,1,1B0D,1B35",
    "1B12,1B12,1,1B11,1B35 1B3B,1B3B,1,1B3A,1B35 1B3D,1B3D,1,1B3C,1B35 1B40,1B40,1,1B3E,1B35
    1B41,1B41,1,1B3F,1B35 1B43,1B43,1,1B42,1B35 1E00,1E00,1,41,325 1E01,1E01,1,61,325
    1E02,1E02,1,42,307 1E03,1E03,1,62,307 1E04,1E04,1,42,323 1E05,1E05,1,62,323 1E06,1E06,1,42,331
    1E07,1E07,1,62,331 1E08,1E08,1,C7,301 1E09,1E09,1,E7,301 1E0A,1E0A,1,44,307 1E0B,1E0B,1,64,307
    1E0C,1E0C,1,44,323 1E0D,1E0D,1,64,323 1E0E,1E0E,1,44,331 1E0F,1E0F,1,64,331 1E10,1E10,1,44,327
    1E11,1E11,1,64,327 1E12,1E12,1,44,32D 1E13,1E13,1,64,32D 1E14,1E14,1,112,300
    1E15,1E15,1,113,300 1E16,1E16,1,112,301 1E17,1E17,1,113,301 1E18,1E18,1,45,32D
    1E19,1E19,1,65,32D 1E1A,1E1A,1,45,330 1E1B,1E1B,1,65,330 1E1C,1E1C,1,228,306
    1E1D,1E1D,1,229,306 1E1E,1E1E,1,46,307 1E1F,1E1F,1,66,307 1E20,1E20,1,47,304
    1E21,1E21,1,67,304 1E22,1E22,1,48,307 1E23,1E23,1,68,307 1E24,1E24,1,48,323 1E25,1E25,1,68,323",
    "1E26,1E26,1,48,308 1E27,1E27,1,68,308 1E28,1E28,1,48,327 1E29,1E29,1,68,327 1E2A,1E2A,1,48,32E
    1E2B,1E2B,1,68,32E 1E2C,1E2C,1,49,330 1E2D,1E2D,1,69,330 1E2E,1E2E,1,CF,301 1E2F,1E2F,1,EF,301
    1E30,1E30,1,4B,301 1E31,1E31,1,6B,301 1E32,1E32,1,4B,323 1E33,1E33,1,6B,323 1E34,1E34,1,4B,331
    1E35,1E35,1,6B,331 1E36,1E36,1,4C,323 1E37,1E37,1,6C,323 1E38,1E38,1,1E36,304
    1E39,1E39,1,1E37,304 1E3A,1E3A,1,4C,331 1E3B,1E3B,1,6C,331 1E3C,1E3C,1,4C,32D
    1E3D,1E3D,1,6C,32D 1E3E,1E3E,1,4D,301 1E3F,1E3F,1,6D,301 1E40,1E40,1,4D,307 1E41,1E41,1,6D,307
    1E42,1E42,1,4D,323 1E43,1E43,1,6D,323 1E44,1E44,1,4E,307 1E45,1E45,1,6E,307 1E46,1E46,1,4E,323
    1E47,1E47,1,6E,323 1E48,1E48,1,4E,331 1E49,1E49,1,6E,331 1E4A,1E4A,1,4E,32D 1E4B,1E4B,1,6E,32D
    1E4C,1E4C,1,D5,301 1E4D,1E4D,1,F5,301 1E4E,1E4E,1,D5,308 1E4F,1E4F,1,F5,308
    1E50,1E50,1,14C,300 1E51,1E51,1,14D,300 1E52,1E52,1,14C,301 1E53,1E53,1,14D,301",
    "1E54,1E54,1,50,301 1E55,1E55,1,70,301 1E56,1E56,1,50,307 1E57,1E57,1,70,307 1E58,1E58,1,52,307
    1E59,1E59,1,72,307 1E5A,1E5A,1,52,323 1E5B,1E5B,1,72,323 1E5C,1E5C,1,1E5A,304
    1E5D,1E5D,1,1E5B,304 1E5E,1E5E,1,52,331 1E5F,1E5F,1,72,331 1E60,1E60,1,53,307
    1E61,1E61,1,73,307 1E62,1E62,1,53,323 1E63,1E63,1,73,323 1E64,1E64,1,15A,307
    1E65,1E65,1,15B,307 1E66,1E66,1,160,307 1E67,1E67,1,161,307 1E68,1E68,1,1E62,307
    1E69,1E69,1,1E63,307 1E6A,1E6A,1,54,307 1E6B,1E6B,1,74,307 1E6C,1E6C,1,54,323
    1E6D,1E6D,1,74,323 1E6E,1E6E,1,54,331 1E6F,1E6F,1,74,331 1E70,1E70,1,54,32D 1E71,1E71,1,74,32D
    1E72,1E72,1,55,324 1E73,1E73,1,75,324 1E74,1E74,1,55,330 1E75,1E75,1,75,330 1E76,1E76,1,55,32D
    1E77,1E77,1,75,32D 1E78,1E78,1,168,301 1E79,1E79,1,169,301 1E7A,1E7A,1,16A,308
    1E7B,1E7B,1,16B,308 1E7C,1E7C,1,56,303 1E7D,1E7D,1,76,303 1E7E,1E7E,1,56,323",
    "1E7F,1E7F,1,76,323 1E80,1E80,1,57,300 1E81,1E81,1,77,300 1E82,1E82,1,57,301 1E83,1E83,1,77,301
    1E84,1E84,1,57,308 1E85,1E85,1,77,308 1E86,1E86,1,57,307 1E87,1E87,1,77,307 1E88,1E88,1,57,323
    1E89,1E89,1,77,323 1E8A,1E8A,1,58,307 1E8B,1E8B,1,78,307 1E8C,1E8C,1,58,308 1E8D,1E8D,1,78,308
    1E8E,1E8E,1,59,307 1E8F,1E8F,1,79,307 1E90,1E90,1,5A,302 1E91,1E91,1,7A,302 1E92,1E92,1,5A,323
    1E93,1E93,1,7A,323 1E94,1E94,1,5A,331 1E95,1E95,1,7A,331 1E96,1E96,1,68,331 1E97,1E97,1,74,308
    1E98,1E98,1,77,30A 1E99,1E99,1,79,30A 1E9B,1E9B,1,17F,307 1EA0,1EA0,1,41,323
    1EA1,1EA1,1,61,323 1EA2,1EA2,1,41,309 1EA3,1EA3,1,61,309 1EA4,1EA4,1,C2,301 1EA5,1EA5,1,E2,301
    1EA6,1EA6,1,C2,300 1EA7,1EA7,1,E2,300 1EA8,1EA8,1,C2,309 1EA9,1EA9,1,E2,309 1EAA,1EAA,1,C2,303
    1EAB,1EAB,1,E2,303 1EAC,1EAC,1,1EA0,302 1EAD,1EAD,1,1EA1,302 1EAE,1EAE,1,102,301
    1EAF,1EAF,1,103,301 1EB0,1EB0,1,102,300 1EB1,1EB1,1,103,300 1EB2,1EB2,1,102,309",
    "1EB3,1EB3,1,103,309 1EB4,1EB4,1,102,303 1EB5,1EB5,1,103,303 1EB6,1EB6,1,1EA0,306
    1EB7,1EB7,1,1EA1,306 1EB8,1EB8,1,45,323 1EB9,1EB9,1,65,323 1EBA,1EBA,1,45,309
    1EBB,1EBB,1,65,309 1EBC,1EBC,1,45,303 1EBD,1EBD,1,65,303 1EBE,1EBE,1,CA,301 1EBF,1EBF,1,EA,301
    1EC0,1EC0,1,CA,300 1EC1,1EC1,1,EA,300 1EC2,1EC2,1,CA,309 1EC3,1EC3,1,EA,309 1EC4,1EC4,1,CA,303
    1EC5,1EC5,1,EA,303 1EC6,1EC6,1,1EB8,302 1EC7,1EC7,1,1EB9,302 1EC8,1EC8,1,49,309
    1EC9,1EC9,1,69,309 1ECA,1ECA,1,49,323 1ECB,1ECB,1,69,323 1ECC,1ECC,1,4F,323 1ECD,1ECD,1,6F,323
    1ECE,1ECE,1,4F,309 1ECF,1ECF,1,6F,309 1ED0,1ED0,1,D4,301 1ED1,1ED1,1,F4,301 1ED2,1ED2,1,D4,300
    1ED3,1ED3,1,F4,300 1ED4,1ED4,1,D4,309 1ED5,1ED5,1,F4,309 1ED6,1ED6,1,D4,303 1ED7,1ED7,1,F4,303
    1ED8,1ED8,1,1ECC,302 1ED9,1ED9,1,1ECD,302 1EDA,1EDA,1,1A0,301 1EDB,1EDB,1,1A1,301
    1EDC,1EDC,1,1A0,300 1EDD,1EDD,1,1A1,300 1EDE,1EDE,1,1A0,309 1EDF,1EDF,1,1A1,309",
    "1EE0,1EE0,1,1A0,303 1EE1,1EE1,1,1A1,303 1EE2,1EE2,1,1A0,323 1EE3,1EE3,1,1A1,323
    1EE4,1EE4,1,55,323 1EE5,1EE5,1,75,323 1EE6,1EE6,1,55,309 1EE7,1EE7,1,75,309
    1EE8,1EE8,1,1AF,301 1EE9,1EE9,1,1B0,301 1EEA,1EEA,1,1AF,300 1EEB,1EEB,1,1B0,300
    1EEC,1EEC,1,1AF,309 1EED,1EED,1,1B0,309 1EEE,1EEE,1,1AF,303 1EEF,1EEF,1,1B0,303
    1EF0,1EF0,1,1AF,323 1EF1,1EF1,1,1B0,323 1EF2,1EF2,1,59,300 1EF3,1EF3,1,79,300
    1EF4,1EF4,1,59,323 1EF5,1EF5,1,79,323 1EF6,1EF6,1,59,309 1EF7,1EF7,1,79,309 1EF8,1EF8,1,59,303
    1EF9,1EF9,1,79,303 1F00,1F00,1,3B1,313 1F01,1F01,1,3B1,314 1F02,1F02,1,1F00,300
    1F03,1F03,1,1F01,300 1F04,1F04,1,1F00,301 1F05,1F05,1,1F01,301 1F06,1F06,1,1F00,342
    1F07,1F07,1,1F01,342 1F08,1F08,1,391,313 1F09,1F09,1,391,314 1F0A,1F0A,1,1F08,300
    1F0B,1F0B,1,1F09,300 1F0C,1F0C,1,1F08,301 1F0D,1F0D,1,1F09,301 1F0E,1F0E,1,1F08,342",
    "1F0F,1F0F,1,1F09,342 1F10,1F10,1,3B5,313 1F11,1F11,1,3B5,314 1F12,1F12,1,1F10,300
    1F13,1F13,1,1F11,300 1F14,1F14,1,1F10,301 1F15,1F15,1,1F11,301 1F18,1F18,1,395,313
    1F19,1F19,1,395,314 1F1A,1F1A,1,1F18,300 1F1B,1F1B,1,1F19,300 1F1C,1F1C,1,1F18,301
    1F1D,1F1D,1,1F19,301 1F20,1F20,1,3B7,313 1F21,1F21,1,3B7,314 1F22,1F22,1,1F20,300
    1F23,1F23,1,1F21,300 1F24,1F24,1,1F20,301 1F25,1F25,1,1F21,301 1F26,1F26,1,1F20,342
    1F27,1F27,1,1F21,342 1F28,1F28,1,397,313 1F29,1F29,1,397,314 1F2A,1F2A,1,1F28,300
    1F2B,1F2B,1,1F29,300 1F2C,1F2C,1,1F28,301 1F2D,1F2D,1,1F29,301 1F2E,1F2E,1,1F28,342
    1F2F,1F2F,1,1F29,342 1F30,1F30,1,3B9,313 1F31,1F31,1,3B9,314 1F32,1F32,1,1F30,300
    1F33,1F33,1,1F31,300 1F34,1F34,1,1F30,301 1F35,1F35,1,1F31,301 1F36,1F36,1,1F30,342
    1F37,1F37,1,1F31,342 1F38,1F38,1,399,313 1F39,1F39,1,399,314 1F3A,1F3A,1,1F38,300",
    "1F3B,1F3B,1,1F39,300 1F3C,1F3C,1,1F38,301 1F3D,1F3D,1,1F39,301 1F3E,1F3E,1,1F38,342
    1F3F,1F3F,1,1F39,342 1F40,1F40,1,3BF,313 1F41,1F41,1,3BF,314 1F42,1F42,1,1F40,300
    1F43,1F43,1,1F41,300 1F44,1F44,1,1F40,301 1F45,1F45,1,1F41,301 1F48,1F48,1,39F,313
    1F49,1F49,1,39F,314 1F4A,1F4A,1,1F48,300 1F4B,1F4B,1,1F49,300 1F4C,1F4C,1,1F48,301
    1F4D,1F4D,1,1F49,301 1F50,1F50,1,3C5,313 1F51,1F51,1,3C5,314 1F52,1F52,1,1F50,300
    1F53,1F53,1,1F51,300 1F54,1F54,1,1F50,301 1F55,1F55,1,1F51,301 1F56,1F56,1,1F50,342
    1F57,1F57,1,1F51,342 1F59,1F59,1,3A5,314 1F5B,1F5B,1,1F59,300 1F5D,1F5D,1,1F59,301
    1F5F,1F5F,1,1F59,342 1F60,1F60,1,3C9,313 1F61,1F61,1,3C9,314 1F62,1F62,1,1F60,300
    1F63,1F63,1,1F61,300 1F64,1F64,1,1F60,301 1F65,1F65,1,1F61,301 1F66,1F66,1,1F60,342
    1F67,1F67,1,1F61,342 1F68,1F68,1,3A9,313 1F69,1F69,1,3A9,314 1F6A,1F6A,1,1F68,300",
    "1F6B,1F6B,1,1F69,300 1F6C,1F6C,1,1F68,301 1F6D,1F6D,1,1F69,301 1F6E,1F6E,1,1F68,342
    1F6F,1F6F,1,1F69,342 1F70,1F70,1,3B1,300 1F71,1F71,1,3AC 1F72,1F72,1,3B5,300 1F73,1F73,1,3AD
    1F74,1F74,1,3B7,300 1F75,1F75,1,3AE 1F76,1F76,1,3B9,300 1F77,1F77,1,3AF 1F78,1F78,1,3BF,300
    1F79,1F79,1,3CC 1F7A,1F7A,1,3C5,300 1F7B,1F7B,1,3CD 1F7C,1F7C,1,3C9,300 1F7D,1F7D,1,3CE
    1F80,1F80,1,1F00,345 1F81,1F81,1,1F01,345 1F82,1F82,1,1F02,345 1F83,1F83,1,1F03,345
    1F84,1F84,1,1F04,345 1F85,1F85,1,1F05,345 1F86,1F86,1,1F06,345 1F87,1F87,1,1F07,345
    1F88,1F88,1,1F08,345 1F89,1F89,1,1F09,345 1F8A,1F8A,1,1F0A,345 1F8B,1F8B,1,1F0B,345
    1F8C,1F8C,1,1F0C,345 1F8D,1F8D,1,1F0D,345 1F8E,1F8E,1,1F0E,345 1F8F,1F8F,1,1F0F,345
    1F90,1F90,1,1F20,345 1F91,1F91,1,1F21,345 1F92,1F92,1,1F22,345 1F93,1F93,1,1F23,345
    1F94,1F94,1,1F24,345 1F95,1F95,1,1F25,345 1F96,1F96,1,1F26,345 1F97,1F97,1,1F27,345",
    "1F98,1F98,1,1F28,345 1F99,1F99,1,1F29,345 1F9A,1F9A,1,1F2A,345 1F9B,1F9B,1,1F2B,345
    1F9C,1F9C,1,1F2C,345 1F9D,1F9D,1,1F2D,345 1F9E,1F9E,1,1F2E,345 1F9F,1F9F,1,1F2F,345
    1FA0,1FA0,1,1F60,345 1FA1,1FA1,1,1F61,345 1FA2,1FA2,1,1F62,345 1FA3,1FA3,1,1F63,345
    1FA4,1FA4,1,1F64,345 1FA5,1FA5,1,1F65,345 1FA6,1FA6,1,1F66,345 1FA7,1FA7,1,1F67,345
    1FA8,1FA8,1,1F68,345 1FA9,1FA9,1,1F69,345 1FAA,1FAA,1,1F6A,345 1FAB,1FAB,1,1F6B,345
    1FAC,1FAC,1,1F6C,345 1FAD,1FAD,1,1F6D,345 1FAE,1FAE,1,1F6E,345 1FAF,1FAF,1,1F6F,345
    1FB0,1FB0,1,3B1,306 1FB1,1FB1,1,3B1,304 1FB2,1FB2,1,1F70,345 1FB3,1FB3,1,3B1,345
    1FB4,1FB4,1,3AC,345 1FB6,1FB6,1,3B1,342 1FB7,1FB7,1,1FB6,345 1FB8,1FB8,1,391,306
    1FB9,1FB9,1,391,304 1FBA,1FBA,1,391,300 1FBB,1FBB,1,386 1FBC,1FBC,1,391,345 1FBE,1FBE,1,3B9
    1FC1,1FC1,1,A8,342 1FC2,1FC2,1,1F74,345 1FC3,1FC3,1,3B7,345 1FC4,1FC4,1,3AE,345",
    "1FC6,1FC6,1,3B7,342 1FC7,1FC7,1,1FC6,345 1FC8,1FC8,1,395,300 1FC9,1FC9,1,388
    1FCA,1FCA,1,397,300 1FCB,1FCB,1,389 1FCC,1FCC,1,397,345 1FCD,1FCD,1,1FBF,300
    1FCE,1FCE,1,1FBF,301 1FCF,1FCF,1,1FBF,342 1FD0,1FD0,1,3B9,306 1FD1,1FD1,1,3B9,304
    1FD2,1FD2,1,3CA,300 1FD3,1FD3,1,390 1FD6,1FD6,1,3B9,342 1FD7,1FD7,1,3CA,342
    1FD8,1FD8,1,399,306 1FD9,1FD9,1,399,304 1FDA,1FDA,1,399,300 1FDB,1FDB,1,38A
    1FDD,1FDD,1,1FFE,300 1FDE,1FDE,1,1FFE,301 1FDF,1FDF,1,1FFE,342 1FE0,1FE0,1,3C5,306
    1FE1,1FE1,1,3C5,304 1FE2,1FE2,1,3CB,300 1FE3,1FE3,1,3B0 1FE4,1FE4,1,3C1,313
    1FE5,1FE5,1,3C1,314 1FE6,1FE6,1,3C5,342 1FE7,1FE7,1,3CB,342 1FE8,1FE8,1,3A5,306
    1FE9,1FE9,1,3A5,304 1FEA,1FEA,1,3A5,300 1FEB,1FEB,1,38E 1FEC,1FEC,1,3A1,314 1FED,1FED,1,A8,300
    1FEE,1FEE,1,385 1FEF,1FEF,1,60 1FF2,1FF2,1,1F7C,345 1FF3,1FF3,1,3C9,345 1FF4,1FF4,1,3CE,345",
    "1FF6,1FF6,1,3C9,342 1FF7,1FF7,1,1FF6,345 1FF8,1FF8,1,39F,300 1FF9,1FF9,1,38C
    1FFA,1FFA,1,3A9,300 1FFB,1FFB,1,38F 1FFC,1FFC,1,3A9,345 1FFD,1FFD,1,B4 2000,2000,1,2002
    2001,2001,1,2003 2126,2126,1,3A9 212A,212A,1,4B 212B,212B,1,C5 219A,219A,1,2190,338
    219B,219B,1,2192,338 21AE,21AE,1,2194,338 21CD,21CD,1,21D0,338 21CE,21CE,1,21D4,338
    21CF,21CF,1,21D2,338 2204,2204,1,2203,338 2209,2209,1,2208,338 220C,220C,1,220B,338
    2224,2224,1,2223,338 2226,2226,1,2225,338 2241,2241,1,223C,338 2244,2244,1,2243,338
    2247,2247,1,2245,338 2249,2249,1,2248,338 2260,2260,1,3D,338 2262,2262,1,2261,338
    226D,226D,1,224D,338 226E,226E,1,3C,338 226F,226F,1,3E,338 2270,2270,1,2264,338
    2271,2271,1,2265,338 2274,2274,1,2272,338 2275,2275,1,2273,338 2278,2278,1,2276,338
    2279,2279,1,2277,338 2280,2280,1,227A,338 2281,2281,1,227B,338 2284,2284,1,2282,338",
    "2285,2285,1,2283,338 2288,2288,1,2286,338 2289,2289,1,2287,338 22AC,22AC,1,22A2,338
    22AD,22AD,1,22A8,338 22AE,22AE,1,22A9,338 22AF,22AF,1,22AB,338 22E0,22E0,1,227C,338
    22E1,22E1,1,227D,338 22E2,22E2,1,2291,338 22E3,22E3,1,2292,338 22EA,22EA,1,22B2,338
    22EB,22EB,1,22B3,338 22EC,22EC,1,22B4,338 22ED,22ED,1,22B5,338 2329,2329,1,3008
    232A,232A,1,3009 2ADC,2ADC,1,2ADD,338 304C,304C,1,304B,3099 304E,304E,1,304D,3099
    3050,3050,1,304F,3099 3052,3052,1,3051,3099 3054,3054,1,3053,3099 3056,3056,1,3055,3099
    3058,3058,1,3057,3099 305A,305A,1,3059,3099 305C,305C,1,305B,3099 305E,305E,1,305D,3099
    3060,3060,1,305F,3099 3062,3062,1,3061,3099 3065,3065,1,3064,3099 3067,3067,1,3066,3099
    3069,3069,1,3068,3099 3070,3070,1,306F,3099 3071,3071,1,306F,309A 3073,3073,1,3072,3099
    3074,3074,1,3072,309A 3076,3076,1,3075,3099 3077,3077,1,3075,309A 3079,3079,1,3078,3099",
    "307A,307A,1,3078,309A 307C,307C,1,307B,3099 307D,307D,1,307B,309A 3094,3094,1,3046,3099
    309E,309E,1,309D,3099 30AC,30AC,1,30AB,3099 30AE,30AE,1,30AD,3099 30B0,30B0,1,30AF,3099
    30B2,30B2,1,30B1,3099 30B4,30B4,1,30B3,3099 30B6,30B6,1,30B5,3099 30B8,30B8,1,30B7,3099
    30BA,30BA,1,30B9,3099 30BC,30BC,1,30BB,3099 30BE,30BE,1,30BD,3099 30C0,30C0,1,30BF,3099
    30C2,30C2,1,30C1,3099 30C5,30C5,1,30C4,3099 30C7,30C7,1,30C6,3099 30C9,30C9,1,30C8,3099
    30D0,30D0,1,30CF,3099 30D1,30D1,1,30CF,309A 30D3,30D3,1,30D2,3099 30D4,30D4,1,30D2,309A
    30D6,30D6,1,30D5,3099 30D7,30D7,1,30D5,309A 30D9,30D9,1,30D8,3099 30DA,30DA,1,30D8,309A
    30DC,30DC,1,30DB,3099 30DD,30DD,1,30DB,309A 30F4,30F4,1,30A6,3099 30F7,30F7,1,30EF,3099
    30F8,30F8,1,30F0,3099 30F9,30F9,1,30F1,3099 30FA,30FA,1,30F2,3099 30FE,30FE,1,30FD,3099
    F900,F900,1,8C48 F901,F901,1,66F4 F902,F902,1,8ECA F903,F903,1,8CC8 F904,F904,1,6ED1",
    "F905,F905,1,4E32 F906,F906,1,53E5 F907,F907,1,9F9C F908,F908,1,9F9C F909,F909,1,5951
    F90A,F90A,1,91D1 F90B,F90B,1,5587 F90C,F90C,1,5948 F90D,F90D,1,61F6 F90E,F90E,1,7669
    F90F,F90F,1,7F85 F910,F910,1,863F F911,F911,1,87BA F912,F912,1,88F8 F913,F913,1,908F
    F914,F914,1,6A02 F915,F915,1,6D1B F916,F916,1,70D9 F917,F917,1,73DE F918,F918,1,843D
    F919,F919,1,916A F91A,F91A,1,99F1 F91B,F91B,1,4E82 F91C,F91C,1,5375 F91D,F91D,1,6B04
    F91E,F91E,1,721B F91F,F91F,1,862D F920,F920,1,9E1E F921,F921,1,5D50 F922,F922,1,6FEB
    F923,F923,1,85CD F924,F924,1,8964 F925,F925,1,62C9 F926,F926,1,81D8 F927,F927,1,881F
    F928,F928,1,5ECA F929,F929,1,6717 F92A,F92A,1,6D6A F92B,F92B,1,72FC F92C,F92C,1,90CE
    F92D,F92D,1,4F86 F92E,F92E,1,51B7 F92F,F92F,1,52DE F930,F930,1,64C4 F931,F931,1,6AD3
    F932,F932,1,7210 F933,F933,1,76E7 F934,F934,1,8001 F935,F935,1,8606 F936,F936,1,865C",
    "F937,F937,1,8DEF F938,F938,1,9732 F939,F939,1,9B6F F93A,F93A,1,9DFA F93B,F93B,1,788C
    F93C,F93C,1,797F F93D,F93D,1,7DA0 F93E,F93E,1,83C9 F93F,F93F,1,9304 F940,F940,1,9E7F
    F941,F941,1,8AD6 F942,F942,1,58DF F943,F943,1,5F04 F944,F944,1,7C60 F945,F945,1,807E
    F946,F946,1,7262 F947,F947,1,78CA F948,F948,1,8CC2 F949,F949,1,96F7 F94A,F94A,1,58D8
    F94B,F94B,1,5C62 F94C,F94C,1,6A13 F94D,F94D,1,6DDA F94E,F94E,1,6F0F F94F,F94F,1,7D2F
    F950,F950,1,7E37 F951,F951,1,964B F952,F952,1,52D2 F953,F953,1,808B F954,F954,1,51DC
    F955,F955,1,51CC F956,F956,1,7A1C F957,F957,1,7DBE F958,F958,1,83F1 F959,F959,1,9675
    F95A,F95A,1,8B80 F95B,F95B,1,62CF F95C,F95C,1,6A02 F95D,F95D,1,8AFE F95E,F95E,1,4E39
    F95F,F95F,1,5BE7 F960,F960,1,6012 F961,F961,1,7387 F962,F962,1,7570 F963,F963,1,5317
    F964,F964,1,78FB F965,F965,1,4FBF F966,F966,1,5FA9 F967,F967,1,4E0D F968,F968,1,6CCC",
    "F969,F969,1,6578 F96A,F96A,1,7D22 F96B,F96B,1,53C3 F96C,F96C,1,585E F96D,F96D,1,7701
    F96E,F96E,1,8449 F96F,F96F,1,8AAA F970,F970,1,6BBA F971,F971,1,8FB0 F972,F972,1,6C88
    F973,F973,1,62FE F974,F974,1,82E5 F975,F975,1,63A0 F976,F976,1,7565 F977,F977,1,4EAE
    F978,F978,1,5169 F979,F979,1,51C9 F97A,F97A,1,6881 F97B,F97B,1,7CE7 F97C,F97C,1,826F
    F97D,F97D,1,8AD2 F97E,F97E,1,91CF F97F,F97F,1,52F5 F980,F980,1,5442 F981,F981,1,5973
    F982,F982,1,5EEC F983,F983,1,65C5 F984,F984,1,6FFE F985,F985,1,792A F986,F986,1,95AD
    F987,F987,1,9A6A F988,F988,1,9E97 F989,F989,1,9ECE F98A,F98A,1,529B F98B,F98B,1,66C6
    F98C,F98C,1,6B77 F98D,F98D,1,8F62 F98E,F98E,1,5E74 F98F,F98F,1,6190 F990,F990,1,6200
    F991,F991,1,649A F992,F992,1,6F23 F993,F993,1,7149 F994,F994,1,7489 F995,F995,1,79CA
    F996,F996,1,7DF4 F997,F997,1,806F F998,F998,1,8F26 F999,F999,1,84EE F99A,F99A,1,9023",
    "F99B,F99B,1,934A F99C,F99C,1,5217 F99D,F99D,1,52A3 F99E,F99E,1,54BD F99F,F99F,1,70C8
    F9A0,F9A0,1,88C2 F9A1,F9A1,1,8AAA F9A2,F9A2,1,5EC9 F9A3,F9A3,1,5FF5 F9A4,F9A4,1,637B
    F9A5,F9A5,1,6BAE F9A6,F9A6,1,7C3E F9A7,F9A7,1,7375 F9A8,F9A8,1,4EE4 F9A9,F9A9,1,56F9
    F9AA,F9AA,1,5BE7 F9AB,F9AB,1,5DBA F9AC,F9AC,1,601C F9AD,F9AD,1,73B2 F9AE,F9AE,1,7469
    F9AF,F9AF,1,7F9A F9B0,F9B0,1,8046 F9B1,F9B1,1,9234 F9B2,F9B2,1,96F6 F9B3,F9B3,1,9748
    F9B4,F9B4,1,9818 F9B5,F9B5,1,4F8B F9B6,F9B6,1,79AE F9B7,F9B7,1,91B4 F9B8,F9B8,1,96B8
    F9B9,F9B9,1,60E1 F9BA,F9BA,1,4E86 F9BB,F9BB,1,50DA F9BC,F9BC,1,5BEE F9BD,F9BD,1,5C3F
    F9BE,F9BE,1,6599 F9BF,F9BF,1,6A02 F9C0,F9C0,1,71CE F9C1,F9C1,1,7642 F9C2,F9C2,1,84FC
    F9C3,F9C3,1,907C F9C4,F9C4,1,9F8D F9C5,F9C5,1,6688 F9C6,F9C6,1,962E F9C7,F9C7,1,5289
    F9C8,F9C8,1,677B F9C9,F9C9,1,67F3 F9CA,F9CA,1,6D41 F9CB,F9CB,1,6E9C F9CC,F9CC,1,7409",
    "F9CD,F9CD,1,7559 F9CE,F9CE,1,786B F9CF,F9CF,1,7D10 F9D0,F9D0,1,985E F9D1,F9D1,1,516D
    F9D2,F9D2,1,622E F9D3,F9D3,1,9678 F9D4,F9D4,1,502B F9D5,F9D5,1,5D19 F9D6,F9D6,1,6DEA
    F9D7,F9D7,1,8F2A F9D8,F9D8,1,5F8B F9D9,F9D9,1,6144 F9DA,F9DA,1,6817 F9DB,F9DB,1,7387
    F9DC,F9DC,1,9686 F9DD,F9DD,1,5229 F9DE,F9DE,1,540F F9DF,F9DF,1,5C65 F9E0,F9E0,1,6613
    F9E1,F9E1,1,674E F9E2,F9E2,1,68A8 F9E3,F9E3,1,6CE5 F9E4,F9E4,1,7406 F9E5,F9E5,1,75E2
    F9E6,F9E6,1,7F79 F9E7,F9E7,1,88CF F9E8,F9E8,1,88E1 F9E9,F9E9,1,91CC F9EA,F9EA,1,96E2
    F9EB,F9EB,1,533F F9EC,F9EC,1,6EBA F9ED,F9ED,1,541D F9EE,F9EE,1,71D0 F9EF,F9EF,1,7498
    F9F0,F9F0,1,85FA F9F1,F9F1,1,96A3 F9F2,F9F2,1,9C57 F9F3,F9F3,1,9E9F F9F4,F9F4,1,6797
    F9F5,F9F5,1,6DCB F9F6,F9F6,1,81E8 F9F7,F9F7,1,7ACB F9F8,F9F8,1,7B20 F9F9,F9F9,1,7C92
    F9FA,F9FA,1,72C0 F9FB,F9FB,1,7099 F9FC,F9FC,1,8B58 F9FD,F9FD,1,4EC0 F9FE,F9FE,1,8336",
    "F9FF,F9FF,1,523A FA00,FA00,1,5207 FA01,FA01,1,5EA6 FA02,FA02,1,62D3 FA03,FA03,1,7CD6
    FA04,FA04,1,5B85 FA05,FA05,1,6D1E FA06,FA06,1,66B4 FA07,FA07,1,8F3B FA08,FA08,1,884C
    FA09,FA09,1,964D FA0A,FA0A,1,898B FA0B,FA0B,1,5ED3 FA0C,FA0C,1,5140 FA0D,FA0D,1,55C0
    FA10,FA10,1,585A FA12,FA12,1,6674 FA15,FA15,1,51DE FA16,FA16,1,732A FA17,FA17,1,76CA
    FA18,FA18,1,793C FA19,FA19,1,795E FA1A,FA1A,1,7965 FA1B,FA1B,1,798F FA1C,FA1C,1,9756
    FA1D,FA1D,1,7CBE FA1E,FA1E,1,7FBD FA20,FA20,1,8612 FA22,FA22,1,8AF8 FA25,FA25,1,9038
    FA26,FA26,1,90FD FA2A,FA2A,1,98EF FA2B,FA2B,1,98FC FA2C,FA2C,1,9928 FA2D,FA2D,1,9DB4
    FA2E,FA2E,1,90DE FA2F,FA2F,1,96B7 FA30,FA30,1,4FAE FA31,FA31,1,50E7 FA32,FA32,1,514D
    FA33,FA33,1,52C9 FA34,FA34,1,52E4 FA35,FA35,1,5351 FA36,FA36,1,559D FA37,FA37,1,5606
    FA38,FA38,1,5668 FA39,FA39,1,5840 FA3A,FA3A,1,58A8 FA3B,FA3B,1,5C64 FA3C,FA3C,1,5C6E",
    "FA3D,FA3D,1,6094 FA3E,FA3E,1,6168 FA3F,FA3F,1,618E FA40,FA40,1,61F2 FA41,FA41,1,654F
    FA42,FA42,1,65E2 FA43,FA43,1,6691 FA44,FA44,1,6885 FA45,FA45,1,6D77 FA46,FA46,1,6E1A
    FA47,FA47,1,6F22 FA48,FA48,1,716E FA49,FA49,1,722B FA4A,FA4A,1,7422 FA4B,FA4B,1,7891
    FA4C,FA4C,1,793E FA4D,FA4D,1,7949 FA4E,FA4E,1,7948 FA4F,FA4F,1,7950 FA50,FA50,1,7956
    FA51,FA51,1,795D FA52,FA52,1,798D FA53,FA53,1,798E FA54,FA54,1,7A40 FA55,FA55,1,7A81
    FA56,FA56,1,7BC0 FA57,FA57,1,7DF4 FA58,FA58,1,7E09 FA59,FA59,1,7E41 FA5A,FA5A,1,7F72
    FA5B,FA5B,1,8005 FA5C,FA5C,1,81ED FA5D,FA5D,1,8279 FA5E,FA5E,1,8279 FA5F,FA5F,1,8457
    FA60,FA60,1,8910 FA61,FA61,1,8996 FA62,FA62,1,8B01 FA63,FA63,1,8B39 FA64,FA64,1,8CD3
    FA65,FA65,1,8D08 FA66,FA66,1,8FB6 FA67,FA67,1,9038 FA68,FA68,1,96E3 FA69,FA69,1,97FF
    FA6A,FA6A,1,983B FA6B,FA6B,1,6075 FA6C,FA6C,1,242EE FA6D,FA6D,1,8218 FA70,FA70,1,4E26",
    "FA71,FA71,1,51B5 FA72,FA72,1,5168 FA73,FA73,1,4F80 FA74,FA74,1,5145 FA75,FA75,1,5180
    FA76,FA76,1,52C7 FA77,FA77,1,52FA FA78,FA78,1,559D FA79,FA79,1,5555 FA7A,FA7A,1,5599
    FA7B,FA7B,1,55E2 FA7C,FA7C,1,585A FA7D,FA7D,1,58B3 FA7E,FA7E,1,5944 FA7F,FA7F,1,5954
    FA80,FA80,1,5A62 FA81,FA81,1,5B28 FA82,FA82,1,5ED2 FA83,FA83,1,5ED9 FA84,FA84,1,5F69
    FA85,FA85,1,5FAD FA86,FA86,1,60D8 FA87,FA87,1,614E FA88,FA88,1,6108 FA89,FA89,1,618E
    FA8A,FA8A,1,6160 FA8B,FA8B,1,61F2 FA8C,FA8C,1,6234 FA8D,FA8D,1,63C4 FA8E,FA8E,1,641C
    FA8F,FA8F,1,6452 FA90,FA90,1,6556 FA91,FA91,1,6674 FA92,FA92,1,6717 FA93,FA93,1,671B
    FA94,FA94,1,6756 FA95,FA95,1,6B79 FA96,FA96,1,6BBA FA97,FA97,1,6D41 FA98,FA98,1,6EDB
    FA99,FA99,1,6ECB FA9A,FA9A,1,6F22 FA9B,FA9B,1,701E FA9C,FA9C,1,716E FA9D,FA9D,1,77A7
    FA9E,FA9E,1,7235 FA9F,FA9F,1,72AF FAA0,FAA0,1,732A FAA1,FAA1,1,7471 FAA2,FAA2,1,7506",
    "FAA3,FAA3,1,753B FAA4,FAA4,1,761D FAA5,FAA5,1,761F FAA6,FAA6,1,76CA FAA7,FAA7,1,76DB
    FAA8,FAA8,1,76F4 FAA9,FAA9,1,774A FAAA,FAAA,1,7740 FAAB,FAAB,1,78CC FAAC,FAAC,1,7AB1
    FAAD,FAAD,1,7BC0 FAAE,FAAE,1,7C7B FAAF,FAAF,1,7D5B FAB0,FAB0,1,7DF4 FAB1,FAB1,1,7F3E
    FAB2,FAB2,1,8005 FAB3,FAB3,1,8352 FAB4,FAB4,1,83EF FAB5,FAB5,1,8779 FAB6,FAB6,1,8941
    FAB7,FAB7,1,8986 FAB8,FAB8,1,8996 FAB9,FAB9,1,8ABF FABA,FABA,1,8AF8 FABB,FABB,1,8ACB
    FABC,FABC,1,8B01 FABD,FABD,1,8AFE FABE,FABE,1,8AED FABF,FABF,1,8B39 FAC0,FAC0,1,8B8A
    FAC1,FAC1,1,8D08 FAC2,FAC2,1,8F38 FAC3,FAC3,1,9072 FAC4,FAC4,1,9199 FAC5,FAC5,1,9276
    FAC6,FAC6,1,967C FAC7,FAC7,1,96E3 FAC8,FAC8,1,9756 FAC9,FAC9,1,97DB FACA,FACA,1,97FF
    FACB,FACB,1,980B FACC,FACC,1,983B FACD,FACD,1,9B12 FACE,FACE,1,9F9C FACF,FACF,1,2284A
    FAD0,FAD0,1,22844 FAD1,FAD1,1,233D5 FAD2,FAD2,1,3B9D FAD3,FAD3,1,4018 FAD4,FAD4,1,4039",
    "FAD5,FAD5,1,25249 FAD6,FAD6,1,25CD0 FAD7,FAD7,1,27ED3 FAD8,FAD8,1,9F43 FAD9,FAD9,1,9F8E
    FB1D,FB1D,1,5D9,5B4 FB1F,FB1F,1,5F2,5B7 FB2A,FB2A,1,5E9,5C1 FB2B,FB2B,1,5E9,5C2
    FB2C,FB2C,1,FB49,5C1 FB2D,FB2D,1,FB49,5C2 FB2E,FB2E,1,5D0,5B7 FB2F,FB2F,1,5D0,5B8
    FB30,FB30,1,5D0,5BC FB31,FB31,1,5D1,5BC FB32,FB32,1,5D2,5BC FB33,FB33,1,5D3,5BC
    FB34,FB34,1,5D4,5BC FB35,FB35,1,5D5,5BC FB36,FB36,1,5D6,5BC FB38,FB38,1,5D8,5BC
    FB39,FB39,1,5D9,5BC FB3A,FB3A,1,5DA,5BC FB3B,FB3B,1,5DB,5BC FB3C,FB3C,1,5DC,5BC
    FB3E,FB3E,1,5DE,5BC FB40,FB40,1,5E0,5BC FB41,FB41,1,5E1,5BC FB43,FB43,1,5E3,5BC
    FB44,FB44,1,5E4,5BC FB46,FB46,1,5E6,5BC FB47,FB47,1,5E7,5BC FB48,FB48,1,5E8,5BC
    FB49,FB49,1,5E9,5BC FB4A,FB4A,1,5EA,5BC FB4B,FB4B,1,5D5,5B9 FB4C,FB4C,1,5D1,5BF
    FB4D,FB4D,1,5DB,5BF FB4E,FB4E,1,5E4,5BF 105C9,105C9,1,105D2,307 105E4,105E4,1,105DA,307",
    "1109A,1109A,1,11099,110BA 1109C,1109C,1,1109B,110BA 110AB,110AB,1,110A5,110BA
    1112E,1112E,1,11131,11127 1112F,1112F,1,11132,11127 1134B,1134B,1,11347,1133E
    1134C,1134C,1,11347,11357 11383,11383,1,11382,113C9 11385,11385,1,11384,113BB
    1138E,1138E,1,1138B,113C2 11391,11391,1,11390,113C9 113C5,113C5,1,113C2,113C2
    113C7,113C7,1,113C2,113B8 113C8,113C8,1,113C2,113C9 114BB,114BB,1,114B9,114BA
    114BC,114BC,1,114B9,114B0 114BE,114BE,1,114B9,114BD 115BA,115BA,1,115B8,115AF
    115BB,115BB,1,115B9,115AF 11938,11938,1,11935,11930 16121,16121,1,1611E,1611E
    16122,16122,1,1611E,16129 16123,16123,1,1611E,1611F 16124,16124,1,16129,1611F
    16125,16125,1,1611E,16120 16126,16126,1,16121,1611F 16127,16127,1,16122,1611F
    16128,16128,1,16121,16120 16D68,16D68,1,16D67,16D67 16D69,16D69,1,16D63,16D67",
    "16D6A,16D6A,1,16D69,16D67 1D15E,1D15E,1,1D157,1D165 1D15F,1D15F,1,1D158,1D165
    1D160,1D160,1,1D15F,1D16E 1D161,1D161,1,1D15F,1D16F 1D162,1D162,1,1D15F,1D170
    1D163,1D163,1,1D15F,1D171 1D164,1D164,1,1D15F,1D172 1D1BB,1D1BB,1,1D1B9,1D165
    1D1BC,1D1BC,1,1D1BA,1D165 1D1BD,1D1BD,1,1D1BB,1D16E 1D1BE,1D1BE,1,1D1BC,1D16E
    1D1BF,1D1BF,1,1D1BB,1D16F 1D1C0,1D1C0,1,1D1BC,1D16F 2F800,2F800,1,4E3D 2F801,2F801,1,4E38
    2F802,2F802,1,4E41 2F803,2F803,1,20122 2F804,2F804,1,4F60 2F805,2F805,1,4FAE
    2F806,2F806,1,4FBB 2F807,2F807,1,5002 2F808,2F808,1,507A 2F809,2F809,1,5099 2F80A,2F80A,1,50E7
    2F80B,2F80B,1,50CF 2F80C,2F80C,1,349E 2F80D,2F80D,1,2063A 2F80E,2F80E,1,514D
    2F80F,2F80F,1,5154 2F810,2F810,1,5164 2F811,2F811,1,5177 2F812,2F812,1,2051C
    2F813,2F813,1,34B9 2F814,2F814,1,5167 2F815,2F815,1,518D 2F816,2F816,1,2054B",
    "2F817,2F817,1,5197 2F818,2F818,1,51A4 2F819,2F819,1,4ECC 2F81A,2F81A,1,51AC 2F81B,2F81B,1,51B5
    2F81C,2F81C,1,291DF 2F81D,2F81D,1,51F5 2F81E,2F81E,1,5203 2F81F,2F81F,1,34DF
    2F820,2F820,1,523B 2F821,2F821,1,5246 2F822,2F822,1,5272 2F823,2F823,1,5277 2F824,2F824,1,3515
    2F825,2F825,1,52C7 2F826,2F826,1,52C9 2F827,2F827,1,52E4 2F828,2F828,1,52FA 2F829,2F829,1,5305
    2F82A,2F82A,1,5306 2F82B,2F82B,1,5317 2F82C,2F82C,1,5349 2F82D,2F82D,1,5351 2F82E,2F82E,1,535A
    2F82F,2F82F,1,5373 2F830,2F830,1,537D 2F831,2F831,1,537F 2F832,2F832,1,537F 2F833,2F833,1,537F
    2F834,2F834,1,20A2C 2F835,2F835,1,7070 2F836,2F836,1,53CA 2F837,2F837,1,53DF
    2F838,2F838,1,20B63 2F839,2F839,1,53EB 2F83A,2F83A,1,53F1 2F83B,2F83B,1,5406
    2F83C,2F83C,1,549E 2F83D,2F83D,1,5438 2F83E,2F83E,1,5448 2F83F,2F83F,1,5468 2F840,2F840,1,54A2
    2F841,2F841,1,54F6 2F842,2F842,1,5510 2F843,2F843,1,5553 2F844,2F844,1,5563 2F845,2F845,1,5584",
    "2F846,2F846,1,5584 2F847,2F847,1,5599 2F848,2F848,1,55AB 2F849,2F849,1,55B3 2F84A,2F84A,1,55C2
    2F84B,2F84B,1,5716 2F84C,2F84C,1,5606 2F84D,2F84D,1,5717 2F84E,2F84E,1,5651 2F84F,2F84F,1,5674
    2F850,2F850,1,5207 2F851,2F851,1,58EE 2F852,2F852,1,57CE 2F853,2F853,1,57F4 2F854,2F854,1,580D
    2F855,2F855,1,578B 2F856,2F856,1,5832 2F857,2F857,1,5831 2F858,2F858,1,58AC
    2F859,2F859,1,214E4 2F85A,2F85A,1,58F2 2F85B,2F85B,1,58F7 2F85C,2F85C,1,5906
    2F85D,2F85D,1,591A 2F85E,2F85E,1,5922 2F85F,2F85F,1,5962 2F860,2F860,1,216A8
    2F861,2F861,1,216EA 2F862,2F862,1,59EC 2F863,2F863,1,5A1B 2F864,2F864,1,5A27
    2F865,2F865,1,59D8 2F866,2F866,1,5A66 2F867,2F867,1,36EE 2F868,2F868,1,36FC 2F869,2F869,1,5B08
    2F86A,2F86A,1,5B3E 2F86B,2F86B,1,5B3E 2F86C,2F86C,1,219C8 2F86D,2F86D,1,5BC3
    2F86E,2F86E,1,5BD8 2F86F,2F86F,1,5BE7 2F870,2F870,1,5BF3 2F871,2F871,1,21B18",
    "2F872,2F872,1,5BFF 2F873,2F873,1,5C06 2F874,2F874,1,5F53 2F875,2F875,1,5C22 2F876,2F876,1,3781
    2F877,2F877,1,5C60 2F878,2F878,1,5C6E 2F879,2F879,1,5CC0 2F87A,2F87A,1,5C8D
    2F87B,2F87B,1,21DE4 2F87C,2F87C,1,5D43 2F87D,2F87D,1,21DE6 2F87E,2F87E,1,5D6E
    2F87F,2F87F,1,5D6B 2F880,2F880,1,5D7C 2F881,2F881,1,5DE1 2F882,2F882,1,5DE2 2F883,2F883,1,382F
    2F884,2F884,1,5DFD 2F885,2F885,1,5E28 2F886,2F886,1,5E3D 2F887,2F887,1,5E69 2F888,2F888,1,3862
    2F889,2F889,1,22183 2F88A,2F88A,1,387C 2F88B,2F88B,1,5EB0 2F88C,2F88C,1,5EB3
    2F88D,2F88D,1,5EB6 2F88E,2F88E,1,5ECA 2F88F,2F88F,1,2A392 2F890,2F890,1,5EFE
    2F891,2F891,1,22331 2F892,2F892,1,22331 2F893,2F893,1,8201 2F894,2F894,1,5F22
    2F895,2F895,1,5F22 2F896,2F896,1,38C7 2F897,2F897,1,232B8 2F898,2F898,1,261DA
    2F899,2F899,1,5F62 2F89A,2F89A,1,5F6B 2F89B,2F89B,1,38E3 2F89C,2F89C,1,5F9A 2F89D,2F89D,1,5FCD",
    "2F89E,2F89E,1,5FD7 2F89F,2F89F,1,5FF9 2F8A0,2F8A0,1,6081 2F8A1,2F8A1,1,393A 2F8A2,2F8A2,1,391C
    2F8A3,2F8A3,1,6094 2F8A4,2F8A4,1,226D4 2F8A5,2F8A5,1,60C7 2F8A6,2F8A6,1,6148
    2F8A7,2F8A7,1,614C 2F8A8,2F8A8,1,614E 2F8A9,2F8A9,1,614C 2F8AA,2F8AA,1,617A 2F8AB,2F8AB,1,618E
    2F8AC,2F8AC,1,61B2 2F8AD,2F8AD,1,61A4 2F8AE,2F8AE,1,61AF 2F8AF,2F8AF,1,61DE 2F8B0,2F8B0,1,61F2
    2F8B1,2F8B1,1,61F6 2F8B2,2F8B2,1,6210 2F8B3,2F8B3,1,621B 2F8B4,2F8B4,1,625D 2F8B5,2F8B5,1,62B1
    2F8B6,2F8B6,1,62D4 2F8B7,2F8B7,1,6350 2F8B8,2F8B8,1,22B0C 2F8B9,2F8B9,1,633D
    2F8BA,2F8BA,1,62FC 2F8BB,2F8BB,1,6368 2F8BC,2F8BC,1,6383 2F8BD,2F8BD,1,63E4
    2F8BE,2F8BE,1,22BF1 2F8BF,2F8BF,1,6422 2F8C0,2F8C0,1,63C5 2F8C1,2F8C1,1,63A9
    2F8C2,2F8C2,1,3A2E 2F8C3,2F8C3,1,6469 2F8C4,2F8C4,1,647E 2F8C5,2F8C5,1,649D 2F8C6,2F8C6,1,6477
    2F8C7,2F8C7,1,3A6C 2F8C8,2F8C8,1,654F 2F8C9,2F8C9,1,656C 2F8CA,2F8CA,1,2300A",
    "2F8CB,2F8CB,1,65E3 2F8CC,2F8CC,1,66F8 2F8CD,2F8CD,1,6649 2F8CE,2F8CE,1,3B19 2F8CF,2F8CF,1,6691
    2F8D0,2F8D0,1,3B08 2F8D1,2F8D1,1,3AE4 2F8D2,2F8D2,1,5192 2F8D3,2F8D3,1,5195 2F8D4,2F8D4,1,6700
    2F8D5,2F8D5,1,669C 2F8D6,2F8D6,1,80AD 2F8D7,2F8D7,1,43D9 2F8D8,2F8D8,1,6717 2F8D9,2F8D9,1,671B
    2F8DA,2F8DA,1,6721 2F8DB,2F8DB,1,675E 2F8DC,2F8DC,1,6753 2F8DD,2F8DD,1,233C3
    2F8DE,2F8DE,1,3B49 2F8DF,2F8DF,1,67FA 2F8E0,2F8E0,1,6785 2F8E1,2F8E1,1,6852 2F8E2,2F8E2,1,6885
    2F8E3,2F8E3,1,2346D 2F8E4,2F8E4,1,688E 2F8E5,2F8E5,1,681F 2F8E6,2F8E6,1,6914
    2F8E7,2F8E7,1,3B9D 2F8E8,2F8E8,1,6942 2F8E9,2F8E9,1,69A3 2F8EA,2F8EA,1,69EA 2F8EB,2F8EB,1,6AA8
    2F8EC,2F8EC,1,236A3 2F8ED,2F8ED,1,6ADB 2F8EE,2F8EE,1,3C18 2F8EF,2F8EF,1,6B21
    2F8F0,2F8F0,1,238A7 2F8F1,2F8F1,1,6B54 2F8F2,2F8F2,1,3C4E 2F8F3,2F8F3,1,6B72
    2F8F4,2F8F4,1,6B9F 2F8F5,2F8F5,1,6BBA 2F8F6,2F8F6,1,6BBB 2F8F7,2F8F7,1,23A8D",
    "2F8F8,2F8F8,1,21D0B 2F8F9,2F8F9,1,23AFA 2F8FA,2F8FA,1,6C4E 2F8FB,2F8FB,1,23CBC
    2F8FC,2F8FC,1,6CBF 2F8FD,2F8FD,1,6CCD 2F8FE,2F8FE,1,6C67 2F8FF,2F8FF,1,6D16 2F900,2F900,1,6D3E
    2F901,2F901,1,6D77 2F902,2F902,1,6D41 2F903,2F903,1,6D69 2F904,2F904,1,6D78 2F905,2F905,1,6D85
    2F906,2F906,1,23D1E 2F907,2F907,1,6D34 2F908,2F908,1,6E2F 2F909,2F909,1,6E6E
    2F90A,2F90A,1,3D33 2F90B,2F90B,1,6ECB 2F90C,2F90C,1,6EC7 2F90D,2F90D,1,23ED1
    2F90E,2F90E,1,6DF9 2F90F,2F90F,1,6F6E 2F910,2F910,1,23F5E 2F911,2F911,1,23F8E
    2F912,2F912,1,6FC6 2F913,2F913,1,7039 2F914,2F914,1,701E 2F915,2F915,1,701B 2F916,2F916,1,3D96
    2F917,2F917,1,704A 2F918,2F918,1,707D 2F919,2F919,1,7077 2F91A,2F91A,1,70AD
    2F91B,2F91B,1,20525 2F91C,2F91C,1,7145 2F91D,2F91D,1,24263 2F91E,2F91E,1,719C
    2F91F,2F91F,1,243AB 2F920,2F920,1,7228 2F921,2F921,1,7235 2F922,2F922,1,7250",
    "2F923,2F923,1,24608 2F924,2F924,1,7280 2F925,2F925,1,7295 2F926,2F926,1,24735
    2F927,2F927,1,24814 2F928,2F928,1,737A 2F929,2F929,1,738B 2F92A,2F92A,1,3EAC
    2F92B,2F92B,1,73A5 2F92C,2F92C,1,3EB8 2F92D,2F92D,1,3EB8 2F92E,2F92E,1,7447 2F92F,2F92F,1,745C
    2F930,2F930,1,7471 2F931,2F931,1,7485 2F932,2F932,1,74CA 2F933,2F933,1,3F1B 2F934,2F934,1,7524
    2F935,2F935,1,24C36 2F936,2F936,1,753E 2F937,2F937,1,24C92 2F938,2F938,1,7570
    2F939,2F939,1,2219F 2F93A,2F93A,1,7610 2F93B,2F93B,1,24FA1 2F93C,2F93C,1,24FB8
    2F93D,2F93D,1,25044 2F93E,2F93E,1,3FFC 2F93F,2F93F,1,4008 2F940,2F940,1,76F4
    2F941,2F941,1,250F3 2F942,2F942,1,250F2 2F943,2F943,1,25119 2F944,2F944,1,25133
    2F945,2F945,1,771E 2F946,2F946,1,771F 2F947,2F947,1,771F 2F948,2F948,1,774A 2F949,2F949,1,4039
    2F94A,2F94A,1,778B 2F94B,2F94B,1,4046 2F94C,2F94C,1,4096 2F94D,2F94D,1,2541D",
    "2F94E,2F94E,1,784E 2F94F,2F94F,1,788C 2F950,2F950,1,78CC 2F951,2F951,1,40E3
    2F952,2F952,1,25626 2F953,2F953,1,7956 2F954,2F954,1,2569A 2F955,2F955,1,256C5
    2F956,2F956,1,798F 2F957,2F957,1,79EB 2F958,2F958,1,412F 2F959,2F959,1,7A40 2F95A,2F95A,1,7A4A
    2F95B,2F95B,1,7A4F 2F95C,2F95C,1,2597C 2F95D,2F95D,1,25AA7 2F95E,2F95E,1,25AA7
    2F95F,2F95F,1,7AEE 2F960,2F960,1,4202 2F961,2F961,1,25BAB 2F962,2F962,1,7BC6
    2F963,2F963,1,7BC9 2F964,2F964,1,4227 2F965,2F965,1,25C80 2F966,2F966,1,7CD2
    2F967,2F967,1,42A0 2F968,2F968,1,7CE8 2F969,2F969,1,7CE3 2F96A,2F96A,1,7D00
    2F96B,2F96B,1,25F86 2F96C,2F96C,1,7D63 2F96D,2F96D,1,4301 2F96E,2F96E,1,7DC7
    2F96F,2F96F,1,7E02 2F970,2F970,1,7E45 2F971,2F971,1,4334 2F972,2F972,1,26228
    2F973,2F973,1,26247 2F974,2F974,1,4359 2F975,2F975,1,262D9 2F976,2F976,1,7F7A",
    "2F977,2F977,1,2633E 2F978,2F978,1,7F95 2F979,2F979,1,7FFA 2F97A,2F97A,1,8005
    2F97B,2F97B,1,264DA 2F97C,2F97C,1,26523 2F97D,2F97D,1,8060 2F97E,2F97E,1,265A8
    2F97F,2F97F,1,8070 2F980,2F980,1,2335F 2F981,2F981,1,43D5 2F982,2F982,1,80B2
    2F983,2F983,1,8103 2F984,2F984,1,440B 2F985,2F985,1,813E 2F986,2F986,1,5AB5
    2F987,2F987,1,267A7 2F988,2F988,1,267B5 2F989,2F989,1,23393 2F98A,2F98A,1,2339C
    2F98B,2F98B,1,8201 2F98C,2F98C,1,8204 2F98D,2F98D,1,8F9E 2F98E,2F98E,1,446B 2F98F,2F98F,1,8291
    2F990,2F990,1,828B 2F991,2F991,1,829D 2F992,2F992,1,52B3 2F993,2F993,1,82B1 2F994,2F994,1,82B3
    2F995,2F995,1,82BD 2F996,2F996,1,82E6 2F997,2F997,1,26B3C 2F998,2F998,1,82E5
    2F999,2F999,1,831D 2F99A,2F99A,1,8363 2F99B,2F99B,1,83AD 2F99C,2F99C,1,8323 2F99D,2F99D,1,83BD
    2F99E,2F99E,1,83E7 2F99F,2F99F,1,8457 2F9A0,2F9A0,1,8353 2F9A1,2F9A1,1,83CA 2F9A2,2F9A2,1,83CC",
    "2F9A3,2F9A3,1,83DC 2F9A4,2F9A4,1,26C36 2F9A5,2F9A5,1,26D6B 2F9A6,2F9A6,1,26CD5
    2F9A7,2F9A7,1,452B 2F9A8,2F9A8,1,84F1 2F9A9,2F9A9,1,84F3 2F9AA,2F9AA,1,8516
    2F9AB,2F9AB,1,273CA 2F9AC,2F9AC,1,8564 2F9AD,2F9AD,1,26F2C 2F9AE,2F9AE,1,455D
    2F9AF,2F9AF,1,4561 2F9B0,2F9B0,1,26FB1 2F9B1,2F9B1,1,270D2 2F9B2,2F9B2,1,456B
    2F9B3,2F9B3,1,8650 2F9B4,2F9B4,1,865C 2F9B5,2F9B5,1,8667 2F9B6,2F9B6,1,8669 2F9B7,2F9B7,1,86A9
    2F9B8,2F9B8,1,8688 2F9B9,2F9B9,1,870E 2F9BA,2F9BA,1,86E2 2F9BB,2F9BB,1,8779 2F9BC,2F9BC,1,8728
    2F9BD,2F9BD,1,876B 2F9BE,2F9BE,1,8786 2F9BF,2F9BF,1,45D7 2F9C0,2F9C0,1,87E1 2F9C1,2F9C1,1,8801
    2F9C2,2F9C2,1,45F9 2F9C3,2F9C3,1,8860 2F9C4,2F9C4,1,8863 2F9C5,2F9C5,1,27667
    2F9C6,2F9C6,1,88D7 2F9C7,2F9C7,1,88DE 2F9C8,2F9C8,1,4635 2F9C9,2F9C9,1,88FA 2F9CA,2F9CA,1,34BB
    2F9CB,2F9CB,1,278AE 2F9CC,2F9CC,1,27966 2F9CD,2F9CD,1,46BE 2F9CE,2F9CE,1,46C7",
    "2F9CF,2F9CF,1,8AA0 2F9D0,2F9D0,1,8AED 2F9D1,2F9D1,1,8B8A 2F9D2,2F9D2,1,8C55
    2F9D3,2F9D3,1,27CA8 2F9D4,2F9D4,1,8CAB 2F9D5,2F9D5,1,8CC1 2F9D6,2F9D6,1,8D1B
    2F9D7,2F9D7,1,8D77 2F9D8,2F9D8,1,27F2F 2F9D9,2F9D9,1,20804 2F9DA,2F9DA,1,8DCB
    2F9DB,2F9DB,1,8DBC 2F9DC,2F9DC,1,8DF0 2F9DD,2F9DD,1,208DE 2F9DE,2F9DE,1,8ED4
    2F9DF,2F9DF,1,8F38 2F9E0,2F9E0,1,285D2 2F9E1,2F9E1,1,285ED 2F9E2,2F9E2,1,9094
    2F9E3,2F9E3,1,90F1 2F9E4,2F9E4,1,9111 2F9E5,2F9E5,1,2872E 2F9E6,2F9E6,1,911B
    2F9E7,2F9E7,1,9238 2F9E8,2F9E8,1,92D7 2F9E9,2F9E9,1,92D8 2F9EA,2F9EA,1,927C 2F9EB,2F9EB,1,93F9
    2F9EC,2F9EC,1,9415 2F9ED,2F9ED,1,28BFA 2F9EE,2F9EE,1,958B 2F9EF,2F9EF,1,4995
    2F9F0,2F9F0,1,95B7 2F9F1,2F9F1,1,28D77 2F9F2,2F9F2,1,49E6 2F9F3,2F9F3,1,96C3
    2F9F4,2F9F4,1,5DB2 2F9F5,2F9F5,1,9723 2F9F6,2F9F6,1,29145 2F9F7,2F9F7,1,2921A",
    "2F9F8,2F9F8,1,4A6E 2F9F9,2F9F9,1,4A76 2F9FA,2F9FA,1,97E0 2F9FB,2F9FB,1,2940A
    2F9FC,2F9FC,1,4AB2 2F9FD,2F9FD,1,29496 2F9FE,2F9FE,1,980B 2F9FF,2F9FF,1,980B
    2FA00,2FA00,1,9829 2FA01,2FA01,1,295B6 2FA02,2FA02,1,98E2 2FA03,2FA03,1,4B33
    2FA04,2FA04,1,9929 2FA05,2FA05,1,99A7 2FA06,2FA06,1,99C2 2FA07,2FA07,1,99FE 2FA08,2FA08,1,4BCE
    2FA09,2FA09,1,29B30 2FA0A,2FA0A,1,9B12 2FA0B,2FA0B,1,9C40 2FA0C,2FA0C,1,9CFD
    2FA0D,2FA0D,1,4CCE 2FA0E,2FA0E,1,4CED 2FA0F,2FA0F,1,9D67 2FA10,2FA10,1,2A0CE
    2FA11,2FA11,1,4CF8 2FA12,2FA12,1,2A105 2FA13,2FA13,1,2A20E 2FA14,2FA14,1,2A291
    2FA15,2FA15,1,9EBB 2FA16,2FA16,1,4D56 2FA17,2FA17,1,9EF9 2FA18,2FA18,1,9EFE 2FA19,2FA19,1,9F05
    2FA1A,2FA1A,1,9F0F 2FA1B,2FA1B,1,9F16 2FA1C,2FA1C,1,9F3B 2FA1D,2FA1D,1,2A600"]

/-- Pairs that compose: a row's two code points, and the one they compose to,
sorted by the first and then by the second. -/
def compositions : Array (Nat × Nat × Nat) :=
  (Table.ofBlocks compositionRows).filterMap fun row =>
    row.data.head?.map fun composed => (row.first, row.last, composed)
where
  compositionRows : List String :=
  ["3C,338,226E 3D,338,2260 3E,338,226F 41,300,C0 41,301,C1 41,302,C2 41,303,C3 41,304,100
    41,306,102 41,307,226 41,308,C4 41,309,1EA2 41,30A,C5 41,30C,1CD 41,30F,200 41,311,202
    41,323,1EA0 41,325,1E00 41,328,104 42,307,1E02 42,323,1E04 42,331,1E06 43,301,106 43,302,108
    43,307,10A 43,30C,10C 43,327,C7 44,307,1E0A 44,30C,10E 44,323,1E0C 44,327,1E10 44,32D,1E12
    44,331,1E0E 45,300,C8 45,301,C9 45,302,CA 45,303,1EBC 45,304,112 45,306,114 45,307,116
    45,308,CB 45,309,1EBA 45,30C,11A 45,30F,204 45,311,206 45,323,1EB8 45,327,228 45,328,118
    45,32D,1E18 45,330,1E1A 46,307,1E1E 47,301,1F4 47,302,11C 47,304,1E20 47,306,11E 47,307,120
    47,30C,1E6 47,327,122 48,302,124 48,307,1E22 48,308,1E26 48,30C,21E 48,323,1E24 48,327,1E28
    48,32E,1E2A 49,300,CC 49,301,CD 49,302,CE 49,303,128 49,304,12A 49,306,12C 49,307,130
    49,308,CF 49,309,1EC8 49,30C,1CF 49,30F,208 49,311,20A 49,323,1ECA 49,328,12E 49,330,1E2C",
    "4A,302,134 4B,301,1E30 4B,30C,1E8 4B,323,1E32 4B,327,136 4B,331,1E34 4C,301,139 4C,30C,13D
    4C,323,1E36 4C,327,13B 4C,32D,1E3C 4C,331,1E3A 4D,301,1E3E 4D,307,1E40 4D,323,1E42 4E,300,1F8
    4E,301,143 4E,303,D1 4E,307,1E44 4E,30C,147 4E,323,1E46 4E,327,145 4E,32D,1E4A 4E,331,1E48
    4F,300,D2 4F,301,D3 4F,302,D4 4F,303,D5 4F,304,14C 4F,306,14E 4F,307,22E 4F,308,D6 4F,309,1ECE
    4F,30B,150 4F,30C,1D1 4F,30F,20C 4F,311,20E 4F,31B,1A0 4F,323,1ECC 4F,328,1EA 50,301,1E54
    50,307,1E56 52,301,154 52,307,1E58 52,30C,158 52,30F,210 52,311,212 52,323,1E5A 52,327,156
    52,331,1E5E 53,301,15A 53,302,15C 53,307,1E60 53,30C,160 53,323,1E62 53,326,218 53,327,15E
    54,307,1E6A 54,30C,164 54,323,1E6C 54,326,21A 54,327,162 54,32D,1E70 54,331,1E6E 55,300,D9
    55,301,DA 55,302,DB 55,303,168 55,304,16A 55,306,16C 55,308,DC 55,309,1EE6 55,30A,16E
    55,30B,170 55,30C,1D3 55,30F,214 55,311,216 55,31B,1AF 55,323,1EE4 55,324,1E72 55,328,172",
    "55,32D,1E76 55,330,1E74 56,303,1E7C 56,323,1E7E 57,300,1E80 57,301,1E82 57,302,174 57,307,1E86
    57,308,1E84 57,323,1E88 58,307,1E8A 58,308,1E8C 59,300,1EF2 59,301,DD 59,302,176 59,303,1EF8
    59,304,232 59,307,1E8E 59,308,178 59,309,1EF6 59,323,1EF4 5A,301,179 5A,302,1E90 5A,307,17B
    5A,30C,17D 5A,323,1E92 5A,331,1E94 61,300,E0 61,301,E1 61,302,E2 61,303,E3 61,304,101
    61,306,103 61,307,227 61,308,E4 61,309,1EA3 61,30A,E5 61,30C,1CE 61,30F,201 61,311,203
    61,323,1EA1 61,325,1E01 61,328,105 62,307,1E03 62,323,1E05 62,331,1E07 63,301,107 63,302,109
    63,307,10B 63,30C,10D 63,327,E7 64,307,1E0B 64,30C,10F 64,323,1E0D 64,327,1E11 64,32D,1E13
    64,331,1E0F 65,300,E8 65,301,E9 65,302,EA 65,303,1EBD 65,304,113 65,306,115 65,307,117
    65,308,EB 65,309,1EBB 65,30C,11B 65,30F,205 65,311,207 65,323,1EB9 65,327,229 65,328,119
    65,32D,1E19 65,330,1E1B 66,307,1E1F 67,301,1F5 67,302,11D 67,304,1E21 67,306,11F 67,307,121",
    "67,30C,1E7 67,327,123 68,302,125 68,307,1E23 68,308,1E27 68,30C,21F 68,323,1E25 68,327,1E29
    68,32E,1E2B 68,331,1E96 69,300,EC 69,301,ED 69,302,EE 69,303,129 69,304,12B 69,306,12D
    69,308,EF 69,309,1EC9 69,30C,1D0 69,30F,209 69,311,20B 69,323,1ECB 69,328,12F 69,330,1E2D
    6A,302,135 6A,30C,1F0 6B,301,1E31 6B,30C,1E9 6B,323,1E33 6B,327,137 6B,331,1E35 6C,301,13A
    6C,30C,13E 6C,323,1E37 6C,327,13C 6C,32D,1E3D 6C,331,1E3B 6D,301,1E3F 6D,307,1E41 6D,323,1E43
    6E,300,1F9 6E,301,144 6E,303,F1 6E,307,1E45 6E,30C,148 6E,323,1E47 6E,327,146 6E,32D,1E4B
    6E,331,1E49 6F,300,F2 6F,301,F3 6F,302,F4 6F,303,F5 6F,304,14D 6F,306,14F 6F,307,22F 6F,308,F6
    6F,309,1ECF 6F,30B,151 6F,30C,1D2 6F,30F,20D 6F,311,20F 6F,31B,1A1 6F,323,1ECD 6F,328,1EB
    70,301,1E55 70,307,1E57 72,301,155 72,307,1E59 72,30C,159 72,30F,211 72,311,213 72,323,1E5B
    72,327,157 72,331,1E5F 73,301,15B 73,302,15D 73,307,1E61 73,30C,161 73,323,1E63 73,326,219",
    "73,327,15F 74,307,1E6B 74,308,1E97 74,30C,165 74,323,1E6D 74,326,21B 74,327,163 74,32D,1E71
    74,331,1E6F 75,300,F9 75,301,FA 75,302,FB 75,303,169 75,304,16B 75,306,16D 75,308,FC
    75,309,1EE7 75,30A,16F 75,30B,171 75,30C,1D4 75,30F,215 75,311,217 75,31B,1B0 75,323,1EE5
    75,324,1E73 75,328,173 75,32D,1E77 75,330,1E75 76,303,1E7D 76,323,1E7F 77,300,1E81 77,301,1E83
    77,302,175 77,307,1E87 77,308,1E85 77,30A,1E98 77,323,1E89 78,307,1E8B 78,308,1E8D 79,300,1EF3
    79,301,FD 79,302,177 79,303,1EF9 79,304,233 79,307,1E8F 79,308,FF 79,309,1EF7 79,30A,1E99
    79,323,1EF5 7A,301,17A 7A,302,1E91 7A,307,17C 7A,30C,17E 7A,323,1E93 7A,331,1E95 A8,300,1FED
    A8,301,385 A8,342,1FC1 C2,300,1EA6 C2,301,1EA4 C2,303,1EAA C2,309,1EA8 C4,304,1DE C5,301,1FA
    C6,301,1FC C6,304,1E2 C7,301,1E08 CA,300,1EC0 CA,301,1EBE CA,303,1EC4 CA,309,1EC2 CF,301,1E2E
    D4,300,1ED2 D4,301,1ED0 D4,303,1ED6 D4,309,1ED4 D5,301,1E4C D5,304,22C D5,308,1E4E D6,304,22A",
    "D8,301,1FE DC,300,1DB DC,301,1D7 DC,304,1D5 DC,30C,1D9 E2,300,1EA7 E2,301,1EA5 E2,303,1EAB
    E2,309,1EA9 E4,304,1DF E5,301,1FB E6,301,1FD E6,304,1E3 E7,301,1E09 EA,300,1EC1 EA,301,1EBF
    EA,303,1EC5 EA,309,1EC3 EF,301,1E2F F4,300,1ED3 F4,301,1ED1 F4,303,1ED7 F4,309,1ED5
    F5,301,1E4D F5,304,22D F5,308,1E4F F6,304,22B F8,301,1FF FC,300,1DC FC,301,1D8 FC,304,1D6
    FC,30C,1DA 102,300,1EB0 102,301,1EAE 102,303,1EB4 102,309,1EB2 103,300,1EB1 103,301,1EAF
    103,303,1EB5 103,309,1EB3 112,300,1E14 112,301,1E16 113,300,1E15 113,301,1E17 14C,300,1E50
    14C,301,1E52 14D,300,1E51 14D,301,1E53 15A,307,1E64 15B,307,1E65 160,307,1E66 161,307,1E67
    168,301,1E78 169,301,1E79 16A,308,1E7A 16B,308,1E7B 17F,307,1E9B 1A0,300,1EDC 1A0,301,1EDA
    1A0,303,1EE0 1A0,309,1EDE 1A0,323,1EE2 1A1,300,1EDD 1A1,301,1EDB 1A1,303,1EE1 1A1,309,1EDF
    1A1,323,1EE3 1AF,300,1EEA 1AF,301,1EE8 1AF,303,1EEE 1AF,309,1EEC 1AF,323,1EF0 1B0,300,1EEB",
    "1B0,301,1EE9 1B0,303,1EEF 1B0,309,1EED 1B0,323,1EF1 1B7,30C,1EE 1EA,304,1EC 1EB,304,1ED
    226,304,1E0 227,304,1E1 228,306,1E1C 229,306,1E1D 22E,304,230 22F,304,231 292,30C,1EF
    391,300,1FBA 391,301,386 391,304,1FB9 391,306,1FB8 391,313,1F08 391,314,1F09 391,345,1FBC
    395,300,1FC8 395,301,388 395,313,1F18 395,314,1F19 397,300,1FCA 397,301,389 397,313,1F28
    397,314,1F29 397,345,1FCC 399,300,1FDA 399,301,38A 399,304,1FD9 399,306,1FD8 399,308,3AA
    399,313,1F38 399,314,1F39 39F,300,1FF8 39F,301,38C 39F,313,1F48 39F,314,1F49 3A1,314,1FEC
    3A5,300,1FEA 3A5,301,38E 3A5,304,1FE9 3A5,306,1FE8 3A5,308,3AB 3A5,314,1F59 3A9,300,1FFA
    3A9,301,38F 3A9,313,1F68 3A9,314,1F69 3A9,345,1FFC 3AC,345,1FB4 3AE,345,1FC4 3B1,300,1F70
    3B1,301,3AC 3B1,304,1FB1 3B1,306,1FB0 3B1,313,1F00 3B1,314,1F01 3B1,342,1FB6 3B1,345,1FB3
    3B5,300,1F72 3B5,301,3AD 3B5,313,1F10 3B5,314,1F11 3B7,300,1F74 3B7,301,3AE 3B7,313,1F20",
    "3B7,314,1F21 3B7,342,1FC6 3B7,345,1FC3 3B9,300,1F76 3B9,301,3AF 3B9,304,1FD1 3B9,306,1FD0
    3B9,308,3CA 3B9,313,1F30 3B9,314,1F31 3B9,342,1FD6 3BF,300,1F78 3BF,301,3CC 3BF,313,1F40
    3BF,314,1F41 3C1,313,1FE4 3C1,314,1FE5 3C5,300,1F7A 3C5,301,3CD 3C5,304,1FE1 3C5,306,1FE0
    3C5,308,3CB 3C5,313,1F50 3C5,314,1F51 3C5,342,1FE6 3C9,300,1F7C 3C9,301,3CE 3C9,313,1F60
    3C9,314,1F61 3C9,342,1FF6 3C9,345,1FF3 3CA,300,1FD2 3CA,301,390 3CA,342,1FD7 3CB,300,1FE2
    3CB,301,3B0 3CB,342,1FE7 3CE,345,1FF4 3D2,301,3D3 3D2,308,3D4 406,308,407 410,306,4D0
    410,308,4D2 413,301,403 415,300,400 415,306,4D6 415,308,401 416,306,4C1 416,308,4DC
    417,308,4DE 418,300,40D 418,304,4E2 418,306,419 418,308,4E4 41A,301,40C 41E,308,4E6
    423,304,4EE 423,306,40E 423,308,4F0 423,30B,4F2 427,308,4F4 42B,308,4F8 42D,308,4EC
    430,306,4D1 430,308,4D3 433,301,453 435,300,450 435,306,4D7 435,308,451 436,306,4C2",
    "436,308,4DD 437,308,4DF 438,300,45D 438,304,4E3 438,306,439 438,308,4E5 43A,301,45C
    43E,308,4E7 443,304,4EF 443,306,45E 443,308,4F1 443,30B,4F3 447,308,4F5 44B,308,4F9
    44D,308,4ED 456,308,457 474,30F,476 475,30F,477 4D8,308,4DA 4D9,308,4DB 4E8,308,4EA
    4E9,308,4EB 627,653,622 627,654,623 627,655,625 648,654,624 64A,654,626 6C1,654,6C2
    6D2,654,6D3 6D5,654,6C0 928,93C,929 930,93C,931 933,93C,934 9C7,9BE,9CB 9C7,9D7,9CC
    B47,B3E,B4B B47,B56,B48 B47,B57,B4C B92,BD7,B94 BC6,BBE,BCA BC6,BD7,BCC BC7,BBE,BCB
    C46,C56,C48 CBF,CD5,CC0 CC6,CC2,CCA CC6,CD5,CC7 CC6,CD6,CC8 CCA,CD5,CCB D46,D3E,D4A
    D46,D57,D4C D47,D3E,D4B DD9,DCA,DDA DD9,DCF,DDC DD9,DDF,DDE DDC,DCA,DDD 1025,102E,1026
    1B05,1B35,1B06 1B07,1B35,1B08 1B09,1B35,1B0A 1B0B,1B35,1B0C 1B0D,1B35,1B0E 1B11,1B35,1B12
    1B3A,1B35,1B3B 1B3C,1B35,1B3D 1B3E,1B35,1B40 1B3F,1B35,1B41 1B42,1B35,1B43 1E36,304,1E38",
    "1E37,304,1E39 1E5A,304,1E5C 1E5B,304,1E5D 1E62,307,1E68 1E63,307,1E69 1EA0,302,1EAC
    1EA0,306,1EB6 1EA1,302,1EAD 1EA1,306,1EB7 1EB8,302,1EC6 1EB9,302,1EC7 1ECC,302,1ED8
    1ECD,302,1ED9 1F00,300,1F02 1F00,301,1F04 1F00,342,1F06 1F00,345,1F80 1F01,300,1F03
    1F01,301,1F05 1F01,342,1F07 1F01,345,1F81 1F02,345,1F82 1F03,345,1F83 1F04,345,1F84
    1F05,345,1F85 1F06,345,1F86 1F07,345,1F87 1F08,300,1F0A 1F08,301,1F0C 1F08,342,1F0E
    1F08,345,1F88 1F09,300,1F0B 1F09,301,1F0D 1F09,342,1F0F 1F09,345,1F89 1F0A,345,1F8A
    1F0B,345,1F8B 1F0C,345,1F8C 1F0D,345,1F8D 1F0E,345,1F8E 1F0F,345,1F8F 1F10,300,1F12
    1F10,301,1F14 1F11,300,1F13 1F11,301,1F15 1F18,300,1F1A 1F18,301,1F1C 1F19,300,1F1B
    1F19,301,1F1D 1F20,300,1F22 1F20,301,1F24 1F20,342,1F26 1F20,345,1F90 1F21,300,1F23
    1F21,301,1F25 1F21,342,1F27 1F21,345,1F91 1F22,345,1F92 1F23,345,1F93 1F24,345,1F94",
    "1F25,345,1F95 1F26,345,1F96 1F27,345,1F97 1F28,300,1F2A 1F28,301,1F2C 1F28,342,1F2E
    1F28,345,1F98 1F29,300,1F2B 1F29,301,1F2D 1F29,342,1F2F 1F29,345,1F99 1F2A,345,1F9A
    1F2B,345,1F9B 1F2C,345,1F9C 1F2D,345,1F9D 1F2E,345,1F9E 1F2F,345,1F9F 1F30,300,1F32
    1F30,301,1F34 1F30,342,1F36 1F31,300,1F33 1F31,301,1F35 1F31,342,1F37 1F38,300,1F3A
    1F38,301,1F3C 1F38,342,1F3E 1F39,300,1F3B 1F39,301,1F3D 1F39,342,1F3F 1F40,300,1F42
    1F40,301,1F44 1F41,300,1F43 1F41,301,1F45 1F48,300,1F4A 1F48,301,1F4C 1F49,300,1F4B
    1F49,301,1F4D 1F50,300,1F52 1F50,301,1F54 1F50,342,1F56 1F51,300,1F53 1F51,301,1F55
    1F51,342,1F57 1F59,300,1F5B 1F59,301,1F5D 1F59,342,1F5F 1F60,300,1F62 1F60,301,1F64
    1F60,342,1F66 1F60,345,1FA0 1F61,300,1F63 1F61,301,1F65 1F61,342,1F67 1F61,345,1FA1
    1F62,345,1FA2 1F63,345,1FA3 1F64,345,1FA4 1F65,345,1FA5 1F66,345,1FA6 1F67,345,1FA7",
    "1F68,300,1F6A 1F68,301,1F6C 1F68,342,1F6E 1F68,345,1FA8 1F69,300,1F6B 1F69,301,1F6D
    1F69,342,1F6F 1F69,345,1FA9 1F6A,345,1FAA 1F6B,345,1FAB 1F6C,345,1FAC 1F6D,345,1FAD
    1F6E,345,1FAE 1F6F,345,1FAF 1F70,345,1FB2 1F74,345,1FC2 1F7C,345,1FF2 1FB6,345,1FB7
    1FBF,300,1FCD 1FBF,301,1FCE 1FBF,342,1FCF 1FC6,345,1FC7 1FF6,345,1FF7 1FFE,300,1FDD
    1FFE,301,1FDE 1FFE,342,1FDF 2190,338,219A 2192,338,219B 2194,338,21AE 21D0,338,21CD
    21D2,338,21CF 21D4,338,21CE 2203,338,2204 2208,338,2209 220B,338,220C 2223,338,2224
    2225,338,2226 223C,338,2241 2243,338,2244 2245,338,2247 2248,338,2249 224D,338,226D
    2261,338,2262 2264,338,2270 2265,338,2271 2272,338,2274 2273,338,2275 2276,338,2278
    2277,338,2279 227A,338,2280 227B,338,2281 227C,338,22E0 227D,338,22E1 2282,338,2284
    2283,338,2285 2286,338,2288 2287,338,2289 2291,338,22E2 2292,338,22E3 22A2,338,22AC",
    "22A8,338,22AD 22A9,338,22AE 22AB,338,22AF 22B2,338,22EA 22B3,338,22EB 22B4,338,22EC
    22B5,338,22ED 3046,3099,3094 304B,3099,304C 304D,3099,304E 304F,3099,3050 3051,3099,3052
    3053,3099,3054 3055,3099,3056 3057,3099,3058 3059,3099,305A 305B,3099,305C 305D,3099,305E
    305F,3099,3060 3061,3099,3062 3064,3099,3065 3066,3099,3067 3068,3099,3069 306F,3099,3070
    306F,309A,3071 3072,3099,3073 3072,309A,3074 3075,3099,3076 3075,309A,3077 3078,3099,3079
    3078,309A,307A 307B,3099,307C 307B,309A,307D 309D,3099,309E 30A6,3099,30F4 30AB,3099,30AC
    30AD,3099,30AE 30AF,3099,30B0 30B1,3099,30B2 30B3,3099,30B4 30B5,3099,30B6 30B7,3099,30B8
    30B9,3099,30BA 30BB,3099,30BC 30BD,3099,30BE 30BF,3099,30C0 30C1,3099,30C2 30C4,3099,30C5
    30C6,3099,30C7 30C8,3099,30C9 30CF,3099,30D0 30CF,309A,30D1 30D2,3099,30D3 30D2,309A,30D4
    30D5,3099,30D6 30D5,309A,30D7 30D8,3099,30D9 30D8,309A,30DA 30DB,3099,30DC 30DB,309A,30DD",
    "30EF,3099,30F7 30F0,3099,30F8 30F1,3099,30F9 30F2,3099,30FA 30FD,3099,30FE 105D2,307,105C9
    105DA,307,105E4 11099,110BA,1109A 1109B,110BA,1109C 110A5,110BA,110AB 11131,11127,1112E
    11132,11127,1112F 11347,1133E,1134B 11347,11357,1134C 11382,113C9,11383 11384,113BB,11385
    1138B,113C2,1138E 11390,113C9,11391 113C2,113B8,113C7 113C2,113C2,113C5 113C2,113C9,113C8
    114B9,114B0,114BC 114B9,114BA,114BB 114B9,114BD,114BE 115B8,115AF,115BA 115B9,115AF,115BB
    11935,11930,11938 1611E,1611E,16121 1611E,1611F,16123 1611E,16120,16125 1611E,16129,16122
    16121,1611F,16126 16121,16120,16128 16122,1611F,16127 16129,1611F,16124 16D63,16D67,16D69
    16D67,16D67,16D68 16D69,16D67,16D6A"]

/-- Canonical combining classes. -/
def combiningClasses : CharClass := .ofBlocks
  ["300,314,E6 315,315,E8 316,319,DC 31A,31A,E8 31B,31B,D8 31C,320,DC 321,322,CA 323,326,DC
    327,328,CA 329,333,DC 334,338,1 339,33C,DC 33D,344,E6 345,345,F0 346,346,E6 347,349,DC
    34A,34C,E6 34D,34E,DC 350,352,E6 353,356,DC 357,357,E6 358,358,E8 359,35A,DC 35B,35B,E6
    35C,35C,E9 35D,35E,EA 35F,35F,E9 360,361,EA 362,362,E9 363,36F,E6 483,487,E6 591,591,DC
    592,595,E6 596,596,DC 597,599,E6 59A,59A,DE 59B,59B,DC 59C,5A1,E6 5A2,5A7,DC 5A8,5A9,E6
    5AA,5AA,DC 5AB,5AC,E6 5AD,5AD,DE 5AE,5AE,E4 5AF,5AF,E6 5B0,5B0,A 5B1,5B1,B 5B2,5B2,C 5B3,5B3,D
    5B4,5B4,E 5B5,5B5,F 5B6,5B6,10 5B7,5B7,11 5B8,5B8,12 5B9,5BA,13 5BB,5BB,14 5BC,5BC,15
    5BD,5BD,16 5BF,5BF,17 5C1,5C1,18 5C2,5C2,19 5C4,5C4,E6 5C5,5C5,DC 5C7,5C7,12 610,617,E6
    618,618,1E 619,619,1F 61A,61A,20 64B,64B,1B 64C,64C,1C 64D,64D,1D 64E,64E,1E 64F,64F,1F
    650,650,20 651,651,21 652,652,22 653,654,E6 655,656,DC 657,65B,E6 65C,65C,DC 65D,65E,E6",
    "65F,65F,DC 670,670,23 6D6,6DC,E6 6DF,6E2,E6 6E3,6E3,DC 6E4,6E4,E6 6E7,6E8,E6 6EA,6EA,DC
    6EB,6EC,E6 6ED,6ED,DC 711,711,24 730,730,E6 731,731,DC 732,733,E6 734,734,DC 735,736,E6
    737,739,DC 73A,73A,E6 73B,73C,DC 73D,73D,E6 73E,73E,DC 73F,741,E6 742,742,DC 743,743,E6
    744,744,DC 745,745,E6 746,746,DC 747,747,E6 748,748,DC 749,74A,E6 7EB,7F1,E6 7F2,7F2,DC
    7F3,7F3,E6 7FD,7FD,DC 816,819,E6 81B,823,E6 825,827,E6 829,82D,E6 859,85B,DC 897,898,E6
    899,89B,DC 89C,89F,E6 8CA,8CE,E6 8CF,8D3,DC 8D4,8E1,E6 8E3,8E3,DC 8E4,8E5,E6 8E6,8E6,DC
    8E7,8E8,E6 8E9,8E9,DC 8EA,8EC,E6 8ED,8EF,DC 8F0,8F0,1B 8F1,8F1,1C 8F2,8F2,1D 8F3,8F5,E6
    8F6,8F6,DC 8F7,8F8,E6 8F9,8FA,DC 8FB,8FF,E6 93C,93C,7 94D,94D,9 951,951,E6 952,952,DC
    953,954,E6 9BC,9BC,7 9CD,9CD,9 9FE,9FE,E6 A3C,A3C,7 A4D,A4D,9 ABC,ABC,7 ACD,ACD,9 B3C,B3C,7
    B4D,B4D,9 BCD,BCD,9 C3C,C3C,7 C4D,C4D,9 C55,C55,54 C56,C56,5B CBC,CBC,7 CCD,CCD,9 D3B,D3C,9",
    "D4D,D4D,9 DCA,DCA,9 E38,E39,67 E3A,E3A,9 E48,E4B,6B EB8,EB9,76 EBA,EBA,9 EC8,ECB,7A F18,F19,DC
    F35,F35,DC F37,F37,DC F39,F39,D8 F71,F71,81 F72,F72,82 F74,F74,84 F7A,F7D,82 F80,F80,82
    F82,F83,E6 F84,F84,9 F86,F87,E6 FC6,FC6,DC 1037,1037,7 1039,103A,9 108D,108D,DC 135D,135F,E6
    1714,1715,9 1734,1734,9 17D2,17D2,9 17DD,17DD,E6 18A9,18A9,E4 1939,1939,DE 193A,193A,E6
    193B,193B,DC 1A17,1A17,E6 1A18,1A18,DC 1A60,1A60,9 1A75,1A7C,E6 1A7F,1A7F,DC 1AB0,1AB4,E6
    1AB5,1ABA,DC 1ABB,1ABC,E6 1ABD,1ABD,DC 1ABF,1AC0,DC 1AC1,1AC2,E6 1AC3,1AC4,DC 1AC5,1AC9,E6
    1ACA,1ACA,DC 1ACB,1ADC,E6 1ADD,1ADD,DC 1AE0,1AE5,E6 1AE6,1AE6,DC 1AE7,1AEA,E6 1AEB,1AEB,EA
    1B34,1B34,7 1B44,1B44,9 1B6B,1B6B,E6 1B6C,1B6C,DC 1B6D,1B73,E6 1BAA,1BAB,9 1BE6,1BE6,7
    1BF2,1BF3,9 1C37,1C37,7 1CD0,1CD2,E6 1CD4,1CD4,1 1CD5,1CD9,DC 1CDA,1CDB,E6 1CDC,1CDF,DC
    1CE0,1CE0,E6 1CE2,1CE8,1 1CED,1CED,DC 1CF4,1CF4,E6 1CF8,1CF9,E6 1DC0,1DC1,E6 1DC2,1DC2,DC",
    "1DC3,1DC9,E6 1DCA,1DCA,DC 1DCB,1DCC,E6 1DCD,1DCD,EA 1DCE,1DCE,D6 1DCF,1DCF,DC 1DD0,1DD0,CA
    1DD1,1DF5,E6 1DF6,1DF6,E8 1DF7,1DF8,E4 1DF9,1DF9,DC 1DFA,1DFA,DA 1DFB,1DFB,E6 1DFC,1DFC,E9
    1DFD,1DFD,DC 1DFE,1DFE,E6 1DFF,1DFF,DC 20D0,20D1,E6 20D2,20D3,1 20D4,20D7,E6 20D8,20DA,1
    20DB,20DC,E6 20E1,20E1,E6 20E5,20E6,1 20E7,20E7,E6 20E8,20E8,DC 20E9,20E9,E6 20EA,20EB,1
    20EC,20EF,DC 20F0,20F0,E6 2CEF,2CF1,E6 2D7F,2D7F,9 2DE0,2DFF,E6 302A,302A,DA 302B,302B,E4
    302C,302C,E8 302D,302D,DE 302E,302F,E0 3099,309A,8 A66F,A66F,E6 A674,A67D,E6 A69E,A69F,E6
    A6F0,A6F1,E6 A806,A806,9 A82C,A82C,9 A8C4,A8C4,9 A8E0,A8F1,E6 A92B,A92D,DC A953,A953,9
    A9B3,A9B3,7 A9C0,A9C0,9 AAB0,AAB0,E6 AAB2,AAB3,E6 AAB4,AAB4,DC AAB7,AAB8,E6 AABE,AABF,E6
    AAC1,AAC1,E6 AAF6,AAF6,9 ABED,ABED,9 FB1E,FB1E,1A FE20,FE26,E6 FE27,FE2D,DC FE2E,FE2F,E6
    101FD,101FD,DC 102E0,102E0,DC 10376,1037A,E6 10A0D,10A0D,DC 10A0F,10A0F,E6 10A38,10A38,E6",
    "10A39,10A39,1 10A3A,10A3A,DC 10A3F,10A3F,9 10AE5,10AE5,E6 10AE6,10AE6,DC 10D24,10D27,E6
    10D69,10D6D,E6 10EAB,10EAC,E6 10EFA,10EFB,DC 10EFD,10EFF,DC 10F46,10F47,DC 10F48,10F4A,E6
    10F4B,10F4B,DC 10F4C,10F4C,E6 10F4D,10F50,DC 10F82,10F82,E6 10F83,10F83,DC 10F84,10F84,E6
    10F85,10F85,DC 11046,11046,9 11070,11070,9 1107F,1107F,9 110B9,110B9,9 110BA,110BA,7
    11100,11102,E6 11133,11134,9 11173,11173,7 111C0,111C0,9 111CA,111CA,7 11235,11235,9
    11236,11236,7 112E9,112E9,7 112EA,112EA,9 1133B,1133C,7 1134D,1134D,9 11366,1136C,E6
    11370,11374,E6 113CE,113D0,9 11442,11442,9 11446,11446,7 1145E,1145E,E6 114C2,114C2,9
    114C3,114C3,7 115BF,115BF,9 115C0,115C0,7 1163F,1163F,9 116B6,116B6,9 116B7,116B7,7
    1172B,1172B,9 11839,11839,9 1183A,1183A,7 1193D,1193E,9 11943,11943,7 119E0,119E0,9
    11A34,11A34,9 11A47,11A47,9 11A99,11A99,9 11C3F,11C3F,9 11D42,11D42,7 11D44,11D45,9",
    "11D97,11D97,9 11F41,11F42,9 1612F,1612F,9 16AF0,16AF4,1 16B30,16B36,E6 16FF0,16FF1,6
    1BC9E,1BC9E,1 1D165,1D166,D8 1D167,1D169,1 1D16D,1D16D,E2 1D16E,1D172,D8 1D17B,1D182,DC
    1D185,1D189,E6 1D18A,1D18B,DC 1D1AA,1D1AD,E6 1D242,1D244,E6 1E000,1E006,E6 1E008,1E018,E6
    1E01B,1E021,E6 1E023,1E024,E6 1E026,1E02A,E6 1E08F,1E08F,E6 1E130,1E136,E6 1E2AE,1E2AE,E6
    1E2EC,1E2EF,E6 1E4EC,1E4ED,E8 1E4EE,1E4EE,DC 1E4EF,1E4EF,E6 1E5EE,1E5EE,E6 1E5EF,1E5EF,DC
    1E6E3,1E6E3,E6 1E6E6,1E6E6,E6 1E6EE,1E6EF,E6 1E6F5,1E6F5,E6 1E8D0,1E8D6,DC 1E944,1E949,E6
    1E94A,1E94A,7"]

end Courier.Text
