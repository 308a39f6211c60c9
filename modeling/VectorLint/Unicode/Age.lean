/-
The versions of Unicode that assigned each character, up to Unicode 16.
-/
import VectorLint.Unicode.Property

namespace VectorLint.Unicode

/-- The version of every assigned character: each run holds from its first
character on, but for the characters that are not assigned. -/
def ageRuns : Array (Nat × String) := readRuns "
0 1.1 1F6 3.0 1FA 1.1 218 3.0 220 3.2 221 4.0 222 3.0 234 4.0 237 4.1 242 5.0 250 1.1 2A9
3.0 2AE 4.0 2B0 1.1 2DF 3.0 2E0 1.1 2EA 3.0 2EF 4.0 300 1.1 346 3.0 34F 3.2 350 4.0 358 4.1
35D 4.0 360 1.1 362 3.0 363 3.2 370 5.1 374 1.1 376 5.1 37A 1.1 37B 5.0 37E 1.1 37F 7.0 384
1.1 3CF 5.1 3D0 1.1 3D7 3.0 3D8 3.2 3DA 1.1 3DB 3.0 3DC 1.1 3DD 3.0 3DE 1.1 3DF 3.0 3E0 1.1
3E1 3.0 3E2 1.1 3F4 3.1 3F6 3.2 3F7 4.0 3FC 4.1 400 3.0 401 1.1 40D 3.0 40E 1.1 450 3.0 451
1.1 45D 3.0 45E 1.1 487 5.1 488 3.0 48A 3.2 48C 3.0 490 1.1 4C5 3.2 4C7 1.1 4C9 3.2 4CB 1.1
4CD 3.2 4CF 5.0 4D0 1.1 4EC 3.0 4EE 1.1 4F6 4.1 4F8 1.1 4FA 5.0 500 3.2 510 5.0 514 5.1 524
5.2 526 6.0 528 7.0 531 1.1 560 11.0 561 1.1 588 11.0 589 1.1 58A 3.0 58D 7.0 58F 6.1 591
2.0 5A2 4.1 5A3 2.0 5B0 1.1 5BA 5.0 5BB 1.1 5C4 2.0 5C5 4.1 5D0 1.1 5EF 11.0 5F0 1.1 600 4.0
604 6.1 605 7.0 606 5.1 60B 4.1 60C 1.1 60D 4.0 616 5.1 61B 1.1 61C 6.3 61D 14.0 61E 4.1 61F
1.1 620 6.0 621 1.1 63B 5.1 640 1.1 653 3.0 656 4.0 659 4.1 65F 6.0 660 1.1 66E 3.2 670 1.1
6B8 3.0 6BA 1.1 6BF 3.0 6C0 1.1 6CF 3.0 6D0 1.1 6EE 4.0 6F0 1.1 6FA 3.0 6FF 4.0 700 3.0 72D
4.0 730 3.0 74D 4.0 750 4.1 76E 5.1 780 3.0 7B1 3.2 7C0 5.0 7FD 11.0 800 5.2 840 6.0 860
10.0 870 14.0 897 16.0 898 14.0 8A0 6.1 8A1 7.0 8A2 6.1 8AD 7.0 8B3 8.0 8B5 14.0 8B6 9.0 8BE
13.0 8C8 14.0 8D3 11.0 8D4 9.0 8E3 8.0 8E4 6.1 8FF 7.0 900 5.2 901 1.1 904 4.0 905 1.1 93A
6.0 93C 1.1 94E 5.2 94F 6.0 950 1.1 955 5.2 956 6.0 958 1.1 971 5.1 973 6.0 978 7.0 979 5.2
97B 5.0 97D 4.1 97E 5.0 980 7.0 981 1.1 9BD 4.0 9BE 1.1 9CE 4.1 9D7 1.1 9FB 5.2 9FC 10.0 9FE
11.0 A01 4.0 A02 1.1 A03 4.0 A05 1.1 A51 5.1 A59 1.1 A75 5.1 A76 11.0 A81 1.1 A8C 4.0 A8D
1.1 AE1 4.0 AE6 1.1 AF0 6.1 AF1 4.0 AF9 8.0 AFA 10.0 B01 1.1 B35 4.0 B36 1.1 B44 5.1 B47 1.1
B55 13.0 B56 1.1 B62 5.1 B66 1.1 B71 4.0 B72 6.0 B82 1.1 BB6 4.1 BB7 1.1 BD0 5.1 BD7 1.1 BE6
4.1 BE7 1.1 BF3 4.0 C00 7.0 C01 1.1 C04 11.0 C05 1.1 C34 7.0 C35 1.1 C3C 14.0 C3D 5.1 C3E
1.1 C58 5.1 C5A 8.0 C5D 14.0 C60 1.1 C62 5.1 C66 1.1 C77 12.0 C78 5.1 C80 9.0 C81 7.0 C82
1.1 C84 11.0 C85 1.1 CBC 4.0 CBE 1.1 CDD 14.0 CDE 1.1 CE2 5.0 CE6 1.1 CF1 5.0 CF3 15.0 D00
10.0 D01 7.0 D02 1.1 D04 13.0 D05 1.1 D29 6.0 D2A 1.1 D3A 6.0 D3B 10.0 D3D 5.1 D3E 1.1 D44
5.1 D46 1.1 D4E 6.0 D4F 9.0 D57 1.1 D58 9.0 D5F 8.0 D60 1.1 D62 5.1 D66 1.1 D70 5.1 D76 9.0
D79 5.1 D81 13.0 D82 3.0 DE6 7.0 DF2 3.0 E01 1.1 E86 12.0 E87 1.1 E89 12.0 E8A 1.1 E8C 12.0
E8D 1.1 E8E 12.0 E94 1.1 E98 12.0 E99 1.1 EA0 12.0 EA1 1.1 EA8 12.0 EAA 1.1 EAC 12.0 EAD 1.1
EBA 12.0 EBB 1.1 ECE 15.0 ED0 1.1 EDE 6.1 F00 2.0 F6A 3.0 F6B 5.1 F71 2.0 F8C 6.0 F90 2.0
F96 3.0 F97 2.0 FAE 3.0 FB1 2.0 FB8 3.0 FB9 2.0 FBA 3.0 FCE 5.1 FCF 3.0 FD0 4.1 FD2 5.1 FD5
5.2 FD9 6.0 1000 3.0 1022 5.1 1023 3.0 1028 5.1 1029 3.0 102B 5.1 102C 3.0 1033 5.1 1036 3.0
103A 5.1 1040 3.0 105A 5.1 109A 5.2 109E 5.1 10A0 1.1 10C7 6.1 10D0 1.1 10F7 3.2 10F9 4.1
10FB 1.1 10FC 4.1 10FD 6.1 1100 1.1 115A 5.2 115F 1.1 11A3 5.2 11A8 1.1 11FA 5.2 1200 3.0
1207 4.1 1208 3.0 1247 4.1 1248 3.0 1287 4.1 1288 3.0 12AF 4.1 12B0 3.0 12CF 4.1 12D0 3.0
12EF 4.1 12F0 3.0 130F 4.1 1310 3.0 131F 4.1 1320 3.0 1347 4.1 1348 3.0 135D 6.0 135F 4.1
1361 3.0 1380 4.1 13A0 3.0 13F5 8.0 1400 5.2 1401 3.0 1677 5.2 1680 3.0 16F1 7.0 1700 3.2
170D 14.0 170E 3.2 1715 14.0 1720 3.2 1780 3.0 17DD 4.0 17E0 3.0 17F0 4.0 1800 3.0 180F 14.0
1810 3.0 1878 11.0 1880 3.0 18AA 5.1 18B0 5.2 1900 4.0 191D 7.0 1920 4.0 1980 4.1 19AA 5.2
19B0 4.1 19DA 5.2 19DE 4.1 19E0 4.0 1A00 4.1 1A20 5.2 1AB0 7.0 1ABF 13.0 1AC1 14.0 1B00 5.0
1B4C 14.0 1B4E 16.0 1B50 5.0 1B7D 14.0 1B7F 16.0 1B80 5.1 1BAB 6.1 1BAE 5.1 1BBA 6.1 1BC0
6.0 1C00 5.1 1C80 9.0 1C89 16.0 1C90 11.0 1CC0 6.1 1CD0 5.2 1CF3 6.1 1CF7 10.0 1CF8 7.0 1CFA
12.0 1D00 4.0 1D6C 4.1 1DC4 5.0 1DCB 5.1 1DE7 7.0 1DF6 10.0 1DFA 14.0 1DFB 9.0 1DFC 6.0 1DFD
5.2 1DFE 5.0 1E00 1.1 1E9B 2.0 1E9C 5.1 1EA0 1.1 1EFA 5.1 1F00 1.1 202F 3.0 2030 1.1 2047
3.2 2048 3.0 204E 3.2 2053 4.0 2055 4.1 2057 3.2 2058 4.1 205F 3.2 2064 5.1 2066 6.3 206A
1.1 2071 3.2 2074 1.1 2090 4.1 2095 6.0 20A0 1.1 20AB 2.0 20AC 2.1 20AD 3.0 20B0 3.2 20B2
4.1 20B6 5.2 20B9 6.0 20BA 6.2 20BB 7.0 20BE 8.0 20BF 10.0 20C0 14.0 20D0 1.1 20E2 3.0 20E4
3.2 20EB 4.1 20EC 5.0 20F0 5.1 2100 1.1 2139 3.0 213B 4.0 213C 4.1 213D 3.2 214C 4.1 214D
5.0 214F 5.1 2150 5.2 2153 1.1 2183 3.0 2184 5.0 2185 5.1 2189 5.2 218A 8.0 2190 1.1 21EB
3.0 21F4 3.2 2200 1.1 22F2 3.2 2300 1.1 2301 3.0 2302 1.1 237B 3.0 237C 3.2 237D 3.0 239B
3.2 23CF 4.0 23D1 4.1 23DC 5.0 23E8 5.2 23E9 6.0 23F4 7.0 23FB 9.0 23FF 10.0 2400 1.1 2425
3.0 2427 16.0 2440 1.1 24EB 3.2 24FF 4.0 2500 1.1 2596 3.2 25A0 1.1 25F0 3.0 25F8 3.2 2600
1.1 2614 4.0 2616 3.2 2618 4.1 2619 3.0 261A 1.1 2670 3.0 2672 3.2 267E 4.1 2680 3.2 268A
4.0 2692 4.1 269D 5.1 269E 5.2 26A0 4.0 26A2 4.1 26B2 5.0 26B3 5.1 26BD 5.2 26C0 5.1 26C4
5.2 26CE 6.0 26CF 5.2 26E2 6.0 26E3 5.2 26E4 6.0 26E8 5.2 2700 7.0 2701 1.1 2705 6.0 2706
1.1 270A 6.0 270C 1.1 2728 6.0 2729 1.1 274C 6.0 274D 1.1 274E 6.0 274F 1.1 2753 6.0 2756
1.1 2757 5.2 2758 1.1 275F 6.0 2761 1.1 2768 3.2 2776 1.1 2795 6.0 2798 1.1 27B0 6.0 27B1
1.1 27BF 6.0 27C0 4.1 27C7 5.0 27CB 6.1 27CC 5.1 27CD 6.1 27CE 6.0 27D0 3.2 27EC 5.1 27F0
3.2 2800 3.0 2900 3.2 2B00 4.0 2B0E 4.1 2B14 5.0 2B1B 5.1 2B20 5.0 2B24 5.1 2B4D 7.0 2B50
5.1 2B55 5.2 2B5A 7.0 2B97 13.0 2B98 7.0 2BBA 11.0 2BBD 7.0 2BC9 12.0 2BCA 7.0 2BD2 10.0
2BD3 11.0 2BEC 8.0 2BF0 11.0 2BFF 12.0 2C00 4.1 2C2F 14.0 2C30 4.1 2C5F 14.0 2C60 5.0 2C6D
5.1 2C70 5.2 2C71 5.1 2C74 5.0 2C78 5.1 2C7E 5.2 2C80 4.1 2CEB 5.2 2CF2 6.1 2CF9 4.1 2D27
6.1 2D30 4.1 2D66 6.1 2D6F 4.1 2D70 6.0 2D80 4.1 2DE0 5.1 2E00 4.1 2E18 5.1 2E1C 4.1 2E1E
5.1 2E31 5.2 2E32 6.1 2E3C 7.0 2E43 9.0 2E45 10.0 2E4A 11.0 2E4F 12.0 2E50 13.0 2E53 14.0
2E80 3.0 2FFC 15.1 3000 1.1 3038 3.0 303B 3.2 303E 3.0 303F 1.1 3095 3.2 3099 1.1 309F 3.2
30A1 1.1 30FF 3.2 3105 1.1 312D 5.1 312E 10.0 312F 11.0 3131 1.1 31A0 3.0 31B8 6.0 31BB 13.0
31C0 4.1 31D0 5.1 31E4 16.0 31EF 15.1 31F0 3.2 3200 1.1 321D 4.0 3220 1.1 3244 5.2 3250 4.0
3251 3.2 3260 1.1 327C 4.0 327E 4.1 327F 1.1 32B1 3.2 32C0 1.1 32CC 4.0 32D0 1.1 32FF 12.1
3300 1.1 3377 4.0 337B 1.1 33DE 4.0 33E0 1.1 33FF 4.0 3400 3.0 4DB6 13.0 4DC0 4.0 4E00 1.1
9FA6 4.1 9FBC 5.1 9FC4 5.2 9FCC 6.1 9FCD 8.0 9FD6 10.0 9FEB 11.0 9FF0 13.0 9FFD 14.0 A000
3.0 A4A2 3.2 A4A4 3.0 A4B4 3.2 A4B5 3.0 A4C1 3.2 A4C2 3.0 A4C5 3.2 A4C6 3.0 A4D0 5.2 A500
5.1 A660 6.0 A662 5.1 A674 6.1 A67C 5.1 A698 7.0 A69E 8.0 A69F 6.1 A6A0 5.2 A700 4.1 A717
5.0 A71B 5.1 A720 5.0 A722 5.1 A78D 6.0 A78F 8.0 A790 6.0 A792 6.1 A794 7.0 A7A0 6.0 A7AA
6.1 A7AB 7.0 A7AE 9.0 A7AF 11.0 A7B0 7.0 A7B2 8.0 A7B8 11.0 A7BA 12.0 A7C0 14.0 A7C2 12.0
A7C7 13.0 A7CB 16.0 A7D0 14.0 A7DA 16.0 A7F2 14.0 A7F5 13.0 A7F7 7.0 A7F8 6.1 A7FA 6.0 A7FB
5.1 A800 4.1 A82C 13.0 A830 5.2 A840 5.0 A880 5.1 A8C5 9.0 A8CE 5.1 A8E0 5.2 A8FC 8.0 A8FE
11.0 A900 5.1 A960 5.2 A9E0 7.0 AA00 5.1 AA60 5.2 AA7C 7.0 AA80 5.2 AAE0 6.1 AB01 6.0 AB30
7.0 AB60 8.0 AB64 7.0 AB66 12.0 AB68 13.0 AB70 8.0 ABC0 5.2 AC00 2.0 D7B0 5.2 E000 1.1 FA2E
6.1 FA30 3.2 FA6B 5.2 FA70 4.1 FB00 1.1 FB1D 3.0 FB1E 1.1 FBB2 6.0 FBC2 14.0 FBD3 1.1 FD40
14.0 FD50 1.1 FDCF 14.0 FDD0 3.1 FDF0 1.1 FDFC 3.2 FDFD 4.0 FDFE 14.0 FE00 3.2 FE10 4.1 FE20
1.1 FE24 5.1 FE27 7.0 FE2E 8.0 FE30 1.1 FE45 3.2 FE47 4.0 FE49 1.1 FE73 3.2 FE74 1.1 FF5F
3.2 FF61 1.1 FFF9 3.0 FFFC 2.1 FFFD 1.1 10000 4.0 10140 4.1 1018B 7.0 1018D 9.0 10190 5.1
1019C 13.0 101A0 7.0 101D0 5.1 102E0 7.0 10300 3.1 1031F 7.0 10320 3.1 1032D 10.0 10330 3.1
10350 7.0 10380 4.0 103A0 4.1 10400 3.1 10426 4.0 10428 3.1 1044E 4.0 104B0 9.0 10500 7.0
10570 14.0 105C0 16.0 10600 7.0 10780 14.0 10800 4.0 10840 5.2 10860 7.0 108E0 8.0 10900 5.0
1091A 5.2 1091F 5.0 10920 5.1 10980 6.1 109BC 8.0 109BE 6.1 109C0 8.0 10A00 4.1 10A34 11.0
10A38 4.1 10A48 11.0 10A50 4.1 10A60 5.2 10A80 7.0 10B00 5.2 10B80 7.0 10C00 5.2 10C80 8.0
10D00 11.0 10D40 16.0 10E60 5.2 10E80 13.0 10EC2 16.0 10EFD 15.0 10F00 11.0 10F70 14.0 10FB0
13.0 10FE0 12.0 11000 6.0 11070 14.0 1107F 7.0 11080 5.2 110C2 14.0 110CD 11.0 110D0 6.1
11144 11.0 11147 13.0 11150 7.0 11180 6.1 111C9 8.0 111CD 7.0 111CE 13.0 111D0 6.1 111DA 7.0
111DB 8.0 111E1 7.0 1123E 9.0 1123F 15.0 11280 8.0 112B0 7.0 11300 8.0 11301 7.0 1133B 11.0
1133C 7.0 11350 8.0 11357 7.0 11380 16.0 11400 9.0 1145A 13.0 1145B 9.0 1145E 11.0 1145F
12.0 11460 13.0 11480 7.0 115CA 8.0 11600 7.0 11660 9.0 11680 6.1 116B8 12.0 116B9 14.0
116C0 6.1 116D0 16.0 11700 8.0 1171A 11.0 1171D 8.0 11740 14.0 11800 11.0 118A0 7.0 11900
13.0 119A0 12.0 11A00 10.0 11A84 12.0 11A86 10.0 11A9D 11.0 11A9E 10.0 11AB0 14.0 11AC0 7.0
11B00 15.0 11BC0 16.0 11C00 9.0 11D00 10.0 11D60 11.0 11F00 15.0 11F5A 16.0 11FB0 13.0 11FC0
12.0 12000 5.0 1236F 7.0 12399 8.0 12400 5.0 12463 7.0 12470 5.0 12474 7.0 12480 8.0 12F90
14.0 13000 5.2 1342F 15.0 13430 12.0 13439 15.0 13460 16.0 14400 8.0 16100 16.0 16800 6.0
16A40 7.0 16A70 14.0 16AD0 7.0 16D40 16.0 16E40 11.0 16F00 6.1 16F45 12.0 16F50 6.1 16F7F
12.0 16F8F 6.1 16FE0 9.0 16FE1 10.0 16FE2 12.0 16FE4 13.0 17000 9.0 187ED 11.0 187F2 12.0
18800 9.0 18AF3 13.0 18CFF 16.0 18D00 13.0 1AFF0 14.0 1B000 6.0 1B002 10.0 1B11F 14.0 1B132
15.0 1B150 12.0 1B155 15.0 1B164 12.0 1B170 10.0 1BC00 7.0 1CC00 16.0 1CF00 14.0 1D000 3.1
1D129 5.1 1D12A 3.1 1D1DE 8.0 1D1E9 14.0 1D200 4.1 1D2C0 15.0 1D2E0 11.0 1D300 4.0 1D360 5.0
1D372 11.0 1D400 3.1 1D4C1 4.0 1D4C2 3.1 1D6A4 4.1 1D6A8 3.1 1D7CA 5.0 1D7CE 3.1 1D800 8.0
1DF00 14.0 1DF25 15.0 1E000 9.0 1E030 15.0 1E100 12.0 1E290 14.0 1E2C0 12.0 1E4D0 15.0 1E5D0
16.0 1E7E0 14.0 1E800 7.0 1E900 9.0 1E94B 12.0 1E950 9.0 1EC71 11.0 1ED01 12.0 1EE00 6.1
1F000 5.1 1F0A0 6.0 1F0BF 7.0 1F0C1 6.0 1F0E0 7.0 1F100 5.2 1F10B 7.0 1F10D 13.0 1F110 5.2
1F12F 11.0 1F130 6.0 1F131 5.2 1F132 6.0 1F13D 5.2 1F13E 6.0 1F13F 5.2 1F140 6.0 1F142 5.2
1F143 6.0 1F146 5.2 1F147 6.0 1F14A 5.2 1F14F 6.0 1F157 5.2 1F158 6.0 1F15F 5.2 1F160 6.0
1F16A 6.1 1F16C 12.0 1F16D 13.0 1F170 6.0 1F179 5.2 1F17A 6.0 1F17B 5.2 1F17D 6.0 1F17F 5.2
1F180 6.0 1F18A 5.2 1F18E 6.0 1F190 5.2 1F191 6.0 1F19B 9.0 1F1AD 13.0 1F1E6 6.0 1F200 5.2
1F201 6.0 1F210 5.2 1F232 6.0 1F23B 9.0 1F240 5.2 1F250 6.0 1F260 10.0 1F300 6.0 1F321 7.0
1F32D 8.0 1F330 6.0 1F336 7.0 1F337 6.0 1F37D 7.0 1F37E 8.0 1F380 6.0 1F394 7.0 1F3A0 6.0
1F3C5 7.0 1F3C6 6.0 1F3CB 7.0 1F3CF 8.0 1F3D4 7.0 1F3E0 6.0 1F3F1 7.0 1F3F8 8.0 1F400 6.0
1F43F 7.0 1F440 6.0 1F441 7.0 1F442 6.0 1F4F8 7.0 1F4F9 6.0 1F4FD 7.0 1F4FF 8.0 1F500 6.0
1F53E 7.0 1F540 6.1 1F544 7.0 1F54B 8.0 1F550 6.0 1F568 7.0 1F57A 9.0 1F57B 7.0 1F5A4 9.0
1F5A5 7.0 1F5FB 6.0 1F600 6.1 1F601 6.0 1F611 6.1 1F612 6.0 1F615 6.1 1F616 6.0 1F617 6.1
1F618 6.0 1F619 6.1 1F61A 6.0 1F61B 6.1 1F61C 6.0 1F61F 6.1 1F620 6.0 1F626 6.1 1F628 6.0
1F62C 6.1 1F62D 6.0 1F62E 6.1 1F630 6.0 1F634 6.1 1F635 6.0 1F641 7.0 1F643 8.0 1F645 6.0
1F650 7.0 1F680 6.0 1F6C6 7.0 1F6D0 8.0 1F6D1 9.0 1F6D3 10.0 1F6D5 12.0 1F6D6 13.0 1F6DC
15.0 1F6DD 14.0 1F6E0 7.0 1F6F4 9.0 1F6F7 10.0 1F6F9 11.0 1F6FA 12.0 1F6FB 13.0 1F700 6.0
1F774 15.0 1F780 7.0 1F7D5 11.0 1F7D9 15.0 1F7E0 12.0 1F7F0 14.0 1F800 7.0 1F8B0 13.0 1F8B2
16.0 1F900 10.0 1F90C 13.0 1F90D 12.0 1F910 8.0 1F919 9.0 1F91F 10.0 1F920 9.0 1F928 10.0
1F930 9.0 1F931 10.0 1F933 9.0 1F93F 12.0 1F940 9.0 1F94C 10.0 1F94D 11.0 1F950 9.0 1F95F
10.0 1F96C 11.0 1F971 12.0 1F972 13.0 1F973 11.0 1F977 13.0 1F979 14.0 1F97A 11.0 1F97B 12.0
1F97C 11.0 1F980 8.0 1F985 9.0 1F992 10.0 1F998 11.0 1F9A3 13.0 1F9A5 12.0 1F9AB 13.0 1F9AE
12.0 1F9B0 11.0 1F9BA 12.0 1F9C0 8.0 1F9C1 11.0 1F9C3 12.0 1F9CB 13.0 1F9CC 14.0 1F9CD 12.0
1F9D0 10.0 1F9E7 11.0 1FA00 12.0 1FA60 11.0 1FA70 12.0 1FA74 13.0 1FA75 15.0 1FA78 12.0
1FA7B 14.0 1FA80 12.0 1FA83 13.0 1FA87 15.0 1FA89 16.0 1FA90 12.0 1FA96 13.0 1FAA9 14.0
1FAAD 15.0 1FAB0 13.0 1FAB7 14.0 1FABB 15.0 1FABE 16.0 1FABF 15.0 1FAC0 13.0 1FAC3 14.0
1FAC6 16.0 1FACE 15.0 1FAD0 13.0 1FAD7 14.0 1FADA 15.0 1FADC 16.0 1FAE0 14.0 1FAE8 15.0
1FAE9 16.0 1FAF0 14.0 1FAF7 15.0 1FB00 13.0 1FBCB 16.0 1FBF0 13.0 1FFFE 2.0 20000 3.1 2A6D7
13.0 2A6DE 14.0 2A700 5.2 2B735 14.0 2B739 15.0 2B740 6.0 2B820 8.0 2CEB0 10.0 2EBF0 15.1
2F800 3.1 2FFFE 2.0 30000 13.0 31350 15.0 3FFFE 2.0 E0001 3.1 E0100 4.0 EFFFE 2.0"

/-- The versions that assigned characters, oldest first. -/
def versions : List String :=
  ["1.1", "2.0", "2.1", "3.0", "3.1", "3.2", "4.0", "4.1", "5.0", "5.1", "5.2", "6.0", "6.1", "6.2",
    "6.3", "7.0", "8.0", "9.0", "10.0", "11.0", "12.0", "12.1", "13.0", "14.0", "15.0", "15.1",
    "16.0"]

/-- The version that a name stands for: its number, or the number without its
period behind a `v`. -/
def version? (name : String) : Option String :=
  versions.find? fun version =>
    name = version || name.toList = 'v' :: version.toList.filter (· ≠ '.')

/-- Whether a character was assigned in a version or in one before it. -/
def isAssignedIn (version : String) (c : Char) : Bool :=
  (category c ≠ "Cn" || isListed "noncharactercodepoint" c) &&
    versions.idxOf (runValue ageRuns c) ≤ versions.idxOf version

end VectorLint.Unicode
