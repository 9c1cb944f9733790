/-
  ApiPlaybook.Unicode.Direction
  ─────────────────────────────
  **DIRECTION AND JOINING.**

  The directional class and the joining type of a character, as far as the
  rules for domain names ask for them.
-/
import ApiPlaybook.Unicode.Table

namespace ApiPlaybook.Unicode

/-- Runs of equal directional class: the class and the length. -/
def directionText : String :=
  "BN 9 S 1 B 1 S 1 WS 1 B 1 BN 14 B 3 S 1 WS 1 ON 2 ET 3 ON 5 ES 1 CS 1 ES 1 CS 2 EN 10 CS 1 
  ON 6 L 26 ON 6 L 26 ON 4 BN 6 B 1 BN 26 CS 1 ON 1 ET 4 ON 4 L 1 ON 2 BN 1 ON 2 ET 2 EN 2 ON 
  1 L 1 ON 3 EN 1 L 1 ON 5 L 23 ON 1 L 31 ON 1 L 449 ON 2 L 7 ON 14 L 2 ON 14 L 5 ON 9 L 1 ON 
  17 NSM 112 L 4 ON 2 L 8 ON 1 L 5 ON 2 L 1 ON 1 L 110 ON 1 L 140 NSM 7 L 256 ON 1 L 2 ON 2 
  ET 1 R 1 NSM 45 R 1 NSM 1 R 1 NSM 2 R 1 NSM 2 R 1 NSM 1 R 56 AN 6 ON 2 AL 1 ET 2 AL 1 CS 1 
  AL 1 ON 2 NSM 11 AL 48 NSM 21 AN 10 ET 1 AN 2 AL 3 NSM 1 AL 101 NSM 7 AN 1 ON 1 NSM 6 AL 2 
  NSM 2 ON 1 NSM 4 AL 2 EN 10 AL 23 NSM 1 AL 30 NSM 27 AL 91 NSM 11 AL 15 R 43 NSM 9 R 2 ON 4 
  R 3 NSM 1 R 24 NSM 4 R 1 NSM 9 R 1 NSM 3 R 1 NSM 5 R 43 NSM 3 R 4 AL 48 AN 2 AL 6 NSM 8 AL 
  42 NSM 24 AN 1 NSM 32 L 55 NSM 1 L 1 NSM 1 L 4 NSM 8 L 4 NSM 1 L 3 NSM 7 L 10 NSM 2 L 29 
  NSM 1 L 58 NSM 1 L 4 NSM 4 L 8 NSM 1 L 20 NSM 2 L 14 ET 2 L 7 ET 1 L 2 NSM 1 L 2 NSM 2 L 57 
  NSM 1 L 4 NSM 2 L 4 NSM 2 L 2 NSM 3 L 3 NSM 1 L 30 NSM 2 L 3 NSM 1 L 11 NSM 2 L 57 NSM 1 L 
  4 NSM 5 L 1 NSM 2 L 4 NSM 1 L 20 NSM 2 L 13 ET 1 L 8 NSM 6 L 1 NSM 1 L 58 NSM 1 L 2 NSM 1 L 
  1 NSM 4 L 8 NSM 1 L 7 NSM 2 L 11 NSM 2 L 30 NSM 1 L 61 NSM 1 L 12 NSM 1 L 37 ON 6 ET 1 ON 1 
  L 5 NSM 1 L 3 NSM 1 L 55 NSM 1 L 1 NSM 3 L 5 NSM 3 L 1 NSM 4 L 7 NSM 2 L 11 NSM 2 L 20 ON 7 
  L 2 NSM 1 L 58 NSM 1 L 15 NSM 2 L 20 NSM 2 L 28 NSM 2 L 57 NSM 2 L 4 NSM 4 L 8 NSM 1 L 20 
  NSM 2 L 29 NSM 1 L 72 NSM 1 L 7 NSM 3 L 1 NSM 1 L 90 NSM 1 L 2 NSM 7 L 4 ET 1 L 7 NSM 8 L 
  98 NSM 1 L 2 NSM 9 L 11 NSM 7 L 73 NSM 2 L 27 NSM 1 L 1 NSM 1 L 1 NSM 1 ON 4 L 51 NSM 14 L 
  1 NSM 5 L 1 NSM 2 L 5 NSM 11 L 1 NSM 36 L 9 NSM 1 L 102 NSM 4 L 1 NSM 6 L 1 NSM 2 L 2 NSM 2 
  L 25 NSM 2 L 4 NSM 3 L 16 NSM 4 L 13 NSM 1 L 2 NSM 2 L 6 NSM 1 L 15 NSM 1 L 703 NSM 3 L 48 
  ON 10 L 102 ON 1 L 639 WS 1 L 26 ON 2 L 117 NSM 3 L 29 NSM 2 L 30 NSM 2 L 30 NSM 2 L 64 NSM 
  2 L 1 NSM 7 L 8 NSM 1 L 2 NSM 11 L 7 ET 1 L 1 NSM 1 L 18 ON 10 L 6 ON 11 NSM 3 BN 1 NSM 1 L 
  117 NSM 2 L 34 NSM 1 L 118 NSM 3 L 4 NSM 2 L 9 NSM 1 L 6 NSM 3 L 4 ON 1 L 3 ON 2 L 152 ON 
  34 L 23 NSM 2 L 2 NSM 1 L 58 NSM 1 L 1 NSM 7 L 1 NSM 1 L 1 NSM 1 L 2 NSM 8 L 6 NSM 10 L 2 
  NSM 1 L 48 NSM 31 L 49 NSM 4 L 48 NSM 1 L 1 NSM 5 L 1 NSM 1 L 5 NSM 1 L 40 NSM 9 L 12 NSM 2 
  L 32 NSM 4 L 2 NSM 2 L 1 NSM 3 L 56 NSM 1 L 1 NSM 2 L 3 NSM 1 L 1 NSM 3 L 58 NSM 8 L 2 NSM 
  2 L 152 NSM 3 L 1 NSM 13 L 1 NSM 7 L 4 NSM 1 L 6 NSM 1 L 3 NSM 2 L 198 NSM 64 L 445 ON 1 L 
  1 ON 3 L 11 ON 3 L 13 ON 3 L 13 ON 3 L 13 ON 2 L 1 WS 11 BN 3 L 1 R 1 ON 24 WS 1 B 1 LRE 1 
  RLE 1 PDF 1 LRO 1 RLO 1 CS 1 ET 5 ON 15 CS 1 ON 26 WS 1 BN 6 LRI 1 RLI 1 FSI 1 PDI 1 BN 6 
  EN 1 L 3 EN 6 ES 2 ON 3 L 1 EN 10 ES 2 ON 3 L 17 ET 48 NSM 33 L 15 ON 2 L 1 ON 4 L 1 ON 2 L 
  10 ON 1 L 1 ON 3 L 5 ON 6 L 1 ON 1 L 1 ON 1 L 1 ON 1 L 4 ET 1 L 11 ON 2 L 4 ON 5 L 5 ON 4 L 
  2 ON 16 L 41 ON 3 L 4 ON 130 ES 1 ET 1 ON 290 L 69 ON 26 L 1 ON 145 L 25 ON 11 L 21 ON 40 
  EN 20 L 78 ON 450 L 1 ON 339 L 256 ON 628 L 2 ON 32 L 1 ON 105 L 229 ON 6 L 4 NSM 3 L 7 ON 
  7 L 127 NSM 1 L 96 NSM 32 ON 94 L 34 ON 26 L 1 ON 89 L 12 ON 214 L 26 ON 12 L 4 WS 1 ON 4 L 
  3 ON 25 L 9 NSM 4 L 2 ON 1 L 5 ON 2 L 5 ON 3 L 89 NSM 2 ON 2 L 3 ON 1 L 90 ON 1 L 196 ON 36 
  L 57 ON 2 L 49 ON 16 L 28 ON 3 L 50 ON 15 L 12 ON 4 L 167 ON 4 L 99 ON 2 L 31 ON 1 L 6592 
  ON 64 L 22160 ON 55 L 326 ON 3 L 95 NSM 4 ON 1 NSM 10 ON 2 L 30 NSM 2 L 80 NSM 2 L 14 ON 34 
  L 102 ON 1 L 121 NSM 1 L 3 NSM 1 L 4 NSM 1 L 25 NSM 2 L 1 ON 4 NSM 1 L 11 ET 2 L 58 ON 4 L 
  76 NSM 2 L 26 NSM 18 L 13 NSM 1 L 38 NSM 8 L 25 NSM 11 L 46 NSM 3 L 48 NSM 1 L 2 NSM 4 L 2 
  NSM 2 L 39 NSM 1 L 67 NSM 6 L 2 NSM 2 L 2 NSM 2 L 12 NSM 1 L 8 NSM 1 L 47 NSM 1 L 51 NSM 1 
  L 1 NSM 3 L 2 NSM 2 L 5 NSM 2 L 1 NSM 1 L 42 NSM 2 L 8 NSM 1 L 115 ON 2 L 121 NSM 1 L 2 NSM 
  1 L 4 NSM 1 L 20271 R 1 NSM 1 R 10 ES 1 R 38 AL 494 ON 18 AL 127 ON 1 BN 32 AL 13 ON 3 NSM 
  16 ON 10 L 6 NSM 16 ON 32 CS 1 ON 1 CS 1 L 1 ON 1 CS 1 ON 9 ET 1 ON 2 ES 2 ON 3 L 1 ON 1 ET 
  2 ON 1 L 4 AL 143 BN 1 L 1 ON 2 ET 3 ON 5 ES 1 CS 1 ES 1 CS 2 EN 10 CS 1 ON 6 L 26 ON 6 L 
  26 ON 11 L 122 ET 2 ON 3 ET 2 L 1 ON 7 L 1 BN 9 ON 5 BN 2 L 257 ON 1 L 62 ON 77 L 3 ON 13 L 
  3 ON 1 L 92 NSM 1 L 226 NSM 1 EN 27 L 122 NSM 5 L 1157 R 287 ON 1 R 225 NSM 3 R 1 NSM 2 R 5 
  NSM 4 R 40 NSM 3 R 4 NSM 1 R 165 NSM 2 R 82 ON 7 R 448 AL 36 NSM 4 AL 8 AN 10 AL 6 R 288 AN 
  31 R 44 NSM 2 R 19 AL 61 NSM 3 R 48 AL 22 NSM 11 AL 31 R 18 NSM 4 R 122 L 1 NSM 1 L 54 NSM 
  15 L 11 ON 20 L 10 NSM 1 L 2 NSM 2 L 10 NSM 3 L 49 NSM 4 L 2 NSM 2 L 7 NSM 1 L 61 NSM 3 L 
  36 NSM 5 L 1 NSM 8 L 62 NSM 1 L 12 NSM 2 L 52 NSM 9 L 10 NSM 4 L 2 NSM 1 L 95 NSM 3 L 2 NSM 
  1 L 1 NSM 2 L 6 NSM 1 L 2 NSM 1 L 157 NSM 1 L 3 NSM 8 L 21 NSM 2 L 57 NSM 2 L 3 NSM 1 L 37 
  NSM 7 L 3 NSM 5 L 195 NSM 8 L 2 NSM 3 L 1 NSM 1 L 23 NSM 1 L 84 NSM 6 L 1 NSM 1 L 4 NSM 2 L 
  1 NSM 2 L 238 NSM 4 L 6 NSM 2 L 1 NSM 2 L 27 NSM 2 L 85 NSM 8 L 2 NSM 1 L 1 NSM 2 L 31 ON 
  13 L 62 NSM 1 L 1 NSM 1 L 2 NSM 6 L 1 NSM 1 L 101 NSM 3 L 2 NSM 4 L 1 NSM 5 L 259 NSM 9 L 1 
  NSM 2 L 256 NSM 2 L 1 NSM 1 L 4 NSM 1 L 144 NSM 4 L 2 NSM 2 L 4 NSM 1 L 32 NSM 6 L 2 NSM 2 
  L 40 NSM 6 L 2 NSM 4 L 8 NSM 1 L 9 NSM 6 L 2 NSM 3 L 46 NSM 13 L 1 NSM 2 L 406 NSM 7 L 1 
  NSM 6 L 84 NSM 22 L 2 NSM 7 L 1 NSM 2 L 1 NSM 2 L 122 NSM 6 L 3 NSM 1 L 1 NSM 2 L 1 NSM 7 L 
  1 NSM 1 L 72 NSM 2 L 3 NSM 1 L 1 NSM 1 L 347 NSM 2 L 11 NSM 2 L 52 NSM 5 L 5 NSM 1 L 1 NSM 
  1 L 146 ON 8 ET 4 ON 17 L 5198 NSM 1 L 6 NSM 15 L 13978 NSM 5 L 59 NSM 7 L 1048 NSM 1 L 63 
  NSM 4 L 79 ON 1 L 1 NSM 1 L 19640 NSM 2 L 1 BN 4 L 4700 NSM 46 L 2 NSM 23 L 544 NSM 3 L 9 
  BN 8 NSM 8 L 2 NSM 7 L 30 NSM 4 L 59 ON 2 L 21 ON 66 NSM 3 ON 1 L 186 ON 87 L 900 ON 1 L 57 
  ON 1 L 57 ON 1 L 57 ON 1 L 57 ON 1 L 10 EN 50 L 512 NSM 55 L 4 NSM 50 L 8 NSM 1 L 14 NSM 1 
  L 22 NSM 5 L 1 NSM 15 L 1360 NSM 7 L 1 NSM 17 L 2 NSM 7 L 1 NSM 2 L 1 NSM 5 L 100 NSM 1 L 
  160 NSM 7 L 375 NSM 1 L 61 NSM 4 L 15 ET 1 L 492 NSM 4 L 784 R 208 NSM 7 R 109 NSM 7 R 805 
  AL 80 R 64 AL 80 R 176 AL 240 ON 2 AL 14 R 256 ON 44 L 4 ON 100 L 12 ON 15 L 2 ON 15 L 1 ON 
  15 L 1 ON 37 L 10 EN 11 ON 5 L 31 ON 1 L 58 ON 6 L 61 ON 1 L 178 ON 6 L 154 ON 984 L 4 ON 
  17 L 3 ON 13 L 3 ON 119 L 4 ON 95 L 6 ON 12 L 4 ON 1 L 15 ON 12 L 4 ON 56 L 8 ON 10 L 6 ON 
  40 L 8 ON 30 L 2 ON 2 L 78 ON 340 L 12 ON 14 L 2 ON 13 L 3 ON 9 L 7 ON 46 L 1 ON 7 L 8 ON 
  14 L 4 ON 9 L 7 ON 9 L 7 ON 147 L 1 ON 55 L 37 EN 10 L 1028 BN 2 L 65534 BN 2 L 65534 BN 2 
  L 65534 BN 2 L 65534 BN 2 L 65534 BN 2 L 65534 BN 2 L 65534 BN 2 L 65534 BN 2 L 65534 BN 2 
  L 65534 BN 2 L 65534 BN 2 L 65534 BN 258 NSM 240 BN 3600 L 61438 BN 2 L 65534 BN 2 L 65534 
  BN 2 L 0"

/-- Runs of equal joining type: the gap before the run, its length and the type. -/
def joiningText : String :=
  "173 1 T 594 112 T 275 7 T 263 45 T 1 1 T 1 2 T 1 2 T 1 1 T 72 11 T 1 1 T 3 1 D 1 4 R 0 1 D 
  0 1 R 0 1 D 0 1 R 0 5 D 0 4 R 0 13 D 0 1 C 0 7 D 0 1 R 0 2 D 0 21 T 14 2 D 0 1 T 0 3 R 1 3 
  R 0 16 D 0 18 R 0 38 D 0 1 R 0 2 D 0 9 R 0 1 D 0 1 R 0 1 D 0 1 R 0 2 D 0 2 R 1 1 R 0 7 T 2 
  6 T 2 2 T 1 4 T 0 2 R 10 3 D 2 1 D 15 1 T 0 1 R 0 1 T 0 3 D 0 5 R 0 4 D 0 1 R 0 9 D 0 1 R 0 
  1 D 0 1 R 0 1 D 0 1 R 0 2 D 0 1 R 0 27 T 2 1 R 0 11 D 0 3 R 0 15 D 0 2 R 0 4 D 0 1 R 0 1 D 
  0 2 R 0 3 D 0 2 R 0 6 D 38 11 T 25 33 D 0 9 T 6 1 C 2 1 T 24 4 T 1 9 T 1 3 T 1 5 T 18 1 R 0 
  5 D 0 2 R 0 1 D 0 1 R 0 10 D 0 1 R 0 1 D 0 3 R 0 3 T 4 1 D 1 4 D 1 1 R 0 1 D 0 2 R 5 19 R 0 
  3 C 0 1 D 2 5 D 0 1 R 8 9 T 0 10 D 0 3 R 1 1 R 0 2 D 0 2 R 0 6 D 0 1 R 0 15 D 1 24 T 1 32 T 
  55 1 T 1 1 T 4 8 T 4 1 T 3 7 T 10 2 T 29 1 T 58 1 T 4 4 T 8 1 T 20 2 T 26 1 T 2 2 T 57 1 T 
  4 2 T 4 2 T 2 3 T 3 1 T 30 2 T 3 1 T 11 2 T 57 1 T 4 5 T 1 2 T 4 1 T 20 2 T 22 6 T 1 1 T 58 
  1 T 2 1 T 1 4 T 8 1 T 7 2 T 11 2 T 30 1 T 61 1 T 12 1 T 50 1 T 3 1 T 55 1 T 1 3 T 5 3 T 1 4 
  T 7 2 T 11 2 T 29 1 T 58 1 T 2 1 T 6 1 T 5 2 T 20 2 T 28 2 T 57 2 T 4 4 T 8 1 T 20 2 T 29 1 
  T 72 1 T 7 3 T 1 1 T 90 1 T 2 7 T 12 8 T 98 1 T 2 9 T 11 7 T 73 2 T 27 1 T 1 1 T 1 1 T 55 
  14 T 1 5 T 1 2 T 5 11 T 1 36 T 9 1 T 102 4 T 1 6 T 1 2 T 2 2 T 25 2 T 4 3 T 16 4 T 13 1 T 2 
  2 T 6 1 T 15 1 T 703 3 T 946 3 T 29 2 T 30 2 T 30 2 T 64 2 T 1 7 T 8 1 T 2 11 T 9 1 T 41 1 
  D 2 1 C 0 3 T 1 1 T 16 89 D 12 2 T 0 34 D 0 1 T 0 1 D 117 3 T 4 2 T 9 1 T 6 3 T 219 2 T 2 1 
  T 58 1 T 1 7 T 1 1 T 1 1 T 2 8 T 6 10 T 2 1 T 48 31 T 49 4 T 48 1 T 1 5 T 1 1 T 5 1 T 40 9 
  T 12 2 T 32 4 T 2 2 T 1 3 T 56 1 T 1 2 T 3 1 T 1 3 T 58 8 T 2 2 T 152 3 T 1 13 T 1 7 T 4 1 
  T 6 1 T 3 2 T 198 64 T 523 1 T 1 1 C 0 2 T 26 5 T 49 5 T 5 6 T 96 33 T 3070 3 T 141 1 T 96 
  32 T 554 4 T 107 2 T 30164 4 T 1 10 T 32 2 T 80 2 T 272 1 T 3 1 T 4 1 T 25 2 T 5 1 T 19 50 
  D 0 1 L 81 2 T 26 18 T 13 1 T 38 8 T 25 11 T 46 3 T 48 1 T 2 4 T 2 2 T 39 1 T 67 6 T 2 2 T 
  2 2 T 12 1 T 8 1 T 47 1 T 51 1 T 1 3 T 2 2 T 5 2 T 1 1 T 42 2 T 8 1 T 238 1 T 2 1 T 4 1 T 
  20272 1 T 737 16 T 16 16 T 207 1 T 249 3 T 513 1 T 226 1 T 149 5 T 1670 3 T 1 2 T 5 4 T 40 
  3 T 4 1 T 128 5 D 0 1 R 1 1 R 1 2 R 2 1 L 0 5 R 0 4 D 0 1 L 0 5 D 0 1 R 0 3 D 0 1 R 2 1 R 0 
  2 T 4 4 D 0 1 R 144 1 D 0 1 R 0 1 D 0 3 R 0 3 D 0 1 R 0 2 D 0 1 R 0 1 D 0 2 R 0 1 D 0 1 R 
  23 4 R 0 2 D 337 1 L 0 33 D 0 1 R 0 1 D 0 4 T 65 5 T 317 2 T 21 1 R 0 2 D 55 4 T 48 3 D 0 1 
  R 0 17 D 1 11 T 0 3 D 0 1 R 27 4 D 0 2 R 0 12 D 0 4 T 42 1 D 1 2 D 0 3 R 1 1 D 0 2 R 0 2 D 
  0 1 R 0 2 D 1 1 D 0 2 R 0 1 D 4 1 R 0 1 D 0 1 L 53 1 T 54 15 T 41 1 T 2 2 T 10 3 T 49 4 T 2 
  2 T 7 1 T 61 3 T 36 5 T 1 8 T 62 1 T 12 2 T 52 9 T 10 4 T 2 1 T 95 3 T 2 1 T 1 2 T 6 1 T 2 
  1 T 157 1 T 3 8 T 21 2 T 57 2 T 3 1 T 37 7 T 3 5 T 70 6 T 13 1 T 1 1 T 1 1 T 14 2 T 85 8 T 
  2 3 T 1 1 T 23 1 T 84 6 T 1 1 T 4 2 T 1 2 T 238 4 T 6 2 T 1 2 T 27 2 T 85 8 T 2 1 T 1 2 T 
  106 1 T 1 1 T 2 6 T 1 1 T 101 1 T 1 1 T 2 4 T 1 5 T 259 9 T 1 2 T 256 2 T 1 1 T 4 1 T 144 4 
  T 2 2 T 4 1 T 32 10 T 40 6 T 2 4 T 8 1 T 9 6 T 2 3 T 46 13 T 1 2 T 406 7 T 1 6 T 1 1 T 82 
  22 T 2 7 T 1 2 T 1 2 T 122 6 T 3 1 T 1 2 T 1 7 T 1 1 T 72 2 T 3 1 T 1 1 T 347 2 T 11 2 T 52 
  5 T 5 1 T 1 1 T 5357 17 T 6 15 T 11464 12 T 3 3 T 2496 5 T 59 7 T 1048 1 T 63 4 T 81 1 T 
  19640 2 T 1 4 T 4700 46 T 2 23 T 544 3 T 9 16 T 2 7 T 30 4 T 148 3 T 1979 55 T 4 50 T 8 1 T 
  14 1 T 22 5 T 1 15 T 1360 7 T 1 17 T 2 7 T 1 2 T 1 5 T 100 1 T 160 7 T 375 1 T 61 4 T 508 4 
  T 254 2 T 736 7 T 41 68 D 0 8 T 792245 1 T 30 96 T 128 240 T"

def directionRunsFrom (start : Nat) : List String → List (Nat × String)
  | k :: length :: rest => (start, k) :: directionRunsFrom (start + natOfText length) rest
  | _ => []

def directionRuns : Array (Nat × String) := (directionRunsFrom 0 (words directionText)).toArray

/-- The directional class of a code point. -/
def direction (n : Nat) : String :=
  match lastStart (·.1) directionRuns n with
  | some (_, k) => k
  | none => "L"

def joiningRunsFrom (start : Nat) : List String → List (Nat × Nat × String)
  | gap :: length :: k :: rest =>
    let first := start + natOfText gap
    (first, natOfText length, k) :: joiningRunsFrom (first + natOfText length) rest
  | _ => []

def joiningRuns : Array (Nat × Nat × String) := (joiningRunsFrom 0 (words joiningText)).toArray

/-- The joining type of a code point; `U` for those that do not join. -/
def joining (n : Nat) : String :=
  match lastStart (·.1) joiningRuns n with
  | some (first, length, k) => if n < first + length then k else "U"
  | none => "U"

end ApiPlaybook.Unicode
