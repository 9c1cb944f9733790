/-
  ApiPlaybook.Unicode.DomainMapping
  ─────────────────────────────────
  **WHAT BECOMES OF A CHARACTER IN A DOMAIN NAME.**

  In an internationalised domain name a character is kept, left out, replaced
  or refused.  The table lists what happens to the code points in turn.
-/
import ApiPlaybook.Unicode.Table

namespace ApiPlaybook.Unicode

/-- What becomes of a character. -/
inductive DomainStatus where
  | kept
  | refused
  | dropped
  /-- Replaced by the character that many code points up. -/
  | raised (distance : Nat)
  /-- Replaced by the character that many code points down. -/
  | lowered (distance : Nat)
  /-- Every other character, from the first, is replaced by its successor. -/
  | alternating
  | replaced (form : List Nat)
deriving Inhabited

/-- The runs: a letter and a length, a letter with a length and a distance, or a
single character with the number of code points it is replaced by and these. -/
def domainText : String :=
  "V 65 U 26 32 V 37 X 32 D 1 128 V 7 S 2 32 776 V 1 D 1 73 V 2 I 1 V 1 S 2 32 772 V 2 D 2 128 
  S 2 32 769 U 1 775 V 2 S 2 32 807 D 1 136 D 1 75 V 1 S 3 49 8260 52 S 3 49 8260 50 S 3 51 
  8260 52 V 1 U 23 32 V 1 U 7 32 V 33 A 24 S 2 105 775 V 1 S 2 105 106 S 2 105 106 U 1 1 V 1 
  U 1 1 V 2 A 3 S 2 108 183 S 2 108 183 A 4 S 2 700 110 A 23 D 1 121 A 3 D 1 268 V 1 U 1 210 
  A 2 U 1 206 U 1 1 V 1 U 2 205 U 1 1 V 2 U 1 79 U 1 202 U 1 203 U 1 1 V 1 U 1 205 U 1 207 V 
  1 U 1 211 U 1 209 U 1 1 V 3 U 1 211 U 1 213 V 1 U 1 214 A 3 U 1 218 U 1 1 V 1 U 1 218 V 2 U 
  1 1 V 1 U 1 218 U 1 1 V 1 U 2 217 A 2 U 1 219 U 1 1 V 3 U 1 1 V 7 S 2 100 382 S 2 100 382 S 
  2 100 382 S 2 108 106 S 2 108 106 S 2 108 106 S 2 110 106 S 2 110 106 S 2 110 106 A 7 U 1 1 
  V 2 A 8 U 1 1 V 2 S 2 100 122 S 2 100 122 S 2 100 122 U 1 1 V 1 D 1 97 D 1 56 A 20 D 1 130 
  V 1 A 8 U 1 1 V 7 U 1 10795 U 1 1 V 1 D 1 163 U 1 10792 V 2 U 1 1 V 1 D 1 195 U 1 69 U 1 71 
  A 4 U 1 1 V 97 D 1 584 D 1 75 D 1 584 D 1 577 D 1 59 D 1 58 D 1 53 D 1 576 D 1 575 V 31 S 2 
  32 774 S 2 32 775 S 2 32 778 S 2 32 808 S 2 32 771 S 2 32 779 V 2 D 1 125 D 1 629 D 1 623 D 
  1 619 D 1 79 V 91 D 2 64 V 1 D 1 48 S 2 776 769 U 1 116 V 9 I 1 V 32 A 2 D 1 187 V 1 U 1 1 
  V 1 X 2 S 2 32 953 V 3 D 1 835 U 1 116 X 4 S 2 32 769 S 3 32 776 769 U 1 38 D 1 720 U 3 37 
  X 1 U 1 64 X 1 U 2 63 V 1 U 17 32 X 1 U 9 32 V 35 U 1 8 D 1 30 D 1 25 D 1 13 D 1 6 D 1 9 D 
  1 15 D 1 22 V 1 A 12 D 1 54 D 1 48 D 1 47 V 1 D 1 60 D 1 64 V 1 U 1 1 V 1 D 1 54 U 1 1 V 2 
  D 3 130 U 16 80 U 32 32 V 48 A 16 U 1 1 V 9 A 27 U 1 15 A 6 U 1 1 V 2 A 48 X 1 U 38 48 X 2 
  V 46 S 2 1381 1410 V 3 X 2 V 3 X 1 V 55 X 8 V 27 X 4 V 6 X 17 V 22 X 1 V 88 S 2 1575 1652 S 
  2 1608 1652 S 2 1735 1652 S 2 1610 1652 V 100 X 1 V 48 X 2 V 59 X 2 V 101 X 14 V 59 X 2 V 
  49 X 2 V 15 X 1 V 28 X 2 V 1 X 1 V 11 X 5 V 32 X 7 V 75 X 1 V 117 S 2 2325 2364 S 2 2326 
  2364 S 2 2327 2364 S 2 2332 2364 S 2 2337 2364 S 2 2338 2364 S 2 2347 2364 S 2 2351 2364 V 
  36 X 1 V 8 X 2 V 2 X 2 V 22 X 1 V 7 X 1 V 1 X 3 V 4 X 2 V 9 X 2 V 2 X 2 V 4 X 8 V 1 X 4 S 2 
  2465 2492 S 2 2466 2492 X 1 S 2 2479 2492 V 4 X 2 V 25 X 2 V 3 X 1 V 6 X 4 V 2 X 2 V 22 X 1 
  V 7 X 1 V 1 S 2 2610 2620 X 1 V 1 S 2 2616 2620 X 1 V 2 X 2 V 1 X 1 V 5 X 4 V 2 X 2 V 3 X 3 
  V 1 X 7 S 2 2582 2620 S 2 2583 2620 S 2 2588 2620 V 1 X 1 S 2 2603 2620 X 7 V 17 X 10 V 3 X 
  1 V 9 X 1 V 3 X 1 V 22 X 1 V 7 X 1 V 2 X 1 V 5 X 2 V 10 X 1 V 3 X 1 V 3 X 2 V 1 X 15 V 4 X 
  2 V 12 X 7 V 7 X 1 V 3 X 1 V 8 X 2 V 2 X 2 V 22 X 1 V 7 X 1 V 2 X 1 V 5 X 2 V 9 X 2 V 2 X 2 
  V 3 X 7 V 3 X 4 S 2 2849 2876 S 2 2850 2876 X 1 V 5 X 2 V 18 X 10 V 2 X 1 V 6 X 3 V 3 X 1 V 
  4 X 3 V 2 X 1 V 1 X 1 V 2 X 3 V 2 X 3 V 3 X 3 V 12 X 4 V 5 X 3 V 3 X 1 V 4 X 2 V 1 X 6 V 1 
  X 14 V 21 X 5 V 13 X 1 V 3 X 1 V 23 X 1 V 16 X 2 V 9 X 1 V 3 X 1 V 4 X 7 V 2 X 1 V 3 X 1 V 
  2 X 2 V 4 X 2 V 10 X 7 V 22 X 1 V 3 X 1 V 23 X 1 V 10 X 1 V 5 X 2 V 9 X 1 V 3 X 1 V 4 X 7 V 
  2 X 5 V 3 X 1 V 4 X 2 V 10 X 1 V 3 X 12 V 13 X 1 V 3 X 1 V 51 X 1 V 3 X 1 V 6 X 4 V 16 X 2 
  V 26 X 1 V 3 X 1 V 18 X 3 V 24 X 1 V 9 X 1 V 1 X 2 V 7 X 3 V 1 X 4 V 6 X 1 V 1 X 1 V 8 X 6 
  V 10 X 2 V 3 X 12 V 50 S 2 3661 3634 V 7 X 4 V 29 X 37 V 2 X 1 V 1 X 1 V 5 X 1 V 24 X 1 V 1 
  X 1 V 12 S 2 3789 3762 V 10 X 2 V 5 X 1 V 1 X 1 V 7 X 1 V 10 X 2 S 2 3755 3737 S 2 3755 
  3745 V 2 X 32 V 12 D 1 1 V 54 S 2 3906 4023 V 4 X 1 V 4 S 2 3916 4023 V 4 S 2 3921 4023 V 4 
  S 2 3926 4023 V 4 S 2 3931 4023 V 12 S 2 3904 4021 V 3 X 4 V 2 S 2 3953 3954 V 1 S 2 3953 
  3956 S 2 4018 3968 S 3 4018 3953 3968 S 2 4019 3968 S 3 4019 3953 3968 V 7 S 2 3953 3968 V 
  17 S 2 3986 4023 V 4 X 1 V 4 S 2 3996 4023 V 4 S 2 4001 4023 V 4 S 2 4006 4023 V 4 S 2 4011 
  4023 V 12 S 2 3984 4021 V 3 X 1 V 15 X 1 V 13 X 37 V 160 U 38 7264 X 1 U 1 7264 X 5 U 1 
  7264 X 2 V 44 D 1 32 V 98 I 2 V 232 X 1 V 4 X 2 V 7 X 1 V 1 X 1 V 4 X 2 V 41 X 1 V 4 X 2 V 
  33 X 1 V 4 X 2 V 7 X 1 V 1 X 1 V 4 X 2 V 15 X 1 V 57 X 1 V 4 X 2 V 67 X 2 V 32 X 3 V 26 X 6 
  V 86 X 2 D 6 8 X 2 V 640 X 1 V 28 X 3 V 89 X 7 V 22 X 9 V 24 X 9 V 20 X 12 V 13 X 1 V 3 X 1 
  V 2 X 12 V 52 I 2 V 40 X 2 V 10 X 6 V 10 X 6 V 11 I 5 V 10 X 6 V 89 X 7 V 43 X 5 V 70 X 10 
  V 31 X 1 V 12 X 4 V 12 X 4 V 1 X 3 V 42 X 2 V 5 X 11 V 44 X 4 V 26 X 6 V 11 X 3 V 62 X 2 V 
  65 X 1 V 29 X 2 V 11 X 6 V 10 X 6 V 14 X 2 V 46 X 2 V 12 X 20 V 77 X 1 V 166 X 8 V 60 X 3 V 
  15 X 3 V 51 D 1 6222 D 1 6221 D 1 6212 D 1 6210 S 1 1090 S 1 1090 D 1 6204 D 1 6180 U 1 
  35267 U 1 1 V 1 X 5 D 43 3008 X 2 D 3 3008 V 8 X 8 V 43 X 5 V 44 D 1 7371 D 1 7239 D 1 7372 
  V 1 D 2 7372 D 1 6997 D 8 7372 V 1 D 1 7373 D 1 6938 D 1 7374 D 1 7373 D 2 7372 D 1 7371 D 
  1 7394 D 2 6900 D 1 68 D 1 7397 D 2 7396 D 1 6897 D 2 6896 D 1 7398 V 1 D 1 7396 D 1 7395 D 
  1 7174 D 1 7395 D 1 6911 D 2 62 D 1 7398 D 2 7395 D 1 60 D 1 6891 D 1 7397 D 1 55 D 3 6571 
  D 2 6554 D 1 7417 D 1 7409 D 2 7407 D 2 6580 D 1 6567 D 2 6563 V 13 D 1 6459 V 34 D 1 6985 
  D 1 7481 D 1 6984 D 1 7342 D 1 6979 D 1 7482 D 1 6978 D 1 6977 D 1 6974 D 3 6972 D 1 44 D 1 
  6923 D 1 6972 D 1 37 D 1 6924 D 1 6971 D 1 6973 D 4 6972 D 1 6970 D 2 6961 D 1 7178 D 2 
  6957 D 1 156 D 2 6958 D 1 7489 D 3 6956 D 1 6663 V 64 A 74 U 1 1 V 5 S 2 97 702 D 1 58 V 2 
  D 1 7615 V 1 A 47 U 1 1 V 9 D 8 8 V 6 X 2 D 6 8 X 2 V 8 D 8 8 V 8 D 8 8 V 6 X 2 D 6 8 X 2 V 
  8 X 1 D 1 8 X 1 D 1 8 X 1 D 1 8 X 1 D 1 8 V 8 D 8 8 V 1 D 1 7109 V 1 D 1 7110 V 1 D 1 7111 
  V 1 D 1 7112 V 1 D 1 7085 V 1 D 1 7086 V 1 D 1 7087 X 2 S 2 7936 953 S 2 7937 953 S 2 7938 
  953 S 2 7939 953 S 2 7940 953 S 2 7941 953 S 2 7942 953 S 2 7943 953 S 2 7936 953 S 2 7937 
  953 S 2 7938 953 S 2 7939 953 S 2 7940 953 S 2 7941 953 S 2 7942 953 S 2 7943 953 S 2 7968 
  953 S 2 7969 953 S 2 7970 953 S 2 7971 953 S 2 7972 953 S 2 7973 953 S 2 7974 953 S 2 7975 
  953 S 2 7968 953 S 2 7969 953 S 2 7970 953 S 2 7971 953 S 2 7972 953 S 2 7973 953 S 2 7974 
  953 S 2 7975 953 S 2 8032 953 S 2 8033 953 S 2 8034 953 S 2 8035 953 S 2 8036 953 S 2 8037 
  953 S 2 8038 953 S 2 8039 953 S 2 8032 953 S 2 8033 953 S 2 8034 953 S 2 8035 953 S 2 8036 
  953 S 2 8037 953 S 2 8038 953 S 2 8039 953 V 2 S 2 8048 953 S 2 945 953 S 2 940 953 X 1 V 1 
  S 2 8118 953 D 2 8 D 1 74 D 1 7183 S 2 945 953 S 2 32 787 D 1 7173 S 2 32 787 S 2 32 834 S 
  3 32 776 834 S 2 8052 953 S 2 951 953 S 2 942 953 X 1 V 1 S 2 8134 953 D 1 86 D 1 7196 D 1 
  86 D 1 7197 S 2 951 953 S 3 32 787 768 S 3 32 787 769 S 3 32 787 834 V 3 D 1 7235 X 2 V 2 D 
  2 8 D 1 100 D 1 7212 X 1 S 3 32 788 768 S 3 32 788 769 S 3 32 788 834 V 3 D 1 7219 V 4 D 2 
  8 D 1 112 D 1 7198 D 1 7 S 3 32 776 768 S 3 32 776 769 D 1 8079 X 2 S 2 8060 953 S 2 969 
  953 S 2 974 953 X 1 V 1 S 2 8182 953 D 1 128 D 1 7213 D 1 126 D 1 7213 S 2 969 953 S 2 32 
  769 S 2 32 788 X 1 S 1 32 S 1 32 S 1 32 S 1 32 S 1 32 S 1 32 S 1 32 S 1 32 S 1 32 S 1 32 S 
  1 32 I 1 V 2 X 2 V 1 D 1 1 V 5 S 2 32 819 V 12 X 3 V 1 X 7 D 1 8207 V 3 S 2 8242 8242 S 3 
  8242 8242 8242 V 1 S 2 8245 8245 S 3 8245 8245 8245 V 4 S 2 33 33 V 1 S 2 32 773 V 8 S 2 63 
  63 S 2 63 33 S 2 33 63 V 13 S 4 8242 8242 8242 8242 V 7 D 1 8255 I 5 X 5 I 6 D 1 8256 D 1 
  8200 X 2 D 6 8256 D 1 8271 U 1 407 D 1 8255 D 2 8277 D 1 8209 D 10 8272 D 1 8287 U 1 391 D 
  1 8271 D 2 8293 X 1 D 1 8239 D 1 8236 D 1 8227 D 1 8219 D 1 7739 D 1 8237 D 4 8235 D 1 8234 
  D 2 8232 X 3 V 8 S 2 114 115 V 25 X 14 V 33 X 15 S 3 97 47 99 S 3 97 47 115 D 1 8351 S 2 
  176 99 V 1 S 3 99 47 111 S 3 99 47 117 D 1 7852 V 1 S 2 176 102 D 1 8355 S 1 104 S 1 104 S 
  1 104 S 1 104 D 1 8168 S 1 105 S 1 105 S 1 108 S 1 108 V 1 D 1 8359 S 2 110 111 V 2 D 2 
  8361 S 1 114 S 1 114 S 1 114 V 2 S 2 115 109 S 3 116 101 108 S 2 116 109 V 1 D 1 8362 V 1 D 
  1 7517 V 1 D 1 8366 V 1 D 1 8383 D 1 8262 D 2 8394 V 1 S 1 101 S 1 101 D 1 8395 U 1 28 D 1 
  8390 D 1 8389 D 4 7013 D 1 8400 V 1 S 3 102 97 120 D 1 7548 S 1 947 S 1 947 D 1 7551 U 1 
  209 V 4 S 1 100 S 1 100 D 1 8418 D 2 8415 V 6 S 3 49 8260 55 S 3 49 8260 57 S 4 49 8260 49 
  48 S 3 49 8260 51 S 3 50 8260 51 S 3 49 8260 53 S 3 50 8260 53 S 3 51 8260 53 S 3 52 8260 
  53 S 3 49 8260 54 S 3 53 8260 54 S 3 49 8260 56 S 3 51 8260 56 S 3 53 8260 56 S 3 55 8260 
  56 S 2 49 8260 D 1 8439 S 2 105 105 S 3 105 105 105 S 2 105 118 D 1 8430 S 2 118 105 S 3 
  118 105 105 S 4 118 105 105 105 S 2 105 120 D 1 8433 S 2 120 105 S 3 120 105 105 D 1 8448 D 
  2 8458 D 1 8450 D 1 8455 S 2 105 105 S 3 105 105 105 S 2 105 118 D 1 8446 S 2 118 105 S 3 
  118 105 105 S 4 118 105 105 105 S 2 105 120 D 1 8449 S 2 120 105 S 3 120 105 105 D 1 8464 D 
  2 8474 D 1 8466 V 3 U 1 1 V 5 S 3 48 8260 51 V 2 X 4 V 156 S 2 8747 8747 S 3 8747 8747 8747 
  V 1 S 2 8750 8750 S 3 8750 8750 8750 V 248 U 2 3295 V 255 X 22 V 11 X 21 D 9 9263 S 2 49 48 
  S 2 49 49 S 2 49 50 S 2 49 51 S 2 49 52 S 2 49 53 S 2 49 54 S 2 49 55 S 2 49 56 S 2 49 57 S 
  2 50 48 S 3 40 49 41 S 3 40 50 41 S 3 40 51 41 S 3 40 52 41 S 3 40 53 41 S 3 40 54 41 S 3 
  40 55 41 S 3 40 56 41 S 3 40 57 41 S 4 40 49 48 41 S 4 40 49 49 41 S 4 40 49 50 41 S 4 40 
  49 51 41 S 4 40 49 52 41 S 4 40 49 53 41 S 4 40 49 54 41 S 4 40 49 55 41 S 4 40 49 56 41 S 
  4 40 49 57 41 S 4 40 50 48 41 X 20 S 3 40 97 41 S 3 40 98 41 S 3 40 99 41 S 3 40 100 41 S 3 
  40 101 41 S 3 40 102 41 S 3 40 103 41 S 3 40 104 41 S 3 40 105 41 S 3 40 106 41 S 3 40 107 
  41 S 3 40 108 41 S 3 40 109 41 S 3 40 110 41 S 3 40 111 41 S 3 40 112 41 S 3 40 113 41 S 3 
  40 114 41 S 3 40 115 41 S 3 40 116 41 S 3 40 117 41 S 3 40 118 41 S 3 40 119 41 S 3 40 120 
  41 S 3 40 121 41 S 3 40 122 41 D 26 9301 D 26 9327 D 1 9402 V 1313 S 4 8747 8747 8747 8747 
  V 103 S 3 58 58 61 S 2 61 61 S 3 61 61 61 V 101 S 2 10973 824 V 151 X 2 V 138 U 48 48 V 48 
  U 1 1 V 1 D 1 10743 D 1 3814 D 1 10727 V 2 A 3 D 1 10780 D 1 10749 D 1 10783 D 1 10782 V 1 
  U 1 1 V 2 U 1 1 V 6 D 1 11282 D 1 11271 D 2 10815 A 49 U 1 1 V 8 U 1 1 V 1 U 1 1 V 4 U 1 1 
  V 1 X 5 V 45 X 1 V 1 X 5 V 1 X 2 V 56 X 7 D 1 14 V 1 X 14 V 24 X 9 V 7 X 1 V 7 X 1 V 7 X 1 
  V 7 X 1 V 7 X 1 V 7 X 1 V 7 X 1 V 7 X 1 V 126 X 34 V 26 X 1 V 4 U 1 15662 V 83 U 1 28844 X 
  12 U 1 7936 U 1 7975 U 1 7988 U 1 7996 U 1 8021 U 1 8064 U 1 8070 U 1 8089 U 1 8114 U 1 
  8758 U 1 8795 U 1 8800 U 1 8822 U 1 8841 U 1 8861 U 1 8913 U 1 8933 U 1 8943 U 1 9097 U 1 
  9190 U 1 9217 U 1 9221 U 1 9250 U 1 9258 U 1 9284 U 1 9296 U 1 9320 U 1 9371 U 1 9388 U 1 
  9414 U 1 10169 U 1 10240 U 1 10699 U 1 10721 U 1 10728 U 1 10738 U 1 10755 U 1 10830 U 1 
  11306 U 1 11353 U 1 11472 U 1 11494 U 1 11512 U 1 11533 U 1 11586 U 1 11588 U 1 11949 U 1 
  11958 U 1 11969 U 1 11981 U 1 12096 U 1 12103 U 1 12107 U 1 12223 U 1 12232 U 1 12244 U 1 
  12251 U 1 12311 U 1 12327 U 1 12344 U 1 12423 U 1 13003 U 1 13048 U 1 13068 U 1 13807 U 1 
  13811 U 1 13893 U 1 13908 U 1 13920 U 1 13940 U 1 13978 U 1 13982 U 1 14248 U 1 14271 U 1 
  14302 U 1 15317 U 1 15382 U 1 15404 U 1 15461 U 1 15484 U 1 15492 U 1 15498 U 1 15549 U 1 
  15553 U 1 15584 U 1 16662 U 1 17108 U 1 17119 U 1 17123 U 1 17126 U 1 17133 U 1 17150 U 1 
  17151 U 1 17231 U 1 17446 U 1 17450 U 1 17788 U 1 17797 U 1 17846 U 1 17852 U 1 17860 U 1 
  17867 U 1 17957 U 1 17963 U 1 18190 U 1 18196 U 1 18244 U 1 18260 U 1 18306 U 1 18542 U 1 
  18548 U 1 18564 U 1 18890 U 1 19015 U 1 19020 U 1 19201 U 1 19287 U 1 19332 U 1 19709 U 1 
  19841 U 1 20414 U 1 20440 U 1 20496 U 1 20546 U 1 20613 U 1 20623 U 1 20628 U 1 20660 U 1 
  20735 U 1 20744 U 1 21089 U 1 21095 U 1 21103 U 1 21111 U 1 21126 U 1 21140 U 1 21143 U 1 
  21221 U 1 21224 U 1 21229 U 1 22209 U 1 22238 U 1 22706 U 1 22717 U 1 22739 U 1 23021 U 1 
  23033 U 1 23103 U 1 23148 U 1 23714 U 1 23728 U 1 23742 U 1 23776 U 1 23812 U 1 24010 U 1 
  24021 U 1 24087 U 1 24334 U 1 24364 U 1 24572 U 1 24592 U 1 24596 U 1 24815 U 1 24998 U 1 
  25122 U 1 25127 U 1 25131 U 1 26064 U 1 26072 U 1 26227 U 1 26380 U 1 26382 U 1 26428 U 1 
  26532 U 1 26544 U 1 26547 U 1 26553 U 1 26650 U 1 26683 U 1 26688 U 1 26701 U 1 26867 U 1 
  26917 U 1 26920 U 1 27102 U 1 27104 U 1 27122 U 1 27373 U 1 27420 U 1 27426 U 1 27495 U 1 
  27504 U 1 27506 U 1 27515 U 1 27544 U 1 27938 U 1 28337 U 1 28346 U 1 28383 U 1 28404 U 1 
  28411 U 1 28420 U 1 28423 U 1 28462 U 1 28465 U 1 28481 U 1 28485 U 1 28497 U 1 28523 U 1 
  28537 U 1 28544 U 1 28602 U 1 28616 U 1 28619 X 42 D 1 12256 V 1 D 1 12244 V 51 D 1 36 V 1 
  U 1 8969 U 2 8971 V 5 X 1 V 86 X 2 V 2 S 2 32 12441 S 2 32 12442 V 2 S 2 12424 12426 V 95 S 
  2 12467 12488 X 5 V 43 X 1 D 2 8241 D 1 8073 D 1 8242 D 2 8073 D 3 8244 D 6 8074 D 1 8230 D 
  3 8251 D 1 8227 D 10 8252 D 21 8174 I 1 D 2 8273 D 2 8096 D 1 8093 D 1 8092 D 1 8088 D 1 
  8085 D 1 8084 D 1 8274 D 1 8082 D 1 8081 D 2 8276 D 1 8275 D 2 8274 D 1 8271 D 1 8270 D 5 
  8269 D 1 8267 D 1 8264 D 1 8255 D 1 8249 D 1 8245 D 2 8081 D 3 8237 D 2 8195 D 1 8193 D 2 
  8185 D 1 8184 D 1 8175 D 1 8173 X 1 V 2 U 1 7278 U 1 7417 U 1 7285 U 1 9542 U 1 7284 U 1 
  7318 U 1 7283 U 1 17305 U 1 7359 U 1 7294 U 1 7269 U 1 10124 U 1 9618 U 1 7451 V 70 X 10 V 
  16 S 3 40 4352 41 S 3 40 4354 41 S 3 40 4355 41 S 3 40 4357 41 S 3 40 4358 41 S 3 40 4359 
  41 S 3 40 4361 41 S 3 40 4363 41 S 3 40 4364 41 S 3 40 4366 41 S 3 40 4367 41 S 3 40 4368 
  41 S 3 40 4369 41 S 3 40 4370 41 S 3 40 44032 41 S 3 40 45208 41 S 3 40 45796 41 S 3 40 
  46972 41 S 3 40 47560 41 S 3 40 48148 41 S 3 40 49324 41 S 3 40 50500 41 S 3 40 51088 41 S 
  3 40 52264 41 S 3 40 52852 41 S 3 40 53440 41 S 3 40 54028 41 S 3 40 54616 41 S 3 40 51452 
  41 S 4 40 50724 51204 41 S 4 40 50724 54980 41 X 1 S 3 40 19968 41 S 3 40 20108 41 S 3 40 
  19977 41 S 3 40 22235 41 S 3 40 20116 41 S 3 40 20845 41 S 3 40 19971 41 S 3 40 20843 41 S 
  3 40 20061 41 S 3 40 21313 41 S 3 40 26376 41 S 3 40 28779 41 S 3 40 27700 41 S 3 40 26408 
  41 S 3 40 37329 41 S 3 40 22303 41 S 3 40 26085 41 S 3 40 26666 41 S 3 40 26377 41 S 3 40 
  31038 41 S 3 40 21517 41 S 3 40 29305 41 S 3 40 36001 41 S 3 40 31069 41 S 3 40 21172 41 S 
  3 40 20195 41 S 3 40 21628 41 S 3 40 23398 41 S 3 40 30435 41 S 3 40 20225 41 S 3 40 36039 
  41 S 3 40 21332 41 S 3 40 31085 41 S 3 40 20241 41 S 3 40 33258 41 S 3 40 33267 41 U 1 8971 
  U 1 11319 U 1 13121 U 1 18760 V 8 S 3 112 116 101 S 2 50 49 S 2 50 50 S 2 50 51 S 2 50 52 S 
  2 50 53 S 2 50 54 S 2 50 55 S 2 50 56 S 2 50 57 S 2 51 48 S 2 51 49 S 2 51 50 S 2 51 51 S 2 
  51 52 S 2 51 53 D 1 8544 D 2 8543 D 3 8542 D 1 8541 D 2 8540 D 5 8539 U 1 31122 U 1 32297 U 
  1 32884 U 1 34059 U 1 34646 U 1 35233 U 1 36408 U 1 37583 U 1 38170 U 1 39345 U 1 39932 U 1 
  40519 U 1 41106 U 1 41693 S 2 52280 44256 S 2 51452 51032 U 1 37938 V 1 U 1 7040 U 1 7179 U 
  1 7047 U 1 9304 U 1 7184 U 1 7912 U 1 7037 U 1 7908 U 1 7125 U 1 8376 U 1 13438 U 1 15840 U 
  1 14760 U 1 13467 U 1 24387 U 1 9360 U 1 13141 U 1 13721 U 1 13431 U 1 18091 U 1 8569 U 1 
  16356 U 1 23051 U 1 18118 U 1 8220 U 1 18239 U 1 17053 U 1 9944 U 1 24013 U 1 7821 U 1 8402 
  U 1 14921 U 1 25957 U 1 7280 U 1 7927 U 1 14528 U 1 7014 U 1 7048 U 1 7013 U 1 11071 U 1 
  8523 U 1 8338 U 1 10477 U 1 10427 U 1 17463 U 1 7252 U 1 23065 U 1 8357 U 1 9836 S 2 51 54 
  S 2 51 55 S 2 51 56 S 2 51 57 S 2 52 48 S 2 52 49 S 2 52 50 S 2 52 51 S 2 52 52 S 2 52 53 S 
  2 52 54 S 2 52 55 S 2 52 56 S 2 52 57 S 2 53 48 S 2 49 26376 S 2 50 26376 S 2 51 26376 S 2 
  52 26376 S 2 53 26376 S 2 54 26376 S 2 55 26376 S 2 56 26376 S 2 57 26376 S 3 49 48 26376 S 
  3 49 49 26376 S 3 49 50 26376 S 2 104 103 S 3 101 114 103 S 2 101 118 S 3 108 116 100 D 1 
  558 D 1 557 D 1 556 D 1 555 D 2 554 D 1 553 D 1 552 D 1 551 D 1 550 D 1 549 D 1 548 D 1 547 
  D 1 546 D 1 545 D 1 544 D 1 543 D 1 541 D 1 540 D 1 539 D 6 538 D 1 536 D 1 534 D 1 532 D 1 
  530 D 5 528 D 1 527 D 1 526 D 6 525 D 4 524 S 2 20196 21644 S 4 12450 12497 12540 12488 S 4 
  12450 12523 12501 12449 S 4 12450 12531 12506 12450 S 3 12450 12540 12523 S 4 12452 12491 
  12531 12464 S 3 12452 12531 12481 S 3 12454 12457 12531 S 5 12456 12473 12463 12540 12489 S 
  4 12456 12540 12459 12540 S 3 12458 12531 12473 S 3 12458 12540 12512 S 3 12459 12452 12522 
  S 4 12459 12521 12483 12488 S 4 12459 12525 12522 12540 S 3 12460 12525 12531 S 3 12460 
  12531 12510 S 2 12462 12460 S 3 12462 12491 12540 S 4 12461 12517 12522 12540 S 4 12462 
  12523 12480 12540 S 2 12461 12525 S 5 12461 12525 12464 12521 12512 S 6 12461 12525 12513 
  12540 12488 12523 S 5 12461 12525 12527 12483 12488 S 3 12464 12521 12512 S 5 12464 12521 
  12512 12488 12531 S 5 12463 12523 12476 12452 12525 S 4 12463 12525 12540 12493 S 3 12465 
  12540 12473 S 3 12467 12523 12490 S 3 12467 12540 12509 S 4 12469 12452 12463 12523 S 5 
  12469 12531 12481 12540 12512 S 4 12471 12522 12531 12464 S 3 12475 12531 12481 S 3 12475 
  12531 12488 S 3 12480 12540 12473 S 2 12487 12471 S 2 12489 12523 S 2 12488 12531 S 2 12490 
  12494 S 3 12494 12483 12488 S 3 12495 12452 12484 S 5 12497 12540 12475 12531 12488 S 3 
  12497 12540 12484 S 4 12496 12540 12524 12523 S 5 12500 12450 12473 12488 12523 S 3 12500 
  12463 12523 S 2 12500 12467 S 2 12499 12523 S 5 12501 12449 12521 12483 12489 S 4 12501 
  12451 12540 12488 S 5 12502 12483 12471 12455 12523 S 3 12501 12521 12531 S 5 12504 12463 
  12479 12540 12523 S 2 12506 12477 S 3 12506 12491 12498 S 3 12504 12523 12484 S 3 12506 
  12531 12473 S 3 12506 12540 12472 S 3 12505 12540 12479 S 4 12509 12452 12531 12488 S 3 
  12508 12523 12488 S 2 12507 12531 S 3 12509 12531 12489 S 3 12507 12540 12523 S 3 12507 
  12540 12531 S 4 12510 12452 12463 12525 S 3 12510 12452 12523 S 3 12510 12483 12495 S 3 
  12510 12523 12463 S 5 12510 12531 12471 12519 12531 S 4 12511 12463 12525 12531 S 2 12511 
  12522 S 5 12511 12522 12496 12540 12523 S 2 12513 12460 S 4 12513 12460 12488 12531 S 4 
  12513 12540 12488 12523 S 3 12516 12540 12489 S 3 12516 12540 12523 S 3 12518 12450 12531 S 
  4 12522 12483 12488 12523 S 2 12522 12521 S 3 12523 12500 12540 S 4 12523 12540 12502 12523 
  S 2 12524 12512 S 5 12524 12531 12488 12466 12531 S 3 12527 12483 12488 S 2 48 28857 S 2 49 
  28857 S 2 50 28857 S 2 51 28857 S 2 52 28857 S 2 53 28857 S 2 54 28857 S 2 55 28857 S 2 56 
  28857 S 2 57 28857 S 3 49 48 28857 S 3 49 49 28857 S 3 49 50 28857 S 3 49 51 28857 S 3 49 
  52 28857 S 3 49 53 28857 S 3 49 54 28857 S 3 49 55 28857 S 3 49 56 28857 S 3 49 57 28857 S 
  3 50 48 28857 S 3 50 49 28857 S 3 50 50 28857 S 3 50 51 28857 S 3 50 52 28857 S 3 104 112 
  97 S 2 100 97 S 2 97 117 S 3 98 97 114 S 2 111 118 S 2 112 99 S 2 100 109 S 3 100 109 50 S 
  3 100 109 51 S 2 105 117 S 2 24179 25104 S 2 26157 21644 S 2 22823 27491 S 2 26126 27835 S 
  4 26666 24335 20250 31038 S 2 112 97 S 2 110 97 S 2 956 97 S 2 109 97 S 2 107 97 S 2 107 98 
  S 2 109 98 S 2 103 98 S 3 99 97 108 S 4 107 99 97 108 S 2 112 102 S 2 110 102 S 2 956 102 S 
  2 956 103 S 2 109 103 S 2 107 103 S 2 104 122 S 3 107 104 122 S 3 109 104 122 S 3 103 104 
  122 S 3 116 104 122 S 2 956 108 S 2 109 108 S 2 100 108 S 2 107 108 S 2 102 109 S 2 110 109 
  S 2 956 109 S 2 109 109 S 2 99 109 S 2 107 109 S 3 109 109 50 S 3 99 109 50 S 2 109 50 S 3 
  107 109 50 S 3 109 109 51 S 3 99 109 51 S 2 109 51 S 3 107 109 51 S 3 109 8725 115 S 4 109 
  8725 115 50 S 2 112 97 S 3 107 112 97 S 3 109 112 97 S 3 103 112 97 S 3 114 97 100 S 5 114 
  97 100 8725 115 S 6 114 97 100 8725 115 50 S 2 112 115 S 2 110 115 S 2 956 115 S 2 109 115 
  S 2 112 118 S 2 110 118 S 2 956 118 S 2 109 118 S 2 107 118 S 2 109 118 S 2 112 119 S 2 110 
  119 S 2 956 119 S 2 109 119 S 2 107 119 S 2 109 119 S 2 107 969 S 2 109 969 X 1 S 2 98 113 
  S 2 99 99 S 2 99 100 S 4 99 8725 107 103 X 1 S 2 100 98 S 2 103 121 S 2 104 97 S 2 104 112 
  S 2 105 110 S 2 107 107 S 2 107 109 S 2 107 116 S 2 108 109 S 2 108 110 S 3 108 111 103 S 2 
  108 120 S 2 109 98 S 3 109 105 108 S 3 109 111 108 S 2 112 104 X 1 S 3 112 112 109 S 2 112 
  114 S 2 115 114 S 2 115 118 S 2 119 98 S 3 118 8725 109 S 3 97 8725 109 S 2 49 26085 S 2 50 
  26085 S 2 51 26085 S 2 52 26085 S 2 53 26085 S 2 54 26085 S 2 55 26085 S 2 56 26085 S 2 57 
  26085 S 3 49 48 26085 S 3 49 49 26085 S 3 49 50 26085 S 3 49 51 26085 S 3 49 52 26085 S 3 
  49 53 26085 S 3 49 54 26085 S 3 49 55 26085 S 3 49 56 26085 S 3 49 57 26085 S 3 50 48 26085 
  S 3 50 49 26085 S 3 50 50 26085 S 3 50 51 26085 S 3 50 52 26085 S 3 50 53 26085 S 3 50 54 
  26085 S 3 50 55 26085 S 3 50 56 26085 S 3 50 57 26085 S 3 51 48 26085 S 3 51 49 26085 S 3 
  103 97 108 V 28813 X 3 V 55 X 9 V 348 X 20 A 22 U 1 1 V 19 A 14 D 1 41554 D 1 41553 V 90 X 
  8 V 34 A 6 U 1 1 V 3 A 31 D 1 1 V 8 A 2 D 1 35332 A 4 U 1 1 V 4 U 1 1 V 1 D 1 42280 V 2 U 1 
  1 V 1 U 1 1 V 3 A 10 D 1 42308 D 1 42319 D 1 42315 D 1 42305 D 1 42308 V 1 D 1 42258 D 1 
  42282 D 1 42261 U 1 928 A 8 D 1 48 D 1 42307 D 1 35384 A 2 D 1 42343 A 8 D 1 42561 X 20 D 1 
  42878 D 1 42895 D 1 42893 D 1 42883 U 1 1 V 2 D 1 42705 D 1 42662 V 51 X 3 V 10 X 6 V 56 X 
  8 V 70 X 8 V 12 X 6 V 116 X 11 V 30 X 3 V 78 X 1 V 11 X 4 V 33 X 1 V 55 X 9 V 14 X 2 V 10 X 
  2 V 103 X 24 V 28 X 10 V 6 X 2 V 6 X 2 V 6 X 9 V 7 X 1 V 7 X 1 V 44 D 1 1077 D 1 38 D 1 
  43251 D 1 13 V 9 D 1 43228 V 2 X 4 D 80 38864 V 46 X 2 V 10 X 6 V 11172 X 12 V 23 X 4 V 49 
  X 8452 D 1 27832 D 1 37389 D 1 27192 D 1 27707 D 1 35379 D 1 43731 D 1 42273 S 1 40860 S 1 
  40860 D 1 40888 D 1 26425 D 1 41860 D 1 40900 D 1 38679 D 1 33445 D 1 31114 D 1 29393 D 1 
  29015 D 1 28698 D 1 26756 D 1 36626 D 1 35834 D 1 34877 D 1 34105 D 1 29915 D 1 26543 D 1 
  24361 D 1 43673 D 1 42407 D 1 36377 D 1 34563 D 1 29426 D 1 23298 D 1 39889 D 1 35127 D 1 
  29526 D 1 28608 D 1 38492 D 1 30542 D 1 28936 D 1 39518 D 1 37394 D 1 35776 D 1 34351 D 1 
  26718 D 1 43431 D 1 42871 D 1 42577 D 1 37996 D 1 36446 D 1 34594 D 1 33356 D 1 31027 D 1 
  29487 D 1 29402 D 1 27464 D 1 25094 D 1 24010 D 1 23360 D 1 32943 D 1 32701 D 1 31645 D 1 
  30069 D 1 26171 D 1 23233 D 1 28267 D 1 41059 D 1 39487 D 1 31972 D 1 30919 D 1 34532 D 1 
  32893 D 1 27782 D 1 25170 D 1 41074 D 1 40169 D 1 36665 D 1 35699 D 1 35391 D 1 31776 D 1 
  31513 D 1 25350 D 1 42624 D 1 30920 D 1 42872 D 1 42889 D 1 32570 D 1 31641 D 1 30055 D 1 
  25316 D 1 28122 D 1 38540 D 1 36698 D 1 28255 D 1 43813 D 1 40312 D 1 39246 D 1 34266 D 1 
  33778 D 1 42572 D 1 32873 D 1 43430 D 1 39357 D 1 43866 D 1 35996 D 1 37873 D 1 31816 D 1 
  42408 D 1 41230 D 1 33388 D 1 29989 D 1 28357 D 1 36278 D 1 27073 D 1 36074 D 1 38517 D 1 
  30351 D 1 38357 D 1 33809 D 1 43721 D 1 43023 D 1 42928 D 1 37113 D 1 31892 D 1 30477 D 1 
  28331 D 1 26543 D 1 42634 D 1 42302 D 1 40974 D 1 39574 D 1 37822 D 1 35206 D 1 32859 D 1 
  25561 D 1 24349 D 1 23281 D 1 23227 D 1 42735 D 1 37573 D 1 36373 D 1 27179 D 1 39706 D 1 
  38911 D 1 38800 D 1 38135 D 1 35439 D 1 34890 D 1 34059 D 1 32715 D 1 31650 D 1 31016 D 1 
  27250 D 1 29867 D 1 26999 D 1 26193 D 1 42885 D 1 42746 D 1 42209 D 1 35031 D 1 28894 D 1 
  28407 D 1 39641 D 1 39342 D 1 38441 D 1 36343 D 1 32104 D 1 34354 D 1 43716 D 1 41648 D 1 
  40387 D 1 39921 D 1 39312 D 1 34299 D 1 34117 D 1 31253 D 1 31082 D 1 26493 D 1 25276 D 1 
  25195 D 1 24988 D 1 43562 D 1 32776 D 1 26627 D 1 25344 D 1 39128 D 1 43828 D 1 43233 D 1 
  40398 D 1 40318 D 1 37925 D 1 36797 D 1 34802 D 1 33663 D 1 29894 D 1 26951 D 1 23095 D 1 
  37693 D 1 25496 D 1 42814 D 1 37453 D 1 37334 D 1 35977 D 1 35631 D 1 34243 D 1 33908 D 1 
  33123 D 1 31935 D 1 24946 D 1 43108 D 1 38820 D 1 25435 D 1 43433 D 1 40124 D 1 35820 D 1 
  27309 D 1 39501 D 1 39061 D 1 37315 D 1 34388 D 1 25430 D 1 42932 D 1 42447 D 1 40314 D 1 
  37837 D 1 37523 D 1 37178 D 1 36094 D 1 34270 D 1 33795 D 1 31341 D 1 28952 D 1 28935 D 1 
  26653 D 1 25352 D 1 42668 D 1 35634 D 1 42448 D 1 34846 D 1 34135 D 1 29686 D 1 25422 D 1 
  23963 D 1 23380 D 1 37469 D 1 35882 D 1 30734 D 1 32556 D 1 32472 D 1 32103 D 1 34618 D 1 
  35170 D 1 28324 D 1 43837 D 1 30408 D 1 42949 D 1 43001 D 1 39771 D 1 38703 D 1 32045 D 1 
  40575 D 1 36071 D 1 37714 D 1 27340 D 1 29116 D 1 25532 D 1 28799 D 1 39736 D 1 43212 D 1 
  42061 V 2 D 1 41398 V 1 D 1 37790 V 2 D 1 43063 D 1 34540 D 1 33613 D 1 32988 D 1 32955 D 1 
  32949 D 1 32908 D 1 25286 D 1 32095 D 1 31329 V 1 D 1 29710 V 1 D 1 28458 V 2 D 1 27117 D 1 
  26921 V 3 D 1 24891 D 1 24879 D 1 24836 D 1 23673 D 1 26960 D 1 25464 D 1 43650 D 1 43338 D 
  1 43237 D 1 42858 D 1 42832 D 1 42724 D 1 42137 D 1 42033 D 1 41936 D 1 41465 D 1 41362 D 1 
  40407 D 1 40398 D 1 39337 D 1 39126 D 1 39089 D 1 38990 D 1 38130 D 1 37984 D 1 37810 D 1 
  37311 D 1 36046 D 1 35884 D 1 35621 D 1 35034 D 1 34846 D 1 34344 D 1 33210 D 1 33038 D 1 
  33028 D 1 33030 D 1 33023 D 1 33018 D 1 33012 D 2 32965 D 1 32788 D 1 32724 D 1 32406 D 1 
  31843 D 1 31823 D 1 31768 D 1 31464 D 1 31318 D 1 30831 S 1 33401 S 1 33401 D 1 30216 D 1 
  29008 D 1 28875 D 1 28513 D 1 28458 D 1 28049 D 1 27997 D 1 27312 D 1 27183 D 1 25477 D 1 
  25194 D 1 25135 D 1 39414 U 1 84098 D 1 30805 X 2 D 1 44106 D 1 43196 D 1 43274 D 1 43763 D 
  1 43311 D 1 43253 D 1 42927 D 1 42877 D 1 42203 D 1 42276 D 1 42209 D 1 42137 D 1 41506 D 1 
  41418 D 1 41274 D 1 41259 D 1 40990 D 1 40793 D 1 39856 D 1 39850 D 1 39707 D 1 39640 D 1 
  39342 D 1 39225 D 1 39296 D 1 39163 D 1 39210 D 1 39065 D 1 39000 D 1 38601 D 1 38514 D 1 
  38461 D 1 38202 D 1 37917 D 1 37755 D 1 37752 D 1 37694 D 1 36636 D 1 36572 D 1 36182 D 1 
  35773 D 1 35790 D 1 35704 D 1 35453 D 1 35118 D 1 33526 D 1 34921 D 1 34800 D 1 34678 D 1 
  34352 D 1 34204 D 1 34152 D 1 33927 D 1 33926 D 1 33756 D 1 33740 D 1 33716 D 1 33631 D 1 
  33642 D 1 33247 D 1 32763 D 1 32493 D 1 32307 D 1 32084 D 1 31932 D 1 31603 D 1 31405 D 1 
  30561 D 1 30405 D 1 29500 D 1 29045 D 1 28977 D 1 28962 D 1 28666 D 1 28610 D 1 28656 D 1 
  28603 D 1 28607 D 1 28625 D 1 28550 D 1 28470 D 1 28089 D 1 27530 D 1 27217 D 1 26923 D 1 
  26703 D 1 25674 D 1 25572 D 1 25458 D 1 25326 D 1 25291 D 1 25280 D 1 25233 D 1 24507 D 1 
  23346 U 1 77179 U 1 77172 U 1 80132 D 1 48949 D 1 47803 D 1 47771 U 1 87924 U 1 90618 U 1 
  99324 D 1 23445 D 1 23371 X 38 S 2 102 102 S 2 102 105 S 2 102 108 S 3 102 102 105 S 3 102 
  102 108 S 2 115 116 S 2 115 116 X 12 S 2 1396 1398 S 2 1396 1381 S 2 1396 1387 S 2 1406 
  1398 S 2 1396 1389 X 5 S 2 1497 1460 V 1 S 2 1522 1463 D 1 62782 D 1 62801 D 2 62799 D 3 
  62793 D 1 62783 D 1 62782 D 1 64254 S 2 1513 1473 S 2 1513 1474 S 3 1513 1468 1473 S 3 1513 
  1468 1474 S 2 1488 1463 S 2 1488 1464 S 2 1488 1468 S 2 1489 1468 S 2 1490 1468 S 2 1491 
  1468 S 2 1492 1468 S 2 1493 1468 S 2 1494 1468 X 1 S 2 1496 1468 S 2 1497 1468 S 2 1498 
  1468 S 2 1499 1468 S 2 1500 1468 X 1 S 2 1502 1468 X 1 S 2 1504 1468 S 2 1505 1468 X 1 S 2 
  1507 1468 S 2 1508 1468 X 1 S 2 1510 1468 S 2 1511 1468 S 2 1512 1468 S 2 1513 1468 S 2 
  1514 1468 S 2 1493 1465 S 2 1489 1471 S 2 1499 1471 S 2 1508 1471 S 2 1488 1500 S 1 1649 S 
  1 1649 S 1 1659 S 1 1659 S 1 1659 S 1 1659 S 1 1662 S 1 1662 S 1 1662 S 1 1662 S 1 1664 S 1 
  1664 S 1 1664 S 1 1664 S 1 1658 S 1 1658 S 1 1658 S 1 1658 S 1 1663 S 1 1663 S 1 1663 S 1 
  1663 S 1 1657 S 1 1657 S 1 1657 S 1 1657 S 1 1700 S 1 1700 S 1 1700 S 1 1700 S 1 1702 S 1 
  1702 S 1 1702 S 1 1702 S 1 1668 S 1 1668 S 1 1668 S 1 1668 S 1 1667 S 1 1667 S 1 1667 S 1 
  1667 S 1 1670 S 1 1670 S 1 1670 S 1 1670 S 1 1671 S 1 1671 S 1 1671 S 1 1671 S 1 1677 S 1 
  1677 S 1 1676 S 1 1676 S 1 1678 S 1 1678 S 1 1672 S 1 1672 S 1 1688 S 1 1688 S 1 1681 S 1 
  1681 S 1 1705 S 1 1705 S 1 1705 S 1 1705 S 1 1711 S 1 1711 S 1 1711 S 1 1711 S 1 1715 S 1 
  1715 S 1 1715 S 1 1715 S 1 1713 S 1 1713 S 1 1713 S 1 1713 S 1 1722 S 1 1722 S 1 1723 S 1 
  1723 S 1 1723 S 1 1723 S 1 1728 S 1 1728 S 1 1729 S 1 1729 S 1 1729 S 1 1729 S 1 1726 S 1 
  1726 S 1 1726 S 1 1726 S 1 1746 S 1 1746 S 1 1747 S 1 1747 V 33 S 1 1709 S 1 1709 S 1 1709 
  S 1 1709 S 1 1735 S 1 1735 S 1 1734 S 1 1734 S 1 1736 S 1 1736 S 2 1735 1652 S 1 1739 S 1 
  1739 S 1 1733 S 1 1733 S 1 1737 S 1 1737 S 1 1744 S 1 1744 S 1 1744 S 1 1744 S 1 1609 S 1 
  1609 S 2 1574 1575 S 2 1574 1575 S 2 1574 1749 S 2 1574 1749 S 2 1574 1608 S 2 1574 1608 S 
  2 1574 1735 S 2 1574 1735 S 2 1574 1734 S 2 1574 1734 S 2 1574 1736 S 2 1574 1736 S 2 1574 
  1744 S 2 1574 1744 S 2 1574 1744 S 2 1574 1609 S 2 1574 1609 S 2 1574 1609 S 1 1740 S 1 
  1740 S 1 1740 S 1 1740 S 2 1574 1580 S 2 1574 1581 S 2 1574 1605 S 2 1574 1609 S 2 1574 
  1610 S 2 1576 1580 S 2 1576 1581 S 2 1576 1582 S 2 1576 1605 S 2 1576 1609 S 2 1576 1610 S 
  2 1578 1580 S 2 1578 1581 S 2 1578 1582 S 2 1578 1605 S 2 1578 1609 S 2 1578 1610 S 2 1579 
  1580 S 2 1579 1605 S 2 1579 1609 S 2 1579 1610 S 2 1580 1581 S 2 1580 1605 S 2 1581 1580 S 
  2 1581 1605 S 2 1582 1580 S 2 1582 1581 S 2 1582 1605 S 2 1587 1580 S 2 1587 1581 S 2 1587 
  1582 S 2 1587 1605 S 2 1589 1581 S 2 1589 1605 S 2 1590 1580 S 2 1590 1581 S 2 1590 1582 S 
  2 1590 1605 S 2 1591 1581 S 2 1591 1605 S 2 1592 1605 S 2 1593 1580 S 2 1593 1605 S 2 1594 
  1580 S 2 1594 1605 S 2 1601 1580 S 2 1601 1581 S 2 1601 1582 S 2 1601 1605 S 2 1601 1609 S 
  2 1601 1610 S 2 1602 1581 S 2 1602 1605 S 2 1602 1609 S 2 1602 1610 S 2 1603 1575 S 2 1603 
  1580 S 2 1603 1581 S 2 1603 1582 S 2 1603 1604 S 2 1603 1605 S 2 1603 1609 S 2 1603 1610 S 
  2 1604 1580 S 2 1604 1581 S 2 1604 1582 S 2 1604 1605 S 2 1604 1609 S 2 1604 1610 S 2 1605 
  1580 S 2 1605 1581 S 2 1605 1582 S 2 1605 1605 S 2 1605 1609 S 2 1605 1610 S 2 1606 1580 S 
  2 1606 1581 S 2 1606 1582 S 2 1606 1605 S 2 1606 1609 S 2 1606 1610 S 2 1607 1580 S 2 1607 
  1605 S 2 1607 1609 S 2 1607 1610 S 2 1610 1580 S 2 1610 1581 S 2 1610 1582 S 2 1610 1605 S 
  2 1610 1609 S 2 1610 1610 S 2 1584 1648 S 2 1585 1648 S 2 1609 1648 S 3 32 1612 1617 S 3 32 
  1613 1617 S 3 32 1614 1617 S 3 32 1615 1617 S 3 32 1616 1617 S 3 32 1617 1648 S 2 1574 1585 
  S 2 1574 1586 S 2 1574 1605 S 2 1574 1606 S 2 1574 1609 S 2 1574 1610 S 2 1576 1585 S 2 
  1576 1586 S 2 1576 1605 S 2 1576 1606 S 2 1576 1609 S 2 1576 1610 S 2 1578 1585 S 2 1578 
  1586 S 2 1578 1605 S 2 1578 1606 S 2 1578 1609 S 2 1578 1610 S 2 1579 1585 S 2 1579 1586 S 
  2 1579 1605 S 2 1579 1606 S 2 1579 1609 S 2 1579 1610 S 2 1601 1609 S 2 1601 1610 S 2 1602 
  1609 S 2 1602 1610 S 2 1603 1575 S 2 1603 1604 S 2 1603 1605 S 2 1603 1609 S 2 1603 1610 S 
  2 1604 1605 S 2 1604 1609 S 2 1604 1610 S 2 1605 1575 S 2 1605 1605 S 2 1606 1585 S 2 1606 
  1586 S 2 1606 1605 S 2 1606 1606 S 2 1606 1609 S 2 1606 1610 S 2 1609 1648 S 2 1610 1585 S 
  2 1610 1586 S 2 1610 1605 S 2 1610 1606 S 2 1610 1609 S 2 1610 1610 S 2 1574 1580 S 2 1574 
  1581 S 2 1574 1582 S 2 1574 1605 S 2 1574 1607 S 2 1576 1580 S 2 1576 1581 S 2 1576 1582 S 
  2 1576 1605 S 2 1576 1607 S 2 1578 1580 S 2 1578 1581 S 2 1578 1582 S 2 1578 1605 S 2 1578 
  1607 S 2 1579 1605 S 2 1580 1581 S 2 1580 1605 S 2 1581 1580 S 2 1581 1605 S 2 1582 1580 S 
  2 1582 1605 S 2 1587 1580 S 2 1587 1581 S 2 1587 1582 S 2 1587 1605 S 2 1589 1581 S 2 1589 
  1582 S 2 1589 1605 S 2 1590 1580 S 2 1590 1581 S 2 1590 1582 S 2 1590 1605 S 2 1591 1581 S 
  2 1592 1605 S 2 1593 1580 S 2 1593 1605 S 2 1594 1580 S 2 1594 1605 S 2 1601 1580 S 2 1601 
  1581 S 2 1601 1582 S 2 1601 1605 S 2 1602 1581 S 2 1602 1605 S 2 1603 1580 S 2 1603 1581 S 
  2 1603 1582 S 2 1603 1604 S 2 1603 1605 S 2 1604 1580 S 2 1604 1581 S 2 1604 1582 S 2 1604 
  1605 S 2 1604 1607 S 2 1605 1580 S 2 1605 1581 S 2 1605 1582 S 2 1605 1605 S 2 1606 1580 S 
  2 1606 1581 S 2 1606 1582 S 2 1606 1605 S 2 1606 1607 S 2 1607 1580 S 2 1607 1605 S 2 1607 
  1648 S 2 1610 1580 S 2 1610 1581 S 2 1610 1582 S 2 1610 1605 S 2 1610 1607 S 2 1574 1605 S 
  2 1574 1607 S 2 1576 1605 S 2 1576 1607 S 2 1578 1605 S 2 1578 1607 S 2 1579 1605 S 2 1579 
  1607 S 2 1587 1605 S 2 1587 1607 S 2 1588 1605 S 2 1588 1607 S 2 1603 1604 S 2 1603 1605 S 
  2 1604 1605 S 2 1606 1605 S 2 1606 1607 S 2 1610 1605 S 2 1610 1607 S 3 1600 1614 1617 S 3 
  1600 1615 1617 S 3 1600 1616 1617 S 2 1591 1609 S 2 1591 1610 S 2 1593 1609 S 2 1593 1610 S 
  2 1594 1609 S 2 1594 1610 S 2 1587 1609 S 2 1587 1610 S 2 1588 1609 S 2 1588 1610 S 2 1581 
  1609 S 2 1581 1610 S 2 1580 1609 S 2 1580 1610 S 2 1582 1609 S 2 1582 1610 S 2 1589 1609 S 
  2 1589 1610 S 2 1590 1609 S 2 1590 1610 S 2 1588 1580 S 2 1588 1581 S 2 1588 1582 S 2 1588 
  1605 S 2 1588 1585 S 2 1587 1585 S 2 1589 1585 S 2 1590 1585 S 2 1591 1609 S 2 1591 1610 S 
  2 1593 1609 S 2 1593 1610 S 2 1594 1609 S 2 1594 1610 S 2 1587 1609 S 2 1587 1610 S 2 1588 
  1609 S 2 1588 1610 S 2 1581 1609 S 2 1581 1610 S 2 1580 1609 S 2 1580 1610 S 2 1582 1609 S 
  2 1582 1610 S 2 1589 1609 S 2 1589 1610 S 2 1590 1609 S 2 1590 1610 S 2 1588 1580 S 2 1588 
  1581 S 2 1588 1582 S 2 1588 1605 S 2 1588 1585 S 2 1587 1585 S 2 1589 1585 S 2 1590 1585 S 
  2 1588 1580 S 2 1588 1581 S 2 1588 1582 S 2 1588 1605 S 2 1587 1607 S 2 1588 1607 S 2 1591 
  1605 S 2 1587 1580 S 2 1587 1581 S 2 1587 1582 S 2 1588 1580 S 2 1588 1581 S 2 1588 1582 S 
  2 1591 1605 S 2 1592 1605 S 2 1575 1611 S 2 1575 1611 V 18 S 3 1578 1580 1605 S 3 1578 1581 
  1580 S 3 1578 1581 1580 S 3 1578 1581 1605 S 3 1578 1582 1605 S 3 1578 1605 1580 S 3 1578 
  1605 1581 S 3 1578 1605 1582 S 3 1580 1605 1581 S 3 1580 1605 1581 S 3 1581 1605 1610 S 3 
  1581 1605 1609 S 3 1587 1581 1580 S 3 1587 1580 1581 S 3 1587 1580 1609 S 3 1587 1605 1581 
  S 3 1587 1605 1581 S 3 1587 1605 1580 S 3 1587 1605 1605 S 3 1587 1605 1605 S 3 1589 1581 
  1581 S 3 1589 1581 1581 S 3 1589 1605 1605 S 3 1588 1581 1605 S 3 1588 1581 1605 S 3 1588 
  1580 1610 S 3 1588 1605 1582 S 3 1588 1605 1582 S 3 1588 1605 1605 S 3 1588 1605 1605 S 3 
  1590 1581 1609 S 3 1590 1582 1605 S 3 1590 1582 1605 S 3 1591 1605 1581 S 3 1591 1605 1581 
  S 3 1591 1605 1605 S 3 1591 1605 1610 S 3 1593 1580 1605 S 3 1593 1605 1605 S 3 1593 1605 
  1605 S 3 1593 1605 1609 S 3 1594 1605 1605 S 3 1594 1605 1610 S 3 1594 1605 1609 S 3 1601 
  1582 1605 S 3 1601 1582 1605 S 3 1602 1605 1581 S 3 1602 1605 1605 S 3 1604 1581 1605 S 3 
  1604 1581 1610 S 3 1604 1581 1609 S 3 1604 1580 1580 S 3 1604 1580 1580 S 3 1604 1582 1605 
  S 3 1604 1582 1605 S 3 1604 1605 1581 S 3 1604 1605 1581 S 3 1605 1581 1580 S 3 1605 1581 
  1605 S 3 1605 1581 1610 S 3 1605 1580 1581 S 3 1605 1580 1605 S 3 1605 1582 1580 S 3 1605 
  1582 1605 V 2 S 3 1605 1580 1582 S 3 1607 1605 1580 S 3 1607 1605 1605 S 3 1606 1581 1605 S 
  3 1606 1581 1609 S 3 1606 1580 1605 S 3 1606 1580 1605 S 3 1606 1580 1609 S 3 1606 1605 
  1610 S 3 1606 1605 1609 S 3 1610 1605 1605 S 3 1610 1605 1605 S 3 1576 1582 1610 S 3 1578 
  1580 1610 S 3 1578 1580 1609 S 3 1578 1582 1610 S 3 1578 1582 1609 S 3 1578 1605 1610 S 3 
  1578 1605 1609 S 3 1580 1605 1610 S 3 1580 1581 1609 S 3 1580 1605 1609 S 3 1587 1582 1609 
  S 3 1589 1581 1610 S 3 1588 1581 1610 S 3 1590 1581 1610 S 3 1604 1580 1610 S 3 1604 1605 
  1610 S 3 1610 1581 1610 S 3 1610 1580 1610 S 3 1610 1605 1610 S 3 1605 1605 1610 S 3 1602 
  1605 1610 S 3 1606 1581 1610 S 3 1602 1605 1581 S 3 1604 1581 1605 S 3 1593 1605 1610 S 3 
  1603 1605 1610 S 3 1606 1580 1581 S 3 1605 1582 1610 S 3 1604 1580 1605 S 3 1603 1605 1605 
  S 3 1604 1580 1605 S 3 1606 1580 1581 S 3 1580 1581 1610 S 3 1581 1580 1610 S 3 1605 1580 
  1610 S 3 1601 1605 1610 S 3 1576 1581 1610 S 3 1603 1605 1605 S 3 1593 1580 1605 S 3 1589 
  1605 1605 S 3 1587 1582 1610 S 3 1606 1580 1610 V 8 X 32 S 3 1589 1604 1746 S 3 1602 1604 
  1746 S 4 1575 1604 1604 1607 S 4 1575 1603 1576 1585 S 4 1605 1581 1605 1583 S 4 1589 1604 
  1593 1605 S 4 1585 1587 1608 1604 S 4 1593 1604 1610 1607 S 4 1608 1587 1604 1605 S 3 1589 
  1604 1609 S 18 1589 1604 1609 32 1575 1604 1604 1607 32 1593 1604 1610 1607 32 1608 1587 
  1604 1605 S 8 1580 1604 32 1580 1604 1575 1604 1607 S 4 1585 1740 1575 1604 V 3 I 16 D 1 
  64996 D 1 52752 X 1 D 2 64985 D 1 65012 D 1 64983 D 2 52737 X 7 V 16 X 1 D 1 56861 D 1 
  56863 S 1 95 S 1 95 D 2 65037 D 1 64956 D 1 64955 D 2 52773 D 2 52779 D 2 52787 D 2 52791 D 
  4 52789 V 2 D 1 65004 D 1 65003 S 2 32 773 S 2 32 773 S 2 32 773 S 2 32 773 S 1 95 S 1 95 S 
  1 95 D 1 65060 D 1 52816 X 2 D 1 65049 D 1 65051 D 1 65047 D 1 65078 D 1 56900 D 2 65073 D 
  1 64992 D 1 64991 D 2 52809 D 1 65084 D 1 65082 D 2 65079 D 1 65078 D 1 65064 D 1 65063 D 1 
  65065 X 1 D 1 65036 D 2 65093 D 1 65067 X 4 S 2 32 1611 S 2 1600 1611 S 2 32 1612 V 1 S 2 
  32 1613 X 1 S 2 32 1614 S 2 1600 1614 S 2 32 1615 S 2 1600 1615 S 2 32 1616 S 2 1600 1616 S 
  2 32 1617 S 2 1600 1617 S 2 32 1618 S 2 1600 1618 D 1 63583 S 1 1570 S 1 1570 S 1 1571 S 1 
  1571 S 1 1572 S 1 1572 S 1 1573 S 1 1573 S 1 1574 S 1 1574 S 1 1574 S 1 1574 S 1 1575 S 1 
  1575 S 1 1576 S 1 1576 S 1 1576 S 1 1576 S 1 1577 S 1 1577 S 1 1578 S 1 1578 S 1 1578 S 1 
  1578 S 1 1579 S 1 1579 S 1 1579 S 1 1579 S 1 1580 S 1 1580 S 1 1580 S 1 1580 S 1 1581 S 1 
  1581 S 1 1581 S 1 1581 S 1 1582 S 1 1582 S 1 1582 S 1 1582 S 1 1583 S 1 1583 S 1 1584 S 1 
  1584 S 1 1585 S 1 1585 S 1 1586 S 1 1586 S 1 1587 S 1 1587 S 1 1587 S 1 1587 S 1 1588 S 1 
  1588 S 1 1588 S 1 1588 S 1 1589 S 1 1589 S 1 1589 S 1 1589 S 1 1590 S 1 1590 S 1 1590 S 1 
  1590 S 1 1591 S 1 1591 S 1 1591 S 1 1591 S 1 1592 S 1 1592 S 1 1592 S 1 1592 S 1 1593 S 1 
  1593 S 1 1593 S 1 1593 S 1 1594 S 1 1594 S 1 1594 S 1 1594 S 1 1601 S 1 1601 S 1 1601 S 1 
  1601 S 1 1602 S 1 1602 S 1 1602 S 1 1602 S 1 1603 S 1 1603 S 1 1603 S 1 1603 S 1 1604 S 1 
  1604 S 1 1604 S 1 1604 S 1 1605 S 1 1605 S 1 1605 S 1 1605 S 1 1606 S 1 1606 S 1 1606 S 1 
  1606 S 1 1607 S 1 1607 S 1 1607 S 1 1607 S 1 1608 S 1 1608 S 1 1609 S 1 1609 S 1 1610 S 1 
  1610 S 1 1610 S 1 1610 S 2 1604 1570 S 2 1604 1570 S 2 1604 1571 S 2 1604 1571 S 2 1604 
  1573 S 2 1604 1573 S 2 1604 1575 S 2 1604 1575 X 2 I 1 X 1 D 32 65248 D 26 65216 D 36 65248 
  D 2 54746 D 1 65331 D 2 53078 D 1 53091 D 1 52842 D 1 52852 D 1 52934 D 1 52933 D 1 52932 D 
  1 52931 D 1 52930 D 1 52873 D 1 52872 D 1 52871 D 1 52908 D 1 52852 D 1 52943 D 1 52942 D 1 
  52941 D 1 52940 D 2 52939 D 1 52938 D 1 52937 D 1 52936 D 1 52935 D 1 52934 D 1 52933 D 1 
  52932 D 1 52931 D 1 52930 D 1 52929 D 1 52928 D 1 52926 D 1 52925 D 1 52924 D 6 52923 D 1 
  52921 D 1 52919 D 1 52917 D 1 52915 D 5 52913 D 1 52912 D 1 52911 D 6 52910 D 1 52909 D 1 
  52906 D 2 52997 I 1 D 2 61089 D 1 60921 D 1 61090 D 2 60921 D 3 61092 D 6 60922 D 1 61078 D 
  3 61099 D 1 61075 D 10 61100 X 3 D 6 61025 X 2 D 6 61027 X 2 D 6 61029 X 2 D 3 61031 X 3 D 
  2 65342 D 1 65334 S 2 32 772 D 1 65342 D 1 65344 D 1 57149 X 1 D 1 56038 D 4 56921 D 1 
  55885 D 1 55843 X 17 V 12 X 1 V 26 X 1 V 19 X 1 V 2 X 1 V 15 X 2 V 14 X 34 V 123 X 5 V 3 X 
  4 V 45 X 3 V 88 X 1 V 13 X 3 V 1 X 47 V 46 X 130 V 29 X 3 V 49 X 15 V 28 X 4 V 36 X 9 V 30 
  X 5 V 43 X 5 V 30 X 1 V 37 X 4 V 14 X 42 U 40 40 V 118 X 2 V 10 X 6 U 36 40 X 4 V 36 X 4 V 
  40 X 8 V 52 X 11 V 1 U 11 39 X 1 U 15 39 X 1 U 7 39 X 1 U 2 39 X 1 V 11 X 1 V 15 X 1 V 7 X 
  1 V 2 X 3 V 52 X 12 V 311 X 9 V 22 X 10 V 8 X 24 V 1 D 2 66737 D 1 67229 D 1 66795 D 1 
  66866 X 1 D 1 66788 D 1 23586 D 1 66788 D 1 66790 D 2 66869 D 1 59900 D 1 66870 D 1 66865 D 
  1 66791 D 1 66861 D 1 66864 D 1 66867 D 1 66809 D 1 67182 D 1 66810 D 1 66864 D 1 66836 D 2 
  66799 D 1 66863 U 1 55144 D 1 24591 D 1 66864 U 1 55142 D 1 66834 U 1 55141 D 1 67242 D 2 
  66861 D 1 67380 D 1 66860 U 1 55137 D 2 66859 D 1 66858 D 1 66819 D 1 66822 D 1 23622 D 1 
  66823 D 1 66855 D 1 56127 X 1 D 1 66851 D 2 66834 D 1 66845 D 3 67062 U 1 55121 U 1 55140 X 
  69 V 6 X 2 V 1 X 1 V 44 X 1 V 2 X 3 V 1 X 2 V 23 X 1 V 72 X 8 V 9 X 48 V 19 X 1 V 2 X 5 V 
  33 X 3 V 27 X 5 V 27 X 38 V 56 X 4 V 20 X 2 V 50 X 1 V 2 X 5 V 8 X 1 V 3 X 1 V 29 X 2 V 3 X 
  4 V 10 X 7 V 9 X 7 V 64 X 32 V 39 X 4 V 12 X 9 V 54 X 3 V 29 X 2 V 27 X 5 V 26 X 7 V 4 X 12 
  V 7 X 80 V 73 X 55 U 51 64 X 13 V 51 X 7 V 46 X 8 V 10 X 6 V 16 U 22 32 X 3 V 29 X 8 V 2 X 
  208 V 31 X 1 V 42 X 1 V 3 X 2 V 2 X 16 V 6 X 8 V 9 X 33 V 46 X 8 V 42 X 22 V 26 X 38 V 28 X 
  20 V 23 X 9 V 78 X 4 V 36 X 9 V 62 X 1 V 5 X 13 V 25 X 7 V 10 X 6 V 53 X 1 V 18 X 8 V 39 X 
  9 V 96 X 1 V 20 X 11 V 18 X 1 V 47 X 62 V 7 X 1 V 1 X 1 V 4 X 1 V 15 X 1 V 11 X 6 V 59 X 5 
  V 10 X 6 V 4 X 1 V 8 X 2 V 2 X 2 V 22 X 1 V 7 X 1 V 2 X 1 V 5 X 1 V 10 X 2 V 2 X 2 V 3 X 2 
  V 1 X 6 V 1 X 5 V 7 X 2 V 7 X 3 V 5 X 11 V 10 X 1 V 1 X 2 V 1 X 1 V 38 X 1 V 10 X 1 V 1 X 2 
  V 1 X 1 V 4 X 1 V 10 X 1 V 2 X 8 V 2 X 29 V 92 X 1 V 5 X 30 V 72 X 8 V 10 X 166 V 54 X 2 V 
  38 X 34 V 69 X 11 V 10 X 6 V 13 X 19 V 58 X 6 V 10 X 6 V 20 X 28 V 27 X 2 V 15 X 4 V 23 X 
  185 V 60 X 100 U 32 32 V 51 X 12 V 8 X 2 V 1 X 2 V 8 X 1 V 2 X 1 V 30 X 1 V 2 X 2 V 12 X 9 
  V 10 X 70 V 8 X 2 V 46 X 2 V 11 X 27 V 72 X 8 V 83 X 13 V 73 X 7 V 10 X 86 V 8 X 88 V 34 X 
  14 V 10 X 6 V 9 X 1 V 45 X 1 V 14 X 10 V 29 X 3 V 32 X 2 V 22 X 1 V 14 X 73 V 7 X 1 V 2 X 1 
  V 44 X 3 V 1 X 1 V 2 X 1 V 9 X 8 V 10 X 6 V 6 X 1 V 2 X 1 V 37 X 1 V 2 X 1 V 6 X 7 V 10 X 6 
  V 44 X 4 V 10 X 246 V 25 X 7 V 17 X 1 V 41 X 3 V 29 X 85 V 1 X 15 V 50 X 13 V 923 X 102 V 
  111 X 1 V 5 X 11 V 196 X 2636 V 99 X 13 V 1072 X 16 V 22 X 10 V 3995 X 5 V 583 X 6841 V 58 
  X 1734 V 569 X 7 V 31 X 1 V 10 X 4 V 81 X 1 V 10 X 6 V 30 X 2 V 6 X 10 V 70 X 10 V 10 X 1 V 
  7 X 1 V 21 X 5 V 19 X 432 V 58 X 198 U 32 32 V 59 X 5 U 25 27 X 2 V 25 X 44 V 75 X 4 V 57 X 
  7 V 17 X 64 V 5 X 11 V 7 X 9 V 7382 X 41 V 32 X 97 V 115 X 8701 V 4 X 1 V 7 X 1 V 2 X 1 V 
  291 X 15 V 1 X 29 V 3 X 2 V 1 X 14 V 4 X 8 V 396 X 2308 V 107 X 5 V 13 X 3 V 9 X 7 V 10 X 2 
  V 4 I 4 X 3932 V 214 D 26 117877 D 10 117952 V 3 X 3 V 436 X 6 V 23 X 15 V 17 X 15 V 46 X 2 
  V 23 X 9 V 116 X 60 V 246 X 10 V 39 X 2 V 53 S 2 119127 119141 S 2 119128 119141 S 3 119128 
  119141 119150 S 3 119128 119141 119151 S 3 119128 119141 119152 S 3 119128 119141 119153 S 
  3 119128 119141 119154 V 14 I 8 V 64 S 2 119225 119141 S 2 119226 119141 S 3 119225 119141 
  119150 S 3 119226 119141 119150 S 3 119225 119141 119151 S 3 119226 119141 119151 V 42 X 21 
  V 70 X 122 V 20 X 12 V 20 X 12 V 87 X 9 V 25 X 135 D 26 119711 D 26 119737 D 26 119763 D 7 
  119789 X 1 D 18 119789 D 26 119815 D 26 119841 D 1 119867 X 1 D 2 119867 X 2 D 1 119867 X 2 
  D 2 119867 X 2 D 4 119867 X 1 D 8 119867 D 4 119893 X 1 D 1 119893 X 1 D 7 119893 X 1 D 11 
  119893 D 26 119919 D 26 119945 D 2 119971 X 1 D 4 119971 X 2 D 8 119971 X 1 D 7 119971 X 1 
  D 26 119997 D 2 120023 X 1 D 4 120023 X 1 D 5 120023 X 1 D 1 120023 X 3 D 7 120023 X 1 D 26 
  120049 D 26 120075 D 26 120101 D 26 120127 D 26 120153 D 26 120179 D 26 120205 D 26 120231 
  D 26 120257 D 26 120283 D 26 120309 D 26 120335 D 26 120361 D 1 120179 D 1 119918 X 2 D 17 
  119543 D 1 119553 D 7 119543 D 1 111802 D 17 119569 S 1 963 S 1 963 D 6 119569 D 1 111833 D 
  1 119591 D 1 119589 D 1 119588 D 1 119577 D 1 119583 D 1 119585 D 17 119601 D 1 119611 D 7 
  119601 D 1 111860 D 17 119627 S 1 963 S 1 963 D 6 119627 D 1 111891 D 1 119649 D 1 119647 D 
  1 119646 D 1 119635 D 1 119641 D 1 119643 D 17 119659 D 1 119669 D 7 119659 D 1 111918 D 17 
  119685 S 1 963 S 1 963 D 6 119685 D 1 111949 D 1 119707 D 1 119705 D 1 119704 D 1 119693 D 
  1 119699 D 1 119701 D 17 119717 D 1 119727 D 7 119717 D 1 111976 D 17 119743 S 1 963 S 1 
  963 D 6 119743 D 1 112007 D 1 119765 D 1 119763 D 1 119762 D 1 119751 D 1 119757 D 1 119759 
  D 17 119775 D 1 119785 D 7 119775 D 1 112034 D 17 119801 S 1 963 S 1 963 D 6 119801 D 1 
  112065 D 1 119823 D 1 119821 D 1 119820 D 1 119809 D 1 119815 D 1 119817 S 1 989 S 1 989 X 
  2 D 10 120734 D 10 120744 D 10 120754 D 10 120764 D 10 120774 V 652 X 15 V 5 X 1 V 15 X 
  1104 V 31 X 6 V 6 X 213 V 7 X 1 V 17 X 2 V 7 X 1 V 2 X 1 V 5 X 5 D 9 121856 D 3 121855 D 11 
  121854 D 1 121852 D 2 121851 D 1 80321 D 1 121714 D 1 121846 D 1 121845 D 1 121701 D 1 
  121760 D 1 121729 D 9 121889 D 2 121888 D 2 121886 D 1 121885 D 6 121884 D 2 121883 D 1 
  121814 D 1 121874 D 1 121876 D 1 121867 D 1 121792 D 1 80411 D 1 121788 X 33 V 1 X 112 V 45 
  X 3 V 14 X 2 V 10 X 4 V 2 X 320 V 31 X 17 V 58 X 5 V 1 X 464 V 42 X 214 V 43 X 4 V 1 X 192 
  V 31 X 1 V 22 X 8 V 2 X 224 V 7 X 1 V 4 X 1 V 2 X 1 V 15 X 1 V 197 X 2 V 16 X 41 U 34 34 V 
  42 X 4 V 10 X 4 V 2 X 785 V 68 X 76 V 61 X 194 D 2 124889 D 1 124886 D 1 124884 X 1 D 1 
  124861 D 1 124884 D 1 124890 D 1 124881 D 1 124863 D 4 124871 D 1 124891 D 1 124886 D 1 
  124879 D 1 124892 D 1 124880 D 1 124898 D 1 124896 D 2 124907 D 1 124905 D 1 124904 D 1 
  124899 D 1 124898 D 1 124897 D 1 124846 D 1 124771 D 1 124797 D 1 124848 X 1 D 1 124921 D 1 
  124918 X 1 D 1 124893 X 2 D 1 124922 X 1 D 1 124895 D 4 124903 D 1 124923 D 1 124918 D 1 
  124911 D 1 124924 D 1 124912 X 1 D 1 124928 D 2 124939 D 1 124937 X 1 D 1 124931 X 1 D 1 
  124929 X 6 D 1 124950 X 4 D 1 124954 X 1 D 1 124927 X 1 D 1 124935 X 1 D 1 124935 D 1 
  124955 D 1 124950 X 1 D 1 124956 D 1 124944 X 1 D 1 124960 X 2 D 1 124969 X 1 D 1 124963 X 
  1 D 1 124961 X 1 D 1 124835 X 1 D 1 124912 X 1 D 1 124985 D 1 124982 X 1 D 1 124957 X 2 D 1 
  124986 D 1 124977 D 1 124959 D 1 124967 X 1 D 2 124967 D 1 124987 D 1 124982 D 1 124975 D 1 
  124988 D 1 124976 X 1 D 1 124992 D 2 125003 D 1 125001 X 1 D 1 124995 D 1 124994 D 1 124993 
  D 1 124942 X 1 D 1 124893 X 1 D 2 125017 D 1 125014 D 1 125012 D 2 124989 D 1 125012 D 1 
  125018 D 1 125009 D 1 124991 X 1 D 3 124999 D 1 125019 D 1 125014 D 1 125007 D 1 125020 D 1 
  125008 D 1 125026 D 1 125024 D 2 125035 D 1 125033 D 1 125032 D 1 125027 D 1 125026 D 1 
  125025 X 5 D 1 125049 D 1 125046 D 1 125044 X 1 D 1 125021 D 1 125044 D 1 125050 D 1 125041 
  D 1 125023 X 1 D 3 125031 D 1 125051 D 1 125046 D 1 125039 D 1 125052 D 1 125040 D 1 125058 
  D 1 125056 D 2 125067 D 1 125065 D 1 125064 D 1 125059 D 1 125058 D 1 125057 X 52 V 2 X 270 
  V 44 X 4 V 100 X 12 V 15 X 2 V 15 X 1 V 15 X 1 V 37 X 11 S 2 48 44 S 2 49 44 S 2 50 44 S 2 
  51 44 S 2 52 44 S 2 53 44 S 2 54 44 S 2 55 44 S 2 56 44 S 2 57 44 V 5 S 3 40 97 41 S 3 40 
  98 41 S 3 40 99 41 S 3 40 100 41 S 3 40 101 41 S 3 40 102 41 S 3 40 103 41 S 3 40 104 41 S 
  3 40 105 41 S 3 40 106 41 S 3 40 107 41 S 3 40 108 41 S 3 40 109 41 S 3 40 110 41 S 3 40 
  111 41 S 3 40 112 41 S 3 40 113 41 S 3 40 114 41 S 3 40 115 41 S 3 40 116 41 S 3 40 117 41 
  S 3 40 118 41 S 3 40 119 41 S 3 40 120 41 S 3 40 121 41 S 3 40 122 41 S 3 12308 115 12309 D 
  1 127176 D 1 127162 S 2 99 100 S 2 119 122 V 1 D 26 127183 S 2 104 118 S 2 109 118 S 2 115 
  100 S 2 115 115 S 3 112 112 118 S 2 119 99 V 26 S 2 109 99 S 2 109 100 S 2 109 114 V 35 S 2 
  100 106 V 29 X 56 V 26 S 2 12411 12363 S 2 12467 12467 D 1 115021 X 13 D 1 102341 D 1 
  104122 D 1 106054 D 1 115020 D 1 107400 D 1 104699 D 1 92211 D 1 104686 D 1 107380 D 1 
  101369 D 1 98553 D 1 101506 D 1 106447 D 1 103057 D 1 106641 D 1 101487 D 1 106499 D 1 
  95455 D 1 97539 D 1 91514 D 1 104756 D 1 105964 D 1 99090 D 1 102290 D 1 102099 D 1 107561 
  D 1 107553 D 1 90593 D 1 103494 D 1 107520 D 1 106043 D 1 102184 D 1 91328 D 1 102366 D 1 
  96433 D 1 96185 D 1 106028 D 1 99253 D 1 101165 D 1 101167 D 1 97541 D 1 106439 D 1 105604 
  D 1 90350 X 4 S 3 12308 26412 12309 S 3 12308 19977 12309 S 3 12308 20108 12309 S 3 12308 
  23433 12309 S 3 12308 28857 12309 S 3 12308 25171 12309 S 3 12308 30423 12309 S 3 12308 
  21213 12309 S 3 12308 25943 12309 X 7 D 1 103097 D 1 106082 X 14 V 6 X 154 V 985 X 3 V 17 X 
  3 V 13 X 3 V 218 X 6 V 12 X 4 V 1 X 15 V 12 X 4 V 56 X 8 V 10 X 6 V 40 X 8 V 30 X 2 V 12 X 
  4 V 2 X 14 V 9 X 39 V 344 X 8 V 14 X 2 V 13 X 3 V 11 X 3 V 57 X 1 V 1 X 4 V 16 X 2 V 12 X 4 
  V 10 X 7 V 147 X 1 V 92 D 10 129984 V 1 X 1029 V 42720 X 32 V 4382 X 2 V 5774 X 2 V 7473 X 
  15 V 622 X 2466 D 1 174531 D 1 174537 D 1 174529 D 1 63201 D 1 174244 D 1 174167 D 1 174155 
  D 1 174085 D 1 173966 D 1 173936 D 1 173859 D 1 173884 D 1 181102 D 1 61907 D 1 173761 D 1 
  173755 D 1 173740 D 1 173722 D 1 62198 D 1 181082 D 1 173741 D 1 173704 D 1 62155 D 1 
  173696 D 1 173684 D 1 174413 D 1 173678 D 1 173670 D 1 26173 D 1 173608 D 1 173595 D 1 
  181056 D 1 173541 D 1 173531 D 1 173488 D 1 173484 D 1 181007 D 1 173406 D 1 173405 D 1 
  173379 D 1 173358 D 2 173348 D 1 173332 D 1 173283 D 1 173276 D 1 173268 D 1 173244 D 1 
  173235 S 1 21375 S 1 21375 S 1 21375 D 1 60936 D 1 165829 D 1 173164 D 1 173144 D 1 60629 D 
  1 173134 D 1 173129 D 1 173109 D 1 172958 D 1 173061 D 1 173046 D 1 173015 D 1 172958 D 1 
  172875 D 1 172850 D 1 172784 D 1 172769 S 1 21892 S 1 21892 D 1 172718 D 1 172701 D 1 
  172694 D 1 172680 D 1 172341 D 1 172614 D 1 172342 D 1 172541 D 1 172507 D 1 173641 D 1 
  171875 D 1 172164 D 1 172127 D 1 172103 D 1 172234 D 1 172068 D 1 172070 D 1 171948 D 1 
  58229 D 1 171880 D 1 171876 D 1 171862 D 1 171843 D 1 171836 D 1 171773 D 1 57784 D 1 57719 
  D 1 171638 D 1 171592 D 1 171581 D 1 171661 D 1 171520 D 1 180601 D 1 180588 D 1 171361 S 1 
  23358 S 1 23358 D 1 56996 D 1 171178 D 1 171158 D 1 171144 D 1 171133 D 1 56665 D 1 171123 
  D 1 171117 D 1 170273 D 1 171091 D 1 180469 D 1 171031 D 1 171018 D 1 170937 D 1 170989 D 1 
  55959 D 1 170809 D 1 55959 D 1 170768 D 1 170772 D 1 170756 D 2 170656 D 1 180308 D 1 
  170631 D 1 170589 D 1 170569 D 1 170526 D 1 180262 D 1 55046 D 1 180238 D 1 170459 D 1 
  170457 D 1 170455 D 1 170436 D 1 21757 D 1 170386 S 1 140081 S 1 140081 D 1 161426 S 1 
  24354 S 1 24354 D 1 180175 D 1 50655 D 1 38590 D 1 170295 D 1 170287 D 1 180152 D 1 170242 
  D 1 170192 D 1 170183 D 1 170150 D 1 170015 D 1 180071 D 1 180102 D 1 169999 D 1 53712 D 1 
  169950 D 1 169822 D 1 169819 D 1 169818 D 1 169821 D 1 169776 D 1 169757 D 1 169722 D 1 
  169737 D 1 169727 D 1 169681 D 1 169662 D 1 169659 D 1 169634 D 1 169624 D 1 169559 D 1 
  169476 D 1 169442 D 1 169319 D 1 52652 D 1 169340 D 1 169406 D 1 169299 D 1 169273 D 1 
  169177 D 1 52429 D 1 169117 D 1 169211 D 1 169240 D 1 179860 D 1 169050 D 1 169030 D 1 
  169000 D 1 169039 D 1 179803 D 1 168825 D 1 168797 D 1 51392 D 1 168680 D 1 168404 D 1 
  168580 D 1 179637 D 1 168510 D 1 179656 D 1 179693 D 1 173888 D 1 173886 D 1 168404 D 1 
  168505 D 1 161833 D 1 177406 D 1 168385 D 1 168382 D 1 168377 D 1 168317 D 1 168329 D 1 
  50458 D 1 179605 D 1 168165 D 1 168283 D 1 168079 D 1 168029 D 1 50294 D 1 168022 D 1 
  168134 D 1 167890 D 1 179530 D 1 167846 D 1 167750 D 1 167680 D 1 167491 D 1 49737 D 1 
  167442 D 1 179414 D 1 167374 D 1 49225 D 1 167325 D 1 179364 D 1 167297 D 1 167253 D 2 
  167227 D 1 48746 D 1 56301 D 1 48639 D 1 167084 D 1 48191 D 1 166973 D 1 166960 D 1 167063 
  D 1 166889 D 1 166850 D 1 166794 D 1 166849 D 1 166810 D 1 166796 D 1 166784 D 1 48104 D 1 
  166867 D 1 166617 D 1 166555 D 1 179159 D 1 166464 D 1 166469 D 1 47676 D 1 166677 D 1 
  166305 D 1 47538 D 1 47491 D 1 166220 D 1 166106 D 1 166134 D 1 166138 D 1 179072 D 1 
  166093 D 1 166043 D 1 166050 D 1 165997 D 1 62454 D 1 165847 D 1 46778 D 1 165762 D 1 46452 
  D 1 165624 D 1 165612 D 1 165586 D 1 45851 D 1 165540 D 1 165520 D 1 45553 D 1 45331 D 1 
  165294 D 1 165278 D 1 178814 D 1 165254 S 1 16056 S 1 16056 D 1 165095 D 1 165075 D 1 
  165055 D 1 165036 D 1 164968 D 1 178712 D 1 164880 D 1 44287 D 1 164856 D 1 44197 D 1 
  164808 D 1 55194 D 1 164650 D 1 43418 D 1 43396 D 1 43257 D 1 178498 D 1 178487 D 1 164428 
  D 1 43086 D 1 43088 D 1 43050 D 1 43025 D 1 164391 S 1 30495 S 1 30495 D 1 164350 D 1 
  178448 D 1 164287 D 1 178437 D 1 178358 D 1 42288 D 1 164096 D 1 164035 D 1 163972 D 1 
  178286 D 1 41772 D 1 163837 D 1 41658 D 1 41616 D 1 163783 D 1 163692 D 1 178217 D 1 163609 
  D 1 163600 D 1 163596 D 1 40928 S 1 154279 S 1 154279 D 1 163441 D 1 178014 D 1 40374 D 1 
  163228 D 1 163226 D 1 177981 D 1 40165 D 1 162964 D 1 177863 D 1 162944 D 1 162950 D 1 
  162922 D 1 39397 D 1 162825 D 1 177772 D 1 162727 D 1 162669 D 1 162603 D 1 177725 D 1 
  38730 D 1 38700 D 1 177691 D 1 38556 D 1 162300 D 1 38457 D 1 162275 D 1 162175 D 1 162165 
  D 1 38049 D 1 37977 D 1 162077 D 1 37846 D 1 162063 D 1 50721 D 1 177580 D 1 162000 D 1 
  161920 D 1 177529 D 1 161863 D 1 171729 D 1 37344 D 1 37331 D 1 50678 D 1 50670 D 1 161674 
  D 1 161672 D 1 158191 D 1 177443 D 1 161534 D 1 161541 D 1 161524 D 1 173791 D 1 161506 D 1 
  161505 D 1 161496 D 1 161456 D 1 36443 D 1 161459 D 1 161404 D 1 161335 D 1 161262 D 1 
  161401 D 1 161248 D 1 161207 D 1 161096 D 1 161357 D 1 161239 D 1 161238 D 1 161223 D 1 
  36206 D 1 35898 D 1 36049 D 1 177276 D 1 160951 D 1 160950 D 1 160916 D 1 34273 D 1 160840 
  D 1 35457 D 1 177233 D 1 177230 D 1 35327 D 1 35039 D 1 177223 D 1 160611 D 1 160600 D 1 
  160590 D 1 160589 D 1 160526 D 1 160560 D 1 160427 D 1 160472 D 1 160322 D 1 160404 D 1 
  160338 D 1 160312 D 1 177128 D 1 160223 D 1 160192 D 1 177097 D 1 160099 D 1 160097 D 1 
  33630 D 1 159983 D 1 159977 D 1 177043 D 1 159951 D 1 181519 D 1 33053 D 1 32870 D 1 176911 
  D 1 176903 D 1 159535 D 1 159459 D 1 159303 D 1 159101 D 1 32043 D 1 159017 D 1 158996 D 1 
  158907 D 1 158816 D 1 31401 D 1 61909 D 1 158735 D 1 158751 D 1 158700 D 1 61695 D 1 158474 
  D 1 158375 D 1 29710 D 1 29684 D 1 158030 D 1 157938 D 1 157907 D 1 29367 D 1 157899 D 1 
  157615 D 2 157457 D 1 157550 D 1 157170 D 1 157143 D 1 28147 D 1 156771 D 1 176218 D 1 
  156729 D 1 27770 D 1 176140 D 1 156464 D 1 171074 D 1 156370 D 1 26801 D 1 26589 D 1 176010 
  D 1 176003 D 1 156186 D 1 26097 D 1 175946 D 1 25959 S 1 38923 S 1 38923 D 1 156119 D 1 
  25675 D 1 155936 D 1 175824 D 1 155867 D 1 155742 D 1 155716 D 1 155657 D 1 175674 D 1 
  24281 D 1 155384 D 1 155083 D 1 154895 D 1 175423 D 1 175393 D 1 154792 D 1 22850 D 1 
  175385 D 1 22797 D 1 22533 D 1 22403 D 1 154458 D 1 175296 D 1 154398 D 1 154394 D 1 154388 
  D 1 154379 D 1 154373 D 1 154337 D 1 21533 X 1506 V 4939 X 5 V 8490 X 707718 I 240 X 196112"

/-- The runs with their first code points; the first argument bounds the steps. -/
def domainRunsFrom : Nat → Nat → List String → List (Nat × DomainStatus)
  | 0, _, _ => []
  | steps + 1, start, letter :: n :: rest =>
    let length := natOfText n
    let plain (s : DomainStatus) : List (Nat × DomainStatus) :=
      (start, s) :: domainRunsFrom steps (start + length) rest
    let moved (s : Nat → DomainStatus) : List (Nat × DomainStatus) :=
      match rest with
      | d :: rest => (start, s (natOfText d)) :: domainRunsFrom steps (start + length) rest
      | [] => []
    match letter with
    | "V" => plain .kept
    | "X" => plain .refused
    | "I" => plain .dropped
    | "A" => (start, .alternating) :: domainRunsFrom steps (start + 2 * length) rest
    | "U" => moved .raised
    | "D" => moved .lowered
    | _ =>
      (start, .replaced ((rest.take length).map natOfText))
        :: domainRunsFrom steps (start + 1) (rest.drop length)
  | _, _, _ => []

def domainRuns : Array (Nat × DomainStatus) :=
  let tokens := words domainText
  (domainRunsFrom tokens.length 0 tokens).toArray

/-- What becomes of a code point: nothing if it is refused. -/
def domainForm? (n : Nat) : Option (List Nat) :=
  match lastStart (·.1) domainRuns n with
  | some (first, status) =>
    match status with
    | .kept => some [n]
    | .refused => none
    | .dropped => some []
    | .raised d => some [n + d]
    | .lowered d => some [n - d]
    | .alternating => some [if (n - first) % 2 = 0 then n + 1 else n]
    | .replaced form => some form
  | none => none

end ApiPlaybook.Unicode
