/-
  ApiPlaybook.Unicode.Normal
  ──────────────────────────
  **CANONICAL COMPOSITION.**

  The normal form C of a text: characters are decomposed, marks are put in the
  order of their combining classes, and what can be composed is composed.
-/
import ApiPlaybook.Unicode.Table
import ApiPlaybook.Unicode.Folding

namespace ApiPlaybook.Unicode

/-! ## §1. Tables. -/

/-- Runs of equal combining class: the gap before the run, its length and the
class. -/
def combiningText : String :=
  "768 21 230 0 1 232 0 4 220 0 1 232 0 1 216 0 5 220 0 2 202 0 4 220 0 2 202 0 11 220 0 5 1 0 
  4 220 0 3 230 2 1 230 2 1 240 0 1 230 0 3 220 0 3 230 0 2 220 1 3 230 0 4 220 0 1 230 0 1 
  232 0 2 220 0 1 230 0 1 233 0 2 234 0 1 233 0 2 234 0 1 233 0 13 230 275 5 230 265 1 220 0 
  4 230 0 1 220 0 3 230 0 1 222 0 1 220 0 6 230 0 6 220 0 2 230 0 1 220 0 2 230 0 1 222 0 1 
  228 0 1 230 0 1 10 0 1 11 0 1 12 0 1 13 0 1 14 0 1 15 0 1 16 0 1 17 0 1 18 0 2 19 0 1 20 0 
  1 21 0 1 22 1 1 23 1 1 24 0 1 25 1 1 230 0 1 220 1 1 18 72 8 230 0 1 30 0 1 31 0 1 32 48 1 
  27 0 1 28 0 1 29 0 1 30 0 1 31 0 1 32 0 1 33 0 1 34 0 2 230 0 2 220 0 5 230 0 1 220 0 2 230 
  0 1 220 16 1 35 101 7 230 2 4 230 0 1 220 0 1 230 2 2 230 1 1 220 0 2 230 0 1 220 35 1 36 
  30 1 230 0 1 220 0 2 230 0 1 220 0 2 230 0 3 220 0 1 230 0 2 220 0 1 230 0 1 220 0 3 230 0 
  1 220 0 1 230 0 1 220 0 1 230 0 1 220 0 1 230 0 1 220 0 2 230 160 7 230 0 1 220 0 1 230 9 1 
  220 24 4 230 1 9 230 1 3 230 1 5 230 43 3 220 59 2 230 0 3 220 0 4 230 42 5 230 0 5 220 0 
  14 230 1 1 220 0 2 230 0 1 220 0 2 230 0 1 220 0 3 230 0 3 220 0 1 27 0 1 28 0 1 29 0 3 230 
  0 1 220 0 2 230 0 2 220 0 5 230 60 1 7 16 1 9 3 1 230 0 1 220 0 2 230 103 1 7 16 1 9 48 1 
  230 61 1 7 16 1 9 110 1 7 16 1 9 110 1 7 16 1 9 127 1 9 110 1 7 16 1 9 7 1 84 0 1 91 101 1 
  7 16 1 9 109 2 9 16 1 9 124 1 9 109 2 103 0 1 9 13 4 107 108 2 118 0 1 9 13 4 122 76 2 220 
  27 1 220 1 1 220 1 1 216 55 1 129 0 1 130 1 1 132 5 4 130 2 1 130 1 2 230 0 1 9 1 2 230 62 
  1 220 112 1 7 1 2 9 82 1 220 719 3 230 948 2 9 30 1 9 157 1 9 10 1 230 203 1 228 143 1 222 
  0 1 230 0 1 220 219 1 230 0 1 220 71 1 9 20 8 230 2 1 220 48 5 230 0 6 220 0 2 230 0 1 220 
  1 2 220 0 2 230 0 2 220 0 5 230 0 1 220 0 4 230 101 1 7 15 1 9 38 1 230 0 1 220 0 7 230 54 
  2 9 58 1 7 11 2 9 67 1 7 152 3 230 1 1 1 0 5 220 0 2 230 0 4 220 0 1 230 1 7 1 4 1 220 6 1 
  230 3 2 230 198 2 230 0 1 220 0 7 230 0 1 220 0 2 230 0 1 234 0 1 214 0 1 220 0 1 202 0 37 
  230 0 1 232 0 2 228 0 1 220 0 1 218 0 1 230 0 1 233 0 1 220 0 1 230 0 1 220 720 2 230 0 2 1 
  0 4 230 0 3 1 0 2 230 4 1 230 3 2 1 0 1 230 0 1 220 0 1 230 0 2 1 0 4 220 0 1 230 3070 3 
  230 141 1 9 96 32 230 554 1 218 0 1 228 0 1 232 0 1 222 0 2 224 105 2 8 30164 1 230 4 10 
  230 32 2 230 80 2 230 276 1 9 37 1 9 151 1 9 27 18 230 57 3 220 37 1 9 95 1 7 12 1 9 239 1 
  230 1 2 230 0 1 220 2 2 230 5 2 230 1 1 230 52 1 9 246 1 9 20272 1 26 769 7 230 0 7 220 0 2 
  230 973 1 220 226 1 220 149 5 230 1682 1 220 1 1 230 40 1 230 0 1 1 0 1 220 4 1 9 165 1 230 
  0 1 220 573 4 230 65 5 230 317 2 230 80 3 220 70 2 220 0 3 230 0 1 220 0 1 230 0 4 220 49 1 
  230 0 1 220 0 1 230 0 1 220 192 1 9 41 1 9 14 1 9 57 1 9 0 1 7 69 3 230 48 2 9 62 1 7 76 1 
  9 9 1 7 106 1 9 0 1 7 178 1 7 0 1 9 80 2 7 16 1 9 24 7 230 3 5 230 89 3 9 113 1 9 3 1 7 23 
  1 230 99 1 9 0 1 7 251 1 9 0 1 7 126 1 9 118 1 9 0 1 7 115 1 9 269 1 9 0 1 7 258 2 9 4 1 7 
  156 1 9 83 1 9 18 1 9 81 1 9 421 1 9 258 1 7 1 2 9 81 1 9 425 2 9 16876 1 9 2496 5 1 59 7 
  230 1209 2 6 19628 1 1 5318 2 216 0 3 1 3 1 226 0 5 216 8 8 220 2 5 230 0 2 220 30 4 230 
  148 3 230 3515 7 230 1 17 230 2 7 230 1 2 230 1 5 230 100 1 230 160 7 230 375 1 230 61 4 
  230 508 2 232 0 1 220 0 1 230 254 1 230 0 1 220 736 7 220 109 6 230 0 1 7"

/-- Characters with a canonical decomposition: the number of code points, the
character and its full decomposition. -/
def decompositionText : String :=
  "3 192 65 768 3 193 65 769 3 194 65 770 3 195 65 771 3 196 65 776 3 197 65 778 3 199 67 807 
  3 200 69 768 3 201 69 769 3 202 69 770 3 203 69 776 3 204 73 768 3 205 73 769 3 206 73 770 
  3 207 73 776 3 209 78 771 3 210 79 768 3 211 79 769 3 212 79 770 3 213 79 771 3 214 79 776 
  3 217 85 768 3 218 85 769 3 219 85 770 3 220 85 776 3 221 89 769 3 224 97 768 3 225 97 769 
  3 226 97 770 3 227 97 771 3 228 97 776 3 229 97 778 3 231 99 807 3 232 101 768 3 233 101 
  769 3 234 101 770 3 235 101 776 3 236 105 768 3 237 105 769 3 238 105 770 3 239 105 776 3 
  241 110 771 3 242 111 768 3 243 111 769 3 244 111 770 3 245 111 771 3 246 111 776 3 249 117 
  768 3 250 117 769 3 251 117 770 3 252 117 776 3 253 121 769 3 255 121 776 3 256 65 772 3 
  257 97 772 3 258 65 774 3 259 97 774 3 260 65 808 3 261 97 808 3 262 67 769 3 263 99 769 3 
  264 67 770 3 265 99 770 3 266 67 775 3 267 99 775 3 268 67 780 3 269 99 780 3 270 68 780 3 
  271 100 780 3 274 69 772 3 275 101 772 3 276 69 774 3 277 101 774 3 278 69 775 3 279 101 
  775 3 280 69 808 3 281 101 808 3 282 69 780 3 283 101 780 3 284 71 770 3 285 103 770 3 286 
  71 774 3 287 103 774 3 288 71 775 3 289 103 775 3 290 71 807 3 291 103 807 3 292 72 770 3 
  293 104 770 3 296 73 771 3 297 105 771 3 298 73 772 3 299 105 772 3 300 73 774 3 301 105 
  774 3 302 73 808 3 303 105 808 3 304 73 775 3 308 74 770 3 309 106 770 3 310 75 807 3 311 
  107 807 3 313 76 769 3 314 108 769 3 315 76 807 3 316 108 807 3 317 76 780 3 318 108 780 3 
  323 78 769 3 324 110 769 3 325 78 807 3 326 110 807 3 327 78 780 3 328 110 780 3 332 79 772 
  3 333 111 772 3 334 79 774 3 335 111 774 3 336 79 779 3 337 111 779 3 340 82 769 3 341 114 
  769 3 342 82 807 3 343 114 807 3 344 82 780 3 345 114 780 3 346 83 769 3 347 115 769 3 348 
  83 770 3 349 115 770 3 350 83 807 3 351 115 807 3 352 83 780 3 353 115 780 3 354 84 807 3 
  355 116 807 3 356 84 780 3 357 116 780 3 360 85 771 3 361 117 771 3 362 85 772 3 363 117 
  772 3 364 85 774 3 365 117 774 3 366 85 778 3 367 117 778 3 368 85 779 3 369 117 779 3 370 
  85 808 3 371 117 808 3 372 87 770 3 373 119 770 3 374 89 770 3 375 121 770 3 376 89 776 3 
  377 90 769 3 378 122 769 3 379 90 775 3 380 122 775 3 381 90 780 3 382 122 780 3 416 79 795 
  3 417 111 795 3 431 85 795 3 432 117 795 3 461 65 780 3 462 97 780 3 463 73 780 3 464 105 
  780 3 465 79 780 3 466 111 780 3 467 85 780 3 468 117 780 4 469 85 776 772 4 470 117 776 
  772 4 471 85 776 769 4 472 117 776 769 4 473 85 776 780 4 474 117 776 780 4 475 85 776 768 
  4 476 117 776 768 4 478 65 776 772 4 479 97 776 772 4 480 65 775 772 4 481 97 775 772 3 482 
  198 772 3 483 230 772 3 486 71 780 3 487 103 780 3 488 75 780 3 489 107 780 3 490 79 808 3 
  491 111 808 4 492 79 808 772 4 493 111 808 772 3 494 439 780 3 495 658 780 3 496 106 780 3 
  500 71 769 3 501 103 769 3 504 78 768 3 505 110 768 4 506 65 778 769 4 507 97 778 769 3 508 
  198 769 3 509 230 769 3 510 216 769 3 511 248 769 3 512 65 783 3 513 97 783 3 514 65 785 3 
  515 97 785 3 516 69 783 3 517 101 783 3 518 69 785 3 519 101 785 3 520 73 783 3 521 105 783 
  3 522 73 785 3 523 105 785 3 524 79 783 3 525 111 783 3 526 79 785 3 527 111 785 3 528 82 
  783 3 529 114 783 3 530 82 785 3 531 114 785 3 532 85 783 3 533 117 783 3 534 85 785 3 535 
  117 785 3 536 83 806 3 537 115 806 3 538 84 806 3 539 116 806 3 542 72 780 3 543 104 780 3 
  550 65 775 3 551 97 775 3 552 69 807 3 553 101 807 4 554 79 776 772 4 555 111 776 772 4 556 
  79 771 772 4 557 111 771 772 3 558 79 775 3 559 111 775 4 560 79 775 772 4 561 111 775 772 
  3 562 89 772 3 563 121 772 2 832 768 2 833 769 2 835 787 3 836 776 769 2 884 697 2 894 59 3 
  901 168 769 3 902 913 769 2 903 183 3 904 917 769 3 905 919 769 3 906 921 769 3 908 927 769 
  3 910 933 769 3 911 937 769 4 912 953 776 769 3 938 921 776 3 939 933 776 3 940 945 769 3 
  941 949 769 3 942 951 769 3 943 953 769 4 944 965 776 769 3 970 953 776 3 971 965 776 3 972 
  959 769 3 973 965 769 3 974 969 769 3 979 978 769 3 980 978 776 3 1024 1045 768 3 1025 1045 
  776 3 1027 1043 769 3 1031 1030 776 3 1036 1050 769 3 1037 1048 768 3 1038 1059 774 3 1049 
  1048 774 3 1081 1080 774 3 1104 1077 768 3 1105 1077 776 3 1107 1075 769 3 1111 1110 776 3 
  1116 1082 769 3 1117 1080 768 3 1118 1091 774 3 1142 1140 783 3 1143 1141 783 3 1217 1046 
  774 3 1218 1078 774 3 1232 1040 774 3 1233 1072 774 3 1234 1040 776 3 1235 1072 776 3 1238 
  1045 774 3 1239 1077 774 3 1242 1240 776 3 1243 1241 776 3 1244 1046 776 3 1245 1078 776 3 
  1246 1047 776 3 1247 1079 776 3 1250 1048 772 3 1251 1080 772 3 1252 1048 776 3 1253 1080 
  776 3 1254 1054 776 3 1255 1086 776 3 1258 1256 776 3 1259 1257 776 3 1260 1069 776 3 1261 
  1101 776 3 1262 1059 772 3 1263 1091 772 3 1264 1059 776 3 1265 1091 776 3 1266 1059 779 3 
  1267 1091 779 3 1268 1063 776 3 1269 1095 776 3 1272 1067 776 3 1273 1099 776 3 1570 1575 
  1619 3 1571 1575 1620 3 1572 1608 1620 3 1573 1575 1621 3 1574 1610 1620 3 1728 1749 1620 3 
  1730 1729 1620 3 1747 1746 1620 3 2345 2344 2364 3 2353 2352 2364 3 2356 2355 2364 3 2392 
  2325 2364 3 2393 2326 2364 3 2394 2327 2364 3 2395 2332 2364 3 2396 2337 2364 3 2397 2338 
  2364 3 2398 2347 2364 3 2399 2351 2364 3 2507 2503 2494 3 2508 2503 2519 3 2524 2465 2492 3 
  2525 2466 2492 3 2527 2479 2492 3 2611 2610 2620 3 2614 2616 2620 3 2649 2582 2620 3 2650 
  2583 2620 3 2651 2588 2620 3 2654 2603 2620 3 2888 2887 2902 3 2891 2887 2878 3 2892 2887 
  2903 3 2908 2849 2876 3 2909 2850 2876 3 2964 2962 3031 3 3018 3014 3006 3 3019 3015 3006 3 
  3020 3014 3031 3 3144 3142 3158 3 3264 3263 3285 3 3271 3270 3285 3 3272 3270 3286 3 3274 
  3270 3266 4 3275 3270 3266 3285 3 3402 3398 3390 3 3403 3399 3390 3 3404 3398 3415 3 3546 
  3545 3530 3 3548 3545 3535 4 3549 3545 3535 3530 3 3550 3545 3551 3 3907 3906 4023 3 3917 
  3916 4023 3 3922 3921 4023 3 3927 3926 4023 3 3932 3931 4023 3 3945 3904 4021 3 3955 3953 
  3954 3 3957 3953 3956 3 3958 4018 3968 3 3960 4019 3968 3 3969 3953 3968 3 3987 3986 4023 3 
  3997 3996 4023 3 4002 4001 4023 3 4007 4006 4023 3 4012 4011 4023 3 4025 3984 4021 3 4134 
  4133 4142 3 6918 6917 6965 3 6920 6919 6965 3 6922 6921 6965 3 6924 6923 6965 3 6926 6925 
  6965 3 6930 6929 6965 3 6971 6970 6965 3 6973 6972 6965 3 6976 6974 6965 3 6977 6975 6965 3 
  6979 6978 6965 3 7680 65 805 3 7681 97 805 3 7682 66 775 3 7683 98 775 3 7684 66 803 3 7685 
  98 803 3 7686 66 817 3 7687 98 817 4 7688 67 807 769 4 7689 99 807 769 3 7690 68 775 3 7691 
  100 775 3 7692 68 803 3 7693 100 803 3 7694 68 817 3 7695 100 817 3 7696 68 807 3 7697 100 
  807 3 7698 68 813 3 7699 100 813 4 7700 69 772 768 4 7701 101 772 768 4 7702 69 772 769 4 
  7703 101 772 769 3 7704 69 813 3 7705 101 813 3 7706 69 816 3 7707 101 816 4 7708 69 807 
  774 4 7709 101 807 774 3 7710 70 775 3 7711 102 775 3 7712 71 772 3 7713 103 772 3 7714 72 
  775 3 7715 104 775 3 7716 72 803 3 7717 104 803 3 7718 72 776 3 7719 104 776 3 7720 72 807 
  3 7721 104 807 3 7722 72 814 3 7723 104 814 3 7724 73 816 3 7725 105 816 4 7726 73 776 769 
  4 7727 105 776 769 3 7728 75 769 3 7729 107 769 3 7730 75 803 3 7731 107 803 3 7732 75 817 
  3 7733 107 817 3 7734 76 803 3 7735 108 803 4 7736 76 803 772 4 7737 108 803 772 3 7738 76 
  817 3 7739 108 817 3 7740 76 813 3 7741 108 813 3 7742 77 769 3 7743 109 769 3 7744 77 775 
  3 7745 109 775 3 7746 77 803 3 7747 109 803 3 7748 78 775 3 7749 110 775 3 7750 78 803 3 
  7751 110 803 3 7752 78 817 3 7753 110 817 3 7754 78 813 3 7755 110 813 4 7756 79 771 769 4 
  7757 111 771 769 4 7758 79 771 776 4 7759 111 771 776 4 7760 79 772 768 4 7761 111 772 768 
  4 7762 79 772 769 4 7763 111 772 769 3 7764 80 769 3 7765 112 769 3 7766 80 775 3 7767 112 
  775 3 7768 82 775 3 7769 114 775 3 7770 82 803 3 7771 114 803 4 7772 82 803 772 4 7773 114 
  803 772 3 7774 82 817 3 7775 114 817 3 7776 83 775 3 7777 115 775 3 7778 83 803 3 7779 115 
  803 4 7780 83 769 775 4 7781 115 769 775 4 7782 83 780 775 4 7783 115 780 775 4 7784 83 803 
  775 4 7785 115 803 775 3 7786 84 775 3 7787 116 775 3 7788 84 803 3 7789 116 803 3 7790 84 
  817 3 7791 116 817 3 7792 84 813 3 7793 116 813 3 7794 85 804 3 7795 117 804 3 7796 85 816 
  3 7797 117 816 3 7798 85 813 3 7799 117 813 4 7800 85 771 769 4 7801 117 771 769 4 7802 85 
  772 776 4 7803 117 772 776 3 7804 86 771 3 7805 118 771 3 7806 86 803 3 7807 118 803 3 7808 
  87 768 3 7809 119 768 3 7810 87 769 3 7811 119 769 3 7812 87 776 3 7813 119 776 3 7814 87 
  775 3 7815 119 775 3 7816 87 803 3 7817 119 803 3 7818 88 775 3 7819 120 775 3 7820 88 776 
  3 7821 120 776 3 7822 89 775 3 7823 121 775 3 7824 90 770 3 7825 122 770 3 7826 90 803 3 
  7827 122 803 3 7828 90 817 3 7829 122 817 3 7830 104 817 3 7831 116 776 3 7832 119 778 3 
  7833 121 778 3 7835 383 775 3 7840 65 803 3 7841 97 803 3 7842 65 777 3 7843 97 777 4 7844 
  65 770 769 4 7845 97 770 769 4 7846 65 770 768 4 7847 97 770 768 4 7848 65 770 777 4 7849 
  97 770 777 4 7850 65 770 771 4 7851 97 770 771 4 7852 65 803 770 4 7853 97 803 770 4 7854 
  65 774 769 4 7855 97 774 769 4 7856 65 774 768 4 7857 97 774 768 4 7858 65 774 777 4 7859 
  97 774 777 4 7860 65 774 771 4 7861 97 774 771 4 7862 65 803 774 4 7863 97 803 774 3 7864 
  69 803 3 7865 101 803 3 7866 69 777 3 7867 101 777 3 7868 69 771 3 7869 101 771 4 7870 69 
  770 769 4 7871 101 770 769 4 7872 69 770 768 4 7873 101 770 768 4 7874 69 770 777 4 7875 
  101 770 777 4 7876 69 770 771 4 7877 101 770 771 4 7878 69 803 770 4 7879 101 803 770 3 
  7880 73 777 3 7881 105 777 3 7882 73 803 3 7883 105 803 3 7884 79 803 3 7885 111 803 3 7886 
  79 777 3 7887 111 777 4 7888 79 770 769 4 7889 111 770 769 4 7890 79 770 768 4 7891 111 770 
  768 4 7892 79 770 777 4 7893 111 770 777 4 7894 79 770 771 4 7895 111 770 771 4 7896 79 803 
  770 4 7897 111 803 770 4 7898 79 795 769 4 7899 111 795 769 4 7900 79 795 768 4 7901 111 
  795 768 4 7902 79 795 777 4 7903 111 795 777 4 7904 79 795 771 4 7905 111 795 771 4 7906 79 
  795 803 4 7907 111 795 803 3 7908 85 803 3 7909 117 803 3 7910 85 777 3 7911 117 777 4 7912 
  85 795 769 4 7913 117 795 769 4 7914 85 795 768 4 7915 117 795 768 4 7916 85 795 777 4 7917 
  117 795 777 4 7918 85 795 771 4 7919 117 795 771 4 7920 85 795 803 4 7921 117 795 803 3 
  7922 89 768 3 7923 121 768 3 7924 89 803 3 7925 121 803 3 7926 89 777 3 7927 121 777 3 7928 
  89 771 3 7929 121 771 3 7936 945 787 3 7937 945 788 4 7938 945 787 768 4 7939 945 788 768 4 
  7940 945 787 769 4 7941 945 788 769 4 7942 945 787 834 4 7943 945 788 834 3 7944 913 787 3 
  7945 913 788 4 7946 913 787 768 4 7947 913 788 768 4 7948 913 787 769 4 7949 913 788 769 4 
  7950 913 787 834 4 7951 913 788 834 3 7952 949 787 3 7953 949 788 4 7954 949 787 768 4 7955 
  949 788 768 4 7956 949 787 769 4 7957 949 788 769 3 7960 917 787 3 7961 917 788 4 7962 917 
  787 768 4 7963 917 788 768 4 7964 917 787 769 4 7965 917 788 769 3 7968 951 787 3 7969 951 
  788 4 7970 951 787 768 4 7971 951 788 768 4 7972 951 787 769 4 7973 951 788 769 4 7974 951 
  787 834 4 7975 951 788 834 3 7976 919 787 3 7977 919 788 4 7978 919 787 768 4 7979 919 788 
  768 4 7980 919 787 769 4 7981 919 788 769 4 7982 919 787 834 4 7983 919 788 834 3 7984 953 
  787 3 7985 953 788 4 7986 953 787 768 4 7987 953 788 768 4 7988 953 787 769 4 7989 953 788 
  769 4 7990 953 787 834 4 7991 953 788 834 3 7992 921 787 3 7993 921 788 4 7994 921 787 768 
  4 7995 921 788 768 4 7996 921 787 769 4 7997 921 788 769 4 7998 921 787 834 4 7999 921 788 
  834 3 8000 959 787 3 8001 959 788 4 8002 959 787 768 4 8003 959 788 768 4 8004 959 787 769 
  4 8005 959 788 769 3 8008 927 787 3 8009 927 788 4 8010 927 787 768 4 8011 927 788 768 4 
  8012 927 787 769 4 8013 927 788 769 3 8016 965 787 3 8017 965 788 4 8018 965 787 768 4 8019 
  965 788 768 4 8020 965 787 769 4 8021 965 788 769 4 8022 965 787 834 4 8023 965 788 834 3 
  8025 933 788 4 8027 933 788 768 4 8029 933 788 769 4 8031 933 788 834 3 8032 969 787 3 8033 
  969 788 4 8034 969 787 768 4 8035 969 788 768 4 8036 969 787 769 4 8037 969 788 769 4 8038 
  969 787 834 4 8039 969 788 834 3 8040 937 787 3 8041 937 788 4 8042 937 787 768 4 8043 937 
  788 768 4 8044 937 787 769 4 8045 937 788 769 4 8046 937 787 834 4 8047 937 788 834 3 8048 
  945 768 3 8049 945 769 3 8050 949 768 3 8051 949 769 3 8052 951 768 3 8053 951 769 3 8054 
  953 768 3 8055 953 769 3 8056 959 768 3 8057 959 769 3 8058 965 768 3 8059 965 769 3 8060 
  969 768 3 8061 969 769 4 8064 945 787 837 4 8065 945 788 837 5 8066 945 787 768 837 5 8067 
  945 788 768 837 5 8068 945 787 769 837 5 8069 945 788 769 837 5 8070 945 787 834 837 5 8071 
  945 788 834 837 4 8072 913 787 837 4 8073 913 788 837 5 8074 913 787 768 837 5 8075 913 788 
  768 837 5 8076 913 787 769 837 5 8077 913 788 769 837 5 8078 913 787 834 837 5 8079 913 788 
  834 837 4 8080 951 787 837 4 8081 951 788 837 5 8082 951 787 768 837 5 8083 951 788 768 837 
  5 8084 951 787 769 837 5 8085 951 788 769 837 5 8086 951 787 834 837 5 8087 951 788 834 837 
  4 8088 919 787 837 4 8089 919 788 837 5 8090 919 787 768 837 5 8091 919 788 768 837 5 8092 
  919 787 769 837 5 8093 919 788 769 837 5 8094 919 787 834 837 5 8095 919 788 834 837 4 8096 
  969 787 837 4 8097 969 788 837 5 8098 969 787 768 837 5 8099 969 788 768 837 5 8100 969 787 
  769 837 5 8101 969 788 769 837 5 8102 969 787 834 837 5 8103 969 788 834 837 4 8104 937 787 
  837 4 8105 937 788 837 5 8106 937 787 768 837 5 8107 937 788 768 837 5 8108 937 787 769 837 
  5 8109 937 788 769 837 5 8110 937 787 834 837 5 8111 937 788 834 837 3 8112 945 774 3 8113 
  945 772 4 8114 945 768 837 3 8115 945 837 4 8116 945 769 837 3 8118 945 834 4 8119 945 834 
  837 3 8120 913 774 3 8121 913 772 3 8122 913 768 3 8123 913 769 3 8124 913 837 2 8126 953 3 
  8129 168 834 4 8130 951 768 837 3 8131 951 837 4 8132 951 769 837 3 8134 951 834 4 8135 951 
  834 837 3 8136 917 768 3 8137 917 769 3 8138 919 768 3 8139 919 769 3 8140 919 837 3 8141 
  8127 768 3 8142 8127 769 3 8143 8127 834 3 8144 953 774 3 8145 953 772 4 8146 953 776 768 4 
  8147 953 776 769 3 8150 953 834 4 8151 953 776 834 3 8152 921 774 3 8153 921 772 3 8154 921 
  768 3 8155 921 769 3 8157 8190 768 3 8158 8190 769 3 8159 8190 834 3 8160 965 774 3 8161 
  965 772 4 8162 965 776 768 4 8163 965 776 769 3 8164 961 787 3 8165 961 788 3 8166 965 834 
  4 8167 965 776 834 3 8168 933 774 3 8169 933 772 3 8170 933 768 3 8171 933 769 3 8172 929 
  788 3 8173 168 768 3 8174 168 769 2 8175 96 4 8178 969 768 837 3 8179 969 837 4 8180 969 
  769 837 3 8182 969 834 4 8183 969 834 837 3 8184 927 768 3 8185 927 769 3 8186 937 768 3 
  8187 937 769 3 8188 937 837 2 8189 180 2 8192 8194 2 8193 8195 2 8486 937 2 8490 75 3 8491 
  65 778 3 8602 8592 824 3 8603 8594 824 3 8622 8596 824 3 8653 8656 824 3 8654 8660 824 3 
  8655 8658 824 3 8708 8707 824 3 8713 8712 824 3 8716 8715 824 3 8740 8739 824 3 8742 8741 
  824 3 8769 8764 824 3 8772 8771 824 3 8775 8773 824 3 8777 8776 824 3 8800 61 824 3 8802 
  8801 824 3 8813 8781 824 3 8814 60 824 3 8815 62 824 3 8816 8804 824 3 8817 8805 824 3 8820 
  8818 824 3 8821 8819 824 3 8824 8822 824 3 8825 8823 824 3 8832 8826 824 3 8833 8827 824 3 
  8836 8834 824 3 8837 8835 824 3 8840 8838 824 3 8841 8839 824 3 8876 8866 824 3 8877 8872 
  824 3 8878 8873 824 3 8879 8875 824 3 8928 8828 824 3 8929 8829 824 3 8930 8849 824 3 8931 
  8850 824 3 8938 8882 824 3 8939 8883 824 3 8940 8884 824 3 8941 8885 824 2 9001 12296 2 
  9002 12297 3 10972 10973 824 3 12364 12363 12441 3 12366 12365 12441 3 12368 12367 12441 3 
  12370 12369 12441 3 12372 12371 12441 3 12374 12373 12441 3 12376 12375 12441 3 12378 12377 
  12441 3 12380 12379 12441 3 12382 12381 12441 3 12384 12383 12441 3 12386 12385 12441 3 
  12389 12388 12441 3 12391 12390 12441 3 12393 12392 12441 3 12400 12399 12441 3 12401 12399 
  12442 3 12403 12402 12441 3 12404 12402 12442 3 12406 12405 12441 3 12407 12405 12442 3 
  12409 12408 12441 3 12410 12408 12442 3 12412 12411 12441 3 12413 12411 12442 3 12436 12358 
  12441 3 12446 12445 12441 3 12460 12459 12441 3 12462 12461 12441 3 12464 12463 12441 3 
  12466 12465 12441 3 12468 12467 12441 3 12470 12469 12441 3 12472 12471 12441 3 12474 12473 
  12441 3 12476 12475 12441 3 12478 12477 12441 3 12480 12479 12441 3 12482 12481 12441 3 
  12485 12484 12441 3 12487 12486 12441 3 12489 12488 12441 3 12496 12495 12441 3 12497 12495 
  12442 3 12499 12498 12441 3 12500 12498 12442 3 12502 12501 12441 3 12503 12501 12442 3 
  12505 12504 12441 3 12506 12504 12442 3 12508 12507 12441 3 12509 12507 12442 3 12532 12454 
  12441 3 12535 12527 12441 3 12536 12528 12441 3 12537 12529 12441 3 12538 12530 12441 3 
  12542 12541 12441 2 63744 35912 2 63745 26356 2 63746 36554 2 63747 36040 2 63748 28369 2 
  63749 20018 2 63750 21477 2 63751 40860 2 63752 40860 2 63753 22865 2 63754 37329 2 63755 
  21895 2 63756 22856 2 63757 25078 2 63758 30313 2 63759 32645 2 63760 34367 2 63761 34746 2 
  63762 35064 2 63763 37007 2 63764 27138 2 63765 27931 2 63766 28889 2 63767 29662 2 63768 
  33853 2 63769 37226 2 63770 39409 2 63771 20098 2 63772 21365 2 63773 27396 2 63774 29211 2 
  63775 34349 2 63776 40478 2 63777 23888 2 63778 28651 2 63779 34253 2 63780 35172 2 63781 
  25289 2 63782 33240 2 63783 34847 2 63784 24266 2 63785 26391 2 63786 28010 2 63787 29436 2 
  63788 37070 2 63789 20358 2 63790 20919 2 63791 21214 2 63792 25796 2 63793 27347 2 63794 
  29200 2 63795 30439 2 63796 32769 2 63797 34310 2 63798 34396 2 63799 36335 2 63800 38706 2 
  63801 39791 2 63802 40442 2 63803 30860 2 63804 31103 2 63805 32160 2 63806 33737 2 63807 
  37636 2 63808 40575 2 63809 35542 2 63810 22751 2 63811 24324 2 63812 31840 2 63813 32894 2 
  63814 29282 2 63815 30922 2 63816 36034 2 63817 38647 2 63818 22744 2 63819 23650 2 63820 
  27155 2 63821 28122 2 63822 28431 2 63823 32047 2 63824 32311 2 63825 38475 2 63826 21202 2 
  63827 32907 2 63828 20956 2 63829 20940 2 63830 31260 2 63831 32190 2 63832 33777 2 63833 
  38517 2 63834 35712 2 63835 25295 2 63836 27138 2 63837 35582 2 63838 20025 2 63839 23527 2 
  63840 24594 2 63841 29575 2 63842 30064 2 63843 21271 2 63844 30971 2 63845 20415 2 63846 
  24489 2 63847 19981 2 63848 27852 2 63849 25976 2 63850 32034 2 63851 21443 2 63852 22622 2 
  63853 30465 2 63854 33865 2 63855 35498 2 63856 27578 2 63857 36784 2 63858 27784 2 63859 
  25342 2 63860 33509 2 63861 25504 2 63862 30053 2 63863 20142 2 63864 20841 2 63865 20937 2 
  63866 26753 2 63867 31975 2 63868 33391 2 63869 35538 2 63870 37327 2 63871 21237 2 63872 
  21570 2 63873 22899 2 63874 24300 2 63875 26053 2 63876 28670 2 63877 31018 2 63878 38317 2 
  63879 39530 2 63880 40599 2 63881 40654 2 63882 21147 2 63883 26310 2 63884 27511 2 63885 
  36706 2 63886 24180 2 63887 24976 2 63888 25088 2 63889 25754 2 63890 28451 2 63891 29001 2 
  63892 29833 2 63893 31178 2 63894 32244 2 63895 32879 2 63896 36646 2 63897 34030 2 63898 
  36899 2 63899 37706 2 63900 21015 2 63901 21155 2 63902 21693 2 63903 28872 2 63904 35010 2 
  63905 35498 2 63906 24265 2 63907 24565 2 63908 25467 2 63909 27566 2 63910 31806 2 63911 
  29557 2 63912 20196 2 63913 22265 2 63914 23527 2 63915 23994 2 63916 24604 2 63917 29618 2 
  63918 29801 2 63919 32666 2 63920 32838 2 63921 37428 2 63922 38646 2 63923 38728 2 63924 
  38936 2 63925 20363 2 63926 31150 2 63927 37300 2 63928 38584 2 63929 24801 2 63930 20102 2 
  63931 20698 2 63932 23534 2 63933 23615 2 63934 26009 2 63935 27138 2 63936 29134 2 63937 
  30274 2 63938 34044 2 63939 36988 2 63940 40845 2 63941 26248 2 63942 38446 2 63943 21129 2 
  63944 26491 2 63945 26611 2 63946 27969 2 63947 28316 2 63948 29705 2 63949 30041 2 63950 
  30827 2 63951 32016 2 63952 39006 2 63953 20845 2 63954 25134 2 63955 38520 2 63956 20523 2 
  63957 23833 2 63958 28138 2 63959 36650 2 63960 24459 2 63961 24900 2 63962 26647 2 63963 
  29575 2 63964 38534 2 63965 21033 2 63966 21519 2 63967 23653 2 63968 26131 2 63969 26446 2 
  63970 26792 2 63971 27877 2 63972 29702 2 63973 30178 2 63974 32633 2 63975 35023 2 63976 
  35041 2 63977 37324 2 63978 38626 2 63979 21311 2 63980 28346 2 63981 21533 2 63982 29136 2 
  63983 29848 2 63984 34298 2 63985 38563 2 63986 40023 2 63987 40607 2 63988 26519 2 63989 
  28107 2 63990 33256 2 63991 31435 2 63992 31520 2 63993 31890 2 63994 29376 2 63995 28825 2 
  63996 35672 2 63997 20160 2 63998 33590 2 63999 21050 2 64000 20999 2 64001 24230 2 64002 
  25299 2 64003 31958 2 64004 23429 2 64005 27934 2 64006 26292 2 64007 36667 2 64008 34892 2 
  64009 38477 2 64010 35211 2 64011 24275 2 64012 20800 2 64013 21952 2 64016 22618 2 64018 
  26228 2 64021 20958 2 64022 29482 2 64023 30410 2 64024 31036 2 64025 31070 2 64026 31077 2 
  64027 31119 2 64028 38742 2 64029 31934 2 64030 32701 2 64032 34322 2 64034 35576 2 64037 
  36920 2 64038 37117 2 64042 39151 2 64043 39164 2 64044 39208 2 64045 40372 2 64046 37086 2 
  64047 38583 2 64048 20398 2 64049 20711 2 64050 20813 2 64051 21193 2 64052 21220 2 64053 
  21329 2 64054 21917 2 64055 22022 2 64056 22120 2 64057 22592 2 64058 22696 2 64059 23652 2 
  64060 23662 2 64061 24724 2 64062 24936 2 64063 24974 2 64064 25074 2 64065 25935 2 64066 
  26082 2 64067 26257 2 64068 26757 2 64069 28023 2 64070 28186 2 64071 28450 2 64072 29038 2 
  64073 29227 2 64074 29730 2 64075 30865 2 64076 31038 2 64077 31049 2 64078 31048 2 64079 
  31056 2 64080 31062 2 64081 31069 2 64082 31117 2 64083 31118 2 64084 31296 2 64085 31361 2 
  64086 31680 2 64087 32244 2 64088 32265 2 64089 32321 2 64090 32626 2 64091 32773 2 64092 
  33261 2 64093 33401 2 64094 33401 2 64095 33879 2 64096 35088 2 64097 35222 2 64098 35585 2 
  64099 35641 2 64100 36051 2 64101 36104 2 64102 36790 2 64103 36920 2 64104 38627 2 64105 
  38911 2 64106 38971 2 64107 24693 2 64108 148206 2 64109 33304 2 64112 20006 2 64113 20917 
  2 64114 20840 2 64115 20352 2 64116 20805 2 64117 20864 2 64118 21191 2 64119 21242 2 64120 
  21917 2 64121 21845 2 64122 21913 2 64123 21986 2 64124 22618 2 64125 22707 2 64126 22852 2 
  64127 22868 2 64128 23138 2 64129 23336 2 64130 24274 2 64131 24281 2 64132 24425 2 64133 
  24493 2 64134 24792 2 64135 24910 2 64136 24840 2 64137 24974 2 64138 24928 2 64139 25074 2 
  64140 25140 2 64141 25540 2 64142 25628 2 64143 25682 2 64144 25942 2 64145 26228 2 64146 
  26391 2 64147 26395 2 64148 26454 2 64149 27513 2 64150 27578 2 64151 27969 2 64152 28379 2 
  64153 28363 2 64154 28450 2 64155 28702 2 64156 29038 2 64157 30631 2 64158 29237 2 64159 
  29359 2 64160 29482 2 64161 29809 2 64162 29958 2 64163 30011 2 64164 30237 2 64165 30239 2 
  64166 30410 2 64167 30427 2 64168 30452 2 64169 30538 2 64170 30528 2 64171 30924 2 64172 
  31409 2 64173 31680 2 64174 31867 2 64175 32091 2 64176 32244 2 64177 32574 2 64178 32773 2 
  64179 33618 2 64180 33775 2 64181 34681 2 64182 35137 2 64183 35206 2 64184 35222 2 64185 
  35519 2 64186 35576 2 64187 35531 2 64188 35585 2 64189 35582 2 64190 35565 2 64191 35641 2 
  64192 35722 2 64193 36104 2 64194 36664 2 64195 36978 2 64196 37273 2 64197 37494 2 64198 
  38524 2 64199 38627 2 64200 38742 2 64201 38875 2 64202 38911 2 64203 38923 2 64204 38971 2 
  64205 39698 2 64206 40860 2 64207 141386 2 64208 141380 2 64209 144341 2 64210 15261 2 
  64211 16408 2 64212 16441 2 64213 152137 2 64214 154832 2 64215 163539 2 64216 40771 2 
  64217 40846 3 64285 1497 1460 3 64287 1522 1463 3 64298 1513 1473 3 64299 1513 1474 4 64300 
  1513 1468 1473 4 64301 1513 1468 1474 3 64302 1488 1463 3 64303 1488 1464 3 64304 1488 1468 
  3 64305 1489 1468 3 64306 1490 1468 3 64307 1491 1468 3 64308 1492 1468 3 64309 1493 1468 3 
  64310 1494 1468 3 64312 1496 1468 3 64313 1497 1468 3 64314 1498 1468 3 64315 1499 1468 3 
  64316 1500 1468 3 64318 1502 1468 3 64320 1504 1468 3 64321 1505 1468 3 64323 1507 1468 3 
  64324 1508 1468 3 64326 1510 1468 3 64327 1511 1468 3 64328 1512 1468 3 64329 1513 1468 3 
  64330 1514 1468 3 64331 1493 1465 3 64332 1489 1471 3 64333 1499 1471 3 64334 1508 1471 3 
  67017 67026 775 3 67044 67034 775 3 69786 69785 69818 3 69788 69787 69818 3 69803 69797 
  69818 3 69934 69937 69927 3 69935 69938 69927 3 70475 70471 70462 3 70476 70471 70487 3 
  70531 70530 70601 3 70533 70532 70587 3 70542 70539 70594 3 70545 70544 70601 3 70597 70594 
  70594 3 70599 70594 70584 3 70600 70594 70601 3 70843 70841 70842 3 70844 70841 70832 3 
  70846 70841 70845 3 71098 71096 71087 3 71099 71097 71087 3 71992 71989 71984 3 90401 90398 
  90398 3 90402 90398 90409 3 90403 90398 90399 3 90404 90409 90399 3 90405 90398 90400 4 
  90406 90398 90398 90399 4 90407 90398 90409 90399 4 90408 90398 90398 90400 3 93544 93543 
  93543 3 93545 93539 93543 4 93546 93539 93543 93543 3 119134 119127 119141 3 119135 119128 
  119141 4 119136 119128 119141 119150 4 119137 119128 119141 119151 4 119138 119128 119141 
  119152 4 119139 119128 119141 119153 4 119140 119128 119141 119154 3 119227 119225 119141 3 
  119228 119226 119141 4 119229 119225 119141 119150 4 119230 119226 119141 119150 4 119231 
  119225 119141 119151 4 119232 119226 119141 119151 2 194560 20029 2 194561 20024 2 194562 
  20033 2 194563 131362 2 194564 20320 2 194565 20398 2 194566 20411 2 194567 20482 2 194568 
  20602 2 194569 20633 2 194570 20711 2 194571 20687 2 194572 13470 2 194573 132666 2 194574 
  20813 2 194575 20820 2 194576 20836 2 194577 20855 2 194578 132380 2 194579 13497 2 194580 
  20839 2 194581 20877 2 194582 132427 2 194583 20887 2 194584 20900 2 194585 20172 2 194586 
  20908 2 194587 20917 2 194588 168415 2 194589 20981 2 194590 20995 2 194591 13535 2 194592 
  21051 2 194593 21062 2 194594 21106 2 194595 21111 2 194596 13589 2 194597 21191 2 194598 
  21193 2 194599 21220 2 194600 21242 2 194601 21253 2 194602 21254 2 194603 21271 2 194604 
  21321 2 194605 21329 2 194606 21338 2 194607 21363 2 194608 21373 2 194609 21375 2 194610 
  21375 2 194611 21375 2 194612 133676 2 194613 28784 2 194614 21450 2 194615 21471 2 194616 
  133987 2 194617 21483 2 194618 21489 2 194619 21510 2 194620 21662 2 194621 21560 2 194622 
  21576 2 194623 21608 2 194624 21666 2 194625 21750 2 194626 21776 2 194627 21843 2 194628 
  21859 2 194629 21892 2 194630 21892 2 194631 21913 2 194632 21931 2 194633 21939 2 194634 
  21954 2 194635 22294 2 194636 22022 2 194637 22295 2 194638 22097 2 194639 22132 2 194640 
  20999 2 194641 22766 2 194642 22478 2 194643 22516 2 194644 22541 2 194645 22411 2 194646 
  22578 2 194647 22577 2 194648 22700 2 194649 136420 2 194650 22770 2 194651 22775 2 194652 
  22790 2 194653 22810 2 194654 22818 2 194655 22882 2 194656 136872 2 194657 136938 2 194658 
  23020 2 194659 23067 2 194660 23079 2 194661 23000 2 194662 23142 2 194663 14062 2 194664 
  14076 2 194665 23304 2 194666 23358 2 194667 23358 2 194668 137672 2 194669 23491 2 194670 
  23512 2 194671 23527 2 194672 23539 2 194673 138008 2 194674 23551 2 194675 23558 2 194676 
  24403 2 194677 23586 2 194678 14209 2 194679 23648 2 194680 23662 2 194681 23744 2 194682 
  23693 2 194683 138724 2 194684 23875 2 194685 138726 2 194686 23918 2 194687 23915 2 194688 
  23932 2 194689 24033 2 194690 24034 2 194691 14383 2 194692 24061 2 194693 24104 2 194694 
  24125 2 194695 24169 2 194696 14434 2 194697 139651 2 194698 14460 2 194699 24240 2 194700 
  24243 2 194701 24246 2 194702 24266 2 194703 172946 2 194704 24318 2 194705 140081 2 194706 
  140081 2 194707 33281 2 194708 24354 2 194709 24354 2 194710 14535 2 194711 144056 2 194712 
  156122 2 194713 24418 2 194714 24427 2 194715 14563 2 194716 24474 2 194717 24525 2 194718 
  24535 2 194719 24569 2 194720 24705 2 194721 14650 2 194722 14620 2 194723 24724 2 194724 
  141012 2 194725 24775 2 194726 24904 2 194727 24908 2 194728 24910 2 194729 24908 2 194730 
  24954 2 194731 24974 2 194732 25010 2 194733 24996 2 194734 25007 2 194735 25054 2 194736 
  25074 2 194737 25078 2 194738 25104 2 194739 25115 2 194740 25181 2 194741 25265 2 194742 
  25300 2 194743 25424 2 194744 142092 2 194745 25405 2 194746 25340 2 194747 25448 2 194748 
  25475 2 194749 25572 2 194750 142321 2 194751 25634 2 194752 25541 2 194753 25513 2 194754 
  14894 2 194755 25705 2 194756 25726 2 194757 25757 2 194758 25719 2 194759 14956 2 194760 
  25935 2 194761 25964 2 194762 143370 2 194763 26083 2 194764 26360 2 194765 26185 2 194766 
  15129 2 194767 26257 2 194768 15112 2 194769 15076 2 194770 20882 2 194771 20885 2 194772 
  26368 2 194773 26268 2 194774 32941 2 194775 17369 2 194776 26391 2 194777 26395 2 194778 
  26401 2 194779 26462 2 194780 26451 2 194781 144323 2 194782 15177 2 194783 26618 2 194784 
  26501 2 194785 26706 2 194786 26757 2 194787 144493 2 194788 26766 2 194789 26655 2 194790 
  26900 2 194791 15261 2 194792 26946 2 194793 27043 2 194794 27114 2 194795 27304 2 194796 
  145059 2 194797 27355 2 194798 15384 2 194799 27425 2 194800 145575 2 194801 27476 2 194802 
  15438 2 194803 27506 2 194804 27551 2 194805 27578 2 194806 27579 2 194807 146061 2 194808 
  138507 2 194809 146170 2 194810 27726 2 194811 146620 2 194812 27839 2 194813 27853 2 
  194814 27751 2 194815 27926 2 194816 27966 2 194817 28023 2 194818 27969 2 194819 28009 2 
  194820 28024 2 194821 28037 2 194822 146718 2 194823 27956 2 194824 28207 2 194825 28270 2 
  194826 15667 2 194827 28363 2 194828 28359 2 194829 147153 2 194830 28153 2 194831 28526 2 
  194832 147294 2 194833 147342 2 194834 28614 2 194835 28729 2 194836 28702 2 194837 28699 2 
  194838 15766 2 194839 28746 2 194840 28797 2 194841 28791 2 194842 28845 2 194843 132389 2 
  194844 28997 2 194845 148067 2 194846 29084 2 194847 148395 2 194848 29224 2 194849 29237 2 
  194850 29264 2 194851 149000 2 194852 29312 2 194853 29333 2 194854 149301 2 194855 149524 
  2 194856 29562 2 194857 29579 2 194858 16044 2 194859 29605 2 194860 16056 2 194861 16056 2 
  194862 29767 2 194863 29788 2 194864 29809 2 194865 29829 2 194866 29898 2 194867 16155 2 
  194868 29988 2 194869 150582 2 194870 30014 2 194871 150674 2 194872 30064 2 194873 139679 
  2 194874 30224 2 194875 151457 2 194876 151480 2 194877 151620 2 194878 16380 2 194879 
  16392 2 194880 30452 2 194881 151795 2 194882 151794 2 194883 151833 2 194884 151859 2 
  194885 30494 2 194886 30495 2 194887 30495 2 194888 30538 2 194889 16441 2 194890 30603 2 
  194891 16454 2 194892 16534 2 194893 152605 2 194894 30798 2 194895 30860 2 194896 30924 2 
  194897 16611 2 194898 153126 2 194899 31062 2 194900 153242 2 194901 153285 2 194902 31119 
  2 194903 31211 2 194904 16687 2 194905 31296 2 194906 31306 2 194907 31311 2 194908 153980 
  2 194909 154279 2 194910 154279 2 194911 31470 2 194912 16898 2 194913 154539 2 194914 
  31686 2 194915 31689 2 194916 16935 2 194917 154752 2 194918 31954 2 194919 17056 2 194920 
  31976 2 194921 31971 2 194922 32000 2 194923 155526 2 194924 32099 2 194925 17153 2 194926 
  32199 2 194927 32258 2 194928 32325 2 194929 17204 2 194930 156200 2 194931 156231 2 194932 
  17241 2 194933 156377 2 194934 32634 2 194935 156478 2 194936 32661 2 194937 32762 2 194938 
  32773 2 194939 156890 2 194940 156963 2 194941 32864 2 194942 157096 2 194943 32880 2 
  194944 144223 2 194945 17365 2 194946 32946 2 194947 33027 2 194948 17419 2 194949 33086 2 
  194950 23221 2 194951 157607 2 194952 157621 2 194953 144275 2 194954 144284 2 194955 33281 
  2 194956 33284 2 194957 36766 2 194958 17515 2 194959 33425 2 194960 33419 2 194961 33437 2 
  194962 21171 2 194963 33457 2 194964 33459 2 194965 33469 2 194966 33510 2 194967 158524 2 
  194968 33509 2 194969 33565 2 194970 33635 2 194971 33709 2 194972 33571 2 194973 33725 2 
  194974 33767 2 194975 33879 2 194976 33619 2 194977 33738 2 194978 33740 2 194979 33756 2 
  194980 158774 2 194981 159083 2 194982 158933 2 194983 17707 2 194984 34033 2 194985 34035 
  2 194986 34070 2 194987 160714 2 194988 34148 2 194989 159532 2 194990 17757 2 194991 17761 
  2 194992 159665 2 194993 159954 2 194994 17771 2 194995 34384 2 194996 34396 2 194997 34407 
  2 194998 34409 2 194999 34473 2 195000 34440 2 195001 34574 2 195002 34530 2 195003 34681 2 
  195004 34600 2 195005 34667 2 195006 34694 2 195007 17879 2 195008 34785 2 195009 34817 2 
  195010 17913 2 195011 34912 2 195012 34915 2 195013 161383 2 195014 35031 2 195015 35038 2 
  195016 17973 2 195017 35066 2 195018 13499 2 195019 161966 2 195020 162150 2 195021 18110 2 
  195022 18119 2 195023 35488 2 195024 35565 2 195025 35722 2 195026 35925 2 195027 162984 2 
  195028 36011 2 195029 36033 2 195030 36123 2 195031 36215 2 195032 163631 2 195033 133124 2 
  195034 36299 2 195035 36284 2 195036 36336 2 195037 133342 2 195038 36564 2 195039 36664 2 
  195040 165330 2 195041 165357 2 195042 37012 2 195043 37105 2 195044 37137 2 195045 165678 
  2 195046 37147 2 195047 37432 2 195048 37591 2 195049 37592 2 195050 37500 2 195051 37881 2 
  195052 37909 2 195053 166906 2 195054 38283 2 195055 18837 2 195056 38327 2 195057 167287 2 
  195058 18918 2 195059 38595 2 195060 23986 2 195061 38691 2 195062 168261 2 195063 168474 2 
  195064 19054 2 195065 19062 2 195066 38880 2 195067 168970 2 195068 19122 2 195069 169110 2 
  195070 38923 2 195071 38923 2 195072 38953 2 195073 169398 2 195074 39138 2 195075 19251 2 
  195076 39209 2 195077 39335 2 195078 39362 2 195079 39422 2 195080 19406 2 195081 170800 2 
  195082 39698 2 195083 40000 2 195084 40189 2 195085 19662 2 195086 19693 2 195087 40295 2 
  195088 172238 2 195089 19704 2 195090 172293 2 195091 172558 2 195092 172689 2 195093 40635 
  2 195094 19798 2 195095 40697 2 195096 40702 2 195097 40709 2 195098 40719 2 195099 40726 2 
  195100 40763 2 195101 173568"

/-- Primary composites: the first character, the second one and the composite. -/
def compositionText : String :=
  "60 824 8814 61 824 8800 62 824 8815 65 768 192 65 769 193 65 770 194 65 771 195 65 772 256 
  65 774 258 65 775 550 65 776 196 65 777 7842 65 778 197 65 780 461 65 783 512 65 785 514 65 
  803 7840 65 805 7680 65 808 260 66 775 7682 66 803 7684 66 817 7686 67 769 262 67 770 264 
  67 775 266 67 780 268 67 807 199 68 775 7690 68 780 270 68 803 7692 68 807 7696 68 813 7698 
  68 817 7694 69 768 200 69 769 201 69 770 202 69 771 7868 69 772 274 69 774 276 69 775 278 
  69 776 203 69 777 7866 69 780 282 69 783 516 69 785 518 69 803 7864 69 807 552 69 808 280 
  69 813 7704 69 816 7706 70 775 7710 71 769 500 71 770 284 71 772 7712 71 774 286 71 775 288 
  71 780 486 71 807 290 72 770 292 72 775 7714 72 776 7718 72 780 542 72 803 7716 72 807 7720 
  72 814 7722 73 768 204 73 769 205 73 770 206 73 771 296 73 772 298 73 774 300 73 775 304 73 
  776 207 73 777 7880 73 780 463 73 783 520 73 785 522 73 803 7882 73 808 302 73 816 7724 74 
  770 308 75 769 7728 75 780 488 75 803 7730 75 807 310 75 817 7732 76 769 313 76 780 317 76 
  803 7734 76 807 315 76 813 7740 76 817 7738 77 769 7742 77 775 7744 77 803 7746 78 768 504 
  78 769 323 78 771 209 78 775 7748 78 780 327 78 803 7750 78 807 325 78 813 7754 78 817 7752 
  79 768 210 79 769 211 79 770 212 79 771 213 79 772 332 79 774 334 79 775 558 79 776 214 79 
  777 7886 79 779 336 79 780 465 79 783 524 79 785 526 79 795 416 79 803 7884 79 808 490 80 
  769 7764 80 775 7766 82 769 340 82 775 7768 82 780 344 82 783 528 82 785 530 82 803 7770 82 
  807 342 82 817 7774 83 769 346 83 770 348 83 775 7776 83 780 352 83 803 7778 83 806 536 83 
  807 350 84 775 7786 84 780 356 84 803 7788 84 806 538 84 807 354 84 813 7792 84 817 7790 85 
  768 217 85 769 218 85 770 219 85 771 360 85 772 362 85 774 364 85 776 220 85 777 7910 85 
  778 366 85 779 368 85 780 467 85 783 532 85 785 534 85 795 431 85 803 7908 85 804 7794 85 
  808 370 85 813 7798 85 816 7796 86 771 7804 86 803 7806 87 768 7808 87 769 7810 87 770 372 
  87 775 7814 87 776 7812 87 803 7816 88 775 7818 88 776 7820 89 768 7922 89 769 221 89 770 
  374 89 771 7928 89 772 562 89 775 7822 89 776 376 89 777 7926 89 803 7924 90 769 377 90 770 
  7824 90 775 379 90 780 381 90 803 7826 90 817 7828 97 768 224 97 769 225 97 770 226 97 771 
  227 97 772 257 97 774 259 97 775 551 97 776 228 97 777 7843 97 778 229 97 780 462 97 783 
  513 97 785 515 97 803 7841 97 805 7681 97 808 261 98 775 7683 98 803 7685 98 817 7687 99 
  769 263 99 770 265 99 775 267 99 780 269 99 807 231 100 775 7691 100 780 271 100 803 7693 
  100 807 7697 100 813 7699 100 817 7695 101 768 232 101 769 233 101 770 234 101 771 7869 101 
  772 275 101 774 277 101 775 279 101 776 235 101 777 7867 101 780 283 101 783 517 101 785 
  519 101 803 7865 101 807 553 101 808 281 101 813 7705 101 816 7707 102 775 7711 103 769 501 
  103 770 285 103 772 7713 103 774 287 103 775 289 103 780 487 103 807 291 104 770 293 104 
  775 7715 104 776 7719 104 780 543 104 803 7717 104 807 7721 104 814 7723 104 817 7830 105 
  768 236 105 769 237 105 770 238 105 771 297 105 772 299 105 774 301 105 776 239 105 777 
  7881 105 780 464 105 783 521 105 785 523 105 803 7883 105 808 303 105 816 7725 106 770 309 
  106 780 496 107 769 7729 107 780 489 107 803 7731 107 807 311 107 817 7733 108 769 314 108 
  780 318 108 803 7735 108 807 316 108 813 7741 108 817 7739 109 769 7743 109 775 7745 109 
  803 7747 110 768 505 110 769 324 110 771 241 110 775 7749 110 780 328 110 803 7751 110 807 
  326 110 813 7755 110 817 7753 111 768 242 111 769 243 111 770 244 111 771 245 111 772 333 
  111 774 335 111 775 559 111 776 246 111 777 7887 111 779 337 111 780 466 111 783 525 111 
  785 527 111 795 417 111 803 7885 111 808 491 112 769 7765 112 775 7767 114 769 341 114 775 
  7769 114 780 345 114 783 529 114 785 531 114 803 7771 114 807 343 114 817 7775 115 769 347 
  115 770 349 115 775 7777 115 780 353 115 803 7779 115 806 537 115 807 351 116 775 7787 116 
  776 7831 116 780 357 116 803 7789 116 806 539 116 807 355 116 813 7793 116 817 7791 117 768 
  249 117 769 250 117 770 251 117 771 361 117 772 363 117 774 365 117 776 252 117 777 7911 
  117 778 367 117 779 369 117 780 468 117 783 533 117 785 535 117 795 432 117 803 7909 117 
  804 7795 117 808 371 117 813 7799 117 816 7797 118 771 7805 118 803 7807 119 768 7809 119 
  769 7811 119 770 373 119 775 7815 119 776 7813 119 778 7832 119 803 7817 120 775 7819 120 
  776 7821 121 768 7923 121 769 253 121 770 375 121 771 7929 121 772 563 121 775 7823 121 776 
  255 121 777 7927 121 778 7833 121 803 7925 122 769 378 122 770 7825 122 775 380 122 780 382 
  122 803 7827 122 817 7829 168 768 8173 168 769 901 168 834 8129 194 768 7846 194 769 7844 
  194 771 7850 194 777 7848 196 772 478 197 769 506 198 769 508 198 772 482 199 769 7688 202 
  768 7872 202 769 7870 202 771 7876 202 777 7874 207 769 7726 212 768 7890 212 769 7888 212 
  771 7894 212 777 7892 213 769 7756 213 772 556 213 776 7758 214 772 554 216 769 510 220 768 
  475 220 769 471 220 772 469 220 780 473 226 768 7847 226 769 7845 226 771 7851 226 777 7849 
  228 772 479 229 769 507 230 769 509 230 772 483 231 769 7689 234 768 7873 234 769 7871 234 
  771 7877 234 777 7875 239 769 7727 244 768 7891 244 769 7889 244 771 7895 244 777 7893 245 
  769 7757 245 772 557 245 776 7759 246 772 555 248 769 511 252 768 476 252 769 472 252 772 
  470 252 780 474 258 768 7856 258 769 7854 258 771 7860 258 777 7858 259 768 7857 259 769 
  7855 259 771 7861 259 777 7859 274 768 7700 274 769 7702 275 768 7701 275 769 7703 332 768 
  7760 332 769 7762 333 768 7761 333 769 7763 346 775 7780 347 775 7781 352 775 7782 353 775 
  7783 360 769 7800 361 769 7801 362 776 7802 363 776 7803 383 775 7835 416 768 7900 416 769 
  7898 416 771 7904 416 777 7902 416 803 7906 417 768 7901 417 769 7899 417 771 7905 417 777 
  7903 417 803 7907 431 768 7914 431 769 7912 431 771 7918 431 777 7916 431 803 7920 432 768 
  7915 432 769 7913 432 771 7919 432 777 7917 432 803 7921 439 780 494 490 772 492 491 772 
  493 550 772 480 551 772 481 552 774 7708 553 774 7709 558 772 560 559 772 561 658 780 495 
  913 768 8122 913 769 902 913 772 8121 913 774 8120 913 787 7944 913 788 7945 913 837 8124 
  917 768 8136 917 769 904 917 787 7960 917 788 7961 919 768 8138 919 769 905 919 787 7976 
  919 788 7977 919 837 8140 921 768 8154 921 769 906 921 772 8153 921 774 8152 921 776 938 
  921 787 7992 921 788 7993 927 768 8184 927 769 908 927 787 8008 927 788 8009 929 788 8172 
  933 768 8170 933 769 910 933 772 8169 933 774 8168 933 776 939 933 788 8025 937 768 8186 
  937 769 911 937 787 8040 937 788 8041 937 837 8188 940 837 8116 942 837 8132 945 768 8048 
  945 769 940 945 772 8113 945 774 8112 945 787 7936 945 788 7937 945 834 8118 945 837 8115 
  949 768 8050 949 769 941 949 787 7952 949 788 7953 951 768 8052 951 769 942 951 787 7968 
  951 788 7969 951 834 8134 951 837 8131 953 768 8054 953 769 943 953 772 8145 953 774 8144 
  953 776 970 953 787 7984 953 788 7985 953 834 8150 959 768 8056 959 769 972 959 787 8000 
  959 788 8001 961 787 8164 961 788 8165 965 768 8058 965 769 973 965 772 8161 965 774 8160 
  965 776 971 965 787 8016 965 788 8017 965 834 8166 969 768 8060 969 769 974 969 787 8032 
  969 788 8033 969 834 8182 969 837 8179 970 768 8146 970 769 912 970 834 8151 971 768 8162 
  971 769 944 971 834 8167 974 837 8180 978 769 979 978 776 980 1030 776 1031 1040 774 1232 
  1040 776 1234 1043 769 1027 1045 768 1024 1045 774 1238 1045 776 1025 1046 774 1217 1046 
  776 1244 1047 776 1246 1048 768 1037 1048 772 1250 1048 774 1049 1048 776 1252 1050 769 
  1036 1054 776 1254 1059 772 1262 1059 774 1038 1059 776 1264 1059 779 1266 1063 776 1268 
  1067 776 1272 1069 776 1260 1072 774 1233 1072 776 1235 1075 769 1107 1077 768 1104 1077 
  774 1239 1077 776 1105 1078 774 1218 1078 776 1245 1079 776 1247 1080 768 1117 1080 772 
  1251 1080 774 1081 1080 776 1253 1082 769 1116 1086 776 1255 1091 772 1263 1091 774 1118 
  1091 776 1265 1091 779 1267 1095 776 1269 1099 776 1273 1101 776 1261 1110 776 1111 1140 
  783 1142 1141 783 1143 1240 776 1242 1241 776 1243 1256 776 1258 1257 776 1259 1575 1619 
  1570 1575 1620 1571 1575 1621 1573 1608 1620 1572 1610 1620 1574 1729 1620 1730 1746 1620 
  1747 1749 1620 1728 2344 2364 2345 2352 2364 2353 2355 2364 2356 2503 2494 2507 2503 2519 
  2508 2887 2878 2891 2887 2902 2888 2887 2903 2892 2962 3031 2964 3014 3006 3018 3014 3031 
  3020 3015 3006 3019 3142 3158 3144 3263 3285 3264 3270 3266 3274 3270 3285 3271 3270 3286 
  3272 3274 3285 3275 3398 3390 3402 3398 3415 3404 3399 3390 3403 3545 3530 3546 3545 3535 
  3548 3545 3551 3550 3548 3530 3549 4133 4142 4134 6917 6965 6918 6919 6965 6920 6921 6965 
  6922 6923 6965 6924 6925 6965 6926 6929 6965 6930 6970 6965 6971 6972 6965 6973 6974 6965 
  6976 6975 6965 6977 6978 6965 6979 7734 772 7736 7735 772 7737 7770 772 7772 7771 772 7773 
  7778 775 7784 7779 775 7785 7840 770 7852 7840 774 7862 7841 770 7853 7841 774 7863 7864 
  770 7878 7865 770 7879 7884 770 7896 7885 770 7897 7936 768 7938 7936 769 7940 7936 834 
  7942 7936 837 8064 7937 768 7939 7937 769 7941 7937 834 7943 7937 837 8065 7938 837 8066 
  7939 837 8067 7940 837 8068 7941 837 8069 7942 837 8070 7943 837 8071 7944 768 7946 7944 
  769 7948 7944 834 7950 7944 837 8072 7945 768 7947 7945 769 7949 7945 834 7951 7945 837 
  8073 7946 837 8074 7947 837 8075 7948 837 8076 7949 837 8077 7950 837 8078 7951 837 8079 
  7952 768 7954 7952 769 7956 7953 768 7955 7953 769 7957 7960 768 7962 7960 769 7964 7961 
  768 7963 7961 769 7965 7968 768 7970 7968 769 7972 7968 834 7974 7968 837 8080 7969 768 
  7971 7969 769 7973 7969 834 7975 7969 837 8081 7970 837 8082 7971 837 8083 7972 837 8084 
  7973 837 8085 7974 837 8086 7975 837 8087 7976 768 7978 7976 769 7980 7976 834 7982 7976 
  837 8088 7977 768 7979 7977 769 7981 7977 834 7983 7977 837 8089 7978 837 8090 7979 837 
  8091 7980 837 8092 7981 837 8093 7982 837 8094 7983 837 8095 7984 768 7986 7984 769 7988 
  7984 834 7990 7985 768 7987 7985 769 7989 7985 834 7991 7992 768 7994 7992 769 7996 7992 
  834 7998 7993 768 7995 7993 769 7997 7993 834 7999 8000 768 8002 8000 769 8004 8001 768 
  8003 8001 769 8005 8008 768 8010 8008 769 8012 8009 768 8011 8009 769 8013 8016 768 8018 
  8016 769 8020 8016 834 8022 8017 768 8019 8017 769 8021 8017 834 8023 8025 768 8027 8025 
  769 8029 8025 834 8031 8032 768 8034 8032 769 8036 8032 834 8038 8032 837 8096 8033 768 
  8035 8033 769 8037 8033 834 8039 8033 837 8097 8034 837 8098 8035 837 8099 8036 837 8100 
  8037 837 8101 8038 837 8102 8039 837 8103 8040 768 8042 8040 769 8044 8040 834 8046 8040 
  837 8104 8041 768 8043 8041 769 8045 8041 834 8047 8041 837 8105 8042 837 8106 8043 837 
  8107 8044 837 8108 8045 837 8109 8046 837 8110 8047 837 8111 8048 837 8114 8052 837 8130 
  8060 837 8178 8118 837 8119 8127 768 8141 8127 769 8142 8127 834 8143 8134 837 8135 8182 
  837 8183 8190 768 8157 8190 769 8158 8190 834 8159 8592 824 8602 8594 824 8603 8596 824 
  8622 8656 824 8653 8658 824 8655 8660 824 8654 8707 824 8708 8712 824 8713 8715 824 8716 
  8739 824 8740 8741 824 8742 8764 824 8769 8771 824 8772 8773 824 8775 8776 824 8777 8781 
  824 8813 8801 824 8802 8804 824 8816 8805 824 8817 8818 824 8820 8819 824 8821 8822 824 
  8824 8823 824 8825 8826 824 8832 8827 824 8833 8828 824 8928 8829 824 8929 8834 824 8836 
  8835 824 8837 8838 824 8840 8839 824 8841 8849 824 8930 8850 824 8931 8866 824 8876 8872 
  824 8877 8873 824 8878 8875 824 8879 8882 824 8938 8883 824 8939 8884 824 8940 8885 824 
  8941 12358 12441 12436 12363 12441 12364 12365 12441 12366 12367 12441 12368 12369 12441 
  12370 12371 12441 12372 12373 12441 12374 12375 12441 12376 12377 12441 12378 12379 12441 
  12380 12381 12441 12382 12383 12441 12384 12385 12441 12386 12388 12441 12389 12390 12441 
  12391 12392 12441 12393 12399 12441 12400 12399 12442 12401 12402 12441 12403 12402 12442 
  12404 12405 12441 12406 12405 12442 12407 12408 12441 12409 12408 12442 12410 12411 12441 
  12412 12411 12442 12413 12445 12441 12446 12454 12441 12532 12459 12441 12460 12461 12441 
  12462 12463 12441 12464 12465 12441 12466 12467 12441 12468 12469 12441 12470 12471 12441 
  12472 12473 12441 12474 12475 12441 12476 12477 12441 12478 12479 12441 12480 12481 12441 
  12482 12484 12441 12485 12486 12441 12487 12488 12441 12489 12495 12441 12496 12495 12442 
  12497 12498 12441 12499 12498 12442 12500 12501 12441 12502 12501 12442 12503 12504 12441 
  12505 12504 12442 12506 12507 12441 12508 12507 12442 12509 12527 12441 12535 12528 12441 
  12536 12529 12441 12537 12530 12441 12538 12541 12441 12542 67026 775 67017 67034 775 67044 
  69785 69818 69786 69787 69818 69788 69797 69818 69803 69937 69927 69934 69938 69927 69935 
  70471 70462 70475 70471 70487 70476 70530 70601 70531 70532 70587 70533 70539 70594 70542 
  70544 70601 70545 70594 70584 70599 70594 70594 70597 70594 70601 70600 70841 70832 70844 
  70841 70842 70843 70841 70845 70846 71096 71087 71098 71097 71087 71099 71989 71984 71992 
  90398 90398 90401 90398 90399 90403 90398 90400 90405 90398 90409 90402 90401 90399 90406 
  90401 90400 90408 90402 90399 90407 90409 90399 90404 93539 93543 93545 93543 93543 93544 
  93545 93543 93546"

/-- Runs with their first code points, lengths and classes. -/
def combiningRunsFrom (start : Nat) : List Nat → List (Nat × Nat × Nat)
  | gap :: length :: k :: rest =>
    (start + gap, length, k) :: combiningRunsFrom (start + gap + length) rest
  | _ => []

def combiningRuns : Array (Nat × Nat × Nat) :=
  (combiningRunsFrom 0 (numbers combiningText)).toArray

/-- The combining class of a code point. -/
def combiningClass (n : Nat) : Nat :=
  match lastStart (·.1) combiningRuns n with
  | some (first, length, k) => if n < first + length then k else 0
  | none => 0

def decompositionTable : Array (Nat × List Nat) :=
  let long := numbers decompositionText
  ((orbitsOfList long.length long).filterMap fun
    | c :: form => some (c, form)
    | [] => none).toArray

/-- First characters with second ones and composites. -/
def triples : List Nat → List (Nat × Nat × Nat)
  | a :: b :: c :: rest => (a, b, c) :: triples rest
  | _ => []

def compositionTable : Array (Nat × Nat × Nat) := (triples (numbers compositionText)).toArray

/-! ## §2. Decomposition and composition. -/

/-- The full canonical decomposition of a code point. -/
def decompose (n : Nat) : List Nat :=
  if 0xac00 ≤ n ∧ n ≤ 0xd7a3 then
    let s := n - 0xac00
    let front := [0x1100 + s / 588, 0x1161 + s % 588 / 28]
    if s % 28 = 0 then front else front ++ [0x11a7 + s % 28]
  else match lastStart (·.1) decompositionTable n with
    | some (m, form) => if m = n then form else [n]
    | none => [n]

/-- The composite of two code points. -/
def compose? (a b : Nat) : Option Nat :=
  if 0x1100 ≤ a ∧ a < 0x1113 ∧ 0x1161 ≤ b ∧ b < 0x1176 then
    some (0xac00 + (a - 0x1100) * 588 + (b - 0x1161) * 28)
  else if 0xac00 ≤ a ∧ a ≤ 0xd7a3 ∧ (a - 0xac00) % 28 = 0 ∧ 0x11a8 ≤ b ∧ b < 0x11c3 then
    some (a + (b - 0x11a7))
  else (compositionTable.find? fun t => t.1 == a && t.2.1 == b).map (·.2.2)

/-- Put a mark of class `k` in front of marks of higher class that end the text
given in reverse. -/
def placeMark (k n : Nat) : List Nat → List Nat
  | [] => [n]
  | m :: rest =>
    if 0 < k && k < combiningClass m then m :: placeMark k n rest else n :: m :: rest

/-- The canonical decomposition of a text. -/
def decomposeAll (ns : List Nat) : List Nat :=
  ((ns.flatMap decompose).foldl (fun acc n => placeMark (combiningClass n) n acc) []).reverse

/-- Compose the rest of a text with its last starter.  `between` holds, in
reverse, what stands after the starter; `blocked` is the greatest class met
there, if anything is there. -/
def composeFrom (starter : Nat) (between : List Nat) (blocked : Option Nat) :
    List Nat → List Nat
  | [] => starter :: between.reverse
  | n :: rest =>
    let k := combiningClass n
    let free := match blocked with
      | none => true
      | some b => b < k
    match if free then compose? starter n else none with
    | some c => composeFrom c between blocked rest
    | none =>
      if k = 0 then starter :: (between.reverse ++ composeFrom n [] none rest)
      else composeFrom starter (n :: between) (some k) rest

/-- Compose a decomposed text. -/
def composeAll : List Nat → List Nat
  | [] => []
  | n :: rest =>
    if combiningClass n = 0 then composeFrom n [] none rest else n :: composeAll rest

/-- The normal form C of a text. -/
def normalForm (ns : List Nat) : List Nat := composeAll (decomposeAll ns)

end ApiPlaybook.Unicode
