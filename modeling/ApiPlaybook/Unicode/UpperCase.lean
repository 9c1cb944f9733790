/-
  ApiPlaybook.Unicode.UpperCase
  ─────────────────────────────
  **UPPER CASE.**

  The upper-case form of a character may be several characters, as for the
  sharp s.
-/
import ApiPlaybook.Unicode.Table
import ApiPlaybook.Unicode.Folding

namespace ApiPlaybook.Unicode

/-- Runs of characters whose upper-case form has a smaller code point: first
code point, count, step and distance. -/
def upperFallingText : String :=
  "224 23 1 32 248 7 1 32 257 24 2 1 305 1 1 232 307 3 2 1 314 8 2 1 331 23 2 1 378 3 2 1 383 
  1 1 300 387 2 2 1 392 1 1 1 396 1 1 1 402 1 1 1 409 1 1 1 417 3 2 1 424 1 1 1 429 1 1 1 432 
  1 1 1 436 2 2 1 441 1 1 1 445 1 1 1 453 1 1 1 454 1 1 2 456 1 1 1 457 1 1 2 459 1 1 1 460 1 
  1 2 462 8 2 1 477 1 1 79 479 9 2 1 498 1 1 1 499 1 1 2 501 1 1 1 505 20 2 1 547 9 2 1 572 1 
  1 1 578 1 1 1 583 5 2 1 595 1 1 210 596 1 1 206 598 2 1 205 601 1 1 202 603 1 1 203 608 1 1 
  205 611 1 1 207 616 1 1 209 617 1 1 211 623 1 1 211 626 1 1 213 629 1 1 214 640 1 1 218 643 
  1 1 218 648 1 1 218 649 1 1 69 650 2 1 217 652 1 1 71 658 1 1 219 881 2 2 1 887 1 1 1 940 1 
  1 38 941 3 1 37 945 17 1 32 962 1 1 31 963 9 1 32 972 1 1 64 973 2 1 63 976 1 1 62 977 1 1 
  57 981 1 1 47 982 1 1 54 983 1 1 8 985 12 2 1 1008 1 1 86 1009 1 1 80 1011 1 1 116 1013 1 1 
  96 1016 1 1 1 1019 1 1 1 1072 32 1 32 1104 16 1 80 1121 17 2 1 1163 27 2 1 1218 7 2 1 1231 
  1 1 15 1233 48 2 1 1377 38 1 48 5112 6 1 8 7296 1 1 6254 7297 1 1 6253 7298 1 1 6244 7299 2 
  1 6242 7301 1 1 6243 7302 1 1 6236 7303 1 1 6181 7306 1 1 1 7681 75 2 1 7835 1 1 59 7841 48 
  2 1 8126 1 1 7205 8526 1 1 28 8560 16 1 16 8580 1 1 1 9424 26 1 26 11312 48 1 48 11361 1 1 
  1 11365 1 1 10795 11366 1 1 10792 11368 3 2 1 11379 1 1 1 11382 1 1 1 11393 50 2 1 11500 2 
  2 1 11507 1 1 1 11520 38 1 7264 11559 1 1 7264 11565 1 1 7264 42561 23 2 1 42625 14 2 1 
  42787 7 2 1 42803 31 2 1 42874 2 2 1 42879 5 2 1 42892 1 1 1 42897 2 2 1 42903 10 2 1 42933 
  8 2 1 42952 2 2 1 42957 1 1 1 42961 6 2 1 42998 1 1 1 43859 1 1 928 43888 80 1 38864 65345 
  26 1 32 66600 40 1 40 66776 36 1 40 66967 11 1 39 66979 15 1 39 66995 7 1 39 67003 2 1 39 
  68800 51 1 64 68976 22 1 32 71872 32 1 32 93792 32 1 32 125218 34 1 34"

/-- Runs of characters whose upper-case form has a greater code point. -/
def upperRisingText : String :=
  "181 1 1 743 255 1 1 121 384 1 1 195 405 1 1 97 410 1 1 163 411 1 1 42561 414 1 1 130 447 1 
  1 56 575 2 1 10815 592 1 1 10783 593 1 1 10780 594 1 1 10782 604 1 1 42319 609 1 1 42315 
  612 1 1 42343 613 1 1 42280 614 1 1 42308 618 1 1 42308 619 1 1 10743 620 1 1 42305 625 1 1 
  10749 637 1 1 10727 642 1 1 42307 647 1 1 42282 669 1 1 42261 670 1 1 42258 837 1 1 84 891 
  3 1 130 1010 1 1 7 4304 43 1 3008 4349 3 1 3008 7304 1 1 35266 7545 1 1 35332 7549 1 1 3814 
  7566 1 1 35384 7936 8 1 8 7952 6 1 8 7968 8 1 8 7984 8 1 8 8000 6 1 8 8017 4 2 8 8032 8 1 8 
  8048 2 1 74 8050 4 1 86 8054 2 1 100 8056 2 1 128 8058 2 1 112 8060 2 1 126 8112 2 1 8 8144 
  2 1 8 8160 2 1 8 8165 1 1 7 42900 1 1 48"

/-- Characters with several characters as upper-case form: the number of code
points, the character and its form. -/
def upperLongText : String :=
  "3 223 83 83 3 329 700 78 3 496 74 780 4 912 921 776 769 4 944 933 776 769 3 1415 1333 1362 
  3 7830 72 817 3 7831 84 776 3 7832 87 778 3 7833 89 778 3 7834 65 702 3 8016 933 787 4 8018 
  933 787 768 4 8020 933 787 769 4 8022 933 787 834 3 8064 7944 921 3 8065 7945 921 3 8066 
  7946 921 3 8067 7947 921 3 8068 7948 921 3 8069 7949 921 3 8070 7950 921 3 8071 7951 921 3 
  8072 7944 921 3 8073 7945 921 3 8074 7946 921 3 8075 7947 921 3 8076 7948 921 3 8077 7949 
  921 3 8078 7950 921 3 8079 7951 921 3 8080 7976 921 3 8081 7977 921 3 8082 7978 921 3 8083 
  7979 921 3 8084 7980 921 3 8085 7981 921 3 8086 7982 921 3 8087 7983 921 3 8088 7976 921 3 
  8089 7977 921 3 8090 7978 921 3 8091 7979 921 3 8092 7980 921 3 8093 7981 921 3 8094 7982 
  921 3 8095 7983 921 3 8096 8040 921 3 8097 8041 921 3 8098 8042 921 3 8099 8043 921 3 8100 
  8044 921 3 8101 8045 921 3 8102 8046 921 3 8103 8047 921 3 8104 8040 921 3 8105 8041 921 3 
  8106 8042 921 3 8107 8043 921 3 8108 8044 921 3 8109 8045 921 3 8110 8046 921 3 8111 8047 
  921 3 8114 8122 921 3 8115 913 921 3 8116 902 921 3 8118 913 834 4 8119 913 834 921 3 8124 
  913 921 3 8130 8138 921 3 8131 919 921 3 8132 905 921 3 8134 919 834 4 8135 919 834 921 3 
  8140 919 921 4 8146 921 776 768 4 8147 921 776 769 3 8150 921 834 4 8151 921 776 834 4 8162 
  933 776 768 4 8163 933 776 769 3 8164 929 787 3 8166 933 834 4 8167 933 776 834 3 8178 8186 
  921 3 8179 937 921 3 8180 911 921 3 8182 937 834 4 8183 937 834 921 3 8188 937 921 3 64256 
  70 70 3 64257 70 73 3 64258 70 76 4 64259 70 70 73 4 64260 70 70 76 3 64261 83 84 3 64262 
  83 84 3 64275 1348 1350 3 64276 1348 1333 3 64277 1348 1339 3 64278 1358 1350 3 64279 1348 
  1341"

/-- The characters of runs with their upper-case forms. -/
def upperOfRuns (move : Nat → Nat → Nat) : List Nat → List (Nat × List Nat)
  | first :: count :: step :: distance :: rest =>
    ((List.range count).map fun i => (first + i * step, [move (first + i * step) distance]))
      ++ upperOfRuns move rest
  | _ => []

/-- The characters beyond ASCII that are no upper-case forms of themselves. -/
def upperTable : Array (Nat × List Nat) :=
  let long := numbers upperLongText
  let longs := (orbitsOfList long.length long).filterMap fun
    | c :: form => some (c, form)
    | [] => none
  (upperOfRuns (· - ·) (numbers upperFallingText)
    ++ upperOfRuns (· + ·) (numbers upperRisingText) ++ longs).toArray.qsort
      fun a b => a.1 < b.1

/-- The upper-case form of a character. -/
def upperChar (c : Char) : List Char :=
  if c.toNat < 0x80 then [c.toUpper]
  else match lastStart (·.1) upperTable c.toNat with
    | some (n, form) => if n = c.toNat then form.map Char.ofNat else [c]
    | none => [c]

/-- A text in upper case. -/
def upperText (s : String) : String := String.ofList (s.toList.flatMap upperChar)

end ApiPlaybook.Unicode
