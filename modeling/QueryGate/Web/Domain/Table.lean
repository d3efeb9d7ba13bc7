import QueryGate.Text.Class

/-!
# Characters of domain names

The properties of characters on which the rules for labels depend: which characters a label may
hold, how they are directed and joined, and which belong to some scripts. A table other than
`validRuns` is exact only for characters that a label may hold.
-/

set_option autoImplicit false

namespace QueryGate.Domain

def validRuns : List Nat := [
  45, 1, 2, 10, 39, 26, 100, 24, 1, 8, 1, 1, 1, 1, 1, 1, 1, 1, 1, 1, 1, 1, 1, 1, 1, 1, 1, 1, 1, 1,
  1, 1, 1, 1, 1, 1, 1, 1, 1, 1, 1, 1, 1, 1, 1, 1, 1, 1, 1, 1, 1, 1, 1, 1, 1, 1, 1, 1, 1, 1, 3, 1,
  1, 2, 1, 1, 1, 1, 1, 1, 3, 1, 1, 1, 1, 1, 1, 1, 2, 1, 1, 1, 1, 1, 1, 1, 1, 1, 1, 1, 1, 1, 1, 1,
  1, 1, 1, 1, 1, 1, 1, 1, 1, 1, 1, 1, 1, 1, 1, 1, 1, 1, 1, 1, 1, 1, 1, 1, 1, 1, 1, 1, 1, 1, 2, 1,
  1, 1, 1, 1, 1, 1, 2, 1, 1, 1, 2, 1, 3, 2, 4, 1, 2, 1, 3, 3, 2, 1, 2, 1, 1, 1, 1, 1, 2, 1, 1, 2,
  1, 1, 2, 1, 3, 1, 1, 1, 2, 3, 1, 7, 10, 1, 1, 1, 1, 1, 1, 1, 1, 1, 1, 1, 1, 1, 1, 2, 1, 1, 1, 1,
  1, 1, 1, 1, 1, 1, 1, 1, 1, 1, 1, 1, 1, 2, 4, 1, 3, 1, 1, 1, 1, 1, 1, 1, 1, 1, 1, 1, 1, 1, 1, 1,
  1, 1, 1, 1, 1, 1, 1, 1, 1, 1, 1, 1, 1, 1, 1, 1, 1, 1, 1, 1, 1, 1, 1, 1, 1, 1, 1, 1, 1, 1, 1, 1,
  1, 1, 1, 1, 1, 1, 1, 1, 1, 1, 1, 7, 2, 1, 2, 2, 1, 1, 4, 1, 1, 1, 1, 1, 1, 1, 1, 97, 9, 9, 4,
  12, 26, 1, 1, 1, 17, 64, 2, 1, 3, 9, 1, 32, 1, 1, 1, 1, 3, 1, 3, 3, 18, 1, 27, 35, 8, 1, 1, 1,
  1, 1, 1, 1, 1, 1, 1, 1, 1, 1, 1, 1, 1, 1, 1, 1, 1, 1, 1, 1, 1, 1, 3, 1, 4, 1, 2, 2, 51, 48, 1,
  1, 1, 1, 1, 1, 1, 1, 1, 1, 1, 1, 1, 1, 1, 1, 1, 1, 1, 1, 1, 1, 1, 1, 1, 1, 1, 1, 1, 1, 1, 1, 1,
  1, 1, 5, 3, 1, 1, 1, 1, 1, 1, 1, 1, 1, 1, 1, 1, 1, 1, 1, 1, 1, 1, 1, 1, 1, 1, 1, 1, 1, 1, 1, 1,
  1, 1, 1, 1, 1, 1, 1, 1, 1, 1, 1, 1, 1, 1, 1, 1, 1, 1, 1, 1, 1, 1, 1, 1, 1, 2, 1, 1, 1, 1, 1, 1,
  1, 1, 1, 1, 1, 1, 2, 1, 1, 1, 1, 1, 1, 1, 1, 1, 1, 1, 1, 1, 1, 1, 1, 1, 1, 1, 1, 1, 1, 1, 1, 1,
  1, 1, 1, 1, 1, 1, 1, 1, 1, 1, 1, 1, 1, 1, 1, 1, 1, 1, 1, 1, 1, 1, 1, 1, 1, 1, 1, 1, 1, 1, 1, 1,
  1, 1, 1, 1, 1, 1, 1, 1, 1, 1, 1, 1, 1, 1, 1, 1, 1, 1, 1, 1, 1, 1, 1, 1, 1, 1, 1, 1, 1, 1, 1, 1,
  1, 1, 1, 1, 1, 1, 1, 41, 1, 6, 39, 1, 1, 8, 45, 1, 1, 1, 2, 1, 2, 1, 1, 8, 27, 4, 4, 29, 11, 5,
  32, 1, 31, 14, 7, 4, 91, 1, 8, 2, 10, 1, 6, 10, 6, 16, 59, 2, 101, 14, 54, 7, 1, 2, 46, 18, 28,
  4, 11, 5, 24, 1, 6, 9, 74, 1, 117, 8, 4, 2, 10, 1, 19, 1, 8, 2, 2, 2, 22, 1, 7, 1, 1, 3, 4, 2,
  9, 2, 2, 2, 4, 8, 1, 8, 4, 2, 12, 10, 1, 1, 1, 2, 3, 1, 6, 4, 2, 2, 22, 1, 7, 1, 1, 2, 1, 2, 2,
  2, 1, 1, 5, 4, 2, 2, 3, 3, 1, 10, 1, 9, 16, 11, 3, 1, 9, 1, 3, 1, 22, 1, 7, 1, 2, 1, 5, 2, 10,
  1, 3, 1, 3, 2, 1, 15, 4, 2, 10, 9, 7, 1, 3, 1, 8, 2, 2, 2, 22, 1, 7, 1, 2, 1, 5, 2, 9, 2, 2, 2,
  3, 7, 3, 7, 5, 2, 10, 1, 1, 16, 2, 1, 6, 3, 3, 1, 4, 3, 2, 1, 1, 1, 2, 3, 2, 3, 3, 3, 12, 4, 5,
  3, 3, 1, 4, 2, 1, 6, 1, 14, 10, 16, 13, 1, 3, 1, 23, 1, 16, 2, 9, 1, 3, 1, 4, 7, 2, 1, 3, 2, 1,
  2, 4, 2, 10, 16, 4, 1, 8, 1, 3, 1, 23, 1, 10, 1, 5, 2, 9, 1, 3, 1, 4, 7, 2, 6, 2, 1, 4, 2, 10,
  1, 2, 13, 13, 1, 3, 1, 51, 1, 3, 1, 5, 5, 4, 7, 5, 2, 10, 10, 6, 1, 3, 1, 18, 3, 24, 1, 9, 1, 1,
  2, 7, 3, 1, 4, 6, 1, 1, 1, 8, 6, 10, 2, 2, 13, 50, 1, 7, 5, 15, 1, 10, 39, 2, 1, 1, 1, 5, 1, 24,
  1, 1, 1, 12, 1, 10, 2, 5, 1, 1, 1, 6, 2, 10, 4, 2, 32, 1, 10, 1, 12, 2, 6, 10, 11, 1, 1, 1, 1,
  1, 4, 5, 1, 4, 1, 4, 1, 4, 1, 4, 1, 4, 1, 12, 1, 3, 4, 2, 1, 1, 5, 7, 1, 3, 1, 13, 1, 4, 1, 4,
  1, 4, 1, 4, 1, 4, 1, 12, 1, 3, 9, 1, 57, 74, 6, 78, 50, 43, 2, 3, 256, 73, 1, 4, 2, 7, 1, 1, 1,
  4, 2, 41, 1, 4, 2, 33, 1, 4, 2, 7, 1, 1, 1, 4, 2, 15, 1, 57, 1, 4, 2, 67, 2, 3, 32, 16, 16, 86,
  11, 620, 2, 17, 1, 26, 5, 75, 6, 8, 7, 22, 9, 22, 11, 20, 12, 13, 1, 3, 1, 2, 12, 52, 2, 30, 3,
  1, 4, 2, 2, 10, 38, 10, 6, 89, 7, 43, 5, 70, 10, 31, 1, 12, 4, 12, 10, 40, 2, 5, 11, 44, 4, 26,
  6, 10, 38, 28, 4, 63, 1, 29, 2, 11, 6, 10, 13, 1, 8, 14, 1, 16, 49, 77, 3, 10, 17, 9, 12, 116,
  12, 56, 8, 10, 3, 49, 82, 3, 1, 39, 5, 44, 3, 1, 11, 1, 18, 1, 28, 13, 1, 34, 37, 64, 1, 1, 1,
  1, 1, 1, 1, 1, 1, 1, 1, 1, 1, 1, 1, 1, 1, 1, 1, 1, 1, 1, 1, 1, 1, 1, 1, 1, 1, 1, 1, 1, 1, 1, 1,
  1, 1, 1, 1, 1, 1, 1, 1, 1, 1, 1, 1, 1, 1, 1, 1, 1, 1, 1, 1, 1, 1, 1, 1, 1, 1, 1, 1, 1, 1, 1, 1,
  1, 1, 1, 1, 1, 1, 1, 1, 1, 1, 1, 1, 1, 1, 1, 1, 1, 1, 1, 1, 1, 1, 1, 1, 1, 1, 1, 1, 1, 1, 1, 1,
  1, 1, 1, 1, 1, 1, 1, 1, 1, 1, 1, 1, 1, 1, 1, 1, 1, 1, 1, 1, 1, 1, 1, 1, 1, 1, 1, 1, 1, 1, 1, 1,
  1, 1, 1, 1, 1, 1, 1, 1, 1, 1, 1, 1, 1, 1, 1, 1, 1, 1, 5, 2, 2, 1, 1, 1, 1, 1, 1, 1, 1, 1, 1, 1,
  1, 1, 1, 1, 1, 1, 1, 1, 1, 1, 1, 1, 1, 1, 1, 1, 1, 1, 1, 1, 1, 1, 1, 1, 1, 1, 1, 1, 1, 1, 1, 1,
  1, 1, 1, 1, 1, 1, 1, 1, 1, 1, 1, 1, 1, 1, 1, 1, 1, 1, 1, 1, 1, 1, 1, 1, 1, 1, 1, 1, 1, 1, 1, 1,
  1, 1, 1, 1, 1, 1, 1, 1, 1, 1, 1, 1, 1, 1, 1, 1, 1, 1, 1, 1, 1, 1, 9, 8, 6, 10, 8, 8, 8, 8, 6,
  10, 8, 8, 8, 8, 1, 1, 1, 1, 1, 1, 1, 1, 1, 1, 1, 1, 1, 51, 2, 4, 1, 15, 1, 9, 3, 3, 2, 8, 3, 1,
  4, 14, 1, 343, 1, 53, 1, 2731, 48, 1, 1, 3, 2, 1, 1, 1, 1, 1, 1, 4, 1, 1, 2, 1, 6, 5, 1, 1, 1,
  1, 1, 1, 1, 1, 1, 1, 1, 1, 1, 1, 1, 1, 1, 1, 1, 1, 1, 1, 1, 1, 1, 1, 1, 1, 1, 1, 1, 1, 1, 1, 1,
  1, 1, 1, 1, 1, 1, 1, 1, 1, 1, 1, 1, 1, 1, 1, 1, 1, 1, 1, 1, 1, 1, 1, 1, 1, 1, 1, 1, 1, 1, 1, 1,
  1, 1, 1, 1, 1, 1, 1, 1, 1, 1, 1, 1, 1, 1, 1, 1, 1, 1, 1, 1, 1, 1, 1, 1, 1, 1, 1, 1, 1, 1, 1, 2,
  7, 1, 1, 4, 1, 1, 12, 38, 1, 1, 5, 1, 2, 56, 23, 24, 9, 7, 1, 7, 1, 7, 1, 7, 1, 7, 1, 7, 1, 7,
  1, 7, 1, 32, 47, 1, 469, 3, 34, 4, 14, 1, 4, 86, 2, 2, 2, 2, 2, 90, 1, 3, 6, 43, 112, 32, 48,
  16, 512, 6592, 64, 22157, 67, 46, 2, 269, 3, 28, 21, 1, 1, 1, 1, 1, 1, 1, 1, 1, 1, 1, 1, 1, 1,
  1, 1, 1, 1, 1, 1, 1, 1, 1, 1, 1, 1, 1, 1, 1, 1, 1, 1, 1, 1, 1, 1, 1, 1, 1, 1, 1, 1, 1, 1, 3, 4,
  10, 1, 1, 1, 1, 1, 1, 1, 1, 1, 1, 1, 1, 1, 1, 1, 1, 1, 1, 1, 1, 1, 1, 1, 1, 1, 1, 1, 1, 1, 1, 2,
  72, 10, 2, 37, 9, 3, 1, 1, 1, 1, 1, 1, 1, 1, 1, 1, 1, 1, 3, 1, 1, 1, 1, 1, 1, 1, 1, 1, 1, 1, 1,
  1, 1, 1, 1, 1, 1, 1, 1, 1, 1, 1, 1, 1, 1, 1, 1, 1, 1, 1, 1, 1, 1, 1, 1, 1, 1, 1, 1, 1, 1, 1, 1,
  1, 1, 1, 1, 1, 1, 1, 1, 1, 1, 1, 1, 1, 1, 1, 1, 1, 1, 1, 8, 1, 1, 1, 1, 2, 1, 1, 1, 1, 1, 1, 1,
  1, 2, 3, 1, 1, 2, 1, 1, 1, 3, 1, 1, 1, 1, 1, 1, 1, 1, 1, 1, 1, 1, 1, 1, 1, 1, 1, 1, 1, 1, 5, 1,
  5, 1, 1, 1, 1, 1, 1, 1, 1, 1, 1, 1, 1, 1, 1, 1, 4, 1, 1, 1, 6, 1, 1, 1, 1, 1, 1, 1, 1, 1, 28, 2,
  2, 46, 4, 1, 19, 52, 12, 70, 10, 10, 6, 24, 3, 1, 1, 49, 2, 36, 44, 65, 14, 11, 6, 31, 1, 55, 9,
  14, 2, 10, 6, 23, 3, 73, 24, 3, 2, 16, 2, 5, 10, 6, 2, 6, 2, 6, 9, 7, 1, 7, 1, 43, 5, 9, 87, 43,
  1, 2, 2, 10, 6, 11172, 8810, 2, 1, 1, 1, 2, 10, 1, 1, 1, 1, 2, 2, 3, 244, 1, 769, 16, 67, 1,
  396, 12, 1, 26, 1, 19, 1, 2, 1, 15, 2, 14, 34, 123, 258, 1, 130, 29, 3, 49, 15, 1, 31, 32, 13,
  20, 1, 8, 6, 43, 5, 30, 2, 36, 4, 8, 88, 118, 2, 10, 46, 36, 4, 40, 8, 52, 51, 11, 1, 15, 1, 7,
  1, 2, 67, 311, 9, 22, 10, 8, 24, 1, 127, 6, 2, 1, 1, 44, 1, 2, 3, 1, 2, 23, 10, 23, 9, 31, 65,
  19, 1, 2, 10, 22, 10, 26, 70, 56, 6, 2, 64, 4, 1, 2, 5, 8, 1, 3, 1, 29, 2, 3, 4, 1, 32, 29, 3,
  29, 35, 8, 1, 30, 25, 54, 10, 22, 10, 19, 13, 18, 110, 73, 119, 51, 13, 40, 8, 10, 326, 42, 1,
  2, 3, 2, 78, 29, 10, 1, 8, 33, 31, 22, 42, 21, 27, 23, 9, 71, 31, 16, 9, 60, 7, 1, 13, 25, 7,
  10, 6, 53, 1, 10, 4, 4, 8, 36, 2, 1, 9, 69, 4, 4, 1, 13, 1, 1, 35, 18, 1, 37, 6, 1, 65, 7, 1, 1,
  1, 4, 1, 15, 1, 10, 7, 59, 5, 10, 6, 4, 1, 8, 2, 2, 2, 22, 1, 7, 1, 2, 1, 5, 1, 10, 2, 2, 2, 3,
  2, 1, 6, 1, 5, 7, 2, 7, 3, 5, 139, 75, 5, 10, 4, 4, 30, 70, 1, 1, 8, 10, 166, 54, 2, 9, 23, 6,
  34, 65, 3, 1, 11, 10, 38, 57, 7, 10, 54, 27, 2, 15, 4, 10, 6, 7, 185, 59, 133, 42, 21, 8, 2, 1,
  2, 8, 1, 2, 1, 30, 1, 2, 2, 9, 12, 10, 70, 8, 2, 46, 2, 8, 1, 2, 27, 63, 8, 1, 8, 74, 3, 1, 18,
  73, 263, 9, 1, 45, 1, 9, 15, 10, 24, 30, 2, 22, 1, 14, 73, 7, 1, 2, 1, 44, 3, 1, 1, 2, 1, 9, 8,
  10, 6, 6, 1, 2, 1, 37, 1, 2, 1, 6, 7, 10, 310, 23, 185, 1, 79, 922, 230, 196, 2636, 97, 15,
  1071, 4049, 583, 8633, 569, 7, 31, 1, 10, 6, 79, 1, 10, 6, 30, 2, 5, 11, 55, 9, 4, 12, 10, 9,
  21, 5, 19, 720, 32, 128, 75, 4, 57, 7, 17, 64, 2, 1, 2, 11, 2, 14, 6136, 8, 1238, 42, 9, 8935,
  4, 1, 7, 1, 2, 1, 291, 45, 3, 17, 4, 8, 396, 2308, 107, 5, 13, 3, 9, 7, 10, 3, 2, 4705, 46, 2,
  23, 2745, 55, 4, 50, 8, 1, 14, 1, 22, 5, 1, 15, 1104, 31, 225, 7, 1, 17, 2, 7, 1, 2, 1, 5, 213,
  45, 3, 14, 2, 10, 4, 1, 321, 31, 17, 58, 1254, 7, 1, 4, 1, 2, 1, 15, 1, 197, 11, 7, 75, 42, 4,
  10, 5798, 42720, 32, 4153, 7, 222, 2, 5762, 14, 7473, 5151, 4939
]

def markRuns : List Nat := [
  768, 112, 275, 5, 265, 55, 72, 11, 48, 21, 16, 1, 101, 15, 2, 7, 35, 1, 30, 27, 91, 11, 58, 9,
  9, 1, 24, 4, 1, 9, 1, 3, 1, 5, 43, 3, 60, 8, 42, 58, 54, 3, 1, 18, 1, 7, 10, 2, 29, 3, 56, 1, 1,
  16, 9, 1, 10, 2, 26, 6, 56, 22, 30, 2, 3, 15, 56, 1, 1, 16, 20, 2, 22, 10, 56, 1, 1, 26, 10, 2,
  30, 1, 59, 16, 9, 1, 40, 5, 55, 1, 1, 25, 11, 2, 29, 3, 56, 1, 1, 25, 11, 2, 28, 4, 55, 2, 1,
  16, 9, 1, 10, 2, 29, 3, 70, 22, 18, 2, 61, 1, 2, 7, 12, 8, 98, 1, 2, 9, 11, 6, 74, 2, 27, 11,
  49, 23, 5, 58, 100, 20, 23, 4, 4, 3, 1, 3, 2, 7, 3, 4, 13, 12, 1, 1, 10, 4, 703, 3, 946, 4, 28,
  3, 29, 2, 30, 2, 66, 30, 9, 1, 167, 2, 34, 1, 118, 28, 219, 5, 57, 43, 48, 85, 47, 17, 38, 24,
  30, 13, 56, 14, 48, 20, 152, 25, 4, 1, 6, 1, 2, 3, 198, 64, 3823, 3, 141, 1, 96, 32, 554, 4,
  107, 2, 30164, 15, 32, 2, 80, 2, 272, 1, 3, 1, 4, 1, 23, 10, 83, 2, 50, 18, 26, 18, 13, 1, 38,
  8, 25, 61, 47, 14, 36, 1, 67, 14, 12, 1, 8, 2, 45, 3, 50, 1, 1, 3, 2, 2, 5, 2, 1, 1, 41, 5, 5,
  2, 236, 11, 20272, 786, 973, 1, 226, 1, 149, 5, 1670, 15, 40, 8, 165, 2, 573, 4, 387, 2, 153,
  11, 49, 4, 122, 3, 53, 15, 41, 1, 2, 2, 10, 4, 45, 19, 61, 3, 36, 14, 16, 2, 44, 1, 12, 3, 48,
  14, 8, 7, 92, 19, 160, 12, 21, 4, 55, 2, 1, 16, 9, 1, 10, 19, 192, 18, 23, 1, 81, 20, 235, 18,
  27, 2, 82, 17, 106, 13, 101, 15, 256, 15, 245, 15, 1, 1, 1, 2, 141, 16, 3, 1, 28, 10, 40, 7, 1,
  13, 9, 11, 46, 16, 405, 17, 82, 37, 122, 21, 1, 1, 66, 14, 347, 4, 19449, 5, 59, 7, 1048, 1, 1,
  66, 81, 14, 19627, 7699, 1360, 43, 261, 7, 375, 1, 61, 4, 1504, 7, 109, 7
]

def rightRuns : List Nat := [
  1488, 37, 459, 43, 9, 2, 10, 22, 4, 1, 9, 1, 3, 1, 23, 25, 65447, 513, 15, 38, 42, 133, 27, 499,
  397, 42, 6, 120, 72, 18, 46, 71, 55305, 197, 93, 34, 7, 15
]

def arabicRuns : List Nat := [
  1568, 43, 35, 2, 1, 101, 15, 2, 7, 2, 10, 23, 1, 30, 29, 89, 11, 1, 174, 47, 17, 42, 62889, 1,
  3724, 36, 524, 22
]

def nonspacingRuns : List Nat := [
  768, 112, 275, 5, 265, 55, 72, 11, 48, 21, 16, 1, 101, 15, 2, 7, 35, 1, 30, 27, 91, 11, 58, 9,
  9, 1, 24, 4, 1, 9, 1, 3, 1, 5, 43, 3, 60, 8, 42, 57, 55, 1, 1, 1, 4, 8, 4, 1, 3, 7, 10, 2, 29,
  1, 58, 1, 4, 4, 8, 1, 20, 2, 26, 5, 57, 1, 4, 17, 30, 2, 3, 14, 57, 1, 4, 8, 4, 1, 20, 2, 22, 8,
  58, 1, 2, 1, 1, 4, 8, 10, 11, 2, 30, 1, 61, 1, 12, 1, 50, 1, 3, 1, 55, 1, 1, 3, 5, 17, 11, 2,
  29, 1, 58, 1, 15, 2, 20, 2, 28, 2, 57, 2, 4, 4, 8, 1, 20, 2, 29, 1, 72, 1, 7, 5, 90, 1, 2, 7,
  12, 8, 98, 1, 2, 9, 11, 6, 74, 2, 27, 5, 55, 14, 1, 8, 5, 58, 102, 4, 1, 6, 1, 2, 2, 2, 25, 2,
  4, 3, 16, 4, 13, 1, 2, 2, 6, 1, 15, 1, 703, 3, 946, 3, 29, 2, 30, 2, 30, 2, 67, 7, 8, 1, 2, 11,
  9, 1, 167, 2, 34, 1, 118, 3, 4, 2, 9, 1, 6, 3, 219, 2, 2, 1, 58, 1, 1, 9, 1, 1, 2, 8, 6, 13, 48,
  84, 48, 1, 1, 5, 1, 1, 5, 1, 40, 23, 32, 4, 2, 2, 1, 3, 56, 1, 1, 2, 3, 1, 1, 3, 58, 8, 2, 2,
  152, 17, 1, 7, 4, 1, 6, 1, 3, 2, 198, 64, 3823, 3, 141, 1, 96, 32, 554, 4, 107, 2, 30164, 15,
  32, 2, 80, 2, 272, 1, 3, 1, 4, 1, 25, 2, 5, 1, 151, 2, 26, 18, 13, 1, 38, 8, 25, 11, 46, 3, 48,
  1, 2, 4, 2, 2, 39, 1, 67, 6, 2, 2, 2, 2, 12, 1, 8, 1, 47, 1, 51, 1, 1, 3, 2, 2, 5, 2, 1, 1, 42,
  2, 8, 1, 238, 1, 2, 1, 4, 1, 20272, 786, 973, 1, 226, 1, 149, 5, 1670, 15, 40, 8, 165, 2, 573,
  4, 387, 2, 153, 11, 49, 4, 123, 1, 54, 15, 41, 1, 2, 2, 10, 3, 49, 4, 2, 10, 61, 3, 36, 5, 1, 8,
  62, 1, 12, 2, 52, 9, 10, 4, 2, 1, 95, 3, 2, 1, 1, 9, 160, 1, 3, 8, 21, 2, 57, 2, 3, 1, 37, 15,
  195, 8, 2, 3, 1, 1, 23, 1, 84, 6, 1, 1, 4, 2, 1, 2, 238, 4, 6, 2, 1, 2, 27, 2, 85, 8, 2, 1, 1,
  2, 106, 1, 1, 1, 2, 6, 1, 1, 101, 3, 2, 4, 1, 5, 259, 9, 1, 2, 256, 2, 1, 1, 4, 1, 144, 8, 4, 1,
  32, 6, 2, 2, 40, 6, 2, 13, 9, 6, 2, 3, 46, 13, 1, 2, 406, 14, 84, 22, 2, 7, 1, 2, 1, 2, 122, 21,
  1, 1, 72, 2, 3, 1, 1, 1, 347, 2, 19451, 5, 59, 7, 1048, 1, 63, 4, 81, 1, 19640, 7699, 1360, 43,
  261, 7, 375, 1, 61, 4, 1504, 7, 109, 7
]

def neutralRuns : List Nat := [
  183, 1, 513, 2, 11, 10, 28, 1, 136, 1, 10937, 1, 715, 1, 30083, 1, 151, 9, 104, 1
]

def transparentRuns : List Nat := [
  768, 112, 275, 5, 265, 55, 72, 11, 48, 21, 16, 1, 101, 15, 2, 7, 35, 1, 30, 27, 91, 11, 58, 9,
  9, 1, 24, 4, 1, 9, 1, 3, 1, 5, 43, 3, 60, 8, 42, 57, 55, 1, 1, 1, 4, 8, 4, 1, 3, 7, 10, 2, 29,
  1, 58, 1, 4, 4, 8, 1, 20, 2, 26, 5, 57, 1, 4, 17, 30, 2, 3, 14, 57, 1, 4, 8, 4, 1, 20, 2, 22, 8,
  58, 1, 2, 1, 1, 4, 8, 10, 11, 2, 30, 1, 61, 1, 12, 1, 50, 1, 3, 1, 55, 1, 1, 3, 5, 17, 11, 2,
  29, 1, 58, 1, 2, 1, 6, 1, 5, 2, 20, 2, 28, 2, 57, 2, 4, 4, 8, 1, 20, 2, 29, 1, 72, 1, 7, 5, 90,
  1, 2, 7, 12, 8, 98, 1, 2, 9, 11, 6, 74, 2, 27, 5, 55, 14, 1, 8, 5, 58, 102, 4, 1, 6, 1, 2, 2, 2,
  25, 2, 4, 3, 16, 4, 13, 1, 2, 2, 6, 1, 15, 1, 703, 3, 946, 3, 29, 2, 30, 2, 30, 2, 67, 7, 8, 1,
  2, 11, 9, 1, 167, 2, 34, 1, 118, 3, 4, 2, 9, 1, 6, 3, 219, 2, 2, 1, 58, 1, 1, 9, 1, 1, 2, 8, 6,
  13, 48, 84, 48, 1, 1, 5, 1, 1, 5, 1, 40, 23, 32, 4, 2, 2, 1, 3, 56, 1, 1, 2, 3, 1, 1, 3, 58, 8,
  2, 2, 152, 17, 1, 7, 4, 1, 6, 1, 3, 2, 198, 64, 3823, 3, 141, 1, 96, 32, 554, 4, 107, 2, 30164,
  15, 32, 2, 80, 2, 272, 1, 3, 1, 4, 1, 25, 2, 5, 1, 151, 2, 26, 18, 13, 1, 38, 8, 25, 11, 46, 3,
  48, 1, 2, 4, 2, 2, 39, 1, 67, 6, 2, 2, 2, 2, 12, 1, 8, 1, 47, 1, 51, 1, 1, 3, 2, 2, 5, 2, 1, 1,
  42, 2, 8, 1, 238, 1, 2, 1, 4, 1, 20272, 786, 973, 1, 226, 1, 149, 5, 1670, 15, 40, 8, 165, 2,
  573, 4, 387, 2, 153, 11, 49, 4, 123, 1, 54, 15, 41, 1, 2, 2, 10, 3, 49, 4, 2, 10, 61, 3, 36, 5,
  1, 8, 62, 1, 12, 2, 52, 9, 10, 4, 2, 1, 95, 3, 2, 1, 1, 9, 160, 1, 3, 8, 21, 2, 57, 2, 3, 1, 37,
  15, 195, 8, 2, 3, 1, 1, 23, 1, 84, 6, 1, 1, 4, 2, 1, 2, 238, 4, 6, 2, 1, 2, 27, 2, 85, 8, 2, 1,
  1, 2, 106, 1, 1, 1, 2, 6, 1, 1, 101, 1, 1, 1, 2, 4, 1, 5, 259, 9, 1, 2, 256, 2, 1, 1, 4, 1, 144,
  8, 4, 1, 32, 10, 40, 6, 2, 13, 9, 6, 2, 3, 46, 13, 1, 2, 406, 14, 1, 1, 82, 22, 2, 7, 1, 2, 1,
  2, 122, 21, 1, 1, 72, 2, 3, 1, 1, 1, 347, 2, 19451, 5, 59, 7, 1048, 1, 63, 4, 81, 1, 19640,
  7699, 1360, 43, 261, 7, 375, 1, 61, 4, 1504, 7, 109, 8
]

def dualRuns : List Nat := [
  1568, 1, 5, 1, 1, 1, 1, 5, 4, 21, 1, 2, 35, 2, 9, 15, 18, 38, 1, 2, 9, 1, 1, 1, 1, 2, 40, 3, 2,
  1, 18, 3, 5, 4, 1, 9, 1, 1, 1, 1, 1, 2, 31, 11, 3, 15, 2, 4, 1, 1, 2, 3, 2, 6, 74, 33, 86, 5, 2,
  1, 1, 10, 1, 1, 10, 1, 1, 4, 2, 1, 29, 1, 2, 5, 18, 10, 5, 2, 2, 6, 1, 15, 3927, 89, 14, 34, 1,
  1, 36757, 50, 25166, 5, 14, 4, 1, 5, 1, 3, 159, 1, 1, 1, 3, 3, 1, 2, 1, 1, 2, 1, 368, 33, 1, 1,
  524, 3, 1, 17, 43, 4, 2, 12, 46, 1, 1, 2, 4, 1, 2, 2, 1, 2, 1, 1, 2, 1, 55645, 34
]

def rightJoiningRuns : List Nat := [
  1570, 4, 1, 1, 1, 1, 5, 4, 21, 1, 40, 3, 20, 18, 38, 1, 2, 9, 1, 1, 1, 1, 2, 4, 24, 2, 32, 1, 4,
  5, 4, 1, 9, 1, 1, 1, 1, 1, 2, 1, 29, 1, 11, 3, 15, 2, 4, 1, 1, 2, 3, 2, 198, 1, 5, 2, 1, 1, 10,
  1, 1, 3, 14, 1, 1, 26, 11, 1, 27, 3, 1, 1, 2, 2, 6, 1, 66059, 1, 1, 4, 3, 5, 10, 1, 3, 1, 2, 1,
  156, 1, 1, 3, 3, 1, 2, 1, 1, 2, 1, 1, 400, 1, 528, 1, 64, 2, 62, 3, 2, 2, 2, 1, 4, 2
]

def leftJoiningRuns : List Nat := [
  43122, 1, 25178, 1, 9, 1, 552, 1
]

def greekRuns : List Nat := [
  881, 113, 17, 10, 6441, 5, 469, 247, 35694, 1
]

def hebrewRuns : List Nat := [
  1425, 100, 62761, 1
]

def japaneseRuns : List Nat := [
  12293, 1, 1, 1, 57, 86, 6, 94, 2, 2, 241, 28176, 23054, 28, 30137, 1, 12, 2, 16382, 376, 20120,
  70475
]

def isValid (c : Char) : Bool := Text.inRuns validRuns c.toNat

def isMark (c : Char) : Bool := Text.inRuns markRuns c.toNat

inductive Direction where
  | left
  | right
  | arabic
  | number
  | arabicNumber
  | nonspacing
  | neutral
deriving DecidableEq, Repr

def isArabicDigit (c : Char) : Bool := '\u0660' ≤ c && c ≤ '\u0669'

def isEasternDigit (c : Char) : Bool := '\u06f0' ≤ c && c ≤ '\u06f9'

def direction (c : Char) : Direction :=
  if ('0' ≤ c && c ≤ '9') || isEasternDigit c then .number
  else if isArabicDigit c || (0x10D30 ≤ c.toNat && c.toNat ≤ 0x10D39) then .arabicNumber
  else if Text.inRuns rightRuns c.toNat then .right
  else if Text.inRuns arabicRuns c.toNat then .arabic
  else if Text.inRuns nonspacingRuns c.toNat then .nonspacing
  else if Text.inRuns neutralRuns c.toNat || ['-', '\u200c', '\u200d'].contains c then .neutral
  else .left

inductive Joining where
  | none
  | transparent
  | dual
  | right
  | left
deriving DecidableEq, Repr

def joining (c : Char) : Joining :=
  if Text.inRuns transparentRuns c.toNat then .transparent
  else if Text.inRuns dualRuns c.toNat then .dual
  else if Text.inRuns rightJoiningRuns c.toNat then .right
  else if Text.inRuns leftJoiningRuns c.toNat then .left
  else .none

def isGreek (c : Char) : Bool := Text.inRuns greekRuns c.toNat

def isHebrew (c : Char) : Bool := Text.inRuns hebrewRuns c.toNat

def isJapanese (c : Char) : Bool := Text.inRuns japaneseRuns c.toNat

end QueryGate.Domain
