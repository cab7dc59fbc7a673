import Mathlib.Data.List.Basic
import Mathlib.Data.List.DropRight
import Mathlib.Data.Nat.Notation

/-! # Text operations of the source language -/

namespace ProjectManager

/-- The characters that `str.strip` removes. -/
def isSpace (c : Char) : Bool :=
  let n := c.toNat
  (9 ≤ n ∧ n ≤ 13) ∨ (28 ≤ n ∧ n ≤ 32) ∨ (8192 ≤ n ∧ n ≤ 8202) ∨
    n ∈ [133, 160, 5760, 8232, 8233, 8239, 8287, 12288]

def strip (text : String) : String :=
  String.ofList ((text.toList.dropWhile isSpace).reverse.dropWhile isSpace).reverse

/-- Fill a text up with zeros on the left. -/
def zfill (width : ℕ) (text : String) : String :=
  String.ofList (List.replicate (width - text.length) '0') ++ text

/-- `text or default`, for a text that may be empty. -/
def orElse (text default : String) : String := if text = "" then default else text

/-! ## Cases

The tables of Unicode 14 without ASCII. A range is its first code, the number of its codes, their
distance, and what the first is mapped to. Where one character becomes several, a row has no
distance and names what comes behind. Sets are lists of lengths, in turn outside and inside. -/

def caseRanges : List (ℕ × ℕ × ℕ × ℕ) :=
  [(224, 23, 1, 192), (248, 7, 1, 216), (255, 1, 1, 376), (257, 24, 2, 256), (307, 3, 2, 306),
    (314, 8, 2, 313), (331, 23, 2, 330), (378, 3, 2, 377), (384, 1, 1, 579), (387, 2, 2, 386),
    (392, 1, 1, 391), (396, 1, 1, 395), (402, 1, 1, 401), (405, 1, 1, 502), (409, 1, 1, 408),
    (410, 1, 1, 573), (414, 1, 1, 544), (417, 3, 2, 416), (424, 1, 1, 423), (429, 1, 1, 428),
    (432, 1, 1, 431), (436, 2, 2, 435), (441, 1, 1, 440), (445, 1, 1, 444), (447, 1, 1, 503),
    (454, 1, 1, 452), (457, 1, 1, 455), (460, 1, 1, 458), (462, 8, 2, 461), (477, 1, 1, 398),
    (479, 9, 2, 478), (499, 1, 1, 497), (501, 1, 1, 500), (505, 20, 2, 504), (547, 9, 2, 546),
    (572, 1, 1, 571), (575, 2, 1, 11390), (578, 1, 1, 577), (583, 5, 2, 582), (592, 1, 1, 11375),
    (593, 1, 1, 11373), (594, 1, 1, 11376), (595, 1, 1, 385), (596, 1, 1, 390), (598, 2, 1, 393),
    (601, 1, 1, 399), (603, 1, 1, 400), (604, 1, 1, 42923), (608, 1, 1, 403), (609, 1, 1, 42924),
    (611, 1, 1, 404), (613, 1, 1, 42893), (614, 1, 1, 42922), (616, 1, 1, 407), (617, 1, 1, 406),
    (618, 1, 1, 42926), (619, 1, 1, 11362), (620, 1, 1, 42925), (623, 1, 1, 412),
    (625, 1, 1, 11374), (626, 1, 1, 413), (629, 1, 1, 415), (637, 1, 1, 11364), (640, 1, 1, 422),
    (642, 1, 1, 42949), (643, 1, 1, 425), (647, 1, 1, 42929), (648, 1, 1, 430), (649, 1, 1, 580),
    (650, 2, 1, 433), (652, 1, 1, 581), (658, 1, 1, 439), (669, 1, 1, 42930), (670, 1, 1, 42928),
    (881, 2, 2, 880), (887, 1, 1, 886), (891, 3, 1, 1021), (940, 1, 1, 902), (941, 3, 1, 904),
    (945, 17, 1, 913), (963, 9, 1, 931), (972, 1, 1, 908), (973, 2, 1, 910), (983, 1, 1, 975),
    (985, 12, 2, 984), (1010, 1, 1, 1017), (1011, 1, 1, 895), (1016, 1, 1, 1015),
    (1019, 1, 1, 1018), (1072, 32, 1, 1040), (1104, 16, 1, 1024), (1121, 17, 2, 1120),
    (1163, 27, 2, 1162), (1218, 7, 2, 1217), (1231, 1, 1, 1216), (1233, 48, 2, 1232),
    (1377, 38, 1, 1329), (4304, 43, 1, 7312), (4349, 3, 1, 7357), (5112, 6, 1, 5104),
    (7545, 1, 1, 42877), (7549, 1, 1, 11363), (7566, 1, 1, 42950), (7681, 75, 2, 7680),
    (7841, 48, 2, 7840), (7936, 8, 1, 7944), (7952, 6, 1, 7960), (7968, 8, 1, 7976),
    (7984, 8, 1, 7992), (8000, 6, 1, 8008), (8017, 4, 2, 8025), (8032, 8, 1, 8040),
    (8048, 2, 1, 8122), (8050, 4, 1, 8136), (8054, 2, 1, 8154), (8056, 2, 1, 8184),
    (8058, 2, 1, 8170), (8060, 2, 1, 8186), (8112, 2, 1, 8120), (8144, 2, 1, 8152),
    (8160, 2, 1, 8168), (8165, 1, 1, 8172), (8526, 1, 1, 8498), (8560, 16, 1, 8544),
    (8580, 1, 1, 8579), (9424, 26, 1, 9398), (11312, 48, 1, 11264), (11361, 1, 1, 11360),
    (11365, 1, 1, 570), (11366, 1, 1, 574), (11368, 3, 2, 11367), (11379, 1, 1, 11378),
    (11382, 1, 1, 11381), (11393, 50, 2, 11392), (11500, 2, 2, 11499), (11507, 1, 1, 11506),
    (11520, 38, 1, 4256), (11559, 1, 1, 4295), (11565, 1, 1, 4301), (42561, 23, 2, 42560),
    (42625, 14, 2, 42624), (42787, 7, 2, 42786), (42803, 31, 2, 42802), (42874, 2, 2, 42873),
    (42879, 5, 2, 42878), (42892, 1, 1, 42891), (42897, 2, 2, 42896), (42900, 1, 1, 42948),
    (42903, 10, 2, 42902), (42933, 8, 2, 42932), (42952, 2, 2, 42951), (42961, 1, 1, 42960),
    (42967, 2, 2, 42966), (42998, 1, 1, 42997), (43859, 1, 1, 42931), (43888, 80, 1, 5024),
    (65345, 26, 1, 65313), (66600, 40, 1, 66560), (66776, 36, 1, 66736), (66967, 19, 2, 66928),
    (66968, 5, 2, 66929), (66980, 7, 2, 66941), (66996, 3, 2, 66957), (67004, 1, 1, 66965),
    (68800, 51, 1, 68736), (71872, 32, 1, 71840), (93792, 32, 1, 93760), (125218, 34, 1, 125184)]

/-- Upper case that is not mapped back. -/
def upperRanges : List (ℕ × ℕ × ℕ × ℕ) :=
  [(181, 1, 1, 924), (305, 1, 1, 73), (383, 1, 1, 83), (453, 1, 1, 452), (456, 1, 1, 455),
    (459, 1, 1, 458), (498, 1, 1, 497), (837, 1, 1, 921), (962, 1, 1, 931), (976, 1, 1, 914),
    (977, 1, 1, 920), (981, 1, 1, 934), (982, 1, 1, 928), (1008, 1, 1, 922), (1009, 1, 1, 929),
    (1013, 1, 1, 917), (7296, 1, 1, 1042), (7297, 1, 1, 1044), (7298, 1, 1, 1054),
    (7299, 2, 1, 1057), (7301, 1, 1, 1058), (7302, 1, 1, 1066), (7303, 1, 1, 1122),
    (7304, 1, 1, 42570), (7835, 1, 1, 7776), (8126, 1, 1, 921)] ++ caseRanges

/-- Lower case that is not mapped back. -/
def lowerRanges : List (ℕ × ℕ × ℕ × ℕ) :=
  [(453, 1, 1, 454), (456, 1, 1, 457), (459, 1, 1, 460), (498, 1, 1, 499), (1012, 1, 1, 952),
    (7838, 1, 1, 223), (8072, 8, 1, 8064), (8088, 8, 1, 8080), (8104, 8, 1, 8096),
    (8124, 1, 1, 8115), (8140, 1, 1, 8131), (8188, 1, 1, 8179), (8486, 1, 1, 969),
    (8490, 1, 1, 107), (8491, 1, 1, 229)]
    ++ caseRanges.map fun (first, count, step, image) => (image, count, step, first)

def upperSpecials : List (ℕ × ℕ × ℕ × List ℕ) :=
  [(223, 1, 83, [83]), (329, 1, 700, [78]), (496, 1, 74, [780]), (912, 1, 921, [776, 769]),
    (944, 1, 933, [776, 769]), (1415, 1, 1333, [1362]), (7830, 1, 72, [817]), (7831, 1, 84, [776]),
    (7832, 1, 87, [778]), (7833, 1, 89, [778]), (7834, 1, 65, [702]), (8016, 1, 933, [787]),
    (8018, 1, 933, [787, 768]), (8020, 1, 933, [787, 769]), (8022, 1, 933, [787, 834]),
    (8064, 8, 7944, [921]), (8072, 8, 7944, [921]), (8080, 8, 7976, [921]), (8088, 8, 7976, [921]),
    (8096, 8, 8040, [921]), (8104, 8, 8040, [921]), (8114, 1, 8122, [921]), (8115, 1, 913, [921]),
    (8116, 1, 902, [921]), (8118, 1, 913, [834]), (8119, 1, 913, [834, 921]), (8124, 1, 913, [921]),
    (8130, 1, 8138, [921]), (8131, 1, 919, [921]), (8132, 1, 905, [921]), (8134, 1, 919, [834]),
    (8135, 1, 919, [834, 921]), (8140, 1, 919, [921]), (8146, 1, 921, [776, 768]),
    (8147, 1, 921, [776, 769]), (8150, 1, 921, [834]), (8151, 1, 921, [776, 834]),
    (8162, 1, 933, [776, 768]), (8163, 1, 933, [776, 769]), (8164, 1, 929, [787]),
    (8166, 1, 933, [834]), (8167, 1, 933, [776, 834]), (8178, 1, 8186, [921]),
    (8179, 1, 937, [921]), (8180, 1, 911, [921]), (8182, 1, 937, [834]), (8183, 1, 937, [834, 921]),
    (8188, 1, 937, [921]), (64256, 1, 70, [70]), (64257, 1, 70, [73]), (64258, 1, 70, [76]),
    (64259, 1, 70, [70, 73]), (64260, 1, 70, [70, 76]), (64261, 1, 83, [84]), (64262, 1, 83, [84]),
    (64275, 1, 1348, [1350]), (64276, 1, 1348, [1333]), (64277, 1, 1348, [1339]),
    (64278, 1, 1358, [1350]), (64279, 1, 1348, [1341])]

/-- Where `str.title` differs from `str.upper`. -/
def titleSpecials : List (ℕ × ℕ × ℕ × List ℕ) :=
  [(223, 1, 83, [115]), (452, 1, 453, []), (453, 1, 453, []), (454, 1, 453, []), (455, 1, 456, []),
    (456, 1, 456, []), (457, 1, 456, []), (458, 1, 459, []), (459, 1, 459, []), (460, 1, 459, []),
    (497, 1, 498, []), (498, 1, 498, []), (499, 1, 498, []), (1415, 1, 1333, [1410]),
    (4304, 43, 4304, []), (4349, 3, 4349, []), (8064, 8, 8072, []), (8072, 8, 8072, []),
    (8080, 8, 8088, []), (8088, 8, 8088, []), (8096, 8, 8104, []), (8104, 8, 8104, []),
    (8114, 1, 8122, [837]), (8115, 1, 8124, []), (8116, 1, 902, [837]), (8119, 1, 913, [834, 837]),
    (8124, 1, 8124, []), (8130, 1, 8138, [837]), (8131, 1, 8140, []), (8132, 1, 905, [837]),
    (8135, 1, 919, [834, 837]), (8140, 1, 8140, []), (8178, 1, 8186, [837]), (8179, 1, 8188, []),
    (8180, 1, 911, [837]), (8183, 1, 937, [834, 837]), (8188, 1, 8188, []), (64256, 1, 70, [102]),
    (64257, 1, 70, [105]), (64258, 1, 70, [108]), (64259, 1, 70, [102, 105]),
    (64260, 1, 70, [102, 108]), (64261, 1, 83, [116]), (64262, 1, 83, [116]),
    (64275, 1, 1348, [1398]), (64276, 1, 1348, [1381]), (64277, 1, 1348, [1387]),
    (64278, 1, 1358, [1398]), (64279, 1, 1348, [1389])]

def uncasedUpper : List ℕ :=
  [978, 3, 7469, 1, 4, 1, 3, 3, 2, 3, 2, 1, 3, 5, 6, 1, 3, 1, 3, 2, 2, 2, 1, 1, 10, 2, 5, 1, 111290,
    26, 26, 26, 26, 26, 26, 1, 1, 2, 2, 1, 2, 2, 2, 4, 1, 8, 26, 26, 26, 2, 1, 4, 2, 8, 1, 7, 27, 2,
    1, 4, 1, 5, 1, 1, 3, 7, 27, 26, 26, 26, 26, 26, 26, 26, 26, 26, 26, 26, 30, 25, 33, 25, 33, 25,
    33, 25, 33, 25, 33, 1, 6501, 26, 6, 26, 6, 26]

def uncasedLower : List ℕ :=
  [170, 1, 15, 1, 125, 1, 84, 1, 13, 1, 14, 2, 14, 1, 3, 1, 98, 1, 18, 6, 27, 1, 2, 1, 1, 1, 2, 3,
    2, 1, 1, 1, 2, 1, 5, 2, 1, 1, 2, 2, 1, 7, 1, 2, 1, 1, 2, 3, 6, 5, 1, 1, 1, 8, 2, 26, 7, 2, 30,
    5, 149, 1, 129, 1, 355, 1, 39, 1, 6007, 121, 1, 3, 1, 16, 1, 49, 220, 2, 1, 1, 465, 1, 13, 1,
    16, 13, 109, 1, 3, 2, 3, 1, 27, 1, 4, 1, 4, 1, 2, 2, 8, 4, 2855, 1, 2, 1, 2, 7, 102, 1, 31159,
    2, 146, 2, 62, 9, 21, 1, 6, 1, 25, 1, 35, 1, 1, 1, 34, 3, 821, 35, 1, 7, 1, 13, 23575, 1, 2, 3,
    1, 42, 1, 9, 52319, 26, 26, 7, 1, 18, 26, 26, 26, 4, 1, 1, 1, 7, 1, 11, 26, 26, 26, 26, 26, 26,
    26, 26, 26, 26, 26, 26, 26, 26, 26, 26, 26, 28, 28, 25, 1, 6, 26, 25, 1, 6, 26, 25, 1, 6, 26,
    25, 1, 6, 26, 25, 1, 6, 1, 1, 1844, 10, 1, 20]

def titleCase : List ℕ :=
  [453, 1, 2, 1, 2, 1, 38, 1, 7573, 8, 8, 8, 8, 8, 12, 1, 15, 1, 47, 1]

/-- What does not end a word for the final sigma. -/
def caseIgnorable : List ℕ :=
  [39, 1, 6, 1, 11, 1, 35, 1, 1, 1, 71, 1, 4, 1, 1, 1, 4, 1, 2, 2, 503, 192, 4, 2, 4, 1, 9, 2, 1, 1,
    251, 7, 207, 1, 5, 1, 49, 45, 1, 1, 1, 2, 1, 2, 1, 1, 44, 1, 11, 6, 10, 11, 1, 1, 35, 1, 10, 21,
    16, 1, 101, 8, 1, 10, 1, 4, 33, 1, 1, 1, 30, 27, 91, 11, 58, 11, 4, 1, 2, 1, 24, 24, 43, 3, 44,
    1, 7, 2, 6, 8, 41, 58, 55, 1, 1, 1, 4, 8, 4, 1, 3, 7, 10, 2, 13, 1, 15, 1, 58, 1, 4, 4, 8, 1,
    20, 2, 26, 1, 2, 2, 57, 1, 4, 2, 4, 2, 2, 3, 3, 1, 30, 2, 3, 1, 11, 2, 57, 1, 4, 5, 1, 2, 4, 1,
    20, 2, 22, 6, 1, 1, 58, 1, 2, 1, 1, 4, 8, 1, 7, 2, 11, 2, 30, 1, 61, 1, 12, 1, 50, 1, 3, 1, 55,
    1, 1, 3, 5, 3, 1, 4, 7, 2, 11, 2, 29, 1, 58, 1, 2, 1, 6, 1, 5, 2, 20, 2, 28, 2, 57, 2, 4, 4, 8,
    1, 20, 2, 29, 1, 72, 1, 7, 3, 1, 1, 90, 1, 2, 7, 11, 9, 98, 1, 2, 9, 9, 1, 1, 6, 74, 2, 27, 1,
    1, 1, 1, 1, 55, 14, 1, 5, 1, 2, 5, 11, 1, 36, 9, 1, 102, 4, 1, 6, 1, 2, 2, 2, 25, 2, 4, 3, 16,
    4, 13, 1, 2, 2, 6, 1, 15, 1, 94, 1, 608, 3, 946, 3, 29, 2, 30, 2, 30, 2, 64, 2, 1, 7, 8, 1, 2,
    11, 3, 1, 5, 1, 45, 5, 51, 1, 65, 2, 34, 1, 118, 3, 4, 2, 9, 1, 6, 3, 219, 2, 2, 1, 58, 1, 1, 7,
    1, 1, 1, 1, 2, 8, 6, 10, 2, 1, 39, 1, 8, 31, 49, 4, 48, 1, 1, 5, 1, 1, 5, 1, 40, 9, 12, 2, 32,
    4, 2, 2, 1, 3, 56, 1, 1, 2, 3, 1, 1, 3, 58, 8, 2, 2, 64, 6, 82, 3, 1, 13, 1, 7, 4, 1, 6, 1, 3,
    2, 50, 63, 13, 1, 34, 101, 445, 1, 1, 3, 11, 3, 13, 3, 13, 3, 13, 2, 12, 5, 8, 2, 10, 1, 2, 1,
    2, 5, 49, 5, 1, 10, 1, 1, 13, 1, 16, 13, 51, 33, 2955, 2, 113, 3, 125, 1, 15, 1, 96, 32, 47, 1,
    469, 1, 36, 4, 3, 5, 5, 1, 93, 6, 93, 3, 28438, 1, 1250, 6, 270, 1, 98, 4, 1, 10, 1, 1, 28, 4,
    80, 2, 14, 34, 78, 1, 23, 3, 103, 3, 3, 2, 8, 1, 3, 1, 4, 1, 25, 2, 5, 1, 151, 2, 26, 18, 13, 1,
    38, 8, 25, 11, 46, 3, 48, 1, 2, 4, 2, 2, 17, 1, 21, 2, 66, 6, 2, 2, 2, 2, 12, 1, 8, 1, 35, 1,
    11, 1, 51, 1, 1, 3, 2, 2, 5, 2, 1, 1, 27, 1, 14, 2, 5, 2, 1, 1, 100, 5, 9, 3, 121, 1, 2, 1, 4,
    1, 20272, 1, 147, 17, 573, 16, 3, 1, 12, 16, 34, 1, 2, 1, 169, 1, 7, 1, 6, 1, 11, 1, 35, 1, 1,
    1, 47, 1, 45, 2, 67, 1, 21, 3, 513, 1, 226, 1, 149, 5, 1029, 6, 1, 42, 1, 9, 582, 3, 1, 2, 5, 4,
    40, 3, 4, 1, 165, 2, 573, 4, 387, 2, 153, 11, 49, 4, 123, 1, 54, 15, 41, 1, 2, 2, 10, 3, 49, 4,
    2, 2, 2, 1, 4, 1, 10, 1, 50, 3, 36, 5, 1, 8, 62, 1, 12, 2, 52, 9, 10, 4, 2, 1, 95, 3, 2, 1, 1,
    2, 6, 1, 160, 1, 3, 8, 21, 2, 57, 2, 3, 1, 37, 7, 3, 5, 195, 8, 2, 3, 1, 1, 23, 1, 84, 6, 1, 1,
    4, 2, 1, 2, 238, 4, 6, 2, 1, 2, 27, 2, 85, 8, 2, 1, 1, 2, 106, 1, 1, 1, 2, 6, 1, 1, 101, 3, 2,
    4, 1, 5, 259, 9, 1, 2, 256, 2, 1, 1, 4, 1, 144, 4, 2, 2, 4, 1, 32, 10, 40, 6, 2, 4, 8, 1, 9, 6,
    2, 3, 46, 13, 1, 2, 406, 7, 1, 6, 1, 1, 82, 22, 2, 7, 1, 2, 1, 2, 122, 6, 3, 1, 1, 2, 1, 7, 1,
    1, 72, 2, 3, 1, 1, 1, 347, 2, 5435, 9, 14007, 5, 59, 7, 9, 4, 1035, 1, 63, 17, 64, 2, 1, 2,
    16395, 4, 1, 7, 1, 2, 3230, 2, 1, 4, 4700, 46, 2, 23, 544, 3, 9, 16, 2, 7, 30, 4, 148, 3, 1979,
    55, 4, 50, 8, 1, 14, 1, 22, 5, 1, 15, 1360, 7, 1, 17, 2, 7, 1, 2, 1, 5, 261, 14, 368, 1, 61, 4,
    1504, 7, 109, 8, 2735, 5, 789505, 1, 30, 96, 128, 240]

def inRuns : List ℕ → ℕ → Bool
  | gap :: run :: rest, n =>
      if n < gap then false else if n < gap + run then true else inRuns rest (n - gap - run)
  | _, _ => false

def rangeImage (ranges : List (ℕ × ℕ × ℕ × ℕ)) (n : ℕ) : Option ℕ :=
  (ranges.find? fun (first, count, step, _) =>
    first ≤ n && (n - first) % step == 0 && (n - first) / step < count).map
      fun (first, _, _, image) => image + (n - first)

def specialImage (specials : List (ℕ × ℕ × ℕ × List ℕ)) (n : ℕ) : Option (List ℕ) :=
  (specials.find? fun (first, count, _) => first ≤ n && n < first + count).map
    fun (first, _, image, behind) => (image + (n - first)) :: behind

def upperCode (n : ℕ) : List ℕ :=
  if n < 128 then [if 97 ≤ n ∧ n ≤ 122 then n - 32 else n]
  else (specialImage upperSpecials n).getD [(rangeImage upperRanges n).getD n]

def lowerCode (n : ℕ) : List ℕ :=
  if n < 128 then [if 65 ≤ n ∧ n ≤ 90 then n + 32 else n]
  else if n = 0x130 then [0x69, 0x307]
  else [(rangeImage lowerRanges n).getD n]

def upperChar (c : Char) : List Char := (upperCode c.toNat).map Char.ofNat

def upper (text : String) : String := String.ofList (text.toList.flatMap upperChar)

def isTitle (c : Char) : Bool := inRuns titleCase c.toNat

def isLower (c : Char) : Bool :=
  upperCode c.toNat != [c.toNat] && !isTitle c || inRuns uncasedLower c.toNat

def isUpper (c : Char) : Bool :=
  lowerCode c.toNat != [c.toNat] && !isTitle c || inRuns uncasedUpper c.toNat

def isCased (c : Char) : Bool := isLower c || isUpper c || isTitle c

/-- The nearest character that counts is cased. -/
def casedNext (text : List Char) : Bool :=
  (text.find? fun c => !inRuns caseIgnorable c.toNat).any isCased

/-- The lower case of a character; a capital sigma at the end of a word is final. -/
def lowerAt (before after : List Char) (c : Char) : List Char :=
  if c = 'Σ' then [if casedNext before && !casedNext after then 'ς' else 'σ']
  else (lowerCode c.toNat).map Char.ofNat

/-- `before` is what was read already, the last character first. -/
def lowerFrom (before : List Char) : List Char → List Char
  | [] => []
  | c :: rest => lowerAt before rest c ++ lowerFrom (c :: before) rest

def lower (text : String) : String := String.ofList (lowerFrom [] text.toList)

def titleChar (c : Char) : List Char :=
  if c.toNat < 128 then upperChar c
  else ((specialImage titleSpecials c.toNat).getD (upperCode c.toNat)).map Char.ofNat

/-- The first character of every run of cased characters is capital. -/
def titleFrom (before : List Char) : List Char → List Char
  | [] => []
  | c :: rest =>
      (if before.head?.any isCased then lowerAt before rest c else titleChar c) ++
        titleFrom (c :: before) rest

def title (text : String) : String := String.ofList (titleFrom [] text.toList)

/-! ## What the tables keep -/

/-- One of the `count` codes from `first` on in steps of `step`. -/
def InRow : ℕ × ℕ × ℕ → ℕ → Prop
  | (first, count, step), n => first ≤ n ∧ (n - first) % step = 0 ∧ (n - first) / step < count

/-- No code is in both rows: one row ends before the other begins, or every second code is in one
row and the others are in the other. -/
def apart : ℕ × ℕ × ℕ → ℕ × ℕ × ℕ → Bool
  | (a, c, s), (b, d, t) =>
      Nat.blt (a + (c - 1) * s) b || Nat.blt (b + (d - 1) * t) a ||
        ((s == 2 || c == 1) && (t == 2 || d == 1) && (a + b) % 2 == 1)

theorem InRow.le {a c s n : ℕ} (h : InRow (a, c, s) n) : n ≤ a + (c - 1) * s := by
  obtain ⟨hfirst, hstep, hcount⟩ := h
  have hquotient : s * ((n - a) / s) = n - a := by
    have hdivision := Nat.div_add_mod (n - a) s
    omega
  have hbound : s * ((n - a) / s) ≤ (c - 1) * s := by
    rw [Nat.mul_comm s]
    exact Nat.mul_le_mul_right s (by omega)
  omega

theorem inRow_one {a c n : ℕ} : InRow (a, c, 1) n ↔ a ≤ n ∧ n < a + c := by
  simp only [InRow, Nat.mod_one, Nat.div_one, true_and]
  omega

theorem InRow.parity {a c s n : ℕ} (h : InRow (a, c, s) n) (heven : s = 2 ∨ c = 1) :
    n % 2 = a % 2 := by
  rcases heven with rfl | rfl
  · obtain ⟨hfirst, hstep, -⟩ := h
    omega
  · have hlast := h.le
    have hfirst := h.1
    simp only [Nat.sub_self, Nat.zero_mul] at hlast
    omega

theorem not_inRow_of_apart {row other : ℕ × ℕ × ℕ} {n : ℕ} (hapart : apart row other = true)
    (h : InRow row n) : ¬InRow other n := by
  obtain ⟨a, c, s⟩ := row
  obtain ⟨b, d, t⟩ := other
  intro hother
  simp only [apart, Bool.or_eq_true, Bool.and_eq_true, beq_iff_eq, Nat.blt_eq] at hapart
  rcases hapart with (hbefore | hbehind) | ⟨⟨hs, ht⟩, hodd⟩
  · have hlast := h.le
    have hfirst := hother.1
    omega
  · have hlast := hother.le
    have hfirst := h.1
    omega
  · have hparity := h.parity hs
    have hotherParity := hother.parity ht
    omega

def blankRows : List (ℕ × ℕ × ℕ) :=
  (9, 5, 1) :: (28, 5, 1) :: (8192, 11, 1) ::
    [133, 160, 5760, 8232, 8233, 8239, 8287, 12288].map (·, 1, 1)

theorem isSpace_eq_false {c : Char} (h : ∀ row ∈ blankRows, ¬InRow row c.toNat) :
    isSpace c = false := by
  simp only [blankRows, List.map, List.forall_mem_cons, inRow_one] at h
  simp only [isSpace, decide_eq_false_iff_not, List.mem_cons, List.not_mem_nil,
    or_false]
  omega

/-- The rows that a table changes, each with the rows of what its codes become. -/
abbrev CaseRows := List ((ℕ × ℕ × ℕ) × List (ℕ × ℕ × ℕ))

/-- What a table yields it does not change again, and neither side of it is blank. -/
def CaseRows.settled (rows : CaseRows) : Bool :=
  rows.all fun (row, images) =>
    blankRows.all (apart row) && images.all fun image =>
      apart image (0xD800, 0x800, 1) && Nat.blt (image.1 + (image.2.1 - 1) * image.2.2) 0x110000 &&
        blankRows.all (apart image) && rows.all fun (other, _) => apart image other

def upperRows : CaseRows :=
  ((97, 26, 1), [(65, 26, 1)]) ::
    (upperSpecials.map fun (first, count, image, behind) =>
      ((first, count, 1), (image, count, 1) :: behind.map (·, 1, 1))) ++
    upperRanges.map fun (first, count, step, image) =>
      ((first, count, step), [(image, count, step)])

def lowerRows : CaseRows :=
  ((65, 26, 1), [(97, 26, 1)]) :: ((0x130, 1, 1), [(0x69, 1, 1), (0x307, 1, 1)]) ::
    lowerRanges.map fun (first, count, step, image) =>
      ((first, count, step), [(image, count, step)])


theorem settled_upperRows : upperRows.settled = true := by decide +kernel

theorem settled_lowerRows : lowerRows.settled = true := by decide +kernel

/-- What a function that follows a table keeps. -/
theorem CaseRows.settled_spec {rows : CaseRows} {code : ℕ → List ℕ} (hsettled : rows.settled = true)
    (hcode : ∀ n, code n = [n] ∨ ∃ row ∈ rows, InRow row.1 n ∧ code n ≠ [] ∧
      ∀ d ∈ code n, ∃ image ∈ row.2, InRow image d) (c : Char) :
    code c.toNat ≠ [] ∧ ∀ d ∈ (code c.toNat).map Char.ofNat,
      code d.toNat = [d.toNat] ∧ isSpace d = isSpace c := by
  rcases hcode c.toNat with hsame | ⟨row, hrow, hin, hne, himages⟩
  · simp [hsame, Char.ofNat_toNat]
  · refine ⟨hne, ?_⟩
    simp only [CaseRows.settled, List.all_eq_true, Bool.and_eq_true] at hsettled
    obtain ⟨hblank, hall⟩ := hsettled row hrow
    have hspace : isSpace c = false :=
      isSpace_eq_false fun blank hmem => not_inRow_of_apart (hblank blank hmem) hin
    intro d hd
    obtain ⟨n, hn, rfl⟩ := List.mem_map.mp hd
    obtain ⟨image, himage, hinImage⟩ := himages n hn
    obtain ⟨⟨⟨hsurrogate, hlast⟩, himageBlank⟩, hothers⟩ := hall image himage
    have hvalid : (Char.ofNat n).toNat = n := by
      have hcode : n.isValidChar := by
        have hnotSurrogate := not_inRow_of_apart hsurrogate hinImage
        have hle : n ≤ image.1 + (image.2.1 - 1) * image.2.2 := hinImage.le
        have hlast := Nat.blt_eq.mp hlast
        rw [inRow_one] at hnotSurrogate
        unfold Nat.isValidChar
        omega
      rw [Char.ofNat, dif_pos hcode]
      rfl
    rw [hvalid]
    constructor
    · rcases hcode n with hsame | ⟨other, hother, hinOther, -⟩
      · exact hsame
      · exact absurd hinOther (not_inRow_of_apart (hothers other hother) hinImage)
    · rw [hspace]
      apply isSpace_eq_false
      intro blank hmem
      rw [hvalid]
      exact not_inRow_of_apart (himageBlank blank hmem) hinImage

theorem rangeImage_inRow {ranges : List (ℕ × ℕ × ℕ × ℕ)} {n d : ℕ}
    (h : rangeImage ranges n = some d) : ∃ row ∈ ranges,
      InRow (row.1, row.2.1, row.2.2.1) n ∧ InRow (row.2.2.2, row.2.1, row.2.2.1) d := by
  obtain ⟨⟨first, count, step, image⟩, hfound, rfl⟩ := Option.map_eq_some_iff.mp h
  have hin := List.find?_some hfound
  simp only [Bool.and_eq_true, decide_eq_true_iff, beq_iff_eq] at hin
  exact ⟨_, List.mem_of_find?_eq_some hfound, ⟨hin.1.1, hin.1.2, hin.2⟩,
    by simpa [InRow] using ⟨hin.1.2, hin.2⟩⟩

theorem specialImage_inRow {specials : List (ℕ × ℕ × ℕ × List ℕ)} {n : ℕ} {codes : List ℕ}
    (h : specialImage specials n = some codes) : ∃ row ∈ specials, InRow (row.1, row.2.1, 1) n ∧
      codes ≠ [] ∧ ∀ d ∈ codes,
        ∃ image ∈ (row.2.2.1, row.2.1, 1) :: row.2.2.2.map (·, 1, 1), InRow image d := by
  obtain ⟨⟨first, count, image, behind⟩, hfound, rfl⟩ := Option.map_eq_some_iff.mp h
  have hin := List.find?_some hfound
  simp only [Bool.and_eq_true, decide_eq_true_iff] at hin
  refine ⟨_, List.mem_of_find?_eq_some hfound, ?_, List.cons_ne_nil _ _, ?_⟩
  · rw [inRow_one]
    omega
  · intro d hd
    rcases List.mem_cons.mp hd with rfl | hbehind
    · refine ⟨(image, count, 1), List.mem_cons_self, ?_⟩
      rw [inRow_one]
      omega
    · refine ⟨(d, 1, 1), List.mem_cons_of_mem _ (List.mem_map_of_mem hbehind), ?_⟩
      simp [InRow]

theorem upperCode_rows (n : ℕ) : upperCode n = [n] ∨ ∃ row ∈ upperRows, InRow row.1 n ∧
    upperCode n ≠ [] ∧ ∀ d ∈ upperCode n, ∃ image ∈ row.2, InRow image d := by
  unfold upperCode
  split_ifs with hascii hletter
  · refine .inr ⟨_, List.mem_cons_self, ?_, List.cons_ne_nil _ _, ?_⟩
    · rw [inRow_one]
      omega
    · intro d hd
      obtain rfl := List.mem_singleton.mp hd
      refine ⟨_, List.mem_singleton_self _, ?_⟩
      rw [inRow_one]
      omega
  · exact .inl rfl
  · cases hspecial : specialImage upperSpecials n with
    | some codes =>
        obtain ⟨row, hrow, hin, hne, himages⟩ := specialImage_inRow hspecial
        exact .inr ⟨_, List.mem_cons_of_mem _ (List.mem_append_left _
          (List.mem_map.mpr ⟨row, hrow, rfl⟩)), hin, hne, himages⟩
    | none =>
        cases hrange : rangeImage upperRanges n with
        | none => exact .inl rfl
        | some d =>
            obtain ⟨row, hrow, hin, himage⟩ := rangeImage_inRow hrange
            refine .inr ⟨_, List.mem_cons_of_mem _ (List.mem_append_right _
              (List.mem_map.mpr ⟨row, hrow, rfl⟩)), hin, List.cons_ne_nil _ _, ?_⟩
            simpa using himage

theorem lowerCode_rows (n : ℕ) : lowerCode n = [n] ∨ ∃ row ∈ lowerRows, InRow row.1 n ∧
    lowerCode n ≠ [] ∧ ∀ d ∈ lowerCode n, ∃ image ∈ row.2, InRow image d := by
  unfold lowerCode
  split_ifs with hascii hletter hdotted
  · refine .inr ⟨_, List.mem_cons_self, ?_, List.cons_ne_nil _ _, ?_⟩
    · rw [inRow_one]
      omega
    · intro d hd
      obtain rfl := List.mem_singleton.mp hd
      refine ⟨_, List.mem_singleton_self _, ?_⟩
      rw [inRow_one]
      omega
  · exact .inl rfl
  · refine .inr ⟨_, List.mem_cons_of_mem _ List.mem_cons_self, ?_, List.cons_ne_nil _ _, ?_⟩
    · simp [InRow, hdotted]
    · simp [InRow]
  · cases hrange : rangeImage lowerRanges n with
    | none => exact .inl rfl
    | some d =>
        obtain ⟨row, hrow, hin, himage⟩ := rangeImage_inRow hrange
        refine .inr ⟨_, List.mem_cons_of_mem _ (List.mem_cons_of_mem _
          (List.mem_map.mpr ⟨row, hrow, rfl⟩)), hin, List.cons_ne_nil _ _, ?_⟩
        simpa using himage

/-! ## Stripped upper case -/

/-- What `upper` knows of a character. -/
theorem upperChar_spec (c : Char) : upperChar c ≠ [] ∧
    ∀ d ∈ upperChar c, upperChar d = [d] ∧ isSpace d = isSpace c := by
  obtain ⟨hne, hall⟩ := CaseRows.settled_spec settled_upperRows upperCode_rows c
  refine ⟨by simpa [upperChar] using hne, ?_⟩
  intro d hd
  obtain ⟨hfixed, hspace⟩ := hall d hd
  exact ⟨by simp [upperChar, hfixed, Char.ofNat_toNat], hspace⟩

theorem flatMap_upperChar (c : Char) : (upperChar c).flatMap upperChar = upperChar c := by
  conv_rhs => rw [← List.flatMap_singleton' (upperChar c)]
  apply List.flatMap_congr
  intro d hd
  exact ((upperChar_spec c).2 d hd).1

theorem upper_upper (text : String) : upper (upper text) = upper text := by
  unfold upper
  rw [String.toList_ofList, List.flatMap_assoc]
  congr 1
  apply List.flatMap_congr
  intro c _
  exact flatMap_upperChar c

/-- No blank at either end. -/
def Trimmed (text : List Char) : Prop :=
  (∀ c ∈ text.head?, isSpace c = false) ∧ ∀ c ∈ text.getLast?, isSpace c = false

theorem dropWhile_of_head {text : List Char} (h : ∀ c ∈ text.head?, isSpace c = false) :
    text.dropWhile isSpace = text := by
  cases text with
  | nil => rfl
  | cons c rest => simp [h c rfl]

theorem strip_of_trimmed {text : String} (h : Trimmed text.toList) : strip text = text := by
  have hreverse : text.toList.reverse.dropWhile isSpace = text.toList.reverse := by
    apply dropWhile_of_head
    rw [List.head?_reverse]
    exact h.2
  rw [strip, dropWhile_of_head h.1, hreverse, List.reverse_reverse, String.ofList_toList]

theorem head_dropWhile (text : List Char) :
    ∀ c ∈ (text.dropWhile isSpace).head?, isSpace c = false := by
  intro c hc
  have hnot := List.head?_dropWhile_not isSpace text
  rw [Option.mem_def.mp hc] at hnot
  exact hnot

theorem trimmed_strip (text : String) : Trimmed (strip text).toList := by
  unfold strip
  rw [String.toList_ofList]
  constructor
  · intro c hc
    have hprefix := List.rdropWhile_prefix isSpace (text.toList.dropWhile isSpace)
    refine head_dropWhile text.toList c (List.singleton_prefix_iff_head?_eq_some.mp ?_)
    exact (List.singleton_prefix_iff_head?_eq_some.mpr hc).trans hprefix
  · rw [List.getLast?_reverse]
    exact head_dropWhile _

theorem isSpace_of_mem_upperChar {c d : Char} (h : d ∈ upperChar c) : isSpace d = isSpace c :=
  ((upperChar_spec c).2 d h).2

theorem trimmed_upper {text : String} (h : Trimmed text.toList) : Trimmed (upper text).toList := by
  unfold upper
  rw [String.toList_ofList]
  constructor
  · cases htext : text.toList with
    | nil => simp
    | cons c rest =>
        intro d hd
        have hd' : d ∈ upperChar c := by
          rw [List.flatMap_cons, List.head?_append_of_ne_nil _ (upperChar_spec c).1] at hd
          exact List.mem_of_mem_head? hd
        rw [isSpace_of_mem_upperChar hd']
        exact h.1 c (by rw [htext]; rfl)
  · rcases List.eq_nil_or_concat' text.toList with htext | ⟨init, c, htext⟩
    · simp [htext]
    · intro d hd
      have hd' : d ∈ upperChar c := by
        rw [htext, List.flatMap_append, List.flatMap_singleton,
          List.getLast?_append_of_ne_nil _ (upperChar_spec c).1] at hd
        exact List.mem_of_getLast? hd
      rw [isSpace_of_mem_upperChar hd']
      exact h.2 c (by rw [htext]; simp)

theorem strip_upper_strip (text : String) : strip (upper (strip text)) = upper (strip text) :=
  strip_of_trimmed (trimmed_upper (trimmed_strip text))

theorem strip_strip (text : String) : strip (strip text) = strip text :=
  strip_of_trimmed (trimmed_strip text)

/-- Characters that keep what is blank are stripped after they are replaced as before. -/
theorem dropWhile_flatMap {replace : Char → List Char}
    (h : ∀ c, replace c ≠ [] ∧ ∀ d ∈ replace c, isSpace d = isSpace c) (text : List Char) :
    (text.flatMap replace).dropWhile isSpace = (text.dropWhile isSpace).flatMap replace := by
  induction text with
  | nil => rfl
  | cons c rest ih =>
      obtain ⟨hne, hsame⟩ := h c
      rw [List.flatMap_cons, List.dropWhile_cons]
      cases hspace : isSpace c with
      | true =>
          rw [List.dropWhile_append_of_pos fun d hd => (hsame d hd).trans hspace, if_pos rfl, ih]
      | false =>
          rw [if_neg Bool.false_ne_true, List.flatMap_cons]
          apply dropWhile_of_head
          intro d hd
          rw [List.head?_append_of_ne_nil _ hne] at hd
          exact (hsame d (List.mem_of_mem_head? hd)).trans hspace

theorem strip_upper (text : String) : strip (upper text) = upper (strip text) := by
  have hreversed : ∀ c, (upperChar c).reverse ≠ [] ∧
      ∀ d ∈ (upperChar c).reverse, isSpace d = isSpace c := by
    intro c
    obtain ⟨hne, hsame⟩ := upperChar_spec c
    exact ⟨by simpa using hne, fun d hd => (hsame d (List.mem_reverse.mp hd)).2⟩
  unfold strip upper
  rw [String.toList_ofList, String.toList_ofList, dropWhile_flatMap fun c =>
    ⟨(upperChar_spec c).1, fun d hd => isSpace_of_mem_upperChar hd⟩, List.reverse_flatMap]
  change String.ofList ((List.flatMap (fun c => (upperChar c).reverse) _).dropWhile isSpace).reverse
    = _
  rw [dropWhile_flatMap hreversed, List.reverse_flatMap]
  simp [Function.comp_def]

/-! ## Stripped lower case -/

/-- What `lower` knows of a character, wherever it stands. -/
theorem lowerAt_spec (before after : List Char) (c : Char) : lowerAt before after c ≠ [] ∧
    ∀ d ∈ lowerAt before after c,
      (∀ before' after', lowerAt before' after' d = [d]) ∧ isSpace d = isSpace c := by
  have hfixed : ∀ {d : Char}, d ≠ 'Σ' → lowerCode d.toNat = [d.toNat] →
      ∀ before' after', lowerAt before' after' d = [d] := by
    intro d hd hcode before' after'
    simp [lowerAt, hd, hcode, Char.ofNat_toNat]
  unfold lowerAt
  split_ifs with hsigma hfinal
  · subst hsigma
    refine ⟨List.cons_ne_nil _ _, List.forall_mem_singleton.mpr ⟨?_, by decide⟩⟩
    exact hfixed (by decide) (by decide +kernel)
  · subst hsigma
    refine ⟨List.cons_ne_nil _ _, List.forall_mem_singleton.mpr ⟨?_, by decide⟩⟩
    exact hfixed (by decide) (by decide +kernel)
  · obtain ⟨hne, hall⟩ := CaseRows.settled_spec settled_lowerRows lowerCode_rows c
    refine ⟨by simpa using hne, ?_⟩
    intro d hd
    refine ⟨hfixed ?_ (hall d hd).1, (hall d hd).2⟩
    rintro rfl
    exact absurd (hall 'Σ' hd).1 (by decide +kernel)

theorem mem_lowerFrom {before text : List Char} {d : Char} (h : d ∈ lowerFrom before text) :
    ∀ before' after', lowerAt before' after' d = [d] := by
  induction text generalizing before with
  | nil => simp [lowerFrom] at h
  | cons c rest ih =>
      rcases List.mem_append.mp h with hhead | hrest
      · exact ((lowerAt_spec before rest c).2 d hhead).1
      · exact ih hrest

theorem lowerFrom_of_fixed {before text : List Char}
    (h : ∀ d ∈ text, ∀ before' after', lowerAt before' after' d = [d]) :
    lowerFrom before text = text := by
  induction text generalizing before with
  | nil => rfl
  | cons c rest ih =>
      obtain ⟨hc, hrest⟩ := List.forall_mem_cons.mp h
      rw [lowerFrom, hc, ih hrest, List.singleton_append]

theorem lower_lower (text : String) : lower (lower text) = lower text := by
  unfold lower
  rw [String.toList_ofList, lowerFrom_of_fixed fun d hd => mem_lowerFrom hd]

theorem lowerFrom_concat (before text : List Char) (c : Char) :
    ∃ part before', lowerFrom before (text ++ [c]) = part ++ lowerAt before' [] c := by
  induction text generalizing before with
  | nil => exact ⟨[], before, by simp [lowerFrom]⟩
  | cons d rest ih =>
      obtain ⟨part, before', hpart⟩ := ih (d :: before)
      refine ⟨lowerAt before (rest ++ [c]) d ++ part, before', ?_⟩
      rw [List.cons_append, lowerFrom, hpart, List.append_assoc]

theorem trimmed_lower {text : String} (h : Trimmed text.toList) : Trimmed (lower text).toList := by
  unfold lower
  rw [String.toList_ofList]
  constructor
  · cases htext : text.toList with
    | nil => simp [lowerFrom]
    | cons c rest =>
        intro d hd
        obtain ⟨hne, hall⟩ := lowerAt_spec [] rest c
        rw [lowerFrom, List.head?_append_of_ne_nil _ hne] at hd
        rw [(hall d (List.mem_of_mem_head? hd)).2]
        exact h.1 c (by rw [htext]; rfl)
  · rcases List.eq_nil_or_concat' text.toList with htext | ⟨init, c, htext⟩
    · simp [htext, lowerFrom]
    · intro d hd
      obtain ⟨part, before', hpart⟩ := lowerFrom_concat [] init c
      obtain ⟨hne, hall⟩ := lowerAt_spec before' [] c
      rw [htext, hpart, List.getLast?_append_of_ne_nil _ hne] at hd
      rw [(hall d (List.mem_of_getLast? hd)).2]
      exact h.2 c (by rw [htext]; simp)

theorem strip_lower_strip (text : String) : strip (lower (strip text)) = lower (strip text) :=
  strip_of_trimmed (trimmed_lower (trimmed_strip text))

theorem lower_eq_empty {text : String} : lower text = "" ↔ text = "" := by
  have hlist : (lower text).toList = lowerFrom [] text.toList := String.toList_ofList
  rw [← String.toList_eq_nil_iff, hlist, ← String.toList_eq_nil_iff]
  cases text.toList with
  | nil => simp [lowerFrom]
  | cons c rest => simp [lowerFrom, (lowerAt_spec [] rest c).1]

end ProjectManager
