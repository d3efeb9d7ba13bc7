/-!
# Code pages

Encodings with one byte per character, whose lower half is ASCII. The upper half of a page is
written as runs: the first character of a run and how many follow each other in it. A run of
replacement characters stands for bytes without a meaning.
-/

set_option autoImplicit false

namespace QueryGate

abbrev CodePage := List (Nat × Nat)

namespace CodePage

def char? : CodePage → Nat → Option Char
  | [], _ => none
  | (first, length) :: rest, n =>
    if n < length then
      if first = 0xFFFD then none else some (Char.ofNat (first + n))
    else char? rest (n - length)

def char (page : CodePage) (b : UInt8) : Char :=
  if b.toNat < 0x80 then Char.ofNat b.toNat else (page.char? (b.toNat - 0x80)).getD '\ufffd'

def ascii : CodePage := []

def latin1 : CodePage := [(0x80, 128)]

def latin2 : CodePage := [
  (128, 33), (260, 1), (728, 1), (321, 1), (164, 1), (317, 1), (346, 1), (167, 2), (352, 1),
  (350, 1), (356, 1), (377, 1), (173, 1), (381, 1), (379, 1), (176, 1), (261, 1), (731, 1),
  (322, 1), (180, 1), (318, 1), (347, 1), (711, 1), (184, 1), (353, 1), (351, 1), (357, 1),
  (378, 1), (733, 1), (382, 1), (380, 1), (340, 1), (193, 2), (258, 1), (196, 1), (313, 1),
  (262, 1), (199, 1), (268, 1), (201, 1), (280, 1), (203, 1), (282, 1), (205, 2), (270, 1),
  (272, 1), (323, 1), (327, 1), (211, 2), (336, 1), (214, 2), (344, 1), (366, 1), (218, 1),
  (368, 1), (220, 2), (354, 1), (223, 1), (341, 1), (225, 2), (259, 1), (228, 1), (314, 1),
  (263, 1), (231, 1), (269, 1), (233, 1), (281, 1), (235, 1), (283, 1), (237, 2), (271, 1),
  (273, 1), (324, 1), (328, 1), (243, 2), (337, 1), (246, 2), (345, 1), (367, 1), (250, 1),
  (369, 1), (252, 2), (355, 1), (729, 1)
]

def latin3 : CodePage := [
  (128, 33), (294, 1), (728, 1), (163, 2), (65533, 1), (292, 1), (167, 2), (304, 1), (350, 1),
  (286, 1), (308, 1), (173, 1), (65533, 1), (379, 1), (176, 1), (295, 1), (178, 4), (293, 1),
  (183, 2), (305, 1), (351, 1), (287, 1), (309, 1), (189, 1), (65533, 1), (380, 1), (192, 3),
  (65533, 1), (196, 1), (266, 1), (264, 1), (199, 9), (65533, 1), (209, 4), (288, 1), (214, 2),
  (284, 1), (217, 4), (364, 1), (348, 1), (223, 4), (65533, 1), (228, 1), (267, 1), (265, 1),
  (231, 9), (65533, 1), (241, 4), (289, 1), (246, 2), (285, 1), (249, 4), (365, 1), (349, 1),
  (729, 1)
]

def latin4 : CodePage := [
  (128, 33), (260, 1), (312, 1), (342, 1), (164, 1), (296, 1), (315, 1), (167, 2), (352, 1),
  (274, 1), (290, 1), (358, 1), (173, 1), (381, 1), (175, 2), (261, 1), (731, 1), (343, 1),
  (180, 1), (297, 1), (316, 1), (711, 1), (184, 1), (353, 1), (275, 1), (291, 1), (359, 1),
  (330, 1), (382, 1), (331, 1), (256, 1), (193, 6), (302, 1), (268, 1), (201, 1), (280, 1),
  (203, 1), (278, 1), (205, 2), (298, 1), (272, 1), (325, 1), (332, 1), (310, 1), (212, 5),
  (370, 1), (218, 3), (360, 1), (362, 1), (223, 1), (257, 1), (225, 6), (303, 1), (269, 1),
  (233, 1), (281, 1), (235, 1), (279, 1), (237, 2), (299, 1), (273, 1), (326, 1), (333, 1),
  (311, 1), (244, 5), (371, 1), (250, 3), (361, 1), (363, 1), (729, 1)
]

def isoCyrillic : CodePage := [
  (128, 33), (1025, 12), (173, 1), (1038, 66), (8470, 1), (1105, 12), (167, 1), (1118, 2)
]

def isoArabic : CodePage := [
  (128, 33), (65533, 3), (164, 1), (65533, 7), (1548, 1), (173, 1), (65533, 13), (1563, 1),
  (65533, 3), (1567, 1), (65533, 1), (1569, 26), (65533, 5), (1600, 19), (65533, 13)
]

def isoGreek : CodePage := [
  (128, 33), (8216, 2), (163, 1), (8364, 1), (8367, 1), (166, 4), (890, 1), (171, 3), (65533, 1),
  (8213, 1), (176, 4), (900, 3), (183, 1), (904, 3), (187, 1), (908, 1), (189, 1), (910, 20),
  (65533, 1), (931, 44), (65533, 1)
]

def isoHebrew : CodePage := [
  (128, 33), (65533, 1), (162, 8), (215, 1), (171, 15), (247, 1), (187, 4), (65533, 32),
  (8215, 1), (1488, 27), (65533, 2), (8206, 2), (65533, 1)
]

def latin5 : CodePage := [
  (128, 80), (286, 1), (209, 12), (304, 1), (350, 1), (223, 17), (287, 1), (241, 12), (305, 1),
  (351, 1), (255, 1)
]

def latin6 : CodePage := [
  (128, 33), (260, 1), (274, 1), (290, 1), (298, 1), (296, 1), (310, 1), (167, 1), (315, 1),
  (272, 1), (352, 1), (358, 1), (381, 1), (173, 1), (362, 1), (330, 1), (176, 1), (261, 1),
  (275, 1), (291, 1), (299, 1), (297, 1), (311, 1), (183, 1), (316, 1), (273, 1), (353, 1),
  (359, 1), (382, 1), (8213, 1), (363, 1), (331, 1), (256, 1), (193, 6), (302, 1), (268, 1),
  (201, 1), (280, 1), (203, 1), (278, 1), (205, 4), (325, 1), (332, 1), (211, 4), (360, 1),
  (216, 1), (370, 1), (218, 6), (257, 1), (225, 6), (303, 1), (269, 1), (233, 1), (281, 1),
  (235, 1), (279, 1), (237, 4), (326, 1), (333, 1), (243, 4), (361, 1), (248, 1), (371, 1),
  (250, 5), (312, 1)
]

def isoThai : CodePage := [
  (128, 33), (3585, 58), (65533, 4), (3647, 29), (65533, 4)
]

def latin7 : CodePage := [
  (128, 33), (8221, 1), (162, 3), (8222, 1), (166, 2), (216, 1), (169, 1), (342, 1), (171, 4),
  (198, 1), (176, 4), (8220, 1), (181, 3), (248, 1), (185, 1), (343, 1), (187, 4), (230, 1),
  (260, 1), (302, 1), (256, 1), (262, 1), (196, 2), (280, 1), (274, 1), (268, 1), (201, 1),
  (377, 1), (278, 1), (290, 1), (310, 1), (298, 1), (315, 1), (352, 1), (323, 1), (325, 1),
  (211, 1), (332, 1), (213, 3), (370, 1), (321, 1), (346, 1), (362, 1), (220, 1), (379, 1),
  (381, 1), (223, 1), (261, 1), (303, 1), (257, 1), (263, 1), (228, 2), (281, 1), (275, 1),
  (269, 1), (233, 1), (378, 1), (279, 1), (291, 1), (311, 1), (299, 1), (316, 1), (353, 1),
  (324, 1), (326, 1), (243, 1), (333, 1), (245, 3), (371, 1), (322, 1), (347, 1), (363, 1),
  (252, 1), (380, 1), (382, 1), (8217, 1)
]

def latin8 : CodePage := [
  (128, 33), (7682, 2), (163, 1), (266, 2), (7690, 1), (167, 1), (7808, 1), (169, 1), (7810, 1),
  (7691, 1), (7922, 1), (173, 2), (376, 1), (7710, 2), (288, 2), (7744, 2), (182, 1), (7766, 1),
  (7809, 1), (7767, 1), (7811, 1), (7776, 1), (7923, 1), (7812, 2), (7777, 1), (192, 16),
  (372, 1), (209, 6), (7786, 1), (216, 6), (374, 1), (223, 17), (373, 1), (241, 6), (7787, 1),
  (248, 6), (375, 1), (255, 1)
]

def latin9 : CodePage := [
  (128, 36), (8364, 1), (165, 1), (352, 1), (167, 1), (353, 1), (169, 11), (381, 1), (181, 3),
  (382, 1), (185, 3), (338, 2), (376, 1), (191, 65)
]

def latin10 : CodePage := [
  (128, 33), (260, 2), (321, 1), (8364, 1), (8222, 1), (352, 1), (167, 1), (353, 1), (169, 1),
  (536, 1), (171, 1), (377, 1), (173, 1), (378, 2), (176, 2), (268, 1), (322, 1), (381, 1),
  (8221, 1), (182, 2), (382, 1), (269, 1), (537, 1), (187, 1), (338, 2), (376, 1), (380, 1),
  (192, 3), (258, 1), (196, 1), (262, 1), (198, 10), (272, 1), (323, 1), (210, 3), (336, 1),
  (214, 1), (346, 1), (368, 1), (217, 4), (280, 1), (538, 1), (223, 4), (259, 1), (228, 1),
  (263, 1), (230, 10), (273, 1), (324, 1), (242, 3), (337, 1), (246, 1), (347, 1), (369, 1),
  (249, 4), (281, 1), (539, 1), (255, 1)
]

def windows1250 : CodePage := [
  (8364, 1), (65533, 1), (8218, 1), (65533, 1), (8222, 1), (8230, 1), (8224, 2), (65533, 1),
  (8240, 1), (352, 1), (8249, 1), (346, 1), (356, 1), (381, 1), (377, 1), (65533, 1), (8216, 2),
  (8220, 2), (8226, 1), (8211, 2), (65533, 1), (8482, 1), (353, 1), (8250, 1), (347, 1), (357, 1),
  (382, 1), (378, 1), (160, 1), (711, 1), (728, 1), (321, 1), (164, 1), (260, 1), (166, 4),
  (350, 1), (171, 4), (379, 1), (176, 2), (731, 1), (322, 1), (180, 5), (261, 1), (351, 1),
  (187, 1), (317, 1), (733, 1), (318, 1), (380, 1), (340, 1), (193, 2), (258, 1), (196, 1),
  (313, 1), (262, 1), (199, 1), (268, 1), (201, 1), (280, 1), (203, 1), (282, 1), (205, 2),
  (270, 1), (272, 1), (323, 1), (327, 1), (211, 2), (336, 1), (214, 2), (344, 1), (366, 1),
  (218, 1), (368, 1), (220, 2), (354, 1), (223, 1), (341, 1), (225, 2), (259, 1), (228, 1),
  (314, 1), (263, 1), (231, 1), (269, 1), (233, 1), (281, 1), (235, 1), (283, 1), (237, 2),
  (271, 1), (273, 1), (324, 1), (328, 1), (243, 2), (337, 1), (246, 2), (345, 1), (367, 1),
  (250, 1), (369, 1), (252, 2), (355, 1), (729, 1)
]

def windows1251 : CodePage := [
  (1026, 2), (8218, 1), (1107, 1), (8222, 1), (8230, 1), (8224, 2), (8364, 1), (8240, 1),
  (1033, 1), (8249, 1), (1034, 1), (1036, 1), (1035, 1), (1039, 1), (1106, 1), (8216, 2),
  (8220, 2), (8226, 1), (8211, 2), (65533, 1), (8482, 1), (1113, 1), (8250, 1), (1114, 1),
  (1116, 1), (1115, 1), (1119, 1), (160, 1), (1038, 1), (1118, 1), (1032, 1), (164, 1), (1168, 1),
  (166, 2), (1025, 1), (169, 1), (1028, 1), (171, 4), (1031, 1), (176, 2), (1030, 1), (1110, 1),
  (1169, 1), (181, 3), (1105, 1), (8470, 1), (1108, 1), (187, 1), (1112, 1), (1029, 1), (1109, 1),
  (1111, 1), (1040, 64)
]

def windows1252 : CodePage := [
  (8364, 1), (65533, 1), (8218, 1), (402, 1), (8222, 1), (8230, 1), (8224, 2), (710, 1),
  (8240, 1), (352, 1), (8249, 1), (338, 1), (65533, 1), (381, 1), (65533, 2), (8216, 2),
  (8220, 2), (8226, 1), (8211, 2), (732, 1), (8482, 1), (353, 1), (8250, 1), (339, 1), (65533, 1),
  (382, 1), (376, 1), (160, 96)
]

def windows1253 : CodePage := [
  (8364, 1), (65533, 1), (8218, 1), (402, 1), (8222, 1), (8230, 1), (8224, 2), (65533, 1),
  (8240, 1), (65533, 1), (8249, 1), (65533, 5), (8216, 2), (8220, 2), (8226, 1), (8211, 2),
  (65533, 1), (8482, 1), (65533, 1), (8250, 1), (65533, 4), (160, 1), (901, 2), (163, 7),
  (65533, 1), (171, 4), (8213, 1), (176, 4), (900, 1), (181, 3), (904, 3), (187, 1), (908, 1),
  (189, 1), (910, 20), (65533, 1), (931, 44), (65533, 1)
]

def windows1254 : CodePage := [
  (8364, 1), (65533, 1), (8218, 1), (402, 1), (8222, 1), (8230, 1), (8224, 2), (710, 1),
  (8240, 1), (352, 1), (8249, 1), (338, 1), (65533, 4), (8216, 2), (8220, 2), (8226, 1),
  (8211, 2), (732, 1), (8482, 1), (353, 1), (8250, 1), (339, 1), (65533, 2), (376, 1), (160, 48),
  (286, 1), (209, 12), (304, 1), (350, 1), (223, 17), (287, 1), (241, 12), (305, 1), (351, 1),
  (255, 1)
]

def windows1255 : CodePage := [
  (8364, 1), (65533, 1), (8218, 1), (402, 1), (8222, 1), (8230, 1), (8224, 2), (710, 1),
  (8240, 1), (65533, 1), (8249, 1), (65533, 5), (8216, 2), (8220, 2), (8226, 1), (8211, 2),
  (732, 1), (8482, 1), (65533, 1), (8250, 1), (65533, 4), (160, 4), (8362, 1), (165, 5), (215, 1),
  (171, 15), (247, 1), (187, 5), (1456, 10), (65533, 1), (1467, 9), (1520, 5), (65533, 7),
  (1488, 27), (65533, 2), (8206, 2), (65533, 1)
]

def windows1256 : CodePage := [
  (8364, 1), (1662, 1), (8218, 1), (402, 1), (8222, 1), (8230, 1), (8224, 2), (710, 1), (8240, 1),
  (1657, 1), (8249, 1), (338, 1), (1670, 1), (1688, 1), (1672, 1), (1711, 1), (8216, 2),
  (8220, 2), (8226, 1), (8211, 2), (1705, 1), (8482, 1), (1681, 1), (8250, 1), (339, 1),
  (8204, 2), (1722, 1), (160, 1), (1548, 1), (162, 8), (1726, 1), (171, 15), (1563, 1), (187, 4),
  (1567, 1), (1729, 1), (1569, 22), (215, 1), (1591, 4), (1600, 4), (224, 1), (1604, 1), (226, 1),
  (1605, 4), (231, 5), (1609, 2), (238, 2), (1611, 4), (244, 1), (1615, 2), (247, 1), (1617, 1),
  (249, 1), (1618, 1), (251, 2), (8206, 2), (1746, 1)
]

def windows1257 : CodePage := [
  (8364, 1), (65533, 1), (8218, 1), (65533, 1), (8222, 1), (8230, 1), (8224, 2), (65533, 1),
  (8240, 1), (65533, 1), (8249, 1), (65533, 1), (168, 1), (711, 1), (184, 1), (65533, 1),
  (8216, 2), (8220, 2), (8226, 1), (8211, 2), (65533, 1), (8482, 1), (65533, 1), (8250, 1),
  (65533, 1), (175, 1), (731, 1), (65533, 1), (160, 1), (65533, 1), (162, 3), (65533, 1),
  (166, 2), (216, 1), (169, 1), (342, 1), (171, 4), (198, 1), (176, 8), (248, 1), (185, 1),
  (343, 1), (187, 4), (230, 1), (260, 1), (302, 1), (256, 1), (262, 1), (196, 2), (280, 1),
  (274, 1), (268, 1), (201, 1), (377, 1), (278, 1), (290, 1), (310, 1), (298, 1), (315, 1),
  (352, 1), (323, 1), (325, 1), (211, 1), (332, 1), (213, 3), (370, 1), (321, 1), (346, 1),
  (362, 1), (220, 1), (379, 1), (381, 1), (223, 1), (261, 1), (303, 1), (257, 1), (263, 1),
  (228, 2), (281, 1), (275, 1), (269, 1), (233, 1), (378, 1), (279, 1), (291, 1), (311, 1),
  (299, 1), (316, 1), (353, 1), (324, 1), (326, 1), (243, 1), (333, 1), (245, 3), (371, 1),
  (322, 1), (347, 1), (363, 1), (252, 1), (380, 1), (382, 1), (729, 1)
]

def windows1258 : CodePage := [
  (8364, 1), (65533, 1), (8218, 1), (402, 1), (8222, 1), (8230, 1), (8224, 2), (710, 1),
  (8240, 1), (65533, 1), (8249, 1), (338, 1), (65533, 4), (8216, 2), (8220, 2), (8226, 1),
  (8211, 2), (732, 1), (8482, 1), (65533, 1), (8250, 1), (339, 1), (65533, 2), (376, 1),
  (160, 35), (258, 1), (196, 8), (768, 1), (205, 3), (272, 1), (209, 1), (777, 1), (211, 2),
  (416, 1), (214, 7), (431, 1), (771, 1), (223, 4), (259, 1), (228, 8), (769, 1), (237, 3),
  (273, 1), (241, 1), (803, 1), (243, 2), (417, 1), (246, 7), (432, 1), (8363, 1), (255, 1)
]

def windows874 : CodePage := [
  (8364, 1), (65533, 4), (8230, 1), (65533, 11), (8216, 2), (8220, 2), (8226, 1), (8211, 2),
  (65533, 8), (160, 1), (3585, 58), (65533, 4), (3647, 29), (65533, 4)
]

def koi8Russian : CodePage := [
  (9472, 1), (9474, 1), (9484, 1), (9488, 1), (9492, 1), (9496, 1), (9500, 1), (9508, 1),
  (9516, 1), (9524, 1), (9532, 1), (9600, 1), (9604, 1), (9608, 1), (9612, 1), (9616, 4),
  (8992, 1), (9632, 1), (8729, 2), (8776, 1), (8804, 2), (160, 1), (8993, 1), (176, 1), (178, 1),
  (183, 1), (247, 1), (9552, 3), (1105, 1), (9555, 15), (1025, 1), (9570, 11), (169, 1),
  (1102, 1), (1072, 2), (1094, 1), (1076, 2), (1092, 1), (1075, 1), (1093, 1), (1080, 8),
  (1103, 1), (1088, 4), (1078, 1), (1074, 1), (1100, 1), (1099, 1), (1079, 1), (1096, 1),
  (1101, 1), (1097, 1), (1095, 1), (1098, 1), (1070, 1), (1040, 2), (1062, 1), (1044, 2),
  (1060, 1), (1043, 1), (1061, 1), (1048, 8), (1071, 1), (1056, 4), (1046, 1), (1042, 1),
  (1068, 1), (1067, 1), (1047, 1), (1064, 1), (1069, 1), (1065, 1), (1063, 1), (1066, 1)
]

def koi8Ukrainian : CodePage := [
  (9472, 1), (9474, 1), (9484, 1), (9488, 1), (9492, 1), (9496, 1), (9500, 1), (9508, 1),
  (9516, 1), (9524, 1), (9532, 1), (9600, 1), (9604, 1), (9608, 1), (9612, 1), (9616, 4),
  (8992, 1), (9632, 1), (8729, 2), (8776, 1), (8804, 2), (160, 1), (8993, 1), (176, 1), (178, 1),
  (183, 1), (247, 1), (9552, 3), (1105, 1), (1108, 1), (9556, 1), (1110, 2), (9559, 5), (1169, 1),
  (9565, 5), (1025, 1), (1028, 1), (9571, 1), (1030, 2), (9574, 5), (1168, 1), (9580, 1),
  (169, 1), (1102, 1), (1072, 2), (1094, 1), (1076, 2), (1092, 1), (1075, 1), (1093, 1),
  (1080, 8), (1103, 1), (1088, 4), (1078, 1), (1074, 1), (1100, 1), (1099, 1), (1079, 1),
  (1096, 1), (1101, 1), (1097, 1), (1095, 1), (1098, 1), (1070, 1), (1040, 2), (1062, 1),
  (1044, 2), (1060, 1), (1043, 1), (1061, 1), (1048, 8), (1071, 1), (1056, 4), (1046, 1),
  (1042, 1), (1068, 1), (1067, 1), (1047, 1), (1064, 1), (1069, 1), (1065, 1), (1063, 1),
  (1066, 1)
]

def thai : CodePage := [
  (128, 32), (65533, 1), (3585, 58), (65533, 4), (3647, 29), (65533, 4)
]

def dos437 : CodePage := [
  (199, 1), (252, 1), (233, 1), (226, 1), (228, 1), (224, 1), (229, 1), (231, 1), (234, 2),
  (232, 1), (239, 1), (238, 1), (236, 1), (196, 2), (201, 1), (230, 1), (198, 1), (244, 1),
  (246, 1), (242, 1), (251, 1), (249, 1), (255, 1), (214, 1), (220, 1), (162, 2), (165, 1),
  (8359, 1), (402, 1), (225, 1), (237, 1), (243, 1), (250, 1), (241, 1), (209, 1), (170, 1),
  (186, 1), (191, 1), (8976, 1), (172, 1), (189, 1), (188, 1), (161, 1), (171, 1), (187, 1),
  (9617, 3), (9474, 1), (9508, 1), (9569, 2), (9558, 1), (9557, 1), (9571, 1), (9553, 1),
  (9559, 1), (9565, 1), (9564, 1), (9563, 1), (9488, 1), (9492, 1), (9524, 1), (9516, 1),
  (9500, 1), (9472, 1), (9532, 1), (9566, 2), (9562, 1), (9556, 1), (9577, 1), (9574, 1),
  (9568, 1), (9552, 1), (9580, 1), (9575, 2), (9572, 2), (9561, 1), (9560, 1), (9554, 2),
  (9579, 1), (9578, 1), (9496, 1), (9484, 1), (9608, 1), (9604, 1), (9612, 1), (9616, 1),
  (9600, 1), (945, 1), (223, 1), (915, 1), (960, 1), (931, 1), (963, 1), (181, 1), (964, 1),
  (934, 1), (920, 1), (937, 1), (948, 1), (8734, 1), (966, 1), (949, 1), (8745, 1), (8801, 1),
  (177, 1), (8805, 1), (8804, 1), (8992, 2), (247, 1), (8776, 1), (176, 1), (8729, 1), (183, 1),
  (8730, 1), (8319, 1), (178, 1), (9632, 1), (160, 1)
]

def dos850 : CodePage := [
  (199, 1), (252, 1), (233, 1), (226, 1), (228, 1), (224, 1), (229, 1), (231, 1), (234, 2),
  (232, 1), (239, 1), (238, 1), (236, 1), (196, 2), (201, 1), (230, 1), (198, 1), (244, 1),
  (246, 1), (242, 1), (251, 1), (249, 1), (255, 1), (214, 1), (220, 1), (248, 1), (163, 1),
  (216, 1), (215, 1), (402, 1), (225, 1), (237, 1), (243, 1), (250, 1), (241, 1), (209, 1),
  (170, 1), (186, 1), (191, 1), (174, 1), (172, 1), (189, 1), (188, 1), (161, 1), (171, 1),
  (187, 1), (9617, 3), (9474, 1), (9508, 1), (193, 2), (192, 1), (169, 1), (9571, 1), (9553, 1),
  (9559, 1), (9565, 1), (162, 1), (165, 1), (9488, 1), (9492, 1), (9524, 1), (9516, 1), (9500, 1),
  (9472, 1), (9532, 1), (227, 1), (195, 1), (9562, 1), (9556, 1), (9577, 1), (9574, 1), (9568, 1),
  (9552, 1), (9580, 1), (164, 1), (240, 1), (208, 1), (202, 2), (200, 1), (305, 1), (205, 3),
  (9496, 1), (9484, 1), (9608, 1), (9604, 1), (166, 1), (204, 1), (9600, 1), (211, 1), (223, 1),
  (212, 1), (210, 1), (245, 1), (213, 1), (181, 1), (254, 1), (222, 1), (218, 2), (217, 1),
  (253, 1), (221, 1), (175, 1), (180, 1), (173, 1), (177, 1), (8215, 1), (190, 1), (182, 1),
  (167, 1), (247, 1), (184, 1), (176, 1), (168, 1), (183, 1), (185, 1), (179, 1), (178, 1),
  (9632, 1), (160, 1)
]

def dos852 : CodePage := [
  (199, 1), (252, 1), (233, 1), (226, 1), (228, 1), (367, 1), (263, 1), (231, 1), (322, 1),
  (235, 1), (336, 2), (238, 1), (377, 1), (196, 1), (262, 1), (201, 1), (313, 2), (244, 1),
  (246, 1), (317, 2), (346, 2), (214, 1), (220, 1), (356, 2), (321, 1), (215, 1), (269, 1),
  (225, 1), (237, 1), (243, 1), (250, 1), (260, 2), (381, 2), (280, 2), (172, 1), (378, 1),
  (268, 1), (351, 1), (171, 1), (187, 1), (9617, 3), (9474, 1), (9508, 1), (193, 2), (282, 1),
  (350, 1), (9571, 1), (9553, 1), (9559, 1), (9565, 1), (379, 2), (9488, 1), (9492, 1), (9524, 1),
  (9516, 1), (9500, 1), (9472, 1), (9532, 1), (258, 2), (9562, 1), (9556, 1), (9577, 1),
  (9574, 1), (9568, 1), (9552, 1), (9580, 1), (164, 1), (273, 1), (272, 1), (270, 1), (203, 1),
  (271, 1), (327, 1), (205, 2), (283, 1), (9496, 1), (9484, 1), (9608, 1), (9604, 1), (354, 1),
  (366, 1), (9600, 1), (211, 1), (223, 1), (212, 1), (323, 2), (328, 1), (352, 2), (340, 1),
  (218, 1), (341, 1), (368, 1), (253, 1), (221, 1), (355, 1), (180, 1), (173, 1), (733, 1),
  (731, 1), (711, 1), (728, 1), (167, 1), (247, 1), (184, 1), (176, 1), (168, 1), (729, 1),
  (369, 1), (344, 2), (9632, 1), (160, 1)
]

def dos855 : CodePage := [
  (1106, 1), (1026, 1), (1107, 1), (1027, 1), (1105, 1), (1025, 1), (1108, 1), (1028, 1),
  (1109, 1), (1029, 1), (1110, 1), (1030, 1), (1111, 1), (1031, 1), (1112, 1), (1032, 1),
  (1113, 1), (1033, 1), (1114, 1), (1034, 1), (1115, 1), (1035, 1), (1116, 1), (1036, 1),
  (1118, 1), (1038, 1), (1119, 1), (1039, 1), (1102, 1), (1070, 1), (1098, 1), (1066, 1),
  (1072, 1), (1040, 1), (1073, 1), (1041, 1), (1094, 1), (1062, 1), (1076, 1), (1044, 1),
  (1077, 1), (1045, 1), (1092, 1), (1060, 1), (1075, 1), (1043, 1), (171, 1), (187, 1), (9617, 3),
  (9474, 1), (9508, 1), (1093, 1), (1061, 1), (1080, 1), (1048, 1), (9571, 1), (9553, 1),
  (9559, 1), (9565, 1), (1081, 1), (1049, 1), (9488, 1), (9492, 1), (9524, 1), (9516, 1),
  (9500, 1), (9472, 1), (9532, 1), (1082, 1), (1050, 1), (9562, 1), (9556, 1), (9577, 1),
  (9574, 1), (9568, 1), (9552, 1), (9580, 1), (164, 1), (1083, 1), (1051, 1), (1084, 1),
  (1052, 1), (1085, 1), (1053, 1), (1086, 1), (1054, 1), (1087, 1), (9496, 1), (9484, 1),
  (9608, 1), (9604, 1), (1055, 1), (1103, 1), (9600, 1), (1071, 1), (1088, 1), (1056, 1),
  (1089, 1), (1057, 1), (1090, 1), (1058, 1), (1091, 1), (1059, 1), (1078, 1), (1046, 1),
  (1074, 1), (1042, 1), (1100, 1), (1068, 1), (8470, 1), (173, 1), (1099, 1), (1067, 1),
  (1079, 1), (1047, 1), (1096, 1), (1064, 1), (1101, 1), (1069, 1), (1097, 1), (1065, 1),
  (1095, 1), (1063, 1), (167, 1), (9632, 1), (160, 1)
]

def dos858 : CodePage := [
  (199, 1), (252, 1), (233, 1), (226, 1), (228, 1), (224, 1), (229, 1), (231, 1), (234, 2),
  (232, 1), (239, 1), (238, 1), (236, 1), (196, 2), (201, 1), (230, 1), (198, 1), (244, 1),
  (246, 1), (242, 1), (251, 1), (249, 1), (255, 1), (214, 1), (220, 1), (248, 1), (163, 1),
  (216, 1), (215, 1), (402, 1), (225, 1), (237, 1), (243, 1), (250, 1), (241, 1), (209, 1),
  (170, 1), (186, 1), (191, 1), (174, 1), (172, 1), (189, 1), (188, 1), (161, 1), (171, 1),
  (187, 1), (9617, 3), (9474, 1), (9508, 1), (193, 2), (192, 1), (169, 1), (9571, 1), (9553, 1),
  (9559, 1), (9565, 1), (162, 1), (165, 1), (9488, 1), (9492, 1), (9524, 1), (9516, 1), (9500, 1),
  (9472, 1), (9532, 1), (227, 1), (195, 1), (9562, 1), (9556, 1), (9577, 1), (9574, 1), (9568, 1),
  (9552, 1), (9580, 1), (164, 1), (240, 1), (208, 1), (202, 2), (200, 1), (8364, 1), (205, 3),
  (9496, 1), (9484, 1), (9608, 1), (9604, 1), (166, 1), (204, 1), (9600, 1), (211, 1), (223, 1),
  (212, 1), (210, 1), (245, 1), (213, 1), (181, 1), (254, 1), (222, 1), (218, 2), (217, 1),
  (253, 1), (221, 1), (175, 1), (180, 1), (173, 1), (177, 1), (8215, 1), (190, 1), (182, 1),
  (167, 1), (247, 1), (184, 1), (176, 1), (168, 1), (183, 1), (185, 1), (179, 1), (178, 1),
  (9632, 1), (160, 1)
]

def dos866 : CodePage := [
  (1040, 48), (9617, 3), (9474, 1), (9508, 1), (9569, 2), (9558, 1), (9557, 1), (9571, 1),
  (9553, 1), (9559, 1), (9565, 1), (9564, 1), (9563, 1), (9488, 1), (9492, 1), (9524, 1),
  (9516, 1), (9500, 1), (9472, 1), (9532, 1), (9566, 2), (9562, 1), (9556, 1), (9577, 1),
  (9574, 1), (9568, 1), (9552, 1), (9580, 1), (9575, 2), (9572, 2), (9561, 1), (9560, 1),
  (9554, 2), (9579, 1), (9578, 1), (9496, 1), (9484, 1), (9608, 1), (9604, 1), (9612, 1),
  (9616, 1), (9600, 1), (1088, 16), (1025, 1), (1105, 1), (1028, 1), (1108, 1), (1031, 1),
  (1111, 1), (1038, 1), (1118, 1), (176, 1), (8729, 1), (183, 1), (8730, 1), (8470, 1), (164, 1),
  (9632, 1), (160, 1)
]

def macRoman : CodePage := [
  (196, 2), (199, 1), (201, 1), (209, 1), (214, 1), (220, 1), (225, 1), (224, 1), (226, 1),
  (228, 1), (227, 1), (229, 1), (231, 1), (233, 1), (232, 1), (234, 2), (237, 1), (236, 1),
  (238, 2), (241, 1), (243, 1), (242, 1), (244, 1), (246, 1), (245, 1), (250, 1), (249, 1),
  (251, 2), (8224, 1), (176, 1), (162, 2), (167, 1), (8226, 1), (182, 1), (223, 1), (174, 1),
  (169, 1), (8482, 1), (180, 1), (168, 1), (8800, 1), (198, 1), (216, 1), (8734, 1), (177, 1),
  (8804, 2), (165, 1), (181, 1), (8706, 1), (8721, 1), (8719, 1), (960, 1), (8747, 1), (170, 1),
  (186, 1), (937, 1), (230, 1), (248, 1), (191, 1), (161, 1), (172, 1), (8730, 1), (402, 1),
  (8776, 1), (8710, 1), (171, 1), (187, 1), (8230, 1), (160, 1), (192, 1), (195, 1), (213, 1),
  (338, 2), (8211, 2), (8220, 2), (8216, 2), (247, 1), (9674, 1), (255, 1), (376, 1), (8260, 1),
  (8364, 1), (8249, 2), (64257, 2), (8225, 1), (183, 1), (8218, 1), (8222, 1), (8240, 1),
  (194, 1), (202, 1), (193, 1), (203, 1), (200, 1), (205, 3), (204, 1), (211, 2), (63743, 1),
  (210, 1), (218, 2), (217, 1), (305, 1), (710, 1), (732, 1), (175, 1), (728, 3), (184, 1),
  (733, 1), (731, 1), (711, 1)
]

def macCyrillic : CodePage := [
  (1040, 32), (8224, 1), (176, 1), (1168, 1), (163, 1), (167, 1), (8226, 1), (182, 1), (1030, 1),
  (174, 1), (169, 1), (8482, 1), (1026, 1), (1106, 1), (8800, 1), (1027, 1), (1107, 1), (8734, 1),
  (177, 1), (8804, 2), (1110, 1), (181, 1), (1169, 1), (1032, 1), (1028, 1), (1108, 1), (1031, 1),
  (1111, 1), (1033, 1), (1113, 1), (1034, 1), (1114, 1), (1112, 1), (1029, 1), (172, 1),
  (8730, 1), (402, 1), (8776, 1), (8710, 1), (171, 1), (187, 1), (8230, 1), (160, 1), (1035, 1),
  (1115, 1), (1036, 1), (1116, 1), (1109, 1), (8211, 2), (8220, 2), (8216, 2), (247, 1),
  (8222, 1), (1038, 1), (1118, 1), (1039, 1), (1119, 1), (8470, 1), (1025, 1), (1105, 1),
  (1103, 1), (1072, 31), (8364, 1)
]

end CodePage

end QueryGate
