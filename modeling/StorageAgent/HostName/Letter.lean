import StorageAgent.Text.Basic

/-!
# Letters of host names

The characters that may stand in an internationalised host name (RFC 5892),
each with its direction (Unicode 14, Bidi_Class). Upper-case letters are not
among them. A few characters may stand only beside certain others;
`HostName.Label` says where.
-/
namespace StorageAgent.HostName

/-- The direction in which a character is read. -/
inductive Direction where
  | left
  | right
  | arabic
  | arabicNumber
  | europeanNumber
  | europeanSeparator
  | neutral
  | boundary
  /-- That of the character before. -/
  | mark
  deriving DecidableEq, Repr

/-- Letters and digits read from left to right. -/
def leftLetters : List (Nat × Nat) := [
  (97, 26), (100, 24), (1, 8), (1, 1), (1, 1), (1, 1), (1, 1), (1, 1), (1, 1), (1, 1), (1, 1),
  (1, 1), (1, 1), (1, 1), (1, 1), (1, 1), (1, 1), (1, 1), (1, 1), (1, 1), (1, 1), (1, 1), (1, 1),
  (1, 1), (1, 1), (1, 1), (1, 1), (1, 1), (3, 1), (1, 2), (1, 1), (1, 1), (1, 1), (3, 1), (1, 1),
  (1, 1), (1, 1), (2, 1), (1, 1), (1, 1), (1, 1), (1, 1), (1, 1), (1, 1), (1, 1), (1, 1), (1, 1),
  (1, 1), (1, 1), (1, 1), (1, 1), (1, 1), (1, 1), (1, 1), (1, 1), (1, 1), (1, 1), (1, 1), (1, 1),
  (1, 1), (2, 1), (1, 1), (1, 1), (1, 1), (2, 1), (1, 1), (2, 1), (3, 2), (4, 1), (2, 1), (3, 3),
  (2, 1), (2, 1), (1, 1), (1, 1), (2, 1), (1, 2), (1, 1), (2, 1), (3, 1), (1, 1), (2, 3), (1, 7),
  (10, 1), (1, 1), (1, 1), (1, 1), (1, 1), (1, 1), (1, 1), (1, 2), (1, 1), (1, 1), (1, 1), (1, 1),
  (1, 1), (1, 1), (1, 1), (1, 1), (1, 2), (4, 1), (3, 1), (1, 1), (1, 1), (1, 1), (1, 1), (1, 1),
  (1, 1), (1, 1), (1, 1), (1, 1), (1, 1), (1, 1), (1, 1), (1, 1), (1, 1), (1, 1), (1, 1), (1, 1),
  (1, 1), (1, 1), (1, 1), (1, 1), (1, 1), (1, 1), (1, 1), (1, 1), (1, 1), (1, 1), (1, 1), (1, 7),
  (2, 1), (2, 2), (1, 1), (4, 1), (1, 1), (1, 1), (1, 1), (1, 97), (11, 7), (14, 2), (28, 1),
  (130, 1), (1, 1), (3, 1), (3, 3), (18, 1), (27, 35), (8, 1), (1, 1), (1, 1), (1, 1), (1, 1),
  (1, 1), (1, 1), (1, 1), (1, 1), (1, 1), (1, 1), (1, 1), (1, 1), (3, 1), (4, 1), (2, 2), (51, 48),
  (1, 1), (1, 1), (1, 1), (1, 1), (1, 1), (1, 1), (1, 1), (1, 1), (1, 1), (1, 1), (1, 1), (1, 1),
  (1, 1), (1, 1), (1, 1), (1, 1), (1, 1), (9, 1), (1, 1), (1, 1), (1, 1), (1, 1), (1, 1), (1, 1),
  (1, 1), (1, 1), (1, 1), (1, 1), (1, 1), (1, 1), (1, 1), (1, 1), (1, 1), (1, 1), (1, 1), (1, 1),
  (1, 1), (1, 1), (1, 1), (1, 1), (1, 1), (1, 1), (1, 1), (1, 1), (2, 1), (1, 1), (1, 1), (1, 1),
  (1, 1), (1, 1), (1, 2), (1, 1), (1, 1), (1, 1), (1, 1), (1, 1), (1, 1), (1, 1), (1, 1), (1, 1),
  (1, 1), (1, 1), (1, 1), (1, 1), (1, 1), (1, 1), (1, 1), (1, 1), (1, 1), (1, 1), (1, 1), (1, 1),
  (1, 1), (1, 1), (1, 1), (1, 1), (1, 1), (1, 1), (1, 1), (1, 1), (1, 1), (1, 1), (1, 1), (1, 1),
  (1, 1), (1, 1), (1, 1), (1, 1), (1, 1), (1, 1), (1, 1), (1, 1), (1, 1), (1, 1), (1, 1), (1, 1),
  (1, 1), (1, 1), (1, 1), (41, 1), (6, 39), (1, 1), (891, 54), (3, 1), (18, 1), (15, 2), (4, 10),
  (1, 16), (4, 8), (2, 2), (2, 22), (1, 7), (1, 1), (3, 4), (3, 1), (16, 1), (17, 2), (4, 12),
  (10, 1), (8, 6), (4, 2), (2, 22), (1, 7), (1, 1), (2, 1), (2, 2), (34, 1), (9, 10), (2, 3),
  (16, 9), (1, 3), (1, 22), (1, 7), (1, 2), (1, 5), (3, 1), (18, 1), (15, 2), (4, 10), (9, 1),
  (11, 8), (2, 2), (2, 22), (1, 7), (1, 2), (1, 5), (3, 1), (33, 3), (4, 10), (1, 1), (17, 1),
  (1, 6), (3, 3), (1, 4), (3, 2), (1, 1), (1, 2), (3, 2), (3, 3), (3, 12), (22, 1), (21, 10),
  (21, 8), (1, 3), (1, 23), (1, 16), (3, 1), (26, 3), (2, 1), (2, 2), (4, 10), (16, 1), (4, 8),
  (1, 3), (1, 23), (1, 10), (1, 5), (3, 1), (31, 2), (1, 2), (4, 10), (1, 2), (17, 9), (1, 3),
  (1, 41), (2, 1), (16, 1), (5, 3), (8, 3), (4, 10), (10, 6), (5, 18), (3, 24), (1, 9), (1, 1),
  (2, 7), (31, 10), (17, 48), (1, 1), (13, 7), (9, 10), (39, 2), (1, 1), (1, 5), (1, 24), (1, 1),
  (1, 10), (1, 1), (10, 1), (2, 5), (1, 1), (9, 10), (4, 2), (32, 1), (10, 1), (20, 10), (22, 3),
  (1, 4), (1, 4), (1, 4), (1, 4), (1, 4), (1, 12), (1, 3), (27, 5), (115, 43), (20, 11), (6, 6),
  (4, 4), (3, 1), (3, 2), (7, 3), (4, 13), (12, 1), (1, 10), (54, 43), (2, 3), (256, 73), (1, 4),
  (2, 7), (1, 1), (1, 4), (2, 41), (1, 4), (2, 33), (1, 4), (2, 7), (1, 1), (1, 4), (2, 15),
  (1, 57), (1, 4), (2, 67), (37, 16), (16, 86), (11, 620), (2, 17), (1, 26), (5, 75), (6, 8),
  (7, 18), (13, 19), (14, 18), (14, 13), (1, 3), (15, 52), (35, 1), (4, 1), (3, 10), (38, 10),
  (6, 89), (7, 5), (2, 34), (1, 1), (5, 70), (10, 31), (39, 40), (2, 5), (11, 44), (4, 26), (6, 10),
  (38, 23), (9, 53), (43, 10), (6, 10), (13, 1), (93, 47), (17, 8), (3, 10), (41, 30), (13, 56),
  (26, 36), (28, 10), (3, 49), (107, 4), (1, 6), (1, 2), (3, 1), (5, 44), (3, 1), (11, 1), (18, 1),
  (28, 13), (1, 34), (102, 1), (1, 1), (1, 1), (1, 1), (1, 1), (1, 1), (1, 1), (1, 1), (1, 1),
  (1, 1), (1, 1), (1, 1), (1, 1), (1, 1), (1, 1), (1, 1), (1, 1), (1, 1), (1, 1), (1, 1), (1, 1),
  (1, 1), (1, 1), (1, 1), (1, 1), (1, 1), (1, 1), (1, 1), (1, 1), (1, 1), (1, 1), (1, 1), (1, 1),
  (1, 1), (1, 1), (1, 1), (1, 1), (1, 1), (1, 1), (1, 1), (1, 1), (1, 1), (1, 1), (1, 1), (1, 1),
  (1, 1), (1, 1), (1, 1), (1, 1), (1, 1), (1, 1), (1, 1), (1, 1), (1, 1), (1, 1), (1, 1), (1, 1),
  (1, 1), (1, 1), (1, 1), (1, 1), (1, 1), (1, 1), (1, 1), (1, 1), (1, 1), (1, 1), (1, 1), (1, 1),
  (1, 1), (1, 1), (1, 1), (1, 1), (1, 1), (1, 5), (2, 2), (1, 1), (1, 1), (1, 1), (1, 1), (1, 1),
  (1, 1), (1, 1), (1, 1), (1, 1), (1, 1), (1, 1), (1, 1), (1, 1), (1, 1), (1, 1), (1, 1), (1, 1),
  (1, 1), (1, 1), (1, 1), (1, 1), (1, 1), (1, 1), (1, 1), (1, 1), (1, 1), (1, 1), (1, 1), (1, 1),
  (1, 1), (1, 1), (1, 1), (1, 1), (1, 1), (1, 1), (1, 1), (1, 1), (1, 1), (1, 1), (1, 1), (1, 1),
  (1, 1), (1, 1), (1, 1), (1, 1), (1, 1), (1, 1), (1, 1), (1, 9), (8, 6), (10, 8), (8, 8), (8, 6),
  (10, 8), (8, 8), (8, 1), (1, 1), (1, 1), (1, 1), (1, 1), (1, 1), (1, 1), (51, 2), (4, 1), (15, 1),
  (9, 3), (3, 2), (8, 3), (1, 4), (14, 1), (343, 1), (53, 1), (2731, 48), (1, 1), (3, 2), (1, 1),
  (1, 1), (1, 1), (4, 1), (1, 2), (1, 6), (5, 1), (1, 1), (1, 1), (1, 1), (1, 1), (1, 1), (1, 1),
  (1, 1), (1, 1), (1, 1), (1, 1), (1, 1), (1, 1), (1, 1), (1, 1), (1, 1), (1, 1), (1, 1), (1, 1),
  (1, 1), (1, 1), (1, 1), (1, 1), (1, 1), (1, 1), (1, 1), (1, 1), (1, 1), (1, 1), (1, 1), (1, 1),
  (1, 1), (1, 1), (1, 1), (1, 1), (1, 1), (1, 1), (1, 1), (1, 1), (1, 1), (1, 1), (1, 1), (1, 1),
  (1, 1), (1, 1), (1, 1), (1, 1), (1, 1), (1, 1), (1, 2), (7, 1), (1, 1), (4, 1), (12, 38), (1, 1),
  (5, 1), (2, 56), (24, 23), (9, 7), (1, 7), (1, 7), (1, 7), (1, 7), (1, 7), (1, 7), (1, 7),
  (550, 3), (52, 1), (4, 86), (6, 2), (2, 90), (1, 3), (6, 43), (112, 32), (48, 16), (512, 6592),
  (64, 22157), (67, 46), (2, 269), (3, 28), (21, 1), (1, 1), (1, 1), (1, 1), (1, 1), (1, 1), (1, 1),
  (1, 1), (1, 1), (1, 1), (1, 1), (1, 1), (1, 1), (1, 1), (1, 1), (1, 1), (1, 1), (1, 1), (1, 1),
  (1, 1), (1, 1), (1, 1), (1, 2), (18, 1), (1, 1), (1, 1), (1, 1), (1, 1), (1, 1), (1, 1), (1, 1),
  (1, 1), (1, 1), (1, 1), (1, 1), (1, 1), (1, 1), (4, 70), (61, 1), (1, 1), (1, 1), (1, 1), (1, 1),
  (1, 1), (1, 3), (1, 1), (1, 1), (1, 1), (1, 1), (1, 1), (1, 1), (1, 1), (1, 1), (1, 1), (1, 1),
  (1, 1), (1, 1), (1, 1), (1, 1), (1, 1), (1, 1), (1, 1), (1, 1), (1, 1), (1, 1), (1, 1), (1, 1),
  (1, 1), (1, 1), (1, 1), (1, 1), (1, 1), (1, 1), (1, 1), (1, 1), (1, 1), (1, 8), (1, 1), (1, 1),
  (2, 1), (1, 1), (1, 1), (1, 1), (1, 1), (4, 1), (1, 2), (1, 1), (1, 3), (1, 1), (1, 1), (1, 1),
  (1, 1), (1, 1), (1, 1), (1, 1), (1, 1), (1, 1), (1, 1), (5, 1), (5, 1), (1, 1), (1, 1), (1, 1),
  (1, 1), (1, 1), (1, 1), (1, 1), (4, 1), (1, 1), (6, 1), (1, 1), (1, 1), (1, 1), (1, 1), (28, 2),
  (2, 8), (1, 3), (1, 4), (1, 23), (29, 52), (14, 50), (28, 10), (24, 6), (3, 1), (1, 2), (1, 38),
  (10, 23), (61, 47), (28, 11), (6, 5), (1, 25), (1, 41), (23, 3), (1, 8), (4, 10), (6, 23), (3, 1),
  (3, 50), (1, 1), (3, 2), (2, 5), (2, 1), (1, 1), (24, 3), (2, 11), (7, 3), (12, 6), (2, 6),
  (2, 6), (9, 7), (1, 7), (1, 43), (5, 9), (87, 35), (13, 10), (6, 11172), (8810, 2), (1, 1),
  (1, 2), (10, 1), (1, 1), (1, 2), (2, 3), (1494, 12), (1, 26), (1, 19), (1, 2), (1, 15), (2, 14),
  (34, 123), (389, 29), (3, 49), (47, 32), (13, 20), (1, 8), (6, 38), (10, 30), (2, 36), (4, 8),
  (88, 118), (2, 10), (46, 36), (4, 40), (8, 52), (51, 11), (1, 15), (1, 7), (1, 2), (67, 311),
  (9, 22), (10, 8), (24, 1), (2178, 53), (46, 10), (1, 2), (2, 1), (13, 45), (32, 25), (7, 10),
  (9, 36), (15, 10), (4, 1), (2, 1), (8, 35), (3, 1), (12, 48), (14, 4), (11, 11), (1, 1), (35, 18),
  (1, 25), (84, 7), (1, 1), (1, 4), (1, 15), (1, 10), (7, 47), (17, 10), (11, 8), (2, 2), (2, 22),
  (1, 7), (1, 2), (1, 5), (3, 1), (18, 1), (12, 5), (158, 53), (18, 4), (5, 10), (5, 3), (30, 48),
  (20, 2), (1, 1), (8, 10), (166, 47), (41, 4), (36, 48), (20, 1), (11, 10), (38, 43), (13, 1),
  (7, 10), (54, 27), (21, 10), (6, 7), (185, 44), (148, 42), (21, 8), (2, 1), (2, 8), (1, 2),
  (1, 24), (15, 1), (1, 1), (14, 10), (70, 8), (2, 39), (16, 1), (1, 1), (28, 1), (10, 40), (7, 1),
  (21, 1), (11, 46), (19, 1), (18, 73), (263, 9), (1, 37), (17, 1), (15, 10), (24, 30), (112, 7),
  (1, 2), (1, 38), (21, 1), (9, 10), (6, 6), (1, 2), (1, 32), (14, 1), (7, 10), (310, 19), (189, 1),
  (79, 922), (230, 196), (2636, 97), (15, 1071), (4049, 583), (8633, 569), (7, 31), (1, 10),
  (6, 79), (1, 10), (6, 30), (18, 48), (16, 4), (12, 10), (9, 21), (5, 19), (720, 32), (128, 75),
  (5, 1), (66, 13), (64, 2), (1, 1), (28, 6136), (8, 1238), (42, 9), (8935, 4), (1, 7), (1, 2),
  (1, 291), (45, 3), (17, 4), (8, 396), (2308, 107), (5, 13), (3, 9), (7, 10), (8806, 31),
  (481, 45), (10, 7), (2, 10), (4, 1), (321, 30), (18, 44), (4, 10), (1254, 7), (1, 4), (1, 2),
  (1, 15), (6145, 42720), (32, 4153), (7, 222), (2, 5762), (14, 7473), (5151, 4939)
]

/-- Marks read from left to right. -/
def leftMarks : List (Nat × Nat) := [
  (2307, 1), (55, 1), (2, 3), (8, 4), (1, 2), (50, 2), (58, 3), (6, 2), (2, 2), (10, 1), (43, 1),
  (58, 3), (66, 1), (58, 3), (8, 1), (1, 2), (53, 2), (58, 1), (1, 1), (6, 2), (2, 2), (10, 1),
  (102, 2), (1, 2), (3, 3), (1, 3), (10, 1), (41, 3), (61, 4), (61, 2), (58, 7), (1, 3), (1, 2),
  (9, 2), (43, 2), (58, 3), (5, 3), (1, 3), (10, 1), (42, 2), (75, 3), (6, 8), (18, 2), (330, 2),
  (63, 1), (171, 2), (4, 1), (6, 1), (2, 2), (25, 2), (10, 3), (2, 7), (21, 2), (2, 6), (2, 1),
  (10, 3), (1656, 1), (30, 1), (129, 1), (7, 8), (1, 2), (346, 4), (2, 3), (4, 2), (1, 6), (224, 2),
  (58, 1), (1, 1), (9, 1), (1, 2), (8, 6), (145, 1), (48, 1), (5, 1), (1, 5), (1, 2), (61, 1),
  (30, 1), (4, 2), (2, 1), (60, 1), (2, 3), (1, 1), (3, 2), (48, 8), (8, 2), (171, 1), (21, 1),
  (35627, 2), (2, 1), (88, 2), (50, 16), (142, 2), (47, 1), (48, 2), (4, 2), (2, 3), (110, 2),
  (2, 2), (24, 1), (45, 1), (1, 1), (109, 1), (2, 2), (5, 1), (237, 2), (1, 2), (1, 2), (1, 1),
  (25619, 1), (1, 1), (127, 1), (45, 3), (4, 2), (115, 1), (24, 2), (59, 1), (48, 3), (9, 2),
  (13, 1), (93, 3), (3, 2), (1, 1), (170, 3), (31, 2), (58, 2), (1, 4), (2, 2), (2, 3), (9, 1),
  (10, 2), (209, 3), (8, 2), (3, 1), (106, 3), (6, 1), (1, 4), (2, 1), (237, 3), (6, 4), (2, 1),
  (113, 3), (8, 2), (1, 1), (109, 1), (1, 2), (6, 1), (105, 2), (4, 1), (261, 3), (9, 1), (247, 6),
  (1, 2), (4, 1), (2, 1), (1, 1), (142, 3), (8, 4), (4, 1), (34, 2), (48, 1), (29, 2), (62, 1),
  (407, 1), (14, 2), (105, 1), (7, 1), (2, 1), (213, 5), (4, 2), (1, 1), (350, 2), (20570, 55),
  (104, 2)
]

/-- Marks read as the character before them. -/
def marks : List (Nat × Nat) := [
  (768, 64), (2, 1), (3, 9), (1, 32), (275, 5), (265, 45), (1, 1), (1, 2), (1, 2), (1, 1), (72, 11),
  (48, 21), (16, 1), (101, 7), (2, 6), (2, 2), (1, 4), (35, 1), (30, 27), (91, 11), (58, 9), (9, 1),
  (24, 4), (1, 9), (1, 3), (1, 5), (43, 3), (60, 8), (42, 24), (1, 32), (55, 1), (1, 1), (4, 8),
  (4, 1), (3, 7), (10, 2), (29, 1), (58, 1), (4, 4), (8, 1), (20, 2), (26, 1), (2, 2), (57, 1),
  (4, 2), (4, 2), (2, 3), (3, 1), (30, 2), (3, 1), (11, 2), (57, 1), (4, 5), (1, 2), (4, 1),
  (20, 2), (22, 6), (1, 1), (58, 1), (2, 1), (1, 4), (8, 1), (7, 2), (11, 2), (30, 1), (61, 1),
  (12, 1), (50, 1), (3, 1), (55, 1), (1, 3), (5, 3), (1, 4), (7, 2), (11, 2), (29, 1), (58, 1),
  (15, 2), (20, 2), (28, 2), (57, 2), (4, 4), (8, 1), (20, 2), (29, 1), (72, 1), (7, 3), (1, 1),
  (90, 1), (2, 7), (12, 8), (98, 1), (2, 9), (11, 6), (74, 2), (27, 1), (1, 1), (1, 1), (55, 2),
  (1, 1), (5, 5), (1, 1), (1, 3), (1, 2), (5, 6), (1, 4), (1, 4), (1, 4), (1, 4), (1, 4), (1, 12),
  (1, 3), (9, 1), (102, 4), (1, 6), (1, 2), (2, 2), (25, 2), (4, 3), (16, 4), (13, 1), (2, 2),
  (6, 1), (15, 1), (703, 3), (946, 3), (29, 2), (30, 2), (30, 2), (67, 7), (8, 1), (2, 11), (9, 1),
  (167, 2), (34, 1), (118, 3), (4, 2), (9, 1), (6, 3), (219, 2), (2, 1), (58, 1), (1, 7), (1, 1),
  (1, 1), (2, 8), (6, 10), (2, 1), (48, 14), (1, 16), (49, 4), (48, 1), (1, 5), (1, 1), (5, 1),
  (40, 9), (12, 2), (32, 4), (2, 2), (1, 3), (56, 1), (1, 2), (3, 1), (1, 3), (58, 8), (2, 2),
  (152, 3), (1, 13), (1, 7), (4, 1), (6, 1), (3, 2), (198, 64), (3823, 3), (141, 1), (96, 32),
  (554, 4), (107, 2), (30164, 1), (4, 10), (32, 2), (80, 2), (272, 1), (3, 1), (4, 1), (25, 2),
  (5, 1), (151, 2), (26, 18), (13, 1), (38, 8), (25, 11), (46, 3), (48, 1), (2, 4), (2, 2), (39, 1),
  (67, 6), (2, 2), (2, 2), (12, 1), (8, 1), (47, 1), (51, 1), (1, 3), (2, 2), (5, 2), (1, 1),
  (42, 2), (8, 1), (238, 1), (2, 1), (4, 1), (20272, 1), (769, 16), (973, 1), (226, 1), (149, 5),
  (1670, 3), (1, 2), (5, 4), (40, 3), (4, 1), (165, 2), (573, 4), (387, 2), (153, 11), (49, 4),
  (123, 1), (54, 15), (41, 1), (2, 2), (10, 3), (49, 4), (2, 2), (7, 1), (61, 3), (36, 5), (1, 8),
  (62, 1), (12, 2), (52, 9), (10, 4), (2, 1), (95, 3), (2, 1), (1, 2), (6, 1), (160, 1), (3, 8),
  (21, 2), (57, 2), (3, 1), (37, 7), (3, 5), (195, 8), (2, 3), (1, 1), (23, 1), (84, 6), (1, 1),
  (4, 2), (1, 2), (238, 4), (6, 2), (1, 2), (27, 2), (85, 8), (2, 1), (1, 2), (106, 1), (1, 1),
  (2, 6), (1, 1), (101, 3), (2, 4), (1, 5), (259, 9), (1, 2), (256, 2), (1, 1), (4, 1), (144, 4),
  (2, 2), (4, 1), (32, 6), (2, 2), (40, 6), (2, 4), (8, 1), (9, 6), (2, 3), (46, 13), (1, 2),
  (406, 7), (1, 6), (84, 22), (2, 7), (1, 2), (1, 2), (122, 6), (3, 1), (1, 2), (1, 7), (1, 1),
  (72, 2), (3, 1), (1, 1), (347, 2), (19451, 5), (59, 7), (1048, 1), (63, 4), (81, 1), (19640, 2),
  (4705, 46), (2, 23), (2745, 55), (4, 50), (8, 1), (14, 1), (22, 5), (1, 15), (1360, 7), (1, 17),
  (2, 7), (1, 2), (1, 5), (261, 7), (375, 1), (61, 4), (1504, 7), (109, 7)
]

/-- Letters and digits read from right to left. -/
def rightLetters : List (Nat × Nat) := [
  (1488, 27), (4, 4), (461, 43), (9, 2), (10, 22), (4, 1), (9, 1), (3, 1), (23, 25), (65447, 6),
  (2, 1), (1, 44), (1, 2), (3, 1), (2, 23), (10, 23), (9, 31), (65, 19), (1, 2), (10, 22), (10, 26),
  (70, 56), (6, 2), (64, 1), (15, 4), (1, 3), (1, 29), (42, 29), (3, 29), (35, 8), (1, 28),
  (27, 54), (10, 22), (10, 19), (13, 18), (110, 73), (119, 51), (397, 42), (6, 2), (78, 29),
  (10, 1), (72, 18), (46, 21), (27, 23), (55305, 197), (93, 34), (7, 1), (4, 10)
]

/-- Letters of the Arabic scripts. -/
def arabicLetters : List (Nat × Nat) := [
  (1568, 32), (1, 10), (35, 2), (1, 4), (4, 91), (1, 1), (15, 2), (7, 2), (10, 6), (16, 1), (1, 30),
  (29, 89), (11, 1), (174, 11), (5, 24), (1, 6), (17, 42), (62889, 1), (3724, 36), (524, 22)
]

/-- Signs without a direction. -/
def neutralSigns : List (Nat × Nat) := [
  (697, 2), (11, 10), (28, 1), (11074, 1), (30799, 1), (151, 9), (104, 1)
]

/-- Digits that belong to right-to-left text. -/
def arabicDigits : List (Nat × Nat) := [
  (68912, 10)
]

def conditional : List (Nat × Direction) := [
  (0xB7, .neutral), (0x375, .neutral), (0x5F3, .right), (0x5F4, .right), (0x200C, .boundary),
  (0x200D, .boundary), (0x30FB, .neutral)
]

/-- The directions of the characters that may always stand in a name. -/
def always : List (List (Nat × Nat) × Direction) := [
  (leftLetters, .left), (marks, .mark), (leftMarks, .left), (rightLetters, .right),
  (arabicLetters, .arabic), (neutralSigns, .neutral), (arabicDigits, .arabicNumber),
  ([(0x30, 10)], .europeanNumber), ([(0x2D, 1)], .europeanSeparator)
]

def isArabicDigit (c : Char) : Bool := decide (0x660 ≤ c.toNat ∧ c.toNat ≤ 0x669)

def isExtendedDigit (c : Char) : Bool := decide (0x6F0 ≤ c.toNat ∧ c.toNat ≤ 0x6F9)

/-- The direction of a character that may stand in a host name. -/
def direction? (c : Char) : Option Direction :=
  match (always.find? fun entry => Text.inRuns entry.1 c.toNat).map (·.2) with
  | some direction => some direction
  | none =>
    if isArabicDigit c then some .arabicNumber
    else if isExtendedDigit c then some .europeanNumber
    else conditional.lookup c.toNat

/-- Whether a character is a mark, which needs another one before it. -/
def isMark (c : Char) : Bool := Text.inRuns marks c.toNat || Text.inRuns leftMarks c.toNat

/-! ## Scripts

What the conditions on some characters ask of those beside them: the script, and how letters of
cursive scripts join (Unicode, Script and Joining_Type). -/

def greekLetters : List (Nat × Nat) := [
  (881, 1), (1, 1), (3, 1), (3, 3), (18, 1), (27, 35), (8, 1), (1, 1), (1, 1), (1, 1), (1, 1),
  (1, 1), (17, 1), (4, 1), (2, 2), (6441, 5), (469, 8), (8, 6), (10, 8), (8, 8), (8, 6), (10, 8),
  (8, 8), (8, 1), (1, 1), (1, 1), (1, 1), (1, 1), (1, 1), (1, 1), (51, 2), (4, 1), (15, 1), (9, 3),
  (3, 2), (8, 3), (1, 4), (14, 1), (35694, 1)
]

def hebrewLetters : List (Nat × Nat) := [
  (1425, 45), (1, 1), (1, 2), (1, 2), (1, 1), (8, 27), (4, 4), (62763, 1)
]

/-- Hiragana, Katakana and ideographs. -/
def japaneseLetters : List (Nat × Nat) := [
  (12293, 1), (1, 1), (57, 86), (6, 2), (2, 90), (2, 2), (241, 16), (512, 6592), (64, 20992),
  (23054, 2), (1, 1), (1, 2), (10, 1), (1, 1), (1, 2), (2, 3), (30137, 1), (12, 2), (16382, 4),
  (1, 7), (1, 2), (1, 291), (45, 3), (17, 4), (20120, 42720), (32, 4153), (7, 222), (2, 5762),
  (14, 7473), (5151, 4939)
]

def joiningBoth : List (Nat × Nat) := [
  (1568, 1), (5, 1), (1, 1), (1, 5), (4, 13), (1, 7), (1, 2), (35, 2), (9, 15), (18, 38), (1, 2),
  (9, 1), (1, 1), (1, 2), (40, 3), (2, 1), (18, 3), (5, 4), (1, 9), (1, 1), (1, 1), (1, 2),
  (31, 11), (3, 15), (2, 4), (1, 1), (2, 3), (2, 6), (74, 33), (86, 5), (2, 1), (1, 10), (1, 1),
  (10, 1), (1, 4), (2, 1), (29, 1), (2, 5), (18, 10), (5, 2), (2, 6), (1, 15), (3927, 89), (14, 34),
  (1, 1), (36757, 50), (25166, 5), (14, 4), (1, 5), (1, 3), (159, 1), (1, 1), (3, 3), (1, 2),
  (1, 1), (2, 1), (368, 33), (1, 1), (524, 3), (1, 17), (43, 4), (2, 12), (46, 1), (1, 2), (4, 1),
  (2, 2), (1, 2), (1, 1), (2, 1), (55645, 34)
]

/-- Letters that join the one before them. -/
def joiningBefore : List (Nat × Nat) := [
  (1570, 4), (1, 1), (1, 1), (5, 4), (21, 1), (40, 3), (20, 18), (38, 1), (2, 9), (1, 1), (1, 1),
  (2, 2), (1, 1), (24, 2), (32, 1), (4, 5), (4, 1), (9, 1), (1, 1), (1, 1), (2, 1), (29, 1),
  (11, 3), (15, 2), (4, 1), (1, 2), (3, 2), (198, 1), (5, 2), (1, 1), (10, 1), (1, 3), (14, 1),
  (1, 2), (5, 19), (11, 1), (27, 3), (1, 1), (2, 2), (6, 1), (66059, 1), (1, 1), (1, 2), (3, 5),
  (10, 1), (3, 1), (2, 1), (156, 1), (1, 3), (3, 1), (2, 1), (1, 2), (1, 1), (400, 1), (528, 1),
  (64, 2), (62, 3), (2, 2), (2, 1), (4, 2)
]

/-- Letters that join the one after them. -/
def joiningAfter : List (Nat × Nat) := [
  (43122, 1), (25178, 1), (9, 1), (552, 1)
]

/-- Marks that letters join across although they are read from left to right. -/
def joinedLeftMarks : List Nat := [0xCBF, 0xCC6, 0x11A07, 0x11A08, 0x11C3F, 0x1E94B]

/-- Whether the letters on both sides of a character join as if it were not there. -/
def isTransparent (c : Char) : Bool :=
  (Text.inRuns marks c.toNat && c.toNat != 0x1171E) || joinedLeftMarks.contains c.toNat

def joinsAfter (c : Char) : Bool :=
  Text.inRuns joiningBoth c.toNat || Text.inRuns joiningAfter c.toNat

def joinsBefore (c : Char) : Bool :=
  Text.inRuns joiningBoth c.toNat || Text.inRuns joiningBefore c.toNat

/-! ## Lower case

The small letters of many scripts stand at a fixed distance from the capital ones, or right
behind each of them. -/

/-- Capital letters before their small ones: the first, the last, the step from one to the next, and the
distance to the small letter. -/
def capitalsBefore : List (Nat × Nat × Nat × Nat) := [
  (0xC0, 0xD6, 1, 32), (0xD8, 0xDE, 1, 32), (0x100, 0x12E, 2, 1), (0x134, 0x136, 2, 1),
  (0x139, 0x13D, 2, 1), (0x141, 0x147, 2, 1), (0x14A, 0x176, 2, 1), (0x179, 0x17D, 2, 1),
  (0x181, 0x181, 1, 210), (0x182, 0x184, 2, 1), (0x186, 0x186, 1, 206), (0x187, 0x187, 1, 1),
  (0x189, 0x18A, 1, 205), (0x18B, 0x18B, 1, 1), (0x18E, 0x18E, 1, 79), (0x18F, 0x18F, 1, 202),
  (0x190, 0x190, 1, 203), (0x191, 0x191, 1, 1), (0x193, 0x193, 1, 205), (0x194, 0x194, 1, 207),
  (0x196, 0x196, 1, 211), (0x197, 0x197, 1, 209), (0x198, 0x198, 1, 1), (0x19C, 0x19C, 1, 211),
  (0x19D, 0x19D, 1, 213), (0x19F, 0x19F, 1, 214), (0x1A0, 0x1A4, 2, 1), (0x1A6, 0x1A6, 1, 218),
  (0x1A7, 0x1A7, 1, 1), (0x1A9, 0x1A9, 1, 218), (0x1AC, 0x1AC, 1, 1), (0x1AE, 0x1AE, 1, 218),
  (0x1AF, 0x1AF, 1, 1), (0x1B1, 0x1B2, 1, 217), (0x1B3, 0x1B5, 2, 1), (0x1B7, 0x1B7, 1, 219),
  (0x1B8, 0x1B8, 1, 1), (0x1BC, 0x1BC, 1, 1), (0x1CD, 0x1DB, 2, 1), (0x1DE, 0x1EE, 2, 1),
  (0x1F4, 0x1F4, 1, 1), (0x1F8, 0x21E, 2, 1), (0x222, 0x232, 2, 1), (0x23A, 0x23A, 1, 10795),
  (0x23B, 0x23B, 1, 1), (0x23E, 0x23E, 1, 10792), (0x241, 0x241, 1, 1), (0x244, 0x244, 1, 69),
  (0x245, 0x245, 1, 71), (0x246, 0x24E, 2, 1), (0x370, 0x372, 2, 1), (0x376, 0x376, 1, 1),
  (0x37F, 0x37F, 1, 116), (0x386, 0x386, 1, 38), (0x388, 0x38A, 1, 37), (0x38C, 0x38C, 1, 64),
  (0x38E, 0x38F, 1, 63), (0x391, 0x3A1, 1, 32), (0x3A3, 0x3AB, 1, 32), (0x3CF, 0x3CF, 1, 8),
  (0x3D8, 0x3EE, 2, 1), (0x3F7, 0x3F7, 1, 1), (0x3FA, 0x3FA, 1, 1), (0x400, 0x40F, 1, 80),
  (0x410, 0x42F, 1, 32), (0x460, 0x480, 2, 1), (0x48A, 0x4BE, 2, 1), (0x4C0, 0x4C0, 1, 15),
  (0x4C1, 0x4CD, 2, 1), (0x4D0, 0x52E, 2, 1), (0x531, 0x556, 1, 48), (0x10A0, 0x10C5, 1, 7264),
  (0x10C7, 0x10C7, 1, 7264), (0x10CD, 0x10CD, 1, 7264), (0x13A0, 0x13EF, 1, 38864),
  (0x13F0, 0x13F5, 1, 8), (0x1E00, 0x1E94, 2, 1), (0x1EA0, 0x1EFE, 2, 1), (0x2132, 0x2132, 1, 28),
  (0x2183, 0x2183, 1, 1), (0x2C00, 0x2C2F, 1, 48), (0x2C60, 0x2C60, 1, 1), (0x2C67, 0x2C6B, 2, 1),
  (0x2C72, 0x2C72, 1, 1), (0x2C75, 0x2C75, 1, 1), (0x2C80, 0x2CE2, 2, 1), (0x2CEB, 0x2CED, 2, 1),
  (0x2CF2, 0x2CF2, 1, 1), (0xA640, 0xA66C, 2, 1), (0xA680, 0xA69A, 2, 1), (0xA722, 0xA72E, 2, 1),
  (0xA732, 0xA76E, 2, 1), (0xA779, 0xA77B, 2, 1), (0xA77E, 0xA786, 2, 1), (0xA78B, 0xA78B, 1, 1),
  (0xA790, 0xA792, 2, 1), (0xA796, 0xA7A8, 2, 1), (0xA7B3, 0xA7B3, 1, 928), (0xA7B4, 0xA7C2, 2, 1),
  (0xA7C7, 0xA7C9, 2, 1), (0xA7D0, 0xA7D0, 1, 1), (0xA7D6, 0xA7D8, 2, 1), (0xA7F5, 0xA7F5, 1, 1),
  (0x10400, 0x10427, 1, 40), (0x104B0, 0x104D3, 1, 40), (0x10570, 0x1057A, 1, 39),
  (0x1057C, 0x1058A, 1, 39), (0x1058C, 0x10592, 1, 39), (0x10594, 0x10595, 1, 39),
  (0x10C80, 0x10CB2, 1, 64), (0x118A0, 0x118BF, 1, 32), (0x16E40, 0x16E5F, 1, 32),
  (0x1E900, 0x1E921, 1, 34)
]

/-- Capital letters behind their small ones, in the same way. -/
def capitalsBehind : List (Nat × Nat × Nat × Nat) := [
  (0x178, 0x178, 1, 121), (0x1F6, 0x1F6, 1, 97), (0x1F7, 0x1F7, 1, 56), (0x220, 0x220, 1, 130),
  (0x23D, 0x23D, 1, 163), (0x243, 0x243, 1, 195), (0x3F4, 0x3F4, 1, 60), (0x3FD, 0x3FF, 1, 130),
  (0x1C90, 0x1CBA, 1, 3008), (0x1CBD, 0x1CBF, 1, 3008), (0x1E9E, 0x1E9E, 1, 7615),
  (0x1F08, 0x1F0F, 1, 8), (0x1F18, 0x1F1D, 1, 8), (0x1F28, 0x1F2F, 1, 8), (0x1F38, 0x1F3F, 1, 8),
  (0x1F48, 0x1F4D, 1, 8), (0x1F59, 0x1F5F, 2, 8), (0x1F68, 0x1F6F, 1, 8), (0x1FB8, 0x1FB9, 1, 8),
  (0x1FBA, 0x1FBA, 1, 74), (0x1FC8, 0x1FCA, 2, 86), (0x1FD8, 0x1FD9, 1, 8),
  (0x1FDA, 0x1FDA, 1, 100), (0x1FE8, 0x1FE9, 1, 8), (0x1FEA, 0x1FEA, 1, 112),
  (0x1FEC, 0x1FEC, 1, 7), (0x1FF8, 0x1FF8, 1, 128), (0x1FFA, 0x1FFA, 1, 126),
  (0x2126, 0x2126, 1, 7517), (0x212A, 0x212A, 1, 8383), (0x212B, 0x212B, 1, 8262),
  (0x2C62, 0x2C62, 1, 10743), (0x2C63, 0x2C63, 1, 3814), (0x2C64, 0x2C64, 1, 10727),
  (0x2C6D, 0x2C6D, 1, 10780), (0x2C6E, 0x2C6E, 1, 10749), (0x2C6F, 0x2C6F, 1, 10783),
  (0x2C70, 0x2C70, 1, 10782), (0x2C7E, 0x2C7F, 1, 10815), (0xA77D, 0xA77D, 1, 35332),
  (0xA78D, 0xA78D, 1, 42280), (0xA7AA, 0xA7AA, 1, 42308), (0xA7AB, 0xA7AB, 1, 42319),
  (0xA7AC, 0xA7AC, 1, 42315), (0xA7AD, 0xA7AD, 1, 42305), (0xA7AE, 0xA7AE, 1, 42308),
  (0xA7B0, 0xA7B0, 1, 42258), (0xA7B1, 0xA7B1, 1, 42282), (0xA7B2, 0xA7B2, 1, 42261),
  (0xA7C4, 0xA7C4, 1, 48), (0xA7C5, 0xA7C5, 1, 42307), (0xA7C6, 0xA7C6, 1, 35384)
]

/-- The distance of a letter from its small one in a table. -/
def distance? (table : List (Nat × Nat × Nat × Nat)) (n : Nat) : Option Nat :=
  (table.find? fun (first, last, step, _) => decide (first ≤ n ∧ n ≤ last ∧ (n - first) % step = 0)).map
    fun (_, _, _, distance) => distance

/-- The lower-case form of a character. A capital I with a dot keeps the dot as a mark. -/
def lowerForm (c : Char) : List Char :=
  let n := c.toNat
  if n < 0x80 then [c.toLower]
  else if n = 0x130 then ['i', Char.ofNat 0x307]
  else
    match distance? capitalsBefore n, distance? capitalsBehind n with
    | some d, _ => [Char.ofNat (n + d)]
    | none, some d => [Char.ofNat (n - d)]
    | none, none => [c]

end StorageAgent.HostName
