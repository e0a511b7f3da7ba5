/-!
# Letter case

The lower-case form of a character is given by arithmetic progressions: an entry
`(first, last, step, shift)` sends every `step`-th character from `first` to
`last` to the character `shift` places on.

The upper-case form goes the other way.  A few characters have one of their own, which is
the first character of what they become in capitals: the sharp `s` becomes an `S`.

Lower-case letters can share an upper-case form, as `s` and the long `s` do.
-/

namespace ExtensionAudit.Text

/-- Runs from 128 on in which each second letter, from the first on, comes before its lower-case
form. -/
def lowerPairs : List (Nat × Nat) :=
  [(256, 302), (306, 310), (313, 327), (330, 374), (377, 381), (386, 388), (391, 391), (395, 395),
   (401, 401), (408, 408), (416, 420), (423, 423), (428, 428), (431, 431), (435, 437), (440, 440),
   (444, 444), (453, 453), (456, 456), (459, 475), (478, 494), (498, 500), (504, 542), (546, 562),
   (571, 571), (577, 577), (582, 590), (880, 882), (886, 886), (984, 1006), (1015, 1015),
   (1018, 1018), (1120, 1152), (1162, 1214), (1217, 1229), (1232, 1326), (7680, 7828), (7840, 7934),
   (8579, 8579), (11360, 11360), (11367, 11371), (11378, 11378), (11381, 11381), (11392, 11490),
   (11499, 11501), (11506, 11506), (42560, 42604), (42624, 42650), (42786, 42798), (42802, 42862),
   (42873, 42875), (42878, 42886), (42891, 42891), (42896, 42898), (42902, 42920), (42932, 42946),
   (42951, 42953), (42960, 42960), (42966, 42968), (42997, 42997)]

/-- Runs from 128 on whose lower-case forms are the given number of places on. -/
def lowerRuns : List (Nat × Nat × Int) :=
  [(192, 214, 32), (216, 222, 32), (393, 394, 205), (433, 434, 217), (904, 906, 37), (910, 911, 63),
   (913, 929, 32), (931, 939, 32), (1021, 1023, -130), (1024, 1039, 80), (1040, 1071, 32),
   (1329, 1366, 48), (4256, 4293, 7264), (5024, 5103, 38864), (5104, 5109, 8), (7312, 7354, -3008),
   (7357, 7359, -3008), (7944, 7951, -8), (7960, 7965, -8), (7976, 7983, -8), (7992, 7999, -8),
   (8008, 8013, -8), (8040, 8047, -8), (8072, 8079, -8), (8088, 8095, -8), (8104, 8111, -8),
   (8120, 8121, -8), (8122, 8123, -74), (8136, 8139, -86), (8152, 8153, -8), (8154, 8155, -100),
   (8168, 8169, -8), (8170, 8171, -112), (8184, 8185, -128), (8186, 8187, -126), (8544, 8559, 16),
   (9398, 9423, 26), (11264, 11311, 48), (11390, 11391, -10815), (65313, 65338, 32),
   (66560, 66599, 40), (66736, 66771, 40), (66928, 66938, 39), (66940, 66954, 39),
   (66956, 66962, 39), (66964, 66965, 39), (68736, 68786, 64), (71840, 71871, 32),
   (93760, 93791, 32), (125184, 125217, 34)]

/-- Other letters from 128 on with their lower-case forms. -/
def lowerSingles : List (Nat × Nat) :=
  [(304, 105), (376, 255), (385, 595), (390, 596), (398, 477), (399, 601), (400, 603), (403, 608),
   (404, 611), (406, 617), (407, 616), (412, 623), (413, 626), (415, 629), (422, 640), (425, 643),
   (430, 648), (439, 658), (452, 454), (455, 457), (458, 460), (497, 499), (502, 405), (503, 447),
   (544, 414), (570, 11365), (573, 410), (574, 11366), (579, 384), (580, 649), (581, 652),
   (895, 1011), (902, 940), (908, 972), (975, 983), (1012, 952), (1017, 1010), (1216, 1231),
   (4295, 11559), (4301, 11565), (7838, 223), (8025, 8017), (8027, 8019), (8029, 8021),
   (8031, 8023), (8124, 8115), (8140, 8131), (8172, 8165), (8188, 8179), (8486, 969), (8490, 107),
   (8491, 229), (8498, 8526), (11362, 619), (11363, 7549), (11364, 637), (11373, 593), (11374, 625),
   (11375, 592), (11376, 594), (42877, 7545), (42893, 613), (42922, 614), (42923, 604),
   (42924, 609), (42925, 620), (42926, 618), (42928, 670), (42929, 647), (42930, 669),
   (42931, 43859), (42948, 42900), (42949, 642), (42950, 7566)]

/-- Lower-case forms from 128 on, as progressions. -/
def lowerShifts : List (Nat × Nat × Nat × Int) :=
  lowerPairs.map (fun (first, last) => (first, last, 2, (1 : Int))) ++
    lowerRuns.map (fun (first, last, shift) => (first, last, 1, shift)) ++
    lowerSingles.map fun (n, form) => (n, n, 1, (form : Int) - n)

/-- Groups of lower-case letters that share an upper-case form. -/
def sharedUpper : List (List Nat) :=
  [[105, 305], [115, 383], [181, 956], [837, 953, 8126], [912, 8147], [944, 8163], [946, 976],
   [949, 1013], [952, 977], [954, 1008], [960, 982], [961, 1009], [962, 963], [966, 981],
   [1074, 7296], [1076, 7297], [1086, 7298], [1089, 7299], [1090, 7300, 7301], [1098, 7302],
   [1123, 7303], [7304, 42571], [7777, 7835], [64261, 64262]]

/-- Upper-case forms with the other letters that have them. -/
def upperSingles : List (Nat × List Nat) :=
  [(65, [7834]), (70, [64256, 64257, 64258, 64259, 64260]), (72, [7830]), (73, [305]), (74, [496]),
   (83, [223, 383, 64261, 64262]), (84, [7831]), (87, [7832]), (89, [7833]), (452, [453]),
   (455, [456]), (458, [459]), (497, [498]), (700, [329]), (902, [8116]), (905, [8132]),
   (911, [8180]), (913, [8115, 8118, 8119, 8124]), (914, [976]), (917, [1013]),
   (919, [8131, 8134, 8135, 8140]), (920, [977]), (921, [837, 912, 8126, 8146, 8147, 8150, 8151]),
   (922, [1008]), (924, [181]), (928, [982]), (929, [1009, 8164]), (931, [962]),
   (933, [944, 8016, 8018, 8020, 8022, 8162, 8163, 8166, 8167]), (934, [981]),
   (937, [8179, 8182, 8183, 8188]), (1042, [7296]), (1044, [7297]), (1054, [7298]), (1058, [7301]),
   (1066, [7302]), (1122, [7303]), (1333, [1415]), (1348, [64275, 64276, 64277, 64279]),
   (1358, [64278]), (7776, [7835]), (8122, [8114]), (8138, [8130]), (8186, [8178]), (42570, [7304])]

/-- Upper-case forms that do not follow from the lower-case forms: an entry
`(first, last, image)` sends the characters from `first` to `last` to those from `image`
on. -/
def upperForms : List (Nat × Nat × Nat) :=
  [(7299, 7300, 1057), (8064, 8071, 7944), (8072, 8079, 7944), (8080, 8087, 7976),
    (8088, 8095, 7976), (8096, 8103, 8040), (8104, 8111, 8040)] ++
    upperSingles.flatMap fun (image, letters) => letters.map fun n => (n, n, image)

/-! ## One character -/

/-- The lower-case code point of a code point below 128. -/
def asciiLower (n : Nat) : Nat :=
  if 65 ≤ n && n ≤ 90 then n + 32 else n

/-- The lower-case code point of a code point. -/
def lowerCode (n : Nat) : Nat :=
  if n < 128 then asciiLower n
  else
    match lowerShifts.find? fun (lo, hi, step, _) => lo ≤ n && n ≤ hi && (n - lo) % step == 0 with
    | some (_, _, _, shift) => (n + shift : Int).toNat
    | none => n

/-- The code points whose lower-case form is the given one, itself apart. -/
def upperCodes (n : Nat) : List Nat :=
  let ascii := if 97 ≤ n && n ≤ 122 then [n - 32] else []
  ascii ++ lowerShifts.filterMap fun (lo, hi, step, shift) =>
    let m := (n - shift : Int)
    if (lo : Int) ≤ m && m ≤ hi && (m.toNat - lo) % step == 0 then some m.toNat else none

/-- The upper-case code point of a code point. -/
def upperCode (n : Nat) : Nat :=
  match upperForms.find? fun (lo, hi, _) => lo ≤ n && n ≤ hi with
  | some (lo, _, image) => image + (n - lo)
  | none => ((upperCodes n).min?).getD n

/-- A code point that differs from its lower-case or its upper-case form. -/
def isCased (n : Nat) : Bool :=
  lowerCode n != n || upperCode n != n

/-- The lower-case letters that share an upper-case form with one of them, itself included. -/
def lowerGroup (n : Nat) : List Nat :=
  (sharedUpper.find? (·.contains n)).getD [n]

/-! ## Ranges of characters -/

/-- A progression has a member between two bounds. -/
def progressionMeets (lo hi first last step : Nat) : Bool :=
  let start := if lo ≤ first then first else first + (lo - first + step - 1) / step * step
  start ≤ min hi last

/-- A code point with a lower-case or an upper-case form of its own lies between two
bounds. -/
def casedBetween (lo hi : Nat) : Bool :=
  progressionMeets lo hi 65 90 1 || progressionMeets lo hi 97 122 1 ||
    lowerShifts.any (fun (first, last, step, shift) =>
      progressionMeets lo hi first last step ||
        progressionMeets lo hi (first + shift : Int).toNat (last + shift : Int).toNat step) ||
    upperForms.any fun (first, last, _) => progressionMeets lo hi first last 1

/-- A code point between two bounds has a lower-case form in the group of the given
letter. -/
def groupMeets (lo hi n : Nat) : Bool :=
  (lowerGroup n).any fun l => (l :: upperCodes l).any fun m => lo ≤ m && m ≤ hi

/-! ## Texts -/

/-- The lower-case text of a character.  The dotted capital `I` becomes an `i` and a dot. -/
def lowerChars (c : Char) : List Char :=
  if c.toNat == 0x130 then ['i', Char.ofNat 0x307] else [Char.ofNat (lowerCode c.toNat)]

/-- A text in lower case. -/
def lower (t : List Char) : List Char :=
  t.flatMap lowerChars

end ExtensionAudit.Text
