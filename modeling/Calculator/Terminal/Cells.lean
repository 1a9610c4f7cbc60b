import Calculator.Text.Boundaries

/-!
# Cells

A terminal shows text in a grid of cells. Most characters take one cell; the wide characters of East
Asia and most pictures take two; marks that combine with the character before them, and controls,
take none. A joiner draws the character behind it into the one before, and a selector turns some
narrow characters into pictures, which take one cell more.

`cells` measures a text. `glyphs` cuts it into what is shown as a unit, so that a line can be broken
between any two units. The two differ on a text that starts with a joiner: it has nothing to join
there and is a unit of its own, but in the measure it still draws in the character behind it.
-/

namespace Calculator.Terminal

/-- Boundaries of the characters that take no cell of their own. -/
def flatBoundaries : List Nat :=
  [0, 32, 127, 160, 768, 880, 1155, 1162, 1425, 1470, 1471, 1472, 1473, 1475, 1476, 1478, 1479,
   1480, 1552, 1563, 1564, 1565, 1611, 1632, 1648, 1649, 1750, 1757, 1759, 1765, 1767, 1769, 1770,
   1774, 1809, 1810, 1840, 1867, 1958, 1969, 2027, 2036, 2045, 2046, 2070, 2074, 2075, 2084, 2085,
   2088, 2089, 2094, 2137, 2140, 2199, 2208, 2250, 2274, 2275, 2308, 2362, 2365, 2366, 2384, 2385,
   2392, 2402, 2404, 2433, 2436, 2492, 2493, 2494, 2501, 2503, 2505, 2507, 2510, 2519, 2520, 2530,
   2532, 2558, 2559, 2561, 2564, 2620, 2621, 2622, 2627, 2631, 2633, 2635, 2638, 2641, 2642, 2672,
   2674, 2677, 2678, 2689, 2692, 2748, 2749, 2750, 2758, 2759, 2762, 2763, 2766, 2786, 2788, 2810,
   2816, 2817, 2820, 2876, 2877, 2878, 2885, 2887, 2889, 2891, 2894, 2901, 2904, 2914, 2916, 2946,
   2947, 3006, 3011, 3014, 3017, 3018, 3022, 3031, 3032, 3072, 3077, 3132, 3133, 3134, 3141, 3142,
   3145, 3146, 3150, 3157, 3159, 3170, 3172, 3201, 3204, 3260, 3261, 3262, 3269, 3270, 3273, 3274,
   3278, 3285, 3287, 3298, 3300, 3315, 3316, 3328, 3332, 3387, 3389, 3390, 3397, 3398, 3401, 3402,
   3406, 3415, 3416, 3426, 3428, 3457, 3460, 3530, 3531, 3535, 3541, 3542, 3543, 3544, 3552, 3570,
   3572, 3633, 3634, 3636, 3643, 3655, 3663, 3761, 3762, 3764, 3773, 3784, 3791, 3864, 3866, 3893,
   3894, 3895, 3896, 3897, 3898, 3902, 3904, 3953, 3973, 3974, 3976, 3981, 3992, 3993, 4029, 4038,
   4039, 4139, 4159, 4182, 4186, 4190, 4193, 4194, 4197, 4199, 4206, 4209, 4213, 4226, 4238, 4239,
   4240, 4250, 4254, 4448, 4608, 4957, 4960, 5906, 5910, 5938, 5941, 5970, 5972, 6002, 6004, 6068,
   6100, 6109, 6110, 6155, 6160, 6277, 6279, 6313, 6314, 6432, 6444, 6448, 6460, 6679, 6684, 6741,
   6751, 6752, 6781, 6783, 6784, 6832, 6878, 6880, 6892, 6912, 6917, 6964, 6981, 7019, 7028, 7040,
   7043, 7073, 7086, 7142, 7156, 7204, 7224, 7376, 7379, 7380, 7401, 7405, 7406, 7412, 7413, 7415,
   7418, 7616, 7680, 8203, 8208, 8232, 8239, 8288, 8304, 8400, 8433, 11503, 11506, 11647, 11648,
   11744, 11776, 12330, 12336, 12441, 12443, 12644, 12645, 42607, 42611, 42612, 42622, 42654,
   42656, 42736, 42738, 43010, 43011, 43014, 43015, 43019, 43020, 43043, 43048, 43052, 43053,
   43136, 43138, 43188, 43206, 43232, 43250, 43263, 43264, 43302, 43310, 43335, 43348, 43392,
   43396, 43443, 43457, 43493, 43494, 43561, 43575, 43587, 43588, 43596, 43598, 43643, 43646,
   43696, 43697, 43698, 43701, 43703, 43705, 43710, 43712, 43713, 43714, 43755, 43760, 43765,
   43767, 44003, 44011, 44012, 44014, 55216, 55296, 64286, 64287, 65024, 65040, 65056, 65072,
   65279, 65280, 65440, 65441, 65520, 65532, 66045, 66046, 66272, 66273, 66422, 66427, 68097,
   68100, 68101, 68103, 68108, 68112, 68152, 68155, 68159, 68160, 68325, 68327, 68900, 68904,
   68969, 68974, 69291, 69293, 69370, 69376, 69446, 69457, 69506, 69510, 69632, 69635, 69688,
   69703, 69744, 69745, 69747, 69749, 69759, 69763, 69808, 69819, 69826, 69827, 69888, 69891,
   69927, 69941, 69957, 69959, 70003, 70004, 70016, 70019, 70067, 70081, 70089, 70093, 70094,
   70096, 70188, 70200, 70206, 70207, 70209, 70210, 70367, 70379, 70400, 70404, 70459, 70461,
   70462, 70469, 70471, 70473, 70475, 70478, 70487, 70488, 70498, 70500, 70502, 70509, 70512,
   70517, 70584, 70593, 70594, 70595, 70597, 70598, 70599, 70603, 70604, 70609, 70610, 70611,
   70625, 70627, 70709, 70727, 70750, 70751, 70832, 70852, 71087, 71094, 71096, 71105, 71132,
   71134, 71216, 71233, 71339, 71352, 71453, 71468, 71724, 71739, 71984, 71990, 71991, 71993,
   71995, 71999, 72000, 72001, 72002, 72004, 72145, 72152, 72154, 72161, 72164, 72165, 72193,
   72203, 72243, 72250, 72251, 72255, 72263, 72264, 72273, 72284, 72330, 72346, 72544, 72552,
   72751, 72759, 72760, 72768, 72850, 72872, 72873, 72887, 73009, 73015, 73018, 73019, 73020,
   73022, 73023, 73030, 73031, 73032, 73098, 73103, 73104, 73106, 73107, 73112, 73459, 73463,
   73472, 73474, 73475, 73476, 73524, 73531, 73534, 73539, 73562, 73563, 78896, 78913, 78919,
   78934, 90398, 90416, 92912, 92917, 92976, 92983, 94031, 94032, 94033, 94088, 94095, 94099,
   94180, 94181, 94192, 94194, 113821, 113823, 113824, 113828, 118528, 118574, 118576, 118599,
   119141, 119146, 119149, 119171, 119173, 119180, 119210, 119214, 119362, 119365, 121344, 121399,
   121403, 121453, 121461, 121462, 121476, 121477, 121499, 121504, 121505, 121520, 122880, 122887,
   122888, 122905, 122907, 122914, 122915, 122917, 122918, 122923, 123023, 123024, 123184, 123191,
   123566, 123567, 123628, 123632, 124140, 124144, 124398, 124400, 124643, 124644, 124646, 124647,
   124654, 124656, 124661, 124662, 125136, 125143, 125252, 125259, 127995, 128000, 917504, 921600]

/-- Boundaries of the characters that take two cells. -/
def wideBoundaries : List Nat :=
  [4352, 4448, 8986, 8988, 9001, 9003, 9193, 9197, 9200, 9201, 9203, 9204, 9725, 9727, 9748, 9750,
   9776, 9784, 9800, 9812, 9855, 9856, 9866, 9872, 9875, 9876, 9889, 9890, 9898, 9900, 9917, 9919,
   9924, 9926, 9934, 9935, 9940, 9941, 9962, 9963, 9970, 9972, 9973, 9974, 9978, 9979, 9981, 9982,
   9989, 9990, 9994, 9996, 10024, 10025, 10060, 10061, 10062, 10063, 10067, 10070, 10071, 10072,
   10133, 10136, 10160, 10161, 10175, 10176, 11035, 11037, 11088, 11089, 11093, 11094, 11904,
   11930, 11931, 12020, 12032, 12246, 12272, 12330, 12336, 12351, 12353, 12439, 12443, 12544,
   12549, 12592, 12593, 12644, 12645, 12687, 12688, 12774, 12783, 12831, 12832, 12872, 12880,
   42125, 42128, 42183, 43360, 43389, 44032, 55204, 63744, 64256, 65040, 65050, 65072, 65107,
   65108, 65127, 65128, 65132, 65281, 65377, 65504, 65511, 94176, 94180, 94194, 94199, 94208,
   101590, 101631, 101663, 101760, 101875, 110576, 110580, 110581, 110588, 110589, 110591, 110592,
   110883, 110898, 110899, 110928, 110931, 110933, 110934, 110948, 110952, 110960, 111356, 119552,
   119639, 119648, 119671, 126980, 126981, 127183, 127184, 127374, 127375, 127377, 127387, 127488,
   127491, 127504, 127548, 127552, 127561, 127568, 127570, 127584, 127590, 127744, 127777, 127789,
   127798, 127799, 127869, 127870, 127892, 127904, 127947, 127951, 127956, 127968, 127985, 127988,
   127989, 127992, 127995, 128000, 128063, 128064, 128065, 128066, 128253, 128255, 128318, 128331,
   128335, 128336, 128360, 128378, 128379, 128405, 128407, 128420, 128421, 128507, 128592, 128640,
   128710, 128716, 128717, 128720, 128723, 128725, 128729, 128732, 128736, 128747, 128749, 128756,
   128765, 128992, 129004, 129008, 129009, 129292, 129339, 129340, 129350, 129351, 129536, 129648,
   129661, 129664, 129675, 129678, 129735, 129736, 129737, 129741, 129757, 129759, 129771, 129775,
   129785, 131072, 196606, 196608, 262142]

/-- Boundaries of the narrow characters that a selector turns into pictures. -/
def pictureBoundaries : List Nat :=
  [35, 36, 42, 43, 48, 58, 169, 170, 174, 175, 8252, 8253, 8265, 8266, 8482, 8483, 8505, 8506,
   8596, 8602, 8617, 8619, 9000, 9001, 9167, 9168, 9197, 9200, 9201, 9203, 9208, 9211, 9410, 9411,
   9642, 9644, 9654, 9655, 9664, 9665, 9723, 9725, 9728, 9733, 9742, 9743, 9745, 9746, 9752, 9753,
   9757, 9758, 9760, 9761, 9762, 9764, 9766, 9767, 9770, 9771, 9774, 9776, 9784, 9787, 9792, 9793,
   9794, 9795, 9823, 9825, 9827, 9828, 9829, 9831, 9832, 9833, 9851, 9852, 9854, 9855, 9874, 9875,
   9876, 9880, 9881, 9882, 9883, 9885, 9888, 9889, 9895, 9896, 9904, 9906, 9928, 9929, 9935, 9936,
   9937, 9938, 9939, 9940, 9961, 9962, 9968, 9970, 9972, 9973, 9975, 9978, 9986, 9987, 9992, 9994,
   9996, 9998, 9999, 10000, 10002, 10003, 10004, 10005, 10006, 10007, 10013, 10014, 10017, 10018,
   10035, 10037, 10052, 10053, 10055, 10056, 10083, 10085, 10145, 10146, 10548, 10550, 11013,
   11016, 127344, 127346, 127358, 127360, 127777, 127778, 127780, 127789, 127798, 127799, 127869,
   127870, 127894, 127896, 127897, 127900, 127902, 127904, 127947, 127951, 127956, 127968, 127987,
   127988, 127989, 127990, 127991, 127992, 128063, 128064, 128065, 128066, 128253, 128254, 128329,
   128331, 128367, 128369, 128371, 128378, 128391, 128392, 128394, 128398, 128400, 128401, 128421,
   128422, 128424, 128425, 128433, 128435, 128444, 128445, 128450, 128453, 128465, 128468, 128476,
   128479, 128481, 128482, 128483, 128484, 128488, 128489, 128495, 128496, 128499, 128500, 128506,
   128507, 128715, 128716, 128717, 128720, 128736, 128742, 128745, 128746, 128752, 128753, 128755,
   128756]

/-- How many cells a character takes by itself. -/
def charCells (c : Char) : Nat :=
  if Text.within flatBoundaries c then 0 else if Text.within wideBoundaries c then 2 else 1

/-- The character that joins its two neighbours into one. -/
def joiner : Char := '\u200d'

/-- The character that asks for a picture in place of the character before it. -/
def pictureSelector : Char := '\ufe0f'

/-- How many cells a text takes. A joiner and the character behind it take none, whatever stands in
front. The character that a selector would turn into a picture is `base`: the last one that took a
cell. -/
def cellsFrom (base : Option Char) : List Char → Nat
  | [] => 0
  | c :: cs =>
    if c = joiner then
      match cs with
      | _ :: rest => cellsFrom base rest
      | [] => 0
    else if c = pictureSelector then
      (if base.any (Text.within pictureBoundaries) then 1 else 0) + cellsFrom none cs
    else if charCells c = 0 then cellsFrom base cs
    else charCells c + cellsFrom (some c) cs

/-- How many cells a text takes. -/
def cells (cs : List Char) : Nat := cellsFrom none cs

/-! ## Units -/

/-- Characters that are shown as a unit, with the cells that they take. -/
structure Glyph where
  chars : List Char
  cells : Nat
deriving DecidableEq, Repr

/-- A unit with more characters and more cells. -/
def Glyph.extend (g : Glyph) (cs : List Char) (cells : Nat) : Glyph :=
  ⟨g.chars ++ cs, g.cells + cells⟩

/-- The units of a text, in reverse order on top of `done`. The character that a selector would turn
into a picture is `base`: the last one that took a cell. -/
def glyphsOnto (done : List Glyph) (base : Option Char) : List Char → List Glyph
  | [] => done
  | c :: cs =>
    let own := charCells c
    let next := if own = 0 then base else some c
    match done with
    | [] => glyphsOnto [⟨[c], own⟩] next cs
    | g :: gs =>
      if c = joiner then
        match cs with
        | d :: rest => glyphsOnto (g.extend [c, d] 0 :: gs) base rest
        | [] => g.extend [c] 0 :: gs
      else if c = pictureSelector then
        if base.any (Text.within pictureBoundaries) then
          glyphsOnto (g.extend [c] 1 :: gs) none cs
        else glyphsOnto (g.extend [c] 0 :: gs) base cs
      else if own = 0 then glyphsOnto (g.extend [c] 0 :: gs) base cs
      else glyphsOnto (⟨[c], own⟩ :: done) next cs

/-- The units of a text. -/
def glyphs (cs : List Char) : List Glyph := (glyphsOnto [] none cs).reverse

/-- The units of a text in lines of at most `width` cells, where `line` is the open line and `used`
its cells. -/
def chopFrom (width : Nat) (line : List Char) (used : Nat) : List Glyph → List (List Char)
  | [] => if line.isEmpty then [] else [line]
  | g :: gs =>
    if width < used + g.cells then line :: chopFrom width g.chars g.cells gs
    else chopFrom width (line ++ g.chars) (used + g.cells) gs

/-- A text in lines of at most `width` cells, each as full as it can be. -/
def chop (width : Nat) (cs : List Char) : List (List Char) := chopFrom width [] 0 (glyphs cs)

/-- The beginning of a text that fills exactly `width` cells, if its units have as many. A unit that
would stand across the edge is replaced by a space. -/
def cropUnits (width : Nat) : List Glyph → List Char
  | [] => []
  | g :: gs =>
    if width = 0 then []
    else if g.cells ≤ width then g.chars ++ cropUnits (width - g.cells) gs
    else [' ']

/-- A text cut to a width, if it is wider. -/
def crop (width : Nat) (cs : List Char) : List Char :=
  if cells cs ≤ width then cs else cropUnits width (glyphs cs)

end Calculator.Terminal
