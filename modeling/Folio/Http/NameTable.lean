/-!
The letters, marks and digits that names of hosts are made of, as ranges of code points beyond
ASCII.
-/

namespace Folio.Http

def nameRanges : List (Nat × Nat) := [
  (223, 246), (248, 305), (309, 318), (322, 328), (331, 382), (384, 451), (462, 496), (501, 687),
  (697, 705), (710, 721), (748, 748), (750, 750), (768, 831), (834, 834), (838, 846), (848, 883),
  (887, 887), (891, 893), (912, 974), (983, 1007), (1011, 1011), (1016, 1153), (1155, 1159),
  (1163, 1369), (1376, 1414), (1416, 1416), (1425, 1469), (1471, 1471), (1473, 1474), (1476, 1477),
  (1479, 1522), (1552, 1562), (1568, 1599), (1601, 1631), (1646, 1652), (1657, 1747), (1749, 1756),
  (1759, 1768), (1770, 1775), (1786, 1791), (1808, 2037), (2045, 2045), (2048, 2093), (2112, 2139),
  (2144, 2183), (2185, 2391), (2400, 2403), (2406, 2415), (2417, 2519), (2528, 2545), (2556, 2556),
  (2558, 2610), (2613, 2613), (2616, 2641), (2652, 2652), (2662, 2677), (2689, 2799), (2809, 2903),
  (2911, 2927), (2929, 2929), (2946, 3055), (3072, 3183), (3200, 3203), (3205, 3406), (3412, 3415),
  (3423, 3439), (3450, 3571), (3585, 3634), (3636, 3642), (3648, 3662), (3664, 3673), (3713, 3762),
  (3764, 3801), (3806, 3840), (3851, 3851), (3864, 3865), (3872, 3881), (3893, 3893), (3895, 3895),
  (3897, 3897), (3902, 3906), (3908, 3916), (3918, 3921), (3923, 3926), (3928, 3931), (3933, 3944),
  (3946, 3954), (3956, 3956), (3962, 3968), (3970, 3972), (3974, 3986), (3988, 3996), (3998, 4001),
  (4003, 4006), (4008, 4011), (4013, 4024), (4026, 4028), (4038, 4038), (4096, 4169), (4176, 4253),
  (4304, 4346), (4349, 4351), (4608, 4959), (4992, 5007), (5024, 5109), (5121, 5740), (5743, 5786),
  (5792, 5866), (5873, 5940), (5952, 6067), (6070, 6099), (6103, 6103), (6108, 6121), (6160, 6459),
  (6470, 6617), (6656, 6683), (6688, 6809), (6823, 6823), (6832, 6845), (6847, 7001), (7019, 7027),
  (7040, 7155), (7168, 7223), (7232, 7293), (7376, 7378), (7380, 7467), (7471, 7471), (7483, 7483),
  (7502, 7502), (7531, 7543), (7545, 7578), (7616, 7833), (7836, 8048), (8050, 8050), (8052, 8052),
  (8054, 8054), (8056, 8056), (8058, 8058), (8060, 8060), (8112, 8113), (8118, 8118), (8134, 8134),
  (8144, 8146), (8150, 8151), (8160, 8162), (8164, 8167), (8182, 8182), (8526, 8526), (8580, 8580),
  (11312, 11387), (11393, 11492), (11500, 11507), (11520, 11623), (11647, 11775), (11823, 11823),
  (12293, 12295), (12330, 12333), (12348, 12348), (12353, 12442), (12445, 12446), (12449, 12538),
  (12540, 12542), (12549, 12591), (12704, 12735), (12784, 12799), (13312, 19903), (19968, 42124),
  (42192, 42237), (42240, 42508), (42512, 42607), (42612, 42621), (42623, 42651), (42654, 42725),
  (42736, 42737), (42775, 42783), (42787, 42863), (42865, 42888), (42892, 42969), (42998, 42999),
  (43002, 43047), (43052, 43052), (43072, 43123), (43136, 43205), (43216, 43255), (43259, 43259),
  (43261, 43309), (43312, 43347), (43392, 43456), (43471, 43481), (43488, 43609), (43616, 43638),
  (43642, 43741), (43744, 43759), (43762, 43866), (43872, 43880), (43968, 44010), (44012, 55203),
  (64014, 64015), (64017, 64017), (64019, 64020), (64031, 64031), (64033, 64033), (64035, 64036),
  (64039, 64041), (64286, 64286), (65056, 65071), (65139, 65139), (65536, 65786), (66045, 66272),
  (66304, 66335), (66349, 66368), (66370, 66377), (66384, 66461), (66464, 66511), (66600, 66915),
  (66967, 67456), (67584, 67669), (67680, 67702), (67712, 67742), (67808, 67829), (67840, 67861),
  (67872, 67897), (67968, 68023), (68030, 68031), (68096, 68159), (68192, 68220), (68224, 68252),
  (68288, 68295), (68297, 68326), (68352, 68405), (68416, 68437), (68448, 68466), (68480, 68497),
  (68608, 68850), (68864, 68921), (69248, 69292), (69296, 69404), (69415, 69456), (69488, 69509),
  (69552, 69572), (69600, 69702), (69734, 69818), (69826, 69951), (69956, 70003), (70006, 70084),
  (70089, 70092), (70094, 70106), (70108, 70108), (70144, 70199), (70206, 70312), (70320, 70730),
  (70736, 70745), (70750, 70853), (70855, 71104), (71128, 71232), (71236, 71257), (71296, 71352),
  (71360, 71481), (71488, 71738), (71872, 71913), (71935, 72003), (72016, 72161), (72163, 72254),
  (72263, 72345), (72349, 72349), (72368, 72768), (72784, 72793), (72818, 73462), (73648, 73648),
  (73728, 74649), (74880, 77808), (77824, 92777), (92784, 92916), (92928, 92982), (92992, 92995),
  (93008, 93017), (93027, 93823), (93952, 94177), (94179, 113817), (113821, 113822),
  (118528, 118598), (121344, 121398), (121403, 121452), (121461, 121461), (121476, 121476),
  (121499, 123214), (123536, 123641), (124896, 125124), (125136, 125273), (131072, 191456),
  (196608, 201546)]

end Folio.Http
