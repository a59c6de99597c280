/-!
# Plain forms

Some characters are other characters in a special shape: styled and wide letters, ligatures,
letters in the shape that they have at the end of a word, ideographs that were encoded twice.
Their plain form is those other characters.  The tables cover the characters of names.
-/
namespace SolanaWire.PlainForm

/-- The plain forms of consecutive characters, under the code point of the first of them. -/
def runs : List (Nat × List Nat) := [
    (170, [97]), (181, [956]), (186, [111]), (383, [115]), (688, [104, 614, 106, 114, 633, 635,
    641, 119, 121]), (736, [611, 108, 115, 120, 661]), (832, [768, 769]), (835, [787]),
    (884, [697]), (903, [183]), (976, [946, 952, 933, 910, 939, 966, 960]), (1008, [954, 961,
    962]), (1012, [920, 949]), (1017, [931]), (4348, [4316]), (7468, [65, 198, 66]), (7472, [68,
    69, 398, 71, 72, 73, 74, 75, 76, 77, 78]), (7484, [79, 546, 80, 82, 84, 85, 87, 97, 592, 593,
    7426, 98, 100, 101, 601, 603, 604, 103]), (7503, [107, 109, 331, 111, 596, 7446, 7447, 112,
    116, 117, 7453, 623, 118, 7461, 946, 947, 948, 966, 967, 105, 114, 117, 118, 946, 947, 961,
    966, 967]), (7544, [1085]), (7579, [594, 99, 597, 240, 604, 102, 607, 609, 613, 616, 617, 618,
    7547, 669, 621, 7557, 671, 625, 624, 626, 627, 628, 629, 632, 642, 643, 427, 649, 650, 7452,
    651, 652, 122, 656, 657, 658, 952]), (7835, [7777]), (8049, [940]), (8051, [941]),
    (8053, [942]), (8055, [943]), (8057, [972]), (8059, [973]), (8061, [974]), (8123, [902]),
    (8126, [953]), (8137, [904]), (8139, [905]), (8147, [912]), (8155, [906]), (8163, [944]),
    (8171, [910]), (8185, [908]), (8187, [911]), (8305, [105]), (8319, [110]), (8336, [97, 101,
    111, 120, 601, 104, 107, 108, 109, 110, 112, 115, 116]), (8450, [67]), (8455, [400]),
    (8458, [103, 72, 72, 72, 104, 295, 73, 73, 76, 108]), (8469, [78]), (8473, [80, 81, 82, 82,
    82]), (8484, [90]), (8486, [937]), (8488, [90]), (8490, [75, 197, 66, 67]), (8495, [101, 69,
    70]), (8499, [77, 111, 1488, 1489, 1490, 1491, 105]), (8508, [960, 947, 915, 928]),
    (8517, [68, 100, 101, 105, 106]), (8544, [73]), (8548, [86]), (8553, [88]), (8556, [76, 67,
    68, 77, 105]), (8564, [118]), (8569, [120]), (8572, [108, 99, 100, 109]), (11388, [106, 86]),
    (11631, [11617]), (12344, [21313, 21316, 21317]), (12593, [4352, 4353, 4522, 4354, 4524, 4525,
    4355, 4356, 4357, 4528, 4529, 4530, 4531, 4532, 4533, 4378, 4358, 4359, 4360, 4385, 4361,
    4362, 4363, 4364, 4365, 4366, 4367, 4368, 4369, 4370, 4449, 4450, 4451, 4452, 4453, 4454,
    4455, 4456, 4457, 4458, 4459, 4460, 4461, 4462, 4463, 4464, 4465, 4466, 4467, 4468, 4469,
    4448, 4372, 4373, 4551, 4552, 4556, 4558, 4563, 4567, 4569, 4380, 4573, 4575, 4381, 4382,
    4384, 4386, 4387, 4391, 4393, 4395, 4396, 4397, 4398, 4399, 4402, 4406, 4416, 4423, 4428,
    4593, 4594, 4439, 4440, 4441, 4484, 4485, 4488, 4497, 4498, 4500, 4510, 4513]), (42652, [1098,
    1100]), (42864, [42863]), (42994, [67, 70, 81]), (43000, [294, 339]), (43868, [42791, 43831,
    619, 43858]), (43881, [653]), (63744, [35912, 26356, 36554, 36040, 28369, 20018, 21477, 40860,
    40860, 22865, 37329, 21895, 22856, 25078, 30313, 32645, 34367, 34746, 35064, 37007, 27138,
    27931, 28889, 29662, 33853, 37226, 39409, 20098, 21365, 27396, 29211, 34349, 40478, 23888,
    28651, 34253, 35172, 25289, 33240, 34847, 24266, 26391, 28010, 29436, 37070, 20358, 20919,
    21214, 25796, 27347, 29200, 30439, 32769, 34310, 34396, 36335, 38706, 39791, 40442, 30860,
    31103, 32160, 33737, 37636, 40575, 35542, 22751, 24324, 31840, 32894, 29282, 30922, 36034,
    38647, 22744, 23650, 27155, 28122, 28431, 32047, 32311, 38475, 21202, 32907, 20956, 20940,
    31260, 32190, 33777, 38517, 35712, 25295, 27138, 35582, 20025, 23527, 24594, 29575, 30064,
    21271, 30971, 20415, 24489, 19981, 27852, 25976, 32034, 21443, 22622, 30465, 33865, 35498,
    27578, 36784, 27784, 25342, 33509, 25504, 30053, 20142, 20841, 20937, 26753, 31975, 33391,
    35538, 37327, 21237, 21570, 22899, 24300, 26053, 28670, 31018, 38317, 39530, 40599, 40654,
    21147, 26310, 27511, 36706, 24180, 24976, 25088, 25754, 28451, 29001, 29833, 31178, 32244,
    32879, 36646, 34030, 36899, 37706, 21015, 21155, 21693, 28872, 35010, 35498, 24265, 24565,
    25467, 27566, 31806, 29557, 20196, 22265, 23527, 23994, 24604, 29618, 29801, 32666, 32838,
    37428, 38646, 38728, 38936, 20363, 31150, 37300, 38584, 24801, 20102, 20698, 23534, 23615,
    26009, 27138, 29134, 30274, 34044, 36988, 40845, 26248, 38446, 21129, 26491, 26611, 27969,
    28316, 29705, 30041, 30827, 32016, 39006, 20845, 25134, 38520, 20523, 23833, 28138, 36650,
    24459, 24900, 26647, 29575, 38534, 21033, 21519, 23653, 26131, 26446, 26792, 27877, 29702,
    30178, 32633, 35023, 35041, 37324, 38626, 21311, 28346, 21533, 29136, 29848, 34298, 38563,
    40023, 40607, 26519, 28107, 33256, 31435, 31520, 31890, 29376, 28825, 35672, 20160, 33590,
    21050, 20999, 24230, 25299, 31958, 23429, 27934, 26292, 36667, 34892, 38477, 35211, 24275,
    20800, 21952]), (64016, [22618]), (64018, [26228]), (64021, [20958, 29482, 30410, 31036,
    31070, 31077, 31119, 38742, 31934, 32701]), (64032, [34322]), (64034, [35576]),
    (64037, [36920, 37117]), (64042, [39151, 39164, 39208, 40372, 37086, 38583, 20398, 20711,
    20813, 21193, 21220, 21329, 21917, 22022, 22120, 22592, 22696, 23652, 23662, 24724, 24936,
    24974, 25074, 25935, 26082, 26257, 26757, 28023, 28186, 28450, 29038, 29227, 29730, 30865,
    31038, 31049, 31048, 31056, 31062, 31069, 31117, 31118, 31296, 31361, 31680, 32244, 32265,
    32321, 32626, 32773, 33261, 33401, 33401, 33879, 35088, 35222, 35585, 35641, 36051, 36104,
    36790, 36920, 38627, 38911, 38971, 24693, 148206, 33304]), (64112, [20006, 20917, 20840,
    20352, 20805, 20864, 21191, 21242, 21917, 21845, 21913, 21986, 22618, 22707, 22852, 22868,
    23138, 23336, 24274, 24281, 24425, 24493, 24792, 24910, 24840, 24974, 24928, 25074, 25140,
    25540, 25628, 25682, 25942, 26228, 26391, 26395, 26454, 27513, 27578, 27969, 28379, 28363,
    28450, 28702, 29038, 30631, 29237, 29359, 29482, 29809, 29958, 30011, 30237, 30239, 30410,
    30427, 30452, 30538, 30528, 30924, 31409, 31680, 31867, 32091, 32244, 32574, 32773, 33618,
    33775, 34681, 35137, 35206, 35222, 35519, 35576, 35531, 35585, 35582, 35565, 35641, 35722,
    36104, 36664, 36978, 37273, 37494, 38524, 38627, 38742, 38875, 38911, 38923, 38971, 39698,
    40860, 141386, 141380, 144341, 15261, 16408, 16441, 152137, 154832, 163539, 40771, 40846]),
    (64288, [1506, 1488, 1491, 1492, 1499, 1500, 1501, 1512, 1514]), (64336, [1649, 1649, 1659,
    1659, 1659, 1659, 1662, 1662, 1662, 1662, 1664, 1664, 1664, 1664, 1658, 1658, 1658, 1658,
    1663, 1663, 1663, 1663, 1657, 1657, 1657, 1657, 1700, 1700, 1700, 1700, 1702, 1702, 1702,
    1702, 1668, 1668, 1668, 1668, 1667, 1667, 1667, 1667, 1670, 1670, 1670, 1670, 1671, 1671,
    1671, 1671, 1677, 1677, 1676, 1676, 1678, 1678, 1672, 1672, 1688, 1688, 1681, 1681, 1705,
    1705, 1705, 1705, 1711, 1711, 1711, 1711, 1715, 1715, 1715, 1715, 1713, 1713, 1713, 1713,
    1722, 1722, 1723, 1723, 1723, 1723, 1728, 1728, 1729, 1729, 1729, 1729, 1726, 1726, 1726,
    1726, 1746, 1746, 1747, 1747]), (64467, [1709, 1709, 1709, 1709, 1735, 1735, 1734, 1734, 1736,
    1736]), (64478, [1739, 1739, 1733, 1733, 1737, 1737, 1744, 1744, 1744, 1744, 1609, 1609]),
    (64508, [1740, 1740, 1740, 1740]), (65075, [95, 95]), (65101, [95, 95, 95]), (65152, [1569,
    1570, 1570, 1571, 1571, 1572, 1572, 1573, 1573, 1574, 1574, 1574, 1574, 1575, 1575, 1576,
    1576, 1576, 1576, 1577, 1577, 1578, 1578, 1578, 1578, 1579, 1579, 1579, 1579, 1580, 1580,
    1580, 1580, 1581, 1581, 1581, 1581, 1582, 1582, 1582, 1582, 1583, 1583, 1584, 1584, 1585,
    1585, 1586, 1586, 1587, 1587, 1587, 1587, 1588, 1588, 1588, 1588, 1589, 1589, 1589, 1589,
    1590, 1590, 1590, 1590, 1591, 1591, 1591, 1591, 1592, 1592, 1592, 1592, 1593, 1593, 1593,
    1593, 1594, 1594, 1594, 1594, 1601, 1601, 1601, 1601, 1602, 1602, 1602, 1602, 1603, 1603,
    1603, 1603, 1604, 1604, 1604, 1604, 1605, 1605, 1605, 1605, 1606, 1606, 1606, 1606, 1607,
    1607, 1607, 1607, 1608, 1608, 1609, 1609, 1610, 1610, 1610, 1610]), (65296, [48, 49, 50, 51,
    52, 53, 54, 55, 56, 57]), (65313, [65, 66, 67, 68, 69, 70, 71, 72, 73, 74, 75, 76, 77, 78, 79,
    80, 81, 82, 83, 84, 85, 86, 87, 88, 89, 90]), (65343, [95]), (65345, [97, 98, 99, 100, 101,
    102, 103, 104, 105, 106, 107, 108, 109, 110, 111, 112, 113, 114, 115, 116, 117, 118, 119, 120,
    121, 122]), (65382, [12530, 12449, 12451, 12453, 12455, 12457, 12515, 12517, 12519, 12483,
    12540, 12450, 12452, 12454, 12456, 12458, 12459, 12461, 12463, 12465, 12467, 12469, 12471,
    12473, 12475, 12477, 12479, 12481, 12484, 12486, 12488, 12490, 12491, 12492, 12493, 12494,
    12495, 12498, 12501, 12504, 12507, 12510, 12511, 12512, 12513, 12514, 12516, 12518, 12520,
    12521, 12522, 12523, 12524, 12525, 12527, 12531, 12441, 12442, 4448, 4352, 4353, 4522, 4354,
    4524, 4525, 4355, 4356, 4357, 4528, 4529, 4530, 4531, 4532, 4533, 4378, 4358, 4359, 4360,
    4385, 4361, 4362, 4363, 4364, 4365, 4366, 4367, 4368, 4369, 4370]), (65474, [4449, 4450, 4451,
    4452, 4453, 4454]), (65482, [4455, 4456, 4457, 4458, 4459, 4460]), (65490, [4461, 4462, 4463,
    4464, 4465, 4466]), (65498, [4467, 4468, 4469]), (67457, [720, 721, 230, 665, 595]),
    (67463, [675, 43878, 677, 676, 598, 599, 7569, 600, 606, 681, 612, 610, 608, 667, 295, 668,
    615, 644, 682, 683, 620, 122628, 42894, 622, 122629, 654, 122630, 248, 630, 631, 113, 634,
    122632, 637, 638, 640, 680, 678, 43879, 679, 648, 11377]), (67506, [655, 673, 674, 664, 448,
    449, 450, 122634, 122654]), (119808, [65, 66, 67, 68, 69, 70, 71, 72, 73, 74, 75, 76, 77, 78,
    79, 80, 81, 82, 83, 84, 85, 86, 87, 88, 89, 90, 97, 98, 99, 100, 101, 102, 103, 104, 105, 106,
    107, 108, 109, 110, 111, 112, 113, 114, 115, 116, 117, 118, 119, 120, 121, 122, 65, 66, 67,
    68, 69, 70, 71, 72, 73, 74, 75, 76, 77, 78, 79, 80, 81, 82, 83, 84, 85, 86, 87, 88, 89, 90,
    97, 98, 99, 100, 101, 102, 103]), (119894, [105, 106, 107, 108, 109, 110, 111, 112, 113, 114,
    115, 116, 117, 118, 119, 120, 121, 122, 65, 66, 67, 68, 69, 70, 71, 72, 73, 74, 75, 76, 77,
    78, 79, 80, 81, 82, 83, 84, 85, 86, 87, 88, 89, 90, 97, 98, 99, 100, 101, 102, 103, 104, 105,
    106, 107, 108, 109, 110, 111, 112, 113, 114, 115, 116, 117, 118, 119, 120, 121, 122, 65]),
    (119966, [67, 68]), (119970, [71]), (119973, [74, 75]), (119977, [78, 79, 80, 81]),
    (119982, [83, 84, 85, 86, 87, 88, 89, 90, 97, 98, 99, 100]), (119995, [102]), (119997, [104,
    105, 106, 107, 108, 109, 110]), (120005, [112, 113, 114, 115, 116, 117, 118, 119, 120, 121,
    122, 65, 66, 67, 68, 69, 70, 71, 72, 73, 74, 75, 76, 77, 78, 79, 80, 81, 82, 83, 84, 85, 86,
    87, 88, 89, 90, 97, 98, 99, 100, 101, 102, 103, 104, 105, 106, 107, 108, 109, 110, 111, 112,
    113, 114, 115, 116, 117, 118, 119, 120, 121, 122, 65, 66]), (120071, [68, 69, 70, 71]),
    (120077, [74, 75, 76, 77, 78, 79, 80, 81]), (120086, [83, 84, 85, 86, 87, 88, 89]),
    (120094, [97, 98, 99, 100, 101, 102, 103, 104, 105, 106, 107, 108, 109, 110, 111, 112, 113,
    114, 115, 116, 117, 118, 119, 120, 121, 122, 65, 66]), (120123, [68, 69, 70, 71]),
    (120128, [73, 74, 75, 76, 77]), (120134, [79]), (120138, [83, 84, 85, 86, 87, 88, 89]),
    (120146, [97, 98, 99, 100, 101, 102, 103, 104, 105, 106, 107, 108, 109, 110, 111, 112, 113,
    114, 115, 116, 117, 118, 119, 120, 121, 122, 65, 66, 67, 68, 69, 70, 71, 72, 73, 74, 75, 76,
    77, 78, 79, 80, 81, 82, 83, 84, 85, 86, 87, 88, 89, 90, 97, 98, 99, 100, 101, 102, 103, 104,
    105, 106, 107, 108, 109, 110, 111, 112, 113, 114, 115, 116, 117, 118, 119, 120, 121, 122, 65,
    66, 67, 68, 69, 70, 71, 72, 73, 74, 75, 76, 77, 78, 79, 80, 81, 82, 83, 84, 85, 86, 87, 88,
    89, 90, 97, 98, 99, 100, 101, 102, 103, 104, 105, 106, 107, 108, 109, 110, 111, 112, 113, 114,
    115, 116, 117, 118, 119, 120, 121, 122, 65, 66, 67, 68, 69, 70, 71, 72, 73, 74, 75, 76, 77,
    78, 79, 80, 81, 82, 83, 84, 85, 86, 87, 88, 89, 90, 97, 98, 99, 100, 101, 102, 103, 104, 105,
    106, 107, 108, 109, 110, 111, 112, 113, 114, 115, 116, 117, 118, 119, 120, 121, 122, 65, 66,
    67, 68, 69, 70, 71, 72, 73, 74, 75, 76, 77, 78, 79, 80, 81, 82, 83, 84, 85, 86, 87, 88, 89,
    90, 97, 98, 99, 100, 101, 102, 103, 104, 105, 106, 107, 108, 109, 110, 111, 112, 113, 114,
    115, 116, 117, 118, 119, 120, 121, 122, 65, 66, 67, 68, 69, 70, 71, 72, 73, 74, 75, 76, 77,
    78, 79, 80, 81, 82, 83, 84, 85, 86, 87, 88, 89, 90, 97, 98, 99, 100, 101, 102, 103, 104, 105,
    106, 107, 108, 109, 110, 111, 112, 113, 114, 115, 116, 117, 118, 119, 120, 121, 122, 65, 66,
    67, 68, 69, 70, 71, 72, 73, 74, 75, 76, 77, 78, 79, 80, 81, 82, 83, 84, 85, 86, 87, 88, 89,
    90, 97, 98, 99, 100, 101, 102, 103, 104, 105, 106, 107, 108, 109, 110, 111, 112, 113, 114,
    115, 116, 117, 118, 119, 120, 121, 122, 305, 567]), (120488, [913, 914, 915, 916, 917, 918,
    919, 920, 921, 922, 923, 924, 925, 926, 927, 928, 929, 920, 931, 932, 933, 934, 935, 936,
    937]), (120514, [945, 946, 947, 948, 949, 950, 951, 952, 953, 954, 955, 956, 957, 958, 959,
    960, 961, 962, 963, 964, 965, 966, 967, 968, 969]), (120540, [949, 952, 954, 966, 961, 960,
    913, 914, 915, 916, 917, 918, 919, 920, 921, 922, 923, 924, 925, 926, 927, 928, 929, 920, 931,
    932, 933, 934, 935, 936, 937]), (120572, [945, 946, 947, 948, 949, 950, 951, 952, 953, 954,
    955, 956, 957, 958, 959, 960, 961, 962, 963, 964, 965, 966, 967, 968, 969]), (120598, [949,
    952, 954, 966, 961, 960, 913, 914, 915, 916, 917, 918, 919, 920, 921, 922, 923, 924, 925, 926,
    927, 928, 929, 920, 931, 932, 933, 934, 935, 936, 937]), (120630, [945, 946, 947, 948, 949,
    950, 951, 952, 953, 954, 955, 956, 957, 958, 959, 960, 961, 962, 963, 964, 965, 966, 967, 968,
    969]), (120656, [949, 952, 954, 966, 961, 960, 913, 914, 915, 916, 917, 918, 919, 920, 921,
    922, 923, 924, 925, 926, 927, 928, 929, 920, 931, 932, 933, 934, 935, 936, 937]),
    (120688, [945, 946, 947, 948, 949, 950, 951, 952, 953, 954, 955, 956, 957, 958, 959, 960, 961,
    962, 963, 964, 965, 966, 967, 968, 969]), (120714, [949, 952, 954, 966, 961, 960, 913, 914,
    915, 916, 917, 918, 919, 920, 921, 922, 923, 924, 925, 926, 927, 928, 929, 920, 931, 932, 933,
    934, 935, 936, 937]), (120746, [945, 946, 947, 948, 949, 950, 951, 952, 953, 954, 955, 956,
    957, 958, 959, 960, 961, 962, 963, 964, 965, 966, 967, 968, 969]), (120772, [949, 952, 954,
    966, 961, 960, 988, 989]), (120782, [48, 49, 50, 51, 52, 53, 54, 55, 56, 57, 48, 49, 50, 51,
    52, 53, 54, 55, 56, 57, 48, 49, 50, 51, 52, 53, 54, 55, 56, 57, 48, 49, 50, 51, 52, 53, 54,
    55, 56, 57, 48, 49, 50, 51, 52, 53, 54, 55, 56, 57]), (126464, [1575, 1576, 1580, 1583]),
    (126469, [1608, 1586, 1581, 1591, 1610, 1603, 1604, 1605, 1606, 1587, 1593, 1601, 1589, 1602,
    1585, 1588, 1578, 1579, 1582, 1584, 1590, 1592, 1594, 1646, 1722, 1697, 1647]),
    (126497, [1576, 1580]), (126500, [1607]), (126503, [1581]), (126505, [1610, 1603, 1604, 1605,
    1606, 1587, 1593, 1601, 1589, 1602]), (126516, [1588, 1578, 1579, 1582]), (126521, [1590]),
    (126523, [1594]), (126530, [1580]), (126535, [1581]), (126537, [1610]), (126539, [1604]),
    (126541, [1606, 1587, 1593]), (126545, [1589, 1602]), (126548, [1588]), (126551, [1582]),
    (126553, [1590]), (126555, [1594]), (126557, [1722]), (126559, [1647]), (126561, [1576,
    1580]), (126564, [1607]), (126567, [1581, 1591, 1610, 1603]), (126572, [1605, 1606, 1587,
    1593, 1601, 1589, 1602]), (126580, [1588, 1578, 1579, 1582]), (126585, [1590, 1592, 1594,
    1646]), (126590, [1697]), (126592, [1575, 1576, 1580, 1583, 1607, 1608, 1586, 1581, 1591,
    1610]), (126603, [1604, 1605, 1606, 1587, 1593, 1601, 1589, 1602, 1585, 1588, 1578, 1579,
    1582, 1584, 1590, 1592, 1594]), (126625, [1576, 1580, 1583]), (126629, [1608, 1586, 1581,
    1591, 1610]), (126635, [1604, 1605, 1606, 1587, 1593, 1601, 1589, 1602, 1585, 1588, 1578,
    1579, 1582, 1584, 1590, 1592, 1594]), (130032, [48, 49, 50, 51, 52, 53, 54, 55, 56, 57]),
    (194560, [20029, 20024, 20033, 131362, 20320, 20398, 20411, 20482, 20602, 20633, 20711, 20687,
    13470, 132666, 20813, 20820, 20836, 20855, 132380, 13497, 20839, 20877, 132427, 20887, 20900,
    20172, 20908, 20917, 168415, 20981, 20995, 13535, 21051, 21062, 21106, 21111, 13589, 21191,
    21193, 21220, 21242, 21253, 21254, 21271, 21321, 21329, 21338, 21363, 21373, 21375, 21375,
    21375, 133676, 28784, 21450, 21471, 133987, 21483, 21489, 21510, 21662, 21560, 21576, 21608,
    21666, 21750, 21776, 21843, 21859, 21892, 21892, 21913, 21931, 21939, 21954, 22294, 22022,
    22295, 22097, 22132, 20999, 22766, 22478, 22516, 22541, 22411, 22578, 22577, 22700, 136420,
    22770, 22775, 22790, 22810, 22818, 22882, 136872, 136938, 23020, 23067, 23079, 23000, 23142,
    14062, 14076, 23304, 23358, 23358, 137672, 23491, 23512, 23527, 23539, 138008, 23551, 23558,
    24403, 23586, 14209, 23648, 23662, 23744, 23693, 138724, 23875, 138726, 23918, 23915, 23932,
    24033, 24034, 14383, 24061, 24104, 24125, 24169, 14434, 139651, 14460, 24240, 24243, 24246,
    24266, 172946, 24318, 140081, 140081, 33281, 24354, 24354, 14535, 144056, 156122, 24418,
    24427, 14563, 24474, 24525, 24535, 24569, 24705, 14650, 14620, 24724, 141012, 24775, 24904,
    24908, 24910, 24908, 24954, 24974, 25010, 24996, 25007, 25054, 25074, 25078, 25104, 25115,
    25181, 25265, 25300, 25424, 142092, 25405, 25340, 25448, 25475, 25572, 142321, 25634, 25541,
    25513, 14894, 25705, 25726, 25757, 25719, 14956, 25935, 25964, 143370, 26083, 26360, 26185,
    15129, 26257, 15112, 15076, 20882, 20885, 26368, 26268, 32941, 17369, 26391, 26395, 26401,
    26462, 26451, 144323, 15177, 26618, 26501, 26706, 26757, 144493, 26766, 26655, 26900, 15261,
    26946, 27043, 27114, 27304, 145059, 27355, 15384, 27425, 145575, 27476, 15438, 27506, 27551,
    27578, 27579, 146061, 138507, 146170, 27726, 146620, 27839, 27853, 27751, 27926, 27966, 28023,
    27969, 28009, 28024, 28037, 146718, 27956, 28207, 28270, 15667, 28363, 28359, 147153, 28153,
    28526, 147294, 147342, 28614, 28729, 28702, 28699, 15766, 28746, 28797, 28791, 28845, 132389,
    28997, 148067, 29084, 148395, 29224, 29237, 29264, 149000, 29312, 29333, 149301, 149524,
    29562, 29579, 16044, 29605, 16056, 16056, 29767, 29788, 29809, 29829, 29898, 16155, 29988,
    150582, 30014, 150674, 30064, 139679, 30224, 151457, 151480, 151620, 16380, 16392, 30452,
    151795, 151794, 151833, 151859, 30494, 30495, 30495, 30538, 16441, 30603, 16454, 16534,
    152605, 30798, 30860, 30924, 16611, 153126, 31062, 153242, 153285, 31119, 31211, 16687, 31296,
    31306, 31311, 153980, 154279, 154279, 31470, 16898, 154539, 31686, 31689, 16935, 154752,
    31954, 17056, 31976, 31971, 32000, 155526, 32099, 17153, 32199, 32258, 32325, 17204, 156200,
    156231, 17241, 156377, 32634, 156478, 32661, 32762, 32773, 156890, 156963, 32864, 157096,
    32880, 144223, 17365, 32946, 33027, 17419, 33086, 23221, 157607, 157621, 144275, 144284,
    33281, 33284, 36766, 17515, 33425, 33419, 33437, 21171, 33457, 33459, 33469, 33510, 158524,
    33509, 33565, 33635, 33709, 33571, 33725, 33767, 33879, 33619, 33738, 33740, 33756, 158774,
    159083, 158933, 17707, 34033, 34035, 34070, 160714, 34148, 159532, 17757, 17761, 159665,
    159954, 17771, 34384, 34396, 34407, 34409, 34473, 34440, 34574, 34530, 34681, 34600, 34667,
    34694, 17879, 34785, 34817, 17913, 34912, 34915, 161383, 35031, 35038, 17973, 35066, 13499,
    161966, 162150, 18110, 18119, 35488, 35565, 35722, 35925, 162984, 36011, 36033, 36123, 36215,
    163631, 133124, 36299, 36284, 36336, 133342, 36564, 36664, 165330, 165357, 37012, 37105,
    37137, 165678, 37147, 37432, 37591, 37592, 37500, 37881, 37909, 166906, 38283, 18837, 38327,
    167287, 18918, 38595, 23986, 38691, 168261, 168474, 19054, 19062, 38880, 168970, 19122,
    169110, 38923, 38923, 38953, 169398, 39138, 19251, 39209, 39335, 39362, 39422, 19406, 170800,
    39698, 40000, 40189, 19662, 19693, 40295, 172238, 19704, 172293, 172558, 172689, 40635, 19798,
    40697, 40702, 40709, 40719, 40726, 40763, 173568])]

/-- The plain forms that are several characters. -/
def expansions : List (Nat × List Nat) := [
    (306, [73, 74]), (307, [105, 106]), (319, [76, 183]), (320, [108, 183]), (329, [700, 110]),
    (452, [68, 381]), (453, [68, 382]), (454, [100, 382]), (455, [76, 74]), (456, [76, 106]),
    (457, [108, 106]), (458, [78, 74]), (459, [78, 106]), (460, [110, 106]), (497, [68, 90]),
    (498, [68, 122]), (499, [100, 122]), (836, [776, 769]), (1415, [1381, 1410]),
    (1653, [1575, 1652]), (1654, [1608, 1652]), (1655, [1735, 1652]), (1656, [1610, 1652]),
    (2392, [2325, 2364]), (2393, [2326, 2364]), (2394, [2327, 2364]), (2395, [2332, 2364]),
    (2396, [2337, 2364]), (2397, [2338, 2364]), (2398, [2347, 2364]), (2399, [2351, 2364]),
    (2524, [2465, 2492]), (2525, [2466, 2492]), (2527, [2479, 2492]), (2611, [2610, 2620]),
    (2614, [2616, 2620]), (2649, [2582, 2620]), (2650, [2583, 2620]), (2651, [2588, 2620]),
    (2654, [2603, 2620]), (2908, [2849, 2876]), (2909, [2850, 2876]), (3635, [3661, 3634]),
    (3763, [3789, 3762]), (3804, [3755, 3737]), (3805, [3755, 3745]), (3907, [3906, 4023]),
    (3917, [3916, 4023]), (3922, [3921, 4023]), (3927, [3926, 4023]), (3932, [3931, 4023]),
    (3945, [3904, 4021]), (3955, [3953, 3954]), (3957, [3953, 3956]), (3958, [4018, 3968]),
    (3959, [4018, 3953, 3968]), (3960, [4019, 3968]), (3961, [4019, 3953, 3968]),
    (3969, [3953, 3968]), (3987, [3986, 4023]), (3997, [3996, 4023]), (4002, [4001, 4023]),
    (4007, [4006, 4023]), (4012, [4011, 4023]), (4025, [3984, 4021]), (7834, [97, 702]),
    (8545, [73, 73]), (8546, [73, 73, 73]), (8547, [73, 86]), (8549, [86, 73]),
    (8550, [86, 73, 73]), (8551, [86, 73, 73, 73]), (8552, [73, 88]), (8554, [88, 73]),
    (8555, [88, 73, 73]), (8561, [105, 105]), (8562, [105, 105, 105]), (8563, [105, 118]),
    (8565, [118, 105]), (8566, [118, 105, 105]), (8567, [118, 105, 105, 105]), (8568, [105, 120]),
    (8570, [120, 105]), (8571, [120, 105, 105]), (12447, [12424, 12426]), (12543, [12467, 12488]),
    (64256, [102, 102]), (64257, [102, 105]), (64258, [102, 108]), (64259, [102, 102, 105]),
    (64260, [102, 102, 108]), (64261, [115, 116]), (64262, [115, 116]), (64275, [1396, 1398]),
    (64276, [1396, 1381]), (64277, [1396, 1387]), (64278, [1406, 1398]), (64279, [1396, 1389]),
    (64285, [1497, 1460]), (64287, [1522, 1463]), (64298, [1513, 1473]), (64299, [1513, 1474]),
    (64300, [1513, 1468, 1473]), (64301, [1513, 1468, 1474]), (64302, [1488, 1463]),
    (64303, [1488, 1464]), (64304, [1488, 1468]), (64305, [1489, 1468]), (64306, [1490, 1468]),
    (64307, [1491, 1468]), (64308, [1492, 1468]), (64309, [1493, 1468]), (64310, [1494, 1468]),
    (64312, [1496, 1468]), (64313, [1497, 1468]), (64314, [1498, 1468]), (64315, [1499, 1468]),
    (64316, [1500, 1468]), (64318, [1502, 1468]), (64320, [1504, 1468]), (64321, [1505, 1468]),
    (64323, [1507, 1468]), (64324, [1508, 1468]), (64326, [1510, 1468]), (64327, [1511, 1468]),
    (64328, [1512, 1468]), (64329, [1513, 1468]), (64330, [1514, 1468]), (64331, [1493, 1465]),
    (64332, [1489, 1471]), (64333, [1499, 1471]), (64334, [1508, 1471]), (64335, [1488, 1500]),
    (64477, [1735, 1652]), (64490, [1574, 1575]), (64491, [1574, 1575]), (64492, [1574, 1749]),
    (64493, [1574, 1749]), (64494, [1574, 1608]), (64495, [1574, 1608]), (64496, [1574, 1735]),
    (64497, [1574, 1735]), (64498, [1574, 1734]), (64499, [1574, 1734]), (64500, [1574, 1736]),
    (64501, [1574, 1736]), (64502, [1574, 1744]), (64503, [1574, 1744]), (64504, [1574, 1744]),
    (64505, [1574, 1609]), (64506, [1574, 1609]), (64507, [1574, 1609]), (64512, [1574, 1580]),
    (64513, [1574, 1581]), (64514, [1574, 1605]), (64515, [1574, 1609]), (64516, [1574, 1610]),
    (64517, [1576, 1580]), (64518, [1576, 1581]), (64519, [1576, 1582]), (64520, [1576, 1605]),
    (64521, [1576, 1609]), (64522, [1576, 1610]), (64523, [1578, 1580]), (64524, [1578, 1581]),
    (64525, [1578, 1582]), (64526, [1578, 1605]), (64527, [1578, 1609]), (64528, [1578, 1610]),
    (64529, [1579, 1580]), (64530, [1579, 1605]), (64531, [1579, 1609]), (64532, [1579, 1610]),
    (64533, [1580, 1581]), (64534, [1580, 1605]), (64535, [1581, 1580]), (64536, [1581, 1605]),
    (64537, [1582, 1580]), (64538, [1582, 1581]), (64539, [1582, 1605]), (64540, [1587, 1580]),
    (64541, [1587, 1581]), (64542, [1587, 1582]), (64543, [1587, 1605]), (64544, [1589, 1581]),
    (64545, [1589, 1605]), (64546, [1590, 1580]), (64547, [1590, 1581]), (64548, [1590, 1582]),
    (64549, [1590, 1605]), (64550, [1591, 1581]), (64551, [1591, 1605]), (64552, [1592, 1605]),
    (64553, [1593, 1580]), (64554, [1593, 1605]), (64555, [1594, 1580]), (64556, [1594, 1605]),
    (64557, [1601, 1580]), (64558, [1601, 1581]), (64559, [1601, 1582]), (64560, [1601, 1605]),
    (64561, [1601, 1609]), (64562, [1601, 1610]), (64563, [1602, 1581]), (64564, [1602, 1605]),
    (64565, [1602, 1609]), (64566, [1602, 1610]), (64567, [1603, 1575]), (64568, [1603, 1580]),
    (64569, [1603, 1581]), (64570, [1603, 1582]), (64571, [1603, 1604]), (64572, [1603, 1605]),
    (64573, [1603, 1609]), (64574, [1603, 1610]), (64575, [1604, 1580]), (64576, [1604, 1581]),
    (64577, [1604, 1582]), (64578, [1604, 1605]), (64579, [1604, 1609]), (64580, [1604, 1610]),
    (64581, [1605, 1580]), (64582, [1605, 1581]), (64583, [1605, 1582]), (64584, [1605, 1605]),
    (64585, [1605, 1609]), (64586, [1605, 1610]), (64587, [1606, 1580]), (64588, [1606, 1581]),
    (64589, [1606, 1582]), (64590, [1606, 1605]), (64591, [1606, 1609]), (64592, [1606, 1610]),
    (64593, [1607, 1580]), (64594, [1607, 1605]), (64595, [1607, 1609]), (64596, [1607, 1610]),
    (64597, [1610, 1580]), (64598, [1610, 1581]), (64599, [1610, 1582]), (64600, [1610, 1605]),
    (64601, [1610, 1609]), (64602, [1610, 1610]), (64603, [1584, 1648]), (64604, [1585, 1648]),
    (64605, [1609, 1648]), (64612, [1574, 1585]), (64613, [1574, 1586]), (64614, [1574, 1605]),
    (64615, [1574, 1606]), (64616, [1574, 1609]), (64617, [1574, 1610]), (64618, [1576, 1585]),
    (64619, [1576, 1586]), (64620, [1576, 1605]), (64621, [1576, 1606]), (64622, [1576, 1609]),
    (64623, [1576, 1610]), (64624, [1578, 1585]), (64625, [1578, 1586]), (64626, [1578, 1605]),
    (64627, [1578, 1606]), (64628, [1578, 1609]), (64629, [1578, 1610]), (64630, [1579, 1585]),
    (64631, [1579, 1586]), (64632, [1579, 1605]), (64633, [1579, 1606]), (64634, [1579, 1609]),
    (64635, [1579, 1610]), (64636, [1601, 1609]), (64637, [1601, 1610]), (64638, [1602, 1609]),
    (64639, [1602, 1610]), (64640, [1603, 1575]), (64641, [1603, 1604]), (64642, [1603, 1605]),
    (64643, [1603, 1609]), (64644, [1603, 1610]), (64645, [1604, 1605]), (64646, [1604, 1609]),
    (64647, [1604, 1610]), (64648, [1605, 1575]), (64649, [1605, 1605]), (64650, [1606, 1585]),
    (64651, [1606, 1586]), (64652, [1606, 1605]), (64653, [1606, 1606]), (64654, [1606, 1609]),
    (64655, [1606, 1610]), (64656, [1609, 1648]), (64657, [1610, 1585]), (64658, [1610, 1586]),
    (64659, [1610, 1605]), (64660, [1610, 1606]), (64661, [1610, 1609]), (64662, [1610, 1610]),
    (64663, [1574, 1580]), (64664, [1574, 1581]), (64665, [1574, 1582]), (64666, [1574, 1605]),
    (64667, [1574, 1607]), (64668, [1576, 1580]), (64669, [1576, 1581]), (64670, [1576, 1582]),
    (64671, [1576, 1605]), (64672, [1576, 1607]), (64673, [1578, 1580]), (64674, [1578, 1581]),
    (64675, [1578, 1582]), (64676, [1578, 1605]), (64677, [1578, 1607]), (64678, [1579, 1605]),
    (64679, [1580, 1581]), (64680, [1580, 1605]), (64681, [1581, 1580]), (64682, [1581, 1605]),
    (64683, [1582, 1580]), (64684, [1582, 1605]), (64685, [1587, 1580]), (64686, [1587, 1581]),
    (64687, [1587, 1582]), (64688, [1587, 1605]), (64689, [1589, 1581]), (64690, [1589, 1582]),
    (64691, [1589, 1605]), (64692, [1590, 1580]), (64693, [1590, 1581]), (64694, [1590, 1582]),
    (64695, [1590, 1605]), (64696, [1591, 1581]), (64697, [1592, 1605]), (64698, [1593, 1580]),
    (64699, [1593, 1605]), (64700, [1594, 1580]), (64701, [1594, 1605]), (64702, [1601, 1580]),
    (64703, [1601, 1581]), (64704, [1601, 1582]), (64705, [1601, 1605]), (64706, [1602, 1581]),
    (64707, [1602, 1605]), (64708, [1603, 1580]), (64709, [1603, 1581]), (64710, [1603, 1582]),
    (64711, [1603, 1604]), (64712, [1603, 1605]), (64713, [1604, 1580]), (64714, [1604, 1581]),
    (64715, [1604, 1582]), (64716, [1604, 1605]), (64717, [1604, 1607]), (64718, [1605, 1580]),
    (64719, [1605, 1581]), (64720, [1605, 1582]), (64721, [1605, 1605]), (64722, [1606, 1580]),
    (64723, [1606, 1581]), (64724, [1606, 1582]), (64725, [1606, 1605]), (64726, [1606, 1607]),
    (64727, [1607, 1580]), (64728, [1607, 1605]), (64729, [1607, 1648]), (64730, [1610, 1580]),
    (64731, [1610, 1581]), (64732, [1610, 1582]), (64733, [1610, 1605]), (64734, [1610, 1607]),
    (64735, [1574, 1605]), (64736, [1574, 1607]), (64737, [1576, 1605]), (64738, [1576, 1607]),
    (64739, [1578, 1605]), (64740, [1578, 1607]), (64741, [1579, 1605]), (64742, [1579, 1607]),
    (64743, [1587, 1605]), (64744, [1587, 1607]), (64745, [1588, 1605]), (64746, [1588, 1607]),
    (64747, [1603, 1604]), (64748, [1603, 1605]), (64749, [1604, 1605]), (64750, [1606, 1605]),
    (64751, [1606, 1607]), (64752, [1610, 1605]), (64753, [1610, 1607]),
    (64754, [1600, 1614, 1617]), (64755, [1600, 1615, 1617]), (64756, [1600, 1616, 1617]),
    (64757, [1591, 1609]), (64758, [1591, 1610]), (64759, [1593, 1609]), (64760, [1593, 1610]),
    (64761, [1594, 1609]), (64762, [1594, 1610]), (64763, [1587, 1609]), (64764, [1587, 1610]),
    (64765, [1588, 1609]), (64766, [1588, 1610]), (64767, [1581, 1609]), (64768, [1581, 1610]),
    (64769, [1580, 1609]), (64770, [1580, 1610]), (64771, [1582, 1609]), (64772, [1582, 1610]),
    (64773, [1589, 1609]), (64774, [1589, 1610]), (64775, [1590, 1609]), (64776, [1590, 1610]),
    (64777, [1588, 1580]), (64778, [1588, 1581]), (64779, [1588, 1582]), (64780, [1588, 1605]),
    (64781, [1588, 1585]), (64782, [1587, 1585]), (64783, [1589, 1585]), (64784, [1590, 1585]),
    (64785, [1591, 1609]), (64786, [1591, 1610]), (64787, [1593, 1609]), (64788, [1593, 1610]),
    (64789, [1594, 1609]), (64790, [1594, 1610]), (64791, [1587, 1609]), (64792, [1587, 1610]),
    (64793, [1588, 1609]), (64794, [1588, 1610]), (64795, [1581, 1609]), (64796, [1581, 1610]),
    (64797, [1580, 1609]), (64798, [1580, 1610]), (64799, [1582, 1609]), (64800, [1582, 1610]),
    (64801, [1589, 1609]), (64802, [1589, 1610]), (64803, [1590, 1609]), (64804, [1590, 1610]),
    (64805, [1588, 1580]), (64806, [1588, 1581]), (64807, [1588, 1582]), (64808, [1588, 1605]),
    (64809, [1588, 1585]), (64810, [1587, 1585]), (64811, [1589, 1585]), (64812, [1590, 1585]),
    (64813, [1588, 1580]), (64814, [1588, 1581]), (64815, [1588, 1582]), (64816, [1588, 1605]),
    (64817, [1587, 1607]), (64818, [1588, 1607]), (64819, [1591, 1605]), (64820, [1587, 1580]),
    (64821, [1587, 1581]), (64822, [1587, 1582]), (64823, [1588, 1580]), (64824, [1588, 1581]),
    (64825, [1588, 1582]), (64826, [1591, 1605]), (64827, [1592, 1605]), (64828, [1575, 1611]),
    (64829, [1575, 1611]), (64848, [1578, 1580, 1605]), (64849, [1578, 1581, 1580]),
    (64850, [1578, 1581, 1580]), (64851, [1578, 1581, 1605]), (64852, [1578, 1582, 1605]),
    (64853, [1578, 1605, 1580]), (64854, [1578, 1605, 1581]), (64855, [1578, 1605, 1582]),
    (64856, [1580, 1605, 1581]), (64857, [1580, 1605, 1581]), (64858, [1581, 1605, 1610]),
    (64859, [1581, 1605, 1609]), (64860, [1587, 1581, 1580]), (64861, [1587, 1580, 1581]),
    (64862, [1587, 1580, 1609]), (64863, [1587, 1605, 1581]), (64864, [1587, 1605, 1581]),
    (64865, [1587, 1605, 1580]), (64866, [1587, 1605, 1605]), (64867, [1587, 1605, 1605]),
    (64868, [1589, 1581, 1581]), (64869, [1589, 1581, 1581]), (64870, [1589, 1605, 1605]),
    (64871, [1588, 1581, 1605]), (64872, [1588, 1581, 1605]), (64873, [1588, 1580, 1610]),
    (64874, [1588, 1605, 1582]), (64875, [1588, 1605, 1582]), (64876, [1588, 1605, 1605]),
    (64877, [1588, 1605, 1605]), (64878, [1590, 1581, 1609]), (64879, [1590, 1582, 1605]),
    (64880, [1590, 1582, 1605]), (64881, [1591, 1605, 1581]), (64882, [1591, 1605, 1581]),
    (64883, [1591, 1605, 1605]), (64884, [1591, 1605, 1610]), (64885, [1593, 1580, 1605]),
    (64886, [1593, 1605, 1605]), (64887, [1593, 1605, 1605]), (64888, [1593, 1605, 1609]),
    (64889, [1594, 1605, 1605]), (64890, [1594, 1605, 1610]), (64891, [1594, 1605, 1609]),
    (64892, [1601, 1582, 1605]), (64893, [1601, 1582, 1605]), (64894, [1602, 1605, 1581]),
    (64895, [1602, 1605, 1605]), (64896, [1604, 1581, 1605]), (64897, [1604, 1581, 1610]),
    (64898, [1604, 1581, 1609]), (64899, [1604, 1580, 1580]), (64900, [1604, 1580, 1580]),
    (64901, [1604, 1582, 1605]), (64902, [1604, 1582, 1605]), (64903, [1604, 1605, 1581]),
    (64904, [1604, 1605, 1581]), (64905, [1605, 1581, 1580]), (64906, [1605, 1581, 1605]),
    (64907, [1605, 1581, 1610]), (64908, [1605, 1580, 1581]), (64909, [1605, 1580, 1605]),
    (64910, [1605, 1582, 1580]), (64911, [1605, 1582, 1605]), (64914, [1605, 1580, 1582]),
    (64915, [1607, 1605, 1580]), (64916, [1607, 1605, 1605]), (64917, [1606, 1581, 1605]),
    (64918, [1606, 1581, 1609]), (64919, [1606, 1580, 1605]), (64920, [1606, 1580, 1605]),
    (64921, [1606, 1580, 1609]), (64922, [1606, 1605, 1610]), (64923, [1606, 1605, 1609]),
    (64924, [1610, 1605, 1605]), (64925, [1610, 1605, 1605]), (64926, [1576, 1582, 1610]),
    (64927, [1578, 1580, 1610]), (64928, [1578, 1580, 1609]), (64929, [1578, 1582, 1610]),
    (64930, [1578, 1582, 1609]), (64931, [1578, 1605, 1610]), (64932, [1578, 1605, 1609]),
    (64933, [1580, 1605, 1610]), (64934, [1580, 1581, 1609]), (64935, [1580, 1605, 1609]),
    (64936, [1587, 1582, 1609]), (64937, [1589, 1581, 1610]), (64938, [1588, 1581, 1610]),
    (64939, [1590, 1581, 1610]), (64940, [1604, 1580, 1610]), (64941, [1604, 1605, 1610]),
    (64942, [1610, 1581, 1610]), (64943, [1610, 1580, 1610]), (64944, [1610, 1605, 1610]),
    (64945, [1605, 1605, 1610]), (64946, [1602, 1605, 1610]), (64947, [1606, 1581, 1610]),
    (64948, [1602, 1605, 1581]), (64949, [1604, 1581, 1605]), (64950, [1593, 1605, 1610]),
    (64951, [1603, 1605, 1610]), (64952, [1606, 1580, 1581]), (64953, [1605, 1582, 1610]),
    (64954, [1604, 1580, 1605]), (64955, [1603, 1605, 1605]), (64956, [1604, 1580, 1605]),
    (64957, [1606, 1580, 1581]), (64958, [1580, 1581, 1610]), (64959, [1581, 1580, 1610]),
    (64960, [1605, 1580, 1610]), (64961, [1601, 1605, 1610]), (64962, [1576, 1581, 1610]),
    (64963, [1603, 1605, 1605]), (64964, [1593, 1580, 1605]), (64965, [1589, 1605, 1605]),
    (64966, [1587, 1582, 1610]), (64967, [1606, 1580, 1610]), (65008, [1589, 1604, 1746]),
    (65009, [1602, 1604, 1746]), (65010, [1575, 1604, 1604, 1607]),
    (65011, [1575, 1603, 1576, 1585]), (65012, [1605, 1581, 1605, 1583]),
    (65013, [1589, 1604, 1593, 1605]), (65014, [1585, 1587, 1608, 1604]),
    (65015, [1593, 1604, 1610, 1607]), (65016, [1608, 1587, 1604, 1605]),
    (65017, [1589, 1604, 1609]), (65137, [1600, 1611]), (65143, [1600, 1614]),
    (65145, [1600, 1615]), (65147, [1600, 1616]), (65149, [1600, 1617]), (65151, [1600, 1618]),
    (65269, [1604, 1570]), (65270, [1604, 1570]), (65271, [1604, 1571]), (65272, [1604, 1571]),
    (65273, [1604, 1573]), (65274, [1604, 1573]), (65275, [1604, 1575]), (65276, [1604, 1575])]

/-- The plain form of a character. -/
def ofChar (c : Char) : List Char :=
  let n := c.toNat
  match expansions.lookup n with
  | some form => form.map Char.ofNat
  | none =>
    match runs.find? (fun run => run.1 ≤ n && n < run.1 + run.2.length) with
    | some (first, forms) => [Char.ofNat (forms.getD (n - first) n)]
    | none => [c]

/-- The plain forms of some characters, one after the other. -/
def ofChars (cs : List Char) : List Char := cs.flatMap ofChar

example : runs.length = 167 ∧ expansions.length = 606 := by decide +kernel
example : ofChars "µ²ﬁ".toList = "μ²fi".toList := by decide +kernel

end SolanaWire.PlainForm
