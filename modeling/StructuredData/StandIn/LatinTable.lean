/-!
# Latin renderings, the data

How the stand-in for the slugifier spells characters beyond ASCII with ASCII letters, in two
strengths.  A *spelling* renders a letter, sign or syllable of any script, as far as recorded.  A
*decomposition* takes a compatibility character apart: `base` for a single character, `marked` for
a base letter with marks after it, `compound` for the rest; a tilde in a compound stands for
characters that stay beyond ASCII.
-/

namespace StructuredData.StandIn.LatinTable

/-- Spellings by sound or look, of characters that do not decompose to them. -/
def spelling : List (Nat × String) :=
  [(0xA0, " "), (0xA1, "!"), (0xA9, "(c)"), (0xAB, "<<"), (0xAE, "(r)"), (0xB5, "m"), (0xB7, "*"),
   (0xBB, ">>"), (0xBD, "1/2"), (0xBF, "?"), (0xC6, "AE"), (0xD0, "D"), (0xDE, "Th"),
   (0xDF, "ss"), (0xE6, "ae"), (0xF8, "o"), (0x131, "i"), (0x141, "L"), (0x152, "OE"),
   (0x153, "oe"), (0x395, "E"), (0x3A3, "S"), (0x3AC, "a"), (0x3AF, "i"), (0x3B1, "a"),
   (0x3B2, "b"), (0x3B3, "g"), (0x3B4, "d"), (0x3BB, "l"), (0x3BF, "o"), (0x3C2, "s"),
   (0x3C3, "s"), (0x3C5, "u"), (0x3C6, "ph"), (0x401, "E"), (0x41F, "P"), (0x430, "a"),
   (0x432, "v"), (0x435, "e"), (0x438, "i"), (0x43A, "k"), (0x43B, "l"), (0x43C, "m"),
   (0x440, "r"), (0x442, "t"), (0x449, "shch"), (0x663, "3"), (0x1E9E, "Ss"), (0x200B, " "),
   (0x2013, "-"), (0x2014, "--"), (0x2018, "'"), (0x2019, "'"), (0x201C, "\""), (0x201D, "\""),
   (0x201E, ",,"), (0x2026, "..."), (0x2032, "'"), (0x2033, "''"), (0x2039, "<"), (0x203A, ">"),
   (0x20AC, "EUR"), (0x4EAC, "Jing "), (0x5317, "Bei "), (0x65E5, "Ri "), (0x672C, "Ben "),
   (0xAD6D, "gug"), (0xD55C, "han")]

/-- Runs `(first, last, target)` of characters that decompose to the ASCII characters from `target`
on. -/
def base : List (Nat × Nat × Nat) :=
  [(0xAA, 0xAA, 0x61), (0xB2, 0xB3, 0x32), (0xB9, 0xB9, 0x31), (0xBA, 0xBA, 0x6F),
   (0x17F, 0x17F, 0x73), (0x2B0, 0x2B0, 0x68), (0x2B2, 0x2B2, 0x6A), (0x2B3, 0x2B3, 0x72),
   (0x2B7, 0x2B7, 0x77), (0x2B8, 0x2B8, 0x79), (0x2E1, 0x2E1, 0x6C), (0x2E2, 0x2E2, 0x73),
   (0x2E3, 0x2E3, 0x78), (0x1D2C, 0x1D2C, 0x41), (0x1D2E, 0x1D2E, 0x42), (0x1D30, 0x1D31, 0x44),
   (0x1D33, 0x1D3A, 0x47), (0x1D3C, 0x1D3C, 0x4F), (0x1D3E, 0x1D3E, 0x50), (0x1D3F, 0x1D3F, 0x52),
   (0x1D40, 0x1D41, 0x54), (0x1D42, 0x1D42, 0x57), (0x1D43, 0x1D43, 0x61), (0x1D47, 0x1D47, 0x62),
   (0x1D48, 0x1D49, 0x64), (0x1D4D, 0x1D4D, 0x67), (0x1D4F, 0x1D4F, 0x6B), (0x1D50, 0x1D50, 0x6D),
   (0x1D52, 0x1D52, 0x6F), (0x1D56, 0x1D56, 0x70), (0x1D57, 0x1D58, 0x74), (0x1D5B, 0x1D5B, 0x76),
   (0x1D62, 0x1D62, 0x69), (0x1D63, 0x1D63, 0x72), (0x1D64, 0x1D65, 0x75), (0x1D9C, 0x1D9C, 0x63),
   (0x1DA0, 0x1DA0, 0x66), (0x1DBB, 0x1DBB, 0x7A), (0x2070, 0x2070, 0x30), (0x2071, 0x2071, 0x69),
   (0x2074, 0x2079, 0x34), (0x207F, 0x207F, 0x6E), (0x2080, 0x2089, 0x30), (0x2090, 0x2090, 0x61),
   (0x2091, 0x2091, 0x65), (0x2092, 0x2092, 0x6F), (0x2093, 0x2093, 0x78), (0x2095, 0x2095, 0x68),
   (0x2096, 0x2099, 0x6B), (0x209A, 0x209A, 0x70), (0x209B, 0x209C, 0x73), (0x2102, 0x2102, 0x43),
   (0x210A, 0x210A, 0x67), (0x210B, 0x210B, 0x48), (0x210C, 0x210C, 0x48), (0x210D, 0x210D, 0x48),
   (0x210E, 0x210E, 0x68), (0x2110, 0x2110, 0x49), (0x2111, 0x2111, 0x49), (0x2112, 0x2112, 0x4C),
   (0x2113, 0x2113, 0x6C), (0x2115, 0x2115, 0x4E), (0x2119, 0x211B, 0x50), (0x211C, 0x211C, 0x52),
   (0x211D, 0x211D, 0x52), (0x2124, 0x2124, 0x5A), (0x2128, 0x2128, 0x5A), (0x212A, 0x212A, 0x4B),
   (0x212C, 0x212D, 0x42), (0x212F, 0x212F, 0x65), (0x2130, 0x2131, 0x45), (0x2133, 0x2133, 0x4D),
   (0x2134, 0x2134, 0x6F), (0x2139, 0x2139, 0x69), (0x2145, 0x2145, 0x44), (0x2146, 0x2147, 0x64),
   (0x2148, 0x2149, 0x69), (0x2160, 0x2160, 0x49), (0x2164, 0x2164, 0x56), (0x2169, 0x2169, 0x58),
   (0x216C, 0x216C, 0x4C), (0x216D, 0x216E, 0x43), (0x216F, 0x216F, 0x4D), (0x2170, 0x2170, 0x69),
   (0x2174, 0x2174, 0x76), (0x2179, 0x2179, 0x78), (0x217C, 0x217C, 0x6C), (0x217D, 0x217E, 0x63),
   (0x217F, 0x217F, 0x6D), (0x2460, 0x2468, 0x31), (0x24B6, 0x24CF, 0x41), (0x24D0, 0x24E9, 0x61),
   (0x24EA, 0x24EA, 0x30), (0x2C7C, 0x2C7C, 0x6A), (0x2C7D, 0x2C7D, 0x56), (0xA7F2, 0xA7F2, 0x43),
   (0xA7F3, 0xA7F3, 0x46), (0xA7F4, 0xA7F4, 0x51), (0xFE10, 0xFE10, 0x2C), (0xFE50, 0xFE50, 0x2C),
   (0xFF07, 0xFF07, 0x27), (0xFF0C, 0xFF0C, 0x2C), (0xFF10, 0xFF19, 0x30), (0xFF21, 0xFF3A, 0x41),
   (0xFF41, 0xFF5A, 0x61), (0x107A5, 0x107A5, 0x71), (0x1D400, 0x1D419, 0x41),
   (0x1D41A, 0x1D433, 0x61), (0x1D434, 0x1D44D, 0x41), (0x1D44E, 0x1D454, 0x61),
   (0x1D456, 0x1D467, 0x69), (0x1D468, 0x1D481, 0x41), (0x1D482, 0x1D49B, 0x61),
   (0x1D49C, 0x1D49C, 0x41), (0x1D49E, 0x1D49F, 0x43), (0x1D4A2, 0x1D4A2, 0x47),
   (0x1D4A5, 0x1D4A6, 0x4A), (0x1D4A9, 0x1D4AC, 0x4E), (0x1D4AE, 0x1D4B5, 0x53),
   (0x1D4B6, 0x1D4B9, 0x61), (0x1D4BB, 0x1D4BB, 0x66), (0x1D4BD, 0x1D4C3, 0x68),
   (0x1D4C5, 0x1D4CF, 0x70), (0x1D4D0, 0x1D4E9, 0x41), (0x1D4EA, 0x1D503, 0x61),
   (0x1D504, 0x1D505, 0x41), (0x1D507, 0x1D50A, 0x44), (0x1D50D, 0x1D514, 0x4A),
   (0x1D516, 0x1D51C, 0x53), (0x1D51E, 0x1D537, 0x61), (0x1D538, 0x1D539, 0x41),
   (0x1D53B, 0x1D53E, 0x44), (0x1D540, 0x1D544, 0x49), (0x1D546, 0x1D546, 0x4F),
   (0x1D54A, 0x1D550, 0x53), (0x1D552, 0x1D56B, 0x61), (0x1D56C, 0x1D585, 0x41),
   (0x1D586, 0x1D59F, 0x61), (0x1D5A0, 0x1D5B9, 0x41), (0x1D5BA, 0x1D5D3, 0x61),
   (0x1D5D4, 0x1D5ED, 0x41), (0x1D5EE, 0x1D607, 0x61), (0x1D608, 0x1D621, 0x41),
   (0x1D622, 0x1D63B, 0x61), (0x1D63C, 0x1D655, 0x41), (0x1D656, 0x1D66F, 0x61),
   (0x1D670, 0x1D689, 0x41), (0x1D68A, 0x1D6A3, 0x61), (0x1D7CE, 0x1D7D7, 0x30),
   (0x1D7D8, 0x1D7E1, 0x30), (0x1D7E2, 0x1D7EB, 0x30), (0x1D7EC, 0x1D7F5, 0x30),
   (0x1D7F6, 0x1D7FF, 0x30), (0x1F12B, 0x1F12B, 0x43), (0x1F12C, 0x1F12C, 0x52),
   (0x1F130, 0x1F149, 0x41), (0x1FBF0, 0x1FBF9, 0x30)]

/-- Base characters with the code points that decompose to them and marks. -/
def marked : List (Char × List Nat) :=
  [('A', [0xC0, 0xC1, 0xC2, 0xC3, 0xC4, 0xC5, 0x100, 0x102, 0x104, 0x1CD, 0x1DE, 0x1E0, 0x1FA,
     0x200, 0x202, 0x226, 0x1E00, 0x1EA0, 0x1EA2, 0x1EA4, 0x1EA6, 0x1EA8, 0x1EAA, 0x1EAC,
     0x1EAE, 0x1EB0, 0x1EB2, 0x1EB4, 0x1EB6, 0x212B]),
   ('C', [0xC7, 0x106, 0x108, 0x10A, 0x10C, 0x1E08]),
   ('E', [0xC8, 0xC9, 0xCA, 0xCB, 0x112, 0x114, 0x116, 0x118, 0x11A, 0x204, 0x206, 0x228,
     0x1E14, 0x1E16, 0x1E18, 0x1E1A, 0x1E1C, 0x1EB8, 0x1EBA, 0x1EBC, 0x1EBE, 0x1EC0, 0x1EC2,
     0x1EC4, 0x1EC6]),
   ('I', [0xCC, 0xCD, 0xCE, 0xCF, 0x128, 0x12A, 0x12C, 0x12E, 0x130, 0x1CF, 0x208, 0x20A,
     0x1E2C, 0x1E2E, 0x1EC8, 0x1ECA]),
   ('N', [0xD1, 0x143, 0x145, 0x147, 0x1F8, 0x1E44, 0x1E46, 0x1E48, 0x1E4A]),
   ('O', [0xD2, 0xD3, 0xD4, 0xD5, 0xD6, 0x14C, 0x14E, 0x150, 0x1A0, 0x1D1, 0x1EA, 0x1EC, 0x20C,
     0x20E, 0x22A, 0x22C, 0x22E, 0x230, 0x1E4C, 0x1E4E, 0x1E50, 0x1E52, 0x1ECC, 0x1ECE, 0x1ED0,
     0x1ED2, 0x1ED4, 0x1ED6, 0x1ED8, 0x1EDA, 0x1EDC, 0x1EDE, 0x1EE0, 0x1EE2]),
   ('U', [0xD9, 0xDA, 0xDB, 0xDC, 0x168, 0x16A, 0x16C, 0x16E, 0x170, 0x172, 0x1AF, 0x1D3, 0x1D5,
     0x1D7, 0x1D9, 0x1DB, 0x214, 0x216, 0x1E72, 0x1E74, 0x1E76, 0x1E78, 0x1E7A, 0x1EE4, 0x1EE6,
     0x1EE8, 0x1EEA, 0x1EEC, 0x1EEE, 0x1EF0]),
   ('Y', [0xDD, 0x176, 0x178, 0x232, 0x1E8E, 0x1EF2, 0x1EF4, 0x1EF6, 0x1EF8]),
   ('a', [0xE0, 0xE1, 0xE2, 0xE3, 0xE4, 0xE5, 0x101, 0x103, 0x105, 0x1CE, 0x1DF, 0x1E1, 0x1FB,
     0x201, 0x203, 0x227, 0x1E01, 0x1E9A, 0x1EA1, 0x1EA3, 0x1EA5, 0x1EA7, 0x1EA9, 0x1EAB,
     0x1EAD, 0x1EAF, 0x1EB1, 0x1EB3, 0x1EB5, 0x1EB7]),
   ('c', [0xE7, 0x107, 0x109, 0x10B, 0x10D, 0x1E09]),
   ('e', [0xE8, 0xE9, 0xEA, 0xEB, 0x113, 0x115, 0x117, 0x119, 0x11B, 0x205, 0x207, 0x229,
     0x1E15, 0x1E17, 0x1E19, 0x1E1B, 0x1E1D, 0x1EB9, 0x1EBB, 0x1EBD, 0x1EBF, 0x1EC1, 0x1EC3,
     0x1EC5, 0x1EC7]),
   ('i', [0xEC, 0xED, 0xEE, 0xEF, 0x129, 0x12B, 0x12D, 0x12F, 0x1D0, 0x209, 0x20B, 0x1E2D,
     0x1E2F, 0x1EC9, 0x1ECB]),
   ('n', [0xF1, 0x144, 0x146, 0x148, 0x1F9, 0x1E45, 0x1E47, 0x1E49, 0x1E4B]),
   ('o', [0xF2, 0xF3, 0xF4, 0xF5, 0xF6, 0x14D, 0x14F, 0x151, 0x1A1, 0x1D2, 0x1EB, 0x1ED, 0x20D,
     0x20F, 0x22B, 0x22D, 0x22F, 0x231, 0x1E4D, 0x1E4F, 0x1E51, 0x1E53, 0x1ECD, 0x1ECF, 0x1ED1,
     0x1ED3, 0x1ED5, 0x1ED7, 0x1ED9, 0x1EDB, 0x1EDD, 0x1EDF, 0x1EE1, 0x1EE3]),
   ('u', [0xF9, 0xFA, 0xFB, 0xFC, 0x169, 0x16B, 0x16D, 0x16F, 0x171, 0x173, 0x1B0, 0x1D4, 0x1D6,
     0x1D8, 0x1DA, 0x1DC, 0x215, 0x217, 0x1E73, 0x1E75, 0x1E77, 0x1E79, 0x1E7B, 0x1EE5, 0x1EE7,
     0x1EE9, 0x1EEB, 0x1EED, 0x1EEF, 0x1EF1]),
   ('y', [0xFD, 0xFF, 0x177, 0x233, 0x1E8F, 0x1E99, 0x1EF3, 0x1EF5, 0x1EF7, 0x1EF9]),
   ('D', [0x10E, 0x1E0A, 0x1E0C, 0x1E0E, 0x1E10, 0x1E12]),
   ('d', [0x10F, 0x1E0B, 0x1E0D, 0x1E0F, 0x1E11, 0x1E13]),
   ('G', [0x11C, 0x11E, 0x120, 0x122, 0x1E6, 0x1F4, 0x1E20]),
   ('g', [0x11D, 0x11F, 0x121, 0x123, 0x1E7, 0x1F5, 0x1E21]),
   ('H', [0x124, 0x21E, 0x1E22, 0x1E24, 0x1E26, 0x1E28, 0x1E2A]),
   ('h', [0x125, 0x21F, 0x1E23, 0x1E25, 0x1E27, 0x1E29, 0x1E2B, 0x1E96]),
   ('J', [0x134]),
   ('j', [0x135, 0x1F0]),
   ('K', [0x136, 0x1E8, 0x1E30, 0x1E32, 0x1E34]),
   ('k', [0x137, 0x1E9, 0x1E31, 0x1E33, 0x1E35, 0x33C0]),
   ('L', [0x139, 0x13B, 0x13D, 0x13F, 0x1E36, 0x1E38, 0x1E3A, 0x1E3C]),
   ('l', [0x13A, 0x13C, 0x13E, 0x140, 0x1E37, 0x1E39, 0x1E3B, 0x1E3D]),
   ('R', [0x154, 0x156, 0x158, 0x210, 0x212, 0x1E58, 0x1E5A, 0x1E5C, 0x1E5E]),
   ('r', [0x155, 0x157, 0x159, 0x211, 0x213, 0x1E59, 0x1E5B, 0x1E5D, 0x1E5F]),
   ('S', [0x15A, 0x15C, 0x15E, 0x160, 0x218, 0x1E60, 0x1E62, 0x1E64, 0x1E66, 0x1E68]),
   ('s', [0x15B, 0x15D, 0x15F, 0x161, 0x219, 0x1E61, 0x1E63, 0x1E65, 0x1E67, 0x1E69, 0x1E9B]),
   ('T', [0x162, 0x164, 0x21A, 0x1E6A, 0x1E6C, 0x1E6E, 0x1E70]),
   ('t', [0x163, 0x165, 0x21B, 0x1E6B, 0x1E6D, 0x1E6F, 0x1E71, 0x1E97]),
   ('W', [0x174, 0x1E80, 0x1E82, 0x1E84, 0x1E86, 0x1E88]),
   ('w', [0x175, 0x1E81, 0x1E83, 0x1E85, 0x1E87, 0x1E89, 0x1E98]),
   ('Z', [0x179, 0x17B, 0x17D, 0x1E90, 0x1E92, 0x1E94]),
   ('z', [0x17A, 0x17C, 0x17E, 0x1E91, 0x1E93, 0x1E95]),
   ('B', [0x1E02, 0x1E04, 0x1E06]),
   ('b', [0x1E03, 0x1E05, 0x1E07]),
   ('F', [0x1E1E]),
   ('f', [0x1E1F]),
   ('M', [0x1E3E, 0x1E40, 0x1E42, 0x33C1]),
   ('m', [0x1E3F, 0x1E41, 0x1E43]),
   ('P', [0x1E54, 0x1E56]),
   ('p', [0x1E55, 0x1E57]),
   ('V', [0x1E7C, 0x1E7E]),
   ('v', [0x1E7D, 0x1E7F]),
   ('X', [0x1E8A, 0x1E8C]),
   ('x', [0x1E8B, 0x1E8D]),
   ('1', [0x215F, 0x32C0, 0x3359, 0x33E0]),
   ('2', [0x32C1, 0x335A, 0x33E1]),
   ('3', [0x32C2, 0x335B, 0x33E2]),
   ('4', [0x32C3, 0x335C, 0x33E3]),
   ('5', [0x32C4, 0x335D, 0x33E4]),
   ('6', [0x32C5, 0x335E, 0x33E5]),
   ('7', [0x32C6, 0x335F, 0x33E6]),
   ('8', [0x32C7, 0x3360, 0x33E7]),
   ('9', [0x32C8, 0x3361, 0x33E8]),
   ('0', [0x3358])]

/-- Characters that decompose to several ASCII characters. -/
def compound : List (Nat × String) :=
  [(0xBC, "1~4"), (0xBD, "1~2"), (0xBE, "3~4"), (0x132, "IJ"), (0x133, "ij"), (0x149, "~n"),
   (0x1C4, "DZ~"), (0x1C5, "Dz~"), (0x1C6, "dz~"), (0x1C7, "LJ"), (0x1C8, "Lj"), (0x1C9, "lj"),
   (0x1CA, "NJ"), (0x1CB, "Nj"), (0x1CC, "nj"), (0x1F1, "DZ"), (0x1F2, "Dz"), (0x1F3, "dz"),
   (0x20A8, "Rs"), (0x2100, "a/c"), (0x2101, "a/s"), (0x2103, "~C"), (0x2105, "c/o"),
   (0x2106, "c/u"), (0x2109, "~F"), (0x2116, "No"), (0x2120, "SM"), (0x2121, "TEL"), (0x2122, "TM"),
   (0x213B, "FAX"), (0x2150, "1~7"), (0x2151, "1~9"), (0x2152, "1~10"), (0x2153, "1~3"),
   (0x2154, "2~3"), (0x2155, "1~5"), (0x2156, "2~5"), (0x2157, "3~5"), (0x2158, "4~5"),
   (0x2159, "1~6"), (0x215A, "5~6"), (0x215B, "1~8"), (0x215C, "3~8"), (0x215D, "5~8"),
   (0x215E, "7~8"), (0x2161, "II"), (0x2162, "III"), (0x2163, "IV"), (0x2165, "VI"),
   (0x2166, "VII"), (0x2167, "VIII"), (0x2168, "IX"), (0x216A, "XI"), (0x216B, "XII"),
   (0x2171, "ii"), (0x2172, "iii"), (0x2173, "iv"), (0x2175, "vi"), (0x2176, "vii"),
   (0x2177, "viii"), (0x2178, "ix"), (0x217A, "xi"), (0x217B, "xii"), (0x2189, "0~3"),
   (0x2469, "10"), (0x246A, "11"), (0x246B, "12"), (0x246C, "13"), (0x246D, "14"), (0x246E, "15"),
   (0x246F, "16"), (0x2470, "17"), (0x2471, "18"), (0x2472, "19"), (0x2473, "20"), (0x2474, "(1)"),
   (0x2475, "(2)"), (0x2476, "(3)"), (0x2477, "(4)"), (0x2478, "(5)"), (0x2479, "(6)"),
   (0x247A, "(7)"), (0x247B, "(8)"), (0x247C, "(9)"), (0x247D, "(10)"), (0x247E, "(11)"),
   (0x247F, "(12)"), (0x2480, "(13)"), (0x2481, "(14)"), (0x2482, "(15)"), (0x2483, "(16)"),
   (0x2484, "(17)"), (0x2485, "(18)"), (0x2486, "(19)"), (0x2487, "(20)"), (0x2488, "1."),
   (0x2489, "2."), (0x248A, "3."), (0x248B, "4."), (0x248C, "5."), (0x248D, "6."), (0x248E, "7."),
   (0x248F, "8."), (0x2490, "9."), (0x2491, "10."), (0x2492, "11."), (0x2493, "12."),
   (0x2494, "13."), (0x2495, "14."), (0x2496, "15."), (0x2497, "16."), (0x2498, "17."),
   (0x2499, "18."), (0x249A, "19."), (0x249B, "20."), (0x249C, "(a)"), (0x249D, "(b)"),
   (0x249E, "(c)"), (0x249F, "(d)"), (0x24A0, "(e)"), (0x24A1, "(f)"), (0x24A2, "(g)"),
   (0x24A3, "(h)"), (0x24A4, "(i)"), (0x24A5, "(j)"), (0x24A6, "(k)"), (0x24A7, "(l)"),
   (0x24A8, "(m)"), (0x24A9, "(n)"), (0x24AA, "(o)"), (0x24AB, "(p)"), (0x24AC, "(q)"),
   (0x24AD, "(r)"), (0x24AE, "(s)"), (0x24AF, "(t)"), (0x24B0, "(u)"), (0x24B1, "(v)"),
   (0x24B2, "(w)"), (0x24B3, "(x)"), (0x24B4, "(y)"), (0x24B5, "(z)"), (0x3250, "PTE"),
   (0x3251, "21"), (0x3252, "22"), (0x3253, "23"), (0x3254, "24"), (0x3255, "25"), (0x3256, "26"),
   (0x3257, "27"), (0x3258, "28"), (0x3259, "29"), (0x325A, "30"), (0x325B, "31"), (0x325C, "32"),
   (0x325D, "33"), (0x325E, "34"), (0x325F, "35"), (0x32B1, "36"), (0x32B2, "37"), (0x32B3, "38"),
   (0x32B4, "39"), (0x32B5, "40"), (0x32B6, "41"), (0x32B7, "42"), (0x32B8, "43"), (0x32B9, "44"),
   (0x32BA, "45"), (0x32BB, "46"), (0x32BC, "47"), (0x32BD, "48"), (0x32BE, "49"), (0x32BF, "50"),
   (0x32C9, "10~"), (0x32CA, "11~"), (0x32CB, "12~"), (0x32CC, "Hg"), (0x32CD, "erg"),
   (0x32CE, "eV"), (0x32CF, "LTD"), (0x3362, "10~"), (0x3363, "11~"), (0x3364, "12~"),
   (0x3365, "13~"), (0x3366, "14~"), (0x3367, "15~"), (0x3368, "16~"), (0x3369, "17~"),
   (0x336A, "18~"), (0x336B, "19~"), (0x336C, "20~"), (0x336D, "21~"), (0x336E, "22~"),
   (0x336F, "23~"), (0x3370, "24~"), (0x3371, "hPa"), (0x3372, "da"), (0x3373, "AU"),
   (0x3374, "bar"), (0x3375, "oV"), (0x3376, "pc"), (0x3377, "dm"), (0x3378, "dm2"),
   (0x3379, "dm3"), (0x337A, "IU"), (0x3380, "pA"), (0x3381, "nA"), (0x3382, "~A"), (0x3383, "mA"),
   (0x3384, "kA"), (0x3385, "KB"), (0x3386, "MB"), (0x3387, "GB"), (0x3388, "cal"),
   (0x3389, "kcal"), (0x338A, "pF"), (0x338B, "nF"), (0x338C, "~F"), (0x338D, "~g"), (0x338E, "mg"),
   (0x338F, "kg"), (0x3390, "Hz"), (0x3391, "kHz"), (0x3392, "MHz"), (0x3393, "GHz"),
   (0x3394, "THz"), (0x3395, "~l"), (0x3396, "ml"), (0x3397, "dl"), (0x3398, "kl"), (0x3399, "fm"),
   (0x339A, "nm"), (0x339B, "~m"), (0x339C, "mm"), (0x339D, "cm"), (0x339E, "km"), (0x339F, "mm2"),
   (0x33A0, "cm2"), (0x33A1, "m2"), (0x33A2, "km2"), (0x33A3, "mm3"), (0x33A4, "cm3"),
   (0x33A5, "m3"), (0x33A6, "km3"), (0x33A7, "m~s"), (0x33A8, "m~s2"), (0x33A9, "Pa"),
   (0x33AA, "kPa"), (0x33AB, "MPa"), (0x33AC, "GPa"), (0x33AD, "rad"), (0x33AE, "rad~s"),
   (0x33AF, "rad~s2"), (0x33B0, "ps"), (0x33B1, "ns"), (0x33B2, "~s"), (0x33B3, "ms"),
   (0x33B4, "pV"), (0x33B5, "nV"), (0x33B6, "~V"), (0x33B7, "mV"), (0x33B8, "kV"), (0x33B9, "MV"),
   (0x33BA, "pW"), (0x33BB, "nW"), (0x33BC, "~W"), (0x33BD, "mW"), (0x33BE, "kW"), (0x33BF, "MW"),
   (0x33C2, "a.m."), (0x33C3, "Bq"), (0x33C4, "cc"), (0x33C5, "cd"), (0x33C6, "C~kg"),
   (0x33C7, "Co."), (0x33C8, "dB"), (0x33C9, "Gy"), (0x33CA, "ha"), (0x33CB, "HP"), (0x33CC, "in"),
   (0x33CD, "KK"), (0x33CE, "KM"), (0x33CF, "kt"), (0x33D0, "lm"), (0x33D1, "ln"), (0x33D2, "log"),
   (0x33D3, "lx"), (0x33D4, "mb"), (0x33D5, "mil"), (0x33D6, "mol"), (0x33D7, "PH"),
   (0x33D8, "p.m."), (0x33D9, "PPM"), (0x33DA, "PR"), (0x33DB, "sr"), (0x33DC, "Sv"),
   (0x33DD, "Wb"), (0x33DE, "V~m"), (0x33DF, "A~m"), (0x33E9, "10~"), (0x33EA, "11~"),
   (0x33EB, "12~"), (0x33EC, "13~"), (0x33ED, "14~"), (0x33EE, "15~"), (0x33EF, "16~"),
   (0x33F0, "17~"), (0x33F1, "18~"), (0x33F2, "19~"), (0x33F3, "20~"), (0x33F4, "21~"),
   (0x33F5, "22~"), (0x33F6, "23~"), (0x33F7, "24~"), (0x33F8, "25~"), (0x33F9, "26~"),
   (0x33FA, "27~"), (0x33FB, "28~"), (0x33FC, "29~"), (0x33FD, "30~"), (0x33FE, "31~"),
   (0x33FF, "gal"), (0xFB00, "ff"), (0xFB01, "fi"), (0xFB02, "fl"), (0xFB03, "ffi"),
   (0xFB04, "ffl"), (0xFB05, "st"), (0xFB06, "st"), (0x1F100, "0."), (0x1F101, "0,"),
   (0x1F102, "1,"), (0x1F103, "2,"), (0x1F104, "3,"), (0x1F105, "4,"), (0x1F106, "5,"),
   (0x1F107, "6,"), (0x1F108, "7,"), (0x1F109, "8,"), (0x1F10A, "9,"), (0x1F110, "(A)"),
   (0x1F111, "(B)"), (0x1F112, "(C)"), (0x1F113, "(D)"), (0x1F114, "(E)"), (0x1F115, "(F)"),
   (0x1F116, "(G)"), (0x1F117, "(H)"), (0x1F118, "(I)"), (0x1F119, "(J)"), (0x1F11A, "(K)"),
   (0x1F11B, "(L)"), (0x1F11C, "(M)"), (0x1F11D, "(N)"), (0x1F11E, "(O)"), (0x1F11F, "(P)"),
   (0x1F120, "(Q)"), (0x1F121, "(R)"), (0x1F122, "(S)"), (0x1F123, "(T)"), (0x1F124, "(U)"),
   (0x1F125, "(V)"), (0x1F126, "(W)"), (0x1F127, "(X)"), (0x1F128, "(Y)"), (0x1F129, "(Z)"),
   (0x1F12A, "~S~"), (0x1F12D, "CD"), (0x1F12E, "WZ"), (0x1F14A, "HV"), (0x1F14B, "MV"),
   (0x1F14C, "SD"), (0x1F14D, "SS"), (0x1F14E, "PPV"), (0x1F14F, "WC"), (0x1F16A, "MC"),
   (0x1F16B, "MD"), (0x1F16C, "MR"), (0x1F190, "DJ")]

end StructuredData.StandIn.LatinTable
