import DocMarkup.Encoding.Runs

/-!
# GB 18030

The codes of GB 18030 beyond those of GBK, as runs. A code of two bytes has a character of its own
or one for private use. A code of four bytes is a number, and the numbers of the basic plane follow
the order of the characters that have no code of two bytes.
-/

namespace DocMarkup
namespace Charset

/-- The characters in two bytes that GB 18030 adds to those of GBK. -/
def gb18030Pairs : CodeRuns :=
  [(0xA140, 0xE4C6, 63), (0xA180, 0xE505, 33), (0xA240, 0xE526, 63), (0xA280, 0xE565, 33),
   (0xA2AB, 0xE766, 6), (0xA2E3, 0x20AC, 1), (0xA2E4, 0xE76D, 1), (0xA2EF, 0xE76E, 2),
   (0xA2FD, 0xE770, 2), (0xA340, 0xE586, 63), (0xA380, 0xE5C5, 33), (0xA440, 0xE5E6, 63),
   (0xA480, 0xE625, 33), (0xA4F4, 0xE772, 11), (0xA540, 0xE646, 63), (0xA580, 0xE685, 33),
   (0xA5F7, 0xE77D, 8), (0xA640, 0xE6A6, 63), (0xA680, 0xE6E5, 33), (0xA6B9, 0xE785, 8),
   (0xA6D9, 0xE78D, 7), (0xA6EC, 0xE794, 2), (0xA6F3, 0xE796, 1), (0xA6F6, 0xE797, 9),
   (0xA740, 0xE706, 63), (0xA780, 0xE745, 33), (0xA7C2, 0xE7A0, 15), (0xA7F2, 0xE7AF, 13),
   (0xA896, 0xE7BC, 11), (0xA8BC, 0xE7C7, 1), (0xA8BF, 0x01F9, 1), (0xA8C1, 0xE7C9, 4),
   (0xA8EA, 0xE7CD, 21), (0xA958, 0xE7E2, 1), (0xA95B, 0xE7E3, 1), (0xA95D, 0xE7E4, 3),
   (0xA989, 0x303E, 1), (0xA98A, 0x2FF0, 12), (0xA997, 0xE7F4, 13), (0xA9F0, 0xE801, 15),
   (0xAAA1, 0xE000, 94), (0xABA1, 0xE05E, 94), (0xACA1, 0xE0BC, 94), (0xADA1, 0xE11A, 94),
   (0xAEA1, 0xE178, 94), (0xAFA1, 0xE1D6, 94), (0xD7FA, 0xE810, 5), (0xF8A1, 0xE234, 94),
   (0xF9A1, 0xE292, 94), (0xFAA1, 0xE2F0, 94), (0xFBA1, 0xE34E, 94), (0xFCA1, 0xE3AC, 94),
   (0xFDA1, 0xE40A, 94), (0xFE50, 0x2E81, 1), (0xFE51, 0xE816, 3), (0xFE54, 0x2E84, 1),
   (0xFE55, 0x3473, 1), (0xFE56, 0x3447, 1), (0xFE57, 0x2E88, 1), (0xFE58, 0x2E8B, 1),
   (0xFE59, 0xE81E, 1), (0xFE5A, 0x359E, 1), (0xFE5B, 0x361A, 1), (0xFE5C, 0x360E, 1),
   (0xFE5D, 0x2E8C, 1), (0xFE5E, 0x2E97, 1), (0xFE5F, 0x396E, 1), (0xFE60, 0x3918, 1),
   (0xFE61, 0xE826, 1), (0xFE62, 0x39CF, 1), (0xFE63, 0x39DF, 1), (0xFE64, 0x3A73, 1),
   (0xFE65, 0x39D0, 1), (0xFE66, 0xE82B, 2), (0xFE68, 0x3B4E, 1), (0xFE69, 0x3C6E, 1),
   (0xFE6A, 0x3CE0, 1), (0xFE6B, 0x2EA7, 1), (0xFE6C, 0xE831, 2), (0xFE6E, 0x2EAA, 1),
   (0xFE6F, 0x4056, 1), (0xFE70, 0x415F, 1), (0xFE71, 0x2EAE, 1), (0xFE72, 0x4337, 1),
   (0xFE73, 0x2EB3, 1), (0xFE74, 0x2EB6, 2), (0xFE76, 0xE83B, 1), (0xFE77, 0x43B1, 1),
   (0xFE78, 0x43AC, 1), (0xFE79, 0x2EBB, 1), (0xFE7A, 0x43DD, 1), (0xFE7B, 0x44D6, 1),
   (0xFE7C, 0x4661, 1), (0xFE7D, 0x464C, 1), (0xFE7E, 0xE843, 1), (0xFE80, 0x4723, 1),
   (0xFE81, 0x4729, 1), (0xFE82, 0x477C, 1), (0xFE83, 0x478D, 1), (0xFE84, 0x2ECA, 1),
   (0xFE85, 0x4947, 1), (0xFE86, 0x497A, 1), (0xFE87, 0x497D, 1), (0xFE88, 0x4982, 2),
   (0xFE8A, 0x4985, 2), (0xFE8C, 0x499F, 1), (0xFE8D, 0x499B, 1), (0xFE8E, 0x49B7, 1),
   (0xFE8F, 0x49B6, 1), (0xFE90, 0xE854, 2), (0xFE92, 0x4CA3, 1), (0xFE93, 0x4C9F, 3),
   (0xFE96, 0x4C77, 1), (0xFE97, 0x4CA2, 1), (0xFE98, 0x4D13, 7), (0xFE9F, 0x4DAE, 1),
   (0xFEA0, 0xE864, 1), (0xFEA1, 0xE468, 94)]

/-- The characters of the basic plane by the numbers of their codes of four bytes. -/
def gb18030Quads : CodeRuns :=
  [(0x0000, 0x0080, 36), (0x0024, 0x00A5, 2), (0x0026, 0x00A9, 7), (0x002D, 0x00B2, 5),
   (0x0032, 0x00B8, 31), (0x0051, 0x00D8, 8), (0x0059, 0x00E2, 6), (0x005F, 0x00EB, 1),
   (0x0060, 0x00EE, 4), (0x0064, 0x00F4, 3), (0x0067, 0x00F8, 1), (0x0068, 0x00FB, 1),
   (0x0069, 0x00FD, 4), (0x006D, 0x0102, 17), (0x007E, 0x0114, 7), (0x0085, 0x011C, 15),
   (0x0094, 0x012C, 24), (0x00AC, 0x0145, 3), (0x00AF, 0x0149, 4), (0x00B3, 0x014E, 29),
   (0x00D0, 0x016C, 98), (0x0132, 0x01CF, 1), (0x0133, 0x01D1, 1), (0x0134, 0x01D3, 1),
   (0x0135, 0x01D5, 1), (0x0136, 0x01D7, 1), (0x0137, 0x01D9, 1), (0x0138, 0x01DB, 1),
   (0x0139, 0x01DD, 28), (0x0155, 0x01FA, 87), (0x01AC, 0x0252, 15), (0x01BB, 0x0262, 101),
   (0x0220, 0x02C8, 1), (0x0221, 0x02CC, 13), (0x022E, 0x02DA, 183), (0x02E5, 0x03A2, 1),
   (0x02E6, 0x03AA, 7), (0x02ED, 0x03C2, 1), (0x02EE, 0x03CA, 55), (0x0325, 0x0402, 14),
   (0x0333, 0x0450, 1), (0x0334, 0x0452, 7102), (0x1EF2, 0x2011, 2), (0x1EF4, 0x2017, 1),
   (0x1EF5, 0x201A, 2), (0x1EF7, 0x201E, 7), (0x1EFE, 0x2027, 9), (0x1F07, 0x2031, 1),
   (0x1F08, 0x2034, 1), (0x1F09, 0x2036, 5), (0x1F0E, 0x203C, 112), (0x1F7E, 0x20AD, 86),
   (0x1FD4, 0x2104, 1), (0x1FD5, 0x2106, 3), (0x1FD8, 0x210A, 12), (0x1FE4, 0x2117, 10),
   (0x1FEE, 0x2122, 62), (0x202C, 0x216C, 4), (0x2030, 0x217A, 22), (0x2046, 0x2194, 2),
   (0x2048, 0x219A, 110), (0x20B6, 0x2209, 6), (0x20BC, 0x2210, 1), (0x20BD, 0x2212, 3),
   (0x20C0, 0x2216, 4), (0x20C4, 0x221B, 2), (0x20C6, 0x2221, 2), (0x20C8, 0x2224, 1),
   (0x20C9, 0x2226, 1), (0x20CA, 0x222C, 2), (0x20CC, 0x222F, 5), (0x20D1, 0x2238, 5),
   (0x20D6, 0x223E, 10), (0x20E0, 0x2249, 3), (0x20E3, 0x224D, 5), (0x20E8, 0x2253, 13),
   (0x20F5, 0x2262, 2), (0x20F7, 0x2268, 6), (0x20FD, 0x2270, 37), (0x2122, 0x2296, 3),
   (0x2125, 0x229A, 11), (0x2130, 0x22A6, 25), (0x2149, 0x22C0, 82), (0x219B, 0x2313, 333),
   (0x22E8, 0x246A, 10), (0x22F2, 0x249C, 100), (0x2356, 0x254C, 4), (0x235A, 0x2574, 13),
   (0x2367, 0x2590, 3), (0x236A, 0x2596, 10), (0x2374, 0x25A2, 16), (0x2384, 0x25B4, 8),
   (0x238C, 0x25BE, 8), (0x2394, 0x25C8, 3), (0x2397, 0x25CC, 2), (0x2399, 0x25D0, 18),
   (0x23AB, 0x25E6, 31), (0x23CA, 0x2607, 2), (0x23CC, 0x260A, 54), (0x2402, 0x2641, 1),
   (0x2403, 0x2643, 2110), (0x2C41, 0x2E82, 2), (0x2C43, 0x2E85, 3), (0x2C46, 0x2E89, 2),
   (0x2C48, 0x2E8D, 10), (0x2C52, 0x2E98, 15), (0x2C61, 0x2EA8, 2), (0x2C63, 0x2EAB, 3),
   (0x2C66, 0x2EAF, 4), (0x2C6A, 0x2EB4, 2), (0x2C6C, 0x2EB8, 3), (0x2C6F, 0x2EBC, 14),
   (0x2C7D, 0x2ECB, 293), (0x2DA2, 0x2FFC, 4), (0x2DA6, 0x3004, 1), (0x2DA7, 0x3018, 5),
   (0x2DAC, 0x301F, 2), (0x2DAE, 0x302A, 20), (0x2DC2, 0x303F, 2), (0x2DC4, 0x3094, 7),
   (0x2DCB, 0x309F, 2), (0x2DCD, 0x30F7, 5), (0x2DD2, 0x30FF, 6), (0x2DD8, 0x312A, 246),
   (0x2ECE, 0x322A, 7), (0x2ED5, 0x3232, 113), (0x2F46, 0x32A4, 234), (0x3030, 0x3390, 12),
   (0x303C, 0x339F, 2), (0x303E, 0x33A2, 34), (0x3060, 0x33C5, 9), (0x3069, 0x33CF, 2),
   (0x306B, 0x33D3, 2), (0x306D, 0x33D6, 113), (0x30DE, 0x3448, 43), (0x3109, 0x3474, 298),
   (0x3233, 0x359F, 111), (0x32A2, 0x360F, 11), (0x32AD, 0x361B, 765), (0x35AA, 0x3919, 85),
   (0x35FF, 0x396F, 96), (0x365F, 0x39D1, 14), (0x366D, 0x39E0, 147), (0x3700, 0x3A74, 218),
   (0x37DA, 0x3B4F, 287), (0x38F9, 0x3C6F, 113), (0x396A, 0x3CE1, 885), (0x3CDF, 0x4057, 264),
   (0x3DE7, 0x4160, 471), (0x3FBE, 0x4338, 116), (0x4032, 0x43AD, 4), (0x4036, 0x43B2, 43),
   (0x4061, 0x43DE, 248), (0x4159, 0x44D7, 373), (0x42CE, 0x464D, 20), (0x42E2, 0x4662, 193),
   (0x43A3, 0x4724, 5), (0x43A8, 0x472A, 82), (0x43FA, 0x477D, 16), (0x440A, 0x478E, 441),
   (0x45C3, 0x4948, 50), (0x45F5, 0x497B, 2), (0x45F7, 0x497E, 4), (0x45FB, 0x4984, 1),
   (0x45FC, 0x4987, 20), (0x4610, 0x499C, 3), (0x4613, 0x49A0, 22), (0x4629, 0x49B8, 703),
   (0x48E8, 0x4C78, 39), (0x490F, 0x4CA4, 111), (0x497E, 0x4D1A, 148), (0x4A12, 0x4DAF, 81),
   (0x4A63, 0x9FA6, 14426), (0x82BD, 0xE76C, 1), (0x82BE, 0xE7C8, 1), (0x82BF, 0xE7E7, 13),
   (0x82CC, 0xE815, 1), (0x82CD, 0xE819, 5), (0x82D2, 0xE81F, 7), (0x82D9, 0xE827, 4),
   (0x82DD, 0xE82D, 4), (0x82E1, 0xE833, 8), (0x82E9, 0xE83C, 7), (0x82F0, 0xE844, 16),
   (0x8300, 0xE856, 14), (0x830E, 0xE865, 4295), (0x93D5, 0xF92D, 76), (0x9421, 0xF97A, 27),
   (0x943C, 0xF996, 81), (0x948D, 0xF9E8, 9), (0x9496, 0xF9F2, 26), (0x94B0, 0xFA10, 1),
   (0x94B1, 0xFA12, 1), (0x94B2, 0xFA15, 3), (0x94B5, 0xFA19, 6), (0x94BB, 0xFA22, 1),
   (0x94BC, 0xFA25, 2), (0x94BE, 0xFA2A, 1030), (0x98C4, 0xFE32, 1), (0x98C5, 0xFE45, 4),
   (0x98C9, 0xFE53, 1), (0x98CA, 0xFE58, 1), (0x98CB, 0xFE67, 1), (0x98CC, 0xFE6C, 149),
   (0x9961, 0xFF5F, 129), (0x99E2, 0xFFE6, 26)]

end Charset
end DocMarkup
