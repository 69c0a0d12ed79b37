import DocMarkup.Encoding.Page

/-!
# Code pages of personal computers
-/

namespace DocMarkup
namespace Page

/-- The page of IBM 437. -/
def ibm437 : Page :=
  [(0x80, 0x00C7, 1), (0x81, 0x00FC, 1), (0x82, 0x00E9, 1), (0x83, 0x00E2, 1), (0x84, 0x00E4, 1),
   (0x85, 0x00E0, 1), (0x86, 0x00E5, 1), (0x87, 0x00E7, 1), (0x88, 0x00EA, 2), (0x8A, 0x00E8, 1),
   (0x8B, 0x00EF, 1), (0x8C, 0x00EE, 1), (0x8D, 0x00EC, 1), (0x8E, 0x00C4, 2), (0x90, 0x00C9, 1),
   (0x91, 0x00E6, 1), (0x92, 0x00C6, 1), (0x93, 0x00F4, 1), (0x94, 0x00F6, 1), (0x95, 0x00F2, 1),
   (0x96, 0x00FB, 1), (0x97, 0x00F9, 1), (0x98, 0x00FF, 1), (0x99, 0x00D6, 1), (0x9A, 0x00DC, 1),
   (0x9B, 0x00A2, 2), (0x9D, 0x00A5, 1), (0x9E, 0x20A7, 1), (0x9F, 0x0192, 1), (0xA0, 0x00E1, 1),
   (0xA1, 0x00ED, 1), (0xA2, 0x00F3, 1), (0xA3, 0x00FA, 1), (0xA4, 0x00F1, 1), (0xA5, 0x00D1, 1),
   (0xA6, 0x00AA, 1), (0xA7, 0x00BA, 1), (0xA8, 0x00BF, 1), (0xA9, 0x2310, 1), (0xAA, 0x00AC, 1),
   (0xAB, 0x00BD, 1), (0xAC, 0x00BC, 1), (0xAD, 0x00A1, 1), (0xAE, 0x00AB, 1), (0xAF, 0x00BB, 1),
   (0xB0, 0x2591, 3), (0xB3, 0x2502, 1), (0xB4, 0x2524, 1), (0xB5, 0x2561, 2), (0xB7, 0x2556, 1),
   (0xB8, 0x2555, 1), (0xB9, 0x2563, 1), (0xBA, 0x2551, 1), (0xBB, 0x2557, 1), (0xBC, 0x255D, 1),
   (0xBD, 0x255C, 1), (0xBE, 0x255B, 1), (0xBF, 0x2510, 1), (0xC0, 0x2514, 1), (0xC1, 0x2534, 1),
   (0xC2, 0x252C, 1), (0xC3, 0x251C, 1), (0xC4, 0x2500, 1), (0xC5, 0x253C, 1), (0xC6, 0x255E, 2),
   (0xC8, 0x255A, 1), (0xC9, 0x2554, 1), (0xCA, 0x2569, 1), (0xCB, 0x2566, 1), (0xCC, 0x2560, 1),
   (0xCD, 0x2550, 1), (0xCE, 0x256C, 1), (0xCF, 0x2567, 2), (0xD1, 0x2564, 2), (0xD3, 0x2559, 1),
   (0xD4, 0x2558, 1), (0xD5, 0x2552, 2), (0xD7, 0x256B, 1), (0xD8, 0x256A, 1), (0xD9, 0x2518, 1),
   (0xDA, 0x250C, 1), (0xDB, 0x2588, 1), (0xDC, 0x2584, 1), (0xDD, 0x258C, 1), (0xDE, 0x2590, 1),
   (0xDF, 0x2580, 1), (0xE0, 0x03B1, 1), (0xE1, 0x00DF, 1), (0xE2, 0x0393, 1), (0xE3, 0x03C0, 1),
   (0xE4, 0x03A3, 1), (0xE5, 0x03C3, 1), (0xE6, 0x00B5, 1), (0xE7, 0x03C4, 1), (0xE8, 0x03A6, 1),
   (0xE9, 0x0398, 1), (0xEA, 0x03A9, 1), (0xEB, 0x03B4, 1), (0xEC, 0x221E, 1), (0xED, 0x03C6, 1),
   (0xEE, 0x03B5, 1), (0xEF, 0x2229, 1), (0xF0, 0x2261, 1), (0xF1, 0x00B1, 1), (0xF2, 0x2265, 1),
   (0xF3, 0x2264, 1), (0xF4, 0x2320, 2), (0xF6, 0x00F7, 1), (0xF7, 0x2248, 1), (0xF8, 0x00B0, 1),
   (0xF9, 0x2219, 1), (0xFA, 0x00B7, 1), (0xFB, 0x221A, 1), (0xFC, 0x207F, 1), (0xFD, 0x00B2, 1),
   (0xFE, 0x25A0, 1), (0xFF, 0x00A0, 1)]

/-- The page of IBM 720, for Arabic. -/
def ibm720 : Page :=
  [(0x80, 0x0080, 2), (0x82, 0x00E9, 1), (0x83, 0x00E2, 1), (0x84, 0x0084, 1), (0x85, 0x00E0, 1),
   (0x86, 0x0086, 1), (0x87, 0x00E7, 1), (0x88, 0x00EA, 2), (0x8A, 0x00E8, 1), (0x8B, 0x00EF, 1),
   (0x8C, 0x00EE, 1), (0x8D, 0x008D, 4), (0x91, 0x0651, 2), (0x93, 0x00F4, 1), (0x94, 0x00A4, 1),
   (0x95, 0x0640, 1), (0x96, 0x00FB, 1), (0x97, 0x00F9, 1), (0x98, 0x0621, 4), (0x9C, 0x00A3, 1),
   (0x9D, 0x0625, 17), (0xAE, 0x00AB, 1), (0xAF, 0x00BB, 1), (0xB0, 0x2591, 3), (0xB3, 0x2502, 1),
   (0xB4, 0x2524, 1), (0xB5, 0x2561, 2), (0xB7, 0x2556, 1), (0xB8, 0x2555, 1), (0xB9, 0x2563, 1),
   (0xBA, 0x2551, 1), (0xBB, 0x2557, 1), (0xBC, 0x255D, 1), (0xBD, 0x255C, 1), (0xBE, 0x255B, 1),
   (0xBF, 0x2510, 1), (0xC0, 0x2514, 1), (0xC1, 0x2534, 1), (0xC2, 0x252C, 1), (0xC3, 0x251C, 1),
   (0xC4, 0x2500, 1), (0xC5, 0x253C, 1), (0xC6, 0x255E, 2), (0xC8, 0x255A, 1), (0xC9, 0x2554, 1),
   (0xCA, 0x2569, 1), (0xCB, 0x2566, 1), (0xCC, 0x2560, 1), (0xCD, 0x2550, 1), (0xCE, 0x256C, 1),
   (0xCF, 0x2567, 2), (0xD1, 0x2564, 2), (0xD3, 0x2559, 1), (0xD4, 0x2558, 1), (0xD5, 0x2552, 2),
   (0xD7, 0x256B, 1), (0xD8, 0x256A, 1), (0xD9, 0x2518, 1), (0xDA, 0x250C, 1), (0xDB, 0x2588, 1),
   (0xDC, 0x2584, 1), (0xDD, 0x258C, 1), (0xDE, 0x2590, 1), (0xDF, 0x2580, 1), (0xE0, 0x0636, 5),
   (0xE5, 0x0641, 1), (0xE6, 0x00B5, 1), (0xE7, 0x0642, 9), (0xF0, 0x2261, 1), (0xF1, 0x064B, 6),
   (0xF7, 0x2248, 1), (0xF8, 0x00B0, 1), (0xF9, 0x2219, 1), (0xFA, 0x00B7, 1), (0xFB, 0x221A, 1),
   (0xFC, 0x207F, 1), (0xFD, 0x00B2, 1), (0xFE, 0x25A0, 1), (0xFF, 0x00A0, 1)]

/-- The page of IBM 737, for Greek. -/
def ibm737 : Page :=
  [(0x80, 0x0391, 17), (0x91, 0x03A3, 7), (0x98, 0x03B1, 17), (0xA9, 0x03C3, 1), (0xAA, 0x03C2, 1),
   (0xAB, 0x03C4, 5), (0xB0, 0x2591, 3), (0xB3, 0x2502, 1), (0xB4, 0x2524, 1), (0xB5, 0x2561, 2),
   (0xB7, 0x2556, 1), (0xB8, 0x2555, 1), (0xB9, 0x2563, 1), (0xBA, 0x2551, 1), (0xBB, 0x2557, 1),
   (0xBC, 0x255D, 1), (0xBD, 0x255C, 1), (0xBE, 0x255B, 1), (0xBF, 0x2510, 1), (0xC0, 0x2514, 1),
   (0xC1, 0x2534, 1), (0xC2, 0x252C, 1), (0xC3, 0x251C, 1), (0xC4, 0x2500, 1), (0xC5, 0x253C, 1),
   (0xC6, 0x255E, 2), (0xC8, 0x255A, 1), (0xC9, 0x2554, 1), (0xCA, 0x2569, 1), (0xCB, 0x2566, 1),
   (0xCC, 0x2560, 1), (0xCD, 0x2550, 1), (0xCE, 0x256C, 1), (0xCF, 0x2567, 2), (0xD1, 0x2564, 2),
   (0xD3, 0x2559, 1), (0xD4, 0x2558, 1), (0xD5, 0x2552, 2), (0xD7, 0x256B, 1), (0xD8, 0x256A, 1),
   (0xD9, 0x2518, 1), (0xDA, 0x250C, 1), (0xDB, 0x2588, 1), (0xDC, 0x2584, 1), (0xDD, 0x258C, 1),
   (0xDE, 0x2590, 1), (0xDF, 0x2580, 1), (0xE0, 0x03C9, 1), (0xE1, 0x03AC, 3), (0xE4, 0x03CA, 1),
   (0xE5, 0x03AF, 1), (0xE6, 0x03CC, 2), (0xE8, 0x03CB, 1), (0xE9, 0x03CE, 1), (0xEA, 0x0386, 1),
   (0xEB, 0x0388, 3), (0xEE, 0x038C, 1), (0xEF, 0x038E, 2), (0xF1, 0x00B1, 1), (0xF2, 0x2265, 1),
   (0xF3, 0x2264, 1), (0xF4, 0x03AA, 2), (0xF6, 0x00F7, 1), (0xF7, 0x2248, 1), (0xF8, 0x00B0, 1),
   (0xF9, 0x2219, 1), (0xFA, 0x00B7, 1), (0xFB, 0x221A, 1), (0xFC, 0x207F, 1), (0xFD, 0x00B2, 1),
   (0xFE, 0x25A0, 1), (0xFF, 0x00A0, 1)]

/-- The page of IBM 775, for the Baltic languages. -/
def ibm775 : Page :=
  [(0x80, 0x0106, 1), (0x81, 0x00FC, 1), (0x82, 0x00E9, 1), (0x83, 0x0101, 1), (0x84, 0x00E4, 1),
   (0x85, 0x0123, 1), (0x86, 0x00E5, 1), (0x87, 0x0107, 1), (0x88, 0x0142, 1), (0x89, 0x0113, 1),
   (0x8A, 0x0156, 2), (0x8C, 0x012B, 1), (0x8D, 0x0179, 1), (0x8E, 0x00C4, 2), (0x90, 0x00C9, 1),
   (0x91, 0x00E6, 1), (0x92, 0x00C6, 1), (0x93, 0x014D, 1), (0x94, 0x00F6, 1), (0x95, 0x0122, 1),
   (0x96, 0x00A2, 1), (0x97, 0x015A, 2), (0x99, 0x00D6, 1), (0x9A, 0x00DC, 1), (0x9B, 0x00F8, 1),
   (0x9C, 0x00A3, 1), (0x9D, 0x00D8, 1), (0x9E, 0x00D7, 1), (0x9F, 0x00A4, 1), (0xA0, 0x0100, 1),
   (0xA1, 0x012A, 1), (0xA2, 0x00F3, 1), (0xA3, 0x017B, 2), (0xA5, 0x017A, 1), (0xA6, 0x201D, 1),
   (0xA7, 0x00A6, 1), (0xA8, 0x00A9, 1), (0xA9, 0x00AE, 1), (0xAA, 0x00AC, 1), (0xAB, 0x00BD, 1),
   (0xAC, 0x00BC, 1), (0xAD, 0x0141, 1), (0xAE, 0x00AB, 1), (0xAF, 0x00BB, 1), (0xB0, 0x2591, 3),
   (0xB3, 0x2502, 1), (0xB4, 0x2524, 1), (0xB5, 0x0104, 1), (0xB6, 0x010C, 1), (0xB7, 0x0118, 1),
   (0xB8, 0x0116, 1), (0xB9, 0x2563, 1), (0xBA, 0x2551, 1), (0xBB, 0x2557, 1), (0xBC, 0x255D, 1),
   (0xBD, 0x012E, 1), (0xBE, 0x0160, 1), (0xBF, 0x2510, 1), (0xC0, 0x2514, 1), (0xC1, 0x2534, 1),
   (0xC2, 0x252C, 1), (0xC3, 0x251C, 1), (0xC4, 0x2500, 1), (0xC5, 0x253C, 1), (0xC6, 0x0172, 1),
   (0xC7, 0x016A, 1), (0xC8, 0x255A, 1), (0xC9, 0x2554, 1), (0xCA, 0x2569, 1), (0xCB, 0x2566, 1),
   (0xCC, 0x2560, 1), (0xCD, 0x2550, 1), (0xCE, 0x256C, 1), (0xCF, 0x017D, 1), (0xD0, 0x0105, 1),
   (0xD1, 0x010D, 1), (0xD2, 0x0119, 1), (0xD3, 0x0117, 1), (0xD4, 0x012F, 1), (0xD5, 0x0161, 1),
   (0xD6, 0x0173, 1), (0xD7, 0x016B, 1), (0xD8, 0x017E, 1), (0xD9, 0x2518, 1), (0xDA, 0x250C, 1),
   (0xDB, 0x2588, 1), (0xDC, 0x2584, 1), (0xDD, 0x258C, 1), (0xDE, 0x2590, 1), (0xDF, 0x2580, 1),
   (0xE0, 0x00D3, 1), (0xE1, 0x00DF, 1), (0xE2, 0x014C, 1), (0xE3, 0x0143, 1), (0xE4, 0x00F5, 1),
   (0xE5, 0x00D5, 1), (0xE6, 0x00B5, 1), (0xE7, 0x0144, 1), (0xE8, 0x0136, 2), (0xEA, 0x013B, 2),
   (0xEC, 0x0146, 1), (0xED, 0x0112, 1), (0xEE, 0x0145, 1), (0xEF, 0x2019, 1), (0xF0, 0x00AD, 1),
   (0xF1, 0x00B1, 1), (0xF2, 0x201C, 1), (0xF3, 0x00BE, 1), (0xF4, 0x00B6, 1), (0xF5, 0x00A7, 1),
   (0xF6, 0x00F7, 1), (0xF7, 0x201E, 1), (0xF8, 0x00B0, 1), (0xF9, 0x2219, 1), (0xFA, 0x00B7, 1),
   (0xFB, 0x00B9, 1), (0xFC, 0x00B3, 1), (0xFD, 0x00B2, 1), (0xFE, 0x25A0, 1), (0xFF, 0x00A0, 1)]

/-- The page of IBM 850. -/
def ibm850 : Page :=
  [(0x80, 0x00C7, 1), (0x81, 0x00FC, 1), (0x82, 0x00E9, 1), (0x83, 0x00E2, 1), (0x84, 0x00E4, 1),
   (0x85, 0x00E0, 1), (0x86, 0x00E5, 1), (0x87, 0x00E7, 1), (0x88, 0x00EA, 2), (0x8A, 0x00E8, 1),
   (0x8B, 0x00EF, 1), (0x8C, 0x00EE, 1), (0x8D, 0x00EC, 1), (0x8E, 0x00C4, 2), (0x90, 0x00C9, 1),
   (0x91, 0x00E6, 1), (0x92, 0x00C6, 1), (0x93, 0x00F4, 1), (0x94, 0x00F6, 1), (0x95, 0x00F2, 1),
   (0x96, 0x00FB, 1), (0x97, 0x00F9, 1), (0x98, 0x00FF, 1), (0x99, 0x00D6, 1), (0x9A, 0x00DC, 1),
   (0x9B, 0x00F8, 1), (0x9C, 0x00A3, 1), (0x9D, 0x00D8, 1), (0x9E, 0x00D7, 1), (0x9F, 0x0192, 1),
   (0xA0, 0x00E1, 1), (0xA1, 0x00ED, 1), (0xA2, 0x00F3, 1), (0xA3, 0x00FA, 1), (0xA4, 0x00F1, 1),
   (0xA5, 0x00D1, 1), (0xA6, 0x00AA, 1), (0xA7, 0x00BA, 1), (0xA8, 0x00BF, 1), (0xA9, 0x00AE, 1),
   (0xAA, 0x00AC, 1), (0xAB, 0x00BD, 1), (0xAC, 0x00BC, 1), (0xAD, 0x00A1, 1), (0xAE, 0x00AB, 1),
   (0xAF, 0x00BB, 1), (0xB0, 0x2591, 3), (0xB3, 0x2502, 1), (0xB4, 0x2524, 1), (0xB5, 0x00C1, 2),
   (0xB7, 0x00C0, 1), (0xB8, 0x00A9, 1), (0xB9, 0x2563, 1), (0xBA, 0x2551, 1), (0xBB, 0x2557, 1),
   (0xBC, 0x255D, 1), (0xBD, 0x00A2, 1), (0xBE, 0x00A5, 1), (0xBF, 0x2510, 1), (0xC0, 0x2514, 1),
   (0xC1, 0x2534, 1), (0xC2, 0x252C, 1), (0xC3, 0x251C, 1), (0xC4, 0x2500, 1), (0xC5, 0x253C, 1),
   (0xC6, 0x00E3, 1), (0xC7, 0x00C3, 1), (0xC8, 0x255A, 1), (0xC9, 0x2554, 1), (0xCA, 0x2569, 1),
   (0xCB, 0x2566, 1), (0xCC, 0x2560, 1), (0xCD, 0x2550, 1), (0xCE, 0x256C, 1), (0xCF, 0x00A4, 1),
   (0xD0, 0x00F0, 1), (0xD1, 0x00D0, 1), (0xD2, 0x00CA, 2), (0xD4, 0x00C8, 1), (0xD5, 0x0131, 1),
   (0xD6, 0x00CD, 3), (0xD9, 0x2518, 1), (0xDA, 0x250C, 1), (0xDB, 0x2588, 1), (0xDC, 0x2584, 1),
   (0xDD, 0x00A6, 1), (0xDE, 0x00CC, 1), (0xDF, 0x2580, 1), (0xE0, 0x00D3, 1), (0xE1, 0x00DF, 1),
   (0xE2, 0x00D4, 1), (0xE3, 0x00D2, 1), (0xE4, 0x00F5, 1), (0xE5, 0x00D5, 1), (0xE6, 0x00B5, 1),
   (0xE7, 0x00FE, 1), (0xE8, 0x00DE, 1), (0xE9, 0x00DA, 2), (0xEB, 0x00D9, 1), (0xEC, 0x00FD, 1),
   (0xED, 0x00DD, 1), (0xEE, 0x00AF, 1), (0xEF, 0x00B4, 1), (0xF0, 0x00AD, 1), (0xF1, 0x00B1, 1),
   (0xF2, 0x2017, 1), (0xF3, 0x00BE, 1), (0xF4, 0x00B6, 1), (0xF5, 0x00A7, 1), (0xF6, 0x00F7, 1),
   (0xF7, 0x00B8, 1), (0xF8, 0x00B0, 1), (0xF9, 0x00A8, 1), (0xFA, 0x00B7, 1), (0xFB, 0x00B9, 1),
   (0xFC, 0x00B3, 1), (0xFD, 0x00B2, 1), (0xFE, 0x25A0, 1), (0xFF, 0x00A0, 1)]

/-- The page of IBM 852. -/
def ibm852 : Page :=
  [(0x80, 0x00C7, 1), (0x81, 0x00FC, 1), (0x82, 0x00E9, 1), (0x83, 0x00E2, 1), (0x84, 0x00E4, 1),
   (0x85, 0x016F, 1), (0x86, 0x0107, 1), (0x87, 0x00E7, 1), (0x88, 0x0142, 1), (0x89, 0x00EB, 1),
   (0x8A, 0x0150, 2), (0x8C, 0x00EE, 1), (0x8D, 0x0179, 1), (0x8E, 0x00C4, 1), (0x8F, 0x0106, 1),
   (0x90, 0x00C9, 1), (0x91, 0x0139, 2), (0x93, 0x00F4, 1), (0x94, 0x00F6, 1), (0x95, 0x013D, 2),
   (0x97, 0x015A, 2), (0x99, 0x00D6, 1), (0x9A, 0x00DC, 1), (0x9B, 0x0164, 2), (0x9D, 0x0141, 1),
   (0x9E, 0x00D7, 1), (0x9F, 0x010D, 1), (0xA0, 0x00E1, 1), (0xA1, 0x00ED, 1), (0xA2, 0x00F3, 1),
   (0xA3, 0x00FA, 1), (0xA4, 0x0104, 2), (0xA6, 0x017D, 2), (0xA8, 0x0118, 2), (0xAA, 0x00AC, 1),
   (0xAB, 0x017A, 1), (0xAC, 0x010C, 1), (0xAD, 0x015F, 1), (0xAE, 0x00AB, 1), (0xAF, 0x00BB, 1),
   (0xB0, 0x2591, 3), (0xB3, 0x2502, 1), (0xB4, 0x2524, 1), (0xB5, 0x00C1, 2), (0xB7, 0x011A, 1),
   (0xB8, 0x015E, 1), (0xB9, 0x2563, 1), (0xBA, 0x2551, 1), (0xBB, 0x2557, 1), (0xBC, 0x255D, 1),
   (0xBD, 0x017B, 2), (0xBF, 0x2510, 1), (0xC0, 0x2514, 1), (0xC1, 0x2534, 1), (0xC2, 0x252C, 1),
   (0xC3, 0x251C, 1), (0xC4, 0x2500, 1), (0xC5, 0x253C, 1), (0xC6, 0x0102, 2), (0xC8, 0x255A, 1),
   (0xC9, 0x2554, 1), (0xCA, 0x2569, 1), (0xCB, 0x2566, 1), (0xCC, 0x2560, 1), (0xCD, 0x2550, 1),
   (0xCE, 0x256C, 1), (0xCF, 0x00A4, 1), (0xD0, 0x0111, 1), (0xD1, 0x0110, 1), (0xD2, 0x010E, 1),
   (0xD3, 0x00CB, 1), (0xD4, 0x010F, 1), (0xD5, 0x0147, 1), (0xD6, 0x00CD, 2), (0xD8, 0x011B, 1),
   (0xD9, 0x2518, 1), (0xDA, 0x250C, 1), (0xDB, 0x2588, 1), (0xDC, 0x2584, 1), (0xDD, 0x0162, 1),
   (0xDE, 0x016E, 1), (0xDF, 0x2580, 1), (0xE0, 0x00D3, 1), (0xE1, 0x00DF, 1), (0xE2, 0x00D4, 1),
   (0xE3, 0x0143, 2), (0xE5, 0x0148, 1), (0xE6, 0x0160, 2), (0xE8, 0x0154, 1), (0xE9, 0x00DA, 1),
   (0xEA, 0x0155, 1), (0xEB, 0x0170, 1), (0xEC, 0x00FD, 1), (0xED, 0x00DD, 1), (0xEE, 0x0163, 1),
   (0xEF, 0x00B4, 1), (0xF0, 0x00AD, 1), (0xF1, 0x02DD, 1), (0xF2, 0x02DB, 1), (0xF3, 0x02C7, 1),
   (0xF4, 0x02D8, 1), (0xF5, 0x00A7, 1), (0xF6, 0x00F7, 1), (0xF7, 0x00B8, 1), (0xF8, 0x00B0, 1),
   (0xF9, 0x00A8, 1), (0xFA, 0x02D9, 1), (0xFB, 0x0171, 1), (0xFC, 0x0158, 2), (0xFE, 0x25A0, 1),
   (0xFF, 0x00A0, 1)]

/-- The page of IBM 855, for Cyrillic. -/
def ibm855 : Page :=
  [(0x80, 0x0452, 1), (0x81, 0x0402, 1), (0x82, 0x0453, 1), (0x83, 0x0403, 1), (0x84, 0x0451, 1),
   (0x85, 0x0401, 1), (0x86, 0x0454, 1), (0x87, 0x0404, 1), (0x88, 0x0455, 1), (0x89, 0x0405, 1),
   (0x8A, 0x0456, 1), (0x8B, 0x0406, 1), (0x8C, 0x0457, 1), (0x8D, 0x0407, 1), (0x8E, 0x0458, 1),
   (0x8F, 0x0408, 1), (0x90, 0x0459, 1), (0x91, 0x0409, 1), (0x92, 0x045A, 1), (0x93, 0x040A, 1),
   (0x94, 0x045B, 1), (0x95, 0x040B, 1), (0x96, 0x045C, 1), (0x97, 0x040C, 1), (0x98, 0x045E, 1),
   (0x99, 0x040E, 1), (0x9A, 0x045F, 1), (0x9B, 0x040F, 1), (0x9C, 0x044E, 1), (0x9D, 0x042E, 1),
   (0x9E, 0x044A, 1), (0x9F, 0x042A, 1), (0xA0, 0x0430, 1), (0xA1, 0x0410, 1), (0xA2, 0x0431, 1),
   (0xA3, 0x0411, 1), (0xA4, 0x0446, 1), (0xA5, 0x0426, 1), (0xA6, 0x0434, 1), (0xA7, 0x0414, 1),
   (0xA8, 0x0435, 1), (0xA9, 0x0415, 1), (0xAA, 0x0444, 1), (0xAB, 0x0424, 1), (0xAC, 0x0433, 1),
   (0xAD, 0x0413, 1), (0xAE, 0x00AB, 1), (0xAF, 0x00BB, 1), (0xB0, 0x2591, 3), (0xB3, 0x2502, 1),
   (0xB4, 0x2524, 1), (0xB5, 0x0445, 1), (0xB6, 0x0425, 1), (0xB7, 0x0438, 1), (0xB8, 0x0418, 1),
   (0xB9, 0x2563, 1), (0xBA, 0x2551, 1), (0xBB, 0x2557, 1), (0xBC, 0x255D, 1), (0xBD, 0x0439, 1),
   (0xBE, 0x0419, 1), (0xBF, 0x2510, 1), (0xC0, 0x2514, 1), (0xC1, 0x2534, 1), (0xC2, 0x252C, 1),
   (0xC3, 0x251C, 1), (0xC4, 0x2500, 1), (0xC5, 0x253C, 1), (0xC6, 0x043A, 1), (0xC7, 0x041A, 1),
   (0xC8, 0x255A, 1), (0xC9, 0x2554, 1), (0xCA, 0x2569, 1), (0xCB, 0x2566, 1), (0xCC, 0x2560, 1),
   (0xCD, 0x2550, 1), (0xCE, 0x256C, 1), (0xCF, 0x00A4, 1), (0xD0, 0x043B, 1), (0xD1, 0x041B, 1),
   (0xD2, 0x043C, 1), (0xD3, 0x041C, 1), (0xD4, 0x043D, 1), (0xD5, 0x041D, 1), (0xD6, 0x043E, 1),
   (0xD7, 0x041E, 1), (0xD8, 0x043F, 1), (0xD9, 0x2518, 1), (0xDA, 0x250C, 1), (0xDB, 0x2588, 1),
   (0xDC, 0x2584, 1), (0xDD, 0x041F, 1), (0xDE, 0x044F, 1), (0xDF, 0x2580, 1), (0xE0, 0x042F, 1),
   (0xE1, 0x0440, 1), (0xE2, 0x0420, 1), (0xE3, 0x0441, 1), (0xE4, 0x0421, 1), (0xE5, 0x0442, 1),
   (0xE6, 0x0422, 1), (0xE7, 0x0443, 1), (0xE8, 0x0423, 1), (0xE9, 0x0436, 1), (0xEA, 0x0416, 1),
   (0xEB, 0x0432, 1), (0xEC, 0x0412, 1), (0xED, 0x044C, 1), (0xEE, 0x042C, 1), (0xEF, 0x2116, 1),
   (0xF0, 0x00AD, 1), (0xF1, 0x044B, 1), (0xF2, 0x042B, 1), (0xF3, 0x0437, 1), (0xF4, 0x0417, 1),
   (0xF5, 0x0448, 1), (0xF6, 0x0428, 1), (0xF7, 0x044D, 1), (0xF8, 0x042D, 1), (0xF9, 0x0449, 1),
   (0xFA, 0x0429, 1), (0xFB, 0x0447, 1), (0xFC, 0x0427, 1), (0xFD, 0x00A7, 1), (0xFE, 0x25A0, 1),
   (0xFF, 0x00A0, 1)]

/-- The page of IBM 856, for Hebrew. -/
def ibm856 : Page :=
  [(0x80, 0x05D0, 27), (0x9C, 0x00A3, 1), (0x9E, 0x00D7, 1), (0xA9, 0x00AE, 1), (0xAA, 0x00AC, 1),
   (0xAB, 0x00BD, 1), (0xAC, 0x00BC, 1), (0xAE, 0x00AB, 1), (0xAF, 0x00BB, 1), (0xB0, 0x2591, 3),
   (0xB3, 0x2502, 1), (0xB4, 0x2524, 1), (0xB8, 0x00A9, 1), (0xB9, 0x2563, 1), (0xBA, 0x2551, 1),
   (0xBB, 0x2557, 1), (0xBC, 0x255D, 1), (0xBD, 0x00A2, 1), (0xBE, 0x00A5, 1), (0xBF, 0x2510, 1),
   (0xC0, 0x2514, 1), (0xC1, 0x2534, 1), (0xC2, 0x252C, 1), (0xC3, 0x251C, 1), (0xC4, 0x2500, 1),
   (0xC5, 0x253C, 1), (0xC8, 0x255A, 1), (0xC9, 0x2554, 1), (0xCA, 0x2569, 1), (0xCB, 0x2566, 1),
   (0xCC, 0x2560, 1), (0xCD, 0x2550, 1), (0xCE, 0x256C, 1), (0xCF, 0x00A4, 1), (0xD9, 0x2518, 1),
   (0xDA, 0x250C, 1), (0xDB, 0x2588, 1), (0xDC, 0x2584, 1), (0xDD, 0x00A6, 1), (0xDF, 0x2580, 1),
   (0xE6, 0x00B5, 1), (0xEE, 0x00AF, 1), (0xEF, 0x00B4, 1), (0xF0, 0x00AD, 1), (0xF1, 0x00B1, 1),
   (0xF2, 0x2017, 1), (0xF3, 0x00BE, 1), (0xF4, 0x00B6, 1), (0xF5, 0x00A7, 1), (0xF6, 0x00F7, 1),
   (0xF7, 0x00B8, 1), (0xF8, 0x00B0, 1), (0xF9, 0x00A8, 1), (0xFA, 0x00B7, 1), (0xFB, 0x00B9, 1),
   (0xFC, 0x00B3, 1), (0xFD, 0x00B2, 1), (0xFE, 0x25A0, 1), (0xFF, 0x00A0, 1)]

/-- The page of IBM 857, for Turkish. -/
def ibm857 : Page :=
  [(0x80, 0x00C7, 1), (0x81, 0x00FC, 1), (0x82, 0x00E9, 1), (0x83, 0x00E2, 1), (0x84, 0x00E4, 1),
   (0x85, 0x00E0, 1), (0x86, 0x00E5, 1), (0x87, 0x00E7, 1), (0x88, 0x00EA, 2), (0x8A, 0x00E8, 1),
   (0x8B, 0x00EF, 1), (0x8C, 0x00EE, 1), (0x8D, 0x0131, 1), (0x8E, 0x00C4, 2), (0x90, 0x00C9, 1),
   (0x91, 0x00E6, 1), (0x92, 0x00C6, 1), (0x93, 0x00F4, 1), (0x94, 0x00F6, 1), (0x95, 0x00F2, 1),
   (0x96, 0x00FB, 1), (0x97, 0x00F9, 1), (0x98, 0x0130, 1), (0x99, 0x00D6, 1), (0x9A, 0x00DC, 1),
   (0x9B, 0x00F8, 1), (0x9C, 0x00A3, 1), (0x9D, 0x00D8, 1), (0x9E, 0x015E, 2), (0xA0, 0x00E1, 1),
   (0xA1, 0x00ED, 1), (0xA2, 0x00F3, 1), (0xA3, 0x00FA, 1), (0xA4, 0x00F1, 1), (0xA5, 0x00D1, 1),
   (0xA6, 0x011E, 2), (0xA8, 0x00BF, 1), (0xA9, 0x00AE, 1), (0xAA, 0x00AC, 1), (0xAB, 0x00BD, 1),
   (0xAC, 0x00BC, 1), (0xAD, 0x00A1, 1), (0xAE, 0x00AB, 1), (0xAF, 0x00BB, 1), (0xB0, 0x2591, 3),
   (0xB3, 0x2502, 1), (0xB4, 0x2524, 1), (0xB5, 0x00C1, 2), (0xB7, 0x00C0, 1), (0xB8, 0x00A9, 1),
   (0xB9, 0x2563, 1), (0xBA, 0x2551, 1), (0xBB, 0x2557, 1), (0xBC, 0x255D, 1), (0xBD, 0x00A2, 1),
   (0xBE, 0x00A5, 1), (0xBF, 0x2510, 1), (0xC0, 0x2514, 1), (0xC1, 0x2534, 1), (0xC2, 0x252C, 1),
   (0xC3, 0x251C, 1), (0xC4, 0x2500, 1), (0xC5, 0x253C, 1), (0xC6, 0x00E3, 1), (0xC7, 0x00C3, 1),
   (0xC8, 0x255A, 1), (0xC9, 0x2554, 1), (0xCA, 0x2569, 1), (0xCB, 0x2566, 1), (0xCC, 0x2560, 1),
   (0xCD, 0x2550, 1), (0xCE, 0x256C, 1), (0xCF, 0x00A4, 1), (0xD0, 0x00BA, 1), (0xD1, 0x00AA, 1),
   (0xD2, 0x00CA, 2), (0xD4, 0x00C8, 1), (0xD6, 0x00CD, 3), (0xD9, 0x2518, 1), (0xDA, 0x250C, 1),
   (0xDB, 0x2588, 1), (0xDC, 0x2584, 1), (0xDD, 0x00A6, 1), (0xDE, 0x00CC, 1), (0xDF, 0x2580, 1),
   (0xE0, 0x00D3, 1), (0xE1, 0x00DF, 1), (0xE2, 0x00D4, 1), (0xE3, 0x00D2, 1), (0xE4, 0x00F5, 1),
   (0xE5, 0x00D5, 1), (0xE6, 0x00B5, 1), (0xE8, 0x00D7, 1), (0xE9, 0x00DA, 2), (0xEB, 0x00D9, 1),
   (0xEC, 0x00EC, 1), (0xED, 0x00FF, 1), (0xEE, 0x00AF, 1), (0xEF, 0x00B4, 1), (0xF0, 0x00AD, 1),
   (0xF1, 0x00B1, 1), (0xF3, 0x00BE, 1), (0xF4, 0x00B6, 1), (0xF5, 0x00A7, 1), (0xF6, 0x00F7, 1),
   (0xF7, 0x00B8, 1), (0xF8, 0x00B0, 1), (0xF9, 0x00A8, 1), (0xFA, 0x00B7, 1), (0xFB, 0x00B9, 1),
   (0xFC, 0x00B3, 1), (0xFD, 0x00B2, 1), (0xFE, 0x25A0, 1), (0xFF, 0x00A0, 1)]

/-- The page of IBM 858, which is IBM 850 with the sign of the euro. -/
def ibm858 : Page :=
  [(0x80, 0x00C7, 1), (0x81, 0x00FC, 1), (0x82, 0x00E9, 1), (0x83, 0x00E2, 1), (0x84, 0x00E4, 1),
   (0x85, 0x00E0, 1), (0x86, 0x00E5, 1), (0x87, 0x00E7, 1), (0x88, 0x00EA, 2), (0x8A, 0x00E8, 1),
   (0x8B, 0x00EF, 1), (0x8C, 0x00EE, 1), (0x8D, 0x00EC, 1), (0x8E, 0x00C4, 2), (0x90, 0x00C9, 1),
   (0x91, 0x00E6, 1), (0x92, 0x00C6, 1), (0x93, 0x00F4, 1), (0x94, 0x00F6, 1), (0x95, 0x00F2, 1),
   (0x96, 0x00FB, 1), (0x97, 0x00F9, 1), (0x98, 0x00FF, 1), (0x99, 0x00D6, 1), (0x9A, 0x00DC, 1),
   (0x9B, 0x00F8, 1), (0x9C, 0x00A3, 1), (0x9D, 0x00D8, 1), (0x9E, 0x00D7, 1), (0x9F, 0x0192, 1),
   (0xA0, 0x00E1, 1), (0xA1, 0x00ED, 1), (0xA2, 0x00F3, 1), (0xA3, 0x00FA, 1), (0xA4, 0x00F1, 1),
   (0xA5, 0x00D1, 1), (0xA6, 0x00AA, 1), (0xA7, 0x00BA, 1), (0xA8, 0x00BF, 1), (0xA9, 0x00AE, 1),
   (0xAA, 0x00AC, 1), (0xAB, 0x00BD, 1), (0xAC, 0x00BC, 1), (0xAD, 0x00A1, 1), (0xAE, 0x00AB, 1),
   (0xAF, 0x00BB, 1), (0xB0, 0x2591, 3), (0xB3, 0x2502, 1), (0xB4, 0x2524, 1), (0xB5, 0x00C1, 2),
   (0xB7, 0x00C0, 1), (0xB8, 0x00A9, 1), (0xB9, 0x2563, 1), (0xBA, 0x2551, 1), (0xBB, 0x2557, 1),
   (0xBC, 0x255D, 1), (0xBD, 0x00A2, 1), (0xBE, 0x00A5, 1), (0xBF, 0x2510, 1), (0xC0, 0x2514, 1),
   (0xC1, 0x2534, 1), (0xC2, 0x252C, 1), (0xC3, 0x251C, 1), (0xC4, 0x2500, 1), (0xC5, 0x253C, 1),
   (0xC6, 0x00E3, 1), (0xC7, 0x00C3, 1), (0xC8, 0x255A, 1), (0xC9, 0x2554, 1), (0xCA, 0x2569, 1),
   (0xCB, 0x2566, 1), (0xCC, 0x2560, 1), (0xCD, 0x2550, 1), (0xCE, 0x256C, 1), (0xCF, 0x00A4, 1),
   (0xD0, 0x00F0, 1), (0xD1, 0x00D0, 1), (0xD2, 0x00CA, 2), (0xD4, 0x00C8, 1), (0xD5, 0x20AC, 1),
   (0xD6, 0x00CD, 3), (0xD9, 0x2518, 1), (0xDA, 0x250C, 1), (0xDB, 0x2588, 1), (0xDC, 0x2584, 1),
   (0xDD, 0x00A6, 1), (0xDE, 0x00CC, 1), (0xDF, 0x2580, 1), (0xE0, 0x00D3, 1), (0xE1, 0x00DF, 1),
   (0xE2, 0x00D4, 1), (0xE3, 0x00D2, 1), (0xE4, 0x00F5, 1), (0xE5, 0x00D5, 1), (0xE6, 0x00B5, 1),
   (0xE7, 0x00FE, 1), (0xE8, 0x00DE, 1), (0xE9, 0x00DA, 2), (0xEB, 0x00D9, 1), (0xEC, 0x00FD, 1),
   (0xED, 0x00DD, 1), (0xEE, 0x00AF, 1), (0xEF, 0x00B4, 1), (0xF0, 0x00AD, 1), (0xF1, 0x00B1, 1),
   (0xF2, 0x2017, 1), (0xF3, 0x00BE, 1), (0xF4, 0x00B6, 1), (0xF5, 0x00A7, 1), (0xF6, 0x00F7, 1),
   (0xF7, 0x00B8, 1), (0xF8, 0x00B0, 1), (0xF9, 0x00A8, 1), (0xFA, 0x00B7, 1), (0xFB, 0x00B9, 1),
   (0xFC, 0x00B3, 1), (0xFD, 0x00B2, 1), (0xFE, 0x25A0, 1), (0xFF, 0x00A0, 1)]

/-- The page of IBM 860, for Portuguese. -/
def ibm860 : Page :=
  [(0x80, 0x00C7, 1), (0x81, 0x00FC, 1), (0x82, 0x00E9, 1), (0x83, 0x00E2, 2), (0x85, 0x00E0, 1),
   (0x86, 0x00C1, 1), (0x87, 0x00E7, 1), (0x88, 0x00EA, 1), (0x89, 0x00CA, 1), (0x8A, 0x00E8, 1),
   (0x8B, 0x00CD, 1), (0x8C, 0x00D4, 1), (0x8D, 0x00EC, 1), (0x8E, 0x00C3, 1), (0x8F, 0x00C2, 1),
   (0x90, 0x00C9, 1), (0x91, 0x00C0, 1), (0x92, 0x00C8, 1), (0x93, 0x00F4, 2), (0x95, 0x00F2, 1),
   (0x96, 0x00DA, 1), (0x97, 0x00F9, 1), (0x98, 0x00CC, 1), (0x99, 0x00D5, 1), (0x9A, 0x00DC, 1),
   (0x9B, 0x00A2, 2), (0x9D, 0x00D9, 1), (0x9E, 0x20A7, 1), (0x9F, 0x00D3, 1), (0xA0, 0x00E1, 1),
   (0xA1, 0x00ED, 1), (0xA2, 0x00F3, 1), (0xA3, 0x00FA, 1), (0xA4, 0x00F1, 1), (0xA5, 0x00D1, 1),
   (0xA6, 0x00AA, 1), (0xA7, 0x00BA, 1), (0xA8, 0x00BF, 1), (0xA9, 0x00D2, 1), (0xAA, 0x00AC, 1),
   (0xAB, 0x00BD, 1), (0xAC, 0x00BC, 1), (0xAD, 0x00A1, 1), (0xAE, 0x00AB, 1), (0xAF, 0x00BB, 1),
   (0xB0, 0x2591, 3), (0xB3, 0x2502, 1), (0xB4, 0x2524, 1), (0xB5, 0x2561, 2), (0xB7, 0x2556, 1),
   (0xB8, 0x2555, 1), (0xB9, 0x2563, 1), (0xBA, 0x2551, 1), (0xBB, 0x2557, 1), (0xBC, 0x255D, 1),
   (0xBD, 0x255C, 1), (0xBE, 0x255B, 1), (0xBF, 0x2510, 1), (0xC0, 0x2514, 1), (0xC1, 0x2534, 1),
   (0xC2, 0x252C, 1), (0xC3, 0x251C, 1), (0xC4, 0x2500, 1), (0xC5, 0x253C, 1), (0xC6, 0x255E, 2),
   (0xC8, 0x255A, 1), (0xC9, 0x2554, 1), (0xCA, 0x2569, 1), (0xCB, 0x2566, 1), (0xCC, 0x2560, 1),
   (0xCD, 0x2550, 1), (0xCE, 0x256C, 1), (0xCF, 0x2567, 2), (0xD1, 0x2564, 2), (0xD3, 0x2559, 1),
   (0xD4, 0x2558, 1), (0xD5, 0x2552, 2), (0xD7, 0x256B, 1), (0xD8, 0x256A, 1), (0xD9, 0x2518, 1),
   (0xDA, 0x250C, 1), (0xDB, 0x2588, 1), (0xDC, 0x2584, 1), (0xDD, 0x258C, 1), (0xDE, 0x2590, 1),
   (0xDF, 0x2580, 1), (0xE0, 0x03B1, 1), (0xE1, 0x00DF, 1), (0xE2, 0x0393, 1), (0xE3, 0x03C0, 1),
   (0xE4, 0x03A3, 1), (0xE5, 0x03C3, 1), (0xE6, 0x00B5, 1), (0xE7, 0x03C4, 1), (0xE8, 0x03A6, 1),
   (0xE9, 0x0398, 1), (0xEA, 0x03A9, 1), (0xEB, 0x03B4, 1), (0xEC, 0x221E, 1), (0xED, 0x03C6, 1),
   (0xEE, 0x03B5, 1), (0xEF, 0x2229, 1), (0xF0, 0x2261, 1), (0xF1, 0x00B1, 1), (0xF2, 0x2265, 1),
   (0xF3, 0x2264, 1), (0xF4, 0x2320, 2), (0xF6, 0x00F7, 1), (0xF7, 0x2248, 1), (0xF8, 0x00B0, 1),
   (0xF9, 0x2219, 1), (0xFA, 0x00B7, 1), (0xFB, 0x221A, 1), (0xFC, 0x207F, 1), (0xFD, 0x00B2, 1),
   (0xFE, 0x25A0, 1), (0xFF, 0x00A0, 1)]

/-- The page of IBM 861, for Icelandic. -/
def ibm861 : Page :=
  [(0x80, 0x00C7, 1), (0x81, 0x00FC, 1), (0x82, 0x00E9, 1), (0x83, 0x00E2, 1), (0x84, 0x00E4, 1),
   (0x85, 0x00E0, 1), (0x86, 0x00E5, 1), (0x87, 0x00E7, 1), (0x88, 0x00EA, 2), (0x8A, 0x00E8, 1),
   (0x8B, 0x00D0, 1), (0x8C, 0x00F0, 1), (0x8D, 0x00DE, 1), (0x8E, 0x00C4, 2), (0x90, 0x00C9, 1),
   (0x91, 0x00E6, 1), (0x92, 0x00C6, 1), (0x93, 0x00F4, 1), (0x94, 0x00F6, 1), (0x95, 0x00FE, 1),
   (0x96, 0x00FB, 1), (0x97, 0x00DD, 1), (0x98, 0x00FD, 1), (0x99, 0x00D6, 1), (0x9A, 0x00DC, 1),
   (0x9B, 0x00F8, 1), (0x9C, 0x00A3, 1), (0x9D, 0x00D8, 1), (0x9E, 0x20A7, 1), (0x9F, 0x0192, 1),
   (0xA0, 0x00E1, 1), (0xA1, 0x00ED, 1), (0xA2, 0x00F3, 1), (0xA3, 0x00FA, 1), (0xA4, 0x00C1, 1),
   (0xA5, 0x00CD, 1), (0xA6, 0x00D3, 1), (0xA7, 0x00DA, 1), (0xA8, 0x00BF, 1), (0xA9, 0x2310, 1),
   (0xAA, 0x00AC, 1), (0xAB, 0x00BD, 1), (0xAC, 0x00BC, 1), (0xAD, 0x00A1, 1), (0xAE, 0x00AB, 1),
   (0xAF, 0x00BB, 1), (0xB0, 0x2591, 3), (0xB3, 0x2502, 1), (0xB4, 0x2524, 1), (0xB5, 0x2561, 2),
   (0xB7, 0x2556, 1), (0xB8, 0x2555, 1), (0xB9, 0x2563, 1), (0xBA, 0x2551, 1), (0xBB, 0x2557, 1),
   (0xBC, 0x255D, 1), (0xBD, 0x255C, 1), (0xBE, 0x255B, 1), (0xBF, 0x2510, 1), (0xC0, 0x2514, 1),
   (0xC1, 0x2534, 1), (0xC2, 0x252C, 1), (0xC3, 0x251C, 1), (0xC4, 0x2500, 1), (0xC5, 0x253C, 1),
   (0xC6, 0x255E, 2), (0xC8, 0x255A, 1), (0xC9, 0x2554, 1), (0xCA, 0x2569, 1), (0xCB, 0x2566, 1),
   (0xCC, 0x2560, 1), (0xCD, 0x2550, 1), (0xCE, 0x256C, 1), (0xCF, 0x2567, 2), (0xD1, 0x2564, 2),
   (0xD3, 0x2559, 1), (0xD4, 0x2558, 1), (0xD5, 0x2552, 2), (0xD7, 0x256B, 1), (0xD8, 0x256A, 1),
   (0xD9, 0x2518, 1), (0xDA, 0x250C, 1), (0xDB, 0x2588, 1), (0xDC, 0x2584, 1), (0xDD, 0x258C, 1),
   (0xDE, 0x2590, 1), (0xDF, 0x2580, 1), (0xE0, 0x03B1, 1), (0xE1, 0x00DF, 1), (0xE2, 0x0393, 1),
   (0xE3, 0x03C0, 1), (0xE4, 0x03A3, 1), (0xE5, 0x03C3, 1), (0xE6, 0x00B5, 1), (0xE7, 0x03C4, 1),
   (0xE8, 0x03A6, 1), (0xE9, 0x0398, 1), (0xEA, 0x03A9, 1), (0xEB, 0x03B4, 1), (0xEC, 0x221E, 1),
   (0xED, 0x03C6, 1), (0xEE, 0x03B5, 1), (0xEF, 0x2229, 1), (0xF0, 0x2261, 1), (0xF1, 0x00B1, 1),
   (0xF2, 0x2265, 1), (0xF3, 0x2264, 1), (0xF4, 0x2320, 2), (0xF6, 0x00F7, 1), (0xF7, 0x2248, 1),
   (0xF8, 0x00B0, 1), (0xF9, 0x2219, 1), (0xFA, 0x00B7, 1), (0xFB, 0x221A, 1), (0xFC, 0x207F, 1),
   (0xFD, 0x00B2, 1), (0xFE, 0x25A0, 1), (0xFF, 0x00A0, 1)]

/-- The page of IBM 862, for Hebrew. -/
def ibm862 : Page :=
  [(0x80, 0x05D0, 27), (0x9B, 0x00A2, 2), (0x9D, 0x00A5, 1), (0x9E, 0x20A7, 1), (0x9F, 0x0192, 1),
   (0xA0, 0x00E1, 1), (0xA1, 0x00ED, 1), (0xA2, 0x00F3, 1), (0xA3, 0x00FA, 1), (0xA4, 0x00F1, 1),
   (0xA5, 0x00D1, 1), (0xA6, 0x00AA, 1), (0xA7, 0x00BA, 1), (0xA8, 0x00BF, 1), (0xA9, 0x2310, 1),
   (0xAA, 0x00AC, 1), (0xAB, 0x00BD, 1), (0xAC, 0x00BC, 1), (0xAD, 0x00A1, 1), (0xAE, 0x00AB, 1),
   (0xAF, 0x00BB, 1), (0xB0, 0x2591, 3), (0xB3, 0x2502, 1), (0xB4, 0x2524, 1), (0xB5, 0x2561, 2),
   (0xB7, 0x2556, 1), (0xB8, 0x2555, 1), (0xB9, 0x2563, 1), (0xBA, 0x2551, 1), (0xBB, 0x2557, 1),
   (0xBC, 0x255D, 1), (0xBD, 0x255C, 1), (0xBE, 0x255B, 1), (0xBF, 0x2510, 1), (0xC0, 0x2514, 1),
   (0xC1, 0x2534, 1), (0xC2, 0x252C, 1), (0xC3, 0x251C, 1), (0xC4, 0x2500, 1), (0xC5, 0x253C, 1),
   (0xC6, 0x255E, 2), (0xC8, 0x255A, 1), (0xC9, 0x2554, 1), (0xCA, 0x2569, 1), (0xCB, 0x2566, 1),
   (0xCC, 0x2560, 1), (0xCD, 0x2550, 1), (0xCE, 0x256C, 1), (0xCF, 0x2567, 2), (0xD1, 0x2564, 2),
   (0xD3, 0x2559, 1), (0xD4, 0x2558, 1), (0xD5, 0x2552, 2), (0xD7, 0x256B, 1), (0xD8, 0x256A, 1),
   (0xD9, 0x2518, 1), (0xDA, 0x250C, 1), (0xDB, 0x2588, 1), (0xDC, 0x2584, 1), (0xDD, 0x258C, 1),
   (0xDE, 0x2590, 1), (0xDF, 0x2580, 1), (0xE0, 0x03B1, 1), (0xE1, 0x00DF, 1), (0xE2, 0x0393, 1),
   (0xE3, 0x03C0, 1), (0xE4, 0x03A3, 1), (0xE5, 0x03C3, 1), (0xE6, 0x00B5, 1), (0xE7, 0x03C4, 1),
   (0xE8, 0x03A6, 1), (0xE9, 0x0398, 1), (0xEA, 0x03A9, 1), (0xEB, 0x03B4, 1), (0xEC, 0x221E, 1),
   (0xED, 0x03C6, 1), (0xEE, 0x03B5, 1), (0xEF, 0x2229, 1), (0xF0, 0x2261, 1), (0xF1, 0x00B1, 1),
   (0xF2, 0x2265, 1), (0xF3, 0x2264, 1), (0xF4, 0x2320, 2), (0xF6, 0x00F7, 1), (0xF7, 0x2248, 1),
   (0xF8, 0x00B0, 1), (0xF9, 0x2219, 1), (0xFA, 0x00B7, 1), (0xFB, 0x221A, 1), (0xFC, 0x207F, 1),
   (0xFD, 0x00B2, 1), (0xFE, 0x25A0, 1), (0xFF, 0x00A0, 1)]

/-- The page of IBM 863, for French. -/
def ibm863 : Page :=
  [(0x80, 0x00C7, 1), (0x81, 0x00FC, 1), (0x82, 0x00E9, 1), (0x83, 0x00E2, 1), (0x84, 0x00C2, 1),
   (0x85, 0x00E0, 1), (0x86, 0x00B6, 1), (0x87, 0x00E7, 1), (0x88, 0x00EA, 2), (0x8A, 0x00E8, 1),
   (0x8B, 0x00EF, 1), (0x8C, 0x00EE, 1), (0x8D, 0x2017, 1), (0x8E, 0x00C0, 1), (0x8F, 0x00A7, 1),
   (0x90, 0x00C9, 1), (0x91, 0x00C8, 1), (0x92, 0x00CA, 1), (0x93, 0x00F4, 1), (0x94, 0x00CB, 1),
   (0x95, 0x00CF, 1), (0x96, 0x00FB, 1), (0x97, 0x00F9, 1), (0x98, 0x00A4, 1), (0x99, 0x00D4, 1),
   (0x9A, 0x00DC, 1), (0x9B, 0x00A2, 2), (0x9D, 0x00D9, 1), (0x9E, 0x00DB, 1), (0x9F, 0x0192, 1),
   (0xA0, 0x00A6, 1), (0xA1, 0x00B4, 1), (0xA2, 0x00F3, 1), (0xA3, 0x00FA, 1), (0xA4, 0x00A8, 1),
   (0xA5, 0x00B8, 1), (0xA6, 0x00B3, 1), (0xA7, 0x00AF, 1), (0xA8, 0x00CE, 1), (0xA9, 0x2310, 1),
   (0xAA, 0x00AC, 1), (0xAB, 0x00BD, 1), (0xAC, 0x00BC, 1), (0xAD, 0x00BE, 1), (0xAE, 0x00AB, 1),
   (0xAF, 0x00BB, 1), (0xB0, 0x2591, 3), (0xB3, 0x2502, 1), (0xB4, 0x2524, 1), (0xB5, 0x2561, 2),
   (0xB7, 0x2556, 1), (0xB8, 0x2555, 1), (0xB9, 0x2563, 1), (0xBA, 0x2551, 1), (0xBB, 0x2557, 1),
   (0xBC, 0x255D, 1), (0xBD, 0x255C, 1), (0xBE, 0x255B, 1), (0xBF, 0x2510, 1), (0xC0, 0x2514, 1),
   (0xC1, 0x2534, 1), (0xC2, 0x252C, 1), (0xC3, 0x251C, 1), (0xC4, 0x2500, 1), (0xC5, 0x253C, 1),
   (0xC6, 0x255E, 2), (0xC8, 0x255A, 1), (0xC9, 0x2554, 1), (0xCA, 0x2569, 1), (0xCB, 0x2566, 1),
   (0xCC, 0x2560, 1), (0xCD, 0x2550, 1), (0xCE, 0x256C, 1), (0xCF, 0x2567, 2), (0xD1, 0x2564, 2),
   (0xD3, 0x2559, 1), (0xD4, 0x2558, 1), (0xD5, 0x2552, 2), (0xD7, 0x256B, 1), (0xD8, 0x256A, 1),
   (0xD9, 0x2518, 1), (0xDA, 0x250C, 1), (0xDB, 0x2588, 1), (0xDC, 0x2584, 1), (0xDD, 0x258C, 1),
   (0xDE, 0x2590, 1), (0xDF, 0x2580, 1), (0xE0, 0x03B1, 1), (0xE1, 0x00DF, 1), (0xE2, 0x0393, 1),
   (0xE3, 0x03C0, 1), (0xE4, 0x03A3, 1), (0xE5, 0x03C3, 1), (0xE6, 0x00B5, 1), (0xE7, 0x03C4, 1),
   (0xE8, 0x03A6, 1), (0xE9, 0x0398, 1), (0xEA, 0x03A9, 1), (0xEB, 0x03B4, 1), (0xEC, 0x221E, 1),
   (0xED, 0x03C6, 1), (0xEE, 0x03B5, 1), (0xEF, 0x2229, 1), (0xF0, 0x2261, 1), (0xF1, 0x00B1, 1),
   (0xF2, 0x2265, 1), (0xF3, 0x2264, 1), (0xF4, 0x2320, 2), (0xF6, 0x00F7, 1), (0xF7, 0x2248, 1),
   (0xF8, 0x00B0, 1), (0xF9, 0x2219, 1), (0xFA, 0x00B7, 1), (0xFB, 0x221A, 1), (0xFC, 0x207F, 1),
   (0xFD, 0x00B2, 1), (0xFE, 0x25A0, 1), (0xFF, 0x00A0, 1)]

/-- The page of IBM 864, for Arabic, on which the percent sign is an Arabic one. -/
def ibm864 : Page :=
  [(0x25, 0x066A, 1), (0x80, 0x00B0, 1), (0x81, 0x00B7, 1), (0x82, 0x2219, 2), (0x84, 0x2592, 1),
   (0x85, 0x2500, 1), (0x86, 0x2502, 1), (0x87, 0x253C, 1), (0x88, 0x2524, 1), (0x89, 0x252C, 1),
   (0x8A, 0x251C, 1), (0x8B, 0x2534, 1), (0x8C, 0x2510, 1), (0x8D, 0x250C, 1), (0x8E, 0x2514, 1),
   (0x8F, 0x2518, 1), (0x90, 0x03B2, 1), (0x91, 0x221E, 1), (0x92, 0x03C6, 1), (0x93, 0x00B1, 1),
   (0x94, 0x00BD, 1), (0x95, 0x00BC, 1), (0x96, 0x2248, 1), (0x97, 0x00AB, 1), (0x98, 0x00BB, 1),
   (0x99, 0xFEF7, 2), (0x9D, 0xFEFB, 2), (0xA0, 0x00A0, 1), (0xA1, 0x00AD, 1), (0xA2, 0xFE82, 1),
   (0xA3, 0x00A3, 2), (0xA5, 0xFE84, 1), (0xA8, 0xFE8E, 2), (0xAA, 0xFE95, 1), (0xAB, 0xFE99, 1),
   (0xAC, 0x060C, 1), (0xAD, 0xFE9D, 1), (0xAE, 0xFEA1, 1), (0xAF, 0xFEA5, 1), (0xB0, 0x0660, 10),
   (0xBA, 0xFED1, 1), (0xBB, 0x061B, 1), (0xBC, 0xFEB1, 1), (0xBD, 0xFEB5, 1), (0xBE, 0xFEB9, 1),
   (0xBF, 0x061F, 1), (0xC0, 0x00A2, 1), (0xC1, 0xFE80, 2), (0xC3, 0xFE83, 1), (0xC4, 0xFE85, 1),
   (0xC5, 0xFECA, 1), (0xC6, 0xFE8B, 1), (0xC7, 0xFE8D, 1), (0xC8, 0xFE91, 1), (0xC9, 0xFE93, 1),
   (0xCA, 0xFE97, 1), (0xCB, 0xFE9B, 1), (0xCC, 0xFE9F, 1), (0xCD, 0xFEA3, 1), (0xCE, 0xFEA7, 1),
   (0xCF, 0xFEA9, 1), (0xD0, 0xFEAB, 1), (0xD1, 0xFEAD, 1), (0xD2, 0xFEAF, 1), (0xD3, 0xFEB3, 1),
   (0xD4, 0xFEB7, 1), (0xD5, 0xFEBB, 1), (0xD6, 0xFEBF, 1), (0xD7, 0xFEC1, 1), (0xD8, 0xFEC5, 1),
   (0xD9, 0xFECB, 1), (0xDA, 0xFECF, 1), (0xDB, 0x00A6, 1), (0xDC, 0x00AC, 1), (0xDD, 0x00F7, 1),
   (0xDE, 0x00D7, 1), (0xDF, 0xFEC9, 1), (0xE0, 0x0640, 1), (0xE1, 0xFED3, 1), (0xE2, 0xFED7, 1),
   (0xE3, 0xFEDB, 1), (0xE4, 0xFEDF, 1), (0xE5, 0xFEE3, 1), (0xE6, 0xFEE7, 1), (0xE7, 0xFEEB, 1),
   (0xE8, 0xFEED, 1), (0xE9, 0xFEEF, 1), (0xEA, 0xFEF3, 1), (0xEB, 0xFEBD, 1), (0xEC, 0xFECC, 1),
   (0xED, 0xFECE, 1), (0xEE, 0xFECD, 1), (0xEF, 0xFEE1, 1), (0xF0, 0xFE7D, 1), (0xF1, 0x0651, 1),
   (0xF2, 0xFEE5, 1), (0xF3, 0xFEE9, 1), (0xF4, 0xFEEC, 1), (0xF5, 0xFEF0, 1), (0xF6, 0xFEF2, 1),
   (0xF7, 0xFED0, 1), (0xF8, 0xFED5, 1), (0xF9, 0xFEF5, 2), (0xFB, 0xFEDD, 1), (0xFC, 0xFED9, 1),
   (0xFD, 0xFEF1, 1), (0xFE, 0x25A0, 1)]

/-- The page of IBM 865, for Danish and Norwegian. -/
def ibm865 : Page :=
  [(0x80, 0x00C7, 1), (0x81, 0x00FC, 1), (0x82, 0x00E9, 1), (0x83, 0x00E2, 1), (0x84, 0x00E4, 1),
   (0x85, 0x00E0, 1), (0x86, 0x00E5, 1), (0x87, 0x00E7, 1), (0x88, 0x00EA, 2), (0x8A, 0x00E8, 1),
   (0x8B, 0x00EF, 1), (0x8C, 0x00EE, 1), (0x8D, 0x00EC, 1), (0x8E, 0x00C4, 2), (0x90, 0x00C9, 1),
   (0x91, 0x00E6, 1), (0x92, 0x00C6, 1), (0x93, 0x00F4, 1), (0x94, 0x00F6, 1), (0x95, 0x00F2, 1),
   (0x96, 0x00FB, 1), (0x97, 0x00F9, 1), (0x98, 0x00FF, 1), (0x99, 0x00D6, 1), (0x9A, 0x00DC, 1),
   (0x9B, 0x00F8, 1), (0x9C, 0x00A3, 1), (0x9D, 0x00D8, 1), (0x9E, 0x20A7, 1), (0x9F, 0x0192, 1),
   (0xA0, 0x00E1, 1), (0xA1, 0x00ED, 1), (0xA2, 0x00F3, 1), (0xA3, 0x00FA, 1), (0xA4, 0x00F1, 1),
   (0xA5, 0x00D1, 1), (0xA6, 0x00AA, 1), (0xA7, 0x00BA, 1), (0xA8, 0x00BF, 1), (0xA9, 0x2310, 1),
   (0xAA, 0x00AC, 1), (0xAB, 0x00BD, 1), (0xAC, 0x00BC, 1), (0xAD, 0x00A1, 1), (0xAE, 0x00AB, 1),
   (0xAF, 0x00A4, 1), (0xB0, 0x2591, 3), (0xB3, 0x2502, 1), (0xB4, 0x2524, 1), (0xB5, 0x2561, 2),
   (0xB7, 0x2556, 1), (0xB8, 0x2555, 1), (0xB9, 0x2563, 1), (0xBA, 0x2551, 1), (0xBB, 0x2557, 1),
   (0xBC, 0x255D, 1), (0xBD, 0x255C, 1), (0xBE, 0x255B, 1), (0xBF, 0x2510, 1), (0xC0, 0x2514, 1),
   (0xC1, 0x2534, 1), (0xC2, 0x252C, 1), (0xC3, 0x251C, 1), (0xC4, 0x2500, 1), (0xC5, 0x253C, 1),
   (0xC6, 0x255E, 2), (0xC8, 0x255A, 1), (0xC9, 0x2554, 1), (0xCA, 0x2569, 1), (0xCB, 0x2566, 1),
   (0xCC, 0x2560, 1), (0xCD, 0x2550, 1), (0xCE, 0x256C, 1), (0xCF, 0x2567, 2), (0xD1, 0x2564, 2),
   (0xD3, 0x2559, 1), (0xD4, 0x2558, 1), (0xD5, 0x2552, 2), (0xD7, 0x256B, 1), (0xD8, 0x256A, 1),
   (0xD9, 0x2518, 1), (0xDA, 0x250C, 1), (0xDB, 0x2588, 1), (0xDC, 0x2584, 1), (0xDD, 0x258C, 1),
   (0xDE, 0x2590, 1), (0xDF, 0x2580, 1), (0xE0, 0x03B1, 1), (0xE1, 0x00DF, 1), (0xE2, 0x0393, 1),
   (0xE3, 0x03C0, 1), (0xE4, 0x03A3, 1), (0xE5, 0x03C3, 1), (0xE6, 0x00B5, 1), (0xE7, 0x03C4, 1),
   (0xE8, 0x03A6, 1), (0xE9, 0x0398, 1), (0xEA, 0x03A9, 1), (0xEB, 0x03B4, 1), (0xEC, 0x221E, 1),
   (0xED, 0x03C6, 1), (0xEE, 0x03B5, 1), (0xEF, 0x2229, 1), (0xF0, 0x2261, 1), (0xF1, 0x00B1, 1),
   (0xF2, 0x2265, 1), (0xF3, 0x2264, 1), (0xF4, 0x2320, 2), (0xF6, 0x00F7, 1), (0xF7, 0x2248, 1),
   (0xF8, 0x00B0, 1), (0xF9, 0x2219, 1), (0xFA, 0x00B7, 1), (0xFB, 0x221A, 1), (0xFC, 0x207F, 1),
   (0xFD, 0x00B2, 1), (0xFE, 0x25A0, 1), (0xFF, 0x00A0, 1)]

/-- The page of IBM 866, for Russian. -/
def ibm866 : Page :=
  [(0x80, 0x0410, 48), (0xB0, 0x2591, 3), (0xB3, 0x2502, 1), (0xB4, 0x2524, 1), (0xB5, 0x2561, 2),
   (0xB7, 0x2556, 1), (0xB8, 0x2555, 1), (0xB9, 0x2563, 1), (0xBA, 0x2551, 1), (0xBB, 0x2557, 1),
   (0xBC, 0x255D, 1), (0xBD, 0x255C, 1), (0xBE, 0x255B, 1), (0xBF, 0x2510, 1), (0xC0, 0x2514, 1),
   (0xC1, 0x2534, 1), (0xC2, 0x252C, 1), (0xC3, 0x251C, 1), (0xC4, 0x2500, 1), (0xC5, 0x253C, 1),
   (0xC6, 0x255E, 2), (0xC8, 0x255A, 1), (0xC9, 0x2554, 1), (0xCA, 0x2569, 1), (0xCB, 0x2566, 1),
   (0xCC, 0x2560, 1), (0xCD, 0x2550, 1), (0xCE, 0x256C, 1), (0xCF, 0x2567, 2), (0xD1, 0x2564, 2),
   (0xD3, 0x2559, 1), (0xD4, 0x2558, 1), (0xD5, 0x2552, 2), (0xD7, 0x256B, 1), (0xD8, 0x256A, 1),
   (0xD9, 0x2518, 1), (0xDA, 0x250C, 1), (0xDB, 0x2588, 1), (0xDC, 0x2584, 1), (0xDD, 0x258C, 1),
   (0xDE, 0x2590, 1), (0xDF, 0x2580, 1), (0xE0, 0x0440, 16), (0xF0, 0x0401, 1), (0xF1, 0x0451, 1),
   (0xF2, 0x0404, 1), (0xF3, 0x0454, 1), (0xF4, 0x0407, 1), (0xF5, 0x0457, 1), (0xF6, 0x040E, 1),
   (0xF7, 0x045E, 1), (0xF8, 0x00B0, 1), (0xF9, 0x2219, 1), (0xFA, 0x00B7, 1), (0xFB, 0x221A, 1),
   (0xFC, 0x2116, 1), (0xFD, 0x00A4, 1), (0xFE, 0x25A0, 1), (0xFF, 0x00A0, 1)]

/-- The page of IBM 869, for Greek. -/
def ibm869 : Page :=
  [(0x86, 0x0386, 1), (0x88, 0x00B7, 1), (0x89, 0x00AC, 1), (0x8A, 0x00A6, 1), (0x8B, 0x2018, 2),
   (0x8D, 0x0388, 1), (0x8E, 0x2015, 1), (0x8F, 0x0389, 2), (0x91, 0x03AA, 1), (0x92, 0x038C, 1),
   (0x95, 0x038E, 1), (0x96, 0x03AB, 1), (0x97, 0x00A9, 1), (0x98, 0x038F, 1), (0x99, 0x00B2, 2),
   (0x9B, 0x03AC, 1), (0x9C, 0x00A3, 1), (0x9D, 0x03AD, 3), (0xA0, 0x03CA, 1), (0xA1, 0x0390, 1),
   (0xA2, 0x03CC, 2), (0xA4, 0x0391, 7), (0xAB, 0x00BD, 1), (0xAC, 0x0398, 2), (0xAE, 0x00AB, 1),
   (0xAF, 0x00BB, 1), (0xB0, 0x2591, 3), (0xB3, 0x2502, 1), (0xB4, 0x2524, 1), (0xB5, 0x039A, 4),
   (0xB9, 0x2563, 1), (0xBA, 0x2551, 1), (0xBB, 0x2557, 1), (0xBC, 0x255D, 1), (0xBD, 0x039E, 2),
   (0xBF, 0x2510, 1), (0xC0, 0x2514, 1), (0xC1, 0x2534, 1), (0xC2, 0x252C, 1), (0xC3, 0x251C, 1),
   (0xC4, 0x2500, 1), (0xC5, 0x253C, 1), (0xC6, 0x03A0, 2), (0xC8, 0x255A, 1), (0xC9, 0x2554, 1),
   (0xCA, 0x2569, 1), (0xCB, 0x2566, 1), (0xCC, 0x2560, 1), (0xCD, 0x2550, 1), (0xCE, 0x256C, 1),
   (0xCF, 0x03A3, 7), (0xD6, 0x03B1, 3), (0xD9, 0x2518, 1), (0xDA, 0x250C, 1), (0xDB, 0x2588, 1),
   (0xDC, 0x2584, 1), (0xDD, 0x03B4, 2), (0xDF, 0x2580, 1), (0xE0, 0x03B6, 12), (0xEC, 0x03C3, 1),
   (0xED, 0x03C2, 1), (0xEE, 0x03C4, 1), (0xEF, 0x0384, 1), (0xF0, 0x00AD, 1), (0xF1, 0x00B1, 1),
   (0xF2, 0x03C5, 3), (0xF5, 0x00A7, 1), (0xF6, 0x03C8, 1), (0xF7, 0x0385, 1), (0xF8, 0x00B0, 1),
   (0xF9, 0x00A8, 1), (0xFA, 0x03C9, 1), (0xFB, 0x03CB, 1), (0xFC, 0x03B0, 1), (0xFD, 0x03CE, 1),
   (0xFE, 0x25A0, 1), (0xFF, 0x00A0, 1)]

/-- The page of IBM 1006, for Urdu. -/
def ibm1006 : Page :=
  [(0x80, 0x0080, 33), (0xA1, 0x06F0, 10), (0xAB, 0x060C, 1), (0xAC, 0x061B, 1), (0xAD, 0x00AD, 1),
   (0xAE, 0x061F, 1), (0xAF, 0xFE81, 1), (0xB0, 0xFE8D, 2), (0xB2, 0xFE8E, 2), (0xB4, 0xFE91, 1),
   (0xB5, 0xFB56, 1), (0xB6, 0xFB58, 1), (0xB7, 0xFE93, 1), (0xB8, 0xFE95, 1), (0xB9, 0xFE97, 1),
   (0xBA, 0xFB66, 1), (0xBB, 0xFB68, 1), (0xBC, 0xFE99, 1), (0xBD, 0xFE9B, 1), (0xBE, 0xFE9D, 1),
   (0xBF, 0xFE9F, 1), (0xC0, 0xFB7A, 1), (0xC1, 0xFB7C, 1), (0xC2, 0xFEA1, 1), (0xC3, 0xFEA3, 1),
   (0xC4, 0xFEA5, 1), (0xC5, 0xFEA7, 1), (0xC6, 0xFEA9, 1), (0xC7, 0xFB84, 1), (0xC8, 0xFEAB, 1),
   (0xC9, 0xFEAD, 1), (0xCA, 0xFB8C, 1), (0xCB, 0xFEAF, 1), (0xCC, 0xFB8A, 1), (0xCD, 0xFEB1, 1),
   (0xCE, 0xFEB3, 1), (0xCF, 0xFEB5, 1), (0xD0, 0xFEB7, 1), (0xD1, 0xFEB9, 1), (0xD2, 0xFEBB, 1),
   (0xD3, 0xFEBD, 1), (0xD4, 0xFEBF, 1), (0xD5, 0xFEC1, 1), (0xD6, 0xFEC5, 1), (0xD7, 0xFEC9, 9),
   (0xE0, 0xFED3, 1), (0xE1, 0xFED5, 1), (0xE2, 0xFED7, 1), (0xE3, 0xFED9, 1), (0xE4, 0xFEDB, 1),
   (0xE5, 0xFB92, 1), (0xE6, 0xFB94, 1), (0xE7, 0xFEDD, 1), (0xE8, 0xFEDF, 3), (0xEB, 0xFEE3, 1),
   (0xEC, 0xFB9E, 1), (0xED, 0xFEE5, 1), (0xEE, 0xFEE7, 1), (0xEF, 0xFE85, 1), (0xF0, 0xFEED, 1),
   (0xF1, 0xFBA6, 1), (0xF2, 0xFBA8, 3), (0xF5, 0xFE80, 1), (0xF6, 0xFE89, 3), (0xF9, 0xFEF1, 3),
   (0xFC, 0xFBB0, 1), (0xFD, 0xFBAE, 1), (0xFE, 0xFE7C, 2)]

/-- The page of IBM 1125, for Ukrainian. -/
def ibm1125 : Page :=
  [(0x80, 0x0410, 48), (0xB0, 0x2591, 3), (0xB3, 0x2502, 1), (0xB4, 0x2524, 1), (0xB5, 0x2561, 2),
   (0xB7, 0x2556, 1), (0xB8, 0x2555, 1), (0xB9, 0x2563, 1), (0xBA, 0x2551, 1), (0xBB, 0x2557, 1),
   (0xBC, 0x255D, 1), (0xBD, 0x255C, 1), (0xBE, 0x255B, 1), (0xBF, 0x2510, 1), (0xC0, 0x2514, 1),
   (0xC1, 0x2534, 1), (0xC2, 0x252C, 1), (0xC3, 0x251C, 1), (0xC4, 0x2500, 1), (0xC5, 0x253C, 1),
   (0xC6, 0x255E, 2), (0xC8, 0x255A, 1), (0xC9, 0x2554, 1), (0xCA, 0x2569, 1), (0xCB, 0x2566, 1),
   (0xCC, 0x2560, 1), (0xCD, 0x2550, 1), (0xCE, 0x256C, 1), (0xCF, 0x2567, 2), (0xD1, 0x2564, 2),
   (0xD3, 0x2559, 1), (0xD4, 0x2558, 1), (0xD5, 0x2552, 2), (0xD7, 0x256B, 1), (0xD8, 0x256A, 1),
   (0xD9, 0x2518, 1), (0xDA, 0x250C, 1), (0xDB, 0x2588, 1), (0xDC, 0x2584, 1), (0xDD, 0x258C, 1),
   (0xDE, 0x2590, 1), (0xDF, 0x2580, 1), (0xE0, 0x0440, 16), (0xF0, 0x0401, 1), (0xF1, 0x0451, 1),
   (0xF2, 0x0490, 2), (0xF4, 0x0404, 1), (0xF5, 0x0454, 1), (0xF6, 0x0406, 1), (0xF7, 0x0456, 1),
   (0xF8, 0x0407, 1), (0xF9, 0x0457, 1), (0xFA, 0x00B7, 1), (0xFB, 0x221A, 1), (0xFC, 0x2116, 1),
   (0xFD, 0x00A4, 1), (0xFE, 0x25A0, 1), (0xFF, 0x00A0, 1)]

end Page
end DocMarkup
