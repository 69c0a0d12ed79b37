import DocMarkup.Encoding.Page

/-!
# Mac code pages
-/

namespace DocMarkup
namespace Page

/-- The page of Mac Arabic. -/
def macArabic : Page :=
  [(0x80, 0x00C4, 1), (0x81, 0x00A0, 1), (0x82, 0x00C7, 1), (0x83, 0x00C9, 1), (0x84, 0x00D1, 1),
   (0x85, 0x00D6, 1), (0x86, 0x00DC, 1), (0x87, 0x00E1, 1), (0x88, 0x00E0, 1), (0x89, 0x00E2, 1),
   (0x8A, 0x00E4, 1), (0x8B, 0x06BA, 1), (0x8C, 0x00AB, 1), (0x8D, 0x00E7, 1), (0x8E, 0x00E9, 1),
   (0x8F, 0x00E8, 1), (0x90, 0x00EA, 2), (0x92, 0x00ED, 1), (0x93, 0x2026, 1), (0x94, 0x00EE, 2),
   (0x96, 0x00F1, 1), (0x97, 0x00F3, 1), (0x98, 0x00BB, 1), (0x99, 0x00F4, 1), (0x9A, 0x00F6, 2),
   (0x9C, 0x00FA, 1), (0x9D, 0x00F9, 1), (0x9E, 0x00FB, 2), (0xA0, 0x0020, 5), (0xA5, 0x066A, 1),
   (0xA6, 0x0026, 6), (0xAC, 0x060C, 1), (0xAD, 0x002D, 3), (0xB0, 0x0660, 10), (0xBA, 0x003A, 1),
   (0xBB, 0x061B, 1), (0xBC, 0x003C, 3), (0xBF, 0x061F, 1), (0xC0, 0x274A, 1), (0xC1, 0x0621, 26),
   (0xDB, 0x005B, 5), (0xE0, 0x0640, 19), (0xF3, 0x067E, 1), (0xF4, 0x0679, 1), (0xF5, 0x0686, 1),
   (0xF6, 0x06D5, 1), (0xF7, 0x06A4, 1), (0xF8, 0x06AF, 1), (0xF9, 0x0688, 1), (0xFA, 0x0691, 1),
   (0xFB, 0x007B, 3), (0xFE, 0x0698, 1), (0xFF, 0x06D2, 1)]

/-- The page of Mac Croatian. -/
def macCroatian : Page :=
  [(0x80, 0x00C4, 2), (0x82, 0x00C7, 1), (0x83, 0x00C9, 1), (0x84, 0x00D1, 1), (0x85, 0x00D6, 1),
   (0x86, 0x00DC, 1), (0x87, 0x00E1, 1), (0x88, 0x00E0, 1), (0x89, 0x00E2, 1), (0x8A, 0x00E4, 1),
   (0x8B, 0x00E3, 1), (0x8C, 0x00E5, 1), (0x8D, 0x00E7, 1), (0x8E, 0x00E9, 1), (0x8F, 0x00E8, 1),
   (0x90, 0x00EA, 2), (0x92, 0x00ED, 1), (0x93, 0x00EC, 1), (0x94, 0x00EE, 2), (0x96, 0x00F1, 1),
   (0x97, 0x00F3, 1), (0x98, 0x00F2, 1), (0x99, 0x00F4, 1), (0x9A, 0x00F6, 1), (0x9B, 0x00F5, 1),
   (0x9C, 0x00FA, 1), (0x9D, 0x00F9, 1), (0x9E, 0x00FB, 2), (0xA0, 0x2020, 1), (0xA1, 0x00B0, 1),
   (0xA2, 0x00A2, 2), (0xA4, 0x00A7, 1), (0xA5, 0x2022, 1), (0xA6, 0x00B6, 1), (0xA7, 0x00DF, 1),
   (0xA8, 0x00AE, 1), (0xA9, 0x0160, 1), (0xAA, 0x2122, 1), (0xAB, 0x00B4, 1), (0xAC, 0x00A8, 1),
   (0xAD, 0x2260, 1), (0xAE, 0x017D, 1), (0xAF, 0x00D8, 1), (0xB0, 0x221E, 1), (0xB1, 0x00B1, 1),
   (0xB2, 0x2264, 2), (0xB4, 0x2206, 1), (0xB5, 0x00B5, 1), (0xB6, 0x2202, 1), (0xB7, 0x2211, 1),
   (0xB8, 0x220F, 1), (0xB9, 0x0161, 1), (0xBA, 0x222B, 1), (0xBB, 0x00AA, 1), (0xBC, 0x00BA, 1),
   (0xBD, 0x03A9, 1), (0xBE, 0x017E, 1), (0xBF, 0x00F8, 1), (0xC0, 0x00BF, 1), (0xC1, 0x00A1, 1),
   (0xC2, 0x00AC, 1), (0xC3, 0x221A, 1), (0xC4, 0x0192, 1), (0xC5, 0x2248, 1), (0xC6, 0x0106, 1),
   (0xC7, 0x00AB, 1), (0xC8, 0x010C, 1), (0xC9, 0x2026, 1), (0xCA, 0x00A0, 1), (0xCB, 0x00C0, 1),
   (0xCC, 0x00C3, 1), (0xCD, 0x00D5, 1), (0xCE, 0x0152, 2), (0xD0, 0x0110, 1), (0xD1, 0x2014, 1),
   (0xD2, 0x201C, 2), (0xD4, 0x2018, 2), (0xD6, 0x00F7, 1), (0xD7, 0x25CA, 1), (0xD8, 0xF8FF, 1),
   (0xD9, 0x00A9, 1), (0xDA, 0x2044, 1), (0xDB, 0x20AC, 1), (0xDC, 0x2039, 2), (0xDE, 0x00C6, 1),
   (0xDF, 0x00BB, 1), (0xE0, 0x2013, 1), (0xE1, 0x00B7, 1), (0xE2, 0x201A, 1), (0xE3, 0x201E, 1),
   (0xE4, 0x2030, 1), (0xE5, 0x00C2, 1), (0xE6, 0x0107, 1), (0xE7, 0x00C1, 1), (0xE8, 0x010D, 1),
   (0xE9, 0x00C8, 1), (0xEA, 0x00CD, 3), (0xED, 0x00CC, 1), (0xEE, 0x00D3, 2), (0xF0, 0x0111, 1),
   (0xF1, 0x00D2, 1), (0xF2, 0x00DA, 2), (0xF4, 0x00D9, 1), (0xF5, 0x0131, 1), (0xF6, 0x02C6, 1),
   (0xF7, 0x02DC, 1), (0xF8, 0x00AF, 1), (0xF9, 0x03C0, 1), (0xFA, 0x00CB, 1), (0xFB, 0x02DA, 1),
   (0xFC, 0x00B8, 1), (0xFD, 0x00CA, 1), (0xFE, 0x00E6, 1), (0xFF, 0x02C7, 1)]

/-- The page of Mac Cyrillic. -/
def macCyrillic : Page :=
  [(0x80, 0x0410, 32), (0xA0, 0x2020, 1), (0xA1, 0x00B0, 1), (0xA2, 0x0490, 1), (0xA3, 0x00A3, 1),
   (0xA4, 0x00A7, 1), (0xA5, 0x2022, 1), (0xA6, 0x00B6, 1), (0xA7, 0x0406, 1), (0xA8, 0x00AE, 1),
   (0xA9, 0x00A9, 1), (0xAA, 0x2122, 1), (0xAB, 0x0402, 1), (0xAC, 0x0452, 1), (0xAD, 0x2260, 1),
   (0xAE, 0x0403, 1), (0xAF, 0x0453, 1), (0xB0, 0x221E, 1), (0xB1, 0x00B1, 1), (0xB2, 0x2264, 2),
   (0xB4, 0x0456, 1), (0xB5, 0x00B5, 1), (0xB6, 0x0491, 1), (0xB7, 0x0408, 1), (0xB8, 0x0404, 1),
   (0xB9, 0x0454, 1), (0xBA, 0x0407, 1), (0xBB, 0x0457, 1), (0xBC, 0x0409, 1), (0xBD, 0x0459, 1),
   (0xBE, 0x040A, 1), (0xBF, 0x045A, 1), (0xC0, 0x0458, 1), (0xC1, 0x0405, 1), (0xC2, 0x00AC, 1),
   (0xC3, 0x221A, 1), (0xC4, 0x0192, 1), (0xC5, 0x2248, 1), (0xC6, 0x2206, 1), (0xC7, 0x00AB, 1),
   (0xC8, 0x00BB, 1), (0xC9, 0x2026, 1), (0xCA, 0x00A0, 1), (0xCB, 0x040B, 1), (0xCC, 0x045B, 1),
   (0xCD, 0x040C, 1), (0xCE, 0x045C, 1), (0xCF, 0x0455, 1), (0xD0, 0x2013, 2), (0xD2, 0x201C, 2),
   (0xD4, 0x2018, 2), (0xD6, 0x00F7, 1), (0xD7, 0x201E, 1), (0xD8, 0x040E, 1), (0xD9, 0x045E, 1),
   (0xDA, 0x040F, 1), (0xDB, 0x045F, 1), (0xDC, 0x2116, 1), (0xDD, 0x0401, 1), (0xDE, 0x0451, 1),
   (0xDF, 0x044F, 1), (0xE0, 0x0430, 31), (0xFF, 0x20AC, 1)]

/-- The page of Mac Farsi. -/
def macFarsi : Page :=
  [(0x80, 0x00C4, 1), (0x81, 0x00A0, 1), (0x82, 0x00C7, 1), (0x83, 0x00C9, 1), (0x84, 0x00D1, 1),
   (0x85, 0x00D6, 1), (0x86, 0x00DC, 1), (0x87, 0x00E1, 1), (0x88, 0x00E0, 1), (0x89, 0x00E2, 1),
   (0x8A, 0x00E4, 1), (0x8B, 0x06BA, 1), (0x8C, 0x00AB, 1), (0x8D, 0x00E7, 1), (0x8E, 0x00E9, 1),
   (0x8F, 0x00E8, 1), (0x90, 0x00EA, 2), (0x92, 0x00ED, 1), (0x93, 0x2026, 1), (0x94, 0x00EE, 2),
   (0x96, 0x00F1, 1), (0x97, 0x00F3, 1), (0x98, 0x00BB, 1), (0x99, 0x00F4, 1), (0x9A, 0x00F6, 2),
   (0x9C, 0x00FA, 1), (0x9D, 0x00F9, 1), (0x9E, 0x00FB, 2), (0xA0, 0x0020, 5), (0xA5, 0x066A, 1),
   (0xA6, 0x0026, 6), (0xAC, 0x060C, 1), (0xAD, 0x002D, 3), (0xB0, 0x06F0, 10), (0xBA, 0x003A, 1),
   (0xBB, 0x061B, 1), (0xBC, 0x003C, 3), (0xBF, 0x061F, 1), (0xC0, 0x274A, 1), (0xC1, 0x0621, 26),
   (0xDB, 0x005B, 5), (0xE0, 0x0640, 19), (0xF3, 0x067E, 1), (0xF4, 0x0679, 1), (0xF5, 0x0686, 1),
   (0xF6, 0x06D5, 1), (0xF7, 0x06A4, 1), (0xF8, 0x06AF, 1), (0xF9, 0x0688, 1), (0xFA, 0x0691, 1),
   (0xFB, 0x007B, 3), (0xFE, 0x0698, 1), (0xFF, 0x06D2, 1)]

/-- The page of Mac Greek. -/
def macGreek : Page :=
  [(0x80, 0x00C4, 1), (0x81, 0x00B9, 1), (0x82, 0x00B2, 1), (0x83, 0x00C9, 1), (0x84, 0x00B3, 1),
   (0x85, 0x00D6, 1), (0x86, 0x00DC, 1), (0x87, 0x0385, 1), (0x88, 0x00E0, 1), (0x89, 0x00E2, 1),
   (0x8A, 0x00E4, 1), (0x8B, 0x0384, 1), (0x8C, 0x00A8, 1), (0x8D, 0x00E7, 1), (0x8E, 0x00E9, 1),
   (0x8F, 0x00E8, 1), (0x90, 0x00EA, 2), (0x92, 0x00A3, 1), (0x93, 0x2122, 1), (0x94, 0x00EE, 2),
   (0x96, 0x2022, 1), (0x97, 0x00BD, 1), (0x98, 0x2030, 1), (0x99, 0x00F4, 1), (0x9A, 0x00F6, 1),
   (0x9B, 0x00A6, 1), (0x9C, 0x20AC, 1), (0x9D, 0x00F9, 1), (0x9E, 0x00FB, 2), (0xA0, 0x2020, 1),
   (0xA1, 0x0393, 2), (0xA3, 0x0398, 1), (0xA4, 0x039B, 1), (0xA5, 0x039E, 1), (0xA6, 0x03A0, 1),
   (0xA7, 0x00DF, 1), (0xA8, 0x00AE, 1), (0xA9, 0x00A9, 1), (0xAA, 0x03A3, 1), (0xAB, 0x03AA, 1),
   (0xAC, 0x00A7, 1), (0xAD, 0x2260, 1), (0xAE, 0x00B0, 1), (0xAF, 0x00B7, 1), (0xB0, 0x0391, 1),
   (0xB1, 0x00B1, 1), (0xB2, 0x2264, 2), (0xB4, 0x00A5, 1), (0xB5, 0x0392, 1), (0xB6, 0x0395, 3),
   (0xB9, 0x0399, 2), (0xBB, 0x039C, 1), (0xBC, 0x03A6, 1), (0xBD, 0x03AB, 1), (0xBE, 0x03A8, 2),
   (0xC0, 0x03AC, 1), (0xC1, 0x039D, 1), (0xC2, 0x00AC, 1), (0xC3, 0x039F, 1), (0xC4, 0x03A1, 1),
   (0xC5, 0x2248, 1), (0xC6, 0x03A4, 1), (0xC7, 0x00AB, 1), (0xC8, 0x00BB, 1), (0xC9, 0x2026, 1),
   (0xCA, 0x00A0, 1), (0xCB, 0x03A5, 1), (0xCC, 0x03A7, 1), (0xCD, 0x0386, 1), (0xCE, 0x0388, 1),
   (0xCF, 0x0153, 1), (0xD0, 0x2013, 1), (0xD1, 0x2015, 1), (0xD2, 0x201C, 2), (0xD4, 0x2018, 2),
   (0xD6, 0x00F7, 1), (0xD7, 0x0389, 2), (0xD9, 0x038C, 1), (0xDA, 0x038E, 1), (0xDB, 0x03AD, 3),
   (0xDE, 0x03CC, 1), (0xDF, 0x038F, 1), (0xE0, 0x03CD, 1), (0xE1, 0x03B1, 2), (0xE3, 0x03C8, 1),
   (0xE4, 0x03B4, 2), (0xE6, 0x03C6, 1), (0xE7, 0x03B3, 1), (0xE8, 0x03B7, 1), (0xE9, 0x03B9, 1),
   (0xEA, 0x03BE, 1), (0xEB, 0x03BA, 4), (0xEF, 0x03BF, 2), (0xF1, 0x03CE, 1), (0xF2, 0x03C1, 1),
   (0xF3, 0x03C3, 2), (0xF5, 0x03B8, 1), (0xF6, 0x03C9, 1), (0xF7, 0x03C2, 1), (0xF8, 0x03C7, 1),
   (0xF9, 0x03C5, 1), (0xFA, 0x03B6, 1), (0xFB, 0x03CA, 2), (0xFD, 0x0390, 1), (0xFE, 0x03B0, 1),
   (0xFF, 0x00AD, 1)]

/-- The page of Mac Icelandic. -/
def macIceland : Page :=
  [(0x80, 0x00C4, 2), (0x82, 0x00C7, 1), (0x83, 0x00C9, 1), (0x84, 0x00D1, 1), (0x85, 0x00D6, 1),
   (0x86, 0x00DC, 1), (0x87, 0x00E1, 1), (0x88, 0x00E0, 1), (0x89, 0x00E2, 1), (0x8A, 0x00E4, 1),
   (0x8B, 0x00E3, 1), (0x8C, 0x00E5, 1), (0x8D, 0x00E7, 1), (0x8E, 0x00E9, 1), (0x8F, 0x00E8, 1),
   (0x90, 0x00EA, 2), (0x92, 0x00ED, 1), (0x93, 0x00EC, 1), (0x94, 0x00EE, 2), (0x96, 0x00F1, 1),
   (0x97, 0x00F3, 1), (0x98, 0x00F2, 1), (0x99, 0x00F4, 1), (0x9A, 0x00F6, 1), (0x9B, 0x00F5, 1),
   (0x9C, 0x00FA, 1), (0x9D, 0x00F9, 1), (0x9E, 0x00FB, 2), (0xA0, 0x00DD, 1), (0xA1, 0x00B0, 1),
   (0xA2, 0x00A2, 2), (0xA4, 0x00A7, 1), (0xA5, 0x2022, 1), (0xA6, 0x00B6, 1), (0xA7, 0x00DF, 1),
   (0xA8, 0x00AE, 1), (0xA9, 0x00A9, 1), (0xAA, 0x2122, 1), (0xAB, 0x00B4, 1), (0xAC, 0x00A8, 1),
   (0xAD, 0x2260, 1), (0xAE, 0x00C6, 1), (0xAF, 0x00D8, 1), (0xB0, 0x221E, 1), (0xB1, 0x00B1, 1),
   (0xB2, 0x2264, 2), (0xB4, 0x00A5, 1), (0xB5, 0x00B5, 1), (0xB6, 0x2202, 1), (0xB7, 0x2211, 1),
   (0xB8, 0x220F, 1), (0xB9, 0x03C0, 1), (0xBA, 0x222B, 1), (0xBB, 0x00AA, 1), (0xBC, 0x00BA, 1),
   (0xBD, 0x03A9, 1), (0xBE, 0x00E6, 1), (0xBF, 0x00F8, 1), (0xC0, 0x00BF, 1), (0xC1, 0x00A1, 1),
   (0xC2, 0x00AC, 1), (0xC3, 0x221A, 1), (0xC4, 0x0192, 1), (0xC5, 0x2248, 1), (0xC6, 0x2206, 1),
   (0xC7, 0x00AB, 1), (0xC8, 0x00BB, 1), (0xC9, 0x2026, 1), (0xCA, 0x00A0, 1), (0xCB, 0x00C0, 1),
   (0xCC, 0x00C3, 1), (0xCD, 0x00D5, 1), (0xCE, 0x0152, 2), (0xD0, 0x2013, 2), (0xD2, 0x201C, 2),
   (0xD4, 0x2018, 2), (0xD6, 0x00F7, 1), (0xD7, 0x25CA, 1), (0xD8, 0x00FF, 1), (0xD9, 0x0178, 1),
   (0xDA, 0x2044, 1), (0xDB, 0x20AC, 1), (0xDC, 0x00D0, 1), (0xDD, 0x00F0, 1), (0xDE, 0x00DE, 1),
   (0xDF, 0x00FE, 1), (0xE0, 0x00FD, 1), (0xE1, 0x00B7, 1), (0xE2, 0x201A, 1), (0xE3, 0x201E, 1),
   (0xE4, 0x2030, 1), (0xE5, 0x00C2, 1), (0xE6, 0x00CA, 1), (0xE7, 0x00C1, 1), (0xE8, 0x00CB, 1),
   (0xE9, 0x00C8, 1), (0xEA, 0x00CD, 3), (0xED, 0x00CC, 1), (0xEE, 0x00D3, 2), (0xF0, 0xF8FF, 1),
   (0xF1, 0x00D2, 1), (0xF2, 0x00DA, 2), (0xF4, 0x00D9, 1), (0xF5, 0x0131, 1), (0xF6, 0x02C6, 1),
   (0xF7, 0x02DC, 1), (0xF8, 0x00AF, 1), (0xF9, 0x02D8, 3), (0xFC, 0x00B8, 1), (0xFD, 0x02DD, 1),
   (0xFE, 0x02DB, 1), (0xFF, 0x02C7, 1)]

/-- The page of Mac Central European. -/
def macLatin2 : Page :=
  [(0x80, 0x00C4, 1), (0x81, 0x0100, 2), (0x83, 0x00C9, 1), (0x84, 0x0104, 1), (0x85, 0x00D6, 1),
   (0x86, 0x00DC, 1), (0x87, 0x00E1, 1), (0x88, 0x0105, 1), (0x89, 0x010C, 1), (0x8A, 0x00E4, 1),
   (0x8B, 0x010D, 1), (0x8C, 0x0106, 2), (0x8E, 0x00E9, 1), (0x8F, 0x0179, 2), (0x91, 0x010E, 1),
   (0x92, 0x00ED, 1), (0x93, 0x010F, 1), (0x94, 0x0112, 2), (0x96, 0x0116, 1), (0x97, 0x00F3, 1),
   (0x98, 0x0117, 1), (0x99, 0x00F4, 1), (0x9A, 0x00F6, 1), (0x9B, 0x00F5, 1), (0x9C, 0x00FA, 1),
   (0x9D, 0x011A, 2), (0x9F, 0x00FC, 1), (0xA0, 0x2020, 1), (0xA1, 0x00B0, 1), (0xA2, 0x0118, 1),
   (0xA3, 0x00A3, 1), (0xA4, 0x00A7, 1), (0xA5, 0x2022, 1), (0xA6, 0x00B6, 1), (0xA7, 0x00DF, 1),
   (0xA8, 0x00AE, 1), (0xA9, 0x00A9, 1), (0xAA, 0x2122, 1), (0xAB, 0x0119, 1), (0xAC, 0x00A8, 1),
   (0xAD, 0x2260, 1), (0xAE, 0x0123, 1), (0xAF, 0x012E, 2), (0xB1, 0x012A, 1), (0xB2, 0x2264, 2),
   (0xB4, 0x012B, 1), (0xB5, 0x0136, 1), (0xB6, 0x2202, 1), (0xB7, 0x2211, 1), (0xB8, 0x0142, 1),
   (0xB9, 0x013B, 4), (0xBD, 0x0139, 2), (0xBF, 0x0145, 2), (0xC1, 0x0143, 1), (0xC2, 0x00AC, 1),
   (0xC3, 0x221A, 1), (0xC4, 0x0144, 1), (0xC5, 0x0147, 1), (0xC6, 0x2206, 1), (0xC7, 0x00AB, 1),
   (0xC8, 0x00BB, 1), (0xC9, 0x2026, 1), (0xCA, 0x00A0, 1), (0xCB, 0x0148, 1), (0xCC, 0x0150, 1),
   (0xCD, 0x00D5, 1), (0xCE, 0x0151, 1), (0xCF, 0x014C, 1), (0xD0, 0x2013, 2), (0xD2, 0x201C, 2),
   (0xD4, 0x2018, 2), (0xD6, 0x00F7, 1), (0xD7, 0x25CA, 1), (0xD8, 0x014D, 1), (0xD9, 0x0154, 2),
   (0xDB, 0x0158, 1), (0xDC, 0x2039, 2), (0xDE, 0x0159, 1), (0xDF, 0x0156, 2), (0xE1, 0x0160, 1),
   (0xE2, 0x201A, 1), (0xE3, 0x201E, 1), (0xE4, 0x0161, 1), (0xE5, 0x015A, 2), (0xE7, 0x00C1, 1),
   (0xE8, 0x0164, 2), (0xEA, 0x00CD, 1), (0xEB, 0x017D, 2), (0xED, 0x016A, 1), (0xEE, 0x00D3, 2),
   (0xF0, 0x016B, 1), (0xF1, 0x016E, 1), (0xF2, 0x00DA, 1), (0xF3, 0x016F, 5), (0xF8, 0x00DD, 1),
   (0xF9, 0x00FD, 1), (0xFA, 0x0137, 1), (0xFB, 0x017B, 1), (0xFC, 0x0141, 1), (0xFD, 0x017C, 1),
   (0xFE, 0x0122, 1), (0xFF, 0x02C7, 1)]

/-- The page of Mac Roman. -/
def macRoman : Page :=
  [(0x80, 0x00C4, 2), (0x82, 0x00C7, 1), (0x83, 0x00C9, 1), (0x84, 0x00D1, 1), (0x85, 0x00D6, 1),
   (0x86, 0x00DC, 1), (0x87, 0x00E1, 1), (0x88, 0x00E0, 1), (0x89, 0x00E2, 1), (0x8A, 0x00E4, 1),
   (0x8B, 0x00E3, 1), (0x8C, 0x00E5, 1), (0x8D, 0x00E7, 1), (0x8E, 0x00E9, 1), (0x8F, 0x00E8, 1),
   (0x90, 0x00EA, 2), (0x92, 0x00ED, 1), (0x93, 0x00EC, 1), (0x94, 0x00EE, 2), (0x96, 0x00F1, 1),
   (0x97, 0x00F3, 1), (0x98, 0x00F2, 1), (0x99, 0x00F4, 1), (0x9A, 0x00F6, 1), (0x9B, 0x00F5, 1),
   (0x9C, 0x00FA, 1), (0x9D, 0x00F9, 1), (0x9E, 0x00FB, 2), (0xA0, 0x2020, 1), (0xA1, 0x00B0, 1),
   (0xA2, 0x00A2, 2), (0xA4, 0x00A7, 1), (0xA5, 0x2022, 1), (0xA6, 0x00B6, 1), (0xA7, 0x00DF, 1),
   (0xA8, 0x00AE, 1), (0xA9, 0x00A9, 1), (0xAA, 0x2122, 1), (0xAB, 0x00B4, 1), (0xAC, 0x00A8, 1),
   (0xAD, 0x2260, 1), (0xAE, 0x00C6, 1), (0xAF, 0x00D8, 1), (0xB0, 0x221E, 1), (0xB1, 0x00B1, 1),
   (0xB2, 0x2264, 2), (0xB4, 0x00A5, 1), (0xB5, 0x00B5, 1), (0xB6, 0x2202, 1), (0xB7, 0x2211, 1),
   (0xB8, 0x220F, 1), (0xB9, 0x03C0, 1), (0xBA, 0x222B, 1), (0xBB, 0x00AA, 1), (0xBC, 0x00BA, 1),
   (0xBD, 0x03A9, 1), (0xBE, 0x00E6, 1), (0xBF, 0x00F8, 1), (0xC0, 0x00BF, 1), (0xC1, 0x00A1, 1),
   (0xC2, 0x00AC, 1), (0xC3, 0x221A, 1), (0xC4, 0x0192, 1), (0xC5, 0x2248, 1), (0xC6, 0x2206, 1),
   (0xC7, 0x00AB, 1), (0xC8, 0x00BB, 1), (0xC9, 0x2026, 1), (0xCA, 0x00A0, 1), (0xCB, 0x00C0, 1),
   (0xCC, 0x00C3, 1), (0xCD, 0x00D5, 1), (0xCE, 0x0152, 2), (0xD0, 0x2013, 2), (0xD2, 0x201C, 2),
   (0xD4, 0x2018, 2), (0xD6, 0x00F7, 1), (0xD7, 0x25CA, 1), (0xD8, 0x00FF, 1), (0xD9, 0x0178, 1),
   (0xDA, 0x2044, 1), (0xDB, 0x20AC, 1), (0xDC, 0x2039, 2), (0xDE, 0xFB01, 2), (0xE0, 0x2021, 1),
   (0xE1, 0x00B7, 1), (0xE2, 0x201A, 1), (0xE3, 0x201E, 1), (0xE4, 0x2030, 1), (0xE5, 0x00C2, 1),
   (0xE6, 0x00CA, 1), (0xE7, 0x00C1, 1), (0xE8, 0x00CB, 1), (0xE9, 0x00C8, 1), (0xEA, 0x00CD, 3),
   (0xED, 0x00CC, 1), (0xEE, 0x00D3, 2), (0xF0, 0xF8FF, 1), (0xF1, 0x00D2, 1), (0xF2, 0x00DA, 2),
   (0xF4, 0x00D9, 1), (0xF5, 0x0131, 1), (0xF6, 0x02C6, 1), (0xF7, 0x02DC, 1), (0xF8, 0x00AF, 1),
   (0xF9, 0x02D8, 3), (0xFC, 0x00B8, 1), (0xFD, 0x02DD, 1), (0xFE, 0x02DB, 1), (0xFF, 0x02C7, 1)]

/-- The page of Mac Romanian. -/
def macRomanian : Page :=
  [(0x80, 0x00C4, 2), (0x82, 0x00C7, 1), (0x83, 0x00C9, 1), (0x84, 0x00D1, 1), (0x85, 0x00D6, 1),
   (0x86, 0x00DC, 1), (0x87, 0x00E1, 1), (0x88, 0x00E0, 1), (0x89, 0x00E2, 1), (0x8A, 0x00E4, 1),
   (0x8B, 0x00E3, 1), (0x8C, 0x00E5, 1), (0x8D, 0x00E7, 1), (0x8E, 0x00E9, 1), (0x8F, 0x00E8, 1),
   (0x90, 0x00EA, 2), (0x92, 0x00ED, 1), (0x93, 0x00EC, 1), (0x94, 0x00EE, 2), (0x96, 0x00F1, 1),
   (0x97, 0x00F3, 1), (0x98, 0x00F2, 1), (0x99, 0x00F4, 1), (0x9A, 0x00F6, 1), (0x9B, 0x00F5, 1),
   (0x9C, 0x00FA, 1), (0x9D, 0x00F9, 1), (0x9E, 0x00FB, 2), (0xA0, 0x2020, 1), (0xA1, 0x00B0, 1),
   (0xA2, 0x00A2, 2), (0xA4, 0x00A7, 1), (0xA5, 0x2022, 1), (0xA6, 0x00B6, 1), (0xA7, 0x00DF, 1),
   (0xA8, 0x00AE, 1), (0xA9, 0x00A9, 1), (0xAA, 0x2122, 1), (0xAB, 0x00B4, 1), (0xAC, 0x00A8, 1),
   (0xAD, 0x2260, 1), (0xAE, 0x0102, 1), (0xAF, 0x0218, 1), (0xB0, 0x221E, 1), (0xB1, 0x00B1, 1),
   (0xB2, 0x2264, 2), (0xB4, 0x00A5, 1), (0xB5, 0x00B5, 1), (0xB6, 0x2202, 1), (0xB7, 0x2211, 1),
   (0xB8, 0x220F, 1), (0xB9, 0x03C0, 1), (0xBA, 0x222B, 1), (0xBB, 0x00AA, 1), (0xBC, 0x00BA, 1),
   (0xBD, 0x03A9, 1), (0xBE, 0x0103, 1), (0xBF, 0x0219, 1), (0xC0, 0x00BF, 1), (0xC1, 0x00A1, 1),
   (0xC2, 0x00AC, 1), (0xC3, 0x221A, 1), (0xC4, 0x0192, 1), (0xC5, 0x2248, 1), (0xC6, 0x2206, 1),
   (0xC7, 0x00AB, 1), (0xC8, 0x00BB, 1), (0xC9, 0x2026, 1), (0xCA, 0x00A0, 1), (0xCB, 0x00C0, 1),
   (0xCC, 0x00C3, 1), (0xCD, 0x00D5, 1), (0xCE, 0x0152, 2), (0xD0, 0x2013, 2), (0xD2, 0x201C, 2),
   (0xD4, 0x2018, 2), (0xD6, 0x00F7, 1), (0xD7, 0x25CA, 1), (0xD8, 0x00FF, 1), (0xD9, 0x0178, 1),
   (0xDA, 0x2044, 1), (0xDB, 0x20AC, 1), (0xDC, 0x2039, 2), (0xDE, 0x021A, 2), (0xE0, 0x2021, 1),
   (0xE1, 0x00B7, 1), (0xE2, 0x201A, 1), (0xE3, 0x201E, 1), (0xE4, 0x2030, 1), (0xE5, 0x00C2, 1),
   (0xE6, 0x00CA, 1), (0xE7, 0x00C1, 1), (0xE8, 0x00CB, 1), (0xE9, 0x00C8, 1), (0xEA, 0x00CD, 3),
   (0xED, 0x00CC, 1), (0xEE, 0x00D3, 2), (0xF0, 0xF8FF, 1), (0xF1, 0x00D2, 1), (0xF2, 0x00DA, 2),
   (0xF4, 0x00D9, 1), (0xF5, 0x0131, 1), (0xF6, 0x02C6, 1), (0xF7, 0x02DC, 1), (0xF8, 0x00AF, 1),
   (0xF9, 0x02D8, 3), (0xFC, 0x00B8, 1), (0xFD, 0x02DD, 1), (0xFE, 0x02DB, 1), (0xFF, 0x02C7, 1)]

/-- The page of Mac Turkish. -/
def macTurkish : Page :=
  [(0x80, 0x00C4, 2), (0x82, 0x00C7, 1), (0x83, 0x00C9, 1), (0x84, 0x00D1, 1), (0x85, 0x00D6, 1),
   (0x86, 0x00DC, 1), (0x87, 0x00E1, 1), (0x88, 0x00E0, 1), (0x89, 0x00E2, 1), (0x8A, 0x00E4, 1),
   (0x8B, 0x00E3, 1), (0x8C, 0x00E5, 1), (0x8D, 0x00E7, 1), (0x8E, 0x00E9, 1), (0x8F, 0x00E8, 1),
   (0x90, 0x00EA, 2), (0x92, 0x00ED, 1), (0x93, 0x00EC, 1), (0x94, 0x00EE, 2), (0x96, 0x00F1, 1),
   (0x97, 0x00F3, 1), (0x98, 0x00F2, 1), (0x99, 0x00F4, 1), (0x9A, 0x00F6, 1), (0x9B, 0x00F5, 1),
   (0x9C, 0x00FA, 1), (0x9D, 0x00F9, 1), (0x9E, 0x00FB, 2), (0xA0, 0x2020, 1), (0xA1, 0x00B0, 1),
   (0xA2, 0x00A2, 2), (0xA4, 0x00A7, 1), (0xA5, 0x2022, 1), (0xA6, 0x00B6, 1), (0xA7, 0x00DF, 1),
   (0xA8, 0x00AE, 1), (0xA9, 0x00A9, 1), (0xAA, 0x2122, 1), (0xAB, 0x00B4, 1), (0xAC, 0x00A8, 1),
   (0xAD, 0x2260, 1), (0xAE, 0x00C6, 1), (0xAF, 0x00D8, 1), (0xB0, 0x221E, 1), (0xB1, 0x00B1, 1),
   (0xB2, 0x2264, 2), (0xB4, 0x00A5, 1), (0xB5, 0x00B5, 1), (0xB6, 0x2202, 1), (0xB7, 0x2211, 1),
   (0xB8, 0x220F, 1), (0xB9, 0x03C0, 1), (0xBA, 0x222B, 1), (0xBB, 0x00AA, 1), (0xBC, 0x00BA, 1),
   (0xBD, 0x03A9, 1), (0xBE, 0x00E6, 1), (0xBF, 0x00F8, 1), (0xC0, 0x00BF, 1), (0xC1, 0x00A1, 1),
   (0xC2, 0x00AC, 1), (0xC3, 0x221A, 1), (0xC4, 0x0192, 1), (0xC5, 0x2248, 1), (0xC6, 0x2206, 1),
   (0xC7, 0x00AB, 1), (0xC8, 0x00BB, 1), (0xC9, 0x2026, 1), (0xCA, 0x00A0, 1), (0xCB, 0x00C0, 1),
   (0xCC, 0x00C3, 1), (0xCD, 0x00D5, 1), (0xCE, 0x0152, 2), (0xD0, 0x2013, 2), (0xD2, 0x201C, 2),
   (0xD4, 0x2018, 2), (0xD6, 0x00F7, 1), (0xD7, 0x25CA, 1), (0xD8, 0x00FF, 1), (0xD9, 0x0178, 1),
   (0xDA, 0x011E, 2), (0xDC, 0x0130, 2), (0xDE, 0x015E, 2), (0xE0, 0x2021, 1), (0xE1, 0x00B7, 1),
   (0xE2, 0x201A, 1), (0xE3, 0x201E, 1), (0xE4, 0x2030, 1), (0xE5, 0x00C2, 1), (0xE6, 0x00CA, 1),
   (0xE7, 0x00C1, 1), (0xE8, 0x00CB, 1), (0xE9, 0x00C8, 1), (0xEA, 0x00CD, 3), (0xED, 0x00CC, 1),
   (0xEE, 0x00D3, 2), (0xF0, 0xF8FF, 1), (0xF1, 0x00D2, 1), (0xF2, 0x00DA, 2), (0xF4, 0x00D9, 1),
   (0xF5, 0xF8A0, 1), (0xF6, 0x02C6, 1), (0xF7, 0x02DC, 1), (0xF8, 0x00AF, 1), (0xF9, 0x02D8, 3),
   (0xFC, 0x00B8, 1), (0xFD, 0x02DD, 1), (0xFE, 0x02DB, 1), (0xFF, 0x02C7, 1)]

end Page
end DocMarkup
