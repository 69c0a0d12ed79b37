import DocMarkup.Encoding.Page

/-!
# Code pages of other systems
-/

namespace DocMarkup
namespace Page

/-- The page of KOI8-R, for Russian. -/
def koi8R : Page :=
  [(0x80, 0x2500, 1), (0x81, 0x2502, 1), (0x82, 0x250C, 1), (0x83, 0x2510, 1), (0x84, 0x2514, 1),
   (0x85, 0x2518, 1), (0x86, 0x251C, 1), (0x87, 0x2524, 1), (0x88, 0x252C, 1), (0x89, 0x2534, 1),
   (0x8A, 0x253C, 1), (0x8B, 0x2580, 1), (0x8C, 0x2584, 1), (0x8D, 0x2588, 1), (0x8E, 0x258C, 1),
   (0x8F, 0x2590, 4), (0x93, 0x2320, 1), (0x94, 0x25A0, 1), (0x95, 0x2219, 2), (0x97, 0x2248, 1),
   (0x98, 0x2264, 2), (0x9A, 0x00A0, 1), (0x9B, 0x2321, 1), (0x9C, 0x00B0, 1), (0x9D, 0x00B2, 1),
   (0x9E, 0x00B7, 1), (0x9F, 0x00F7, 1), (0xA0, 0x2550, 3), (0xA3, 0x0451, 1), (0xA4, 0x2553, 15),
   (0xB3, 0x0401, 1), (0xB4, 0x2562, 11), (0xBF, 0x00A9, 1), (0xC0, 0x044E, 1), (0xC1, 0x0430, 2),
   (0xC3, 0x0446, 1), (0xC4, 0x0434, 2), (0xC6, 0x0444, 1), (0xC7, 0x0433, 1), (0xC8, 0x0445, 1),
   (0xC9, 0x0438, 8), (0xD1, 0x044F, 1), (0xD2, 0x0440, 4), (0xD6, 0x0436, 1), (0xD7, 0x0432, 1),
   (0xD8, 0x044C, 1), (0xD9, 0x044B, 1), (0xDA, 0x0437, 1), (0xDB, 0x0448, 1), (0xDC, 0x044D, 1),
   (0xDD, 0x0449, 1), (0xDE, 0x0447, 1), (0xDF, 0x044A, 1), (0xE0, 0x042E, 1), (0xE1, 0x0410, 2),
   (0xE3, 0x0426, 1), (0xE4, 0x0414, 2), (0xE6, 0x0424, 1), (0xE7, 0x0413, 1), (0xE8, 0x0425, 1),
   (0xE9, 0x0418, 8), (0xF1, 0x042F, 1), (0xF2, 0x0420, 4), (0xF6, 0x0416, 1), (0xF7, 0x0412, 1),
   (0xF8, 0x042C, 1), (0xF9, 0x042B, 1), (0xFA, 0x0417, 1), (0xFB, 0x0428, 1), (0xFC, 0x042D, 1),
   (0xFD, 0x0429, 1), (0xFE, 0x0427, 1), (0xFF, 0x042A, 1)]

/-- The page of KOI8-T, for Tajik. -/
def koi8T : Page :=
  [(0x80, 0x049B, 1), (0x81, 0x0493, 1), (0x82, 0x201A, 1), (0x83, 0x0492, 1), (0x84, 0x201E, 1),
   (0x85, 0x2026, 1), (0x86, 0x2020, 2), (0x89, 0x2030, 1), (0x8A, 0x04B3, 1), (0x8B, 0x2039, 1),
   (0x8C, 0x04B2, 1), (0x8D, 0x04B7, 1), (0x8E, 0x04B6, 1), (0x90, 0x049A, 1), (0x91, 0x2018, 2),
   (0x93, 0x201C, 2), (0x95, 0x2022, 1), (0x96, 0x2013, 2), (0x99, 0x2122, 1), (0x9B, 0x203A, 1),
   (0xA1, 0x04EF, 1), (0xA2, 0x04EE, 1), (0xA3, 0x0451, 1), (0xA4, 0x00A4, 1), (0xA5, 0x04E3, 1),
   (0xA6, 0x00A6, 2), (0xAB, 0x00AB, 4), (0xB0, 0x00B0, 3), (0xB3, 0x0401, 1), (0xB5, 0x04E2, 1),
   (0xB6, 0x00B6, 2), (0xB9, 0x2116, 1), (0xBB, 0x00BB, 1), (0xBF, 0x00A9, 1), (0xC0, 0x044E, 1),
   (0xC1, 0x0430, 2), (0xC3, 0x0446, 1), (0xC4, 0x0434, 2), (0xC6, 0x0444, 1), (0xC7, 0x0433, 1),
   (0xC8, 0x0445, 1), (0xC9, 0x0438, 8), (0xD1, 0x044F, 1), (0xD2, 0x0440, 4), (0xD6, 0x0436, 1),
   (0xD7, 0x0432, 1), (0xD8, 0x044C, 1), (0xD9, 0x044B, 1), (0xDA, 0x0437, 1), (0xDB, 0x0448, 1),
   (0xDC, 0x044D, 1), (0xDD, 0x0449, 1), (0xDE, 0x0447, 1), (0xDF, 0x044A, 1), (0xE0, 0x042E, 1),
   (0xE1, 0x0410, 2), (0xE3, 0x0426, 1), (0xE4, 0x0414, 2), (0xE6, 0x0424, 1), (0xE7, 0x0413, 1),
   (0xE8, 0x0425, 1), (0xE9, 0x0418, 8), (0xF1, 0x042F, 1), (0xF2, 0x0420, 4), (0xF6, 0x0416, 1),
   (0xF7, 0x0412, 1), (0xF8, 0x042C, 1), (0xF9, 0x042B, 1), (0xFA, 0x0417, 1), (0xFB, 0x0428, 1),
   (0xFC, 0x042D, 1), (0xFD, 0x0429, 1), (0xFE, 0x0427, 1), (0xFF, 0x042A, 1)]

/-- The page of KOI8-U, for Ukrainian. -/
def koi8U : Page :=
  [(0x80, 0x2500, 1), (0x81, 0x2502, 1), (0x82, 0x250C, 1), (0x83, 0x2510, 1), (0x84, 0x2514, 1),
   (0x85, 0x2518, 1), (0x86, 0x251C, 1), (0x87, 0x2524, 1), (0x88, 0x252C, 1), (0x89, 0x2534, 1),
   (0x8A, 0x253C, 1), (0x8B, 0x2580, 1), (0x8C, 0x2584, 1), (0x8D, 0x2588, 1), (0x8E, 0x258C, 1),
   (0x8F, 0x2590, 4), (0x93, 0x2320, 1), (0x94, 0x25A0, 1), (0x95, 0x2219, 2), (0x97, 0x2248, 1),
   (0x98, 0x2264, 2), (0x9A, 0x00A0, 1), (0x9B, 0x2321, 1), (0x9C, 0x00B0, 1), (0x9D, 0x00B2, 1),
   (0x9E, 0x00B7, 1), (0x9F, 0x00F7, 1), (0xA0, 0x2550, 3), (0xA3, 0x0451, 1), (0xA4, 0x0454, 1),
   (0xA5, 0x2554, 1), (0xA6, 0x0456, 2), (0xA8, 0x2557, 5), (0xAD, 0x0491, 1), (0xAE, 0x255D, 5),
   (0xB3, 0x0401, 1), (0xB4, 0x0404, 1), (0xB5, 0x2563, 1), (0xB6, 0x0406, 2), (0xB8, 0x2566, 5),
   (0xBD, 0x0490, 1), (0xBE, 0x256C, 1), (0xBF, 0x00A9, 1), (0xC0, 0x044E, 1), (0xC1, 0x0430, 2),
   (0xC3, 0x0446, 1), (0xC4, 0x0434, 2), (0xC6, 0x0444, 1), (0xC7, 0x0433, 1), (0xC8, 0x0445, 1),
   (0xC9, 0x0438, 8), (0xD1, 0x044F, 1), (0xD2, 0x0440, 4), (0xD6, 0x0436, 1), (0xD7, 0x0432, 1),
   (0xD8, 0x044C, 1), (0xD9, 0x044B, 1), (0xDA, 0x0437, 1), (0xDB, 0x0448, 1), (0xDC, 0x044D, 1),
   (0xDD, 0x0449, 1), (0xDE, 0x0447, 1), (0xDF, 0x044A, 1), (0xE0, 0x042E, 1), (0xE1, 0x0410, 2),
   (0xE3, 0x0426, 1), (0xE4, 0x0414, 2), (0xE6, 0x0424, 1), (0xE7, 0x0413, 1), (0xE8, 0x0425, 1),
   (0xE9, 0x0418, 8), (0xF1, 0x042F, 1), (0xF2, 0x0420, 4), (0xF6, 0x0416, 1), (0xF7, 0x0412, 1),
   (0xF8, 0x042C, 1), (0xF9, 0x042B, 1), (0xFA, 0x0417, 1), (0xFB, 0x0428, 1), (0xFC, 0x042D, 1),
   (0xFD, 0x0429, 1), (0xFE, 0x0427, 1), (0xFF, 0x042A, 1)]

/-- The page of KZ-1048, for Kazakh. -/
def kz1048 : Page :=
  [(0x80, 0x0402, 2), (0x82, 0x201A, 1), (0x83, 0x0453, 1), (0x84, 0x201E, 1), (0x85, 0x2026, 1),
   (0x86, 0x2020, 2), (0x88, 0x20AC, 1), (0x89, 0x2030, 1), (0x8A, 0x0409, 1), (0x8B, 0x2039, 1),
   (0x8C, 0x040A, 1), (0x8D, 0x049A, 1), (0x8E, 0x04BA, 1), (0x8F, 0x040F, 1), (0x90, 0x0452, 1),
   (0x91, 0x2018, 2), (0x93, 0x201C, 2), (0x95, 0x2022, 1), (0x96, 0x2013, 2), (0x99, 0x2122, 1),
   (0x9A, 0x0459, 1), (0x9B, 0x203A, 1), (0x9C, 0x045A, 1), (0x9D, 0x049B, 1), (0x9E, 0x04BB, 1),
   (0x9F, 0x045F, 1), (0xA0, 0x00A0, 1), (0xA1, 0x04B0, 2), (0xA3, 0x04D8, 1), (0xA4, 0x00A4, 1),
   (0xA5, 0x04E8, 1), (0xA6, 0x00A6, 2), (0xA8, 0x0401, 1), (0xA9, 0x00A9, 1), (0xAA, 0x0492, 1),
   (0xAB, 0x00AB, 4), (0xAF, 0x04AE, 1), (0xB0, 0x00B0, 2), (0xB2, 0x0406, 1), (0xB3, 0x0456, 1),
   (0xB4, 0x04E9, 1), (0xB5, 0x00B5, 3), (0xB8, 0x0451, 1), (0xB9, 0x2116, 1), (0xBA, 0x0493, 1),
   (0xBB, 0x00BB, 1), (0xBC, 0x04D9, 1), (0xBD, 0x04A2, 2), (0xBF, 0x04AF, 1), (0xC0, 0x0410, 64)]

/-- The page of PTCP154, for the Cyrillic of Asia. -/
def ptcp154 : Page :=
  [(0x80, 0x0496, 1), (0x81, 0x0492, 1), (0x82, 0x04EE, 1), (0x83, 0x0493, 1), (0x84, 0x201E, 1),
   (0x85, 0x2026, 1), (0x86, 0x04B6, 1), (0x87, 0x04AE, 1), (0x88, 0x04B2, 1), (0x89, 0x04AF, 1),
   (0x8A, 0x04A0, 1), (0x8B, 0x04E2, 1), (0x8C, 0x04A2, 1), (0x8D, 0x049A, 1), (0x8E, 0x04BA, 1),
   (0x8F, 0x04B8, 1), (0x90, 0x0497, 1), (0x91, 0x2018, 2), (0x93, 0x201C, 2), (0x95, 0x2022, 1),
   (0x96, 0x2013, 2), (0x98, 0x04B3, 1), (0x99, 0x04B7, 1), (0x9A, 0x04A1, 1), (0x9B, 0x04E3, 1),
   (0x9C, 0x04A3, 1), (0x9D, 0x049B, 1), (0x9E, 0x04BB, 1), (0x9F, 0x04B9, 1), (0xA0, 0x00A0, 1),
   (0xA1, 0x040E, 1), (0xA2, 0x045E, 1), (0xA3, 0x0408, 1), (0xA4, 0x04E8, 1), (0xA5, 0x0498, 1),
   (0xA6, 0x04B0, 1), (0xA7, 0x00A7, 1), (0xA8, 0x0401, 1), (0xA9, 0x00A9, 1), (0xAA, 0x04D8, 1),
   (0xAB, 0x00AB, 2), (0xAD, 0x04EF, 1), (0xAE, 0x00AE, 1), (0xAF, 0x049C, 1), (0xB0, 0x00B0, 1),
   (0xB1, 0x04B1, 1), (0xB2, 0x0406, 1), (0xB3, 0x0456, 1), (0xB4, 0x0499, 1), (0xB5, 0x04E9, 1),
   (0xB6, 0x00B6, 2), (0xB8, 0x0451, 1), (0xB9, 0x2116, 1), (0xBA, 0x04D9, 1), (0xBB, 0x00BB, 1),
   (0xBC, 0x0458, 1), (0xBD, 0x04AA, 2), (0xBF, 0x049D, 1), (0xC0, 0x0410, 64)]

/-- The page of HP Roman-8. -/
def hpRoman8 : Page :=
  [(0x80, 0x0080, 33), (0xA1, 0x00C0, 1), (0xA2, 0x00C2, 1), (0xA3, 0x00C8, 1), (0xA4, 0x00CA, 2),
   (0xA6, 0x00CE, 2), (0xA8, 0x00B4, 1), (0xA9, 0x02CB, 1), (0xAA, 0x02C6, 1), (0xAB, 0x00A8, 1),
   (0xAC, 0x02DC, 1), (0xAD, 0x00D9, 1), (0xAE, 0x00DB, 1), (0xAF, 0x20A4, 1), (0xB0, 0x00AF, 1),
   (0xB1, 0x00DD, 1), (0xB2, 0x00FD, 1), (0xB3, 0x00B0, 1), (0xB4, 0x00C7, 1), (0xB5, 0x00E7, 1),
   (0xB6, 0x00D1, 1), (0xB7, 0x00F1, 1), (0xB8, 0x00A1, 1), (0xB9, 0x00BF, 1), (0xBA, 0x00A4, 1),
   (0xBB, 0x00A3, 1), (0xBC, 0x00A5, 1), (0xBD, 0x00A7, 1), (0xBE, 0x0192, 1), (0xBF, 0x00A2, 1),
   (0xC0, 0x00E2, 1), (0xC1, 0x00EA, 1), (0xC2, 0x00F4, 1), (0xC3, 0x00FB, 1), (0xC4, 0x00E1, 1),
   (0xC5, 0x00E9, 1), (0xC6, 0x00F3, 1), (0xC7, 0x00FA, 1), (0xC8, 0x00E0, 1), (0xC9, 0x00E8, 1),
   (0xCA, 0x00F2, 1), (0xCB, 0x00F9, 1), (0xCC, 0x00E4, 1), (0xCD, 0x00EB, 1), (0xCE, 0x00F6, 1),
   (0xCF, 0x00FC, 1), (0xD0, 0x00C5, 1), (0xD1, 0x00EE, 1), (0xD2, 0x00D8, 1), (0xD3, 0x00C6, 1),
   (0xD4, 0x00E5, 1), (0xD5, 0x00ED, 1), (0xD6, 0x00F8, 1), (0xD7, 0x00E6, 1), (0xD8, 0x00C4, 1),
   (0xD9, 0x00EC, 1), (0xDA, 0x00D6, 1), (0xDB, 0x00DC, 1), (0xDC, 0x00C9, 1), (0xDD, 0x00EF, 1),
   (0xDE, 0x00DF, 1), (0xDF, 0x00D4, 1), (0xE0, 0x00C1, 1), (0xE1, 0x00C3, 1), (0xE2, 0x00E3, 1),
   (0xE3, 0x00D0, 1), (0xE4, 0x00F0, 1), (0xE5, 0x00CD, 1), (0xE6, 0x00CC, 1), (0xE7, 0x00D3, 1),
   (0xE8, 0x00D2, 1), (0xE9, 0x00D5, 1), (0xEA, 0x00F5, 1), (0xEB, 0x0160, 2), (0xED, 0x00DA, 1),
   (0xEE, 0x0178, 1), (0xEF, 0x00FF, 1), (0xF0, 0x00DE, 1), (0xF1, 0x00FE, 1), (0xF2, 0x00B7, 1),
   (0xF3, 0x00B5, 2), (0xF5, 0x00BE, 1), (0xF6, 0x2014, 1), (0xF7, 0x00BC, 2), (0xF9, 0x00AA, 1),
   (0xFA, 0x00BA, 1), (0xFB, 0x00AB, 1), (0xFC, 0x25A0, 1), (0xFD, 0x00BB, 1), (0xFE, 0x00B1, 1)]

/-- The page of Palm OS 3.5. -/
def palmOs : Page :=
  [(0x80, 0x20AC, 1), (0x81, 0x0081, 1), (0x82, 0x201A, 1), (0x83, 0x0192, 1), (0x84, 0x201E, 1),
   (0x85, 0x2026, 1), (0x86, 0x2020, 2), (0x88, 0x02C6, 1), (0x89, 0x2030, 1), (0x8A, 0x0160, 1),
   (0x8B, 0x2039, 1), (0x8C, 0x0152, 1), (0x8D, 0x2666, 1), (0x8E, 0x2663, 1), (0x8F, 0x2665, 1),
   (0x90, 0x2660, 1), (0x91, 0x2018, 2), (0x93, 0x201C, 2), (0x95, 0x2022, 1), (0x96, 0x2013, 2),
   (0x98, 0x02DC, 1), (0x99, 0x2122, 1), (0x9A, 0x0161, 1), (0x9B, 0x009B, 1), (0x9C, 0x0153, 1),
   (0x9D, 0x009D, 2), (0x9F, 0x0178, 1), (0xA0, 0x00A0, 96)]

/-- The page of TIS-620, for Thai. -/
def tis620 : Page :=
  [(0x80, 0x0080, 32), (0xA1, 0x0E01, 58), (0xDF, 0x0E3F, 29)]

end Page
end DocMarkup
