import DocMarkup.Encoding.Page

/-!
# Windows code pages
-/

namespace DocMarkup
namespace Page

/-- The page of Windows-1250. -/
def windows1250 : Page :=
  [(0x80, 0x20AC, 1), (0x82, 0x201A, 1), (0x84, 0x201E, 1), (0x85, 0x2026, 1), (0x86, 0x2020, 2),
   (0x89, 0x2030, 1), (0x8A, 0x0160, 1), (0x8B, 0x2039, 1), (0x8C, 0x015A, 1), (0x8D, 0x0164, 1),
   (0x8E, 0x017D, 1), (0x8F, 0x0179, 1), (0x91, 0x2018, 2), (0x93, 0x201C, 2), (0x95, 0x2022, 1),
   (0x96, 0x2013, 2), (0x99, 0x2122, 1), (0x9A, 0x0161, 1), (0x9B, 0x203A, 1), (0x9C, 0x015B, 1),
   (0x9D, 0x0165, 1), (0x9E, 0x017E, 1), (0x9F, 0x017A, 1), (0xA0, 0x00A0, 1), (0xA1, 0x02C7, 1),
   (0xA2, 0x02D8, 1), (0xA3, 0x0141, 1), (0xA4, 0x00A4, 1), (0xA5, 0x0104, 1), (0xA6, 0x00A6, 4),
   (0xAA, 0x015E, 1), (0xAB, 0x00AB, 4), (0xAF, 0x017B, 1), (0xB0, 0x00B0, 2), (0xB2, 0x02DB, 1),
   (0xB3, 0x0142, 1), (0xB4, 0x00B4, 5), (0xB9, 0x0105, 1), (0xBA, 0x015F, 1), (0xBB, 0x00BB, 1),
   (0xBC, 0x013D, 1), (0xBD, 0x02DD, 1), (0xBE, 0x013E, 1), (0xBF, 0x017C, 1), (0xC0, 0x0154, 1),
   (0xC1, 0x00C1, 2), (0xC3, 0x0102, 1), (0xC4, 0x00C4, 1), (0xC5, 0x0139, 1), (0xC6, 0x0106, 1),
   (0xC7, 0x00C7, 1), (0xC8, 0x010C, 1), (0xC9, 0x00C9, 1), (0xCA, 0x0118, 1), (0xCB, 0x00CB, 1),
   (0xCC, 0x011A, 1), (0xCD, 0x00CD, 2), (0xCF, 0x010E, 1), (0xD0, 0x0110, 1), (0xD1, 0x0143, 1),
   (0xD2, 0x0147, 1), (0xD3, 0x00D3, 2), (0xD5, 0x0150, 1), (0xD6, 0x00D6, 2), (0xD8, 0x0158, 1),
   (0xD9, 0x016E, 1), (0xDA, 0x00DA, 1), (0xDB, 0x0170, 1), (0xDC, 0x00DC, 2), (0xDE, 0x0162, 1),
   (0xDF, 0x00DF, 1), (0xE0, 0x0155, 1), (0xE1, 0x00E1, 2), (0xE3, 0x0103, 1), (0xE4, 0x00E4, 1),
   (0xE5, 0x013A, 1), (0xE6, 0x0107, 1), (0xE7, 0x00E7, 1), (0xE8, 0x010D, 1), (0xE9, 0x00E9, 1),
   (0xEA, 0x0119, 1), (0xEB, 0x00EB, 1), (0xEC, 0x011B, 1), (0xED, 0x00ED, 2), (0xEF, 0x010F, 1),
   (0xF0, 0x0111, 1), (0xF1, 0x0144, 1), (0xF2, 0x0148, 1), (0xF3, 0x00F3, 2), (0xF5, 0x0151, 1),
   (0xF6, 0x00F6, 2), (0xF8, 0x0159, 1), (0xF9, 0x016F, 1), (0xFA, 0x00FA, 1), (0xFB, 0x0171, 1),
   (0xFC, 0x00FC, 2), (0xFE, 0x0163, 1), (0xFF, 0x02D9, 1)]

/-- The page of Windows-1251. -/
def windows1251 : Page :=
  [(0x80, 0x0402, 2), (0x82, 0x201A, 1), (0x83, 0x0453, 1), (0x84, 0x201E, 1), (0x85, 0x2026, 1),
   (0x86, 0x2020, 2), (0x88, 0x20AC, 1), (0x89, 0x2030, 1), (0x8A, 0x0409, 1), (0x8B, 0x2039, 1),
   (0x8C, 0x040A, 1), (0x8D, 0x040C, 1), (0x8E, 0x040B, 1), (0x8F, 0x040F, 1), (0x90, 0x0452, 1),
   (0x91, 0x2018, 2), (0x93, 0x201C, 2), (0x95, 0x2022, 1), (0x96, 0x2013, 2), (0x99, 0x2122, 1),
   (0x9A, 0x0459, 1), (0x9B, 0x203A, 1), (0x9C, 0x045A, 1), (0x9D, 0x045C, 1), (0x9E, 0x045B, 1),
   (0x9F, 0x045F, 1), (0xA0, 0x00A0, 1), (0xA1, 0x040E, 1), (0xA2, 0x045E, 1), (0xA3, 0x0408, 1),
   (0xA4, 0x00A4, 1), (0xA5, 0x0490, 1), (0xA6, 0x00A6, 2), (0xA8, 0x0401, 1), (0xA9, 0x00A9, 1),
   (0xAA, 0x0404, 1), (0xAB, 0x00AB, 4), (0xAF, 0x0407, 1), (0xB0, 0x00B0, 2), (0xB2, 0x0406, 1),
   (0xB3, 0x0456, 1), (0xB4, 0x0491, 1), (0xB5, 0x00B5, 3), (0xB8, 0x0451, 1), (0xB9, 0x2116, 1),
   (0xBA, 0x0454, 1), (0xBB, 0x00BB, 1), (0xBC, 0x0458, 1), (0xBD, 0x0405, 1), (0xBE, 0x0455, 1),
   (0xBF, 0x0457, 1), (0xC0, 0x0410, 64)]

/-- The page of Windows-1252. -/
def windows1252 : Page :=
  [(0x80, 0x20AC, 1), (0x82, 0x201A, 1), (0x83, 0x0192, 1), (0x84, 0x201E, 1), (0x85, 0x2026, 1),
   (0x86, 0x2020, 2), (0x88, 0x02C6, 1), (0x89, 0x2030, 1), (0x8A, 0x0160, 1), (0x8B, 0x2039, 1),
   (0x8C, 0x0152, 1), (0x8E, 0x017D, 1), (0x91, 0x2018, 2), (0x93, 0x201C, 2), (0x95, 0x2022, 1),
   (0x96, 0x2013, 2), (0x98, 0x02DC, 1), (0x99, 0x2122, 1), (0x9A, 0x0161, 1), (0x9B, 0x203A, 1),
   (0x9C, 0x0153, 1), (0x9E, 0x017E, 1), (0x9F, 0x0178, 1), (0xA0, 0x00A0, 96)]

/-- The page of Windows-1253. -/
def windows1253 : Page :=
  [(0x80, 0x20AC, 1), (0x82, 0x201A, 1), (0x83, 0x0192, 1), (0x84, 0x201E, 1), (0x85, 0x2026, 1),
   (0x86, 0x2020, 2), (0x89, 0x2030, 1), (0x8B, 0x2039, 1), (0x91, 0x2018, 2), (0x93, 0x201C, 2),
   (0x95, 0x2022, 1), (0x96, 0x2013, 2), (0x99, 0x2122, 1), (0x9B, 0x203A, 1), (0xA0, 0x00A0, 1),
   (0xA1, 0x0385, 2), (0xA3, 0x00A3, 7), (0xAB, 0x00AB, 4), (0xAF, 0x2015, 1), (0xB0, 0x00B0, 4),
   (0xB4, 0x0384, 1), (0xB5, 0x00B5, 3), (0xB8, 0x0388, 3), (0xBB, 0x00BB, 1), (0xBC, 0x038C, 1),
   (0xBD, 0x00BD, 1), (0xBE, 0x038E, 20), (0xD3, 0x03A3, 44)]

/-- The page of Windows-1254. -/
def windows1254 : Page :=
  [(0x80, 0x20AC, 1), (0x82, 0x201A, 1), (0x83, 0x0192, 1), (0x84, 0x201E, 1), (0x85, 0x2026, 1),
   (0x86, 0x2020, 2), (0x88, 0x02C6, 1), (0x89, 0x2030, 1), (0x8A, 0x0160, 1), (0x8B, 0x2039, 1),
   (0x8C, 0x0152, 1), (0x91, 0x2018, 2), (0x93, 0x201C, 2), (0x95, 0x2022, 1), (0x96, 0x2013, 2),
   (0x98, 0x02DC, 1), (0x99, 0x2122, 1), (0x9A, 0x0161, 1), (0x9B, 0x203A, 1), (0x9C, 0x0153, 1),
   (0x9F, 0x0178, 1), (0xA0, 0x00A0, 48), (0xD0, 0x011E, 1), (0xD1, 0x00D1, 12), (0xDD, 0x0130, 1),
   (0xDE, 0x015E, 1), (0xDF, 0x00DF, 17), (0xF0, 0x011F, 1), (0xF1, 0x00F1, 12), (0xFD, 0x0131, 1),
   (0xFE, 0x015F, 1), (0xFF, 0x00FF, 1)]

/-- The page of Windows-1255. -/
def windows1255 : Page :=
  [(0x80, 0x20AC, 1), (0x82, 0x201A, 1), (0x83, 0x0192, 1), (0x84, 0x201E, 1), (0x85, 0x2026, 1),
   (0x86, 0x2020, 2), (0x88, 0x02C6, 1), (0x89, 0x2030, 1), (0x8B, 0x2039, 1), (0x91, 0x2018, 2),
   (0x93, 0x201C, 2), (0x95, 0x2022, 1), (0x96, 0x2013, 2), (0x98, 0x02DC, 1), (0x99, 0x2122, 1),
   (0x9B, 0x203A, 1), (0xA0, 0x00A0, 4), (0xA4, 0x20AA, 1), (0xA5, 0x00A5, 5), (0xAA, 0x00D7, 1),
   (0xAB, 0x00AB, 15), (0xBA, 0x00F7, 1), (0xBB, 0x00BB, 5), (0xC0, 0x05B0, 10), (0xCB, 0x05BB, 9),
   (0xD4, 0x05F0, 5), (0xE0, 0x05D0, 27), (0xFD, 0x200E, 2)]

/-- The page of Windows-1256. -/
def windows1256 : Page :=
  [(0x80, 0x20AC, 1), (0x81, 0x067E, 1), (0x82, 0x201A, 1), (0x83, 0x0192, 1), (0x84, 0x201E, 1),
   (0x85, 0x2026, 1), (0x86, 0x2020, 2), (0x88, 0x02C6, 1), (0x89, 0x2030, 1), (0x8A, 0x0679, 1),
   (0x8B, 0x2039, 1), (0x8C, 0x0152, 1), (0x8D, 0x0686, 1), (0x8E, 0x0698, 1), (0x8F, 0x0688, 1),
   (0x90, 0x06AF, 1), (0x91, 0x2018, 2), (0x93, 0x201C, 2), (0x95, 0x2022, 1), (0x96, 0x2013, 2),
   (0x98, 0x06A9, 1), (0x99, 0x2122, 1), (0x9A, 0x0691, 1), (0x9B, 0x203A, 1), (0x9C, 0x0153, 1),
   (0x9D, 0x200C, 2), (0x9F, 0x06BA, 1), (0xA0, 0x00A0, 1), (0xA1, 0x060C, 1), (0xA2, 0x00A2, 8),
   (0xAA, 0x06BE, 1), (0xAB, 0x00AB, 15), (0xBA, 0x061B, 1), (0xBB, 0x00BB, 4), (0xBF, 0x061F, 1),
   (0xC0, 0x06C1, 1), (0xC1, 0x0621, 22), (0xD7, 0x00D7, 1), (0xD8, 0x0637, 4), (0xDC, 0x0640, 4),
   (0xE0, 0x00E0, 1), (0xE1, 0x0644, 1), (0xE2, 0x00E2, 1), (0xE3, 0x0645, 4), (0xE7, 0x00E7, 5),
   (0xEC, 0x0649, 2), (0xEE, 0x00EE, 2), (0xF0, 0x064B, 4), (0xF4, 0x00F4, 1), (0xF5, 0x064F, 2),
   (0xF7, 0x00F7, 1), (0xF8, 0x0651, 1), (0xF9, 0x00F9, 1), (0xFA, 0x0652, 1), (0xFB, 0x00FB, 2),
   (0xFD, 0x200E, 2), (0xFF, 0x06D2, 1)]

/-- The page of Windows-1257. -/
def windows1257 : Page :=
  [(0x80, 0x20AC, 1), (0x82, 0x201A, 1), (0x84, 0x201E, 1), (0x85, 0x2026, 1), (0x86, 0x2020, 2),
   (0x89, 0x2030, 1), (0x8B, 0x2039, 1), (0x8D, 0x00A8, 1), (0x8E, 0x02C7, 1), (0x8F, 0x00B8, 1),
   (0x91, 0x2018, 2), (0x93, 0x201C, 2), (0x95, 0x2022, 1), (0x96, 0x2013, 2), (0x99, 0x2122, 1),
   (0x9B, 0x203A, 1), (0x9D, 0x00AF, 1), (0x9E, 0x02DB, 1), (0xA0, 0x00A0, 1), (0xA2, 0x00A2, 3),
   (0xA6, 0x00A6, 2), (0xA8, 0x00D8, 1), (0xA9, 0x00A9, 1), (0xAA, 0x0156, 1), (0xAB, 0x00AB, 4),
   (0xAF, 0x00C6, 1), (0xB0, 0x00B0, 8), (0xB8, 0x00F8, 1), (0xB9, 0x00B9, 1), (0xBA, 0x0157, 1),
   (0xBB, 0x00BB, 4), (0xBF, 0x00E6, 1), (0xC0, 0x0104, 1), (0xC1, 0x012E, 1), (0xC2, 0x0100, 1),
   (0xC3, 0x0106, 1), (0xC4, 0x00C4, 2), (0xC6, 0x0118, 1), (0xC7, 0x0112, 1), (0xC8, 0x010C, 1),
   (0xC9, 0x00C9, 1), (0xCA, 0x0179, 1), (0xCB, 0x0116, 1), (0xCC, 0x0122, 1), (0xCD, 0x0136, 1),
   (0xCE, 0x012A, 1), (0xCF, 0x013B, 1), (0xD0, 0x0160, 1), (0xD1, 0x0143, 1), (0xD2, 0x0145, 1),
   (0xD3, 0x00D3, 1), (0xD4, 0x014C, 1), (0xD5, 0x00D5, 3), (0xD8, 0x0172, 1), (0xD9, 0x0141, 1),
   (0xDA, 0x015A, 1), (0xDB, 0x016A, 1), (0xDC, 0x00DC, 1), (0xDD, 0x017B, 1), (0xDE, 0x017D, 1),
   (0xDF, 0x00DF, 1), (0xE0, 0x0105, 1), (0xE1, 0x012F, 1), (0xE2, 0x0101, 1), (0xE3, 0x0107, 1),
   (0xE4, 0x00E4, 2), (0xE6, 0x0119, 1), (0xE7, 0x0113, 1), (0xE8, 0x010D, 1), (0xE9, 0x00E9, 1),
   (0xEA, 0x017A, 1), (0xEB, 0x0117, 1), (0xEC, 0x0123, 1), (0xED, 0x0137, 1), (0xEE, 0x012B, 1),
   (0xEF, 0x013C, 1), (0xF0, 0x0161, 1), (0xF1, 0x0144, 1), (0xF2, 0x0146, 1), (0xF3, 0x00F3, 1),
   (0xF4, 0x014D, 1), (0xF5, 0x00F5, 3), (0xF8, 0x0173, 1), (0xF9, 0x0142, 1), (0xFA, 0x015B, 1),
   (0xFB, 0x016B, 1), (0xFC, 0x00FC, 1), (0xFD, 0x017C, 1), (0xFE, 0x017E, 1), (0xFF, 0x02D9, 1)]

/-- The page of Windows-1258. -/
def windows1258 : Page :=
  [(0x80, 0x20AC, 1), (0x82, 0x201A, 1), (0x83, 0x0192, 1), (0x84, 0x201E, 1), (0x85, 0x2026, 1),
   (0x86, 0x2020, 2), (0x88, 0x02C6, 1), (0x89, 0x2030, 1), (0x8B, 0x2039, 1), (0x8C, 0x0152, 1),
   (0x91, 0x2018, 2), (0x93, 0x201C, 2), (0x95, 0x2022, 1), (0x96, 0x2013, 2), (0x98, 0x02DC, 1),
   (0x99, 0x2122, 1), (0x9B, 0x203A, 1), (0x9C, 0x0153, 1), (0x9F, 0x0178, 1), (0xA0, 0x00A0, 35),
   (0xC3, 0x0102, 1), (0xC4, 0x00C4, 8), (0xCC, 0x0300, 1), (0xCD, 0x00CD, 3), (0xD0, 0x0110, 1),
   (0xD1, 0x00D1, 1), (0xD2, 0x0309, 1), (0xD3, 0x00D3, 2), (0xD5, 0x01A0, 1), (0xD6, 0x00D6, 7),
   (0xDD, 0x01AF, 1), (0xDE, 0x0303, 1), (0xDF, 0x00DF, 4), (0xE3, 0x0103, 1), (0xE4, 0x00E4, 8),
   (0xEC, 0x0301, 1), (0xED, 0x00ED, 3), (0xF0, 0x0111, 1), (0xF1, 0x00F1, 1), (0xF2, 0x0323, 1),
   (0xF3, 0x00F3, 2), (0xF5, 0x01A1, 1), (0xF6, 0x00F6, 7), (0xFD, 0x01B0, 1), (0xFE, 0x20AB, 1),
   (0xFF, 0x00FF, 1)]

/-- The page of Windows-874, for Thai. -/
def windows874 : Page :=
  [(0x80, 0x20AC, 1), (0x85, 0x2026, 1), (0x91, 0x2018, 2), (0x93, 0x201C, 2), (0x95, 0x2022, 1),
   (0x96, 0x2013, 2), (0xA0, 0x00A0, 1), (0xA1, 0x0E01, 58), (0xDF, 0x0E3F, 29)]

end Page
end DocMarkup
