import DocMarkup.Encoding.Page

/-!
# Code pages of ISO 8859
-/

namespace DocMarkup
namespace Page

/-- The page of ISO 8859-2. -/
def iso8859Part2 : Page :=
  [(0x80, 0x0080, 33), (0xA1, 0x0104, 1), (0xA2, 0x02D8, 1), (0xA3, 0x0141, 1), (0xA4, 0x00A4, 1),
   (0xA5, 0x013D, 1), (0xA6, 0x015A, 1), (0xA7, 0x00A7, 2), (0xA9, 0x0160, 1), (0xAA, 0x015E, 1),
   (0xAB, 0x0164, 1), (0xAC, 0x0179, 1), (0xAD, 0x00AD, 1), (0xAE, 0x017D, 1), (0xAF, 0x017B, 1),
   (0xB0, 0x00B0, 1), (0xB1, 0x0105, 1), (0xB2, 0x02DB, 1), (0xB3, 0x0142, 1), (0xB4, 0x00B4, 1),
   (0xB5, 0x013E, 1), (0xB6, 0x015B, 1), (0xB7, 0x02C7, 1), (0xB8, 0x00B8, 1), (0xB9, 0x0161, 1),
   (0xBA, 0x015F, 1), (0xBB, 0x0165, 1), (0xBC, 0x017A, 1), (0xBD, 0x02DD, 1), (0xBE, 0x017E, 1),
   (0xBF, 0x017C, 1), (0xC0, 0x0154, 1), (0xC1, 0x00C1, 2), (0xC3, 0x0102, 1), (0xC4, 0x00C4, 1),
   (0xC5, 0x0139, 1), (0xC6, 0x0106, 1), (0xC7, 0x00C7, 1), (0xC8, 0x010C, 1), (0xC9, 0x00C9, 1),
   (0xCA, 0x0118, 1), (0xCB, 0x00CB, 1), (0xCC, 0x011A, 1), (0xCD, 0x00CD, 2), (0xCF, 0x010E, 1),
   (0xD0, 0x0110, 1), (0xD1, 0x0143, 1), (0xD2, 0x0147, 1), (0xD3, 0x00D3, 2), (0xD5, 0x0150, 1),
   (0xD6, 0x00D6, 2), (0xD8, 0x0158, 1), (0xD9, 0x016E, 1), (0xDA, 0x00DA, 1), (0xDB, 0x0170, 1),
   (0xDC, 0x00DC, 2), (0xDE, 0x0162, 1), (0xDF, 0x00DF, 1), (0xE0, 0x0155, 1), (0xE1, 0x00E1, 2),
   (0xE3, 0x0103, 1), (0xE4, 0x00E4, 1), (0xE5, 0x013A, 1), (0xE6, 0x0107, 1), (0xE7, 0x00E7, 1),
   (0xE8, 0x010D, 1), (0xE9, 0x00E9, 1), (0xEA, 0x0119, 1), (0xEB, 0x00EB, 1), (0xEC, 0x011B, 1),
   (0xED, 0x00ED, 2), (0xEF, 0x010F, 1), (0xF0, 0x0111, 1), (0xF1, 0x0144, 1), (0xF2, 0x0148, 1),
   (0xF3, 0x00F3, 2), (0xF5, 0x0151, 1), (0xF6, 0x00F6, 2), (0xF8, 0x0159, 1), (0xF9, 0x016F, 1),
   (0xFA, 0x00FA, 1), (0xFB, 0x0171, 1), (0xFC, 0x00FC, 2), (0xFE, 0x0163, 1), (0xFF, 0x02D9, 1)]

/-- The page of ISO 8859-3. -/
def iso8859Part3 : Page :=
  [(0x80, 0x0080, 33), (0xA1, 0x0126, 1), (0xA2, 0x02D8, 1), (0xA3, 0x00A3, 2), (0xA6, 0x0124, 1),
   (0xA7, 0x00A7, 2), (0xA9, 0x0130, 1), (0xAA, 0x015E, 1), (0xAB, 0x011E, 1), (0xAC, 0x0134, 1),
   (0xAD, 0x00AD, 1), (0xAF, 0x017B, 1), (0xB0, 0x00B0, 1), (0xB1, 0x0127, 1), (0xB2, 0x00B2, 4),
   (0xB6, 0x0125, 1), (0xB7, 0x00B7, 2), (0xB9, 0x0131, 1), (0xBA, 0x015F, 1), (0xBB, 0x011F, 1),
   (0xBC, 0x0135, 1), (0xBD, 0x00BD, 1), (0xBF, 0x017C, 1), (0xC0, 0x00C0, 3), (0xC4, 0x00C4, 1),
   (0xC5, 0x010A, 1), (0xC6, 0x0108, 1), (0xC7, 0x00C7, 9), (0xD1, 0x00D1, 4), (0xD5, 0x0120, 1),
   (0xD6, 0x00D6, 2), (0xD8, 0x011C, 1), (0xD9, 0x00D9, 4), (0xDD, 0x016C, 1), (0xDE, 0x015C, 1),
   (0xDF, 0x00DF, 4), (0xE4, 0x00E4, 1), (0xE5, 0x010B, 1), (0xE6, 0x0109, 1), (0xE7, 0x00E7, 9),
   (0xF1, 0x00F1, 4), (0xF5, 0x0121, 1), (0xF6, 0x00F6, 2), (0xF8, 0x011D, 1), (0xF9, 0x00F9, 4),
   (0xFD, 0x016D, 1), (0xFE, 0x015D, 1), (0xFF, 0x02D9, 1)]

/-- The page of ISO 8859-4. -/
def iso8859Part4 : Page :=
  [(0x80, 0x0080, 33), (0xA1, 0x0104, 1), (0xA2, 0x0138, 1), (0xA3, 0x0156, 1), (0xA4, 0x00A4, 1),
   (0xA5, 0x0128, 1), (0xA6, 0x013B, 1), (0xA7, 0x00A7, 2), (0xA9, 0x0160, 1), (0xAA, 0x0112, 1),
   (0xAB, 0x0122, 1), (0xAC, 0x0166, 1), (0xAD, 0x00AD, 1), (0xAE, 0x017D, 1), (0xAF, 0x00AF, 2),
   (0xB1, 0x0105, 1), (0xB2, 0x02DB, 1), (0xB3, 0x0157, 1), (0xB4, 0x00B4, 1), (0xB5, 0x0129, 1),
   (0xB6, 0x013C, 1), (0xB7, 0x02C7, 1), (0xB8, 0x00B8, 1), (0xB9, 0x0161, 1), (0xBA, 0x0113, 1),
   (0xBB, 0x0123, 1), (0xBC, 0x0167, 1), (0xBD, 0x014A, 1), (0xBE, 0x017E, 1), (0xBF, 0x014B, 1),
   (0xC0, 0x0100, 1), (0xC1, 0x00C1, 6), (0xC7, 0x012E, 1), (0xC8, 0x010C, 1), (0xC9, 0x00C9, 1),
   (0xCA, 0x0118, 1), (0xCB, 0x00CB, 1), (0xCC, 0x0116, 1), (0xCD, 0x00CD, 2), (0xCF, 0x012A, 1),
   (0xD0, 0x0110, 1), (0xD1, 0x0145, 1), (0xD2, 0x014C, 1), (0xD3, 0x0136, 1), (0xD4, 0x00D4, 5),
   (0xD9, 0x0172, 1), (0xDA, 0x00DA, 3), (0xDD, 0x0168, 1), (0xDE, 0x016A, 1), (0xDF, 0x00DF, 1),
   (0xE0, 0x0101, 1), (0xE1, 0x00E1, 6), (0xE7, 0x012F, 1), (0xE8, 0x010D, 1), (0xE9, 0x00E9, 1),
   (0xEA, 0x0119, 1), (0xEB, 0x00EB, 1), (0xEC, 0x0117, 1), (0xED, 0x00ED, 2), (0xEF, 0x012B, 1),
   (0xF0, 0x0111, 1), (0xF1, 0x0146, 1), (0xF2, 0x014D, 1), (0xF3, 0x0137, 1), (0xF4, 0x00F4, 5),
   (0xF9, 0x0173, 1), (0xFA, 0x00FA, 3), (0xFD, 0x0169, 1), (0xFE, 0x016B, 1), (0xFF, 0x02D9, 1)]

/-- The page of ISO 8859-5. -/
def iso8859Part5 : Page :=
  [(0x80, 0x0080, 33), (0xA1, 0x0401, 12), (0xAD, 0x00AD, 1), (0xAE, 0x040E, 66), (0xF0, 0x2116, 1),
   (0xF1, 0x0451, 12), (0xFD, 0x00A7, 1), (0xFE, 0x045E, 2)]

/-- The page of ISO 8859-6. -/
def iso8859Part6 : Page :=
  [(0x80, 0x0080, 33), (0xA4, 0x00A4, 1), (0xAC, 0x060C, 1), (0xAD, 0x00AD, 1), (0xBB, 0x061B, 1),
   (0xBF, 0x061F, 1), (0xC1, 0x0621, 26), (0xE0, 0x0640, 19)]

/-- The page of ISO 8859-7. -/
def iso8859Part7 : Page :=
  [(0x80, 0x0080, 33), (0xA1, 0x2018, 2), (0xA3, 0x00A3, 1), (0xA4, 0x20AC, 1), (0xA5, 0x20AF, 1),
   (0xA6, 0x00A6, 4), (0xAA, 0x037A, 1), (0xAB, 0x00AB, 3), (0xAF, 0x2015, 1), (0xB0, 0x00B0, 4),
   (0xB4, 0x0384, 3), (0xB7, 0x00B7, 1), (0xB8, 0x0388, 3), (0xBB, 0x00BB, 1), (0xBC, 0x038C, 1),
   (0xBD, 0x00BD, 1), (0xBE, 0x038E, 20), (0xD3, 0x03A3, 44)]

/-- The page of ISO 8859-8. -/
def iso8859Part8 : Page :=
  [(0x80, 0x0080, 33), (0xA2, 0x00A2, 8), (0xAA, 0x00D7, 1), (0xAB, 0x00AB, 15), (0xBA, 0x00F7, 1),
   (0xBB, 0x00BB, 4), (0xDF, 0x2017, 1), (0xE0, 0x05D0, 27), (0xFD, 0x200E, 2)]

/-- The page of ISO 8859-9. -/
def iso8859Part9 : Page :=
  [(0x80, 0x0080, 80), (0xD0, 0x011E, 1), (0xD1, 0x00D1, 12), (0xDD, 0x0130, 1), (0xDE, 0x015E, 1),
   (0xDF, 0x00DF, 17), (0xF0, 0x011F, 1), (0xF1, 0x00F1, 12), (0xFD, 0x0131, 1), (0xFE, 0x015F, 1),
   (0xFF, 0x00FF, 1)]

/-- The page of ISO 8859-10. -/
def iso8859Part10 : Page :=
  [(0x80, 0x0080, 33), (0xA1, 0x0104, 1), (0xA2, 0x0112, 1), (0xA3, 0x0122, 1), (0xA4, 0x012A, 1),
   (0xA5, 0x0128, 1), (0xA6, 0x0136, 1), (0xA7, 0x00A7, 1), (0xA8, 0x013B, 1), (0xA9, 0x0110, 1),
   (0xAA, 0x0160, 1), (0xAB, 0x0166, 1), (0xAC, 0x017D, 1), (0xAD, 0x00AD, 1), (0xAE, 0x016A, 1),
   (0xAF, 0x014A, 1), (0xB0, 0x00B0, 1), (0xB1, 0x0105, 1), (0xB2, 0x0113, 1), (0xB3, 0x0123, 1),
   (0xB4, 0x012B, 1), (0xB5, 0x0129, 1), (0xB6, 0x0137, 1), (0xB7, 0x00B7, 1), (0xB8, 0x013C, 1),
   (0xB9, 0x0111, 1), (0xBA, 0x0161, 1), (0xBB, 0x0167, 1), (0xBC, 0x017E, 1), (0xBD, 0x2015, 1),
   (0xBE, 0x016B, 1), (0xBF, 0x014B, 1), (0xC0, 0x0100, 1), (0xC1, 0x00C1, 6), (0xC7, 0x012E, 1),
   (0xC8, 0x010C, 1), (0xC9, 0x00C9, 1), (0xCA, 0x0118, 1), (0xCB, 0x00CB, 1), (0xCC, 0x0116, 1),
   (0xCD, 0x00CD, 4), (0xD1, 0x0145, 1), (0xD2, 0x014C, 1), (0xD3, 0x00D3, 4), (0xD7, 0x0168, 1),
   (0xD8, 0x00D8, 1), (0xD9, 0x0172, 1), (0xDA, 0x00DA, 6), (0xE0, 0x0101, 1), (0xE1, 0x00E1, 6),
   (0xE7, 0x012F, 1), (0xE8, 0x010D, 1), (0xE9, 0x00E9, 1), (0xEA, 0x0119, 1), (0xEB, 0x00EB, 1),
   (0xEC, 0x0117, 1), (0xED, 0x00ED, 4), (0xF1, 0x0146, 1), (0xF2, 0x014D, 1), (0xF3, 0x00F3, 4),
   (0xF7, 0x0169, 1), (0xF8, 0x00F8, 1), (0xF9, 0x0173, 1), (0xFA, 0x00FA, 5), (0xFF, 0x0138, 1)]

/-- The page of ISO 8859-11. -/
def iso8859Part11 : Page :=
  [(0x80, 0x0080, 33), (0xA1, 0x0E01, 58), (0xDF, 0x0E3F, 29)]

/-- The page of ISO 8859-13. -/
def iso8859Part13 : Page :=
  [(0x80, 0x0080, 33), (0xA1, 0x201D, 1), (0xA2, 0x00A2, 3), (0xA5, 0x201E, 1), (0xA6, 0x00A6, 2),
   (0xA8, 0x00D8, 1), (0xA9, 0x00A9, 1), (0xAA, 0x0156, 1), (0xAB, 0x00AB, 4), (0xAF, 0x00C6, 1),
   (0xB0, 0x00B0, 4), (0xB4, 0x201C, 1), (0xB5, 0x00B5, 3), (0xB8, 0x00F8, 1), (0xB9, 0x00B9, 1),
   (0xBA, 0x0157, 1), (0xBB, 0x00BB, 4), (0xBF, 0x00E6, 1), (0xC0, 0x0104, 1), (0xC1, 0x012E, 1),
   (0xC2, 0x0100, 1), (0xC3, 0x0106, 1), (0xC4, 0x00C4, 2), (0xC6, 0x0118, 1), (0xC7, 0x0112, 1),
   (0xC8, 0x010C, 1), (0xC9, 0x00C9, 1), (0xCA, 0x0179, 1), (0xCB, 0x0116, 1), (0xCC, 0x0122, 1),
   (0xCD, 0x0136, 1), (0xCE, 0x012A, 1), (0xCF, 0x013B, 1), (0xD0, 0x0160, 1), (0xD1, 0x0143, 1),
   (0xD2, 0x0145, 1), (0xD3, 0x00D3, 1), (0xD4, 0x014C, 1), (0xD5, 0x00D5, 3), (0xD8, 0x0172, 1),
   (0xD9, 0x0141, 1), (0xDA, 0x015A, 1), (0xDB, 0x016A, 1), (0xDC, 0x00DC, 1), (0xDD, 0x017B, 1),
   (0xDE, 0x017D, 1), (0xDF, 0x00DF, 1), (0xE0, 0x0105, 1), (0xE1, 0x012F, 1), (0xE2, 0x0101, 1),
   (0xE3, 0x0107, 1), (0xE4, 0x00E4, 2), (0xE6, 0x0119, 1), (0xE7, 0x0113, 1), (0xE8, 0x010D, 1),
   (0xE9, 0x00E9, 1), (0xEA, 0x017A, 1), (0xEB, 0x0117, 1), (0xEC, 0x0123, 1), (0xED, 0x0137, 1),
   (0xEE, 0x012B, 1), (0xEF, 0x013C, 1), (0xF0, 0x0161, 1), (0xF1, 0x0144, 1), (0xF2, 0x0146, 1),
   (0xF3, 0x00F3, 1), (0xF4, 0x014D, 1), (0xF5, 0x00F5, 3), (0xF8, 0x0173, 1), (0xF9, 0x0142, 1),
   (0xFA, 0x015B, 1), (0xFB, 0x016B, 1), (0xFC, 0x00FC, 1), (0xFD, 0x017C, 1), (0xFE, 0x017E, 1),
   (0xFF, 0x2019, 1)]

/-- The page of ISO 8859-14. -/
def iso8859Part14 : Page :=
  [(0x80, 0x0080, 33), (0xA1, 0x1E02, 2), (0xA3, 0x00A3, 1), (0xA4, 0x010A, 2), (0xA6, 0x1E0A, 1),
   (0xA7, 0x00A7, 1), (0xA8, 0x1E80, 1), (0xA9, 0x00A9, 1), (0xAA, 0x1E82, 1), (0xAB, 0x1E0B, 1),
   (0xAC, 0x1EF2, 1), (0xAD, 0x00AD, 2), (0xAF, 0x0178, 1), (0xB0, 0x1E1E, 2), (0xB2, 0x0120, 2),
   (0xB4, 0x1E40, 2), (0xB6, 0x00B6, 1), (0xB7, 0x1E56, 1), (0xB8, 0x1E81, 1), (0xB9, 0x1E57, 1),
   (0xBA, 0x1E83, 1), (0xBB, 0x1E60, 1), (0xBC, 0x1EF3, 1), (0xBD, 0x1E84, 2), (0xBF, 0x1E61, 1),
   (0xC0, 0x00C0, 16), (0xD0, 0x0174, 1), (0xD1, 0x00D1, 6), (0xD7, 0x1E6A, 1), (0xD8, 0x00D8, 6),
   (0xDE, 0x0176, 1), (0xDF, 0x00DF, 17), (0xF0, 0x0175, 1), (0xF1, 0x00F1, 6), (0xF7, 0x1E6B, 1),
   (0xF8, 0x00F8, 6), (0xFE, 0x0177, 1), (0xFF, 0x00FF, 1)]

/-- The page of ISO 8859-15. -/
def iso8859Part15 : Page :=
  [(0x80, 0x0080, 36), (0xA4, 0x20AC, 1), (0xA5, 0x00A5, 1), (0xA6, 0x0160, 1), (0xA7, 0x00A7, 1),
   (0xA8, 0x0161, 1), (0xA9, 0x00A9, 11), (0xB4, 0x017D, 1), (0xB5, 0x00B5, 3), (0xB8, 0x017E, 1),
   (0xB9, 0x00B9, 3), (0xBC, 0x0152, 2), (0xBE, 0x0178, 1), (0xBF, 0x00BF, 65)]

/-- The page of ISO 8859-16. -/
def iso8859Part16 : Page :=
  [(0x80, 0x0080, 33), (0xA1, 0x0104, 2), (0xA3, 0x0141, 1), (0xA4, 0x20AC, 1), (0xA5, 0x201E, 1),
   (0xA6, 0x0160, 1), (0xA7, 0x00A7, 1), (0xA8, 0x0161, 1), (0xA9, 0x00A9, 1), (0xAA, 0x0218, 1),
   (0xAB, 0x00AB, 1), (0xAC, 0x0179, 1), (0xAD, 0x00AD, 1), (0xAE, 0x017A, 2), (0xB0, 0x00B0, 2),
   (0xB2, 0x010C, 1), (0xB3, 0x0142, 1), (0xB4, 0x017D, 1), (0xB5, 0x201D, 1), (0xB6, 0x00B6, 2),
   (0xB8, 0x017E, 1), (0xB9, 0x010D, 1), (0xBA, 0x0219, 1), (0xBB, 0x00BB, 1), (0xBC, 0x0152, 2),
   (0xBE, 0x0178, 1), (0xBF, 0x017C, 1), (0xC0, 0x00C0, 3), (0xC3, 0x0102, 1), (0xC4, 0x00C4, 1),
   (0xC5, 0x0106, 1), (0xC6, 0x00C6, 10), (0xD0, 0x0110, 1), (0xD1, 0x0143, 1), (0xD2, 0x00D2, 3),
   (0xD5, 0x0150, 1), (0xD6, 0x00D6, 1), (0xD7, 0x015A, 1), (0xD8, 0x0170, 1), (0xD9, 0x00D9, 4),
   (0xDD, 0x0118, 1), (0xDE, 0x021A, 1), (0xDF, 0x00DF, 4), (0xE3, 0x0103, 1), (0xE4, 0x00E4, 1),
   (0xE5, 0x0107, 1), (0xE6, 0x00E6, 10), (0xF0, 0x0111, 1), (0xF1, 0x0144, 1), (0xF2, 0x00F2, 3),
   (0xF5, 0x0151, 1), (0xF6, 0x00F6, 1), (0xF7, 0x015B, 1), (0xF8, 0x0171, 1), (0xF9, 0x00F9, 4),
   (0xFD, 0x0119, 1), (0xFE, 0x021B, 1), (0xFF, 0x00FF, 1)]

end Page
end DocMarkup
