import DocMarkup.Encoding.Page

/-!
# Code pages of EBCDIC

The letters and digits of these pages have other bytes than in ASCII.
-/

namespace DocMarkup
namespace Page

/-- The page of IBM 037, for English. -/
def ibm037 : Page :=
  [(0x00, 0x0000, 4), (0x04, 0x009C, 1), (0x05, 0x0009, 1), (0x06, 0x0086, 1), (0x07, 0x007F, 1),
   (0x08, 0x0097, 1), (0x09, 0x008D, 2), (0x0B, 0x000B, 9), (0x14, 0x009D, 1), (0x15, 0x0085, 1),
   (0x16, 0x0008, 1), (0x17, 0x0087, 1), (0x18, 0x0018, 2), (0x1A, 0x0092, 1), (0x1B, 0x008F, 1),
   (0x1C, 0x001C, 4), (0x20, 0x0080, 5), (0x25, 0x000A, 1), (0x26, 0x0017, 1), (0x27, 0x001B, 1),
   (0x28, 0x0088, 5), (0x2D, 0x0005, 3), (0x30, 0x0090, 2), (0x32, 0x0016, 1), (0x33, 0x0093, 4),
   (0x37, 0x0004, 1), (0x38, 0x0098, 4), (0x3C, 0x0014, 2), (0x3E, 0x009E, 1), (0x3F, 0x001A, 1),
   (0x40, 0x0020, 1), (0x41, 0x00A0, 1), (0x42, 0x00E2, 1), (0x43, 0x00E4, 1), (0x44, 0x00E0, 2),
   (0x46, 0x00E3, 1), (0x47, 0x00E5, 1), (0x48, 0x00E7, 1), (0x49, 0x00F1, 1), (0x4A, 0x00A2, 1),
   (0x4B, 0x002E, 1), (0x4C, 0x003C, 1), (0x4D, 0x0028, 1), (0x4E, 0x002B, 1), (0x4F, 0x007C, 1),
   (0x50, 0x0026, 1), (0x51, 0x00E9, 3), (0x54, 0x00E8, 1), (0x55, 0x00ED, 3), (0x58, 0x00EC, 1),
   (0x59, 0x00DF, 1), (0x5A, 0x0021, 1), (0x5B, 0x0024, 1), (0x5C, 0x002A, 1), (0x5D, 0x0029, 1),
   (0x5E, 0x003B, 1), (0x5F, 0x00AC, 1), (0x60, 0x002D, 1), (0x61, 0x002F, 1), (0x62, 0x00C2, 1),
   (0x63, 0x00C4, 1), (0x64, 0x00C0, 2), (0x66, 0x00C3, 1), (0x67, 0x00C5, 1), (0x68, 0x00C7, 1),
   (0x69, 0x00D1, 1), (0x6A, 0x00A6, 1), (0x6B, 0x002C, 1), (0x6C, 0x0025, 1), (0x6D, 0x005F, 1),
   (0x6E, 0x003E, 2), (0x70, 0x00F8, 1), (0x71, 0x00C9, 3), (0x74, 0x00C8, 1), (0x75, 0x00CD, 3),
   (0x78, 0x00CC, 1), (0x79, 0x0060, 1), (0x7A, 0x003A, 1), (0x7B, 0x0023, 1), (0x7C, 0x0040, 1),
   (0x7D, 0x0027, 1), (0x7E, 0x003D, 1), (0x7F, 0x0022, 1), (0x80, 0x00D8, 1), (0x81, 0x0061, 9),
   (0x8A, 0x00AB, 1), (0x8B, 0x00BB, 1), (0x8C, 0x00F0, 1), (0x8D, 0x00FD, 2), (0x8F, 0x00B1, 1),
   (0x90, 0x00B0, 1), (0x91, 0x006A, 9), (0x9A, 0x00AA, 1), (0x9B, 0x00BA, 1), (0x9C, 0x00E6, 1),
   (0x9D, 0x00B8, 1), (0x9E, 0x00C6, 1), (0x9F, 0x00A4, 1), (0xA0, 0x00B5, 1), (0xA1, 0x007E, 1),
   (0xA2, 0x0073, 8), (0xAA, 0x00A1, 1), (0xAB, 0x00BF, 1), (0xAC, 0x00D0, 1), (0xAD, 0x00DD, 2),
   (0xAF, 0x00AE, 1), (0xB0, 0x005E, 1), (0xB1, 0x00A3, 1), (0xB2, 0x00A5, 1), (0xB3, 0x00B7, 1),
   (0xB4, 0x00A9, 1), (0xB5, 0x00A7, 1), (0xB6, 0x00B6, 1), (0xB7, 0x00BC, 3), (0xBA, 0x005B, 1),
   (0xBB, 0x005D, 1), (0xBC, 0x00AF, 1), (0xBD, 0x00A8, 1), (0xBE, 0x00B4, 1), (0xBF, 0x00D7, 1),
   (0xC0, 0x007B, 1), (0xC1, 0x0041, 9), (0xCA, 0x00AD, 1), (0xCB, 0x00F4, 1), (0xCC, 0x00F6, 1),
   (0xCD, 0x00F2, 2), (0xCF, 0x00F5, 1), (0xD0, 0x007D, 1), (0xD1, 0x004A, 9), (0xDA, 0x00B9, 1),
   (0xDB, 0x00FB, 2), (0xDD, 0x00F9, 2), (0xDF, 0x00FF, 1), (0xE0, 0x005C, 1), (0xE1, 0x00F7, 1),
   (0xE2, 0x0053, 8), (0xEA, 0x00B2, 1), (0xEB, 0x00D4, 1), (0xEC, 0x00D6, 1), (0xED, 0x00D2, 2),
   (0xEF, 0x00D5, 1), (0xF0, 0x0030, 10), (0xFA, 0x00B3, 1), (0xFB, 0x00DB, 2), (0xFD, 0x00D9, 2),
   (0xFF, 0x009F, 1)]

/-- The page of IBM 273, for German. -/
def ibm273 : Page :=
  [(0x00, 0x0000, 4), (0x04, 0x009C, 1), (0x05, 0x0009, 1), (0x06, 0x0086, 1), (0x07, 0x007F, 1),
   (0x08, 0x0097, 1), (0x09, 0x008D, 2), (0x0B, 0x000B, 9), (0x14, 0x009D, 1), (0x15, 0x0085, 1),
   (0x16, 0x0008, 1), (0x17, 0x0087, 1), (0x18, 0x0018, 2), (0x1A, 0x0092, 1), (0x1B, 0x008F, 1),
   (0x1C, 0x001C, 4), (0x20, 0x0080, 5), (0x25, 0x000A, 1), (0x26, 0x0017, 1), (0x27, 0x001B, 1),
   (0x28, 0x0088, 5), (0x2D, 0x0005, 3), (0x30, 0x0090, 2), (0x32, 0x0016, 1), (0x33, 0x0093, 4),
   (0x37, 0x0004, 1), (0x38, 0x0098, 4), (0x3C, 0x0014, 2), (0x3E, 0x009E, 1), (0x3F, 0x001A, 1),
   (0x40, 0x0020, 1), (0x41, 0x00A0, 1), (0x42, 0x00E2, 1), (0x43, 0x007B, 1), (0x44, 0x00E0, 2),
   (0x46, 0x00E3, 1), (0x47, 0x00E5, 1), (0x48, 0x00E7, 1), (0x49, 0x00F1, 1), (0x4A, 0x00C4, 1),
   (0x4B, 0x002E, 1), (0x4C, 0x003C, 1), (0x4D, 0x0028, 1), (0x4E, 0x002B, 1), (0x4F, 0x0021, 1),
   (0x50, 0x0026, 1), (0x51, 0x00E9, 3), (0x54, 0x00E8, 1), (0x55, 0x00ED, 3), (0x58, 0x00EC, 1),
   (0x59, 0x007E, 1), (0x5A, 0x00DC, 1), (0x5B, 0x0024, 1), (0x5C, 0x002A, 1), (0x5D, 0x0029, 1),
   (0x5E, 0x003B, 1), (0x5F, 0x005E, 1), (0x60, 0x002D, 1), (0x61, 0x002F, 1), (0x62, 0x00C2, 1),
   (0x63, 0x005B, 1), (0x64, 0x00C0, 2), (0x66, 0x00C3, 1), (0x67, 0x00C5, 1), (0x68, 0x00C7, 1),
   (0x69, 0x00D1, 1), (0x6A, 0x00F6, 1), (0x6B, 0x002C, 1), (0x6C, 0x0025, 1), (0x6D, 0x005F, 1),
   (0x6E, 0x003E, 2), (0x70, 0x00F8, 1), (0x71, 0x00C9, 3), (0x74, 0x00C8, 1), (0x75, 0x00CD, 3),
   (0x78, 0x00CC, 1), (0x79, 0x0060, 1), (0x7A, 0x003A, 1), (0x7B, 0x0023, 1), (0x7C, 0x00A7, 1),
   (0x7D, 0x0027, 1), (0x7E, 0x003D, 1), (0x7F, 0x0022, 1), (0x80, 0x00D8, 1), (0x81, 0x0061, 9),
   (0x8A, 0x00AB, 1), (0x8B, 0x00BB, 1), (0x8C, 0x00F0, 1), (0x8D, 0x00FD, 2), (0x8F, 0x00B1, 1),
   (0x90, 0x00B0, 1), (0x91, 0x006A, 9), (0x9A, 0x00AA, 1), (0x9B, 0x00BA, 1), (0x9C, 0x00E6, 1),
   (0x9D, 0x00B8, 1), (0x9E, 0x00C6, 1), (0x9F, 0x00A4, 1), (0xA0, 0x00B5, 1), (0xA1, 0x00DF, 1),
   (0xA2, 0x0073, 8), (0xAA, 0x00A1, 1), (0xAB, 0x00BF, 1), (0xAC, 0x00D0, 1), (0xAD, 0x00DD, 2),
   (0xAF, 0x00AE, 1), (0xB0, 0x00A2, 2), (0xB2, 0x00A5, 1), (0xB3, 0x00B7, 1), (0xB4, 0x00A9, 1),
   (0xB5, 0x0040, 1), (0xB6, 0x00B6, 1), (0xB7, 0x00BC, 3), (0xBA, 0x00AC, 1), (0xBB, 0x007C, 1),
   (0xBC, 0x203E, 1), (0xBD, 0x00A8, 1), (0xBE, 0x00B4, 1), (0xBF, 0x00D7, 1), (0xC0, 0x00E4, 1),
   (0xC1, 0x0041, 9), (0xCA, 0x00AD, 1), (0xCB, 0x00F4, 1), (0xCC, 0x00A6, 1), (0xCD, 0x00F2, 2),
   (0xCF, 0x00F5, 1), (0xD0, 0x00FC, 1), (0xD1, 0x004A, 9), (0xDA, 0x00B9, 1), (0xDB, 0x00FB, 1),
   (0xDC, 0x007D, 1), (0xDD, 0x00F9, 2), (0xDF, 0x00FF, 1), (0xE0, 0x00D6, 1), (0xE1, 0x00F7, 1),
   (0xE2, 0x0053, 8), (0xEA, 0x00B2, 1), (0xEB, 0x00D4, 1), (0xEC, 0x005C, 1), (0xED, 0x00D2, 2),
   (0xEF, 0x00D5, 1), (0xF0, 0x0030, 10), (0xFA, 0x00B3, 1), (0xFB, 0x00DB, 1), (0xFC, 0x005D, 1),
   (0xFD, 0x00D9, 2), (0xFF, 0x009F, 1)]

/-- The page of IBM 424, for Hebrew. -/
def ibm424 : Page :=
  [(0x00, 0x0000, 4), (0x04, 0x009C, 1), (0x05, 0x0009, 1), (0x06, 0x0086, 1), (0x07, 0x007F, 1),
   (0x08, 0x0097, 1), (0x09, 0x008D, 2), (0x0B, 0x000B, 9), (0x14, 0x009D, 1), (0x15, 0x0085, 1),
   (0x16, 0x0008, 1), (0x17, 0x0087, 1), (0x18, 0x0018, 2), (0x1A, 0x0092, 1), (0x1B, 0x008F, 1),
   (0x1C, 0x001C, 4), (0x20, 0x0080, 5), (0x25, 0x000A, 1), (0x26, 0x0017, 1), (0x27, 0x001B, 1),
   (0x28, 0x0088, 5), (0x2D, 0x0005, 3), (0x30, 0x0090, 2), (0x32, 0x0016, 1), (0x33, 0x0093, 4),
   (0x37, 0x0004, 1), (0x38, 0x0098, 4), (0x3C, 0x0014, 2), (0x3E, 0x009E, 1), (0x3F, 0x001A, 1),
   (0x40, 0x0020, 1), (0x41, 0x05D0, 9), (0x4A, 0x00A2, 1), (0x4B, 0x002E, 1), (0x4C, 0x003C, 1),
   (0x4D, 0x0028, 1), (0x4E, 0x002B, 1), (0x4F, 0x007C, 1), (0x50, 0x0026, 1), (0x51, 0x05D9, 9),
   (0x5A, 0x0021, 1), (0x5B, 0x0024, 1), (0x5C, 0x002A, 1), (0x5D, 0x0029, 1), (0x5E, 0x003B, 1),
   (0x5F, 0x00AC, 1), (0x60, 0x002D, 1), (0x61, 0x002F, 1), (0x62, 0x05E2, 8), (0x6A, 0x00A6, 1),
   (0x6B, 0x002C, 1), (0x6C, 0x0025, 1), (0x6D, 0x005F, 1), (0x6E, 0x003E, 2), (0x70, 0x110000, 1),
   (0x71, 0x05EA, 1), (0x72, 0x110000, 2), (0x74, 0x00A0, 1), (0x75, 0x110000, 3),
   (0x78, 0x2017, 1), (0x79, 0x0060, 1), (0x7A, 0x003A, 1), (0x7B, 0x0023, 1), (0x7C, 0x0040, 1),
   (0x7D, 0x0027, 1), (0x7E, 0x003D, 1), (0x7F, 0x0022, 1), (0x81, 0x0061, 9), (0x8A, 0x00AB, 1),
   (0x8B, 0x00BB, 1), (0x8F, 0x00B1, 1), (0x90, 0x00B0, 1), (0x91, 0x006A, 9), (0x9D, 0x00B8, 1),
   (0x9F, 0x00A4, 1), (0xA0, 0x00B5, 1), (0xA1, 0x007E, 1), (0xA2, 0x0073, 8), (0xAF, 0x00AE, 1),
   (0xB0, 0x005E, 1), (0xB1, 0x00A3, 1), (0xB2, 0x00A5, 1), (0xB3, 0x00B7, 1), (0xB4, 0x00A9, 1),
   (0xB5, 0x00A7, 1), (0xB6, 0x00B6, 1), (0xB7, 0x00BC, 3), (0xBA, 0x005B, 1), (0xBB, 0x005D, 1),
   (0xBC, 0x00AF, 1), (0xBD, 0x00A8, 1), (0xBE, 0x00B4, 1), (0xBF, 0x00D7, 1), (0xC0, 0x007B, 1),
   (0xC1, 0x0041, 9), (0xCA, 0x00AD, 1), (0xD0, 0x007D, 1), (0xD1, 0x004A, 9), (0xDA, 0x00B9, 1),
   (0xE0, 0x005C, 1), (0xE1, 0x00F7, 1), (0xE2, 0x0053, 8), (0xEA, 0x00B2, 1), (0xF0, 0x0030, 10),
   (0xFA, 0x00B3, 1), (0xFF, 0x009F, 1)]

/-- The page of IBM 500. -/
def ibm500 : Page :=
  [(0x00, 0x0000, 4), (0x04, 0x009C, 1), (0x05, 0x0009, 1), (0x06, 0x0086, 1), (0x07, 0x007F, 1),
   (0x08, 0x0097, 1), (0x09, 0x008D, 2), (0x0B, 0x000B, 9), (0x14, 0x009D, 1), (0x15, 0x0085, 1),
   (0x16, 0x0008, 1), (0x17, 0x0087, 1), (0x18, 0x0018, 2), (0x1A, 0x0092, 1), (0x1B, 0x008F, 1),
   (0x1C, 0x001C, 4), (0x20, 0x0080, 5), (0x25, 0x000A, 1), (0x26, 0x0017, 1), (0x27, 0x001B, 1),
   (0x28, 0x0088, 5), (0x2D, 0x0005, 3), (0x30, 0x0090, 2), (0x32, 0x0016, 1), (0x33, 0x0093, 4),
   (0x37, 0x0004, 1), (0x38, 0x0098, 4), (0x3C, 0x0014, 2), (0x3E, 0x009E, 1), (0x3F, 0x001A, 1),
   (0x40, 0x0020, 1), (0x41, 0x00A0, 1), (0x42, 0x00E2, 1), (0x43, 0x00E4, 1), (0x44, 0x00E0, 2),
   (0x46, 0x00E3, 1), (0x47, 0x00E5, 1), (0x48, 0x00E7, 1), (0x49, 0x00F1, 1), (0x4A, 0x005B, 1),
   (0x4B, 0x002E, 1), (0x4C, 0x003C, 1), (0x4D, 0x0028, 1), (0x4E, 0x002B, 1), (0x4F, 0x0021, 1),
   (0x50, 0x0026, 1), (0x51, 0x00E9, 3), (0x54, 0x00E8, 1), (0x55, 0x00ED, 3), (0x58, 0x00EC, 1),
   (0x59, 0x00DF, 1), (0x5A, 0x005D, 1), (0x5B, 0x0024, 1), (0x5C, 0x002A, 1), (0x5D, 0x0029, 1),
   (0x5E, 0x003B, 1), (0x5F, 0x005E, 1), (0x60, 0x002D, 1), (0x61, 0x002F, 1), (0x62, 0x00C2, 1),
   (0x63, 0x00C4, 1), (0x64, 0x00C0, 2), (0x66, 0x00C3, 1), (0x67, 0x00C5, 1), (0x68, 0x00C7, 1),
   (0x69, 0x00D1, 1), (0x6A, 0x00A6, 1), (0x6B, 0x002C, 1), (0x6C, 0x0025, 1), (0x6D, 0x005F, 1),
   (0x6E, 0x003E, 2), (0x70, 0x00F8, 1), (0x71, 0x00C9, 3), (0x74, 0x00C8, 1), (0x75, 0x00CD, 3),
   (0x78, 0x00CC, 1), (0x79, 0x0060, 1), (0x7A, 0x003A, 1), (0x7B, 0x0023, 1), (0x7C, 0x0040, 1),
   (0x7D, 0x0027, 1), (0x7E, 0x003D, 1), (0x7F, 0x0022, 1), (0x80, 0x00D8, 1), (0x81, 0x0061, 9),
   (0x8A, 0x00AB, 1), (0x8B, 0x00BB, 1), (0x8C, 0x00F0, 1), (0x8D, 0x00FD, 2), (0x8F, 0x00B1, 1),
   (0x90, 0x00B0, 1), (0x91, 0x006A, 9), (0x9A, 0x00AA, 1), (0x9B, 0x00BA, 1), (0x9C, 0x00E6, 1),
   (0x9D, 0x00B8, 1), (0x9E, 0x00C6, 1), (0x9F, 0x00A4, 1), (0xA0, 0x00B5, 1), (0xA1, 0x007E, 1),
   (0xA2, 0x0073, 8), (0xAA, 0x00A1, 1), (0xAB, 0x00BF, 1), (0xAC, 0x00D0, 1), (0xAD, 0x00DD, 2),
   (0xAF, 0x00AE, 1), (0xB0, 0x00A2, 2), (0xB2, 0x00A5, 1), (0xB3, 0x00B7, 1), (0xB4, 0x00A9, 1),
   (0xB5, 0x00A7, 1), (0xB6, 0x00B6, 1), (0xB7, 0x00BC, 3), (0xBA, 0x00AC, 1), (0xBB, 0x007C, 1),
   (0xBC, 0x00AF, 1), (0xBD, 0x00A8, 1), (0xBE, 0x00B4, 1), (0xBF, 0x00D7, 1), (0xC0, 0x007B, 1),
   (0xC1, 0x0041, 9), (0xCA, 0x00AD, 1), (0xCB, 0x00F4, 1), (0xCC, 0x00F6, 1), (0xCD, 0x00F2, 2),
   (0xCF, 0x00F5, 1), (0xD0, 0x007D, 1), (0xD1, 0x004A, 9), (0xDA, 0x00B9, 1), (0xDB, 0x00FB, 2),
   (0xDD, 0x00F9, 2), (0xDF, 0x00FF, 1), (0xE0, 0x005C, 1), (0xE1, 0x00F7, 1), (0xE2, 0x0053, 8),
   (0xEA, 0x00B2, 1), (0xEB, 0x00D4, 1), (0xEC, 0x00D6, 1), (0xED, 0x00D2, 2), (0xEF, 0x00D5, 1),
   (0xF0, 0x0030, 10), (0xFA, 0x00B3, 1), (0xFB, 0x00DB, 2), (0xFD, 0x00D9, 2), (0xFF, 0x009F, 1)]

/-- The page of IBM 875, for Greek. -/
def ibm875 : Page :=
  [(0x00, 0x0000, 4), (0x04, 0x009C, 1), (0x05, 0x0009, 1), (0x06, 0x0086, 1), (0x07, 0x007F, 1),
   (0x08, 0x0097, 1), (0x09, 0x008D, 2), (0x0B, 0x000B, 9), (0x14, 0x009D, 1), (0x15, 0x0085, 1),
   (0x16, 0x0008, 1), (0x17, 0x0087, 1), (0x18, 0x0018, 2), (0x1A, 0x0092, 1), (0x1B, 0x008F, 1),
   (0x1C, 0x001C, 4), (0x20, 0x0080, 5), (0x25, 0x000A, 1), (0x26, 0x0017, 1), (0x27, 0x001B, 1),
   (0x28, 0x0088, 5), (0x2D, 0x0005, 3), (0x30, 0x0090, 2), (0x32, 0x0016, 1), (0x33, 0x0093, 4),
   (0x37, 0x0004, 1), (0x38, 0x0098, 4), (0x3C, 0x0014, 2), (0x3E, 0x009E, 1), (0x3F, 0x001A, 1),
   (0x40, 0x0020, 1), (0x41, 0x0391, 9), (0x4A, 0x005B, 1), (0x4B, 0x002E, 1), (0x4C, 0x003C, 1),
   (0x4D, 0x0028, 1), (0x4E, 0x002B, 1), (0x4F, 0x0021, 1), (0x50, 0x0026, 1), (0x51, 0x039A, 8),
   (0x59, 0x03A3, 1), (0x5A, 0x005D, 1), (0x5B, 0x0024, 1), (0x5C, 0x002A, 1), (0x5D, 0x0029, 1),
   (0x5E, 0x003B, 1), (0x5F, 0x005E, 1), (0x60, 0x002D, 1), (0x61, 0x002F, 1), (0x62, 0x03A4, 8),
   (0x6A, 0x007C, 1), (0x6B, 0x002C, 1), (0x6C, 0x0025, 1), (0x6D, 0x005F, 1), (0x6E, 0x003E, 2),
   (0x70, 0x00A8, 1), (0x71, 0x0386, 1), (0x72, 0x0388, 2), (0x74, 0x00A0, 1), (0x75, 0x038A, 1),
   (0x76, 0x038C, 1), (0x77, 0x038E, 2), (0x79, 0x0060, 1), (0x7A, 0x003A, 1), (0x7B, 0x0023, 1),
   (0x7C, 0x0040, 1), (0x7D, 0x0027, 1), (0x7E, 0x003D, 1), (0x7F, 0x0022, 1), (0x80, 0x0385, 1),
   (0x81, 0x0061, 9), (0x8A, 0x03B1, 6), (0x90, 0x00B0, 1), (0x91, 0x006A, 9), (0x9A, 0x03B7, 6),
   (0xA0, 0x00B4, 1), (0xA1, 0x007E, 1), (0xA2, 0x0073, 8), (0xAA, 0x03BD, 5), (0xAF, 0x03C3, 1),
   (0xB0, 0x00A3, 1), (0xB1, 0x03AC, 3), (0xB4, 0x03CA, 1), (0xB5, 0x03AF, 1), (0xB6, 0x03CC, 2),
   (0xB8, 0x03CB, 1), (0xB9, 0x03CE, 1), (0xBA, 0x03C2, 1), (0xBB, 0x03C4, 5), (0xC0, 0x007B, 1),
   (0xC1, 0x0041, 9), (0xCA, 0x00AD, 1), (0xCB, 0x03C9, 1), (0xCC, 0x0390, 1), (0xCD, 0x03B0, 1),
   (0xCE, 0x2018, 1), (0xCF, 0x2015, 1), (0xD0, 0x007D, 1), (0xD1, 0x004A, 9), (0xDA, 0x00B1, 1),
   (0xDB, 0x00BD, 1), (0xDC, 0x001A, 1), (0xDD, 0x0387, 1), (0xDE, 0x2019, 1), (0xDF, 0x00A6, 1),
   (0xE0, 0x005C, 1), (0xE1, 0x001A, 1), (0xE2, 0x0053, 8), (0xEA, 0x00B2, 1), (0xEB, 0x00A7, 1),
   (0xEC, 0x001A, 1), (0xED, 0x001A, 1), (0xEE, 0x00AB, 2), (0xF0, 0x0030, 10), (0xFA, 0x00B3, 1),
   (0xFB, 0x00A9, 1), (0xFC, 0x001A, 1), (0xFD, 0x001A, 1), (0xFE, 0x00BB, 1), (0xFF, 0x009F, 1)]

/-- The page of IBM 1026, for Turkish. -/
def ibm1026 : Page :=
  [(0x00, 0x0000, 4), (0x04, 0x009C, 1), (0x05, 0x0009, 1), (0x06, 0x0086, 1), (0x07, 0x007F, 1),
   (0x08, 0x0097, 1), (0x09, 0x008D, 2), (0x0B, 0x000B, 9), (0x14, 0x009D, 1), (0x15, 0x0085, 1),
   (0x16, 0x0008, 1), (0x17, 0x0087, 1), (0x18, 0x0018, 2), (0x1A, 0x0092, 1), (0x1B, 0x008F, 1),
   (0x1C, 0x001C, 4), (0x20, 0x0080, 5), (0x25, 0x000A, 1), (0x26, 0x0017, 1), (0x27, 0x001B, 1),
   (0x28, 0x0088, 5), (0x2D, 0x0005, 3), (0x30, 0x0090, 2), (0x32, 0x0016, 1), (0x33, 0x0093, 4),
   (0x37, 0x0004, 1), (0x38, 0x0098, 4), (0x3C, 0x0014, 2), (0x3E, 0x009E, 1), (0x3F, 0x001A, 1),
   (0x40, 0x0020, 1), (0x41, 0x00A0, 1), (0x42, 0x00E2, 1), (0x43, 0x00E4, 1), (0x44, 0x00E0, 2),
   (0x46, 0x00E3, 1), (0x47, 0x00E5, 1), (0x48, 0x007B, 1), (0x49, 0x00F1, 1), (0x4A, 0x00C7, 1),
   (0x4B, 0x002E, 1), (0x4C, 0x003C, 1), (0x4D, 0x0028, 1), (0x4E, 0x002B, 1), (0x4F, 0x0021, 1),
   (0x50, 0x0026, 1), (0x51, 0x00E9, 3), (0x54, 0x00E8, 1), (0x55, 0x00ED, 3), (0x58, 0x00EC, 1),
   (0x59, 0x00DF, 1), (0x5A, 0x011E, 1), (0x5B, 0x0130, 1), (0x5C, 0x002A, 1), (0x5D, 0x0029, 1),
   (0x5E, 0x003B, 1), (0x5F, 0x005E, 1), (0x60, 0x002D, 1), (0x61, 0x002F, 1), (0x62, 0x00C2, 1),
   (0x63, 0x00C4, 1), (0x64, 0x00C0, 2), (0x66, 0x00C3, 1), (0x67, 0x00C5, 1), (0x68, 0x005B, 1),
   (0x69, 0x00D1, 1), (0x6A, 0x015F, 1), (0x6B, 0x002C, 1), (0x6C, 0x0025, 1), (0x6D, 0x005F, 1),
   (0x6E, 0x003E, 2), (0x70, 0x00F8, 1), (0x71, 0x00C9, 3), (0x74, 0x00C8, 1), (0x75, 0x00CD, 3),
   (0x78, 0x00CC, 1), (0x79, 0x0131, 1), (0x7A, 0x003A, 1), (0x7B, 0x00D6, 1), (0x7C, 0x015E, 1),
   (0x7D, 0x0027, 1), (0x7E, 0x003D, 1), (0x7F, 0x00DC, 1), (0x80, 0x00D8, 1), (0x81, 0x0061, 9),
   (0x8A, 0x00AB, 1), (0x8B, 0x00BB, 1), (0x8C, 0x007D, 1), (0x8D, 0x0060, 1), (0x8E, 0x00A6, 1),
   (0x8F, 0x00B1, 1), (0x90, 0x00B0, 1), (0x91, 0x006A, 9), (0x9A, 0x00AA, 1), (0x9B, 0x00BA, 1),
   (0x9C, 0x00E6, 1), (0x9D, 0x00B8, 1), (0x9E, 0x00C6, 1), (0x9F, 0x00A4, 1), (0xA0, 0x00B5, 1),
   (0xA1, 0x00F6, 1), (0xA2, 0x0073, 8), (0xAA, 0x00A1, 1), (0xAB, 0x00BF, 1), (0xAC, 0x005D, 1),
   (0xAD, 0x0024, 1), (0xAE, 0x0040, 1), (0xAF, 0x00AE, 1), (0xB0, 0x00A2, 2), (0xB2, 0x00A5, 1),
   (0xB3, 0x00B7, 1), (0xB4, 0x00A9, 1), (0xB5, 0x00A7, 1), (0xB6, 0x00B6, 1), (0xB7, 0x00BC, 3),
   (0xBA, 0x00AC, 1), (0xBB, 0x007C, 1), (0xBC, 0x00AF, 1), (0xBD, 0x00A8, 1), (0xBE, 0x00B4, 1),
   (0xBF, 0x00D7, 1), (0xC0, 0x00E7, 1), (0xC1, 0x0041, 9), (0xCA, 0x00AD, 1), (0xCB, 0x00F4, 1),
   (0xCC, 0x007E, 1), (0xCD, 0x00F2, 2), (0xCF, 0x00F5, 1), (0xD0, 0x011F, 1), (0xD1, 0x004A, 9),
   (0xDA, 0x00B9, 1), (0xDB, 0x00FB, 1), (0xDC, 0x005C, 1), (0xDD, 0x00F9, 2), (0xDF, 0x00FF, 1),
   (0xE0, 0x00FC, 1), (0xE1, 0x00F7, 1), (0xE2, 0x0053, 8), (0xEA, 0x00B2, 1), (0xEB, 0x00D4, 1),
   (0xEC, 0x0023, 1), (0xED, 0x00D2, 2), (0xEF, 0x00D5, 1), (0xF0, 0x0030, 10), (0xFA, 0x00B3, 1),
   (0xFB, 0x00DB, 1), (0xFC, 0x0022, 1), (0xFD, 0x00D9, 2), (0xFF, 0x009F, 1)]

/-- The page of IBM 1140, which is IBM 037 with the sign of the euro. -/
def ibm1140 : Page :=
  [(0x00, 0x0000, 4), (0x04, 0x009C, 1), (0x05, 0x0009, 1), (0x06, 0x0086, 1), (0x07, 0x007F, 1),
   (0x08, 0x0097, 1), (0x09, 0x008D, 2), (0x0B, 0x000B, 9), (0x14, 0x009D, 1), (0x15, 0x0085, 1),
   (0x16, 0x0008, 1), (0x17, 0x0087, 1), (0x18, 0x0018, 2), (0x1A, 0x0092, 1), (0x1B, 0x008F, 1),
   (0x1C, 0x001C, 4), (0x20, 0x0080, 5), (0x25, 0x000A, 1), (0x26, 0x0017, 1), (0x27, 0x001B, 1),
   (0x28, 0x0088, 5), (0x2D, 0x0005, 3), (0x30, 0x0090, 2), (0x32, 0x0016, 1), (0x33, 0x0093, 4),
   (0x37, 0x0004, 1), (0x38, 0x0098, 4), (0x3C, 0x0014, 2), (0x3E, 0x009E, 1), (0x3F, 0x001A, 1),
   (0x40, 0x0020, 1), (0x41, 0x00A0, 1), (0x42, 0x00E2, 1), (0x43, 0x00E4, 1), (0x44, 0x00E0, 2),
   (0x46, 0x00E3, 1), (0x47, 0x00E5, 1), (0x48, 0x00E7, 1), (0x49, 0x00F1, 1), (0x4A, 0x00A2, 1),
   (0x4B, 0x002E, 1), (0x4C, 0x003C, 1), (0x4D, 0x0028, 1), (0x4E, 0x002B, 1), (0x4F, 0x007C, 1),
   (0x50, 0x0026, 1), (0x51, 0x00E9, 3), (0x54, 0x00E8, 1), (0x55, 0x00ED, 3), (0x58, 0x00EC, 1),
   (0x59, 0x00DF, 1), (0x5A, 0x0021, 1), (0x5B, 0x0024, 1), (0x5C, 0x002A, 1), (0x5D, 0x0029, 1),
   (0x5E, 0x003B, 1), (0x5F, 0x00AC, 1), (0x60, 0x002D, 1), (0x61, 0x002F, 1), (0x62, 0x00C2, 1),
   (0x63, 0x00C4, 1), (0x64, 0x00C0, 2), (0x66, 0x00C3, 1), (0x67, 0x00C5, 1), (0x68, 0x00C7, 1),
   (0x69, 0x00D1, 1), (0x6A, 0x00A6, 1), (0x6B, 0x002C, 1), (0x6C, 0x0025, 1), (0x6D, 0x005F, 1),
   (0x6E, 0x003E, 2), (0x70, 0x00F8, 1), (0x71, 0x00C9, 3), (0x74, 0x00C8, 1), (0x75, 0x00CD, 3),
   (0x78, 0x00CC, 1), (0x79, 0x0060, 1), (0x7A, 0x003A, 1), (0x7B, 0x0023, 1), (0x7C, 0x0040, 1),
   (0x7D, 0x0027, 1), (0x7E, 0x003D, 1), (0x7F, 0x0022, 1), (0x80, 0x00D8, 1), (0x81, 0x0061, 9),
   (0x8A, 0x00AB, 1), (0x8B, 0x00BB, 1), (0x8C, 0x00F0, 1), (0x8D, 0x00FD, 2), (0x8F, 0x00B1, 1),
   (0x90, 0x00B0, 1), (0x91, 0x006A, 9), (0x9A, 0x00AA, 1), (0x9B, 0x00BA, 1), (0x9C, 0x00E6, 1),
   (0x9D, 0x00B8, 1), (0x9E, 0x00C6, 1), (0x9F, 0x20AC, 1), (0xA0, 0x00B5, 1), (0xA1, 0x007E, 1),
   (0xA2, 0x0073, 8), (0xAA, 0x00A1, 1), (0xAB, 0x00BF, 1), (0xAC, 0x00D0, 1), (0xAD, 0x00DD, 2),
   (0xAF, 0x00AE, 1), (0xB0, 0x005E, 1), (0xB1, 0x00A3, 1), (0xB2, 0x00A5, 1), (0xB3, 0x00B7, 1),
   (0xB4, 0x00A9, 1), (0xB5, 0x00A7, 1), (0xB6, 0x00B6, 1), (0xB7, 0x00BC, 3), (0xBA, 0x005B, 1),
   (0xBB, 0x005D, 1), (0xBC, 0x00AF, 1), (0xBD, 0x00A8, 1), (0xBE, 0x00B4, 1), (0xBF, 0x00D7, 1),
   (0xC0, 0x007B, 1), (0xC1, 0x0041, 9), (0xCA, 0x00AD, 1), (0xCB, 0x00F4, 1), (0xCC, 0x00F6, 1),
   (0xCD, 0x00F2, 2), (0xCF, 0x00F5, 1), (0xD0, 0x007D, 1), (0xD1, 0x004A, 9), (0xDA, 0x00B9, 1),
   (0xDB, 0x00FB, 2), (0xDD, 0x00F9, 2), (0xDF, 0x00FF, 1), (0xE0, 0x005C, 1), (0xE1, 0x00F7, 1),
   (0xE2, 0x0053, 8), (0xEA, 0x00B2, 1), (0xEB, 0x00D4, 1), (0xEC, 0x00D6, 1), (0xED, 0x00D2, 2),
   (0xEF, 0x00D5, 1), (0xF0, 0x0030, 10), (0xFA, 0x00B3, 1), (0xFB, 0x00DB, 2), (0xFD, 0x00D9, 2),
   (0xFF, 0x009F, 1)]

end Page
end DocMarkup
