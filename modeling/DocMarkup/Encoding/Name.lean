import DocMarkup.Encoding.Page.Ebcdic
import DocMarkup.Encoding.Page.Ibm
import DocMarkup.Encoding.Page.Mac
import DocMarkup.Encoding.Page.Other
import DocMarkup.Encoding.Page.Windows
import DocMarkup.Encoding.Text

/-!
# Encodings by name

An encoding is known by a standard name and by other names. Case does not matter, and neither does
which punctuation stands between the parts of a name. The encoding of domain names has no name here.

Main definitions:

- {lit}`Encoding.register`: the encodings with their names.
- {lit}`Encoding.named?`: the encoding of a name.
-/

namespace DocMarkup
namespace Encoding

/-! ## Names -/

/-- Standard names, the other names of each, and the encodings. -/
abbrev Register := List (String × List String × Encoding)

/-- The encodings of Unicode, and those that write it in ASCII. -/
def unicode : Register :=
  [("utf_8", ["cp65001", "u8", "utf", "utf8", "utf8_ucs2", "utf8_ucs4"], .utf8),
   ("utf_8_sig", [], .utf8Marked),
   ("utf_7", ["u7", "unicode_1_1_utf_7", "utf7"], .utf7),
   ("utf_16", ["u16", "utf16"], .utf16 none),
   ("utf_16_le", ["unicodelittleunmarked", "utf_16le"], .utf16 (some .littleEndian)),
   ("utf_16_be", ["unicodebigunmarked", "utf_16be"], .utf16 (some .bigEndian)),
   ("utf_32", ["u32", "utf32"], .utf32 none),
   ("utf_32_le", ["utf_32le"], .utf32 (some .littleEndian)),
   ("utf_32_be", ["utf_32be"], .utf32 (some .bigEndian)),
   ("unicode_escape", [], .escaped false),
   ("raw_unicode_escape", [], .escaped true),
   ("punycode", [], .punycode),
   ("undefined", [], .undefined)]

/-- The code pages. -/
def pages : Register :=
  [("ascii", ["646", "ansi_x3.4_1968", "ansi_x3.4_1986", "ansi_x3_4_1968", "cp367", "csascii",
     "ibm367", "iso646_us", "iso_646.irv_1991", "iso_ir_6", "us", "us_ascii"], .page Page.ascii),
   ("latin_1", ["8859", "cp819", "csisolatin1", "ibm819", "iso8859", "iso8859_1", "iso_8859_1",
     "iso_8859_1_1987", "iso_ir_100", "l1", "latin", "latin1"], .page Page.latin1),
   ("charmap", [], .page Page.latin1),
   ("iso8859_2", ["csisolatin2", "iso_8859_2", "iso_8859_2_1987", "iso_ir_101", "l2", "latin2"],
     .page Page.iso8859Part2),
   ("iso8859_3", ["csisolatin3", "iso_8859_3", "iso_8859_3_1988", "iso_ir_109", "l3", "latin3"],
     .page Page.iso8859Part3),
   ("iso8859_4", ["csisolatin4", "iso_8859_4", "iso_8859_4_1988", "iso_ir_110", "l4", "latin4"],
     .page Page.iso8859Part4),
   ("iso8859_5", ["csisolatincyrillic", "cyrillic", "iso_8859_5", "iso_8859_5_1988", "iso_ir_144"],
     .page Page.iso8859Part5),
   ("iso8859_6", ["arabic", "asmo_708", "csisolatinarabic", "ecma_114", "iso_8859_6",
     "iso_8859_6_1987", "iso_ir_127"], .page Page.iso8859Part6),
   ("iso8859_7", ["csisolatingreek", "ecma_118", "elot_928", "greek", "greek8", "iso_8859_7",
     "iso_8859_7_1987", "iso_ir_126"], .page Page.iso8859Part7),
   ("iso8859_8", ["csisolatinhebrew", "hebrew", "iso_8859_8", "iso_8859_8_1988", "iso_ir_138"],
     .page Page.iso8859Part8),
   ("iso8859_9", ["csisolatin5", "iso_8859_9", "iso_8859_9_1989", "iso_ir_148", "l5", "latin5"],
     .page Page.iso8859Part9),
   ("iso8859_10", ["csisolatin6", "iso_8859_10", "iso_8859_10_1992", "iso_ir_157", "l6", "latin6"],
     .page Page.iso8859Part10),
   ("iso8859_11", ["iso_8859_11", "iso_8859_11_2001", "thai"], .page Page.iso8859Part11),
   ("iso8859_13", ["iso_8859_13", "l7", "latin7"], .page Page.iso8859Part13),
   ("iso8859_14", ["iso_8859_14", "iso_8859_14_1998", "iso_celtic", "iso_ir_199", "l8", "latin8"],
     .page Page.iso8859Part14),
   ("iso8859_15", ["iso_8859_15", "l9", "latin9"], .page Page.iso8859Part15),
   ("iso8859_16", ["iso_8859_16", "iso_8859_16_2001", "iso_ir_226", "l10", "latin10"],
     .page Page.iso8859Part16),
   ("cp1250", ["1250", "windows_1250"], .page Page.windows1250),
   ("cp1251", ["1251", "windows_1251"], .page Page.windows1251),
   ("cp1252", ["1252", "windows_1252"], .page Page.windows1252),
   ("cp1253", ["1253", "windows_1253"], .page Page.windows1253),
   ("cp1254", ["1254", "windows_1254"], .page Page.windows1254),
   ("cp1255", ["1255", "windows_1255"], .page Page.windows1255),
   ("cp1256", ["1256", "windows_1256"], .page Page.windows1256),
   ("cp1257", ["1257", "windows_1257"], .page Page.windows1257),
   ("cp1258", ["1258", "windows_1258"], .page Page.windows1258),
   ("cp874", [], .page Page.windows874),
   ("cp437", ["437", "cspc8codepage437", "ibm437"], .page Page.ibm437),
   ("cp720", [], .page Page.ibm720),
   ("cp737", [], .page Page.ibm737),
   ("cp775", ["775", "cspc775baltic", "ibm775"], .page Page.ibm775),
   ("cp850", ["850", "cspc850multilingual", "ibm850"], .page Page.ibm850),
   ("cp852", ["852", "cspcp852", "ibm852"], .page Page.ibm852),
   ("cp855", ["855", "csibm855", "ibm855"], .page Page.ibm855),
   ("cp856", [], .page Page.ibm856),
   ("cp857", ["857", "csibm857", "ibm857"], .page Page.ibm857),
   ("cp858", ["858", "csibm858", "ibm858"], .page Page.ibm858),
   ("cp860", ["860", "csibm860", "ibm860"], .page Page.ibm860),
   ("cp861", ["861", "cp_is", "csibm861", "ibm861"], .page Page.ibm861),
   ("cp862", ["862", "cspc862latinhebrew", "ibm862"], .page Page.ibm862),
   ("cp863", ["863", "csibm863", "ibm863"], .page Page.ibm863),
   ("cp864", ["864", "csibm864", "ibm864"], .page Page.ibm864),
   ("cp865", ["865", "csibm865", "ibm865"], .page Page.ibm865),
   ("cp866", ["866", "csibm866", "ibm866"], .page Page.ibm866),
   ("cp869", ["869", "cp_gr", "csibm869", "ibm869"], .page Page.ibm869),
   ("cp1006", [], .page Page.ibm1006),
   ("cp1125", ["1125", "cp866u", "ibm1125", "ruscii"], .page Page.ibm1125),
   ("cp037", ["037", "csibm037", "ebcdic_cp_ca", "ebcdic_cp_nl", "ebcdic_cp_us", "ebcdic_cp_wt",
     "ibm037", "ibm039"], .page Page.ibm037),
   ("cp273", ["273", "csibm273", "ibm273"], .page Page.ibm273),
   ("cp424", ["424", "csibm424", "ebcdic_cp_he", "ibm424"], .page Page.ibm424),
   ("cp500", ["500", "csibm500", "ebcdic_cp_be", "ebcdic_cp_ch", "ibm500"], .page Page.ibm500),
   ("cp875", [], .page Page.ibm875),
   ("cp1026", ["1026", "csibm1026", "ibm1026"], .page Page.ibm1026),
   ("cp1140", ["1140", "ibm1140"], .page Page.ibm1140),
   ("mac_arabic", [], .page Page.macArabic),
   ("mac_croatian", [], .page Page.macCroatian),
   ("mac_cyrillic", ["maccyrillic"], .page Page.macCyrillic),
   ("mac_farsi", [], .page Page.macFarsi),
   ("mac_greek", ["macgreek"], .page Page.macGreek),
   ("mac_iceland", ["maciceland"], .page Page.macIceland),
   ("mac_latin2", ["mac_centeuro", "maccentraleurope", "maclatin2"], .page Page.macLatin2),
   ("mac_roman", ["macintosh", "macroman"], .page Page.macRoman),
   ("mac_romanian", [], .page Page.macRomanian),
   ("mac_turkish", ["macturkish"], .page Page.macTurkish),
   ("koi8_r", ["cskoi8r"], .page Page.koi8R),
   ("koi8_t", [], .page Page.koi8T),
   ("koi8_u", [], .page Page.koi8U),
   ("kz1048", ["kz_1048", "rk1048", "strk1048_2002"], .page Page.kz1048),
   ("ptcp154", ["cp154", "csptcp154", "cyrillic_asian", "pt154"], .page Page.ptcp154),
   ("hp_roman8", ["cp1051", "ibm1051", "r8", "roman8"], .page Page.hpRoman8),
   ("palmos", [], .page Page.palmOs),
   ("tis_620", ["iso_ir_166", "tis620", "tis_620_0", "tis_620_2529_0", "tis_620_2529_1"],
     .page Page.tis620)]

/-- The encodings of Japanese, Korean and Chinese. -/
def eastAsian : Register :=
  [("euc_jp", ["eucjp", "u_jis", "ujis"], .codes Japanese.eucJp),
   ("euc_jis_2004", ["euc_jis2004", "eucjis2004", "jisx0213"], .codes (Japanese.euc0213 .of2004)),
   ("euc_jisx0213", ["eucjisx0213"], .codes (Japanese.euc0213 .of2000)),
   ("shift_jis", ["csshiftjis", "s_jis", "shiftjis", "sjis", "x_mac_japanese"],
     .codes Japanese.shiftJis),
   ("shift_jis_2004", ["s_jis_2004", "shiftjis2004", "sjis_2004"],
     .codes (Japanese.shift0213 .of2004)),
   ("shift_jisx0213", ["s_jisx0213", "shiftjisx0213", "sjisx0213"],
     .codes (Japanese.shift0213 .of2000)),
   ("cp932", ["932", "ms932", "ms_kanji", "mskanji"], .codes Japanese.windows932),
   ("euc_kr", ["euckr", "korean", "ks_c_5601", "ks_c_5601_1987", "ks_x_1001", "ksc5601", "ksx1001",
     "x_mac_korean"], .codes Korean.eucKr),
   ("cp949", ["949", "ms949", "uhc"], .codes Korean.windows949),
   ("johab", ["cp1361", "ms1361"], .codes Korean.johab),
   ("gb2312", ["chinese", "csiso58gb231280", "euc_cn", "euccn", "eucgb2312_cn", "gb2312_1980",
     "gb2312_80", "iso_ir_58", "x_mac_simp_chinese"], .codes Chinese.gb2312),
   ("gbk", ["936", "cp936", "ms936"], .codes Chinese.gbk),
   ("gb18030", ["gb18030_2000"], .codes Chinese.gb18030),
   ("hz", ["hz_gb", "hz_gb_2312", "hzgb"], .hz),
   ("big5", ["big5_tw", "csbig5", "x_mac_trad_chinese"], .codes Chinese.big5),
   ("cp950", ["950", "ms950"], .codes Chinese.windows950),
   ("big5hkscs", ["big5_hkscs", "hkscs"], .codes Chinese.big5Hkscs),
   ("iso2022_jp", ["csiso2022jp", "iso2022jp", "iso_2022_jp"], .iso2022 .japanese),
   ("iso2022_jp_1", ["iso2022jp_1", "iso_2022_jp_1"], .iso2022 .japanese1),
   ("iso2022_jp_2", ["iso2022jp_2", "iso_2022_jp_2"], .iso2022 .japanese2),
   ("iso2022_jp_3", ["iso2022jp_3", "iso_2022_jp_3"], .iso2022 .japanese3),
   ("iso2022_jp_2004", ["iso2022jp_2004", "iso_2022_jp_2004"], .iso2022 .japanese2004),
   ("iso2022_jp_ext", ["iso2022jp_ext", "iso_2022_jp_ext"], .iso2022 .japaneseExtended),
   ("iso2022_kr", ["csiso2022kr", "iso2022kr", "iso_2022_kr"], .iso2022 .korean)]

/-- All encodings with their names. -/
def register : Register := unicode ++ pages ++ eastAsian

/-- The parts of a name: runs of letters, digits and dots, in lower case. -/
def nameParts : Text → List Text
  | [] => []
  | c :: rest =>
    if Text.isLetter c || Text.isDigit c || c == '.' then
      match rest with
      | d :: _ =>
        if Text.isLetter d || Text.isDigit d || d == '.' then
          match nameParts rest with
          | part :: parts => (c.toLower :: part) :: parts
          | [] => [[c.toLower]]
        else [c.toLower] :: nameParts rest
      | [] => [[c.toLower]]
    else nameParts rest

/-- A name with one underscore between its parts. -/
def normalName (name : Text) : Text := ['_'].intercalate (nameParts name)

/-- The encoding of another name. -/
def ofOtherName? (name : Text) : Option Encoding :=
  (register.find? fun entry => entry.2.1.any (·.toList = name)).map fun entry => entry.2.2

/-- The encoding of a standard name. -/
def ofStandardName? (name : Text) : Option Encoding :=
  (register.find? fun entry => entry.1.toList = name).map fun entry => entry.2.2

/-- The encoding of a name. A dot in one of the other names may stand for an underscore. -/
def named? (name : Text) : Option Encoding :=
  let name := normalName name
  (ofOtherName? name).or <|
    (ofOtherName? (name.map fun c => if c = '.' then '_' else c)).or (ofStandardName? name)

end Encoding
end DocMarkup
