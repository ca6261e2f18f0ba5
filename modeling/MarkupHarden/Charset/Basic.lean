import MarkupHarden.Charset.Table
import MarkupHarden.Text.Ascii
import MarkupHarden.Text.Blank

/-!
# Character sets

Every character set has a name, the labels by which documents refer to it, and
a coding that says how its bytes are read.
-/

namespace MarkupHarden

namespace Charset

/-- The order of the bytes of a unit. -/
inductive ByteOrder where
  | big
  | little
  deriving DecidableEq, Repr

/-- How the bytes of a character set are read. -/
inductive Coding where
  | utf8
  | utf16 (order : ByteOrder)
  /-- Content that must not be read at all. -/
  | replacement
  /-- ASCII and, for other bytes, characters for private use. -/
  | userDefined
  /-- ASCII and, for other bytes, the characters of a table. -/
  | singleByte (upper : Array Text.TableEntry)
  /-- Several bytes per character; only the ASCII part is read. -/
  | nameOnly
  deriving Repr

end Charset

/-- A character set. -/
structure Charset where
  name : String
  labels : List String
  coding : Charset.Coding
  deriving Repr

namespace Charset

/-- All character sets. -/
def all : List Charset :=
  [
    { name := "UTF-8"
      labels :=
      ["unicode-1-1-utf-8", "unicode11utf8", "unicode20utf8", "utf-8",
      "utf8", "x-unicode20utf8"]
      coding := .utf8 },
    { name := "IBM866"
      labels :=
      ["866", "cp866", "csibm866", "ibm866"]
      coding := .singleByte ibm866Table },
    { name := "ISO-8859-2"
      labels :=
      ["csisolatin2", "iso-8859-2", "iso-ir-101", "iso8859-2", "iso88592",
      "iso_8859-2", "iso_8859-2:1987", "l2", "latin2"]
      coding := .singleByte iso88592Table },
    { name := "ISO-8859-3"
      labels :=
      ["csisolatin3", "iso-8859-3", "iso-ir-109", "iso8859-3", "iso88593",
      "iso_8859-3", "iso_8859-3:1988", "l3", "latin3"]
      coding := .singleByte iso88593Table },
    { name := "ISO-8859-4"
      labels :=
      ["csisolatin4", "iso-8859-4", "iso-ir-110", "iso8859-4", "iso88594",
      "iso_8859-4", "iso_8859-4:1988", "l4", "latin4"]
      coding := .singleByte iso88594Table },
    { name := "ISO-8859-5"
      labels :=
      ["csisolatincyrillic", "cyrillic", "iso-8859-5", "iso-ir-144",
      "iso8859-5", "iso88595", "iso_8859-5", "iso_8859-5:1988"]
      coding := .singleByte iso88595Table },
    { name := "ISO-8859-6"
      labels :=
      ["arabic", "asmo-708", "csiso88596e", "csiso88596i",
      "csisolatinarabic", "ecma-114", "iso-8859-6", "iso-8859-6-e",
      "iso-8859-6-i", "iso-ir-127", "iso8859-6", "iso88596", "iso_8859-6",
      "iso_8859-6:1987"]
      coding := .singleByte iso88596Table },
    { name := "ISO-8859-7"
      labels :=
      ["csisolatingreek", "ecma-118", "elot_928", "greek", "greek8",
      "iso-8859-7", "iso-ir-126", "iso8859-7", "iso88597", "iso_8859-7",
      "iso_8859-7:1987", "sun_eu_greek"]
      coding := .singleByte iso88597Table },
    { name := "ISO-8859-8"
      labels :=
      ["csiso88598e", "csisolatinhebrew", "hebrew", "iso-8859-8",
      "iso-8859-8-e", "iso-ir-138", "iso8859-8", "iso88598", "iso_8859-8",
      "iso_8859-8:1988", "visual"]
      coding := .singleByte iso88598Table },
    { name := "ISO-8859-8-I"
      labels :=
      ["csiso88598i", "iso-8859-8-i", "logical"]
      coding := .singleByte iso88598Table },
    { name := "ISO-8859-10"
      labels :=
      ["csisolatin6", "iso-8859-10", "iso-ir-157", "iso8859-10", "iso885910",
      "l6", "latin6"]
      coding := .singleByte iso885910Table },
    { name := "ISO-8859-13"
      labels :=
      ["iso-8859-13", "iso8859-13", "iso885913"]
      coding := .singleByte iso885913Table },
    { name := "ISO-8859-14"
      labels :=
      ["iso-8859-14", "iso8859-14", "iso885914"]
      coding := .singleByte iso885914Table },
    { name := "ISO-8859-15"
      labels :=
      ["csisolatin9", "iso-8859-15", "iso8859-15", "iso885915",
      "iso_8859-15", "l9"]
      coding := .singleByte iso885915Table },
    { name := "ISO-8859-16"
      labels :=
      ["iso-8859-16"]
      coding := .singleByte iso885916Table },
    { name := "KOI8-R"
      labels :=
      ["cskoi8r", "koi", "koi8", "koi8-r", "koi8_r"]
      coding := .singleByte koi8rTable },
    { name := "KOI8-U"
      labels :=
      ["koi8-ru", "koi8-u"]
      coding := .singleByte koi8uTable },
    { name := "macintosh"
      labels :=
      ["csmacintosh", "mac", "macintosh", "x-mac-roman"]
      coding := .singleByte macintoshTable },
    { name := "windows-874"
      labels :=
      ["dos-874", "iso-8859-11", "iso8859-11", "iso885911", "tis-620",
      "windows-874"]
      coding := .singleByte windows874Table },
    { name := "windows-1250"
      labels :=
      ["cp1250", "windows-1250", "x-cp1250"]
      coding := .singleByte windows1250Table },
    { name := "windows-1251"
      labels :=
      ["cp1251", "windows-1251", "x-cp1251"]
      coding := .singleByte windows1251Table },
    { name := "windows-1252"
      labels :=
      ["ansi_x3.4-1968", "ascii", "cp1252", "cp819", "csisolatin1", "ibm819",
      "iso-8859-1", "iso-ir-100", "iso8859-1", "iso88591", "iso_8859-1",
      "iso_8859-1:1987", "l1", "latin1", "us-ascii", "windows-1252",
      "x-cp1252"]
      coding := .singleByte windows1252Table },
    { name := "windows-1253"
      labels :=
      ["cp1253", "windows-1253", "x-cp1253"]
      coding := .singleByte windows1253Table },
    { name := "windows-1254"
      labels :=
      ["cp1254", "csisolatin5", "iso-8859-9", "iso-ir-148", "iso8859-9",
      "iso88599", "iso_8859-9", "iso_8859-9:1989", "l5", "latin5",
      "windows-1254", "x-cp1254"]
      coding := .singleByte windows1254Table },
    { name := "windows-1255"
      labels :=
      ["cp1255", "windows-1255", "x-cp1255"]
      coding := .singleByte windows1255Table },
    { name := "windows-1256"
      labels :=
      ["cp1256", "windows-1256", "x-cp1256"]
      coding := .singleByte windows1256Table },
    { name := "windows-1257"
      labels :=
      ["cp1257", "windows-1257", "x-cp1257"]
      coding := .singleByte windows1257Table },
    { name := "windows-1258"
      labels :=
      ["cp1258", "windows-1258", "x-cp1258"]
      coding := .singleByte windows1258Table },
    { name := "x-mac-cyrillic"
      labels :=
      ["x-mac-cyrillic", "x-mac-ukrainian"]
      coding := .singleByte macCyrillicTable },
    { name := "GBK"
      labels :=
      ["chinese", "csgb2312", "csiso58gb231280", "gb2312", "gb_2312",
      "gb_2312-80", "gbk", "iso-ir-58", "x-gbk"]
      coding := .nameOnly },
    { name := "gb18030"
      labels :=
      ["gb18030"]
      coding := .nameOnly },
    { name := "Big5"
      labels :=
      ["big5", "big5-hkscs", "cn-big5", "csbig5", "x-x-big5"]
      coding := .nameOnly },
    { name := "EUC-JP"
      labels :=
      ["cseucpkdfmtjapanese", "euc-jp", "x-euc-jp"]
      coding := .nameOnly },
    { name := "ISO-2022-JP"
      labels :=
      ["csiso2022jp", "iso-2022-jp"]
      coding := .nameOnly },
    { name := "Shift_JIS"
      labels :=
      ["csshiftjis", "ms932", "ms_kanji", "shift-jis", "shift_jis", "sjis",
      "windows-31j", "x-sjis"]
      coding := .nameOnly },
    { name := "EUC-KR"
      labels :=
      ["cseuckr", "csksc56011987", "euc-kr", "iso-ir-149", "korean",
      "ks_c_5601-1987", "ks_c_5601-1989", "ksc5601", "ksc_5601",
      "windows-949"]
      coding := .nameOnly },
    { name := "replacement"
      labels :=
      ["csiso2022kr", "hz-gb-2312", "iso-2022-cn", "iso-2022-cn-ext",
      "iso-2022-kr", "replacement"]
      coding := .replacement },
    { name := "UTF-16BE"
      labels :=
      ["unicodefffe", "utf-16be"]
      coding := .utf16 .big },
    { name := "UTF-16LE"
      labels :=
      ["csunicode", "iso-10646-ucs-2", "ucs-2", "unicode", "unicodefeff",
      "utf-16", "utf-16le"]
      coding := .utf16 .little },
    { name := "x-user-defined"
      labels :=
      ["x-user-defined"]
      coding := .userDefined }
  ]

/-- The character set that a label names, up to case and ASCII white space
around it. -/
def ofLabel? (label : String) : Option Charset :=
  let label :=
    Text.lower (String.ofList (Text.trimBoth Text.isSpace label.toList))
  all.find? fun charset => charset.labels.contains label

end Charset

end MarkupHarden
