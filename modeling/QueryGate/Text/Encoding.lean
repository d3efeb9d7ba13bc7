import QueryGate.Text.Basic
import QueryGate.Text.Case
import QueryGate.Text.CodePage
import QueryGate.Text.Utf16
import QueryGate.Text.Utf8

/-!
# Encodings of text

The encodings that a label can name, and the text of bytes in each. Bytes that make no character
become flaws. UTF-16 and UTF-32 without a fixed byte order should start with a byte order mark.
-/

set_option autoImplicit false

namespace QueryGate

inductive Encoding where
  | utf8
  | markedUtf8
  | utf16 (order : Option ByteOrder)
  | utf32 (order : Option ByteOrder)
  | page (upper : CodePage)
deriving DecidableEq, Repr

namespace Encoding

/-- The labels of every encoding, in small letters with underscores between their parts. -/
def labels : List (Encoding × List String) := [
  (.page .ascii, ["646", "ansi_x3_4_1968", "ansi_x3_4_1986", "ascii", "cp367", "csascii",
    "ibm367", "iso646_us", "iso_646_irv_1991", "iso_ir_6", "us", "us_ascii"]),
  (.page .latin1, ["8859", "cp819", "csisolatin1", "ibm819", "iso8859", "iso8859_1",
    "iso_8859_1", "iso_8859_1_1987", "iso_ir_100", "l1", "latin", "latin1", "latin_1"]),
  (.utf8, ["cp65001", "u8", "utf", "utf8", "utf8_ucs2", "utf8_ucs4", "utf_8"]),
  (.markedUtf8, ["utf_8_sig"]),
  (.utf16 none, ["u16", "utf16", "utf_16"]),
  (.utf16 (some .little), ["unicodelittleunmarked", "utf_16_le", "utf_16le"]),
  (.utf16 (some .big), ["unicodebigunmarked", "utf_16_be", "utf_16be"]),
  (.utf32 none, ["u32", "utf32", "utf_32"]),
  (.utf32 (some .little), ["utf_32_le", "utf_32le"]),
  (.utf32 (some .big), ["utf_32_be", "utf_32be"]),
  (.page .latin2, ["csisolatin2", "iso8859_2", "iso_8859_2", "iso_8859_2_1987", "iso_ir_101",
    "l2", "latin2"]),
  (.page .latin3, ["csisolatin3", "iso8859_3", "iso_8859_3", "iso_8859_3_1988", "iso_ir_109",
    "l3", "latin3"]),
  (.page .latin4, ["csisolatin4", "iso8859_4", "iso_8859_4", "iso_8859_4_1988", "iso_ir_110",
    "l4", "latin4"]),
  (.page .isoCyrillic, ["csisolatincyrillic", "cyrillic", "iso8859_5", "iso_8859_5",
    "iso_8859_5_1988", "iso_ir_144"]),
  (.page .isoArabic, ["arabic", "asmo_708", "csisolatinarabic", "ecma_114", "iso8859_6",
    "iso_8859_6", "iso_8859_6_1987", "iso_ir_127"]),
  (.page .isoGreek, ["csisolatingreek", "ecma_118", "elot_928", "greek", "greek8", "iso8859_7",
    "iso_8859_7", "iso_8859_7_1987", "iso_ir_126"]),
  (.page .isoHebrew, ["csisolatinhebrew", "hebrew", "iso8859_8", "iso_8859_8", "iso_8859_8_1988",
    "iso_ir_138"]),
  (.page .latin5, ["csisolatin5", "iso8859_9", "iso_8859_9", "iso_8859_9_1989", "iso_ir_148",
    "l5", "latin5"]),
  (.page .latin6, ["csisolatin6", "iso8859_10", "iso_8859_10", "iso_8859_10_1992", "iso_ir_157",
    "l6", "latin6"]),
  (.page .isoThai, ["iso8859_11", "iso_8859_11", "iso_8859_11_2001", "thai"]),
  (.page .latin7, ["iso8859_13", "iso_8859_13", "l7", "latin7"]),
  (.page .latin8, ["iso8859_14", "iso_8859_14", "iso_8859_14_1998", "iso_celtic", "iso_ir_199",
    "l8", "latin8"]),
  (.page .latin9, ["iso8859_15", "iso_8859_15", "l9", "latin9"]),
  (.page .latin10, ["iso8859_16", "iso_8859_16", "iso_8859_16_2001", "iso_ir_226", "l10",
    "latin10"]),
  (.page .windows1250, ["1250", "cp1250", "windows_1250"]),
  (.page .windows1251, ["1251", "cp1251", "windows_1251"]),
  (.page .windows1252, ["1252", "cp1252", "windows_1252"]),
  (.page .windows1253, ["1253", "cp1253", "windows_1253"]),
  (.page .windows1254, ["1254", "cp1254", "windows_1254"]),
  (.page .windows1255, ["1255", "cp1255", "windows_1255"]),
  (.page .windows1256, ["1256", "cp1256", "windows_1256"]),
  (.page .windows1257, ["1257", "cp1257", "windows_1257"]),
  (.page .windows1258, ["1258", "cp1258", "windows_1258"]),
  (.page .windows874, ["cp874"]),
  (.page .koi8Russian, ["cskoi8r", "koi8_r"]),
  (.page .koi8Ukrainian, ["koi8_u"]),
  (.page .thai, ["iso_ir_166", "tis620", "tis_620", "tis_620_0", "tis_620_2529_0",
    "tis_620_2529_1"]),
  (.page .dos437, ["437", "cp437", "cspc8codepage437", "ibm437"]),
  (.page .dos850, ["850", "cp850", "cspc850multilingual", "ibm850"]),
  (.page .dos852, ["852", "cp852", "cspcp852", "ibm852"]),
  (.page .dos855, ["855", "cp855", "csibm855", "ibm855"]),
  (.page .dos858, ["858", "cp858", "csibm858", "ibm858"]),
  (.page .dos866, ["866", "cp866", "csibm866", "ibm866"]),
  (.page .macRoman, ["mac_roman", "macintosh", "macroman"]),
  (.page .macCyrillic, ["mac_cyrillic", "maccyrillic"])
]

def normalLabel (label : String) : String :=
  let cs := label.toList.map fun c => if c.isAlphanum then Text.asciiLower c else '-'
  String.intercalate "_" (((Text.splitAll '-' cs).filter (!·.isEmpty)).map String.ofList)

def ofLabel? (label : String) : Option Encoding :=
  (labels.find? fun entry => entry.2.contains (normalLabel label)).map (·.1)

/-- The byte order that a mark at the front tells, and the bytes behind it. The mark of UTF-32 is
as wide as its code units. -/
def markedOrder? (width : Nat) (bytes : List UInt8) : Option (ByteOrder × List UInt8) :=
  let mark := bytes.take width
  if mark.length < width then none
  else if ByteOrder.number .little mark = 0xFEFF then some (.little, bytes.drop width)
  else if ByteOrder.number .big mark = 0xFEFF then some (.big, bytes.drop width)
  else none

def decodedMarked (width : Nat) (decode : ByteOrder → List UInt8 → Decoded)
    (bytes : List UInt8) : Decoded :=
  match markedOrder? width bytes with
  | some (order, rest) => decode order rest
  | none => decode .little bytes

/-- The text of bytes, with the flaws in it. Code units without a mark have their last byte
first. -/
def decoded (e : Encoding) (bytes : List UInt8) : Decoded :=
  match e with
  | .utf8 => Utf8.decode bytes
  | .markedUtf8 => Utf8.decode ((([0xEF, 0xBB, 0xBF] : List UInt8).isPrefixOf? bytes).getD bytes)
  | .utf16 (some order) => Utf16.decode order bytes
  | .utf32 (some order) => Utf32.decode order bytes
  | .utf16 none => decodedMarked 2 Utf16.decode bytes
  | .utf32 none => decodedMarked 4 Utf32.decode bytes
  | .page upper => bytes.map fun b => .ok (upper.char b)

/-- Bytes that should start with a byte order mark and do not, although they are enough for one. -/
def lacksMark (e : Encoding) (bytes : List UInt8) : Bool :=
  match e with
  | .utf16 none => 2 ≤ bytes.length && (markedOrder? 2 bytes).isNone
  | .utf32 none => 4 ≤ bytes.length && (markedOrder? 4 bytes).isNone
  | _ => false

def family : Encoding → String
  | .utf8 | .markedUtf8 => "UTF-8"
  | .utf16 _ => "UTF-16"
  | .utf32 _ => "UTF-32"
  | .page _ => "code page"

def name : Encoding → String
  | .utf8 | .markedUtf8 => "utf-8"
  | .utf16 order => "utf-16" ++ order.elim "" fun o => "-" ++ o.suffix
  | .utf32 order => "utf-32" ++ order.elim "" fun o => "-" ++ o.suffix
  | .page _ => "charmap"

end Encoding

end QueryGate
