import BuildHerald.Text.Charset.Big5
import BuildHerald.Text.Charset.Chinese
import BuildHerald.Text.Charset.Japanese
import BuildHerald.Text.Charset.Korean
import BuildHerald.Text.Charset.Page
import BuildHerald.Text.Lowercase
import BuildHerald.Text.Split
import BuildHerald.Text.Utf16
import BuildHerald.Text.Utf8

namespace BuildHerald.Text

/-- How the characters of a text are written as bytes. -/
inductive Charset
  | utf8
  | utf16 (bigEndian : Bool)
  | page (sheet : Charset.Page)
  | chinese
  | big5
  | korean
  | japaneseExtended
  | japaneseShifted
  | japaneseAnnounced
  /-- Bytes above ASCII stand for characters of private use. -/
  | userDefined
  /-- Nothing that is written in this way may be read. -/
  | withheld

namespace Charset

/-- The names of charsets with more than one byte for some characters, and of those without a meaning
of their own. -/
def names : List (String × Charset) :=
  [("unicode-1-1-utf-8 unicode11utf8 unicode20utf8 utf-8 utf8 x-unicode20utf8", .utf8),
   ("csunicode iso-10646-ucs-2 ucs-2 unicode unicodefeff utf-16 utf-16le", .utf16 false),
   ("unicodefffe utf-16be", .utf16 true),
   ("chinese csgb2312 csiso58gb231280 gb2312 gb_2312 gb_2312-80 gbk iso-ir-58 x-gbk gb18030",
     .chinese),
   ("big5 big5-hkscs cn-big5 csbig5 x-x-big5", .big5),
   ("cseuckr csksc56011987 euc-kr iso-ir-149 korean ks_c_5601-1987 ks_c_5601-1989 ksc5601 ksc_5601",
     .korean),
   ("windows-949", .korean),
   ("cseucpkdfmtjapanese euc-jp x-euc-jp", .japaneseExtended),
   ("csshiftjis ms932 ms_kanji shift-jis shift_jis sjis windows-31j x-sjis", .japaneseShifted),
   ("csiso2022jp iso-2022-jp", .japaneseAnnounced),
   ("x-user-defined", .userDefined),
   ("csiso2022kr hz-gb-2312 iso-2022-cn iso-2022-cn-ext iso-2022-kr replacement", .withheld)]

/-- Whether a name is among names that are separated by blanks or line ends. -/
def isAmong (name : List Char) (names : String) : Bool :=
  (pieces (fun c => c == ' ' || c == '\n') names.toList).contains name

/-- Whether a character next to a name does not belong to it. -/
def isBlank (c : Char) : Bool :=
  c == ' ' || c == '\t' || c == '\n' || c == '\r' || c == '\x0c'

/-- The charset of a name. -/
def named? (name : List Char) : Option Charset :=
  let name := asciiLower (dropEndWhile isBlank (name.dropWhile isBlank))
  match names.find? fun (known, _) => isAmong name known with
  | some (_, charset) => some charset
  | none => (Page.all.find? fun page => isAmong name page.names).map .page

/-- The text of a byte sequence. U+FFFD stands for what has no meaning. -/
def decode : Charset → List UInt8 → List Char
  | utf8 => Utf8.lossy
  | utf16 bigEndian => Utf16.lossy bigEndian
  | page sheet => sheet.decode
  | chinese => Chinese.decode
  | big5 => Big5.decode
  | korean => Korean.decode
  | japaneseExtended => Japanese.Extended.decode
  | japaneseShifted => Japanese.Shifted.decode
  | japaneseAnnounced => Japanese.Announced.decode
  | userDefined => List.map fun b =>
      Char.ofNat (if b < 0x80 then b.toNat else 0xf780 + (b.toNat - 0x80))
  | withheld => fun bytes => if bytes.isEmpty then [] else [lost]

/-- The text of a byte sequence, unless a byte order mark at its start tells its charset. The mark is
no part of the text. -/
def decodeMarked (charset : Charset) : List UInt8 → List Char
  | 0xef :: 0xbb :: 0xbf :: rest => Utf8.lossy rest
  | 0xff :: 0xfe :: rest => Utf16.lossy false rest
  | 0xfe :: 0xff :: rest => Utf16.lossy true rest
  | bytes => charset.decode bytes

end Charset

end BuildHerald.Text
