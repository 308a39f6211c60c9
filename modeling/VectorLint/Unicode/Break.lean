/-
Where texts may be divided: the values of characters for the bounds between
user-perceived characters, words and sentences in Unicode 16. A value is
named in lower case without separators; the value of all other characters has
no class.
-/
import VectorLint.Unicode.Property
import VectorLint.Unicode.Script

namespace VectorLint.Unicode

def isPrepended (c : Char) : Bool :=
  isListed "prependedconcatenationmark" c ||
    isIn (rangesOf "D4E 111C2-111C3 113D1 1193F 11941 11A3A 11A84-11A89 11D46 11F02") c

def isClusterExtend (c : Char) : Bool :=
  isGraphemeExtend c || isListed "emojimodifier" c

def isClusterControl (c : Char) : Bool :=
  (inCategories ["Zl", "Zp", "Cc", "Cf"] c || (category c = "Cn" && isDefaultIgnorable c)) &&
    c ≠ '\r' && c ≠ '\n' && !isListed "joincontrol" c &&
    !isListed "prependedconcatenationmark" c && !isGraphemeExtend c

/-- Spacing marks that start a cluster of their own. -/
def separateMarks : List (Nat × Nat) := rangesOf "
102B-102C 1038 1062-1064 1067-106D 1083 1087-108C 108F 109A-109C 1A61 1A63-1A64 AA7B AA7D
11720-11721"

def isClusterSpacing (c : Char) : Bool :=
  (category c = "Mc" && !isClusterExtend c && !isIn separateMarks c) ||
    isIn [(0xE33, 0xE33), (0xEB3, 0xEB3)] c

/-- Whether a character is a Hangul syllable, with or without a last
consonant. -/
def isHangul (closed : Bool) (c : Char) : Bool :=
  isIn [(0xAC00, 0xD7A3)] c && closed == ((c.toNat - 0xAC00) % 28 != 0)

/-- The characters of a grapheme cluster break value. -/
def graphemeBreak? (value : String) : Option (Char → Bool) :=
  match value with
  | "cr" => some (· = '\r')
  | "lf" => some (· = '\n')
  | "zwj" => some (· = '\u200d')
  | "cn" | "control" => some isClusterControl
  | "ex" | "extend" => some isClusterExtend
  | "pp" | "prepend" => some isPrepended
  | "sm" | "spacingmark" => some isClusterSpacing
  | "ri" | "regionalindicator" => some (isListed "regionalindicator")
  | "l" => some (isIn [(0x1100, 0x115F), (0xA960, 0xA97C)])
  | "v" => some (isIn
      [(0x1160, 0x11A7), (0xD7B0, 0xD7C6), (0x16D63, 0x16D63), (0x16D67, 0x16D6A)])
  | "t" => some (isIn [(0x11A8, 0x11FF), (0xD7CB, 0xD7FB)])
  | "lv" => some (isHangul false)
  | "lvt" => some (isHangul true)
  | _ => none

/-- Marks and modifiers that go with the character before them. -/
def isWordExtend (c : Char) : Bool :=
  isClusterExtend c || category c = "Mc"

def isHebrewLetter (c : Char) : Bool :=
  script c = "Hebr" && category c = "Lo"

def isWordKatakana (c : Char) : Bool :=
  script c = "Kana" || isIn (rangesOf "3031-3035 309B-309C 30A0 30FC FF70") c

def isWordNumeric (c : Char) : Bool :=
  category c = "Nd" || isIn (rangesOf "600-605 66B 6DD 890-891 8E2 19DA 110BD 110CD") c

/-- Letters of scripts that write words without blanks between them. -/
def complexLetters : List (Nat × Nat) := rangesOf "
E01-E30 E32-E33 E40-E46 E81-E82 E84 E86-E8A E8C-EA3 EA5 EA7-EB0 EB2-EB3 EBD EC0-EC4 EC6 EDC-EDF
1000-102A 103F 1050-1055 105A-105D 1061 1065-1066 106E-1070 1075-1081 108E 1780-17B3 17D7 17DC
1950-196D 1970-1974 1980-19AB 19B0-19C9 1A20-1A54 1AA7 A9E0-A9E4 A9E6-A9EF A9FA-A9FE AA60-AA76
AA7A AA7E-AAAF AAB1 AAB5-AAB6 AAB9-AABD AAC0 AAC2 AADB-AADD 11700-1171A 11740-11746"

/-- Signs that count as letters of words. -/
def wordSigns : List (Nat × Nat) := rangesOf "
2C2-2C5 2D2-2D7 2DE-2DF 2E5-2EB 2ED 2EF-2FF 55A-55C 55E 58A 5F3 70F A708-A716 A720-A721 A789-A78A
AB5B"

def isWordLetter (c : Char) : Bool :=
  (isAlphabetic c && !isListed "ideographic" c && !isWordKatakana c && script c ≠ "Hira" &&
      !isWordExtend c && !isHebrewLetter c && !isIn complexLetters c) ||
    isIn wordSigns c

/-- The characters of a word break value. -/
def wordBreak? (value : String) : Option (Char → Bool) :=
  match value with
  | "cr" => some (· = '\r')
  | "lf" => some (· = '\n')
  | "nl" | "newline" => some (isIn (rangesOf "B-C 85 2028-2029"))
  | "zwj" => some (· = '\u200d')
  | "sq" | "singlequote" => some (· = '\'')
  | "dq" | "doublequote" => some (· = '"')
  | "ex" | "extendnumlet" => some fun c => category c = "Pc" || c = '\u202f'
  | "extend" => some isWordExtend
  | "fo" | "format" => some fun c =>
      category c = "Cf" && c ≠ '\u200b' && !isListed "joincontrol" c && !isGraphemeExtend c &&
        !isListed "prependedconcatenationmark" c
  | "ka" | "katakana" => some isWordKatakana
  | "hl" | "hebrewletter" => some isHebrewLetter
  | "le" | "aletter" => some isWordLetter
  | "nu" | "numeric" => some isWordNumeric
  | "ml" | "midletter" => some (isIn midLetters)
  | "mb" | "midnumlet" => some (isIn midNumLets)
  | "mn" | "midnum" =>
    some (isIn (rangesOf "2C 3B 37E 589 60C-60D 66C 7F8 2044 FE50 FE54 FF0C FF1B"))
  | "ri" | "regionalindicator" => some (isListed "regionalindicator")
  | "wsegspace" => some (isIn (rangesOf "20 1680 2000-2006 2008-200A 205F 3000"))
  | _ => none

def isSentenceExtend (c : Char) : Bool :=
  isGraphemeExtend c || category c = "Mc" || c = '\u200d'

/-- Of the Georgian letters sentences do not tell the case. -/
def isSentenceLower (c : Char) : Bool :=
  isLowercase c && !isGraphemeExtend c && !isIn georgianLetters c

def isSentenceUpper (c : Char) : Bool :=
  (isUppercase c || category c = "Lt") && !isIn [(0x1C90, 0x1CBA), (0x1CBD, 0x1CBF)] c

/-- Full stops, which may stand in an abbreviation too. -/
def fullStops : List (Nat × Nat) := rangesOf "2E 2024 FE52 FF0E"

def isSentenceClose (c : Char) : Bool :=
  inCategories ["Ps", "Pe", "Pi", "Pf"] c ||
    (category c = "Po" && isListed "quotationmark" c && c ≠ '\uff02' && c ≠ '\uff07') ||
    isIn (rangesOf "275B-2760 2E00-2E01 2E06-2E08 2E0B 1F676-1F678") c

/-- The characters of a sentence break value. -/
def sentenceBreak? (value : String) : Option (Char → Bool) :=
  match value with
  | "cr" => some (· = '\r')
  | "lf" => some (· = '\n')
  | "se" | "sep" => some (isIn (rangesOf "85 2028-2029"))
  | "sp" => some (isIn (rangesOf "9 B-C 20 A0 1680 2000-200A 202F 205F 3000"))
  | "ex" | "extend" => some isSentenceExtend
  | "fo" | "format" => some fun c => category c = "Cf" && !isSentenceExtend c && !isWordNumeric c
  | "lo" | "lower" => some isSentenceLower
  | "up" | "upper" => some isSentenceUpper
  | "le" | "oletter" => some fun c =>
      (isAlphabetic c || c = '\u05f3') && !isSentenceLower c && !isSentenceUpper c &&
        !isSentenceExtend c
  | "nu" | "numeric" => some fun c => isWordNumeric c || c = '\u066c'
  | "at" | "aterm" => some (isIn fullStops)
  | "st" | "sterm" => some fun c => isListed "sentenceterminal" c && !isIn fullStops c
  | "cl" | "close" => some isSentenceClose
  | "sc" | "scontinue" => some (isIn (rangesOf "
2C-2D 3A-3B 37E 55D 60C-60D 7F8 1802 1808 2013-2014 3001 FE10-FE11 FE13-FE14 FE31-FE32 FE50-FE51
FE54-FE55 FE58 FE63 FF0C-FF0D FF1A-FF1B FF64"))
  | _ => none

end VectorLint.Unicode
