import Mathlib.Data.List.Basic

/-! Searching and cutting texts, on their characters. -/

namespace StorageBallast.Texts

/-- `str::contains` for a text pattern. -/
def contains (text part : String) : Bool :=
  text.toList.tails.any part.toList.isPrefixOf

/-- `str::starts_with` for a text pattern. -/
def startsWith (text start : String) : Bool :=
  start.toList.isPrefixOf text.toList

/-- `str::ends_with` for a text pattern. -/
def endsWith (text tail : String) : Bool :=
  tail.toList.isSuffixOf text.toList

/-- `str::strip_prefix` for a text pattern. -/
def stripPrefix (text start : String) : Option String :=
  if startsWith text start then some (String.ofList (text.toList.drop start.toList.length))
  else none

/-- `str::strip_suffix` for a text pattern. -/
def stripSuffix (text tail : String) : Option String :=
  if endsWith text tail then
    some (String.ofList (text.toList.take (text.toList.length - tail.toList.length)))
  else none

/-- `str::split_once` for one character: the parts before and after its first occurrence. -/
def splitOnce (separator : Char) : List Char → Option (List Char × List Char)
  | [] => none
  | c :: rest =>
      if c = separator then some ([], rest)
      else (splitOnce separator rest).map fun (before, after) => (c :: before, after)

/-- `str::eq_ignore_ascii_case`. -/
def eqIgnoreAsciiCase (left right : String) : Bool :=
  left.toList.map Char.toLower == right.toList.map Char.toLower

def isWhitespace (c : Char) : Bool :=
  let n := c.toNat
  (9 ≤ n && n ≤ 13) || n == 0x20 || n == 0x85 || n == 0xA0 || n == 0x1680
    || (0x2000 ≤ n && n ≤ 0x200A) || n == 0x2028 || n == 0x2029 || n == 0x202F
    || n == 0x205F || n == 0x3000

/-- `str::trim_end_matches` for a set of characters. -/
def trimEndMatches (text : String) (drops : Char → Bool) : String :=
  String.ofList (text.toList.reverse.dropWhile drops).reverse

/-- `str::trim`. -/
def trim (text : String) : String :=
  trimEndMatches (String.ofList (text.toList.dropWhile isWhitespace)) isWhitespace

/-- `str::to_ascii_lowercase`. -/
def toAsciiLowercase (text : String) : String := String.ofList (text.toList.map Char.toLower)

def containsIgnoringCase (text part : String) : Bool :=
  contains (toAsciiLowercase text) (toAsciiLowercase part)

/-- `str::to_lowercase`, as far as ASCII letters come out of it: they do for ASCII letters
and for the Kelvin sign.
-/
def toLowercase (text : String) : String :=
  String.ofList (text.toList.map fun c => if c.toNat = 0x212A then 'k' else c.toLower)

def bytes (text : String) : List UInt8 := text.toList.flatMap String.utf8EncodeChar

def slashed (text : String) : String :=
  String.ofList (text.toList.map fun c => if c = '\\' then '/' else c)

end StorageBallast.Texts

/-! `to_string_lossy`: bytes read as UTF-8, where each longest front of a character that breaks
off becomes one replacement character.
-/

namespace StorageBallast.LossyText

def isContinuation (byte : UInt8) : Bool := 0x80 ≤ byte && byte ≤ 0xBF

/-- The second byte of a character of three or four. Neither longer spellings than needed nor
surrogates nor what lies beyond the last character are allowed.
-/
def isSecond (lead byte : UInt8) : Bool :=
  if lead = 0xE0 then 0xA0 ≤ byte && byte ≤ 0xBF
  else if lead = 0xED then 0x80 ≤ byte && byte ≤ 0x9F
  else if lead = 0xF0 then 0x90 ≤ byte && byte ≤ 0xBF
  else if lead = 0xF4 then 0x80 ≤ byte && byte ≤ 0x8F
  else isContinuation byte

def followers (lead : UInt8) : Option (List (UInt8 → Bool)) :=
  if lead < 0x80 then some []
  else if 0xC2 ≤ lead && lead ≤ 0xDF then some [isContinuation]
  else if 0xE0 ≤ lead && lead ≤ 0xEF then some [isSecond lead, isContinuation]
  else if 0xF0 ≤ lead && lead ≤ 0xF4 then
    some [isSecond lead, isContinuation, isContinuation]
  else none

def fitting : List (UInt8 → Bool) → List UInt8 → Nat × Bool
  | [], _ => (0, true)
  | _ :: _, [] => (0, false)
  | check :: checks, byte :: rest =>
      if check byte then ((fitting checks rest).1 + 1, (fitting checks rest).2) else (0, false)

def replacement : List UInt8 := [0xEF, 0xBF, 0xBD]

/-- At most so many characters of a text. -/
def readLossily : Nat → List UInt8 → List UInt8
  | 0, _ => []
  | _ + 1, [] => []
  | fuel + 1, lead :: rest =>
      match followers lead with
      | none => replacement ++ readLossily fuel rest
      | some checks =>
          let (length, whole) := fitting checks rest
          (if whole then lead :: rest.take length else replacement)
            ++ readLossily fuel (rest.drop length)

def toStringLossy (bytes : List UInt8) : List UInt8 := readLossily bytes.length bytes

example
    : toStringLossy [0x61, 0xFF, 0xE2, 0x82, 0x62]
      = [0x61] ++ replacement ++ replacement ++ [0x62] := by
  decide

end StorageBallast.LossyText
