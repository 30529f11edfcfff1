import Klsmsc.Tables

/-!
# Texts

The few operations on Python strings that decide something in the modelled
functions. What Unicode says about single characters is a parameter.
-/

namespace Klsmsc

/-- What `str` and `re` know about characters: white space, `str.isdigit`, the
value of a decimal digit, and the two case mappings. -/
structure Unicode where
  isSpace : Char → Bool
  isDigit : Char → Bool
  decimal : Char → Option ℕ
  upper : String → String
  lower : String → String

namespace Unicode

/-- The character matches `\d`. -/
def isDecimal (unicode : Unicode) (char : Char) : Bool :=
  (unicode.decimal char).isSome

def hexadecimal (unicode : Unicode) (char : Char) : Option ℕ :=
  if 'a' ≤ char ∧ char ≤ 'f' then some (char.toNat - 'a'.toNat + 10)
  else if 'A' ≤ char ∧ char ≤ 'F' then some (char.toNat - 'A'.toNat + 10)
  else unicode.decimal char

def ascii : Unicode where
  isSpace := Char.isWhitespace
  isDigit := Char.isDigit
  decimal char := if char.isDigit then some (char.toNat - '0'.toNat) else none
  upper text := String.ofList (text.toList.map Char.toUpper)
  lower text := String.ofList (text.toList.map Char.toLower)

end Unicode

/-- `str.strip`. -/
def strip (unicode : Unicode) (text : String) : String :=
  String.ofList
    ((text.toList.dropWhile unicode.isSpace).reverse.dropWhile unicode.isSpace).reverse

def asked (criterion : Option String) : Option String :=
  criterion.filter fun text => text ≠ ""

/-- `needle in text`. -/
def textContains (text needle : String) : Bool :=
  text.toList.tails.any fun tail => needle.toList.isPrefixOf tail

/-- `text[:width]`. -/
def truncate (width : ℕ) (text : String) : String :=
  String.ofList (text.toList.take width)

/-- The letter that `re.IGNORECASE` compares a character as, for the letters of
the patterns in use. -/
def foldCase (char : Char) : Char :=
  if char = 'ſ' then 's'
  else if char = 'K' then 'k'
  else if char = 'İ' ∨ char = 'ı' then 'i'
  else char.toLower

def dropLiteral (literal text : List Char) : Option (List Char) :=
  if (literal.map foldCase).isPrefixOf (text.map foldCase) then some (text.drop literal.length)
  else none

/-- `int` of digits, with single underscores between them. -/
def digitsValue (digit : Char → Option ℕ) (base : ℕ) : ℕ → List Char → Option ℕ
  | _, [] => none
  | value, [char] => (digit char).map (value * base + ·)
  | value, char :: '_' :: rest =>
      (digit char).bind fun last => digitsValue digit base (value * base + last) rest
  | value, char :: rest =>
      (digit char).bind fun last => digitsValue digit base (value * base + last) rest

/-- `int(text, 16)` of a text that starts with `0x`, without these two characters. -/
def hexValue (unicode : Unicode) : List Char → Option ℕ
  | '_' :: rest => digitsValue unicode.hexadecimal 16 0 rest
  | rest => digitsValue unicode.hexadecimal 16 0 rest

/-- `hex(number)`. -/
def hexText (number : ℕ) : String :=
  "0x" ++ String.ofList (Nat.toDigits 16 number)

def SmsStatus.text : SmsStatus → String
  | .pending => "pending"
  | .queued => "queued"
  | .sent => "sent"
  | .delivered => "delivered"
  | .failed => "failed"
  | .expired => "expired"

end Klsmsc
