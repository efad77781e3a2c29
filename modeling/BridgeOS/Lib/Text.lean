import Mathlib.Data.List.Infix

/-! # Text as the standard library treats it

Trimming removes the characters with the Unicode property `White_Space`, and
lower-casing touches the ASCII letters only. Positions in a text are counted in
bytes; a character boundary is a position at which a character begins or the text
ends.
-/

namespace Text

def isWhitespace (c : Char) : Bool :=
  let n := c.toNat
  (0x09 ≤ n && n ≤ 0x0D) || n == 0x20 || n == 0x85 || n == 0xA0 || n == 0x1680 ||
    (0x2000 ≤ n && n ≤ 0x200A) || n == 0x2028 || n == 0x2029 || n == 0x202F || n == 0x205F ||
    n == 0x3000

def trim (text : String) : String :=
  String.ofList (((text.toList.dropWhile isWhitespace).reverse.dropWhile isWhitespace).reverse)

def lowerAscii (c : Char) : Char := if 'A' ≤ c ∧ c ≤ 'Z' then Char.ofNat (c.toNat + 32) else c

def toAsciiLowercase (text : String) : String := String.ofList (text.toList.map lowerAscii)

def contains (text part : String) : Bool := decide (part.toList <:+: text.toList)

def isCharBoundary : List Char → Nat → Bool
  | _, 0 => true
  | [], _ + 1 => false
  | c :: rest, position => c.utf8Size ≤ position && isCharBoundary rest (position - c.utf8Size)

/-- The characters before a position. -/
def truncate : List Char → Nat → List Char
  | _, 0 => []
  | [], _ + 1 => []
  | c :: rest, position => c :: truncate rest (position - c.utf8Size)

/-- Decimal digits with leading zeros, for numbers below a thousand. -/
def threeDigits (n : Nat) : String :=
  String.ofList [Char.ofNat (48 + n / 100), Char.ofNat (48 + n / 10 % 10), Char.ofNat (48 + n % 10)]

end Text
