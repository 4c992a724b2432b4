/-!
# TOML numbers and times

Which words are numbers, truth values, dates and times.
-/

namespace Readiness.Toml

/-- Whether a character is a digit in base two, eight or sixteen. -/
def isDigitIn (base : Nat) (c : Char) : Bool :=
  if base == 16 then c.isDigit || ('a' ≤ c && c ≤ 'f') || ('A' ≤ c && c ≤ 'F')
  else c.isDigit && c.toNat < 48 + base

/-- Whether the text consists of digits with single underscores between some of them. -/
def isDigits (digit : Char → Bool) : List Char → Bool
  | [] => false
  | [c] => digit c
  | c :: '_' :: cs => digit c && isDigits digit cs
  | c :: cs => digit c && isDigits digit cs

/-- The text after a sign, if there is one. -/
def dropSign : List Char → List Char
  | '+' :: cs => cs
  | '-' :: cs => cs
  | cs => cs

/-- Whether the text is a decimal number without sign and without needless zeros. -/
def isDecimal (cs : List Char) : Bool :=
  isDigits Char.isDigit cs && (cs.head? != some '0' || cs.length == 1)

/-- The value of the digits of a text. -/
def digitsValue (base : Nat) (cs : List Char) : Nat :=
  (cs.filter (· != '_')).foldl (fun n c =>
    n * base + (if c.isDigit then c.toNat - 48 else c.toLower.toNat - 87)) 0

/-- Whether the text is an integer. Integers that do not fit into 128 bits, with a sign or without
one, are refused. -/
def isInteger (cs : List Char) : Bool :=
  let based (base : Nat) (ds : List Char) :=
    isDigits (isDigitIn base) ds && digitsValue base ds < Nat.pow 2 128
  match cs with
  | '0' :: 'x' :: ds => based 16 ds
  | '0' :: 'o' :: ds => based 8 ds
  | '0' :: 'b' :: ds => based 2 ds
  | '-' :: ds => isDecimal ds && digitsValue 10 ds ≤ Nat.pow 2 127
  | cs => isDecimal (dropSign cs) && digitsValue 10 (dropSign cs) < Nat.pow 2 128

/-- Whether the text is the exponent of a number, from its `e` on, or empty. -/
def isExponent : List Char → Bool
  | [] => true
  | c :: cs => (c == 'e' || c == 'E') && isDigits Char.isDigit (dropSign cs)

/-- The value of an exponent that `isExponent` accepts. -/
def exponentValue (cs : List Char) : Int :=
  match cs.drop 1 with
  | '-' :: ds => -(digitsValue 10 ds : Int)
  | ds => (digitsValue 10 (dropSign ds) : Int)

/-- The least magnitude that has no double precision number: halfway beyond the largest one. -/
def floatBound : Nat := Nat.pow 2 1024 - Nat.pow 2 970

/-- Whether the number of these digits, times ten to the power of `exponent`, is below
`floatBound`. The bound has 309 digits, so that only numbers of this length are compared with it. -/
def isRepresentable (digits : List Char) (exponent : Int) : Bool :=
  let ds := digits.dropWhile (· == '0')
  let length := (ds.length : Int) + exponent
  if ds.isEmpty || length < 309 then true
  else if 309 < length then false
  else digitsValue 10 ds * Nat.pow 10 exponent.toNat < floatBound * Nat.pow 10 (-exponent).toNat

/-- Whether the texts around a point, and the exponent after them, make a number that double
precision can hold. -/
def isDecimalFraction (whole fraction exponent : List Char) : Bool :=
  let digits (cs : List Char) := cs.filter (· != '_')
  isDecimal whole && isExponent exponent &&
    isRepresentable (digits whole ++ digits fraction)
      (exponentValue exponent - (digits fraction).length)

/-- Whether the text is a number with a fraction or an exponent, or one of the special numbers. -/
def isFloat (cs : List Char) : Bool :=
  let body := dropSign cs
  let isPart (c : Char) := c.isDigit || c == '_'
  let whole := body.takeWhile isPart
  body == ['i', 'n', 'f'] || body == ['n', 'a', 'n'] ||
    match body.dropWhile isPart with
    | '.' :: rest =>
      let fraction := rest.takeWhile isPart
      isDigits Char.isDigit fraction && isDecimalFraction whole fraction (rest.dropWhile isPart)
    | [] => false
    | rest => isDecimalFraction whole [] rest

/-- The value of a text of exactly `n` digits. -/
def fixed? (n : Nat) (cs : List Char) : Option Nat :=
  if cs.length == n && cs.all Char.isDigit then some (digitsValue 10 cs) else none

def within (lo hi : Nat) (n : Option Nat) : Bool := n.any fun n => lo ≤ n && n ≤ hi

def daysIn (year month : Nat) : Nat :=
  if month == 2 then
    if (year % 4 == 0 && year % 100 != 0) || year % 400 == 0 then 29 else 28
  else if month == 4 || month == 6 || month == 9 || month == 11 then 30
  else 31

/-- Whether the text is a date, such as `1979-05-27`. -/
def isDate (cs : List Char) : Bool :=
  match fixed? 4 (cs.take 4), fixed? 2 ((cs.drop 5).take 2) with
  | some year, some month =>
    cs.length == 10 && cs[4]? == some '-' && cs[7]? == some '-' && 1 ≤ month && month ≤ 12 &&
      within 1 (daysIn year month) (fixed? 2 (cs.drop 8))
  | _, _ => false

/-- Whether the text is the fraction of a second, with its dot, or empty. -/
def isFraction : List Char → Bool
  | [] => true
  | '.' :: cs => !cs.isEmpty && cs.all Char.isDigit
  | _ => false

/-- Whether the text is a time of day, such as `07:32` or `07:32:00.5`. -/
def isTime (cs : List Char) : Bool :=
  within 0 23 (fixed? 2 (cs.take 2)) && cs[2]? == some ':' &&
    within 0 59 (fixed? 2 ((cs.drop 3).take 2)) &&
    match cs.drop 5 with
    | [] => true
    | ':' :: rest => within 0 60 (fixed? 2 (rest.take 2)) && isFraction (rest.drop 2)
    | _ => false

/-- Whether the text is the distance from universal time. -/
def isOffset (cs : List Char) : Bool :=
  match cs with
  | ['Z'] => true
  | ['z'] => true
  | c :: rest =>
    (c == '+' || c == '-') && rest.length == 5 && within 0 23 (fixed? 2 (rest.take 2)) &&
      rest[2]? == some ':' && within 0 59 (fixed? 2 (rest.drop 3))
  | [] => false

/-- Whether the text is a date, a time of day, or both with or without an offset. -/
def isDateTime (cs : List Char) : Bool :=
  isDate cs || isTime cs ||
    (isDate (cs.take 10) &&
      (cs[10]? == some 'T' || cs[10]? == some 't' || cs[10]? == some ' ') &&
      let rest := cs.drop 11
      let isClock (c : Char) := c.isDigit || c == ':' || c == '.'
      let offset := rest.dropWhile isClock
      isTime (rest.takeWhile isClock) && (offset.isEmpty || isOffset offset))

/-- Whether the word is a value by itself. -/
def isScalar (cs : List Char) : Bool :=
  cs == ['t', 'r', 'u', 'e'] || cs == ['f', 'a', 'l', 's', 'e'] || isInteger cs || isFloat cs ||
    isDateTime cs

end Readiness.Toml
