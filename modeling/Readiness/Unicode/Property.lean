import Readiness.Unicode.Class
import Readiness.Unicode.Script

/-!
# Properties by name

The character properties that a pattern may name: general categories, scripts and the common
yes-or-no properties. Names are compared without case, blanks, hyphens, underscores and a
leading `is`.
-/

namespace Readiness.Unicode

/-- The form of a name that is compared. -/
def normalName (name : List Char) : String :=
  let stripped := match name with
    | i :: s :: rest => if i.toLower == 'i' && s.toLower == 's' then some rest else none
    | _ => none
  let keep (cs : List Char) : List Char :=
    (cs.filter fun c => c.toNat < 128 && c != ' ' && c != '_' && c != '-').map Char.toLower
  match stripped with
  | none => String.ofList (keep name)
  | some rest => if keep rest == ['c'] then "isc" else String.ofList (keep rest)

def inAny (tables : List Table) (c : Char) : Bool := tables.any (·.has c)

def assignedTables : List Table :=
  [uppercaseLetter, lowercaseLetter, titlecaseLetter, modifierLetter, otherLetter, nonspacingMark,
   spacingMark, enclosingMark, decimalNumber, letterNumber, otherNumber, connectorPunctuation,
   dashPunctuation, openPunctuation, closePunctuation, initialPunctuation, finalPunctuation,
   otherPunctuation, mathSymbol, currencySymbol, modifierSymbol, otherSymbol, spaceSeparator,
   lineSeparator, paragraphSeparator, control, format, privateUse]

/-- The general category, or group of categories, of that normal name. -/
def category? (name : String) : Option (Char → Bool) :=
  match name with
  | "any" => some fun _ => true
  | "ascii" => some fun c => c.toNat < 128
  | "assigned" => some (inAny assignedTables)
  | "cn" | "unassigned" => some fun c => !inAny assignedTables c
  | "c" | "other" => some fun c => inAny [control, format, privateUse] c || !inAny assignedTables c
  | "cc" | "control" | "cntrl" => some control.has
  | "cf" | "format" => some format.has
  | "co" | "privateuse" => some privateUse.has
  | "l" | "letter" =>
    some (inAny [uppercaseLetter, lowercaseLetter, titlecaseLetter, modifierLetter, otherLetter])
  | "lc" | "casedletter" => some (inAny [uppercaseLetter, lowercaseLetter, titlecaseLetter])
  | "lu" | "uppercaseletter" => some uppercaseLetter.has
  | "ll" | "lowercaseletter" => some lowercaseLetter.has
  | "lt" | "titlecaseletter" => some titlecaseLetter.has
  | "lm" | "modifierletter" => some modifierLetter.has
  | "lo" | "otherletter" => some otherLetter.has
  | "m" | "mark" | "combiningmark" => some isMark
  | "mn" | "nonspacingmark" => some nonspacingMark.has
  | "mc" | "spacingmark" => some spacingMark.has
  | "me" | "enclosingmark" => some enclosingMark.has
  | "n" | "number" => some (inAny [decimalNumber, letterNumber, otherNumber])
  | "nd" | "decimalnumber" | "digit" => some decimalNumber.has
  | "nl" | "letternumber" => some letterNumber.has
  | "no" | "othernumber" => some otherNumber.has
  | "p" | "punctuation" | "punct" =>
    some (inAny [connectorPunctuation, dashPunctuation, openPunctuation, closePunctuation,
      initialPunctuation, finalPunctuation, otherPunctuation])
  | "pc" | "connectorpunctuation" => some connectorPunctuation.has
  | "pd" | "dashpunctuation" => some dashPunctuation.has
  | "ps" | "openpunctuation" => some openPunctuation.has
  | "pe" | "closepunctuation" => some closePunctuation.has
  | "pi" | "initialpunctuation" => some initialPunctuation.has
  | "pf" | "finalpunctuation" => some finalPunctuation.has
  | "po" | "otherpunctuation" => some otherPunctuation.has
  | "s" | "symbol" => some (inAny [mathSymbol, currencySymbol, modifierSymbol, otherSymbol])
  | "sm" | "mathsymbol" => some mathSymbol.has
  | "sc" | "currencysymbol" => some currencySymbol.has
  | "sk" | "modifiersymbol" => some modifierSymbol.has
  | "so" | "othersymbol" => some otherSymbol.has
  | "z" | "separator" => some (inAny [spaceSeparator, lineSeparator, paragraphSeparator])
  | "zs" | "spaceseparator" => some spaceSeparator.has
  | "zl" | "lineseparator" => some lineSeparator.has
  | "zp" | "paragraphseparator" => some paragraphSeparator.has
  | _ => none

def binary? (name : String) : Option (Char → Bool) :=
  match name with
  | "alphabetic" | "alpha" => some isAlphabetic
  | "lowercase" | "lower" => some lowercase.has
  | "uppercase" | "upper" => some uppercase.has
  | "whitespace" | "wspace" | "space" => some isBlank
  | "joincontrol" | "joinc" => some isJoinControl
  | "asciihexdigit" | "ahex" =>
    some fun c => c.isDigit || ('a' ≤ c && c ≤ 'f') || ('A' ≤ c && c ≤ 'F')
  | _ => none

/-- The characters of the script of that normal name. -/
def script? (name : String) : Option (Char → Bool) :=
  (Script.named? name).map (·.table.has)

/-- The property that one name stands for. The short names `cf`, `sc` and `lc` are categories. -/
def property? (name : List Char) : Option (Char → Bool) :=
  let n := normalName name
  (binary? n <|> category? n) <|> script? n

/-- The property that a name and a value stand for, as in `script=greek`. -/
def propertyValue? (name value : List Char) : Option (Char → Bool) :=
  match normalName name with
  | "generalcategory" | "gc" | "category" => category? (normalName value)
  | "script" | "sc" => script? (normalName value)
  | _ => none

end Readiness.Unicode
