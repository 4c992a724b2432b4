import Readiness.Unicode.Class

/-!
# Blanks in text

Trimming, splitting at blanks and ASCII case.
-/

namespace Readiness.Text

open Unicode

/-- The text without the blanks at both ends. -/
def trim (s : List Char) : List Char :=
  ((s.dropWhile isBlank).reverse.dropWhile isBlank).reverse

/-- The pieces between blanks; `word` is the piece being read, its last character first. -/
def splitBlanks : (word : List Char) → List Char → List (List Char)
  | [], [] => []
  | w :: ws, [] => [(w :: ws).reverse]
  | word, c :: cs =>
    if isBlank c then
      if word.isEmpty then splitBlanks [] cs else word.reverse :: splitBlanks [] cs
    else splitBlanks (c :: word) cs

/-- The words of a text: its longest pieces without blanks. -/
def words (s : List Char) : List (List Char) := splitBlanks [] s

/-- The text with its ASCII letters in lower case. -/
def asciiLower (s : List Char) : List Char := s.map Char.toLower

/-- The pieces between the separators; there is one more piece than there are separators. -/
def splitAt (sep : Char) : List Char → List (List Char)
  | [] => [[]]
  | c :: cs =>
    if c == sep then [] :: splitAt sep cs
    else match splitAt sep cs with
      | [] => [[c]]
      | p :: ps => (c :: p) :: ps

/-- The pieces with the separator between each two of them. -/
def joinWith (sep : List Char) : List (List Char) → List Char
  | [] => []
  | [p] => p
  | p :: ps => p ++ sep ++ joinWith sep ps

end Readiness.Text
