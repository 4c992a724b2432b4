import Readiness.Finding
import Readiness.Pattern.Match
import Readiness.Pattern.Parser

/-!
# Reserved paths

Quoted paths into `/proc` and `/sys`, trees that targets lack or restrict.
-/

namespace Readiness.ReservedPath

def quoteMark : CharSet := .ofList ['"', '\'']

/-- A quote, a reserved path of at least one character beyond its tree, and a quote. The path is the
wanted part. -/
def literal : CapturePattern where
  lead := .char quoteMark
  inner := .sequence [
    .char (.one '/'),
    .alt (.text ['p', 'r', 'o', 'c']) (.text ['s', 'y', 's']),
    .char (.one '/'),
    .manyOne (.char (.compl quoteMark))]
  tail := .char quoteMark

/-- The reserved paths in one text, in their order. -/
def scan (file : String) (text : List Char) : List PathUsage :=
  (literal.captures text).map fun s => ⟨file, String.ofList s⟩

/-- The greatest number of reserved paths that are kept. -/
def maxKept : Nat := 20

def cap (perFile : List (List PathUsage)) : List PathUsage := perFile.flatten.take maxKept

end Readiness.ReservedPath
