import Readiness.Pattern.Match
import Readiness.Pattern.Parser
import Readiness.Text.Blank

/-!
# Detection rules

A rule names an interface by a pattern and says how hard it is to replace. Only rules of the scored
tiers are searched for; safe rules are kept for listing.

* `Rule.matcher` is the pattern that a rule searches for in a match mode.
* `RuleTable.ofRules` builds the table that scanning uses, or names the first rule whose pattern
  cannot be read.
-/

namespace Readiness

/-- How serious the use of an interface is. -/
inductive Tier where
  /-- There is no equivalent on the target. -/
  | blocking
  /-- There is a way over, with work. -/
  | needsRework
  /-- It works as it is; never searched for. -/
  | safe
  deriving DecidableEq

def Tier.label : Tier → String
  | .blocking => "blocking"
  | .needsRework => "needs_rework"
  | .safe => "safe"

def Tier.named? : String → Option Tier
  | "blocking" => some .blocking
  | "needs_rework" => some .needsRework
  | "safe" => some .safe
  | _ => none

/-- How patterns are anchored in text. -/
inductive MatchMode where
  /-- Matches may lie inside longer names. -/
  | substring
  /-- Matches begin at a word edge, and matches of literal rules also end at one. -/
  | word
  deriving DecidableEq

def MatchMode.label : MatchMode → String
  | .substring => "substring"
  | .word => "word"

/-- The match mode of that name, whose case and surrounding blanks do not matter. -/
def MatchMode.named? (name : String) : Option MatchMode :=
  match String.ofList (Text.asciiLower (Text.trim name.toList)) with
  | "substring" => some .substring
  | "word" => some .word
  | _ => none

/-- A detection rule. The pattern of a literal rule stands for itself. -/
structure Rule where
  pattern : String
  tier : Tier
  guidance : String
  literal : Bool

/-- The source of the pattern that the rule searches for. -/
def Rule.source (r : Rule) (mode : MatchMode) : List Char :=
  let body := if r.literal then Pattern.quote r.pattern.toList else r.pattern.toList
  match mode, r.literal with
  | .substring, _ => body
  | .word, true => '\\' :: 'b' :: body ++ ['\\', 'b']
  | .word, false => '\\' :: 'b' :: '(' :: '?' :: ':' :: body ++ [')']

def Rule.matcher (r : Rule) (mode : MatchMode) : Except Pattern.Fault Pattern :=
  Pattern.ofSource (r.source mode)

/-- A rule of a scored tier with what it searches for. -/
structure ScoredRule where
  rule : Rule
  matcher : Pattern
  tier_ne_safe : rule.tier ≠ .safe

def ScoredRule.countIn (r : ScoredRule) (text : List Char) : Nat := r.matcher.count text

/-- The rules of a run, in their order. -/
structure RuleTable where
  scored : List ScoredRule
  safe : List Rule

namespace RuleTable

/-- The table of the rules. The error is the first scored rule whose pattern cannot be read, with
what is wrong with it. -/
def ofRules (mode : MatchMode) : List Rule → Except (Rule × Pattern.Fault) RuleTable
  | [] => .ok ⟨[], []⟩
  | r :: rs =>
    if h : r.tier = .safe then do
      let t ← ofRules mode rs
      .ok { t with safe := r :: t.safe }
    else match r.matcher mode with
      | .error e => .error (r, e)
      | .ok p => do
        let t ← ofRules mode rs
        .ok { t with scored := ⟨r, p, h⟩ :: t.scored }

def rules (t : RuleTable) : List Rule := t.scored.map (·.rule) ++ t.safe

end RuleTable

end Readiness
