import Readiness.Pattern.Walk

/-!
# Matches of patterns

The meaning of a pattern at a place in a text is the list of places where a match from there may
end, the preferred one first; this order is what makes an alternation prefer its left branch and a
repetition prefer more or fewer rounds.

* `Pattern.ends` lists the ends of the matches that begin at a cursor.
* `Pattern.spans` lists the matches that a search from left to right finds without overlap.
* `CapturePattern.captures` lists the wanted parts of such matches.
-/

namespace Readiness

/-! ## Repetition -/

/-- A repetition with its bounds; `step` lists the ends of one round. Without a `max`, every round
moves ahead. -/
structure Rounds where
  min : Nat
  max : Option Nat
  greedy : Bool
  step : Cursor → List Cursor

/-- The progress of a search through the rounds of a repetition: the pairs of a number of rounds
and an offset that need no second visit, and the ends found so far, the last one first. -/
structure Rounds.Progress where
  seen : List (Nat × Nat)
  found : List Cursor

namespace Rounds

/-- Records that the repetition may end here after `k` rounds. -/
def stop (r : Rounds) (k : Nat) (t : Progress) (c : Cursor) : Progress :=
  if r.min ≤ k then { t with found := c :: t.found } else t

/-- The number of rounds to remember after one more: beyond `min` it matters only under a `max`. -/
def next (r : Rounds) (k : Nat) : Nat := if r.max.isNone && r.min ≤ k then k else k + 1

/-- Follows all ways on from `c` after `k` rounds, the preferred ones first. -/
def visit (r : Rounds) : (fuel k : Nat) → Progress → Cursor → Progress
  | 0, k, t, c => r.stop k t c
  | fuel + 1, k, t, c =>
    if t.seen.contains (k, c.offset) then t
    else
      let t := { t with seen := (k, c.offset) :: t.seen }
      let more (t : Progress) : Progress :=
        if r.max == some k then t else (r.step c).foldl (visit r fuel (r.next k)) t
      if r.greedy then r.stop k (more t) c else more (r.stop k t c)

/-- The ends of the repetition from `c`, the preferred ones first. -/
def ends (r : Rounds) (c : Cursor) : List Cursor :=
  (r.visit (r.max.getD (r.min + c.rest.length) + 1) 0 ⟨[], []⟩ c).found.reverse

end Rounds

/-! ## Runs -/

namespace Cursor

/-- The cursors before, within and after the longest run of characters of the set, in this order;
the run ends after `max` characters if it has so many. -/
def run (set : CharSet) : (max : Option Nat) → (offset : Nat) → (before : Option Char) →
    (rest : List Char) → List Cursor
  | _, offset, before, [] => [⟨offset, before, []⟩]
  | max, offset, before, x :: xs =>
    ⟨offset, before, x :: xs⟩ ::
      if max != some 0 && set.has x then run set (max.map (· - 1)) (offset + 1) (some x) xs else []

/-- The ends of the runs of characters of the set that begin at the cursor, the preferred ones
first. -/
def runEnds (set : CharSet) (min : Nat) (max : Option Nat) (greedy : Bool) (c : Cursor) :
    List Cursor :=
  let ends := (run set max c.offset c.before c.rest).drop min
  if greedy then ends.reverse else ends

end Cursor

/-! ## Matching -/

namespace Pattern

/-- The cursors of a list at their first occurrences, without those at the offsets `seen`. -/
def distinct : (seen : List Nat) → List Cursor → List Cursor
  | _, [] => []
  | seen, c :: cs =>
    if seen.contains c.offset then distinct seen cs else c :: distinct (c.offset :: seen) cs

/-- The ends of one thing after another. -/
def follow (cs : List Cursor) (next : Cursor → List Cursor) : List Cursor :=
  match cs with
  | [c] => next c
  | cs => distinct [] (cs.flatMap next)

/-- The ends of the matches that begin at the cursor, the preferred ones first. Repetitions of a
single character are runs, and repetitions that can go round without end take a walk. -/
def ends : Pattern → Cursor → List Cursor
  | .empty, c => [c]
  | .char set, c =>
    match c.rest with
    | [] => []
    | x :: xs => if set.has x then [⟨c.offset + 1, some x, xs⟩] else []
  | .assert a, c => if a.holds c.before c.rest.head? then [c] else []
  | .seq p q, c => follow (p.ends c) q.ends
  | .alt p q, c => p.ends c ++ q.ends c
  | .iter min max greedy p, c =>
    match p with
    | .char set => c.runEnds set min max greedy
    | p =>
      if max.isNone && p.isNullable then (Pattern.iter min max greedy p).walkEnds c
      else Rounds.ends ⟨min, max, greedy, p.ends⟩ c

/-- The preferred match that begins at the cursor, as the place where it ends. -/
def end? (p : Pattern) (c : Cursor) : Option Cursor := (p.ends c).head?

end Pattern

/-! ## Searching -/

/-- A piece of a text, from one place to a later one. -/
structure Span where
  start : Cursor
  stop : Cursor

namespace Span

def text (s : Span) : List Char := s.start.textTo s.stop

end Span

/-- One attempt of a search at `c`, where the last hit ended at offset `last`: no hit may begin
before `last`, and an empty one may not stand there. A hit is a result and the place where it
ends. -/
def tryAt {α : Type} (attempt : Cursor → Option (α × Cursor)) (last : Option Nat) (c : Cursor) :
    Option (α × Cursor) :=
  if last.any (c.offset < ·) then none
  else match attempt c with
    | none => none
    | some hit => if hit.2.offset == c.offset && last == some c.offset then none else some hit

/-- The results of a search from left to right without overlap. -/
def search {α : Type} (attempt : Cursor → Option (α × Cursor)) :
    (last : Option Nat) → (offset : Nat) → (before : Option Char) → (rest : List Char) → List α
  | last, offset, before, [] => ((tryAt attempt last ⟨offset, before, []⟩).map (·.1)).toList
  | last, offset, before, x :: xs =>
    match tryAt attempt last ⟨offset, before, x :: xs⟩ with
    | none => search attempt last (offset + 1) (some x) xs
    | some hit => hit.1 :: search attempt (some hit.2.offset) (offset + 1) (some x) xs

/-- The results of a search through a whole text. -/
def searchAll {α : Type} (attempt : Cursor → Option (α × Cursor)) (text : List Char) : List α :=
  search attempt none 0 none text

namespace Pattern

/-- The matches in a text, from left to right without overlap. -/
def spans (p : Pattern) (text : List Char) : List Span :=
  searchAll (fun c => (p.end? c).map fun d => (⟨c, d⟩, d)) text

def count (p : Pattern) (text : List Char) : Nat := (p.spans text).length

end Pattern

/-! ## Captured parts -/

/-- A pattern in three parts, of which the middle one is wanted. -/
structure CapturePattern where
  lead : Pattern
  inner : Pattern
  tail : Pattern

namespace CapturePattern

/-- The preferred match at the cursor: its middle part, and where the match ends. -/
def match? (p : CapturePattern) (c : Cursor) : Option (Span × Cursor) :=
  (p.lead.ends c).findSome? fun s =>
    (p.inner.ends s).findSome? fun e =>
      (p.tail.end? e).map fun d => (⟨s, e⟩, d)

/-- The middle parts of the matches in a text, from left to right without overlap. -/
def captures (p : CapturePattern) (text : List Char) : List (List Char) :=
  (searchAll p.match? text).map Span.text

end CapturePattern

end Readiness
