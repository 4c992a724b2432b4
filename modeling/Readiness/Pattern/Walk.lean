import Readiness.Pattern.Basic

/-!
# Walks through patterns

A repetition of something that may match the empty text can go round without moving ahead. Which of
its matches is preferred then depends on all the choices that are still open. Such a repetition is
searched in one walk, which goes on from every part of the pattern in the order of preference and
passes each part at most once at each place.

* `Pattern.walk` goes through a pattern.
* `Pattern.walkEnds` lists the places where a walk arrives, in the order of arrival.
-/

namespace Readiness

/-- The progress of a walk: the parts that it has passed, each with an offset, and the places where
it has arrived, the last one first. -/
structure Trail where
  seen : List (List Nat × Nat)
  arrived : List Cursor

/-- What a walk does from a cursor on. -/
abbrev Way := Trail → Cursor → Trail

namespace Way

def arrive : Way := fun t c => { t with arrived := c :: t.arrived }

/-- Goes the way unless the part was passed at the same offset before. -/
def once (part : List Nat) (way : Way) : Way := fun t c =>
  if t.seen.contains (part, c.offset) then t
  else way { t with seen := (part, c.offset) :: t.seen } c

/-- Goes the first way and then, from the same cursor, the second. -/
def both (first second : Way) : Way := fun t c => second (first t c) c

end Way

/-- The rounds of a repetition; `nullable` if one round may match the empty text. -/
structure Loop where
  min : Nat
  max : Option Nat
  greedy : Bool
  nullable : Bool

namespace Loop

/-- The number of rounds from which on all rounds are alike, if there is no `max`. -/
def last (l : Loop) : Nat := if l.min == 0 && l.nullable then 1 else l.min

/-- The number of rounds to remember after one more. -/
def next (l : Loop) (k : Nat) : Nat := if l.max.isNone then Nat.min (k + 1) l.last else k + 1

/-- The number that stands for the round after `k` rounds. Rounds that are alike share one. -/
def round (l : Loop) (k : Nat) : Nat := if l.max.isNone && l.last ≤ k then l.last - 1 else k

/-- Goes through the rounds after the first `k`, each by `body`, and then `out`. -/
def walk (l : Loop) (part : List Nat) (body : List Nat → Way → Way) (out : Way) :
    (fuel k : Nat) → Way
  | 0, _ => Way.once (0 :: part) out
  | fuel + 1, k =>
    let leave := Way.once (0 :: part) out
    let more := body (l.round k :: 1 :: part) (walk l part body out fuel (l.next k))
    if k < l.min then more
    else if l.max == some k then leave
    else Way.once (k :: 2 :: part) (if l.greedy then more.both leave else leave.both more)

end Loop

namespace Pattern

/-- Goes through the pattern, whose place in the whole is `part`, and then `out`. -/
def walk : Pattern → (part : List Nat) → (out : Way) → Way
  | .empty, part, out => Way.once part out
  | .char set, part, out => Way.once part fun t c =>
    match c.rest with
    | [] => t
    | x :: xs => if set.has x then out t ⟨c.offset + 1, some x, xs⟩ else t
  | .assert a, part, out => Way.once part fun t c =>
    if a.holds c.before c.rest.head? then out t c else t
  | .seq p q, part, out => p.walk (0 :: part) (q.walk (1 :: part) out)
  | .alt p q, part, out =>
    let out := Way.once (2 :: part) out
    Way.once part ((p.walk (0 :: part) out).both (q.walk (1 :: part) out))
  | .iter min max greedy p, part, out => fun t c =>
    let l : Loop := ⟨min, max, greedy, p.isNullable⟩
    l.walk part p.walk out (max.getD (min + c.rest.length) + 2) 0 t c

/-- The ends of the matches that begin at the cursor, the preferred ones first. -/
def walkEnds (p : Pattern) (c : Cursor) : List Cursor :=
  (p.walk [] Way.arrive ⟨[], []⟩ c).arrived.reverse

end Pattern

end Readiness
