import Readiness.Proofs.Pattern.Quote
import Readiness.Rule.Builtin

/-!
# What the blocking rules look for

Each of the built-in blocking rules looks for a name, or for two texts in one line; word mode puts a
word edge before it.

* `Rule.Target` : what a rule looks for.
* `Rule.blockingTargets` : the patterns of the built-in blocking rules with their targets.
* `Rule.forall₂_blockingTargets` : the rules search for their targets.
-/

namespace Readiness.Rule

/-- What a blocking rule looks for. -/
inductive Target where
  | name (s : List Char)
  /-- Two texts in one line. -/
  | pair (s t : List Char)

namespace Target

def pattern : Target → Pattern
  | .name s => .text s
  | .pair s t => Pattern.between s t

/-- What a rule with this target searches for. -/
def matcher (x : Target) : MatchMode → Pattern
  | .substring => x.pattern
  | .word => .seq Pattern.edge x.pattern

theorem ordered_pattern (x : Target) : x.pattern.Ordered := by
  cases x with
  | name s => exact Pattern.ordered_text s
  | pair s t => exact Pattern.ordered_between s t

end Target

/-- The patterns of the built-in blocking rules, with what they look for. -/
def blockingTargets : List (String × Target) := [
  ("io_uring", .name "io_uring".toList),
  ("clone.*CLONE_NEW", .pair "clone".toList "CLONE_NEW".toList),
  ("unshare", .name "unshare".toList),
  ("setns", .name "setns".toList),
  ("perf_event_open", .name "perf_event_open".toList),
  ("bpf", .name "bpf".toList),
  ("mount.*MS_", .pair "mount".toList "MS_".toList),
  ("pivot_root", .name "pivot_root".toList)]

/-- The rule of a pattern and its guidance, as the built-in list makes it. -/
def blocking (r : String × String) : Rule := ⟨r.1, .blocking, r.2, false⟩

/-- Whether the rule has the pattern and searches for the target, in both modes. -/
structure SearchesFor (r : Rule) (x : String × Target) : Prop where
  pattern_eq : r.pattern = x.1
  matcher_eq : ∀ mode, r.matcher mode = .ok (x.2.matcher mode)

theorem searchesFor_blocking {name guidance : String} {target : Target}
    (hsubstring : (blocking (name, guidance)).matcher .substring = .ok target.pattern)
    (hword : (blocking (name, guidance)).matcher .word = .ok (.seq Pattern.edge target.pattern)) :
    (blocking (name, guidance)).SearchesFor (name, target) := by
  refine ⟨rfl, fun mode => ?_⟩
  cases mode with
  | substring => exact hsubstring
  | word => exact hword

/-- **The blocking rules search for their targets.** -/
theorem forall₂_blockingTargets :
    List.Forall₂ SearchesFor (blockingPatterns.map blocking) blockingTargets := by
  refine .cons ?_ (.cons ?_ (.cons ?_ (.cons ?_ (.cons ?_ (.cons ?_ (.cons ?_ (.cons ?_ .nil)))))))
  all_goals exact searchesFor_blocking rfl rfl

theorem exists_searchesFor_of_mem {r : Rule} (h : r ∈ blockingPatterns.map blocking) :
    ∃ x ∈ blockingTargets, r.SearchesFor x := by
  obtain ⟨i, hi, rfl⟩ := List.getElem_of_mem h
  have hlength := forall₂_blockingTargets.length_eq
  exact ⟨_, List.getElem_mem (hlength ▸ hi), forall₂_blockingTargets.get hi (hlength ▸ hi)⟩

end Readiness.Rule
