/-!
# Tables of code points

A property of characters is a table of closed ranges of code points in increasing order, and
membership is decided by halving.
-/

namespace Readiness.Unicode

/-- Closed ranges of code points, disjoint and in increasing order. -/
abbrev Table := Array (Nat × Nat)

namespace Table

/-- Whether `n` lies in a range of `t` with an index in `lo ≤ i < hi`, in at most `fuel`
halvings. -/
def search (t : Table) (n : Nat) : (fuel lo hi : Nat) → Bool
  | 0, _, _ => false
  | fuel + 1, lo, hi =>
    if lo < hi then
      let mid := (lo + hi) / 2
      let r := t.getD mid (0, 0)
      if n < r.1 then search t n fuel lo mid
      else if r.2 < n then search t n fuel (mid + 1) hi
      else true
    else false

/-- Whether the character lies in one of the ranges. A table of fewer than `2 ^ 16` ranges is
decided in sixteen halvings. -/
def has (t : Table) (c : Char) : Bool := t.search c.toNat 16 0 t.size

end Table

end Readiness.Unicode
