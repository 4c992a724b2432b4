import Mathlib
import Readiness.Text.Utf8

/-!
# The order of bytes

Texts are compared character by character, and their UTF-8 forms byte by byte. Both orders agree,
so that a list of paths that is sorted as texts is sorted by its bytes.

* `encode_lt_encode_iff` : the encoding keeps and reflects the order.
* `byteLE_iff` : the order of the bytes of two texts is the order of the texts.
-/

namespace Readiness.Utf8

/-! ## The bytes of a character as numbers -/

/-- The bytes of the character with the code point `n`. -/
def units (n : Nat) : List Nat :=
  if n < 0x80 then [n]
  else if n < 0x800 then [0xC0 + n / 0x40, 0x80 + n % 0x40]
  else if n < 0x10000 then [0xE0 + n / 0x1000, 0x80 + n / 0x40 % 0x40, 0x80 + n % 0x40]
  else [0xF0 + n / 0x40000, 0x80 + n / 0x1000 % 0x40, 0x80 + n / 0x40 % 0x40, 0x80 + n % 0x40]

theorem encodeChar_eq (c : Char) : encodeChar c = (units c.toNat).map UInt8.ofNat := by
  simp only [encodeChar, units, Nat.div_one]
  split_ifs <;> rfl

theorem units_lt {n : Nat} (hn : n < 0x110000) : ∀ u ∈ units n, u < 256 := by
  unfold units
  split_ifs <;> simp only [List.mem_cons, List.not_mem_nil, or_false] <;> intro u hu <;> omega

theorem toNat_lt (c : Char) : c.toNat < 0x110000 := by
  have h := c.valid
  simp only [UInt32.isValidChar, Nat.isValidChar] at h
  show c.val.toNat < _
  omega

/-- The first numbers in which the lists differ exist, and the one of the left list is smaller. -/
def Below : List Nat → List Nat → Prop
  | a :: s, b :: t => a < b ∨ a = b ∧ Below s t
  | _, _ => False

theorem units_below {n m : Nat} (h : n < m) (hm : m < 0x110000) : Below (units n) (units m) := by
  unfold units
  split_ifs <;> simp only [Below] <;> omega

theorem ofNat_lt_ofNat {a b : Nat} (h : a < b) (hb : b < 256) : UInt8.ofNat a < UInt8.ofNat b := by
  rw [UInt8.lt_iff_toNat_lt, UInt8.toNat_ofNat', UInt8.toNat_ofNat']
  omega

theorem Below.append_lt_append {s t : List Nat} (h : Below s t) (ht : ∀ u ∈ t, u < 256)
    (x y : List UInt8) : s.map UInt8.ofNat ++ x < t.map UInt8.ofNat ++ y := by
  induction s generalizing t with
  | nil => cases t <;> exact h.elim
  | cons a s ih =>
    cases t with
    | nil => exact h.elim
    | cons b t =>
      simp only [List.map_cons, List.cons_append, List.cons_lt_cons_iff]
      rcases h with hab | ⟨rfl, hst⟩
      · exact .inl (ofNat_lt_ofNat hab (ht b List.mem_cons_self))
      · exact .inr ⟨rfl, ih hst fun u hu => ht u (List.mem_cons_of_mem _ hu)⟩

/-! ## Texts -/

theorem encode_cons (c : Char) (s : List Char) : encode (c :: s) = encodeChar c ++ encode s := rfl

theorem encodeChar_ne_nil (c : Char) : encodeChar c ≠ [] := by
  simp only [encodeChar]
  split_ifs <;> exact List.cons_ne_nil _ _

theorem encode_lt_encode {s t : List Char} (h : s < t) : encode s < encode t := by
  induction t generalizing s with
  | nil => exact absurd h (List.not_lt_nil s)
  | cons d t ih =>
    cases s with
    | nil =>
      rw [encode_cons, encode, List.flatMap_nil]
      obtain ⟨b, bs, hb⟩ := List.exists_cons_of_ne_nil (encodeChar_ne_nil d)
      rw [hb]
      exact List.nil_lt_cons _ _
    | cons c s =>
      rw [encode_cons, encode_cons]
      rcases List.cons_lt_cons_iff.mp h with hcd | ⟨rfl, hst⟩
      · rw [encodeChar_eq, encodeChar_eq]
        exact (units_below hcd (toNat_lt d)).append_lt_append (units_lt (toNat_lt d)) _ _
      · exact List.append_left_lt (ih hst)

/-- **The encoding keeps and reflects the order.** -/
theorem encode_lt_encode_iff {s t : List Char} : encode s < encode t ↔ s < t := by
  refine ⟨fun h => ?_, encode_lt_encode⟩
  rcases lt_trichotomy s t with hst | rfl | hts
  · exact hst
  · exact absurd h (List.lt_irrefl _)
  · exact absurd h (List.lt_asymm (encode_lt_encode hts))

/-- Whether the UTF-8 form of a text comes before that of another or is the same. -/
def byteLE (a b : String) : Bool := decide (encode a.toList ≤ encode b.toList)

theorem byteLE_iff {a b : String} : byteLE a b ↔ a ≤ b := by
  rw [byteLE, decide_eq_true_eq, ← List.not_lt, encode_lt_encode_iff, ← not_lt]
  rfl

theorem byteLE_trans (a b c : String) (hab : byteLE a b) (hbc : byteLE b c) : byteLE a c :=
  byteLE_iff.mpr ((byteLE_iff.mp hab).trans (byteLE_iff.mp hbc))

theorem byteLE_total (a b : String) : byteLE a b || byteLE b a := by
  rw [Bool.or_eq_true, byteLE_iff, byteLE_iff]
  exact le_total a b

end Readiness.Utf8
