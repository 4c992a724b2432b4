import Mathlib
import Readiness.Inventory

/-!
# Names and relative paths

A place in a tree is a list of names, and its relative path spells the names with separators between
them. What a file is analysed as depends on its last name only.

* `Path.ofNames` : the relative path of a place; `Path.ofNames_injOn` : places have different paths.
* `Category.IsSourceName` : the names of the files that are analysed.
* `Category.isSome_ofPath?_iff` : the kind of a file depends on its name only.
-/

namespace Readiness

/-! ## Splitting at separators -/

namespace Text
variable {sep : Char}

theorem splitAt_of_not_mem {p : List Char} (h : sep ∉ p) : splitAt sep p = [p] := by
  induction p with
  | nil => rfl
  | cons c p ih =>
    rw [List.mem_cons, not_or] at h
    simp [splitAt, Ne.symm h.1, ih h.2]

theorem splitAt_append {p : List Char} (h : sep ∉ p) (rest : List Char) :
    splitAt sep (p ++ sep :: rest) = p :: splitAt sep rest := by
  induction p with
  | nil => simp [splitAt]
  | cons c p ih =>
    rw [List.mem_cons, not_or] at h
    simp [splitAt, Ne.symm h.1, ih h.2]

theorem splitAt_joinWith {pieces : List (List Char)} (hne : pieces ≠ [])
    (h : ∀ p ∈ pieces, sep ∉ p) : splitAt sep (joinWith [sep] pieces) = pieces := by
  induction pieces with
  | nil => exact absurd rfl hne
  | cons p ps ih =>
    have hp := h p List.mem_cons_self
    cases ps with
    | nil => exact splitAt_of_not_mem hp
    | cons q ps =>
      rw [joinWith, List.append_assoc, List.singleton_append, splitAt_append hp,
        ih (List.cons_ne_nil q ps) fun s hs => h s (List.mem_cons_of_mem p hs)]
      simp

end Text

/-! ## Names -/

/-- Whether a text can be the name of an entry of a folder. -/
structure IsName (name : String) : Prop where
  ne_empty : name ≠ ""
  ne_here : name ≠ "."
  ne_above : name ≠ ".."
  no_separator : '/' ∉ name.toList

instance (name : String) : Decidable (IsName name) :=
  decidable_of_iff (name ≠ "" ∧ name ≠ "." ∧ name ≠ ".." ∧ '/' ∉ name.toList)
    ⟨fun ⟨h, h', h'', hsep⟩ => ⟨h, h', h'', hsep⟩,
      fun h => ⟨h.ne_empty, h.ne_here, h.ne_above, h.no_separator⟩⟩

namespace Path

/-- The relative path of a place: its names with separators between them. -/
def ofNames (names : List String) : String :=
  String.ofList (Text.joinWith ['/'] (names.map String.toList))

theorem splitAt_ofNames {names : List String} (hne : names ≠ []) (h : ∀ n ∈ names, IsName n) :
    Text.splitAt '/' (ofNames names).toList = names.map String.toList := by
  rw [ofNames, String.toList_ofList]
  refine Text.splitAt_joinWith (by simpa using hne) fun p hp => ?_
  obtain ⟨n, hn, rfl⟩ := List.mem_map.mp hp
  exact (h n hn).no_separator

/-- **Different places have different relative paths.** -/
theorem ofNames_injOn {names others : List String} (hne : names ≠ []) (hne' : others ≠ [])
    (h : ∀ n ∈ names, IsName n) (h' : ∀ n ∈ others, IsName n)
    (heq : ofNames names = ofNames others) : names = others := by
  have hsplit := splitAt_ofNames hne h
  rw [heq, splitAt_ofNames hne' h'] at hsplit
  exact (List.map_injective_iff.mpr fun _ _ => String.toList_inj.mp) hsplit.symm

theorem ofNames_cons (name : String) {names : List String} (hne : names ≠ []) :
    ofNames (name :: names) = name ++ "/" ++ ofNames names := by
  obtain ⟨n, ns, rfl⟩ := List.exists_cons_of_ne_nil hne
  simp [ofNames, Text.joinWith, String.ofList_append, String.append_assoc]

theorem ofNames_singleton (name : String) : ofNames [name] = name := by
  simp [ofNames, Text.joinWith]

theorem parts_ofNames {names : List String} (hne : names ≠ []) (h : ∀ n ∈ names, IsName n) :
    Parts.ofText (ofNames names).toList = ⟨.component, (names.map String.toList).reverse⟩ := by
  have hsplit := splitAt_ofNames hne h
  obtain ⟨name, rest, rfl⟩ := List.exists_cons_of_ne_nil hne
  have hname := h name List.mem_cons_self
  unfold Parts.ofText
  split
  · next cs heq =>
    rw [heq, Text.splitAt, if_pos (by simp), List.map_cons, List.cons.injEq] at hsplit
    exact absurd (String.toList_eq_nil_iff.mp hsplit.1.symm) hname.ne_empty
  · next heq =>
    rw [heq, Text.splitAt_of_not_mem (by decide), List.map_cons, List.cons.injEq] at hsplit
    exact absurd (String.toList_inj.mp hsplit.1.symm) hname.ne_here
  · next cs heq =>
    rw [heq, show '.' :: '/' :: cs = ['.'] ++ '/' :: cs from rfl,
      Text.splitAt_append (by decide), List.map_cons, List.cons.injEq] at hsplit
    exact absurd (String.toList_inj.mp hsplit.1.symm) hname.ne_here
  · rw [hsplit]

theorem name?_ofNames {names : List String} (hne : names ≠ []) (h : ∀ n ∈ names, IsName n) :
    (Parts.ofText (ofNames names).toList).name? = some (names.getLast hne).toList := by
  have hlast := h _ (List.getLast_mem hne)
  have hvoid : Parts.isVoid (names.getLast hne).toList = false := by
    rw [Parts.isVoid, Bool.or_eq_false_iff, List.isEmpty_eq_false_iff, beq_eq_false_iff_ne]
    exact ⟨fun h => hlast.ne_empty (String.toList_eq_nil_iff.mp h),
      fun h => hlast.ne_here (String.toList_inj.mp h)⟩
  have hrev : (names.map String.toList).reverse =
      (names.getLast hne).toList :: (names.dropLast.map String.toList).reverse := by
    conv_lhs => rw [← List.dropLast_append_getLast hne]
    simp
  rw [parts_ofNames hne h, hrev, Parts.name?, Parts.trimmed]
  simp only [List.dropWhile_cons, hvoid, Bool.false_eq_true, if_false]
  rw [if_neg]
  rw [beq_iff_eq]
  exact fun h => hlast.ne_above (String.toList_inj.mp h)

/-! ## Extensions -/

theorem extensionOf?_eq_some_iff {name ext : List Char} : extensionOf? name = some ext ↔
    ∃ stem, stem ≠ [] ∧ name = stem ++ '.' :: ext ∧ '.' ∉ ext := by
  constructor
  · intro h
    have hsplit := List.takeWhile_append_dropWhile (p := (· != '.')) (l := name.reverse)
    simp only [extensionOf?] at h
    split at h
    · cases h
    · cases h
    · next c stem hne heq =>
      rw [Option.some.injEq] at h
      have hc : c = '.' := by
        have := List.head?_dropWhile_not (· != '.') name.reverse
        rw [heq] at this
        simpa using this
      refine ⟨stem.reverse, fun hnil => hne (List.reverse_eq_nil_iff.mp hnil), ?_, ?_⟩
      · rw [heq] at hsplit
        rw [← List.reverse_reverse name, ← hsplit, hc, ← h]
        simp
      · rw [← h, List.mem_reverse]
        intro hmem
        simpa using List.mem_takeWhile_imp hmem
  · rintro ⟨stem, hstem, rfl, hdot⟩
    have hext : ∀ c ∈ ext.reverse, (c != '.') = true := by
      intro c hc
      rw [bne_iff_ne]
      rintro rfl
      exact hdot (List.mem_reverse.mp hc)
    have hback : (stem ++ '.' :: ext).reverse = ext.reverse ++ '.' :: stem.reverse := by simp
    obtain ⟨c, cs, hcs⟩ := List.exists_cons_of_ne_nil (List.reverse_ne_nil_iff.mpr hstem)
    unfold extensionOf?
    simp [hback, List.dropWhile_append_of_pos hext, List.takeWhile_append_of_pos hext, hcs]

end Path

/-! ## The files that are analysed -/

namespace Category

/-- Whether a file of the name is analysed: its name is made of something, a dot, and a known
extension. -/
def IsSourceName (name : String) : Prop :=
  ∃ stem ext : String, stem ≠ "" ∧ ext ∈ ["c", "cpp", "cc", "cxx", "h", "hpp"] ∧
    name = stem ++ "." ++ ext

theorem isSome_ofExtension?_iff {ext : String} :
    (ofExtension? ext).isSome ↔ ext ∈ ["c", "cpp", "cc", "cxx", "h", "hpp"] := by
  unfold ofExtension?
  split <;> simp_all

theorem isSome_ofPath?_iff {names : List String} (hne : names ≠ []) (h : ∀ n ∈ names, IsName n) :
    (ofPath? (Path.ofNames names)).isSome ↔ IsSourceName (names.getLast hne) := by
  rw [ofPath?, Path.extension?, Path.name?_ofNames hne h, Option.bind_some]
  constructor
  · intro hsome
    cases hext : Path.extensionOf? (names.getLast hne).toList with
    | none => simp [hext] at hsome
    | some ext =>
      obtain ⟨stem, hstem, hname, -⟩ := Path.extensionOf?_eq_some_iff.mp hext
      refine ⟨String.ofList stem, String.ofList ext, ?_, ?_, ?_⟩
      · simpa using hstem
      · simpa [hext, isSome_ofExtension?_iff] using hsome
      · rw [← String.toList_inj, hname]
        simp
  · rintro ⟨stem, ext, hstem, hext, hname⟩
    have hdot : '.' ∉ ext.toList := by
      clear hname
      revert ext
      decide
    have hsome : Path.extensionOf? (names.getLast hne).toList = some ext.toList := by
      refine Path.extensionOf?_eq_some_iff.mpr ⟨stem.toList, ?_, ?_, hdot⟩
      · exact fun hnil => hstem (String.toList_eq_nil_iff.mp hnil)
      · rw [hname]
        simp
    rw [hsome, Option.map_some, Option.bind_some, String.ofList_toList]
    exact isSome_ofExtension?_iff.mpr hext

end Category

end Readiness
