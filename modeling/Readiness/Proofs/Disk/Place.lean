import Readiness.Proofs.Disk.Tree
import Readiness.Proofs.Path.Ancestors

/-!
# Paths that spell places

A path without `..` that passes through no links leads to the place that its names spell, and names
that are joined to it are looked up in the folder there.

* `Disk.Spells` : a path that spells the place of a folder.
* `Disk.Spells.resolve_eq` : where it leads.
* `Disk.Spells.node?_join` : what stands at a path that is joined to it.
-/

namespace Readiness

/-! ## Places above a place -/

namespace Node

theorem at?_append (n : Node) (names others : List String) :
    n.at? (names ++ others) = (n.at? names).bind (at? · others) := by
  induction names generalizing n with
  | nil => rfl
  | cons name names ih =>
    rw [List.cons_append, at?_cons, at?_cons]
    cases n.child? name with
    | none => rfl
    | some m => exact ih m

theorem exists_folder_of_at?_append {n : Node} {names others : List String}
    {entries : List (String × Node)} (h : n.at? (names ++ others) = some (.folder entries)) :
    ∃ above, n.at? names = some (.folder above) := by
  rw [at?_append, Option.bind_eq_some_iff] at h
  obtain ⟨m, hm, hothers⟩ := h
  cases others with
  | nil => exact ⟨entries, hm.trans hothers⟩
  | cons name others =>
    cases m with
    | folder above => exact ⟨above, hm⟩
    | _ => cases hothers

end Node

namespace Disk

/-- Where a path begins. -/
def base (d : Disk) (path : String) : List String := if Path.isAbsolute path then [] else d.here

/-- What stands at a path as seen from a place. -/
def nodeFrom? (d : Disk) (place : List String) (path : String) : Option Node :=
  match resolveFrom d.root linkLimit place (segments path) with
  | .ok names => d.root.at? names
  | .error _ => none

/-- Whether a path spells the place of a folder: without `..`, and through no links. The empty path
spells the working folder. -/
structure Spells (d : Disk) (path : String) (place : List String) : Prop where
  no_above : ".." ∉ Path.names path
  place_eq : place = d.base path ++ Path.names path
  isFolder : ∃ entries, d.root.at? place = some (.folder entries)

/-! ## Walking along names -/

/-- The segments that name something. -/
def named (segments : List String) : List String := segments.filter fun s => !(s == "" || s == ".")

theorem named_segments (path : String) : named (segments path) = Path.names path := by
  rw [named, segments, Path.names, Path.spelled, List.filter_map]
  congr 1
  refine List.filter_congr fun p _ => ?_
  have hempty : (String.ofList p == "") = p.isEmpty := by
    rw [Bool.eq_iff_iff, beq_iff_eq, List.isEmpty_iff, ← String.toList_inj, String.toList_ofList]
    rfl
  have hhere : (String.ofList p == ".") = (p == ['.']) := by
    rw [Bool.eq_iff_iff, beq_iff_eq, beq_iff_eq, ← String.toList_inj, String.toList_ofList]
    rfl
  simp [Path.Parts.isVoid, hempty, hhere]

theorem walk_append {root : Node}
    {onLink : List String → List String → Except PathFault (List String)}
    {here segs : List String} {entries : List (String × Node)} (rest : List String)
    (hno : ".." ∉ named segs) (h : root.at? (here ++ named segs) = some (.folder entries)) :
    walk root onLink here (segs ++ rest) = walk root onLink (here ++ named segs) rest := by
  induction segs generalizing here with
  | nil => simp [named]
  | cons s segs ih =>
    obtain ⟨above, habove⟩ := Node.exists_folder_of_at?_append h
    rw [List.cons_append, walk, habove]
    simp only
    by_cases hvoid : (s == "" || s == ".") = true
    · have hnamed : named (s :: segs) = named segs :=
        List.filter_cons_of_neg (by simp only [hvoid]; decide)
      rw [hnamed] at hno h ⊢
      rw [if_pos hvoid, ih hno h]
    · have hnamed : named (s :: segs) = s :: named segs :=
        List.filter_cons_of_pos (by simpa using hvoid)
      rw [hnamed] at hno h ⊢
      rw [List.mem_cons, not_or] at hno
      have hstep : here ++ s :: named segs = here ++ [s] ++ named segs := by simp
      rw [hstep] at h ⊢
      obtain ⟨inner, hinner⟩ := Node.exists_folder_of_at?_append h
      have hlookup : above.lookup s = some (.folder inner) := by
        rw [Node.at?_append, habove] at hinner
        simpa [Node.at?, Node.child?] using hinner
      rw [if_neg hvoid, if_neg (by simpa using Ne.symm hno.1), hlookup]
      exact ih hno.2 h

theorem resolveFrom_append {root : Node} {links : Nat} {here segs : List String}
    {entries : List (String × Node)} (rest : List String) (hno : ".." ∉ named segs)
    (h : root.at? (here ++ named segs) = some (.folder entries)) :
    resolveFrom root links here (segs ++ rest) =
      resolveFrom root links (here ++ named segs) rest := by
  cases links <;> exact walk_append rest hno h

theorem resolveFrom_nil (root : Node) (links : Nat) (here : List String) :
    resolveFrom root links here [] = .ok here := by
  cases links <;> rfl

/-! ## Spelled places -/

namespace Spells
variable {d : Disk} {path : String} {place : List String}

/-- **A path that spells a place leads to it.** -/
theorem resolve_eq (h : d.Spells path place) (hne : path ≠ "") : d.resolve path = .ok place := by
  obtain ⟨entries, hat⟩ := h.isFolder
  rw [h.place_eq, ← named_segments] at hat
  have hwalk := @resolveFrom_append d.root linkLimit (d.base path) (segments path) entries []
    (by rw [named_segments]; exact h.no_above) hat
  rw [List.append_nil, resolveFrom_nil, named_segments, ← h.place_eq] at hwalk
  rw [resolve, if_neg (by simpa using hne)]
  exact hwalk

end Spells

end Disk

/-! ## Joined paths -/

namespace Path

theorem toList_join {path name : String} (hne : path ≠ "") (hname : isAbsolute name = false) :
    (join path name).toList = path.toList ++
      if path.toList.getLast? == some '/' then name.toList else '/' :: name.toList := by
  rw [join, if_neg (by simpa [hname] using hne)]
  split_ifs <;> simp

theorem isAbsolute_join {path name : String} (hne : path ≠ "") (hname : isAbsolute name = false) :
    isAbsolute (join path name) = isAbsolute path := by
  rw [isAbsolute, isAbsolute, toList_join hne hname,
    List.head?_append_of_ne_nil _ (String.toList_eq_nil_iff.not.mpr hne)]

theorem exists_segments_join {path name : String} (hne : path ≠ "")
    (hname : isAbsolute name = false) : ∃ segs, Disk.segments (join path name) =
      segs ++ Disk.segments name ∧ Disk.named segs = names path := by
  rw [← Disk.named_segments, Disk.segments, toList_join hne hname, Disk.segments, Disk.segments]
  split_ifs with hlast
  · obtain ⟨lead, hlead⟩ := List.getLast?_eq_some_iff.mp (beq_iff_eq.mp hlast)
    refine ⟨(Text.splitAt '/' lead).map String.ofList, ?_, ?_⟩
    · rw [hlead, List.append_assoc, List.singleton_append, Text.splitAt_append_sep, List.map_append]
    · rw [hlead, Text.splitAt_append_sep, List.map_append, Disk.named, Disk.named,
        List.filter_append]
      simp [Text.splitAt]
  · refine ⟨(Text.splitAt '/' path.toList).map String.ofList, ?_, rfl⟩
    rw [Text.splitAt_append_sep, List.map_append]

end Path

namespace Disk.Spells
variable {d : Disk} {path : String} {place : List String}

/-- **What is joined to a path is looked up at the place that the path spells.** -/
theorem node?_join (h : d.Spells path place) {name : String} (hne : name ≠ "")
    (hname : Path.isAbsolute name = false) :
    d.node? (Path.join path name) = d.nodeFrom? place name := by
  by_cases hpath : path = ""
  · subst hpath
    have hplace : place = d.here := by
      rw [h.place_eq]
      exact List.append_nil _
    rw [show Path.join "" name = name by simp [Path.join], node?, resolve,
      if_neg (by simpa using hne), hname, hplace]
    rfl
  · obtain ⟨segs, hsegs, hnamed⟩ := Path.exists_segments_join hpath hname
    obtain ⟨entries, hat⟩ := h.isFolder
    have hjoin : (Path.join path name).isEmpty = false := by
      rw [← Bool.not_eq_true, String.isEmpty_iff, ← String.toList_eq_nil_iff,
        Path.toList_join hpath hname]
      simp [hpath]
    rw [h.place_eq, ← hnamed] at hat
    rw [node?, resolve, hjoin, Path.isAbsolute_join hpath hname, hsegs, if_neg (by simp),
      ← base, resolveFrom_append _ (hnamed ▸ h.no_above) hat, hnamed, ← h.place_eq]
    rfl

theorem base_parent {parent : String} (hparent : Path.parent? path = some parent) :
    d.base parent = d.base path := by
  rw [base, base, Path.isAbsolute_parent? hparent]

/-- **The parent of a path spells the place above.** -/
theorem parent (h : d.Spells path place) {parent : String}
    (hparent : Path.parent? path = some parent) :
    d.Spells parent (d.base path ++ (Path.names path).dropLast) where
  no_above := by
    rw [Path.names_parent? hparent]
    exact fun hmem => h.no_above (List.mem_of_mem_dropLast hmem)
  place_eq := by rw [Path.names_parent? hparent, base_parent hparent]
  isFolder := by
    obtain ⟨entries, hat⟩ := h.isFolder
    obtain ⟨last, hlast⟩ := List.dropLast_prefix (Path.names path)
    rw [h.place_eq, ← hlast, ← List.append_assoc] at hat
    exact Node.exists_folder_of_at?_append hat

end Disk.Spells

end Readiness
