import Readiness.Proofs.Disk.Tree

/-!
# Changes to trees

What erasing places and listing entries in another order do to the files of a tree.

* `Node.at?_eraseAll_eq_file_iff` : erasing places takes the files there and nothing else.
* `Node.Reordered` : two nodes that differ in the order of entries only.
* `Node.Reordered.at?_eq_file_iff` : they have the same files at the same places.
-/

namespace Readiness.Node

/-! ## Entries -/

theorem child?_filter (es : List (String × Node)) (name x : String) :
    (Node.folder (es.filter (·.1 != name))).child? x =
      if x = name then none else (Node.folder es).child? x := by
  induction es with
  | nil => simp [child?]
  | cons e es ih =>
    obtain ⟨key, n⟩ := e
    rw [List.filter_cons]
    by_cases hkey : key = name
    · rw [if_neg (by simp [hkey]), ih, child?_folder_cons, hkey]
      split_ifs <;> rfl
    · rw [if_pos (by simpa using hkey), child?_folder_cons, child?_folder_cons, ih]
      split_ifs <;> simp_all

theorem child?_map (es : List (String × Node)) (name x : String) (f : Node → Node) :
    (Node.folder (es.map fun e => if e.1 == name then (name, f e.2) else e)).child? x =
      if x = name then ((Node.folder es).child? x).map f else (Node.folder es).child? x := by
  induction es with
  | nil => simp [child?]
  | cons e es ih =>
    obtain ⟨key, n⟩ := e
    rw [List.map_cons]
    by_cases hkey : key = name
    · rw [if_pos (by simp [hkey]), child?_folder_cons, child?_folder_cons, ih, hkey]
      split_ifs <;> rfl
    · rw [if_neg (by simpa using hkey), child?_folder_cons, child?_folder_cons, ih]
      split_ifs <;> simp_all

theorem child?_setEntry (es : List (String × Node)) (name x : String) (new : Node) :
    (Node.folder (setEntry name new es)).child? x =
      if x = name then some new else (Node.folder es).child? x := by
  induction es with
  | nil => rw [setEntry, child?_folder_cons]
  | cons e es ih =>
    obtain ⟨key, n⟩ := e
    rw [setEntry]
    by_cases hkey : key = name
    · rw [if_pos (beq_iff_eq.mpr hkey), child?_folder_cons, child?_folder_cons, hkey]
      split_ifs <;> rfl
    · rw [if_neg (by simpa using hkey), child?_folder_cons, child?_folder_cons, ih]
      split_ifs with hx hname
      · exact absurd (hx.symm.trans hname) hkey
      all_goals rfl

theorem child?_eq_some_iff {es : List (String × Node)} (hdistinct : (es.map (·.1)).Nodup)
    {name : String} {n : Node} : (Node.folder es).child? name = some n ↔ (name, n) ∈ es := by
  refine ⟨mem_of_child?_eq_some, fun h => ?_⟩
  induction es with
  | nil => cases h
  | cons e es ih =>
    obtain ⟨key, m⟩ := e
    rw [List.map_cons, List.nodup_cons] at hdistinct
    rw [child?_folder_cons]
    rcases List.mem_cons.mp h with h | h
    · rw [Prod.mk.injEq] at h
      rw [if_pos h.1, h.2]
    · rw [if_neg, ih hdistinct.2 h]
      intro heq
      exact hdistinct.1 (heq ▸ List.mem_map_of_mem (f := (·.1)) h)

/-! ## Erasing -/

theorem erase_of_not_folder {n : Node} (h : ∀ es, n ≠ .folder es) (names : List String) :
    n.erase names = n := by
  cases n with
  | folder es => exact absurd rfl (h es)
  | _ => cases names <;> rfl

theorem erase_nil (n : Node) : n.erase [] = n := by cases n <;> rfl

theorem erase_cons (es : List (String × Node)) (name : String) {names : List String}
    (hne : names ≠ []) : (Node.folder es).erase (name :: names) =
      .folder (es.map fun e => if e.1 == name then (name, erase e.2 names) else e) := by
  obtain ⟨x, xs, rfl⟩ := List.exists_cons_of_ne_nil hne
  rfl

theorem at?_erase_eq_file_iff {n : Node} {names : List String} (hne : names ≠ [])
    (other : List String) (content : Option (List UInt8)) :
    (n.erase names).at? other = some (.file content) ↔
      n.at? other = some (.file content) ∧ ¬ names <+: other := by
  induction names generalizing n other with
  | nil => exact absurd rfl hne
  | cons name names ih =>
    cases n with
    | file content' =>
      cases other with
      | nil => simp [erase_of_not_folder, at?]
      | cons x xs => simp [erase_of_not_folder, at?_cons, child?]
    | link target =>
      cases other <;> simp [erase_of_not_folder, at?, child?]
    | folder es =>
      cases other with
      | nil => cases names <;> simp [erase, at?]
      | cons x xs =>
        rw [at?_cons, at?_cons, List.cons_prefix_cons]
        by_cases hnames : names = []
        · rw [hnames, erase, child?_filter]
          by_cases hx : x = name <;> simp [hx, Ne.symm]
        · rw [erase_cons es name hnames, child?_map es name x (Node.erase · names)]
          by_cases hx : x = name
          · rw [if_pos hx]
            cases (Node.folder es).child? x with
            | none => simp
            | some m => simpa [hx] using ih hnames xs
          · simp [hx, Ne.symm hx]

namespace IsTree
variable {n m : Node} {names : List String}

theorem erase (h : n.IsTree) (names : List String) : (n.erase names).IsTree := by
  induction names generalizing n with
  | nil => rwa [erase_nil]
  | cons name names ih =>
    cases h with
    | file content => exact .file content
    | folder hnames hdistinct hnodes =>
      by_cases hne : names = []
      · rw [hne, Node.erase]
        refine .folder (fun e he => hnames e (List.mem_filter.mp he).1) ?_
          fun e he => hnodes e (List.mem_filter.mp he).1
        exact hdistinct.sublist (List.filter_sublist.map _)
      · rw [erase_cons _ name hne]
        have hkeys : ∀ es : List (String × Node), (es.map fun e =>
            if e.1 == name then (name, e.2.erase names) else e).map (·.1) = es.map (·.1) := by
          intro es
          rw [List.map_map]
          refine List.map_congr_left fun e _ => ?_
          by_cases he : e.1 = name <;> simp [he]
        refine .folder ?_ (by rwa [hkeys]) ?_
        all_goals
          intro e he
          obtain ⟨old, hold, rfl⟩ := List.mem_map.mp he
          split_ifs with hname
        · exact beq_iff_eq.mp hname ▸ hnames old hold
        · exact hnames old hold
        · exact ih (hnodes old hold)
        · exact hnodes old hold

end IsTree

/-- The tree without the nodes at the places. -/
def eraseAll (n : Node) (places : List (List String)) : Node := places.foldl erase n

theorem IsTree.eraseAll {n : Node} (h : n.IsTree) (places : List (List String)) :
    (n.eraseAll places).IsTree := by
  induction places generalizing n with
  | nil => exact h
  | cons names places ih => exact ih (h.erase names)

/-- **Erasing places takes the files at them and below them and no others.** -/
theorem at?_eraseAll_eq_file_iff {n : Node} {places : List (List String)}
    (hne : ∀ names ∈ places, names ≠ []) (other : List String) (content : Option (List UInt8)) :
    (n.eraseAll places).at? other = some (.file content) ↔
      n.at? other = some (.file content) ∧ ∀ names ∈ places, ¬ names <+: other := by
  induction places generalizing n with
  | nil => simp [eraseAll]
  | cons names places ih =>
    have hstep := ih (n := n.erase names) fun x hx => hne x (List.mem_cons_of_mem _ hx)
    rw [show n.eraseAll (names :: places) = (n.erase names).eraseAll places from rfl, hstep,
      at?_erase_eq_file_iff (hne names List.mem_cons_self), List.forall_mem_cons, and_assoc]

theorem exists_eraseAll_folder (es : List (String × Node)) (places : List (List String)) :
    ∃ fs, (Node.folder es).eraseAll places = .folder fs := by
  induction places generalizing es with
  | nil => exact ⟨es, rfl⟩
  | cons names places ih =>
    have hstep : ∃ fs, (Node.folder es).erase names = .folder fs := by
      match names with
      | [] => exact ⟨es, rfl⟩
      | [_] => exact ⟨_, rfl⟩
      | _ :: _ :: _ => exact ⟨_, rfl⟩
    obtain ⟨fs, hfs⟩ := hstep
    rw [eraseAll, List.foldl_cons, hfs]
    exact ih fs

theorem eq_of_prefix_of_at? {n : Node} {names others : List String}
    {content content' : Option (List UInt8)} (h : n.at? names = some (.file content))
    (h' : n.at? others = some (.file content')) (hpre : names <+: others) : names = others := by
  induction names generalizing n others with
  | nil =>
    rw [at?, Option.some.injEq] at h
    subst h
    cases others with
    | nil => rfl
    | cons x xs => cases h'
  | cons name names ih =>
    obtain ⟨others, rfl⟩ := hpre
    rw [List.cons_append, at?_cons, Option.bind_eq_some_iff] at h'
    rw [at?_cons, Option.bind_eq_some_iff] at h
    obtain ⟨m, hm, h⟩ := h
    obtain ⟨k, hk, h'⟩ := h'
    obtain rfl := Option.some.inj (hm.symm.trans hk)
    rw [List.cons_append, ← ih h h' (List.prefix_append names others)]

/-! ## The order of entries -/

/-- Whether two nodes differ in the order of the entries of folders only. -/
inductive Reordered : Node → Node → Prop where
  | refl (n : Node) : Reordered n n
  | entries {es fs : List (String × Node)} (perm : es.Perm fs) : Reordered (.folder es) (.folder fs)
  | inside {m n : Node} (before : List (String × Node)) (name : String)
      (after : List (String × Node)) (node : Reordered m n) :
      Reordered (.folder (before ++ (name, m) :: after)) (.folder (before ++ (name, n) :: after))
  | trans {l m n : Node} (left : Reordered l m) (right : Reordered m n) : Reordered l n

namespace Reordered
variable {m n : Node}

theorem isTree (h : Reordered m n) (hm : m.IsTree) : n.IsTree := by
  induction h with
  | refl n => exact hm
  | entries perm =>
    cases hm with
    | folder hnames hdistinct hnodes =>
      exact .folder (fun e he => hnames e (perm.mem_iff.mpr he))
        ((perm.map _).nodup_iff.mp hdistinct) fun e he => hnodes e (perm.mem_iff.mpr he)
  | inside before name after node ih =>
    cases hm with
    | folder hnames hdistinct hnodes =>
      simp only [List.forall_mem_append, List.forall_mem_cons] at hnames hnodes
      refine .folder ?_ (by simpa using hdistinct) ?_
      · simpa only [List.forall_mem_append, List.forall_mem_cons] using hnames
      · simp only [List.forall_mem_append, List.forall_mem_cons]
        exact ⟨hnodes.1, ih hnodes.2.1, hnodes.2.2⟩
  | trans _ _ ihl ihr => exact ihr (ihl hm)

theorem exists_folder {es : List (String × Node)} (h : Reordered (.folder es) n) :
    ∃ fs, n = .folder fs := by
  generalize hm : Node.folder es = m at h
  induction h generalizing es with
  | refl n => exact ⟨es, hm.symm⟩
  | entries perm => exact ⟨_, rfl⟩
  | inside before name after node ih => exact ⟨_, rfl⟩
  | trans _ _ ihl ihr =>
    obtain ⟨fs, rfl⟩ := ihl hm
    exact ihr rfl

/-- **The order of entries does not matter to what files stand where.** -/
theorem at?_eq_file_iff (h : Reordered m n) (hm : m.IsTree) (names : List String)
    (content : Option (List UInt8)) :
    m.at? names = some (.file content) ↔ n.at? names = some (.file content) := by
  induction h generalizing names with
  | refl n => rfl
  | @entries es fs perm =>
    cases names with
    | nil => simp [at?]
    | cons x xs =>
      cases hm with
      | folder hnames hdistinct hnodes =>
        have hchild : (Node.folder es).child? x = (Node.folder fs).child? x := by
          refine Option.ext fun k => ?_
          rw [child?_eq_some_iff hdistinct,
            child?_eq_some_iff ((perm.map _).nodup_iff.mp hdistinct), perm.mem_iff]
        rw [at?_cons, at?_cons, hchild]
  | inside before name after node ih =>
    cases names with
    | nil => simp [at?]
    | cons x xs =>
      induction before with
      | nil =>
        rw [List.nil_append, List.nil_append, at?_folder_cons, at?_folder_cons]
        split_ifs with hx
        · cases hm with
          | folder _ _ hnodes => exact ih (hnodes _ List.mem_cons_self) xs
        · rfl
      | cons e before ihb =>
        obtain ⟨key, k⟩ := e
        rw [List.cons_append, List.cons_append, at?_folder_cons, at?_folder_cons]
        split_ifs with hx
        · rfl
        · refine ihb ?_
          cases hm with
          | folder hnames hdistinct hnodes =>
            exact .folder (fun e he => hnames e (List.mem_cons_of_mem _ he))
              (List.nodup_cons.mp hdistinct).2 fun e he => hnodes e (List.mem_cons_of_mem _ he)
  | trans left _ ihl ihr => exact (ihl hm names).trans (ihr (left.isTree hm) names)

end Reordered

/-! ## Links -/

theorem followEntries_eq {onLink : List String → String → Option Node} {es : List (String × Node)}
    {names : List String}
    (h : ∀ e ∈ es, e.2.follow onLink (names ++ [e.1]) = some e.2) :
    followEntries onLink names es = es := by
  induction es with
  | nil => rfl
  | cons e es ih =>
    obtain ⟨name, n⟩ := e
    simp only [followEntries, h (name, n) List.mem_cons_self]
    rw [ih fun e he => h e (List.mem_cons_of_mem _ he)]

theorem IsTree.follow_eq {n : Node} (h : n.IsTree) (onLink : List String → String → Option Node)
    (names : List String) : n.follow onLink names = some n := by
  induction n using inductionOn generalizing names with
  | file content => rfl
  | link target => cases h
  | folder es ih =>
    cases h with
    | folder hnames hdistinct hnodes =>
      rw [follow, followEntries_eq fun e he => ih e he (hnodes e he) _]

end Readiness.Node
