import Readiness.Proofs.Disk.Names

/-!
# Trees of files and folders

The files of a tree as a map from places: whatever the order of the entries, the files that a tree
lists are those that stand at its places, each under the relative path of its place.

* `Node.IsTree` : a node of files and folders, with proper and distinct names in each folder.
* `Node.mem_files_iff`, `Node.nodup_files` : the list of files as a map.
-/

namespace Readiness.Node

@[elab_as_elim]
theorem inductionOn {P : Node → Prop} (file : ∀ content, P (.file content))
    (link : ∀ target, P (.link target))
    (folder : ∀ entries, (∀ e ∈ entries, P e.2) → P (.folder entries)) (n : Node) : P n :=
  @Node.rec P (fun entries => ∀ e ∈ entries, P e.2) (fun e => P e.2) file link folder (by simp)
    (fun _ _ he hes e' h' => (List.mem_cons.mp h').elim (fun h => h ▸ he) (hes e'))
    (fun _ _ h => h) n

/-- Whether a node is made of files and folders only, whose entries have distinct names. -/
inductive IsTree : Node → Prop where
  | file (content : Option (List UInt8)) : IsTree (.file content)
  | folder {entries : List (String × Node)} (names : ∀ e ∈ entries, IsName e.1)
      (distinct : (entries.map (·.1)).Nodup) (nodes : ∀ e ∈ entries, IsTree e.2) :
      IsTree (.folder entries)

/-! ## Places -/

theorem at?_cons (n : Node) (name : String) (names : List String) :
    n.at? (name :: names) = (n.child? name).bind (at? · names) := rfl

theorem child?_folder_cons (name x : String) (n : Node) (es : List (String × Node)) :
    (Node.folder ((name, n) :: es)).child? x =
      if x = name then some n else (Node.folder es).child? x := by
  rw [child?, child?, List.lookup_cons]
  split_ifs with h
  · rw [beq_iff_eq.mpr h]
  · rw [beq_eq_false_iff_ne.mpr h]

theorem at?_folder_cons (name x : String) (n : Node) (es : List (String × Node))
    (xs : List String) : (Node.folder ((name, n) :: es)).at? (x :: xs) =
      if x = name then n.at? xs else (Node.folder es).at? (x :: xs) := by
  rw [at?_cons, at?_cons, child?_folder_cons]
  split_ifs <;> rfl

theorem mem_of_child?_eq_some {es : List (String × Node)} {name : String} {n : Node}
    (h : (Node.folder es).child? name = some n) : (name, n) ∈ es := by
  obtain ⟨before, after, rfl, -⟩ := List.lookup_eq_some_iff.mp h
  exact List.mem_append_right _ List.mem_cons_self

namespace IsTree
variable {n m : Node} {names : List String}

theorem child? {name : String} (h : n.IsTree) (hc : n.child? name = some m) :
    IsName name ∧ m.IsTree := by
  cases h with
  | file content => cases hc
  | folder hnames _ hnodes =>
    have hmem := mem_of_child?_eq_some hc
    exact ⟨hnames _ hmem, hnodes _ hmem⟩

theorem isName_of_at? (h : n.IsTree) (hat : n.at? names = some m) : ∀ x ∈ names, IsName x := by
  induction names generalizing n with
  | nil => simp
  | cons name names ih =>
    rw [at?_cons, Option.bind_eq_some_iff] at hat
    obtain ⟨k, hk, hat⟩ := hat
    obtain ⟨hname, hkt⟩ := h.child? hk
    intro x hx
    rcases List.mem_cons.mp hx with rfl | hx
    · exact hname
    · exact ih hkt hat x hx

end IsTree

/-! ## The files of a tree -/

/-- What the relative paths of the entries of the folder at a place begin with. -/
def leadOf (place : List String) : String :=
  if place = [] then "" else Path.ofNames place ++ "/"

theorem leadOf_append (place : List String) (name : String) :
    leadOf place ++ name = Path.ofNames (place ++ [name]) := by
  induction place with
  | nil => simp [leadOf, Path.ofNames_singleton]
  | cons x place ih =>
    rw [List.cons_append, Path.ofNames_cons x (by simp), ← ih]
    by_cases hp : place = []
    · simp [leadOf, hp, Path.ofNames_singleton]
    · simp [leadOf, hp, Path.ofNames_cons x hp, String.append_assoc]

theorem isEmpty_ofNames {place : List String} (hne : place ≠ []) (h : ∀ x ∈ place, IsName x) :
    (Path.ofNames place).isEmpty = false := by
  obtain ⟨x, xs, rfl⟩ := List.exists_cons_of_ne_nil hne
  have hx := (h x List.mem_cons_self).ne_empty
  rw [← Bool.not_eq_true, String.isEmpty_iff]
  intro hempty
  by_cases hxs : xs = []
  · rw [hxs, Path.ofNames_singleton] at hempty
    exact hx hempty
  · rw [Path.ofNames_cons x hxs, String.append_eq_empty_iff, String.append_eq_empty_iff] at hempty
    exact hx hempty.1.1

/-- The files of a node at a place are those at the places below it. -/
def FilesAtPlaces (n : Node) : Prop :=
  ∀ place ≠ [], (∀ x ∈ place, IsName x) → ∀ path content,
    (path, content) ∈ filesAt (Path.ofNames place) n ↔
      ∃ names, n.at? names = some (.file content) ∧ path = Path.ofNames (place ++ names)

theorem mem_filesIn_iff {es : List (String × Node)} (hnames : ∀ e ∈ es, IsName e.1)
    (hdistinct : (es.map (·.1)).Nodup) (hes : ∀ e ∈ es, FilesAtPlaces e.2) {place : List String}
    (hplace : ∀ x ∈ place, IsName x) (path : String) (content : Option (List UInt8)) :
    (path, content) ∈ filesIn (leadOf place) es ↔
      ∃ names, (Node.folder es).at? names = some (.file content) ∧
        path = Path.ofNames (place ++ names) := by
  induction es with
  | nil =>
    refine ⟨fun h => absurd h List.not_mem_nil, ?_⟩
    rintro ⟨names, hat, -⟩
    cases names <;> cases hat
  | cons e es ih =>
    obtain ⟨name, n⟩ := e
    rw [List.map_cons, List.nodup_cons] at hdistinct
    have hhead := hes (name, n) List.mem_cons_self (place ++ [name]) (by simp)
      (fun x hx => by
        rcases List.mem_append.mp hx with hx | hx
        · exact hplace x hx
        · rw [List.mem_singleton.mp hx]
          exact hnames _ List.mem_cons_self) path content
    have htail := ih (fun e he => hnames e (List.mem_cons_of_mem _ he)) hdistinct.2
      (fun e he => hes e (List.mem_cons_of_mem _ he))
    rw [filesIn, leadOf_append, List.mem_append, hhead, htail]
    constructor
    · rintro (⟨names, hat, rfl⟩ | ⟨names, hat, rfl⟩)
      · refine ⟨name :: names, ?_, by simp⟩
        rw [at?_folder_cons, if_pos rfl]
        exact hat
      · cases names with
        | nil => cases hat
        | cons x xs =>
          refine ⟨x :: xs, ?_, rfl⟩
          rw [at?_folder_cons, if_neg, hat]
          rintro rfl
          rw [at?_cons, Option.bind_eq_some_iff] at hat
          obtain ⟨k, hk, -⟩ := hat
          exact hdistinct.1 (List.mem_map_of_mem (f := (·.1)) (mem_of_child?_eq_some hk))
    · rintro ⟨names, hat, rfl⟩
      cases names with
      | nil => cases hat
      | cons x xs =>
        rw [at?_folder_cons] at hat
        split_ifs at hat with hx
        · exact .inl ⟨xs, hat, by simp [hx]⟩
        · exact .inr ⟨x :: xs, hat, rfl⟩

theorem IsTree.filesAtPlaces {n : Node} (h : n.IsTree) : FilesAtPlaces n := by
  induction n using inductionOn with
  | file content =>
    intro place _ _ path other
    rw [filesAt, List.mem_singleton, Prod.mk.injEq]
    constructor
    · rintro ⟨rfl, rfl⟩
      exact ⟨[], rfl, by simp⟩
    · rintro ⟨names, hat, rfl⟩
      cases names with
      | nil => cases hat; simp
      | cons x xs => cases hat
  | link target => cases h
  | folder es ih =>
    cases h with
    | folder hnames hdistinct hnodes =>
      intro place hne hplace path content
      have hes : ∀ e ∈ es, FilesAtPlaces e.2 := fun e he => ih e he (hnodes e he)
      rw [filesAt, isEmpty_ofNames hne hplace, ← mem_filesIn_iff hnames hdistinct hes hplace,
        leadOf, if_neg hne]
      rfl

/-- **The files of a tree are those at its places.** -/
theorem mem_files_iff {es : List (String × Node)} (h : (Node.folder es).IsTree) {path : String}
    {content : Option (List UInt8)} : (path, content) ∈ (Node.folder es).files ↔
      ∃ names, (Node.folder es).at? names = some (.file content) ∧
        path = Path.ofNames names := by
  cases h with
  | folder hnames hdistinct hnodes =>
    have hes : ∀ e ∈ es, FilesAtPlaces e.2 := fun e he => (hnodes e he).filesAtPlaces
    exact @mem_filesIn_iff _ hnames hdistinct hes [] (by simp) path content

theorem nodup_filesIn {es : List (String × Node)} (hnames : ∀ e ∈ es, IsName e.1)
    (hdistinct : (es.map (·.1)).Nodup) (hnodes : ∀ e ∈ es, e.2.IsTree) {place : List String}
    (hplace : ∀ x ∈ place, IsName x)
    (hes : ∀ e ∈ es, ((filesAt (Path.ofNames (place ++ [e.1])) e.2).map (·.1)).Nodup) :
    ((filesIn (leadOf place) es).map (·.1)).Nodup := by
  induction es with
  | nil => exact List.nodup_nil
  | cons e es ih =>
    obtain ⟨name, n⟩ := e
    rw [List.map_cons, List.nodup_cons] at hdistinct
    have htail := fun e he => hnames e (List.mem_cons_of_mem (name, n) he)
    have hplaceName : ∀ x ∈ place ++ [name], IsName x := by
      intro x hx
      rcases List.mem_append.mp hx with hx | hx
      · exact hplace x hx
      · rw [List.mem_singleton.mp hx]
        exact hnames _ List.mem_cons_self
    rw [filesIn, leadOf_append, List.map_append, List.nodup_append']
    refine ⟨hes _ List.mem_cons_self, ih htail hdistinct.2
      (fun e he => hnodes e (List.mem_cons_of_mem _ he))
      (fun e he => hes e (List.mem_cons_of_mem _ he)), ?_⟩
    -- A path on both sides would begin with `name` and with another name of the folder.
    intro path hhead hrest
    obtain ⟨⟨_, content⟩, hfile, rfl⟩ := List.mem_map.mp hhead
    obtain ⟨⟨_, other⟩, hfile', hsame⟩ := List.mem_map.mp hrest
    have hn : n.IsTree := hnodes (name, n) List.mem_cons_self
    obtain ⟨names, hat, hpath⟩ :=
      (hn.filesAtPlaces _ (by simp) hplaceName _ _).mp hfile
    obtain ⟨others, hat', hpath'⟩ := (mem_filesIn_iff htail hdistinct.2
      (fun e he => (hnodes e (List.mem_cons_of_mem _ he)).filesAtPlaces) hplace _ _).mp hfile'
    cases others with
    | nil => cases hat'
    | cons x xs =>
      have hrestTree : (Node.folder es).IsTree :=
        .folder htail hdistinct.2 fun e he => hnodes e (List.mem_cons_of_mem _ he)
      have heq := Path.ofNames_injOn (by simp) (by simp)
        (fun y hy => (List.mem_append.mp hy).elim (hplaceName y) (hn.isName_of_at? hat y))
        (fun y hy => (List.mem_append.mp hy).elim (hplace y) (hrestTree.isName_of_at? hat' y))
        (hpath.symm.trans (hsame.symm.trans hpath'))
      rw [List.append_assoc, List.append_cancel_left_eq, List.singleton_append,
        List.cons.injEq] at heq
      rw [at?_cons, Option.bind_eq_some_iff] at hat'
      obtain ⟨k, hk, -⟩ := hat'
      rw [← heq.1] at hk
      exact hdistinct.1 (List.mem_map_of_mem (f := (·.1)) (mem_of_child?_eq_some hk))

theorem IsTree.nodup_filesAt {n : Node} (h : n.IsTree) {place : List String} (hne : place ≠ [])
    (hplace : ∀ x ∈ place, IsName x) : ((filesAt (Path.ofNames place) n).map (·.1)).Nodup := by
  induction n using inductionOn generalizing place with
  | file content => exact List.nodup_singleton _
  | link target => cases h
  | folder es ih =>
    cases h with
    | folder hnames hdistinct hnodes =>
      have hes := nodup_filesIn hnames hdistinct hnodes hplace fun e he =>
        ih e he (hnodes e he) (by simp) fun x hx => (List.mem_append.mp hx).elim (hplace x)
          fun hx => List.mem_singleton.mp hx ▸ hnames e he
      rw [leadOf, if_neg hne] at hes
      rwa [filesAt, isEmpty_ofNames hne hplace]

/-- **No path is listed twice.** -/
theorem nodup_files {es : List (String × Node)} (h : (Node.folder es).IsTree) :
    ((Node.folder es).files.map (·.1)).Nodup := by
  cases h with
  | folder hnames hdistinct hnodes =>
    exact @nodup_filesIn _ hnames hdistinct hnodes [] (by simp) fun e he =>
      (hnodes e he).nodup_filesAt (by simp) (by simpa using hnames e he)

end Readiness.Node
