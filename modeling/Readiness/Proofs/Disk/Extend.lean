import Readiness.Proofs.Disk.Change
import Readiness.Proofs.Disk.Place

/-!
# Parts of trees

A tree is part of another one that has more files, links and folders. Adding entries never changes
where a path leads that leads somewhere, so a folder with its links followed is part of what the
same folder is afterwards, even if a link leads somewhere only then.

* `Node.WellNamed` : proper and distinct names in each folder, with links anywhere.
* `Node.IsPartOf` : everything in the one tree stands at the same place in the other.
* `Node.isPartOf_put`, `Node.WellNamed.put` : adding a file where nothing stands.
* `Disk.resolve_mono` : where a path leads.
* `Disk.isTree_of_followed?`, `Disk.exists_followed?_of_isPartOf` : folders with links followed.
-/

namespace Readiness

namespace Node

/-! ## Proper names -/

/-- Whether the entries of each folder have proper and distinct names. -/
inductive WellNamed : Node → Prop where
  | file (content : Option (List UInt8)) : WellNamed (.file content)
  | link (target : String) : WellNamed (.link target)
  | folder {entries : List (String × Node)} (names : ∀ e ∈ entries, IsName e.1)
      (distinct : (entries.map (·.1)).Nodup) (nodes : ∀ e ∈ entries, WellNamed e.2) :
      WellNamed (.folder entries)

theorem WellNamed.at? {n m : Node} {names : List String} (h : n.WellNamed)
    (hat : n.at? names = some m) : m.WellNamed := by
  induction names generalizing n with
  | nil => exact Option.some.inj hat ▸ h
  | cons name names ih =>
    rw [at?_cons, Option.bind_eq_some_iff] at hat
    obtain ⟨k, hk, hat⟩ := hat
    cases h with
    | folder hnames hdistinct hnodes => exact ih (hnodes _ (mem_of_child?_eq_some hk)) hat
    | _ => cases hk

/-! ## Parts -/

/-- Whether two nodes are of one sort, with the same bytes or the same target. -/
inductive Alike : Node → Node → Prop where
  | file (content : Option (List UInt8)) : Alike (.file content) (.file content)
  | link (target : String) : Alike (.link target) (.link target)
  | folder (es fs : List (String × Node)) : Alike (.folder es) (.folder fs)

/-- Whether everything in the first tree stands at the same place in the second one, which may have
more in its folders. -/
def IsPartOf (n m : Node) : Prop :=
  ∀ names k, n.at? names = some k → ∃ l, m.at? names = some l ∧ Alike k l

namespace IsPartOf
variable {n m k : Node} {names : List String}

theorem refl (n : Node) : n.IsPartOf n := by
  intro names k hk
  refine ⟨k, hk, ?_⟩
  cases k <;> constructor

theorem alike (h : n.IsPartOf m) : Alike n m := by
  obtain ⟨l, hl, halike⟩ := h [] n rfl
  exact Option.some.inj hl ▸ halike

theorem at? (h : n.IsPartOf m) (hk : n.at? names = some k) :
    ∃ l, m.at? names = some l ∧ k.IsPartOf l := by
  obtain ⟨l, hl, -⟩ := h names k hk
  refine ⟨l, hl, fun others j hj => ?_⟩
  have hjoined := h (names ++ others) j (by rw [at?_append, hk]; exact hj)
  rwa [at?_append, hl] at hjoined

theorem child? {name : String} (h : n.IsPartOf m) (hk : n.child? name = some k) :
    ∃ l, m.child? name = some l ∧ k.IsPartOf l := by
  have hsingle : ∀ i : Node, i.at? [name] = i.child? name := fun i => by
    rw [at?_cons]
    exact Option.bind_fun_some _
  have hat : n.at? [name] = some k := (hsingle n).trans hk
  simpa only [hsingle] using h.at? hat

theorem at?_eq_file {content : Option (List UInt8)} (h : n.IsPartOf m)
    (hat : n.at? names = some (.file content)) : m.at? names = some (.file content) := by
  obtain ⟨l, hl, halike⟩ := h names _ hat
  cases halike
  exact hl

theorem exists_folder {es : List (String × Node)} (h : (Node.folder es).IsPartOf m) :
    ∃ fs, m = .folder fs := by
  cases h.alike
  exact ⟨_, rfl⟩

theorem of_child? {es fs : List (String × Node)}
    (h : ∀ name k, (Node.folder es).child? name = some k →
      ∃ l, (Node.folder fs).child? name = some l ∧ k.IsPartOf l) :
    (Node.folder es).IsPartOf (.folder fs) := by
  intro names j hj
  cases names with
  | nil => exact ⟨_, rfl, Option.some.inj hj ▸ .folder es fs⟩
  | cons name names =>
    rw [at?_cons, Option.bind_eq_some_iff] at hj
    obtain ⟨k, hk, hj⟩ := hj
    obtain ⟨l, hl, hkl⟩ := h name k hk
    rw [at?_cons, hl]
    exact hkl names j hj

end IsPartOf

/-! ## Adding files -/

/-- **Adding what was not there.** A tree is part of what it becomes when something is put at a
place where nothing stands, with nothing but folders on the way. -/
theorem isPartOf_put {n : Node} {names : List String} (new : Node) (hfree : n.at? names = none)
    (hway : ∀ before k, before <+: names → n.at? before = some k → ∃ es, k = .folder es) :
    n.IsPartOf (n.put names new) := by
  induction names generalizing n with
  | nil => cases hfree
  | cons name names ih =>
    obtain ⟨es, rfl⟩ := hway [] n List.nil_prefix rfl
    refine .of_child? fun x k hk => ?_
    rw [child?_setEntry]
    split_ifs with hx
    · subst hx
      rw [at?_cons, hk] at hfree
      have hlookup : es.lookup x = some k := hk
      rw [hlookup]
      refine ⟨_, rfl, ih hfree fun before j hbefore hj => ?_⟩
      refine hway (x :: before) j (List.cons_prefix_cons.mpr ⟨rfl, hbefore⟩) ?_
      rw [at?_cons, hk]
      exact hj
    · exact ⟨k, hk, .refl k⟩

theorem eq_or_mem_of_mem_setEntry {es : List (String × Node)} {name : String} {new : Node}
    {e : String × Node} (h : e ∈ setEntry name new es) : e = (name, new) ∨ e ∈ es := by
  induction es with
  | nil => exact .inl (List.mem_singleton.mp h)
  | cons f es ih =>
    rw [setEntry] at h
    split_ifs at h
    · exact (List.mem_cons.mp h).imp_right (List.mem_cons_of_mem f)
    · rcases List.mem_cons.mp h with rfl | h
      · exact .inr List.mem_cons_self
      · exact (ih h).imp_right (List.mem_cons_of_mem f)

theorem nodup_setEntry {es : List (String × Node)} (name : String) (new : Node)
    (h : (es.map (·.1)).Nodup) : ((setEntry name new es).map (·.1)).Nodup := by
  induction es with
  | nil => exact List.nodup_singleton name
  | cons f es ih =>
    obtain ⟨hf, hes⟩ := List.nodup_cons.mp h
    rw [setEntry]
    split_ifs with hname
    · exact beq_iff_eq.mp hname ▸ h
    · refine List.nodup_cons.mpr ⟨fun hmem => ?_, ih hes⟩
      obtain ⟨e, he, heq⟩ := List.mem_map.mp hmem
      rcases eq_or_mem_of_mem_setEntry he with rfl | he
      · exact hname (beq_iff_eq.mpr heq.symm)
      · exact hf (heq ▸ List.mem_map_of_mem he)

theorem WellNamed.put {n new : Node} {names : List String} (h : n.WellNamed)
    (hnew : new.WellNamed) (hnames : ∀ x ∈ names, IsName x) : (n.put names new).WellNamed := by
  have hempty : (Node.folder []).WellNamed := .folder (by simp) (by simp) (by simp)
  induction names generalizing n with
  | nil => exact hnew
  | cons name names ih =>
    obtain ⟨hname, hnames⟩ := List.forall_mem_cons.mp hnames
    have hfolder : ∀ es, (Node.folder es).WellNamed →
        ((Node.folder es).put (name :: names) new).WellNamed := by
      intro es hes
      cases hes with
      | folder hproper hdistinct hnodes =>
        refine .folder (fun e he => ?_) (nodup_setEntry _ _ hdistinct) fun e he => ?_
        · rcases eq_or_mem_of_mem_setEntry he with rfl | he
          · exact hname
          · exact hproper e he
        · rcases eq_or_mem_of_mem_setEntry he with rfl | he
          · refine ih ?_ hnames
            cases hentry : es.lookup name with
            | none => exact hempty
            | some k => exact hnodes _ (mem_of_child?_eq_some hentry)
          · exact hnodes e he
    -- A file or a link gives way to a new folder.
    cases n with
    | folder es => exact hfolder es h
    | _ => exact hfolder [] hempty

end Node

/-! ## Where paths lead -/

namespace Disk
variable {root root' : Node}

theorem walk_mono {onLink onLink' : List String → List String → Except PathFault (List String)}
    (h : root.IsPartOf root')
    (hlink : ∀ here rest place, onLink here rest = .ok place → onLink' here rest = .ok place)
    {here rest place : List String} (hwalk : walk root onLink here rest = .ok place) :
    walk root' onLink' here rest = .ok place := by
  induction rest generalizing here with
  | nil => exact hwalk
  | cons s rest ih =>
    rw [walk] at hwalk ⊢
    split at hwalk
    · next es hat =>
      obtain ⟨m, hm, hpart⟩ := h.at? hat
      obtain ⟨fs, rfl⟩ := hpart.exists_folder
      rw [hm]
      simp only
      split_ifs at hwalk ⊢ with hhere habove
      · exact ih hwalk
      · exact ih hwalk
      · cases hentry : es.lookup s with
        | none => rw [hentry] at hwalk; cases hwalk
        | some k =>
          obtain ⟨l, hl, hkl⟩ := hpart.child? hentry
          replace hl : fs.lookup s = some l := hl
          rw [hentry] at hwalk
          rw [hl]
          cases hkl.alike with
          | file content => exact ih hwalk
          | link target => exact hlink _ _ _ hwalk
          | folder es fs => exact ih hwalk
    · cases hwalk

theorem resolveFrom_mono (h : root.IsPartOf root') {links : Nat} {here rest place : List String}
    (hresolve : resolveFrom root links here rest = .ok place) :
    resolveFrom root' links here rest = .ok place := by
  induction links generalizing here rest place with
  | zero => exact walk_mono h (fun _ _ _ hnone => by cases hnone) hresolve
  | succ links ih => exact walk_mono h (fun _ _ _ => ih) hresolve

/-- **A path that leads somewhere still leads there.** -/
theorem resolve_mono {here place : List String} {path : String} (h : root.IsPartOf root')
    (hresolve : resolve ⟨root, here⟩ path = .ok place) :
    resolve ⟨root', here⟩ path = .ok place := by
  rw [resolve] at hresolve ⊢
  split_ifs at hresolve ⊢ with hempty
  all_goals exact resolveFrom_mono h hresolve

end Disk

/-! ## Following links -/

namespace Node
variable {onLink onLink' : List String → String → Option Node}

theorem mem_followEntries_iff {es : List (String × Node)} {place : List String} {name : String}
    {m : Node} : (name, m) ∈ followEntries onLink place es ↔
      ∃ n, (name, n) ∈ es ∧ n.follow onLink (place ++ [name]) = some m := by
  induction es with
  | nil => simp [followEntries]
  | cons e es ih =>
    obtain ⟨key, n⟩ := e
    rw [followEntries]
    constructor
    · intro hmem
      split at hmem
      · next m' hfollow =>
        rcases List.mem_cons.mp hmem with heq | hmem
        · cases heq
          exact ⟨n, List.mem_cons_self, hfollow⟩
        · obtain ⟨n', hn', hfollow'⟩ := ih.mp hmem
          exact ⟨n', List.mem_cons_of_mem _ hn', hfollow'⟩
      · obtain ⟨n', hn', hfollow'⟩ := ih.mp hmem
        exact ⟨n', List.mem_cons_of_mem _ hn', hfollow'⟩
    · rintro ⟨n', hn', hfollow⟩
      rcases List.mem_cons.mp hn' with heq | hn'
      · cases heq
        rw [hfollow]
        exact List.mem_cons_self
      · have hmem := ih.mpr ⟨n', hn', hfollow⟩
        split
        · exact List.mem_cons_of_mem _ hmem
        · exact hmem

theorem map_followEntries_sublist (es : List (String × Node)) (place : List String) :
    ((followEntries onLink place es).map (·.1)).Sublist (es.map (·.1)) := by
  induction es with
  | nil => exact List.Sublist.slnil
  | cons e es ih =>
    rw [followEntries]
    split
    · exact ih.cons_cons _
    · exact ih.cons _

theorem child?_followEntries {es : List (String × Node)} (hdistinct : (es.map (·.1)).Nodup)
    {place : List String} {name : String} {m : Node} :
    (Node.folder (followEntries onLink place es)).child? name = some m ↔
      ∃ n, (Node.folder es).child? name = some n ∧
        n.follow onLink (place ++ [name]) = some m := by
  rw [child?_eq_some_iff (hdistinct.sublist (map_followEntries_sublist es place)),
    mem_followEntries_iff]
  simp only [child?_eq_some_iff hdistinct]

theorem WellNamed.isTree_of_follow
    (hlink : ∀ place target k, onLink place target = some k → k.IsTree) {n k : Node}
    (h : n.WellNamed) {place : List String} (hk : n.follow onLink place = some k) : k.IsTree := by
  induction n using inductionOn generalizing place k with
  | file content => exact Option.some.inj hk ▸ .file content
  | link target => exact hlink _ _ _ hk
  | folder es ih =>
    cases h with
    | folder hnames hdistinct hnodes =>
      rw [follow, Option.some.injEq] at hk
      subst hk
      refine .folder ?_ (hdistinct.sublist (map_followEntries_sublist es place)) ?_
      all_goals
        rintro ⟨name, m⟩ hm
        obtain ⟨n, hn, hfollow⟩ := mem_followEntries_iff.mp hm
      · exact hnames (name, n) hn
      · exact ih _ hn (hnodes _ hn) hfollow

theorem IsPartOf.follow
    (hlink : ∀ place target k, onLink place target = some k →
      ∃ l, onLink' place target = some l ∧ k.IsPartOf l)
    {n m k : Node} (hn : n.WellNamed) (hm : m.WellNamed) (h : n.IsPartOf m) {place : List String}
    (hk : n.follow onLink place = some k) :
    ∃ l, m.follow onLink' place = some l ∧ k.IsPartOf l := by
  induction n using inductionOn generalizing m place k with
  | file content =>
    cases h.alike
    exact ⟨_, rfl, Option.some.inj hk ▸ .refl _⟩
  | link target =>
    cases h.alike
    exact hlink _ _ _ hk
  | folder es ih =>
    obtain ⟨fs, rfl⟩ := h.exists_folder
    cases hn with
    | folder _ hdistinct hnodes =>
      cases hm with
      | folder _ hdistinct' hnodes' =>
        rw [Node.follow, Option.some.injEq] at hk
        subst hk
        refine ⟨_, rfl, .of_child? fun name k hk => ?_⟩
        obtain ⟨i, hi, hk⟩ := (child?_followEntries hdistinct).mp hk
        obtain ⟨j, hj, hij⟩ := h.child? hi
        have hi' := mem_of_child?_eq_some hi
        obtain ⟨l, hl, hkl⟩ := ih (name, i) hi' (hnodes _ hi')
          (hnodes' (name, j) (mem_of_child?_eq_some hj)) hij hk
        exact ⟨l, (child?_followEntries hdistinct').mpr ⟨j, hj, hl⟩, hkl⟩

end Node

namespace Disk
variable {root root' : Node}

theorem isTree_of_followWithin (h : root.WellNamed) {links : Nat} {place : List String} {k : Node}
    (hk : followWithin root links place = some k) : k.IsTree := by
  induction links generalizing place k with
  | zero =>
    obtain ⟨n, hn, hk⟩ := Option.bind_eq_some_iff.mp hk
    exact (h.at? hn).isTree_of_follow (fun _ _ _ hnone => by cases hnone) hk
  | succ links ih =>
    obtain ⟨n, hn, hk⟩ := Option.bind_eq_some_iff.mp hk
    refine (h.at? hn).isTree_of_follow (fun names target m hm => ?_) hk
    simp only at hm
    split at hm
    · exact ih hm
    · cases hm

theorem exists_followWithin_of_isPartOf (h : root.IsPartOf root') (hroot : root.WellNamed)
    (hroot' : root'.WellNamed) {links : Nat} {place : List String} {k : Node}
    (hk : followWithin root links place = some k) :
    ∃ l, followWithin root' links place = some l ∧ k.IsPartOf l := by
  induction links generalizing place k with
  | zero =>
    obtain ⟨n, hn, hk⟩ := Option.bind_eq_some_iff.mp hk
    obtain ⟨m, hm, hnm⟩ := h.at? hn
    rw [followWithin, hm, Option.bind_some]
    exact hnm.follow (fun _ _ _ hnone => by cases hnone) (hroot.at? hn) (hroot'.at? hm) hk
  | succ links ih =>
    obtain ⟨n, hn, hk⟩ := Option.bind_eq_some_iff.mp hk
    obtain ⟨m, hm, hnm⟩ := h.at? hn
    rw [followWithin, hm, Option.bind_some]
    refine hnm.follow (fun names target i hi => ?_) (hroot.at? hn) (hroot'.at? hm) hk
    -- A link that led somewhere leads there still.
    simp only at hi ⊢
    split at hi
    · next place hresolve =>
      rw [resolveFrom_mono h hresolve]
      exact ih hi
    · cases hi

/-- **A place with its links followed is a tree.** -/
theorem isTree_of_followed? {d : Disk} (h : d.root.WellNamed) {place : List String} {k : Node}
    (hk : d.followed? place = some k) : k.IsTree :=
  isTree_of_followWithin h hk

/-- **Adding entries adds to what a place with its links followed is.** -/
theorem exists_followed?_of_isPartOf {here : List String} (h : root.IsPartOf root')
    (hroot : root.WellNamed) (hroot' : root'.WellNamed) {place : List String} {k : Node}
    (hk : followed? ⟨root, here⟩ place = some k) :
    ∃ l, followed? ⟨root', here⟩ place = some l ∧ k.IsPartOf l :=
  exists_followWithin_of_isPartOf h hroot hroot' hk

theorem exists_followed?_folder {d : Disk} {place : List String} {es : List (String × Node)}
    (h : d.root.at? place = some (.folder es)) :
    ∃ fs, d.followed? place = some (.folder fs) := by
  rw [followed?, linkLimit, followWithin, h]
  exact ⟨_, rfl⟩

end Disk

end Readiness
