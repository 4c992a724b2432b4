import Readiness.Proofs.Path.Depth
import Readiness.Proofs.Settings.Precedence

/-!
# The search for a settings file

The search looks at a path, then at its parent, and so on, and asks only which paths exist. It ends
on every spelling, after at most one path for each component and one more, because each parent has
one component less. It comes to the first path that holds a settings file or a repository, and back
to where it began if none does. Above a repository it looks at nothing, so that settings from there
are never taken.

* `Settings.Run` : the search as a loop, with the paths that it looks at.
* `Settings.exists_run_iff` : the loop ends, in one way, with the answer of `Settings.search`.
* `Settings.Run.found` : what an answer says about the paths above the start.
* `Settings.IsSearch`, `Settings.search_first` : the search for every start and everything that may
  exist.
-/

namespace Readiness.Settings

section
variable (occurs : String → Bool)

def HasSettings (path : String) : Prop := ∃ name ∈ fileNames, occurs (Path.join path name) = true

def HasRepository (path : String) : Prop := occurs (Path.join path repositoryMark) = true

/-- Whether the search ends at a path. -/
def Stops (path : String) : Prop := HasSettings occurs path ∨ HasRepository occurs path

instance (path : String) : Decidable (HasSettings occurs path) :=
  inferInstanceAs (Decidable (∃ name ∈ fileNames, occurs (Path.join path name) = true))

instance (path : String) : Decidable (HasRepository occurs path) :=
  inferInstanceAs (Decidable (occurs (Path.join path repositoryMark) = true))

instance (path : String) : Decidable (Stops occurs path) :=
  inferInstanceAs (Decidable (HasSettings occurs path ∨ HasRepository occurs path))

/-- The loop of the search that began at `start`: from a path, by way of the paths that it looks at,
to its answer. -/
inductive Run (start : String) : (path : String) → (visited : List String) → (answer : String) →
    Prop where
  | settings {path : String} (h : HasSettings occurs path) : Run start path [path] path
  | repository {path : String} (hsettings : ¬ HasSettings occurs path)
    (h : HasRepository occurs path) : Run start path [path] path
  | exhausted {path : String} (hsettings : ¬ HasSettings occurs path)
    (hrepository : ¬ HasRepository occurs path) (hparent : Path.parent? path = none) :
    Run start path [path] start
  | up {path parent : String} {visited : List String} {answer : String}
    (hsettings : ¬ HasSettings occurs path) (hrepository : ¬ HasRepository occurs path)
    (hparent : Path.parent? path = some parent) (h : Run start parent visited answer) :
    Run start path (path :: visited) answer

/-- Whether the search from `start` looks at the given paths and answers so. -/
structure IsSearch (start : String) (visited : List String) (answer : String) : Prop where
  /-- The loop ends, and it does so in one way only. -/
  run_iff : ∀ paths result, Run occurs start start paths result ↔
    paths = visited ∧ result = answer
  /-- It looks at the start, its parent, the parent of that, and so on. -/
  visits : ∀ n < visited.length, visited[n]? = Path.above? n start
  /-- No path is as long as one before it. -/
  shorter : visited.Pairwise fun below above => above.length < below.length
  length_le : visited.length ≤ Path.depth start + 1
  /-- The first path that holds a settings file or a repository is the answer. -/
  first : ∀ n path, Path.above? n start = some path → Stops occurs path →
    (∀ m < n, ∀ below, Path.above? m start = some below → ¬ Stops occurs below) →
    answer = path ∧ visited.length = n + 1
  /-- If there is none, the search looks at the whole chain and answers with the start. -/
  fallback : (∀ n path, Path.above? n start = some path → ¬ Stops occurs path) →
    answer = start ∧ visited.length = Path.depth start + 1
  /-- Above a repository it looks at nothing. -/
  below_repository : ∀ n path, Path.above? n start = some path → HasRepository occurs path →
    visited.length ≤ n + 1

end

variable {occurs : String → Bool} {start path parent answer other : String}
  {visited : List String} {d : Disk} {n : Nat}

theorem stops_eq_true_iff : stops occurs path = true ↔ Stops occurs path := by
  rw [stops, List.any_append, Bool.or_eq_true, List.any_eq_true, Stops, HasSettings,
    HasRepository]
  simp

/-! ## The loop -/

theorem not_stops_iff : ¬ Stops occurs path ↔
    ¬ HasSettings occurs path ∧ ¬ HasRepository occurs path :=
  not_or

theorem run_iff_of_stops (h : Stops occurs path) :
    Run occurs start path visited answer ↔ visited = [path] ∧ answer = path := by
  constructor
  · intro hrun
    cases hrun with
    | settings _ => exact ⟨rfl, rfl⟩
    | repository _ _ => exact ⟨rfl, rfl⟩
    | exhausted hsettings hrepository _ =>
      exact absurd h (not_stops_iff.mpr ⟨hsettings, hrepository⟩)
    | up hsettings hrepository _ _ =>
      exact absurd h (not_stops_iff.mpr ⟨hsettings, hrepository⟩)
  · rintro ⟨rfl, rfl⟩
    by_cases hsettings : HasSettings occurs answer
    · exact .settings hsettings
    · exact .repository hsettings (h.resolve_left hsettings)

theorem run_iff_of_no_parent (h : ¬ Stops occurs path) (hparent : Path.parent? path = none) :
    Run occurs start path visited answer ↔ visited = [path] ∧ answer = start := by
  obtain ⟨hsettings, hrepository⟩ := not_stops_iff.mp h
  constructor
  · intro hrun
    cases hrun with
    | settings hsettings' => exact absurd hsettings' hsettings
    | repository _ hrepository' => exact absurd hrepository' hrepository
    | exhausted _ _ _ => exact ⟨rfl, rfl⟩
    | up _ _ hparent' _ => cases hparent.symm.trans hparent'
  · rintro ⟨rfl, rfl⟩
    exact .exhausted hsettings hrepository hparent

theorem run_iff_of_parent (h : ¬ Stops occurs path) (hparent : Path.parent? path = some parent) :
    Run occurs start path visited answer ↔
      ∃ rest, visited = path :: rest ∧ Run occurs start parent rest answer := by
  obtain ⟨hsettings, hrepository⟩ := not_stops_iff.mp h
  constructor
  · intro hrun
    cases hrun with
    | settings hsettings' => exact absurd hsettings' hsettings
    | repository _ hrepository' => exact absurd hrepository' hrepository
    | exhausted _ _ hparent' => cases hparent'.symm.trans hparent
    | up _ _ hparent' hrest =>
      cases hparent.symm.trans hparent'
      exact ⟨_, rfl, hrest⟩
  · rintro ⟨rest, rfl, hrest⟩
    exact .up hsettings hrepository hparent hrest

/-- **The loop ends from every path**, in one way: it looks at a first part of the chain, and its
answer is the first member of the chain that stops it. -/
theorem exists_run_iff (occurs : String → Bool) (start path : String) :
    ∃ looked, looked <+: Path.ancestors path ∧ ∀ visited answer,
      Run occurs start path visited answer ↔
        visited = looked ∧ answer = ((Path.ancestors path).find? (stops occurs)).getD start := by
  -- each parent is shorter, so that the induction along the chain reaches its end
  induction path using Path.chainInduction with
  | step path ih =>
    rw [Path.ancestors_eq]
    by_cases hstops : Stops occurs path
    · rw [List.find?_cons_of_pos (stops_eq_true_iff.mpr hstops), Option.getD_some]
      refine ⟨[path], List.prefix_append [path] _, ?_⟩
      intro visited answer
      exact run_iff_of_stops hstops
    · rw [List.find?_cons_of_neg (mt stops_eq_true_iff.mp hstops)]
      cases hparent : Path.parent? path with
      | none =>
        refine ⟨[path], List.prefix_refl _, ?_⟩
        intro visited answer
        exact run_iff_of_no_parent hstops hparent
      | some parent =>
        obtain ⟨looked, hlooked, hrun⟩ := ih parent hparent
        refine ⟨path :: looked, (List.prefix_cons_inj path).mpr hlooked, ?_⟩
        intro visited answer
        rw [run_iff_of_parent hstops hparent]
        constructor
        · rintro ⟨rest, rfl, hrest⟩
          obtain ⟨rfl, hanswer⟩ := (hrun rest answer).mp hrest
          exact ⟨rfl, hanswer⟩
        · rintro ⟨rfl, hanswer⟩
          exact ⟨looked, rfl, (hrun looked answer).mpr ⟨rfl, hanswer⟩⟩

/-- **What a run has found.** Either its answer is the first path that stops it, the last one that
it looked at, or no path stops it and it has looked at all of them. -/
theorem Run.found (h : Run occurs start path visited answer) :
    (∃ n, Path.above? n path = some answer ∧ Stops occurs answer ∧ visited.length = n + 1 ∧
      ∀ m below, Path.above? m path = some below → m < n → ¬ Stops occurs below) ∨
    (answer = start ∧ visited.length = Path.depth path + 1 ∧
      ∀ n above, Path.above? n path = some above → ¬ Stops occurs above) := by
  induction h with
  | settings h =>
    exact .inl ⟨0, rfl, .inl h, rfl, fun m _ _ hm => absurd hm (Nat.not_lt_zero m)⟩
  | repository _ h =>
    exact .inl ⟨0, rfl, .inr h, rfl, fun m _ _ hm => absurd hm (Nat.not_lt_zero m)⟩
  | @exhausted path hsettings hrepository hparent =>
    refine .inr ⟨rfl, ?_, ?_⟩
    · rw [Path.depth_of_parent?_eq_none hparent]
      rfl
    · rw [Path.forall_above?_iff (fun _ above => ¬ Stops occurs above)]
      refine ⟨not_stops_iff.mpr ⟨hsettings, hrepository⟩, ?_⟩
      intro parent hparent'
      cases hparent.symm.trans hparent'
  | @up path parent visited answer hsettings hrepository hparent _ ih =>
    have hpath : ¬ Stops occurs path := not_stops_iff.mpr ⟨hsettings, hrepository⟩
    rcases ih with ⟨n, hanswer, hstops, hlength, hbefore⟩ | ⟨hanswer, hlength, hnone⟩
    · refine .inl ⟨n + 1, ?_, hstops, ?_, ?_⟩
      · rw [Path.above?, hparent]
        exact hanswer
      · rw [List.length_cons, hlength]
      · rw [Path.forall_above?_iff (fun m below => m < n + 1 → ¬ Stops occurs below)]
        refine ⟨fun _ => hpath, ?_⟩
        intro parent' hparent' m below hbelow hm
        cases hparent.symm.trans hparent'
        exact hbefore m below hbelow (Nat.lt_of_succ_lt_succ hm)
    · refine .inr ⟨hanswer, ?_, ?_⟩
      · rw [List.length_cons, hlength, Path.depth_parent? hparent]
      · rw [Path.forall_above?_iff (fun _ above => ¬ Stops occurs above)]
        refine ⟨hpath, ?_⟩
        intro parent' hparent'
        cases hparent.symm.trans hparent'
        exact hnone

theorem Run.length_le (h : Run occurs start path visited answer)
    (hother : Path.above? n path = some other) (hstops : Stops occurs other) :
    visited.length ≤ n + 1 := by
  rcases h.found with ⟨m, -, -, hlength, hbefore⟩ | ⟨-, -, hnone⟩
  · rw [hlength]
    by_contra hlt
    exact hbefore n other hother (by omega) hstops
  · exact absurd hstops (hnone n other hother)

/-! ## The search -/

theorem exists_run_search (occurs : String → Bool) (start : String) :
    ∃ visited, Run occurs start start visited (search occurs start) := by
  obtain ⟨looked, -, hrun⟩ := exists_run_iff occurs start start
  exact ⟨looked, (hrun _ _).mpr ⟨rfl, rfl⟩⟩

theorem isSearch_search (occurs : String → Bool) (start : String) :
    ∃ visited, IsSearch occurs start visited (search occurs start) := by
  obtain ⟨looked, hlooked, hiff⟩ := exists_run_iff occurs start start
  have hrun : Run occurs start start looked (search occurs start) := (hiff _ _).mpr ⟨rfl, rfl⟩
  have hlength := hlooked.length_le
  rw [Path.length_ancestors] at hlength
  refine ⟨looked, hiff, ?_, ?_, hlength, ?_, ?_, ?_⟩
  · obtain ⟨rest, hrest⟩ := hlooked
    intro n hn
    rw [← Path.getElem?_ancestors, ← hrest, List.getElem?_append_left hn]
  · exact (Path.pairwise_ancestors start).sublist hlooked.sublist
  · intro n path hpath hstops hbefore
    rcases hrun.found with ⟨m, hanswer, hfound, hvisits, hnone⟩ | ⟨-, -, hnone⟩
    · have hmn : m = n := by
        apply Nat.le_antisymm
        · exact Nat.le_of_not_lt fun hlt => hnone n path hpath hlt hstops
        · exact Nat.le_of_not_lt fun hlt => hbefore m hlt _ hanswer hfound
      subst hmn
      exact ⟨Option.some.inj (hanswer.symm.trans hpath), hvisits⟩
    · exact absurd hstops (hnone n path hpath)
  · intro hnone
    rcases hrun.found with ⟨m, hanswer, hfound, -, -⟩ | ⟨hanswer, hvisits, -⟩
    · exact absurd hfound (hnone m _ hanswer)
    · exact ⟨hanswer, hvisits⟩
  · intro n path hpath hrepository
    exact hrun.length_le hpath (.inr hrepository)

/-! ## Settings below a repository -/

theorem load?_eq_none_of_not_hasSettings (h : ¬ HasSettings d.exists path) :
    load? d path = none :=
  configures_iff.mp (.absent fun name hname hexists => h ⟨name, hname, hexists⟩)

/-- **Settings are taken from below a repository only**, if its own folder has none. -/
theorem below_repository_of_load? {file : FileSettings} (hpath : Path.above? n start = some path)
    (hrepository : HasRepository d.exists path) (hsettings : ¬ HasSettings d.exists path)
    (hload : load? d (folder d start) = some file) :
    ∃ m < n, Path.above? m start = some (folder d start) ∧
      HasSettings d.exists (folder d start) := by
  have hfound : HasSettings d.exists (folder d start) := by
    by_contra hnone
    rw [load?_eq_none_of_not_hasSettings hnone] at hload
    cases hload
  obtain ⟨visited, hrun⟩ := exists_run_search d.exists start
  rcases hrun.found with ⟨m, hanswer, -, hvisits, -⟩ | ⟨-, -, hnone⟩
  · have hle := hrun.length_le hpath (.inr hrepository)
    have hne : m ≠ n := by
      rintro rfl
      have heq : folder d start = path := Option.some.inj (hanswer.symm.trans hpath)
      exact hsettings (heq ▸ hfound)
    exact ⟨m, by omega, hanswer, hfound⟩
  · exact absurd (.inr hrepository) (hnone n path hpath)

/-- **The search for settings.** The chain of parents of every start is finite. Whatever exists,
the search goes up this chain, ends, and comes to the first path with a settings file or a
repository, else back to the start. A repository without settings keeps out all settings from above:
only a nearer folder can give any, and if none does, a run has the settings of the command line and
the defaults. -/
theorem search_first (occurs : String → Bool) (start : String) :
    (∀ n, (Path.above? n start).isSome ↔ n ≤ Path.depth start) ∧
    (∃ visited, IsSearch occurs start visited (search occurs start)) ∧
    ∀ d : Disk, folder d start = search d.exists start ∧
      ∀ (n : Nat) (path : String), Path.above? n start = some path →
        HasRepository d.exists path → ¬ HasSettings d.exists path →
        (∀ file, load? d (folder d start) = some file →
          ∃ m < n, Path.above? m start = some (folder d start) ∧
            HasSettings d.exists (folder d start)) ∧
        ((∀ m < n, ∀ below, Path.above? m start = some below → ¬ HasSettings d.exists below) →
          ∀ c : Choices, c.start = start →
            (∀ f, resolve d c = .error f ↔ IsFault c none f) ∧
            ∀ s, resolve d c = .ok s → Takes c none (folder d start) s) := by
  refine ⟨fun n => Path.isSome_above?_iff n start, isSearch_search occurs start, ?_⟩
  intro d
  refine ⟨rfl, ?_⟩
  intro n path hpath hrepository hsettings
  have hbelow : ∀ file, load? d (folder d start) = some file →
      ∃ m < n, Path.above? m start = some (folder d start) ∧
        HasSettings d.exists (folder d start) := by
    intro file hload
    exact below_repository_of_load? hpath hrepository hsettings hload
  refine ⟨hbelow, ?_⟩
  rintro hnone c rfl
  have hload : load? d (folder d c.start) = none := by
    rw [Option.eq_none_iff_forall_ne_some]
    intro file hfile
    obtain ⟨m, hm, habove, hfound⟩ := hbelow file hfile
    exact hnone m hm _ habove hfound
  constructor
  · intro f
    rw [resolve_eq_error_iff, hload]
  · intro s hs
    have htakes := takes_of_resolve hs
    rwa [hload] at htakes

/-- A folder with settings that holds a repository without any. -/
def repositoryBelow : Disk where
  root := .folder [
    ("portdiag.toml", .file (some (Utf8.encode "format = \"json\"".toList))),
    ("repo", .folder [(".git", .folder []), ("src", .folder [("net", .folder [])])])]
  here := []

theorem search_first_sample :
    search (fun _ => false) "a/../b/." = "a/../b/." ∧
    (Path.above? 3 "repo//src/./net/" = some "" ∧ load? repositoryBelow "" ≠ none ∧
      search repositoryBelow.exists "repo//src/./net/" = "repo" ∧
      ∃ s, resolve repositoryBelow ⟨some "repo//src/./net/", none, none, [], none⟩ = .ok s ∧
        s.format.label = "human" ∧ s.source = none) := by
  have hrepo : Path.above? 2 "repo//src/./net/" = some "repo" := by decide +kernel
  have hnearer : ∀ m < 2, ∀ below, Path.above? m "repo//src/./net/" = some below →
      ¬ Stops repositoryBelow.exists below := by
    have hzero : Path.above? 0 "repo//src/./net/" = some "repo//src/./net/" := rfl
    have hone : Path.above? 1 "repo//src/./net/" = some "repo//src" := by decide +kernel
    intro m hm below hbelow
    interval_cases m
    · cases hzero.symm.trans hbelow
      decide +kernel
    · cases hone.symm.trans hbelow
      decide +kernel
  obtain ⟨-, ⟨visited, h⟩, hdisk⟩ := search_first repositoryBelow.exists "repo//src/./net/"
  refine ⟨?_, by decide +kernel, by decide +kernel, ?_, ?_⟩
  · obtain ⟨-, ⟨visited, h⟩, -⟩ := search_first (fun _ => false) "a/../b/."
    apply (h.fallback ?_).1
    intro n path _ hstops
    cases stops_eq_true_iff.mpr hstops
  · exact (h.first 2 "repo" hrepo (by decide +kernel) hnearer).1
  · obtain ⟨-, hclosed⟩ := (hdisk repositoryBelow).2 2 "repo" hrepo (by decide +kernel)
      (by decide +kernel)
    obtain ⟨herror, hok⟩ := hclosed (fun m hm below hbelow hsettings =>
      hnearer m hm below hbelow (.inl hsettings))
      ⟨some "repo//src/./net/", none, none, [], none⟩ rfl
    cases hresolve : resolve repositoryBelow ⟨some "repo//src/./net/", none, none, [], none⟩ with
    | error f =>
      cases (herror f).mp hresolve with
      | format h => exact absurd rfl h.1
      | matchMode _ h => cases h
    | ok s => exact ⟨s, rfl, (hok s hresolve).format, (hok s hresolve).source⟩

end Readiness.Settings
