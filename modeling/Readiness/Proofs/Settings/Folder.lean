import Readiness.Proofs.Disk.Place
import Readiness.Settings.Effective

/-!
# The folder of the settings file

The search for a settings file goes up the spelling of a path. Where the path spells its place, the
spelling goes up the folders that hold the place, up to where the path begins: an absolute path
leads to the nearest of all folders above, and a relative one to the nearest below the working
folder. Where it does not, the search passes through other folders.

* `Settings.nearest` : the nearest folder that stops the search, told from places.
* `Settings.folder_nearest` : the search finds it for paths that spell their places.
* `Settings.folder_strays` : other paths lead elsewhere.
-/

namespace Readiness.Settings

variable {d : Disk} {path root : String} {place top : List String}

/-- Whether the folder at a place holds a settings file or a repository. -/
def stopsAtPlace (d : Disk) (place : List String) : Bool :=
  (fileNames ++ [repositoryMark]).any fun name => (d.nodeFrom? place name).isSome

/-- The places from a place up to `top`, the nearest first. -/
def upTo (top place : List String) : List (List String) :=
  place.inits.reverse.filter fun above => top.isPrefixOf above

/-- The nearest place from a place up to `top` that stops the search, or the place itself if none
does. -/
def nearest (d : Disk) (top place : List String) : List String :=
  ((upTo top place).find? (stopsAtPlace d)).getD place

/-! ## Going up -/

theorem upTo_concat (top names : List String) (name : String) :
    upTo top (top ++ names ++ [name]) = (top ++ names ++ [name]) :: upTo top (top ++ names) := by
  have hinits : (top ++ names ++ [name]).inits =
      (top ++ names).inits ++ [top ++ names ++ [name]] := List.inits_append (top ++ names) [name]
  rw [upTo, hinits, List.reverse_append, List.reverse_singleton, List.singleton_append,
    List.filter_cons_of_pos (by simp), upTo]

theorem upTo_self (top : List String) : upTo top top = [top] := by
  have h : ∀ l : List String, (l.inits.filter fun above => l.isPrefixOf above) = [l] := by
    intro l
    induction l with
    | nil => rfl
    | cons x l ih =>
      rw [List.inits_cons, List.filter_cons_of_neg (by simp), List.filter_map]
      have hcongr : ((fun above => (x :: l).isPrefixOf above) ∘ fun t => x :: t) =
          fun above => l.isPrefixOf above := by
        funext above
        simp
      rw [hcongr, ih]
      rfl
  rw [upTo, List.filter_reverse, h]
  rfl

theorem mem_upTo {above : List String} (h : above ∈ upTo top place) :
    top <+: above ∧ above <+: place := by
  rw [upTo, List.mem_filter, List.mem_reverse, List.mem_inits] at h
  exact ⟨List.isPrefixOf_iff_prefix.mp h.2, h.1⟩

theorem nearest_prefix (d : Disk) (top place : List String) : nearest d top place <+: place := by
  rw [nearest]
  cases h : (upTo top place).find? (stopsAtPlace d) with
  | none => exact List.prefix_refl place
  | some above => exact (mem_upTo (List.mem_of_find?_eq_some h)).2

/-! ## The search -/

theorem stops_eq (h : d.Spells path place) : stops d.exists path = stopsAtPlace d place := by
  rw [stops, stopsAtPlace, Bool.eq_iff_iff, List.any_eq_true, List.any_eq_true]
  refine exists_congr fun name => and_congr_right fun hmem => ?_
  have hname : name ≠ "" ∧ Path.isAbsolute name = false := by
    revert name
    decide
  rw [Disk.exists, h.node?_join hname.1 hname.2]

theorem find?_upTo_dropLast {names : List String} (h : stopsAtPlace d (top ++ names) = false) :
    (upTo top (top ++ names)).find? (stopsAtPlace d) =
      (upTo top (top ++ names.dropLast)).find? (stopsAtPlace d) := by
  rcases List.eq_nil_or_concat names with rfl | ⟨above, name, rfl⟩
  · rfl
  · rw [List.concat_eq_append] at h ⊢
    rw [List.dropLast_concat, ← List.append_assoc, upTo_concat,
      List.find?_cons_of_neg (by simpa using h)]

theorem find?_upTo_of_stops {names : List String} (h : stopsAtPlace d (top ++ names) = true) :
    (upTo top (top ++ names)).find? (stopsAtPlace d) = some (top ++ names) := by
  rcases List.eq_nil_or_concat names with rfl | ⟨above, name, rfl⟩
  · rw [List.append_nil] at h ⊢
    rw [upTo_self, List.find?_cons_of_pos h]
  · rw [List.concat_eq_append] at h ⊢
    rw [← List.append_assoc] at h ⊢
    rw [upTo_concat, List.find?_cons_of_pos h]

/-- **The search along the spelling is the search along the places.** -/
theorem find?_ancestors (h : d.Spells path place) :
    match (Path.ancestors path).find? (stops d.exists) with
    | some found => ∃ above, d.Spells found above ∧
      (upTo (d.base path) place).find? (stopsAtPlace d) = some above
    | none => (upTo (d.base path) place).find? (stopsAtPlace d) = none := by
  induction path using Path.chainInduction generalizing place with
  | step path ih =>
    have hstops := stops_eq h
    have hplace := h.place_eq
    subst hplace
    rw [Path.ancestors_eq]
    cases hfound : stops d.exists path with
    | true =>
      rw [List.find?_cons_of_pos hfound]
      exact ⟨_, h, find?_upTo_of_stops (hstops ▸ hfound)⟩
    | false =>
      rw [List.find?_cons_of_neg (by simpa using hfound), find?_upTo_dropLast (hstops ▸ hfound)]
      cases hparent : Path.parent? path with
      | none =>
        rw [Path.names_of_parent?_eq_none hparent, List.append_nil] at hstops
        rw [Path.names_of_parent?_eq_none hparent, List.dropLast_nil, List.append_nil, upTo_self,
          List.find?_cons_of_neg (by simp [← hstops, hfound])]
        rfl
      | some parent =>
        have hrest := ih parent hparent (h.parent hparent)
        rwa [Disk.Spells.base_parent hparent] at hrest

/-- **The search finds the nearest place** up to where the path begins. -/
theorem spells_folder (h : d.Spells root place) :
    d.Spells (folder d root) (nearest d (d.base root) place) := by
  have hfind := find?_ancestors h
  rw [folder, search, nearest]
  cases hfound : (Path.ancestors root).find? (stops d.exists) with
  | none =>
    rw [hfound] at hfind
    rw [hfind]
    exact h
  | some found =>
    rw [hfound] at hfind
    obtain ⟨above, hspells, habove⟩ := hfind
    rw [habove]
    exact hspells

theorem load?_eq_of_spells {other : String} (h : d.Spells path place) (h' : d.Spells other place) :
    load? d path = load? d other := by
  have hnode : ∀ name ∈ fileNames,
      d.node? (Path.join path name) = d.node? (Path.join other name) := by
    intro name hmem
    have hname : name ≠ "" ∧ Path.isAbsolute name = false := by
      revert name
      decide
    rw [h.node?_join hname.1 hname.2, h'.node?_join hname.1 hname.2]
  have hfind : (fileNames.find? fun name => d.exists (Path.join path name)) =
      fileNames.find? fun name => d.exists (Path.join other name) :=
    List.find?_congr fun name hmem => by rw [Disk.exists, Disk.exists, hnode name hmem]
  rw [load?, load?, hfind]
  cases hname : fileNames.find? fun name => d.exists (Path.join other name) with
  | none => rfl
  | some name =>
    have hread : d.read? (Path.join path name) = d.read? (Path.join other name) := by
      rw [Disk.read?, Disk.read?, hnode name (List.mem_of_find?_eq_some hname)]
    simp only [Option.bind_eq_bind, Option.bind_some, hread]

theorem isAbsolute_folder (d : Disk) (root : String) :
    Path.isAbsolute (folder d root) = Path.isAbsolute root := by
  rw [folder, search]
  cases h : (Path.ancestors root).find? (stops d.exists) with
  | none => rfl
  | some found => exact Path.isAbsolute_of_mem_ancestors (List.mem_of_find?_eq_some h)

/-! ## Settings of the nearest folder -/

/-- **Settings come from the nearest folder above the root.** If the root spells its place, so does
the folder of the settings file: it is the nearest place that stops the search, among the places
from the root up to where its spelling begins; for an absolute root, those are all places above.
What the settings are does not depend on the spelling. -/
theorem folder_nearest (d : Disk) (root : String) (place : List String) (h : d.Spells root place) :
    d.Spells (folder d root) (nearest d (d.base root) place) ∧
    nearest d (d.base root) place <+: place ∧
    (Path.isAbsolute root = true →
      d.resolve root = .ok place ∧ d.resolve (folder d root) = .ok (nearest d [] place)) ∧
    ∀ other, d.Spells other place → d.base other = d.base root →
      load? d (folder d other) = load? d (folder d root) := by
  have hfolder := spells_folder h
  have habsolute : ∀ p, Path.isAbsolute p = true → p ≠ "" := by
    rintro _ hp rfl
    exact absurd hp (by decide)
  refine ⟨hfolder, nearest_prefix d _ place, fun hroot => ⟨?_, ?_⟩, fun other hother hbase => ?_⟩
  · exact h.resolve_eq (habsolute root hroot)
  · have hbase : d.base root = [] := by rw [Disk.base, if_pos hroot]
    rw [hbase] at hfolder
    exact hfolder.resolve_eq (habsolute _ (isAbsolute_folder d root ▸ hroot))
  · exact load?_eq_of_spells (hbase ▸ spells_folder hother) hfolder

/-- A settings file that asks for JSON. -/
def jsonFile : Node := .file (some (Utf8.encode "format = \"json\"".toList))

/-- A folder with settings that holds another folder. -/
def settingsAbove : Node := .folder [("lib", .folder [("portdiag.toml", jsonFile),
  ("net", .folder [])])]

theorem folder_nearest_sample :
    Disk.Spells ⟨settingsAbove, []⟩ "//lib/./net/" ["lib", "net"] ∧
      Disk.resolve ⟨settingsAbove, []⟩ (folder ⟨settingsAbove, []⟩ "//lib/./net/") = .ok ["lib"] ∧
      load? ⟨settingsAbove, []⟩ (folder ⟨settingsAbove, []⟩ "/lib/net") =
        load? ⟨settingsAbove, []⟩ (folder ⟨settingsAbove, []⟩ "//lib/./net/") := by
  have h : Disk.Spells ⟨settingsAbove, []⟩ "//lib/./net/" ["lib", "net"] :=
    ⟨by decide +kernel, by decide +kernel, _, rfl⟩
  have h' : Disk.Spells ⟨settingsAbove, []⟩ "/lib/net" ["lib", "net"] :=
    ⟨by decide +kernel, by decide +kernel, _, rfl⟩
  obtain ⟨-, -, habsolute, hother⟩ := folder_nearest ⟨settingsAbove, []⟩ "//lib/./net/" _ h
  have hnearest : nearest ⟨settingsAbove, []⟩ [] ["lib", "net"] = ["lib"] := by decide +kernel
  exact ⟨h, hnearest ▸ (habsolute rfl).2, hother _ h' rfl⟩

/-- A folder without settings that holds a folder with settings. -/
def settingsBelow : Node := .folder [("lib", .folder [("portdiag.toml", jsonFile)])]

/-- **Other spellings go astray.** From `lib/..` the search passes through the folder `lib`, which
is not above the root, and takes its settings. From `.` it does not pass the working folder, so that
settings above are missed. -/
theorem folder_strays :
    (Disk.resolve ⟨settingsBelow, []⟩ "lib/.." = .ok [] ∧
      nearest ⟨settingsBelow, []⟩ [] [] = [] ∧
      Disk.resolve ⟨settingsBelow, []⟩ (folder ⟨settingsBelow, []⟩ "lib/..") = .ok ["lib"] ∧
      (load? ⟨settingsBelow, []⟩ (folder ⟨settingsBelow, []⟩ "lib/..")).bind (·.format) =
        some "json" ∧
      load? ⟨settingsBelow, []⟩ (folder ⟨settingsBelow, []⟩ "/") = none) ∧
    (Disk.resolve ⟨settingsAbove, ["lib", "net"]⟩ "." = .ok ["lib", "net"] ∧
      nearest ⟨settingsAbove, ["lib", "net"]⟩ [] ["lib", "net"] = ["lib"] ∧
      Disk.resolve ⟨settingsAbove, ["lib", "net"]⟩ (folder ⟨settingsAbove, ["lib", "net"]⟩ ".") =
        .ok ["lib", "net"]) := by
  refine ⟨⟨?_, ?_, ?_, ?_, ?_⟩, ?_, ?_, ?_⟩
  all_goals decide +kernel

end Readiness.Settings
