import Readiness.Proofs.Dependency.Summary
import Readiness.Proofs.Report.Policy

/-!
# Which libraries the target has

A library is available if an entry of the allowlist lists it, with or without a leading `lib`, where
the case of ASCII letters does not matter on either side. A larger allowlist only turns unknown
dependencies into available ones, and the only advice that it can make superfluous is to verify
them.

* `Text.EqUpToCase` : texts that differ at most in the case of ASCII letters.
* `Allowlist.availability_eq_yes_iff` : what makes a library available.
* `Allowlist.Within` : the entries of one allowlist, in some case, are among those of another.
* `Allowlist.availability_of_entries` : what an allowlist decides about names, build files and
  reports.
-/

namespace Readiness

/-! ## Texts up to case -/

namespace Text

/-- Whether the first character is an ASCII capital letter and the second one its small form. -/
def IsCapitalOf (c d : Char) : Prop := 65 ≤ c.toNat ∧ c.toNat ≤ 90 ∧ d.toNat = c.toNat + 32

/-- Whether the characters are equal or the two forms of an ASCII letter. -/
def SameLetter (c d : Char) : Prop := c = d ∨ IsCapitalOf c d ∨ IsCapitalOf d c

/-- Whether the texts differ at most in the case of ASCII letters. -/
def EqUpToCase (s t : String) : Prop := List.Forall₂ SameLetter s.toList t.toList

theorem toNat_toLower (c : Char) :
    c.toLower.toNat = if 65 ≤ c.toNat ∧ c.toNat ≤ 90 then c.toNat + 32 else c.toNat := by
  have hupper : c.isUpper = true ↔ 65 ≤ c.toNat ∧ c.toNat ≤ 90 := by
    simp [Char.isUpper, UInt32.le_iff_toNat_le]
  split_ifs with h
  · rw [Char.toLower_eq_of_isUpper (hupper.mpr h), Char.toNat_ofNat, if_pos (by omega)]
  · rw [Char.toLower_eq_of_not_isUpper fun hc => h (hupper.mp hc)]

theorem sameLetter_iff {c d : Char} : SameLetter c d ↔ c.toLower = d.toLower := by
  unfold SameLetter IsCapitalOf
  rw [← Char.toNat_inj, ← Char.toNat_inj, toNat_toLower, toNat_toLower]
  split_ifs <;> omega

theorem eqUpToCase_iff {s t : String} :
    EqUpToCase s t ↔ Allowlist.lower s = Allowlist.lower t := by
  have hletter : SameLetter = fun c d => c.toLower = d.toLower := by
    funext c d
    exact propext sameLetter_iff
  unfold EqUpToCase Allowlist.lower asciiLower
  rw [String.ofList_inj, ← List.forall₂_eq_eq_eq, List.forall₂_map_left_iff,
    List.forall₂_map_right_iff, hletter]

instance (s t : String) : Decidable (EqUpToCase s t) := decidable_of_iff _ eqUpToCase_iff.symm

end Text

/-! ## Entries -/

namespace Allowlist

/-- Whether the entry lists the library of that name: the name itself, or what follows a leading
`lib` in it, in any case. -/
def Lists (entry name : String) : Prop :=
  Text.EqUpToCase name entry ∨ ∃ lead bare, name = lead ++ bare ∧ bare ≠ "" ∧
    Text.EqUpToCase lead "lib" ∧ Text.EqUpToCase bare entry

theorem bare?_eq_some_iff {name bare : String} :
    bare? name = some bare ↔ name = "lib" ++ bare ∧ bare ≠ "" := by
  unfold bare?
  constructor
  · intro h
    split at h
    · next c cs hname =>
      obtain rfl := Option.some.inj h
      refine ⟨?_, by simp⟩
      rw [← String.toList_inj, hname]
      simp
    · cases h
  · rintro ⟨rfl, hne⟩
    obtain ⟨c, cs, hbare⟩ := List.exists_cons_of_ne_nil (mt String.toList_eq_nil_iff.mp hne)
    have hname : ("lib" ++ bare).toList = 'l' :: 'i' :: 'b' :: c :: cs := by
      rw [String.toList_append, hbare]
      rfl
    rw [hname]
    show some (String.ofList (c :: cs)) = some bare
    rw [← hbare, String.ofList_toList]

theorem lower_append (s t : String) : lower (s ++ t) = lower s ++ lower t := by
  simp [lower, Text.asciiLower]

theorem exists_of_lower_eq_append {s t u : String} (h : lower s = t ++ u) :
    ∃ lead bare, s = lead ++ bare ∧ lower lead = t ∧ lower bare = u := by
  have hmap : s.toList.map Char.toLower = t.toList ++ u.toList := by
    rw [← String.toList_append, ← h, lower, String.toList_ofList, Text.asciiLower]
  obtain ⟨lead, bare, hs, hlead, hbare⟩ := List.map_eq_append_iff.mp hmap
  refine ⟨String.ofList lead, String.ofList bare, ?_, ?_, ?_⟩
  · rw [← String.ofList_append, ← hs, String.ofList_toList]
  · rw [lower, String.toList_ofList, Text.asciiLower, hlead, String.ofList_toList]
  · rw [lower, String.toList_ofList, Text.asciiLower, hbare, String.ofList_toList]

theorem lower_eq_empty_iff {s : String} : lower s = "" ↔ s = "" := by
  rw [lower, ← String.toList_inj, String.toList_ofList]
  simp [Text.asciiLower]

theorem lists_iff {entry name : String} : Lists entry name ↔
    lower entry = lower name ∨ bare? (lower name) = some (lower entry) := by
  have hlib : lower "lib" = "lib" := by decide
  unfold Lists
  rw [Text.eqUpToCase_iff, eq_comm, bare?_eq_some_iff]
  refine or_congr_right ⟨?_, ?_⟩
  · rintro ⟨lead, bare, rfl, hne, hlead, hbare⟩
    rw [Text.eqUpToCase_iff] at hlead hbare
    rw [lower_append, hlead, hlib, ← hbare]
    exact ⟨rfl, mt lower_eq_empty_iff.mp hne⟩
  · rintro ⟨hname, hne⟩
    obtain ⟨lead, bare, rfl, hlead, hbare⟩ := exists_of_lower_eq_append hname
    refine ⟨lead, bare, rfl, ?_, ?_, ?_⟩
    · rintro rfl
      exact hne (hbare ▸ lower_eq_empty_iff.mpr rfl)
    · rw [Text.eqUpToCase_iff, hlead, hlib]
    · rw [Text.eqUpToCase_iff, hbare]

/-- **A library is available if an entry lists it.** -/
theorem availability_eq_yes_iff {entries : List String} {name : String} :
    (ofNames entries).availability name = .yes ↔ ∃ entry ∈ entries, Lists entry name := by
  have hyes : (ofNames entries).availability name = .yes ↔
      lower name ∈ entries.map lower ∨
        ∃ bare, bare? (lower name) = some bare ∧ bare ∈ entries.map lower := by
    simp only [availability, ofNames, Bool.or_eq_true, List.contains_iff_mem, Option.any_eq_true]
    split_ifs with h
    · exact iff_of_true rfl h
    · exact iff_of_false (by decide) h
  rw [hyes]
  simp only [lists_iff, List.mem_map]
  constructor
  · rintro (⟨entry, hentry, hname⟩ | ⟨_, hbare, entry, hentry, rfl⟩)
    · exact ⟨entry, hentry, .inl hname⟩
    · exact ⟨entry, hentry, .inr hbare⟩
  · rintro ⟨entry, hentry, hname | hbare⟩
    · exact .inl ⟨entry, hentry, hname⟩
    · exact .inr ⟨_, hbare, entry, hentry, rfl⟩

theorem availability_eq_yes_or_unknown (a : Allowlist) (name : String) :
    a.availability name = .yes ∨ a.availability name = .unknown := by
  have hno := BuildFile.availability_ne_no a name
  cases h : a.availability name with
  | yes => exact .inl rfl
  | no => exact absurd h hno
  | unknown => exact .inr rfl

/-! ## Larger allowlists -/

/-- Whether every entry is, in some case, one of the others. -/
def Within (entries others : List String) : Prop :=
  ∀ entry ∈ entries, ∃ other ∈ others, Text.EqUpToCase entry other

instance (entries others : List String) : Decidable (Within entries others) :=
  inferInstanceAs (Decidable (∀ entry ∈ entries, ∃ other ∈ others, Text.EqUpToCase entry other))

variable {entries others : List String} {name name' : String}

theorem Lists.congr {entry entry' : String} (h : Lists entry name)
    (hentry : Text.EqUpToCase entry entry') (hname : Text.EqUpToCase name name') :
    Lists entry' name' := by
  rw [Text.eqUpToCase_iff] at hentry hname
  rwa [lists_iff, ← hentry, ← hname, ← lists_iff]

theorem availability_mono (h : Within entries others) (hname : Text.EqUpToCase name name')
    (hyes : (ofNames entries).availability name = .yes) :
    (ofNames others).availability name' = .yes := by
  rw [availability_eq_yes_iff] at hyes ⊢
  obtain ⟨entry, hentry, hlists⟩ := hyes
  obtain ⟨other, hother, hsame⟩ := h entry hentry
  exact ⟨other, hother, hlists.congr hsame hname⟩

theorem availability_congr (h : Within entries others) (h' : Within others entries)
    (hname : Text.EqUpToCase name name') :
    (ofNames others).availability name' = (ofNames entries).availability name := by
  have hname' : Text.EqUpToCase name' name := by
    rw [Text.eqUpToCase_iff] at hname ⊢
    exact hname.symm
  have hiff : (ofNames others).availability name' = .yes ↔
      (ofNames entries).availability name = .yes :=
    ⟨availability_mono h' hname', availability_mono h hname⟩
  rcases availability_eq_yes_or_unknown (ofNames entries) name with hold | hold <;>
    rcases availability_eq_yes_or_unknown (ofNames others) name' with hnew | hnew <;>
      simp_all

end Allowlist

/-! ## Dependencies and advice -/

/-- Whether the second is the same dependency, which the first may not know to exist. -/
structure Dependency.Settles (d e : Dependency) : Prop where
  name_eq : e.name = d.name
  required_eq : e.required = d.required
  availability : e.availability = d.availability ∨
    d.availability = .unknown ∧ e.availability = .yes

/-- Whether the reports differ at most in dependencies that only the second knows to exist and in
the advice to verify them, which only the first gives. -/
structure Report.Settles (r s : Report) : Prop where
  dependencies : List.Forall₂ Dependency.Settles r.dependencies s.dependencies
  advice : s.recommendations = r.recommendations ∨
    r.recommendations = s.recommendations ++ ["verify dependency availability on the target"]
  others : s = { r with dependencies := s.dependencies, recommendations := s.recommendations }

theorem Signals.advice_of_known (grade : Grade) (hasBlocking : Bool) :
    (Signals.mk grade hasBlocking true).advice = (Signals.mk grade hasBlocking false).advice ++
      ["verify dependency availability on the target"] := by
  simp [advice_eq]

theorem Dependency.any_unknown_of_settles {ds es : List Dependency}
    (h : List.Forall₂ Dependency.Settles ds es) (hunknown : es.any (·.availability = .unknown)) :
    ds.any (·.availability = .unknown) := by
  induction h with
  | nil => exact hunknown
  | cons hd _ ih =>
    rw [List.any_cons, Bool.or_eq_true, decide_eq_true_eq] at hunknown ⊢
    rcases hunknown with hhead | htail
    · left
      rcases hd.availability with heq | ⟨hold, -⟩
      · rw [← heq, hhead]
      · exact hold
    · exact .inr (ih htail)

/-- **Where dependencies turn out to exist, reports lose at most the advice to verify them.** -/
theorem Report.settles_assemble {ds es : List Dependency}
    (h : List.Forall₂ Dependency.Settles ds es) (projectPath : String) (stats : FileStats)
    (apiUsages : List ApiFinding) (pathUsages : List PathUsage) :
    (assemble projectPath stats apiUsages ds pathUsages).Settles
      (assemble projectPath stats apiUsages es pathUsages) where
  dependencies := h
  advice := by
    have hunknown := Dependency.any_unknown_of_settles h
    by_cases hes : es.any (·.availability = .unknown) = true
    · left
      simp only [assemble, hes, hunknown hes]
    · rw [Bool.not_eq_true] at hes
      by_cases hds : ds.any (·.availability = .unknown) = true
      · right
        simp only [assemble, hes, hds]
        exact Signals.advice_of_known _ _
      · left
        rw [Bool.not_eq_true] at hds
        simp only [assemble, hes, hds]
  others := rfl

theorem BuildFile.settles_dependencies {entries others : List String}
    (h : Allowlist.Within entries others) (text : List Char) :
    List.Forall₂ Dependency.Settles (dependencies (.ofNames entries) text)
      (dependencies (.ofNames others) text) := by
  unfold dependencies
  rw [List.forall₂_map_left_iff, List.forall₂_map_right_iff, List.forall₂_same]
  intro d _
  refine ⟨rfl, rfl, ?_⟩
  have hname : Text.EqUpToCase d.1 d.1 := Text.eqUpToCase_iff.mpr rfl
  have hmono := Allowlist.availability_mono h hname
  rcases (Allowlist.ofNames entries).availability_eq_yes_or_unknown d.1 with hold | hold
  · left
    rw [hold, hmono hold]
  · rcases (Allowlist.ofNames others).availability_eq_yes_or_unknown d.1 with hnew | hnew
    · exact .inr ⟨hold, hnew⟩
    · left
      rw [hold, hnew]

namespace Allowlist

/-- **What an allowlist decides.** A library is available if an entry lists it, in any case, and
unknown otherwise. An allowlist with the same entries up to case, in any order and number, decides
alike, and so it does for names in any case. One that has more entries keeps every available library
available. It leaves the names, the order and the flags of dependencies as they are, and a report
loses at most the advice to verify unknown ones. -/
theorem availability_of_entries (entries : List String) :
    (∀ name, ((ofNames entries).availability name = .yes ↔ ∃ entry ∈ entries, Lists entry name) ∧
      (ofNames entries).availability name ≠ .no) ∧
    ∀ others, Within entries others →
      (Within others entries → ∀ name name', Text.EqUpToCase name name' →
        (ofNames others).availability name' = (ofNames entries).availability name) ∧
      (∀ name, (ofNames entries).availability name = .yes →
        (ofNames others).availability name = .yes) ∧
      ∀ text, List.Forall₂ Dependency.Settles (BuildFile.dependencies (ofNames entries) text)
          (BuildFile.dependencies (ofNames others) text) ∧
        ∀ projectPath stats apiUsages pathUsages,
          (Report.assemble projectPath stats apiUsages
            (BuildFile.dependencies (ofNames entries) text) pathUsages).Settles
          (Report.assemble projectPath stats apiUsages
            (BuildFile.dependencies (ofNames others) text) pathUsages) := by
  refine ⟨fun name => ⟨availability_eq_yes_iff, BuildFile.availability_ne_no _ name⟩,
    fun others h => ⟨?_, ?_, ?_⟩⟩
  · intro h' name name' hname
    exact availability_congr h h' hname
  · intro name hyes
    exact availability_mono h (Text.eqUpToCase_iff.mpr rfl) hyes
  · intro text
    have hdeps := BuildFile.settles_dependencies h text
    exact ⟨hdeps, Report.settles_assemble hdeps⟩

/-- A build file with a library that is known and one that a larger allowlist knows. -/
def sampleBuild : List Char := "find_package(Z)\ntarget_link_libraries(app libOpenSSL)".toList

/-- Entries in other cases, in another order and repeated change nothing. One more entry settles a
dependency, and the advice to verify it goes. -/
theorem availability_of_entries_sample :
    (Within ["Z", "curl"] ["CURL", "z", "Curl"] ∧ Within ["CURL", "z", "Curl"] ["Z", "curl"] ∧
      Text.EqUpToCase "LibZ" "LIBz" ∧
      (ofNames ["CURL", "z", "Curl"]).availability "LIBz" =
        (ofNames ["Z", "curl"]).availability "LibZ") ∧
    (Within ["Z", "curl"] ["z", "openssl", "CURL"] ∧
      (ofNames ["Z", "curl"]).availability "LibZ" = .yes ∧
      (ofNames ["z", "openssl", "CURL"]).availability "LibZ" = .yes) ∧
    ∃ before after : Report, before.Settles after ∧
      before.dependencies = [⟨"Z", true, .yes⟩, ⟨"libOpenSSL", false, .unknown⟩] ∧
      after.dependencies = [⟨"Z", true, .yes⟩, ⟨"libOpenSSL", false, .yes⟩] ∧
      before.recommendations = ["verify dependency availability on the target"] ∧
      after.recommendations = [] := by
  obtain ⟨hlists, hlarger⟩ := availability_of_entries ["Z", "curl"]
  have hrecased : Within ["Z", "curl"] ["CURL", "z", "Curl"] := by decide +kernel
  have hback : Within ["CURL", "z", "Curl"] ["Z", "curl"] := by decide +kernel
  have hname : Text.EqUpToCase "LibZ" "LIBz" := by decide +kernel
  have hmore : Within ["Z", "curl"] ["z", "openssl", "CURL"] := by decide +kernel
  have hyes : (ofNames ["Z", "curl"]).availability "LibZ" = .yes := by decide +kernel
  obtain ⟨hsame, -, -⟩ := hlarger _ hrecased
  obtain ⟨-, hgrows, htext⟩ := hlarger _ hmore
  have hreport := (htext sampleBuild).2 "app" FileStats.zero [] []
  refine ⟨⟨hrecased, hback, hname, hsame hback _ _ hname⟩, ⟨hmore, hyes, hgrows _ hyes⟩,
    _, _, hreport, ?_, ?_, ?_, ?_⟩ <;> decide +kernel

end Allowlist

end Readiness
