import Mathlib
import Readiness.Report.Console

/-!
# Colour on the console

Colour only adds terminal sequences: without them, the coloured report is the plain one.

* `Console.removeColour` : a text without its colour sequences.
* `Console.Shows` : texts of which the first one is the second with colour, whatever follows them.
* `Console.removeColour_report` : the coloured report is the plain one with colour.
-/

namespace Readiness.Console

/-! ## Colour sequences -/

/-- The text behind the colour sequence that the text begins with, if it does: an escape character,
an opening bracket, digits and an `m`. -/
def afterSequence? : List Char → Option (List Char)
  | '\x1b' :: '[' :: d :: cs =>
    if d.isDigit then
      match cs.dropWhile Char.isDigit with
      | 'm' :: rest => some rest
      | _ => none
    else none
  | _ => none

theorem length_afterSequence?_lt {s rest : List Char} (h : afterSequence? s = some rest) :
    rest.length < s.length := by
  unfold afterSequence? at h
  split at h
  · next d cs =>
    split_ifs at h
    split at h
    · next tail htail =>
      obtain rfl := Option.some.inj h
      have hle := (List.dropWhile_suffix Char.isDigit (l := cs)).length_le
      rw [htail] at hle
      simp only [List.length_cons] at hle ⊢
      omega
    · cases h
  · cases h

/-- The text without its colour sequences. -/
def removeColour : List Char → List Char
  | [] => []
  | c :: cs =>
    match h : afterSequence? (c :: cs) with
    | some rest =>
      have : rest.length ≤ cs.length := Nat.le_of_lt_succ (length_afterSequence?_lt h)
      removeColour rest
    | none => c :: removeColour cs
termination_by s => s.length

theorem removeColour_of_some {s rest : List Char} (h : afterSequence? s = some rest) :
    removeColour s = removeColour rest := by
  cases s with
  | nil => cases h
  | cons c cs =>
    rw [removeColour]
    split
    · next heq =>
      rw [h] at heq
      rw [Option.some.inj heq]
    · next heq =>
      rw [h] at heq
      cases heq

theorem removeColour_cons_of_ne {c : Char} (hc : c ≠ '\x1b') (cs : List Char) :
    removeColour (c :: cs) = c :: removeColour cs := by
  have hnone : afterSequence? (c :: cs) = none := by
    unfold afterSequence?
    split
    · next heq => exact absurd (List.cons.inj heq).1 hc
    · rfl
  rw [removeColour]
  split
  · next heq =>
    rw [hnone] at heq
    cases heq
  · rfl

/-! ## Plain texts -/

/-- Whether the text has no escape character. -/
def IsPlain (s : String) : Prop := '\x1b' ∉ s.toList

instance (s : String) : Decidable (IsPlain s) := inferInstanceAs (Decidable ('\x1b' ∉ s.toList))

@[simp] theorem isPlain_append {s t : String} : IsPlain (s ++ t) ↔ IsPlain s ∧ IsPlain t := by
  simp [IsPlain]

theorem isDigit_of_mem_repr {n : Nat} : ∀ c ∈ n.repr.toList, c.isDigit := by
  intro c hc
  rw [Nat.repr, String.toList_ofList] at hc
  exact Nat.isDigit_of_mem_toDigits (by decide) (by decide) hc

@[simp] theorem isPlain_repr (n : Nat) : IsPlain n.repr := by
  intro hmem
  exact absurd (isDigit_of_mem_repr _ hmem) (by decide)

theorem isPlain_repeated {c : Char} (hc : c ≠ '\x1b') (n : Nat) : IsPlain (repeated n c) := by
  unfold IsPlain repeated
  rw [String.toList_ofList, List.mem_replicate]
  exact fun h => hc h.2.symm

@[simp] theorem isPlain_padRight {width : Nat} {s : String} :
    IsPlain (padRight width s) ↔ IsPlain s := by
  simp [padRight, isPlain_repeated]

@[simp] theorem isPlain_boxed {s : String} : IsPlain (boxed s) ↔ IsPlain s := by
  have hleft : IsPlain "║ " := by decide
  have hright : IsPlain "║\n" := by decide
  simp [boxed, hleft, hright]

/-! ## Texts with colour -/

/-- Whether the first text is the second one with colour, whatever follows. -/
def Shows (s t : String) : Prop :=
  ∀ rest, removeColour (s.toList ++ rest) = t.toList ++ removeColour rest

theorem Shows.removeColour_eq {s t : String} (h : Shows s t) :
    removeColour s.toList = t.toList := by
  have hend := h []
  rwa [removeColour, List.append_nil, List.append_nil] at hend

theorem Shows.append {s t s' t' : String} (h : Shows s t) (h' : Shows s' t') :
    Shows (s ++ s') (t ++ t') := by
  intro rest
  rw [String.toList_append, String.toList_append, List.append_assoc, h, h', List.append_assoc]

theorem IsPlain.shows {s : String} (h : IsPlain s) : Shows s s := by
  intro rest
  unfold IsPlain at h
  generalize s.toList = cs at h ⊢
  induction cs with
  | nil => rfl
  | cons c cs ih =>
    rw [List.mem_cons, not_or] at h
    rw [List.cons_append, removeColour_cons_of_ne (Ne.symm h.1), ih h.2, List.cons_append]

theorem shows_sequence (n : Nat) : Shows (sequence n) "" := by
  intro rest
  have hne : n.repr.toList ≠ [] := by
    rw [Nat.repr, String.toList_ofList]
    exact Nat.toDigits_ne_nil
  obtain ⟨d, ds, hds⟩ := List.exists_cons_of_ne_nil hne
  have hdigits : ∀ c ∈ n.repr.toList, c.isDigit := isDigit_of_mem_repr
  rw [hds, List.forall_mem_cons] at hdigits
  have htext : (sequence n).toList ++ rest = '\x1b' :: '[' :: d :: (ds ++ 'm' :: rest) := by
    unfold sequence
    rw [Nat.toString_eq_repr, String.toList_append, String.toList_append, hds]
    simp
  have hafter : afterSequence? ('\x1b' :: '[' :: d :: (ds ++ 'm' :: rest)) = some rest := by
    have hdrop : (ds ++ 'm' :: rest).dropWhile Char.isDigit = 'm' :: rest := by
      rw [List.dropWhile_append_of_pos hdigits.2]
      rfl
    simp only [afterSequence?, hdigits.1, if_true, hdrop]
  rw [htext, removeColour_of_some hafter]
  rfl

theorem Shows.style {s t : String} (h : Shows s t) (style : Style) :
    Shows (style.apply s) t := by
  have haround : ∀ start stop, Shows (sequence start ++ s ++ sequence stop) t := by
    intro start stop
    simpa using ((shows_sequence start).append h).append (shows_sequence stop)
  cases style <;> exact haround _ _

/-- **Paint only adds colour.** -/
theorem shows_paint {s : String} (h : IsPlain s) (styles : List Style) :
    Shows (paint true styles s) (paint false styles s) := by
  have hstyles : ∀ (styles : List Style) (t : String), Shows t s →
      Shows (styles.foldl (fun s style => style.apply s) t) s := by
    intro styles
    induction styles with
    | nil => exact fun t ht => ht
    | cons style styles ih => exact fun t ht => ih _ (ht.style style)
  exact hstyles styles s h.shows

theorem Shows.join {ss ts : List String} (h : List.Forall₂ Shows ss ts) :
    Shows (String.join ss) (String.join ts) := by
  induction h with
  | nil => exact fun _ => rfl
  | cons hline _ ih =>
    rw [String.join_cons, String.join_cons]
    exact hline.append ih

theorem forall₂_map_shows {α : Type} {f g : α → String} {xs : List α}
    (h : ∀ x ∈ xs, Shows (f x) (g x)) : List.Forall₂ Shows (xs.map f) (xs.map g) := by
  rw [List.forall₂_map_left_iff, List.forall₂_map_right_iff, List.forall₂_same]
  exact h

/-! ## Sections of a report -/

theorem shows_title {name : String} (h : IsPlain name) :
    Shows (title true name) (title false name) := by
  have hhead : IsPlain ("[" ++ name ++ "]") := by
    simpa [h] using (show IsPlain "[" ∧ IsPlain "]" by decide)
  have hbreak : IsPlain "\n" := by decide
  exact (shows_paint hhead _).append hbreak.shows

theorem shows_optional {name : String} (hname : IsPlain name) {ss ts : List String}
    (h : List.Forall₂ Shows ss ts) : Shows (optional true name ss) (optional false name ts) := by
  unfold optional
  cases h with
  | nil => exact fun _ => rfl
  | cons hline hlines =>
    have hbreak : IsPlain "\n" := by decide
    exact ((shows_title hname).append (Shows.join (.cons hline hlines))).append hbreak.shows

theorem isPlain_occurrenceText (f : ApiFinding) : IsPlain (occurrenceText f) := by
  simp +decide [occurrenceText]

theorem shows_blockingLine {f : ApiFinding} (hname : IsPlain f.name)
    (hguidance : IsPlain f.guidance) : Shows (blockingLine true f) (blockingLine false f) := by
  have hlead : IsPlain "  " := by decide
  have htail : IsPlain (occurrenceText f ++ "\n" ++ "    guidance: " ++ f.guidance ++ "\n") := by
    simp +decide [isPlain_occurrenceText, hguidance]
  have hline := (hlead.shows.append (shows_paint hname [.red, .bold])).append htail.shows
  simpa [blockingLine, String.append_assoc] using hline

theorem shows_reworkLine {f : ApiFinding} (hname : IsPlain f.name)
    (hguidance : IsPlain f.guidance) : Shows (reworkLine true f) (reworkLine false f) := by
  have hlead : IsPlain "  " := by decide
  have htail : IsPlain (occurrenceText f ++ " -> " ++ f.guidance ++ "\n") := by
    simp +decide [isPlain_occurrenceText, hguidance]
  have hline := (hlead.shows.append (shows_paint hname [.yellow])).append htail.shows
  simpa [reworkLine, String.append_assoc] using hline

theorem shows_reworkLines {fs : List ApiFinding}
    (h : ∀ f ∈ fs, IsPlain f.name ∧ IsPlain f.guidance) :
    List.Forall₂ Shows (reworkLines true fs) (reworkLines false fs) := by
  have hlines : List.Forall₂ Shows ((fs.take maxRework).map (reworkLine true))
      ((fs.take maxRework).map (reworkLine false)) := by
    refine forall₂_map_shows fun f hf => ?_
    obtain ⟨hname, hguidance⟩ := h f (List.mem_of_mem_take hf)
    exact shows_reworkLine hname hguidance
  have hmore : IsPlain ("  ... " ++ toString (fs.length - maxRework) ++ " more\n") := by
    simp +decide
  unfold reworkLines
  refine List.rel_append hlines ?_
  split_ifs
  · exact .cons hmore.shows .nil
  · exact .nil

theorem isPlain_header {r : Report} (h : IsPlain r.estimatedEffort) : IsPlain (header r) := by
  have hgrade : IsPlain r.grade.label := by
    cases r.grade <;> decide
  have hbar : IsPlain (repeated boxWidth '═') := isPlain_repeated (by decide) _
  have htitle : IsPlain (padCenter boxWidth "Porting Feasibility Report") := by decide +kernel
  unfold header
  simp only [isPlain_append, isPlain_boxed]
  simp only [hgrade, hbar, htitle, h, and_true]
  decide

theorem shows_files (s : FileStats) : Shows (files true s) (files false s) := by
  have hname : IsPlain "Files" := by decide
  have hlines : IsPlain ("  C files: " ++ toString s.c ++ "\n" ++
      "  C++ files: " ++ toString s.cpp ++ "\n" ++ "  Headers: " ++ toString s.header ++ "\n" ++
      "  Total lines: " ++ toString s.lines ++ "\n\n") := by
    simp +decide
  have hsection := (shows_title hname).append hlines.shows
  simpa [files, String.append_assoc] using hsection

theorem isPlain_dependencyLine {d : Dependency} (h : IsPlain d.name) :
    IsPlain (dependencyLine d) := by
  have hglyph : IsPlain d.availability.glyph := by
    cases d.availability <;> decide
  simp +decide [dependencyLine, hglyph, h]

theorem isPlain_pathLine {p : PathUsage} (h : IsPlain p.file ∧ IsPlain p.literal) :
    IsPlain (pathLine p) := by
  simp +decide [pathLine, h]

/-! ## Reports -/

/-- Whether no text that the console shows of a report has an escape character. -/
structure HasPlainTexts (r : Report) : Prop where
  effort : IsPlain r.estimatedEffort
  apiUsages : ∀ f ∈ r.apiUsages, IsPlain f.name ∧ IsPlain f.guidance
  dependencies : ∀ d ∈ r.dependencies, IsPlain d.name
  pathUsages : ∀ p ∈ r.pathUsages, IsPlain p.file ∧ IsPlain p.literal
  risks : ∀ s ∈ r.risks, IsPlain s
  recommendations : ∀ s ∈ r.recommendations, IsPlain s

theorem HasPlainTexts.of_findingsIn {r : Report} (h : HasPlainTexts r) (tier : Tier) :
    ∀ f ∈ r.findingsIn tier, IsPlain f.name ∧ IsPlain f.guidance :=
  fun f hf => h.apiUsages f (List.mem_of_mem_filter hf)

theorem shows_blocking {r : Report} (h : HasPlainTexts r) :
    Shows (optional true "Blocking APIs (not portable)"
        ((r.findingsIn .blocking).map (blockingLine true)))
      (optional false "Blocking APIs (not portable)"
        ((r.findingsIn .blocking).map (blockingLine false))) := by
  refine shows_optional (by decide) (forall₂_map_shows fun f hf => ?_)
  obtain ⟨hname, hguidance⟩ := h.of_findingsIn .blocking f hf
  exact shows_blockingLine hname hguidance

theorem shows_rework {r : Report} (h : HasPlainTexts r) :
    Shows (optional true "APIs needing rework" (reworkLines true (r.findingsIn .needsRework)))
      (optional false "APIs needing rework" (reworkLines false (r.findingsIn .needsRework))) :=
  shows_optional (by decide) (shows_reworkLines (h.of_findingsIn .needsRework))

theorem shows_optional_plain {α : Type} {name : String} (hname : IsPlain name) {xs : List α}
    {line : α → String} (h : ∀ x ∈ xs, IsPlain (line x)) :
    Shows (optional true name (xs.map line)) (optional false name (xs.map line)) :=
  shows_optional hname (forall₂_map_shows fun x hx => (h x hx).shows)

theorem shows_list {name lead : String} (hname : IsPlain name) (hlead : IsPlain lead)
    {ss : List String} (h : ∀ s ∈ ss, IsPlain s) :
    Shows (title true name ++ String.join (ss.map fun s => lead ++ s ++ "\n"))
      (title false name ++ String.join (ss.map fun s => lead ++ s ++ "\n")) := by
  refine (shows_title hname).append (Shows.join (forall₂_map_shows fun s hs => IsPlain.shows ?_))
  simp +decide [hlead, h s hs]

/-- **A report with colour shows the plain report.** -/
theorem shows_report {r : Report} (h : HasPlainTexts r) :
    Shows (report true r) (report false r) := by
  have hheader := (isPlain_header h.effort).shows
  have hdependencies := shows_optional_plain (show IsPlain "Dependencies" by decide) fun d hd =>
    isPlain_dependencyLine (h.dependencies d (List.mem_of_mem_take (i := maxDependencies) hd))
  have hpaths := shows_optional_plain (show IsPlain "/proc and /sys usage" by decide) fun p hp =>
    isPlain_pathLine (h.pathUsages p (List.mem_of_mem_take (i := maxPaths) hp))
  have hrisks := shows_list (show IsPlain "Risks" by decide) (show IsPlain "  ⚠ " by decide) h.risks
  have hadvice := shows_list (show IsPlain "Recommendations" by decide)
    (show IsPlain "  → " by decide) h.recommendations
  have hbreak : IsPlain "\n" := by decide
  have hfront := ((hheader.append (shows_files r.fileStats)).append (shows_blocking h)).append
    (shows_rework h)
  have hback := ((hdependencies.append hpaths).append (hrisks.append hbreak.shows)).append hadvice
  have hall := hfront.append hback
  simpa only [report, String.append_assoc] using hall

/-- **Colour changes nothing else.** Without its colour sequences, a report with colour is the plain
report, whatever its lengths and whatever its texts look like, if no text has an escape
character. -/
theorem removeColour_report {r : Report} (h : HasPlainTexts r) :
    removeColour (report true r).toList = (report false r).toList :=
  (shows_report h).removeColour_eq

/-- A report with more findings than are shown and with names that look like parts of colour
sequences. -/
def sampleReport : Report where
  projectPath := "/src/[0m"
  fileStats := ⟨1, 0, 2, 340⟩
  apiUsages := ⟨"[31m", .blocking, 2, ["ring.c"], "1m[0m"⟩ ::
    List.replicate 12 ⟨"39m", .needsRework, 1, ["x.c"], "m"⟩
  dependencies := [⟨"m", true, .yes⟩]
  pathUsages := [⟨"mem.c", "/proc/[m"⟩]
  grade := .C
  estimatedEffort := "1-2 weeks"
  risks := ["core logic needs restructuring"]
  recommendations := ["evaluate alternative libraries"]

theorem removeColour_report_sample : HasPlainTexts sampleReport ∧
    removeColour (report true sampleReport).toList = (report false sampleReport).toList := by
  have hplain : HasPlainTexts sampleReport := by
    refine ⟨?_, ?_, ?_, ?_, ?_, ?_⟩ <;> decide +kernel
  exact ⟨hplain, removeColour_report hplain⟩

end Readiness.Console
