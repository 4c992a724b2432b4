import Readiness.Proofs.Pattern.Search
import Readiness.Proofs.Text.InOrder

/-!
# Captured parts stand in order

A match never ends before it begins, whatever the pattern is, and a search goes on behind the end of
its last hit. The captured parts therefore stand in the text one after another.

* `Pattern.leads_of_mem_ends` : matches end behind their beginnings.
* `CapturePattern.inOrder_captures` : captured parts stand in the text in their order.
-/

namespace Readiness

variable {c d : Cursor}

/-! ## Matches move ahead -/

namespace Way

/-- Whether all new places where the way arrives lie behind the cursor from which it goes. -/
def Advances (way : Way) : Prop :=
  ∀ t c, ∀ d ∈ (way t c).arrived, d ∈ t.arrived ∨ c.Leads d

theorem advances_arrive : Advances arrive := by
  intro t c d hd
  rcases List.mem_cons.mp hd with rfl | hd
  · exact .inr (.refl d)
  · exact .inl hd

namespace Advances
variable {first second out : Way}

theorem once (h : out.Advances) (part : List Nat) : (Way.once part out).Advances := by
  intro t c d hd
  rw [Way.once] at hd
  split_ifs at hd
  · exact .inl hd
  · exact h { t with seen := (part, c.offset) :: t.seen } c d hd

theorem both (h : first.Advances) (h' : second.Advances) : (first.both second).Advances := by
  intro t c d hd
  rcases h' _ c d hd with hd | hd
  · exact h t c d hd
  · exact .inr hd

theorem of_leads (h : out.Advances) (hcd : c.Leads d) (t : Trail) {e : Cursor}
    (he : e ∈ (out t d).arrived) : e ∈ t.arrived ∨ c.Leads e :=
  (h t d e he).imp_right hcd.trans

end Advances

end Way

theorem Loop.advances_walk (l : Loop) (part : List Nat) {body : List Nat → Way → Way} {out : Way}
    (hbody : ∀ part (way : Way), way.Advances → (body part way).Advances) (hout : out.Advances)
    (fuel : Nat) : ∀ k, (l.walk part body out fuel k).Advances := by
  induction fuel with
  | zero => exact fun _ => hout.once _
  | succ fuel ih =>
    intro k
    have hleave := hout.once (0 :: part)
    have hmore := hbody (l.round k :: 1 :: part) _ (ih (l.next k))
    simp only [Loop.walk]
    split_ifs
    · exact hmore
    · exact hleave
    · exact (hmore.both hleave).once _
    · exact (hleave.both hmore).once _

namespace Pattern

theorem advances_walk (p : Pattern) :
    ∀ (part : List Nat) (out : Way), out.Advances → (p.walk part out).Advances := by
  induction p with
  | empty => exact fun part _ hout => hout.once part
  | char set =>
    intro part out hout
    refine Way.Advances.once (fun t c d hd => ?_) part
    obtain ⟨offset, before, rest⟩ := c
    cases rest with
    | nil => exact .inl hd
    | cons x xs =>
      simp only at hd
      split_ifs at hd
      · exact hout.of_leads (.step offset before x xs) t hd
      · exact .inl hd
  | assert a =>
    intro part out hout
    refine Way.Advances.once (fun t c d hd => ?_) part
    split_ifs at hd
    · exact hout t c d hd
    · exact .inl hd
  | seq p q ihp ihq => exact fun part out hout => ihp _ _ (ihq _ _ hout)
  | alt p q ihp ihq =>
    intro part out hout
    have hjoin := hout.once (2 :: part)
    exact ((ihp _ _ hjoin).both (ihq _ _ hjoin)).once part
  | iter min max greedy p ih =>
    intro part out hout t c
    exact Loop.advances_walk _ part ih hout _ 0 t c

end Pattern

namespace Rounds
variable {r : Rounds}

theorem leads_of_mem_stop {k : Nat} {t : Progress} (h : d ∈ (r.stop k t c).found) :
    d ∈ t.found ∨ c.Leads d := by
  rw [stop] at h
  split_ifs at h
  · rcases List.mem_cons.mp h with rfl | h
    · exact .inr (.refl d)
    · exact .inl h
  · exact .inl h

theorem leads_of_mem_visit (hstep : ∀ c, ∀ d ∈ r.step c, c.Leads d) (fuel : Nat) :
    ∀ k t c, ∀ d ∈ (r.visit fuel k t c).found, d ∈ t.found ∨ c.Leads d := by
  induction fuel with
  | zero =>
    intro k t c d hd
    exact leads_of_mem_stop hd
  | succ fuel ih =>
    intro k t c d hd
    -- The rounds after this one, from all places where it may end.
    have hmore : ∀ (ds : List Cursor), (∀ e ∈ ds, c.Leads e) → ∀ t : Progress, ∀ d,
        d ∈ (ds.foldl (r.visit fuel (r.next k)) t).found → d ∈ t.found ∨ c.Leads d := by
      intro ds hds
      induction ds with
      | nil => exact fun t d hd => .inl hd
      | cons e ds ihd =>
        intro t d hd
        rcases ihd (fun x hx => hds x (List.mem_cons_of_mem _ hx)) _ d hd with hd | hd
        · exact (ih _ _ _ d hd).imp_right (hds e List.mem_cons_self).trans
        · exact .inr hd
    have hround := hmore (r.step c) (hstep c)
    simp only [visit] at hd
    generalize ht : ({ t with seen := (k, c.offset) :: t.seen } : Progress) = t' at hd
    have hfound : t'.found = t.found := by rw [← ht]
    rw [← hfound]
    split_ifs at hd
    · exact .inl (hfound ▸ hd)
    · exact leads_of_mem_stop hd
    · rcases leads_of_mem_stop hd with hd | hd
      · exact hround t' d hd
      · exact .inr hd
    · exact leads_of_mem_stop hd
    · rcases hround _ d hd with hd | hd
      · exact leads_of_mem_stop hd
      · exact .inr hd

theorem leads_of_mem_ends (hstep : ∀ c, ∀ d ∈ r.step c, c.Leads d) (h : d ∈ r.ends c) :
    c.Leads d := by
  rw [ends, List.mem_reverse] at h
  exact (leads_of_mem_visit hstep _ _ _ _ d h).resolve_left List.not_mem_nil

end Rounds

theorem Cursor.leads_of_mem_run {set : CharSet} {max : Option Nat} {offset : Nat}
    {before : Option Char} {rest : List Char} (h : d ∈ run set max offset before rest) :
    Leads ⟨offset, before, rest⟩ d := by
  induction rest generalizing max offset before with
  | nil =>
    rw [run, List.mem_singleton] at h
    exact h ▸ .refl _
  | cons x xs ih =>
    rw [run, List.mem_cons] at h
    rcases h with rfl | h
    · exact .refl _
    · split_ifs at h
      · exact (Leads.step offset before x xs).trans (ih h)
      · cases h

theorem Cursor.leads_of_mem_runEnds {set : CharSet} {min : Nat} {max : Option Nat} {greedy : Bool}
    (h : d ∈ c.runEnds set min max greedy) : c.Leads d := by
  have hrun : d ∈ (run set max c.offset c.before c.rest).drop min := by
    rw [runEnds] at h
    split_ifs at h
    · exact List.mem_reverse.mp h
    · exact h
  exact leads_of_mem_run (List.mem_of_mem_drop hrun)

namespace Pattern

theorem mem_of_mem_distinct {seen : List Nat} {cs : List Cursor} (h : d ∈ distinct seen cs) :
    d ∈ cs := by
  induction cs generalizing seen with
  | nil => exact h
  | cons c cs ih =>
    rw [distinct] at h
    split_ifs at h
    · exact List.mem_cons_of_mem _ (ih h)
    · rcases List.mem_cons.mp h with rfl | h
      · exact List.mem_cons_self
      · exact List.mem_cons_of_mem _ (ih h)

theorem mem_follow {cs : List Cursor} {next : Cursor → List Cursor} (h : d ∈ follow cs next) :
    ∃ e ∈ cs, d ∈ next e := by
  rw [follow.eq_def] at h
  split at h
  · exact ⟨_, List.mem_singleton.mpr rfl, h⟩
  · exact List.mem_flatMap.mp (mem_of_mem_distinct h)

/-- **A match never ends before it begins.** -/
theorem leads_of_mem_ends {p : Pattern} (h : d ∈ p.ends c) : c.Leads d := by
  induction p generalizing c d with
  | empty => exact List.mem_singleton.mp h ▸ .refl _
  | char set =>
    obtain ⟨offset, before, rest⟩ := c
    cases rest with
    | nil => cases h
    | cons x xs =>
      simp only [ends] at h
      split_ifs at h
      · exact List.mem_singleton.mp h ▸ .step offset before x xs
      · cases h
  | assert a =>
    rw [ends] at h
    split_ifs at h
    · exact List.mem_singleton.mp h ▸ .refl _
    · cases h
  | seq p q ihp ihq =>
    obtain ⟨e, he, hd⟩ := mem_follow h
    exact (ihp he).trans (ihq hd)
  | alt p q ihp ihq => exact (List.mem_append.mp h).elim ihp ihq
  | iter min max greedy p ih =>
    rw [ends.eq_def] at h
    simp only at h
    split at h
    · exact Cursor.leads_of_mem_runEnds h
    · split_ifs at h
      · rw [walkEnds, List.mem_reverse] at h
        refine (advances_walk _ _ _ Way.advances_arrive _ _ _ h).resolve_left List.not_mem_nil
      · exact Rounds.leads_of_mem_ends (fun _ _ => ih) h

end Pattern

/-! ## Captured parts -/

theorem Cursor.Leads.rest_eq (h : c.Leads d) : c.rest = c.textTo d ++ d.rest := by
  obtain ⟨between, hrest, hoffset⟩ := h
  rw [textTo, hoffset, Nat.add_sub_cancel_left, hrest, List.take_left]

theorem Cursor.Leads.drop_rest (h : c.Leads d) : c.rest.drop (d.offset - c.offset) = d.rest := by
  obtain ⟨between, hrest, hoffset⟩ := h
  rw [hoffset, Nat.add_sub_cancel_left, hrest, List.drop_left]

/-- Whether the hits of an attempt at a cursor lie behind it, and end behind their parts. -/
def Captures (attempt : Cursor → Option (Span × Cursor)) : Prop :=
  ∀ c s d, attempt c = some (s, d) → c.Leads s.start ∧ s.start.Leads s.stop ∧ s.stop.Leads d

theorem Captures.inOrder_search {attempt : Cursor → Option (Span × Cursor)} (h : Captures attempt)
    (rest : List Char) : ∀ (last : Option Nat) (offset : Nat) (before : Option Char),
      Text.InOrder ((search attempt last offset before rest).map Span.text)
        (rest.drop (last.getD 0 - offset)) := by
  -- The induction over the rest of the text: what is found stands behind the end of the last hit.
  have hhit : ∀ (last : Option Nat) (c : Cursor) (s : Span) (d : Cursor)
      (pieces : List (List Char)),
      tryAt attempt last c = some (s, d) → Text.InOrder pieces d.rest →
      Text.InOrder (s.text :: pieces) (c.rest.drop (last.getD 0 - c.offset)) := by
    intro last c s d pieces htry hpieces
    obtain ⟨hattempt, hfree⟩ := tryAt_eq_some_iff.mp htry
    obtain ⟨hlead, hpart, htail⟩ := h c s d hattempt
    have hlast : last.getD 0 - c.offset = 0 := by
      cases last with
      | none => exact Nat.zero_sub _
      | some l => exact Nat.sub_eq_zero_of_le (hfree l rfl).1
    rw [hlast, List.drop_zero, hlead.rest_eq, hpart.rest_eq, htail.rest_eq]
    exact .cons _ s.text (hpieces.after _)
  induction rest with
  | nil =>
    intro last offset before
    rw [search]
    cases htry : tryAt attempt last ⟨offset, before, []⟩ with
    | none => exact .nil _
    | some hit => exact hhit last _ hit.1 hit.2 [] htry (.nil _)
  | cons x xs ih =>
    intro last offset before
    rw [search]
    cases htry : tryAt attempt last ⟨offset, before, x :: xs⟩ with
    | none =>
      simp only
      have hrest := ih last (offset + 1) (some x)
      rcases Nat.lt_or_ge offset (last.getD 0) with hlt | hle
      · rw [show last.getD 0 - offset = (last.getD 0 - (offset + 1)) + 1 by omega,
          List.drop_succ_cons]
        exact hrest
      · rw [Nat.sub_eq_zero_of_le (Nat.le_succ_of_le hle)] at hrest
        rw [Nat.sub_eq_zero_of_le hle]
        exact hrest.after [x]
    | some hit =>
      obtain ⟨s, d⟩ := hit
      have hlead : Cursor.Leads ⟨offset, before, x :: xs⟩ d := by
        obtain ⟨hlead, hpart, htail⟩ := h _ s d (tryAt_eq_some_iff.mp htry).1
        exact (hlead.trans hpart).trans htail
      rw [List.map_cons]
      refine hhit last _ s d _ htry ?_
      have hrest := ih (some d.offset) (offset + 1) (some x)
      have hdrop : (x :: xs).drop (d.offset - offset) = d.rest := hlead.drop_rest
      have hle : offset ≤ d.offset := hlead.offset_le
      rw [Option.getD_some] at hrest
      rcases Nat.eq_or_lt_of_le hle with heq | hlt
      · rw [← heq, Nat.sub_self, List.drop_zero] at hdrop
        rw [Nat.sub_eq_zero_of_le (by omega), List.drop_zero] at hrest
        rw [← hdrop]
        exact hrest.after [x]
      · rw [show d.offset - offset = (d.offset - (offset + 1)) + 1 by omega,
          List.drop_succ_cons] at hdrop
        exact hdrop ▸ hrest

theorem CapturePattern.captures_match? (p : CapturePattern) : Captures p.match? := by
  intro c s d h
  obtain ⟨start, hstart, h⟩ := List.exists_of_findSome?_eq_some h
  obtain ⟨stop, hstop, h⟩ := List.exists_of_findSome?_eq_some h
  obtain ⟨e, he, h⟩ := Option.map_eq_some_iff.mp h
  cases h
  exact ⟨Pattern.leads_of_mem_ends hstart, Pattern.leads_of_mem_ends hstop,
    Pattern.leads_of_mem_ends (List.mem_of_mem_head? he)⟩

/-- **The captured parts stand in the text in their order.** -/
theorem CapturePattern.inOrder_captures (p : CapturePattern) (text : List Char) :
    Text.InOrder (p.captures text) text :=
  p.captures_match?.inOrder_search text none 0 none

end Readiness
