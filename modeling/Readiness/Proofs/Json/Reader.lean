import Readiness.Proofs.Json.Grammar

/-!
# Reading JSON texts

A reader for the grammar of JSON texts. It accepts exactly the written forms of documents, so a text
is a written form of one document at most.

* `Json.read?` : the document of a text.
* `Json.read?_eq_some_iff` : the reader accepts what the grammar allows.
* `Json.Denotes.unique` : a text is a written form of at most one document.
-/

namespace Readiness.Json

/-! ## Strings -/

/-- The number that four hexadecimal digits give, and what follows them. -/
def readUnit : List Char → Option (Nat × List Char)
  | a :: b :: c :: d :: s => (unit? a b c d).map (·, s)
  | _ => none

/-- The character that is given after a backslash, and what follows it. -/
def readEscape : List Char → Option (Char × List Char)
  | [] => none
  | e :: s =>
    if e = 'u' then do
      let (n, s) ← readUnit s
      if isHighHalf n then
        match s with
        | '\\' :: 'u' :: s =>
          let (m, s) ← readUnit s
          if isLowHalf m then some (ofHalves n m, s) else none
        | _ => none
      else if isLowHalf n then none
      else some (Char.ofNat n, s)
    else (shortEscape? e).map (·, s)

/-- The first character of a string, given that the string does not end, and what follows it. -/
def readChar : List Char → Option (Char × List Char)
  | [] => none
  | c :: s =>
    if c = '\\' then readEscape s
    else if c.toNat < 0x20 then none
    else some (c, s)

/-- The characters up to the end of a string, and what follows it. -/
def readString : Nat → List Char → Option (List Char × List Char)
  | 0, _ => none
  | _ + 1, '"' :: s => some ([], s)
  | fuel + 1, s => do
    let (c, s) ← readChar s
    let (cs, s) ← readString fuel s
    some (c :: cs, s)

/-! ## Values -/

/-- What follows the blanks at the start of a text. -/
def skip (s : List Char) : List Char := s.dropWhile isBlank

/-- The number at the start of a text, and what follows it. -/
def readNumber (s : List Char) : Option (Json × List Char) :=
  let digits := s.takeWhile (·.isDigit)
  if digits = [] ∨ digits.head? = some '0' ∧ digits ≠ ['0'] then none
  else some (.num (Nat.ofDigitChars 10 digits 0), s.dropWhile (·.isDigit))

/-- The word or number at the start of a text, and what follows it. -/
def readWord : List Char → Option (Json × List Char)
  | 'n' :: 'u' :: 'l' :: 'l' :: s => some (.null, s)
  | 't' :: 'r' :: 'u' :: 'e' :: s => some (.bool true, s)
  | 'f' :: 'a' :: 'l' :: 's' :: 'e' :: s => some (.bool false, s)
  | s => readNumber s

/-- The value at the start of a text that does not begin with a blank, and what follows it. The
items and the members of a value, up to the end of the value, are read by other readers. -/
def readBare (items : List Char → Option (List Json × List Char))
    (members : List Char → Option (List (String × Json) × List Char)) :
    List Char → Option (Json × List Char)
  | '"' :: s => do
    let (cs, s) ← readString (s.length + 1) s
    some (.str (String.ofList cs), s)
  | '[' :: s =>
    match skip s with
    | ']' :: s => some (.arr [], s)
    | _ => do
      let (js, s) ← items s
      some (.arr js, s)
  | '\x7b' :: s =>
    match skip s with
    | '\x7d' :: s => some (.obj [], s)
    | _ => do
      let (ms, s) ← members s
      some (.obj ms, s)
  | s => readWord s

mutual

/-- The value at the start of a text with the blanks around it, and what follows. -/
def read : Nat → List Char → Option (Json × List Char)
  | 0, _ => none
  | fuel + 1, s => do
    let (j, s) ← readBare (readItems fuel) (readMembers fuel) (skip s)
    some (j, skip s)

/-- Values with commas between them up to the end of an array, and what follows it. -/
def readItems : Nat → List Char → Option (List Json × List Char)
  | 0, _ => none
  | fuel + 1, s => do
    let (j, s) ← read fuel s
    match s with
    | ',' :: s => do
      let (js, s) ← readItems fuel s
      some (j :: js, s)
    | ']' :: s => some ([j], s)
    | _ => none

/-- Members with commas between them up to the end of an object, and what follows it. -/
def readMembers : Nat → List Char → Option (List (String × Json) × List Char)
  | 0, _ => none
  | fuel + 1, s => do
    let (.str key, ':' :: s) ← read fuel s | none
    let (j, s) ← read fuel s
    match s with
    | ',' :: s => do
      let (ms, s) ← readMembers fuel s
      some ((key, j) :: ms, s)
    | '\x7d' :: s => some ([(key, j)], s)
    | _ => none

end

/-- The document of a text. -/
def read? (text : String) : Option Json :=
  match read (text.toList.length + 1) text.toList with
  | some (j, []) => some j
  | _ => none

/-! ## Strings are read -/

theorem readUnit_eq_some_iff {s t : List Char} {n : Nat} :
    readUnit s = some (n, t) ↔
      ∃ a b c d, unit? a b c d = some n ∧ s = a :: b :: c :: d :: t := by
  constructor
  · intro h
    unfold readUnit at h
    split at h
    · rename_i a b c d s
      obtain ⟨m, hm, heq⟩ := Option.map_eq_some_iff.mp h
      obtain ⟨rfl, rfl⟩ := Prod.mk.inj heq
      exact ⟨a, b, c, d, hm, rfl⟩
    · cases h
  · rintro ⟨a, b, c, d, hvalue, rfl⟩
    simp [readUnit, hvalue]

theorem readChar_append {x : List Char} {c : Char} (h : CharText x c) (t : List Char) :
    readChar (x ++ t) = some (c, t) := by
  cases h with
  | plain control quote backslash =>
    simp [readChar, backslash, Nat.not_lt.mpr control]
  | @short e _ escape =>
    have he : e ≠ 'u' := by
      rintro rfl
      simp [shortEscape?] at escape
    simp [readChar, readEscape, he, escape]
  | unit value high low => simp [readChar, readEscape, readUnit, value, high, low]
  | pair value high value' low =>
    simp [readChar, readEscape, readUnit, value, high, value', low]

theorem exists_of_readEscape {s t : List Char} {c : Char} (h : readEscape s = some (c, t)) :
    ∃ x, CharText ('\\' :: x) c ∧ s = x ++ t := by
  cases s with
  | nil => cases h
  | cons e s =>
    rw [readEscape] at h
    split_ifs at h with hu
    · subst hu
      obtain ⟨⟨n, s'⟩, hn, hrest⟩ := Option.bind_eq_some_iff.mp h
      obtain ⟨a, b, c', d, hvalue, rfl⟩ := readUnit_eq_some_iff.mp hn
      dsimp only at hrest
      split_ifs at hrest with hhigh hlow
      · split at hrest
        · obtain ⟨⟨m, s''⟩, hm, hlast⟩ := Option.bind_eq_some_iff.mp hrest
          obtain ⟨a', b', c'', d', hvalue', rfl⟩ := readUnit_eq_some_iff.mp hm
          dsimp only at hlast
          split_ifs at hlast with hlow
          obtain ⟨rfl, rfl⟩ := Prod.mk.inj (Option.some.inj hlast)
          exact ⟨_, .pair hvalue hhigh hvalue' hlow, rfl⟩
        · cases hrest
      · obtain ⟨rfl, rfl⟩ := Prod.mk.inj (Option.some.inj hrest)
        exact ⟨_, .unit hvalue (by simpa using hhigh) (by simpa using hlow), rfl⟩
    · obtain ⟨c', hc, heq⟩ := Option.map_eq_some_iff.mp h
      obtain ⟨rfl, rfl⟩ := Prod.mk.inj heq
      exact ⟨[e], .short hc, rfl⟩

theorem exists_of_readChar {s t : List Char} {c : Char} (h : readChar s = some (c, t))
    (hs : s.head? ≠ some '"') : ∃ x, CharText x c ∧ s = x ++ t := by
  cases s with
  | nil => cases h
  | cons d s =>
    rw [readChar] at h
    split_ifs at h with hbackslash hcontrol
    · subst hbackslash
      obtain ⟨x, hx, rfl⟩ := exists_of_readEscape h
      exact ⟨_, hx, rfl⟩
    · obtain ⟨rfl, rfl⟩ := Prod.mk.inj (Option.some.inj h)
      exact ⟨[d], .plain (Nat.not_lt.mp hcontrol) (by simpa using hs) hbackslash, rfl⟩

theorem CharText.head?_append {x : List Char} {c : Char} (h : CharText x c) (t : List Char) :
    (x ++ t).head? ≠ some '"' ∧ 0 < x.length := by
  cases h with
  | plain control quote backslash => simpa using quote
  | short | unit | pair => simp

theorem readString_succ (fuel : Nat) {s : List Char} (hs : s.head? ≠ some '"') :
    readString (fuel + 1) s =
      (readChar s).bind fun p => (readString fuel p.2).bind fun q => some (p.1 :: q.1, q.2) := by
  rw [readString]
  · rfl
  · rintro t rfl
    simp at hs

theorem readString_append {text chars : List Char} (h : StringBody text chars) (rest : List Char) :
    ∀ fuel, text.length < fuel →
      readString fuel (text ++ '"' :: rest) = some (chars, rest) := by
  induction h with
  | nil =>
    rintro (_ | fuel) hfuel
    · cases hfuel
    · rfl
  | @cons x c h text chars hs ih =>
    rintro (_ | fuel) hfuel
    · cases hfuel
    · have hx := h.head?_append (text ++ '"' :: rest)
      have hshort : text.length < fuel := by
        rw [List.length_append] at hfuel
        omega
      rw [List.append_assoc, readString_succ fuel hx.1, readChar_append h, Option.bind_some,
        ih fuel hshort, Option.bind_some]

theorem exists_of_readString {fuel : Nat} {s chars rest : List Char}
    (h : readString fuel s = some (chars, rest)) :
    ∃ text, StringBody text chars ∧ s = text ++ '"' :: rest := by
  induction fuel generalizing s chars with
  | zero => cases h
  | succ fuel ih =>
    by_cases hs : s.head? = some '"'
    · obtain ⟨t, rfl⟩ := List.head?_eq_some_iff.mp hs
      obtain ⟨rfl, rfl⟩ := Prod.mk.inj (Option.some.inj h)
      exact ⟨[], .nil, rfl⟩
    · rw [readString_succ fuel hs] at h
      obtain ⟨⟨c, s'⟩, hc, h⟩ := Option.bind_eq_some_iff.mp h
      obtain ⟨⟨cs, s''⟩, hcs, heq⟩ := Option.bind_eq_some_iff.mp h
      obtain ⟨rfl, rfl⟩ := Prod.mk.inj (Option.some.inj heq)
      obtain ⟨x, hx, rfl⟩ := exists_of_readChar hc hs
      obtain ⟨text, htext, rfl⟩ := ih hcs
      exact ⟨x ++ text, .cons hx htext, (List.append_assoc ..).symm⟩

/-! ## What is read is a written form -/

theorem exists_blanks (s : List Char) :
    ∃ blanks, (∀ c ∈ blanks, isBlank c) ∧ s = blanks ++ skip s :=
  ⟨s.takeWhile isBlank, fun _ hc => List.mem_takeWhile_imp hc,
    List.takeWhile_append_dropWhile.symm⟩

theorem exists_of_readWord {s t : List Char} {j : Json} (h : readWord s = some (j, t)) :
    ∃ x, Denotes x j ∧ s = x ++ t := by
  unfold readWord at h
  split at h
  · obtain ⟨rfl, rfl⟩ := Prod.mk.inj (Option.some.inj h)
    exact ⟨_, .null, rfl⟩
  · obtain ⟨rfl, rfl⟩ := Prod.mk.inj (Option.some.inj h)
    exact ⟨_, .bool true, rfl⟩
  · obtain ⟨rfl, rfl⟩ := Prod.mk.inj (Option.some.inj h)
    exact ⟨_, .bool false, rfl⟩
  · rw [readNumber] at h
    split_ifs at h with hdigits
    obtain ⟨rfl, rfl⟩ := Prod.mk.inj (Option.some.inj h)
    rw [not_or, not_and, not_not] at hdigits
    exact ⟨_, .num hdigits.1 (fun _ hc => List.mem_takeWhile_imp hc) hdigits.2,
      List.takeWhile_append_dropWhile.symm⟩

/-- Whether all that a reader of items reads is written forms with commas between them. -/
def ItemsSound (reader : List Char → Option (List Json × List Char)) : Prop :=
  ∀ s js t, reader s = some (js, t) → ∃ items : List Item, items ≠ [] ∧
    (∀ i ∈ items, Denotes i.text i.value) ∧ items.map (·.value) = js ∧
      s = Text.joinWith [','] (items.map (·.text)) ++ ']' :: t

/-- Whether all that a reader of members reads is written forms with commas between them. -/
def MembersSound (reader : List Char → Option (List (String × Json) × List Char)) : Prop :=
  ∀ s ms t, reader s = some (ms, t) → ∃ members : List Member, members ≠ [] ∧
    (∀ m ∈ members, Denotes m.keyText (.str m.key)) ∧ (∀ m ∈ members, Denotes m.text m.value) ∧
      members.map (fun m => (m.key, m.value)) = ms ∧
        s = Text.joinWith [','] (members.map (·.whole)) ++ '\x7d' :: t

theorem exists_of_readBare {items : List Char → Option (List Json × List Char)}
    {members : List Char → Option (List (String × Json) × List Char)} (hitems : ItemsSound items)
    (hmembers : MembersSound members) {s t : List Char} {j : Json}
    (h : readBare items members s = some (j, t)) : ∃ x, Denotes x j ∧ s = x ++ t := by
  unfold readBare at h
  split at h
  · obtain ⟨⟨cs, s'⟩, hcs, heq⟩ := Option.bind_eq_some_iff.mp h
    obtain ⟨rfl, rfl⟩ := Prod.mk.inj (Option.some.inj heq)
    obtain ⟨text, htext, rfl⟩ := exists_of_readString hcs
    exact ⟨_, .str htext, by simp⟩
  · rename_i s
    split at h
    · rename_i s' hskip
      obtain ⟨rfl, rfl⟩ := Prod.mk.inj (Option.some.inj h)
      obtain ⟨blanks, hblanks, hs⟩ := exists_blanks s
      rw [hskip] at hs
      exact ⟨_, .emptyArr hblanks, by simp [hs]⟩
    · obtain ⟨⟨js, s'⟩, hjs, heq⟩ := Option.bind_eq_some_iff.mp h
      obtain ⟨rfl, rfl⟩ := Prod.mk.inj (Option.some.inj heq)
      obtain ⟨is, hne, his, rfl, rfl⟩ := hitems _ _ _ hjs
      exact ⟨_, .arr hne his, by simp⟩
  · rename_i s
    split at h
    · rename_i s' hskip
      obtain ⟨rfl, rfl⟩ := Prod.mk.inj (Option.some.inj h)
      obtain ⟨blanks, hblanks, hs⟩ := exists_blanks s
      rw [hskip] at hs
      exact ⟨_, .emptyObj hblanks, by simp [hs]⟩
    · obtain ⟨⟨ms, s'⟩, hms, heq⟩ := Option.bind_eq_some_iff.mp h
      obtain ⟨rfl, rfl⟩ := Prod.mk.inj (Option.some.inj heq)
      obtain ⟨is, hne, hkeys, hvalues, rfl, rfl⟩ := hmembers _ _ _ hms
      exact ⟨_, .obj hne hkeys hvalues, by simp⟩
  · exact exists_of_readWord h

/-- Whether all that a reader of values reads is written forms. -/
def ReadSound (reader : List Char → Option (Json × List Char)) : Prop :=
  ∀ s j t, reader s = some (j, t) → ∃ x, Denotes x j ∧ s = x ++ t

theorem readItems_sound {fuel : Nat} (hread : ReadSound (read fuel))
    (hitems : ItemsSound (readItems fuel)) : ItemsSound (readItems (fuel + 1)) := by
  intro s js t h
  obtain ⟨⟨j, s'⟩, hj, hrest⟩ := Option.bind_eq_some_iff.mp h
  obtain ⟨x, hx, rfl⟩ := hread _ _ _ hj
  dsimp only at hrest
  split at hrest
  · obtain ⟨⟨js, s''⟩, hjs, heq⟩ := Option.bind_eq_some_iff.mp hrest
    obtain ⟨rfl, rfl⟩ := Prod.mk.inj (Option.some.inj heq)
    obtain ⟨is, hne, his, rfl, rfl⟩ := hitems _ _ _ hjs
    refine ⟨⟨x, j⟩ :: is, by simp, List.forall_mem_cons.mpr ⟨hx, his⟩, rfl, ?_⟩
    rw [List.map_cons, Text.joinWith_cons x (by simpa using hne)]
    simp
  · obtain ⟨rfl, rfl⟩ := Prod.mk.inj (Option.some.inj hrest)
    exact ⟨[⟨x, j⟩], by simp, by simpa using hx, rfl, rfl⟩
  · cases hrest

theorem readMembers_sound {fuel : Nat} (hread : ReadSound (read fuel))
    (hmembers : MembersSound (readMembers fuel)) : MembersSound (readMembers (fuel + 1)) := by
  intro s ms t h
  obtain ⟨⟨k, s'⟩, hk, hvalue⟩ := Option.bind_eq_some_iff.mp h
  obtain ⟨y, hy, rfl⟩ := hread _ _ _ hk
  dsimp only at hvalue
  split at hvalue
  · rename_i key s' heq
    obtain ⟨rfl, rfl⟩ := Prod.mk.inj heq
    obtain ⟨⟨j, s''⟩, hj, hrest⟩ := Option.bind_eq_some_iff.mp hvalue
    obtain ⟨x, hx, rfl⟩ := hread _ _ _ hj
    dsimp only at hrest
    split at hrest
    · obtain ⟨⟨ms, s''⟩, hms, heq⟩ := Option.bind_eq_some_iff.mp hrest
      obtain ⟨rfl, rfl⟩ := Prod.mk.inj (Option.some.inj heq)
      obtain ⟨is, hne, hkeys, hvalues, rfl, rfl⟩ := hmembers _ _ _ hms
      refine ⟨⟨y, key, x, j⟩ :: is, by simp, List.forall_mem_cons.mpr ⟨hy, hkeys⟩,
        List.forall_mem_cons.mpr ⟨hx, hvalues⟩, rfl, ?_⟩
      rw [List.map_cons, Text.joinWith_cons _ (by simpa using hne)]
      simp [Member.whole]
    · obtain ⟨rfl, rfl⟩ := Prod.mk.inj (Option.some.inj hrest)
      exact ⟨[⟨y, key, x, j⟩], by simp, by simpa using hy, by simpa using hx, rfl,
        by simp [Member.whole, Text.joinWith]⟩
    · cases hrest
  · cases hvalue

theorem read_sound (fuel : Nat) :
    ReadSound (read fuel) ∧ ItemsSound (readItems fuel) ∧ MembersSound (readMembers fuel) := by
  -- The readers call each other with less fuel, so they are shown to be sound together.
  induction fuel with
  | zero => exact ⟨nofun, nofun, nofun⟩
  | succ fuel ih =>
    obtain ⟨hread, hitems, hmembers⟩ := ih
    refine ⟨?_, readItems_sound hread hitems, readMembers_sound hread hmembers⟩
    intro s j t h
    obtain ⟨⟨j', s'⟩, hj, heq⟩ := Option.bind_eq_some_iff.mp h
    obtain ⟨rfl, rfl⟩ := Prod.mk.inj (Option.some.inj heq)
    obtain ⟨x, hx, hs⟩ := exists_of_readBare hitems hmembers hj
    obtain ⟨before, hbefore, hs'⟩ := exists_blanks s
    obtain ⟨after, hafter, hs''⟩ := exists_blanks s'
    refine ⟨before ++ x ++ after, .after_all hafter (.before_all hbefore hx), ?_⟩
    rw [hs', hs, List.append_assoc, List.append_assoc, ← hs'']

theorem denotes_of_read?_eq_some {text : String} {j : Json} (h : read? text = some j) :
    Denotes text.toList j := by
  unfold read? at h
  split at h
  · rename_i j' hread
    obtain ⟨x, hx, hs⟩ := (read_sound _).1 _ _ _ hread
    rw [hs, List.append_nil, ← Option.some.inj h]
    exact hx
  · cases h

/-! ## Written forms are read -/

/-- Whether no number before a text goes on in it. -/
def Edge (rest : List Char) : Prop := ∀ c ∈ rest.head?, c.isDigit = false

theorem not_isDigit_of_isBlank {c : Char} (h : isBlank c) : c.isDigit = false := by
  simp only [isBlank, Bool.or_eq_true, beq_iff_eq] at h
  rcases h with ((rfl | rfl) | rfl) | rfl
  all_goals decide

theorem skip_cons_blank {c : Char} (h : isBlank c) (s : List Char) :
    skip (c :: s) = skip s :=
  List.dropWhile_cons_of_pos h

theorem skip_cons {c : Char} (h : isBlank c = false) (s : List Char) :
    skip (c :: s) = c :: s :=
  List.dropWhile_cons_of_neg (by simp [h])

theorem skip_append {blanks : List Char} (h : ∀ c ∈ blanks, isBlank c) (s : List Char) :
    skip (blanks ++ s) = skip s :=
  List.dropWhile_append_of_pos h

/-- Whether a text begins, after blanks, with a character that ends no array and no object. -/
def Opens (s : List Char) : Prop :=
  ∃ c t, (c ≠ ']' ∧ c ≠ '\x7d') ∧ ∀ rest, skip (s ++ rest) = c :: (t ++ rest)

namespace Opens
variable {s : List Char}

theorem of_cons {c : Char} (hc : c ≠ ']' ∧ c ≠ '\x7d') (h : isBlank c = false) (s : List Char) :
    Opens (c :: s) :=
  ⟨c, s, hc, fun _ => skip_cons h _⟩

theorem append (h : Opens s) (u : List Char) : Opens (s ++ u) := by
  obtain ⟨c, t, hc, ht⟩ := h
  exact ⟨c, t ++ u, hc, fun rest => by rw [List.append_assoc, ht, List.append_assoc]⟩

theorem joinWith (h : Opens s) (pieces : List (List Char)) :
    Opens (Text.joinWith [','] (s :: pieces)) := by
  cases pieces with
  | nil => exact h
  | cons p ps =>
    rw [Text.joinWith_cons s (by simp)]
    exact h.append _

theorem skip_ne (h : Opens s) {c : Char} (hc : c = ']' ∨ c = '\x7d') (rest t : List Char) :
    skip (s ++ rest) ≠ c :: t := by
  obtain ⟨d, u, hd, hu⟩ := h
  rw [hu]
  intro heq
  obtain rfl := (List.cons.inj heq).1
  rcases hc with rfl | rfl
  exacts [hd.1 rfl, hd.2 rfl]

end Opens

theorem isBlank_of_isDigit {c : Char} (h : c.isDigit) : isBlank c = false := by
  by_contra hblank
  rw [not_isDigit_of_isBlank (by simpa using hblank)] at h
  cases h

theorem Denotes.opens {s : List Char} {j : Json} (h : Denotes s j) : Opens s := by
  induction h with
  | before blank h ih =>
    obtain ⟨c, t, hc, ht⟩ := ih
    exact ⟨c, t, hc, fun rest => (skip_cons_blank blank _).trans (ht rest)⟩
  | after blank h ih => exact ih.append _
  | null => exact .of_cons (by decide) (by decide) _
  | bool b =>
    cases b
    all_goals exact .of_cons (by decide) (by decide) _
  | @num digits nonempty all zero =>
    obtain ⟨d, ds, rfl⟩ := List.exists_cons_of_ne_nil nonempty
    have hd : d.isDigit := all d List.mem_cons_self
    refine .of_cons ⟨?_, ?_⟩ (isBlank_of_isDigit hd) ds
    · rintro rfl
      exact absurd hd (by decide)
    · rintro rfl
      exact absurd hd (by decide)
  | str | emptyArr | arr | emptyObj | obj => exact .of_cons (by decide) (by decide) _

theorem readBare_arr (items : List Char → Option (List Json × List Char))
    (members : List Char → Option (List (String × Json) × List Char)) {s t : List Char}
    {js : List Json} (hs : ∀ u, skip s ≠ ']' :: u) (h : items s = some (js, t)) :
    readBare items members ('[' :: s) = some (.arr js, t) := by
  rw [readBare]
  split
  · rename_i u hu
    exact absurd hu (hs u)
  · rw [h]
    rfl

theorem readBare_obj (items : List Char → Option (List Json × List Char))
    (members : List Char → Option (List (String × Json) × List Char)) {s t : List Char}
    {ms : List (String × Json)} (hs : ∀ u, skip s ≠ '\x7d' :: u)
    (h : members s = some (ms, t)) :
    readBare items members ('\x7b' :: s) = some (.obj ms, t) := by
  rw [readBare]
  split
  · rename_i u hu
    exact absurd hu (hs u)
  · rw [h]
    rfl

theorem readNumber_append {digits rest : List Char} (nonempty : digits ≠ [])
    (all : ∀ c ∈ digits, c.isDigit) (zero : digits.head? = some '0' → digits = ['0'])
    (edge : Edge rest) :
    readNumber (digits ++ rest) = some (.num (Nat.ofDigitChars 10 digits 0), rest) := by
  have hrest : rest.takeWhile (·.isDigit) = [] ∧ rest.dropWhile (·.isDigit) = rest := by
    cases rest with
    | nil => exact ⟨rfl, rfl⟩
    | cons c rest => simp [edge c rfl]
  rw [readNumber, List.takeWhile_append_of_pos all, List.dropWhile_append_of_pos all, hrest.1,
    hrest.2, List.append_nil, if_neg]
  rintro (h | ⟨h, h'⟩)
  · exact nonempty h
  · exact h' (zero h)

theorem readBare_of_isDigit (items : List Char → Option (List Json × List Char))
    (members : List Char → Option (List (String × Json) × List Char)) {d : Char}
    (h : d.isDigit) (s : List Char) : readBare items members (d :: s) = readNumber (d :: s) := by
  have hne : ∀ {c : Char} {t : List Char}, d :: s = c :: t → c.isDigit := by
    intro c t heq
    rw [← (List.cons.inj heq).1]
    exact h
  rw [readBare, readWord]
  all_goals
    intro t heq
    exact absurd (hne heq) (by decide)

theorem edge_cons {c : Char} (h : c.isDigit = false) (rest : List Char) : Edge (c :: rest) := by
  simpa [Edge] using h

/-- Whether a text is read as a document wherever it stands, given enough fuel. -/
def Reads (s : List Char) (j : Json) : Prop :=
  ∀ fuel rest, s.length < fuel → Edge rest → read fuel (s ++ rest) = some (j, skip rest)

theorem readItems_append {items : List Item} (nonempty : items ≠ [])
    (h : ∀ i ∈ items, Reads i.text i.value) (rest : List Char) : ∀ fuel,
    (Text.joinWith [','] (items.map (·.text))).length + 1 < fuel →
      readItems fuel (Text.joinWith [','] (items.map (·.text)) ++ ']' :: rest) =
        some (items.map (·.value), rest) := by
  -- The fuel must cover what is left of the text, of which every item takes its own text and the
  -- character after it.
  induction items with
  | nil => exact absurd rfl nonempty
  | cons i is ih =>
    rintro (_ | fuel) hfuel
    · cases hfuel
    rw [List.forall_mem_cons] at h
    by_cases his : is = []
    · subst his
      have hread := h.1 fuel (']' :: rest) (by simpa [Text.joinWith] using hfuel)
        (edge_cons (by decide) rest)
      rw [skip_cons (by decide)] at hread
      simp [readItems, Text.joinWith, hread]
    · rw [List.map_cons, Text.joinWith_cons _ (by simpa using his)] at hfuel ⊢
      rw [List.length_append, List.length_cons] at hfuel
      have hread := h.1 fuel
        (',' :: (Text.joinWith [','] (is.map (·.text)) ++ ']' :: rest)) (by omega)
        (edge_cons (by decide) _)
      rw [skip_cons (by decide)] at hread
      simp [readItems, hread, ih his h.2 fuel (by omega)]

theorem Member.length_whole (m : Member) :
    m.whole.length = m.keyText.length + m.text.length + 1 := by
  rw [Member.whole, List.length_append, List.length_cons, Nat.add_assoc]

theorem Member.whole_append (m : Member) (t : List Char) :
    m.whole ++ t = m.keyText ++ ':' :: (m.text ++ t) := by
  rw [Member.whole, List.append_assoc, List.cons_append]

theorem readMembers_append {members : List Member} (nonempty : members ≠ [])
    (keys : ∀ m ∈ members, Reads m.keyText (.str m.key))
    (values : ∀ m ∈ members, Reads m.text m.value) (rest : List Char) : ∀ fuel,
    (Text.joinWith [','] (members.map (·.whole))).length + 1 < fuel →
      readMembers fuel (Text.joinWith [','] (members.map (·.whole)) ++ '\x7d' :: rest) =
        some (members.map (fun m => (m.key, m.value)), rest) := by
  induction members with
  | nil => exact absurd rfl nonempty
  | cons m ms ih =>
    rintro (_ | fuel) hfuel
    · cases hfuel
    rw [List.forall_mem_cons] at keys values
    by_cases hms : ms = []
    · subst hms
      simp only [List.map_cons, List.map_nil, Text.joinWith, Member.length_whole] at hfuel
      have hkey := keys.1 fuel (':' :: (m.text ++ '\x7d' :: rest)) (by omega)
        (edge_cons (by decide) _)
      have hvalue := values.1 fuel ('\x7d' :: rest) (by omega) (edge_cons (by decide) rest)
      rw [skip_cons (by decide)] at hkey hvalue
      simp [readMembers, Text.joinWith, Member.whole_append, hkey, hvalue]
    · rw [List.map_cons, Text.joinWith_cons _ (by simpa using hms)] at hfuel ⊢
      simp only [List.length_append, List.length_cons, Member.length_whole] at hfuel
      have hkey := keys.1 fuel (':' :: (m.text ++
        ',' :: (Text.joinWith [','] (ms.map (·.whole)) ++ '\x7d' :: rest))) (by omega)
        (edge_cons (by decide) _)
      have hvalue := values.1 fuel
        (',' :: (Text.joinWith [','] (ms.map (·.whole)) ++ '\x7d' :: rest)) (by omega)
        (edge_cons (by decide) _)
      rw [skip_cons (by decide)] at hkey hvalue
      simp [readMembers, Member.whole_append, hkey, hvalue, ih hms keys.2 values.2 fuel (by omega)]

theorem read_congr {fuel : Nat} {s t : List Char} (h : skip s = skip t) :
    read fuel s = read fuel t := by
  cases fuel with
  | zero => rfl
  | succ fuel => rw [read, read, h]

theorem Reads.of_bare {c : Char} (hc : isBlank c = false) {s : List Char} {j : Json}
    (h : ∀ fuel rest, s.length < fuel → Edge rest →
      readBare (readItems fuel) (readMembers fuel) (c :: (s ++ rest)) = some (j, rest)) :
    Reads (c :: s) j := by
  rintro (_ | fuel) rest hfuel edge
  · cases hfuel
  · rw [read, List.cons_append, skip_cons hc, h fuel rest (Nat.lt_of_succ_lt_succ hfuel) edge]
    rfl

theorem Denotes.reads {s : List Char} {j : Json} (h : Denotes s j) : Reads s j := by
  induction h with
  | before blank h ih =>
    intro fuel rest hfuel edge
    rw [List.length_cons] at hfuel
    rw [← ih fuel rest (by omega) edge]
    exact read_congr (skip_cons_blank blank _)
  | @after c blank text _ h ih =>
    intro fuel rest hfuel edge
    rw [List.length_append] at hfuel
    rw [List.append_assoc, ← skip_cons_blank blank rest]
    exact ih fuel (c :: rest) (by omega) (edge_cons (not_isDigit_of_isBlank blank) rest)
  | null => exact .of_bare (by decide) fun fuel rest hfuel edge => rfl
  | bool b =>
    cases b
    · exact .of_bare (by decide) fun fuel rest hfuel edge => rfl
    · exact .of_bare (by decide) fun fuel rest hfuel edge => rfl
  | @num digits nonempty all zero =>
    obtain ⟨d, ds, rfl⟩ := List.exists_cons_of_ne_nil nonempty
    have hd : d.isDigit := all d List.mem_cons_self
    refine .of_bare (isBlank_of_isDigit hd) fun fuel rest hfuel edge => ?_
    rw [readBare_of_isDigit _ _ hd]
    exact readNumber_append nonempty all zero edge
  | @str text chars h =>
    rw [List.cons_append]
    refine .of_bare (by decide) fun fuel rest hfuel edge => ?_
    have hstring := readString_append h rest (text.length + (rest.length + 1) + 1) (by omega)
    simp [readBare, hstring]
  | emptyArr h =>
    rw [List.cons_append]
    refine .of_bare (by decide) fun fuel rest hfuel edge => ?_
    simp [readBare, skip_append h, skip_cons (show isBlank ']' = false by decide)]
  | @arr items nonempty h ih =>
    rw [List.cons_append]
    refine .of_bare (by decide) fun fuel rest hfuel edge => ?_
    have hitems := readItems_append nonempty ih rest fuel (by simpa using hfuel)
    obtain ⟨i, is, rfl⟩ := List.exists_cons_of_ne_nil nonempty
    have hopens := (h i List.mem_cons_self).opens.joinWith (is.map (·.text))
    rw [List.append_assoc]
    exact readBare_arr _ _ (hopens.skip_ne (.inl rfl) _) hitems
  | emptyObj h =>
    rw [List.cons_append]
    refine .of_bare (by decide) fun fuel rest hfuel edge => ?_
    simp [readBare, skip_append h, skip_cons (show isBlank '\x7d' = false by decide)]
  | @obj members nonempty keys values ihkeys ihvalues =>
    rw [List.cons_append]
    refine .of_bare (by decide) fun fuel rest hfuel edge => ?_
    have hmembers := readMembers_append nonempty ihkeys ihvalues rest fuel (by simpa using hfuel)
    obtain ⟨m, ms, rfl⟩ := List.exists_cons_of_ne_nil nonempty
    have hopens := ((keys m List.mem_cons_self).opens.append (':' :: m.text)).joinWith
      (ms.map (·.whole))
    rw [List.append_assoc]
    exact readBare_obj _ _ (hopens.skip_ne (.inr rfl) _) hmembers

theorem read?_eq_some_iff {text : String} {j : Json} :
    read? text = some j ↔ Denotes text.toList j := by
  refine ⟨denotes_of_read?_eq_some, fun h => ?_⟩
  have hread := h.reads (text.toList.length + 1) [] (Nat.lt_succ_self _) nofun
  rw [List.append_nil] at hread
  rw [read?, hread]
  rfl

theorem Denotes.unique {s : List Char} {j k : Json} (hj : Denotes s j) (hk : Denotes s k) :
    j = k := by
  rw [← String.toList_ofList (l := s)] at hj hk
  rw [← read?_eq_some_iff] at hj hk
  exact Option.some.inj (hj.symm.trans hk)

end Readiness.Json
