import Readiness.Json
import Readiness.Proofs.Text.Pieces

/-!
# The grammar of JSON texts

Which texts are written forms of a document: blanks may stand around every value, strings may escape
any character, and numbers are natural numbers without leading zeros. A document has many written
forms; its indented text is one of them.

* `Json.Denotes` : a text is a written form of a document.
* `Json.denotes_pretty` : the indented text is.
* `Json.Denotes.le_of_mem_insideStrings` : no control character stands in the strings of a written
  form.
-/

namespace Readiness.Json

/-! ## Strings -/

/-- The value of a hexadecimal digit. -/
def hexValue? (c : Char) : Option Nat :=
  if '0' ≤ c ∧ c ≤ '9' then some (c.toNat - 48)
  else if 'a' ≤ c ∧ c ≤ 'f' then some (c.toNat - 87)
  else if 'A' ≤ c ∧ c ≤ 'F' then some (c.toNat - 55)
  else none

/-- The value of four hexadecimal digits. -/
def unit? (a b c d : Char) : Option Nat := do
  let a ← hexValue? a
  let b ← hexValue? b
  let c ← hexValue? c
  let d ← hexValue? d
  some (((a * 16 + b) * 16 + c) * 16 + d)

/-- The character that a backslash and a letter stand for. -/
def shortEscape? : Char → Option Char
  | '"' => some '"'
  | '\\' => some '\\'
  | '/' => some '/'
  | 'b' => some '\x08'
  | 'f' => some '\x0c'
  | 'n' => some '\n'
  | 'r' => some '\r'
  | 't' => some '\t'
  | _ => none

/-- Whether a number is the first or the second half of a surrogate pair. -/
def isHighHalf (n : Nat) : Bool := 0xD800 ≤ n && n < 0xDC00

def isLowHalf (n : Nat) : Bool := 0xDC00 ≤ n && n < 0xE000

/-- The character whose number has the two halves. -/
def ofHalves (high low : Nat) : Char :=
  Char.ofNat (0x10000 + (high - 0xD800) * 0x400 + (low - 0xDC00))

/-- Whether a text stands for a character of a string. -/
inductive CharText : List Char → Char → Prop where
  | plain {c : Char} (control : 0x20 ≤ c.toNat) (quote : c ≠ '"') (backslash : c ≠ '\\') :
      CharText [c] c
  | short {e c : Char} (escape : shortEscape? e = some c) : CharText ['\\', e] c
  /-- A character by its number. -/
  | unit {a b c d : Char} {n : Nat} (value : unit? a b c d = some n)
      (high : isHighHalf n = false) (low : isLowHalf n = false) :
      CharText ['\\', 'u', a, b, c, d] (Char.ofNat n)
  /-- A character by the two halves of its number. -/
  | pair {a b c d a' b' c' d' : Char} {n m : Nat} (value : unit? a b c d = some n)
      (high : isHighHalf n) (value' : unit? a' b' c' d' = some m) (low : isLowHalf m) :
      CharText ['\\', 'u', a, b, c, d, '\\', 'u', a', b', c', d'] (ofHalves n m)

/-- Whether a text stands for the characters between the quotes of a string. -/
inductive StringBody : (text chars : List Char) → Prop where
  | nil : StringBody [] []
  | cons {x : List Char} {c : Char} (h : CharText x c) {text chars : List Char}
      (hs : StringBody text chars) : StringBody (x ++ text) (c :: chars)

/-! ## Documents -/

/-- The characters that may stand around a value. -/
def isBlank (c : Char) : Bool := c == ' ' || c == '\t' || c == '\n' || c == '\r'

/-- A value with its text. -/
structure Item where
  text : List Char
  value : Json

/-- A member of an object with the texts of its key and its value. -/
structure Member where
  keyText : List Char
  key : String
  text : List Char
  value : Json

def Member.whole (m : Member) : List Char := m.keyText ++ ':' :: m.text

/-- Whether a text is a written form of a document. -/
inductive Denotes : (text : List Char) → Json → Prop where
  | before {c : Char} (blank : isBlank c) {text : List Char} {j : Json} (h : Denotes text j) :
      Denotes (c :: text) j
  | after {c : Char} (blank : isBlank c) {text : List Char} {j : Json} (h : Denotes text j) :
      Denotes (text ++ [c]) j
  | null : Denotes ['n', 'u', 'l', 'l'] .null
  | bool (b : Bool) :
      Denotes (if b then ['t', 'r', 'u', 'e'] else ['f', 'a', 'l', 's', 'e']) (.bool b)
  | num {digits : List Char} (nonempty : digits ≠ []) (all : ∀ c ∈ digits, c.isDigit)
      (zero : digits.head? = some '0' → digits = ['0']) :
      Denotes digits (.num (Nat.ofDigitChars 10 digits 0))
  | str {text chars : List Char} (h : StringBody text chars) :
      Denotes ('"' :: text ++ ['"']) (.str (String.ofList chars))
  | emptyArr {blanks : List Char} (h : ∀ c ∈ blanks, isBlank c) :
      Denotes ('[' :: blanks ++ [']']) (.arr [])
  | arr {items : List Item} (nonempty : items ≠ []) (h : ∀ i ∈ items, Denotes i.text i.value) :
      Denotes ('[' :: Text.joinWith [','] (items.map (·.text)) ++ [']'])
        (.arr (items.map (·.value)))
  | emptyObj {blanks : List Char} (h : ∀ c ∈ blanks, isBlank c) :
      Denotes ('\x7b' :: blanks ++ ['\x7d']) (.obj [])
  | obj {members : List Member} (nonempty : members ≠ [])
      (keys : ∀ m ∈ members, Denotes m.keyText (.str m.key))
      (values : ∀ m ∈ members, Denotes m.text m.value) :
      Denotes ('\x7b' :: Text.joinWith [','] (members.map (·.whole)) ++ ['\x7d'])
        (.obj (members.map fun m => (m.key, m.value)))

namespace Denotes
variable {s : List Char} {j : Json}

theorem before_all {blanks : List Char} (h : ∀ c ∈ blanks, isBlank c) (hs : Denotes s j) :
    Denotes (blanks ++ s) j := by
  induction blanks with
  | nil => exact hs
  | cons c blanks ih =>
    rw [List.forall_mem_cons] at h
    exact .before h.1 (ih h.2)

theorem after_all {blanks : List Char} (h : ∀ c ∈ blanks, isBlank c) (hs : Denotes s j) :
    Denotes (s ++ blanks) j := by
  induction blanks using List.reverseRecOn with
  | nil => rwa [List.append_nil]
  | append_singleton blanks c ih =>
    rw [List.forall_mem_append] at h
    rw [← List.append_assoc]
    exact .after (h.2 c (List.mem_singleton.mpr rfl)) (ih h.1)

theorem arr_blanks {items : List Item} (nonempty : items ≠ [])
    (h : ∀ i ∈ items, Denotes i.text i.value) {blanks : List Char} (hb : ∀ c ∈ blanks, isBlank c) :
    Denotes ('[' :: (Text.joinWith [','] (items.map (·.text)) ++ blanks) ++ [']'])
      (.arr (items.map (·.value))) := by
  obtain ⟨init, last, rfl⟩ := (List.eq_nil_or_concat' items).resolve_left nonempty
  rw [List.forall_mem_append, List.forall_mem_singleton] at h
  have hlast := @Denotes.arr (init ++ [⟨last.text ++ blanks, last.value⟩]) (by simp)
    (List.forall_mem_append.mpr ⟨h.1, List.forall_mem_singleton.mpr (h.2.after_all hb)⟩)
  simpa only [List.map_append, List.map_cons, List.map_nil, Text.joinWith_concat_append] using hlast

theorem obj_blanks {members : List Member} (nonempty : members ≠ [])
    (keys : ∀ m ∈ members, Denotes m.keyText (.str m.key))
    (values : ∀ m ∈ members, Denotes m.text m.value) {blanks : List Char}
    (hb : ∀ c ∈ blanks, isBlank c) :
    Denotes ('\x7b' :: (Text.joinWith [','] (members.map (·.whole)) ++ blanks) ++ ['\x7d'])
      (.obj (members.map fun m => (m.key, m.value))) := by
  obtain ⟨init, last, rfl⟩ := (List.eq_nil_or_concat' members).resolve_left nonempty
  rw [List.forall_mem_append, List.forall_mem_singleton] at keys values
  have hlast := @Denotes.obj
    (init ++ [⟨last.keyText, last.key, last.text ++ blanks, last.value⟩]) (by simp)
    (List.forall_mem_append.mpr ⟨keys.1, List.forall_mem_singleton.mpr keys.2⟩)
    (List.forall_mem_append.mpr ⟨values.1, List.forall_mem_singleton.mpr (values.2.after_all hb)⟩)
  simpa only [List.map_append, List.map_cons, List.map_nil, Text.joinWith_concat_append,
    Member.whole, List.append_assoc, List.cons_append] using hlast

end Denotes

/-! ## The indented text -/

@[elab_as_elim]
theorem inductionOn {P : Json → Prop} (null : P .null) (bool : ∀ b, P (.bool b))
    (num : ∀ n, P (.num n)) (str : ∀ s, P (.str s))
    (arr : ∀ items, (∀ j ∈ items, P j) → P (.arr items))
    (obj : ∀ members, (∀ m ∈ members, P m.2) → P (.obj members)) (j : Json) : P j :=
  @Json.rec P (fun items => ∀ j ∈ items, P j) (fun members => ∀ m ∈ members, P m.2)
    (fun m => P m.2) null bool num str arr obj (by simp)
    (fun _ _ hj hjs _ h => (List.mem_cons.mp h).elim (fun heq => heq ▸ hj) (hjs _)) (by simp)
    (fun _ _ hm hms _ h => (List.mem_cons.mp h).elim (fun heq => heq ▸ hm) (hms _))
    (fun _ _ h => h) j

theorem hexValue?_hexDigit {n : Nat} (h : n < 16) : hexValue? (hexDigit n) = some n := by
  revert n
  decide

theorem charText_escapeChar (c : Char) : CharText (escapeChar c) c := by
  unfold escapeChar
  split_ifs with h₁ h₂ h₃ h₄ h₅ h₆ h₇ h₈
  · exact .short (by rw [beq_iff_eq.mp h₁]; rfl)
  · exact .short (by rw [beq_iff_eq.mp h₂]; rfl)
  · exact .short (by rw [beq_iff_eq.mp h₃]; rfl)
  · exact .short (by rw [beq_iff_eq.mp h₄]; rfl)
  · exact .short (by rw [beq_iff_eq.mp h₅]; rfl)
  · exact .short (by rw [beq_iff_eq.mp h₆]; rfl)
  · exact .short (by rw [beq_iff_eq.mp h₇]; rfl)
  · have hvalue : unit? '0' '0' (hexDigit (c.toNat / 16)) (hexDigit (c.toNat % 16)) =
        some c.toNat := by
      have hzero : hexValue? '0' = some 0 := by decide
      simp only [unit?, hzero, hexValue?_hexDigit (show c.toNat / 16 < 16 by omega),
        hexValue?_hexDigit (show c.toNat % 16 < 16 by omega), Option.bind_eq_bind,
        Option.bind_some]
      congr 1
      omega
    have hhigh : isHighHalf c.toNat = false := by
      simp only [isHighHalf, Bool.and_eq_false_iff, decide_eq_false_iff_not]
      omega
    have hlow : isLowHalf c.toNat = false := by
      simp only [isLowHalf, Bool.and_eq_false_iff, decide_eq_false_iff_not]
      omega
    simpa [Char.ofNat_toNat] using CharText.unit hvalue hhigh hlow
  · exact .plain (Nat.not_lt.mp h₈) (by simpa using h₁) (by simpa using h₂)

theorem denotes_quoted (s : String) : Denotes (quoted s) (.str s) := by
  have hbody : ∀ cs : List Char, StringBody (cs.flatMap escapeChar) cs := by
    intro cs
    induction cs with
    | nil => exact .nil
    | cons c cs ih => exact .cons (charText_escapeChar c) ih
  simpa [quoted] using Denotes.str (hbody s.toList)

theorem head?_toDigits (n : Nat) :
    (Nat.toDigits 10 n).head? = some '0' → Nat.toDigits 10 n = ['0'] := by
  induction n using Nat.strong_induction_on with
  | _ n ih =>
    by_cases hn : n < 10
    · rw [Nat.toDigits_of_lt_base hn]
      simp
    · have hn : 10 ≤ n := Nat.not_lt.mp hn
      rw [Nat.toDigits_of_base_le (by decide) hn, List.head?_append_of_ne_nil _ Nat.toDigits_ne_nil]
      intro hzero
      -- The digits before the last one are those of a positive number.
      have hlead := ih (n / 10) (by omega) hzero
      have hvalue : n / 10 = 0 := by
        rw [← @Nat.ofDigitChars_ten_toDigits (n / 10), hlead]
        decide
      omega

theorem denotes_repr (n : Nat) : Denotes n.repr.toList (.num n) := by
  rw [Nat.toList_repr]
  have h := Denotes.num Nat.toDigits_ne_nil
    (fun c hc => Nat.isDigit_of_mem_toDigits (by decide) (by decide) hc) (head?_toDigits n)
  rwa [Nat.ofDigitChars_ten_toDigits] at h

theorem isBlank_of_mem_newLine {level : Nat} : ∀ c ∈ newLine level, isBlank c := by
  intro c hc
  rcases List.mem_cons.mp hc with rfl | hc
  · decide
  · rw [(List.mem_replicate.mp hc).2]
    decide

/-- An item of an array as it stands in its indented text. -/
def indentedItem (level : Nat) (j : Json) : Item :=
  ⟨newLine (level + 1) ++ render (level + 1) j, j⟩

/-- A member of an object as it stands in its indented text. -/
def indentedMember (level : Nat) (m : String × Json) : Member :=
  ⟨newLine (level + 1) ++ quoted m.1, m.1, ' ' :: render (level + 1) m.2, m.2⟩

theorem append_renderItems (level : Nat) (j : Json) (js : List Json) :
    newLine (level + 1) ++ render (level + 1) j ++ renderItems level js =
      Text.joinWith [','] ((j :: js).map fun i => (indentedItem level i).text) ++ newLine level ++
        [']'] := by
  induction js generalizing j with
  | nil => simp [renderItems, Text.joinWith, indentedItem]
  | cons k ks ih =>
    have htail := congrArg (fun t => (indentedItem level j).text ++ ',' :: t) (ih k)
    rw [renderItems, List.map_cons, Text.joinWith_cons _ (by simp)]
    simpa [indentedItem] using htail

theorem append_renderMembers (level : Nat) (m : String × Json) (ms : List (String × Json)) :
    newLine (level + 1) ++ quoted m.1 ++ ':' :: ' ' :: render (level + 1) m.2 ++
        renderMembers level ms =
      Text.joinWith [','] ((m :: ms).map fun i => (indentedMember level i).whole) ++
        newLine level ++ ['\x7d'] := by
  induction ms generalizing m with
  | nil => simp [renderMembers, Text.joinWith, indentedMember, Member.whole]
  | cons n ns ih =>
    have htail := congrArg (fun t => (indentedMember level m).whole ++ ',' :: t) (ih n)
    rw [renderMembers, List.map_cons, Text.joinWith_cons _ (by simp)]
    simpa [indentedMember, Member.whole] using htail

theorem denotes_render (j : Json) : ∀ level, Denotes (render level j) j := by
  induction j using inductionOn with
  | null => exact fun level => .null
  | bool b =>
    intro level
    cases b
    exacts [.bool false, .bool true]
  | num n => exact fun level => denotes_repr n
  | str s => exact fun level => denotes_quoted s
  | arr items ih =>
    intro level
    cases items with
    | nil => exact @Denotes.emptyArr [] (by simp)
    | cons j js =>
      have h := @Denotes.arr_blanks ((j :: js).map (indentedItem level)) (by simp)
        (List.forall_mem_map.mpr fun i hi =>
          (ih i hi (level + 1)).before_all isBlank_of_mem_newLine) _
        (@isBlank_of_mem_newLine level)
      rw [render, List.cons_append, List.cons_append, append_renderItems]
      simpa [Function.comp_def, indentedItem] using h
  | obj members ih =>
    intro level
    cases members with
    | nil => exact @Denotes.emptyObj [] (by simp)
    | cons m ms =>
      have h := @Denotes.obj_blanks ((m :: ms).map (indentedMember level)) (by simp)
        (List.forall_mem_map.mpr fun i hi =>
          (denotes_quoted i.1).before_all isBlank_of_mem_newLine)
        (List.forall_mem_map.mpr fun i hi => .before (by decide) (ih i hi (level + 1))) _
        (@isBlank_of_mem_newLine level)
      have hwhole := append_renderMembers level m ms
      simp only [List.append_assoc, List.cons_append] at hwhole
      rw [render]
      simp only [List.append_assoc, List.cons_append, hwhole]
      simpa [Function.comp_def, indentedMember] using h

theorem denotes_pretty (j : Json) : Denotes j.pretty.toList j := by
  simpa [pretty] using denotes_render j 0

/-! ## What stands in the strings of a text -/

/-- The characters of a text that stand between the quotes of a string, escapes as they are
written. The flag says whether the text begins in a string. -/
def insideStrings : (inside : Bool) → List Char → List Char
  | _, [] => []
  | false, c :: s => insideStrings (c == '"') s
  | true, '\\' :: c :: s => '\\' :: c :: insideStrings true s
  | true, c :: s => if c = '"' then insideStrings false s else c :: insideStrings true s

/-- Whether a text adds no control character to the strings of a text that it stands before. -/
def Clean (inside : Bool) (s : List Char) : Prop :=
  ∀ rest, ∃ chars, (∀ c ∈ chars, 0x20 ≤ c.toNat) ∧
    insideStrings inside (s ++ rest) = chars ++ insideStrings inside rest

namespace Clean
variable {inside : Bool} {s t : List Char}

theorem nil : Clean inside [] := fun rest => ⟨[], by simp, rfl⟩

theorem append (hs : Clean inside s) (ht : Clean inside t) : Clean inside (s ++ t) := by
  intro rest
  obtain ⟨chars, hchars, hs⟩ := hs (t ++ rest)
  obtain ⟨others, hothers, ht⟩ := ht rest
  refine ⟨chars ++ others, List.forall_mem_append.mpr ⟨hchars, hothers⟩, ?_⟩
  rw [List.append_assoc, hs, ht, List.append_assoc]

theorem outside {c : Char} (h : c ≠ '"') : Clean false [c] :=
  fun rest => ⟨[], by simp, by simp [insideStrings, beq_eq_false_iff_ne.mpr h]⟩

theorem outside_all (h : ∀ c ∈ s, c ≠ '"') : Clean false s := by
  induction s with
  | nil => exact nil
  | cons c s ih =>
    rw [List.forall_mem_cons] at h
    exact (outside h.1).append (ih h.2)

theorem plain {c : Char} (control : 0x20 ≤ c.toNat) (quote : c ≠ '"') (backslash : c ≠ '\\') :
    Clean true [c] := by
  intro rest
  refine ⟨[c], by simpa using control, ?_⟩
  rw [List.singleton_append, insideStrings.eq_4, if_neg quote]
  · rfl
  · exact fun _ _ h => absurd h backslash

theorem plain_all (h : ∀ c ∈ s, 0x20 ≤ c.toNat ∧ c ≠ '"' ∧ c ≠ '\\') : Clean true s := by
  induction s with
  | nil => exact nil
  | cons c s ih =>
    rw [List.forall_mem_cons] at h
    exact (plain h.1.1 h.1.2.1 h.1.2.2).append (ih h.2)

theorem escape {c : Char} (control : 0x20 ≤ c.toNat) : Clean true ['\\', c] :=
  fun rest => ⟨['\\', c], by simpa using control, by simp [insideStrings]⟩

theorem quoted (h : Clean true s) : Clean false ('"' :: s ++ ['"']) := by
  intro rest
  obtain ⟨chars, hchars, hs⟩ := h ('"' :: rest)
  refine ⟨chars, hchars, ?_⟩
  simpa [insideStrings] using hs

theorem joinWith {pieces : List (List Char)} (h : ∀ p ∈ pieces, Clean false p) :
    Clean false (Text.joinWith [','] pieces) := by
  induction pieces with
  | nil => exact nil
  | cons p ps ih =>
    rw [List.forall_mem_cons] at h
    by_cases hps : ps = []
    · subst hps
      exact h.1
    · rw [Text.joinWith_cons p hps]
      exact h.1.append ((outside (by decide)).append (ih h.2))

theorem between {c d : Char} (hc : c ≠ '"') (h : Clean false s) (hd : d ≠ '"') :
    Clean false (c :: s ++ [d]) :=
  ((outside hc).append h).append (outside hd)

end Clean

theorem unit?_plain {a b c d : Char} {n : Nat} (h : unit? a b c d = some n) :
    ∀ x ∈ [a, b, c, d], 0x20 ≤ x.toNat ∧ x ≠ '"' ∧ x ≠ '\\' := by
  have hdigit : ∀ {x : Char} {v : Nat}, hexValue? x = some v →
      0x20 ≤ x.toNat ∧ x ≠ '"' ∧ x ≠ '\\' := by
    intro x v hx
    refine ⟨?_, ?_, ?_⟩
    · simp only [hexValue?, Char.le_def, UInt32.le_iff_toNat_le] at hx
      simp only [Char.toNat]
      split_ifs at hx with h₁ h₂ h₃
      · exact le_trans (by decide) h₁.1
      · exact le_trans (by decide) h₂.1
      · exact le_trans (by decide) h₃.1
    · rintro rfl
      simp [hexValue?] at hx
    · rintro rfl
      simp [hexValue?] at hx
  simp only [unit?, Option.bind_eq_bind, Option.bind_eq_some_iff] at h
  obtain ⟨va, ha, vb, hb, vc, hc, vd, hd, -⟩ := h
  simpa using ⟨hdigit ha, hdigit hb, hdigit hc, hdigit hd⟩

theorem shortEscape?_spec {e c : Char} (h : shortEscape? e = some c) : 0x20 ≤ e.toNat := by
  unfold shortEscape? at h
  split at h
  case h_9 => cases h
  all_goals decide

theorem CharText.clean {x : List Char} {c : Char} (h : CharText x c) : Clean true x := by
  cases h with
  | plain control quote backslash => exact .plain control quote backslash
  | short escape => exact .escape (shortEscape?_spec escape)
  | unit value high low =>
    exact (Clean.escape (by decide)).append (.plain_all (unit?_plain value))
  | pair value high value' low =>
    exact (Clean.escape (by decide)).append ((Clean.plain_all (unit?_plain value)).append
      ((Clean.escape (by decide)).append (.plain_all (unit?_plain value'))))

theorem StringBody.clean {text chars : List Char} (h : StringBody text chars) :
    Clean true text := by
  induction h with
  | nil => exact .nil
  | cons h hs ih => exact h.clean.append ih

theorem Denotes.clean {s : List Char} {j : Json} (h : Denotes s j) : Clean false s := by
  have hblank : ∀ {c : Char}, isBlank c → c ≠ '"' := by
    rintro c hc rfl
    exact absurd hc (by decide)
  induction h with
  | before blank h ih => exact (Clean.outside (hblank blank)).append ih
  | after blank h ih => exact ih.append (.outside (hblank blank))
  | null => exact .outside_all (by simp)
  | bool b =>
    cases b
    all_goals exact .outside_all (by simp)
  | num nonempty all zero =>
    refine .outside_all fun c hc => ?_
    rintro rfl
    exact absurd (all _ hc) (by decide)
  | str h => exact .quoted h.clean
  | emptyArr h => exact .between (by decide) (.outside_all fun c hc => hblank (h c hc)) (by decide)
  | arr nonempty h ih =>
    exact .between (by decide) (.joinWith (List.forall_mem_map.mpr ih)) (by decide)
  | emptyObj h => exact .between (by decide) (.outside_all fun c hc => hblank (h c hc)) (by decide)
  | obj nonempty keys values ihkeys ihvalues =>
    refine .between (by decide) (.joinWith (List.forall_mem_map.mpr fun m hm => ?_)) (by decide)
    exact (ihkeys m hm).append ((Clean.outside (by decide)).append (ihvalues m hm))

theorem Denotes.le_of_mem_insideStrings {s : List Char} {j : Json} (h : Denotes s j) :
    ∀ c ∈ insideStrings false s, 0x20 ≤ c.toNat := by
  obtain ⟨chars, hchars, hs⟩ := h.clean []
  rw [List.append_nil] at hs
  rw [hs, insideStrings, List.append_nil]
  exact hchars

end Readiness.Json
