import Readiness.Proofs.Text.ByteOrder

/-!
# Decoding damaged bytes

A character is read where its UTF-8 form stands, and a byte is dropped where none stands. What is
read does not depend on what was damaged before, so bytes may be cut before any byte that begins a
character and behind any text, and each part decodes by itself.

* `Utf8.first?_eq_none_iff`, `Utf8.first?_encodeChar` : the tables of bytes tell where a character
  stands.
* `Utf8.Reads`, `Utf8.reads_iff` : decoding without tables.
* `Utf8.decode_append` : where bytes may be cut.
* `Utf8.decode_isLenient` : what a damaged text decodes to.
-/

namespace Readiness.Utf8

variable {a b c d x : UInt8} {bytes front rest junk : List UInt8} {s : List Char} {ch : Char}
  {n : Nat}

/-! ## The bytes of a character -/

theorem isTail_iff : isTail b ↔ 0x80 ≤ b.toNat ∧ b.toNat ≤ 0xBF := by
  simp [isTail, UInt8.le_iff_toNat_le]

theorem not_isTail_iff : ¬ isTail b ↔ b < 0x80 ∨ 0xBF < b := by
  simp [isTail, imp_iff_not_or]

theorem isPair_iff : isPair a b ↔ 0xC2 ≤ a.toNat ∧ a.toNat ≤ 0xDF ∧ isTail b := by
  simp [isPair, UInt8.le_iff_toNat_le, and_assoc]

theorem isTriple_iff : isTriple a b c ↔ isTail b ∧ isTail c ∧
    (a.toNat = 0xE0 ∧ 0xA0 ≤ b.toNat ∨ a.toNat = 0xED ∧ b.toNat ≤ 0x9F ∨
      0xE1 ≤ a.toNat ∧ a.toNat ≤ 0xEF ∧ a.toNat ≠ 0xED) := by
  simp [isTriple, UInt8.le_iff_toNat_le, ← UInt8.toNat_inj, and_assoc, or_assoc]

theorem isQuadruple_iff : isQuadruple a b c d ↔ isTail b ∧ isTail c ∧ isTail d ∧
    (a.toNat = 0xF0 ∧ 0x90 ≤ b.toNat ∨ a.toNat = 0xF4 ∧ b.toNat ≤ 0x8F ∨
      0xF1 ≤ a.toNat ∧ a.toNat ≤ 0xF3) := by
  simp [isQuadruple, UInt8.le_iff_toNat_le, ← UInt8.toNat_inj, and_assoc, or_assoc]

theorem encodeChar_ofNat (hn : n.isValidChar) :
    encodeChar (Char.ofNat n) = (units n).map UInt8.ofNat := by
  rw [encodeChar_eq, Char.toNat_ofNat, if_pos hn]

theorem encodeChar_eq_utf8EncodeChar (ch : Char) : encodeChar ch = String.utf8EncodeChar ch := by
  have hlt : ch.val.toNat < 0x110000 := toNat_lt ch
  rw [encodeChar_eq, show ch.toNat = ch.val.toNat from rfl]
  simp only [units, String.utf8EncodeChar]
  generalize ch.val.toNat = n at hlt
  split_ifs <;> try omega
  all_goals simp only [List.map_cons, List.map_nil, List.cons.injEq, and_true]
  · refine ⟨congrArg _ ?_, congrArg _ ?_⟩ <;> omega
  · refine ⟨congrArg _ ?_, congrArg _ ?_, congrArg _ ?_⟩ <;> omega
  · refine ⟨congrArg _ ?_, congrArg _ ?_, congrArg _ ?_, congrArg _ ?_⟩ <;> omega

theorem ofNat_eq (h : n = a.toNat) : UInt8.ofNat n = a := by
  rw [h, UInt8.ofNat_toNat]

theorem encodeChar_single (h : a.toNat < 0x80) : encodeChar (Char.ofNat a.toNat) = [a] := by
  have hvalid : a.toNat.isValidChar := .inl (by omega)
  rw [encodeChar_ofNat hvalid, units, if_pos h, List.map_singleton, UInt8.ofNat_toNat]

theorem encodeChar_pair (h : isPair a b) :
    encodeChar (Char.ofNat ((a.toNat - 0xC0) * 0x40 + tailBits b)) = [a, b] := by
  obtain ⟨h1, h2, hb⟩ := isPair_iff.mp h
  rw [isTail_iff] at hb
  have hvalid : ((a.toNat - 0xC0) * 0x40 + tailBits b).isValidChar := by
    unfold Nat.isValidChar tailBits
    omega
  unfold tailBits at hvalid ⊢
  rw [encodeChar_ofNat hvalid, units, if_neg (by omega), if_pos (by omega)]
  simp only [List.map_cons, List.map_nil, List.cons.injEq, and_true]
  refine ⟨ofNat_eq ?_, ofNat_eq ?_⟩ <;> omega

theorem encodeChar_triple (h : isTriple a b c) :
    encodeChar (Char.ofNat ((a.toNat - 0xE0) * 0x1000 + tailBits b * 0x40 + tailBits c)) =
      [a, b, c] := by
  obtain ⟨hb, hc, hlead⟩ := isTriple_iff.mp h
  rw [isTail_iff] at hb hc
  have hvalid : ((a.toNat - 0xE0) * 0x1000 + tailBits b * 0x40 + tailBits c).isValidChar := by
    unfold Nat.isValidChar tailBits
    omega
  unfold tailBits at hvalid ⊢
  rw [encodeChar_ofNat hvalid, units, if_neg (by omega), if_neg (by omega),
    if_pos (by omega)]
  simp only [List.map_cons, List.map_nil, List.cons.injEq, and_true]
  refine ⟨ofNat_eq ?_, ofNat_eq ?_, ofNat_eq ?_⟩ <;> omega

theorem encodeChar_quadruple (h : isQuadruple a b c d) :
    encodeChar (Char.ofNat ((a.toNat - 0xF0) * 0x40000 + tailBits b * 0x1000 +
      tailBits c * 0x40 + tailBits d)) = [a, b, c, d] := by
  obtain ⟨hb, hc, hd, hlead⟩ := isQuadruple_iff.mp h
  rw [isTail_iff] at hb hc hd
  have hvalid : ((a.toNat - 0xF0) * 0x40000 + tailBits b * 0x1000 + tailBits c * 0x40 +
      tailBits d).isValidChar := by
    unfold Nat.isValidChar tailBits
    omega
  unfold tailBits at hvalid ⊢
  rw [encodeChar_ofNat hvalid, units, if_neg (by omega),
    if_neg (by omega), if_neg (by omega)]
  simp only [List.map_cons, List.map_nil, List.cons.injEq, and_true]
  refine ⟨ofNat_eq ?_, ofNat_eq ?_, ofNat_eq ?_, ofNat_eq ?_⟩ <;> omega

theorem encodeChar_cases (ch : Char) :
    (∃ a : UInt8, a.toNat < 0x80 ∧ encodeChar ch = [a]) ∨
      (∃ a b, isPair a b ∧ encodeChar ch = [a, b]) ∨
      (∃ a b c, isTriple a b c ∧ encodeChar ch = [a, b, c]) ∨
      ∃ a b c d, isQuadruple a b c d ∧ encodeChar ch = [a, b, c, d] := by
  have hvalid : ch.toNat.isValidChar := ch.valid
  rw [Nat.isValidChar] at hvalid
  rw [encodeChar_eq, units]
  split_ifs with h1 h2 h3
  · refine .inl ⟨_, ?_, rfl⟩
    rw [UInt8.toNat_ofNat']
    omega
  · refine .inr (.inl ⟨_, _, isPair_iff.mpr ?_, rfl⟩)
    simp only [isTail_iff, UInt8.toNat_ofNat']
    omega
  · refine .inr (.inr (.inl ⟨_, _, _, isTriple_iff.mpr ?_, rfl⟩))
    simp only [isTail_iff, UInt8.toNat_ofNat']
    omega
  · refine .inr (.inr (.inr ⟨_, _, _, _, isQuadruple_iff.mpr ?_, rfl⟩))
    simp only [isTail_iff, UInt8.toNat_ofNat']
    omega

theorem exists_encodeChar_eq_cons (ch : Char) :
    ∃ a tail, encodeChar ch = a :: tail ∧ isTail a = false ∧ ∀ b ∈ tail, isTail b := by
  have hlead : ∀ {a : UInt8}, a.toNat < 0x80 ∨ 0xC0 ≤ a.toNat → isTail a = false := by
    intro a ha
    rw [← Bool.not_eq_true, isTail_iff]
    omega
  obtain ⟨a, ha, h⟩ | ⟨a, b, ha, h⟩ | ⟨a, b, c, ha, h⟩ | ⟨a, b, c, d, ha, h⟩ :=
    encodeChar_cases ch
  · exact ⟨a, [], h, hlead (.inl ha), by simp⟩
  · obtain ⟨h1, -, hb⟩ := isPair_iff.mp ha
    exact ⟨a, [b], h, hlead (.inr (by omega)), by simp [hb]⟩
  · obtain ⟨hb, hc, h1⟩ := isTriple_iff.mp ha
    exact ⟨a, [b, c], h, hlead (.inr (by omega)), by simp [hb, hc]⟩
  · obtain ⟨hb, hc, hd, h1⟩ := isQuadruple_iff.mp ha
    exact ⟨a, [b, c, d], h, hlead (.inr (by omega)), by simp [hb, hc, hd]⟩

/-! ## Where a character stands -/

theorem first?_single (h : a.toNat < 0x80) (rest : List UInt8) :
    first? a rest = some (Char.ofNat a.toNat, 0) :=
  if_pos (UInt8.lt_iff_toNat_lt.mpr h)

theorem first?_wide (h : 0x80 ≤ a.toNat) (rest : List UInt8) : first? a rest = wide? a rest :=
  if_neg fun hlt : a < 0x80 => Nat.not_lt.mpr h (UInt8.lt_iff_toNat_lt.mp hlt)

theorem encodeChar_of_first? (h : first? a rest = some (ch, n)) :
    encodeChar ch = a :: rest.take n ∧ n ≤ rest.length := by
  by_cases hlow : a.toNat < 0x80
  · obtain ⟨rfl, rfl⟩ := Prod.mk.inj (Option.some.inj ((first?_single hlow rest).symm.trans h))
    exact ⟨encodeChar_single hlow, Nat.zero_le _⟩
  · rw [first?_wide (Nat.not_lt.mp hlow)] at h
    unfold wide? at h
    split at h
    · cases h
    · split_ifs at h with hpair
      · obtain ⟨rfl, rfl⟩ := Prod.mk.inj (Option.some.inj h)
        exact ⟨encodeChar_pair hpair, by simp⟩
      · split at h
        · cases h
        · split_ifs at h with htriple
          · obtain ⟨rfl, rfl⟩ := Prod.mk.inj (Option.some.inj h)
            exact ⟨encodeChar_triple htriple, by simp⟩
          · split at h
            · cases h
            · split_ifs at h with hquadruple
              obtain ⟨rfl, rfl⟩ := Prod.mk.inj (Option.some.inj h)
              exact ⟨encodeChar_quadruple hquadruple, by simp⟩

theorem encode_singleton (ch : Char) : encode [ch] = encodeChar ch := by
  rw [encode_cons, encode, List.flatMap_nil, List.append_nil]

theorem encodeChar_injective : Function.Injective encodeChar := by
  intro c d h
  rw [← encode_singleton, ← encode_singleton] at h
  rcases lt_trichotomy [c] [d] with hlt | heq | hlt
  · exact absurd (h ▸ encode_lt_encode hlt) (List.lt_irrefl _)
  · exact List.singleton_inj.mp heq
  · exact absurd (h ▸ encode_lt_encode hlt) (List.lt_irrefl _)

/-- **A character that stands there is read**, whatever follows. -/
theorem first?_encodeChar {tail : List UInt8} (h : encodeChar ch = a :: tail)
    (rest : List UInt8) : first? a (tail ++ rest) = some (ch, tail.length) := by
  obtain ⟨a', ha, hform⟩ | ⟨a', b, ha, hform⟩ | ⟨a', b, c, ha, hform⟩ | ⟨a', b, c, d, ha, hform⟩ :=
    encodeChar_cases ch
  · obtain ⟨rfl, rfl⟩ := List.cons.inj (hform.symm.trans h)
    rw [first?_single ha, encodeChar_injective ((encodeChar_single ha).trans hform.symm)]
    rfl
  · obtain ⟨rfl, rfl⟩ := List.cons.inj (hform.symm.trans h)
    have hlead := isPair_iff.mp ha
    rw [first?_wide (by omega), ← encodeChar_injective ((encodeChar_pair ha).trans hform.symm)]
    simp only [List.singleton_append, wide?, if_pos ha]
    rfl
  · obtain ⟨rfl, rfl⟩ := List.cons.inj (hform.symm.trans h)
    obtain ⟨-, -, hlead⟩ := isTriple_iff.mp ha
    have hpair : ¬ isPair a' b := fun hpair => by
      have := isPair_iff.mp hpair
      omega
    rw [first?_wide (by omega), ← encodeChar_injective ((encodeChar_triple ha).trans hform.symm)]
    simp only [List.cons_append, List.nil_append, wide?, if_neg hpair, if_pos ha]
    rfl
  · obtain ⟨rfl, rfl⟩ := List.cons.inj (hform.symm.trans h)
    obtain ⟨-, -, -, hlead⟩ := isQuadruple_iff.mp ha
    have hpair : ¬ isPair a' b := fun hpair => by
      have := isPair_iff.mp hpair
      omega
    have htriple : ¬ isTriple a' b c := fun htriple => by
      have := isTriple_iff.mp htriple
      omega
    rw [first?_wide (by omega),
      ← encodeChar_injective ((encodeChar_quadruple ha).trans hform.symm)]
    simp only [List.cons_append, List.nil_append, wide?, if_neg hpair, if_neg htriple, if_pos ha]
    rfl

theorem first?_eq_none_iff :
    first? a rest = none ↔ ∀ ch, ¬ encodeChar ch <+: a :: rest := by
  constructor
  · rintro hnone ch ⟨more, hmore⟩
    obtain ⟨a', tail, hform, -, -⟩ := exists_encodeChar_eq_cons ch
    rw [hform, List.cons_append] at hmore
    obtain ⟨rfl, rfl⟩ := List.cons.inj hmore
    rw [first?_encodeChar hform] at hnone
    cases hnone
  · intro hnone
    cases hfirst : first? a rest with
    | none => rfl
    | some found =>
      have hform := (encodeChar_of_first? hfirst).1
      refine absurd ?_ (hnone found.1)
      rw [hform]
      exact List.cons_prefix_cons.mpr ⟨rfl, List.take_prefix found.2 rest⟩

/-! ## One character or byte at a time -/

theorem decodeAfter_eq (n : Nat) (bytes : List UInt8) :
    decodeAfter n bytes = decode (bytes.drop n) := by
  induction n generalizing bytes with
  | zero => rfl
  | succ n ih =>
    cases bytes with
    | nil => rfl
    | cons b bytes =>
      rw [decodeAfter, List.drop_succ_cons]
      exact ih bytes

theorem decode_encodeChar_append (ch : Char) (rest : List UInt8) :
    decode (encodeChar ch ++ rest) = ch :: decode rest := by
  obtain ⟨a, tail, hform, -, -⟩ := exists_encodeChar_eq_cons ch
  rw [hform, List.cons_append, decode, decodeAfter, first?_encodeChar hform]
  dsimp only
  rw [decodeAfter_eq, List.drop_left]

theorem decode_cons (h : ∀ ch, ¬ encodeChar ch <+: a :: rest) :
    decode (a :: rest) = decode rest := by
  rw [decode, decodeAfter, first?_eq_none_iff.mpr h]
  rfl

@[elab_as_elim]
theorem inductionOn {motive : List UInt8 → Prop} (bytes : List UInt8) (nil : motive [])
    (char : ∀ ch rest, motive rest → motive (encodeChar ch ++ rest))
    (drop : ∀ a rest, (∀ ch, ¬ encodeChar ch <+: a :: rest) → motive rest → motive (a :: rest)) :
    motive bytes := by
  induction hlength : bytes.length using Nat.strong_induction_on generalizing bytes with
  | _ n ih =>
    cases bytes with
    | nil => exact nil
    | cons a rest =>
      subst hlength
      by_cases hform : ∃ ch, encodeChar ch <+: a :: rest
      · obtain ⟨ch, more, hmore⟩ := hform
        have hpos := List.length_pos_of_ne_nil (encodeChar_ne_nil ch)
        have hlength := congrArg List.length hmore
        rw [List.length_append] at hlength
        rw [← hmore]
        exact char ch more (ih _ (by omega) more rfl)
      · exact drop a rest (not_exists.mp hform) (ih _ (Nat.lt_succ_self _) rest rfl)

/-- What bytes read as: a character where its form stands, and nothing for a byte where no form of
a character stands. -/
inductive Reads : List UInt8 → List Char → Prop where
  | done : Reads [] []
  | char {rest : List UInt8} {s : List Char} (ch : Char) (h : Reads rest s) :
    Reads (encodeChar ch ++ rest) (ch :: s)
  | drop {a : UInt8} {rest : List UInt8} {s : List Char}
    (hnone : ∀ ch, ¬ encodeChar ch <+: a :: rest) (h : Reads rest s) : Reads (a :: rest) s

/-- **Decoding without tables.** Bytes decode to what they read as. -/
theorem reads_iff : Reads bytes s ↔ decode bytes = s := by
  constructor
  · intro h
    induction h with
    | done => rfl
    | char ch h ih => rw [decode_encodeChar_append, ih]
    | drop hnone h ih => rw [decode_cons hnone, ih]
  · rintro rfl
    induction bytes using inductionOn with
    | nil => exact .done
    | char ch rest ih =>
      rw [decode_encodeChar_append]
      exact .char ch ih
    | drop a rest hnone ih =>
      rw [decode_cons hnone]
      exact .drop hnone ih

/-! ## Where bytes may be cut -/

theorem not_encodeChar_prefix_append (hne : front ≠ []) (hb : ∀ x ∈ rest.head?, ¬ isTail x)
    (hnone : ∀ ch, ¬ encodeChar ch <+: front) : ∀ ch, ¬ encodeChar ch <+: front ++ rest := by
  intro ch hform
  rcases List.prefix_or_prefix_of_prefix hform (List.prefix_append front rest) with h | ⟨more, h⟩
  · exact hnone ch h
  -- The form begins with all of `front`, so that the first byte of `rest` continues it.
  rw [← h, List.prefix_append_right_inj] at hform
  cases more with
  | nil => exact hnone ch (by rw [← h, List.append_nil])
  | cons x more =>
    obtain ⟨a, tail, hcons, -, htail⟩ := exists_encodeChar_eq_cons ch
    obtain ⟨y, ys, rfl⟩ := List.exists_cons_of_ne_nil hne
    rw [hcons, List.cons_append] at h
    obtain ⟨-, rfl⟩ := List.cons.inj h
    obtain ⟨after, rfl⟩ := hform
    exact hb x rfl (htail x (by simp))

/-- **Bytes may be cut before a byte that continues no character.** -/
theorem decode_append (front : List UInt8) (h : ∀ x ∈ rest.head?, ¬ isTail x) :
    decode (front ++ rest) = decode front ++ decode rest := by
  induction front using inductionOn with
  | nil => rfl
  | char ch more ih =>
    rw [List.append_assoc, decode_encodeChar_append, decode_encodeChar_append, ih,
      List.cons_append]
  | drop a more hnone ih =>
    have hnone' := not_encodeChar_prefix_append (List.cons_ne_nil a more) h hnone
    rw [List.cons_append] at hnone' ⊢
    rw [decode_cons hnone, decode_cons hnone', ih]

/-- **Bytes may be cut behind a text.** -/
theorem decode_encode_append (s : List Char) (rest : List UInt8) :
    decode (encode s ++ rest) = s ++ decode rest := by
  induction s with
  | nil => rfl
  | cons ch s ih =>
    rw [encode_cons, List.append_assoc, decode_encodeChar_append, ih, List.cons_append]

theorem decode_encode (s : List Char) : decode (encode s) = s := by
  have h := decode_encode_append s []
  rwa [List.append_nil, show decode [] = [] from rfl, List.append_nil] at h

theorem decode?_eq_some_iff : decode? bytes = some s ↔ bytes = encode s := by
  simp only [decode?, beq_iff_eq]
  constructor
  · intro h
    split_ifs at h with heq
    rw [← Option.some.inj h, heq]
  · rintro rfl
    rw [decode_encode, if_pos rfl]

/-! ## Bytes of no text -/

/-- Whether the byte stands in the form of no text. -/
def IsForeign (x : UInt8) : Prop := ∀ s, x ∉ encode s

/-- A character with the byte of that number in its form, if there is one. -/
def charWithByte (n : Nat) : Char :=
  Char.ofNat
    (if n < 0xC0 then n
    else if n < 0xE0 then (n - 0xC0) * 0x40
    else if n < 0xF0 then max 0x800 ((n - 0xE0) * 0x1000)
    else max 0x10000 ((n - 0xF0) * 0x40000))

theorem mem_encodeChar_charWithByte : ∀ n < 256, n = 0xC0 ∨ n = 0xC1 ∨ 0xF5 ≤ n ∨
    UInt8.ofNat n ∈ encodeChar (charWithByte n) := by
  decide +kernel

theorem toNat_of_mem_encodeChar (h : x ∈ encodeChar ch) :
    x.toNat < 0xC0 ∨ 0xC2 ≤ x.toNat ∧ x.toNat < 0xF5 := by
  obtain ⟨a, ha, hform⟩ | ⟨a, b, ha, hform⟩ | ⟨a, b, c, ha, hform⟩ | ⟨a, b, c, d, ha, hform⟩ :=
    encodeChar_cases ch
  · rw [hform, List.mem_singleton] at h
    exact .inl (by rw [h]; omega)
  · simp only [hform, List.mem_cons, List.not_mem_nil, or_false] at h
    simp only [isPair_iff, isTail_iff] at ha
    rcases h with rfl | rfl <;> omega
  · simp only [hform, List.mem_cons, List.not_mem_nil, or_false] at h
    simp only [isTriple_iff, isTail_iff] at ha
    rcases h with rfl | rfl | rfl <;> omega
  · simp only [hform, List.mem_cons, List.not_mem_nil, or_false] at h
    simp only [isQuadruple_iff, isTail_iff] at ha
    rcases h with rfl | rfl | rfl | rfl <;> omega

/-- **The bytes of no text.** -/
theorem isForeign_iff : IsForeign x ↔ x = 0xC0 ∨ x = 0xC1 ∨ 0xF5 ≤ x := by
  have hnumbers : (x = 0xC0 ∨ x = 0xC1 ∨ 0xF5 ≤ x) ↔
      x.toNat = 0xC0 ∨ x.toNat = 0xC1 ∨ 0xF5 ≤ x.toNat := by
    simp [← UInt8.toNat_inj, UInt8.le_iff_toNat_le]
  rw [hnumbers]
  constructor
  · intro h
    rcases mem_encodeChar_charWithByte x.toNat x.toNat_lt with h1 | h1 | h1 | hmem
    · exact .inl h1
    · exact .inr (.inl h1)
    · exact .inr (.inr h1)
    · rw [UInt8.ofNat_toNat, ← encode_singleton] at hmem
      exact absurd hmem (h _)
  · intro h s hmem
    obtain ⟨ch, -, hch⟩ := List.mem_flatMap.mp hmem
    have := toNat_of_mem_encodeChar hch
    omega

theorem IsForeign.not_isTail (h : IsForeign x) : ¬ isTail x := by
  rw [not_isTail_iff]
  rcases isForeign_iff.mp h with rfl | rfl | hx
  · exact .inr (by decide)
  · exact .inr (by decide)
  · have hlt : (0xBF : UInt8) < 0xF5 := by decide
    exact .inr (UInt8.lt_of_lt_of_le hlt hx)

theorem decode_foreign_append (h : ∀ x ∈ junk, IsForeign x) (rest : List UInt8) :
    decode (junk ++ rest) = decode rest := by
  induction junk with
  | nil => rfl
  | cons x junk ih =>
    rw [List.forall_mem_cons] at h
    have hnone : ∀ ch, ¬ encodeChar ch <+: x :: (junk ++ rest) := by
      rintro ch ⟨more, hmore⟩
      obtain ⟨a, tail, hform, -, -⟩ := exists_encodeChar_eq_cons ch
      rw [hform, List.cons_append] at hmore
      obtain ⟨rfl, -⟩ := List.cons.inj hmore
      exact h.1 [ch] (by rw [encode_singleton, hform]; exact List.mem_cons_self)
    rw [List.cons_append, decode_cons hnone, ih h.2]

/-- **Bytes of no text separate** what stands on both sides of them. -/
theorem decode_append_foreign_append (hne : junk ≠ []) (h : ∀ x ∈ junk, IsForeign x)
    (front rest : List UInt8) : decode (front ++ (junk ++ rest)) = decode front ++ decode rest := by
  obtain ⟨x, more, rfl⟩ := List.exists_cons_of_ne_nil hne
  have hhead : ∀ y ∈ (x :: more ++ rest).head?, ¬ isTail y := by
    intro y hy
    obtain rfl : x = y := Option.some.inj hy
    exact (h x List.mem_cons_self).not_isTail
  rw [decode_append front hhead, decode_foreign_append h]

/-! ## What is kept -/

theorem exists_pieces (bytes : List UInt8) :
    ∃ (pieces : List (List UInt8 × Char)) (last : List UInt8),
      bytes = pieces.flatMap (fun p => p.1 ++ encodeChar p.2) ++ last ∧
        decode bytes = pieces.map (·.2) ∧ (∀ p ∈ pieces, decode p.1 = []) ∧ decode last = [] := by
  induction bytes using inductionOn with
  | nil => exact ⟨[], [], rfl, rfl, by simp, rfl⟩
  | char ch rest ih =>
    obtain ⟨pieces, last, hrest, hdecode, hpieces, hlast⟩ := ih
    refine ⟨([], ch) :: pieces, last, ?_, ?_, List.forall_mem_cons.mpr ⟨rfl, hpieces⟩, hlast⟩
    · rw [List.flatMap_cons, List.nil_append, List.append_assoc, ← hrest]
    · rw [decode_encodeChar_append, hdecode, List.map_cons]
  | drop a rest hnone ih =>
    obtain ⟨pieces, last, hrest, hdecode, hpieces, hlast⟩ := ih
    cases pieces with
    | nil =>
      have hrest : rest = last := hrest
      refine ⟨[], a :: last, by rw [hrest]; rfl, ?_, hpieces, ?_⟩
      · rw [decode_cons hnone, hdecode]
      · rw [← hrest, decode_cons hnone, hdecode]
        rfl
    | cons p pieces =>
      rw [List.forall_mem_cons] at hpieces
      have hgap : p.1 <+: rest := by
        rw [hrest, List.flatMap_cons, List.append_assoc, List.append_assoc]
        exact List.prefix_append _ _
      have hnone' : ∀ ch, ¬ encodeChar ch <+: a :: p.1 := fun ch h =>
        hnone ch (h.trans (List.cons_prefix_cons.mpr ⟨rfl, hgap⟩))
      refine ⟨(a :: p.1, p.2) :: pieces, last, by rw [hrest]; rfl, ?_,
        List.forall_mem_cons.mpr ⟨?_, hpieces.2⟩, hlast⟩
      · rw [decode_cons hnone, hdecode, List.map_cons, List.map_cons]
      · rw [decode_cons hnone', hpieces.1]

theorem encode_decode_sublist (bytes : List UInt8) : (encode (decode bytes)).Sublist bytes := by
  induction bytes using inductionOn with
  | nil => exact List.Sublist.refl []
  | char ch rest ih =>
    rw [decode_encodeChar_append, encode_cons]
    exact ih.append_left (encodeChar ch)
  | drop a rest hnone ih =>
    rw [decode_cons hnone]
    exact ih.cons a

/-- Whether no character lies across the place between the bytes: it is the beginning, or a
character ends before it, or the byte behind it continues none. -/
def IsBoundary (front rest : List UInt8) : Prop :=
  front = [] ∨ (∃ ch, encodeChar ch <:+ front) ∨ ∀ x ∈ rest.head?, x < 0x80 ∨ 0xBF < x

theorem IsBoundary.decode_append (h : IsBoundary front rest) :
    decode (front ++ rest) = decode front ++ decode rest := by
  rcases h with rfl | ⟨ch, before, rfl⟩ | h
  · rfl
  · -- The bytes may be cut before the character already, and it is read on both sides.
    have hcut : ∀ more, decode (before ++ (encodeChar ch ++ more)) =
        decode before ++ ch :: decode more := by
      intro more
      obtain ⟨a, tail, hform, ha, -⟩ := exists_encodeChar_eq_cons ch
      rw [Utf8.decode_append, decode_encodeChar_append]
      simp [hform, ha]
    have hfront := hcut []
    rw [List.append_nil] at hfront
    rw [List.append_assoc, hcut, hfront, List.append_assoc]
    rfl
  · exact Utf8.decode_append front fun x hx => not_isTail_iff.mpr (h x hx)

/-- What lenient decoding of damaged bytes is. -/
structure IsLenient (decode : List UInt8 → List Char) : Prop where
  /-- Nothing of a text is lost. -/
  text : ∀ s, decode (encode s) = s
  /-- Damage stays where it is: each side of a boundary decodes by itself. -/
  cut : ∀ front rest, IsBoundary front rest → decode (front ++ rest) = decode front ++ decode rest
  /-- What follows a text does not change it. -/
  text_cut : ∀ s rest, decode (encode s ++ rest) = s ++ decode rest
  /-- Bytes of no text do not matter where they stand at a boundary. -/
  inserted : ∀ front junk rest, IsBoundary front rest → (∀ x ∈ junk, IsForeign x) →
    decode (front ++ (junk ++ rest)) = decode (front ++ rest)
  /-- Wherever they stand, no character reaches over them. -/
  separated : ∀ front junk rest, junk ≠ [] → (∀ x ∈ junk, IsForeign x) →
    decode (front ++ (junk ++ rest)) = decode front ++ decode rest
  /-- The form of each character stands undivided between dropped bytes. -/
  pieces : ∀ bytes, ∃ (pieces : List (List UInt8 × Char)) (last : List UInt8),
    bytes = pieces.flatMap (fun p => p.1 ++ encodeChar p.2) ++ last ∧
      decode bytes = pieces.map (·.2) ∧ (∀ p ∈ pieces, decode p.1 = []) ∧ decode last = []
  sublist : ∀ bytes, (encode (decode bytes)).Sublist bytes
  /-- A byte is dropped just where no form of a character stands. -/
  reads : ∀ bytes s, decode bytes = s ↔ Reads bytes s

/-- **Decoding is lenient**, and loses nothing but what is damaged. The forms of the characters are
those of the standard, and the bytes of no text are known. -/
theorem decode_isLenient : IsLenient decode ∧
    (∀ s, encode s = s.flatMap String.utf8EncodeChar) ∧
    ∀ x, IsForeign x ↔ x = 0xC0 ∨ x = 0xC1 ∨ 0xF5 ≤ x := by
  refine ⟨?_, fun s => ?_, fun x => isForeign_iff⟩
  · exact {
      text := decode_encode
      cut := fun front rest h => h.decode_append
      text_cut := decode_encode_append
      inserted := fun front junk rest h hjunk => by
        rw [h.decode_append]
        cases junk with
        | nil => exact h.decode_append
        | cons x junk => exact decode_append_foreign_append (List.cons_ne_nil x junk) hjunk _ _
      separated := fun front junk rest hne hjunk =>
        decode_append_foreign_append hne hjunk front rest
      pieces := exists_pieces
      sublist := encode_decode_sublist
      reads := fun bytes s => reads_iff.symm }
  · exact List.flatMap_congr fun ch _ => encodeChar_eq_utf8EncodeChar ch

-- The first two bytes begin a character that is cut off, and the third one is another's.
example : decode [0xE2, 0x82, 0xC3, 0xA9, 0xFF, 0x61] = ['é', 'a'] := by decide

end Readiness.Utf8
