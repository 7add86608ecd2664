import Airdrop.Text.Utf8

/-!
# Proofs/Text/Utf8 — texts are ordered as their bytes are, and read back from them

Texts are compared character by character, and file names byte by byte.  **It is the same order**:
of two characters the lesser has the lesser bytes, at the first place where they differ at all.

Strict reading undoes writing (`decode?_encode`): the first two bytes of a character tell how wide it
is and are in each other's range (`Begins`), and every further one adds six bits.
-/

namespace Airdrop.Text.Utf8

/-- There are no characters from U+110000 on. -/
theorem toNat_lt (c : Char) : c.toNat < 0x110000 := by
  rcases c.valid with h | ⟨-, h⟩
  · exact Nat.lt_trans h (by decide)
  · exact h

/-- Bytes are compared one by one. -/
theorem cons_lt_cons {m n : Nat} (hm : m < 256) (hn : n < 256) {after after' : List UInt8} :
    UInt8.ofNat m :: after < UInt8.ofNat n :: after' ↔ m < n ∨ m = n ∧ after < after' := by
  rw [List.cons_lt_cons_iff, UInt8.lt_iff_toNat_lt, ← UInt8.toNat_inj,
    UInt8.toNat_ofNat_of_lt' hm, UInt8.toNat_ofNat_of_lt' hn]

/-- **A lesser character has lesser bytes**, whatever follows. -/
theorem encodeChar_append_lt {a b : Char} (h : a < b) (after after' : List UInt8) :
    encodeChar a ++ after < encodeChar b ++ after' := by
  have hlt : a.toNat < b.toNat := h
  have ha := toNat_lt a
  have hb := toNat_lt b
  unfold encodeChar
  dsimp only
  generalize a.toNat = m at *
  generalize b.toNat = n at *
  -- A longer character has a greater first byte; of two as long as one another, the digits decide.
  by_cases hlead : m / 0x1000 = n / 0x1000
  all_goals repeat' split
  all_goals first
    | omega
    | simp (disch := omega) only [List.cons_append, List.nil_append, cons_lt_cons]
      omega

/-- Every character has bytes. -/
theorem encodeChar_ne_nil (c : Char) : encodeChar c ≠ [] := by
  unfold encodeChar
  dsimp only
  repeat' split
  all_goals exact List.cons_ne_nil _ _

theorem encode_lt_encode : ∀ {text text' : List Char}, text < text' → encode text < encode text'
  | [], [], h => absurd h (List.lt_irrefl [])
  | _ :: _, [], h => absurd h (List.not_lt_nil _)
  | [], b :: bs, _ => by
      obtain ⟨first, rest, hb⟩ := List.exists_cons_of_ne_nil (encodeChar_ne_nil b)
      rw [encode, encode, List.flatMap_cons, hb]
      exact List.nil_lt_cons first _
  | a :: as, b :: bs, h => by
      rw [encode, encode, List.flatMap_cons, List.flatMap_cons]
      rcases List.cons_lt_cons_iff.1 h with hlt | ⟨rfl, hrest⟩
      · exact encodeChar_append_lt hlt _ _
      · exact List.append_left_lt (encode_lt_encode hrest)

/-- **The order of texts is the order of their bytes.** -/
theorem encode_lt_encode_iff {text text' : String} :
    encode text.toList < encode text'.toList ↔ text < text' := by
  refine ⟨fun h => Decidable.byContradiction fun hnot => ?_,
    fun h => encode_lt_encode (String.lt_iff.1 h)⟩
  rcases Decidable.em (text = text') with rfl | hne
  · exact List.lt_irrefl _ h
  · have hlt : text' < text := Decidable.byContradiction fun hnot' =>
      hne (String.le_antisymm (String.not_lt.1 hnot') (String.not_lt.1 hnot))
    exact List.lt_asymm h (encode_lt_encode (String.lt_iff.1 hlt))

theorem encode_cons (c : Char) (text : List Char) :
    encode (c :: text) = encodeChar c ++ encode text := rfl

theorem encode_append (text text' : List Char) :
    encode (text ++ text') = encode text ++ encode text' := by
  rw [encode, List.flatMap_append]
  rfl

/-! ## Characters of one byte -/

/-- The byte of a character below U+0080. -/
def ascii (c : Char) : UInt8 := .ofNat c.toNat

theorem toNat_ascii {c : Char} (h : c.toNat < 0x80) : (ascii c).toNat = c.toNat :=
  UInt8.toNat_ofNat_of_lt' (Nat.lt_trans h (by decide))

theorem encodeChar_of_lt {c : Char} (h : c.toNat < 0x80) : encodeChar c = [ascii c] := by
  rw [encodeChar]
  exact if_pos h

/-- …and a text of such characters. -/
theorem encode_of_lt : ∀ {text : List Char}, (∀ c ∈ text, c.toNat < 0x80) →
    encode text = text.map ascii
  | [], _ => rfl
  | c :: text, h => by
      obtain ⟨hc, htext⟩ := List.forall_mem_cons.1 h
      rw [encode_cons, encodeChar_of_lt hc, encode_of_lt htext, List.map_cons,
        List.singleton_append]

/-- All bytes of any other character are 0x80 or more. -/
theorem le_toNat_of_mem_encodeChar {c : Char} (h : 0x80 ≤ c.toNat) {b : UInt8}
    (hb : b ∈ encodeChar c) : 0x80 ≤ b.toNat := by
  have hlt := toNat_lt c
  have hbyte : ∀ k, 0x80 ≤ k → k < 0x100 → 0x80 ≤ (UInt8.ofNat k).toNat := fun k hk hk' => by
    rwa [UInt8.toNat_ofNat_of_lt' hk']
  unfold encodeChar at hb
  dsimp only at hb
  generalize c.toNat = n at *
  rw [if_neg (Nat.not_lt_of_le h)] at hb
  repeat' split at hb
  all_goals
    simp only [List.mem_cons, List.not_mem_nil, or_false] at hb
    rcases hb with rfl | rfl | rfl | rfl <;> exact hbyte _ (by omega) (by omega)

/-! ## Reading back -/

/-- The byte that holds six bits more. -/
theorem toNat_continuation {m : Nat} (hm : m < 64) : (UInt8.ofNat (0x80 + m)).toNat = 0x80 + m :=
  UInt8.toNat_ofNat_of_lt' (Nat.lt_trans (Nat.add_lt_add_left hm 0x80) (by decide))

/-- **Two bytes begin a character** of `width` bytes, the first of them holding `bits`. -/
structure Begins (width bits : Nat) (b₀ b₁ : UInt8) : Prop where
  high : ¬b₀ < 0x80
  leads : ∃ lead, lead? b₀ = some lead ∧ lead.width = width ∧ lead.bits = bits ∧
    lead.low ≤ b₁ ∧ b₁ ≤ lead.high

/-- They do if the second one is in the range that the first one promises. -/
theorem begins_of_lead? {n m : Nat} {lead : Lead} (hn : 0x80 ≤ n) (hn' : n < 0x100)
    (h : lead? (.ofNat n) = some lead) (hm : m < 0x40) (hlow : lead.low.toNat ≤ 0x80 + m)
    (hhigh : 0x80 + m ≤ lead.high.toNat) :
    Begins lead.width lead.bits (.ofNat n) (.ofNat (0x80 + m)) := by
  refine ⟨?_, lead, h, rfl, rfl, ?_, ?_⟩
  · rwa [UInt8.not_lt, UInt8.le_iff_toNat_le, UInt8.toNat_ofNat_of_lt' hn']
  · rwa [UInt8.le_iff_toNat_le, toNat_continuation hm]
  · rwa [UInt8.le_iff_toNat_le, toNat_continuation hm]

theorem begins_two {k m : Nat} (hk : 2 ≤ k) (hk' : k < 32) (hm : m < 64) :
    Begins 2 k (.ofNat (0xc0 + k)) (.ofNat (0x80 + m)) := by
  have hn : 0xc0 + k < 256 := by omega
  have hlead : lead? (.ofNat (0xc0 + k)) = some ⟨2, k, 0x80, 0xbf⟩ := by
    rw [lead?, UInt8.toNat_ofNat_of_lt' hn]
    grind
  exact begins_of_lead? (by omega) hn hlead hm (Nat.le_add_right _ _) (by simp; omega)

theorem begins_three {k m : Nat} (hk : k < 16) (hm : m < 64) (hlow : k = 0 → 32 ≤ m)
    (hhigh : k = 13 → m < 32) : Begins 3 k (.ofNat (0xe0 + k)) (.ofNat (0x80 + m)) := by
  have hn : 0xe0 + k < 256 := by omega
  have hlead : lead? (.ofNat (0xe0 + k)) =
      some ⟨3, k, if k = 0 then 0xa0 else 0x80, if k = 13 then 0x9f else 0xbf⟩ := by
    rw [lead?, UInt8.toNat_ofNat_of_lt' hn]
    grind
  refine begins_of_lead? (by omega) hn hlead hm ?_ ?_
  all_goals
    dsimp only
    split <;> simp <;> omega

theorem begins_four {k m : Nat} (hk : k < 5) (hm : m < 64) (hlow : k = 0 → 16 ≤ m)
    (hhigh : k = 4 → m < 16) : Begins 4 k (.ofNat (0xf0 + k)) (.ofNat (0x80 + m)) := by
  have hn : 0xf0 + k < 256 := by omega
  have hlead : lead? (.ofNat (0xf0 + k)) =
      some ⟨4, k, if k = 0 then 0x90 else 0x80, if k = 4 then 0x8f else 0xbf⟩ := by
    rw [lead?, UInt8.toNat_ofNat_of_lt' hn]
    grind
  refine begins_of_lead? (by omega) hn hlead hm ?_ ?_
  all_goals
    dsimp only
    split <;> simp <;> omega

theorem isContinuation_ofNat {m : Nat} (hm : m < 64) :
    isContinuation (.ofNat (0x80 + m)) = true := by
  simp only [isContinuation, Bool.and_eq_true, decide_eq_true_eq, UInt8.le_iff_toNat_le,
    toNat_continuation hm]
  exact ⟨Nat.le_add_right _ _, by simp; omega⟩

theorem extend_ofNat {m : Nat} (bits : Nat) (hm : m < 64) :
    extend bits (.ofNat (0x80 + m)) = bits * 0x40 + m := by
  rw [extend, toNat_continuation hm]
  omega

theorem pieces_two {bits : Nat} {b₀ b₁ : UInt8} (h : Begins 2 bits b₀ b₁) (rest : List UInt8) :
    pieces (b₀ :: b₁ :: rest) = .scalar (Char.ofNat (extend bits b₁)) :: pieces rest := by
  obtain ⟨lead, hlead, hwidth, rfl, hlow, hhigh⟩ := h.leads
  rw [pieces.eq_def]
  simp [h.high, hlead, hwidth, hlow, hhigh]

theorem pieces_three {bits : Nat} {b₀ b₁ b₂ : UInt8} (h : Begins 3 bits b₀ b₁)
    (h₂ : isContinuation b₂ = true) (rest : List UInt8) : pieces (b₀ :: b₁ :: b₂ :: rest) =
      .scalar (Char.ofNat (extend (extend bits b₁) b₂)) :: pieces rest := by
  obtain ⟨lead, hlead, hwidth, rfl, hlow, hhigh⟩ := h.leads
  rw [pieces.eq_def]
  simp [h.high, hlead, hwidth, hlow, hhigh, h₂]

theorem pieces_four {bits : Nat} {b₀ b₁ b₂ b₃ : UInt8} (h : Begins 4 bits b₀ b₁)
    (h₂ : isContinuation b₂ = true) (h₃ : isContinuation b₃ = true) (rest : List UInt8) :
    pieces (b₀ :: b₁ :: b₂ :: b₃ :: rest) =
      .scalar (Char.ofNat (extend (extend (extend bits b₁) b₂) b₃)) :: pieces rest := by
  obtain ⟨lead, hlead, hwidth, rfl, hlow, hhigh⟩ := h.leads
  rw [pieces.eq_def]
  simp [h.high, hlead, hwidth, hlow, hhigh, h₂, h₃]

/-- **A character's bytes are read as that character**, whatever follows. -/
theorem pieces_encodeChar (c : Char) (rest : List UInt8) :
    pieces (encodeChar c ++ rest) = .scalar c :: pieces rest := by
  rcases Nat.lt_or_ge c.toNat 0x80 with hlow | hge
  · have hbyte : ascii c < 0x80 := UInt8.lt_iff_toNat_lt.2 (by rwa [toNat_ascii hlow])
    rw [encodeChar_of_lt hlow, List.singleton_append, pieces.eq_def]
    simp only [hbyte, if_true, toNat_ascii hlow, Char.ofNat_toNat]
  have hlt := toNat_lt c
  have hvalid : c.toNat < 0xd800 ∨ 0xe000 ≤ c.toNat := by
    rcases c.valid with h | ⟨h, -⟩
    · exact .inl h
    · exact .inr (Nat.succ_le_of_lt h)
  have hc : Char.ofNat c.toNat = c := Char.ofNat_toNat c
  unfold encodeChar
  dsimp only
  generalize c.toNat = n at *
  rw [if_neg (Nat.not_lt_of_le hge)]
  split
  · rw [List.cons_append, List.cons_append, List.nil_append,
      pieces_two (begins_two (by omega) (by omega) (by omega)), extend_ofNat _ (by omega),
      Nat.div_add_mod', hc]
  split
  · rw [List.cons_append, List.cons_append, List.cons_append, List.nil_append,
      pieces_three (begins_three (by omega) (by omega) (by omega) (by omega))
        (isContinuation_ofNat (by omega)), extend_ofNat _ (by omega), extend_ofNat _ (by omega)]
    have hdigits : (n / 0x1000 * 0x40 + n / 0x40 % 0x40) * 0x40 + n % 0x40 = n := by omega
    rw [hdigits, hc]
  · rw [List.cons_append, List.cons_append, List.cons_append, List.cons_append, List.nil_append,
      pieces_four (begins_four (by omega) (by omega) (by omega) (by omega))
        (isContinuation_ofNat (by omega)) (isContinuation_ofNat (by omega)),
      extend_ofNat _ (by omega), extend_ofNat _ (by omega), extend_ofNat _ (by omega)]
    have hdigits : ((n / 0x40000 * 0x40 + n / 0x1000 % 0x40) * 0x40 + n / 0x40 % 0x40) * 0x40 +
        n % 0x40 = n := by omega
    rw [hdigits, hc]

theorem pieces_encode : ∀ text : List Char, pieces (encode text) = text.map .scalar
  | [] => by rw [encode, List.flatMap_nil, pieces, List.map_nil]
  | c :: text => by
      rw [encode_cons, pieces_encodeChar, pieces_encode text, List.map_cons]

/-- **Strict reading undoes writing.** -/
@[simp] theorem decode?_encode (text : List Char) : decode? (encode text) = some text := by
  rw [decode?, pieces_encode]
  induction text with
  | nil => rfl
  | cons c text ih =>
    rw [List.map_cons, List.mapM_cons, ih]
    rfl

end Airdrop.Text.Utf8
