import Airdrop.Json.Layout
import Airdrop.Proofs.Text.Utf8

/-!
# Proofs/Json/Token — a word that was written is cut off as itself

Cutting a document takes one word off the front.  **A word that was written is taken whole and
nothing after it**, whatever follows (`Writable.first_append`): texts with any characters, natural
numbers, brackets, names.  Only a number has to be told where it ends: what follows may not begin
with a byte that continues it.
-/

namespace Airdrop.Json

open Text.Utf8

namespace Token

/-! ## Numbers -/

/-- A byte that would continue a number. -/
def continues (byte : UInt8) : Bool :=
  isDigit byte || byte == 0x2e || byte == 0x65 || byte == 0x45

/-- **What follows lets a number end.** -/
def Ends (after : List UInt8) : Prop := ∀ byte ∈ after.head?, continues byte = false

theorem Ends.isDigit_eq_false {after : List UInt8} (h : Ends after) :
    ∀ byte ∈ after.head?, isDigit byte = false := by
  intro byte hbyte
  have hends := h byte hbyte
  simp only [continues, Bool.or_eq_false_iff] at hends
  exact hends.1.1.1

theorem digits_append {ds after : List UInt8} (hds : ∀ d ∈ ds, isDigit d = true) (h : Ends after) :
    digits (ds ++ after) = (ds, after) := by
  rw [digits, List.takeWhile_append_of_pos hds, List.dropWhile_append_of_pos hds]
  cases after with
  | nil => simp
  | cons byte after => simp [h.isDigit_eq_false byte rfl]

theorem fractionPart_of_ends : ∀ {after : List UInt8}, Ends after →
    fractionPart after = some (none, after)
  | [], _ => rfl
  | byte :: after, h => by
      have hbyte := h byte rfl
      simp only [continues, Bool.or_eq_false_iff, beq_eq_false_iff_ne] at hbyte
      rw [fractionPart, if_neg hbyte.1.1.2]

theorem exponentPart_of_ends : ∀ {after : List UInt8}, Ends after →
    exponentPart after = some (none, after)
  | [], _ => rfl
  | byte :: after, h => by
      have hbyte := h byte rfl
      simp only [continues, Bool.or_eq_false_iff, beq_eq_false_iff_ne] at hbyte
      rw [exponentPart, if_neg (not_or.2 ⟨hbyte.1.2, hbyte.2⟩)]

/-- Digits are a number, if a zero in front stands alone. -/
theorem unsigned_append {d : UInt8} {ds after : List UInt8} (hds : ∀ b ∈ d :: ds, isDigit b = true)
    (hzero : d = 48 → ds = []) (h : Ends after) :
    unsigned false (d :: ds ++ after) = some (.ofNat (valueOf (d :: ds)), after) := by
  have hwhole : wholePart (d :: ds ++ after) = some (d :: ds, after) := by
    unfold wholePart
    rw [digits_append hds h]
    cases ds with
    | nil => rfl
    | cons second ds => exact if_neg fun hd => by cases hzero hd
  rw [unsigned, hwhole]
  simp [fractionPart_of_ends h, exponentPart_of_ends h, Numeral.ofNat]

theorem first_of_isDigit {d : UInt8} (h : isDigit d = true) (after : List UInt8) :
    first d after = (unsigned false (d :: after)).map fun (n, after) => (.number n, after) := by
  simp only [isDigit, Bool.and_eq_true, decide_eq_true_eq] at h
  have hpunctuation : punctuation? d = none := by grind [punctuation?]
  have hliteral : literal? d = none := by grind [literal?]
  have hquote : d ≠ 0x22 := by grind
  have hminus : d ≠ 0x2d := by grind
  rw [first, hpunctuation, hliteral]
  dsimp only
  rw [if_neg hquote, if_neg hminus]

theorem isBlank_of_isDigit {d : UInt8} (h : isDigit d = true) : isBlank d = false := by
  simp only [isDigit, Bool.and_eq_true, decide_eq_true_eq] at h
  grind [isBlank]

/-! The digits of a natural number. -/

theorem numeral_ofNat (n : Nat) : Layout.numeral (.ofNat n) = Nat.toDigits 10 n := by
  simp [Layout.numeral, Numeral.ofNat]

theorem toNat_of_mem_toDigits {n : Nat} {c : Char} (h : c ∈ Nat.toDigits 10 n) :
    48 ≤ c.toNat ∧ c.toNat ≤ 57 := by
  have hdigit := Nat.isDigit_of_mem_toDigits (by decide) (by decide) h
  rwa [Char.isDigit_iff_toNat] at hdigit

theorem lt_of_mem_toDigits {n : Nat} : ∀ c ∈ Nat.toDigits 10 n, c.toNat < 0x80 := fun _ h =>
  Nat.lt_of_le_of_lt (toNat_of_mem_toDigits h).2 (by decide)

theorem isDigit_ascii {c : Char} (h : 48 ≤ c.toNat ∧ c.toNat ≤ 57) : isDigit (ascii c) = true := by
  have hc := toNat_ascii (Nat.lt_of_le_of_lt h.2 (by decide))
  simp only [isDigit, Bool.and_eq_true, decide_eq_true_eq, UInt8.le_iff_toNat_le, hc]
  exact h

theorem valueOf_map_ascii {ds : List Char} (h : ∀ c ∈ ds, c.toNat < 0x80) :
    valueOf (ds.map ascii) = Nat.ofDigitChars 10 ds 0 := by
  rw [valueOf, List.foldl_map, Nat.ofDigitChars_eq_foldl]
  generalize 0 = init
  induction ds generalizing init with
  | nil => rfl
  | cons c ds ih =>
    obtain ⟨hc, hds⟩ := List.forall_mem_cons.1 h
    rw [List.foldl_cons, List.foldl_cons, ih hds, toNat_ascii hc]
    rfl

/-- No zero stands in front of other digits. -/
theorem exists_toDigits_eq_cons (n : Nat) :
    ∃ c ds, Nat.toDigits 10 n = c :: ds ∧ (c = '0' → ds = []) := by
  induction n using Nat.strongRecOn with
  | ind n ih =>
    rcases Nat.lt_or_ge n 10 with hlt | hge
    · exact ⟨n.digitChar, [], Nat.toDigits_of_lt_base hlt, fun _ => rfl⟩
    · obtain ⟨c, ds, hds, hzero⟩ := ih (n / 10) (by omega)
      refine ⟨c, ds ++ [(n % 10).digitChar], ?_, fun hc => ?_⟩
      · rw [Nat.toDigits_of_base_le (by decide) hge, hds, List.cons_append]
      · rw [hc, hzero hc] at hds
        have hvalue := Nat.ofDigitChars_ten_toDigits (n := n / 10)
        rw [hds] at hvalue
        have : n / 10 = 0 := hvalue.symm
        omega

/-! ## Texts -/

/-- A byte that stands for itself in a text. -/
def IsPlain (byte : UInt8) : Prop := byte ≠ 0x22 ∧ byte ≠ 0x5c ∧ ¬byte < 0x20

/-- **Some bytes of a text say a character**, whatever follows them. -/
def Says (bytes : List UInt8) (c : Char) : Prop :=
  ∃ ps : List Part,
    (∀ rest, parts (bytes ++ rest) = (parts rest).map fun (more, after) => (ps ++ more, after)) ∧
    ∀ more, contentBytes (ps ++ more) = (contentBytes more).map (encodeChar c ++ ·)

theorem parts_append : ∀ {bytes : List UInt8}, (∀ b ∈ bytes, IsPlain b) → ∀ rest : List UInt8,
    parts (bytes ++ rest) = (parts rest).map fun (more, after) => (bytes.map .byte ++ more, after)
  | [], _, rest => by simp
  | b :: bytes, h, rest => by
      obtain ⟨⟨hquote, hslash, hcontrol⟩, hbytes⟩ := List.forall_mem_cons.1 h
      rw [List.cons_append, parts.eq_def]
      simp only [hquote, hslash, hcontrol, if_false, parts_append hbytes rest]
      cases parts rest <;> rfl

theorem contentBytes_append (bytes : List UInt8) (more : List Part) :
    contentBytes (bytes.map .byte ++ more) = (contentBytes more).map (bytes ++ ·) := by
  induction bytes with
  | nil => simp
  | cons b bytes ih => simp [contentBytes, ih, Function.comp_def]

theorem says_encodeChar {c : Char} (h : ∀ b ∈ encodeChar c, IsPlain b) : Says (encodeChar c) c :=
  ⟨(encodeChar c).map .byte, parts_append h, contentBytes_append _⟩

theorem says_letter {letter value : UInt8} {c : Char} (h : escaped? letter = some value)
    (hc : encodeChar c = [value]) : Says [0x5c, letter] c := by
  have hunit : letter ≠ 0x75 := by
    rintro rfl
    cases h
  refine ⟨[.byte value], fun rest => ?_, fun more => ?_⟩
  · rw [List.cons_append, List.cons_append, List.nil_append, parts.eq_def]
    simp only [hunit, h, if_true, if_false, show ¬(0x5c : UInt8) = 0x22 by decide]
    cases parts rest <;> rfl
  · rw [hc]
    rfl

theorem says_unit {a b c d : UInt8} {n : Nat} (h : unit? a b c d = some n) (hn : n < 0xd800) :
    Says [0x5c, 0x75, a, b, c, d] (Char.ofNat n) := by
  have hlow : isLowSurrogate n = false := by grind [isLowSurrogate]
  have hhigh : isHighSurrogate n = false := by grind [isHighSurrogate]
  refine ⟨[.unit n], fun rest => ?_, fun more => ?_⟩
  · rw [List.cons_append, parts.eq_def]
    simp only [List.cons_append, List.nil_append, h, if_true, if_false,
      show ¬(0x5c : UInt8) = 0x22 by decide]
    cases parts rest <;> rfl
  · rw [List.cons_append, List.nil_append, contentBytes.eq_def]
    simp [hlow, hhigh]

/-- Letters after a backslash say what they were written for, -/
theorem escaped?_of_mem_letters : ∀ pair ∈ Layout.letters,
    escaped? (ascii pair.2) = some (ascii pair.1) ∧ pair.1.toNat < 0x80 ∧ pair.2.toNat < 0x80 := by
  decide

/-- …and so do numbers, -/
theorem unit?_digit : ∀ n : Fin 0x20,
    unit? 0x30 0x30 (ascii (Hex.digit (n / 16))) (ascii (Hex.digit (n % 16))) = some n.val ∧
    (Hex.digit (n / 16)).toNat < 0x80 ∧ (Hex.digit (n % 16)).toNat < 0x80 := by
  decide

/-- …and characters that need neither. -/
theorem isPlain_of_mem_encodeChar {c : Char} (hletter : Layout.letters.lookup c = none)
    (hcontrol : ¬c.toNat < 0x20) : ∀ b ∈ encodeChar c, IsPlain b := by
  intro b hb
  rcases Nat.lt_or_ge c.toNat 0x80 with hlt | hge
  · rw [encodeChar_of_lt hlt, List.mem_singleton] at hb
    have hne : ∀ c', Layout.letters.lookup c' ≠ none → (ascii c).toNat ≠ c'.toNat := by
      intro c' hletter' hnat
      rw [toNat_ascii hlt] at hnat
      rw [Char.ext (UInt32.toNat_inj.1 hnat)] at hletter
      exact hletter' hletter
    subst hb
    refine ⟨fun h => hne '"' nofun (congrArg UInt8.toNat h),
      fun h => hne '\\' nofun (congrArg UInt8.toNat h), ?_⟩
    rwa [UInt8.lt_iff_toNat_lt, toNat_ascii hlt]
  · have hb' := le_toNat_of_mem_encodeChar hge hb
    refine ⟨?_, ?_, ?_⟩
    · rintro rfl
      exact absurd hb' (by decide)
    · rintro rfl
      exact absurd hb' (by decide)
    · rw [UInt8.lt_iff_toNat_lt]
      exact Nat.not_lt_of_le (Nat.le_trans (by decide) hb')

/-- **A character of a text is read as it was written.** -/
theorem says_escape (c : Char) : Says (encode (Layout.escape c)) c := by
  unfold Layout.escape
  split
  · next letter h =>
    obtain ⟨before, after, hmem, -⟩ := List.lookup_eq_some_iff.1 h
    obtain ⟨hvalue, hc, hletter⟩ := escaped?_of_mem_letters (c, letter) (by
      rw [hmem]
      exact List.mem_append_right _ List.mem_cons_self)
    have hbytes : encode ['\\', letter] = [0x5c, ascii letter] := by
      rw [encode_cons, encode_cons, encodeChar_of_lt hletter]
      rfl
    rw [hbytes]
    exact says_letter hvalue (encodeChar_of_lt hc)
  · next hletter =>
    split
    · next h =>
      obtain ⟨hunit, hhigh, hlow⟩ := unit?_digit ⟨c.toNat, h⟩
      have hchar := says_unit hunit (Nat.lt_trans h (by decide))
      rw [Char.ofNat_toNat] at hchar
      have hbytes : ∀ a b : Char, a.toNat < 0x80 → b.toNat < 0x80 →
          encode ['\\', 'u', '0', '0', a, b] = [0x5c, 0x75, 0x30, 0x30, ascii a, ascii b] := by
        intro a b ha hb
        rw [encode_cons, encode_cons, encode_cons, encode_cons, encode_cons, encode_cons,
          encodeChar_of_lt ha, encodeChar_of_lt hb]
        rfl
      rwa [hbytes _ _ hhigh hlow]
    · next h =>
      rw [encode_cons, encode, List.flatMap_nil, List.append_nil]
      exact says_encodeChar (isPlain_of_mem_encodeChar hletter h)

/-- …and so is the whole text, up to its closing quote. -/
theorem parts_escape (chars : List Char) : ∃ ps, contentBytes ps = some (encode chars) ∧
    ∀ rest, parts (encode (chars.flatMap Layout.escape) ++ 0x22 :: rest) = some (ps, rest) := by
  induction chars with
  | nil => exact ⟨[], rfl, fun _ => parts.eq_def _⟩
  | cons c chars ih =>
    obtain ⟨ps, hparts, hchar⟩ := says_escape c
    obtain ⟨more, hmore, hrest⟩ := ih
    refine ⟨ps ++ more, ?_, fun rest => ?_⟩
    · rw [hchar, hmore]
      rfl
    · rw [List.flatMap_cons, encode_append, List.append_assoc, hparts, hrest]
      rfl

/-! ## Words -/

/-- **A word that can be written**: all but the broken one, a text that says nothing, and a number
that is no natural one. -/
inductive Writable : Token → Prop
  | openObject : Writable .openObject
  | closeObject : Writable .closeObject
  | openArray : Writable .openArray
  | closeArray : Writable .closeArray
  | colon : Writable .colon
  | comma : Writable .comma
  | text (content : List Char) : Writable (.text (some content))
  | number (n : Nat) : Writable (.number (.ofNat n))
  | truth (value : Bool) : Writable (.truth value)
  | null : Writable .null

/-- Whether a word has no end of its own. -/
def isNumber : Token → Bool
  | .number _ => true
  | _ => false

/-- A word as bytes. -/
def bytes (token : Token) : List UInt8 := encode (Layout.word token)

/-- **A word that was written is cut off as itself**, and everything after it is left. -/
theorem Writable.first_append {token : Token} (h : Writable token) : ∃ byte more,
    token.bytes = byte :: more ∧ isBlank byte = false ∧ (isNumber token = false → continues byte = false) ∧
      ∀ rest, (isNumber token = true → Ends rest) →
        Token.first byte (more ++ rest) = some (token, rest) := by
  cases h with
  | openObject => exact ⟨0x7b, [], rfl, rfl, fun _ => rfl, fun _ _ => rfl⟩
  | closeObject => exact ⟨0x7d, [], rfl, rfl, fun _ => rfl, fun _ _ => rfl⟩
  | openArray => exact ⟨0x5b, [], rfl, rfl, fun _ => rfl, fun _ _ => rfl⟩
  | closeArray => exact ⟨0x5d, [], rfl, rfl, fun _ => rfl, fun _ _ => rfl⟩
  | colon => exact ⟨0x3a, [], rfl, rfl, fun _ => rfl, fun _ _ => rfl⟩
  | comma => exact ⟨0x2c, [], rfl, rfl, fun _ => rfl, fun _ _ => rfl⟩
  | null => exact ⟨0x6e, [0x75, 0x6c, 0x6c], rfl, rfl, fun _ => rfl, fun _ _ => rfl⟩
  | truth value =>
    cases value with
    | true => exact ⟨0x74, [0x72, 0x75, 0x65], rfl, rfl, fun _ => rfl, fun _ _ => rfl⟩
    | false => exact ⟨0x66, [0x61, 0x6c, 0x73, 0x65], rfl, rfl, fun _ => rfl, fun _ _ => rfl⟩
  | text chars =>
    obtain ⟨ps, hcontent, hparts⟩ := parts_escape chars
    refine ⟨0x22, encode (chars.flatMap Layout.escape) ++ [0x22], ?_, rfl, fun _ => rfl,
      fun rest _ => ?_⟩
    · rw [bytes, Layout.word, encode_append, encode_cons]
      rfl
    · rw [List.append_assoc, List.singleton_append]
      change (parts _).map _ = _
      rw [hparts, Option.map_some]
      dsimp only
      rw [Token.content, hcontent, Option.bind_some, decode?_encode]
  | number n =>
    obtain ⟨c, ds, hds, hzero⟩ := exists_toDigits_eq_cons n
    have hascii : ∀ c' ∈ c :: ds, c'.toNat < 0x80 := fun c' hc' => lt_of_mem_toDigits c' (hds ▸ hc')
    have hdigits : ∀ b ∈ ascii c :: ds.map ascii, isDigit b = true := by
      rw [← List.map_cons, ← hds]
      exact List.forall_mem_map.2 fun c' hc' => isDigit_ascii (toNat_of_mem_toDigits hc')
    have hc := hdigits (ascii c) List.mem_cons_self
    refine ⟨ascii c, ds.map ascii, ?_, isBlank_of_isDigit hc, nofun, fun rest hends => ?_⟩
    · rw [bytes, Layout.word, numeral_ofNat, hds, encode_of_lt hascii, List.map_cons]
    · have hzero' : ascii c = 48 → ds.map ascii = [] := by
        intro h
        have hnat : c.toNat = '0'.toNat := by
          rw [← toNat_ascii (hascii c List.mem_cons_self), h]
          rfl
        rw [hzero (Char.ext (UInt32.toNat_inj.1 hnat)), List.map_nil]
      rw [first_of_isDigit hc, ← List.cons_append, unsigned_append hdigits hzero' (hends rfl),
        ← List.map_cons, valueOf_map_ascii hascii, ← hds, Nat.ofDigitChars_ten_toDigits,
        Option.map_some]

end Token

end Airdrop.Json
