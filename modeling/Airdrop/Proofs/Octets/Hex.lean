import Airdrop.Octets.Hex
import Airdrop.Proofs.Result
import Airdrop.Proofs.Text.Utf8

/-!
# Proofs/Octets/Hex — texts that spell bytes

Bytes are spelled by two digits each, the high one first, and **each digit may be in either letter
case** (`Spells`).  Such texts are all that is decoded, and as the bytes that they spell
(`decode_eq_ok_iff`).
-/

namespace Airdrop.Hex

open Text.Utf8

/-! ## Digits and spellings -/

/-- A character is the hexadecimal digit of a value, in either letter case. -/
def IsDigit (c : Char) (value : Nat) : Prop := c = digit value ∨ c = (digit value).toUpper

/-- **A text spells bytes**: two digits each, the high one first. -/
inductive Spells : List Char → List UInt8 → Prop
  | nil : Spells [] []
  | cons {high low : Char} {text : List Char} {byte : UInt8} {bytes : List UInt8}
      (hhigh : IsDigit high (byte.toNat / 16)) (hlow : IsDigit low (byte.toNat % 16))
      (h : Spells text bytes) : Spells (high :: low :: text) (byte :: bytes)

variable {c : Char} {value : Nat} {text : List Char} {bytes : List UInt8}

theorem value?_digit : ∀ value : Fin 16,
    value? (ascii (digit value)) = some (.ofNat value) ∧
    value? (ascii (digit value).toUpper) = some (.ofNat value) ∧
    (digit value).toNat < 0x80 ∧ (digit value).toUpper.toNat < 0x80 ∧
    digit value ≠ 'x' ∧ (digit value).toUpper ≠ 'x' := by
  decide

theorem IsDigit.value? (h : IsDigit c value) (hlt : value < 16) :
    Hex.value? (ascii c) = some (.ofNat value) := by
  obtain ⟨hlower, hupper, -⟩ := value?_digit ⟨value, hlt⟩
  rcases h with rfl | rfl
  · exact hlower
  · exact hupper

theorem IsDigit.lt (h : IsDigit c value) (hlt : value < 16) : c.toNat < 0x80 := by
  obtain ⟨-, -, hlower, hupper, -⟩ := value?_digit ⟨value, hlt⟩
  rcases h with rfl | rfl
  · exact hlower
  · exact hupper

theorem IsDigit.ne_x (h : IsDigit c value) (hlt : value < 16) : c ≠ 'x' := by
  obtain ⟨-, -, -, -, hlower, hupper⟩ := value?_digit ⟨value, hlt⟩
  rcases h with rfl | rfl
  · exact hlower
  · exact hupper

theorem high_lt (byte : UInt8) : byte.toNat / 16 < 16 := by
  have := byte.toNat_lt
  omega

theorem low_lt (byte : UInt8) : byte.toNat % 16 < 16 := Nat.mod_lt _ (by decide)

/-- A byte is its two digits. -/
theorem ofNat_digits (byte : UInt8) :
    UInt8.ofNat (byte.toNat / 16) * 16 + UInt8.ofNat (byte.toNat % 16) = byte := by
  have hhigh : (UInt8.ofNat (byte.toNat / 16)).toNat = byte.toNat / 16 :=
    UInt8.toNat_ofNat_of_lt' (Nat.lt_trans (high_lt byte) (by decide))
  have hlow : (UInt8.ofNat (byte.toNat % 16)).toNat = byte.toNat % 16 :=
    UInt8.toNat_ofNat_of_lt' (Nat.lt_trans (low_lt byte) (by decide))
  have hlt := byte.toNat_lt
  rw [← UInt8.toNat_inj, UInt8.toNat_add, UInt8.toNat_mul, hhigh, hlow]
  change (byte.toNat / 16 * 16 % 256 + byte.toNat % 16) % 256 = byte.toNat
  omega

theorem Spells.decodeFrom (h : Spells text bytes) :
    ∀ position, Hex.decodeFrom position (text.map ascii) = .ok bytes := by
  induction h with
  | nil => exact fun _ => rfl
  | @cons high low text byte bytes hhigh hlow _ ih =>
    intro position
    rw [List.map_cons, List.map_cons, Hex.decodeFrom, hhigh.value? (high_lt byte),
      hlow.value? (low_lt byte)]
    dsimp only
    rw [ih, Except.map, ofNat_digits]

theorem Spells.lt (h : Spells text bytes) : ∀ c ∈ text, c.toNat < 0x80 := by
  induction h with
  | nil => exact fun _ => nofun
  | @cons _ _ _ byte _ hhigh hlow _ ih =>
    exact List.forall_mem_cons.2 ⟨hhigh.lt (high_lt byte),
      List.forall_mem_cons.2 ⟨hlow.lt (low_lt byte), ih⟩⟩

theorem Spells.length (h : Spells text bytes) : text.length = 2 * bytes.length := by
  induction h with
  | nil => rfl
  | cons _ _ _ ih =>
    rw [List.length_cons, List.length_cons, List.length_cons, ih]
    omega

/-- **A text is decoded as the bytes that it spells.** -/
theorem Spells.decode (h : Spells text bytes) :
    Hex.decode (Text.Utf8.encode text) = .ok bytes := by
  rw [Hex.decode, encode_of_lt h.lt, List.length_map, h.length, if_neg (by omega)]
  exact h.decodeFrom 0

/-- In capitals bytes are spelled as well. -/
theorem spells_encode : ∀ bytes : List UInt8, Spells ((encode bytes).map Char.toUpper) bytes
  | [] => .nil
  | _ :: bytes => .cons (.inr rfl) (.inr rfl) (spells_encode bytes)

/-! ## What is decoded -/

/-- A byte that has a value is the digit of it. -/
theorem isDigit_of_value? (hc : c.toNat < 0x80) {value : UInt8}
    (h : value? (ascii c) = some value) : value.toNat < 16 ∧ IsDigit c value.toNat := by
  have hall : ∀ n : Fin 0x80, value? (.ofNat n) = none ∨ ∃ v : Fin 16,
      value? (.ofNat n) = some (.ofNat v) ∧
        (Char.ofNat n = digit v ∨ Char.ofNat n = (digit v).toUpper) := by decide +kernel
  have h : value? (.ofNat c.toNat) = some value := h
  rcases hall ⟨c.toNat, hc⟩ with hnone | ⟨v, hsome, hdigit⟩
  · rw [hnone] at h
    cases h
  · rw [hsome, Option.some.injEq] at h
    rw [Char.ofNat_toNat] at hdigit
    have hvalue : value.toNat = v.val := by
      rw [← h, UInt8.toNat_ofNat_of_lt' (Nat.lt_trans v.isLt (by decide))]
    rw [hvalue]
    exact ⟨v.isLt, hdigit⟩

/-- The two digits of a byte. -/
theorem toNat_digits {high low : UInt8} (hhigh : high.toNat < 16) (hlow : low.toNat < 16) :
    (high * 16 + low).toNat / 16 = high.toNat ∧ (high * 16 + low).toNat % 16 = low.toNat := by
  rw [UInt8.toNat_add, UInt8.toNat_mul]
  change (high.toNat * 16 % 256 + low.toNat) % 256 / 16 = _ ∧
    (high.toNat * 16 % 256 + low.toNat) % 256 % 16 = _
  omega

theorem spells_of_decodeFrom : ∀ {text : List Char} {position : Nat} {bytes : List UInt8},
    (∀ c ∈ text, c.toNat < 0x80) → decodeFrom position (text.map ascii) = .ok bytes →
      Spells text bytes
  | [], _, _, _, h => by
      cases h
      exact .nil
  | high :: low :: text, position, bytes, hascii, h => by
      obtain ⟨hhigh, hascii⟩ := List.forall_mem_cons.1 hascii
      obtain ⟨hlow, hascii⟩ := List.forall_mem_cons.1 hascii
      rw [List.map_cons, List.map_cons, decodeFrom] at h
      split at h
      · cases h
      · cases h
      · next highValue lowValue hhighValue hlowValue =>
        obtain ⟨hhighLt, hhighDigit⟩ := isDigit_of_value? hhigh hhighValue
        obtain ⟨hlowLt, hlowDigit⟩ := isDigit_of_value? hlow hlowValue
        obtain ⟨hdiv, hmod⟩ := toNat_digits hhighLt hlowLt
        obtain ⟨more, hmore, rfl⟩ := map_eq_ok_iff.1 h
        exact .cons (hdiv ▸ hhighDigit) (hmod ▸ hlowDigit) (spells_of_decodeFrom hascii hmore)

/-- No byte outside ASCII has a value. -/
theorem lt_of_value? {b value : UInt8} (h : value? b = some value) : b.toNat < 0x80 := by
  by_contra hge
  have hhigh : ∀ {bound : UInt8}, bound.toNat < 0x80 → ¬b ≤ bound := fun hbound hle =>
    hge (Nat.lt_of_le_of_lt (UInt8.le_iff_toNat_le.1 hle) hbound)
  rw [value?, if_neg fun h => hhigh (by decide) h.2, if_neg fun h => hhigh (by decide) h.2,
    if_neg fun h => hhigh (by decide) h.2] at h
  cases h

/-- A text whose bytes are digits has no other characters. -/
theorem lt_of_decodeFrom : ∀ {encoded : List UInt8} {position : Nat} {bytes : List UInt8},
    decodeFrom position encoded = .ok bytes → ∀ b ∈ encoded, b.toNat < 0x80
  | [], _, _, _ => nofun
  | high :: low :: encoded, position, bytes, h => by
      rw [decodeFrom] at h
      split at h
      · cases h
      · cases h
      · next hhigh hlow =>
        obtain ⟨more, hmore, -⟩ := map_eq_ok_iff.1 h
        exact List.forall_mem_cons.2 ⟨lt_of_value? hhigh,
          List.forall_mem_cons.2 ⟨lt_of_value? hlow, lt_of_decodeFrom hmore⟩⟩

/-- **A text is decoded if it spells bytes**, and as those. -/
theorem decode_eq_ok_iff : decode (Text.Utf8.encode text) = .ok bytes ↔ Spells text bytes := by
  refine ⟨fun h => ?_, Spells.decode⟩
  unfold decode at h
  split at h
  · cases h
  · have hascii : ∀ c ∈ text, c.toNat < 0x80 := fun c hc => by
      by_contra hge
      obtain ⟨b, hb⟩ := List.exists_mem_of_ne_nil _ (encodeChar_ne_nil c)
      have hlt := lt_of_decodeFrom h b (List.mem_flatMap.2 ⟨c, hc, hb⟩)
      exact absurd (le_toNat_of_mem_encodeChar (Nat.le_of_not_lt hge) hb) (Nat.not_le_of_lt hlt)
    rw [encode_of_lt hascii] at h
    exact spells_of_decodeFrom hascii h

end Airdrop.Hex
