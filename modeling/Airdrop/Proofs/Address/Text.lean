import Airdrop.Address
import Airdrop.Proofs.Octets.Base58

/-!
# Proofs/Address/Text — every address has one text

The text of an address is read as that address, and **no other text is**
(`ofText_eq_ok_iff`).  It never has more than forty-four digits, and needs no blank, quote or comma.
-/

namespace Airdrop.Address

variable {text : String} {address : Address}

theorem length_bytes (address : Address) : address.bytes.length = 32 := address.octets.length_toList

/-- An address is its number. -/
theorem ofNumber_valueOf (address : Address) :
    ofNumber (BigEndian.valueOf address.bytes) = address := by
  have h := BigEndian.bytesOf_valueOf address.bytes
  rw [length_bytes] at h
  exact congrArg Address.mk (Octets.ext h)

theorem valueOf_lt (address : Address) : BigEndian.valueOf address.bytes < 256 ^ 32 := by
  have h := BigEndian.valueOf_lt address.bytes
  rwa [length_bytes] at h

/-! ## The text of an address -/

theorem toList_text (address : Address) : address.text.toList =
    List.replicate address.leadingZeros '1' ++
      Base58.digitsBefore [] (BigEndian.valueOf address.bytes) := by
  rw [text, String.toList_ofList]
  rfl

/-- **What every digit has, every character of the text has.** -/
theorem forall_mem_text {p : Char → Prop} (h : ∀ v : Fin 58, p (Base58.digit v))
    (address : Address) : ∀ c ∈ address.text.toList, p c := by
  intro c hc
  rw [toList_text] at hc
  rcases List.mem_append.1 hc with hc | hc
  · rw [List.eq_of_mem_replicate hc]
    exact h 0
  · exact Base58.forall_mem_digitsBefore h _ c hc

theorem leadingZeros_le (address : Address) : address.leadingZeros ≤ 32 := by
  rw [← length_bytes address]
  exact (List.takeWhile_sublist _).length_le

/-- **The text has at most forty-four digits**: a zero byte in front costs a digit less than any
other byte. -/
theorem length_text_le (address : Address) : address.text.toList.length ≤ maxTextSize := by
  have hzeros := address.leadingZeros_le
  have hvalue := BigEndian.valueOf_lt_of_zeros address.bytes
  rw [length_bytes] at hvalue
  change _ < 256 ^ (32 - address.leadingZeros) at hvalue
  have hdigits : 256 ^ (32 - address.leadingZeros) ≤ 58 ^ (44 - address.leadingZeros) := by
    have hpos : 0 < 58 ^ address.leadingZeros := Nat.pow_pos (by decide)
    refine Nat.le_of_mul_le_mul_right ?_ hpos
    calc 256 ^ (32 - address.leadingZeros) * 58 ^ address.leadingZeros
        ≤ 256 ^ (32 - address.leadingZeros) * 256 ^ address.leadingZeros :=
          Nat.mul_le_mul_left _ (Nat.pow_le_pow_left (by decide) _)
      _ = 256 ^ 32 := by rw [← Nat.pow_add, Nat.sub_add_cancel hzeros]
      _ ≤ 58 ^ 44 := by decide
      _ = 58 ^ (44 - address.leadingZeros) * 58 ^ address.leadingZeros := by
          rw [← Nat.pow_add, Nat.sub_add_cancel (hzeros.trans (by decide))]
  have hlength := Base58.length_digitsBefore_le (hvalue.trans_le hdigits)
  rw [toList_text, List.length_append, List.length_replicate, maxTextSize]
  omega

/-- A text of ASCII characters has as many bytes as characters. -/
theorem utf8ByteSize_ofList_of_lt : ∀ {digits : List Char}, (∀ c ∈ digits, c.toNat < 0x80) →
    (String.ofList digits).utf8ByteSize = digits.length
  | [], _ => rfl
  | c :: digits, h => by
      obtain ⟨hc, hdigits⟩ := List.forall_mem_cons.1 h
      have hsize : c.utf8Size = 1 := Char.utf8Size_eq_one_iff.2 (Nat.le_of_lt_succ hc)
      rw [String.ofList_cons, String.utf8ByteSize_append, String.utf8ByteSize_singleton, hsize,
        utf8ByteSize_ofList_of_lt hdigits, List.length_cons, Nat.add_comm]

theorem leadingOnes_text (address : Address) :
    leadingOnes address.text.toList = address.leadingZeros := by
  have hhead := Base58.head?_digitsBefore (BigEndian.valueOf address.bytes)
  rw [leadingOnes, toList_text, List.takeWhile_append_of_pos fun c hc =>
    beq_iff_eq.2 (List.eq_of_mem_replicate hc)]
  cases hdigits : Base58.digitsBefore [] (BigEndian.valueOf address.bytes) with
  | nil => simp
  | cons c digits =>
    rw [hdigits, List.head?_cons] at hhead
    rw [List.takeWhile_cons_of_neg (by simpa using hhead)]
    simp

/-! ## Reading -/

/-- **A text is read as an address exactly if it is the text of that address.** -/
theorem ofText_eq_ok_iff : ofText text = .ok address ↔ text = address.text := by
  have hsize : 1 <<< 256 = 256 ^ 32 := by decide
  constructor
  · intro h
    unfold ofText at h
    split at h
    · cases h
    split at h
    · cases h
    next n hn =>
    dsimp only at h
    split at h
    · next hfits =>
      obtain ⟨hlt, hzeros⟩ := hfits
      cases h
      rw [hsize] at hlt
      have hvalue : BigEndian.valueOf (ofNumber n).bytes = n :=
        BigEndian.valueOf_bytesOf_of_lt hlt
      rw [← String.toList_inj, toList_text, hvalue, ← hzeros]
      exact Base58.numberOfDigits?_eq_some_iff.1 hn
    · cases h
  · rintro rfl
    have hshort : ¬ maxTextSize < address.text.utf8ByteSize := by
      have hsize := utf8ByteSize_ofList_of_lt (address.forall_mem_text Base58.digit_lt)
      rw [String.ofList_toList] at hsize
      exact Nat.not_lt.2 (hsize ▸ address.length_text_le)
    have hnumber : Base58.numberOfDigits? address.text.toList =
        some (BigEndian.valueOf address.bytes) := by
      rw [toList_text, Base58.numberOfDigits?_ones, Base58.numberOfDigits?_digitsBefore]
    unfold ofText
    rw [if_neg hshort, hnumber]
    dsimp only
    rw [ofNumber_valueOf, if_pos ⟨hsize ▸ address.valueOf_lt, address.leadingOnes_text⟩]

end Airdrop.Address
