import Airdrop.Octets

/-!
# Octets/LittleEndian — words as bytes, least significant byte first

`bytesOf width n` writes a natural number, `valueOf` reads one.  Signed words are written in two's
complement, which is the unsigned word with the same bits.
-/

namespace Airdrop.LittleEndian

/-- The `width` low-order bytes of a number, least significant first. -/
def bytesOf : (width : Nat) → Nat → List UInt8
  | 0, _ => []
  | width + 1, n => UInt8.ofNat n :: bytesOf width (n / 256)

/-- The number with these bytes, least significant first. -/
def valueOf : List UInt8 → Nat
  | [] => 0
  | byte :: rest => byte.toNat + 256 * valueOf rest

@[simp] theorem length_bytesOf (width n : Nat) : (bytesOf width n).length = width := by
  induction width generalizing n with
  | zero => rfl
  | succ width ih => simp [bytesOf, ih]

theorem valueOf_bytesOf (width n : Nat) : valueOf (bytesOf width n) = n % Nat.pow 256 width := by
  induction width generalizing n with
  | zero => simp [bytesOf, valueOf, Nat.mod_one]
  | succ width ih =>
    have h : Nat.pow 256 (width + 1) = 256 * Nat.pow 256 width := Nat.pow_succ'
    rw [h, Nat.mod_mul]
    simp [bytesOf, valueOf, ih]

theorem bytesOf_valueOf (bytes : List UInt8) : bytesOf bytes.length (valueOf bytes) = bytes := by
  induction bytes with
  | nil => rfl
  | cons byte rest ih =>
    have h := byte.toNat_lt
    have hdiv : (byte.toNat + 256 * valueOf rest) / 256 = valueOf rest := by omega
    have hbyte : UInt8.ofNat (byte.toNat + 256 * valueOf rest) = byte := by
      apply UInt8.toNat_inj.1
      rw [UInt8.toNat_ofNat']
      omega
    simp only [List.length_cons, bytesOf, valueOf, hdiv, ih, hbyte]

/-- Eight bytes of a word. -/
def ofWord (word : UInt64) : List UInt8 := bytesOf 8 word.toNat

/-- The word of eight bytes. -/
def word (bytes : Octets 8) : UInt64 := .ofNat (valueOf bytes.toList)

/-- Eight bytes of a signed word. -/
def ofSigned (value : Int64) : List UInt8 := ofWord value.toUInt64

/-- The signed word of eight bytes. -/
def signed (bytes : Octets 8) : Int64 := (word bytes).toInt64

end Airdrop.LittleEndian
