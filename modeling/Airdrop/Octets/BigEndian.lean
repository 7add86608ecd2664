import Airdrop.Octets.LittleEndian

/-!
# Octets/BigEndian — numbers as bytes, most significant byte first

The other order: **the bytes of `LittleEndian`, reversed**.  Hashing and base 58 read numbers this
way.
-/

namespace Airdrop.BigEndian

/-- The `width` low-order bytes of a number, most significant first. -/
def bytesOf (width n : Nat) : List UInt8 := (LittleEndian.bytesOf width n).reverse

/-- The number with these bytes, most significant first. -/
def valueOf (bytes : List UInt8) : Nat := bytes.foldl (fun n byte => n * 256 + byte.toNat) 0

@[simp] theorem length_bytesOf (width n : Nat) : (bytesOf width n).length = width := by
  simp [bytesOf]

theorem valueOf_reverse (bytes : List UInt8) :
    valueOf bytes.reverse = LittleEndian.valueOf bytes := by
  induction bytes with
  | nil => rfl
  | cons byte rest ih =>
    unfold valueOf at ih ⊢
    rw [List.reverse_cons, List.foldl_append, ih, List.foldl_cons, List.foldl_nil,
      LittleEndian.valueOf, Nat.add_comm, Nat.mul_comm]

theorem valueOf_bytesOf (width n : Nat) :
    valueOf (bytesOf width n) = LittleEndian.valueOf (LittleEndian.bytesOf width n) :=
  valueOf_reverse _

end Airdrop.BigEndian
