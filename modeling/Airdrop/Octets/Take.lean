import Airdrop.Address
import Airdrop.Octets.LittleEndian

/-!
# Octets/Take — values off the front of bytes

Ledger data has no delimiters: each value is a fixed number of bytes, the next one follows at once.
A `Take α` takes one value off the front, or says what is wrong with the bytes: **they end too early,
or a truth value is neither zero nor one**.
-/

namespace Airdrop

/-- What is wrong with bytes that are to be values. -/
inductive TakeFault
  /-- They end too early. -/
  | short
  /-- A truth value is neither zero nor one. -/
  | badBool (value : UInt8)
  deriving DecidableEq

/-- The fault in words. -/
def TakeFault.message : TakeFault → String
  | .short => "Unexpected length of input"
  | .badBool value => s!"Invalid bool representation: {value}"

/-- **Takes a value off the front of bytes.** -/
abbrev Take (α : Type) := StateT (List UInt8) (Except TakeFault) α

namespace Take

/-- Exactly `n` bytes. -/
def octets (n : Nat) : Take (Octets n) := fun bytes =>
  match Octets.take? n bytes with
  | some taken => .ok taken
  | none => .error .short

/-- One byte. -/
def byte : Take UInt8 := fun
  | [] => .error .short
  | b :: rest => .ok (b, rest)

/-- A truth value. -/
def bool : Take Bool := do
  let b ← byte
  if b = 0 then return false
  else if b = 1 then return true
  else throw (.badBool b)

/-- A 64-bit word. -/
def word : Take UInt64 := LittleEndian.word <$> octets 8

/-- A signed 64-bit word. -/
def signed : Take Int64 := LittleEndian.signed <$> octets 8

/-- An address. -/
def address : Take Address := Address.mk <$> octets 32

/-- A count in four bytes. -/
def count : Take Nat := (fun four => LittleEndian.valueOf four.toList) <$> octets 4

/-- The same kind of value `n` times. -/
def times {α : Type} (take : Take α) : (n : Nat) → Take (List α)
  | 0 => return []
  | n + 1 => do
    let first ← take
    let rest ← times take n
    return first :: rest

/-- A truth value in one byte. -/
def ofBool (value : Bool) : List UInt8 := [if value then 1 else 0]

@[simp] theorem octets_append {n : Nat} (a : Octets n) (rest : List UInt8) :
    octets n (a.toList ++ rest) = .ok (a, rest) := by
  simp [octets]

@[simp] theorem byte_cons (b : UInt8) (rest : List UInt8) : byte (b :: rest) = .ok (b, rest) := rfl

@[simp] theorem bool_append (value : Bool) (rest : List UInt8) :
    bool (ofBool value ++ rest) = .ok (value, rest) := by
  cases value <;> rfl

/-- The eight bytes of a word. -/
def wordOctets (w : UInt64) : Octets 8 := ⟨LittleEndian.ofWord w, LittleEndian.length_bytesOf 8 _⟩

theorem word_wordOctets (w : UInt64) : LittleEndian.word (wordOctets w) = w := by
  apply UInt64.toNat_inj.1
  simp only [LittleEndian.word, wordOctets, LittleEndian.ofWord, LittleEndian.valueOf_bytesOf,
    UInt64.toNat_ofNat']
  rw [show Nat.pow 256 8 = 18446744073709551616 from rfl]
  have := w.toNat_lt
  omega

end Take

end Airdrop
