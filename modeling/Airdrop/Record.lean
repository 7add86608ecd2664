import Airdrop.Octets.Take

/-!
# Record — ledger records of a fixed layout

A record is kept in an account as eight bytes that tell its kind, followed by its fields in order,
each in a fixed number of bytes.  `Record.decode` checks, in this order, that **the tag is whole,
right, and followed by a whole body**; only truth values can then still be wrong.  Bytes behind the
body do not matter.
-/

namespace Airdrop

/-- Why account data is no record. -/
inductive DecodeFault
  /-- It is a record of another kind. -/
  | wrongTag (expected found : Octets 8)
  /-- It is too short. -/
  | truncated (expected actual : Nat)
  /-- The account belongs to another program. -/
  | foreign (expected found : Address)
  /-- A field has no value. -/
  | malformed (fault : TakeFault)
  deriving DecidableEq

/-- Bytes as a list of numbers. -/
def numbersText (bytes : List UInt8) : String :=
  "[" ++ ", ".intercalate (bytes.map toString) ++ "]"

/-- The fault in words. -/
def DecodeFault.message : DecodeFault → String
  | .wrongTag expected found =>
    "Bad discriminator: expected " ++ numbersText expected.toList ++ ", found " ++
      numbersText found.toList
  | .truncated expected actual =>
    s!"Truncated buffer: expected at least {expected} bytes, got {actual}"
  | .foreign expected found => s!"Account is owned by {found}, expected {expected}"
  | .malformed fault => "Malformed account data: " ++ fault.message

/-- **A kind of record.** -/
class Record (ρ : Type) where
  /-- The eight bytes that tell the kind. -/
  tag : Octets 8
  /-- The bytes of all fields together. -/
  bodyLength : Nat
  /-- The bytes of each field, in order. -/
  fields : ρ → List (List UInt8)
  /-- The fields have `bodyLength` bytes. -/
  length_fields : ∀ r, (fields r).flatten.length = bodyLength
  /-- Take the fields, in order. -/
  take : Take ρ

namespace Record

/-- The bytes of every tag. -/
def tagLength : Nat := 8

/-- The bytes of a whole record. -/
def length (ρ : Type) [Record ρ] : Nat := tagLength + bodyLength ρ

variable {ρ : Type} [Record ρ]

/-- **The bytes of a record.** -/
def encode (r : ρ) : List UInt8 := (tag ρ).toList ++ (fields r).flatten

theorem length_encode (r : ρ) : (encode r).length = length ρ := by
  rw [encode, List.length_append, length_fields, (tag ρ).length_toList, length, tagLength]

variable (ρ)

/-- Take the fields of a body. -/
def decodeBody (body : List UInt8) : Except DecodeFault ρ :=
  match (take : Take ρ).run' body with
  | .ok r => .ok r
  | .error fault => .error (.malformed fault)

/-- **The record of account data.** -/
def decode (data : List UInt8) : Except DecodeFault ρ :=
  match Octets.take? 8 data with
  | none => .error (.truncated (length ρ) data.length)
  | some (found, rest) =>
    if found ≠ tag ρ then .error (.wrongTag (tag ρ) found)
    else if data.length < length ρ then .error (.truncated (length ρ) data.length)
    else decodeBody ρ (rest.take (bodyLength ρ))

/-- **The record of an account**, which has to belong to the program. -/
def decodeOwned (program owner : Address) (data : List UInt8) : Except DecodeFault ρ :=
  if owner ≠ program then .error (.foreign program owner) else decode ρ data

variable {ρ}

/-- A record is read from its owner's accounts only. -/
theorem decodeOwned_eq_ok_iff {program owner : Address} {data : List UInt8} {record : ρ} :
    decodeOwned ρ program owner data = .ok record ↔
      owner = program ∧ decode ρ data = .ok record := by
  by_cases howner : owner = program <;> simp [decodeOwned, howner]

/-- The account of the program itself. -/
@[simp] theorem decodeOwned_self (owner : Address) (data : List UInt8) :
    decodeOwned ρ owner owner data = decode ρ data := if_neg (not_not_intro rfl)

end Record

end Airdrop
