import Airdrop.LoadError
import Airdrop.Text.Csv

/-!
# Allocation — who is to get how much

An allocation list is a table with the columns `pubkey` and `amount`.  **Every record is read as a
row before any row is converted**, so a record that is no row is reported even behind a row whose
address or amount is wrong, and a list is loaded whole or not at all.
-/

namespace Airdrop

/-- A row of an allocation list, as text. -/
structure AllocationRow where
  address : String
  amount : String
  deriving DecidableEq

/-- **One claimant's allocation**, in token units. -/
structure Allocation where
  address : Address
  amount : UInt64
  deriving DecidableEq

namespace AllocationRow

/-- The columns in which addresses and amounts stand, if each stands in exactly one. -/
def columns? (header : List String) : Option (Nat × Nat) :=
  if header.count "pubkey" = 1 ∧ header.count "amount" = 1 then
    some (header.idxOf "pubkey", header.idxOf "amount")
  else none

/-- Where to find the two fields: by the header, or in the first two columns if the header is no
text. -/
def columnsUnder? (header : List (List UInt8)) : Option (Nat × Nat) :=
  match Csv.texts? header with
  | some names => columns? names
  | none => some (0, 1)

/-- **A record as a row**, below a header. -/
def ofRecord (header record : List (List UInt8)) : Except TableFault AllocationRow :=
  if record.length ≠ header.length then .error .unequalLengths
  else match Csv.texts? record with
    | none => .error .notText
    | some fields =>
      match columnsUnder? header with
      | none => .error .columns
      | some (address, amount) =>
        match fields[address]?, fields[amount]? with
        | some address, some amount => .ok ⟨address, amount⟩
        | _, _ => .error .columns

/-- The rows below a header. -/
def ofRecords (header : List (List UInt8)) (records : List (List (List UInt8))) :
    Except TableFault (List AllocationRow) :=
  records.mapM (ofRecord header)

/-- **The rows of a table.**  The first record is the header. -/
def ofTable (table : List UInt8) : Except TableFault (List AllocationRow) :=
  match Csv.records table with
  | [] => .ok []
  | header :: records => ofRecords header records

end AllocationRow

namespace Allocation

/-- **The allocation of a row**: the address is read first, then the amount. -/
def ofRow (decimals : Nat) (row : AllocationRow) : Except LoadError Allocation :=
  match Address.ofText row.address with
  | .error _ => .error (.invalidAddress row.address)
  | .ok address =>
    match Amount.scale row.amount decimals with
    | .error fault => .error (.invalidAmount row.amount fault)
    | .ok amount => .ok ⟨address, amount⟩

/-- **The allocations of a table**, in order. -/
def ofTable (decimals : Nat) (table : List UInt8) : Except LoadError (List Allocation) :=
  match AllocationRow.ofTable table with
  | .error fault => .error (.malformedTable fault)
  | .ok rows => rows.mapM (ofRow decimals)

/-- **The allocations of a file.**  A directory can be opened, but has no records. -/
def load (decimals : Nat) (file : Except FileFault (List UInt8)) :
    Except LoadError (List Allocation) :=
  match file with
  | .ok table => ofTable decimals table
  | .error .isDirectory => .ok []
  | .error fault => .error (.unreadable fault)

end Allocation

end Airdrop
