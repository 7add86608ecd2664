import Airdrop.Allocation
import Airdrop.Proofs.Result

/-!
# Proofs/Allocation — an allocation for every record

An allocation list is loaded record by record, so **the allocations stand beside the data records of
the table, in the same order and number** (`getElem?_of_ofTable`), each with the address and the
scaled amount of its record.
-/

namespace Airdrop

/-- The header of a table. -/
def Csv.header (table : List UInt8) : List (List UInt8) := (Csv.records table).headD []

/-- **The data records of a table**: all but the first. -/
def Csv.data (table : List UInt8) : List (List (List UInt8)) := (Csv.records table).tail

/-- The rows of a table are its data records, read below the header. -/
theorem AllocationRow.ofTable_eq (table : List UInt8) :
    AllocationRow.ofTable table = AllocationRow.ofRecords (Csv.header table) (Csv.data table) := by
  unfold AllocationRow.ofTable Csv.header Csv.data
  cases Csv.records table <;> rfl

namespace Allocation

/-- **A row is an allocation** if its address is one and its amount can be scaled. -/
theorem ofRow_eq_ok_iff {decimals : Nat} {row : AllocationRow} {entry : Allocation} :
    ofRow decimals row = .ok entry ↔ Address.ofText row.address = .ok entry.address ∧
      Amount.scale row.amount decimals = .ok entry.amount := by
  obtain ⟨address, amount⟩ := entry
  unfold ofRow
  cases Address.ofText row.address with
  | error fault => simp
  | ok read => cases Amount.scale row.amount decimals <;> simp

/-- **A loaded list has an allocation for every data record**, and no other. -/
theorem getElem?_of_ofTable {decimals : Nat} {table : List UInt8} {entries : List Allocation}
    (h : ofTable decimals table = .ok entries) : entries.length = (Csv.data table).length ∧
      ∀ (i : Nat) record, (Csv.data table)[i]? = some record →
        ∃ row entry, entries[i]? = some entry ∧
          AllocationRow.ofRecord (Csv.header table) record = .ok row ∧
          Address.ofText row.address = .ok entry.address ∧
          Amount.scale row.amount decimals = .ok entry.amount := by
  unfold ofTable at h
  rw [AllocationRow.ofTable_eq] at h
  split at h
  · cases h
  · next rows hrows =>
    obtain ⟨hlength, hread⟩ := getElem?_of_mapM hrows
    obtain ⟨hlength', hconverted⟩ := getElem?_of_mapM h
    refine ⟨hlength'.trans hlength, fun i record hi => ?_⟩
    obtain ⟨row, hrow, hrecord⟩ := hread i record hi
    obtain ⟨entry, hentry, hofRow⟩ := hconverted i row hrow
    exact ⟨row, entry, hentry, hrecord, ofRow_eq_ok_iff.1 hofRow⟩

end Allocation

end Airdrop
