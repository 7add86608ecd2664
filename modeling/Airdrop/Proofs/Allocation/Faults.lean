import Airdrop.Proofs.Address.Text
import Airdrop.Proofs.Allocation
import Airdrop.Proofs.Amount

/-!
# Proofs/Allocation/Faults — a list is loaded whole, or not at all

A list is loaded in two passes: every record is read as a row, then every row is converted.  What
either takes is said by itself, of a record (`IsRow`, `NoRow`) and of a row (`Allots`,
`AllotsNothing`).  So **a record that is no row is told of before a row without an allocation**,
even if it stands behind it, and of each kind the first one is (`NotLoaded`).  A list with either
has no entries at all (`load_whole`).
-/

namespace Airdrop

/-! ## Records and rows -/

namespace AllocationRow

variable {names : List String} {name : String} {header record : List (List UInt8)}
  {i address amount : Nat} {row : AllocationRow} {fault : TableFault}

/-- **A name stands at a place of a header**, and nowhere else. -/
def OnlyAt (names : List String) (name : String) (i : Nat) : Prop :=
  ∃ before after, names = before ++ name :: after ∧ name ∉ before ∧ name ∉ after ∧
    before.length = i

/-- **Where the address and the amount of a record are**: under their names, or in the first two
fields if the header is no text. -/
inductive Columns (header : List (List UInt8)) : Nat → Nat → Prop
  | named {names : List String} {address amount : Nat} (htexts : Csv.texts? header = some names)
      (haddress : OnlyAt names "pubkey" address) (hamount : OnlyAt names "amount" amount) :
      Columns header address amount
  | unnamed (hnone : Csv.texts? header = none) : Columns header 0 1

/-- **A record is a row**: it has a field for each of the header, all of them are text, and two of
them are those of the row. -/
structure IsRow (header record : List (List UInt8)) (row : AllocationRow) : Prop where
  length_eq : record.length = header.length
  fields : ∃ texts address amount, Csv.texts? record = some texts ∧ Columns header address amount ∧
    texts[address]? = some row.address ∧ texts[amount]? = some row.amount

/-- **A record is no row**, for the first reason that there is. -/
inductive NoRow (header record : List (List UInt8)) : TableFault → Prop
  /-- It has another number of fields than the header. -/
  | unequal (hlength : record.length ≠ header.length) : NoRow header record .unequalLengths
  /-- It has as many, and one of them is no text. -/
  | unreadable (hlength : record.length = header.length) (hnone : Csv.texts? record = none) :
      NoRow header record .notText
  /-- All are text, and there are not both columns, each of them once. -/
  | incomplete {texts : List String} (hlength : record.length = header.length)
      (htexts : Csv.texts? record = some texts)
      (hcolumns : ∀ address amount, Columns header address amount →
        texts[address]? = none ∨ texts[amount]? = none) : NoRow header record .columns

/-- A name that is counted once is where it is first found. -/
theorem onlyAt_iff : OnlyAt names name i ↔ names.count name = 1 ∧ names.idxOf name = i := by
  constructor
  · rintro ⟨before, after, rfl, hbefore, hafter, rfl⟩
    rw [List.count_append, List.count_cons_self, List.count_eq_zero_of_not_mem hbefore,
      List.count_eq_zero_of_not_mem hafter, List.idxOf_append_of_notMem hbefore,
      List.idxOf_cons_self]
    exact ⟨rfl, rfl⟩
  · rintro ⟨hcount, rfl⟩
    have hmem : name ∈ names := List.count_pos_iff.1 (by omega)
    obtain ⟨before, after, rfl, hbefore⟩ := List.eq_append_cons_of_mem hmem
    rw [List.count_append, List.count_cons_self, List.count_eq_zero_of_not_mem hbefore] at hcount
    refine ⟨before, after, rfl, hbefore, List.count_eq_zero.1 (by omega), ?_⟩
    rw [List.idxOf_append_of_notMem hbefore, List.idxOf_cons_self, Nat.add_zero]

theorem columns?_eq_some_iff : columns? names = some (address, amount) ↔
    OnlyAt names "pubkey" address ∧ OnlyAt names "amount" amount := by
  rw [onlyAt_iff, onlyAt_iff, columns?]
  split
  · next h => simp [h.1, h.2]
  · next h =>
    constructor
    · nofun
    · rintro ⟨⟨haddress, -⟩, hamount, -⟩
      exact absurd ⟨haddress, hamount⟩ h

theorem columnsUnder?_eq_some_iff : columnsUnder? header = some (address, amount) ↔
    Columns header address amount := by
  unfold columnsUnder?
  cases htexts : Csv.texts? header with
  | some names =>
    rw [columns?_eq_some_iff]
    constructor
    · rintro ⟨haddress, hamount⟩
      exact .named htexts haddress hamount
    · rintro (⟨htexts', haddress, hamount⟩ | hnone)
      · obtain rfl := Option.some.inj (htexts.symm.trans htexts')
        exact ⟨haddress, hamount⟩
      · cases htexts.symm.trans hnone
  | none =>
    constructor
    · intro h
      cases h
      exact .unnamed htexts
    · rintro (⟨htexts', -, -⟩ | -)
      · cases htexts.symm.trans htexts'
      · rfl

theorem IsRow.ofRecord (h : IsRow header record row) : ofRecord header record = .ok row := by
  obtain ⟨hlength, texts, address, amount, htexts, hcolumns, haddress, hamount⟩ := h
  unfold AllocationRow.ofRecord
  rw [if_neg (not_not_intro hlength), htexts, columnsUnder?_eq_some_iff.2 hcolumns]
  dsimp only
  rw [haddress, hamount]

theorem NoRow.ofRecord (h : NoRow header record fault) :
    ofRecord header record = .error fault := by
  unfold AllocationRow.ofRecord
  cases h with
  | unequal hlength => exact if_pos hlength
  | unreadable hlength hnone => rw [if_neg (not_not_intro hlength), hnone]
  | incomplete hlength htexts hcolumns =>
    rw [if_neg (not_not_intro hlength), htexts]
    cases hwhere : columnsUnder? header with
    | none => rfl
    | some columns =>
      dsimp only
      split
      · next haddress hamount =>
        rcases hcolumns _ _ (columnsUnder?_eq_some_iff.1 hwhere) with hnone | hnone
        · cases haddress.symm.trans hnone
        · cases hamount.symm.trans hnone
      · rfl

/-- A record is a row, or there is a reason why it is none. -/
theorem isRow_or_noRow (header record : List (List UInt8)) :
    (∃ row, IsRow header record row) ∨ ∃ fault, NoRow header record fault := by
  by_cases hlength : record.length = header.length
  · cases htexts : Csv.texts? record with
    | none => exact .inr ⟨_, .unreadable hlength htexts⟩
    | some texts =>
      by_cases h : ∃ address amount a m, Columns header address amount ∧
          texts[address]? = some a ∧ texts[amount]? = some m
      · obtain ⟨address, amount, a, m, hcolumns, ha, hm⟩ := h
        exact .inl ⟨⟨a, m⟩, hlength, texts, address, amount, htexts, hcolumns, ha, hm⟩
      · refine .inr ⟨_, .incomplete hlength htexts fun address amount hcolumns => ?_⟩
        rw [or_iff_not_imp_left, ← ne_eq, Option.ne_none_iff_exists',
          Option.eq_none_iff_forall_ne_some]
        rintro ⟨a, ha⟩ m hm
        exact h ⟨address, amount, a, m, hcolumns, ha, hm⟩
  · exact .inr ⟨_, .unequal hlength⟩

/-- **A record is read as the row that it is**, -/
theorem ofRecord_eq_ok_iff : ofRecord header record = .ok row ↔ IsRow header record row := by
  refine ⟨fun h => ?_, IsRow.ofRecord⟩
  rcases isRow_or_noRow header record with ⟨row', hrow⟩ | ⟨fault, hfault⟩
  · cases h.symm.trans hrow.ofRecord
    exact hrow
  · cases h.symm.trans hfault.ofRecord

/-- …and refused for the reason why it is none. -/
theorem ofRecord_eq_error_iff : ofRecord header record = .error fault ↔
    NoRow header record fault := by
  refine ⟨fun h => ?_, NoRow.ofRecord⟩
  rcases isRow_or_noRow header record with ⟨row, hrow⟩ | ⟨fault', hfault⟩
  · cases h.symm.trans hrow.ofRecord
  · cases h.symm.trans hfault.ofRecord
    exact hfault

end AllocationRow

/-! ## Rows and allocations -/

namespace Allocation

open AllocationRow

variable {decimals : Nat} {row : AllocationRow} {entry : Allocation} {e : LoadError}

/-- **A row allots**: its one text is that of an address, and its other a decimal, which is the
amount in units of `10 ^ -decimals`, rounded down. -/
structure Allots (decimals : Nat) (row : AllocationRow) (entry : Allocation) : Prop where
  address : row.address = entry.address.text
  /-- A word has room for `10 ^ decimals`. -/
  decimals_le : decimals ≤ 19
  amount : ∃ whole fraction, Amount.IsDecimal (Text.trim row.amount.toList) whole fraction ∧
    entry.amount.toNat = ⌊Amount.decimalValue whole fraction * 10 ^ decimals⌋₊

/-- **A row allots nothing**, for the first reason that there is. -/
inductive AllotsNothing (decimals : Nat) (row : AllocationRow) : LoadError → Prop
  /-- Its one text is that of no address, whatever its other is. -/
  | unaddressed (hnone : ∀ address : Address, row.address ≠ address.text) :
      AllotsNothing decimals row (.invalidAddress row.address)
  /-- It is that of an address, and its other text is refused as an amount. -/
  | unscaled {address : Address} {fault : Amount.Fault} (haddress : row.address = address.text)
      (hrefused : Amount.Refused (Text.trim row.amount.toList) decimals fault) :
      AllotsNothing decimals row (.invalidAmount row.amount fault)

/-- **A row is converted to what it allots**, -/
theorem ofRow_eq_ok_iff_allots : ofRow decimals row = .ok entry ↔ Allots decimals row entry := by
  rw [ofRow_eq_ok_iff, Address.ofText_eq_ok_iff, Amount.scale_eq_ok_iff]
  exact ⟨fun ⟨haddress, hfew, hamount⟩ => ⟨haddress, hfew, hamount⟩,
    fun ⟨haddress, hfew, hamount⟩ => ⟨haddress, hfew, hamount⟩⟩

/-- …and refused for the reason why it allots nothing. -/
theorem ofRow_eq_error_iff : ofRow decimals row = .error e ↔ AllotsNothing decimals row e := by
  unfold ofRow
  cases haddress : Address.ofText row.address with
  | error fault =>
    have hnone : ∀ address : Address, row.address ≠ address.text := fun address h => by
      cases haddress.symm.trans (Address.ofText_eq_ok_iff.2 h)
    constructor
    · intro h
      cases h
      exact .unaddressed hnone
    · rintro (_ | ⟨h, -⟩)
      · rfl
      · exact absurd h (hnone _)
  | ok address =>
    have htext := Address.ofText_eq_ok_iff.1 haddress
    dsimp only
    cases hscale : Amount.scale row.amount decimals with
    | error fault =>
      constructor
      · intro h
        cases h
        exact .unscaled htext (Amount.scale_eq_error_iff.1 hscale)
      · rintro (hnone | ⟨-, hrefused⟩)
        · exact absurd htext (hnone address)
        · cases hscale.symm.trans (Amount.scale_eq_error_iff.2 hrefused)
          rfl
    | ok amount =>
      refine ⟨nofun, ?_⟩
      rintro (hnone | ⟨-, hrefused⟩)
      · exact absurd htext (hnone address)
      · cases hscale.symm.trans (Amount.scale_eq_error_iff.2 hrefused)

/-! ## Tables -/

variable {header : List (List UInt8)} {records : List (List (List UInt8))} {table : List UInt8}
  {entries : List Allocation}

/-- **Why the records below a header are not loaded.** -/
inductive NotLoaded (decimals : Nat) (header : List (List UInt8))
    (records : List (List (List UInt8))) : LoadError → Prop
  /-- One is no row, and all before it are rows, whatever they allot. -/
  | noRow {i : Nat} {record : List (List UInt8)} {fault : TableFault}
      (hrecord : records[i]? = some record) (hnone : NoRow header record fault)
      (hearlier : ∀ (j : Nat) earlier, j < i → records[j]? = some earlier →
        ∃ row, IsRow header earlier row) :
      NotLoaded decimals header records (.malformedTable fault)
  /-- All are rows; one of these allots nothing, and all before it do. -/
  | noAllocation {rows : List AllocationRow} {i : Nat} {row : AllocationRow} {e : LoadError}
      (hrows : List.Forall₂ (IsRow header) records rows) (hrow : rows[i]? = some row)
      (hnone : AllotsNothing decimals row e)
      (hearlier : ∀ (j : Nat) earlier, j < i → rows[j]? = some earlier →
        ∃ entry, Allots decimals earlier entry) :
      NotLoaded decimals header records e

/-- Loading reads all records, then converts all rows. -/
theorem load_eq (decimals : Nat) (table : List UInt8) : load decimals (.ok table) =
    match (Csv.data table).mapM (ofRecord (Csv.header table)) with
      | .error fault => .error (.malformedTable fault)
      | .ok rows => rows.mapM (ofRow decimals) := by
  change (match AllocationRow.ofTable table with
    | .error fault => Except.error (LoadError.malformedTable fault)
    | .ok rows => rows.mapM (ofRow decimals)) = _
  rw [AllocationRow.ofTable_eq, ofRecords]

/-- **A list is loaded record by record.** -/
theorem load_eq_ok_iff : load decimals (.ok table) = .ok entries ↔
    List.Forall₂ (fun record entry => ∃ row, IsRow (Csv.header table) record row ∧
      Allots decimals row entry) (Csv.data table) entries := by
  simp only [← ofRecord_eq_ok_iff, ← ofRow_eq_ok_iff_allots]
  rw [← exists_mapM_mapM_iff, load_eq]
  cases (Csv.data table).mapM (ofRecord (Csv.header table)) with
  | error fault => exact iff_of_false nofun fun ⟨_, h, _⟩ => nomatch h
  | ok rows =>
    constructor
    · exact fun h => ⟨rows, rfl, h⟩
    · rintro ⟨_, hrows, h⟩
      cases hrows
      exact h

/-- **A list is not loaded for one reason**, and that is the one told. -/
theorem load_eq_error_iff : load decimals (.ok table) = .error e ↔
    NotLoaded decimals (Csv.header table) (Csv.data table) e := by
  rw [load_eq]
  constructor
  · intro h
    split at h
    · next fault hread =>
      cases h
      obtain ⟨i, record, hrecord, hnone, hearlier⟩ := mapM_eq_error_iff.1 hread
      simp only [ofRecord_eq_error_iff, ofRecord_eq_ok_iff] at hnone hearlier
      exact .noRow hrecord hnone hearlier
    · next rows hread =>
      rw [mapM_eq_ok_iff] at hread
      obtain ⟨i, row, hrow, hnone, hearlier⟩ := mapM_eq_error_iff.1 h
      simp only [ofRow_eq_error_iff, ofRow_eq_ok_iff_allots] at hnone hearlier
      exact .noAllocation (hread.imp fun _ _ => ofRecord_eq_ok_iff.1) hrow hnone hearlier
  · rintro (⟨hrecord, hnone, hearlier⟩ | ⟨hrows, hrow, hnone, hearlier⟩)
    · simp only [← ofRecord_eq_error_iff, ← ofRecord_eq_ok_iff] at hnone hearlier
      rw [mapM_eq_error_iff.2 ⟨_, _, hrecord, hnone, hearlier⟩]
    · simp only [← ofRow_eq_error_iff, ← ofRow_eq_ok_iff_allots] at hnone hearlier
      rw [mapM_eq_ok_iff.2 (hrows.imp fun _ _ => ofRecord_eq_ok_iff.2)]
      exact mapM_eq_error_iff.2 ⟨_, _, hrow, hnone, hearlier⟩

/-- **A list is loaded whole, or not at all.**  It is loaded if every record below the header is a
row and every row allots something; then it has the entries that these allot, one for each record
and in their order.  Otherwise it has none: the first record that is no row is told of, whatever the
rows before it allot, and only if there is none the first row that allots nothing. -/
theorem load_whole (decimals : Nat) (table : List UInt8) :
    ((∃ entries, load decimals (.ok table) = .ok entries) ↔
      ∀ record ∈ Csv.data table, ∃ entry row, IsRow (Csv.header table) record row ∧
        Allots decimals row entry) ∧
    (∀ entries, load decimals (.ok table) = .ok entries ↔
      List.Forall₂ (fun record entry => ∃ row, IsRow (Csv.header table) record row ∧
        Allots decimals row entry) (Csv.data table) entries) ∧
    ∀ e, load decimals (.ok table) = .error e ↔
      NotLoaded decimals (Csv.header table) (Csv.data table) e := by
  refine ⟨?_, fun entries => load_eq_ok_iff, fun e => load_eq_error_iff⟩
  simp only [load_eq_ok_iff]
  exact exists_forall₂_iff

/-- A list whose one row has neither an address nor an amount. -/
def worthlessRow : List UInt8 := Text.Utf8.encode "pubkey,amount\nx,-\n".toList

/-- The same with a record of three fields behind it. -/
def worthlessThenLong : List UInt8 := worthlessRow ++ Text.Utf8.encode "y,1,2\n".toList

theorem isRow_worthless : IsRow (Csv.header worthlessRow) [[0x78], [0x2d]] ⟨"x", "-"⟩ :=
  ofRecord_eq_ok_iff.1 (toOption_eq_some_iff.1 (by decide +kernel))

theorem allotsNothing_worthless :
    AllotsNothing 2 ⟨"x", "-"⟩ (.invalidAddress "x") := by
  have hread : Address.ofText "x" = .error .wrongSize := rfl
  refine .unaddressed fun address haddress => ?_
  cases hread.symm.trans (Address.ofText_eq_ok_iff.2 haddress)

/-- The address of the row is told of; with the long record behind it, that is, and not the row. -/
theorem load_whole_of_worthless :
    load 2 (.ok worthlessRow) = .error (.invalidAddress "x") ∧
    load 2 (.ok worthlessThenLong) = .error (.malformedTable .unequalLengths) := by
  obtain ⟨-, -, hrow⟩ := load_whole 2 worthlessRow
  obtain ⟨-, -, hlong⟩ := load_whole 2 worthlessThenLong
  have hdata : Csv.data worthlessRow = [[[0x78], [0x2d]]] := by decide +kernel
  have hdata' : Csv.data worthlessThenLong =
      [[[0x78], [0x2d]], [[0x79], [0x31], [0x32]]] := by decide +kernel
  have hheader : Csv.header worthlessThenLong = Csv.header worthlessRow := by decide +kernel
  rw [hdata] at hrow
  rw [hdata', hheader] at hlong
  refine ⟨(hrow _).2 (.noAllocation (.cons isRow_worthless .nil) (i := 0) rfl
    allotsNothing_worthless nofun), (hlong _).2 (.noRow (i := 1) rfl (.unequal ?_) ?_)⟩
  · decide +kernel
  · intro j earlier hj hearlier
    obtain rfl : j = 0 := Nat.lt_one_iff.1 hj
    cases hearlier
    exact ⟨_, isRow_worthless⟩

end Allocation

end Airdrop
