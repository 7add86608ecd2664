import Airdrop.Proofs.Address.Text
import Airdrop.Proofs.Allocation
import Airdrop.Proofs.Text.Csv

/-!
# Proofs/Allocation/Table — a list is loaded as the rows that were written in it

However the rows of an allocation list are written (columns in either order, fields bare or in
quotes, lines with either end, empty lines between them), **the list is loaded row by row**, with
the address and the scaled amount of each, in order, and an address twice if it is there twice
(`load_exact`).  Only its own text is read as an address, so no two texts stand for one.
-/

namespace Airdrop

open Csv Text.Utf8

theorem Address.isBare_text (address : Address) : IsBare address.text where
  ne_nil hnil := by
    have hread := Address.ofText_eq_ok_iff.2 (rfl : address.text = address.text)
    rw [String.toList_eq_nil_iff.1 hnil] at hread
    have hempty : Address.ofText "" = .error .wrongSize := rfl
    rw [hempty] at hread
    cases hread
  visible := address.forall_mem_text (by decide)

namespace Amount

/-- A text of digits and dots that can be scaled may stand bare. -/
theorem isBare_of_scale {text : String} {decimals : Nat} {units : UInt64}
    (htext : ∀ c ∈ text.toList, Text.isDigit c = true ∨ c = '.')
    (h : scale text decimals = .ok units) : IsBare text where
  ne_nil hnil := by
    unfold scale at h
    rw [hnil] at h
    cases h
  visible c hc := by
    rcases htext c hc with hdigit | rfl
    · have hc : '0' ≤ c ∧ c ≤ '9' := by simpa [Text.isDigit] using hdigit
      have hlow : 48 ≤ c.toNat := Char.le_def.1 hc.1
      have hhigh : c.toNat ≤ 57 := Char.le_def.1 hc.2
      refine ⟨by omega, by omega, ?_, ?_⟩
      · rintro rfl
        exact absurd hlow (by decide)
      · rintro rfl
        exact absurd hlow (by decide)
    · decide

end Amount

namespace AllocationRow

/-- The two texts of a line, in the order of the columns. -/
def inColumns (reversed : Bool) (address amount : String) : List String :=
  if reversed then [amount, address] else [address, amount]

/-- **A record below the header is the row that was written in it**, whichever the order of the
columns. -/
theorem ofRecord_eq_ok {reversed : Bool} {header record : List (List UInt8)}
    {address amount : String}
    (hheader : header.length = 2 ∧ texts? header = some (inColumns reversed "pubkey" "amount"))
    (hrecord : record.length = 2 ∧ texts? record = some (inColumns reversed address amount)) :
    ofRecord header record = .ok ⟨address, amount⟩ := by
  unfold ofRecord columnsUnder?
  rw [if_neg (by rw [hheader.1, hrecord.1]; decide), hheader.2, hrecord.2]
  cases reversed <;> rfl

end AllocationRow

namespace Allocation

variable {decimals : Nat} {reversed : Bool} {rows : List (Address × String)} {table : List UInt8}

/-- The lines of a list: the header, and the two texts of each row. -/
def linesOf (reversed : Bool) (rows : List (Address × String)) : List (List String) :=
  AllocationRow.inColumns reversed "pubkey" "amount" ::
    rows.map fun row => AllocationRow.inColumns reversed row.1.text row.2

/-- **A row that can be loaded**: digits and dots, and they can be scaled. -/
def Loads (decimals : Nat) (row : Address × String) : Prop :=
  (∀ c ∈ row.2.toList, Text.isDigit c = true ∨ c = '.') ∧
    ∃ units, Amount.scale row.2 decimals = .ok units

theorem isBare_linesOf (h : ∀ row ∈ rows, Loads decimals row) :
    ∀ texts ∈ linesOf reversed rows, ∀ text ∈ texts, IsBare text := by
  have hcolumns : ∀ {address amount : String}, IsBare address → IsBare amount →
      ∀ text ∈ AllocationRow.inColumns reversed address amount, IsBare text :=
    fun haddress hamount => by
      cases reversed
      · exact List.forall_mem_cons.2 ⟨haddress, List.forall_mem_singleton.2 hamount⟩
      · exact List.forall_mem_cons.2 ⟨hamount, List.forall_mem_singleton.2 haddress⟩
  have haddress : IsBare "pubkey" := ⟨by decide, by simp⟩
  have hamount : IsBare "amount" := ⟨by decide, by simp⟩
  refine List.forall_mem_cons.2 ⟨hcolumns haddress hamount, List.forall_mem_map.2 fun row hrow => ?_⟩
  obtain ⟨htext, units, hunits⟩ := h row hrow
  exact hcolumns row.1.isBare_text (Amount.isBare_of_scale htext hunits)

/-- **The rows of a table are those that were written in it.** -/
theorem rows_of_table (h : ∀ row ∈ rows, Loads decimals row)
    (htable : Table (linesOf reversed rows) table) :
    AllocationRow.ofTable table = .ok (rows.map fun row => ⟨row.1.text, row.2⟩) := by
  have hrecords := htable.texts_records (isBare_linesOf h)
  unfold AllocationRow.ofTable
  match Csv.records table, hrecords with
  | header :: records, .cons hheader hmore =>
    have hlength : ∀ {address amount : String},
        (AllocationRow.inColumns reversed address amount).length = 2 := by
      cases reversed <;> intros <;> rfl
    rw [hlength] at hheader
    refine mapM_eq_ok_iff.2 ?_
    rw [List.forall₂_map_right_iff] at hmore ⊢
    refine hmore.imp fun record row hrecord => ?_
    rw [hlength] at hrecord
    exact AllocationRow.ofRecord_eq_ok hheader hrecord

/-- Every row is converted to its address and its scaled amount. -/
theorem exists_entries : ∀ {rows : List (Address × String)}, (∀ row ∈ rows, Loads decimals row) →
    ∃ entries : List Allocation,
      (rows.map fun row => (⟨row.1.text, row.2⟩ : AllocationRow)).mapM (ofRow decimals) =
        .ok entries ∧
      List.Forall₂ (fun row entry => entry.address = row.1 ∧
        Amount.scale row.2 decimals = .ok entry.amount) rows entries
  | [], _ => ⟨[], rfl, .nil⟩
  | row :: rows, h => by
      obtain ⟨⟨htext, units, hunits⟩, hrows⟩ := List.forall_mem_cons.1 h
      obtain ⟨entries, hentries, hall⟩ := exists_entries hrows
      refine ⟨⟨row.1, units⟩ :: entries, ?_, .cons ⟨rfl, hunits⟩ hall⟩
      rw [mapM_eq_ok_iff] at hentries ⊢
      exact .cons (ofRow_eq_ok_iff.2 ⟨Address.ofText_eq_ok_iff.2 rfl, hunits⟩) hentries

/-- **A list is loaded whole, in order and without aliases.**  However its rows are written, it is
loaded as an entry for each, in their order, with the address and the scaled amount of the row.  And
a row is converted only if its first text is the text of the address that it becomes, so no two
texts become one address. -/
theorem load_exact :
    (∀ {decimals : Nat} {reversed : Bool} {rows : List (Address × String)} {table : List UInt8},
      (∀ row ∈ rows, Loads decimals row) → Table (linesOf reversed rows) table →
      ∃ entries, load decimals (.ok table) = .ok entries ∧
        List.Forall₂ (fun row entry => entry.address = row.1 ∧
          Amount.scale row.2 decimals = .ok entry.amount) rows entries) ∧
    (∀ {decimals : Nat} {row : AllocationRow} {entry : Allocation},
      ofRow decimals row = .ok entry → row.address = entry.address.text) ∧
    ∀ {decimals decimals' : Nat} {row row' : AllocationRow} {entry entry' : Allocation},
      ofRow decimals row = .ok entry → ofRow decimals' row' = .ok entry' →
      row.address ≠ row'.address → entry.address ≠ entry'.address := by
  have htext : ∀ {decimals : Nat} {row : AllocationRow} {entry : Allocation},
      ofRow decimals row = .ok entry → row.address = entry.address.text := fun h =>
    Address.ofText_eq_ok_iff.1 (ofRow_eq_ok_iff.1 h).1
  refine ⟨fun {decimals reversed rows table} hrows htable => ?_, htext, fun h h' hne heq => ?_⟩
  · obtain ⟨entries, hentries, hall⟩ := exists_entries hrows
    refine ⟨entries, ?_, hall⟩
    rw [load]
    unfold ofTable
    rw [rows_of_table hrows htable]
    exact hentries
  · rw [htext h, htext h', heq] at hne
    exact hne rfl

/-- Two rows of one address. -/
def repeatedRows : List (Address × String) := [(default, "1.5"), (default, ".25")]

/-- They are written with the amounts in front, some fields bare and some in quotes, with an empty
line below the header, and without the end of the last line. -/
def mixedTable : List UInt8 :=
  (encode ([' '] ++ "amount".toList ++ ['\t']) ++
    0x2c :: (0x22 :: encode "pubkey".toList ++ [0x22])) ++ [0x0d, 0x0a] ++ ([0x0a] ++
  ((encode ([] ++ "1.5".toList ++ []) ++
      0x2c :: encode ([] ++ (default : Address).text.toList ++ [' '])) ++ [0x0a] ++
  ((0x22 :: encode ".25".toList ++ [0x22]) ++
    0x2c :: (0x22 :: encode (default : Address).text.toList ++ [0x22]))))

theorem table_mixedTable : Table (linesOf true repeatedRows) mixedTable := by
  have hnone : AllBlank [] := nofun
  have hspace : AllBlank [' '] := List.forall_mem_singleton.2 (.inl rfl)
  have htab : AllBlank ['\t'] := List.forall_mem_singleton.2 (.inr rfl)
  exact .line (.more (.bare hspace htab) (.one .quoted)) .crlf (.empty .lf
    (.line (.more (.bare hnone hnone) (.one (.bare hnone hspace))) .lf
      (.last (.more .quoted (.one .quoted)))))

theorem loads_repeatedRows : ∀ row ∈ repeatedRows, Loads 2 row :=
  List.forall_mem_cons.2 ⟨⟨by simp [Text.isDigit], 150, by rfl⟩,
    List.forall_mem_singleton.2 ⟨by simp [Text.isDigit], 25, by rfl⟩⟩

theorem load_exact_of_repeated :
    (∃ entries, load 2 (.ok mixedTable) = .ok entries ∧
      List.Forall₂ (fun row entry => entry.address = row.1 ∧
        Amount.scale row.2 2 = .ok entry.amount) repeatedRows entries) ∧
    (⟨(default : Address).text, "1"⟩ : AllocationRow).address =
      (⟨default, 100⟩ : Allocation).address.text ∧
    (⟨default, 100⟩ : Allocation).address ≠ (⟨⟨.replicate 32 1⟩, 100⟩ : Allocation).address := by
  obtain ⟨hload, htext, hne⟩ := load_exact
  have hscale : Amount.scale "1" 2 = .ok 100 := by rfl
  have hrow (address : Address) : ofRow 2 ⟨address.text, "1"⟩ = .ok ⟨address, 100⟩ :=
    ofRow_eq_ok_iff.2 ⟨Address.ofText_eq_ok_iff.2 rfl, hscale⟩
  refine ⟨hload loads_repeatedRows table_mixedTable, htext (hrow default),
    hne (hrow default) (hrow ⟨.replicate 32 1⟩) fun heq => ?_⟩
  have hread := Address.ofText_eq_ok_iff.2 heq
  rw [Address.ofText_eq_ok_iff.2 rfl] at hread
  exact absurd (Except.ok.inj hread) (by decide)

end Allocation

end Airdrop
