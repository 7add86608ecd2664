import Airdrop.Proofs.Text.Utf8
import Airdrop.Text.Csv
import Mathlib.Data.List.Forall2

/-!
# Proofs/Text/Csv — a table is read as the texts that were written in it

Texts without blanks, quotes and commas are written as fields in many ways: bare, with blanks
around, or in quotes; records end in a line feed, with a carriage return before it or not, and the
last one may not end at all; empty lines stand anywhere (`Table`).  **Whichever way was taken, the
same texts are read** (`Table.texts_records`).  Reading goes byte by byte, so there is one lemma for
what each part of a table does to what has been read.
-/

namespace Airdrop.Csv

open Text.Utf8 Scan

/-! ## How texts are written -/

/-- **A text that may stand bare**: there is something in it, but no blank, quote or comma, and all
of it is ASCII. -/
structure IsBare (text : String) : Prop where
  ne_nil : text.toList ≠ []
  visible : ∀ c ∈ text.toList, 0x20 < c.toNat ∧ c.toNat < 0x80 ∧ c ≠ '"' ∧ c ≠ ','

/-- Blanks that may stand around a field. -/
def AllBlank (text : List Char) : Prop := ∀ c ∈ text, c = ' ' ∨ c = '\t'

/-- **Bytes are a field of a text**: bare with blanks around, or in quotes. -/
inductive Field (text : String) : List UInt8 → Prop
  | bare {before after : List Char} (hbefore : AllBlank before) (hafter : AllBlank after) :
      Field text (encode (before ++ text.toList ++ after))
  | quoted : Field text (0x22 :: encode text.toList ++ [0x22])

/-- **Bytes are a line of texts**: a field of each, with commas between them. -/
inductive Line : List String → List UInt8 → Prop
  | one {text : String} {field : List UInt8} (hfield : Field text field) : Line [text] field
  | more {text : String} {texts : List String} {field line : List UInt8} (hfield : Field text field)
      (h : Line texts line) : Line (text :: texts) (field ++ 0x2c :: line)

/-- The end of a line, in either of its forms. -/
inductive LineEnd : List UInt8 → Prop
  | lf : LineEnd [0x0a]
  | crlf : LineEnd [0x0d, 0x0a]

/-- **Bytes are a table of records**: a line of each, ended but for the last, which may be, and
empty lines anywhere. -/
inductive Table : List (List String) → List UInt8 → Prop
  | nothing : Table [] []
  | empty {records : List (List String)} {ending table : List UInt8} (hending : LineEnd ending)
      (h : Table records table) : Table records (ending ++ table)
  | line {texts : List String} {records : List (List String)} {line ending table : List UInt8}
      (hline : Line texts line) (hending : LineEnd ending) (h : Table records table) :
      Table (texts :: records) (line ++ ending ++ table)
  | last {texts : List String} {line : List UInt8} (hline : Line texts line) : Table [texts] line

/-! ## Bytes of a field -/

/-- A byte that begins nothing and ends nothing. -/
def Ordinary (byte : UInt8) : Prop := byte ≠ 0x22 ∧ byte ≠ 0x2c ∧ isLineEnd byte = false

/-- Nothing of a field has been read. -/
def Fresh (s : Scan) : Prop := s.place = .record ∨ s.place = .field

/-- A field has been read, but perhaps not to its end. -/
def Inside (s : Scan) : Prop := s.place = .plain ∨ s.place = .quote

theorem outside_of_ordinary {s : Scan} {byte : UInt8} (h : Ordinary byte) :
    s.outside byte = s.add byte .plain := by
  rw [outside, if_neg h.2.1, h.2.2]
  rfl

theorem step_of_fresh {s : Scan} {byte : UInt8} (hs : Fresh s) (h : Ordinary byte) :
    s.step byte = s.add byte .plain := by
  have hstart : s.atStart byte = s.add byte .plain := by
    rw [atStart, if_neg h.1, outside_of_ordinary h]
  rcases hs with hs | hs
  · rw [step, hs]
    dsimp only
    rw [h.2.2]
    exact hstart
  · rw [step, hs]
    exact hstart

theorem foldl_ordinary : ∀ {bytes : List UInt8} {s : Scan}, s.place = .plain →
    (∀ b ∈ bytes, Ordinary b) →
    bytes.foldl step s = { s with field := bytes.reverse ++ s.field }
  | [], _, _, _ => rfl
  | byte :: bytes, s, hs, h => by
      obtain ⟨hbyte, hbytes⟩ := List.forall_mem_cons.1 h
      have hstep : s.step byte = s.add byte .plain := by
        rw [step, hs]
        exact outside_of_ordinary hbyte
      rw [List.foldl_cons, hstep, foldl_ordinary rfl hbytes, List.reverse_cons, List.append_assoc]
      simp [add, hs]

/-- **A bare field is read as its bytes.** -/
theorem foldl_bare {bytes : List UInt8} (hne : bytes ≠ []) (h : ∀ b ∈ bytes, Ordinary b) {s : Scan}
    (hs : Fresh s) :
    bytes.foldl step s = { s with place := .plain, field := bytes.reverse ++ s.field } := by
  obtain ⟨byte, bytes, rfl⟩ := List.exists_cons_of_ne_nil hne
  obtain ⟨hbyte, hbytes⟩ := List.forall_mem_cons.1 h
  rw [List.foldl_cons, step_of_fresh hs hbyte, foldl_ordinary rfl hbytes, List.reverse_cons,
    List.append_assoc]
  rfl

theorem foldl_inQuotes : ∀ {bytes : List UInt8} {s : Scan}, s.place = .quoted →
    (∀ b ∈ bytes, b ≠ 0x22) →
    bytes.foldl step s = { s with field := bytes.reverse ++ s.field }
  | [], _, _, _ => rfl
  | byte :: bytes, s, hs, h => by
      obtain ⟨hbyte, hbytes⟩ := List.forall_mem_cons.1 h
      have hstep : s.step byte = s.add byte .quoted := by
        rw [step, hs]
        exact if_neg hbyte
      rw [List.foldl_cons, hstep, foldl_inQuotes rfl hbytes, List.reverse_cons, List.append_assoc]
      simp [add, hs]

/-- **A quoted field is read as the bytes between its quotes.** -/
theorem foldl_quoted {bytes : List UInt8} (h : ∀ b ∈ bytes, b ≠ 0x22) {s : Scan} (hs : Fresh s) :
    (0x22 :: bytes ++ [0x22]).foldl step s =
      { s with place := .quote, field := bytes.reverse ++ s.field } := by
  have hopen : s.step 0x22 = { s with place := .quoted } := by
    rcases hs with hs | hs <;> rw [step, hs] <;> rfl
  rw [List.cons_append, List.foldl_cons, hopen, List.foldl_append, foldl_inQuotes rfl h]
  rfl

/-! ## Fields -/

theorem ordinary_ascii {c : Char} (hlt : c.toNat < 0x80) (hlow : 0x20 ≤ c.toNat ∨ c = '\t')
    (hquote : c ≠ '"') (hcomma : c ≠ ',') : Ordinary (ascii c) := by
  have hne : ∀ c' : Char, c ≠ c' → c'.toNat < 0x80 → ascii c ≠ ascii c' := fun c' hc hlt' heq => by
    have hnat := congrArg UInt8.toNat heq
    rw [toNat_ascii hlt, toNat_ascii hlt'] at hnat
    exact hc (Char.ext (UInt32.toNat_inj.1 hnat))
  have hend : ∀ c' : Char, c'.toNat < 0x20 → c' ≠ '\t' → ascii c ≠ ascii c' := fun c' hc' htab =>
    hne c' (by rintro rfl; rcases hlow with hlow | hlow <;> [omega; exact htab hlow])
      (Nat.lt_trans hc' (by decide))
  refine ⟨hne '"' hquote (by decide), hne ',' hcomma (by decide), ?_⟩
  rw [isLineEnd, Bool.or_eq_false_iff, beq_eq_false_iff_ne, beq_eq_false_iff_ne]
  exact ⟨hend '\n' (by decide) (by decide), hend '\r' (by decide) (by decide)⟩

theorem IsBare.lt {text : String} (h : IsBare text) : ∀ c ∈ text.toList, c.toNat < 0x80 :=
  fun c hc => (h.visible c hc).2.1

theorem IsBare.ordinary {text : String} (h : IsBare text) :
    ∀ b ∈ encode text.toList, Ordinary b := by
  rw [encode_of_lt h.lt]
  refine List.forall_mem_map.2 fun c hc => ?_
  obtain ⟨hlow, hlt, hquote, hcomma⟩ := h.visible c hc
  exact ordinary_ascii hlt (.inl (Nat.le_of_lt hlow)) hquote hcomma

theorem AllBlank.ordinary {text : List Char} (h : AllBlank text) :
    ∀ b ∈ encode text, Ordinary b := by
  have hlt : ∀ c ∈ text, c.toNat < 0x80 := fun c hc => by
    rcases h c hc with rfl | rfl <;> decide
  rw [encode_of_lt hlt]
  refine List.forall_mem_map.2 fun c hc => ?_
  rcases h c hc with rfl | rfl
  · exact ordinary_ascii (by decide) (.inl (by decide)) (by decide) (by decide)
  · exact ordinary_ascii (by decide) (.inr rfl) (by decide) (by decide)

/-- Blanks around a text without any are trimmed. -/
theorem trim_append {before text after : List Char} (hbefore : AllBlank before)
    (hafter : AllBlank after) (hne : text ≠ []) (htext : ∀ c ∈ text, Text.isBlank c = false) :
    Text.trim (before ++ text ++ after) = text := by
  have hblank : ∀ {blanks : List Char}, AllBlank blanks → ∀ c ∈ blanks, Text.isBlank c = true :=
    fun h c hc => by rcases h c hc with rfl | rfl <;> rfl
  have hdrop : ∀ {text : List Char} (more : List Char), text ≠ [] →
      (∀ c ∈ text, Text.isBlank c = false) → (text ++ more).dropWhile Text.isBlank = text ++ more :=
    fun {text} more hne htext => by
      obtain ⟨c, text, rfl⟩ := List.exists_cons_of_ne_nil hne
      exact List.dropWhile_cons_of_neg (Bool.not_eq_true _ ▸ htext c List.mem_cons_self)
  rw [Text.trim, Text.trimBy, List.append_assoc, List.dropWhile_append_of_pos (hblank hbefore),
    hdrop after hne htext, List.reverse_append,
    List.dropWhile_append_of_pos fun c hc => hblank hafter c (List.mem_reverse.1 hc)]
  have hreverse := @hdrop text.reverse [] (by simpa using hne)
    fun c hc => htext c (List.mem_reverse.1 hc)
  rw [List.append_nil] at hreverse
  rw [hreverse, List.reverse_reverse]

theorem IsBare.isBlank {text : String} (h : IsBare text) :
    ∀ c ∈ text.toList, Text.isBlank c = false := by
  intro c hc
  obtain ⟨hlow, hlt, -⟩ := h.visible c hc
  simp only [Text.isBlank, Bool.or_eq_false_iff, Bool.and_eq_false_iff, decide_eq_false_iff_not,
    beq_eq_false_iff_ne]
  omega

/-- The text of a field as it was read. -/
def textOf? (field : List UInt8) : Option String :=
  (decode? field).map fun text => String.ofList (Text.trim text)

/-- **A field is read as its text**, whichever way it was written. -/
theorem Field.exists_read {text : String} {field : List UInt8} (hbare : IsBare text)
    (h : Field text field) : ∃ bytes, textOf? bytes = some text ∧ ∃ place,
      (place = .plain ∨ place = .quote) ∧ ∀ {s : Scan}, Fresh s →
        field.foldl step s = { s with place := place, field := bytes.reverse ++ s.field } := by
  have hread : ∀ {before after : List Char}, AllBlank before → AllBlank after →
      textOf? (encode (before ++ text.toList ++ after)) = some text := fun hbefore hafter => by
    rw [textOf?, decode?_encode, Option.map_some,
      trim_append hbefore hafter hbare.ne_nil hbare.isBlank, String.ofList_toList]
  cases h with
  | @bare before after hbefore hafter =>
    refine ⟨_, hread hbefore hafter, .plain, .inl rfl, fun hs => foldl_bare ?_ ?_ hs⟩
    · obtain ⟨c, chars, hc⟩ := List.exists_cons_of_ne_nil hbare.ne_nil
      simp [encode_append, hc, encode_cons, encodeChar_ne_nil]
    · rw [encode_append, encode_append]
      exact List.forall_mem_append.2
        ⟨List.forall_mem_append.2 ⟨hbefore.ordinary, hbare.ordinary⟩, hafter.ordinary⟩
  | quoted =>
    have hnil : AllBlank [] := nofun
    have hplain := hread hnil hnil
    rw [List.nil_append, List.append_nil] at hplain
    exact ⟨_, hplain, .quote, .inr rfl, fun hs =>
      foldl_quoted (fun b hb => (hbare.ordinary b hb).1) hs⟩

/-! ## Lines and tables -/

/-- **A line is read as its fields**, one record that is still to be ended. -/
theorem Line.exists_read {texts : List String} {line : List UInt8} (h : Line texts line)
    (hbare : ∀ text ∈ texts, IsBare text) : ∃ fields,
      List.Forall₂ (fun field text => textOf? field = some text) fields texts ∧
      ∀ {s : Scan}, Fresh s → s.field = [] → Inside (line.foldl step s) ∧
        (line.foldl step s).endRecord =
          ⟨.record, [], [], (s.fields.reverse ++ fields) :: s.records⟩ := by
  induction h with
  | @one text field hfield =>
    obtain ⟨bytes, htext, place, hplace, hread⟩ :=
      hfield.exists_read (hbare text List.mem_cons_self)
    refine ⟨[bytes], .cons htext .nil, fun hs hnil => ?_⟩
    rw [hread hs]
    refine ⟨hplace, ?_⟩
    simp [endRecord, hnil]
  | @more text texts field line hfield _ ih =>
    obtain ⟨htext, htexts⟩ := List.forall_mem_cons.1 hbare
    obtain ⟨bytes, hbytes, place, hplace, hread⟩ := hfield.exists_read htext
    obtain ⟨fields, hfields, hmore⟩ := ih htexts
    refine ⟨bytes :: fields, .cons hbytes hfields, fun {s} hs hnil => ?_⟩
    have hcomma : step { s with place := place, field := bytes.reverse ++ s.field } 0x2c =
        ⟨.field, [], bytes :: s.fields, s.records⟩ := by
      rcases hplace with rfl | rfl <;> simp [step, outside, endField, hnil]
    rw [List.foldl_append, List.foldl_cons, hread hs, hcomma]
    obtain ⟨hinside, hrecord⟩ := @hmore ⟨.field, [], bytes :: s.fields, s.records⟩ (.inr rfl) rfl
    refine ⟨hinside, ?_⟩
    rw [hrecord, List.reverse_cons, List.append_assoc]
    rfl

theorem LineEnd.foldl_inside {ending : List UInt8} (h : LineEnd ending) {s : Scan} (hs : Inside s) :
    ending.foldl step s = s.endRecord := by
  cases h <;> rcases hs with hs | hs <;> simp [step, outside, isLineEnd, hs, endRecord]

theorem LineEnd.foldl_record {ending : List UInt8} (h : LineEnd ending) {s : Scan}
    (hs : s.place = .record) : ending.foldl step s = s := by
  cases h <;> simp [step, isLineEnd, hs]

/-- **A table is read as its records**, behind those read before. -/
theorem Table.exists_read {records : List (List String)} {table : List UInt8}
    (h : Table records table) (hbare : ∀ texts ∈ records, ∀ text ∈ texts, IsBare text) :
    ∃ read, List.Forall₂ (List.Forall₂ fun field text => textOf? field = some text) read records ∧
      ∀ before, (table.foldl step ⟨.record, [], [], before⟩).finish = before.reverse ++ read := by
  induction h with
  | nothing => exact ⟨[], .nil, fun before => by simp [finish]⟩
  | empty hending _ ih =>
    obtain ⟨read, hread, hfinish⟩ := ih hbare
    refine ⟨read, hread, fun before => ?_⟩
    rw [List.foldl_append, hending.foldl_record rfl, hfinish]
  | line hline hending _ ih =>
    obtain ⟨htexts, hrecords⟩ := List.forall_mem_cons.1 hbare
    obtain ⟨fields, hfields, hread⟩ := hline.exists_read htexts
    obtain ⟨read, hmore, hfinish⟩ := ih hrecords
    refine ⟨fields :: read, .cons hfields hmore, fun before => ?_⟩
    obtain ⟨hinside, hrecord⟩ := @hread ⟨.record, [], [], before⟩ (.inl rfl) rfl
    rw [List.foldl_append, List.foldl_append, hending.foldl_inside hinside, hrecord, hfinish,
      List.reverse_cons, List.append_assoc]
    rfl
  | @last texts line hline =>
    obtain ⟨fields, hfields, hread⟩ := hline.exists_read (List.forall_mem_singleton.1 hbare)
    refine ⟨[fields], .cons hfields .nil, fun before => ?_⟩
    obtain ⟨hinside, hrecord⟩ := @hread ⟨.record, [], [], before⟩ (.inl rfl) rfl
    have hplace : (line.foldl step ⟨.record, [], [], before⟩).place ≠ .record := by
      intro hplace
      rcases hinside with hinside | hinside <;> rw [hplace] at hinside <;> cases hinside
    rw [finish, if_neg hplace, hrecord]
    simp

/-! ## The records of a table -/

theorem lt_encode {text : List Char} (h : ∀ c ∈ text, c.toNat < 0x80) :
    ∀ b ∈ encode text, b.toNat < 0x80 := by
  rw [encode_of_lt h]
  exact List.forall_mem_map.2 fun c hc => (toNat_ascii (h c hc)).symm ▸ h c hc

theorem Field.lt {text : String} {field : List UInt8} (hbare : IsBare text) (h : Field text field) :
    ∀ b ∈ field, b.toNat < 0x80 := by
  have hblank : ∀ {blanks : List Char}, AllBlank blanks → ∀ c ∈ blanks, c.toNat < 0x80 :=
    fun h c hc => by rcases h c hc with rfl | rfl <;> decide
  cases h with
  | bare hbefore hafter =>
    exact lt_encode (List.forall_mem_append.2
      ⟨List.forall_mem_append.2 ⟨hblank hbefore, hbare.lt⟩, hblank hafter⟩)
  | quoted =>
    exact List.forall_mem_append.2 ⟨List.forall_mem_cons.2 ⟨by decide, lt_encode hbare.lt⟩,
      List.forall_mem_singleton.2 (by decide)⟩

theorem Line.lt {texts : List String} {line : List UInt8} (h : Line texts line)
    (hbare : ∀ text ∈ texts, IsBare text) : ∀ b ∈ line, b.toNat < 0x80 := by
  induction h with
  | one hfield => exact hfield.lt (hbare _ List.mem_cons_self)
  | more hfield _ ih =>
    obtain ⟨htext, htexts⟩ := List.forall_mem_cons.1 hbare
    exact List.forall_mem_append.2
      ⟨hfield.lt htext, List.forall_mem_cons.2 ⟨by decide, ih htexts⟩⟩

theorem LineEnd.lt {ending : List UInt8} (h : LineEnd ending) : ∀ b ∈ ending, b.toNat < 0x80 := by
  have hlf : ∀ b ∈ [0x0a], UInt8.toNat b < 0x80 := List.forall_mem_singleton.2 (by decide)
  cases h with
  | lf => exact hlf
  | crlf => exact List.forall_mem_cons.2 ⟨by decide, hlf⟩

theorem Table.lt {records : List (List String)} {table : List UInt8} (h : Table records table)
    (hbare : ∀ texts ∈ records, ∀ text ∈ texts, IsBare text) : ∀ b ∈ table, b.toNat < 0x80 := by
  induction h with
  | nothing => nofun
  | empty hending _ ih => exact List.forall_mem_append.2 ⟨hending.lt, ih hbare⟩
  | line hline hending _ ih =>
    obtain ⟨htexts, hrecords⟩ := List.forall_mem_cons.1 hbare
    exact List.forall_mem_append.2
      ⟨List.forall_mem_append.2 ⟨hline.lt htexts, hending.lt⟩, ih hrecords⟩
  | last hline => exact hline.lt (List.forall_mem_singleton.1 hbare)

theorem dropMark_of_lt {bytes : List UInt8} (h : ∀ b ∈ bytes, b.toNat < 0x80) :
    dropMark bytes = bytes := by
  unfold dropMark
  split
  · exact absurd (h 0xef List.mem_cons_self) (by decide)
  · rfl

theorem texts?_of_forall₂ : ∀ {fields : List (List UInt8)} {texts : List String},
    List.Forall₂ (fun field text => textOf? field = some text) fields texts →
      texts? fields = some texts
  | _, _, .nil => rfl
  | field :: fields, text :: texts, .cons h hs => by
      have hmore : fields.mapM textOf? = some texts := texts?_of_forall₂ hs
      change (field :: fields).mapM textOf? = _
      rw [List.mapM_cons, h, hmore]
      rfl

/-- **The records of a table are the texts that were written in it**, in order. -/
theorem Table.texts_records {records : List (List String)} {table : List UInt8}
    (h : Table records table) (hbare : ∀ texts ∈ records, ∀ text ∈ texts, IsBare text) :
    List.Forall₂ (fun fields texts => fields.length = texts.length ∧ texts? fields = some texts)
      (Csv.records table) records := by
  obtain ⟨read, hread, hfinish⟩ := h.exists_read hbare
  rw [Csv.records, dropMark_of_lt (h.lt hbare)]
  have hrecords : (table.foldl step start).finish = read := hfinish []
  rw [hrecords]
  exact hread.imp fun _ _ h => ⟨h.length_eq, texts?_of_forall₂ h⟩

end Airdrop.Csv
