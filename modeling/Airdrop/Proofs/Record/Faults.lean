import Airdrop.Proofs.Record

/-!
# Proofs/Record/Faults — what is wrong with an account

**An account is a record, or the first thing that is wrong with it is reported** (`Classified`): its
owner, the tag's length, the tag, the length of the whole, and last the first truth value that is
neither zero nor one.  Nothing else is ever refused.

The fields are taken off a body that has as many bytes as they need, so of all takers only those of
truth values can fail (`Take.Refuses`).  And every part of the data that is looked at is there:
`decodeByParts`, which has no result where one is not, always has one.
-/

namespace Airdrop

/-! ## Truth values in bytes -/

/-- A byte, unless it is a truth value. -/
def badTruth? (byte : UInt8) : Option UInt8 := if byte = 0 ∨ byte = 1 then none else some byte

/-- **The first byte that is no truth value**, of those at some places. -/
def firstBad? (places : List Nat) (bytes : List UInt8) : Option UInt8 :=
  places.findSome? fun i => bytes[i]?.bind badTruth?

theorem firstBad?_append (places places' : List Nat) (bytes : List UInt8) :
    firstBad? (places ++ places') bytes =
      (firstBad? places bytes).or (firstBad? places' bytes) :=
  List.findSome?_append

/-- Places behind some bytes are counted from their end. -/
theorem firstBad?_map_add (width : Nat) (places : List Nat) (bytes : List UInt8) :
    firstBad? (places.map (width + ·)) bytes = firstBad? places (bytes.drop width) := by
  simp only [firstBad?, List.findSome?_map, Function.comp_def, List.getElem?_drop]

/-- Bytes behind all the places do not matter. -/
theorem firstBad?_take {places : List Nat} {width : Nat} (h : ∀ i ∈ places, i < width)
    (bytes : List UInt8) : firstBad? places (bytes.take width) = firstBad? places bytes := by
  induction places with
  | nil => rfl
  | cons i rest ih =>
    have hrest := ih fun j hj => h j (List.mem_cons_of_mem i hj)
    simp only [firstBad?, List.findSome?_cons] at hrest ⊢
    rw [List.getElem?_take_of_lt (h i List.mem_cons_self), hrest]

/-- Bytes that are there. -/
theorem length_slice {start width : Nat} {bytes : List UInt8} (h : start + width ≤ bytes.length) :
    (slice start width bytes).length = width := by
  rw [slice, List.length_take, List.length_drop]
  omega

/-! ## What a taker refuses -/

namespace Take

variable {α β : Type} {take : Take α} {next : α → Take β} {width width' : Nat}
  {places places' : List Nat}

/-- **A taker refuses truth values at some places, and nothing else**, of bytes that are at least as
many as it needs. -/
structure Refuses (take : Take α) (width : Nat) (places : List Nat) : Prop where
  bad : ∀ {bytes : List UInt8} {value : UInt8}, width ≤ bytes.length →
    firstBad? places bytes = some value → take bytes = .error (.badBool value)
  good : ∀ {bytes : List UInt8}, width ≤ bytes.length → firstBad? places bytes = none →
    ∃ a, take bytes = .ok (a, bytes.drop width)

/-- Most takers are content with any bytes that are enough. -/
theorem refuses_nothing (h : ∀ bytes, Needs take width bytes) : Refuses take width [] where
  bad _ hbad := nomatch hbad
  good henough _ := (h _).enough henough

/-- **A sequence of takers refuses what they refuse**, the first refusal first. -/
theorem Refuses.bind (h : Refuses take width places)
    (hnext : ∀ a, Refuses (next a) width' places') :
    Refuses (take >>= next) (width + width') (places ++ places'.map (width + ·)) := by
  constructor
  · intro bytes value henough hbad
    rw [firstBad?_append, firstBad?_map_add] at hbad
    cases hfirst : firstBad? places bytes with
    | some bad =>
      rw [hfirst] at hbad
      cases hbad
      exact bind_of_error (h.bad (by omega) hfirst)
    | none =>
      rw [hfirst] at hbad
      obtain ⟨a, ha⟩ := h.good (by omega) hfirst
      rw [bind_of_ok ha]
      exact (hnext a).bad (by rw [List.length_drop]; omega) hbad
  · intro bytes henough hgood
    rw [firstBad?_append, firstBad?_map_add, Option.or_eq_none_iff] at hgood
    obtain ⟨a, ha⟩ := h.good (by omega) hgood.1
    obtain ⟨b, hb⟩ := (hnext a).good (by rw [List.length_drop]; omega) hgood.2
    exact ⟨b, by rw [bind_of_ok ha, hb, List.drop_drop]⟩

theorem needs_byte (bytes : List UInt8) : Needs byte 1 bytes where
  short hlt := by
    rw [List.eq_nil_of_length_eq_zero (Nat.lt_one_iff.1 hlt)]
    rfl
  enough hle := by
    obtain ⟨b, rest, rfl⟩ := List.exists_cons_of_length_pos hle
    exact ⟨b, rfl⟩

theorem refuses_pure (a : α) : Refuses (pure a) 0 [] := refuses_nothing (needs_pure a)

theorem refuses_octets (n : Nat) : Refuses (octets n) n [] := refuses_nothing (needs_octets n)

theorem refuses_word : Refuses word 8 [] := refuses_nothing needs_word

theorem refuses_signed : Refuses signed 8 [] := refuses_nothing needs_signed

theorem refuses_address : Refuses address 32 [] :=
  refuses_nothing fun bytes => (needs_octets 32 bytes).map _

theorem refuses_byte : Refuses byte 1 [] := refuses_nothing needs_byte

/-- **A truth value is refused** if it is neither zero nor one. -/
theorem refuses_bool : Refuses bool 1 [0] := by
  have hfirst : ∀ (b : UInt8) (rest : List UInt8), firstBad? [0] (b :: rest) = badTruth? b :=
    fun b rest => by simp [firstBad?]
  constructor
  · intro bytes value henough hbad
    obtain ⟨b, rest, rfl⟩ := List.exists_cons_of_length_pos henough
    rw [hfirst, badTruth?, Option.ite_none_left_eq_some, not_or, Option.some.injEq] at hbad
    obtain ⟨⟨hzero, hone⟩, rfl⟩ := hbad
    refine (bind_of_ok (byte_cons b rest)).trans ?_
    rw [if_neg hzero, if_neg hone]
    rfl
  · intro bytes henough hgood
    obtain ⟨b, rest, rfl⟩ := List.exists_cons_of_length_pos henough
    rw [hfirst, badTruth?, ite_eq_left_iff] at hgood
    by_cases hzero : b = 0
    · exact ⟨false, by rw [hzero]; rfl⟩
    · by_cases hone : b = 1
      · exact ⟨true, by rw [hone]; rfl⟩
      · cases hgood (not_or.2 ⟨hzero, hone⟩)

end Take

/-! ## The fields of the two kinds of records -/

/-- **The fields of a distributor** are refused for two truth values alone, -/
theorem Distributor.refuses_take : Take.Refuses Distributor.take 363 [257, 266] := by
  have hbyte := Take.refuses_byte
  have hword := Take.refuses_word
  have hsigned := Take.refuses_signed
  have hdigest := Take.refuses_octets 32
  have haddress := Take.refuses_address
  have hbool := Take.refuses_bool
  have h : Take.Refuses Distributor.take _ _ :=
    hbyte.bind fun _ => hword.bind fun _ => hdigest.bind fun _ => haddress.bind fun _ =>
    haddress.bind fun _ => haddress.bind fun _ => hword.bind fun _ => hword.bind fun _ =>
    hword.bind fun _ => hword.bind fun _ => hsigned.bind fun _ => hsigned.bind fun _ =>
    hsigned.bind fun _ => haddress.bind fun _ => haddress.bind fun _ => hbool.bind fun _ =>
    hword.bind fun _ => hbool.bind fun _ => hdigest.bind fun _ => hdigest.bind fun _ =>
    hdigest.bind fun _ => Take.refuses_pure _
  exact h

/-- …those of a claim status for one. -/
theorem ClaimStatus.refuses_take : Take.Refuses ClaimStatus.take 89 [56] := by
  have hword := Take.refuses_word
  have haddress := Take.refuses_address
  have h : Take.Refuses ClaimStatus.take _ _ :=
    haddress.bind fun _ => hword.bind fun _ => hword.bind fun _ => hword.bind fun _ =>
    Take.refuses_bool.bind fun _ => haddress.bind fun _ => Take.refuses_pure _
  exact h

namespace Record

section

variable {ρ : Type} [Record ρ] {data : List UInt8}

/-! ## One fault after the other -/

/-- Eight bytes that are there make a tag. -/
theorem exists_slice_eq (h : 8 ≤ data.length) : ∃ found : Octets 8, slice 0 8 data = found.toList :=
  ⟨⟨slice 0 8 data, length_slice (h.trans_eq' (Nat.zero_add 8))⟩, rfl⟩

/-- A tag that is there is taken, -/
theorem take?_of_slice {found : Octets 8} (h : slice 0 8 data = found.toList) :
    Octets.take? 8 data = some (found, data.drop 8) := by
  have hsplit : data = found.toList ++ data.drop 8 := by
    rw [← h, slice, List.drop_zero, List.take_append_drop]
  conv_lhs => rw [hsplit, Octets.take?_append]

/-- …and one that is not there is missed. -/
theorem decode_of_short (h : data.length < 8) :
    decode ρ data = .error (.truncated (length ρ) data.length) := by
  unfold decode
  rw [Octets.take?, dif_neg (Nat.not_le.2 h)]

theorem decode_of_wrongTag {found : Octets 8} (h : slice 0 8 data = found.toList)
    (hwrong : found ≠ tag ρ) : decode ρ data = .error (.wrongTag (tag ρ) found) := by
  unfold decode
  rw [take?_of_slice h]
  exact if_pos hwrong

theorem decode_of_truncated (h : slice 0 8 data = (tag ρ).toList) (hlt : data.length < length ρ) :
    decode ρ data = .error (.truncated (length ρ) data.length) := by
  unfold decode
  rw [take?_of_slice h]
  exact (if_neg (not_not_intro rfl)).trans (if_pos hlt)

/-- **What is left is the body.** -/
theorem decode_of_whole (h : slice 0 8 data = (tag ρ).toList) (hle : length ρ ≤ data.length) :
    decode ρ data = decodeBody ρ (slice 8 (bodyLength ρ) data) := by
  unfold decode
  rw [take?_of_slice h]
  exact (if_neg (not_not_intro rfl)).trans (if_neg (Nat.not_lt.2 hle))

/-- A body whose fields cannot be taken. -/
theorem decodeBody_of_error {body : List UInt8} {fault : TakeFault}
    (h : (take : Take ρ) body = .error fault) :
    decodeBody ρ body = .error (.malformed fault) := by
  have hrun : (take : Take ρ).run' body = .error fault := by
    change (fun taken : ρ × List UInt8 => taken.1) <$> (take : Take ρ) body = _
    rw [h]
    rfl
  rw [decodeBody, hrun]

end

/-! ## Parts of the data -/

section

variable (ρ : Type) [Record ρ]

/-- **A part of some bytes**, from `start` to `stop`, if they do not end before. -/
def part? (start stop : Nat) (bytes : List UInt8) : Option (List UInt8) :=
  if start ≤ stop ∧ stop ≤ bytes.length then some ((bytes.take stop).drop start) else none

/-- **Decoding part by part**; there is no result where a part is looked at that is not there. -/
def decodeByParts (data : List UInt8) : Option (Except DecodeFault ρ) :=
  if data.length < tagLength then some (.error (.truncated (length ρ) data.length))
  else do
    let found ← Octets.ofList? 8 (← part? 0 tagLength data)
    if found ≠ tag ρ then return .error (.wrongTag (tag ρ) found)
    else if data.length < length ρ then return .error (.truncated (length ρ) data.length)
    else return decodeBody ρ (← part? tagLength (length ρ) data)

variable {ρ} {data : List UInt8}

/-- A part that is there. -/
theorem part?_eq {start width : Nat} {bytes : List UInt8} (h : start + width ≤ bytes.length) :
    part? start (start + width) bytes = some (slice start width bytes) := by
  rw [part?, if_pos ⟨Nat.le_add_right _ _, h⟩, List.drop_take, Nat.add_sub_cancel_left, slice]

/-- **Every part that is looked at is there.** -/
theorem decodeByParts_eq (data : List UInt8) : decodeByParts ρ data = some (decode ρ data) := by
  unfold decodeByParts
  rcases Nat.lt_or_ge data.length tagLength with hshort | hlong
  · rw [if_pos hshort, decode_of_short hshort]
  · obtain ⟨found, hfound⟩ := exists_slice_eq hlong
    have hpart : part? 0 (0 + 8) data = some (slice 0 8 data) :=
      part?_eq (hlong.trans_eq' (Nat.zero_add 8))
    have htag : part? 0 tagLength data = some found.toList := hfound ▸ hpart
    rw [if_neg (Nat.not_lt.2 hlong), htag]
    simp only [Option.bind_eq_bind, Option.bind_some, Octets.ofList?_toList]
    by_cases hwrong : found = tag ρ
    · subst hwrong
      rw [if_neg (not_not_intro rfl)]
      rcases Nat.lt_or_ge data.length (length ρ) with hlt | hle
      · rw [if_pos hlt, decode_of_truncated hfound hlt]
        rfl
      · rw [if_neg (Nat.not_lt.2 hle), decode_of_whole hfound hle, length, part?_eq hle]
        rfl
    · rw [if_pos hwrong, decode_of_wrongTag hfound hwrong]
      rfl

end

/-! ## Accounts -/

/-- **The accounts of a kind of record are classified**: each is a record, or has a first fault.
`size` is the number of bytes of a record, and `truths` are the places of its truth values. -/
structure Classified (ρ : Type) [Record ρ] (size : Nat) (truths : List Nat) : Prop where
  /-- First, the account has to belong to the program. -/
  foreign : ∀ program owner data, owner ≠ program →
    decodeOwned ρ program owner data = .error (.foreign program owner)
  /-- Then there has to be a tag, -/
  short : ∀ owner data, data.length < 8 →
    decodeOwned ρ owner owner data = .error (.truncated size data.length)
  /-- …and it has to be the right one, however much follows it. -/
  wrongTag : ∀ owner data (found : Octets 8), slice 0 8 data = found.toList → found ≠ tag ρ →
    decodeOwned ρ owner owner data = .error (.wrongTag (tag ρ) found)
  /-- Then the record has to be whole, -/
  truncated : ∀ owner data, slice 0 8 data = (tag ρ).toList → data.length < size →
    decodeOwned ρ owner owner data = .error (.truncated size data.length)
  /-- …and its truth values have to be some. -/
  malformed : ∀ owner data value, slice 0 8 data = (tag ρ).toList → size ≤ data.length →
    firstBad? truths data = some value →
    decodeOwned ρ owner owner data = .error (.malformed (.badBool value))
  /-- Nothing else is refused. -/
  accepted : ∀ owner data, slice 0 8 data = (tag ρ).toList → size ≤ data.length →
    firstBad? truths data = none →
    ∃ r : ρ, decodeOwned ρ owner owner data = .ok r ∧ encode r = data.take size
  /-- What follows a whole record does not matter. -/
  append : ∀ program owner data rest, size ≤ data.length →
    decodeOwned ρ program owner (data ++ rest) = decodeOwned ρ program owner data
  /-- No part of the data is looked at that is not there, -/
  byParts : ∀ data, decodeByParts ρ data = some (decode ρ data)
  /-- …and the fields are never short of bytes. -/
  enough : ∀ program owner data, decodeOwned ρ program owner data ≠ .error (.malformed .short)

section

variable {ρ : Type} [Record ρ] {data : List UInt8}

/-- **Decoding looks at no byte behind the record.** -/
theorem decode_append (rest : List UInt8) (hle : length ρ ≤ data.length) :
    decode ρ (data ++ rest) = decode ρ data := by
  have hlong : 8 ≤ data.length := (Nat.le_add_right 8 _).trans hle
  obtain ⟨found, hfound⟩ := exists_slice_eq hlong
  have hslice : ∀ start width, start + width ≤ data.length →
      slice start width (data ++ rest) = slice start width data := fun start width h => by
    rw [slice, slice, List.drop_append_of_le_length (by omega),
      List.take_append_of_le_length (by rw [List.length_drop]; omega)]
  have hfound' : slice 0 8 (data ++ rest) = found.toList :=
    (hslice 0 8 (hlong.trans_eq' (Nat.zero_add 8))).trans hfound
  by_cases hwrong : found = tag ρ
  · subst hwrong
    rw [decode_of_whole hfound hle, decode_of_whole hfound' (by rw [List.length_append]; omega),
      hslice 8 _ hle]
  · rw [decode_of_wrongTag hfound hwrong, decode_of_wrongTag hfound' hwrong]

variable {places : List Nat} (hrefuses : Take.Refuses (take : Take ρ) (bodyLength ρ) places)
  (hplaces : ∀ i ∈ places, i < bodyLength ρ)

include hrefuses hplaces

/-- A whole record with a bad truth value, -/
theorem decode_of_bad {value : UInt8} (htag : slice 0 8 data = (tag ρ).toList)
    (hle : length ρ ≤ data.length)
    (hbad : firstBad? (places.map (tagLength + ·)) data = some value) :
    decode ρ data = .error (.malformed (.badBool value)) := by
  rw [firstBad?_map_add, ← firstBad?_take hplaces] at hbad
  rw [decode_of_whole htag hle]
  exact decodeBody_of_error (hrefuses.bad (length_slice hle).ge hbad)

/-- …and one without. -/
theorem decode_of_good (htag : slice 0 8 data = (tag ρ).toList) (hle : length ρ ≤ data.length)
    (hgood : firstBad? (places.map (tagLength + ·)) data = none) :
    ∃ r : ρ, decode ρ data = .ok r := by
  rw [firstBad?_map_add, ← firstBad?_take hplaces] at hgood
  obtain ⟨r, hr⟩ := hrefuses.good (length_slice hle).ge hgood
  exact ⟨r, by rw [decode_of_whole htag hle, decodeBody_eq_ok_iff]; exact ⟨_, hr⟩⟩

/-- **The fields of a whole record are never short of bytes.** -/
theorem decode_ne_short (data : List UInt8) : decode ρ data ≠ .error (.malformed .short) := by
  intro hshort
  rcases Nat.lt_or_ge data.length 8 with hlt | hlong
  · rw [decode_of_short hlt] at hshort
    cases hshort
  · obtain ⟨found, hfound⟩ := exists_slice_eq hlong
    by_cases hwrong : found = tag ρ
    · subst hwrong
      rcases Nat.lt_or_ge data.length (length ρ) with hlt | hle
      · rw [decode_of_truncated hfound hlt] at hshort
        cases hshort
      · cases hbad : firstBad? (places.map (tagLength + ·)) data with
        | some value =>
          rw [decode_of_bad hrefuses hplaces hfound hle hbad] at hshort
          cases hshort
        | none =>
          obtain ⟨r, hr⟩ := decode_of_good hrefuses hplaces hfound hle hbad
          rw [hr] at hshort
          cases hshort
    · rw [decode_of_wrongTag hfound hwrong] at hshort
      cases hshort

/-- **A kind of record whose fields refuse truth values alone** has its accounts classified. -/
theorem classified (hinverts : Take.Inverts (take : Take ρ) fun r => (fields r).flatten) :
    Classified ρ (length ρ) (places.map (tagLength + ·)) where
  foreign _ _ _ hforeign := if_pos hforeign
  short owner data hlt := (decodeOwned_self owner data).trans (decode_of_short hlt)
  wrongTag owner data _ hfound hwrong :=
    (decodeOwned_self owner data).trans (decode_of_wrongTag hfound hwrong)
  truncated owner data htag hlt :=
    (decodeOwned_self owner data).trans (decode_of_truncated htag hlt)
  malformed owner data _ htag hle hbad :=
    (decodeOwned_self owner data).trans (decode_of_bad hrefuses hplaces htag hle hbad)
  accepted owner data htag hle hgood := by
    obtain ⟨r, hr⟩ := decode_of_good hrefuses hplaces htag hle hgood
    exact ⟨r, (decodeOwned_self owner data).trans hr, encode_of_decode hinverts hr⟩
  append program owner data rest hle := by
    unfold decodeOwned
    rw [decode_append rest hle]
  byParts := decodeByParts_eq
  enough program owner data := by
    unfold decodeOwned
    split
    · exact nofun
    · exact decode_ne_short hrefuses hplaces data

end

/-- What decodes has the tag. -/
theorem tag_of_decode {ρ : Type} [Record ρ] {data : List UInt8} {r : ρ}
    (h : decode ρ data = .ok r) : slice 0 8 data = (tag ρ).toList := by
  rcases Nat.lt_or_ge data.length 8 with hlt | hlong
  · rw [decode_of_short hlt] at h
    cases h
  · obtain ⟨found, hfound⟩ := exists_slice_eq hlong
    by_cases hwrong : found = tag ρ
    · rw [hfound, hwrong]
    · rw [decode_of_wrongTag hfound hwrong] at h
      cases h

end Record

/-- **Accounts of both kinds of records are classified**: a distributor has its truth values at 265
and 274 of 371 bytes, a claim status has one at 64 of 97.  And no account is both. -/
theorem accounts_classified :
    Record.Classified Distributor 371 [265, 274] ∧ Record.Classified ClaimStatus 97 [64] ∧
    ∀ (program program' owner owner' : Address) (data : List UInt8) (d : Distributor)
      (s : ClaimStatus), ¬ (Record.decodeOwned Distributor program owner data = .ok d ∧
        Record.decodeOwned ClaimStatus program' owner' data = .ok s) := by
  refine ⟨Record.classified Distributor.refuses_take (by decide) Distributor.inverts_take,
    Record.classified ClaimStatus.refuses_take (by decide) ClaimStatus.inverts_take, ?_⟩
  rintro program program' owner owner' data d s ⟨hd, hs⟩
  have htag := Record.tag_of_decode (Record.decodeOwned_eq_ok_iff.1 hd).2
  rw [Record.tag_of_decode (Record.decodeOwned_eq_ok_iff.1 hs).2] at htag
  exact absurd htag (by decide)

end Airdrop
