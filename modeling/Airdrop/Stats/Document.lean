import Airdrop.Json.Layout
import Airdrop.Json.Reader
import Airdrop.Stats

/-!
# Stats/Document — stats as documents

Addresses are texts in base 58 here, and members have their words joined by capitals.
-/

namespace Airdrop

open Json

/-- An address as a text. -/
def Address.reader : Reader Address := do
  match Address.ofText (← Reader.text) with
  | .ok address => return address
  | .error fault => Reader.reject fault.message

namespace Progress

/-- Stats being read. -/
structure Draft where
  address : Option Address := none
  claimed : Option UInt64 := none
  remaining : Option UInt64 := none
  users : Option UInt64 := none
  usersClaimed : Option UInt64 := none

/-- The members, in order. -/
def members : List (Reader.Member Draft) := [
  Reader.required "address" (·.address) (fun d v => { d with address := some v }) Address.reader,
  Reader.required "claimedTotal" (·.claimed) (fun d v => { d with claimed := some v }) Reader.word,
  Reader.required "remainingTotal" (·.remaining) (fun d v => { d with remaining := some v })
    Reader.word,
  Reader.required "usersTotal" (·.users) (fun d v => { d with users := some v }) Reader.word,
  Reader.required "usersClaimedTotal" (·.usersClaimed)
    (fun d v => { d with usersClaimed := some v }) Reader.word]

/-- The stats that a draft has become. -/
def Draft.done (d : Draft) : Option Progress := do
  return ⟨← d.address, ← d.claimed, ← d.remaining, ← d.users, ← d.usersClaimed⟩

/-- **The stats of one distributor.** -/
def reader : Reader Progress := do
  match (← Reader.record members {}).done with
  | some progress => return progress
  | none => Reader.malformed

/-- The stats of one distributor as tokens. -/
def tokens (p : Progress) : List Token :=
  Write.object [
    ("address", Write.text p.address.text),
    ("claimedTotal", Write.natural p.claimed.toNat),
    ("remainingTotal", Write.natural p.remaining.toNat),
    ("usersTotal", Write.natural p.users.toNat),
    ("usersClaimedTotal", Write.natural p.usersClaimed.toNat)]

end Progress

namespace Totals

/-- Totals being read. -/
structure Draft where
  claimed : Option UInt64 := none
  remaining : Option UInt64 := none
  users : Option UInt64 := none
  usersClaimed : Option UInt64 := none
  distributors : Option (List Progress) := none

/-- The members, in order. -/
def members : List (Reader.Member Draft) := [
  Reader.required "claimedTotal" (·.claimed) (fun d v => { d with claimed := some v }) Reader.word,
  Reader.required "remainingTotal" (·.remaining) (fun d v => { d with remaining := some v })
    Reader.word,
  Reader.required "usersTotal" (·.users) (fun d v => { d with users := some v }) Reader.word,
  Reader.required "usersClaimedTotal" (·.usersClaimed)
    (fun d v => { d with usersClaimed := some v }) Reader.word,
  Reader.required "distributors" (·.distributors) (fun d v => { d with distributors := some v })
    (Reader.array Progress.reader)]

/-- The totals that a draft has become. -/
def Draft.done (d : Draft) : Option Totals := do
  return ⟨← d.claimed, ← d.remaining, ← d.users, ← d.usersClaimed, ← d.distributors⟩

/-- **Totals.** -/
def reader : Reader Totals := do
  match (← Reader.record members {}).done with
  | some totals => return totals
  | none => Reader.malformed

/-- Totals as tokens. -/
def tokens (t : Totals) : List Token :=
  Write.object [
    ("claimedTotal", Write.natural t.claimed.toNat),
    ("remainingTotal", Write.natural t.remaining.toNat),
    ("usersTotal", Write.natural t.users.toNat),
    ("usersClaimedTotal", Write.natural t.usersClaimed.toNat),
    ("distributors", Write.array (t.distributors.map Progress.tokens))]

end Totals

end Airdrop
