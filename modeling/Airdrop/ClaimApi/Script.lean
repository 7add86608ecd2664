import Airdrop.ClaimApi
import Std.Data.HashMap

/-!
# ClaimApi/Script — a claim API that answers from a list

For each address there is a list of replies: the first question gets the first, the second the
second, and **the last one is repeated**.  An address without replies is unknown.  The state is how
often each address has been asked for.
-/

namespace Airdrop.Script

/-- The replies for each address. -/
abbrev Replies := Std.HashMap Address (List Reply)

/-- How often each address has been asked for. -/
abbrev Asked := Std.HashMap Address Nat

/-- The reply to the question that `asked` others precede. -/
def replyAfter (asked : Nat) (replies : List Reply) : Option Reply :=
  match replies[asked]? with
  | some reply => some reply
  | none => replies.getLast?

/-- **The API of some replies.** -/
def service (replies : Replies) : Service Asked where
  answer asked call :=
    let before := asked.getD call.address 0
    let reply := (replyAfter before (replies.getD call.address [])).getD
      ⟨.error (.unknown call.address.text), 0⟩
    (reply, asked.insert call.address (before + 1))

end Airdrop.Script
