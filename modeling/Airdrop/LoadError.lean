import Airdrop.Amount
import Airdrop.Files
import Airdrop.Tree
import Airdrop.Json.Reader
import Airdrop.Text.Quoted

/-!
# LoadError — what can be wrong with the files of an airdrop
-/

namespace Airdrop

/-- Why a table has no rows to give. -/
inductive TableFault
  /-- A record has another number of fields than the first. -/
  | unequalLengths
  /-- A record is no text. -/
  | notText
  /-- A record lacks a column, or has it twice. -/
  | columns
  deriving DecidableEq

/-- The fault in words. -/
def TableFault.message : TableFault → String
  | .unequalLengths => "found record with another number of fields than the previous record"
  | .notText => "invalid utf-8 in a record"
  | .columns => "a record does not have the columns `pubkey` and `amount` once each"

/-- **Why an allocation list, a tree or a proof store could not be loaded.** -/
inductive LoadError
  /-- A tree contradicts itself. -/
  | invalidTree (fault : Tree.Fault)
  /-- A file or directory could not be read. -/
  | unreadable (fault : FileFault)
  /-- A tree file is no document of a tree. -/
  | malformedTree (failure : Json.Failure)
  /-- An allocation list is no table of rows. -/
  | malformedTable (fault : TableFault)
  /-- A row has no address. -/
  | invalidAddress (text : String)
  /-- A row has no amount. -/
  | invalidAmount (text : String) (fault : Amount.Fault)
  /-- A proof store holds a directory. -/
  | unexpectedDirectory (path : String)
  /-- A proof store has two nodes for a claimant. -/
  | repeatedClaimant (claimant : Address) (path : String)
  deriving DecidableEq

/-- **The error in words.** -/
def LoadError.message : LoadError → String
  | .invalidTree fault => "Merkle Tree Validation Error: " ++ fault.message
  | .unreadable fault => "io Error: " ++ fault.message
  | .malformedTree failure => "Serde Error: " ++ failure.message
  | .malformedTable fault => "Csv Error: " ++ fault.message
  | .invalidAddress text => "Invalid pubkey: " ++ text
  | .invalidAmount text fault => "Invalid amount " ++ Text.quote text ++ ": " ++ fault.reason
  | .unexpectedDirectory path => "Unexpected directory " ++ Text.quote path ++ " in proof store"
  | .repeatedClaimant claimant path =>
    "Claimant " ++ claimant.text ++ " appears more than once, last seen in " ++ Text.quote path

/-- What lies behind the error, nearest first. -/
def LoadError.behind : LoadError → List String
  | .unreadable fault => [fault.message]
  | .malformedTree failure => [failure.message]
  | .malformedTable fault => [fault.message]
  | _ => []

end Airdrop
