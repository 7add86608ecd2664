import Airdrop.Address
import Airdrop.Address.Derived
import Airdrop.Allocation
import Airdrop.Amount
import Airdrop.Cause
import Airdrop.Claim
import Airdrop.ClaimApi
import Airdrop.ClaimApi.Http
import Airdrop.ClaimApi.Script
import Airdrop.Command
import Airdrop.Command.Environment
import Airdrop.Command.Program
import Airdrop.Command.Run
import Airdrop.Command.Session
import Airdrop.Command.Words
import Airdrop.Deployment
import Airdrop.Digest.Edwards
import Airdrop.Digest.Sha2
import Airdrop.Digest.Sha256
import Airdrop.Digest.Sha512
import Airdrop.Files
import Airdrop.Instruction
import Airdrop.Instruction.Budget
import Airdrop.Json.Layout
import Airdrop.Json.Numeral
import Airdrop.Json.Reader
import Airdrop.Json.Token
import Airdrop.Keypair
import Airdrop.Ledger
import Airdrop.Ledger.Error
import Airdrop.Ledger.Node
import Airdrop.Ledger.Snapshot
import Airdrop.LoadError
import Airdrop.Log
import Airdrop.Main
import Airdrop.Net.Domain
import Airdrop.Net.Domain.Direction
import Airdrop.Net.Domain.Joining
import Airdrop.Net.Domain.Mapping
import Airdrop.Net.Domain.Punycode
import Airdrop.Net.Host
import Airdrop.Net.Percent
import Airdrop.Net.Request
import Airdrop.Net.Url
import Airdrop.Net.Url.Authority
import Airdrop.Net.Url.Path
import Airdrop.Net.Url.Scheme
import Airdrop.Net.Web
import Airdrop.Octets
import Airdrop.Octets.Base58
import Airdrop.Octets.BigEndian
import Airdrop.Octets.Hex
import Airdrop.Octets.LittleEndian
import Airdrop.Octets.Take
import Airdrop.ProofStore
import Airdrop.Proofs.Address.Derived
import Airdrop.Proofs.Address.Text
import Airdrop.Proofs.Allocation
import Airdrop.Proofs.Allocation.Faults
import Airdrop.Proofs.Allocation.Table
import Airdrop.Proofs.Amount
import Airdrop.Proofs.Amount.Words
import Airdrop.Proofs.Claim
import Airdrop.Proofs.Claim.Marks
import Airdrop.Proofs.Command.Claim
import Airdrop.Proofs.Command.Statuses
import Airdrop.Proofs.Command.Verify
import Airdrop.Proofs.Deployment.Assembled
import Airdrop.Proofs.Deployment.Claimed
import Airdrop.Proofs.Deployment.Together
import Airdrop.Proofs.Deployment.Totals
import Airdrop.Proofs.Digest.Edwards
import Airdrop.Proofs.Digest.Prime
import Airdrop.Proofs.Instruction
import Airdrop.Proofs.Json.Cut
import Airdrop.Proofs.Json.Exact
import Airdrop.Proofs.Json.Layout
import Airdrop.Proofs.Json.Reader
import Airdrop.Proofs.Json.Token
import Airdrop.Proofs.Json.Value
import Airdrop.Proofs.Octets
import Airdrop.Proofs.Octets.Base58
import Airdrop.Proofs.Octets.Hex
import Airdrop.Proofs.ProofStore
import Airdrop.Proofs.ProofStore.Loading
import Airdrop.Proofs.Record
import Airdrop.Proofs.Record.Faults
import Airdrop.Proofs.Text.Csv
import Airdrop.Proofs.Text.Utf8
import Airdrop.Proofs.Tree.File
import Airdrop.Proofs.Tree.Validation
import Airdrop.Proofs.Verification.Answers
import Airdrop.Proofs.Verification.Check
import Airdrop.Proofs.Verification.Chronicle
import Airdrop.Proofs.Verification.Clock
import Airdrop.Proofs.Verification.Course
import Airdrop.Proofs.Verification.Dialogue
import Airdrop.Proofs.Verification.FailFast
import Airdrop.Proofs.Verification.Forecast
import Airdrop.Proofs.Verification.Pacing
import Airdrop.Proofs.Verification.Progress
import Airdrop.Proofs.Verification.Retry
import Airdrop.Proofs.Verification.Sequential
import Airdrop.Proofs.Verification.Width
import Airdrop.Proofs.Vesting
import Airdrop.Proofs.Vesting.Words
import Airdrop.Record
import Airdrop.Record.ClaimStatus
import Airdrop.Record.Distributor
import Airdrop.Stats
import Airdrop.Stats.Document
import Airdrop.Text.Alphanumeric
import Airdrop.Text.Blank
import Airdrop.Text.CharTable
import Airdrop.Text.Composition
import Airdrop.Text.Csv
import Airdrop.Text.Digits
import Airdrop.Text.Mark
import Airdrop.Text.Printable
import Airdrop.Text.Quoted
import Airdrop.Text.Split
import Airdrop.Text.Utf8
import Airdrop.Traced
import Airdrop.Tree
import Airdrop.Tree.File
import Airdrop.Verification.Batch
import Airdrop.Verification.Check
import Airdrop.Verification.Config
import Airdrop.Verification.Error
import Airdrop.Verification.Journal
import Airdrop.Verification.Lookup
import Airdrop.Verification.Run
import Airdrop.Vesting
import Airdrop.Word
