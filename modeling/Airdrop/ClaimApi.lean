import Airdrop.Claim
import Airdrop.Net.Web

/-!
# ClaimApi — asking what a claimant can claim

A claim API is asked for one address at a time, and each question may fail in its own way.  Some
failures are worth another try (**everything but a malformed body and an unusable URL**).

`Service σ` is any such API on a clock: it may remember (`σ`), may answer differently each time it
is asked, and takes a while.  Nothing in the verification of an allocation list depends on more.
-/

namespace Airdrop

open Net (ExchangeFault)

/-- **Why a question to the claim API failed.** -/
inductive ApiFault
  /-- The network failed. -/
  | exchange (fault : ExchangeFault) (cause : Cause)
  /-- The body of the answer is no claim. -/
  | malformedBody (failure : Json.Failure)
  /-- The API refused, with a status. -/
  | refused (status : Nat) (message : String)
  /-- The API knows nothing of the address. -/
  | unknown (message : String)
  /-- The API was asked too often. -/
  | rateLimited
  /-- The URL of the API is unusable. -/
  | invalidUrl (reason : String)
  deriving DecidableEq

namespace ApiFault

/-- **The failure in words.** -/
def message : ApiFault → String
  | .exchange _ cause => "HTTP request failed: " ++ cause.message
  | .malformedBody failure => "JSON error: " ++ failure.message
  | .refused status text => "API error: " ++ toString status ++ " - " ++ text
  | .unknown text => "Resource not found: " ++ text
  | .rateLimited => "Rate limit exceeded"
  | .invalidUrl reason => "Invalid URL: " ++ reason

/-- What lies behind the failure, nearest first. -/
def behind : ApiFault → List String
  | .exchange _ cause => cause.message :: cause.behind
  | .malformedBody failure => [failure.message]
  | _ => []

/-- **Whether another try may help.** -/
def isRetryable : ApiFault → Bool
  | .malformedBody _ => false
  | .invalidUrl _ => false
  | _ => true

end ApiFault

/-- What a question can come to. -/
abbrev Outcome := Except ApiFault Claim

instance : DecidableEq Outcome
  | .ok a, .ok b => decidable_of_iff (a = b) ⟨congrArg _, Except.ok.inj⟩
  | .error a, .error b => decidable_of_iff (a = b) ⟨congrArg _, Except.error.inj⟩
  | .ok _, .error _ => isFalse nofun
  | .error _, .ok _ => isFalse nofun

/-- **A question to a claim API.** -/
structure Call where
  /-- For which entry of the allocation list, counted from zero. -/
  position : Nat
  address : Address
  /-- For the how-many-th time, counted from one. -/
  attempt : Nat
  /-- When, in milliseconds. -/
  instant : Nat
  deriving DecidableEq

/-- An answer, and how long it takes, in milliseconds. -/
structure Reply where
  outcome : Outcome
  delay : Nat

/-- **A claim API.** -/
structure Service (σ : Type) where
  answer : σ → Call → Reply × σ

/-- The API whose answers depend on nothing but the question. -/
def Service.fixed (reply : Call → Reply) : Service Unit where
  answer _ call := (reply call, ())

end Airdrop
