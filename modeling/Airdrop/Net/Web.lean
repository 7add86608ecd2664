import Airdrop.Cause
import Airdrop.Net.Request

/-!
# Net/Web — asking servers, and going where they point

A `Web` is known by what a request for each URL comes to.  Asking it (`Web.get`) reads the URL, and
follows the answer **as long as it points elsewhere, but ten times at most**.
-/

namespace Airdrop.Net

/-- What part of an exchange over the network failed. -/
inductive ExchangeFault
  /-- No answer in time. -/
  | timeout
  /-- The request could not be made. -/
  | builder
  /-- The answer pointed elsewhere too often. -/
  | redirect
  /-- The request could not be sent, or its answer not received. -/
  | request
  deriving DecidableEq

/-- **An exchange that failed.** -/
structure ExchangeFailure where
  fault : ExchangeFault
  cause : Cause
  deriving DecidableEq

/-- **What a server answers.** -/
structure Response where
  status : Nat
  /-- Where to look instead. -/
  location : Option String
  body : List UInt8
  deriving DecidableEq

/-- **What a request for a URL comes to.** -/
abbrev Web := Url → Except ExchangeFailure Response

namespace Web

/-- The web that cannot be reached. -/
def unreachable : Web := fun url =>
  .error ⟨.request, Cause.telling ("error sending request for url (" ++ url.text ++ ")")
    ["error trying to connect", "tcp connect error", "Network is unreachable (os error 101)"]⟩

/-- How often an answer may point elsewhere. -/
def maxRedirects : Nat := 10

/-- Whether an answer with this status may point elsewhere. -/
def isRedirect (status : Nat) : Bool := [301, 302, 303, 307, 308].contains status

/-- Where an answer points. -/
def next? (url : Url) (response : Response) : Option Url := do
  if isRedirect response.status then (url.join (← response.location)).toOption else none

/-- Ask for a URL, and for `left` others at most if the answers point to them. -/
def follow (web : Web) (left : Nat) (url : Url) : Except ExchangeFailure Response :=
  match web url with
  | .error failure => .error failure
  | .ok response =>
    match next? url response with
    | none => .ok response
    | some next =>
      match left with
      | 0 => .error ⟨.redirect, Cause.telling
          ("error following redirect for url (" ++ url.text ++ ")") ["too many redirects"]⟩
      | left + 1 => follow web left next

/-- **Ask for a URL.** -/
def get (web : Web) (text : String) : Except ExchangeFailure Response :=
  match Request.read text with
  | .error fault => .error ⟨.builder, Cause.telling fault.message fault.behind⟩
  | .ok url => follow web maxRedirects url

end Web

end Airdrop.Net
