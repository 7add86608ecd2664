import Airdrop.ClaimApi

/-!
# ClaimApi/Http — the claim API on the web

The claim of an address is found under `user/` and the address, below the base URL.  An answer is a
claim if its status says so; **404 and 429 are failures of their own kind, every other status is a
refusal** with the text that came with it.
-/

namespace Airdrop

open Net

/-- **How to reach a claim API.** -/
structure Endpoint where
  /-- The base URL, without slashes at its end. -/
  baseUrl : String
  /-- How long to wait for an answer, in milliseconds. -/
  timeout : Nat := 30000
  /-- What the requests say they come from. -/
  userAgent : String := "jito-distributor-sdk/0.1.0"
  deriving DecidableEq

namespace Endpoint

/-- A text without slashes at its end. -/
def withoutSlashes (text : List Char) : List Char := (text.reverse.dropWhile (· == '/')).reverse

/-- The endpoint of a base URL. -/
def ofText (url : String) : Endpoint where
  baseUrl := String.ofList (withoutSlashes url.toList)

/-- A byte that may stand in a header. -/
def isHeaderByte (byte : UInt8) : Bool := byte == 9 || (32 ≤ byte && byte != 127)

/-- Whether a text may stand in a header. -/
def isHeaderText (text : String) : Bool := (Text.Utf8.encode text.toList).all isHeaderByte

/-- **Whether requests can be made**: first the URL counts, then what they say they come from. -/
def check (e : Endpoint) : Except ApiFault Unit :=
  match Url.ofText e.baseUrl with
  | .error fault => .error (.invalidUrl fault.message)
  | .ok _ =>
    if isHeaderText e.userAgent then .ok ()
    else .error (.exchange .builder
      (Cause.telling "builder error" ["failed to parse header value"]))

/-- Where the claim of an address is found. -/
def userUrl (e : Endpoint) (address : Address) : String :=
  e.baseUrl ++ "/user/" ++ address.text

/-- The text of a body. -/
def bodyText (body : List UInt8) : String :=
  String.ofList (Text.Utf8.decodeLossy (Text.Utf8.dropMark body))

/-- **What an answer comes to.** -/
def outcomeOf (response : Response) : Outcome :=
  if 200 ≤ response.status ∧ response.status < 300 then
    match Claim.ofBody response.body with
    | .ok claim => .ok claim
    | .error failure => .error (.malformedBody failure)
  else if response.status = 404 then .error (.unknown (bodyText response.body))
  else if response.status = 429 then .error .rateLimited
  else .error (.refused response.status (bodyText response.body))

/-- **Ask for the claim of an address.** -/
def ask (e : Endpoint) (web : Web) (address : Address) : Outcome :=
  match web.get (e.userUrl address) with
  | .error failure => .error (.exchange failure.fault failure.cause)
  | .ok response => outcomeOf response

/-- The claim API at an endpoint, whose answers take no time. -/
def service (e : Endpoint) (web : Web) : Service Unit :=
  Service.fixed fun call => ⟨e.ask web call.address, 0⟩

end Endpoint

end Airdrop
