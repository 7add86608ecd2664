import Airdrop.Net.Host
import Airdrop.Net.Url.Scheme
import Airdrop.Text.Split

/-!
# Net/Url/Authority — whose URL, and where

What stands between the two slashes and the path: perhaps a name and a password, a host, perhaps a
port.  **The last `@` ends the name**, so that both it and the password may have others; the port
begins at the first colon that is not inside brackets.
-/

namespace Airdrop.Net

/-- Why a text is no URL. -/
inductive UrlFault
  /-- It has no scheme. -/
  | relative
  | port
  | host (fault : HostFault)
  deriving DecidableEq

/-- The fault in words. -/
def UrlFault.message : UrlFault → String
  | .relative => "relative URL without a base"
  | .port => "invalid port number"
  | .host .empty => "empty host"
  | .host .ipv4 => "invalid IPv4 address"
  | .host .ipv6 => "invalid IPv6 address"
  | .host .domain => "invalid international domain name"
  | .host .character => "invalid domain character"

/-- **Who and where.** -/
structure Authority where
  /-- A name, coded; empty if none is given. -/
  user : List Char
  /-- A password, coded; empty if none is given. -/
  password : List Char
  /-- The host as text, which is empty if there is none. -/
  host : String
  /-- The port, unless it is the scheme's own. -/
  port : Option Nat
  deriving DecidableEq

namespace Authority

/-- The authority of a host alone. -/
def ofHost (host : String) : Authority := ⟨[], [], host, none⟩

/-- The authority without name and password. -/
def withoutUser (a : Authority) : Authority := { a with user := [], password := [] }

/-- Characters of a name or password that are coded. -/
def isCoded (c : Char) : Bool := " \"#<>?`\x7b\x7d/:;=@[\\]^|".toList.contains c

/-- The texts before and after the colon of the port; a colon in brackets is none. -/
def splitPort (inBrackets : Bool) : List Char → List Char × Option (List Char)
  | [] => ([], none)
  | c :: rest =>
    if c = ':' && !inBrackets then ([], some rest)
    else
      let inBrackets := if c = '[' then true else if c = ']' then false else inBrackets
      let (host, port) := splitPort inBrackets rest
      (c :: host, port)

/-- The port that digits denote: below 65536, and nothing is the scheme's own. -/
def readPort (scheme : String) (digits : List Char) : Except UrlFault (Option Nat) :=
  let port := Text.valueOfDigits digits
  if 65535 < port then .error .port
  else if digits.isEmpty || Scheme.webPorts.contains (scheme, port) then .ok none
  else .ok (some port)

/-- Host and port.  A port ends with its digits; only a path may follow them. -/
def readPlace (scheme : String) (text : List Char) : Except UrlFault (Authority × List Char) := do
  let manner := Scheme.manner scheme
  let (name, portText) := splitPort false text
  if name.isEmpty && (manner == .web || portText.isSome) then throw (.host .empty)
  let host ← (if manner == .other then Host.ofOpaque name else Host.ofText name).mapError .host
  match portText with
  | none => return (ofHost host.text, [])
  | some portText =>
    let digits := portText.takeWhile Text.isDigit
    let behind := portText.drop digits.length
    let port ← readPort scheme digits
    if behind.head?.any (· != '\\') then throw .port
    return ({ ofHost host.text with port := port }, behind)

/-- **Read an authority**; what is left belongs to the path.  `followed` says whether there is any
text behind the authority. -/
def read (scheme : String) (text : List Char) (followed : Bool) :
    Except UrlFault (Authority × List Char) :=
  match Text.Split.atLast? '@' text with
  | none => readPlace scheme text
  | some (before, place) => do
    if before.isEmpty && place.isEmpty && followed then throw (.host .empty)
    let (authority, rest) ← readPlace scheme place
    let (user, password) := Text.Split.atFirst ':' before
    let coded := Percent.encode isCoded
    let named := { authority with user := coded user, password := coded (password.getD []) }
    if authority.host.isEmpty && named != authority then throw (.host .empty)
    return (named, rest)

/-- The text of an authority. -/
def text (a : Authority) : String :=
  let password := if a.password.isEmpty then "" else ":" ++ String.ofList a.password
  let user := String.ofList a.user ++ password
  (if user.isEmpty then "" else user ++ "@") ++ a.host ++
    (match a.port with
      | none => ""
      | some port => ":" ++ toString port)

end Authority

end Airdrop.Net
