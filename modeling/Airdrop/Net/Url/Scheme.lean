import Airdrop.Text.Digits

/-!
# Net/Url/Scheme — the word in front of a URL

The scheme says how the rest of a URL is read.  **The schemes of the web always have a host**, a
file may be on a host, and of other schemes little is known.
-/

namespace Airdrop.Net

/-- **How the URLs of a scheme are read.** -/
inductive Manner
  /-- With a host, and leniently. -/
  | web
  /-- With a host or a drive or neither, and leniently. -/
  | file
  /-- By the letter. -/
  | other
  deriving DecidableEq

namespace Scheme

/-- The schemes of the web and their ports. -/
def webPorts : List (String × Nat) :=
  [("http", 80), ("https", 443), ("ws", 80), ("wss", 443), ("ftp", 21)]

/-- How the URLs of a scheme are read. -/
def manner (scheme : String) : Manner :=
  if webPorts.any (·.1 == scheme) then .web else if scheme == "file" then .file else .other

/-- A letter of ASCII. -/
def isLetter (c : Char) : Bool := ('a' ≤ c && c ≤ 'z') || ('A' ≤ c && c ≤ 'Z')

/-- A character of a scheme, after its first letter. -/
def isSchemeChar (c : Char) : Bool :=
  isLetter c || Text.isDigit c || c == '+' || c == '-' || c == '.'

/-- The scheme of a URL, in lower case, and what follows its colon. -/
def split? (text : List Char) : Option (String × List Char) :=
  if text.head?.any isLetter then
    match text.dropWhile isSchemeChar with
    | ':' :: rest => some (String.ofList ((text.takeWhile isSchemeChar).map Char.toLower), rest)
    | _ => none
  else none

end Scheme

namespace Manner

/-- A slash or, read leniently, a backslash. -/
def isSlash (manner : Manner) (c : Char) : Bool := c == '/' || (manner != .other && c == '\\')

/-- Whether a character ends an authority. -/
def endsAuthority (manner : Manner) (c : Char) : Bool := manner.isSlash c || c == '?' || c == '#'

/-- What follows two slashes. -/
def afterSlashes? (manner : Manner) : List Char → Option (List Char)
  | a :: b :: rest => if manner.isSlash a && manner.isSlash b then some rest else none
  | _ => none

end Manner

end Airdrop.Net
