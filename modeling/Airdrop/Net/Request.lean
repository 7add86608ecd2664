import Airdrop.Net.Url

/-!
# Net/Request — which URLs can be asked

Not every URL can be asked: its scheme has to be one that answers, and its host has to be one that
a request can name.  **Name and password are not part of the URL that is asked**; whoever gives them
in a form that is text gets them sent along.
-/

namespace Airdrop.Net

/-- Why nothing can be asked. -/
inductive RequestFault
  /-- The text is no URL. -/
  | noUrl (fault : UrlFault)
  | scheme (url : Url)
  /-- The URL cannot be written down in a request. -/
  | unsendable (url : Url)
  deriving DecidableEq

namespace RequestFault

/-- **The fault in words.** -/
def message : RequestFault → String
  | .noUrl _ => "builder error"
  | .scheme url => "builder error for url (" ++ url.text ++ ")"
  | .unsendable url => "builder error for url (" ++ url.text ++ ")"

/-- What lies behind the fault. -/
def behind : RequestFault → List String
  | .noUrl fault => [fault.message]
  | .scheme _ => ["URL scheme is not allowed"]
  | .unsendable _ => ["Parsed Url is not a valid Uri"]

end RequestFault

namespace Request

/-- Whether a coded text stands for text. -/
def isText (coded : List Char) : Bool :=
  (Text.Utf8.decode? (Percent.decode (Text.Utf8.encode coded))).isSome

/-- Whether a name and a password are sent along, apart from the URL. -/
def sendsUser (authority : Authority) : Bool :=
  isText authority.user &&
    (!authority.user.isEmpty || (!authority.password.isEmpty && isText authority.password))

/-- The URL that is asked in place of a URL. -/
def target (url : Url) : Url :=
  if url.authority.any sendsUser then url.withoutUser else url

/-- The schemes that answer. -/
def schemes : List String := ["http", "https"]

/-- The bytes that a URL in a request may have. -/
def maxBytes : Nat := 65534

/-- Whether a host can be named in a request. -/
def canName (host : String) : Bool := !host.toList.any "\"`\x7b\x7d".toList.contains

/-- Whether a URL can be written down in a request. -/
def isSendable (url : Url) : Bool :=
  url.authority.all (canName ·.host) && url.text.utf8ByteSize ≤ maxBytes

/-- **The URL that is asked when a text is to be.** -/
def read (text : String) : Except RequestFault Url :=
  match Url.ofText text with
  | .error fault => .error (.noUrl fault)
  | .ok url =>
    let url := target url
    if !schemes.contains url.scheme then .error (.scheme url)
    else if !isSendable url then .error (.unsendable url)
    else .ok url

end Request

end Airdrop.Net
