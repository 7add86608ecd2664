import Airdrop.Net.Url.Authority
import Airdrop.Net.Url.Path
import Airdrop.Text.Blank

/-!
# Net/Url — where a service is to be found

A URL has a scheme, and the schemes of the web have a host as well: **a web URL without a host is
none**.  Reading is lenient where the web is (blanks at the ends, backslashes for slashes, any
number of slashes before the host) and gives every URL its normal text.
-/

namespace Airdrop.Net

/-- **A URL.** -/
structure Url where
  scheme : String
  authority : Option Authority
  path : List Char
  query : Option (List Char)
  fragment : Option (List Char)
  deriving DecidableEq

namespace Url

/-- How URLs of this scheme are read. -/
def manner (url : Url) : Manner := Scheme.manner url.scheme

/-- Characters of a query that are coded. -/
def codedInQuery (manner : Manner) (c : Char) : Bool :=
  " \"#<>".toList.contains c || (manner != .other && c == '\'')

/-- Characters of a fragment that are coded. -/
def codedInFragment (c : Char) : Bool := " \"<>`".toList.contains c

/-! ## Reading -/

/-- The text without what never counts: control characters and spaces at the ends, tabs and line
ends anywhere. -/
def clean (text : List Char) : List Char :=
  (Text.trimBy (fun c => c.toNat ≤ 0x20) text).filter fun c => c ≠ '\t' && c ≠ '\n' && c ≠ '\r'

/-- The path of a URL.  Without an authority or a slash it is opaque, and no path at all. -/
def readPath (manner : Manner) (hasAuthority : Bool) (text : List Char) : List Char :=
  match manner with
  | .web => Path.normal .web text
  | .file => Path.ofFile text
  | .other =>
    if hasAuthority && text.isEmpty then []
    else if hasAuthority || text.head? = some '/' then Path.normal .other text
    else Percent.encode (fun _ => false) text

/-- A URL from its scheme, its authority, and everything behind. -/
def assemble (scheme : String) (authority : Option Authority) (rest : List Char) : Url :=
  let manner := Scheme.manner scheme
  let (rest, fragment) := Text.Split.atFirst '#' rest
  let (path, query) := Text.Split.atFirst '?' rest
  { scheme := scheme
    authority := authority
    path := readPath manner authority.isSome path
    query := query.map (Percent.encode (codedInQuery manner))
    fragment := fragment.map (Percent.encode codedInFragment) }

/-- A URL with an authority, from what follows the slashes. -/
def ofPlace (scheme : String) (text : List Char) : Except UrlFault Url := do
  let name := text.takeWhile fun c => !(Scheme.manner scheme).endsAuthority c
  let behind := text.drop name.length
  let (authority, rest) ← Authority.read scheme name !behind.isEmpty
  return assemble scheme (some authority) (rest ++ behind)

/-- The host of a file; the machine itself is not named. -/
def fileHost (name : List Char) : Except UrlFault String :=
  if name.isEmpty then .ok ""
  else match Host.ofText name with
    | .error fault => .error (.host fault)
    | .ok host => .ok (if host.text == "localhost" then "" else host.text)

/-- The URL of a file, from what follows the scheme.  A drive is not on any host. -/
def ofFile (text : List Char) : Except UrlFault Url := do
  match Manner.file.afterSlashes? text with
  | none => return assemble "file" (some (Authority.ofHost "")) text
  | some place =>
    let name := place.takeWhile fun c => !Manner.file.endsAuthority c
    if Path.isDrive name then return assemble "file" (some (Authority.ofHost "")) place
    let behind := place.drop name.length
    let host ← fileHost name
    let path := behind.takeWhile fun c => c ≠ '?' && c ≠ '#'
    return assemble "file" (some (Authority.ofHost (if Path.hasDrive path then "" else host)))
      behind

/-- A URL from its scheme and the rest. -/
def ofParts (scheme : String) (rest : List Char) : Except UrlFault Url :=
  match Scheme.manner scheme with
  | .web => ofPlace scheme (rest.dropWhile Manner.web.isSlash)
  | .file => ofFile rest
  | .other => match Manner.other.afterSlashes? rest with
    | some place => ofPlace scheme place
    | none => .ok (assemble scheme none rest)

/-- **Read a URL.** -/
def ofText (text : String) : Except UrlFault Url :=
  match Scheme.split? (clean text.toList) with
  | none => .error .relative
  | some (scheme, rest) => ofParts scheme rest

/-- **The normal text of a URL.**  A path is kept from looking like an authority. -/
def text (url : Url) : String :=
  let place := match url.authority with
    | some authority => "//" ++ authority.text
    | none => if ['/', '/'].isPrefixOf url.path then "/." else ""
  let marked := fun (mark : String) (part : Option (List Char)) => match part with
    | none => ""
    | some part => mark ++ String.ofList part
  url.scheme ++ ":" ++ place ++ String.ofList url.path ++ marked "?" url.query ++
    marked "#" url.fragment

/-- The URL without name and password. -/
def withoutUser (url : Url) : Url :=
  { url with authority := url.authority.map Authority.withoutUser }

/-! ## References -/

/-- A path without its last segment, but for the slash before it. -/
def parentPath (path : List Char) : List Char := (path.reverse.dropWhile (· ≠ '/')).reverse

/-- The URL that a text without a scheme names, seen from another URL. -/
def joinRelative (base : Url) (text : List Char) : Except UrlFault Url :=
  let rooted := fun rest => assemble base.scheme base.authority rest
  let query := match base.query with
    | some query => '?' :: query
    | none => []
  match text with
  | [] => .ok { base with fragment := none }
  | '#' :: _ => .ok (rooted (base.path ++ query ++ text))
  | '?' :: _ => .ok (rooted (base.path ++ text))
  | c :: _ =>
    match base.manner.afterSlashes? text with
    | some _ => ofParts base.scheme text
    | none =>
      if base.manner.isSlash c then .ok (rooted text)
      else .ok (rooted (parentPath base.path ++ text))

/-- **The URL that a reference names**, seen from another URL.  On the web a reference may repeat
the scheme and go on as if it had not. -/
def join (base : Url) (reference : String) : Except UrlFault Url :=
  let text := clean reference.toList
  match Scheme.split? text with
  | none => base.joinRelative text
  | some (scheme, rest) =>
    if base.manner == .web && scheme == base.scheme && (Manner.web.afterSlashes? rest).isNone then
      base.joinRelative rest
    else ofParts scheme rest

end Url

end Airdrop.Net
