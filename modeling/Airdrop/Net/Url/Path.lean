import Airdrop.Net.Percent
import Airdrop.Net.Url.Scheme

/-!
# Net/Url/Path — paths without detours

A path is segments with slashes in front.  A segment of one dot stands still and one of two dots
goes back a segment, **but never past a drive**, the letter and colon that paths of some machines
begin with.  Reading a path takes these steps, so a path in its normal form has none left.
-/

namespace Airdrop.Net.Path

/-- Characters of a path that are coded. -/
def isCoded (c : Char) : Bool := " \"#<>?`\x7b\x7d".toList.contains c

/-- Whether a segment names a drive. -/
def isDrive : List Char → Bool
  | [letter, mark] => Scheme.isLetter letter && (mark == ':' || mark == '|')
  | _ => false

/-- A segment with its coded dots as dots. -/
def plainDots (segment : List Char) : List Char :=
  match segment with
  | '%' :: '2' :: e :: rest =>
    if e.toLower = 'e' then '.' :: plainDots rest else '%' :: '2' :: plainDots (e :: rest)
  | c :: rest => c :: plainDots rest
  | [] => []

/-- The segments before the last one, of segments in reverse; a drive stays. -/
def back : List (List Char) → List (List Char)
  | [] => []
  | last :: before => if isDrive last then last :: before else before

/-- The segments of a path after its steps; `kept` has those before, last one first. -/
def resolve (kept : List (List Char)) : List (List Char) → List (List Char)
  | [] => kept.reverse
  | segment :: rest =>
    let stay := fun kept : List (List Char) => if rest.isEmpty then [] :: kept else kept
    if plainDots segment = ['.'] then resolve (stay kept) rest
    else if plainDots segment = ['.', '.'] then resolve (stay (back kept)) rest
    else resolve (segment :: kept) rest

/-- The segments of a text, coded. -/
def segments (manner : Manner) (text : List Char) : List (List Char) :=
  let slashed := text.map fun c => if manner.isSlash c then '/' else c
  let body := match slashed with
    | '/' :: rest => rest
    | other => other
  (body.splitOn '/').map (Percent.encode isCoded)

/-- Segments as text. -/
def join (segments : List (List Char)) : List Char := segments.flatMap ('/' :: ·)

/-- **A path in its normal form.** -/
def normal (manner : Manner) (text : List Char) : List Char :=
  join (resolve [] (segments manner text))

/-! ## Files -/

/-- Segments without the empty ones in front of others. -/
def dropEmpty : List (List Char) → List (List Char)
  | [] :: second :: rest => dropEmpty (second :: rest)
  | segments => segments

/-- A drive with a colon. -/
def withColon (segment : List Char) : List Char :=
  if isDrive segment then segment.take 1 ++ [':'] else segment

/-- The segments of the path of a file, whose first one may be a drive. -/
def fileSegments (text : List Char) : List (List Char) :=
  match resolve [] (segments .file text) with
  | first :: rest => withColon first :: rest
  | [] => []

/-- Whether the path of a file begins with a drive. -/
def hasDrive (text : List Char) : Bool := (fileSegments text).head?.any isDrive

/-- **The path of a file in its normal form.** -/
def ofFile (text : List Char) : List Char := join (dropEmpty (fileSegments text))

end Airdrop.Net.Path
