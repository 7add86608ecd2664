import Airdrop.Net.Domain
import Airdrop.Net.Percent
import Airdrop.Octets.BigEndian
import Airdrop.Text.Digits

/-!
# Net/Host — the names of machines

A host is a domain, an IPv4 address or an IPv6 address.  **A domain whose last label is a number is
an IPv4 address or nothing**; an address in brackets is IPv6 or nothing.  Domains may be of any
script (`Net/Domain`) and are known by their form in ASCII.  Outside the web a host that is not in
brackets is opaque: any name will do.
-/

namespace Airdrop.Net

open Text (numberIn?)

/-- Why a text is no host. -/
inductive HostFault
  | empty
  | ipv4
  | ipv6
  /-- The name is no domain. -/
  | domain
  /-- A character that no opaque host has. -/
  | character
  deriving DecidableEq

/-- **The name of a machine.** -/
inductive Host
  | domain (name : List Char)
  /-- As one number. -/
  | ipv4 (value : Nat)
  /-- As eight numbers of sixteen bits. -/
  | ipv6 (words : List Nat)
  deriving DecidableEq

/-! ## IPv4 -/

/-- A part of an IPv4 address: hexadecimal behind `0x`, octal behind `0`, otherwise decimal. -/
def ipv4Part? : List Char → Option Nat
  | [] => none
  | ['0'] => some 0
  | '0' :: c :: rest =>
    if c = 'x' || c = 'X' then numberIn? 16 rest else numberIn? 8 (c :: rest)
  | digits => numberIn? 10 digits

/-- The labels of a domain; an empty last one does not count. -/
def labels (name : List Char) : List (List Char) :=
  let parts := name.splitOn '.'
  if parts.length > 1 && parts.getLast? == some [] then parts.dropLast else parts

/-- Whether a domain has to be an IPv4 address. -/
def endsInNumber (name : List Char) : Bool :=
  match (labels name).getLast? with
  | none => false
  | some last => (!last.isEmpty && last.all Text.isDigit) || (ipv4Part? last).isSome

/-- The number of some parts: the last one fills what the others leave. -/
def ipv4OfParts? (before : Nat) : (room : Nat) → List Nat → Option Nat
  | 0, _ => none
  | _, [] => none
  | room, [last] => if last < 1 <<< (8 * room) then some (before <<< (8 * room) + last) else none
  | room + 1, part :: rest =>
    if part < 256 then ipv4OfParts? (before * 256 + part) room rest else none

/-- **An IPv4 address.** -/
def ipv4? (name : List Char) : Option Nat := do
  let parts ← (labels name).mapM ipv4Part?
  ipv4OfParts? 0 4 parts

/-- An IPv4 address in its usual form. -/
def ipv4Text (value : Nat) : String :=
  ".".intercalate ((BigEndian.bytesOf 4 value).map toString)

/-! ## IPv6 -/

/-- One to four hexadecimal digits. -/
def ipv6Word? (digits : List Char) : Option Nat :=
  if digits.isEmpty || digits.length > 4 then none else numberIn? 16 digits

/-- A decimal number below 256 without a zero in front. -/
def octet? (digits : List Char) : Option Nat :=
  match digits with
  | [] => none
  | ['0'] => some 0
  | '0' :: _ => none
  | _ => (numberIn? 10 digits).filter (· < 256)

/-- The two words of an IPv4 address inside an IPv6 address. -/
def embedded? (group : List Char) : Option (List Nat) := do
  match ← (group.splitOn '.').mapM octet? with
  | [a, b, c, d] => some [a * 256 + b, c * 256 + d]
  | _ => none

/-- The words of groups, the last of which may be an IPv4 address. -/
def groupWords? : List (List Char) → Option (List Nat)
  | [] => some []
  | [last] => if last.contains '.' then embedded? last else (ipv6Word? last).map ([·])
  | group :: rest => do
    let word ← ipv6Word? group
    let words ← groupWords? rest
    return word :: words

/-- The groups between colons; no text has no groups. -/
def groups (text : List Char) : List (List Char) :=
  if text.isEmpty then [] else text.splitOn ':'

/-- The texts before and after the first double colon. -/
def splitDouble? : List Char → Option (List Char × List Char)
  | ':' :: ':' :: rest => some ([], rest)
  | c :: rest => (splitDouble? rest).map fun (before, after) => (c :: before, after)
  | [] => none

/-- **An IPv6 address**, without its brackets.  A double colon stands for one zero or more. -/
def ipv6? (text : List Char) : Option (List Nat) :=
  match splitDouble? text with
  | none => (groupWords? (groups text)).filter (·.length == 8)
  | some (before, after) => do
    if before.contains '.' then none
    let front ← groupWords? (groups before)
    let back ← groupWords? (groups after)
    let words := front.length + back.length
    if words ≤ 7 then some (front ++ List.replicate (8 - words) 0 ++ back) else none

/-- Where the longest run of zeros in some words begins, and how long it is. -/
def zeroRun (words : List Nat) : Nat × Nat :=
  (List.range words.length).foldl (fun best start =>
    let length := ((words.drop start).takeWhile (· == 0)).length
    if best.2 < length then (start, length) else best) (0, 0)

/-- A word in hexadecimal digits. -/
def wordText (word : Nat) : String := String.ofList (Nat.toDigits 16 word)

/-- An IPv6 address in its shortest form. -/
def ipv6Text (words : List Nat) : String :=
  let (start, length) := zeroRun words
  let joined := fun part : List Nat => ":".intercalate (part.map wordText)
  if length < 2 then joined words
  else joined (words.take start) ++ "::" ++ joined (words.drop (start + length))

/-! ## Hosts -/

/-- A character that no opaque host has. -/
def isForbiddenOpaque (c : Char) : Bool := "\x00\t\n\r #/:<>?@[\\]^|".toList.contains c

/-- An IPv6 address and its closing bracket. -/
def Host.ofBracketed (text : List Char) : Except HostFault Host :=
  if text.getLast? ≠ some ']' then .error .ipv6
  else match ipv6? text.dropLast with
    | some words => .ok (.ipv6 words)
    | none => .error .ipv6

/-- Read an opaque host, which may be empty. -/
def Host.ofOpaque (text : List Char) : Except HostFault Host :=
  match text with
  | '[' :: rest => ofBracketed rest
  | _ =>
    if text.any isForbiddenOpaque then .error .character
    else .ok (.domain (Percent.encode (fun _ => false) text))

/-- **Read a host.**  Bytes that are no text make characters that no domain has. -/
def Host.ofText (text : List Char) : Except HostFault Host :=
  match text with
  | [] => .error .empty
  | '[' :: rest => ofBracketed rest
  | _ =>
    match Domain.toAscii? (Text.Utf8.decodeLossy (Percent.decode (Text.Utf8.encode text))) with
    | none => .error .domain
    | some [] => .error .empty
    | some name =>
      if !endsInNumber name then .ok (.domain name)
      else match ipv4? name with
        | some value => .ok (.ipv4 value)
        | none => .error .ipv4

/-- The text of a host. -/
def Host.text : Host → String
  | .domain name => String.ofList name
  | .ipv4 value => ipv4Text value
  | .ipv6 words => "[" ++ ipv6Text words ++ "]"

end Airdrop.Net
