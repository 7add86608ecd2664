import Airdrop.Text.Utf8

/-!
# Files — what a file system holds, and how reading it fails

A directory is the list of its entries in the order in which the file system happens to give them.
**Nothing in the library depends on that order** but the choice between several subdirectories.

A path is walked name by name, and **every step starts from a folder that is there**, the steps that
stay or go back as well; so a path may lead nowhere by way of a folder that is missing, even if it
leaves that folder at once.
-/

namespace Airdrop

/-- Why a file or directory could not be read. -/
inductive FileFault
  | notFound
  | isDirectory
  | notDirectory
  | nameTooLong
  | denied
  /-- The file was to hold text, and its bytes are none. -/
  | notText
  deriving DecidableEq

/-- The fault in words. -/
def FileFault.message : FileFault → String
  | .notFound => "No such file or directory (os error 2)"
  | .isDirectory => "Is a directory (os error 21)"
  | .notDirectory => "Not a directory (os error 20)"
  | .nameTooLong => "File name too long (os error 36)"
  | .denied => "Permission denied (os error 13)"
  | .notText => "stream did not contain valid UTF-8"

/-- What a name in a directory stands for. -/
inductive Entry
  | file (content : List UInt8)
  | folder

/-- The entries of a directory, each under its name. -/
abbrev Directory := List (String × Entry)

namespace Directory

/-- The name of the first subdirectory. -/
def folder? : Directory → Option String
  | [] => none
  | (name, .folder) :: _ => some name
  | (_, .file _) :: rest => folder? rest

/-- The files, with their content. -/
def files (directory : Directory) : List (String × List UInt8) :=
  directory.filterMap fun
    | (name, .file content) => some (name, content)
    | (_, .folder) => none

/-- The files in the order of their names. -/
def sortedFiles (directory : Directory) : List (String × List UInt8) :=
  directory.files.mergeSort fun a b => decide (a.1 ≤ b.1)

end Directory

/-- The path of an entry of a directory. -/
def joinPath (directory name : String) : String :=
  if directory.isEmpty || directory.endsWith "/" then directory ++ name
  else directory ++ "/" ++ name

/-- **Files and directories, known by their paths.** -/
structure FileSystem where
  readFile : String → Except FileFault (List UInt8)
  readDirectory : String → Except FileFault Directory

namespace FileSystem

/-- Read a file that has to hold text. -/
def readText (files : FileSystem) (path : String) : Except FileFault (List Char) := do
  match Text.Utf8.decode? (← files.readFile path) with
  | some text => return text
  | none => throw .notText

end FileSystem

/-! ## Paths -/

/-- **Where something is**: the names on the way to it from the root. -/
abbrev Place := List String

/-- What there is, and where. -/
abbrev Contents := List (Place × Entry)

/-- The bytes that a path may have. -/
def maxPathBytes : Nat := 4095

/-- The bytes that a name may have. -/
def maxNameBytes : Nat := 255

namespace Place

/-- The place of a plain path; a relative one begins `here`. -/
def ofPath (here : Place) (path : String) : Place :=
  (if path.startsWith "/" then [] else here) ++ (path.splitOn "/").filter (· ≠ "")

end Place

namespace Contents

/-- What is at a place.  Where something is further down, there is a folder; so there is at the
root. -/
def entry? (contents : Contents) (place : Place) : Option Entry :=
  match contents.lookup place with
  | some entry => some entry
  | none =>
    if place.isEmpty || contents.any (place.isPrefixOf ·.1) then some .folder else none

/-- **One step along a path**: an empty name and a lone dot stay where they are, two dots go back,
though never above the root.  All of them need a folder to start from. -/
def step (contents : Contents) (place : Place) (name : String) : Except FileFault Place :=
  match contents.entry? place with
  | none => .error .notFound
  | some (.file _) => .error .notDirectory
  | some .folder =>
    if name = "" || name = "." then .ok place
    else if name = ".." then .ok place.dropLast
    else if maxNameBytes < name.utf8ByteSize then .error .nameTooLong
    else match contents.entry? (place ++ [name]) with
      | some _ => .ok (place ++ [name])
      | none => .error .notFound

/-- **Where a path leads**, step by step from the root or from `here`. -/
def find (contents : Contents) (here : Place) (path : String) : Except FileFault Place :=
  if path.isEmpty then .error .notFound
  else if maxPathBytes < path.utf8ByteSize then .error .nameTooLong
  else (path.splitOn "/").foldlM contents.step (if path.startsWith "/" then [] else here)

/-- What is found below a place, by its names from there. -/
def below (place : Place) (entry : Place × Entry) : Option (String × Entry) :=
  if place.isPrefixOf entry.1 then
    match entry.1.drop place.length with
    | [] => none
    | [name] => some (name, entry.2)
    | name :: _ => some (name, .folder)
  else none

/-- The entries of the folder at a place, each name once. -/
def directory (contents : Contents) (place : Place) : Directory :=
  (contents.filterMap (below place)).foldl (fun found entry =>
    if (found.lookup entry.1).isSome then found else found ++ [entry]) []

end Contents

namespace FileSystem

/-- **The file system that holds some entries**, seen from the folder `here`. -/
def ofEntries (here : Place) (entries : List (String × Entry)) : FileSystem :=
  let contents : Contents :=
    (here, .folder) :: entries.map fun (path, entry) => (Place.ofPath here path, entry)
  { readFile := fun path => do
      match contents.entry? (← contents.find here path) with
      | some (.file content) => return content
      | some .folder => throw .isDirectory
      | none => throw .notFound
    readDirectory := fun path => do
      let place ← contents.find here path
      match contents.entry? place with
      | some .folder => return contents.directory place
      | some (.file _) => throw .notDirectory
      | none => throw .notFound }

end FileSystem

end Airdrop
