import Airdrop.Text.Blank
import Airdrop.Text.Utf8

/-!
# Text/Csv — records of comma-separated fields

A table is bytes, cut into records by line ends and into fields by commas.  A field that begins with
a quote runs to the closing one, whatever is between; a quote written twice inside it is one quote,
and what follows the closing quote is simply added.  **Every byte string is a table**: an unclosed
quote ends with the bytes, and empty lines are no records.

`Scan` reads byte by byte.  Its lists grow at the front, so they are reversed where they end.
-/

namespace Airdrop.Csv

/-- Where a byte stands. -/
inductive Place
  /-- Before a record. -/
  | record
  /-- At the start of a field. -/
  | field
  /-- Inside a field, outside quotes. -/
  | plain
  /-- Inside quotes. -/
  | quoted
  /-- Behind a quote that may have been the closing one. -/
  | quote
  deriving DecidableEq

/-- What has been read. -/
structure Scan where
  place : Place
  /-- The field being read, last byte first. -/
  field : List UInt8
  /-- The fields before it in its record, last one first. -/
  fields : List (List UInt8)
  /-- The records before that, last one first. -/
  records : List (List (List UInt8))

namespace Scan

/-- Nothing has been read. -/
def start : Scan := ⟨.record, [], [], []⟩

/-- Add a byte to the field. -/
def add (s : Scan) (byte : UInt8) (place : Place) : Scan :=
  { s with place := place, field := byte :: s.field }

/-- The field has ended. -/
def endField (s : Scan) : Scan :=
  { s with place := .field, field := [], fields := s.field.reverse :: s.fields }

/-- The field has ended, and the record with it. -/
def endRecord (s : Scan) : Scan :=
  ⟨.record, [], [], (s.field.reverse :: s.fields).reverse :: s.records⟩

/-- A line feed or a carriage return. -/
def isLineEnd (byte : UInt8) : Bool := byte == 0x0a || byte == 0x0d

/-- Read a byte outside quotes. -/
def outside (s : Scan) (byte : UInt8) : Scan :=
  if byte = 0x2c then s.endField
  else if isLineEnd byte then s.endRecord
  else s.add byte .plain

/-- Read a byte at the start of a field. -/
def atStart (s : Scan) (byte : UInt8) : Scan :=
  if byte = 0x22 then { s with place := .quoted } else s.outside byte

/-- **Read a byte.** -/
def step (s : Scan) (byte : UInt8) : Scan :=
  match s.place with
  | .record => if isLineEnd byte then s else s.atStart byte
  | .field => s.atStart byte
  | .plain => s.outside byte
  | .quoted => if byte = 0x22 then { s with place := .quote } else s.add byte .quoted
  | .quote => if byte = 0x22 then s.add byte .quoted else s.outside byte

/-- All records, once the bytes have ended. -/
def finish (s : Scan) : List (List (List UInt8)) :=
  (if s.place = .record then s else s.endRecord).records.reverse

end Scan

/-- **The records of a table**, each with its fields as bytes.  A byte order mark in front is
dropped. -/
def records (table : List UInt8) : List (List (List UInt8)) :=
  ((Text.Utf8.dropMark table).foldl Scan.step Scan.start).finish

/-- The fields of a record as text without blanks around, if all are text. -/
def texts? (record : List (List UInt8)) : Option (List String) :=
  record.mapM fun field =>
    (Text.Utf8.decode? field).map fun text => String.ofList (Text.trim text)

end Airdrop.Csv
