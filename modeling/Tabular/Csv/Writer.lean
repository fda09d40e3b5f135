/-
Writing records of fields as CSV bytes. A field is quoted only when it holds a special byte, and
quotes inside are written twice; a record of one empty field is two quotes, for a blank line
would vanish.
-/
import Tabular.Csv.Reader

namespace Tabular.Csv

/-- What ends a written record. -/
inductive Terminator where
  | byte (b : UInt8)
  | crlf
  deriving DecidableEq

namespace Terminator

def bytes : Terminator → List UInt8
  | .byte b => [b]
  | .crlf => [13, 10]

/-- The bytes that could be taken for the end of a record. -/
def isSpecial (t : Terminator) (b : UInt8) : Bool :=
  match t with
  | .crlf => isLineEnd b
  | .byte stop => if isLineEnd stop then isLineEnd b else b == stop

end Terminator

/-- The special bytes of a text to be written. -/
structure Layout where
  delimiter : UInt8
  quote : UInt8
  terminator : Terminator
  deriving DecidableEq

def needsQuotes (l : Layout) (field : List UInt8) : Bool :=
  field.any fun b => b == l.delimiter || b == l.quote || l.terminator.isSpecial b

def quoteField (quote : UInt8) (field : List UInt8) : List UInt8 :=
  quote :: field.flatMap (fun b => if b = quote then [quote, quote] else [b]) ++ [quote]

def writeField (l : Layout) (field : List UInt8) : List UInt8 :=
  if needsQuotes l field then quoteField l.quote field else field

/-- The fields of a record with delimiters between them. -/
def joinFields (l : Layout) : Record → List UInt8
  | [] => []
  | [field] => writeField l field
  | field :: rest => writeField l field ++ l.delimiter :: joinFields l rest

/-- A record with its end; one without fields is not written. -/
def writeRecord (l : Layout) (record : Record) : List UInt8 :=
  match record with
  | [] => []
  | [[]] => l.quote :: l.quote :: l.terminator.bytes
  | _ => joinFields l record ++ l.terminator.bytes

/-- The bytes of some records. -/
def write (l : Layout) (records : List Record) : List UInt8 :=
  records.flatMap (writeRecord l)

end Tabular.Csv
