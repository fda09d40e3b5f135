/-
Reading CSV bytes as records of fields. A quoted field may hold delimiters and line ends; inside
it a quote is written twice, or follows an escape byte where the dialect has one. Blank lines
vanish, and the end of the text ends an open record.
-/
namespace Tabular.Csv

/-- The special bytes of a text to be read. -/
structure Dialect where
  delimiter : UInt8
  quote : UInt8
  escape : Option UInt8
  deriving DecidableEq

/-- Where in a record the reader stands. -/
inductive State where
  | recordStart
  | fieldStart
  | unquoted
  | quoted
  | escaped
  | afterQuote
  deriving DecidableEq

/-- What a byte does: change the place only, add itself to the field, or end a field or a record. -/
inductive Move where
  | skip (next : State)
  | copy (next : State)
  | endField
  | endRecord
  deriving DecidableEq

def isLineEnd (b : UInt8) : Bool :=
  b == 10 || b == 13

/-- A byte outside quotes. -/
def plainMove (d : Dialect) (b : UInt8) : Move :=
  if b = d.delimiter then .endField
  else if isLineEnd b then .endRecord
  else .copy .unquoted

/-- A byte at the start of a field. -/
def startMove (d : Dialect) (b : UInt8) : Move :=
  if b = d.quote then .skip .quoted else plainMove d b

def move (d : Dialect) (s : State) (b : UInt8) : Move :=
  match s with
  | .recordStart => if isLineEnd b then .skip .recordStart else startMove d b
  | .fieldStart => startMove d b
  | .unquoted => plainMove d b
  | .quoted =>
    if b = d.quote then .skip .afterQuote
    else if some b = d.escape then .skip .escaped
    else .copy .quoted
  | .escaped => .copy .quoted
  | .afterQuote => if b = d.quote ∧ d.escape = none then .copy .quoted else plainMove d b

abbrev Record := List (List UInt8)

/-- The record of the fields so far, the last first, and the open field, its last byte first. -/
def closeRecord (fields : Record) (field : List UInt8) : Record :=
  (field.reverse :: fields).reverse

/-- Reads records from a place on, with the fields so far and the open field. -/
def readFrom (d : Dialect) (s : State) (fields : Record) (field : List UInt8) :
    List UInt8 → List Record
  | [] => if s = .recordStart then [] else [closeRecord fields field]
  | b :: bs =>
    match move d s b with
    | .skip next => readFrom d next fields field bs
    | .copy next => readFrom d next fields (b :: field) bs
    | .endField => readFrom d .fieldStart (field.reverse :: fields) [] bs
    | .endRecord => closeRecord fields field :: readFrom d .recordStart [] [] bs

/-- Takes a byte-order mark off the start. -/
def dropMark : List UInt8 → List UInt8
  | 0xEF :: 0xBB :: 0xBF :: bs => bs
  | bs => bs

/-- The records of a text. -/
def records (d : Dialect) (bytes : List UInt8) : List Record :=
  readFrom d .recordStart [] [] (dropMark bytes)

end Tabular.Csv
