/-
JSON text. The compact form has no blanks; the indented form gives each item a line of its own,
two blanks deeper than its container.
-/
import Tabular.Json.Basic

namespace Tabular.Json

/-! ## Strings -/

def hexDigit (n : Nat) : Char :=
  Nat.digitChar (n % 16)

/-- A character inside a string: quotes, backslashes and control characters are escaped. -/
def escapeChar (c : Char) : List Char :=
  if c = '"' then ['\\', '"']
  else if c = '\\' then ['\\', '\\']
  else if c = '\n' then ['\\', 'n']
  else if c = '\r' then ['\\', 'r']
  else if c = '\t' then ['\\', 't']
  else if c = '\x08' then ['\\', 'b']
  else if c = '\x0c' then ['\\', 'f']
  else if c.toNat < 0x20 then ['\\', 'u', '0', '0', hexDigit (c.toNat / 16), hexDigit c.toNat]
  else [c]

def quoted (s : String) : List Char :=
  '"' :: s.toList.flatMap escapeChar ++ ['"']

/-! ## Scalars -/

def nullText : List Char :=
  ['n', 'u', 'l', 'l']

def boolText (b : Bool) : List Char :=
  if b then ['t', 'r', 'u', 'e'] else ['f', 'a', 'l', 's', 'e']

def integerText (n : Int) : List Char :=
  (toString n).toList

def floatText (d : Double) : List Char :=
  (d.document?.map String.toList).getD nullText

/-! ## The compact form -/

mutual

def compactChars : Json → List Char
  | .null => nullText
  | .bool b => boolText b
  | .integer n => integerText n
  | .float d => floatText d
  | .string s => quoted s
  | .array items => '[' :: compactItems items ++ [']']
  | .object members => '{' :: compactMembers members ++ ['}']

def compactItems : List Json → List Char
  | [] => []
  | [v] => compactChars v
  | v :: rest => compactChars v ++ ',' :: compactItems rest

def compactMembers : List (String × Json) → List Char
  | [] => []
  | [(k, v)] => quoted k ++ ':' :: compactChars v
  | (k, v) :: rest => quoted k ++ ':' :: compactChars v ++ ',' :: compactMembers rest

end

/-- The compact text of a value. -/
def compact (v : Json) : String :=
  String.ofList v.compactChars

/-! ## The indented form -/

def newline (depth : Nat) : List Char :=
  '\n' :: List.replicate (2 * depth) ' '

mutual

def indentedChars (depth : Nat) : Json → List Char
  | .null => nullText
  | .bool b => boolText b
  | .integer n => integerText n
  | .float d => floatText d
  | .string s => quoted s
  | .array [] => ['[', ']']
  | .array items => '[' :: indentedItems (depth + 1) items ++ newline depth ++ [']']
  | .object [] => ['{', '}']
  | .object members => '{' :: indentedMembers (depth + 1) members ++ newline depth ++ ['}']

def indentedItems (depth : Nat) : List Json → List Char
  | [] => []
  | [v] => newline depth ++ indentedChars depth v
  | v :: rest => newline depth ++ indentedChars depth v ++ ',' :: indentedItems depth rest

def indentedMembers (depth : Nat) : List (String × Json) → List Char
  | [] => []
  | [(k, v)] => newline depth ++ quoted k ++ ':' :: ' ' :: indentedChars depth v
  | (k, v) :: rest =>
    newline depth ++ quoted k ++ ':' :: ' ' :: indentedChars depth v
      ++ ',' :: indentedMembers depth rest

end

/-- The indented text of a value. -/
def indented (v : Json) : String :=
  String.ofList (v.indentedChars 0)

/-- The cell of any value; an array or an object becomes its compact text. -/
def toCell (v : Json) : Cell :=
  v.scalarCell?.getD (.text v.compact)

end Tabular.Json
