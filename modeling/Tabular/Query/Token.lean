/-
The tokens of a query: selector texts, set operators and brackets. Quoted text belongs to the
selector around it, whatever it holds. A quote mark after a backslash neither opens nor closes.
Brackets outside quotes balance, or there are no tokens.
-/
import Tabular.Query.Error
import Tabular.Text.Blank

namespace Tabular

/-- An item of an expression whose operators stand between its operands. -/
inductive Token (α : Type) where
  | operand (value : α)
  | operator (op : SetOperator)
  | opening
  | closing
  deriving DecidableEq

namespace Token

/-- The operand of a token, if it is one. -/
def operand? {α : Type} : Token α → Option α
  | .operand a => some a
  | _ => none

/-- Applies a function that may fail to every operand, from the first on. -/
def traverse {α β ε : Type} (f : α → Except ε β) : List (Token α) → Except ε (List (Token β))
  | [] => .ok []
  | .operand a :: ts => do
    let b ← f a
    let rest ← traverse f ts
    pure (.operand b :: rest)
  | .operator op :: ts => do
    let rest ← traverse f ts
    pure (.operator op :: rest)
  | .opening :: ts => do
    let rest ← traverse f ts
    pure (.opening :: rest)
  | .closing :: ts => do
    let rest ← traverse f ts
    pure (.closing :: rest)

/-! ## Quotes -/

def isQuoteMark (c : Char) : Bool :=
  c == '"' || c == '\''

/-- The open quote after a character, from the open quote and the character before it. -/
def quoteAfter (quote previous : Option Char) (c : Char) : Option Char :=
  if isQuoteMark c && previous != some '\\' then
    match quote with
    | some q => if q = c then none else some q
    | none => some c
  else quote

/-! ## Scanning -/

/-- The token a character is when it stands outside quotes. -/
def structural? {α : Type} (c : Char) : Option (Token α) :=
  if c = '(' then some .opening
  else if c = ')' then some .closing
  else (SetOperator.ofChar? c).map .operator

/-- The selector text collected so far, the last character first, as a token; blanks alone are
none. -/
def chunk (collected : List Char) : List (Token String) :=
  let text := Text.trim collected.reverse
  if text.isEmpty then [] else [.operand (String.ofList text)]

/-- Scans a text from the open quote, the character before, the number of open brackets and the
selector text collected so far. -/
def scan (quote previous : Option Char) (depth : Nat) (collected : List Char) :
    List Char → Except Bracket (List (Token String))
  | [] => if depth = 0 then .ok (chunk collected) else .error .opening
  | c :: cs =>
    match quote, structural? c with
    | none, some .opening =>
      (scan none (some c) (depth + 1) [] cs).map fun ts => chunk collected ++ .opening :: ts
    | none, some .closing =>
      if depth = 0 then .error .closing
      else (scan none (some c) (depth - 1) [] cs).map fun ts => chunk collected ++ .closing :: ts
    | none, some t =>
      (scan none (some c) depth [] cs).map fun ts => chunk collected ++ t :: ts
    | q, _ => scan (quoteAfter q previous c) (some c) depth (c :: collected) cs

/-- The tokens of a query. -/
def tokenize (query : String) : Except QueryError (List (Token String)) :=
  (scan none none 0 [] (Text.trim query.toList)).mapError .unmatchedBracket

end Token

end Tabular
