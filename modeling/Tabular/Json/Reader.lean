/-
Reading JSON values. A machine takes one lexeme at a time and keeps a frame for each array or
object that is still open, so the nesting is the number of frames. A value that is only skipped
needs the right syntax; one that is used needs contents as well, and a bound on its nesting.
-/
import Tabular.Json.Lexeme

namespace Tabular.Json

/-- What is asked of a value beyond its syntax. -/
structure Demand where
  contents : Bool
  depth : Option Nat
  deriving DecidableEq

namespace Demand

/-- A value that is used, with containers nested at most `depth` deep. -/
def used (depth : Nat) : Demand :=
  ⟨true, some depth⟩

/-- A value that is skipped. -/
def skipped : Demand :=
  ⟨false, none⟩

def allows (d : Demand) (frames : Nat) : Bool :=
  d.depth.all (frames < ·)

end Demand

/-- The nesting that a document may have. -/
def maxDepth : Nat :=
  127

/-! ## The machine -/

/-- An open container with what it holds so far: the items with the last first, the members in
order, or the members before a key that waits for its value. -/
inductive Frame where
  | array (items : List Json)
  | object (members : List (String × Json))
  | member (members : List (String × Json)) (key : String)

/-- What may come next: a value, the first item, the first member or the end of a new container, a
key, a colon, or a comma or the end of a container. -/
inductive Goal where
  | value
  | firstItem
  | firstMember
  | key
  | colon
  | more
  deriving DecidableEq

/-- What a lexeme leads to: the whole value, or a new state. -/
inductive Progress where
  | done (value : Json)
  | go (goal : Goal) (frames : List Frame)

/-- Puts a complete value into the container around it. -/
def complete (v : Json) : List Frame → Option Progress
  | [] => some (.done v)
  | .array items :: frames => some (.go .more (.array (v :: items) :: frames))
  | .member members key :: frames =>
    some (.go .more (.object (insertMember key v members) :: frames))
  | .object _ :: _ => none

/-- The value of a lexeme that is a whole value. Contents that are not asked for may be missing. -/
def scalar? (demand : Demand) : Lexeme → Option Json
  | .null => some .null
  | .bool b => some (.bool b)
  | .number n => if demand.contents then n.value? else some .null
  | .string s => if demand.contents then s.map fun cs => .string (String.ofList cs) else some .null
  | _ => none

/-- The key that a lexeme stands for. -/
def key? (demand : Demand) : Lexeme → Option String
  | .string s => if demand.contents then s.map String.ofList else some ""
  | _ => none

/-- Begins a value. -/
def begin? (demand : Demand) (frames : List Frame) : Lexeme → Option Progress
  | .openArray =>
    if demand.allows frames.length then some (.go .firstItem (.array [] :: frames)) else none
  | .openObject =>
    if demand.allows frames.length then some (.go .firstMember (.object [] :: frames)) else none
  | l => (scalar? demand l).bind (complete · frames)

/-- Begins a member. -/
def beginMember? (demand : Demand) (frames : List Frame) (l : Lexeme) : Option Progress :=
  match frames with
  | .object members :: outer => (key? demand l).map fun k => .go .colon (.member members k :: outer)
  | _ => none

/-- Takes one lexeme. -/
def step (demand : Demand) (goal : Goal) (frames : List Frame) (l : Lexeme) : Option Progress :=
  match goal, l, frames with
  | .firstItem, .closeArray, .array items :: outer => complete (.array items.reverse) outer
  | .more, .closeArray, .array items :: outer => complete (.array items.reverse) outer
  | .firstMember, .closeObject, .object members :: outer => complete (.object members) outer
  | .more, .closeObject, .object members :: outer => complete (.object members) outer
  | .more, .comma, .array items :: outer => some (.go .value (.array items :: outer))
  | .more, .comma, .object members :: outer => some (.go .key (.object members :: outer))
  | .colon, .colon, frames => some (.go .value frames)
  | .value, l, frames => begin? demand frames l
  | .firstItem, l, frames => begin? demand frames l
  | .firstMember, l, frames => beginMember? demand frames l
  | .key, l, frames => beginMember? demand frames l
  | _, _, _ => none

/-- Runs the machine to the end of a value and leaves the lexemes after it. -/
def readFrom (demand : Demand) (goal : Goal) (frames : List Frame) :
    List Lexeme → Option (Json × List Lexeme)
  | [] => none
  | l :: ls =>
    match step demand goal frames l with
    | none => none
    | some (.done v) => some (v, ls)
    | some (.go goal frames) => readFrom demand goal frames ls

/-- Reads a value and leaves the lexemes after it. -/
def read (demand : Demand) (ls : List Lexeme) : Option (Json × List Lexeme) :=
  readFrom demand .value [] ls

theorem length_readFrom {demand : Demand} {goal : Goal} {frames : List Frame}
    {ls rest : List Lexeme} {v : Json} (h : readFrom demand goal frames ls = some (v, rest)) :
    rest.length < ls.length := by
  induction ls generalizing goal frames with
  | nil => cases h
  | cons l ls ih =>
    unfold readFrom at h
    split at h
    · cases h
    · cases h; simp
    · exact Nat.lt_succ_of_lt (ih h)

theorem length_read {demand : Demand} {ls rest : List Lexeme} {v : Json}
    (h : read demand ls = some (v, rest)) : rest.length < ls.length :=
  length_readFrom h

/-- The value that a whole text denotes. -/
def parse? (text : String) : Option Json :=
  match read (.used maxDepth) (Lexeme.scan text.toList) with
  | some (v, []) => some v
  | _ => none

/-- The cell that a whole text denotes. -/
def parseCell? (text : String) : Option Cell :=
  (parse? text).bind scalarCell?

end Tabular.Json
