/-
Lists that are read and changed by index. An index outside of a list is a fault that ends the whole
request. A request may also be refused, for one of the causes that a grid knows.
-/
import Tabular.Grid.Error

namespace Tabular

/-- Why a request has no answer. -/
inductive Fault where
  | refused (cause : GridError)
  | outOfRange
  deriving DecidableEq

abbrev Answer (α : Type) := Except Fault α

namespace Checked

variable {α β : Type}

def get (index : Nat) (items : List α) : Answer α :=
  match items[index]? with
  | some a => .ok a
  | none => .error .outOfRange

/-- Changes the item at an index. -/
def modify (index : Nat) (change : α → Answer α) (items : List α) : Answer (List α) := do
  let a ← get index items
  let a ← change a
  pure (items.set index a)

def set (index : Nat) (a : α) (items : List α) : Answer (List α) :=
  modify index (fun _ => pure a) items

/-- Puts an item in at an index, which may be the end of the list. -/
def insert (index : Nat) (a : α) (items : List α) : Answer (List α) :=
  if index ≤ items.length then .ok (items.insertIdx index a) else .error .outOfRange

/-- Takes the item at an index out. -/
def remove (index : Nat) (items : List α) : Answer (α × List α) := do
  let a ← get index items
  pure (a, items.eraseIdx index)

/-- Exchanges the items at two indices. -/
def swap (i j : Nat) (items : List α) : Answer (List α) := do
  let a ← get i items
  let b ← get j items
  pure ((items.set i b).set j a)

/-- What some slots hold, in an order. A slot is empty once it has been taken, and an empty slot
gives nothing. -/
def takeSlots (slots : List (Option α)) : List Nat → Answer (List α)
  | [] => pure []
  | index :: order => do
    let slot ← get index slots
    let rest ← takeSlots (slots.set index none) order
    pure (slot.toList ++ rest)

/-- The items in another order. -/
def permute (order : List Nat) (items : List α) : Answer (List α) :=
  takeSlots (items.map some) order

/-- Changes each item together with one of a second list. Items beyond the second list stay as they
are, and what the second list has in excess is dropped. -/
def zipEach (change : α → β → Answer α) : List α → List β → Answer (List α)
  | a :: as, b :: bs => do
    let a ← change a b
    let as ← zipEach change as bs
    pure (a :: as)
  | as, _ => pure as

/-- Cuts a list off at a length, or fills it up. -/
def resize (n : Nat) (a : α) (items : List α) : List α :=
  (items.take n).rightpad n a

end Checked

end Tabular
