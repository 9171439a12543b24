import BridgeCustody.Fault
import BridgeCustody.Json.Outline
import BridgeCustody.Json.Wire
import BridgeCustody.Store.Basic
import BridgeCustody.Store.Key

/-!
# Typed Cells

A cell is a key of the store together with the type of what stands there as
JSON text. An item is a cell that should never be empty; reading it while it is
reports the kind of value that is missing.

## Main definitions

* `Cell`: A key and the type of its value.
* `Cell.read?`, `Cell.write`, `Cell.occupied`: Access through the type.
* `Item`: A cell that should hold a value.
* `Item.load`: Its value, or the fault of having none.
* `Mark`: What stands in a cell that is only there to be occupied.

## Theorems

* `Cell.occupied_eq`: Occupation looks at the key only.
* `Mark.ofText_text`: A stored mark reads back.
-/

namespace BridgeCustody

/-- A key of the store and the type of what stands there. -/
structure Cell (α : Type) where
  key : Bytes

namespace Cell

variable {α : Type}

/-- Empties a cell. -/
def clear (c : Cell α) (s : Store) : Store :=
  s.erase c.key

/-- Whether a cell holds anything, readable or not. -/
def occupied (c : Cell α) (s : Store) : Bool :=
  s.has c.key

theorem occupied_eq (c : Cell α) (s : Store) : c.occupied s = (s.get? c.key).isSome := rfl

variable [Wire α]

/-- Reads a stored text. -/
def ofText (text : String) : Except Fault α :=
  match Wire.decode? text with
  | some a => .ok a
  | none => .error .unreadable

/-- The value of a cell that may be empty. -/
def read? (c : Cell α) (s : Store) : Except Fault (Option α) :=
  match s.get? c.key with
  | none => .ok none
  | some text => (ofText text).map some

/-- Puts a value into a cell. -/
def write (c : Cell α) (a : α) (s : Store) : Store :=
  s.set c.key (Wire.encode a)

end Cell

/-- A cell that should hold a value of the named kind. -/
structure Item (α : Type) extends Cell α where
  kind : String

namespace Item

variable {α : Type} [Wire α]

/-- The value of an item. -/
def load (i : Item α) (s : Store) : Except Fault α :=
  match s.get? i.key with
  | none => .error (.absent i.kind i.key)
  | some text => Cell.ofText text

end Item

/-- What stands in a cell whose being occupied says everything. -/
structure Mark where

namespace Mark

/-- A mark as it is stored: an object without fields. -/
def text : String :=
  (Json.object []).text

/-- Reads a mark. Any object will do, whatever its fields hold. -/
def ofText (text : String) : Except Fault Mark :=
  if Json.isObject text then .ok {} else .error .unreadable

theorem ofText_text : ofText text = .ok {} := by
  rw [ofText, text, Json.isObject_empty, if_pos rfl]

end Mark

/-- Puts a mark into a cell. -/
def Cell.occupy (c : Cell Mark) (s : Store) : Store :=
  s.set c.key Mark.text

end BridgeCustody
