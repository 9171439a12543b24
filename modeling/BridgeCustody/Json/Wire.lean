import BridgeCustody.Address
import BridgeCustody.Amount
import BridgeCustody.Json.Basic

/-!
# Typed JSON

How the types of messages and stored values stand in JSON. Reading is strict:
an object must hold exactly the fields its type has, each once, in any order.
Only an optional field may be absent, and only an optional field may be null.
A value with alternatives is an object with one field, the name of the
alternative, even where the alternative carries nothing.

## Main definitions

* `Wire`: A type with a JSON form.
* `Wire.encode`, `Wire.decode?`: The form as text.
* `Json.record?`: The fields of an object whose names are all expected.
* `Json.required?`, `Json.optional?`: One field out of a record.
* `Json.alternative?`: The name and content of an alternative.
-/

namespace BridgeCustody

/-- A type with a JSON form. -/
class Wire (α : Type) where
  toJson : α → Json
  ofJson? : Json → Option α

namespace Wire

/-- The JSON text of a value. -/
def encode {α : Type} [Wire α] (a : α) : String :=
  (toJson a).text

/-- The value that a JSON text holds. -/
def decode? {α : Type} [Wire α] (text : String) : Option α :=
  (Json.parse? text).bind ofJson?

end Wire

namespace Json

/-- The fields of an object whose field names are all in `names` and differ. -/
def record? (names : List String) : Json → Option (List (String × Json))
  | object fields =>
    if (fields.map Prod.fst).Nodup ∧ ∀ field ∈ fields, field.1 ∈ names then some fields
    else none
  | _ => none

/-- A field that must be there. -/
def required? {α : Type} [Wire α] (fields : List (String × Json)) (name : String) : Option α := do
  let j ← fields.lookup name
  Wire.ofJson? j

/-- A field that may be absent or null, and then holds nothing. -/
def optional? {α : Type} [Wire α] (fields : List (String × Json)) (name : String) :
    Option (Option α) :=
  match fields.lookup name with
  | none => some none
  | some null => some none
  | some j => (Wire.ofJson? j).map some

/-- The form of a field that may hold nothing. -/
def ofOption {α : Type} [Wire α] : Option α → Json
  | none => null
  | some a => Wire.toJson a

/-- An alternative with its fields. -/
def alternative (name : String) (fields : List (String × Json)) : Json :=
  object [(name, object fields)]

/-- The name of an alternative and what it carries. -/
def alternative? : Json → Option (String × Json)
  | object [field] => some field
  | _ => none

/-- The items of an array, each read. -/
def items? {α : Type} [Wire α] : Json → Option (List α)
  | array items => items.mapM Wire.ofJson?
  | _ => none

end Json

instance : Wire Bool where
  toJson := .bool
  ofJson?
    | .bool b => some b
    | _ => none

instance : Wire String where
  toJson := .string
  ofJson?
    | .string s => some s
    | _ => none

instance : Wire UInt64 where
  toJson n := .number n.toNat
  ofJson?
    | .number n => if n < UInt64.size then some (UInt64.ofNat n) else none
    | _ => none

instance : Wire UInt32 where
  toJson n := .number n.toNat
  ofJson?
    | .number n => if n < UInt32.size then some (UInt32.ofNat n) else none
    | _ => none

instance : Wire Amount where
  toJson a := .string a.text
  ofJson?
    | .string s => Amount.read? s
    | _ => none

instance : Wire Address where
  toJson a := .string a.text
  ofJson?
    | .string s => some ⟨s⟩
    | _ => none

instance {α : Type} [Wire α] : Wire (List α) where
  toJson items := .array (items.map Wire.toJson)
  ofJson? := Json.items?

end BridgeCustody
