import BridgeCustody.Bytes.Basic

/-!
# Storage Keys

A single value is stored under its name. A table puts its name, measured, in
front of every key, then each further part but the last, measured as well, then
the last part as it is. The measures are what keeps the keys of different
tables, and of different entries, apart.

## Main definitions

* `Key.single`: The key of a value that stands alone.
* `Key.measured`: A part with its length in front.
* `Key.table`: What all keys of a table start with.
-/

namespace BridgeCustody

namespace Key

/-- The key of a value that stands alone. -/
def single (name : String) : Bytes :=
  Bytes.ofText name

/-- A part of a key with its length in two bytes in front. -/
def measured (part : Bytes) : Bytes :=
  Bytes.bigEndian 2 part.length ++ part

/-- What the keys of a table start with, when `parts` are all parts of the key
    but the last. -/
def table (name : String) (parts : List String) : Bytes :=
  measured (Bytes.ofText name) ++ parts.flatMap fun part => measured (Bytes.ofText part)

end Key

end BridgeCustody
