import BridgeCustody.Json.Basic

/-!
# Outlines of Objects

Some stored values say all they have to say by standing where they stand. Of
such a value it is only asked whether it is an object, and what its fields hold
is passed over rather than read.

Passing over is more lenient than reading. Keys and other quoted text must be
well formed, and containers must close, with the same commas that reading asks
for. But a value that starts with neither a quote nor a bracket is any run of
characters up to the next comma or closing bracket, so numbers of every form
pass, and so does what is no JSON at all.

Nothing is kept of what is passed over, so the place in the text is a stack of
the open containers and little more. One character changes it without a look at
the next, and recognising an object is a fold over the text.

## Main definitions

* `Outline.maxDepth`: How deep containers may be nested.
* `Outline.Place`: Where in a text the reader stands.
* `Outline.step`: What one character does to it.
* `isObject`: Whether a text is an object in outline.

## Theorems

* `isObject_empty`: The object without fields is one.
-/

namespace BridgeCustody

namespace Json

namespace Outline

/-- How deep containers may be nested. -/
def maxDepth : Nat := 127

/-- A container that is still open. Of an array it is known whether some item
    came without a comma, of an object whether it has a field. -/
inductive Open
  | array (bare : Bool)
  | object (started : Bool)

/-- Where in a text the reader stands, with the containers that are open around
    it, innermost first. -/
inductive Place
  /-- Before the object. -/
  | start
  /-- Between the parts of the innermost container, or behind the object. -/
  | between (stack : List Open)
  /-- A key has to come. -/
  | key (stack : List Open)
  /-- Behind a key. -/
  | colon (stack : List Open)
  /-- A value has to come. -/
  | value (stack : List Open)
  /-- Inside a value that has neither quotes nor brackets of its own. -/
  | word (stack : List Open)
  /-- Inside quotes, behind a backslash if `escaped`; `done` is what stands there
      already, last character first. -/
  | quoted (isKey : Bool) (done : List Char) (escaped : Bool) (stack : List Open)

/-- Opens a container, unless that nests too deep. -/
def enter? (container : Open) (stack : List Open) : Option Place :=
  if stack.length < maxDepth then some (.between (container :: stack)) else none

/-- Takes the first character of a value. -/
def begin? (stack : List Open) : Char → Option Place
  | '"' => some (.quoted false [] false stack)
  | '[' => enter? (.array false) stack
  | '{' => enter? (.object false) stack
  | ',' => none
  | ']' => none
  | '}' => none
  | _ => some (.word stack)

/-- Takes a character behind a whole value or an opening bracket. -/
def continue? : List Open → Char → Option Place
  | .array _ :: outer, ']' => some (.between outer)
  | .array bare :: outer, ',' => some (.value (.array bare :: outer))
  | .array false :: outer, c => begin? (.array true :: outer) c
  | .object _ :: outer, '}' => some (.between outer)
  | .object false :: outer, '"' => some (.quoted true [] false (.object true :: outer))
  | .object true :: outer, ',' => some (.key (.object true :: outer))
  | _, _ => none

/-- Takes the quote that closes a quoted text. -/
def close? (isKey : Bool) (text : List Char) (stack : List Open) : Option Place :=
  if (unescape? text).isNone then none
  else if isKey then some (.colon stack)
  else some (.between stack)

/-- Takes one character. -/
def step : Place → Char → Option Place
  | .quoted isKey done true stack, c => some (.quoted isKey (c :: done) false stack)
  | .quoted isKey done false stack, c =>
    if c = '"' then close? isKey done.reverse stack
    else some (.quoted isKey (c :: done) (c = '\\') stack)
  | .word stack, c =>
    if c = ',' ∨ c = ']' ∨ c = '}' then continue? stack c else some (.word stack)
  | place, c =>
    if Token.isBlank c then some place
    else match place, c with
      | .start, '{' => enter? (.object false) []
      | .between stack, c => continue? stack c
      | .key stack, '"' => some (.quoted true [] false stack)
      | .colon stack, ':' => some (.value stack)
      | .value stack, c => begin? stack c
      | _, _ => none

end Outline

/-- Whether a text is one object and nothing else, in outline. -/
def isObject (text : String) : Bool :=
  match text.toList.foldlM Outline.step .start with
  | some (.between []) => true
  | _ => false

theorem isObject_empty : isObject (object []).text = true := by
  decide

end Json

end BridgeCustody
