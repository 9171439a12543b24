import BridgeCustody.Json.Token

/-!
# JSON Values

The tree behind a JSON text, its compact written form and the reader.

The reader takes one token after the other and keeps a stack of the containers
that are still open. A step looks at where the reader stands and at one token
and nothing else, so reading is a fold over the tokens: it needs neither fuel
nor a bound on the nesting, and what one value does to the reader can be said
without what follows it. Fields keep their order and their repetitions; whether
a repeated or an unknown field is acceptable is for the type that reads the
value to say.

Commas in objects stand between fields and nowhere else. Arrays are counted
differently: a comma may stand before any item, and one item of an array may do
without. Usually that is the first one, but an array may also start with a comma
and leave out a later one. A comma with no item behind it is refused.

## Main definitions

* `Json`: A JSON value whose numbers are whole.
* `Json.tokens`: The tokens of its compact form.
* `Json.text`: The compact form.
* `Json.Reader`: Where a reader stands in a text.
* `Json.step`: What one token does to it.
* `Json.parse?`: Reads a text that holds one value and nothing else.
-/

namespace BridgeCustody

/-- A JSON value. Its numbers are whole and not negative. -/
inductive Json
  | null
  | bool (b : Bool)
  | number (n : Nat)
  | string (s : String)
  | array (items : List Json)
  | object (fields : List (String × Json))

namespace Json

mutual
/-- The tokens of the compact form. -/
def tokens : Json → List Token
  | null => [.null]
  | bool b => [.bool b]
  | number n => [.number n]
  | string s => [.string s]
  | array [] => [.openBracket, .closeBracket]
  | array (j :: items) => .openBracket :: (tokens j ++ (moreItems items ++ [.closeBracket]))
  | object [] => [.openBrace, .closeBrace]
  | object ((k, j) :: fields) =>
    .openBrace :: .string k :: .colon :: (tokens j ++ (moreFields fields ++ [.closeBrace]))
/-- The tokens of the items behind the first one. -/
def moreItems : List Json → List Token
  | [] => []
  | j :: items => .comma :: (tokens j ++ moreItems items)
/-- The tokens of the fields behind the first one. -/
def moreFields : List (String × Json) → List Token
  | [] => []
  | (k, j) :: fields => .comma :: .string k :: .colon :: (tokens j ++ moreFields fields)
end

/-- The compact text of a value. -/
def text (j : Json) : String :=
  String.ofList (j.tokens.flatMap Token.write)

/-- A container that is still open while one of its parts is read. Of a field
    the key is known already. `bare` says that some item of an array came
    without a comma. -/
inductive Frame
  | items (done : List Json) (bare : Bool)
  | field (done : List (String × Json)) (key : String)

/-- Where the reader stands, with the containers that are open around it,
    innermost first. -/
inductive Reader
  /-- A value has to come. -/
  | value (stack : List Frame)
  /-- Between the items of an array. -/
  | items (done : List Json) (bare : Bool) (stack : List Frame)
  /-- Between the fields of an object. -/
  | fields (done : List (String × Json)) (stack : List Frame)
  /-- Behind a comma in an object, where a key has to come. -/
  | key (done : List (String × Json)) (stack : List Frame)
  /-- Behind a key. -/
  | colon (done : List (String × Json)) (key : String) (stack : List Frame)
  /-- Behind the value that the text holds. -/
  | whole (j : Json)

/-- Where the reader stands behind a value that belongs into the innermost open
    container, or is the whole if none is open. -/
def finish (j : Json) : List Frame → Reader
  | [] => .whole j
  | .items done bare :: outer => .items (done ++ [j]) bare outer
  | .field done key :: outer => .fields (done ++ [(key, j)]) outer

/-- Takes the first token of a value. -/
def begin? (stack : List Frame) : Token → Option Reader
  | .null => some (finish null stack)
  | .bool b => some (finish (bool b) stack)
  | .number n => some (finish (number n) stack)
  | .string s => some (finish (string s) stack)
  | .openBracket => some (.items [] false stack)
  | .openBrace => some (.fields [] stack)
  | _ => none

/-- Takes one token. An item may stand without a comma before it as long as no
    item of its array has done so. -/
def step : Reader → Token → Option Reader
  | .value stack, t => begin? stack t
  | .items done _ stack, .closeBracket => some (finish (array done) stack)
  | .items done bare stack, .comma => some (.value (.items done bare :: stack))
  | .items done false stack, t => begin? (.items done true :: stack) t
  | .fields done stack, .closeBrace => some (finish (object done) stack)
  | .fields [] stack, .string k => some (.colon [] k stack)
  | .fields (field :: done) stack, .comma => some (.key (field :: done) stack)
  | .key done stack, .string k => some (.colon done k stack)
  | .colon done k stack, .colon => some (.value (.field done k :: stack))
  | _, _ => none

/-- The value that a text holds, if it holds exactly one. -/
def parse? (text : String) : Option Json := do
  let tokens ← Token.scan text.toList
  match ← tokens.foldlM step (.value []) with
  | .whole j => some j
  | _ => none

end Json

end BridgeCustody
