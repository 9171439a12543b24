import BridgeCustody.Decimal
import BridgeCustody.Json.Quoted

/-!
# JSON Tokens

The lexical half of JSON: punctuation, the three words, numerals and quoted
strings. The only numerals here are whole numbers, because nothing that is read
into a type holds any other, so a sign, a fraction or an exponent is refused
where it stands.

Everything between punctuation, blanks and quotes is gathered into one word and
judged when the word ends. That makes `true1` or `01` a single bad word, which
is what a strict reader must see, instead of two good ones side by side.

Each of the two scanners consumes at least one character before it hands over to
the other, so the recursion is on the text itself.

## Main definitions

* `Token`: A lexical unit.
* `Token.write`: Its one written form.
* `Token.scan`: Splits a text into tokens, or refuses it.
-/

namespace BridgeCustody

namespace Json

/-- A lexical unit of JSON. -/
inductive Token
  | openBrace
  | closeBrace
  | openBracket
  | closeBracket
  | colon
  | comma
  | null
  | bool (b : Bool)
  | number (n : Nat)
  | string (s : String)
deriving DecidableEq, Repr

namespace Token

/-- Characters that may stand between tokens. -/
def isBlank (c : Char) : Bool :=
  c = ' ' || c = '\t' || c = '\n' || c = '\r'

/-- The token that a punctuation character is. -/
def punctuation? : Char → Option Token
  | '{' => some openBrace
  | '}' => some closeBrace
  | '[' => some openBracket
  | ']' => some closeBracket
  | ':' => some colon
  | ',' => some comma
  | _ => none

/-- The token that an unquoted word is, if it is one at all. -/
def ofWord? : List Char → Option Token
  | ['n', 'u', 'l', 'l'] => some null
  | ['t', 'r', 'u', 'e'] => some (bool true)
  | ['f', 'a', 'l', 's', 'e'] => some (bool false)
  | cs => (Decimal.readCanonical? cs).map number

/-- The written form of a token. -/
def write : Token → List Char
  | openBrace => ['{']
  | closeBrace => ['}']
  | openBracket => ['[']
  | closeBracket => [']']
  | colon => [':']
  | comma => [',']
  | null => ['n', 'u', 'l', 'l']
  | bool true => ['t', 'r', 'u', 'e']
  | bool false => ['f', 'a', 'l', 's', 'e']
  | number n => Decimal.write n
  | string s => '"' :: escape s.toList ++ ['"']

/-- Puts the word gathered so far, if there is one, in front of later tokens.
    The word arrives with its last character first. -/
def closeWord (word : List Char) (rest : List Token) : Option (List Token) :=
  if word = [] then some rest
  else (ofWord? word.reverse).map (· :: rest)

mutual
/-- Splits a text into tokens; `word` is the unquoted word that the text
    continues, last character first. -/
def scanFrom (word : List Char) : List Char → Option (List Token)
  | [] => closeWord word []
  | c :: rest =>
    if isBlank c then (scanFrom [] rest).bind (closeWord word)
    else if c = '"' then (scanQuoted [] rest).bind (closeWord word)
    else match punctuation? c with
      | some t => (scanFrom [] rest).bind fun ts => closeWord word (t :: ts)
      | none => scanFrom (c :: word) rest
/-- Reads on inside quotes; `done` is what stands there already, last character
    first and escapes untouched. A quote behind a backslash does not close. -/
def scanQuoted (done : List Char) : List Char → Option (List Token)
  | [] => none
  | ['\\'] => none
  | '\\' :: c :: rest => scanQuoted (c :: '\\' :: done) rest
  | '"' :: rest => do
    let text ← unescape? done.reverse
    (scanFrom [] rest).map (string (String.ofList text) :: ·)
  | c :: rest => scanQuoted (c :: done) rest
end

/-- The tokens of a text, or nothing if some part of it is no token. -/
def scan (text : List Char) : Option (List Token) :=
  scanFrom [] text

end Token

end Json

end BridgeCustody
