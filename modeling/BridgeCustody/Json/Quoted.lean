import BridgeCustody.Bytes.Hex

/-!
# Escapes in Quoted Text

What stands between the quotes of a JSON string. Written text uses the short
escapes where there are any and four upper-case digits for the other control
characters; all else stands for itself.

Read text is of two kinds. Without a backslash it stands for itself, control
characters included. With one, every control character in it must be escaped,
and any escape may be used. A character outside the basic plane is escaped in
two halves. Other escapes may stand between the halves; what they stand for then
comes before the character, which is complete only with its second half. A plain
character between the halves is refused.

## Main definitions

* `escape`: The escaped form of a text.
* `unescapeFrom`: Resolves escapes behind what may be the half of a character.
* `unescape?`: The text that stands between quotes.

## Theorems

* `unescape?_escape`: Reading inverts writing.
-/

namespace BridgeCustody

namespace Json

/-- How a character stands inside quotes. Control characters without a short
    escape become a four-digit one with upper-case digits. -/
def escapeChar (c : Char) : List Char :=
  if c = '"' then ['\\', '"']
  else if c = '\\' then ['\\', '\\']
  else if c = '\x08' then ['\\', 'b']
  else if c = '\t' then ['\\', 't']
  else if c = '\n' then ['\\', 'n']
  else if c = '\x0c' then ['\\', 'f']
  else if c = '\r' then ['\\', 'r']
  else if c.toNat < 32 then
    ['\\', 'u', '0', '0', Hex.upper (c.toNat / 16), Hex.upper (c.toNat % 16)]
  else [c]

/-- The escaped form of a text. -/
def escape (text : List Char) : List Char :=
  text.flatMap escapeChar

/-- The character behind a short escape. -/
def shortEscape? : Char → Option Char
  | '"' => some '"'
  | '\\' => some '\\'
  | '/' => some '/'
  | 'b' => some '\x08'
  | 't' => some '\t'
  | 'n' => some '\n'
  | 'f' => some '\x0c'
  | 'r' => some '\r'
  | _ => none

/-- The sixteen-bit unit that four hexadecimal digits stand for. -/
def unit? (a b c d : Char) : Option Nat := do
  let a ← Hex.digit? a
  let b ← Hex.digit? b
  let c ← Hex.digit? c
  let d ← Hex.digit? d
  return 4096 * a + 256 * b + 16 * c + d

/-- Units that only stand as the first of a pair. -/
def isHigh (unit : Nat) : Bool :=
  0xD800 ≤ unit && unit < 0xDC00

/-- Units that only stand as the second of a pair. -/
def isLow (unit : Nat) : Bool :=
  0xDC00 ≤ unit && unit < 0xE000

/-- The character that a pair of units stands for. -/
def ofPair (high low : Nat) : Char :=
  Char.ofNat (0x10000 + 1024 * (high - 0xD800) + (low - 0xDC00))

/-- The text behind escapes. `high` is a first half whose second half is still
    to come. -/
def unescapeFrom (high : Option Nat) : List Char → Option (List Char)
  | [] => if high.isNone then some [] else none
  | '\\' :: 'u' :: a :: b :: c :: d :: rest => do
    let unit ← unit? a b c d
    if isHigh unit then
      if high.isNone then unescapeFrom (some unit) rest else none
    else if isLow unit then do
      let first ← high
      (unescapeFrom none rest).map (ofPair first unit :: ·)
    else (unescapeFrom high rest).map (Char.ofNat unit :: ·)
  | '\\' :: c :: rest => do
    let c ← shortEscape? c
    (unescapeFrom high rest).map (c :: ·)
  | c :: rest =>
    if c = '\\' ∨ c.toNat < 32 ∨ high.isSome then none
    else (unescapeFrom none rest).map (c :: ·)

/-- The text that stands between quotes. -/
def unescape? (quoted : List Char) : Option (List Char) :=
  if '\\' ∈ quoted then unescapeFrom none quoted else some quoted

theorem unit?_control {c : Char} (h : c.toNat < 32) :
    unit? '0' '0' (Hex.upper (c.toNat / 16)) (Hex.upper (c.toNat % 16)) = some c.toNat := by
  simp only [unit?, Hex.digit?_upper _ (by omega : c.toNat / 16 < 16),
    Hex.digit?_upper _ (by omega : c.toNat % 16 < 16), show Hex.digit? '0' = some 0 from rfl,
    bind, Option.bind_some, pure]
  congr 1
  omega

/-- A character that stands for itself is read as itself. -/
theorem unescapeFrom_plain {c : Char} (rest : List Char) (h : c ≠ '\\') (hc : ¬c.toNat < 32) :
    unescapeFrom none (c :: rest) = (unescapeFrom none rest).map (c :: ·) := by
  rw [unescapeFrom.eq_def]
  split
  · rename_i heq; cases heq
  · rename_i heq; cases heq; exact absurd rfl h
  · rename_i heq; cases heq; exact absurd rfl h
  · rename_i heq; cases heq; simp [h, hc]

theorem unescapeFrom_escapeChar (c : Char) (rest : List Char) :
    unescapeFrom none (escapeChar c ++ rest) = (unescapeFrom none rest).map (c :: ·) := by
  unfold escapeChar
  split
  · subst_vars; rfl
  split
  · subst_vars; rfl
  split
  · subst_vars; rfl
  split
  · subst_vars; rfl
  split
  · subst_vars; rfl
  split
  · subst_vars; rfl
  split
  · subst_vars; rfl
  split
  -- A control character without a short escape: its two digits read back.
  · rename_i h
    have hhigh : isHigh c.toNat = false := by simp [isHigh]; omega
    have hlow : isLow c.toNat = false := by simp [isLow]; omega
    rw [List.cons_append, List.cons_append, List.cons_append, List.cons_append,
      List.cons_append, List.cons_append, List.nil_append, unescapeFrom, unit?_control h]
    simp [hhigh, hlow]
  -- Everything else stands for itself.
  · rename_i h1 _ _ _ _ _ h2
    exact unescapeFrom_plain rest h1 h2

theorem unescapeFrom_escape (text : List Char) : unescapeFrom none (escape text) = some text := by
  induction text with
  | nil => rfl
  | cons c text ih =>
    rw [escape, List.flatMap_cons, unescapeFrom_escapeChar, ← escape, ih]
    rfl

/-- A character whose written form holds no backslash is its own written form. -/
theorem escapeChar_eq_self {c : Char} (h : '\\' ∉ escapeChar c) : escapeChar c = [c] := by
  unfold escapeChar at h ⊢
  repeat' split at h
  all_goals simp_all

theorem escape_eq_self {text : List Char} (h : '\\' ∉ escape text) : escape text = text := by
  induction text with
  | nil => rfl
  | cons c text ih =>
    rw [escape, List.flatMap_cons, ← escape, List.mem_append, not_or] at h
    rw [escape, List.flatMap_cons, ← escape, escapeChar_eq_self h.1, ih h.2]
    rfl

theorem unescape?_escape (text : List Char) : unescape? (escape text) = some text := by
  unfold unescape?
  split
  · exact unescapeFrom_escape text
  · rename_i h
    rw [escape_eq_self h]

end Json

end BridgeCustody
