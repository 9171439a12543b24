import BridgeCustody.Json.Basic

/-!
# Reading Back What Was Written

The compact text of a value, read back, is that value. The two halves of the
reader are treated apart. The scanner needs to know that a word is followed by
something that ends it, which is why the token lists of values are shown never
to hold two words side by side. The parser needs nothing of the kind: whatever
containers are open, the tokens of a value take the reader to where it stands
behind that value.

## Main definitions

* `Token.isWord`: Tokens written without quotes or punctuation.
* `Token.Separated`: No two words stand side by side.

## Theorems

* `Token.scan_write`: Scanning inverts writing for separated tokens.
* `foldlM_step_tokens`: Parsing inverts `tokens`, inside any open containers.
* `parse?_text`: A value's text reads back as the value.
-/

namespace BridgeCustody

namespace Json

namespace Token

/-- A character that belongs to an unquoted word. -/
def isWordChar (c : Char) : Bool :=
  !isBlank c && c ≠ '"' && (punctuation? c).isNone

/-- Tokens written as an unquoted word. -/
def isWord : Token → Bool
  | null => true
  | bool _ => true
  | number _ => true
  | _ => false

/-- What stands first, if anything, is no word. -/
def StartsPlain : List Token → Prop
  | [] => True
  | t :: _ => t.isWord = false

/-- No two words stand side by side. -/
def Separated : List Token → Prop
  | [] => True
  | t :: rest => (t.isWord = true → StartsPlain rest) ∧ Separated rest

/-- A text that a word before it cannot swallow any part of. -/
def EndsWord : List Char → Prop
  | [] => True
  | c :: _ => isWordChar c = false

theorem closeWord_nil (ts : List Token) : closeWord [] ts = some ts := rfl

theorem scanFrom_of_endsWord (word text : List Char) (h : EndsWord text) :
    scanFrom word text = (scanFrom [] text).bind (closeWord word) := by
  cases text with
  | nil => rfl
  | cons c rest =>
    simp only [EndsWord, isWordChar] at h
    simp only [scanFrom]
    -- A blank, a quote or punctuation closes the word on either side alike.
    split
    · simp only [Option.bind_assoc, closeWord_nil, Option.bind_some]
    · split
      · simp only [Option.bind_assoc, closeWord_nil, Option.bind_some]
      · cases hp : punctuation? c with
        | none => simp_all
        | some t => simp only [Option.bind_assoc, closeWord_nil, Option.bind_some]

theorem scanFrom_wordChars (word cs rest : List Char) (h : cs.all isWordChar = true) :
    scanFrom word (cs ++ rest) = scanFrom (cs.reverse ++ word) rest := by
  induction cs generalizing word with
  | nil => rfl
  | cons c cs ih =>
    rw [List.all_cons, Bool.and_eq_true] at h
    have hc := h.1
    have hcs := ih (c :: word) h.2
    simp only [isWordChar, Bool.and_eq_true, Bool.not_eq_eq_eq_not, Bool.not_true,
      decide_eq_true_eq, Option.isNone_iff_eq_none] at hc
    obtain ⟨⟨hb, hq⟩, hp⟩ := hc
    simp only [List.cons_append, scanFrom, hb, hq, hp, if_false, Bool.false_eq_true]
    simpa using hcs

/-- A word is read whole when what follows ends it. -/
theorem scanFrom_word (cs rest : List Char) (t : Token) (hne : cs ≠ [])
    (hw : cs.all isWordChar = true) (ht : ofWord? cs = some t) (hr : EndsWord rest) :
    scanFrom [] (cs ++ rest) = (scanFrom [] rest).map (t :: ·) := by
  rw [scanFrom_wordChars [] cs rest hw, scanFrom_of_endsWord _ rest hr]
  -- The word arrives reversed and is judged as a whole when it closes.
  have : closeWord (cs.reverse ++ []) = fun ts => some (t :: ts) := by
    funext ts
    simp [closeWord, hne, ht]
  rw [this]
  cases scanFrom [] rest <;> rfl

theorem isWordChar_of_isDigit {c : Char} (h : c.isDigit = true) : isWordChar c = true := by
  have h' : 48 ≤ c.toNat ∧ c.toNat ≤ 57 := by
    simpa [Char.isDigit, UInt32.le_iff_toNat_le] using h
  have key : ∀ n, n < 58 → 48 ≤ n → isWordChar (Char.ofNat n) = true := by decide
  have := key c.toNat (by omega) h'.1
  rwa [Char.ofNat_toNat] at this

theorem ofWord?_write (n : Nat) : ofWord? (Decimal.write n) = some (number n) := by
  have hd := fun c (h : c ∈ Decimal.write n) => Decimal.isDigit_of_mem_write n h
  unfold ofWord?
  split
  · rename_i h; exact absurd (hd 'n' (by rw [h]; decide)) (by decide)
  · rename_i h; exact absurd (hd 't' (by rw [h]; decide)) (by decide)
  · rename_i h; exact absurd (hd 'f' (by rw [h]; decide)) (by decide)
  · rw [Decimal.readCanonical?_write]; rfl

theorem scanQuoted_plain (raw rest : List Char) {c : Char} (hq : c ≠ '"') (hb : c ≠ '\\') :
    scanQuoted raw (c :: rest) = scanQuoted (c :: raw) rest := by
  rw [scanQuoted.eq_def]
  split
  · rename_i heq; cases heq
  · rename_i heq; cases heq; exact absurd rfl hb
  · rename_i heq; cases heq; exact absurd rfl hb
  · rename_i heq; cases heq; exact absurd rfl hq
  · rename_i heq; cases heq; rfl

theorem upper_plain : ∀ n, n < 16 → Hex.upper n ≠ '"' ∧ Hex.upper n ≠ '\\' := by decide

/-- The scanner passes over an escaped character without closing the text. -/
theorem scanQuoted_escapeChar (raw rest : List Char) (c : Char) :
    scanQuoted raw (escapeChar c ++ rest) = scanQuoted ((escapeChar c).reverse ++ raw) rest := by
  unfold escapeChar
  split
  · rfl
  split
  · rfl
  split
  · rfl
  split
  · rfl
  split
  · rfl
  split
  · rfl
  split
  · rfl
  split
  · have h1 := upper_plain (c.toNat / 16) (by omega)
    have h2 := upper_plain (c.toNat % 16) (by omega)
    simp only [List.cons_append, List.nil_append]
    rw [scanQuoted, scanQuoted_plain _ _ (by decide) (by decide),
      scanQuoted_plain _ _ (by decide) (by decide), scanQuoted_plain _ _ h1.1 h1.2,
      scanQuoted_plain _ _ h2.1 h2.2]
    rfl
  · exact scanQuoted_plain raw rest (by assumption) (by assumption)

theorem scanQuoted_escape (raw text rest : List Char) :
    scanQuoted raw (escape text ++ rest) = scanQuoted ((escape text).reverse ++ raw) rest := by
  induction text generalizing raw with
  | nil => rfl
  | cons c text ih =>
    rw [escape, List.flatMap_cons, ← escape, List.append_assoc, scanQuoted_escapeChar, ih,
      List.reverse_append, List.append_assoc]

/-- A quoted text is read whole. -/
theorem scanQuoted_closed (text rest : List Char) :
    scanQuoted [] (escape text ++ '"' :: rest)
      = (scanFrom [] rest).map (string (String.ofList text) :: ·) := by
  rw [scanQuoted_escape, scanQuoted]
  simp [unescape?_escape]

theorem scanFrom_write (t : Token) (rest : List Char) (h : t.isWord = true → EndsWord rest) :
    scanFrom [] (t.write ++ rest) = (scanFrom [] rest).map (t :: ·) := by
  have hp (c : Char) (u : Token) (hb : isBlank c = false) (hq : c ≠ '"')
      (hu : punctuation? c = some u) :
      scanFrom [] ([c] ++ rest) = (scanFrom [] rest).map (u :: ·) := by
    simp only [List.singleton_append, scanFrom, hb, hq, hu, if_false, Bool.false_eq_true]
    cases scanFrom [] rest <;> simp [closeWord]
  cases t with
  | openBrace => exact hp _ _ rfl (by decide) rfl
  | closeBrace => exact hp _ _ rfl (by decide) rfl
  | openBracket => exact hp _ _ rfl (by decide) rfl
  | closeBracket => exact hp _ _ rfl (by decide) rfl
  | colon => exact hp _ _ rfl (by decide) rfl
  | comma => exact hp _ _ rfl (by decide) rfl
  | null => exact scanFrom_word _ _ _ (by decide) rfl rfl (h rfl)
  | bool b => cases b <;> exact scanFrom_word _ _ _ (by decide) rfl rfl (h rfl)
  | number n =>
    exact scanFrom_word _ _ _ (Decimal.write_ne_nil n)
      (List.all_eq_true.mpr fun c hc =>
        isWordChar_of_isDigit (Decimal.isDigit_of_mem_write n hc))
      (ofWord?_write n) (h rfl)
  | string s =>
    -- The opening quote hands over to the other scanner, which gives back the rest.
    simp only [write, List.cons_append, List.append_assoc, List.nil_append, scanFrom,
      show isBlank '"' = false from rfl, if_true, if_false, Bool.false_eq_true]
    rw [scanQuoted_closed]
    cases scanFrom [] rest <;> simp [closeWord_nil]

theorem endsWord_write {t : Token} (h : t.isWord = false) (rest : List Char) :
    EndsWord (t.write ++ rest) := by
  cases t with
  | null | bool _ | number _ => cases h
  | _ => rfl

theorem endsWord_flatMap_write {ts : List Token} (h : StartsPlain ts) :
    EndsWord (ts.flatMap write) := by
  cases ts with
  | nil => trivial
  | cons u ts => exact endsWord_write h _

theorem scan_write (ts : List Token) (h : Separated ts) :
    scan (ts.flatMap write) = some ts := by
  unfold scan
  induction ts with
  | nil => rfl
  | cons t ts ih =>
    rw [List.flatMap_cons, scanFrom_write _ _ fun hw => endsWord_flatMap_write (h.1 hw), ih h.2]
    rfl

end Token

mutual
/-- A value does not run two words together, whatever plain token follows it. -/
theorem separated_tokens : ∀ (j : Json) {rest : List Token}, Token.StartsPlain rest →
    Token.Separated rest → Token.Separated (tokens j ++ rest)
  | .null, _, hp, hs => ⟨fun _ => hp, hs⟩
  | .bool _, _, hp, hs => ⟨fun _ => hp, hs⟩
  | .number _, _, hp, hs => ⟨fun _ => hp, hs⟩
  | .string _, _, hp, hs => ⟨fun _ => hp, hs⟩
  | .array [], _, hp, hs => ⟨nofun, nofun, hs⟩
  | .array (j :: items), rest, hp, hs => by
    have hm := @separated_moreItems items (.closeBracket :: rest) rfl ⟨nofun, hs⟩
    simp only [tokens, List.cons_append, List.append_assoc, List.nil_append]
    exact ⟨nofun, separated_tokens j hm.1 hm.2⟩
  | .object [], _, hp, hs => ⟨nofun, nofun, hs⟩
  | .object ((k, j) :: fields), rest, hp, hs => by
    have hm := @separated_moreFields fields (.closeBrace :: rest) rfl ⟨nofun, hs⟩
    simp only [tokens, List.cons_append, List.append_assoc, List.nil_append]
    exact ⟨nofun, nofun, nofun, separated_tokens j hm.1 hm.2⟩
theorem separated_moreItems : ∀ (items : List Json) {rest : List Token}, Token.StartsPlain rest →
    Token.Separated rest →
      Token.StartsPlain (moreItems items ++ rest) ∧ Token.Separated (moreItems items ++ rest)
  | [], _, hp, hs => ⟨hp, hs⟩
  | j :: items, rest, hp, hs => by
    have hm := separated_moreItems items hp hs
    simp only [moreItems, List.cons_append, List.append_assoc]
    exact ⟨rfl, nofun, separated_tokens j hm.1 hm.2⟩
theorem separated_moreFields : ∀ (fields : List (String × Json)) {rest : List Token},
    Token.StartsPlain rest → Token.Separated rest →
      Token.StartsPlain (moreFields fields ++ rest) ∧ Token.Separated (moreFields fields ++ rest)
  | [], _, hp, hs => ⟨hp, hs⟩
  | (k, j) :: fields, rest, hp, hs => by
    have hm := separated_moreFields fields hp hs
    simp only [moreFields, List.cons_append, List.append_assoc]
    exact ⟨rfl, nofun, nofun, nofun, separated_tokens j hm.1 hm.2⟩
end

/-- The first item of an array needs no comma. -/
theorem foldlM_step_tokens_items (j : Json) (done : List Json) (stack : List Frame) :
    (tokens j).foldlM step (.items done false stack)
      = (tokens j).foldlM step (.value (.items done true :: stack)) := by
  cases j with
  | array items => cases items <;> rfl
  | object fields => rcases fields with _ | ⟨⟨k, j⟩, fields⟩ <;> rfl
  | _ => rfl

mutual
/-- The tokens of a value lead to where the reader stands behind it. -/
theorem foldlM_step_tokens : ∀ (j : Json) (stack : List Frame),
    (tokens j).foldlM step (.value stack) = some (finish j stack)
  | .null, _ => rfl
  | .bool _, _ => rfl
  | .number _, _ => rfl
  | .string _, _ => rfl
  | .array [], _ => rfl
  | .array (j :: items), stack => by
    have hj := foldlM_step_tokens j (.items [] true :: stack)
    have hm := foldlM_step_moreItems items [j] true stack
    rw [← foldlM_step_tokens_items] at hj
    simp [tokens, List.foldlM_append, step, begin?, hj, finish, hm]
  | .object [], _ => rfl
  | .object ((k, j) :: fields), stack => by
    have hj := foldlM_step_tokens j (.field [] k :: stack)
    have hm := foldlM_step_moreFields fields (k, j) [] stack
    simp [tokens, List.foldlM_append, step, begin?, hj, finish, hm]
theorem foldlM_step_moreItems : ∀ (items done : List Json) (bare : Bool) (stack : List Frame),
    (moreItems items).foldlM step (.items done bare stack)
      = some (.items (done ++ items) bare stack)
  | [], done, bare, stack => by simp [moreItems]
  | j :: items, done, bare, stack => by
    have hj := foldlM_step_tokens j (.items done bare :: stack)
    have hm := foldlM_step_moreItems items (done ++ [j]) bare stack
    simp [moreItems, List.foldlM_append, step, hj, finish, hm]
theorem foldlM_step_moreFields : ∀ (fields : List (String × Json)) (field : String × Json)
    (done : List (String × Json)) (stack : List Frame),
    (moreFields fields).foldlM step (.fields (field :: done) stack)
      = some (.fields (field :: done ++ fields) stack)
  | [], field, done, stack => by simp [moreFields]
  | (k, j) :: fields, field, done, stack => by
    have hj := foldlM_step_tokens j (.field (field :: done) k :: stack)
    have hm := foldlM_step_moreFields fields field (done ++ [(k, j)]) stack
    simp [moreFields, List.foldlM_append, step, hj, finish, hm]
end

/-- A value's text reads back as the value. -/
theorem parse?_text (j : Json) : parse? j.text = some j := by
  have hs := @separated_tokens j [] trivial trivial
  rw [List.append_nil] at hs
  simp [parse?, text, String.toList_ofList, Token.scan_write _ hs, foldlM_step_tokens, finish]

end Json

end BridgeCustody
