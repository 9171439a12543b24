import BridgeCustody.Committee.Round
import BridgeCustody.Json.RoundTrip
import BridgeCustody.Ledger.Basic
import BridgeCustody.Ledger.Message

/-!
# Values Survive Their JSON Form

What a contract saves is text, and what its next call works on is read from that
text. Nothing proved about one call carries over to the next unless the reading
gives back exactly the value that was written.

`Json.parse?_text` already says so for trees. What is left is the step between a
value and its tree, type by type, and there the only thing that can go wrong is
a field looked up under another name than it was written under, or a numeral out
of range. `Wire.Lawful` is the law of one type. It is a class, so that the law of
a record is found from the laws of its fields.

## Main definitions

* `Wire.Lawful`: Values of a type read back from their tree.

## Theorems

* `Wire.decode?_encode`: Values of a lawful type read back from their text.
* `Json.bind_record?`: A record of the expected fields gives them up.
* `Json.bind_required?`: A field found under its name is read back.
-/

namespace BridgeCustody

namespace Wire

/-- Values read back from their JSON form. -/
class Lawful (α : Type) [Wire α] : Prop where
  ofJson?_toJson : ∀ a : α, Wire.ofJson? (Wire.toJson a) = some a

theorem decode?_encode {α : Type} [Wire α] [Lawful α] (a : α) :
    decode? (encode a) = some a := by
  rw [decode?, encode, Json.parse?_text, Option.bind_some, Lawful.ofJson?_toJson]

/-- Two values with the same text are the same. -/
theorem encode_inj {α : Type} [Wire α] [Lawful α] {a b : α} (h : encode a = encode b) :
    a = b := by
  -- Both are what the one text reads as.
  have ha := decode?_encode a
  rw [h, decode?_encode b] at ha
  exact (Option.some.inj ha).symm

end Wire

namespace Json

/-- A record whose fields are exactly the expected ones, in this order, gives up
    its fields. -/
theorem bind_record? {β : Type} (names : List String) (fields : List (String × Json))
    (hn : fields.map Prod.fst = names) (hd : names.Nodup)
    (k : List (String × Json) → Option β) :
    ((object fields).record? names >>= k) = k fields := by
  have hr : (object fields).record? names = some fields := by
    rw [record?, if_pos]
    refine ⟨by rwa [hn], fun field hf => ?_⟩
    rw [← hn]
    exact List.mem_map_of_mem hf
  rw [hr]
  rfl

/-- A field found under its name is read back, whatever is read after it. -/
theorem bind_required? {α β : Type} [Wire α] [Wire.Lawful α] {fields : List (String × Json)}
    {name : String} {a : α} (h : fields.lookup name = some (Wire.toJson a)) (k : α → Option β) :
    (required? fields name >>= k) = k a := by
  have hr : required? fields name = some a := by
    rw [required?, h]
    exact Wire.Lawful.ofJson?_toJson a
  rw [hr]
  rfl

end Json

open Wire

instance : Lawful Bool := ⟨fun _ => rfl⟩

instance : Lawful String := ⟨fun _ => rfl⟩

instance : Lawful Address := ⟨fun _ => rfl⟩

instance : Lawful Amount := ⟨Amount.read?_text⟩

instance : Lawful Ledger.Role where
  ofJson?_toJson role := by cases role <;> rfl

instance : Lawful UInt64 where
  ofJson?_toJson n := by
    have h := n.toNat_lt_size
    simp only [Wire.toJson, Wire.ofJson?, h, if_true, UInt64.ofNat_toNat]

instance : Lawful UInt32 where
  ofJson?_toJson n := by
    have h := n.toNat_lt_size
    simp only [Wire.toJson, Wire.ofJson?, h, if_true, UInt32.ofNat_toNat]

instance {α : Type} [Wire α] [Lawful α] : Lawful (List α) where
  ofJson?_toJson items := by
    simp only [Wire.toJson, Wire.ofJson?, Json.items?]
    induction items with
    | nil => rfl
    | cons a items ih =>
        -- The head reads back by its own law, the rest by the induction.
        rw [List.map_cons, List.mapM_cons, ih, Lawful.ofJson?_toJson]
        rfl

/-! ### Records

Each is written with its fields in the order in which it expects them, and reads
them one after another. -/

instance : Lawful Ledger.SwapLimits where
  ofJson?_toJson l := by
    unfold Wire.toJson Wire.ofJson? Ledger.instWireSwapLimits
    refine (Json.bind_record? _ _ (by rfl) (by decide) _).trans ?_
    iterate 2 refine (Json.bind_required? (by rfl) _).trans ?_
    rfl

instance : Lawful Ledger.ReverseLimits where
  ofJson?_toJson l := by
    unfold Wire.toJson Wire.ofJson? Ledger.instWireReverseLimits
    refine (Json.bind_record? _ _ (by rfl) (by decide) _).trans ?_
    iterate 3 refine (Json.bind_required? (by rfl) _).trans ?_
    rfl

instance : Lawful Ledger where
  ofJson?_toJson l := by
    unfold Wire.toJson Wire.ofJson? Ledger.instWire
    refine (Json.bind_record? _ _ (by rfl) (by decide) _).trans ?_
    iterate 16 refine (Json.bind_required? (by rfl) _).trans ?_
    rfl

instance : Lawful Committee.Setup where
  ofJson?_toJson s := by
    unfold Wire.toJson Wire.ofJson? Committee.instWireSetup
    refine (Json.bind_record? _ _ (by rfl) (by decide) _).trans ?_
    iterate 3 refine (Json.bind_required? (by rfl) _).trans ?_
    rfl

instance : Lawful Committee.Round where
  ofJson?_toJson r := by
    unfold Wire.toJson Wire.ofJson? Committee.instWireRound
    refine (Json.bind_record? _ _ (by rfl) (by decide) _).trans ?_
    iterate 6 refine (Json.bind_required? (by rfl) _).trans ?_
    rfl

/-! ### Alternatives

Each is an object with one field, whose name decides what is read behind it. -/

instance : Lawful Ledger.Hook where
  ofJson?_toJson hook := by
    cases hook <;> rfl

end BridgeCustody
