import BridgeCustody.Json.Wire
import BridgeCustody.Ledger.Role
import BridgeCustody.Word

/-!
# Surfaces and Their Pauses

The ledger has two surfaces that can be paused apart from each other. A pause
is a block height: the surface is paused from that block on, and the largest
height means never. A pause never reaches into the past, and only an
administrator may move one to a later block.

## Main definitions

* `Ledger.Surface`: One of the two surfaces.
* `Ledger.isPaused`: Whether a pause is in force.
* `Ledger.effectivePause`: The block that a requested pause starts from.
* `Ledger.pauseSetters`: Who may move a pause.

## Theorems

* `Ledger.isPaused_mono`: A pause in force stays in force.
* `Ledger.height_le_effectivePause`: A pause never reaches into the past.
-/

namespace BridgeCustody

namespace Ledger

/-- A group of operations that is paused as one. -/
inductive Surface
  /-- Swaps and deposits. -/
  | publicApi
  /-- Refunds, reverse swaps and rotations of the relay eon. -/
  | relayerApi
deriving DecidableEq, Repr

/-- The action under which a pause of the surface is reported. -/
def Surface.action : Surface → String
  | publicApi => "pause_public_api"
  | relayerApi => "pause_relayer_api"

instance : Wire Surface where
  toJson
    | .publicApi => .string "public_api"
    | .relayerApi => .string "relayer_api"
  ofJson?
    | .string "public_api" => some .publicApi
    | .string "relayer_api" => some .relayerApi
    | _ => none

/-- Whether a pause from block `since` on is in force at a height. -/
def isPaused (since height : UInt64) : Bool :=
  since ≤ height

/-- The block that a pause starts from when it is requested at a height: the
    past means now. -/
def effectivePause (requested height : UInt64) : UInt64 :=
  Word.largest requested height

/-- Who may move a pause from `current` to `since`. -/
def pauseSetters (since current : UInt64) : List Role :=
  if since ≤ current then [.admin, .monitor] else [.admin]

theorem isPaused_mono {since h h' : UInt64} (hle : h ≤ h') (hp : isPaused since h = true) :
    isPaused since h' = true := by
  simp only [isPaused, decide_eq_true_eq] at hp ⊢
  exact UInt64.le_trans hp hle

/-- A pause never reaches into the past. -/
theorem height_le_effectivePause (requested height : UInt64) :
    height ≤ effectivePause requested height := by
  rw [UInt64.le_iff_toNat_le, effectivePause, Word.toNat_largest]
  exact Nat.le_max_right _ _

end Ledger

end BridgeCustody
