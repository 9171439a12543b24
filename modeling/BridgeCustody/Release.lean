import BridgeCustody.Store.Cell

/-!
# Release Records

Every contract keeps a record of its name and release. It is written at
deployment and again at every migration, and no call depends on it.

## Main definitions

* `Release`: The record.
* `Migration`: What a migration is told.
* `Release.item`: Where it is stored.
-/

namespace BridgeCustody

/-- The name and release of a contract. -/
structure Release where
  contract : String
  version : String
deriving DecidableEq

instance : Wire Release where
  toJson r := .object [("contract", Wire.toJson r.contract), ("version", Wire.toJson r.version)]
  ofJson? j := do
    let f ← j.record? ["contract", "version"]
    return { contract := ← Json.required? f "contract", version := ← Json.required? f "version" }

/-- What a migration is told, which is nothing. -/
structure Migration where
deriving DecidableEq

instance : Wire Migration where
  toJson _ := .object []
  ofJson? j := do
    let _ ← j.record? []
    return {}

namespace Release

/-- Where the record is stored. -/
def item : Item Release where
  key := Key.single "contract_info"
  kind := "cw2::ContractVersion"

/-- The release of both contracts. -/
def current : String := "0.1.0"

/-- The record of the custody ledger. -/
def ofLedger : Release :=
  ⟨"crates.io:bridge-ledger", current⟩

/-- The record of the signing committee. -/
def ofCommittee : Release :=
  ⟨"crates.io:multisig-coordinator", current⟩

end Release

end BridgeCustody
