import Tollgate.Command.Run
import Tollgate.Proofs.Gateway.Refusals
import Tollgate.Proofs.Reload.Routes

/-!
# Checking a manifest

A check loads a manifest into a fresh gateway and accepts it when nothing is refused.  A load
refuses mock targets without responses and nothing else: of the routes that share a slot the last
one takes it, and a credential without revisions registers no value.
-/

namespace Tollgate

/-- No resource of the manifest is in vain: the routes have slots of their own, every mock target
has responses, and every credential has revisions. -/
structure Manifest.Effective (manifest : Manifest) : Prop where
  slots : manifest.DistinctSlots
  responses : ∀ target ∈ manifest.mockTargets, target.routes ≠ []
  revisions : ∀ credential ∈ manifest.credentials, credential.revisions ≠ []

/-- The slots of a loaded gateway have the last route of each. -/
theorem Routes.occupant?_loaded (manifest : Manifest) (address : List String) (host : String) :
    (Gateway.loaded manifest).routes.occupant? address host =
      manifest.routes.reverse.find? (·.slot = (address, host)) := by
  rw [(represents_loaded manifest).occupant, get?_fill_empty]

namespace Command

/-- The file at a path is there, and is a manifest whose credentials open. -/
def Opens (files : Files) (path : String) (manifest : Manifest) : Prop :=
  files.has path = true ∧ (Source.start files path).bind (·.load files) = .ok manifest

instance (files : Files) (path : String) (manifest : Manifest) :
    Decidable (Opens files path manifest) :=
  inferInstanceAs (Decidable (_ ∧ _))

/-- What a check says of refused resources. -/
def complaint (refused : Nat) : List String :=
  if refused = 0 then []
  else ["❌ " ++ toString refused ++ " resource(s) were rejected by the stores (see log above)"]

/-- A verdict rests on the number of refused resources. -/
theorem verdict_eq (manifest : Manifest) :
    (verdict manifest).code = (if (Gateway.fresh.loadAll manifest).1 = 0 then 0 else 1) ∧
      (verdict manifest).errors = complaint (Gateway.fresh.loadAll manifest).1 := by
  unfold verdict complaint
  by_cases granted : (Gateway.fresh.loadAll manifest).1 = 0
  · simp [granted]
  · simp [granted, failed]

variable {files : Files} {path : String} {manifest : Manifest}

/-- A check of a manifest that opens comes to the verdict on it. -/
theorem runCheck_of_opens (opens : Opens files path manifest) :
    (runCheck files path).code = (verdict manifest).code ∧
      (runCheck files path).errors = (verdict manifest).errors := by
  obtain ⟨there, loads⟩ := opens
  cases started : Source.start files path with
  | error fault =>
      rw [started] at loads
      cases loads
  | ok source =>
      rw [started] at loads
      change source.load files = .ok manifest at loads
      simp [runCheck, there, started, loads]

/-- A manifest that opens is accepted exactly when every mock target has responses, and otherwise
those without are counted.  Whether accepted or not, the last route of each slot is loaded, and a
value leads to the last credential that lists it. -/
theorem runCheck_accepts_iff (opens : Opens files path manifest) :
    ((runCheck files path).code = 0 ↔ ∀ target ∈ manifest.mockTargets, target.routes ≠ []) ∧
      (runCheck files path).errors = complaint (manifest.mockTargets.countP (·.routes = [])) ∧
      (∀ address host, (Gateway.loaded manifest).routes.occupant? address host =
        manifest.routes.reverse.find? (·.slot = (address, host))) ∧
      ∀ value, (Gateway.loaded manifest).keys.get? value =
        manifest.credentials.reverse.find? (value ∈ ·.revisions) := by
  obtain ⟨code, errors⟩ := runCheck_of_opens opens
  obtain ⟨verdictCode, verdictErrors⟩ := verdict_eq manifest
  rw [Gateway.loadAll_fst] at verdictCode verdictErrors
  refine ⟨?_, errors.trans verdictErrors, Routes.occupant?_loaded manifest,
    Keyring.get?_loaded manifest⟩
  rw [code, verdictCode]
  simp [List.countP_eq_zero]

/-- A text as the only file in its directory. -/
def onlyFile (text : String) : Files :=
  .ofList [(".", .directory), ("m.toml", .file text)]

/-- A document with a mock target without responses beside one that has one. -/
def halfBare : Files :=
  onlyFile ("[[mockTargets]]\nname=\"a\"\nnamespace=\"n\"\n" ++
    "[[mockTargets]]\nname=\"b\"\nnamespace=\"n\"\n[[mockTargets.routes]]\npath=\"/\"")

/-- Of two mock targets the one without responses is refused. -/
theorem runCheck_halfBare :
    ∃ manifest, Opens halfBare "m.toml" manifest ∧
      (runCheck halfBare "m.toml").errors =
        ["❌ 1 resource(s) were rejected by the stores (see log above)"] := by
  have opens : Opens halfBare "m.toml"
      { mockTargets := [⟨⟨"n", "a"⟩, []⟩, ⟨⟨"n", "b"⟩, [{ path := "/" }]⟩] } := by
    decide +kernel
  obtain ⟨_, errors, _⟩ := runCheck_accepts_iff opens
  exact ⟨_, opens, errors⟩

/-- A document with two routes in one slot. -/
def sharedSlot : Files :=
  onlyFile ("[[routes]]\nname=\"a\"\nnamespace=\"n\"\nsourcePath=\"/x\"\ntargetBackend=\"b\"\n" ++
    "[[routes]]\nname=\"b\"\nnamespace=\"n\"\nsourcePath=\"x/\"\ntargetBackend=\"b\"")

/-- A document with a credential without revisions. -/
def valueless : Files :=
  onlyFile "[[credentials]]\nname=\"a\"\nnamespace=\"n\""

/-- Routes that share a slot are accepted, and so is a credential without revisions. -/
theorem runCheck_accepts_ineffective :
    (∃ manifest, Opens sharedSlot "m.toml" manifest ∧ (runCheck sharedSlot "m.toml").code = 0 ∧
        ¬manifest.DistinctSlots) ∧
      (∃ manifest, Opens valueless "m.toml" manifest ∧ (runCheck valueless "m.toml").code = 0 ∧
        ∃ credential ∈ manifest.credentials, credential.revisions = []) ∧
      ¬∀ (files : Files) (path : String) (manifest : Manifest), Opens files path manifest →
        ((runCheck files path).code = 0 ↔ manifest.Effective) := by
  have shared : Opens sharedSlot "m.toml"
      { routes :=
          [{ id := ⟨"n", "a"⟩, sourcePath := "/x", backend := "b" },
            { id := ⟨"n", "b"⟩, sourcePath := "x/", backend := "b" }] } := by
    decide +kernel
  have bare : Opens valueless "m.toml" { credentials := [⟨⟨"n", "a"⟩, []⟩] } := by
    decide +kernel
  have sharedAccepted : (runCheck sharedSlot "m.toml").code = 0 :=
    (runCheck_of_opens shared).1.trans (by decide +kernel)
  have bareAccepted : (runCheck valueless "m.toml").code = 0 :=
    (runCheck_of_opens bare).1.trans (by decide +kernel)
  refine ⟨⟨_, shared, sharedAccepted, by decide +kernel⟩, ⟨_, bare, bareAccepted, by decide⟩, ?_⟩
  intro exactly
  exact absurd ((exactly _ _ _ shared).mp sharedAccepted).slots (by decide +kernel)

end Command

end Tollgate
