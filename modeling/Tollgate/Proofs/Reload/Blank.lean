import Tollgate.Proofs.Gateway.Revocation
import Tollgate.Proofs.Reload.Watch

/-!
# Blank values

Nothing but the loading of a manifest looks at blank values: a document with one is refused as a
whole, and the events between two manifests without any issue none.  So the empty value never
leads to a credential, whatever a watch reads and serves, and whoever presents it is a stranger.
-/

namespace Tollgate

/-! ## Documents with a blank value -/

/-- The first blank value of a credential is at a position. -/
structure Credential.FirstBlank (credential : Credential) (position : Nat) : Prop where
  blank : credential.revisions[position]? = some ""
  first : ∀ earlier < position, credential.revisions[earlier]? ≠ some ""

theorem Credential.firstBlank_of_reveal {sealed : Credential} {fault : SealFault}
    (closed : sealed.reveal = .error fault) :
    fault.credential = sealed.id ∧ sealed.FirstBlank fault.position := by
  unfold reveal at closed
  split at closed
  · next position found =>
    obtain ⟨inside, empty, least⟩ := List.findIdx?_eq_some_iff_getElem.mp found
    cases closed
    refine ⟨rfl, ?_, ?_⟩
    · rw [List.getElem?_eq_getElem inside, of_decide_eq_true empty]
    · intro earlier before same
      obtain ⟨_, blank⟩ := List.getElem?_eq_some_iff.mp same
      exact least earlier before (decide_eq_true blank)
  · contradiction

namespace Manifest

/-- No credential lists a blank value. -/
def Clean (manifest : Manifest) : Prop :=
  ∀ credential ∈ manifest.credentials, "" ∉ credential.revisions

/-- The first blank value of a manifest: the first credential that lists one, and the first
position at which it does. -/
inductive FirstBlank (manifest : Manifest) : SealFault → Prop where
  | found {before after : List Credential} {credential : Credential} {position : Nat}
      (order : manifest.credentials = before ++ credential :: after)
      (clean : ∀ earlier ∈ before, "" ∉ earlier.revisions)
      (blank : credential.FirstBlank position) : FirstBlank manifest ⟨credential.id, position⟩

/-- The credential that does not open comes behind credentials that do. -/
theorem split_of_mapM_reveal {sealed : List Credential} {fault : SealFault}
    (closed : sealed.mapM Credential.reveal = .error fault) :
    ∃ before credential after, sealed = before ++ credential :: after ∧
      (∀ earlier ∈ before, "" ∉ earlier.revisions) ∧ credential.reveal = .error fault := by
  induction sealed with
  | nil => cases closed
  | cons first rest ih =>
      rw [List.mapM_cons] at closed
      cases head : first.reveal with
      | error failure =>
          rw [head] at closed
          cases closed
          exact ⟨[], first, rest, rfl, nofun, head⟩
      | ok opened =>
          rw [head] at closed
          cases tail : rest.mapM Credential.reveal with
          | ok values =>
              rw [tail] at closed
              cases closed
          | error failure =>
              rw [tail] at closed
              cases closed
              obtain ⟨before, credential, after, order, clean, shut⟩ := ih tail
              refine ⟨first :: before, credential, after, congrArg (first :: ·) order, ?_, shut⟩
              exact List.forall_mem_cons.mpr ⟨(Credential.reveal_eq_ok_iff.mp head).2, clean⟩

/-- A manifest that does not open names its first blank value. -/
theorem firstBlank_of_reveal {sealed : Manifest} {fault : SealFault}
    (closed : sealed.reveal Credential.reveal = .error fault) : sealed.FirstBlank fault := by
  rw [reveal] at closed
  cases opened : sealed.credentials.mapM Credential.reveal with
  | ok credentials =>
      rw [opened] at closed
      cases closed
  | error failure =>
      rw [opened] at closed
      cases closed
      obtain ⟨before, credential, after, order, clean, shut⟩ := split_of_mapM_reveal opened
      obtain ⟨named, blank⟩ := Credential.firstBlank_of_reveal shut
      rcases fault with ⟨name, position⟩
      cases named
      exact .found order clean blank

end Manifest

namespace Files

variable {files : Files} {path : String} {manifest : Manifest}

/-- A document that is read is opened. -/
theorem manifest_of_sealed {sealed : Manifest}
    (document : files.sealedManifest path = .ok sealed) :
    files.manifest Credential.reveal path =
      match sealed.reveal Credential.reveal with
      | .ok opened => .ok opened
      | .error fault => .error (LoadFault.closed path fault) := by
  rw [Files.manifest, document]
  rfl

/-- What loads is what the document says, and is clean. -/
theorem manifest_eq_ok_iff :
    files.manifest Credential.reveal path = .ok manifest ↔
      files.sealedManifest path = .ok manifest ∧ manifest.Clean := by
  constructor
  · intro loads
    cases document : files.sealedManifest path with
    | error fault =>
        rw [Files.manifest, document] at loads
        cases loads
    | ok sealed =>
        rw [manifest_of_sealed document] at loads
        cases opened : sealed.reveal Credential.reveal with
        | error fault =>
            rw [opened] at loads
            cases loads
        | ok value =>
            rw [opened] at loads
            cases loads
            obtain ⟨rfl, clean⟩ := Manifest.reveal_eq_ok_iff.mp opened
            exact ⟨rfl, clean⟩
  · rintro ⟨document, clean⟩
    rw [manifest_of_sealed document, Manifest.reveal_eq_ok_iff.mpr ⟨rfl, clean⟩]

/-- A document with a blank value is refused, for the first one. -/
theorem manifest_of_blank (document : files.sealedManifest path = .ok manifest)
    (blank : ¬manifest.Clean) :
    ∃ fault, manifest.FirstBlank fault ∧
      files.manifest Credential.reveal path = .error (.closed path fault) := by
  cases opened : manifest.reveal Credential.reveal with
  | ok value =>
      obtain ⟨_, clean⟩ := Manifest.reveal_eq_ok_iff.mp opened
      exact absurd clean blank
  | error fault =>
      refine ⟨fault, Manifest.firstBlank_of_reveal opened, ?_⟩
      rw [manifest_of_sealed document, opened]

end Files

/-- An event issues the values of the credential that it leaves behind. -/
theorem Event.exists_credential_of_issues {event : Event} {value : String}
    (issues : event.issues value = true) :
    ∃ credential, event.resource = .credential credential ∧ value ∈ credential.revisions := by
  cases event with
  | added resource =>
      cases resource with
      | credential credential => exact ⟨credential, rfl, of_decide_eq_true issues⟩
      | _ => cases issues
  | updated old new =>
      cases new with
      | credential credential => exact ⟨credential, rfl, of_decide_eq_true issues⟩
      | _ => cases issues
  | deleted resource => cases issues

/-- The events between two manifests issue only values that the next one lists. -/
theorem Manifest.issues_of_mem_diff {previous next : Manifest} {event : Event} {value : String}
    (member : event ∈ previous.diff next) (issues : event.issues value = true) :
    ∃ credential ∈ next.credentials, value ∈ credential.revisions := by
  obtain ⟨credential, left, listed⟩ := Event.exists_credential_of_issues issues
  rw [diff, List.mem_append] at member
  rcases member with removal | arrival
  · obtain ⟨resource, _, rfl⟩ := List.mem_map.mp removal
    cases issues
  · obtain ⟨resource, present, arrives⟩ := List.mem_filterMap.mp arrival
    rw [Section.resource_of_arrival arrives] at left
    subst left
    exact ⟨credential, by simpa [resources] using present, listed⟩

/-! ## Watches -/

namespace Watch

/-- What happens to a watch: its files are read again, or a request comes in. -/
inductive Turn where
  | reload (files : Files)
  | request (request : Request) (now : Instant)

/-- The watch after a turn. -/
def turn (watch : Watch) : Turn → Watch
  | .reload files => watch.refresh files
  | .request request now => { watch with gateway := watch.gateway.step (.request request now) }

/-- The watch after turns one after the other. -/
def serve (watch : Watch) (turns : List Turn) : Watch :=
  turns.foldl turn watch

/-- A watch of a manifest in plain text that no blank value has got into. -/
structure Unblemished (path : String) (watch : Watch) : Prop where
  path : watch.source.path = path
  decrypt : watch.source.decrypt = Credential.reveal
  current : watch.source.current.Clean
  absent : watch.gateway.keys.get? "" = none

/-- How a watch keeps blank values out: it takes in what a clean document says and refuses any
other, naming its first blank value; and it lets nobody in who presents the empty value. -/
structure KeepsOut (path : String) (watch : Watch) : Prop where
  taken : ∀ files refused next, watch.refresh? files = .ok (refused, next) →
    files.sealedManifest path = .ok next.source.current ∧ next.source.current.Clean
  opened : ∀ files manifest, files.sealedManifest path = .ok manifest → manifest.Clean →
    ∃ refused, watch.refresh? files = .ok (refused, watch.take manifest)
  closed : ∀ files sealed, files.sealedManifest path = .ok sealed → ¬sealed.Clean →
    ∃ fault, sealed.FirstBlank fault ∧ watch.refresh? files = .error (.closed path fault) ∧
      watch.refresh files = watch
  current : watch.source.current.Clean
  absent : watch.gateway.keys.get? "" = none
  barred : ∀ (request : Request) (now : Instant) (route : Route) (name : String),
    request.credential = some "" →
    watch.gateway.routes.get? request.path (request.host.getD "") = some route →
    route.binding = some name →
    watch.gateway.passage? request now = none ∧
      watch.gateway.handle request now =
        .ok (if watch.gateway.grants.contains ⟨route.id.space, name⟩ then .unauthorized
          else .forbidden, watch.gateway)

variable {path : String} {watch : Watch}

theorem unblemished_fresh (path : String) : ({ source := { path } } : Watch).Unblemished path where
  path := rfl
  decrypt := rfl
  current := nofun
  absent := Keyring.get?_empty ""

/-- A clean manifest issues no blank value. -/
theorem Unblemished.take (unblemished : watch.Unblemished path) {manifest : Manifest}
    (clean : manifest.Clean) : (watch.take manifest).Unblemished path where
  path := unblemished.path
  decrypt := unblemished.decrypt
  current := clean
  absent := by
    have keys : (watch.take manifest).gateway.keys =
        Batch.final Keyring.answer watch.gateway.keys (watch.source.current.diff manifest) :=
      Store.keys.state_applyAll_eq_final watch.gateway _
    rw [keys]
    apply Keyring.get?_final_of_unissued unblemished.absent
    intro event member
    rw [← Bool.not_eq_true]
    intro issues
    obtain ⟨credential, present, blank⟩ := Manifest.issues_of_mem_diff member issues
    exact clean credential present blank

theorem Unblemished.load (unblemished : watch.Unblemished path) (files : Files) :
    watch.source.load files = files.manifest Credential.reveal path := by
  rw [Source.load, unblemished.decrypt, unblemished.path]

theorem Unblemished.turn (unblemished : watch.Unblemished path) (next : Turn) :
    (watch.turn next).Unblemished path := by
  cases next with
  | reload files =>
      rw [Watch.turn, refresh]
      cases loads : watch.source.load files with
      | error fault =>
          rw [refresh?_of_error loads]
          exact unblemished
      | ok manifest =>
          rw [refresh?_of_ok loads]
          rw [unblemished.load, Files.manifest_eq_ok_iff] at loads
          exact unblemished.take loads.2
  | request request now =>
      obtain ⟨traffic, same⟩ := watch.gateway.step_request request now
      rw [Watch.turn, same]
      exact ⟨unblemished.path, unblemished.decrypt, unblemished.current, unblemished.absent⟩

theorem Unblemished.serve (unblemished : watch.Unblemished path) (turns : List Turn) :
    (watch.serve turns).Unblemished path := by
  induction turns generalizing watch with
  | nil => exact unblemished
  | cons next rest ih => exact ih (unblemished.turn next)

/-- What keeps blank values out keeps them out for good. -/
theorem Unblemished.keepsOut (unblemished : watch.Unblemished path) : watch.KeepsOut path where
  taken files refused next reloaded := by
    cases loads : watch.source.load files with
    | error fault =>
        rw [refresh?_of_error loads] at reloaded
        cases reloaded
    | ok manifest =>
        rw [refresh?_of_ok loads] at reloaded
        cases reloaded
        rwa [unblemished.load, Files.manifest_eq_ok_iff] at loads
  opened files manifest document clean := by
    have loads := (unblemished.load files).trans (Files.manifest_eq_ok_iff.mpr ⟨document, clean⟩)
    exact ⟨_, refresh?_of_ok loads⟩
  closed files sealed document blank := by
    obtain ⟨fault, found, refused⟩ := Files.manifest_of_blank document blank
    have fails := refresh?_of_error ((unblemished.load files).trans refused)
    exact ⟨fault, found, fails, by rw [refresh, fails]⟩
  current := unblemished.current
  absent := unblemished.absent
  barred request now route name presented resolved guarded := by
    have stranger := Gateway.caller?_of_unknown presented unblemished.absent
    exact ⟨Gateway.passage?_of_stranger stranger,
      Gateway.handle_of_stranger resolved guarded (stranger route.id.space)⟩

/-- Whatever a watch of a manifest in plain text reads and serves, it keeps blank values out. -/
theorem serve_keepsOut (path : String) (turns : List Turn) :
    (({ source := { path } } : Watch).serve turns).KeepsOut path :=
  ((unblemished_fresh path).serve turns).keepsOut

/-- The second credential of this document lists a blank value behind another. -/
example :
    Source.load { path := "m.toml" } (document ("[[credentials]]\nname=\"a\"\nnamespace=\"n\"\n" ++
      "revisions=[\"x\"]\n[[credentials]]\nname=\"b\"\nnamespace=\"n\"\nrevisions=[\"y\",\"\"]")) =
        .error (.closed "m.toml" ⟨⟨"n", "b"⟩, 1⟩) := by
  decide +kernel

end Watch

end Tollgate
