import Mathlib.Data.List.Induction
import Mathlib.Data.List.Perm.Basic
import Mathlib.Logic.Relation
import Tollgate.Proofs.Json.RoundTrip
import Tollgate.Proofs.Schema.RoundTrip
import Tollgate.Schema.Encode

/-!
# Decoding undoes encoding

Every resource has a shape that names its fields with their defaults.  What is written for a
resource is read as the resource, also after any edits: in whatever order members stand, at any
depth, and without any member whose value is its field's default.
-/

namespace Tollgate

open Json

variable {depth : Nat}

/-! ### The fields of every resource -/

def Route.shape : Shape :=
  .record
    [("name", none, .leaf),
      ("namespace", none, .leaf),
      ("sourcePath", none, .leaf),
      ("sourceVirtualHost", some .null, .leaf),
      ("targetPath", some (text ""), .leaf),
      ("targetBackend", none, .leaf),
      ("targetSsl", some (.bool false), .leaf),
      ("plugins", some (.array []), .list .leaf),
      ("binding", some .null, .leaf),
      ("mock", some (.bool false), .leaf)]

/-- The fields of both kinds of rule; one that allows every method has no verbs to leave out. -/
def Rule.shape : Shape :=
  .record [("type", none, .leaf), ("verbs", some (.array []), .list .leaf)]

def Rate.shape : Shape :=
  .record [("amount", some (integer 0), .leaf), ("unit", some .null, .leaf)]

def SubpathRule.shape : Shape :=
  .record [("path", none, .leaf), ("rule", none, Rule.shape)]

def PermissionEntry.shape : Shape :=
  .record
    [("credentialName", none, .leaf),
      ("defaultRule", none, Rule.shape),
      ("subpaths", some (.array []), .list SubpathRule.shape),
      ("rate", some .null, Rate.shape)]

def Binding.shape : Shape :=
  .record
    [("name", none, .leaf),
      ("namespace", none, .leaf),
      ("credentials", some (.array []), .list PermissionEntry.shape)]

def Credential.shape : Shape :=
  .record
    [("name", none, .leaf),
      ("namespace", none, .leaf),
      ("revisions", some (.array []), .list .leaf)]

/-- Any name can be a header's, and none has a default. -/
def Headers.shape : Shape :=
  .record []

def MockRoute.shape : Shape :=
  .record
    [("path", none, .leaf),
      ("statusCode", some (integer 200), .leaf),
      ("methods", some (.array []), .list .leaf),
      ("headers", some (record []), Headers.shape),
      ("body", some (text ""), .leaf)]

def MockTarget.shape : Shape :=
  .record
    [("name", none, .leaf),
      ("namespace", none, .leaf),
      ("routes", some (.array []), .list MockRoute.shape)]

def Manifest.shape : Shape :=
  .record
    [("routes", some (.array []), .list Route.shape),
      ("bindings", some (.array []), .list Binding.shape),
      ("credentials", some (.array []), .list Credential.shape),
      ("mockTargets", some (.array []), .list MockTarget.shape)]

def Settings.shape : Shape :=
  .record
    [("log_level", some (text "info"), .leaf),
      ("json_logs", some (.bool false), .leaf),
      ("manifest_path", some .null, .leaf),
      ("reload_debounce_ms", some (integer 2000), .leaf)]

/-! ### Headers -/

namespace Headers

theorem place_perm {name value : String} {entries : List (String × String)}
    (fresh : name ∉ entries.map (·.1)) :
    (place name value entries).Perm ((name, value) :: entries) := by
  induction entries with
  | nil => exact .refl _
  | cons first rest ih =>
      rw [List.map_cons, List.mem_cons, not_or] at fresh
      rw [place, if_neg fresh.1]
      split
      · exact .refl _
      · exact ((ih fresh.2).cons first).trans (.swap _ _ _)

/-- Headers with different names are all entered. -/
theorem ofList_perm {headers : List (String × String)} (distinct : (headers.map (·.1)).Nodup) :
    (ofList headers).entries.Perm headers := by
  induction headers using List.reverseRecOn with
  | nil => exact .refl _
  | append_singleton rest last ih =>
      have swapped : (rest ++ [last]).Perm (last :: rest) := List.perm_append_comm
      obtain ⟨fresh, distinct⟩ := List.nodup_cons.1 ((swapped.map _).nodup_iff.1 distinct)
      have entered := ih distinct
      rw [ofList, List.foldl_append]
      exact ((place_perm (fun found => fresh ((entered.map _).mem_iff.1 found))).trans
        (entered.cons last)).trans swapped.symm

/-- Headers are told apart by what they list, not by the order. -/
theorem eq_of_perm {headers others : Headers} (same : headers.entries.Perm others.entries) :
    headers = others := by
  have equal := same.eq_of_pairwise
    (fun _ _ _ _ before after => absurd (String.lt_trans before after) (String.lt_irrefl _))
    headers.ascending others.ascending
  cases headers
  cases others
  cases equal
  rfl

end Headers

/-- The decoder of one header. -/
def Json.header? (member : String × Nested) : Option (String × String) :=
  (strict.text? member.2).map (member.1, ·)

theorem Json.map_fst_of_headers {members : Fields Nested} {headers : List (String × String)}
    (read : List.Forall₂ (fun member header => header? member = some header) members headers) :
    headers.map (·.1) = members.map (·.1) := by
  induction read with
  | nil => rfl
  | cons first _ ih =>
      obtain ⟨text, _, rfl⟩ := Option.map_eq_some_iff.1 first
      rw [List.map_cons, List.map_cons, ih]

theorem Json.headers?_record (members : List (String × Json)) :
    strict.headers? ⟨depth, record members⟩ =
      ((nest depth members).mapM header?).map Headers.ofList := by
  rw [Reading.headers?, members?_record]
  change ((nest depth members).mapM header? >>= _) = _
  rw [Option.map_eq_bind]
  rfl

/-- Headers have no default and no inner structure; only their order can change. -/
theorem Headers.keeps : Keeps Headers.shape strict.headers? := by
  intro depth value edited result fits edit read
  cases edit with
  | @reorder _ members reordered same =>
      rw [headers?_record] at read ⊢
      obtain ⟨entries, found, rfl⟩ := Option.map_eq_some_iff.1 read
      have listed := mapM_eq_some_iff.1 found
      -- The same headers are read in another order, and it leaves no trace in the ascending list.
      obtain ⟨others, moved, entered⟩ := List.perm_comp_forall₂ (same.symm.map _) listed
      have distinct : (entries.map (·.1)).Nodup := by
        rw [map_fst_of_headers listed, nest, List.map_map]
        exact fits.of_record.2.1
      have again : (others.map (·.1)).Nodup := (entered.map _).nodup_iff.2 distinct
      rw [nest, mapM_eq_some_iff.2 moved]
      exact congrArg some (Headers.eq_of_perm
        (((Headers.ofList_perm again).trans entered).trans (Headers.ofList_perm distinct).symm))
  | drop default => cases default
  | member edit => exact absurd edit fits.of_middle.not_edit_leaf
  | element => exact fits.not_array.elim

theorem Headers.distinct (headers : Headers) : (headers.entries.map (·.1)).Nodup :=
  List.pairwise_map.2 (headers.ascending.imp fun before => Std.ne_of_lt before)

theorem Headers.roundTrips : RoundTrips Headers.shape 1 Headers.toJson strict.headers? where
  fits headers := by
    have distinct := headers.distinct
    refine .record (by rwa [List.map_map]) fun member found => ?_
    obtain ⟨header, _, rfl⟩ := List.mem_map.1 found
    exact .scalar rfl
  reads {depth} headers _ := by
    have read : (nest depth (headers.entries.map fun header => (header.1, text header.2))).mapM
        header? = some headers.entries := by
      rw [nest, mapM_eq_some_iff, List.forall₂_map_left_iff, List.forall₂_map_left_iff]
      exact List.forall₂_same.2 fun _ _ => rfl
    rw [toJson, headers?_record, read]
    exact congrArg some (eq_of_perm (ofList_perm headers.distinct))
  keeps := Headers.keeps

/-! ### Rules -/

theorem Json.filter_eq_lookup {members : List (String × Json)}
    (distinct : (members.map (·.1)).Nodup) (name : String) :
    (nest depth members).filter (·.1 = name) =
      ((members.lookup name).map fun value => (name, ⟨depth + 1, value⟩)).toList := by
  induction members with
  | nil => rfl
  | cons first rest ih =>
      obtain ⟨found, value⟩ := first
      obtain ⟨outside, distinct⟩ := List.nodup_cons.1 distinct
      have later := ih distinct
      rw [nest, List.map_cons, List.lookup_cons]
      by_cases here : found = name
      · subst here
        rw [lookup_eq_none outside] at later
        rw [List.filter_cons_of_pos (by simp), BEq.rfl]
        exact congrArg _ later
      · rw [List.filter_cons_of_neg (by simpa using here),
          beq_false_of_ne (Ne.symm here)]
        exact later

/-- What a rule is made of, once its parts have been looked up. -/
def Json.ruleOf? (fields : Fields Nested) : Option Rule := do
  let type ← fields.required "type" strict.word?
  if type = "global" then return .global
  else if type = "granular" then
    let verbs ← fields.withDefault "verbs" [] strict.verbs?
    return .granular verbs
  else none

/-- An object is decoded to a rule by its type and its verbs, wherever they stand. -/
theorem Json.rule?_record {members : List (String × Json)} (distinct : (members.map (·.1)).Nodup) :
    strict.rule? ⟨depth, record members⟩ =
      if strict.isSettled ⟨depth, record members⟩ then
        strict.fields? ["type", "verbs"] ⟨depth, record members⟩ >>= ruleOf?
      else none := by
  have sameType : Fields.required (nest depth (members.filter (·.1 ∈ ["type"]))) "type"
      strict.word? = Fields.required (nest depth (members.filter (·.1 ∈ ["type", "verbs"]))) "type"
      strict.word? := by
    rw [Fields.required, Fields.required, lookup_known, lookup_known]
    rfl
  have verbs : (nest depth (members.filter (·.1 ∈ ["type", "verbs"]))).lookup "verbs" =
      (members.lookup "verbs").map (⟨depth + 1, ·⟩) :=
    lookup_known _ _ _
  rw [Reading.rule?, members?_record, fields?_record _ distinct, fields?_record _ distinct]
  simp only [filter_eq_lookup distinct, Option.bind_eq_bind, Option.bind_some, ruleOf?, sameType,
    Fields.withDefault, verbs]
  split
  · cases members.lookup "verbs" <;> rfl
  · rfl

theorem Rule.keeps : Keeps Rule.shape strict.rule? := by
  intro depth value edited result fits edit read
  have kept := fits.edit edit
  obtain ⟨members, rfl⟩ := edit.exists_record fits
  obtain ⟨altered, rfl, _⟩ := edit.of_record fits
  rw [rule?_record fits.of_record.2.1] at read
  rw [rule?_record kept.of_record.2.1]
  split at read
  · next settled =>
    -- Only what makes sense as a whole is taken apart, and an edit keeps it so.
    have parts : KeepsFields Rule.shape ruleOf? := by
      refine .bind (.required rfl (.leaf _)) fun word => ?_
      split
      · exact .const _
      · split
        · exact .bind (.withDefault rfl (.list (.leaf _)) fun _ => rfl) fun _ => .const _
        · exact .const _
    rw [if_pos (edit.isSettled settled)]
    exact Keeps.record _ parts fits edit read
  · cases read

theorem Rule.isSettled (rule : Rule) (room : depth + 2 ≤ heightLimit) :
    strict.isSettled ⟨depth, rule.toJson⟩ = true := by
  have scalar (name : String) : strict.isSettled ⟨depth + 1, text name⟩ = true :=
    isSettled_iff.2 ⟨rfl, by simp only [text, height]; omega⟩
  cases rule with
  | global =>
      exact isSettled_record_iff.2 ⟨by omega, List.forall_mem_singleton.2 (scalar _)⟩
  | granular verbs =>
      refine isSettled_record_iff.2 ⟨by omega, List.forall_mem_cons.2 ⟨scalar _,
        List.forall_mem_singleton.2 (isSettled_array_iff.2 ⟨by omega, ?_⟩)⟩⟩
      exact List.forall_mem_map.2 fun verb _ => isSettled_iff.2 ⟨rfl, room⟩

theorem Rule.roundTrips : RoundTrips Rule.shape 2 Rule.toJson strict.rule? where
  fits
    | .global => .record (by decide) (List.forall_mem_singleton.2 (.scalar rfl))
    | .granular verbs => fits_record rfl (by decide) ⟨.scalar rfl, RoundTrips.texts.fits verbs⟩
  reads {depth} rule room := by
    have settled := rule.isSettled room
    cases rule with
    | global =>
        rw [Rule.toJson] at settled ⊢
        rw [rule?_record (by decide), if_pos settled, fields?_record _ (by decide)]
        rfl
    | granular verbs =>
        rw [Rule.toJson] at settled ⊢
        rw [rule?_record (by simp), if_pos settled]
        refine read_record rfl (by decide) ?_
        change (strict.verbs? ⟨depth + 1, texts verbs⟩ >>= fun verbs => some (granular verbs)) = _
        rw [RoundTrips.verbs.reads verbs (by omega)]
        rfl
  keeps := Rule.keeps

/-! ### Every resource round-trips -/

theorem Rate.roundTrips : RoundTrips Rate.shape 1 Rate.toJson strict.rate? where
  fits rate := fits_record rfl (by decide) ⟨.scalar rfl, RoundTrips.optionalUnit.fits _⟩
  reads rate room := by
    refine read_record rfl (by decide) ?_
    simp (disch := omega) [nest, Fields.withDefault, List.lookup_cons, RoundTrips.amount.reads,
      RoundTrips.optionalUnit.reads]
  keeps :=
    .record _ (.bind (.withDefault rfl (.leaf _) fun _ => rfl) fun _ =>
      .bind (.withDefault rfl (.leaf _) fun _ => rfl) fun _ => .const _)

theorem SubpathRule.roundTrips :
    RoundTrips SubpathRule.shape 3 SubpathRule.toJson strict.subpathRule? where
  fits subpath := fits_record rfl (by decide) ⟨.scalar rfl, Rule.roundTrips.fits _⟩
  reads subpath room := by
    refine read_record rfl (by decide) ?_
    simp (disch := omega) [nest, Fields.required, List.lookup_cons, RoundTrips.text.reads,
      Rule.roundTrips.reads]
  keeps :=
    .record _ (.bind (.required rfl (.leaf _)) fun _ =>
      .bind (.required rfl Rule.roundTrips.keeps) fun _ => .const _)

theorem PermissionEntry.roundTrips :
    RoundTrips PermissionEntry.shape 5 PermissionEntry.toJson strict.permission? where
  fits entry := fits_record rfl (by decide)
    ⟨.scalar rfl, Rule.roundTrips.fits _, SubpathRule.roundTrips.list.fits _,
      (Rate.roundTrips.optional fun _ _ => rfl).fits _⟩
  reads entry room := by
    refine read_record rfl (by decide) ?_
    simp (disch := omega) [nest, Fields.required, Fields.withDefault, List.lookup_cons,
      RoundTrips.text.reads, Rule.roundTrips.reads, SubpathRule.roundTrips.list.reads,
      (Rate.roundTrips.optional fun _ _ => rfl).reads]
  keeps :=
    .record _ (.bind (.required rfl (.leaf _)) fun _ =>
      .bind (.required rfl Rule.roundTrips.keeps) fun _ =>
      .bind (.withDefault rfl SubpathRule.roundTrips.list.keeps fun _ => rfl) fun _ =>
      .bind (.withDefault rfl (.option Rate.roundTrips.keeps) fun _ => rfl) fun _ => .const _)

theorem Json.keeps_resourceName {shape : Shape}
    (name : shape.field? "name" = some (none, .leaf))
    (space : shape.field? "namespace" = some (none, .leaf)) :
    KeepsFields shape strict.resourceName? :=
  .bind (.required name (.leaf _)) fun _ => .bind (.required space (.leaf _)) fun _ => .const _

theorem Binding.roundTrips : RoundTrips Binding.shape 7 Binding.toJson strict.binding? where
  fits binding := fits_record rfl (by decide)
    ⟨.scalar rfl, .scalar rfl, PermissionEntry.roundTrips.list.fits _⟩
  reads binding room := by
    refine read_record rfl (by decide) ?_
    simp (disch := omega) [nest, Reading.resourceName?, Fields.required, Fields.withDefault,
      List.lookup_cons, RoundTrips.text.reads, PermissionEntry.roundTrips.list.reads]
  keeps :=
    .record _ (.bind (keeps_resourceName rfl rfl) fun _ =>
      .bind (.withDefault rfl PermissionEntry.roundTrips.list.keeps fun _ => rfl) fun _ => .const _)

theorem Credential.roundTrips :
    RoundTrips Credential.shape 2 Credential.toJson strict.credential? where
  fits credential := fits_record rfl (by decide)
    ⟨.scalar rfl, .scalar rfl, RoundTrips.texts.fits _⟩
  reads credential room := by
    refine read_record rfl (by decide) ?_
    simp (disch := omega) [nest, Reading.resourceName?, Fields.required, Fields.withDefault,
      List.lookup_cons, RoundTrips.text.reads, RoundTrips.texts.reads]
  keeps :=
    .record _ (.bind (keeps_resourceName rfl rfl) fun _ =>
      .bind (.withDefault rfl .texts fun _ => rfl) fun _ => .const _)

theorem Route.roundTrips : RoundTrips Route.shape 2 Route.toJson strict.route? where
  fits route := fits_record rfl (by decide)
    ⟨.scalar rfl, .scalar rfl, .scalar rfl, RoundTrips.optionalText.fits _, .scalar rfl,
      .scalar rfl, .scalar rfl, RoundTrips.texts.fits _, RoundTrips.optionalText.fits _,
      .scalar rfl⟩
  reads route room := by
    refine read_record rfl (by decide) ?_
    simp (disch := omega) [nest, Reading.resourceName?, Fields.required, Fields.withDefault,
      List.lookup_cons, RoundTrips.text.reads, RoundTrips.optionalText.reads,
      RoundTrips.flag.reads, RoundTrips.texts.reads]
  keeps :=
    .record _ (.bind (keeps_resourceName rfl rfl) fun _ =>
      .bind (.required rfl (.leaf _)) fun _ =>
      .bind (.withDefault rfl (.leaf _) fun _ => rfl) fun _ =>
      .bind (.withDefault rfl (.leaf _) fun _ => rfl) fun _ =>
      .bind (.required rfl (.leaf _)) fun _ =>
      .bind (.withDefault rfl (.leaf _) fun _ => rfl) fun _ =>
      .bind (.withDefault rfl .texts fun _ => rfl) fun _ =>
      .bind (.withDefault rfl (.leaf _) fun _ => rfl) fun _ =>
      .bind (.withDefault rfl (.leaf _) fun _ => rfl) fun _ => .const _)

theorem MockRoute.roundTrips :
    RoundTrips MockRoute.shape 2 MockRoute.toJson strict.mockRoute? where
  fits route := fits_record rfl (by decide)
    ⟨.scalar rfl, .scalar rfl, RoundTrips.texts.fits _, Headers.roundTrips.fits _, .scalar rfl⟩
  reads route room := by
    refine read_record rfl (by decide) ?_
    simp (disch := omega) [nest, Fields.required, Fields.withDefault, List.lookup_cons,
      RoundTrips.text.reads, RoundTrips.status.reads, RoundTrips.texts.reads,
      Headers.roundTrips.reads]
  keeps :=
    .record _ (.bind (.required rfl (.leaf _)) fun _ =>
      .bind (.withDefault rfl (.leaf _) fun _ => rfl) fun _ =>
      .bind (.withDefault rfl .texts fun _ => rfl) fun _ =>
      .bind (.withDefault rfl Headers.keeps fun _ => rfl) fun _ =>
      .bind (.withDefault rfl (.leaf _) fun _ => rfl) fun _ => .const _)

theorem MockTarget.roundTrips :
    RoundTrips MockTarget.shape 4 MockTarget.toJson strict.mockTarget? where
  fits target := fits_record rfl (by decide)
    ⟨.scalar rfl, .scalar rfl, MockRoute.roundTrips.list.fits _⟩
  reads target room := by
    refine read_record rfl (by decide) ?_
    simp (disch := omega) [nest, Reading.resourceName?, Fields.required, Fields.withDefault,
      List.lookup_cons, RoundTrips.text.reads, MockRoute.roundTrips.list.reads]
  keeps :=
    .record _ (.bind (keeps_resourceName rfl rfl) fun _ =>
      .bind (.withDefault rfl MockRoute.roundTrips.list.keeps fun _ => rfl) fun _ => .const _)

theorem Manifest.roundTrips : RoundTrips Manifest.shape 9 Manifest.toJson strict.manifest? where
  fits manifest := fits_record rfl (by decide)
    ⟨Route.roundTrips.list.fits _, Binding.roundTrips.list.fits _,
      Credential.roundTrips.list.fits _, MockTarget.roundTrips.list.fits _⟩
  reads manifest room := by
    refine read_record rfl (by decide) ?_
    simp (disch := omega) [nest, Fields.withDefault, List.lookup_cons,
      Route.roundTrips.list.reads, Binding.roundTrips.list.reads,
      Credential.roundTrips.list.reads, MockTarget.roundTrips.list.reads]
  keeps :=
    .record _ (.bind (.withDefault rfl Route.roundTrips.list.keeps fun _ => rfl) fun _ =>
      .bind (.withDefault rfl Binding.roundTrips.list.keeps fun _ => rfl) fun _ =>
      .bind (.withDefault rfl Credential.roundTrips.list.keeps fun _ => rfl) fun _ =>
      .bind (.withDefault rfl MockTarget.roundTrips.list.keeps fun _ => rfl) fun _ => .const _)

theorem Settings.roundTrips : RoundTrips Settings.shape 1 Settings.toJson strict.settings? where
  fits settings := fits_record rfl (by decide)
    ⟨.scalar rfl, .scalar rfl, RoundTrips.optionalText.fits _, .scalar rfl⟩
  reads settings room := by
    refine read_record rfl (by decide) ?_
    simp (disch := omega) [nest, Fields.withDefault, List.lookup_cons, RoundTrips.text.reads,
      RoundTrips.flag.reads, RoundTrips.optionalText.reads, RoundTrips.millis.reads]
  keeps :=
    .record _ (.bind (.withDefault rfl (.leaf _) fun _ => rfl) fun _ =>
      .bind (.withDefault rfl (.leaf _) fun _ => rfl) fun _ =>
      .bind (.withDefault rfl (.leaf _) fun _ => rfl) fun _ =>
      .bind (.withDefault rfl (.leaf _) fun _ => rfl) fun _ => .const _)

/-! ### All of them -/

/-- The types that are written and read as JSON. -/
inductive Schema where
  | route
  | rule
  | rate
  | subpathRule
  | permission
  | binding
  | credential
  | mockRoute
  | mockTarget
  | manifest
  | settings
  deriving DecidableEq, Repr

namespace Schema

/-- The values of a type. -/
def Value : Schema → Type
  | route => Route
  | rule => Rule
  | rate => Rate
  | subpathRule => SubpathRule
  | permission => PermissionEntry
  | binding => Binding
  | credential => Credential
  | mockRoute => MockRoute
  | mockTarget => MockTarget
  | manifest => Manifest
  | settings => Settings

/-- How values are written. -/
def encode : (schema : Schema) → schema.Value → Json
  | route => Route.toJson
  | rule => Rule.toJson
  | rate => Rate.toJson
  | subpathRule => SubpathRule.toJson
  | permission => PermissionEntry.toJson
  | binding => Binding.toJson
  | credential => Credential.toJson
  | mockRoute => MockRoute.toJson
  | mockTarget => MockTarget.toJson
  | manifest => Manifest.toJson
  | settings => Settings.toJson

/-- How values are read. -/
def decode : (schema : Schema) → Nested → Option schema.Value
  | route => strict.route?
  | rule => strict.rule?
  | rate => strict.rate?
  | subpathRule => strict.subpathRule?
  | permission => strict.permission?
  | binding => strict.binding?
  | credential => strict.credential?
  | mockRoute => strict.mockRoute?
  | mockTarget => strict.mockTarget?
  | manifest => strict.manifest?
  | settings => strict.settings?

/-- The fields of a type with their defaults. -/
def shape : Schema → Shape
  | route => Route.shape
  | rule => Rule.shape
  | rate => Rate.shape
  | subpathRule => SubpathRule.shape
  | permission => PermissionEntry.shape
  | binding => Binding.shape
  | credential => Credential.shape
  | mockRoute => MockRoute.shape
  | mockTarget => MockTarget.shape
  | manifest => Manifest.shape
  | settings => Settings.shape

theorem roundTrips (schema : Schema) :
    RoundTrips schema.shape heightLimit schema.encode schema.decode := by
  cases schema with
  | route => exact Route.roundTrips.mono (by decide)
  | rule => exact Rule.roundTrips.mono (by decide)
  | rate => exact Rate.roundTrips.mono (by decide)
  | subpathRule => exact SubpathRule.roundTrips.mono (by decide)
  | permission => exact PermissionEntry.roundTrips.mono (by decide)
  | binding => exact Binding.roundTrips.mono (by decide)
  | credential => exact Credential.roundTrips.mono (by decide)
  | mockRoute => exact MockRoute.roundTrips.mono (by decide)
  | mockTarget => exact MockTarget.roundTrips.mono (by decide)
  | manifest => exact Manifest.roundTrips.mono (by decide)
  | settings => exact Settings.roundTrips.mono (by decide)

/-- The text of a value is read as the value, also when members have been reordered and defaults
left out, at any depth. -/
theorem parse?_of_edits (schema : Schema) (value : schema.Value) {document : Json}
    (edits : Relation.ReflTransGen (Edit schema.shape) (schema.encode value) document) :
    parse? schema.decode document.render = some value := by
  rw [parse?, read?_render, Option.bind_some]
  exact schema.roundTrips.reads_of_edits (Nat.le_refl _) edits

/-- A permission without its rate and its subpaths, whose rule stands first and tells its type
last. -/
theorem parse?_of_edits_typeLast :
    parse? strict.permission?
        (record
          [("defaultRule", record [("verbs", texts ["GET"]), ("type", text "granular")]),
            ("credentialName", text "zoë\n\"")]).render =
      some { credential := "zoë\n\"", defaultRule := .granular ["GET"] } :=
  parse?_of_edits .permission { credential := "zoë\n\"", defaultRule := .granular ["GET"] }
    (.head (@Edit.drop _ "rate" .null [_, _, _] [] rfl)
      (.head (@Edit.drop _ "subpaths" (.array []) [_, _] [] rfl)
        (.head (@Edit.member _ "defaultRule" _ _ [_] [] (.reorder (.swap _ _ _)))
          (.single (.reorder (.swap _ _ _))))))

end Schema

end Tollgate
