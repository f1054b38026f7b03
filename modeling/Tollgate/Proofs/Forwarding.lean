import Tollgate.Resource.Route
import Tollgate.Proofs.Segments
import Mathlib.Tactic.ByContra

/-!
# Forwarded paths

A forwarded path is meant to be the normal spelling of the target's segments followed by what the
request has beyond the source.  The rewriting works on texts: a source covers a request that ends
behind it or goes on with a slash.  Between normal spellings this is the case exactly when the
segments of the source begin those of the request.
-/

namespace Tollgate

namespace Path

/-- A text at whose beginning a word may end. -/
def Bounded (text : List Char) : Prop :=
  text = [] ∨ ∃ rest, text = '/' :: rest

theorem bounded_spell (words : List String) : Bounded (spell words) := by
  cases words with
  | nil => exact .inl rfl
  | cons word words => exact .inr ⟨_, spell_cons word words⟩

theorem Bounded.spell_append {rest : List Char} (bounded : Bounded rest) (words : List String) :
    Bounded (spell words ++ rest) := by
  cases words with
  | nil => exact bounded
  | cons word words => exact .inr ⟨_, by rw [spell_cons, List.cons_append]⟩

/-- A word ends where its text goes on with a slash. -/
theorem takeWhile_word {word text : List Char} (whole : '/' ∉ word) (bounded : Bounded text) :
    (word ++ text).takeWhile (· ≠ '/') = word := by
  rw [List.takeWhile_append_of_pos]
  · rcases bounded with rfl | ⟨rest, rfl⟩ <;> simp
  · intro c member
    apply decide_eq_true
    rintro rfl
    exact whole member

theorem word_inj {word other text rest : List Char} (whole : '/' ∉ word) (otherWhole : '/' ∉ other)
    (bounded : Bounded text) (otherBounded : Bounded rest)
    (same : word ++ text = other ++ rest) : word = other ∧ text = rest := by
  have words : word = other := by
    rw [← takeWhile_word whole bounded, same, takeWhile_word otherWhole otherBounded]
  subst words
  exact ⟨rfl, List.append_cancel_left same⟩

/-- A spelling begins with another one, up to the end of a word, exactly when its words begin with
the words of the other. -/
theorem spell_eq_append_iff {source request : List String} (sourceClean : Clean source)
    (requestClean : Clean request) {rest : List Char} (bounded : Bounded rest) :
    spell request = spell source ++ rest ↔
      ∃ beyond, request = source ++ beyond ∧ rest = spell beyond := by
  induction source generalizing request with
  | nil => simp [eq_comm]
  | cons word source ih =>
      rw [Clean, List.forall_mem_cons] at sourceClean
      cases request with
      | nil => simp
      | cons other request =>
          rw [Clean, List.forall_mem_cons] at requestClean
          rw [spell_cons, spell_cons, List.cons_append, List.cons_inj_right, List.append_assoc]
          constructor
          · intro same
            -- Both first words end where their texts go on with a slash or stop, so they are one.
            obtain ⟨words, texts⟩ := word_inj requestClean.1.2 sourceClean.1.2
              (bounded_spell request) (bounded.spell_append source) same
            obtain ⟨beyond, rfl, left⟩ := (ih sourceClean.2 requestClean.2).mp texts
            rw [String.ext words]
            exact ⟨beyond, rfl, left⟩
          · rintro ⟨beyond, begins, left⟩
            obtain ⟨rfl, rfl⟩ := List.cons.inj begins
            rw [(ih sourceClean.2 requestClean.2).mpr ⟨beyond, rfl, left⟩]

/-- The normal spelling of a path begins with that of some words, up to the end of one, exactly
when the parts of the path begin with the words. -/
theorem toList_normalize_eq_append_iff {source : List String} (clean : Clean source)
    (nonempty : source ≠ []) (request : String) {rest : List Char} (bounded : Bounded rest) :
    (normalize request).toList = spell source ++ rest ↔
      ∃ beyond, parts request = source ++ beyond ∧ rest = spell beyond := by
  rw [normalize_eq_ofParts]
  cases split : parts request with
  | nil =>
      -- The root is spelled with a slash of its own, and no word of the source is empty.
      cases source with
      | nil => contradiction
      | cons word source =>
          have long : word.toList ≠ [] := (clean word List.mem_cons_self).1
          simp [ofParts, long]
  | cons first others =>
      have requestClean : Clean (first :: others) := split ▸ clean_parts request
      rw [toList_ofParts (List.cons_ne_nil first others)]
      exact spell_eq_append_iff clean requestClean bounded

theorem normalize_eq_slash_iff {path : String} : normalize path = "/" ↔ parts path = [] := by
  rw [normalize_eq_ofParts]
  constructor
  · intro root
    rw [← (clean_parts path).parts_ofParts, root]
    rfl
  · intro bare
    rw [bare]
    rfl

/-- Spelling some words behind others spells all of them. -/
theorem ofParts_append {target : List String} (nonempty : target ≠ []) (beyond : List String) :
    ofParts target ++ String.ofList (spell beyond) = ofParts (target ++ beyond) := by
  apply String.toList_inj.mp
  rw [String.toList_append, String.toList_ofList, toList_ofParts nonempty,
    toList_ofParts (List.append_ne_nil_of_left_ne_nil nonempty beyond)]
  exact (List.flatMap_append).symm

end Path

namespace Route

open Tollgate.Path

/-- The parts of the target, and behind them those that a request has beyond the source. -/
def forwardParts (route : Route) (request : String) : List String :=
  parts route.targetPath ++ (parts request).drop (parts route.sourcePath).length

variable {route : Route} {request : String}

theorem clean_forwardParts : Clean (route.forwardParts request) :=
  (clean_parts route.targetPath).append ((clean_parts request).drop _)

/-- Behind a root source the whole request is left. -/
theorem forwardParts_of_root (root : parts route.sourcePath = []) :
    route.forwardParts request = parts route.targetPath ++ parts request := by
  rw [forwardParts, root, List.length_nil, List.drop_zero]

/-- A source that is not the root covers a request exactly when its parts begin those of the
request; what the request has beyond it spells the other parts. -/
theorem beyond?_of_ne_root {source request : String} (inner : parts source ≠ []) :
    beyond? (normalize source) (normalize request) =
      if parts source <+: parts request then
        some (spell ((parts request).drop (parts source).length))
      else none := by
  have clean := clean_parts source
  have spelled : (normalize source).toList = spell (parts source) := by
    rw [normalize_eq_ofParts, toList_ofParts inner]
  rw [beyond?, if_neg (mt normalize_eq_slash_iff.mp inner), spelled]
  by_cases begins : parts source <+: parts request
  · obtain ⟨beyond, whole⟩ := begins
    have found : behind? (spell (parts source)) (normalize request).toList =
        some (spell beyond) := by
      rw [behind?_eq_some_iff, toList_normalize_eq_append_iff clean inner _ (bounded_spell beyond)]
      exact ⟨beyond, whole.symm, rfl⟩
    rw [found, ← whole, if_pos (List.prefix_append _ _), List.drop_left]
    cases beyond <;> simp
  · have refused : ∀ rest, Bounded rest →
        behind? (spell (parts source)) (normalize request).toList ≠ some rest := by
      intro rest bounded found
      rw [behind?_eq_some_iff, toList_normalize_eq_append_iff clean inner _ bounded] at found
      obtain ⟨beyond, whole, _⟩ := found
      exact begins ⟨beyond, whole.symm⟩
    rw [if_neg begins]
    split
    · next found => exact absurd found (refused [] (.inl rfl))
    · next rest found => exact absurd found (refused _ (.inr ⟨rest, rfl⟩))
    · rfl

/-- The rewriting finds the source in the request exactly when its parts begin those of the
request. -/
theorem isSome_beyond?_iff {source request : String} :
    (beyond? (normalize source) (normalize request)).isSome ↔ parts source <+: parts request := by
  by_cases root : parts source = []
  · rw [beyond?, if_pos (normalize_eq_slash_iff.mpr root), root]
    simp
  · rw [beyond?_of_ne_root root]
    split <;> simp [*]

/-- A request that the source does not cover is forwarded in its own normal spelling. -/
theorem forwardPath_of_uncovered
    (uncovered : ¬parts route.sourcePath <+: parts request) :
    route.forwardPath request = normalize request := by
  have inner : parts route.sourcePath ≠ [] := by
    intro root
    rw [root] at uncovered
    exact uncovered List.nil_prefix
  simp only [forwardPath, beyond?_of_ne_root inner, if_neg uncovered]

/-- Below the root the rest of a covered request is put behind the target. -/
theorem forwardPath_of_inner (inner : parts route.sourcePath ≠ [])
    (covered : parts route.sourcePath <+: parts request) :
    route.forwardPath request = ofParts (route.forwardParts request) := by
  rw [forwardParts]
  simp only [forwardPath, beyond?_of_ne_root inner, if_pos covered, normalize_eq_slash_iff]
  generalize (parts request).drop (parts route.sourcePath).length = beyond
  by_cases bare : parts route.targetPath = []
  · rw [if_pos bare, bare]
    cases beyond with
    | nil => rfl
    | cons word beyond =>
        rw [if_neg (by simp)]
        rfl
  · rw [if_neg bare, normalize_eq_ofParts, ofParts_append bare]

/-- The root source puts the normal spelling of the whole request behind the target. -/
theorem forwardPath_of_root (root : parts route.sourcePath = []) :
    route.forwardPath request =
      if parts route.targetPath = [] then normalize request
      else normalize route.targetPath ++ normalize request := by
  have whole : beyond? (normalize route.sourcePath) (normalize request) =
      some (normalize request).toList := by
    rw [beyond?, if_pos (normalize_eq_slash_iff.mpr root)]
  have spelled : (normalize request).toList ≠ [] := by
    rw [normalize_eq_ofParts]
    cases parts request <;> simp [ofParts]
  simp only [forwardPath, whole, normalize_eq_slash_iff, if_neg spelled, String.ofList_toList]

/-- What is forwarded of a covered request spells these parts, unless a root source leaves the lone
slash of a root request behind a target. -/
theorem forwardPath_of_covered (covered : parts route.sourcePath <+: parts request)
    (proper : parts route.sourcePath = [] → parts request = [] → parts route.targetPath = []) :
    route.forwardPath request = ofParts (route.forwardParts request) := by
  by_cases root : parts route.sourcePath = []
  · rw [forwardPath_of_root root, forwardParts_of_root root]
    split
    · next bare => rw [bare, List.nil_append, normalize_eq_ofParts]
    · next target =>
      have asked : parts request ≠ [] := mt (proper root) target
      have spelled : normalize request = String.ofList (spell (parts request)) := by
        rw [normalize_eq_ofParts, ← toList_ofParts asked, String.ofList_toList]
      rw [spelled, normalize_eq_ofParts, ofParts_append target]
  · exact forwardPath_of_inner root covered

/-- Its parts are these in every case. -/
theorem parts_forwardPath (covered : parts route.sourcePath <+: parts request) :
    parts (route.forwardPath request) = route.forwardParts request := by
  by_cases root : parts route.sourcePath = []
  · rw [forwardPath_of_root root, forwardParts_of_root root]
    split
    · next bare => rw [bare, List.nil_append, parts_normalize]
    · rw [parts_append_normalize, parts_normalize]
  · rw [forwardPath_of_inner root covered, clean_forwardParts.parts_ofParts]

/-- A root request that a root source forwards to another target has a slash too many. -/
theorem normalize_forwardPath_ne (root : parts route.sourcePath = []) (asked : parts request = [])
    (target : parts route.targetPath ≠ []) :
    normalize (route.forwardPath request) ≠ route.forwardPath request := by
  have trailing : route.forwardPath request = normalize route.targetPath ++ "/" := by
    rw [forwardPath_of_root root, if_neg target, normalize_eq_slash_iff.mpr asked]
  have trimmed : normalize (route.forwardPath request) = normalize route.targetPath := by
    rw [normalize_eq_ofParts, parts_forwardPath (root ▸ List.nil_prefix),
      forwardParts_of_root root, asked, List.append_nil, normalize_eq_ofParts]
  intro normal
  have longer := congrArg String.length (trimmed.symm.trans (normal.trans trailing))
  rw [String.length_append] at longer
  simp at longer

/-- What a route is meant to make of a request: a path in its normal spelling, with the segments
of the target in place of those of the source, or the request itself when the source does not
cover it. -/
structure Rewrites (route : Route) (request forwarded : String) : Prop where
  normal : normalize forwarded = forwarded
  covered : normalizedSegments route.sourcePath <+: normalizedSegments request →
    segments forwarded = normalizedSegments route.targetPath ++
      (normalizedSegments request).drop (normalizedSegments route.sourcePath).length
  uncovered : ¬normalizedSegments route.sourcePath <+: normalizedSegments request →
    forwarded = normalize request

/-- A route rewrites a request as it is meant, unless both the source and the request are the root
and the target is not: then a slash is left behind the target. -/
theorem rewrites_forwardPath_iff (route : Route) (request : String) :
    route.Rewrites request (route.forwardPath request) ↔
      (normalizedSegments route.sourcePath = [] → normalizedSegments request = [] →
        normalizedSegments route.targetPath = []) := by
  simp only [normalizedSegments_eq_parts]
  constructor
  · intro rewrites root asked
    by_contra target
    exact normalize_forwardPath_ne root asked target rewrites.normal
  · intro proper
    constructor
    case normal =>
      by_cases covered : parts route.sourcePath <+: parts request
      · rw [forwardPath_of_covered covered proper, clean_forwardParts.normalize_ofParts]
      · rw [forwardPath_of_uncovered covered, normalize_normalize]
    case covered =>
      simp only [normalizedSegments_eq_parts]
      intro covered
      rw [forwardPath_of_covered covered proper, clean_forwardParts.segments_ofParts, forwardParts]
    case uncovered =>
      simp only [normalizedSegments_eq_parts]
      exact forwardPath_of_uncovered

/-- A request for the root is not forwarded in a normal spelling. -/
theorem forwardPath_trails_slash :
    ¬∀ (route : Route) (request : String), route.Rewrites request (route.forwardPath request) := by
  intro claim
  have rewrites := claim
    { id := ⟨"default", "all"⟩, sourcePath := "/", targetPath := "/svc", backend := "one" } "/"
  have normal := rewrites.normal
  revert normal
  decide +kernel

end Route

end Tollgate
