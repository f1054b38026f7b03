import Mathlib.Logic.Relation
import Tollgate.Path

/-!
# Segments of normalized paths

The normal spelling of a path reads back as the non-empty pieces of the path, so a value stored
under the normal spelling and a walk along the raw text meet at one address.
-/

namespace Tollgate.Path

theorem slash_notMem_of_mem_pieces {text piece : List Char} (member : piece ∈ pieces text) :
    '/' ∉ piece := by
  induction text generalizing piece with
  | nil => simp_all
  | cons c rest ih =>
      unfold pieces at member
      split at member
      · rcases List.mem_cons.mp member with rfl | later
        · exact List.not_mem_nil
        · exact ih later
      · next other =>
        cases split : pieces rest with
        | nil => exact absurd split (pieces_ne_nil rest)
        | cons first others =>
            rw [split] at member ih
            rcases List.mem_cons.mp member with rfl | later
            · rw [List.mem_cons, not_or]
              exact ⟨fun same => other same.symm, ih List.mem_cons_self⟩
            · exact ih (List.mem_cons_of_mem first later)

/-- A part is not empty and has no slash in it. -/
theorem part_spells {path part : String} (member : part ∈ parts path) :
    part.toList ≠ [] ∧ '/' ∉ part.toList := by
  rcases List.mem_map.mp member with ⟨piece, found, rfl⟩
  rcases List.mem_filter.mp found with ⟨cut, nonempty⟩
  rw [String.toList_ofList]
  exact ⟨of_decide_eq_true nonempty, slash_notMem_of_mem_pieces cut⟩

theorem pieces_of_slash_notMem {text : List Char} (whole : '/' ∉ text) : pieces text = [text] := by
  induction text with
  | nil => rfl
  | cons c rest ih =>
      rw [List.mem_cons, not_or] at whole
      rw [pieces, if_neg (Ne.symm whole.1), ih whole.2]

/-- A slash cuts what stands on its two sides apart. -/
theorem pieces_append_slash (first rest : List Char) :
    pieces (first ++ '/' :: rest) = pieces first ++ pieces rest := by
  induction first with
  | nil => simp
  | cons c first ih =>
      rw [List.cons_append, pieces, pieces]
      split
      · rw [ih, List.cons_append]
      · rw [ih]
        cases cut : pieces first with
        | nil => exact absurd cut (pieces_ne_nil first)
        | cons piece others => rfl

/-- Cutting what was spelled gives the parts back. -/
theorem pieces_append_spell {text : List Char} (whole : '/' ∉ text) {parts : List String}
    (slashless : ∀ part ∈ parts, '/' ∉ part.toList) :
    pieces (text ++ spell parts) = text :: parts.map String.toList := by
  induction parts generalizing text with
  | nil => simpa using pieces_of_slash_notMem whole
  | cons part parts ih =>
      rw [List.forall_mem_cons] at slashless
      rw [spell_cons, pieces_append_slash, pieces_of_slash_notMem whole,
        ih slashless.1 slashless.2]
      rfl

/-- The cut at the slashes is that of lists at an element. -/
theorem pieces_eq_splitOn (text : List Char) : pieces text = text.splitOn '/' := by
  induction text with
  | nil => rfl
  | cons c rest ih =>
      rw [List.splitOn, List.splitOnP_cons_eq_if_modifyHead, ← List.splitOn, ← ih, pieces]
      by_cases slash : c = '/'
      · simp [slash]
      · cases cut : pieces rest with
        | nil => exact absurd cut (pieces_ne_nil rest)
        | cons first others => simp [slash]

/-- The non-empty words between the slashes of a path. -/
def words (path : String) : List String :=
  ((path.toList.splitOn '/').filter (· ≠ [])).map String.ofList

theorem parts_eq_words (path : String) : parts path = words path := by
  rw [parts, words, pieces_eq_splitOn]

/-! ## Normal spellings -/

/-- Words that a path can have as its parts: none is empty or has a slash in it. -/
def Clean (words : List String) : Prop :=
  ∀ word ∈ words, word.toList ≠ [] ∧ '/' ∉ word.toList

theorem clean_parts (path : String) : Clean (parts path) :=
  fun _ member => part_spells member

theorem Clean.append {words others : List String} (clean : Clean words) (more : Clean others) :
    Clean (words ++ others) :=
  List.forall_mem_append.mpr ⟨clean, more⟩

theorem Clean.drop {words : List String} (clean : Clean words) (count : Nat) :
    Clean (words.drop count) :=
  fun word member => clean word (List.mem_of_mem_drop member)

/-- The one spelling of the path with these parts. -/
def ofParts : List String → String
  | [] => "/"
  | first :: others => String.ofList (spell (first :: others))

theorem normalize_eq_ofParts (path : String) : normalize path = ofParts (parts path) := by
  unfold normalize
  cases parts path <;> rfl

theorem toList_ofParts {words : List String} (nonempty : words ≠ []) :
    (ofParts words).toList = spell words := by
  cases words with
  | nil => contradiction
  | cons first others => rw [ofParts, String.toList_ofList]

/-- The parts of a spelling are the words that it spells. -/
theorem Clean.parts_ofParts {words : List String} (clean : Clean words) :
    parts (ofParts words) = words := by
  cases words with
  | nil => rfl
  | cons first others =>
      have cut : pieces (spell (first :: others)) = [] :: (first :: others).map String.toList :=
        pieces_append_spell List.not_mem_nil fun word member => (clean word member).2
      have kept : ((first :: others).map String.toList).filter (· ≠ []) =
          (first :: others).map String.toList := by
        apply List.filter_eq_self.mpr
        intro piece member
        obtain ⟨word, found, rfl⟩ := List.mem_map.mp member
        exact decide_eq_true (clean word found).1
      rw [parts, toList_ofParts (List.cons_ne_nil first others), cut,
        List.filter_cons_of_neg (by simp), kept, List.map_map]
      simp [Function.comp_def]

/-- So are its segments, empty ones included. -/
theorem Clean.segments_ofParts {words : List String} (clean : Clean words) :
    segments (ofParts words) = words := by
  cases words with
  | nil => rfl
  | cons first others =>
      obtain ⟨⟨nonempty, whole⟩, rest⟩ := List.forall_mem_cons.mp clean
      have cut := pieces_append_spell whole fun word member => (rest word member).2
      simp [segments, ofParts, cut, nonempty, Function.comp_def]

/-- A spelling is normal already. -/
theorem Clean.normalize_ofParts {words : List String} (clean : Clean words) :
    normalize (ofParts words) = ofParts words := by
  rw [normalize_eq_ofParts, clean.parts_ofParts]

/-- The normal spelling has the parts of the path. -/
@[simp]
theorem parts_normalize (path : String) : parts (normalize path) = parts path := by
  rw [normalize_eq_ofParts, (clean_parts path).parts_ofParts]

@[simp]
theorem normalize_normalize (path : String) : normalize (normalize path) = normalize path := by
  rw [normalize_eq_ofParts, parts_normalize, normalize_eq_ofParts]

/-- The segments of the normal spelling are the parts of the path. -/
theorem normalizedSegments_eq_parts (path : String) : normalizedSegments path = parts path := by
  rw [normalizedSegments, normalize_eq_ofParts, (clean_parts path).segments_ofParts]

theorem parts_eq_of_normalize_eq {path other : String} (same : normalize path = normalize other) :
    parts path = parts other := by
  rw [← parts_normalize path, same, parts_normalize]

/-- Two paths have one normal spelling exactly when they have the same segments. -/
theorem normalize_eq_iff {path other : String} :
    normalize path = normalize other ↔ normalizedSegments path = normalizedSegments other := by
  rw [normalizedSegments_eq_parts, normalizedSegments_eq_parts]
  constructor
  · exact parts_eq_of_normalize_eq
  · intro same
    rw [normalize_eq_ofParts, normalize_eq_ofParts, same]

/-- A normal spelling begins with a slash. -/
theorem exists_toList_normalize (path : String) :
    ∃ rest, (normalize path).toList = '/' :: rest := by
  rw [normalize_eq_ofParts]
  cases parts path with
  | nil => exact ⟨[], rfl⟩
  | cons first others =>
      rw [toList_ofParts (List.cons_ne_nil first others), spell_cons]
      exact ⟨_, rfl⟩

/-- The normal spelling of a path with parts is cut into them, behind an empty first piece. -/
theorem pieces_normalize {path : String} (used : parts path ≠ []) :
    pieces (normalize path).toList = [] :: (parts path).map String.toList := by
  rw [normalize_eq_ofParts, toList_ofParts used, ← List.nil_append (spell (parts path))]
  exact pieces_append_spell List.not_mem_nil fun part member => (part_spells member).2

/-- Behind every slash of a normal spelling a part begins, unless it is the lone slash of the
root. -/
theorem nil_notMem_pieces_of_normalize {path : String} (used : parts path ≠ [])
    {before rest : List Char} (split : (normalize path).toList = before ++ '/' :: rest) :
    [] ∉ pieces rest := by
  have cut := pieces_normalize used
  rw [split, pieces_append_slash] at cut
  cases lead : pieces before with
  | nil => exact absurd lead (pieces_ne_nil before)
  | cons piece others =>
      rw [lead, List.cons_append, List.cons.injEq] at cut
      intro hollow
      have listed : [] ∈ (parts path).map String.toList :=
        cut.2 ▸ List.mem_append_right others hollow
      obtain ⟨part, member, empty⟩ := List.mem_map.mp listed
      exact (part_spells member).1 empty

/-- No slash of a normal spelling stands beside another. -/
theorem not_doubled_normalize (path : String) : ¬['/', '/'] <:+: (normalize path).toList := by
  rintro ⟨before, after, split⟩
  by_cases root : parts path = []
  · have short := congrArg List.length split
    rw [normalize_eq_ofParts, root] at short
    simp [ofParts] at short
    omega
  · have cut : (normalize path).toList = before ++ '/' :: '/' :: after := by
      simpa using split.symm
    apply nil_notMem_pieces_of_normalize root cut
    rw [pieces_slash]
    exact List.mem_cons_self

/-- Only the root is spelled with a slash at its end. -/
theorem normalize_ends_in_slash_iff (path : String) :
    (normalize path).toList.getLast? = some '/' ↔ normalize path = "/" := by
  constructor
  · intro last
    by_cases root : parts path = []
    · rw [normalize_eq_ofParts, root, ofParts]
    · obtain ⟨before, split⟩ := List.getLast?_eq_some_iff.mp last
      refine absurd ?_ (nil_notMem_pieces_of_normalize root split)
      rw [pieces_nil]
      exact List.mem_cons_self
  · intro root
    rw [root]
    rfl

/-! ## Idle slashes -/

/-- Leaving one slash out of a path that cuts nothing off: a leading one, a trailing one, or one
beside another. -/
inductive DropsSlash : List Char → List Char → Prop where
  | leading (text : List Char) : DropsSlash ('/' :: text) text
  | trailing (text : List Char) : DropsSlash (text ++ ['/']) text
  | doubled (before after : List Char) :
      DropsSlash (before ++ '/' :: '/' :: after) (before ++ '/' :: after)

/-- Two texts that differ in idle slashes alone. -/
abbrev SameUpToSlashes : List Char → List Char → Prop :=
  Relation.EqvGen DropsSlash

theorem parts_append_slash (first rest : List Char) :
    parts (String.ofList (first ++ '/' :: rest)) =
      parts (String.ofList first) ++ parts (String.ofList rest) := by
  simp [parts, pieces_append_slash]

theorem parts_of_word {word : List Char} (whole : '/' ∉ word) (nonempty : word ≠ []) :
    parts (String.ofList word) = [String.ofList word] := by
  simp [parts, pieces_of_slash_notMem whole, nonempty]

@[simp]
theorem parts_blank : parts "" = [] := by
  simp [parts]

/-- A normal spelling cuts off what stands before it. -/
theorem parts_append_normalize (path other : String) :
    parts (path ++ normalize other) = parts path ++ parts other := by
  have led : ∃ rest, normalize other = String.ofList ('/' :: rest) := by
    rw [normalize_eq_ofParts]
    cases parts other with
    | nil => exact ⟨[], rfl⟩
    | cons first others => exact ⟨_, by rw [ofParts, spell_cons]⟩
  obtain ⟨rest, spelled⟩ := led
  have same : parts other = parts (String.ofList rest) := by
    rw [← parts_normalize, spelled]
    exact parts_append_slash [] rest
  rw [same, spelled, ← String.ofList_toList (s := path), ← String.ofList_append,
    parts_append_slash]

theorem parts_of_dropsSlash {text shorter : List Char} (drops : DropsSlash text shorter) :
    parts (String.ofList text) = parts (String.ofList shorter) := by
  cases drops with
  | leading => exact parts_append_slash [] shorter
  | trailing => rw [parts_append_slash]; exact List.append_nil _
  | doubled before after =>
      rw [parts_append_slash, parts_append_slash]
      exact congrArg _ (parts_append_slash [] after)

/-- A text behind a slash is its parts, each behind one slash, up to idle slashes.  The word that
is being read stands between the text that is done and the text to come. -/
theorem sameUpToSlashes_spell (before word text : List Char) (whole : '/' ∉ word) :
    SameUpToSlashes (before ++ '/' :: word ++ text)
      (before ++ spell (parts (String.ofList (word ++ text)))) := by
  induction text generalizing before word with
  | nil =>
      by_cases nonempty : word = []
      · subst nonempty
        simpa using Relation.EqvGen.rel _ _ (DropsSlash.trailing before)
      · rw [List.append_nil, List.append_nil, parts_of_word whole nonempty]
        simpa using Relation.EqvGen.refl _
  | cons c rest ih =>
      by_cases slash : c = '/'
      · subst slash
        rw [parts_append_slash]
        by_cases nonempty : word = []
        · subst nonempty
          have doubled : SameUpToSlashes (before ++ '/' :: '/' :: rest) (before ++ '/' :: rest) :=
            .rel _ _ (.doubled before rest)
          have spelled : SameUpToSlashes (before ++ '/' :: rest)
              (before ++ spell (parts (String.ofList rest))) := by
            simpa using ih before [] List.not_mem_nil
          simpa using doubled.trans _ _ _ spelled
        · rw [parts_of_word whole nonempty]
          simpa using ih (before ++ '/' :: word) [] List.not_mem_nil
      · have longer : '/' ∉ word ++ [c] := by
          simp [whole, Ne.symm slash]
        simpa using ih before (word ++ [c]) longer

/-- Two paths have the same segments exactly when they differ in idle slashes alone. -/
theorem normalizedSegments_eq_iff {path other : String} :
    normalizedSegments path = normalizedSegments other ↔
      SameUpToSlashes path.toList other.toList := by
  rw [normalizedSegments_eq_parts, normalizedSegments_eq_parts]
  constructor
  · intro same
    have spelled : ∀ path : String, SameUpToSlashes path.toList (spell (parts path)) := by
      intro path
      refine .trans _ _ _ (.symm _ _ (.rel _ _ (.leading path.toList))) ?_
      simpa using sameUpToSlashes_spell [] [] path.toList List.not_mem_nil
    refine (spelled path).trans _ _ _ ?_
    rw [same]
    exact (spelled other).symm
  · intro alike
    rw [← String.ofList_toList (s := path), ← String.ofList_toList (s := other)]
    generalize path.toList = text at alike ⊢
    generalize other.toList = last at alike ⊢
    induction alike with
    | rel _ _ drops => exact parts_of_dropsSlash drops
    | refl _ => rfl
    | symm _ _ _ ih => exact ih.symm
    | trans _ _ _ _ _ first second => exact first.trans second

end Tollgate.Path
