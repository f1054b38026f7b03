import Tollgate.Json.Printer
import Tollgate.Json.Reader

/-!
# Reading back what was written

The reader takes the text of any value apart into this value: strings escape by escape, numbers
digit by digit, and arrays and objects by what stands between their brackets.  What follows the
text is left alone, as long as it does not go on with a number.
-/

namespace Tollgate.Json

/-! ## Strings -/

theorem places?_escape {letter meant : Char} (escapes : escaped? letter = some meant)
    (simple : letter ≠ 'u') (rest : List Char) :
    places? ('\\' :: letter :: rest) =
      (places? rest).map fun found => (.char meant :: found.1, found.2) := by
  rw [places?.eq_def]
  simp only [simple, escapes, if_false, if_true, Char.reduceEq]
  cases places? rest <;> rfl

theorem places?_unit {a b c d : Char} {value : Nat} (writes : hexNumber? [a, b, c, d] = some value)
    (rest : List Char) :
    places? ('\\' :: 'u' :: a :: b :: c :: d :: rest) =
      (places? rest).map fun found => (.unit value :: found.1, found.2) := by
  rw [places?.eq_def]
  simp only [writes, if_false, if_true, Char.reduceEq]
  cases places? rest <;> rfl

theorem places?_char {c : Char} (quote : c ≠ '"') (backslash : c ≠ '\\') (printable : ¬c.toNat < 32)
    (rest : List Char) :
    places? (c :: rest) = (places? rest).map fun found => (.char c :: found.1, found.2) := by
  rw [places?.eq_def]
  simp only [quote, backslash, printable, if_false]
  cases places? rest <;> rfl

/-- The place that a character is written as: a control character without a letter of its own is
written by its number. -/
def placeOf (c : Char) : Place :=
  if c.toNat < 32 ∧ c ∉ ['\n', '\r', '\t', '\x08', '\x0c'] then .unit c.toNat else .char c

theorem places?_quote (rest : List Char) : places? ('"' :: rest) = some ([], rest) := by
  rw [places?.eq_def]
  simp only [if_true]

theorem hexNumber?_hexDigit :
    ∀ code < 32, hexNumber? ['0', '0', hexDigit (code / 16), hexDigit (code % 16)] = some code := by
  decide

theorem places?_writeChar (c : Char) (rest : List Char) :
    places? (writeChar c ++ rest) =
      (places? rest).map fun found => (placeOf c :: found.1, found.2) := by
  unfold writeChar
  split
  · next same => subst c; exact places?_escape rfl (by decide) rest
  next quote =>
  split
  · next same => subst c; exact places?_escape rfl (by decide) rest
  next backslash =>
  split
  · next same => subst c; exact places?_escape rfl (by decide) rest
  next newline =>
  split
  · next same => subst c; exact places?_escape rfl (by decide) rest
  next back =>
  split
  · next same => subst c; exact places?_escape rfl (by decide) rest
  next tab =>
  split
  · next same => subst c; exact places?_escape rfl (by decide) rest
  next backspace =>
  split
  · next same => subst c; exact places?_escape rfl (by decide) rest
  next feed =>
  split
  · next control =>
    have written : placeOf c = .unit c.toNat := if_pos ⟨control, by
      simp only [List.mem_cons, List.not_mem_nil, or_false, not_or]
      exact ⟨newline, back, tab, backspace, feed⟩⟩
    rw [written]
    exact places?_unit (hexNumber?_hexDigit c.toNat control) rest
  · next printable =>
    have written : placeOf c = .char c := if_neg fun both => printable both.1
    rw [written]
    exact places?_char quote backslash printable rest

theorem chars?_placeOf (c : Char) (places : List Place) :
    Place.chars? (placeOf c :: places) = (Place.chars? places).map (c :: ·) := by
  unfold placeOf
  split
  · next control =>
    have plain : ¬(0xD800 ≤ c.toNat ∧ c.toNat < 0xDC00) ∧ ¬(0xDC00 ≤ c.toNat ∧ c.toNat < 0xE000) := by
      omega
    rw [Place.chars?.eq_def]
    simp only [plain.1, plain.2, if_false, Char.ofNat_toNat]
  · rfl

/-- The places of a text are read up to the closing quote. -/
theorem places?_text (text rest : List Char) :
    places? (text.flatMap writeChar ++ '"' :: rest) = some (text.map placeOf, rest) := by
  induction text with
  | nil => exact places?_quote rest
  | cons c text ih =>
      rw [List.flatMap_cons, List.append_assoc, places?_writeChar, ih]
      rfl

/-- The places of a text denote it. -/
theorem chars?_text (text : List Char) : Place.chars? (text.map placeOf) = some text := by
  induction text with
  | nil => rfl
  | cons c text ih =>
      rw [List.map_cons, chars?_placeOf, ih]
      rfl

/-- What stands behind the opening quote of a string literal. -/
def quoted : Option String → List Char
  | some text => text.toList.flatMap writeChar ++ ['"']
  | none => ['\\', 'u', 'd', '8', '0', '0', '"']

theorem writeString_eq (value : Option String) : writeString value = '"' :: quoted value := by
  cases value <;> rfl

theorem string?_quoted (value : Option String) (rest : List Char) :
    string? (quoted value ++ rest) = some (value, rest) := by
  cases value with
  | none =>
      have places : places? (quoted none ++ rest) = some ([.unit 0xD800], rest) := by
        change places? ('\\' :: 'u' :: 'd' :: '8' :: '0' :: '0' :: '"' :: rest) = _
        rw [places?_unit (show hexNumber? ['d', '8', '0', '0'] = some 0xD800 by decide),
          places?_quote]
        rfl
      rw [string?, places]
      rfl
  | some text =>
      have places : places? (quoted (some text) ++ rest) =
          some (text.toList.map placeOf, rest) := by
        rw [quoted, List.append_assoc]
        exact places?_text text.toList rest
      rw [string?, places]
      change some ((Place.chars? (text.toList.map placeOf)).map String.ofList, rest) = _
      rw [chars?_text, Option.map_some, String.ofList_toList]

/-! ## Numbers -/

/-- A character that does not go on with a number. -/
structure Ends (c : Char) : Prop where
  digit : c.isDigit = false
  point : c ≠ '.'
  exponent : ¬(c = 'e' ∨ c = 'E')

/-- A text that does not go on with a number. -/
def Bounds (rest : List Char) : Prop :=
  ∀ c ∈ rest.head?, Ends c

theorem bounds_nil : Bounds [] :=
  nofun

theorem bounds_cons {c : Char} (stops : Ends c) (rest : List Char) :
    Bounds (c :: rest) := by
  intro d first
  cases first
  exact stops

/-- Digits are read as far as they go. -/
theorem digits?_append {digits rest : List Char} (present : digits ≠ [])
    (all : ∀ c ∈ digits, c.isDigit = true) (stops : ∀ c ∈ rest.head?, c.isDigit = false) :
    digits? (digits ++ rest) = some (digits, rest) := by
  have ends : rest.takeWhile Char.isDigit = [] ∧ rest.dropWhile Char.isDigit = rest := by
    cases rest with
    | nil => exact ⟨rfl, rfl⟩
    | cons c rest => simp [stops c rfl]
  rw [digits?, List.takeWhile_append_of_pos all, List.dropWhile_append_of_pos all, ends.1, ends.2,
    List.append_nil]
  cases digits with
  | nil => exact absurd rfl present
  | cons c digits => rfl

theorem digits?_toDigits (value : Nat) {rest : List Char}
    (stops : ∀ c ∈ rest.head?, c.isDigit = false) :
    digits? (Nat.toDigits 10 value ++ rest) = some (Nat.toDigits 10 value, rest) :=
  digits?_append Nat.toDigits_ne_nil
    (fun _ member => Nat.isDigit_of_mem_toDigits (by decide) (by decide) member) stops

theorem decimalValue_toDigits (value : Nat) :
    Text.decimalValue (Nat.toDigits 10 value) = value := by
  have shifts : (fun value c => value * 10 + Text.digitValue c) =
      fun (value : Nat) (c : Char) => 10 * value + (c.toNat - '0'.toNat) := by
    funext value c
    rw [Nat.mul_comm, Text.digitValue]
  rw [Text.decimalValue, shifts]
  exact Nat.ofDigitChars_toDigits (by decide) (by decide)

/-- Only zero is written with a leading zero. -/
theorem toDigits_head (value : Nat) :
    ∃ first others, Nat.toDigits 10 value = first :: others ∧ first.isDigit = true ∧
      (first = '0' → value = 0 ∧ others = []) := by
  induction value using Nat.strongRecOn with
  | ind value ih =>
      by_cases small : value < 10
      · refine ⟨value.digitChar, [], Nat.toDigits_of_lt_base small, ?_, ?_⟩
        · have member : value.digitChar ∈ Nat.toDigits 10 value := by
            rw [Nat.toDigits_of_lt_base small]
            exact List.mem_singleton_self _
          exact Nat.isDigit_of_mem_toDigits (by decide) (by decide) member
        · have zero : ∀ digit < 10, digit.digitChar = '0' → digit = 0 := by decide
          exact fun written => ⟨zero value small written, rfl⟩
      · have large : 10 ≤ value := Nat.le_of_not_lt small
        obtain ⟨first, others, digits, digit, leads⟩ := ih (value / 10) (by omega)
        refine ⟨first, others ++ [(value % 10).digitChar], ?_, digit, ?_⟩
        · rw [Nat.toDigits_of_base_le (by decide) large, digits]
          rfl
        · intro zero
          have := (leads zero).1
          omega

theorem whole?_toDigits (value : Nat) {rest : List Char}
    (stops : ∀ c ∈ rest.head?, c.isDigit = false) :
    whole? (Nat.toDigits 10 value ++ rest) = some (value, rest) := by
  obtain ⟨first, others, digits, _, leads⟩ := toDigits_head value
  by_cases zero : first = '0'
  · obtain ⟨rfl, rfl⟩ := leads zero
    rw [digits, zero]
    rfl
  · have read := digits?_toDigits value stops
    rw [digits, List.cons_append] at read ⊢
    rw [whole?.eq_def]
    split
    · next same => exact absurd (List.cons.inj same).1 zero
    · rw [read, ← digits]
      exact congrArg (fun whole => some (whole, rest)) (decimalValue_toDigits value)

/-- The fraction of a number as it is written. -/
def writeFraction (fraction : List (Fin 10)) : List Char :=
  if fraction = [] then [] else '.' :: fraction.flatMap fun digit => Nat.toDigits 10 digit.val

/-- The exponent of a number as it is written. -/
def writeExponent : Option Int → List Char
  | none => []
  | some exponent => 'e' :: writeInt exponent

theorem flatMap_toDigits (fraction : List (Fin 10)) :
    fraction.flatMap (fun digit => Nat.toDigits 10 digit.val) =
      fraction.map fun digit => Nat.digitChar digit.val := by
  induction fraction with
  | nil => rfl
  | cons digit fraction ih =>
      rw [List.flatMap_cons, ih, Nat.toDigits_of_lt_base digit.isLt]
      rfl

theorem fraction?_writeFraction (fraction : List (Fin 10)) {rest : List Char}
    (stops : ∀ c ∈ rest.head?, c.isDigit = false ∧ c ≠ '.') :
    fraction? (writeFraction fraction ++ rest) = some (fraction, rest) := by
  rw [writeFraction]
  split
  · next bare =>
    subst bare
    cases rest with
    | nil => rfl
    | cons c rest =>
        rw [List.nil_append, fraction?.eq_def]
        split
        · next same => exact absurd (List.cons.inj same).1 (stops c rfl).2
        · rfl
  · next present =>
    have digit_digitChar : ∀ value : Fin 10, digit (Nat.digitChar value.val) = value := by decide
    have all : ∀ c ∈ fraction.map (fun digit => Nat.digitChar digit.val), c.isDigit = true := by
      have each : ∀ value : Fin 10, (Nat.digitChar value.val).isDigit = true := by decide
      simp [each]
    rw [flatMap_toDigits, List.cons_append]
    change (digits? _).map _ = _
    rw [digits?_append (by simpa using present) all fun c first => (stops c first).1]
    simp only [Option.map_some, List.map_map, Function.comp_def, digit_digitChar, List.map_id']

/-- A digit is no sign. -/
theorem ne_sign_of_isDigit {c : Char} (digit : c.isDigit = true) : c ≠ '-' ∧ c ≠ '+' := by
  constructor
  · rintro rfl
    contradiction
  · rintro rfl
    contradiction

theorem exponent?_unsigned {c : Char} (digit : c.isDigit = true) (rest : List Char) :
    exponent? ('e' :: c :: rest) =
      (digits? (c :: rest)).map fun found => (some (Text.decimalValue found.1 : Int), found.2) := by
  obtain ⟨minus, plus⟩ := ne_sign_of_isDigit digit
  rw [exponent?.eq_def]
  simp only [true_or, if_true]
  split
  · next same => exact absurd (List.cons.inj same).1 minus
  · next same => exact absurd (List.cons.inj same).1 plus
  · rfl

theorem exponent?_writeExponent (exponent : Option Int) {rest : List Char} (bounds : Bounds rest) :
    exponent? (writeExponent exponent ++ rest) = some (exponent, rest) := by
  have stops : ∀ c ∈ rest.head?, c.isDigit = false := fun c first => (bounds c first).digit
  cases exponent with
  | none =>
      cases rest with
      | nil => rfl
      | cons c rest =>
          have other : ¬(c = 'e' ∨ c = 'E') := (bounds c rfl).exponent
          rw [writeExponent, List.nil_append, exponent?.eq_def]
          simp only [other, if_false]
  | some exponent =>
      have read := digits?_toDigits exponent.natAbs stops
      have value := decimalValue_toDigits exponent.natAbs
      rw [writeExponent, writeInt]
      split
      · next negative =>
        change (digits? (Nat.toDigits 10 exponent.natAbs ++ rest)).map _ = _
        rw [read, Option.map_some]
        dsimp only
        rw [value, show -(exponent.natAbs : Int) = exponent by omega]
      · next positive =>
        obtain ⟨first, others, digits, digit, _⟩ := toDigits_head exponent.natAbs
        rw [digits] at read value ⊢
        rw [List.cons_append] at read
        rw [List.cons_append, List.cons_append, exponent?_unsigned digit, read, Option.map_some,
          value, show (exponent.natAbs : Int) = exponent by omega]

/-- A number is read from its whole part on. -/
def unsigned? (negative : Bool) (text : List Char) : Option (Number × List Char) := do
  let (whole, text) ← whole? text
  let (fraction, text) ← fraction? text
  let (exponent, text) ← exponent? text
  return (⟨negative, whole, fraction, exponent⟩, text)

theorem number?_minus (rest : List Char) : number? ('-' :: rest) = unsigned? true rest :=
  rfl

theorem number?_digit {c : Char} (digit : c.isDigit = true) (rest : List Char) :
    number? (c :: rest) = unsigned? false (c :: rest) := by
  rw [number?.eq_def]
  split
  next negative text signed =>
  split at signed
  · next same => exact absurd (List.cons.inj same).1 (ne_sign_of_isDigit digit).1
  · cases signed
    rfl

/-- A number behind its sign, as it is written. -/
def writeUnsigned (number : Number) : List Char :=
  Nat.toDigits 10 number.whole ++ (writeFraction number.fraction ++ writeExponent number.exponent)

theorem writeNumber_eq (number : Number) :
    writeNumber number = (if number.negative then ['-'] else []) ++ writeUnsigned number := by
  rcases number with ⟨negative, whole, fraction, _ | exponent⟩ <;>
    simp [writeNumber, writeUnsigned, writeFraction, writeExponent]

theorem writeUnsigned_head (number : Number) :
    ∃ first others, writeUnsigned number = first :: others ∧ first.isDigit = true := by
  obtain ⟨first, others, digits, digit, _⟩ := toDigits_head number.whole
  exact ⟨first, _, by rw [writeUnsigned, digits, List.cons_append], digit⟩

theorem bounds_writeExponent (exponent : Option Int) {rest : List Char} (bounds : Bounds rest) :
    ∀ c ∈ (writeExponent exponent ++ rest).head?, c.isDigit = false ∧ c ≠ '.' := by
  cases exponent with
  | none => exact fun c first => ⟨(bounds c first).digit, (bounds c first).point⟩
  | some exponent =>
      intro c first
      cases first
      decide

theorem bounds_writeFraction (fraction : List (Fin 10)) (exponent : Option Int) {rest : List Char}
    (bounds : Bounds rest) :
    ∀ c ∈ (writeFraction fraction ++ (writeExponent exponent ++ rest)).head?,
      c.isDigit = false := by
  rw [writeFraction]
  split
  · exact fun c first => (bounds_writeExponent exponent bounds c first).1
  · intro c first
    cases first
    decide

theorem unsigned?_writeUnsigned (number : Number) {rest : List Char} (bounds : Bounds rest) :
    unsigned? number.negative (writeUnsigned number ++ rest) = some (number, rest) := by
  rw [unsigned?, writeUnsigned, List.append_assoc, List.append_assoc,
    whole?_toDigits _ (bounds_writeFraction _ _ bounds)]
  change (fraction? _ >>= _) = _
  rw [fraction?_writeFraction _ (bounds_writeExponent _ bounds)]
  change (exponent? _ >>= _) = _
  rw [exponent?_writeExponent _ bounds]
  rfl

theorem number?_writeNumber (number : Number) {rest : List Char} (bounds : Bounds rest) :
    number? (writeNumber number ++ rest) = some (number, rest) := by
  rw [writeNumber_eq, List.append_assoc]
  have read := unsigned?_writeUnsigned number bounds
  cases sign : number.negative with
  | true =>
      rw [sign] at read
      exact (number?_minus _).trans read
  | false =>
      rw [sign] at read
      obtain ⟨first, others, shape, digit⟩ := writeUnsigned_head number
      simp only [Bool.false_eq_true, if_false, List.nil_append]
      rw [shape, List.cons_append] at read ⊢
      exact (number?_digit digit _).trans read

/-! ## Values -/

/-- A character with which a value can begin. -/
structure Begins (c : Char) : Prop where
  visible : isBlank c = false
  bracket : c ≠ ']'

theorem skipBlank_cons {c : Char} (visible : isBlank c = false) (rest : List Char) :
    skipBlank (c :: rest) = c :: rest := by
  rw [skipBlank, List.dropWhile_cons_of_neg (by simp [visible])]

theorem begins_of_isDigit {c : Char} (digit : c.isDigit = true) : Begins c where
  visible := by
    rw [← Bool.not_eq_true]
    intro blank
    simp only [isBlank, Bool.or_eq_true, decide_eq_true_eq] at blank
    rcases blank with ((rfl | rfl) | rfl) | rfl <;> contradiction
  bracket := by
    rintro rfl
    contradiction

/-- A number is written behind a sign or a digit. -/
theorem writeNumber_head (number : Number) :
    ∃ first others, writeNumber number = first :: others ∧
      (first = '-' ∨ first.isDigit = true) := by
  rw [writeNumber_eq]
  cases number.negative with
  | true => exact ⟨'-', _, rfl, .inl rfl⟩
  | false =>
      obtain ⟨first, others, shape, digit⟩ := writeUnsigned_head number
      exact ⟨first, others, shape, .inr digit⟩

theorem write_head (value : Json) :
    ∃ first others, value.write = first :: others ∧ Begins first := by
  cases value with
  | null => exact ⟨'n', _, rfl, by decide, by decide⟩
  | bool flag => cases flag <;> exact ⟨_, _, rfl, by decide, by decide⟩
  | number number =>
      obtain ⟨first, others, shape, minus | digit⟩ := writeNumber_head number
      · exact ⟨first, others, shape, minus ▸ by decide, minus ▸ by decide⟩
      · exact ⟨first, others, shape, begins_of_isDigit digit⟩
  | string text => exact ⟨'"', _, writeString_eq text, by decide, by decide⟩
  | array elements => exact ⟨'[', _, rfl, by decide, by decide⟩
  | object members => exact ⟨'{', _, rfl, by decide, by decide⟩

/-- Whatever begins with a sign or a digit is read as a number. -/
theorem value?_number {c : Char} (numeral : c = '-' ∨ c.isDigit = true) (fuel : Nat)
    (rest : List Char) :
    value? (fuel + 1) (c :: rest) =
      (number? (c :: rest)).map fun found => (.number found.1, found.2) := by
  have visible : isBlank c = false := by
    rcases numeral with rfl | digit
    · decide
    · exact (begins_of_isDigit digit).visible
  have other : ∀ d : Char, d ≠ '-' → d.isDigit = false → c ≠ d := by
    rintro d minus digit rfl
    rw [digit] at numeral
    exact numeral.elim minus Bool.false_ne_true
  rw [value?, skipBlank_cons visible]
  split
  · next same => exact absurd (List.cons.inj same).1 (other _ (by decide) (by decide))
  · next same => exact absurd (List.cons.inj same).1 (other _ (by decide) (by decide))
  · next same => exact absurd (List.cons.inj same).1 (other _ (by decide) (by decide))
  · next same => exact absurd (List.cons.inj same).1 (other _ (by decide) (by decide))
  · next same => exact absurd (List.cons.inj same).1 (other _ (by decide) (by decide))
  · next same => exact absurd (List.cons.inj same).1 (other _ (by decide) (by decide))
  · rfl

/-- With so much fuel, the reader takes apart what was written. -/
structure ReadsBack (fuel : Nat) : Prop where
  value : ∀ (value : Json) (rest : List Char), value.write.length < fuel → Bounds rest →
    value? fuel (value.write ++ rest) = some (value, rest)
  elements : ∀ (first : Json) (others : List Json) (rest : List Char),
    (writeElements (first :: others)).length + 1 < fuel →
      elements? fuel (writeElements (first :: others) ++ ']' :: rest) =
        some (first :: others, rest)
  members : ∀ (first : Option String × Json) (others : List (Option String × Json))
    (rest : List Char), (writeMembers (first :: others)).length + 1 < fuel →
      members? fuel (writeMembers (first :: others) ++ '}' :: rest) =
        some (first :: others, rest)

theorem writeElements_head (first : Json) (others : List Json) :
    ∃ c rest, writeElements (first :: others) = c :: rest ∧ Begins c := by
  obtain ⟨c, rest, shape, begins⟩ := write_head first
  cases others with
  | nil => exact ⟨c, rest, shape, begins⟩
  | cons next others => exact ⟨c, _, by rw [writeElements, shape, List.cons_append], begins⟩

theorem writeMembers_head (first : Option String × Json)
    (others : List (Option String × Json)) :
    ∃ rest, writeMembers (first :: others) = '"' :: rest := by
  rcases first with ⟨key, value⟩
  cases others with
  | nil => exact ⟨_, by rw [writeMembers, writeString_eq, List.cons_append]⟩
  | cons next others => exact ⟨_, by rw [writeMembers, writeString_eq, List.cons_append]⟩

/-- Behind an opening bracket that nothing closes at once there are elements. -/
theorem value?_bracket {fuel : Nat} {c : Char} {text : List Char} (visible : isBlank c = false)
    (opened : c ≠ ']') :
    value? (fuel + 1) ('[' :: c :: text) =
      (elements? fuel (c :: text)).map fun read => (.array read.1, read.2) := by
  rw [value?, skipBlank_cons (by decide)]
  -- The bracket decides the branch.
  conv => lhs; whnf
  rw [skipBlank_cons visible]
  split
  · next same => exact absurd (List.cons.inj same).1 opened
  · rfl

/-- Behind an opening brace that nothing closes at once there are members. -/
theorem value?_brace {fuel : Nat} {c : Char} {text : List Char} (visible : isBlank c = false)
    (opened : c ≠ '}') :
    value? (fuel + 1) ('{' :: c :: text) =
      (members? fuel (c :: text)).map fun read => (.object read.1, read.2) := by
  rw [value?, skipBlank_cons (by decide)]
  conv => lhs; whnf
  rw [skipBlank_cons visible]
  split
  · next same => exact absurd (List.cons.inj same).1 opened
  · rfl

/-- An array is read with one call for its elements. -/
theorem ReadsBack.array {fuel : Nat} (reads : ReadsBack fuel) {elements : List Json}
    (rest : List Char) (short : (Json.array elements).write.length < fuel + 1) :
    value? (fuel + 1) ((Json.array elements).write ++ rest) = some (.array elements, rest) := by
  rw [write, List.cons_append, List.append_assoc]
  cases elements with
  | nil =>
      rw [value?, skipBlank_cons (by decide)]
      rfl
  | cons first others =>
      have read := reads.elements first others rest (by
        simp only [write, List.length_cons, List.length_append, List.length_nil] at short
        omega)
      obtain ⟨c, text, shape, begins⟩ := writeElements_head first others
      rw [shape, List.cons_append] at read ⊢
      rw [value?_bracket begins.visible begins.bracket, List.singleton_append, read]
      rfl

/-- An object is read with one call for its members. -/
theorem ReadsBack.object {fuel : Nat} (reads : ReadsBack fuel)
    {members : List (Option String × Json)} (rest : List Char)
    (short : (Json.object members).write.length < fuel + 1) :
    value? (fuel + 1) ((Json.object members).write ++ rest) = some (.object members, rest) := by
  rw [write, List.cons_append, List.append_assoc]
  cases members with
  | nil =>
      rw [value?, skipBlank_cons (by decide)]
      rfl
  | cons first others =>
      have read := reads.members first others rest (by
        simp only [write, List.length_cons, List.length_append, List.length_nil] at short
        omega)
      obtain ⟨text, shape⟩ := writeMembers_head first others
      rw [shape, List.cons_append] at read ⊢
      rw [value?_brace (by decide) (by decide), List.singleton_append, read]
      rfl

/-- A value is read with one call for what is inside it. -/
theorem ReadsBack.value_succ {fuel : Nat} (reads : ReadsBack fuel) (value : Json)
    (rest : List Char) (short : value.write.length < fuel + 1) (bounds : Bounds rest) :
    value? (fuel + 1) (value.write ++ rest) = some (value, rest) := by
  cases value with
  | null =>
      rw [write, value?]
      rfl
  | bool flag =>
      cases flag <;>
      · rw [write, value?]
        rfl
  | number number =>
      obtain ⟨first, others, shape, numeral⟩ := writeNumber_head number
      have read := number?_writeNumber number bounds
      rw [shape, List.cons_append] at read
      rw [write, shape, List.cons_append, value?_number numeral, read]
      rfl
  | string text =>
      rw [write, writeString_eq, List.cons_append, value?, skipBlank_cons (by decide)]
      change (string? (quoted text ++ rest)).map _ = _
      rw [string?_quoted]
      rfl
  | array elements => exact reads.array rest short
  | object members => exact reads.object rest short

theorem ends_of_separator {c : Char} (separator : c = ',' ∨ c = ']' ∨ c = '}') : Ends c := by
  rcases separator with rfl | rfl | rfl <;> exact ⟨by decide, by decide, by decide⟩

theorem ReadsBack.elements_succ {fuel : Nat} (reads : ReadsBack fuel) (first : Json)
    (others : List Json) (rest : List Char)
    (short : (writeElements (first :: others)).length + 1 < fuel + 1) :
    elements? (fuel + 1) (writeElements (first :: others) ++ ']' :: rest) =
      some (first :: others, rest) := by
  cases others with
  | nil =>
      have read := reads.value first (']' :: rest) (by simpa [writeElements] using short)
        (bounds_cons (ends_of_separator (by decide)) rest)
      rw [writeElements, elements?, read]
      rfl
  | cons next others =>
      simp only [writeElements, List.length_append, List.length_cons] at short
      have read := reads.value first (',' :: (writeElements (next :: others) ++ ']' :: rest))
        (by omega) (bounds_cons (ends_of_separator (by decide)) _)
      have later := reads.elements next others rest (by omega)
      rw [writeElements, List.append_assoc, List.cons_append, elements?, read]
      change (elements? fuel (writeElements (next :: others) ++ ']' :: rest) >>= _) = _
      rw [later]
      rfl

/-- A member with others behind it. -/
theorem members?_comma {fuel : Nat} (key : Option String) {value : Json} {rest : List Char}
    (read : value? fuel (value.write ++ ',' :: rest) = some (value, ',' :: rest)) :
    members? (fuel + 1) (writeString key ++ ':' :: (value.write ++ ',' :: rest)) =
      (members? fuel rest).map fun read => ((key, value) :: read.1, read.2) := by
  rw [writeString_eq, List.cons_append, members?, skipBlank_cons (by decide)]
  change (string? (quoted key ++ ':' :: (value.write ++ ',' :: rest)) >>= _) = _
  simp only [string?_quoted, Option.bind_eq_bind, Option.bind_some]
  rw [skipBlank_cons (by decide)]
  change (value? fuel (value.write ++ ',' :: rest) >>= _) = _
  simp only [read, Option.bind_eq_bind, Option.bind_some]
  rw [skipBlank_cons (by decide)]
  change (members? fuel rest >>= _) = _
  cases members? fuel rest <;> rfl

/-- The last member. -/
theorem members?_brace {fuel : Nat} (key : Option String) {value : Json} {rest : List Char}
    (read : value? fuel (value.write ++ '}' :: rest) = some (value, '}' :: rest)) :
    members? (fuel + 1) (writeString key ++ ':' :: (value.write ++ '}' :: rest)) =
      some ([(key, value)], rest) := by
  rw [writeString_eq, List.cons_append, members?, skipBlank_cons (by decide)]
  change (string? (quoted key ++ ':' :: (value.write ++ '}' :: rest)) >>= _) = _
  simp only [string?_quoted, Option.bind_eq_bind, Option.bind_some]
  rw [skipBlank_cons (by decide)]
  change (value? fuel (value.write ++ '}' :: rest) >>= _) = _
  simp only [read, Option.bind_eq_bind, Option.bind_some]
  rw [skipBlank_cons (by decide)]
  rfl

theorem ReadsBack.members_succ {fuel : Nat} (reads : ReadsBack fuel)
    (first : Option String × Json) (others : List (Option String × Json)) (rest : List Char)
    (short : (writeMembers (first :: others)).length + 1 < fuel + 1) :
    members? (fuel + 1) (writeMembers (first :: others) ++ '}' :: rest) =
      some (first :: others, rest) := by
  rcases first with ⟨key, value⟩
  cases others with
  | nil =>
      simp only [writeMembers, List.length_append, List.length_cons] at short
      have read := reads.value value ('}' :: rest) (by omega)
        (bounds_cons (ends_of_separator (by decide)) rest)
      rw [writeMembers, List.append_assoc, List.cons_append, members?_brace key read]
  | cons next others =>
      simp only [writeMembers, List.length_append, List.length_cons] at short
      have read := reads.value value (',' :: (writeMembers (next :: others) ++ '}' :: rest))
        (by omega) (bounds_cons (ends_of_separator (by decide)) _)
      have later := reads.members next others rest (by omega)
      rw [writeMembers, List.append_assoc, List.cons_append, List.append_assoc, List.cons_append,
        members?_comma key read, later]
      rfl

/-- Fuel for more calls than the text has characters is enough. -/
theorem readsBack (fuel : Nat) : ReadsBack fuel := by
  induction fuel with
  | zero => exact ⟨nofun, nofun, nofun⟩
  | succ fuel ih => exact ⟨ih.value_succ, ih.elements_succ, ih.members_succ⟩

/-- The text of a value is read as this value. -/
theorem read?_render (value : Json) : read? value.render = some value := by
  have read := (readsBack (2 * value.write.length + 2)).value value [] (by omega) bounds_nil
  rw [List.append_nil] at read
  rw [read?, render, String.toList_ofList]
  dsimp only
  rw [read]
  rfl

end Tollgate.Json
