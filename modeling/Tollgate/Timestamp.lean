import Tollgate.Text.Blank
import Tollgate.Text.Decimal

/-!
# Timestamps

Timestamps are read from RFC 3339 texts, with some liberty: fields may have fewer digits and blanks
before them, a year may carry a sign, and a blank may stand for the `T`.  They are kept in
universal time on the proleptic Gregorian calendar, between the years -262143 and 262142.  A leap
second is the second before it with a billion nanoseconds more.
-/

namespace Tollgate

/-- A moment in universal time. -/
structure Timestamp where
  /-- Days since 1970-01-01. -/
  day : Int
  /-- The second of the day. -/
  second : Nat
  /-- Nanoseconds; in a leap second they count on from a billion. -/
  nano : Nat
  deriving DecidableEq, Repr

namespace Timestamp

/-! ## The calendar -/

/-- Days from 1970-01-01 to a date.  Years begin in March here, so that the day that a leap year
adds is the last of its year. -/
def dayOfDate (year : Int) (month date : Nat) : Int :=
  let year := if month ≤ 2 then year - 1 else year
  let era := year.fdiv 400
  let yearOfEra := year - era * 400
  let dayOfYear : Int := (153 * ((month + 9) % 12) + 2) / 5 + date - 1
  let dayOfEra := yearOfEra * 365 + yearOfEra / 4 - yearOfEra / 100 + dayOfYear
  era * 146097 + dayOfEra - 719468

/-- Year, month and date of a day counted from 1970-01-01. -/
def dateOfDay (day : Int) : Int × Nat × Nat :=
  let shifted := day + 719468
  let era := shifted.fdiv 146097
  let dayOfEra := shifted - era * 146097
  let yearOfEra := (dayOfEra - dayOfEra / 1460 + dayOfEra / 36524 - dayOfEra / 146096) / 365
  let dayOfYear := (dayOfEra - (365 * yearOfEra + yearOfEra / 4 - yearOfEra / 100)).toNat
  let marchMonth := (5 * dayOfYear + 2) / 153
  let date := dayOfYear - (153 * marchMonth + 2) / 5 + 1
  let month := if marchMonth < 10 then marchMonth + 3 else marchMonth - 9
  let year := yearOfEra + era * 400
  (if month ≤ 2 then year + 1 else year, month, date)

/-- Whether a year has a 29th of February. -/
def isLeap (year : Int) : Bool :=
  year % 4 = 0 && (year % 100 ≠ 0 || year % 400 = 0)

/-- The number of days of a month. -/
def daysIn (year : Int) (month : Nat) : Nat :=
  if month = 2 then if isLeap year then 29 else 28
  else if month = 4 ∨ month = 6 ∨ month = 9 ∨ month = 11 then 30
  else 31

/-- The first and last year of the calendar. -/
def yearInRange (year : Int) : Bool :=
  -262143 ≤ year && year ≤ 262142

/-- The first day of the calendar. -/
def firstDay : Int :=
  dayOfDate (-262143) 1 1

/-- The last day of the calendar. -/
def lastDay : Int :=
  dayOfDate 262142 12 31

/-- The day of a date that exists. -/
def day? (year : Int) (month date : Nat) : Option Int :=
  if yearInRange year ∧ 1 ≤ month ∧ month ≤ 12 ∧ 1 ≤ date ∧ date ≤ daysIn year month then
    some (dayOfDate year month date)
  else none

/-- The second of a day, with the nanoseconds of a leap second.  Any minute may have one. -/
def time? (hour minute second nano : Nat) : Option (Nat × Nat) :=
  if 24 ≤ hour ∨ 60 ≤ minute ∨ 61 ≤ second then none
  else if second = 60 then some (hour * 3600 + minute * 60 + 59, nano + 1000000000)
  else some (hour * 3600 + minute * 60 + second, nano)

/-- A local date and time, given the offset of local time from universal time in seconds.  The
offset is less than a day, and the result must lie within the calendar. -/
def ofLocal? (day : Int) (second nano : Nat) (offset : Int) : Option Timestamp :=
  if offset ≤ -86400 ∨ 86400 ≤ offset then none
  else
    let seconds := day * 86400 + second - offset
    let day := seconds.fdiv 86400
    if firstDay ≤ day ∧ day ≤ lastDay then
      some ⟨day, (seconds.fmod 86400).toNat, nano⟩
    else none

/-! ## Reading -/

/-- A number of at least one digit and, where a width is given, at most so many. -/
def number? (width : Option Nat) (text : List Char) : Option (Nat × List Char) :=
  let digits := text.takeWhile Char.isDigit
  let digits :=
    match width with
    | some width => digits.take width
    | none => digits
  if digits = [] then none
  else some (Text.decimalValue digits, text.drop digits.length)

/-- A year: four digits, or any number of them behind a sign. -/
def year? (text : List Char) : Option (Int × List Char) :=
  match Text.trimStart text with
  | '-' :: rest => (number? none rest).map fun (value, rest) => (-value, rest)
  | '+' :: rest => (number? none rest).map fun (value, rest) => (value, rest)
  | text => (number? (some 4) text).map fun (value, rest) => (value, rest)

/-- A field of one or two digits, with blanks before it. -/
def field? (text : List Char) : Option (Nat × List Char) :=
  number? (some 2) (Text.trimStart text)

/-- A field of one or two digits behind a mark. -/
def markedField? (mark : Char) (text : List Char) : Option (Nat × List Char) :=
  match Text.trimStart text with
  | c :: rest => if c = mark then field? rest else none
  | [] => none

/-- A fraction of a second, if there is one: nine digits count, further ones are passed over. -/
def nano? : List Char → Option (Nat × List Char)
  | '.' :: rest =>
      let digits := rest.takeWhile Char.isDigit
      let counted := digits.take 9
      if digits = [] then none
      else
        some (Text.decimalValue counted * Nat.pow 10 (9 - counted.length), rest.drop digits.length)
  | text => some (0, text)

/-- Two digits, the first of them no greater than a limit. -/
def twoDigits? (limit : Char) : List Char → Option (Nat × List Char)
  | a :: b :: rest =>
      if a.isDigit ∧ b.isDigit ∧ a ≤ limit then some (Text.decimalValue [a, b], rest) else none
  | _ => none

/-- The offset of local time in seconds: `UTC`, `Z`, or a sign with hours and minutes. -/
def offset? (text : List Char) : Option (Int × List Char) :=
  if (text.take 3).map Char.toLower = ['u', 't', 'c'] then some (0, text.drop 3)
  else
    match text with
    | [] => none
    | c :: rest =>
        if c = 'Z' ∨ c = 'z' then some (0, rest)
        else if c = '+' ∨ c = '-' ∨ c = '\u2212' then do
          let (hours, rest) ← twoDigits? '9' rest
          let (minutes, rest) ← twoDigits? '5'
            (rest.dropWhile fun c => c = ':' || Text.isBlank c)
          let seconds : Int := hours * 3600 + minutes * 60
          return (if c = '+' then seconds else -seconds, rest)
        else none

/-- The mark between date and time. -/
def dropMark? : List Char → Option (List Char)
  | c :: rest => if c = 't' ∨ c = 'T' ∨ c = ' ' then some rest else none
  | [] => none

/-- Read a timestamp. -/
def read? (text : String) : Option Timestamp := do
  let (year, text) ← year? text.toList
  let (month, text) ← markedField? '-' text
  let (date, text) ← markedField? '-' text
  let text ← dropMark? text
  let (hour, text) ← field? text
  let (minute, text) ← markedField? ':' text
  let (second, text) ← markedField? ':' text
  let (nano, text) ← nano? text
  let (offset, text) ← offset? (Text.trimStart text)
  if Text.trimStart text ≠ [] then none
  let day ← day? year month date
  let (second, nano) ← time? hour minute second nano
  ofLocal? day second nano offset

/-! ## Writing -/

/-- A year: four digits, and a sign when four digits do not do. -/
def yearText (year : Int) : String :=
  if 0 ≤ year ∧ year ≤ 9999 then Text.padded 4 year.natAbs
  else if year < 0 then "-" ++ Text.padded 4 year.natAbs
  else "+" ++ Text.padded 4 year.natAbs

/-- A fraction of a second in no, three, six or nine digits, the fewest that lose nothing. -/
def fractionText (nano : Nat) : String :=
  if nano = 0 then ""
  else if nano % 1000000 = 0 then "." ++ Text.padded 3 (nano / 1000000)
  else if nano % 1000 = 0 then "." ++ Text.padded 6 (nano / 1000)
  else "." ++ Text.padded 9 nano

/-- Write a timestamp. -/
def text (time : Timestamp) : String :=
  let (year, month, date) := dateOfDay time.day
  let leap := time.nano / 1000000000
  let nano := time.nano % 1000000000
  yearText year ++ "-" ++ Text.padded 2 month ++ "-" ++ Text.padded 2 date ++ "T"
    ++ Text.padded 2 (time.second / 3600) ++ ":" ++ Text.padded 2 (time.second / 60 % 60) ++ ":"
    ++ Text.padded 2 (time.second % 60 + leap) ++ fractionText nano ++ "Z"

end Timestamp

/-! ## Instants -/

/-- Nanoseconds since 1970-01-01T00:00:00Z. -/
abbrev Instant := Int

namespace Timestamp

/-- The instant of a timestamp; that of a leap second is an instant of the second after it. -/
def instant (time : Timestamp) : Instant :=
  ((time.day * 86400 + time.second) * 1000000000 + time.nano : Int)

/-- The timestamp of an instant. -/
def ofInstant (instant : Instant) : Timestamp where
  day := instant / 86400000000000
  second := (instant / 1000000000 % 86400).toNat
  nano := (instant % 1000000000).toNat

/-- The second is one of the day, and no leap second. -/
structure Plain (time : Timestamp) : Prop where
  inDay : time.second < 86400
  unleaped : time.nano < 1000000000

theorem plain_ofInstant (instant : Instant) : (ofInstant instant).Plain where
  inDay := by
    simp only [ofInstant]
    omega
  unleaped := by
    simp only [ofInstant]
    omega

@[simp]
theorem instant_ofInstant (instant : Instant) : (ofInstant instant).instant = instant := by
  change (_ : Int) = _
  simp only [Timestamp.instant, ofInstant]
  omega

/-- Outside leap seconds nothing of a timestamp is lost in its instant. -/
theorem Plain.ofInstant_instant {time : Timestamp} (plain : time.Plain) :
    ofInstant time.instant = time := by
  rcases time with ⟨day, second, nano⟩
  obtain ⟨inDay, unleaped⟩ := plain
  simp only at inDay unleaped
  simp only [ofInstant, instant, mk.injEq]
  omega

/-- Outside leap seconds instants are in the order of the clock. -/
theorem Plain.instant_lt_iff {time other : Timestamp} (plain : time.Plain) (later : other.Plain) :
    time.instant < other.instant ↔
      time.day < other.day ∨ time.day = other.day ∧
        (time.second < other.second ∨ time.second = other.second ∧ time.nano < other.nano) := by
  obtain ⟨inDay, unleaped⟩ := plain
  obtain ⟨inDayLater, unleapedLater⟩ := later
  change (_ : Int) < _ ↔ _
  simp only [instant]
  omega

end Timestamp

namespace Instant

/-- The first representable instant, the start of the calendar. -/
def earliest : Instant :=
  Timestamp.instant ⟨Timestamp.firstDay, 0, 0⟩

/-- The last representable instant, the end of the calendar. -/
def latest : Instant :=
  Timestamp.instant ⟨Timestamp.lastDay, 86399, 999999999⟩

end Instant

namespace Timestamp

theorem instant_of_ofLocal? {day offset : Int} {second nano : Nat} {time : Timestamp}
    (made : ofLocal? day second nano offset = some time) (unleaped : time.nano < 1000000000) :
    Instant.earliest ≤ time.instant ∧ time.instant ≤ Instant.latest := by
  rw [ofLocal?] at made
  split at made
  · contradiction
  · obtain ⟨within, same⟩ := Option.ite_none_right_eq_some.mp made
    cases same
    have inDay := Int.fmod_lt_of_pos (day * 86400 + second - offset) (by decide : (0 : Int) < 86400)
    change (_ : Int) ≤ _ ∧ (_ : Int) ≤ _
    simp only [Instant.earliest, Instant.latest, instant] at unleaped ⊢
    omega

/-- What is read outside leap seconds is a representable instant. -/
theorem instant_of_read? {text : String} {time : Timestamp} (read : read? text = some time)
    (unleaped : time.nano < 1000000000) :
    Instant.earliest ≤ time.instant ∧ time.instant ≤ Instant.latest := by
  have made : ∃ day second nano offset, ofLocal? day second nano offset = some time := by
    simp only [read?, Option.bind_eq_bind, Option.bind_eq_some_iff] at read
    -- one pair for each of the nine parts of the text
    obtain ⟨_, _, _, _, _, _, _, _, _, _, _, _, _, _, _, _, offset, _, ends⟩ := read
    split at ends
    · contradiction
    · obtain ⟨day, _, within⟩ := Option.bind_eq_some_iff.mp ends
      obtain ⟨clock, _, made⟩ := Option.bind_eq_some_iff.mp within
      exact ⟨day, clock.1, clock.2, offset.1, made⟩
  obtain ⟨day, second, nano, offset, made⟩ := made
  exact instant_of_ofLocal? made unleaped

end Timestamp

end Tollgate
