import TrialProtocol.Calendar.Instant
import TrialProtocol.Text.Blank
import TrialProtocol.Text.Numeral

/-!
# Dates in header fields

A header field writes an instant as `Sun, 06 Nov 1994 08:49:37 GMT` (`format`). Three forms are read
(`parse?`): that one, with the liberties of mail dates; `Sunday, 06-Nov-94 08:49:37 GMT`; and
`Sun Nov  6 08:49:37 1994`. A weekday that does not fit the date refuses the text, and so does anything
behind the last part, comments of a mail date apart.
-/

namespace TrialProtocol.Calendar

/-! ## 1. Names -/

/-- The short names of the days of the week and what completes each to the long one. -/
def weekdayNames : List (String × String) :=
  [("Sun", "day"), ("Mon", "day"), ("Tue", "sday"), ("Wed", "nesday"), ("Thu", "rsday"),
    ("Fri", "day"), ("Sat", "urday")]

/-- The short names of the months. -/
def monthNames : List String :=
  ["Jan", "Feb", "Mar", "Apr", "May", "Jun", "Jul", "Aug", "Sep", "Oct", "Nov", "Dec"]

/-! ## 2. Writing -/

/-- A year: four digits, or a sign and at least four if the year lies outside of 0 to 9999. -/
def yearText (year : Int) : List Char :=
  if 0 ≤ year ∧ year ≤ 9999 then Text.padded 4 year.toNat
  else (if year < 0 then '-' else '+') :: Text.padded 4 year.natAbs

/-- The short name of a weekday. -/
def weekdayText (n : Nat) : List Char :=
  ((weekdayNames.map (·.1)).getD n "").toList

/-- The short name of a month, counted from one. -/
def monthText (n : Nat) : List Char :=
  (monthNames.getD (n - 1) "").toList

/-- The time of day with colons. -/
def timeText (t : DateTime) : List Char :=
  Text.padded 2 t.hour ++ [':'] ++ Text.padded 2 t.minute ++ [':'] ++ Text.padded 2 t.second

/-- The preferred form of an instant in a header field. -/
def format (t : Instant) : List Char :=
  let dt := DateTime.ofInstant t
  weekdayText (weekdayOf (t.seconds / 86400)) ++ [',', ' '] ++ Text.padded 2 dt.date.day ++ [' '] ++
    monthText dt.date.month ++ [' '] ++ yearText dt.date.year ++ [' '] ++ timeText dt ++
    [' ', 'G', 'M', 'T']

/-! ## 3. Pieces of a date -/

/-- A piece of a text and the rest, unless the piece is not there. -/
abbrev Scanner (α : Type) := List Char → Option (α × List Char)

/-- The text behind the blanks at its front. -/
def skipBlanks (s : List Char) : List Char :=
  s.dropWhile Text.isBlank

/-- At least one blank. -/
def blanks (s : List Char) : Option (List Char) :=
  let rest := skipBlanks s
  if rest.length < s.length then some rest else none

/-- One given character. -/
def exactly (c : Char) : List Char → Option (List Char)
  | d :: rest => if d = c then some rest else none
  | [] => none

/-- At least `least` and, if `most` is given, at most `most` digits. -/
def digits (least : Nat) (most : Option Nat) : Scanner Nat := fun s =>
  let all := s.takeWhile Char.isDigit
  let taken := match most with
    | some n => all.take n
    | none => all
  if least ≤ taken.length then
    some (Nat.ofDigitChars 10 taken 0, s.drop taken.length)
  else none

/-- Whether `s` begins with `name`, whatever the case. -/
def startsWithName (name s : List Char) : Bool :=
  name.length ≤ s.length && Text.eqIgnoreCase name (s.take name.length)

/-- The place of the first name in the list that stands at the front. -/
def nameOf (names : List String) : Scanner Nat := fun s =>
  match names.findIdx? fun n => startsWithName n.toList s with
  | some i => some (i, s.drop (names.getD i "").length)
  | none => none

/-- A weekday by its short name. -/
def shortWeekday : Scanner Nat :=
  nameOf (weekdayNames.map (·.1))

/-- A weekday by its short or its long name. -/
def anyWeekday : Scanner Nat := fun s => do
  let (n, rest) ← shortWeekday s
  let more := ((weekdayNames.map (·.2)).getD n "").toList
  return (n, if startsWithName more rest then rest.drop more.length else rest)

/-- A month by its short name, counted from one. -/
def month : Scanner Nat := fun s =>
  (nameOf monthNames s).map fun (n, rest) => (n + 1, rest)

/-- The instant of a date, a time and an offset, if the weekday, where there is one, fits. -/
def assemble (weekday : Option Nat) (t : DateTime) (offset : Int) : Option Instant :=
  if weekday.all (· == weekdayOf (daysBefore t.date)) then t.toInstant? offset else none

/-! ## 4. The form of mail dates -/

/-- The year of a written number: two digits count from 1950 to 2049, three from 1900. -/
def mailYear (length n : Nat) : Int :=
  if length = 2 then (if n ≤ 49 then n + 2000 else n + 1900)
  else if length = 3 then n + 1900
  else n

/-- The hours of the zones that have a name of their own. -/
def zoneHours : List (String × Int) :=
  [("gmt", 0), ("ut", 0), ("edt", -4), ("est", -5), ("cdt", -5), ("cst", -6), ("mdt", -6),
    ("mst", -7), ("pdt", -7), ("pst", -8)]

/-- The hours of a named zone. A single letter other than `j` stands for no known offset. -/
def namedZone (name : List Char) : Option Int :=
  match zoneHours.find? fun (n, _) => Text.eqIgnoreCase n.toList name with
  | some (_, hours) => some hours
  | none =>
    match name with
    | [c] => if c.toLower = 'j' then none else some 0
    | _ => none

/-- A sign and four digits for hours and minutes, in seconds. -/
def numericZone : Scanner Int
  | sign :: a :: b :: c :: d :: rest =>
    if (sign = '+' ∨ sign = '-') ∧ a.isDigit ∧ b.isDigit ∧ c.isDigit ∧ d.isDigit ∧ c ≤ '5' then
      let hours := Nat.ofDigitChars 10 [a, b] 0
      let minutes := Nat.ofDigitChars 10 [c, d] 0
      let seconds : Int := hours * 3600 + minutes * 60
      some (if sign = '-' then -seconds else seconds, rest)
    else none
  | _ => none

/-- The zone of a mail date, in seconds. -/
def zone : Scanner Int := fun s =>
  let name := s.takeWhile Char.isAlpha
  if name.isEmpty then numericZone s
  else (namedZone name).map fun hours => (hours * 3600, s.drop name.length)

/-- What follows a comment of which `depth` brackets are still open. -/
def commentRest : Nat → List Char → Option (List Char)
  | _, [] => none
  | depth, '\\' :: _ :: rest => commentRest depth rest
  | depth, c :: rest =>
    if c = '(' then commentRest (depth + 1) rest
    else if c = ')' then
      match depth with
      | 0 => none
      | 1 => some rest
      | depth + 2 => commentRest (depth + 1) rest
    else commentRest depth rest

/-- Whether nothing but comments is left. The budget bounds their number. -/
def onlyComments : Nat → List Char → Bool
  | _, [] => true
  | 0, _ => false
  | budget + 1, s =>
    match skipBlanks s with
    | '(' :: rest =>
      match commentRest 1 rest with
      | some rest => onlyComments budget rest
      | none => false
    | _ => false

/-- The seconds of a mail date, which may be left out. -/
def mailSeconds : Scanner Nat := fun s =>
  match skipBlanks s with
  | ':' :: rest => digits 2 (some 2) rest
  | _ => some (0, s)

/-- The weekday of a mail date with its comma, which may be left out together. -/
def mailWeekday (s : List Char) : Option (Option Nat × List Char) :=
  match shortWeekday s with
  | some (n, rest) => (exactly ',' rest).map (some n, ·)
  | none => some (none, s)

/-- Reads `Sun, 06 Nov 1994 08:49:37 GMT`. -/
def parseMail? (s : List Char) : Option Instant := do
  let (weekday, s) ← mailWeekday (skipBlanks s)
  let (day, s) ← digits 1 (some 2) (skipBlanks s)
  let (month, s) ← month (← blanks s)
  let s ← blanks s
  let (year, rest) ← digits 2 none s
  let year := mailYear (s.length - rest.length) year
  let (hour, s) ← digits 2 (some 2) (← blanks rest)
  let s ← exactly ':' (skipBlanks s)
  let (minute, s) ← digits 2 (some 2) (skipBlanks s)
  let (second, s) ← mailSeconds s
  let (offset, s) ← zone (← blanks s)
  if onlyComments s.length s ∧ offset.natAbs < 86400 then
    assemble weekday ⟨⟨year, month, day⟩, hour, minute, second⟩ offset
  else none

/-! ## 5. The two older forms -/

/-- A number of at most `most` digits behind blanks. -/
def field (most : Nat) : Scanner Nat := fun s =>
  digits 1 (some most) (skipBlanks s)

/-- A year of at most four digits behind blanks, or of any length behind a sign. -/
def signedYear : Scanner Int := fun s =>
  match skipBlanks s with
  | '-' :: rest => (digits 1 none rest).map fun (n, rest) => (-(n : Int), rest)
  | '+' :: rest => (digits 1 none rest).map fun (n, rest) => ((n : Int), rest)
  | s => (digits 1 (some 4) s).map fun (n, rest) => ((n : Int), rest)

/-- The time of day with colons, in either of the older forms. -/
def clock : Scanner (Nat × Nat × Nat) := fun s => do
  let (hour, s) ← field 2 s
  let (minute, s) ← field 2 (← exactly ':' s)
  let (second, s) ← field 2 (← exactly ':' s)
  return ((hour, minute, second), s)

/-- Reads `Sunday, 06-Nov-94 08:49:37 GMT`; the years count from 1970 to 2069. -/
def parseDashed? (s : List Char) : Option Instant := do
  let (weekday, s) ← anyWeekday s
  let s := skipBlanks (← exactly ',' s)
  let (day, s) ← field 2 s
  let (month, s) ← month (← exactly '-' s)
  let (year, s) ← field 2 (← exactly '-' s)
  let ((hour, minute, second), s) ← clock (skipBlanks s)
  if skipBlanks s = ['G', 'M', 'T'] then
    let year : Int := if year < 70 then year + 2000 else year + 1900
    assemble (some weekday) ⟨⟨year, month, day⟩, hour, minute, second⟩ 0
  else none

/-- Reads `Sun Nov  6 08:49:37 1994`. -/
def parsePlain? (s : List Char) : Option Instant := do
  let (weekday, s) ← shortWeekday s
  let (month, s) ← month (skipBlanks s)
  let (day, s) ← field 2 s
  let ((hour, minute, second), s) ← clock s
  let (year, s) ← signedYear s
  if s = [] then assemble (some weekday) ⟨⟨year, month, day⟩, hour, minute, second⟩ 0 else none

/-- Reads a date in any of the three forms, blanks around it allowed. -/
def parse? (s : List Char) : Option Instant :=
  let s := Text.trim s
  (parseMail? s).or ((parseDashed? s).or (parsePlain? s))

end TrialProtocol.Calendar
