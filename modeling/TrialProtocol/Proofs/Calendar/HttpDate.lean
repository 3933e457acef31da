import TrialProtocol.Calendar.HttpDate
import TrialProtocol.Proofs.Calendar.Date
import TrialProtocol.Proofs.Text.Parts

/-!
# Dates in header fields are read back

There are three forms of a date, of which only the first is written. Each of them, put together from the
parts of an instant, is read as that instant. They are tried one after the other, so a form also has to
be refused by those before it: behind the short name of the weekday the first form has a comma, the
second the rest of the long name and the third a space.

* `digits_padded`, `shortWeekday_append`, `month_append`: a scanner stops where its part ends.
* `parseMail?_text`, `parseDashed?_text`, `parsePlain?_text`: each form has its parser, …
* `parseMail?_eq_none`, `parseDashed?_eq_none`: … and those before it refuse the form.
* `parse_forms`: so every form of an instant is read as that instant.
-/

namespace TrialProtocol.Calendar

/-! ## 1. The older forms -/

/-- What completes the short name of a weekday to the long one. -/
def weekdayRest (n : Nat) : List Char :=
  ((weekdayNames.map (·.2)).getD n "").toList

/-- The form with dashes and a year of two digits. -/
def dashedText (t : Instant) : List Char :=
  let dt := DateTime.ofInstant t
  weekdayText (weekdayOf (t.seconds / 86400)) ++ weekdayRest (weekdayOf (t.seconds / 86400)) ++
    [',', ' '] ++ Text.padded 2 dt.date.day ++ ['-'] ++ monthText dt.date.month ++ ['-'] ++
    Text.padded 2 (dt.date.year % 100).toNat ++ [' '] ++ timeText dt ++ [' ', 'G', 'M', 'T']

/-- The form without commas. A day of one digit has a space in front. -/
def plainText (t : Instant) : List Char :=
  let dt := DateTime.ofInstant t
  weekdayText (weekdayOf (t.seconds / 86400)) ++ [' '] ++ monthText dt.date.month ++ [' '] ++
    (if dt.date.day < 10 then [' '] else []) ++ Nat.toDigits 10 dt.date.day ++ [' '] ++
    timeText dt ++ [' '] ++ yearText dt.date.year

example : [format ⟨784111777, false⟩, dashedText ⟨784111777, false⟩, plainText ⟨784111777, false⟩].map
    String.ofList = ["Sun, 06 Nov 1994 08:49:37 GMT", "Sunday, 06-Nov-94 08:49:37 GMT",
      "Sun Nov  6 08:49:37 1994"] := by decide

/-- The bounds of the parts that are written. -/
structure AreBounded (weekday : Nat) (dt : DateTime) : Prop where
  weekday : weekday < 7
  firstMonth : 1 ≤ dt.date.month
  lastMonth : dt.date.month ≤ 12
  day : dt.date.day ≤ 31
  hour : dt.hour < 24
  minute : dt.minute < 60
  second : dt.second ≤ 60

theorem areBounded (t : Instant) :
    AreBounded (weekdayOf (t.seconds / 86400)) (DateTime.ofInstant t) := by
  obtain ⟨year, n, date, hn, leap, -⟩ := exists_marchDate (t.seconds / 86400)
  obtain ⟨first, last, -⟩ := monthOf_mem n (by omega)
  have day := dayOf_le n (by omega) (isLeapYear (year + 1)) leap
  have parts : (DateTime.ofInstant t).date = marchDate year n := date
  have ofDay : (t.seconds % 86400).toNat < 86400 := by omega
  constructor
  case weekday =>
    unfold weekdayOf
    omega
  case firstMonth => rwa [parts]
  case lastMonth => rwa [parts]
  case day =>
    rw [parts]
    refine day.trans ?_
    split_ifs <;> omega
  case hour => exact Nat.div_lt_of_lt_mul ofDay
  case minute => exact Nat.mod_lt _ (by decide)
  case second =>
    simp only [DateTime.ofInstant]
    split <;> omega

/-! ## 2. Where a part ends -/

/-- A text that does not begin with such a character. -/
def Stops (p : Char → Bool) (s : List Char) : Prop :=
  ∀ c, s.head? = some c → p c = false

@[simp] theorem stops_nil (p : Char → Bool) : Stops p [] :=
  fun c h => by cases h

@[simp] theorem stops_cons {p : Char → Bool} {c : Char} {s : List Char} :
    Stops p (c :: s) ↔ p c = false := by
  simp [Stops]

theorem Stops.append {p : Char → Bool} {s : List Char} (h : Stops p s) (ne : s ≠ [])
    (rest : List Char) : Stops p (s ++ rest) := by
  cases s with
  | nil => exact absurd rfl ne
  | cons c s => exact stops_cons.mpr (stops_cons.mp h)

/-- A piece that is there. -/
theorem bind_of_eq {α β : Type} {x : Option α} {a : α} {f : α → Option β} (h : x = some a) :
    (x >>= f) = f a := by
  rw [h]
  rfl

theorem skipBlanks_of_stops {s : List Char} (h : Stops Text.isBlank s) : skipBlanks s = s :=
  Text.dropWhile_of_head? h

theorem skipBlanks_space {s : List Char} (h : Stops Text.isBlank s) : skipBlanks (' ' :: s) = s :=
  skipBlanks_of_stops h

theorem blanks_space {s : List Char} (h : Stops Text.isBlank s) : blanks (' ' :: s) = some s := by
  unfold blanks
  rw [skipBlanks_space h]
  exact if_pos (Nat.lt_succ_self _)

@[simp] theorem exactly_cons (c : Char) (s : List Char) : exactly c (c :: s) = some s :=
  if_pos rfl

/-! ### Numbers -/

theorem isDigit_of_mem_padded {width n : Nat} {c : Char} (h : c ∈ Text.padded width n) :
    c.isDigit = true := by
  rcases List.mem_append.mp h with h | h
  · rw [(List.mem_replicate.mp h).2]
    rfl
  · exact Nat.isDigit_of_mem_toDigits (by decide) (by decide) h

theorem ofDigitChars_padded (width n : Nat) : Nat.ofDigitChars 10 (Text.padded width n) 0 = n := by
  unfold Text.padded
  rw [Nat.ofDigitChars_append, Nat.ofDigitChars_replicate_zero, Nat.mul_zero,
    Nat.ofDigitChars_ten_toDigits]

theorem length_padded {width n : Nat} (short : (Nat.toDigits 10 n).length ≤ width) :
    (Text.padded width n).length = width := by
  unfold Text.padded
  rw [List.length_append, List.length_replicate]
  omega

theorem length_toDigits_two {n : Nat} (h : n < 100) : (Nat.toDigits 10 n).length ≤ 2 :=
  (Nat.length_toDigits_le_iff (by decide) (by decide)).mpr h

theorem length_toDigits_four {n : Nat} (h : n < 10000) : (Nat.toDigits 10 n).length ≤ 4 :=
  (Nat.length_toDigits_le_iff (by decide) (by decide)).mpr h

theorem not_isBlank_of_isDigit {c : Char} (h : c.isDigit = true) : Text.isBlank c = false := by
  have range : 48 ≤ c.toNat ∧ c.toNat ≤ 57 := by
    simp only [Char.isDigit, Bool.and_eq_true, decide_eq_true_eq] at h
    exact h
  simp only [Text.isBlank, Bool.or_eq_false_iff, Bool.and_eq_false_iff, decide_eq_false_iff_not,
    beq_eq_false_iff_ne]
  omega

/-- A number stands without a blank in front of it. -/
theorem stops_of_digits {ds : List Char} (all : ∀ c ∈ ds, c.isDigit = true) (ne : ds ≠ [])
    (rest : List Char) : Stops Text.isBlank (ds ++ rest) :=
  Stops.append (fun c h => not_isBlank_of_isDigit (all c (List.mem_of_mem_head? h))) ne rest

/-- **Digits are read to their end.** -/
theorem digits_append {least : Nat} {most : Option Nat} {ds rest : List Char}
    (all : ∀ c ∈ ds, c.isDigit = true) (stop : Stops Char.isDigit rest) (low : least ≤ ds.length)
    (high : ∀ n, most = some n → ds.length ≤ n) :
    digits least most (ds ++ rest) = some (Nat.ofDigitChars 10 ds 0, rest) := by
  have taken : (ds ++ rest).takeWhile Char.isDigit = ds := by
    rw [List.takeWhile_append_of_pos all]
    cases rest with
    | nil => simp
    | cons c rest => simp [stops_cons.mp stop]
  unfold digits
  dsimp only
  rw [taken]
  cases most with
  | none => simp only [if_pos low, List.drop_left]
  | some n => simp only [List.take_of_length_le (high n rfl), if_pos low, List.drop_left]

/-- A padded number is read back. -/
theorem digits_padded {least width n : Nat} {most : Option Nat} {rest : List Char}
    (short : (Nat.toDigits 10 n).length ≤ width) (stop : Stops Char.isDigit rest)
    (low : least ≤ width) (high : ∀ k, most = some k → width ≤ k) :
    digits least most (Text.padded width n ++ rest) = some (n, rest) := by
  have length := length_padded short
  rw [digits_append (fun c hc => isDigit_of_mem_padded hc) stop (length.symm ▸ low)
    (fun k hk => length.symm ▸ high k hk), ofDigitChars_padded]

theorem digits_two {least n : Nat} {rest : List Char} (h : n < 100) (stop : Stops Char.isDigit rest)
    (low : least ≤ 2) : digits least (some 2) (Text.padded 2 n ++ rest) = some (n, rest) :=
  digits_padded (length_toDigits_two h) stop low fun _ hk => (Option.some.inj hk).le

theorem padded_ne_nil (width n : Nat) : Text.padded width n ≠ [] :=
  List.append_ne_nil_of_right_ne_nil _ Nat.toDigits_ne_nil

theorem stops_padded {width n : Nat} (rest : List Char) :
    Stops Text.isBlank (Text.padded width n ++ rest) :=
  stops_of_digits (fun _ => isDigit_of_mem_padded) (padded_ne_nil width n) rest

/-! ### Names -/

theorem startsWithName_append {name s rest : List Char} (h : name.length = s.length) :
    startsWithName name (s ++ rest) = Text.eqIgnoreCase name s := by
  unfold startsWithName
  rw [h, List.take_left, List.length_append]
  simp

theorem startsWithName_cons_eq_false {name : List Char} {c : Char}
    (h : startsWithName (name.take 1) [c] = false) (rest : List Char) :
    startsWithName name (c :: rest) = false := by
  cases name with
  | nil => cases h
  | cons d name =>
    have other : ¬ d.toLower = c.toLower := by
      simpa [startsWithName, Text.eqIgnoreCase] using h
    simp [startsWithName, Text.eqIgnoreCase, other]

/-- **A name of a list is found** if all the names are of its length. -/
theorem nameOf_append {names : List String} {s rest : List Char} {i : Nat}
    (same : ∀ n ∈ names, n.toList.length = s.length)
    (found : names.findIdx? (fun n => Text.eqIgnoreCase n.toList s) = some i) :
    nameOf names (s ++ rest) = some (i, rest) := by
  obtain ⟨lt, here, before⟩ := List.findIdx?_eq_some_iff_getElem.mp found
  have equal (j : Nat) (h : j < names.length) : startsWithName names[j].toList (s ++ rest) =
      Text.eqIgnoreCase names[j].toList s :=
    startsWithName_append (same _ (List.getElem_mem h))
  have search : names.findIdx? (fun n => startsWithName n.toList (s ++ rest)) = some i :=
    List.findIdx?_eq_some_iff_getElem.mpr ⟨lt, (equal i lt).trans here, fun j hj other =>
      before j hj ((equal j (hj.trans lt)).symm.trans other)⟩
  have length : (names.getD i "").length = s.length := by
    rw [List.getD_eq_getElem?_getD, List.getElem?_eq_getElem lt, ← String.length_toList]
    exact same _ (List.getElem_mem lt)
  unfold nameOf
  rw [search]
  dsimp only
  rw [length, List.drop_left]

theorem shortWeekday_append {w : Nat} (h : w < 7) (rest : List Char) :
    shortWeekday (weekdayText w ++ rest) = some (w, rest) := by
  have all : ∀ w < 7, (∀ n ∈ weekdayNames.map (·.1), n.toList.length = (weekdayText w).length) ∧
      (weekdayNames.map (·.1)).findIdx? (fun n => Text.eqIgnoreCase n.toList (weekdayText w)) =
        some w := by decide
  exact nameOf_append (all w h).1 (all w h).2

/-- The long name is read as well as the short one, … -/
theorem anyWeekday_long {w : Nat} (h : w < 7) (rest : List Char) :
    anyWeekday (weekdayText w ++ (weekdayRest w ++ rest)) = some (w, rest) := by
  have more : startsWithName (weekdayRest w) (weekdayRest w ++ rest) = true :=
    (startsWithName_append rfl).trans (beq_self_eq_true _)
  unfold anyWeekday
  rw [bind_of_eq (shortWeekday_append h _)]
  change some (w, if startsWithName (weekdayRest w) _ then List.drop (weekdayRest w).length _ else _) = _
  rw [if_pos more, List.drop_left]

/-- … which no space completes. -/
theorem anyWeekday_short {w : Nat} (h : w < 7) (rest : List Char) :
    anyWeekday (weekdayText w ++ ' ' :: rest) = some (w, ' ' :: rest) := by
  have start : ∀ w < 7, startsWithName ((weekdayRest w).take 1) [' '] = false := by decide
  have more : startsWithName (weekdayRest w) (' ' :: rest) = false :=
    startsWithName_cons_eq_false (start w h) rest
  unfold anyWeekday
  rw [bind_of_eq (shortWeekday_append h _)]
  change some (w, if startsWithName (weekdayRest w) _ then List.drop (weekdayRest w).length _ else _) = _
  rw [more]
  rfl

theorem month_append {m : Nat} (first : 1 ≤ m) (last : m ≤ 12) (rest : List Char) :
    month (monthText m ++ rest) = some (m, rest) := by
  have all : ∀ m < 13, 1 ≤ m → (∀ n ∈ monthNames, n.toList.length = (monthText m).length) ∧
      monthNames.findIdx? (fun n => Text.eqIgnoreCase n.toList (monthText m)) =
        some (m - 1) := by decide
  obtain ⟨same, found⟩ := all m (by omega) first
  unfold month
  rw [nameOf_append same found, Option.map_some]
  dsimp only
  rw [Nat.sub_add_cancel first]

theorem stops_weekdayText {w : Nat} (h : w < 7) (rest : List Char) :
    Stops Text.isBlank (weekdayText w ++ rest) := by
  have all : ∀ w < 7, (weekdayText w).head?.all (!Text.isBlank ·) = true ∧ weekdayText w ≠ [] := by
    decide
  obtain ⟨first, ne⟩ := all w h
  exact Stops.append (fun c hc => by simpa [hc] using first) ne rest

theorem stops_monthText {m : Nat} (first : 1 ≤ m) (last : m ≤ 12) (rest : List Char) :
    Stops Text.isBlank (monthText m ++ rest) := by
  have all : ∀ m < 13, 1 ≤ m →
      (monthText m).head?.all (!Text.isBlank ·) = true ∧ monthText m ≠ [] := by
    decide
  obtain ⟨first, ne⟩ := all m (by omega) first
  exact Stops.append (fun c hc => by simpa [hc] using first) ne rest

/-! ## 3. The three parsers -/

/-- A day of one digit is read behind two spaces, one of two digits behind one. -/
theorem field_spaced {n : Nat} {rest : List Char} (h : n < 100) (stop : Stops Char.isDigit rest) :
    field 2 (' ' :: ((if n < 10 then [' '] else []) ++ (Nat.toDigits 10 n ++ rest))) =
      some (n, rest) := by
  have all : ∀ c ∈ Nat.toDigits 10 n, c.isDigit = true :=
    fun c hc => Nat.isDigit_of_mem_toDigits (by decide) (by decide) hc
  have number : field 2 (Nat.toDigits 10 n ++ rest) = some (n, rest) := by
    unfold field
    rw [skipBlanks_of_stops (stops_of_digits all Nat.toDigits_ne_nil rest),
      digits_append all stop Nat.length_toDigits_pos fun k hk => Option.some.inj hk ▸
        length_toDigits_two h,
      Nat.ofDigitChars_ten_toDigits]
  split
  · exact number
  · exact number

theorem field_padded {n : Nat} {rest : List Char} (h : n < 100) (stop : Stops Char.isDigit rest) :
    field 2 (Text.padded 2 n ++ rest) = some (n, rest) := by
  unfold field
  rw [skipBlanks_of_stops (stops_padded _), digits_two h stop (by decide)]

theorem signedYear_padded {n : Nat} (h : n < 10000) :
    signedYear (' ' :: Text.padded 4 n) = some ((n : Int), []) := by
  have whole : digits 1 (some 4) (Text.padded 4 n ++ []) = some (n, []) :=
    digits_padded (length_toDigits_four h) (stops_nil _) (by decide)
      fun _ hk => (Option.some.inj hk).le
  have stop : Stops Text.isBlank (Text.padded 4 n ++ []) := stops_padded []
  have digit : ∀ c ∈ Text.padded 4 n, c.isDigit = true := fun _ => isDigit_of_mem_padded
  rw [List.append_nil] at whole stop
  unfold signedYear
  rw [skipBlanks_space stop]
  split
  · rename_i text
    rw [text] at digit
    cases digit _ (List.mem_cons_self ..)
  · rename_i text
    rw [text] at digit
    cases digit _ (List.mem_cons_self ..)
  · rw [whole]
    rfl

section

variable {w year : Nat} {dt : DateTime}

theorem timeText_append (dt : DateTime) (rest : List Char) : timeText dt ++ rest =
    Text.padded 2 dt.hour ++ ':' :: (Text.padded 2 dt.minute ++ ':' ::
      (Text.padded 2 dt.second ++ rest)) := by
  simp [timeText]

theorem stops_timeText (dt : DateTime) (rest : List Char) :
    Stops Text.isBlank (timeText dt ++ rest) := by
  rw [timeText_append]
  exact stops_padded _

theorem clock_timeText (h : AreBounded w dt) {rest : List Char} (stop : Stops Char.isDigit rest) :
    clock (timeText dt ++ rest) = some ((dt.hour, dt.minute, dt.second), rest) := by
  obtain ⟨-, -, -, -, hour, minute, second⟩ := h
  have part {n : Nat} (h : n < 60) (rest : List Char) :
      field 2 (Text.padded 2 n ++ ':' :: rest) = some (n, ':' :: rest) :=
    field_padded (by omega) (stops_cons.mpr rfl)
  rw [timeText_append, clock, bind_of_eq (part (hour.trans (by decide)) _)]
  dsimp only
  rw [bind_of_eq (exactly_cons _ _), bind_of_eq (part minute _)]
  dsimp only
  rw [bind_of_eq (exactly_cons _ _), bind_of_eq (field_padded (second.trans_lt (by decide)) stop)]
  rfl

theorem clock_space (s : List Char) : clock (' ' :: s) = clock s := rfl

/-- **The first parser reads the first form.** -/
theorem parseMail?_text (h : AreBounded w dt) (same : dt.date.year = year) (short : year < 10000) :
    parseMail? (weekdayText w ++ ',' :: ' ' :: (Text.padded 2 dt.date.day ++ ' ' ::
      (monthText dt.date.month ++ ' ' :: (Text.padded 4 year ++ ' ' ::
        (timeText dt ++ [' ', 'G', 'M', 'T']))))) = assemble (some w) dt 0 := by
  obtain ⟨weekday, firstMonth, lastMonth, day, hour, minute, second⟩ := h
  have weekdayRead (rest : List Char) : mailWeekday (skipBlanks (weekdayText w ++ ',' :: rest)) =
      some (some w, rest) := by
    rw [skipBlanks_of_stops (stops_weekdayText weekday _), mailWeekday, shortWeekday_append weekday]
    dsimp only
    rw [exactly_cons]
    rfl
  have dayRead (rest : List Char) : digits 1 (some 2) (Text.padded 2 dt.date.day ++ ' ' :: rest) =
      some (_, ' ' :: rest) :=
    digits_two (by omega) (stops_cons.mpr rfl) (by decide)
  have yearRead (rest : List Char) : digits 2 none (Text.padded 4 year ++ ' ' :: rest) =
      some (_, ' ' :: rest) :=
    digits_padded (length_toDigits_four short) (stops_cons.mpr rfl) (by decide)
      fun _ hk => by cases hk
  have yearLength (rest : List Char) : (Text.padded 4 year ++ rest).length - rest.length = 4 := by
    rw [List.length_append, length_padded (length_toDigits_four short), Nat.add_sub_cancel]
  have partRead {n : Nat} (h : n < 60) (rest : List Char) :
      digits 2 (some 2) (Text.padded 2 n ++ ':' :: rest) = some (n, ':' :: rest) :=
    digits_two (by omega) (stops_cons.mpr rfl) (by decide)
  have secondRead : mailSeconds (':' :: (Text.padded 2 dt.second ++ [' ', 'G', 'M', 'T'])) =
      some (_, [' ', 'G', 'M', 'T']) :=
    digits_two (by omega) (stops_cons.mpr rfl) (by decide)
  have zoneRead : zone ['G', 'M', 'T'] = some (0, []) := by decide
  have yearEq : mailYear 4 year = dt.date.year := same.symm
  unfold parseMail?
  rw [bind_of_eq (weekdayRead _)]
  dsimp only
  rw [skipBlanks_space (stops_padded _), bind_of_eq (dayRead _)]
  dsimp only
  rw [bind_of_eq (blanks_space (stops_monthText firstMonth lastMonth _)),
    bind_of_eq (month_append firstMonth lastMonth _)]
  dsimp only
  rw [bind_of_eq (blanks_space (stops_padded _)), bind_of_eq (yearRead _)]
  dsimp only
  rw [yearLength, yearEq, timeText_append, bind_of_eq (blanks_space (stops_padded _)),
    bind_of_eq (partRead (hour.trans (by decide)) _)]
  dsimp only
  rw [skipBlanks_of_stops (stops_cons.mpr rfl), bind_of_eq (exactly_cons _ _),
    skipBlanks_of_stops (stops_padded _), bind_of_eq (partRead minute _)]
  dsimp only
  rw [bind_of_eq secondRead]
  dsimp only
  rw [bind_of_eq (blanks_space (stops_cons.mpr rfl)), bind_of_eq zoneRead]
  exact if_pos (by decide)

/-- **The second parser reads the form with dashes** and adds the century. -/
theorem parseDashed?_text (h : AreBounded w dt) (short : year < 100)
    (same : dt.date.year = if year < 70 then (year : Int) + 2000 else (year : Int) + 1900) :
    parseDashed? (weekdayText w ++ (weekdayRest w ++ ',' :: ' ' :: (Text.padded 2 dt.date.day ++ '-' ::
      (monthText dt.date.month ++ '-' :: (Text.padded 2 year ++ ' ' ::
        (timeText dt ++ [' ', 'G', 'M', 'T'])))))) = assemble (some w) dt 0 := by
  have dayRead (rest : List Char) : field 2 (Text.padded 2 dt.date.day ++ '-' :: rest) =
      some (_, '-' :: rest) :=
    field_padded (Nat.lt_of_le_of_lt h.day (by decide)) (stops_cons.mpr rfl)
  have yearRead (rest : List Char) : field 2 (Text.padded 2 year ++ ' ' :: rest) =
      some (_, ' ' :: rest) :=
    field_padded short (stops_cons.mpr rfl)
  have clockRead : clock (timeText dt ++ [' ', 'G', 'M', 'T']) = some (_, [' ', 'G', 'M', 'T']) :=
    clock_timeText h (stops_cons.mpr rfl)
  unfold parseDashed?
  rw [bind_of_eq (anyWeekday_long h.weekday _)]
  dsimp only
  rw [bind_of_eq (exactly_cons _ _), skipBlanks_space (stops_padded _), bind_of_eq (dayRead _)]
  dsimp only
  rw [bind_of_eq (exactly_cons _ _), bind_of_eq (month_append h.firstMonth h.lastMonth _)]
  dsimp only
  rw [bind_of_eq (exactly_cons _ _), bind_of_eq (yearRead _)]
  dsimp only
  rw [skipBlanks_space (stops_timeText _ _), bind_of_eq clockRead]
  dsimp only
  rw [if_pos (by decide), ← same]

/-- **The third parser reads the form without commas.** -/
theorem parsePlain?_text (h : AreBounded w dt) (same : dt.date.year = year) (short : year < 10000) :
    parsePlain? (weekdayText w ++ ' ' :: (monthText dt.date.month ++ ' ' ::
      ((if dt.date.day < 10 then [' '] else []) ++ (Nat.toDigits 10 dt.date.day ++ ' ' ::
        (timeText dt ++ ' ' :: Text.padded 4 year))))) = assemble (some w) dt 0 := by
  have dayRead (rest : List Char) : field 2 (' ' :: ((if dt.date.day < 10 then [' '] else []) ++
      (Nat.toDigits 10 dt.date.day ++ ' ' :: rest))) = some (_, ' ' :: rest) :=
    field_spaced (Nat.lt_of_le_of_lt h.day (by decide)) (stops_cons.mpr rfl)
  have clockRead : clock (timeText dt ++ ' ' :: Text.padded 4 year) =
      some (_, ' ' :: Text.padded 4 year) :=
    clock_timeText h (stops_cons.mpr rfl)
  unfold parsePlain?
  rw [bind_of_eq (shortWeekday_append h.weekday _)]
  dsimp only
  rw [skipBlanks_space (stops_monthText h.firstMonth h.lastMonth _),
    bind_of_eq (month_append h.firstMonth h.lastMonth _)]
  dsimp only
  rw [bind_of_eq (dayRead _)]
  dsimp only
  rw [clock_space, bind_of_eq clockRead]
  dsimp only
  rw [bind_of_eq (signedYear_padded short)]
  dsimp only
  rw [if_pos rfl, ← same]

end

/-! ### Forms of an instant -/

section

variable {t : Instant}

theorem assemble_ofInstant (regular : IsRegular t) (low : 0 ≤ yearOf t) (high : yearOf t ≤ 9999) :
    assemble (some (weekdayOf (t.seconds / 86400))) (DateTime.ofInstant t) 0 = some t := by
  have days : daysBefore (DateTime.ofInstant t).date = t.seconds / 86400 := daysBefore_dateOf _
  unfold assemble
  rw [days, Option.all_some, if_pos (beq_self_eq_true _)]
  refine toInstant?_ofInstant regular ?_ ?_
  · unfold minYear
    omega
  · unfold maxYear
    omega

theorem parseMail?_format (regular : IsRegular t) (low : 0 ≤ yearOf t) (high : yearOf t ≤ 9999) :
    parseMail? (format t) = some t := by
  have year : yearText (DateTime.ofInstant t).date.year = Text.padded 4 (yearOf t).toNat :=
    if_pos ⟨low, high⟩
  have text := parseMail?_text (areBounded t) (Int.toNat_of_nonneg low).symm (by omega)
  rw [assemble_ofInstant regular low high] at text
  rw [← text]
  simp [format, year]

theorem parseDashed?_dashedText (regular : IsRegular t) (low : 1970 ≤ yearOf t)
    (high : yearOf t ≤ 2069) : parseDashed? (dashedText t) = some t := by
  have century : (DateTime.ofInstant t).date.year = if (yearOf t % 100).toNat < 70
      then ((yearOf t % 100).toNat : Int) + 2000 else ((yearOf t % 100).toNat : Int) + 1900 := by
    change yearOf t = _
    split <;> omega
  have text := parseDashed?_text (areBounded t) (by omega) century
  rw [assemble_ofInstant regular (by omega) (by omega)] at text
  rw [← text]
  simp [dashedText, yearOf]

theorem parsePlain?_plainText (regular : IsRegular t) (low : 0 ≤ yearOf t)
    (high : yearOf t ≤ 9999) : parsePlain? (plainText t) = some t := by
  have year : yearText (DateTime.ofInstant t).date.year = Text.padded 4 (yearOf t).toNat :=
    if_pos ⟨low, high⟩
  have text := parsePlain?_text (areBounded t) (Int.toNat_of_nonneg low).symm (by omega)
  rw [assemble_ofInstant regular low high] at text
  rw [← text]
  simp [plainText, year]

end

/-! ## 4. The parsers before it -/

theorem exactly_eq_none {c : Char} {s : List Char} (h : Stops (· == c) s) : exactly c s = none := by
  cases s with
  | nil => rfl
  | cons d s =>
    have other : (d == c) = false := h d rfl
    exact if_neg (ne_of_beq_false other)

/-- Without a comma behind the short name there is no mail date. -/
theorem parseMail?_eq_none {w : Nat} (h : w < 7) {rest : List Char} (stop : Stops (· == ',') rest) :
    parseMail? (weekdayText w ++ rest) = none := by
  unfold parseMail? mailWeekday
  rw [skipBlanks_of_stops (stops_weekdayText h _), shortWeekday_append h]
  dsimp only
  rw [exactly_eq_none stop]
  rfl

theorem parseDashed?_eq_none {w : Nat} (h : w < 7) (rest : List Char) :
    parseDashed? (weekdayText w ++ ' ' :: rest) = none := by
  unfold parseDashed?
  rw [anyWeekday_short h]
  rfl

/-- Behind the short name the form with dashes goes on with a letter, … -/
theorem exists_dashedText (t : Instant) : ∃ rest, dashedText t =
    weekdayText (weekdayOf (t.seconds / 86400)) ++ rest ∧ Stops (· == ',') rest := by
  have all : ∀ w < 7, (weekdayRest w).head?.all (· != ',') = true ∧ weekdayRest w ≠ [] := by
    decide
  obtain ⟨letter, ne⟩ := all _ (areBounded t).weekday
  exact ⟨_, by simp only [dashedText, List.append_assoc]; rfl,
    Stops.append (fun c hc => by simpa [hc] using letter) ne _⟩

/-- … and the one without commas with a space. -/
theorem exists_plainText (t : Instant) : ∃ rest, plainText t =
    weekdayText (weekdayOf (t.seconds / 86400)) ++ ' ' :: rest :=
  ⟨_, by simp only [plainText, List.append_assoc, List.cons_append, List.nil_append]; rfl⟩

/-- A text that goes from a weekday to a letter or a digit has no blanks at its ends. -/
theorem trim_eq {w : Nat} (h : w < 7) {s rest front tail : List Char} {c : Char}
    (begins : s = weekdayText w ++ rest) (ends : s = front ++ tail) (last : tail.getLast? = some c)
    (plain : Text.isBlank c = false) : Text.trim s = s := by
  refine Text.IsTrimmedBy.trimBy_eq ⟨begins ▸ stops_weekdayText h rest, fun d hd => ?_⟩
  rw [ends, List.getLast?_append, last, Option.some_or, Option.some.injEq] at hd
  exact hd ▸ plain

theorem parse?_of_trim {s : List Char} (h : Text.trim s = s) :
    parse? s = (parseMail? s).or ((parseDashed? s).or (parsePlain? s)) := by
  unfold parse?
  rw [h]

/-- **Every form of an instant is read as that instant**: the one that is written, the one without
    commas and, as far as the years of two digits go, the one with dashes. -/
theorem parse_forms (t : Instant) (regular : IsRegular t) (low : 0 ≤ yearOf t)
    (high : yearOf t ≤ 9999) : parse? (format t) = some t ∧ parse? (plainText t) = some t ∧
      (1970 ≤ yearOf t → yearOf t ≤ 2069 → parse? (dashedText t) = some t) := by
  have weekday := (areBounded t).weekday
  obtain ⟨dashed, dashedEq, noComma⟩ := exists_dashedText t
  obtain ⟨plain, plainEq⟩ := exists_plainText t
  have year : yearText (DateTime.ofInstant t).date.year = Text.padded 4 (yearOf t).toNat :=
    if_pos ⟨low, high⟩
  obtain ⟨digit, lastDigit⟩ := Option.isSome_iff_exists.mp (List.getLast?_isSome.mpr
    (padded_ne_nil 4 (yearOf t).toNat))
  have noBlank : Text.isBlank digit = false :=
    not_isBlank_of_isDigit (isDigit_of_mem_padded (List.mem_of_getLast? lastDigit))
  refine ⟨?_, ?_, fun first last => ?_⟩
  · have trimmed : Text.trim (format t) = format t :=
      trim_eq weekday (by simp only [format, List.append_assoc]; rfl) rfl (c := 'T') rfl rfl
    rw [parse?_of_trim trimmed, parseMail?_format regular low high, Option.some_or]
  · have trimmed : Text.trim (plainText t) = plainText t :=
      trim_eq weekday plainEq rfl (year ▸ lastDigit) noBlank
    rw [parse?_of_trim trimmed, parsePlain?_plainText regular low high, plainEq,
      parseMail?_eq_none weekday (stops_cons.mpr rfl), parseDashed?_eq_none weekday]
    rfl
  · have trimmed : Text.trim (dashedText t) = dashedText t :=
      trim_eq weekday dashedEq rfl (c := 'T') rfl rfl
    rw [parse?_of_trim trimmed, parseDashed?_dashedText regular first last, dashedEq,
      parseMail?_eq_none weekday noComma]
    rfl

/-- A second of the year 1994, in all three forms. -/
theorem parse_forms_november :
    parse? (format ⟨784111777, false⟩) = some ⟨784111777, false⟩ ∧
      parse? (plainText ⟨784111777, false⟩) = some ⟨784111777, false⟩ ∧
        parse? (dashedText ⟨784111777, false⟩) = some ⟨784111777, false⟩ := by
  have year : yearOf ⟨784111777, false⟩ = 1994 := by decide
  obtain ⟨mail, plain, dashed⟩ := parse_forms ⟨784111777, false⟩ (fun leap => by cases leap)
    (by rw [year]; decide) (by rw [year]; decide)
  exact ⟨mail, plain, dashed (by rw [year]; decide) (by rw [year]; decide)⟩

end TrialProtocol.Calendar
