import TrialProtocol.Text.Blank

/-!
# Labels in ASCII letters

A label beyond ASCII is written in ASCII: first its ASCII characters, then, behind a hyphen, where the
others belong. These are given in rising order, each as the number of steps from the one before, where
a step is a place in the text or, past its end, the next code point. The digits of a number carry
their own end: the first that lies below its threshold is the last.
-/

namespace TrialProtocol.Idna.Punycode

/-! ## 1. Digits and thresholds -/

/-- The number of digits. -/
def base : Nat := 36

/-- The character of a digit: the small letters, then `0` to `9`. -/
def digitChar (d : Nat) : Char :=
  if d < 26 then Char.ofNat ('a'.toNat + d) else Char.ofNat ('0'.toNat + (d - 26))

/-- The digit of a character. -/
def digit? (c : Char) : Option Nat :=
  if c.isLower then some (c.toNat - 'a'.toNat)
  else if c.isUpper then some (c.toNat - 'A'.toNat)
  else if c.isDigit then some (c.toNat - '0'.toNat + 26)
  else none

/-- The threshold of the digit at a position, counted in steps of the base. -/
def threshold (position bias : Nat) : Nat :=
  if position ≤ bias then 1 else min 26 (position - bias)

/-- Divides by 35 while the number is above 455, and counts the divisions. -/
def scaleDown (delta count : Nat) : Nat × Nat :=
  if 455 < delta then scaleDown (delta / 35) (count + 1) else (delta, count)
termination_by delta
decreasing_by exact Nat.div_lt_self (by omega) (by omega)

/-- The bias after a number, for a text that now has `length` characters. The first number of a text
    counts for less. -/
def adapt (delta length : Nat) (isFirst : Bool) : Nat :=
  let delta := if isFirst then delta / 700 else delta / 2
  let (delta, count) := scaleDown (delta + delta / length) 0
  base * count + base * delta / (delta + 38)

theorem digit?_digitChar {d : Nat} (h : d < base) : digit? (digitChar d) = some d := by
  have all : ∀ k : Fin 36, digit? (digitChar k.val) = some k.val := by decide
  exact all ⟨d, h⟩

theorem threshold_pos (position bias : Nat) : 1 ≤ threshold position bias := by
  unfold threshold
  split <;> omega

theorem threshold_le (position bias : Nat) : threshold position bias ≤ 26 := by
  unfold threshold
  split <;> omega

/-! ## 2. Writing -/

/-- The digits of a number from a position on. -/
def digits (bias position n : Nat) : List Char :=
  let t := threshold position bias
  if n < t then [digitChar n]
  else digitChar (t + (n - t) % (base - t)) :: digits bias (position + base) ((n - t) / (base - t))
termination_by n
decreasing_by
  have h1 := threshold_pos position bias
  calc (n - threshold position bias) / (base - threshold position bias)
      ≤ n - threshold position bias := Nat.div_le_self _ _
    _ < n := by omega

/-- A label under writing. -/
structure Writing where
  /-- The digits so far. -/
  out : List Char := []
  /-- Steps since the last number. -/
  delta : Nat := 0
  bias : Nat := 72
  /-- How many characters are written. -/
  count : Nat

/-- Passes one character of the label on the way to the places of the code point `n`. -/
def Writing.pass (basic n : Nat) (s : Writing) (c : Char) : Writing :=
  if c.toNat < n then { s with delta := s.delta + 1 }
  else if c.toNat = n then
    { out := s.out ++ digits s.bias base s.delta
      delta := 0
      bias := adapt s.delta (s.count + 1) (s.count == basic)
      count := s.count + 1 }
  else s

/-- Writes the places of code points in rising order, of which `next` is the least that is left. -/
def writeAll (label : List Char) (basic : Nat) : Nat → List Nat → Writing → Writing
  | _, [], s => s
  | next, n :: rest, s =>
    let s := { s with delta := s.delta + (n - next) * (s.count + 1) }
    let s := label.foldl (Writing.pass basic n) s
    writeAll label basic (n + 1) rest { s with delta := s.delta + 1 }

/-- Puts a number into a rising list, once. -/
def insertOnce (n : Nat) : List Nat → List Nat
  | [] => [n]
  | m :: rest =>
    if n < m then n :: m :: rest else if n = m then m :: rest else m :: insertOnce n rest

/-- The code points beyond ASCII, in rising order. -/
def codesBeyond (label : List Char) : List Nat :=
  (label.filter fun c => 0x80 ≤ c.toNat).foldr (fun c l => insertOnce c.toNat l) []

/-- The written label. -/
def encode (label : List Char) : List Char :=
  let ascii := label.filter fun c => c.toNat < 0x80
  let written := writeAll label ascii.length 0x80 (codesBeyond label) { count := ascii.length }
  (if ascii.isEmpty then [] else ascii ++ ['-']) ++ written.out

/-! ## 3. Reading -/

/-- A label under reading: the text so far, the code point and the place of the last character, and
    the number that is being read. -/
structure Reading where
  text : List Char
  code : Nat := 0x80
  place : Nat := 0
  bias : Nat := 72
  number : Nat := 0
  weight : Nat := 1
  position : Nat := base

/-- Puts the next character in its place, so many steps behind the last one. -/
def Reading.insert? (s : Reading) (number : Nat) : Option Reading :=
  let length := s.text.length + 1
  let code := s.code + (s.place + number) / length
  let place := (s.place + number) % length
  if code.isValidChar then
    some {
      text := s.text.insertIdx place (Char.ofNat code)
      code := code
      place := place + 1
      bias := adapt number length (s.place == 0) }
  else none

/-- Reads a digit, and with the last one of a number puts a character in its place. -/
def Reading.read (s : Reading) (c : Char) : Option Reading := do
  let d ← digit? c
  let number := s.number + d * s.weight
  let t := threshold s.position s.bias
  if t ≤ d then
    return { s with
      number := number
      weight := s.weight * (base - t)
      position := s.position + base }
  else s.insert? number

/-- The ASCII characters of a written label, and the digits. A hyphen in front is a digit, and a wrong
    one. -/
def parts (s : List Char) : List Char × List Char :=
  match Text.splitOnce (· == '-') s.reverse with
  | some (digits, c :: ascii) => ((c :: ascii).reverse, digits.reverse)
  | _ => ([], s)

/-- Reads a written label. -/
def decode? (s : List Char) : Option (List Char) := do
  let (ascii, digits) := parts s
  let s ← digits.foldlM Reading.read { text := ascii }
  if s.position = base then return s.text else none

end TrialProtocol.Idna.Punycode
