/-!
# Numerals

Whole numbers in decimal digits, as counts, ids, limits and times are written, and single digits of
base sixteen, as escapes and addresses hold them.

* Reading a number takes an upper limit and says what is wrong; a leading `+` is allowed.
* The first fault from the left wins: a bad digit before the limit is passed, or the limit.
* Writing uses the fewest digits (`Nat.toDigits 10`).
* A digit of base sixteen is read in either case; each format says which it writes.
-/

namespace TrialProtocol.Text

/-! ## 1. Decimal numbers -/

/-- Why a text is no whole number up to a limit. -/
inductive NumeralFault where
  | empty
  | badDigit
  | tooLarge
  deriving DecidableEq, Repr

/-- The wording of a fault. -/
def NumeralFault.message : NumeralFault → String
  | .empty => "cannot parse integer from empty string"
  | .badDigit => "invalid digit found in string"
  | .tooLarge => "number too large to fit in target type"

/-- The value of a character between `0` and `9`. -/
def digitValue? (c : Char) : Option Nat :=
  if c.isDigit then some (c.toNat - '0'.toNat) else none

/-- Reads further digits behind a number already read. -/
def readDigits (limit : Nat) : Nat → List Char → Except NumeralFault Nat
  | acc, [] => .ok acc
  | acc, c :: rest =>
    match digitValue? c with
    | none => .error .badDigit
    | some d =>
      if 10 * acc + d ≤ limit then readDigits limit (10 * acc + d) rest
      else .error .tooLarge

/-- Reads a whole number of at most `limit`. -/
def readNat (limit : Nat) : List Char → Except NumeralFault Nat
  | [] => .error .empty
  | ['+'] => .error .badDigit
  | '+' :: rest => readDigits limit 0 rest
  | s => readDigits limit 0 s

/-- The largest value of 32 bits without a sign. -/
def maxWord32 : Nat := 0xffffffff

/-- The largest value of 64 bits without a sign. -/
def maxWord64 : Nat := 0xffffffffffffffff

/-! ## 2. Writing and reading back -/

/-- A number in decimal digits, padded with zeros on the left up to `width`. -/
def padded (width n : Nat) : List Char :=
  let digits := Nat.toDigits 10 n
  List.replicate (width - digits.length) '0' ++ digits

theorem digitValue?_of_isDigit {c : Char} (h : c.isDigit = true) :
    digitValue? c = some (c.toNat - '0'.toNat) := by
  simp [digitValue?, h]

theorem le_ofDigitChars (cs : List Char) (acc : Nat) :
    acc ≤ Nat.ofDigitChars 10 cs acc := by
  induction cs generalizing acc with
  | nil => simp
  | cons c cs ih =>
    rw [Nat.ofDigitChars_cons]
    exact Nat.le_trans (by omega) (ih _)

/-- Digits are read as their value as long as it stays within the limit. -/
theorem readDigits_eq_ok {limit : Nat} {cs : List Char} {acc : Nat}
    (hd : ∀ c ∈ cs, c.isDigit = true) (hl : Nat.ofDigitChars 10 cs acc ≤ limit) :
    readDigits limit acc cs = .ok (Nat.ofDigitChars 10 cs acc) := by
  induction cs generalizing acc with
  | nil => simp [readDigits]
  | cons c cs ih =>
    rw [Nat.ofDigitChars_cons] at hl ⊢
    have hle := Nat.le_trans (le_ofDigitChars cs _) hl
    rw [readDigits, digitValue?_of_isDigit (hd c (by simp))]
    simp only [hle, ↓reduceIte]
    exact ih (fun x hx => hd x (by simp [hx])) hl

/-- What is read of digits is their value. -/
theorem eq_of_readDigits {limit n : Nat} {cs : List Char} {acc : Nat}
    (h : readDigits limit acc cs = .ok n) : n = Nat.ofDigitChars 10 cs acc := by
  induction cs generalizing acc with
  | nil =>
    cases h
    rfl
  | cons c cs ih =>
    rw [readDigits] at h
    by_cases hd : c.isDigit = true
    · rw [digitValue?_of_isDigit hd] at h
      simp only at h
      split at h
      · rw [Nat.ofDigitChars_cons]
        exact ih h
      · cases h
    · rw [digitValue?, if_neg hd] at h
      cases h

/-- A written number has no sign. -/
theorem readNat_toDigits_eq (limit n : Nat) :
    readNat limit (Nat.toDigits 10 n) = readDigits limit 0 (Nat.toDigits 10 n) := by
  have hd : ∀ c ∈ Nat.toDigits 10 n, c.isDigit = true :=
    fun c hc => Nat.isDigit_of_mem_toDigits (by decide) (by decide) hc
  generalize hs : Nat.toDigits 10 n = s at hd
  match s, hd with
  | [], _ => exact absurd hs Nat.toDigits_ne_nil
  | c :: rest, hd =>
    have hc : c ≠ '+' := by
      intro e
      have := hd c (by simp)
      rw [e] at this
      exact absurd this (by decide)
    unfold readNat
    split
    · contradiction
    · rename_i e; simp_all
    · rename_i e; simp_all
    · rfl

/-- **A written number is read back**, up to the limit. -/
theorem readNat_toDigits {limit n : Nat} (h : n ≤ limit) :
    readNat limit (Nat.toDigits 10 n) = .ok n := by
  have hd : ∀ c ∈ Nat.toDigits 10 n, c.isDigit = true :=
    fun c hc => Nat.isDigit_of_mem_toDigits (by decide) (by decide) hc
  have hv : Nat.ofDigitChars 10 (Nat.toDigits 10 n) 0 = n := Nat.ofDigitChars_ten_toDigits
  rw [readNat_toDigits_eq, readDigits_eq_ok hd (by rw [hv]; exact h), hv]

/-- Whatever the limit, it is read as nothing else. -/
theorem eq_of_readNat_toDigits {limit m n : Nat} (h : readNat limit (Nat.toDigits 10 n) = .ok m) :
    m = n := by
  rw [readNat_toDigits_eq] at h
  rw [eq_of_readDigits h, Nat.ofDigitChars_ten_toDigits]

/-! ## 3. Hexadecimal digits -/

/-- The digit of a value below sixteen, with capital letters. -/
def upperHexDigit (n : Nat) : Char :=
  if n < 10 then Char.ofNat ('0'.toNat + n) else Char.ofNat ('A'.toNat + (n - 10))

/-- The digit of a value below sixteen, with small letters. -/
def lowerHexDigit (n : Nat) : Char :=
  if n < 10 then Char.ofNat ('0'.toNat + n) else Char.ofNat ('a'.toNat + (n - 10))

/-- The value of a hexadecimal digit in either case. -/
def hexValue? (c : Char) : Option Nat :=
  if c.isDigit then some (c.toNat - '0'.toNat)
  else if 'a' ≤ c ∧ c ≤ 'f' then some (c.toNat - 'a'.toNat + 10)
  else if 'A' ≤ c ∧ c ≤ 'F' then some (c.toNat - 'A'.toNat + 10)
  else none

theorem hexValue?_upperHexDigit {n : Nat} (h : n < 16) :
    hexValue? (upperHexDigit n) = some n := by
  have all : ∀ k : Fin 16, hexValue? (upperHexDigit k.val) = some k.val := by decide
  exact all ⟨n, h⟩

theorem hexValue?_lowerHexDigit {n : Nat} (h : n < 16) :
    hexValue? (lowerHexDigit n) = some n := by
  have all : ∀ k : Fin 16, hexValue? (lowerHexDigit k.val) = some k.val := by decide
  exact all ⟨n, h⟩

end TrialProtocol.Text
