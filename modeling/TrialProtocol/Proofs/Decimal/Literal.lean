import TrialProtocol.Decimal
import TrialProtocol.Proofs.Text.Parts

/-!
# Literals of numbers

A number stands in a document as a literal: perhaps a minus sign, whole digits of which the first is
zero only if it is the only one, perhaps a point and digits, perhaps an exponent. The mark of the
exponent may be small or large, and its sign may be left out. Nothing else of a literal is lost in the
decimal that is kept of it.

`scan_literal`: a literal is scanned as its decimal, whatever stands behind it, as long as that does not
continue it. The text is taken apart from the left. Each piece needs to know of its rest only how that
begins: the digits end where no digit follows, the fraction is absent where no point follows, and so on.
-/

namespace TrialProtocol

/-! ## 1. Literals -/

/-- How the sign of an exponent is written. -/
inductive Literal.Sign where
  | absent
  | plus
  | minus
  deriving DecidableEq, Repr

/-- The exponent of a literal, of at least one digit. -/
structure Literal.Exponent where
  large : Bool
  sign : Literal.Sign
  first : Digit
  more : List Digit
  deriving DecidableEq, Repr

/-- A number as a document may spell it. There is a point if there are digits behind it. -/
structure Literal where
  negative : Bool
  first : Digit
  more : List Digit
  fraction : List Digit
  exponent : Option Literal.Exponent
  no_leading_zero : first = 0 → more = []

namespace Literal

/-- The written sign. -/
def Sign.text : Sign → List Char
  | absent => []
  | plus => ['+']
  | minus => ['-']

/-- Whether an exponent with this sign is negative. -/
def Sign.isMinus : Sign → Bool
  | minus => true
  | absent | plus => false

/-- The digits of an exponent. -/
def Exponent.digits (e : Exponent) : List Digit :=
  e.first :: e.more

/-- The written exponent. -/
def Exponent.text (e : Exponent) : List Char :=
  (if e.large then 'E' else 'e') :: (e.sign.text ++ e.digits.map Digit.toChar)

/-- The exponent that is kept. -/
def Exponent.kept (e : Exponent) : Decimal.Exponent where
  negative := e.sign.isMinus
  first := e.first
  more := e.more

/-- The whole digits. -/
def whole (l : Literal) : List Digit :=
  l.first :: l.more

/-- The written literal. -/
def text (l : Literal) : List Char :=
  (if l.negative then ['-'] else []) ++ l.whole.map Digit.toChar ++
    Decimal.fractionText l.fraction ++ (l.exponent.map Exponent.text).getD []

/-- The decimal that is kept of a literal. -/
def decimal (l : Literal) : Decimal where
  negative := l.negative
  first := l.first
  more := l.more
  fraction := l.fraction
  exponent := l.exponent.map Exponent.kept
  no_leading_zero := l.no_leading_zero

end Literal

namespace Decimal

/-! ## 2. What stands behind a piece -/

/-- A document that does not begin with one of some characters. -/
def Avoids (p : Char → Bool) (doc : Document) : Prop :=
  ∀ c rest, doc = some c :: rest → p c = false

theorem avoids_nil (p : Char → Bool) : Avoids p [] := by
  intro c rest h
  cases h

theorem avoids_cons {p : Char → Bool} {c : Char} (h : p c = false) (rest : Document) :
    Avoids p (some c :: rest) := by
  intro d more e
  cases e
  exact h

/-- A decimal digit. -/
def isDigit (c : Char) : Bool :=
  (Digit.ofChar? c).isSome

/-- A character that may continue a number. -/
def continues (c : Char) : Bool :=
  isDigit c || c == '.' || c == 'e' || c == 'E'

theorem Avoids.mono {p q : Char → Bool} {doc : Document} (h : Avoids q doc)
    (hpq : ∀ c, p c = true → q c = true) : Avoids p doc := by
  intro c rest e
  have hq := h c rest e
  cases hp : p c with
  | false => rfl
  | true =>
    rw [hpq c hp] at hq
    cases hq

theorem isDigit_toChar (d : Digit) : isDigit d.toChar = true := by
  rw [isDigit, Digit.ofChar?_toChar]
  rfl

/-! ## 3. Digits -/

theorem takeDigits_of_avoids {rest : Document} (h : Avoids isDigit rest) :
    takeDigits rest = ([], rest) := by
  unfold takeDigits
  split
  · rename_i c more
    have hc := h c more rfl
    cases hd : Digit.ofChar? c with
    | none => rfl
    | some d => simp [isDigit, hd] at hc
  · rfl

theorem takeDigits_map (ds : List Digit) {rest : Document} (h : Avoids isDigit rest) :
    takeDigits ((ds.map Digit.toChar).map some ++ rest) = (ds, rest) := by
  induction ds with
  | nil => exact takeDigits_of_avoids h
  | cons d ds ih =>
    rw [List.map_cons, List.map_cons, List.cons_append, takeDigits]
    simp only [Digit.ofChar?_toChar, ih]

theorem scanDigits_map (d : Digit) (ds : List Digit) {rest : Document} (h : Avoids isDigit rest) :
    scanDigits (((d :: ds).map Digit.toChar).map some ++ rest) = .ok ((d, ds), rest) := by
  rw [scanDigits, takeDigits_map (d :: ds) h]

/-! ## 4. The other pieces -/

/-- No digit is a sign of some other kind. -/
theorem toChar_ne (d : Digit) {c : Char} (h : isDigit c = false) : d.toChar ≠ c := by
  intro e
  rw [← e, isDigit_toChar] at h
  cases h

theorem scanMinus_text (negative : Bool) (d : Digit) (rest : Document) :
    scanMinus ((if negative then ['-'] else []).map some ++ some d.toChar :: rest) =
      (negative, some d.toChar :: rest) := by
  cases negative with
  | true => rfl
  | false =>
    have hne : d.toChar ≠ '-' := toChar_ne d (by decide)
    unfold scanMinus
    split
    · rename_i heq
      simp at heq
      exact absurd heq.1 hne
    · rfl

theorem scanFraction_text (ds : List Digit) {rest : Document}
    (h : Avoids (fun c => isDigit c || c == '.') rest) :
    scanFraction ((fractionText ds).map some ++ rest) = .ok (ds, rest) := by
  cases ds with
  | nil =>
    unfold scanFraction
    split
    · rename_i more heq
      have := h '.' more heq
      simp at this
    · rfl
  | cons d ds =>
    have hd : Avoids isDigit rest := h.mono fun c hc => by simp [hc]
    have he : (fractionText (d :: ds)).map some ++ rest =
        some '.' :: (((d :: ds).map Digit.toChar).map some ++ rest) := rfl
    rw [he, scanFraction, scanDigits_map d ds hd]
    rfl

/-- Where no sign stands, none is passed over. -/
theorem scanSign_of_ne {c : Char} (plus : c ≠ '+') (minus : c ≠ '-') (rest : Document) :
    scanSign (some c :: rest) = (false, some c :: rest) := by
  unfold scanSign
  split
  · rename_i heq
    cases heq
    exact absurd rfl plus
  · rename_i heq
    cases heq
    exact absurd rfl minus
  · rfl

theorem scanSign_text (sign : Literal.Sign) (d : Digit) (rest : Document) :
    scanSign (sign.text.map some ++ some d.toChar :: rest) =
      (sign.isMinus, some d.toChar :: rest) := by
  cases sign with
  | absent => exact scanSign_of_ne (toChar_ne d (by decide)) (toChar_ne d (by decide)) rest
  | plus => rfl
  | minus => rfl

theorem scanExponentBody_text (e : Literal.Exponent) {rest : Document} (h : Avoids isDigit rest) :
    scanExponentBody ((e.sign.text ++ e.digits.map Digit.toChar).map some ++ rest) =
      .ok (some e.kept, rest) := by
  have hs := scanSign_text e.sign e.first ((e.more.map Digit.toChar).map some ++ rest)
  have hd := scanDigits_map e.first e.more h
  simp only [List.map_cons, List.cons_append] at hd
  rw [scanExponentBody, List.map_append, List.append_assoc, Literal.Exponent.digits, List.map_cons,
    List.map_cons, List.cons_append, hs]
  simp only [hd, bind, Except.bind]
  rfl

theorem scanExponent_text (e : Option Literal.Exponent) {rest : Document}
    (h : Avoids continues rest) :
    scanExponent (((e.map Literal.Exponent.text).getD []).map some ++ rest) =
      .ok (e.map Literal.Exponent.kept, rest) := by
  cases e with
  | none =>
    have hrest : scanExponent rest = .ok (none, rest) := by
      unfold scanExponent
      split
      · rename_i more
        have := h 'e' more rfl
        simp [continues] at this
      · rename_i more
        have := h 'E' more rfl
        simp [continues] at this
      · rfl
    exact hrest
  | some e =>
    have hd : Avoids isDigit rest := h.mono fun c hc => by simp [continues, hc]
    have hbody := scanExponentBody_text e hd
    rw [Option.map_some, Option.getD_some, Literal.Exponent.text]
    cases e.large with
    | true => exact hbody
    | false => exact hbody

/-! ## 5. The literal -/

/-- What stands behind the fraction: an exponent or what follows the number. -/
theorem avoids_exponent (e : Option Literal.Exponent) {rest : Document}
    (h : Avoids continues rest) : Avoids (fun c => isDigit c || c == '.')
      (((e.map Literal.Exponent.text).getD []).map some ++ rest) := by
  cases e with
  | none =>
    refine h.mono fun c hc => ?_
    rw [continues, hc, Bool.true_or, Bool.true_or]
  | some e =>
    refine avoids_cons ?_ _
    cases e.large <;> decide

/-- What stands behind the whole digits: a fraction, an exponent or what follows the number. -/
theorem avoids_fraction (ds : List Digit) (e : Option Literal.Exponent) {rest : Document}
    (h : Avoids continues rest) : Avoids isDigit ((fractionText ds).map some ++
      (((e.map Literal.Exponent.text).getD []).map some ++ rest)) := by
  cases ds with
  | nil => exact (avoids_exponent e h).mono fun c hc => by simp [hc]
  | cons d ds => exact avoids_cons (by decide) _

/-- **A literal is scanned as its decimal.** -/
theorem scan_literal (l : Literal) {rest : Document} (h : Avoids continues rest) :
    scan (l.text.map some ++ rest) = .ok (l.decimal, rest) := by
  obtain ⟨negative, first, more, fraction, exponent, noLeadingZero⟩ := l
  have hm := scanMinus_text negative first ((more.map Digit.toChar).map some ++
    ((fractionText fraction).map some ++
      (((exponent.map Literal.Exponent.text).getD []).map some ++ rest)))
  have hw := scanDigits_map first more (avoids_fraction fraction exponent h)
  have hf := scanFraction_text fraction (avoids_exponent exponent h)
  have he := scanExponent_text exponent h
  unfold scan Literal.text Literal.whole
  simp only [List.map_append, List.map_cons, List.append_assoc, List.cons_append] at hm hw ⊢
  rw [hm]
  simp only [hw, bind, Except.bind, dif_pos noLeadingZero]
  rw [hf]
  simp only
  rw [he]
  rfl

end Decimal

namespace Literal

/-! ## 6. The characters of a literal -/

/-- A literal begins with its sign or a digit. -/
theorem exists_text_eq_cons (l : Literal) :
    ∃ c rest, l.text = c :: rest ∧ (c = '-' ∨ ∃ n : Digit, c = n.toChar) := by
  unfold text whole
  cases l.negative with
  | true => exact ⟨'-', _, rfl, .inl rfl⟩
  | false => exact ⟨l.first.toChar, _, rfl, .inr ⟨l.first, rfl⟩⟩

/-- **What holds of the digits and of five signs holds of all characters.** -/
theorem forall_mem_text {p : Char → Prop} (digit : ∀ n : Digit, p n.toChar)
    (sign : ∀ c ∈ ['-', '+', '.', 'e', 'E'], p c) (l : Literal) : ∀ c ∈ l.text, p c := by
  have hdigits : ∀ ds : List Digit, ∀ c ∈ ds.map Digit.toChar, p c := by
    intro ds c hc
    obtain ⟨n, -, rfl⟩ := List.mem_map.mp hc
    exact digit n
  have hminus : ∀ c ∈ (if l.negative then ['-'] else []), p c := by
    cases l.negative with
    | true => exact List.forall_mem_singleton.mpr (sign '-' (by decide))
    | false => exact List.forall_mem_nil _
  have hfraction : ∀ c ∈ Decimal.fractionText l.fraction, p c := by
    cases l.fraction with
    | nil => exact List.forall_mem_nil _
    | cons n ds => exact List.forall_mem_cons.mpr ⟨sign '.' (by decide), hdigits (n :: ds)⟩
  have hexponent : ∀ c ∈ (l.exponent.map Exponent.text).getD [], p c := by
    cases l.exponent with
    | none => exact List.forall_mem_nil _
    | some e =>
      have hmark : p (if e.large then 'E' else 'e') := by
        cases e.large <;> exact sign _ (by decide)
      have hsign : ∀ c ∈ e.sign.text, p c := by
        cases e.sign with
        | absent => exact List.forall_mem_nil _
        | plus => exact List.forall_mem_singleton.mpr (sign '+' (by decide))
        | minus => exact List.forall_mem_singleton.mpr (sign '-' (by decide))
      exact List.forall_mem_cons.mpr ⟨hmark, List.forall_mem_append.mpr ⟨hsign, hdigits _⟩⟩
  simp only [text, List.forall_mem_append]
  exact ⟨⟨⟨hminus, hdigits _⟩, hfraction⟩, hexponent⟩

/-- No blank stands in a literal. -/
theorem isBlank_of_mem_text (l : Literal) : ∀ c ∈ l.text, Text.isBlank c = false :=
  forall_mem_text (by decide) (Text.of_all (by decide)) l

end Literal

end TrialProtocol
