import TrialProtocol.Number.Digit
import TrialProtocol.Text.Blank
import TrialProtocol.Text.Numeral
import TrialProtocol.Text.Quoted
import TrialProtocol.Text.Utf8

/-!
# Decimals

Decimal numbers kept digit for digit as they were written. Bounds and assigned values are exchanged
in this form, so `1.0` and `1.00` are two values, and a number of thirty digits loses none of them.

* `scan` takes the longest decimal at the front of a document: an optional minus sign, whole digits
  without a leading zero, and optionally a fraction and an exponent.
* `text` writes it again. Only the exponent's mark is fixed: a small `e` and always a sign.
* `parse` reads a whole text, blanks around it allowed.
-/

namespace TrialProtocol

/-! ## 1. The number and its parts -/

/-- The exponent of a decimal, of at least one digit. -/
structure Decimal.Exponent where
  negative : Bool
  first : Digit
  more : List Digit
  deriving DecidableEq, Repr

/-- A decimal as it is written: a sign, whole digits of which the first is zero only if it is the
    only one, the digits behind the point (none if there is no point), and perhaps an exponent. -/
structure Decimal where
  negative : Bool
  first : Digit
  more : List Digit
  fraction : List Digit
  exponent : Option Decimal.Exponent
  no_leading_zero : first = 0 → more = []
  deriving DecidableEq, Repr

/-- A text that is no decimal. -/
structure InvalidDecimal where
  text : String
  deriving DecidableEq, Repr

/-- The wording of the failure. -/
def InvalidDecimal.message (e : InvalidDecimal) : String :=
  "invalid decimal value: " ++ Text.quotedString e.text

namespace Decimal

/-- The digits of an exponent. -/
def Exponent.digits (e : Exponent) : List Digit :=
  e.first :: e.more

/-- The number that an exponent denotes. -/
def Exponent.value (e : Exponent) : Int :=
  if e.negative then -(valueOf e.digits : Int) else valueOf e.digits

/-- The whole digits. -/
def whole (d : Decimal) : List Digit :=
  d.first :: d.more

/-- Whether the number is written without a fraction and an exponent. -/
def isInteger (d : Decimal) : Bool :=
  d.fraction.isEmpty && d.exponent.isNone

/-! ## 2. Writing -/

/-- The written exponent: the mark, the sign, the digits. -/
def Exponent.text (e : Exponent) : List Char :=
  'e' :: (if e.negative then '-' else '+') :: e.digits.map Digit.toChar

/-- The written fraction, with its point. -/
def fractionText : List Digit → List Char
  | [] => []
  | ds => '.' :: ds.map Digit.toChar

/-- The written number. -/
def text (d : Decimal) : List Char :=
  (if d.negative then ['-'] else []) ++ d.whole.map Digit.toChar ++ fractionText d.fraction ++
    (d.exponent.map Exponent.text).getD []

/-- The written number as a string. -/
def display (d : Decimal) : String :=
  String.ofList d.text

/-! ## 3. Reading -/

/-- Why no decimal stands at the front of a document: it ends too early, or something else stands
    where a digit has to. -/
inductive ScanFault where
  | cutShort
  | malformed
  deriving DecidableEq, Repr

/-- The digits at the front, and what follows them. -/
def takeDigits : Document → List Digit × Document
  | some c :: rest =>
    match Digit.ofChar? c with
    | some d => (d :: (takeDigits rest).1, (takeDigits rest).2)
    | none => ([], some c :: rest)
  | doc => ([], doc)

/-- At least one digit. -/
def scanDigits (doc : Document) : Except ScanFault ((Digit × List Digit) × Document) :=
  match takeDigits doc with
  | (d :: ds, rest) => .ok ((d, ds), rest)
  | ([], []) => .error .cutShort
  | ([], _ :: _) => .error .malformed

/-- The minus sign, if one stands at the front. -/
def scanMinus : Document → Bool × Document
  | some '-' :: rest => (true, rest)
  | doc => (false, doc)

/-- The digits behind a point, if one stands at the front. -/
def scanFraction : Document → Except ScanFault (List Digit × Document)
  | some '.' :: rest => do
    let ((d, ds), rest) ← scanDigits rest
    return (d :: ds, rest)
  | doc => .ok ([], doc)

/-- The sign of an exponent. -/
def scanSign : Document → Bool × Document
  | some '+' :: rest => (false, rest)
  | some '-' :: rest => (true, rest)
  | doc => (false, doc)

/-- The sign and the digits of an exponent. -/
def scanExponentBody (doc : Document) : Except ScanFault (Option Exponent × Document) := do
  let (negative, doc) := scanSign doc
  let ((first, more), rest) ← scanDigits doc
  return (some { negative, first, more }, rest)

/-- The exponent, if its mark stands at the front. -/
def scanExponent : Document → Except ScanFault (Option Exponent × Document)
  | some 'e' :: rest => scanExponentBody rest
  | some 'E' :: rest => scanExponentBody rest
  | doc => .ok (none, doc)

/-- The decimal at the front, as long as it goes. -/
def scan (doc : Document) : Except ScanFault (Decimal × Document) := do
  let (negative, doc) := scanMinus doc
  let ((first, more), doc) ← scanDigits doc
  if no_leading_zero : first = 0 → more = [] then
    let (fraction, doc) ← scanFraction doc
    let (exponent, doc) ← scanExponent doc
    return ({ negative, first, more, fraction, exponent, no_leading_zero }, doc)
  else .error .malformed

/-- The decimal that makes up a whole document. -/
def scanAll? (doc : Document) : Option Decimal :=
  match scan doc with
  | .ok (d, []) => some d
  | _ => none

/-- Reads a text, which may have blanks around the number. -/
def parse (s : String) : Except InvalidDecimal Decimal :=
  match scanAll? ((Text.trim s.toList).map some) with
  | some d => .ok d
  | none => .error ⟨s⟩

/-! ## 4. Numbers from their parts -/

/-- Digits without needless zeros in front. -/
def withoutLeadingZeros : List Digit → { p : Digit × List Digit // p.1 = 0 → p.2 = [] }
  | [] => ⟨(0, []), fun _ => rfl⟩
  | d :: ds => if h : d = 0 then withoutLeadingZeros ds else ⟨(d, ds), fun h' => absurd h' h⟩

/-- The decimal with the given digits. -/
def ofDigits (negative : Bool) (whole fraction : List Digit) (exponent : Option Exponent) :
    Decimal :=
  let digits := withoutLeadingZeros whole
  { negative, first := digits.1.1, more := digits.1.2, fraction, exponent,
    no_leading_zero := digits.2 }

/-- The decimal of a whole number. -/
def ofInt (n : Int) : Decimal :=
  ofDigits (n < 0) (digitsOf n.natAbs) [] none

/-- The whole number that is written, if it has neither fraction nor exponent and fits 64 bits with
    a sign. -/
def toInt64? (d : Decimal) : Option Int :=
  let n : Int := if d.negative then -(valueOf d.whole : Int) else valueOf d.whole
  if d.isInteger ∧ -0x8000000000000000 ≤ n ∧ n ≤ 0x7fffffffffffffff then some n else none

end Decimal

end TrialProtocol
