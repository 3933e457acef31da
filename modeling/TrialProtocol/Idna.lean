import TrialProtocol.Idna.Direction
import TrialProtocol.Idna.Joining
import TrialProtocol.Idna.Mapping
import TrialProtocol.Idna.Punycode

/-!
# Domain names in ASCII

A domain name may be written in any script and in any case. `toAscii?` gives its one form in small
ASCII letters: characters are mapped to what they stand for, composed, and every label beyond ASCII is
written in ASCII behind the mark `xn--`. A label that bears the mark has to be such a label itself.

* Plain names, that is, ASCII names without a marked label, only lose their capitals.
* A name in its ASCII form stands for itself (`toAscii?_of_toAscii?_eq_some` in `Proofs.Idna.Form`).
-/

namespace TrialProtocol.Idna

/-- A character that no domain name holds. -/
def isForbidden (c : Char) : Bool :=
  c.toNat ≤ 0x20 || c == '\x7f' || "%#/:<>?@[\\]^|".toList.contains c

/-- A character of ASCII. -/
def isAscii (c : Char) : Bool :=
  c.toNat < 0x80

/-! ## 1. Labels -/

/-- The mark of a label that is written in ASCII. -/
def mark : List Char := "xn--".toList

/-- The text of a label behind its mark, if it bears one. -/
def marked? (label : List Char) : Option (List Char) :=
  Text.stripStart mark (label.map Char.toLower)

/-- Whether a label in its own script is in order. -/
def isProperLabel (label : List Char) : Bool :=
  label.all (fun c => isValid c && !isForbidden c) && !label.head?.any isMark &&
    joinersMatter [] label

/-- The label that a marked one stands for. It is not ASCII, and written as composition leaves it. -/
def unmarked? (s : List Char) : Option (List Char) := do
  if !s.all isAscii then none
  else
    let label ← Punycode.decode? s
    if label.all isAscii || label != composed label || (marked? label).isSome then none
    else return label

/-- A label in its own script. -/
def ownScript? (label : List Char) : Option (List Char) := do
  let label ← match marked? label with
    | some s => unmarked? s
    | none => some label
  if isProperLabel label then return label else none

/-- A label in ASCII. -/
def asciiLabel (label : List Char) : List Char :=
  if label.all isAscii then label else mark ++ Punycode.encode label

/-! ## 2. Names -/

/-- Whether a name is ASCII and has no marked label. -/
def isPlain (s : List Char) : Bool :=
  s.all isAscii && (Text.split '.' s).all fun label => (marked? label).isNone

/-- The form of a plain name. -/
def plainForm? (s : List Char) : Option (List Char) :=
  if s.any isForbidden then none else some (s.map Char.toLower)

/-- The form of any other name. -/
def fullForm? (s : List Char) : Option (List Char) := do
  let mapped := (← s.mapM mapChar?).flatten
  let labels ← (Text.split '.' (composed mapped)).mapM ownScript?
  if labels.any isBidirectional && !labels.all keepsDirection then none
  else return Text.join ['.'] (labels.map asciiLabel)

/-- A domain name in ASCII. -/
def toAscii? (s : List Char) : Option (List Char) :=
  if isPlain s then plainForm? s else fullForm? s

end TrialProtocol.Idna
