import TrialProtocol.Json.Scan

/-!
# Values that are passed over

A member that no one asked for is skipped: its form is checked, its content is not, and it may be
nested to any depth. The open brackets are kept in a list, so no depth is ever exceeded.
-/

namespace TrialProtocol.Json

/-- An open bracket. -/
inductive Bracket where
  | list
  | object
  deriving DecidableEq, Repr

namespace Bracket

/-- The bracket that closes it. -/
def closing : Bracket → Char
  | .list => ']'
  | .object => '\x7d'

/-- The fault of a document that ends inside. -/
def endFault : Bracket → Fault
  | .list => .endInList
  | .object => .endInObject

/-- The fault of a value that is followed neither by a comma nor by the closing bracket. -/
def separatorFault : Bracket → Fault
  | .list => .expectedListEnd
  | .object => .expectedObjectEnd

end Bracket

/-- The place in a skipped value: a value is expected, or the brackets were just opened, or a value
    was just passed. -/
inductive SkipPlace where
  | atValue
  | opened
  | passed
  deriving DecidableEq, Repr

/-- Passes over a key and its colon. -/
def skipKey (doc : Document) : Except Fault Document :=
  match skipBlanks doc with
  | [] => .error .endInObject
  | some '"' :: rest => do colon (← skipStringFrom 0 rest)
  | _ => .error .keyNotString

/-- What has to be passed over before the next value inside a bracket. -/
def beforeValue : Bracket → Document → Except Fault Document
  | .list, doc => .ok doc
  | .object, doc => skipKey doc

/-- Passes over a word, a string or a number; an opening bracket is left for the caller. -/
def skipScalar : Document → Except Fault Document
  | some 'n' :: rest => expectLetters ['u', 'l', 'l'] rest
  | some 't' :: rest => expectLetters ['r', 'u', 'e'] rest
  | some 'f' :: rest => expectLetters ['a', 'l', 's', 'e'] rest
  | some '"' :: rest => skipStringFrom 0 rest
  | some c :: rest =>
    if startsNumber c then
      match Decimal.scan (some c :: rest) with
      | .ok (_, rest) => .ok rest
      | .error _ => .error .invalidNumber
    else .error .expectedValue
  | none :: _ => .error .expectedValue
  | [] => .error .endInValue

/-- Passes over what is left of a value inside the open brackets, the innermost first. The budget
    bounds the number of steps; two for each place of the document are enough. -/
def skipFrom : Nat → SkipPlace → List Bracket → Document → Except Fault Document
  | 0, _, _, _ => .error .endInValue
  | budget + 1, .atValue, open_, doc =>
    match skipBlanks doc with
    | some '[' :: rest => skipFrom budget .opened (.list :: open_) rest
    | some '\x7b' :: rest => skipFrom budget .opened (.object :: open_) rest
    | doc => do skipFrom budget .passed open_ (← skipScalar doc)
  | _ + 1, .opened, [], doc => .ok doc
  | budget + 1, .opened, b :: open_, doc =>
    match skipBlanks doc with
    | [] => .error b.endFault
    | unit :: rest =>
      if unit = some b.closing then skipFrom budget .passed open_ rest
      else do skipFrom budget .atValue (b :: open_) (← beforeValue b (unit :: rest))
  | _ + 1, .passed, [], doc => .ok doc
  | budget + 1, .passed, b :: open_, doc =>
    match skipBlanks doc with
    | [] => .error b.endFault
    | unit :: rest =>
      if unit = some ',' then do skipFrom budget .atValue (b :: open_) (← beforeValue b rest)
      else if unit = some b.closing then skipFrom budget .passed open_ rest
      else .error b.separatorFault

/-- Passes over one value. -/
def skipValue (doc : Document) : Except Fault Document :=
  skipFrom (2 * doc.length + 2) .atValue [] doc

end TrialProtocol.Json
