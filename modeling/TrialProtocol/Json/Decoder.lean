import TrialProtocol.Json.Skip

/-!
# Reading values of a known type

A decoder reads one value of its type at the front of a document. It is told how many more levels of
brackets it may open, and fails at the first place where the document is no such value.

* `string`, `boolean`, `word`, `double`: the scalars.
* `list`, `optional`, `stringMap`: the containers.
* `variant`: one name out of a few, also as an object with the name as key and `null` as value.
* `readAll`: a decoder applied to a whole document.
-/

namespace TrialProtocol.Json

/-- Reads a value that may open the given number of nested brackets. -/
abbrev Decoder (α : Type) := Nat → Reader α

/-- How deeply the brackets of a document may be nested. -/
def maxDepth : Nat := 127

/-- One level of brackets less. -/
def enter : Nat → Except Fault Nat
  | 0 => .error .nestingTooDeep
  | depth + 1 => .ok depth

/-! ## 1. What stands in place of the expected value -/

/-- A number as it is named in a fault. -/
def foundNumber (d : Decimal) : Found :=
  let n : Int := valueOf d.whole
  if d.isInteger ∧ !d.negative ∧ n ≤ Text.maxWord64 then .integer n
  else if d.isInteger ∧ d.negative ∧ n ≠ 0 ∧ n ≤ 0x8000000000000000 then .integer (-n)
  else .number

/-- The fault of a value that is not of the expected type. The value itself may be at fault first. -/
def mismatch (expected : String) (doc : Document) : Fault :=
  let wrong : Except Fault Found :=
    match doc with
    | [] => .error .endInValue
    | some 'n' :: rest => (expectLetters ['u', 'l', 'l'] rest).map fun _ => .null
    | some 't' :: rest => (expectLetters ['r', 'u', 'e'] rest).map fun _ => .boolean true
    | some 'f' :: rest => (expectLetters ['a', 'l', 's', 'e'] rest).map fun _ => .boolean false
    | some '"' :: rest => (stringBody rest).map fun (s, _) => .string s
    | some '[' :: _ => .ok .sequence
    | some '\x7b' :: _ => .ok .map
    | some c :: rest =>
      if startsNumber c then (number (some c :: rest)).map fun (d, _) => foundNumber d
      else .error .expectedValue
    | none :: _ => .error .expectedValue
  match wrong with
  | .ok found => .wrongType found expected
  | .error fault => fault

/-! ## 2. Scalars -/

/-- A string, with its expected type named in a fault. -/
def stringAs (expected : String) : Reader String := fun doc =>
  match skipBlanks doc with
  | some '"' :: rest => stringBody rest
  | doc => .error (mismatch expected doc)

/-- A string. -/
def string : Decoder String := fun _ => stringAs "a string"

/-- A truth value. -/
def boolean : Decoder Bool := fun _ doc =>
  match skipBlanks doc with
  | some 't' :: rest => (expectLetters ['r', 'u', 'e'] rest).map (true, ·)
  | some 'f' :: rest => (expectLetters ['a', 'l', 's', 'e'] rest).map (false, ·)
  | doc => .error (mismatch "a boolean" doc)

/-- The null word where nothing else is possible. -/
def unit : Reader Unit := fun doc =>
  match skipBlanks doc with
  | some 'n' :: rest => (expectLetters ['u', 'l', 'l'] rest).map ((), ·)
  | doc => .error (mismatch "unit" doc)

/-- A number as a machine number. -/
def machineNumber (expected : String) : Reader Decimal.MachineNumber := fun doc =>
  match skipBlanks doc with
  | some c :: rest =>
    if startsNumber c then do
      let (d, rest) ← number (some c :: rest)
      match d.machineNumber? with
      | some n => return (n, rest)
      | none => .error .numberOutOfRange
    else .error (mismatch expected (some c :: rest))
  | doc => .error (mismatch expected doc)

/-- A natural number of at most `limit`. -/
def natural (limit : Nat) (expected : String) : Decoder Nat := fun _ doc => do
  let (n, rest) ← machineNumber expected doc
  match n with
  | .natural n =>
    if n ≤ limit then return (n, rest) else .error (.wrongValue (.integer n) expected)
  | .negative n => .error (.wrongValue (.integer n) expected)
  | .real x => .error (.wrongType (.real x) expected)

/-- A word of 32 bits. -/
def word32 : Decoder UInt32 := fun depth doc =>
  (natural Text.maxWord32 "u32" depth doc).map fun (n, rest) => (UInt32.ofNat n, rest)

/-- A word of 64 bits. -/
def word64 : Decoder UInt64 := fun depth doc =>
  (natural Text.maxWord64 "u64" depth doc).map fun (n, rest) => (UInt64.ofNat n, rest)

/-- A double. -/
def double : Decoder Double := fun _ doc => do
  let (n, rest) ← machineNumber "f64" doc
  return (n.toDouble, rest)

/-! ## 3. Containers -/

/-- The elements of a list, up to its closing bracket. -/
def elements {α : Type} (read : Reader α) :
    Nat → Bool → Document → Except Fault (List α × Document)
  | 0, _, _ => .error .endInList
  | budget + 1, first, doc => do
    let (more, doc) ← nextElement first doc
    if more then
      let (x, doc) ← read doc
      let (xs, doc) ← elements read budget false doc
      return (x :: xs, doc)
    else return ([], doc)

/-- A list. -/
def list {α : Type} (item : Decoder α) : Decoder (List α) := fun depth doc =>
  match skipBlanks doc with
  | some '[' :: rest => do
    let depth ← enter depth
    let (xs, rest) ← elements (item depth) (rest.length + 1) true rest
    return (xs, ← closeList rest)
  | doc => .error (mismatch "a sequence" doc)

/-- A value or `null`. -/
def optional {α : Type} (item : Decoder α) : Decoder (Option α) := fun depth doc =>
  match skipBlanks doc with
  | some 'n' :: rest => (expectLetters ['u', 'l', 'l'] rest).map (none, ·)
  | doc => (item depth doc).map fun (x, rest) => (some x, rest)

/-- The members of an object whose values are read alike, up to its closing brace. -/
def entries {α : Type} (read : Reader α) :
    Nat → Bool → Document → Except Fault (List (String × α) × Document)
  | 0, _, _ => .error .endInObject
  | budget + 1, first, doc => do
    let (more, doc) ← nextKey first doc
    if more then
      let (key, doc) ← stringBody doc
      let (x, doc) ← read (← colon doc)
      let (xs, doc) ← entries read budget false doc
      return ((key, x) :: xs, doc)
    else return ([], doc)

/-- An object with values of one type, as its members in order. -/
def members {α : Type} (item : Decoder α) : Decoder (List (String × α)) := fun depth doc =>
  match skipBlanks doc with
  | some '\x7b' :: rest => do
    let depth ← enter depth
    let (xs, rest) ← entries (item depth) (rest.length + 1) true rest
    return (xs, ← closeObject rest)
  | doc => .error (mismatch "a map" doc)

/-! ## 4. Names of variants -/

/-- The value that a name stands for. -/
def variantNamed {α : Type} (known : List (String × α)) : Reader α := fun doc => do
  let (name, rest) ← stringAs "variant identifier" doc
  match known.lookup name with
  | some x => return (x, rest)
  | none => .error (.unknownVariant name (known.map (·.1)))

/-- One of the known names, or an object of one member with the name as key and `null` as value. -/
def variant {α : Type} (known : List (String × α)) : Decoder α := fun depth doc =>
  match skipBlanks doc with
  | [] => .error .endInValue
  | some '"' :: rest => variantNamed known (some '"' :: rest)
  | some '\x7b' :: rest => do
    let _ ← enter depth
    let (x, rest) ← variantNamed known rest
    let ((), rest) ← unit (← colon rest)
    match skipBlanks rest with
    | [] => .error .endInObject
    | some '\x7d' :: rest => return (x, rest)
    | _ => .error .expectedValue
  | _ => .error .expectedValue

/-! ## 5. Whole documents -/

/-- Reads a document that holds one value and nothing else. -/
def readAll {α : Type} (decoder : Decoder α) (doc : Document) : Except Fault α := do
  let (x, rest) ← decoder maxDepth doc
  finish rest
  return x

end TrialProtocol.Json
