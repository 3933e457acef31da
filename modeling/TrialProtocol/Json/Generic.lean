import TrialProtocol.Json.Decoder

/-!
# Values of any kind, and decimals

A decimal may stand in a document as a number or as a string that holds one. Its decoder first reads a
value of any kind, to the end and with every fault that this may have, and only then looks at what it
is. Of a list or an object nothing but the kind is kept.

An object whose first key is the reserved one below is a number written out as a string.
-/

namespace TrialProtocol.Json

/-- What a value of any kind turned out to be. -/
inductive Generic where
  | null
  | boolean (b : Bool)
  | number (d : Decimal)
  | string (s : String)
  | sequence
  | map
  deriving DecidableEq, Repr

/-- The key that marks an object as a number. -/
def numberKey : String := "$serde_json::private::Number"

/-- The decimal that a whole string spells, without blanks around it. -/
def numberFromString (s : String) : Except Fault Decimal :=
  match Decimal.scan (s.toList.map some) with
  | .ok (d, []) => .ok d
  | .ok (_, _ :: _) => .error .invalidNumber
  | .error e => .error (numberFault e)

/-- The number that is written out as a string. -/
def quotedNumber : Reader Decimal := fun doc => do
  let (s, rest) ← stringAs "string containing a number" doc
  return (← numberFromString s, rest)

/-- The rest of an object behind its opening brace, whose values are read by `read`. -/
def genericMembers (read : Reader Generic) (doc : Document) :
    Except Fault (Generic × Document) := do
  let (more, body) ← nextKey true doc
  if more then
    let (key, body) ← stringBody body
    let body ← colon body
    if key = numberKey then
      let (d, body) ← quotedNumber body
      return (.number d, body)
    else
      let (_, body) ← read body
      let (_, body) ← entries read (body.length + 1) false body
      return (.map, body)
  else return (.map, body)

/-- A value of any kind. -/
def generic : Decoder Generic
  | depth, doc =>
    match skipBlanks doc with
    | some 'n' :: rest => (expectLetters ['u', 'l', 'l'] rest).map (.null, ·)
    | some 't' :: rest => (expectLetters ['r', 'u', 'e'] rest).map (.boolean true, ·)
    | some 'f' :: rest => (expectLetters ['a', 'l', 's', 'e'] rest).map (.boolean false, ·)
    | some '"' :: rest => (stringBody rest).map fun (s, rest) => (.string s, rest)
    | some '[' :: rest =>
      match depth with
      | 0 => .error .nestingTooDeep
      | depth + 1 => do
        let (_, rest) ← elements (generic depth) (rest.length + 1) true rest
        return (.sequence, ← closeList rest)
    | some '\x7b' :: rest =>
      match depth with
      | 0 => .error .nestingTooDeep
      | depth + 1 => do
        let (x, rest) ← genericMembers (generic depth) rest
        return (x, ← closeObject rest)
    | some c :: rest =>
      if startsNumber c then (number (some c :: rest)).map fun (d, rest) => (.number d, rest)
      else .error .expectedValue
    | none :: _ => .error .expectedValue
    | [] => .error .endInValue

/-- What a value that is no decimal is called in a fault. -/
def Generic.found : Generic → Found
  | .null => .null
  | .boolean b => .boolean b
  | .number _ => .number
  | .string s => .string s
  | .sequence => .sequence
  | .map => .map

/-- The decimal that a value holds. -/
def Generic.toDecimal : Generic → Except Fault Decimal
  | .number d => .ok d
  | .string s =>
    match Decimal.parse s with
    | .ok d => .ok d
    | .error _ => .error (.wrongValue (.string s) "a decimal number")
  | x => .error (.wrongType x.found "a decimal number or numeric string")

/-- A decimal. -/
def decimal : Decoder Decimal := fun depth doc => do
  let (x, rest) ← generic depth doc
  return (← x.toDecimal, rest)

end TrialProtocol.Json
