import TrialProtocol.Json.Decoder

/-!
# Records

A record is read from an object by the names of its members, in any order, or from a list by their
places. Members that the record does not know are passed over; a known one may stand there once.

A record under construction is a value of its own type `σ`, in which each member is still missing or
already there. Which members a record has is a list, so every record is read by the same loop.
-/

namespace TrialProtocol.Json

/-- One member of a record under construction. -/
structure Member (σ : Type) where
  /-- The key in an object. -/
  name : String
  /-- Whether the member is already there. -/
  filled : σ → Bool
  /-- Reads the member's value into the record. -/
  read : Nat → σ → Reader σ

/-- A member of some type, seen as a place in the record. -/
def Member.of {σ α : Type} (name : String) (get : σ → Option α) (set : σ → α → σ)
    (item : Decoder α) : Member σ where
  name := name
  filled s := (get s).isSome
  read depth s doc := (item depth doc).map fun (x, rest) => (set s x, rest)

/-- A member that has to be there; its name otherwise. -/
def require {α : Type} (name : String) : Option α → Except String α
  | some x => .ok x
  | none => .error name

/-- A record: how it is named in faults, its members in order, the record with no member there, and
    what it is in the end, or the first member that is missing and has to be there. -/
structure Record (σ α : Type) where
  name : String
  fields : List (Member σ)
  empty : σ
  complete : σ → Except String α

namespace Record

variable {σ α : Type}

/-- The wording of the record with its number of members. -/
def lengthText (r : Record σ α) : String :=
  let n := r.fields.length
  "struct " ++ r.name ++ " with " ++ Nat.repr n ++ (if n = 1 then " element" else " elements")

/-- The members of an object, up to its closing brace. -/
def readMembers (r : Record σ α) (depth : Nat) :
    Nat → Bool → σ → Document → Except Fault (σ × Document)
  | 0, _, _, _ => .error .endInObject
  | budget + 1, first, s, doc => do
    let (more, doc) ← nextKey first doc
    if more then
      let (key, doc) ← stringBody doc
      match r.fields.find? (·.name == key) with
      | some field =>
        if field.filled s then .error (.duplicateField field.name)
        else
          let (s, doc) ← field.read depth s (← colon doc)
          readMembers r depth budget false s doc
      | none =>
        let doc ← skipValue (← colon doc)
        readMembers r depth budget false s doc
    else return (s, doc)

/-- The elements of a list in the order of the members, as far as the list goes. -/
def readElements (depth : Nat) :
    List (Member σ) → Bool → σ → Document → Except Fault (σ × Document)
  | [], _, s, doc => .ok (s, doc)
  | field :: fields, first, s, doc => do
    let (more, doc) ← nextElement first doc
    if more then
      let (s, doc) ← field.read depth s doc
      readElements depth fields false s doc
    else return (s, doc)

/-- The record from the members of an object. -/
def ofMembers (r : Record σ α) (s : σ) : Except Fault α :=
  match r.complete s with
  | .ok x => .ok x
  | .error name => .error (.missingField name)

/-- The record from the elements of a list, which has to reach the last member that is needed. -/
def ofElements (r : Record σ α) (s : σ) : Except Fault α :=
  match r.complete s with
  | .ok x => .ok x
  | .error name => .error (.wrongLength (r.fields.findIdx (·.name == name)) r.lengthText)

/-- Reads the record. -/
def decoder (r : Record σ α) : Decoder α := fun depth doc =>
  match skipBlanks doc with
  | some '[' :: rest => do
    let depth ← enter depth
    let (s, rest) ← readElements depth r.fields true r.empty rest
    let x ← r.ofElements s
    return (x, ← closeList rest)
  | some '\x7b' :: rest => do
    let depth ← enter depth
    let (s, rest) ← r.readMembers depth (rest.length + 1) true r.empty rest
    let x ← r.ofMembers s
    return (x, ← closeObject rest)
  | doc => .error (mismatch ("struct " ++ r.name) doc)

end Record

end TrialProtocol.Json
