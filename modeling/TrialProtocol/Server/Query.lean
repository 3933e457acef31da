import TrialProtocol.Experiment
import TrialProtocol.Text.Percent

/-!
# Queries

The query of a listing, as a server reads it: pairs between `&`, each a key and a value on the two
sides of the first `=`, with a plus sign for a blank and percent escapes. Keys other than the two known
ones are passed over; a known key may stand there once.
-/

namespace TrialProtocol.Server

/-- Why a query is refused. -/
inductive QueryFault where
  | badNumber (key : String) (fault : Text.NumeralFault)
  | duplicate (key : String)
  deriving DecidableEq, Repr

/-- The wording of a refusal. -/
def QueryFault.message : QueryFault → String
  | .badNumber key fault =>
    "Failed to deserialize query string: " ++ key ++ ": " ++ fault.message
  | .duplicate key => "Failed to deserialize query string: duplicate field `" ++ key ++ "`"

/-- Part of a query with its escapes undone. A byte that belongs to no character becomes the
    replacement character. -/
def decodePart (s : List Char) : List Char :=
  let blanks := s.map fun c => if c = '+' then ' ' else c
  (Utf8.units (Percent.decodeBytes blanks)).map (·.getD '\uFFFD')

/-- The key and the value of a pair. -/
def pairOf (s : List Char) : String × List Char :=
  match Text.splitOnce (· == '=') s with
  | some (key, value) => (String.ofList (decodePart key), decodePart value)
  | none => (String.ofList (decodePart s), [])

/-- The pairs of a query, in order. -/
def pairsOf (query : List Char) : List (String × List Char) :=
  ((Text.split '&' query).filter (!·.isEmpty)).map pairOf

/-- The numbers that were read so far. -/
structure QueryDraft where
  offset : Option UInt32 := none
  limit : Option UInt32 := none

/-- The number of a value, for a key that was not there before. -/
def readNumber (key : String) (before : Option UInt32) (value : List Char) :
    Except QueryFault UInt32 :=
  if before.isSome then .error (.duplicate key)
  else
    match Text.readNat Text.maxWord32 value with
    | .ok n => .ok (UInt32.ofNat n)
    | .error fault => .error (.badNumber key fault)

/-- Takes one pair into account. -/
def readPair (d : QueryDraft) : String × List Char → Except QueryFault QueryDraft
  | ("offset", value) => do return { d with offset := some (← readNumber "offset" d.offset value) }
  | ("limit", value) => do return { d with limit := some (← readNumber "limit" d.limit value) }
  | _ => .ok d

/-- Reads a query. -/
def readQuery (query : List Char) : Except QueryFault PageQuery := do
  let d ← (pairsOf query).foldlM readPair {}
  return { offset := d.offset.getD 0, limit := d.limit.getD 0 }

end TrialProtocol.Server
