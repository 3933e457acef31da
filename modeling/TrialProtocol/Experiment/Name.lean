import TrialProtocol.Json.Decoder
import TrialProtocol.Json.Writer

/-!
# Names of experiments

An experiment is addressed by its name: small letters, digits, `-` and `.`, with a letter or a digit
at both ends, and at most 253 characters. Not every value of the type is well formed, since a name that
comes from a server is taken as it is.
-/

namespace TrialProtocol

/-- The name of an experiment. -/
structure ExperimentName where
  text : String
  deriving DecidableEq, Repr

/-- A text that is no name. -/
structure InvalidName where
  text : String
  deriving DecidableEq, Repr

/-- The wording of the failure. -/
def InvalidName.message (e : InvalidName) : String :=
  "invalid experiment name: " ++ Text.quotedString e.text

namespace ExperimentName

/-- The length of the longest name. -/
def maxLength : Nat := 253

/-- A small letter or a digit. -/
def isEdge (c : Char) : Bool :=
  c.isLower || c.isDigit

/-- A character that may stand inside a name. -/
def isInner (c : Char) : Bool :=
  isEdge c || c == '-' || c == '.'

/-- Whether a text has the form of a name. -/
def isWellFormed (s : List Char) : Bool :=
  s.length ≤ maxLength && s.head?.any isEdge && s.getLast?.any isEdge && s.all isInner

/-- The name with the given text, if it is well formed. -/
def parse (s : String) : Except InvalidName ExperimentName :=
  if isWellFormed s.toList then .ok ⟨s⟩ else .error ⟨s⟩

/-- A name in a document. -/
def decoder : Json.Decoder ExperimentName := fun depth doc => do
  let (s, rest) ← Json.string depth doc
  match parse s with
  | .ok name => return (name, rest)
  | .error e => .error (.refused e.message)

/-- The written name. -/
def toJson (name : ExperimentName) : List Char :=
  Json.Writer.string name.text

theorem parse_eq_ok_iff {s : String} {n : ExperimentName} :
    parse s = .ok n ↔ isWellFormed s.toList = true ∧ n = ⟨s⟩ := by
  by_cases h : isWellFormed s.toList = true
  · rw [parse, if_pos h, Except.ok.injEq]
    exact ⟨fun e => ⟨h, e.symm⟩, fun e => e.2.symm⟩
  · rw [parse, if_neg h]
    simp [h]

end ExperimentName

end TrialProtocol
