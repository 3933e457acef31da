import TrialProtocol.Text.Blank
import TrialProtocol.Text.Percent

/-!
# Routes

Which resource a path names, and what can be done with it. A path is cut at its slashes before any
escape is undone, so an escaped slash belongs to a name. No segment of a route is empty.
-/

namespace TrialProtocol.Server

/-- A resource of the server; names and ids are as they stand in the path, with their escapes. -/
inductive Route where
  | collection
  | experiment (name : List Char)
  | trials (name : List Char)
  | trial (name id : List Char)
  | dispenser (name : List Char)
  deriving DecidableEq, Repr

/-- What the server can do. -/
inductive Operation where
  | listExperiments
  | getExperiment (name : String)
  | putExperiment (name : String)
  | deleteExperiment (name : String)
  | listTrials (name : String)
  | createTrial (name : String)
  | reportTrial (name id : String)
  | dispenseTrial (name : String)
  deriving DecidableEq, Repr

/-- The path of a target: what stands before the query and the fragment. -/
def pathOf (target : List Char) : List Char :=
  target.takeWhile fun c => c != '?' && c != '#'

/-- The query of a target, empty if there is none. -/
def queryOf (target : List Char) : List Char :=
  match target.dropWhile fun c => c != '?' && c != '#' with
  | '?' :: rest => rest.takeWhile (· != '#')
  | _ => []

namespace Route

/-- The resource that the segments of a path name. -/
def ofSegments? : List (List Char) → Option Route
  | [root] => if root = "experiments".toList then some .collection else none
  | [root, name] => if root = "experiments".toList then some (.experiment name) else none
  | [root, name, part] =>
    if root ≠ "experiments".toList then none
    else if part = "trials".toList then some (.trials name)
    else if part = "nextTrial".toList then some (.dispenser name)
    else none
  | [root, name, part, id] =>
    if root = "experiments".toList ∧ part = "trials".toList then some (.trial name id) else none
  | _ => none

/-- The resource that a path names. -/
def ofPath? (path : List Char) : Option Route :=
  match Text.split '/' path with
  | [] :: segments => if segments.any List.isEmpty then none else ofSegments? segments
  | _ => none

/-- The methods of a resource. Where there is a `GET`, a `HEAD` asks for its header. -/
def methods : Route → List String
  | .collection => ["GET", "HEAD"]
  | .experiment _ => ["GET", "HEAD", "PUT", "DELETE"]
  | .trials _ => ["GET", "HEAD", "POST"]
  | .trial _ _ => ["POST"]
  | .dispenser _ => ["POST"]

/-- Part of a path with its escapes undone; otherwise the name of the part. -/
def decode (part : String) (s : List Char) : Except String String :=
  match Percent.decode? s with
  | some text => .ok (String.ofList text)
  | none => .error part

/-- What a method does with a resource; `none` if the resource does not have the method, otherwise
    perhaps the part of the path whose escapes spell no text. -/
def operation? : Route → String → Option (Except String Operation)
  | .collection, "GET" => some (.ok .listExperiments)
  | .experiment n, "GET" => some ((decode "name" n).map .getExperiment)
  | .experiment n, "PUT" => some ((decode "name" n).map .putExperiment)
  | .experiment n, "DELETE" => some ((decode "name" n).map .deleteExperiment)
  | .trials n, "GET" => some ((decode "name" n).map .listTrials)
  | .trials n, "POST" => some ((decode "name" n).map .createTrial)
  | .trial n i, "POST" => some do return .reportTrial (← decode "name" n) (← decode "id" i)
  | .dispenser n, "POST" => some ((decode "name" n).map .dispenseTrial)
  | _, _ => none

end Route

/-- The method whose response a request is answered with. -/
def effectiveMethod (method : String) : String :=
  if method = "HEAD" then "GET" else method

end TrialProtocol.Server
