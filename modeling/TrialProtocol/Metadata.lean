import TrialProtocol.Calendar.HttpDate
import TrialProtocol.Http.Message
import TrialProtocol.Link

/-!
# What headers say about a resource

Links never stand in a body. The header of a response says where the resource and its relatives are,
and when it changed: `notices` lists what it says, in a fixed order, and each kind of resource takes
from the list what concerns it.

* A field that cannot be read is passed over, and so is a date that is none.
* Relations compare without regard to case. Of several notices about one thing the last one counts, so
  a `self` link wins over the location.
-/

namespace TrialProtocol

/-- One thing that a header says. -/
inductive Notice where
  | location (uri : String)
  | lastModified (time : Instant)
  | link (rel uri : String)
  deriving DecidableEq, Repr

/-! ## 1. Relations -/

/-- The relation of a resource to itself. -/
def Link.relSelf : String := "self"

/-- The relation to the next page of a list. -/
def Link.relNext : String := "next"

/-- The relation to the page before. -/
def Link.relPrev : String := "prev"

/-- The other spelling of the relation to the page before. -/
def Link.relPrevious : String := "previous"

/-- The relation of an experiment to its trials. -/
def Link.relTrials : String := "https://carbonrelay.com/rel/trials"

/-- The relation of an experiment to the dispenser of its next trial. -/
def Link.relNextTrial : String := "https://carbonrelay.com/rel/nextTrial"

/-- Whether two relations are the same. -/
def Link.sameRelation (a b : String) : Bool :=
  Text.eqIgnoreCase a.toList b.toList

/-! ## 2. Notices of a header -/

/-- The readable text of the first field with a name. -/
def firstText? (fields : List Http.Field) (name : String) : Option (List Char) :=
  (Http.valueOf? fields name).bind Http.text?

/-- The address of the resource, if the field is not empty. -/
def locationNotice (fields : List Http.Field) : List Notice :=
  match firstText? fields "location" with
  | some (c :: cs) => [.location (String.ofList (c :: cs))]
  | _ => []

/-- The time of the last change. -/
def lastModifiedNotice (fields : List Http.Field) : List Notice :=
  match (firstText? fields "last-modified").bind Calendar.parse? with
  | some time => [.lastModified time]
  | none => []

/-- One notice for each relation of a link. -/
def linkNotices (l : Link) : List Notice :=
  l.relations.map fun rel => .link rel l.uri

/-- All that a header says: the location, the last change, then the links in order. -/
def notices (fields : List Http.Field) : List Notice :=
  locationNotice fields ++ lastModifiedNotice fields ++
    (((Http.valuesOf fields "link").filterMap Http.text?).flatMap Link.parseLinks).flatMap
      linkNotices

/-! ## 3. What each resource keeps -/

/-- Where an experiment and its relatives are, and when it changed. -/
structure ExperimentLinks where
  self : Option String := none
  trials : Option String := none
  nextTrial : Option String := none
  lastModified : Option Instant := none
  deriving DecidableEq, Repr, Inhabited

/-- An experiment keeps its own address, its two collections and its time of change. -/
def ExperimentLinks.receive (m : ExperimentLinks) : Notice → ExperimentLinks
  | .location uri => { m with self := some uri }
  | .lastModified time => { m with lastModified := some time }
  | .link rel uri =>
    if Link.sameRelation Link.relSelf rel then { m with self := some uri }
    else if Link.sameRelation Link.relTrials rel then { m with trials := some uri }
    else if Link.sameRelation Link.relNextTrial rel then { m with nextTrial := some uri }
    else m

/-- The neighbours of a page. -/
structure PageLinks where
  next : Option String := none
  prev : Option String := none
  deriving DecidableEq, Repr, Inhabited

/-- A page keeps its neighbours. -/
def PageLinks.receive (m : PageLinks) : Notice → PageLinks
  | .link rel uri =>
    if Link.sameRelation Link.relNext rel then { m with next := some uri }
    else if Link.sameRelation Link.relPrev rel || Link.sameRelation Link.relPrevious rel then
      { m with prev := some uri }
    else m
  | _ => m

/-- Where the outcome of a trial is reported. -/
structure TrialLinks where
  report : Option String := none
  deriving DecidableEq, Repr, Inhabited

/-- A trial keeps nothing but the location. -/
def TrialLinks.receive (m : TrialLinks) : Notice → TrialLinks
  | .location uri => { m with report := some uri }
  | _ => m

/-- What an experiment keeps of a header. -/
def ExperimentLinks.extract (fields : List Http.Field) : ExperimentLinks :=
  (notices fields).foldl receive {}

/-- What a page keeps of a header. -/
def PageLinks.extract (fields : List Http.Field) : PageLinks :=
  (notices fields).foldl receive {}

/-- What a trial keeps of a header. -/
def TrialLinks.extract (fields : List Http.Field) : TrialLinks :=
  (notices fields).foldl receive {}

end TrialProtocol
