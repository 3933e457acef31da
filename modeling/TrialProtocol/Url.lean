import TrialProtocol.Url.Host
import TrialProtocol.Url.Path

/-!
# Addresses

An address in its parts, as it is written, and the addresses of what lies below it. Reading addresses
is in `Url.Reader`.
-/

namespace TrialProtocol

/-- Who asks, where, and at which port. A default port is not there. -/
structure Url.Authority where
  user : List Char := []
  password : List Char := []
  host : Url.Host
  port : Option Nat := none
  deriving DecidableEq, Repr

/-- An address. All parts hold their escapes. -/
structure Url where
  scheme : String
  authority : Option Url.Authority
  path : Url.Path
  query : Option (List Char) := none
  fragment : Option (List Char) := none
  deriving DecidableEq, Repr

namespace Url

/-! ## 1. Writing -/

/-- The user and the password with the sign behind them, if there are any. -/
def Authority.userText (a : Authority) : List Char :=
  if a.user.isEmpty && a.password.isEmpty then []
  else a.user ++ (if a.password.isEmpty then [] else ':' :: a.password) ++ ['@']

/-- The written authority. -/
def Authority.text (a : Authority) : List Char :=
  a.userText ++ a.host.text ++
    match a.port with
    | some port => ':' :: Nat.toDigits 10 port
    | none => []

/-- The sign that tells an empty first segment from an authority. -/
def pathGuard : Path → List Char
  | .segments ([] :: _ :: _) => "/.".toList
  | _ => []

/-- The part between the scheme and the path. -/
def authorityText (u : Url) : List Char :=
  match u.authority with
  | some a => "//".toList ++ a.text
  | none => pathGuard u.path

/-- A part that is written behind a sign, if it is there. -/
def markedText (mark : Char) : Option (List Char) → List Char
  | some text => mark :: text
  | none => []

/-- What a server is asked for: the path with the query. -/
def target (u : Url) : List Char :=
  u.path.text ++ markedText '?' u.query

/-- The written address. -/
def text (u : Url) : List Char :=
  u.scheme.toList ++ ':' :: u.authorityText ++ u.target ++ markedText '#' u.fragment

/-- Whether the address has no hierarchy, so that nothing can lie below it. -/
def isFlat (u : Url) : Bool :=
  match u.path with
  | .flat _ => true
  | .segments _ => false

/-! ## 2. What lies below an address -/

/-- The segments without an empty one at the end, as far as another stands before it. -/
def dropEmptyEnd (segments : List Segment) : List Segment :=
  if 1 < segments.length && segments.getLast? == some [] then segments.dropLast else segments

/-- A text as one more segment of a path. The root has no segment yet; a single or double dot adds
    none. -/
def pushSegment (u : Url) (segments : List Segment) (s : List Char) : List Segment :=
  if s == ".".toList || s == "..".toList then segments
  else
    finish (u.scheme == fileScheme) (if segments == [[]] then [] else segments)
      (Percent.encode (escapedInSegment (isSpecial u.scheme))
        (s.filter fun c => !(c == '\t' || c == '\n' || c == '\r')))

/-- The address of what lies below, without query and fragment: each text becomes a segment. -/
def below (u : Url) (names : List (List Char)) : Url :=
  match u.path with
  | .flat _ => { u with query := none, fragment := none }
  | .segments list =>
    { u with
      path := .segments (names.foldl u.pushSegment (dropEmptyEnd list))
      query := none
      fragment := none }

/-- The address with another query, which is left out if it is empty. -/
def withQuery (u : Url) (query : List Char) : Url :=
  if query.isEmpty then u
  else { u with query := some (Percent.encode (escapedInQuery (isSpecial u.scheme)) query) }

end Url

end TrialProtocol
