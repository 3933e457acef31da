import TrialProtocol.Text.Numeral
import TrialProtocol.Url

/-!
# Reading addresses

A text is an address of its own (`Url.parse`) or a link that starts from another address (`Url.join`).

* Blanks and controls around the text, and tabs and line ends anywhere in it, are passed over.
* The first `#` and the first `?` cut off the fragment and the query, whatever stands before them.
* Under a special scheme any number of slashes precedes the host.
* A link keeps of its base what it does not say itself.
-/

namespace TrialProtocol.Url

/-! ## 1. The parts of a text -/

/-- The text without what is passed over. -/
def clean (s : List Char) : List Char :=
  (Text.trimBy (fun c => c.toNat ≤ 0x20) s).filter fun c => !(c == '\t' || c == '\n' || c == '\r')

/-- What stands behind the path. -/
structure Tail where
  query : Option (List Char) := none
  fragment : Option (List Char) := none

/-- Whether there is neither a query nor a fragment. -/
def Tail.isEmpty (t : Tail) : Bool :=
  t.query.isNone && t.fragment.isNone

/-- Cuts a text at a sign. -/
def cutAt (mark : Char) (s : List Char) : List Char × Option (List Char) :=
  match Text.splitOnce (· == mark) s with
  | some (before, after) => (before, some after)
  | none => (s, none)

/-- The text before the query and the fragment, and these two. -/
def cutTail (s : List Char) : List Char × Tail :=
  let (s, fragment) := cutAt '#' s
  let (s, query) := cutAt '?' s
  (s, { query, fragment })

/-- The escaped query of an address. -/
def Tail.queryFor (t : Tail) (scheme : String) : Option (List Char) :=
  t.query.map (Percent.encode (escapedInQuery (isSpecial scheme)))

/-- The escaped fragment. -/
def Tail.escapedFragment (t : Tail) : Option (List Char) :=
  t.fragment.map (Percent.encode escapedInFragment)

/-- The address with a query and a fragment. -/
def withTail (u : Url) (t : Tail) : Url :=
  { u with query := t.queryFor u.scheme, fragment := t.escapedFragment }

/-! ## 2. Authorities -/

/-- Cuts a text at the last `@`. -/
def cutUser (s : List Char) : Option (List Char × List Char) :=
  (Text.splitOnce (· == '@') s.reverse).map fun (after, before) => (before.reverse, after.reverse)

/-- The user and the password of a text. -/
def userOf (s : List Char) : List Char × List Char :=
  let (user, password) := cutAt ':' s
  (Percent.encode escapedInUser user, Percent.encode escapedInUser (password.getD []))

/-- Cuts a text at the first colon that is not between brackets. -/
def cutPort : Bool → List Char → List Char × Option (List Char)
  | _, [] => ([], none)
  | bracketed, c :: rest =>
    if c == ':' && !bracketed then ([], some rest)
    else
      let (host, port) := cutPort (if c == '[' then true else if c == ']' then false else bracketed) rest
      (c :: host, port)

/-- The port of a text, none if it has no digit, and what follows a backslash. -/
def readPort (s : List Char) : Except UrlFault (Option Nat × List Char) :=
  let (digits, rest) := s.span (· != '\\')
  if digits.isEmpty then .ok (none, rest)
  else if digits.all Char.isDigit then
    match Text.readNat 65535 digits with
    | .ok port => .ok (some port, rest)
    | .error _ => .error .invalidPort
  else .error .invalidPort

/-- An authority, and the text of the path so far: under a scheme that is not special, a backslash
    ends the port and begins the path. `isLast` says that nothing follows. -/
def readAuthority (scheme : String) (isLast : Bool) (s : List Char) :
    Except UrlFault (Authority × List Char) := do
  let special := isSpecial scheme
  let (info, s) ← match cutUser s with
    | none => pure ([], s)
    | some ([], []) => if isLast then pure ([], []) else throw .emptyHost
    | some (info, s) => pure (info, s)
  let (user, password) := userOf info
  let (hostText, portText) := cutPort false s
  if special && hostText.isEmpty then throw .emptyHost
  let host ← if special then Host.readDomain hostText else Host.readName hostText
  if host.isEmpty && portText.isSome then throw .emptyHost
  let (port, rest) ← match portText with
    | some s => readPort s
    | none => pure (none, [])
  if host.isEmpty && !(user.isEmpty && password.isEmpty) then throw .emptyHost
  let port := if port == defaultPort? scheme then none else port
  return ({ user, password, host, port }, rest)

/-- The path behind an authority. Under a special scheme it is never empty. -/
def pathAfterAuthority (special : Bool) : List Char → Path
  | [] => .segments (if special then [[]] else [])
  | c :: rest =>
    .segments (walk false [] (segmentsOf special (if isSeparator special c then rest else c :: rest)))

/-- An address from its authority on. -/
def readFromAuthority (scheme : String) (s : List Char) (tail : Tail) : Except UrlFault Url := do
  let special := isSpecial scheme
  let (authority, path) := s.span (!isSeparator special ·)
  let (authority, rest) ← readAuthority scheme (path.isEmpty && tail.isEmpty) authority
  return withTail
    { scheme, authority, path := pathAfterAuthority special (rest ++ path) } tail

/-! ## 3. Local files -/

/-- Whether a text begins with the letter of a drive as its first segment. -/
def beginsWithDrive (s : List Char) : Bool :=
  isDriveLetter (s.takeWhile (!isSlash ·))

/-- A local address of some segments behind others. Its path has no empty segment in front. -/
def localUrl (host : Host) (done : List Segment) (s : List Char) (tail : Tail) : Url :=
  withTail
    { scheme := fileScheme
      authority := some { host }
      path := .segments (dropEmptyFront (walk true done (segmentsOf true s))) } tail

/-- The host of a local address, empty for the machine itself. -/
def readFileHost (s : List Char) : Except UrlFault Host :=
  if s.isEmpty then .ok (.named [])
  else do
    let host ← Host.readDomain s
    return if host = .named "localhost".toList then .named [] else host

/-- A local address with a host. A drive letter stands for no host, and takes the place of one. -/
def readFromFileHost (s : List Char) (tail : Tail) : Except UrlFault Url := do
  let (hostText, path) := s.span (!isSlash ·)
  if isDriveLetter hostText then return localUrl (.named []) [] s tail
  else
    let host ← readFileHost hostText
    let rest := path.drop 1
    let onDrive := (walk true [] (segmentsOf true rest)).head?.any isDriveLetter
    return localUrl (if onDrive then .named [] else host) [] rest tail

/-- The host of a local base. -/
def fileHost (base : Option Url) : Host :=
  match base.bind (·.authority) with
  | some a => a.host
  | none => .named []

/-- The segments of a local base that a link starts from: all but the last, which stays if it is the
    letter of a drive. -/
def fileFolder (segments : List Segment) : List Segment :=
  if segments.getLast?.any isProperDriveLetter then segments else segments.dropLast

/-- A local address behind its scheme, or a link that starts from one. -/
def readFile (base : Option Url) (s : List Char) (tail : Tail) : Except UrlFault Url :=
  match s, base with
  | c :: rest, _ =>
    if isSlash c then
      match rest with
      | d :: more =>
        if isSlash d then readFromFileHost more tail else .ok (readFileRoot base rest tail)
      | [] => .ok (readFileRoot base rest tail)
    else
      match base with
      | some b =>
        if beginsWithDrive s then .ok (localUrl (.named []) [] s tail)
        else .ok (localUrl (fileHost base) (fileFolder b.path.toSegments) s tail)
      | none => .ok (localUrl (.named []) [] s tail)
  | [], some b =>
    if tail.query.isSome then .ok (withTail b tail)
    else .ok { b with fragment := tail.escapedFragment }
  | [], none => .ok (localUrl (.named []) [] [] tail)
where
  /-- A local address from the root of its base's drive or host. -/
  readFileRoot (base : Option Url) (s : List Char) (tail : Tail) : Url :=
    if beginsWithDrive s then localUrl (.named []) [] s tail
    else
      match base.bind (·.path.toSegments.head?) with
      | some drive =>
        if isProperDriveLetter drive then localUrl (.named []) [drive] s tail
        else localUrl (fileHost base) [] s tail
      | none => localUrl (fileHost base) [] s tail

/-! ## 4. Links -/

/-- A link without a scheme of its own, from a base that is neither flat nor local. -/
def readRelative (base : Url) (s : List Char) (tail : Tail) : Except UrlFault Url :=
  let special := isSpecial base.scheme
  let under (done : List Segment) (s : List Char) : Url :=
    withTail { base with path := .segments (walk false done (segmentsOf special s)) } tail
  match s with
  | [] =>
    if tail.query.isSome then .ok (withTail base tail)
    else .ok { base with fragment := tail.escapedFragment }
  | c :: rest =>
    if isSlash c then
      match rest with
      | d :: more =>
        if isSlash d then
          readFromAuthority base.scheme
            (if c == '/' && d == '/' then more else more.dropWhile isSlash) tail
        else .ok (under [] rest)
      | [] => .ok (under [] rest)
    else .ok (under base.path.toSegments.dropLast s)

/-- A text behind a scheme. Under a special scheme that is its base's too, fewer than two slashes make
    it a link. -/
def readScheme (base : Option Url) (scheme : String) (s : List Char) (tail : Tail) :
    Except UrlFault Url :=
  if scheme = fileScheme then readFile (base.filter (·.scheme == fileScheme)) s tail
  else if isSpecial scheme then
    match base.filter (·.scheme == scheme) with
    | some base =>
      if (s.takeWhile isSlash).length < 2 then readRelative base s tail
      else readFromAuthority scheme (s.dropWhile isSlash) tail
    | none => readFromAuthority scheme (s.dropWhile isSlash) tail
  else
    match s with
    | '/' :: '/' :: rest => readFromAuthority scheme rest tail
    | '/' :: rest =>
      .ok (withTail
        { scheme, authority := none, path := .segments (walk false [] (segmentsOf false rest)) } tail)
    | s =>
      .ok (withTail
        { scheme, authority := none, path := .flat (Percent.encode escapedAnywhere s) } tail)

/-- Reads an address, or a link that starts from a base. -/
def read (base : Option Url) (text : List Char) : Except UrlFault Url :=
  let (s, tail) := cutTail (clean text)
  match readScheme? s, base with
  | some (scheme, rest), _ => readScheme base scheme rest tail
  | none, none => .error .relativeWithoutBase
  | none, some base =>
    if s.isEmpty && tail.query.isNone && tail.fragment.isSome then
      .ok { base with fragment := tail.escapedFragment }
    else if base.isFlat then .error .relativeToFlatBase
    else if base.scheme = fileScheme then readFile (some base) s tail
    else readRelative base s tail

/-- Reads an address. -/
def parse (text : List Char) : Except UrlFault Url :=
  read none text

/-- The address that a link leads to. -/
def join (base : Url) (link : List Char) : Except UrlFault Url :=
  read (some base) link

end TrialProtocol.Url
