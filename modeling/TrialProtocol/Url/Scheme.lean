import TrialProtocol.Text.Percent

/-!
# Schemes and escapes

The word before the first colon of an address. A few schemes are *special*: their addresses have a
host and a path, and a backslash counts as a slash in them. All special schemes but `file` have a
default port, which is never written.

Each part of an address holds some characters only as escapes. The sets grow from the fragment to the
path, and from there to the user and to a single segment.
-/

namespace TrialProtocol.Url

/-! ## 1. Schemes -/

/-- The port of a scheme where none is written. -/
def defaultPort? (scheme : String) : Option Nat :=
  [("http", 80), ("https", 443), ("ws", 80), ("wss", 443), ("ftp", 21)].lookup scheme

/-- The scheme of local files. -/
def fileScheme : String := "file"

/-- Whether a scheme is special. -/
def isSpecial (scheme : String) : Bool :=
  scheme == fileScheme || (defaultPort? scheme).isSome

/-- A character that may stand in a scheme behind its first letter. -/
def isSchemeChar (c : Char) : Bool :=
  c.isAlphanum || c == '+' || c == '-' || c == '.'

/-- The scheme at the front of a text, in small letters, and what stands behind its colon. -/
def readScheme? (s : List Char) : Option (String × List Char) :=
  match s.span isSchemeChar with
  | (c :: cs, ':' :: rest) =>
    if c.isAlpha then some (String.ofList ((c :: cs).map Char.toLower), rest) else none
  | _ => none

/-! ## 2. Separators -/

/-- A slash, in any scheme. -/
def isSlash (c : Char) : Bool :=
  c == '/' || c == '\\'

/-- What cuts the path of an address at its segments. -/
def isSeparator (special : Bool) (c : Char) : Bool :=
  c == '/' || (special && c == '\\')

/-- Where the scheme is special, every slash is a separator. -/
theorem isSeparator_true (c : Char) : isSeparator true c = isSlash c := by
  simp [isSeparator, isSlash]

/-! ## 3. What is escaped where -/

/-- A control character. -/
def escapedAnywhere (c : Char) : Bool :=
  c.toNat < 0x20 || c == '\x7f'

/-- What a fragment escapes. -/
def escapedInFragment (c : Char) : Bool :=
  escapedAnywhere c || c == ' ' || c == '"' || c == '<' || c == '>' || c.toNat == 0x60

/-- What a path escapes. A percent sign is none of it: an escape that is there stays. -/
def escapedInPath (c : Char) : Bool :=
  escapedInFragment c || c == '#' || c == '?' || c == '\x7b' || c == '\x7d'

/-- What a user name and a password escape. -/
def escapedInUser (c : Char) : Bool :=
  escapedInPath c || c == '/' || c == ':' || c == ';' || c == '=' || c == '@' || c == '[' ||
    c == '\\' || c == ']' || c == '^' || c == '|'

/-- What a text escapes that becomes one segment of a path. -/
def escapedInSegment (special : Bool) (c : Char) : Bool :=
  escapedInPath c || c == '/' || c == '%' || (special && c == '\\')

/-- What a query escapes. -/
def escapedInQuery (special : Bool) (c : Char) : Bool :=
  escapedAnywhere c || c == ' ' || c == '"' || c == '#' || c == '<' || c == '>' ||
    (special && c == '\'')

end TrialProtocol.Url
