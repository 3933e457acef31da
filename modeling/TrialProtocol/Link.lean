import TrialProtocol.Text.Blank

/-!
# Links

Related resources are named by links `<uri>; rel="relation"`, several in one header field with commas
between them.

* `Link.text` writes a link, `parseLinks` reads a field.
* Commas and semicolons inside `<…>` or quotes do not separate. Where a bracket or a quote is left
  open, or a bracket opens inside another, every comma separates instead, so that the broken entry
  fails alone.
* An entry without a bracketed address or without a relation is dropped.
-/

namespace TrialProtocol

/-- A link: an address, and one or several relations with blanks between them. -/
structure Link where
  uri : String
  rel : String
  deriving DecidableEq, Repr

namespace Link

/-- The relations that a link names. -/
def relations (l : Link) : List String :=
  (Text.wordsBy Text.isAsciiBlank l.rel.toList).map String.ofList

/-- The written link. -/
def text (l : Link) : List Char :=
  '<' :: l.uri.toList ++ ['>', ';', ' ', 'r', 'e', 'l', '=', '"'] ++ l.rel.toList ++ ['"']

/-! ## 1. Parts at the top level -/

/-- Where a scan stands: outside of everything, behind `<`, or behind an opening quote. -/
inductive Enclosure where
  | outside
  | address
  | quotes
  deriving DecidableEq, Repr

/-- Where a scan stands behind the next character. No address opens inside an address. -/
def Enclosure.next : Enclosure → Char → Option Enclosure
  | .outside, '<' => some .address
  | .outside, '"' => some .quotes
  | .outside, _ => some .outside
  | .address, '<' => none
  | .address, '>' => some .outside
  | .address, _ => some .address
  | .quotes, '"' => some .outside
  | .quotes, _ => some .quotes

/-- Puts a character in front of the first part. -/
def consFirst (c : Char) : List (List Char) → List (List Char)
  | [] => [[c]]
  | part :: parts => (c :: part) :: parts

/-- The parts between the delimiters that stand outside; `none` if something is left open. -/
def partsOutside (d : Char) : Enclosure → List Char → Option (List (List Char))
  | .outside, [] => some [[]]
  | _, [] => none
  | e, c :: rest =>
    if e = .outside ∧ c = d then (partsOutside d .outside rest).map ([] :: ·)
    else (e.next c).bind fun e => (partsOutside d e rest).map (consFirst c)

/-- Cuts at the delimiters outside of addresses and quotes, or at all of them if something is left
    open. -/
def splitOutside (d : Char) (s : List Char) : List (List Char) :=
  (partsOutside d .outside s).getD (Text.split d s)

/-! ## 2. Entries -/

/-- What stands between `<` and `>` if these enclose a text. -/
def bracketed? : List Char → Option (List Char)
  | '<' :: rest => if rest.getLast? = some '>' then some rest.dropLast else none
  | _ => none

/-- The value of a part `rel=value`, without quotes around it. -/
def relation? (part : List Char) : Option (List Char) :=
  if (bracketed? part).isSome then none
  else
    match Text.splitOnce (· == '=') part with
    | some (name, value) =>
      if Text.eqIgnoreCase (Text.trim name) ['r', 'e', 'l'] then
        some (Text.trim (Text.trimBy (· == '"') (Text.trim value)))
      else none
    | none => none

/-- The link of an entry: its first address and its first relation, neither of them empty. -/
def ofEntry? (entry : List Char) : Option Link :=
  let parts := (splitOutside ';' entry).map Text.trim
  match (parts.findSome? bracketed?).map Text.trim, parts.findSome? relation? with
  | some uri, some rel =>
    if uri.isEmpty || rel.isEmpty then none
    else some { uri := String.ofList uri, rel := String.ofList rel }
  | _, _ => none

/-- The links of a header field. -/
def parseLinks (value : List Char) : List Link :=
  (splitOutside ',' value).filterMap ofEntry?

/-- The header field of some links. -/
def joined (links : List Link) : List Char :=
  Text.join [',', ' '] (links.map text)

end Link

end TrialProtocol
