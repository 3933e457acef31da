import TrialProtocol.Decimal.Rounding
import TrialProtocol.Text.Numeral

/-!
# Writing documents

The one written form of each value: no blanks, members in the order given, strings with as few escapes
as the format allows, doubles with the fewest digits. Every function gives the text of one value, so a
document is put together from the texts of its parts.
-/

namespace TrialProtocol.Json.Writer

/-- One character inside a string. -/
def character (c : Char) : List Char :=
  match c with
  | '"' => ['\\', '"']
  | '\\' => ['\\', '\\']
  | '\x08' => ['\\', 'b']
  | '\t' => ['\\', 't']
  | '\n' => ['\\', 'n']
  | '\x0c' => ['\\', 'f']
  | '\r' => ['\\', 'r']
  | c =>
    if c.toNat < 0x20 then
      ['\\', 'u', '0', '0', Text.lowerHexDigit (c.toNat / 16), Text.lowerHexDigit (c.toNat % 16)]
    else [c]

/-- A string. -/
def string (s : String) : List Char :=
  '"' :: s.toList.flatMap character ++ ['"']

/-- A truth value. -/
def boolean (b : Bool) : List Char :=
  if b then ['t', 'r', 'u', 'e'] else ['f', 'a', 'l', 's', 'e']

/-- A natural number. -/
def natural (n : Nat) : List Char :=
  Nat.toDigits 10 n

/-- A double; what is not finite is written as null. -/
def double (x : Double) : List Char :=
  if x.isFinite then (Decimal.ofFinite x).text else ['n', 'u', 'l', 'l']

/-- A list. -/
def list (items : List (List Char)) : List Char :=
  '[' :: Text.join [','] items ++ [']']

/-- A member of an object. -/
def member (name : String) (value : List Char) : List Char :=
  string name ++ ':' :: value

/-- An object of some members. -/
def object (members : List (List Char)) : List Char :=
  '\x7b' :: Text.join [','] members ++ ['\x7d']

/-- A member that is written only if `present` holds. -/
def memberIf (present : Bool) (name : String) (value : List Char) : List (List Char) :=
  if present then [member name value] else []

end TrialProtocol.Json.Writer
