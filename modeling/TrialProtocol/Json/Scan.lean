import TrialProtocol.Json.Fault
import TrialProtocol.Text.Numeral
import TrialProtocol.Text.Utf8

/-!
# Blanks, words, strings and numbers of a document

The smallest pieces of a JSON document. Each function takes a document, reads its front and gives the
rest, or says what is wrong at the first place where something is.

* A document may hold bytes that belong to no character. They are a fault only inside a string that
  is read; the fault is found when the string ends.
* `skipString` passes over a string that nobody asked for, and minds its escapes less.
-/

namespace TrialProtocol.Json

/-- A piece of a document and the rest, or a fault. -/
abbrev Reader (α : Type) := Document → Except Fault (α × Document)

/-! ## 1. Blanks and words -/

/-- The four blanks of the format. -/
def isBlank : Option Char → Bool
  | some c => c == ' ' || c == '\t' || c == '\n' || c == '\r'
  | none => false

/-- The document behind the blanks at its front. -/
def skipBlanks (doc : Document) : Document :=
  doc.dropWhile isBlank

/-- The letters that complete a word such as `null`. -/
def expectLetters : List Char → Document → Except Fault Document
  | [], doc => .ok doc
  | _ :: _, [] => .error .endInValue
  | c :: cs, unit :: rest =>
    if unit = some c then expectLetters cs rest else .error .expectedLiteral

/-! ## 2. Escapes -/

/-- The value of four hexadecimal digits at the front. Four bytes have to be left. -/
def hexCode (doc : Document) : Except Fault Nat :=
  match doc with
  | some a :: some b :: some c :: some d :: _ =>
    match Text.hexValue? a, Text.hexValue? b, Text.hexValue? c, Text.hexValue? d with
    | some a, some b, some c, some d => .ok (((16 * a + b) * 16 + c) * 16 + d)
    | _, _, _, _ => .error .invalidEscape
  | _ =>
    if (doc.take 4).foldl (fun n u => n + Utf8.unitSize u) 0 < 4 then .error .endInString
    else .error .invalidEscape

/-- The second half of a pair of codes for one character. -/
def lowSurrogate : Document → Except Fault Nat
  | some '\\' :: some 'u' :: rest => do
    let code ← hexCode rest
    if 0xDC00 ≤ code ∧ code ≤ 0xDFFF then return code - 0xDC00 else .error .loneSurrogate
  | [] => .error .endInString
  | [some '\\'] => .error .endInString
  | _ => .error .missingSurrogate

/-- The character behind a `\u`, and how many places its code takes. -/
def codeEscape (doc : Document) : Except Fault (Char × Nat) := do
  let code ← hexCode doc
  if 0xDC00 ≤ code ∧ code ≤ 0xDFFF then .error .loneSurrogate
  else if 0xD800 ≤ code ∧ code ≤ 0xDBFF then
    let low ← lowSurrogate (doc.drop 4)
    return (Char.ofNat (0x10000 + (code - 0xD800) * 0x400 + low), 10)
  else return (Char.ofNat code, 4)

/-- The character of an escape of one letter. -/
def letterEscape? : Char → Option Char
  | '"' => some '"'
  | '\\' => some '\\'
  | '/' => some '/'
  | 'b' => some '\x08'
  | 'f' => some '\x0c'
  | 'n' => some '\n'
  | 'r' => some '\r'
  | 't' => some '\t'
  | _ => none

/-- The character behind a backslash, and how many places it takes there. -/
def escapeAt : Document → Except Fault (Char × Nat)
  | [] => .error .endInString
  | some 'u' :: rest => do
    let (c, n) ← codeEscape rest
    return (c, n + 1)
  | some c :: _ =>
    match letterEscape? c with
    | some e => .ok (e, 1)
    | none => .error .invalidEscape
  | none :: _ => .error .invalidEscape

/-! ## 3. Strings -/

/-- Whether a place may not stand unescaped in a string. -/
def isControl : Option Char → Bool
  | some c => c.toNat < 0x20
  | none => false

/-- The places of a string up to its closing quote, and the document behind it. The first `skip`
    places belong to an escape already read. -/
def stringFrom : Nat → Document → Except Fault (Document × Document)
  | _, [] => .error .endInString
  | skip + 1, _ :: rest => stringFrom skip rest
  | 0, unit :: rest =>
    if unit = some '"' then .ok ([], rest)
    else if unit = some '\\' then do
      let (c, n) ← escapeAt rest
      let (places, rest) ← stringFrom n rest
      return (some c :: places, rest)
    else if isControl unit then .error .controlCharacter
    else do
      let (places, rest) ← stringFrom 0 rest
      return (unit :: places, rest)

/-- The string behind its opening quote. -/
def stringBody : Reader String := fun doc => do
  let (places, rest) ← stringFrom 0 doc
  match Utf8.text? places with
  | some s => return (String.ofList s, rest)
  | none => .error .invalidCharacter

/-- How many places the escape takes that follows a backslash, if only its form matters. -/
def escapeLength : Document → Except Fault Nat
  | [] => .error .endInString
  | some 'u' :: rest => (hexCode rest).map fun _ => 5
  | some c :: _ => if (letterEscape? c).isSome then .ok 1 else .error .invalidEscape
  | none :: _ => .error .invalidEscape

/-- The document behind the closing quote of a string that is passed over. -/
def skipStringFrom : Nat → Document → Except Fault Document
  | _, [] => .error .endInString
  | skip + 1, _ :: rest => skipStringFrom skip rest
  | 0, unit :: rest =>
    if unit = some '"' then .ok rest
    else if unit = some '\\' then do
      let n ← escapeLength rest
      skipStringFrom n rest
    else if isControl unit then .error .controlCharacter
    else skipStringFrom 0 rest

/-! ## 4. Numbers -/

/-- The fault of a number that breaks off or goes wrong. -/
def numberFault : Decimal.ScanFault → Fault
  | .cutShort => .endInValue
  | .malformed => .invalidNumber

/-- The decimal at the front. -/
def number : Reader Decimal := fun doc =>
  match Decimal.scan doc with
  | .ok r => .ok r
  | .error e => .error (numberFault e)

/-- Whether a number begins with this character. -/
def startsNumber (c : Char) : Bool :=
  c == '-' || c.isDigit

/-! ## 5. The signs between values -/

/-- The colon between a key and its value. -/
def colon (doc : Document) : Except Fault Document :=
  match skipBlanks doc with
  | [] => .error .endInObject
  | some ':' :: rest => .ok rest
  | _ => .error .expectedColon

/-- Whether another element of a list follows; the document then begins with it, and otherwise with
    the closing bracket. -/
def nextElement (first : Bool) (doc : Document) : Except Fault (Bool × Document) :=
  match skipBlanks doc with
  | [] => .error .endInList
  | some ']' :: rest => .ok (false, some ']' :: rest)
  | some ',' :: rest =>
    if first then .ok (true, some ',' :: rest)
    else
      match skipBlanks rest with
      | [] => .error .endInValue
      | some ']' :: _ => .error .trailingComma
      | doc => .ok (true, doc)
  | doc => if first then .ok (true, doc) else .error .expectedListEnd

/-- The opening quote of a key. -/
def keyQuote : Document → Except Fault Document
  | some '"' :: rest => .ok rest
  | _ => .error .keyNotString

/-- Whether another member of an object follows; the document then begins with its key behind the
    opening quote, and otherwise with the closing brace. -/
def nextKey (first : Bool) (doc : Document) : Except Fault (Bool × Document) :=
  match skipBlanks doc with
  | [] => .error .endInObject
  | some '\x7d' :: rest => .ok (false, some '\x7d' :: rest)
  | some ',' :: rest =>
    if first then .error .keyNotString
    else
      match skipBlanks rest with
      | [] => .error .endInValue
      | some '\x7d' :: _ => .error .trailingComma
      | doc => (keyQuote doc).map (true, ·)
  | doc =>
    if first then (keyQuote doc).map (true, ·) else .error .expectedObjectEnd

/-- The closing bracket of a list. -/
def closeList (doc : Document) : Except Fault Document :=
  match skipBlanks doc with
  | [] => .error .endInList
  | some ']' :: rest => .ok rest
  | some ',' :: rest =>
    match skipBlanks rest with
    | some ']' :: _ => .error .trailingComma
    | _ => .error .trailingCharacters
  | _ => .error .trailingCharacters

/-- The closing brace of an object. -/
def closeObject (doc : Document) : Except Fault Document :=
  match skipBlanks doc with
  | [] => .error .endInObject
  | some '\x7d' :: rest => .ok rest
  | some ',' :: _ => .error .trailingComma
  | _ => .error .trailingCharacters

/-- The end of a document. -/
def finish (doc : Document) : Except Fault Unit :=
  match skipBlanks doc with
  | [] => .ok ()
  | _ => .error .trailingCharacters

end TrialProtocol.Json
