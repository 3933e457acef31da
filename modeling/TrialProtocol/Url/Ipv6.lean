import TrialProtocol.Text.Blank
import TrialProtocol.Text.Numeral

/-!
# Addresses of 128 bits

Eight groups of sixteen bits between colons. One run of zero groups may be left out (`::`), and the
last two groups may be written as four decimal bytes. A written address leaves out its longest run of
at least two zero groups, the first of several.
-/

namespace TrialProtocol.Url

/-- An address of eight groups. -/
structure Ipv6 where
  groups : List UInt16
  length_groups : groups.length = 8
  deriving DecidableEq, Repr

namespace Ipv6

/-! ## 1. Reading -/

/-- One group of one to four hexadecimal digits. -/
def group? (s : List Char) : Option UInt16 :=
  if s.length = 0 ∨ 4 < s.length then none
  else (s.mapM Text.hexValue?).map fun digits =>
    UInt16.ofNat (digits.foldl (fun n d => 16 * n + d) 0)

/-- A decimal byte without leading zeros. -/
def byte? (s : List Char) : Option Nat :=
  match s with
  | [] => none
  | '0' :: _ :: _ => none
  | '+' :: _ => none
  | s => (Text.readNat 255 s).toOption

/-- The two groups of four decimal bytes. -/
def dotted? (s : List Char) : Option (List UInt16) :=
  match (Text.split '.' s).mapM byte? with
  | some [a, b, c, d] => some [UInt16.ofNat (256 * a + b), UInt16.ofNat (256 * c + d)]
  | _ => none

/-- Groups between colons; only the last may be dotted. -/
def groups? : List (List Char) → Option (List UInt16)
  | [] => some []
  | [last] => if last.contains '.' then dotted? last else (group? last).map ([·])
  | s :: rest => do return (← group? s) :: (← groups? rest)

/-- The groups of a text, none of an empty one. -/
def readGroups? (s : List Char) : Option (List UInt16) :=
  if s.isEmpty then some [] else groups? (Text.split ':' s)

/-- Cuts a text at its first `::`. -/
def cutGap : List Char → Option (List Char × List Char)
  | ':' :: ':' :: rest => some ([], rest)
  | c :: rest => (cutGap rest).map fun (a, b) => (c :: a, b)
  | [] => none

/-- The address with the given groups, if they are eight. -/
def ofGroups? (groups : List UInt16) : Option Ipv6 :=
  if h : groups.length = 8 then some ⟨groups, h⟩ else none

/-- Reads an address. The groups before a gap are all hexadecimal, and a gap stands for at least one
    group. -/
def read? (s : List Char) : Option Ipv6 :=
  match cutGap s with
  | none => (readGroups? s).bind ofGroups?
  | some (before, after) => do
    if before.contains '.' then none
    else
      let a ← readGroups? before
      let b ← readGroups? after
      if a.length + b.length ≤ 7 then
        ofGroups? (a ++ List.replicate (8 - a.length - b.length) 0 ++ b)
      else none

/-! ## 2. Writing -/

/-- The length of the run of zeros at the front. -/
def zeroRun (groups : List UInt16) : Nat :=
  (groups.takeWhile (· == 0)).length

/-- The length of the longest run of zeros. -/
def longestRun : List UInt16 → Nat
  | [] => 0
  | g :: rest => max (zeroRun (g :: rest)) (longestRun rest)

/-- The first place with a run of zeros of the given length. -/
def runStart (n : Nat) : List UInt16 → Nat
  | [] => 0
  | g :: rest => if zeroRun (g :: rest) = n then 0 else runStart n rest + 1

/-- Groups with colons between them. -/
def groupsText (groups : List UInt16) : List Char :=
  Text.join [':'] (groups.map fun g => Nat.toDigits 16 g.toNat)

/-- The written address. -/
def text (a : Ipv6) : List Char :=
  let n := longestRun a.groups
  if n < 2 then groupsText a.groups
  else
    let start := runStart n a.groups
    groupsText (a.groups.take start) ++ [':', ':'] ++ groupsText (a.groups.drop (start + n))

end Ipv6

end TrialProtocol.Url
