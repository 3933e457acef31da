import TrialProtocol.Text.Blank
import TrialProtocol.Text.Numeral

/-!
# Addresses of 32 bits

A host whose last label is a number is an address of up to four numbers between dots, each decimal,
octal (`017`) or hexadecimal (`0xf`). The last number fills all the bytes that are left, so `0x7f.1`
is `127.0.0.1`. A written address has four decimal numbers.
-/

namespace TrialProtocol.Url

/-- The value of digits in a base, if they are digits of that base. -/
def valueIn? (base : Nat) (s : List Char) : Option Nat :=
  s.foldlM (fun n c => do
    let d ← Text.hexValue? c
    if d < base then some (base * n + d) else none) 0

/-- The value of one number of an address. A sign of the base with nothing behind it is zero. -/
def ipv4Number? : List Char → Option Nat
  | [] => none
  | '0' :: 'x' :: rest => valueIn? 16 rest
  | '0' :: 'X' :: rest => valueIn? 16 rest
  | '0' :: c :: rest => valueIn? 8 (c :: rest)
  | s => valueIn? 10 s

/-- The labels of a host, without an empty one behind a dot at the end. -/
def labelsOf (s : List Char) : List (List Char) :=
  let labels := Text.split '.' s
  if labels.getLast? = some [] then labels.dropLast else labels

/-- Whether a host has to be an address: its last label is a number. -/
def endsInNumber (s : List Char) : Bool :=
  match (labelsOf s).getLast? with
  | some (c :: cs) => (c :: cs).all Char.isDigit || (ipv4Number? (c :: cs)).isSome
  | _ => false

/-- The address of some numbers: all but the last are bytes, from the left. -/
def ipv4OfNumbers? : List Nat → Option Nat
  | [] => none
  | numbers =>
    let bytes := numbers.dropLast
    let last := numbers.getLast?.getD 0
    if numbers.length ≤ 4 ∧ bytes.all (· ≤ 255) ∧ last < Nat.pow 256 (4 - bytes.length) then
      some (bytes.foldl (fun n b => 256 * n + b) 0 * Nat.pow 256 (4 - bytes.length) + last)
    else none

/-- Reads an address. -/
def readIpv4? (s : List Char) : Option UInt32 := do
  let numbers ← (labelsOf s).mapM ipv4Number?
  return UInt32.ofNat (← ipv4OfNumbers? numbers)

/-- The written address. -/
def ipv4Text (address : UInt32) : List Char :=
  let n := address.toNat
  Text.join ['.'] <| [n / 0x1000000, n / 0x10000 % 256, n / 0x100 % 256, n % 256].map (Nat.toDigits 10)

end TrialProtocol.Url
