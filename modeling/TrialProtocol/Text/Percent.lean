import TrialProtocol.Text.Numeral
import TrialProtocol.Text.Utf8

/-!
# Percent escapes

A byte as `%` and two hexadecimal digits. Writing escapes the characters that a given place of an
address does not allow, and every character beyond ASCII, byte by byte; reading undoes every escape
and leaves a `%` without two digits behind it as it is.

* `decodeBytes_encode`: where the percent sign itself is escaped, reading undoes writing.
-/

namespace TrialProtocol.Percent

open Text (upperHexDigit hexValue? hexValue?_upperHexDigit)

/-! ## 1. Writing -/

/-- The escape of a byte. -/
def escape (b : UInt8) : List Char :=
  ['%', upperHexDigit (b.toNat / 16), upperHexDigit (b.toNat % 16)]

/-- One character, escaped if it is not ASCII or `escaped` asks for it. -/
def encodeChar (escaped : Char → Bool) (c : Char) : List Char :=
  if 0x80 ≤ c.toNat || escaped c then (Utf8.encodeChar c).flatMap escape else [c]

/-- A text with the characters in `escaped` and those beyond ASCII escaped. -/
def encode (escaped : Char → Bool) (s : List Char) : List Char :=
  s.flatMap (encodeChar escaped)

/-! ## 2. Reading -/

/-- The bytes of a text with its escapes undone. -/
def decodeBytes : List Char → List UInt8
  | [] => []
  | '%' :: a :: b :: rest =>
    match hexValue? a, hexValue? b with
    | some x, some y => UInt8.ofNat (16 * x + y) :: decodeBytes rest
    | _, _ => Utf8.encodeChar '%' ++ decodeBytes (a :: b :: rest)
  | c :: rest => Utf8.encodeChar c ++ decodeBytes rest

/-- The text with its escapes undone, if they spell one. -/
def decode? (s : List Char) : Option (List Char) :=
  Utf8.decode? (decodeBytes s)

/-! ## 3. Reading undoes writing -/

theorem decodeBytes_escape (b : UInt8) (rest : List Char) :
    decodeBytes (escape b ++ rest) = b :: decodeBytes rest := by
  have hb : b.toNat < 256 := b.toNat_lt
  have e : 16 * (b.toNat / 16) + b.toNat % 16 = b.toNat := by omega
  simp only [escape, List.cons_append, List.nil_append, decodeBytes,
    hexValue?_upperHexDigit (show b.toNat / 16 < 16 by omega),
    hexValue?_upperHexDigit (show b.toNat % 16 < 16 by omega), e, UInt8.ofNat_toNat]

theorem decodeBytes_flatMap_escape (bytes : List UInt8) (rest : List Char) :
    decodeBytes (bytes.flatMap escape ++ rest) = bytes ++ decodeBytes rest := by
  induction bytes with
  | nil => rfl
  | cons b bytes ih =>
    rw [List.flatMap_cons, List.append_assoc, decodeBytes_escape, ih]
    rfl

theorem decodeBytes_cons {c : Char} (h : c ≠ '%') (rest : List Char) :
    decodeBytes (c :: rest) = Utf8.encodeChar c ++ decodeBytes rest := by
  rw [decodeBytes]
  intro a b more hc _
  exact h hc

theorem decodeBytes_encode_append {escaped : Char → Bool} (h : escaped '%' = true)
    (s rest : List Char) :
    decodeBytes (encode escaped s ++ rest) = Utf8.encode s ++ decodeBytes rest := by
  induction s with
  | nil => rfl
  | cons c s ih =>
    simp only [encode, Utf8.encode, List.flatMap_cons, List.append_assoc] at ih ⊢
    rw [encodeChar]
    split
    · rw [decodeBytes_flatMap_escape, ih]
    · rename_i hc
      have hne : c ≠ '%' := by
        rintro rfl
        exact hc (by simp [h])
      rw [List.cons_append, List.nil_append, decodeBytes_cons hne, ih]

/-- **Escapes that were written are undone by reading.** -/
theorem decodeBytes_encode {escaped : Char → Bool} (h : escaped '%' = true) (s : List Char) :
    decodeBytes (encode escaped s) = Utf8.encode s := by
  have := decodeBytes_encode_append h s []
  simpa [decodeBytes] using this

theorem decode?_encode {escaped : Char → Bool} (h : escaped '%' = true) (s : List Char) :
    decode? (encode escaped s) = some s := by
  rw [decode?, decodeBytes_encode h, Utf8.decode?_encode]

end TrialProtocol.Percent
