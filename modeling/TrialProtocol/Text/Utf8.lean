/-!
# UTF-8

Characters as bytes and back. A text that arrives from outside need not be well formed, so reading
gives a *document*: a character where the bytes spell one, and a hole where a byte belongs to none.

* `units` never fails; every hole stands for exactly one byte.
* `decode?` succeeds exactly on documents without a hole.
* `units_encode`, `decode?_encode`: what was written is read back.
-/

namespace TrialProtocol

/-- A text as it arrived: `none` stands for a byte that belongs to no character. -/
abbrev Document := List (Option Char)

namespace Utf8

/-! ## 1. Writing -/

/-- The one to four bytes of a character. -/
def encodeChar (c : Char) : List UInt8 :=
  let n := c.toNat
  if n < 0x80 then [UInt8.ofNat n]
  else if n < 0x800 then
    [UInt8.ofNat (0xC0 + n / 64), UInt8.ofNat (0x80 + n % 64)]
  else if n < 0x10000 then
    [UInt8.ofNat (0xE0 + n / 4096), UInt8.ofNat (0x80 + n / 64 % 64), UInt8.ofNat (0x80 + n % 64)]
  else
    [UInt8.ofNat (0xF0 + n / 262144), UInt8.ofNat (0x80 + n / 4096 % 64),
      UInt8.ofNat (0x80 + n / 64 % 64), UInt8.ofNat (0x80 + n % 64)]

/-- The bytes of a text. -/
def encode (s : List Char) : List UInt8 :=
  s.flatMap encodeChar

/-! ## 2. Reading -/

/-- The six bits of a byte that continues a character. -/
def tail? (b : UInt8) : Option Nat :=
  if 0x80 ≤ b.toNat ∧ b.toNat < 0xC0 then some (b.toNat - 0x80) else none

/-- The character of a value, unless it lies below `least` or is no character at all. -/
def charFrom? (least n : Nat) : Option Char :=
  if least ≤ n ∧ n.isValidChar then some (Char.ofNat n) else none

/-- The character spelt by `k` bytes behind a first byte whose own bits are `acc`. -/
def continued? (least : Nat) : Nat → Nat → List UInt8 → Option Char
  | 0, acc, _ => charFrom? least acc
  | _ + 1, _, [] => none
  | k + 1, acc, b :: rest => (tail? b).bind fun bits => continued? least k (64 * acc + bits) rest

/-- The character at the front, with the number of bytes it has behind the first. -/
def front? (b : UInt8) (rest : List UInt8) : Option (Char × Nat) :=
  let n := b.toNat
  if n < 0x80 then some (Char.ofNat n, 0)
  else if n < 0xC0 then none
  else if n < 0xE0 then (continued? 0x80 1 (n - 0xC0) rest).map (·, 1)
  else if n < 0xF0 then (continued? 0x800 2 (n - 0xE0) rest).map (·, 2)
  else if n < 0xF8 then (continued? 0x10000 3 (n - 0xF0) rest).map (·, 3)
  else none

/-- The document behind `skip` bytes that belong to a character already read. -/
def unitsFrom : Nat → List UInt8 → Document
  | _, [] => []
  | skip + 1, _ :: rest => unitsFrom skip rest
  | 0, b :: rest =>
    match front? b rest with
    | some (c, k) => some c :: unitsFrom k rest
    | none => none :: unitsFrom 0 rest

/-- The document that bytes spell. -/
def units (bytes : List UInt8) : Document :=
  unitsFrom 0 bytes

/-- The text of a document without holes. -/
def text? (doc : Document) : Option (List Char) :=
  doc.mapM id

/-- The text that well-formed bytes spell. -/
def decode? (bytes : List UInt8) : Option (List Char) :=
  text? (units bytes)

/-- The number of bytes behind one place of a document. -/
def unitSize : Option Char → Nat
  | none => 1
  | some c => (encodeChar c).length

/-! ## 3. What was written is read back -/

theorem toNat_ofNat {n : Nat} (h : n < 256) : (UInt8.ofNat n).toNat = n := by
  rw [UInt8.toNat_ofNat', Nat.mod_eq_of_lt h]

theorem tail?_ofNat {n : Nat} (h : n < 64) : tail? (UInt8.ofNat (0x80 + n)) = some n := by
  rw [tail?, toNat_ofNat (show 0x80 + n < 256 by omega), if_pos (by omega), Nat.add_sub_cancel_left]

theorem charFrom?_toNat {least : Nat} {c : Char} (h : least ≤ c.toNat) :
    charFrom? least c.toNat = some c := by
  have hv : c.toNat.isValidChar := c.valid
  rw [charFrom?, if_pos ⟨h, hv⟩, Char.ofNat_toNat]

theorem unitsFrom_append (written rest : List UInt8) :
    unitsFrom written.length (written ++ rest) = unitsFrom 0 rest := by
  induction written with
  | nil => rfl
  | cons b written ih => simpa [unitsFrom] using ih

/-- The bytes of a character are read as that character, whatever follows. -/
theorem front?_encodeChar (c : Char) (rest : List UInt8) :
    ∃ b more, encodeChar c = b :: more ∧ front? b (more ++ rest) = some (c, more.length) := by
  have hc : c.toNat < 0x110000 := by
    have := c.valid
    simp only [UInt32.isValidChar, Nat.isValidChar] at this
    change c.val.toNat < _
    omega
  unfold encodeChar
  simp only []
  split
  · rename_i h
    refine ⟨_, [], rfl, ?_⟩
    simp only [front?, toNat_ofNat (show c.toNat < 256 by omega), h, ↓reduceIte,
      Char.ofNat_toNat, List.length_nil]
  split
  · rename_i h1 h2
    refine ⟨_, _, rfl, ?_⟩
    have e : 64 * (192 + c.toNat / 64 - 192) + c.toNat % 64 = c.toNat := by omega
    simp only [front?, toNat_ofNat (show 0xC0 + c.toNat / 64 < 256 by omega), continued?,
      List.cons_append, List.nil_append, tail?_ofNat (show c.toNat % 64 < 64 by omega),
      Option.bind_some, e, charFrom?_toNat (show 0x80 ≤ c.toNat by omega)]
    rw [if_neg (by omega), if_neg (by omega), if_pos (by omega)]
    rfl
  split
  · rename_i h1 h2 h3
    refine ⟨_, _, rfl, ?_⟩
    have e : 64 * (64 * (224 + c.toNat / 4096 - 224) + c.toNat / 64 % 64) + c.toNat % 64
        = c.toNat := by omega
    simp only [front?, toNat_ofNat (show 0xE0 + c.toNat / 4096 < 256 by omega), continued?,
      List.cons_append, List.nil_append, tail?_ofNat (show c.toNat % 64 < 64 by omega),
      tail?_ofNat (show c.toNat / 64 % 64 < 64 by omega),
      Option.bind_some, e, charFrom?_toNat (show 0x800 ≤ c.toNat by omega)]
    rw [if_neg (by omega), if_neg (by omega), if_neg (by omega), if_pos (by omega)]
    rfl
  · rename_i h1 h2 h3
    refine ⟨_, _, rfl, ?_⟩
    have e : 64 * (64 * (64 * (240 + c.toNat / 262144 - 240) + c.toNat / 4096 % 64)
        + c.toNat / 64 % 64) + c.toNat % 64 = c.toNat := by omega
    simp only [front?, toNat_ofNat (show 0xF0 + c.toNat / 262144 < 256 by omega), continued?,
      List.cons_append, List.nil_append, tail?_ofNat (show c.toNat % 64 < 64 by omega),
      tail?_ofNat (show c.toNat / 64 % 64 < 64 by omega),
      tail?_ofNat (show c.toNat / 4096 % 64 < 64 by omega),
      Option.bind_some, e, charFrom?_toNat (show 0x10000 ≤ c.toNat by omega)]
    rw [if_neg (by omega), if_neg (by omega), if_neg (by omega), if_neg (by omega),
      if_pos (by omega)]
    rfl

/-- One written character in front is one character of the document. -/
theorem unitsFrom_encodeChar (c : Char) (rest : List UInt8) :
    unitsFrom 0 (encodeChar c ++ rest) = some c :: unitsFrom 0 rest := by
  obtain ⟨b, more, hb, hf⟩ := front?_encodeChar c rest
  rw [hb, List.cons_append, unitsFrom, hf]
  simp only [unitsFrom_append]

theorem units_encode_append (s : List Char) (rest : List UInt8) :
    units (encode s ++ rest) = s.map some ++ units rest := by
  induction s with
  | nil => rfl
  | cons c s ih =>
    simp only [units, encode, List.flatMap_cons, List.append_assoc] at ih ⊢
    rw [unitsFrom_encodeChar, ih]
    rfl

/-- **A written text is read back character by character.** -/
theorem units_encode (s : List Char) : units (encode s) = s.map some := by
  have := units_encode_append s []
  simpa [units, unitsFrom] using this

theorem text?_map_some (s : List Char) : text? (s.map some) = some s := by
  induction s with
  | nil => rfl
  | cons c s ih =>
    simp only [text?, List.map_cons, List.mapM_cons] at ih ⊢
    simp [ih]

theorem decode?_encode (s : List Char) : decode? (encode s) = some s := by
  rw [decode?, units_encode, text?_map_some]

end Utf8

end TrialProtocol
