import TrialProtocol.Http.Message
import TrialProtocol.Text.Percent

/-!
# Texts in ASCII

A text in ASCII has one byte for each character, so it passes through header fields and escapes
unchanged, as far as its characters may stand there.

* `of_ascii`: what is decided for 128 characters holds of every character in ASCII.
* `isPlain` is the class of characters that paths and numbers are written with here.
-/

namespace TrialProtocol.Text

/-! ## 1. Characters -/

/-- What is decided for the characters of ASCII holds of them. -/
theorem of_ascii {p : Char → Prop} (h : ∀ n, n < 128 → p (Char.ofNat n)) {c : Char}
    (hc : c.toNat < 128) : p c := by
  have hp := h c.toNat hc
  rwa [Char.ofNat_toNat] at hp

theorem toLower_of_isUpper_eq_false {c : Char} (h : c.isUpper = false) : c.toLower = c := by
  unfold Char.toLower
  exact dif_neg (of_decide_eq_false h)

theorem toNat_lt_of_isUpper {c : Char} (h : c.isUpper = true) : c.toNat < 128 := by
  have hz : c.toNat ≤ 'Z'.toNat := (of_decide_eq_true h).2
  exact Nat.lt_of_le_of_lt hz (by decide)

/-- A letter, a digit, a hyphen, a dot or a slash. -/
def isPlain (c : Char) : Bool :=
  (45 ≤ c.toNat && c.toNat ≤ 57) || (65 ≤ c.toNat && c.toNat ≤ 90) ||
    (97 ≤ c.toNat && c.toNat ≤ 122)

theorem toNat_lt_of_isPlain {c : Char} (h : isPlain c = true) : c.toNat < 128 := by
  simp only [isPlain, Bool.or_eq_true, Bool.and_eq_true, decide_eq_true_eq] at h
  omega

/-- What is decided for the plain characters holds of them. -/
theorem of_isPlain {p : Char → Prop} (h : ∀ n, n < 128 → isPlain (Char.ofNat n) = true →
    p (Char.ofNat n)) {c : Char} (hc : isPlain c = true) : p c := by
  have hp := h c.toNat (toNat_lt_of_isPlain hc)
  rw [Char.ofNat_toNat] at hp
  exact hp hc

theorem isPlain_of_isDigit {c : Char} (h : c.isDigit = true) : isPlain c = true := by
  simp only [Char.isDigit, Bool.and_eq_true, decide_eq_true_eq] at h
  have h48 : 48 ≤ c.toNat := UInt32.le_iff_toNat_le.mp h.1
  have h57 : c.toNat ≤ 57 := UInt32.le_iff_toNat_le.mp h.2
  simp only [isPlain, Bool.or_eq_true, Bool.and_eq_true, decide_eq_true_eq]
  omega

theorem isPlain_of_mem_toDigits {n : Nat} {c : Char} (h : c ∈ Nat.toDigits 10 n) :
    isPlain c = true :=
  isPlain_of_isDigit (Nat.isDigit_of_mem_toDigits (by decide) (by decide) h)

/-- A character of a query. -/
def isQueryChar (c : Char) : Bool :=
  isPlain c || c == '=' || c == '&'

/-- What is decided for the characters of a query holds of them. -/
theorem of_isQueryChar {p : Char → Prop} (h : ∀ n, n < 128 → isQueryChar (Char.ofNat n) = true →
    p (Char.ofNat n)) {c : Char} (hc : isQueryChar c = true) : p c := by
  have hlt : c.toNat < 128 := by
    simp only [isQueryChar, Bool.or_eq_true, beq_iff_eq] at hc
    rcases hc with (hc | rfl) | rfl
    · exact toNat_lt_of_isPlain hc
    · decide
    · decide
  have hp := h c.toNat hlt
  rw [Char.ofNat_toNat] at hp
  exact hp hc

/-! ## 2. Bytes -/

/-- A character of ASCII is one byte. -/
theorem encodeChar_of_lt {c : Char} (h : c.toNat < 128) :
    Utf8.encodeChar c = [UInt8.ofNat c.toNat] := by
  rw [Utf8.encodeChar, if_pos h]

theorem encode_of_ascii {s : List Char} (h : ∀ c ∈ s, c.toNat < 128) :
    Utf8.encode s = s.map fun c => UInt8.ofNat c.toNat := by
  induction s with
  | nil => rfl
  | cons c s ih =>
    rw [Utf8.encode, List.flatMap_cons, encodeChar_of_lt (h c (List.mem_cons_self ..))]
    exact congrArg _ (ih fun x hx => h x (List.mem_cons_of_mem _ hx))

/-! ## 3. Header fields -/

/-- A character that a header can say and that can be read there. -/
def isReadable (c : Char) : Bool :=
  (32 ≤ c.toNat && c.toNat < 127) || c == '\t'

theorem toNat_lt_of_isReadable {c : Char} (h : isReadable c = true) : c.toNat < 128 := by
  simp only [isReadable, Bool.or_eq_true, Bool.and_eq_true, decide_eq_true_eq, beq_iff_eq] at h
  rcases h with h | rfl
  · omega
  · decide

theorem isReadable_of_isPlain {c : Char} (h : isPlain c = true) : isReadable c = true :=
  of_isPlain (p := fun c => isReadable c = true) (by decide) h

section Fields

variable {s : List Char}

theorem isReadable_byte {c : Char} (h : isReadable c = true) :
    Http.isReadable (UInt8.ofNat c.toNat) = true ∧ Char.ofNat (UInt8.ofNat c.toNat).toNat = c := by
  have hc := toNat_lt_of_isReadable h
  refine ⟨?_, ?_⟩
  · revert h
    exact of_ascii (p := fun c => isReadable c = true → Http.isReadable (UInt8.ofNat c.toNat) = true)
      (by decide) hc
  · rw [Utf8.toNat_ofNat (by omega), Char.ofNat_toNat]

/-- **A readable text is read from a field as it was written.** -/
theorem text?_encode (h : ∀ c ∈ s, isReadable c = true) :
    Http.text? (Utf8.encode s) = some s := by
  have hs := encode_of_ascii fun c hc => toNat_lt_of_isReadable (h c hc)
  have hall : (Utf8.encode s).all Http.isReadable = true := by
    rw [hs, List.all_map, List.all_eq_true]
    exact fun c hc => (isReadable_byte (h c hc)).1
  have hmap : (Utf8.encode s).map (fun b => Char.ofNat b.toNat) = s := by
    rw [hs, List.map_map]
    have hid : ∀ c ∈ s, Char.ofNat (UInt8.ofNat c.toNat).toNat = id c := fun c hc =>
      (isReadable_byte (h c hc)).2
    exact (List.map_congr_left hid).trans (List.map_id s)
  rw [Http.text?, if_pos hall, hmap]

/-- A readable text may be sent. -/
theorem isSendable_encode (h : ∀ c ∈ s, isReadable c = true) :
    Http.isSendable (Utf8.encode s) = true := by
  rw [encode_of_ascii fun c hc => toNat_lt_of_isReadable (h c hc), Http.isSendable, List.all_map,
    List.all_eq_true]
  intro c hc
  have hr := h c hc
  revert hr
  exact of_ascii (p := fun c => isReadable c = true →
    ((32 ≤ UInt8.ofNat c.toNat && UInt8.ofNat c.toNat != 127) || UInt8.ofNat c.toNat == 9) = true)
    (by decide) (toNat_lt_of_isReadable (h c hc))

end Fields

/-! ## 4. Escapes -/

/-- A text without escapes has none to undo. -/
theorem decodeBytes_of_ne {s : List Char} (h : ∀ c ∈ s, c ≠ '%') :
    Percent.decodeBytes s = Utf8.encode s := by
  induction s with
  | nil => rfl
  | cons c s ih =>
    rw [Percent.decodeBytes_cons (h c (List.mem_cons_self ..)),
      ih fun x hx => h x (List.mem_cons_of_mem _ hx)]
    rfl

theorem decode?_of_ne {s : List Char} (h : ∀ c ∈ s, c ≠ '%') : Percent.decode? s = some s := by
  rw [Percent.decode?, decodeBytes_of_ne h, Utf8.decode?_encode]

/-- A text in ASCII without characters to escape stays as it is. -/
theorem encode_of_not_escaped {escaped : Char → Bool} {s : List Char}
    (h : ∀ c ∈ s, c.toNat < 128 ∧ escaped c = false) : Percent.encode escaped s = s := by
  induction s with
  | nil => rfl
  | cons c s ih =>
    obtain ⟨hc, he⟩ := h c (List.mem_cons_self ..)
    have hn : ¬((decide (128 ≤ c.toNat) || escaped c) = true) := by
      rw [he, Bool.or_false, decide_eq_true_eq]
      omega
    rw [Percent.encode, List.flatMap_cons, Percent.encodeChar, if_neg hn]
    exact congrArg _ (ih fun x hx => h x (List.mem_cons_of_mem _ hx))

end TrialProtocol.Text
