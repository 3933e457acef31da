import TrialProtocol.Proofs.Json.Passed

/-!
# What an object holds before it is read

The members of an object, each with its key and with the document at its value. No decoder reads an
object that cannot be taken apart in this way, so they can be talked about whatever the decoder makes
of them.

* `raw`, `members raw`: values and members as they stand there. `Record.exists_members`: they can be
  told wherever a record is read.
* `Quoted`: the grammar of strings of well-formed characters. `stringBody_of_quoted`: they are read.
-/

namespace TrialProtocol.Json

/-! ## 1. Members -/

/-- A value is taken as it stands in the document. It is passed over. -/
def raw : Decoder Document := fun _ doc =>
  (skipValue doc).map fun rest => (doc, rest)

theorem raw_eq_ok_iff {depth : Nat} {doc value rest : Document} :
    raw depth doc = .ok (value, rest) ↔ value = doc ∧ Passes doc rest := by
  rw [passes_iff]
  constructor
  · intro h
    obtain ⟨_, skipped, same⟩ := exists_of_map h
    cases same
    exact ⟨rfl, skipped⟩
  · intro ⟨same, skipped⟩
    rw [same, raw, skipped]
    rfl

/-- What taking one more member comes to. -/
theorem exists_of_entries {depth budget : Nat} {first : Bool} {doc rest : Document}
    {ms : List (String × Document)}
    (taken : entries (raw depth) (budget + 1) first doc = .ok (ms, rest)) :
    (ms = [] ∧ nextKey first doc = .ok (false, rest)) ∨ ∃ key behind value after name others,
      ms = (name, value) :: others ∧ IsMember first doc key behind value after name ∧
      entries (raw depth) budget false after = .ok (others, rest) := by
  obtain ⟨⟨more, key⟩, next, taken⟩ := exists_of_bind taken
  cases more with
  | false =>
    cases taken
    exact .inl ⟨rfl, next⟩
  | true =>
    obtain ⟨⟨name, behind⟩, body, taken⟩ := exists_of_bind taken
    obtain ⟨value, behindKey, taken⟩ := exists_of_bind taken
    obtain ⟨⟨_, after⟩, one, taken⟩ := exists_of_bind taken
    obtain ⟨⟨others, _⟩, later, same⟩ := exists_of_bind taken
    cases same
    obtain ⟨rfl, passes⟩ := raw_eq_ok_iff.mp one
    exact .inr ⟨key, behind, _, after, name, others, rfl, ⟨next, body, behindKey, passes⟩, later⟩

namespace Record

variable {σ α : Type} {r : Record σ α} {depth : Nat} {s s' : σ} {doc rest : Document}

theorem exists_entries (passing : ∀ field ∈ r.fields, field.Passing) {budget : Nat} {first : Bool}
    (read : r.readMembers depth budget first s doc = .ok (s', rest)) (depth' : Nat) :
    ∃ ms, entries (raw depth') budget first doc = .ok (ms, rest) := by
  induction budget generalizing first s doc with
  | zero => cases read
  | succ budget ih =>
    rw [entries]
    obtain next | ⟨key, behind, value, after, name, t, member, read⟩ :=
      exists_of_readMembers passing read
    · rw [next]
      exact ⟨[], rfl⟩
    · obtain ⟨ms, later⟩ := ih read
      have one : raw depth' value = .ok (value, after) := raw_eq_ok_iff.mpr ⟨rfl, member.passes⟩
      refine ⟨(name, value) :: ms, ?_⟩
      simp only [bind, Except.bind, if_true, member.next, member.body, member.colon, one, later]
      rfl

/-- **Where a record is read from an object, its members can be told.** -/
theorem exists_members (passing : ∀ field ∈ r.fields, field.Passing) {inner : Document} {x : α}
    (object : skipBlanks doc = some '\x7b' :: inner) (read : r.decoder depth doc = .ok (x, rest)) :
    ∃ ms, members raw depth doc = .ok (ms, rest) := by
  unfold decoder at read
  unfold members
  rw [object] at read ⊢
  obtain ⟨depth', entered, read⟩ := exists_of_bind read
  obtain ⟨⟨s, behind⟩, read, made⟩ := exists_of_bind read
  obtain ⟨_, -, close⟩ := exists_of_bind made
  obtain ⟨_, close, same⟩ := exists_of_bind close
  cases same
  obtain ⟨ms, taken⟩ := exists_entries passing read depth'
  refine ⟨ms, ?_⟩
  simp only [bind, Except.bind, entered, taken, close]
  rfl

/-- So can those of a whole document. -/
theorem exists_readAll (passing : ∀ field ∈ r.fields, field.Passing) {inner : Document} {x : α}
    (object : skipBlanks doc = some '\x7b' :: inner) (read : readAll r.decoder doc = .ok x) :
    ∃ ms, readAll (members raw) doc = .ok ms := by
  obtain ⟨rest, read, blank⟩ := readAll_eq_ok_iff.mp read
  obtain ⟨ms, taken⟩ := exists_members passing object read
  exact ⟨ms, readAll_eq_ok_iff.mpr ⟨rest, taken, blank⟩⟩

end Record

/-! ## 2. Strings -/

/-- The value of four hexadecimal digits. -/
def codeOf? (a b c d : Char) : Option Nat :=
  match Text.hexValue? a, Text.hexValue? b, Text.hexValue? c, Text.hexValue? d with
  | some a, some b, some c, some d => some (((16 * a + b) * 16 + c) * 16 + d)
  | _, _, _, _ => none

/-- **Behind an opening quote stand the characters of a text**, each as itself, by an escape of one
    letter, by its code or by the two halves of its code, and behind them the closing quote. No byte is
    out of place there, and no half stands alone. -/
inductive Quoted : Document → List Char → Document → Prop where
  | close (rest : Document) : Quoted (some '"' :: rest) [] rest
  | plain {c : Char} {doc rest : Document} {text : List Char} (quote : c ≠ '"') (slash : c ≠ '\\')
      (visible : 0x20 ≤ c.toNat) (more : Quoted doc text rest) :
      Quoted (some c :: doc) (c :: text) rest
  | letter {e c : Char} {doc rest : Document} {text : List Char}
      (escape : letterEscape? e = some c) (more : Quoted doc text rest) :
      Quoted (some '\\' :: some e :: doc) (c :: text) rest
  | code {a b c d : Char} {n : Nat} {doc rest : Document} {text : List Char}
      (digits : codeOf? a b c d = some n) (whole : n < 0xD800 ∨ 0xDFFF < n)
      (more : Quoted doc text rest) :
      Quoted (some '\\' :: some 'u' :: some a :: some b :: some c :: some d :: doc)
        (Char.ofNat n :: text) rest
  | pair {a b c d a' b' c' d' : Char} {high low : Nat} {doc rest : Document} {text : List Char}
      (digits : codeOf? a b c d = some (0xD800 + high)) (first : high < 0x400)
      (digits' : codeOf? a' b' c' d' = some (0xDC00 + low)) (second : low < 0x400)
      (more : Quoted doc text rest) :
      Quoted (some '\\' :: some 'u' :: some a :: some b :: some c :: some d ::
          some '\\' :: some 'u' :: some a' :: some b' :: some c' :: some d' :: doc)
        (Char.ofNat (0x10000 + high * 0x400 + low) :: text) rest

theorem hexCode_of_codeOf? {a b c d : Char} {n : Nat} (h : codeOf? a b c d = some n)
    (rest : Document) : hexCode (some a :: some b :: some c :: some d :: rest) = .ok n := by
  unfold codeOf? at h
  unfold hexCode
  split at h
  · rename_i ha hb hc hd
    cases h
    simp only [ha, hb, hc, hd]
  · cases h

theorem stringFrom_escape {doc places rest : Document} {c : Char} {n : Nat}
    (escape : escapeAt doc = .ok (c, n)) (more : stringFrom n doc = .ok (places, rest)) :
    stringFrom 0 (some '\\' :: doc) = .ok (some c :: places, rest) := by
  rw [stringFrom, if_neg (by simp), if_pos rfl, escape]
  simp only [bind, Except.bind, more]
  rfl

theorem stringFrom_of_quoted {doc rest : Document} {text : List Char} (h : Quoted doc text rest) :
    stringFrom 0 doc = .ok (text.map some, rest) := by
  induction h with
  | close rest => rfl
  | @plain c doc rest text quote slash visible _ ih =>
    have control : ¬ isControl (some c) = true := by simpa [isControl] using visible
    rw [stringFrom, if_neg (by simpa using quote), if_neg (by simpa using slash), if_neg control, ih]
    rfl
  | @letter e c doc rest text escape _ ih =>
    have other : e ≠ 'u' := by
      intro same
      rw [same] at escape
      cases escape
    have read : escapeAt (some e :: doc) = .ok (c, 1) := by
      rw [escapeAt, escape]
      exact other
    exact stringFrom_escape read ih
  | @code a b c d n doc rest text digits whole _ ih =>
    have read : escapeAt (some 'u' :: some a :: some b :: some c :: some d :: doc) =
        .ok (Char.ofNat n, 5) := by
      simp only [escapeAt, codeEscape, hexCode_of_codeOf? digits, bind, Except.bind,
        if_neg (show ¬(0xDC00 ≤ n ∧ n ≤ 0xDFFF) by omega),
        if_neg (show ¬(0xD800 ≤ n ∧ n ≤ 0xDBFF) by omega)]
      rfl
    exact stringFrom_escape read ih
  | @pair a b c d a' b' c' d' high low doc rest text digits first digits' second _ ih =>
    have half : lowSurrogate (some '\\' :: some 'u' :: some a' :: some b' :: some c' :: some d' :: doc) =
        .ok low := by
      simp only [lowSurrogate, hexCode_of_codeOf? digits', bind, Except.bind,
        if_pos (show 0xDC00 ≤ 0xDC00 + low ∧ 0xDC00 + low ≤ 0xDFFF by omega),
        Nat.add_sub_cancel_left]
      rfl
    have read : escapeAt (some 'u' :: some a :: some b :: some c :: some d ::
        some '\\' :: some 'u' :: some a' :: some b' :: some c' :: some d' :: doc) =
        .ok (Char.ofNat (0x10000 + high * 0x400 + low), 11) := by
      simp only [escapeAt, codeEscape, hexCode_of_codeOf? digits, bind, Except.bind,
        if_neg (show ¬(0xDC00 ≤ 0xD800 + high ∧ 0xD800 + high ≤ 0xDFFF) by omega),
        if_pos (show 0xD800 ≤ 0xD800 + high ∧ 0xD800 + high ≤ 0xDBFF by omega),
        Nat.add_sub_cancel_left, List.drop_succ_cons, List.drop_zero, half]
      rfl
    exact stringFrom_escape read ih

/-- **A quoted text is read as itself.** -/
theorem stringBody_of_quoted {doc rest : Document} {text : List Char} (h : Quoted doc text rest) :
    stringBody doc = .ok (String.ofList text, rest) := by
  rw [stringBody, stringFrom_of_quoted h]
  simp only [bind, Except.bind, Utf8.text?_map_some]
  rfl

end TrialProtocol.Json
