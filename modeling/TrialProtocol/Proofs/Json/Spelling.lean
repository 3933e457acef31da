import Mathlib.Data.List.Forall2
import TrialProtocol.Json.Generic
import TrialProtocol.Json.Writer
import TrialProtocol.Proofs.Decimal.Text

/-!
# Written values are read back

`Spells read levels text x` says that a decoder reads a text as the value `x` wherever the text may
stand in a document, if it may open so many levels of brackets. A document is put together from the
texts of its parts, and so is the proof that it is read back: one lemma for each way to write a value.

* `Spells.readAll`: a text that spells a value is a document that holds it.
* `spells_string`, `spells_word32`, `spells_decimal`, `spells_double`, `spells_variant`: the scalars.
* `spells_texts`, `spells_list`: lists. Records are in `Proofs.Json.Record`.
-/

namespace TrialProtocol.Json

/-! ## 1. Texts that stand for a value -/

/-- A sign that may stand behind a value. -/
def isDelimiter (c : Char) : Bool :=
  c == ',' || c == ']' || c == '\x7d'

/-- What may stand behind a value: nothing, or one of the signs above. -/
def Delimited (doc : Document) : Prop :=
  doc = [] ∨ ∃ c rest, doc = some c :: rest ∧ isDelimiter c = true

theorem delimited_nil : Delimited [] :=
  .inl rfl

theorem delimited_cons {c : Char} (h : isDelimiter c = true) (rest : Document) :
    Delimited (some c :: rest) :=
  .inr ⟨c, rest, rfl, h⟩

/-- No number goes on behind a value. -/
theorem Delimited.avoids {doc : Document} (h : Delimited doc) :
    Decimal.Avoids Decimal.continues doc := by
  rcases h with rfl | ⟨c, rest, rfl, hc⟩
  · exact Decimal.avoids_nil _
  · refine Decimal.avoids_cons ?_ rest
    simp only [isDelimiter, Bool.or_eq_true, beq_iff_eq] at hc
    rcases hc with (rfl | rfl) | rfl <;> decide

/-- A text that begins like a value: neither with a blank nor with a sign that ends one. -/
def Begins (text : List Char) : Prop :=
  ∃ c rest, text = c :: rest ∧ isBlank (some c) = false ∧ isDelimiter c = false

/-- **A text is read as a value**, whatever stands behind it. -/
structure Spells {α : Type} (read : Decoder α) (levels : Nat) (text : List Char) (x : α) : Prop where
  begins : Begins text
  reads : ∀ depth rest, levels ≤ depth → Delimited rest →
    read depth (text.map some ++ rest) = .ok (x, rest)

section Spelling

variable {α : Type} {read : Decoder α} {levels : Nat} {text : List Char} {x : α}

theorem Spells.mono (h : Spells read levels text x) {more : Nat} (le : levels ≤ more) :
    Spells read more text x where
  begins := h.begins
  reads depth rest hd := h.reads depth rest (Nat.le_trans le hd)

/-- **A text that spells a value is a document that holds it.** -/
theorem Spells.readAll (h : Spells read levels text x) (le : levels ≤ maxDepth) :
    Json.readAll read (text.map some) = .ok x := by
  have hr := h.reads maxDepth [] le delimited_nil
  rw [List.append_nil] at hr
  rw [Json.readAll, hr]
  rfl

end Spelling

/-! ## 2. Blanks -/

theorem skipBlanks_cons {c : Char} (h : isBlank (some c) = false) (rest : Document) :
    skipBlanks (some c :: rest) = some c :: rest := by
  rw [skipBlanks, List.dropWhile_cons, if_neg (by simp [h])]

/-! ## 3. Strings -/

/-- A character as it is written is read as the character. -/
theorem stringFrom_character (c : Char) (rest : Document) :
    stringFrom 0 ((Writer.character c).map some ++ rest) =
      (stringFrom 0 rest).map fun (places, rest) => (some c :: places, rest) := by
  unfold Writer.character
  split
  case h_8 hq hb _ _ _ _ _ =>
    split
    · rename_i hc
      have hx := Text.hexValue?_lowerHexDigit (show c.toNat / 16 < 16 by omega)
      have hy := Text.hexValue?_lowerHexDigit (show c.toNat % 16 < 16 by omega)
      have hz : Text.hexValue? '0' = some 0 := by decide
      have hn : ((16 * 0 + 0) * 16 + c.toNat / 16) * 16 + c.toNat % 16 = c.toNat := by omega
      have hcode : codeEscape (some '0' :: some '0' :: some (Text.lowerHexDigit (c.toNat / 16)) ::
          some (Text.lowerHexDigit (c.toNat % 16)) :: rest) = .ok (c, 4) := by
        unfold codeEscape hexCode
        simp only [hx, hy, hz, bind, Except.bind, hn]
        rw [if_neg (by omega), if_neg (by omega), Char.ofNat_toNat]
        rfl
      simp only [List.map_cons, List.map_nil, List.cons_append, List.nil_append]
      rw [stringFrom, if_neg (by simp), if_pos rfl, escapeAt, hcode]
      cases hs : stringFrom 0 rest <;> simp [bind, Except.bind, pure, Except.pure, stringFrom, hs,
        Except.map]
    · rename_i hc
      have hquote : ¬some c = some '"' := by simpa using hq
      have hslash : ¬some c = some '\\' := by simpa using hb
      have hcontrol : ¬isControl (some c) = true := by simpa [isControl] using hc
      simp only [List.map_cons, List.map_nil, List.cons_append, List.nil_append]
      rw [stringFrom, if_neg hquote, if_neg hslash, if_neg hcontrol]
      cases hs : stringFrom 0 rest <;> simp [bind, Except.bind, pure, Except.pure, Except.map]
  all_goals
    simp only [List.map_cons, List.map_nil, List.cons_append, List.nil_append]
    rw [stringFrom, if_neg (by simp), if_pos rfl]
    cases hs : stringFrom 0 rest <;> simp [escapeAt, letterEscape?, bind, Except.bind, pure,
      Except.pure, stringFrom, hs, Except.map]

theorem stringFrom_characters (s : List Char) (rest : Document) :
    stringFrom 0 ((s.flatMap Writer.character).map some ++ some '"' :: rest) =
      .ok (s.map some, rest) := by
  induction s with
  | nil => simp [stringFrom]
  | cons c s ih =>
    rw [List.flatMap_cons, List.map_append, List.append_assoc, stringFrom_character, ih]
    rfl

/-- What stands behind the opening quote of a written string is read as the string. -/
theorem stringBody_characters (s : String) (rest : Document) :
    stringBody ((s.toList.flatMap Writer.character).map some ++ some '"' :: rest) = .ok (s, rest) := by
  rw [stringBody, stringFrom_characters]
  simp only [bind, Except.bind, Utf8.text?_map_some, String.ofList_toList]
  rfl

/-- A written string in a document. -/
theorem map_string_append (s : String) (rest : Document) :
    (Writer.string s).map some ++ rest =
      some '"' :: ((s.toList.flatMap Writer.character).map some ++ some '"' :: rest) := by
  simp [Writer.string]

theorem begins_string (s : String) : Begins (Writer.string s) :=
  ⟨'"', _, rfl, by decide, by decide⟩

theorem stringAs_string (expected s : String) (rest : Document) :
    stringAs expected ((Writer.string s).map some ++ rest) = .ok (s, rest) := by
  rw [map_string_append, stringAs, skipBlanks_cons (by decide)]
  exact stringBody_characters s rest

theorem spells_string (s : String) : Spells string 0 (Writer.string s) s where
  begins := begins_string s
  reads _ rest _ _ := stringAs_string _ s rest

/-- A known name is read as what it stands for. -/
theorem spells_variant {α : Type} {known : List (String × α)} {name : String} {x : α}
    (h : known.lookup name = some x) : Spells (variant known) 0 (Writer.string name) x where
  begins := begins_string name
  reads depth rest _ _ := by
    have hv : variantNamed known ((Writer.string name).map some ++ rest) = .ok (x, rest) := by
      rw [variantNamed, stringAs_string]
      simp only [bind, Except.bind, h]
      rfl
    rw [map_string_append] at hv ⊢
    rw [variant, skipBlanks_cons (by decide)]
    exact hv

/-- A string where there may also be none. -/
theorem spells_optional_string (s : String) :
    Spells (optional string) 0 (Writer.string s) (some s) where
  begins := begins_string s
  reads depth rest _ _ := by
    have hs : string depth ((Writer.string s).map some ++ rest) = .ok (s, rest) :=
      stringAs_string _ s rest
    rw [map_string_append] at hs ⊢
    rw [optional, skipBlanks_cons (by decide)]
    change (string depth _).map _ = _
    rw [hs]
    rfl

/-! ## 4. Numbers and truth values -/

theorem startsNumber_toChar (d : Digit) : startsNumber d.toChar = true ∧
    isBlank (some d.toChar) = false ∧ isDelimiter d.toChar = false := by
  revert d
  decide

/-- A literal begins as a number does, and as nothing else does. -/
theorem exists_literal_eq_cons (l : Literal) :
    ∃ c rest, l.text = c :: rest ∧ startsNumber c = true ∧ isBlank (some c) = false ∧
      isDelimiter c = false := by
  obtain ⟨c, rest, hl, rfl | ⟨n, rfl⟩⟩ := l.exists_text_eq_cons
  · exact ⟨'-', rest, hl, by decide, by decide, by decide⟩
  · exact ⟨n.toChar, rest, hl, startsNumber_toChar n⟩

/-- So does a written decimal. -/
theorem exists_text_eq_cons (d : Decimal) :
    ∃ c rest, d.text = c :: rest ∧ startsNumber c = true ∧ isBlank (some c) = false ∧
      isDelimiter c = false := by
  rw [← d.text_literal]
  exact exists_literal_eq_cons d.literal

theorem number_text (d : Decimal) {rest : Document} (h : Delimited rest) :
    number (d.text.map some ++ rest) = .ok (d, rest) := by
  rw [number, Decimal.scan_text d h.avoids]

/-- **A literal behind blanks is read as its decimal.** -/
theorem generic_literal (l : Literal) (depth : Nat) {doc rest : Document}
    (hdoc : skipBlanks doc = l.text.map some ++ rest)
    (hrest : Decimal.Avoids Decimal.continues rest) :
    generic depth doc = .ok (.number l.decimal, rest) := by
  have hn : number (l.text.map some ++ rest) = .ok (l.decimal, rest) := by
    rw [number, Decimal.scan_literal l hrest]
  obtain ⟨c, more, hl, hs, -, -⟩ := exists_literal_eq_cons l
  rw [hl, List.map_cons, List.cons_append] at hdoc hn
  unfold generic
  rw [hdoc]
  split
  case h_7 heq =>
    cases heq
    rw [if_pos hs, hn]
    rfl
  all_goals
    rename_i heq
    cases heq
  all_goals exact absurd hs (by decide)

theorem generic_text (d : Decimal) (depth : Nat) {rest : Document} (h : Delimited rest) :
    generic depth (d.text.map some ++ rest) = .ok (.number d, rest) := by
  obtain ⟨c, more, hd, -, hb, -⟩ := exists_text_eq_cons d
  have hdoc : skipBlanks (d.text.map some ++ rest) = d.literal.text.map some ++ rest := by
    rw [d.text_literal, hd]
    exact skipBlanks_cons hb _
  rw [generic_literal d.literal depth hdoc h.avoids, d.decimal_literal]

/-- **A decimal keeps every digit.** -/
theorem spells_decimal (d : Decimal) : Spells decimal 0 d.text d where
  begins := by
    obtain ⟨c, rest, hd, -, hb, hl⟩ := exists_text_eq_cons d
    exact ⟨c, rest, hd, hb, hl⟩
  reads depth rest _ h := by
    rw [decimal, generic_text d depth h]
    rfl

/-- The decimal of a number that fits a word is that number to a machine. -/
theorem machineNumber?_ofNat {n : Nat} (h : n ≤ Text.maxWord64) :
    (Decimal.ofNat n).machineNumber? = some (.natural n) := by
  have hi : (Decimal.ofNat n).isInteger = true := rfl
  rw [Decimal.machineNumber?, Decimal.valueOf_whole_ofNat, if_pos ⟨hi, rfl, h⟩]

/-- A written decimal is read as its machine number. -/
theorem machineNumber_text (expected : String) {d : Decimal} {n : Decimal.MachineNumber}
    (h : d.machineNumber? = some n) {rest : Document} (hr : Delimited rest) :
    machineNumber expected (d.text.map some ++ rest) = .ok (n, rest) := by
  have hn := number_text d hr
  obtain ⟨c, more, hd, hs, hb, -⟩ := exists_text_eq_cons d
  rw [hd, List.map_cons, List.cons_append] at hn ⊢
  rw [machineNumber, skipBlanks_cons hb]
  simp only [if_pos hs, hn, bind, Except.bind, h]
  rfl

theorem machineNumber_toDigits (expected : String) {n : Nat} (h : n ≤ Text.maxWord64)
    {rest : Document} (hr : Delimited rest) :
    machineNumber expected ((Writer.natural n).map some ++ rest) = .ok (.natural n, rest) := by
  rw [Writer.natural, ← Decimal.text_ofNat]
  exact machineNumber_text expected (machineNumber?_ofNat h) hr

theorem begins_natural (n : Nat) : Begins (Writer.natural n) := by
  obtain ⟨c, rest, hd, -, hb, hl⟩ := exists_text_eq_cons (Decimal.ofNat n)
  rw [Writer.natural, ← Decimal.text_ofNat]
  exact ⟨c, rest, hd, hb, hl⟩

theorem natural_toDigits (expected : String) {limit n : Nat} (hl : limit ≤ Text.maxWord64)
    (h : n ≤ limit) (depth : Nat) {rest : Document} (hr : Delimited rest) :
    natural limit expected depth ((Writer.natural n).map some ++ rest) = .ok (n, rest) := by
  rw [natural, machineNumber_toDigits expected (Nat.le_trans h hl) hr]
  simp only [bind, Except.bind, if_pos h]
  rfl

theorem spells_word32 (n : UInt32) : Spells word32 0 (Writer.natural n.toNat) n where
  begins := begins_natural n.toNat
  reads depth rest _ hr := by
    have hn : n.toNat ≤ Text.maxWord32 := by
      have := n.toNat_lt
      rw [Text.maxWord32]
      omega
    rw [word32, natural_toDigits "u32" (by decide) hn depth hr]
    simp only [Except.map, UInt32.ofNat_toNat]

/-- **A double is read as its shortest decimal is.** -/
theorem spells_double {x y : Double} (h : x.IsReadAs y) : Spells double 0 (Writer.double x) y where
  begins := by
    obtain ⟨c, rest, hd, -, hb, hl⟩ := exists_text_eq_cons (Decimal.ofFinite x)
    rw [Writer.double, if_pos h.finite]
    exact ⟨c, rest, hd, hb, hl⟩
  reads depth rest _ hr := by
    obtain ⟨n, hn, hy⟩ := Option.map_eq_some_iff.mp h.read
    rw [double, Writer.double, if_pos h.finite, machineNumber_text "f64" hn hr]
    simp only [bind, Except.bind, hy]
    rfl

/-- A double where there may also be none. -/
theorem spells_optional_double {x y : Double} (h : x.IsReadAs y) :
    Spells (optional double) 0 (Writer.double x) (some y) where
  begins := (spells_double h).begins
  reads depth rest hd hr := by
    have hs := (spells_double h).reads depth rest hd hr
    obtain ⟨c, more, htext, hn, hb, -⟩ := exists_text_eq_cons (Decimal.ofFinite x)
    rw [Writer.double, if_pos h.finite, htext, List.map_cons, List.cons_append] at hs ⊢
    rw [optional, skipBlanks_cons hb]
    split
    · rename_i heq
      cases heq
      cases hn
    · rw [hs]
      rfl

theorem spells_true : Spells boolean 0 (Writer.boolean true) true where
  begins := ⟨'t', _, rfl, by decide, by decide⟩
  reads _ _ _ _ := rfl

/-! ## 5. Lists -/

/-- What stands behind an element: a comma and another one, or the closing bracket. -/
def listTail (texts : List (List Char)) : List Char :=
  texts.flatMap (',' :: ·) ++ [']']

theorem join_cons_eq (text : List Char) (texts : List (List Char)) :
    Text.join [','] (text :: texts) = text ++ texts.flatMap (',' :: ·) := by
  induction texts generalizing text with
  | nil => simp [Text.join]
  | cons t texts ih =>
    rw [Text.join_cons_of_ne_nil (by simp), ih]
    simp

theorem list_cons (text : List Char) (texts : List (List Char)) :
    Writer.list (text :: texts) = '[' :: (text ++ listTail texts) := by
  rw [Writer.list, join_cons_eq, listTail]
  simp

theorem lt_length_listTail (texts : List (List Char)) :
    texts.length < (listTail texts).length := by
  have h : texts.length ≤ (texts.flatMap (',' :: ·)).length := by
    induction texts with
    | nil => exact Nat.le_refl _
    | cons t texts ih =>
      rw [List.flatMap_cons, List.length_append, List.length_cons, List.length_cons]
      omega
  rw [listTail, List.length_append, List.length_singleton]
  omega

section Lists

variable {α : Type} {item : Decoder α} {levels : Nat}

theorem Begins.nextElement_true {text : List Char} (h : Begins text) (rest : Document) :
    nextElement true (text.map some ++ rest) = .ok (true, text.map some ++ rest) := by
  obtain ⟨c, more, rfl, hb, hl⟩ := h
  rw [List.map_cons, List.cons_append, nextElement, skipBlanks_cons hb]
  split
  · rename_i heq
    cases heq
  · rename_i heq
    cases heq
    cases hl
  · rename_i heq
    cases heq
    cases hl
  · rfl

theorem Begins.nextElement_false {text : List Char} (h : Begins text) (rest : Document) :
    nextElement false (some ',' :: (text.map some ++ rest)) =
      .ok (true, text.map some ++ rest) := by
  obtain ⟨c, more, rfl, hb, hl⟩ := h
  have hc : isBlank (some ',') = false := by decide
  rw [List.map_cons, List.cons_append, nextElement, skipBlanks_cons hc]
  simp only [skipBlanks_cons hb, Bool.false_eq_true, if_false]
  split
  · rename_i heq
    cases heq
  · rename_i heq
    cases heq
    cases hl
  · rfl

/-- What stands behind an element is no part of it. -/
theorem delimited_listTail (texts : List (List Char)) (rest : Document) :
    Delimited ((listTail texts).map some ++ rest) := by
  cases texts with
  | nil => exact delimited_cons (c := ']') (by decide) _
  | cons t texts => exact delimited_cons (c := ',') (by decide) _

/-- The elements behind one of a list, up to the closing bracket. -/
theorem elements_listTail {texts : List (List Char)} {xs : List α}
    (h : List.Forall₂ (Spells item levels) texts xs) {depth : Nat} (hd : levels ≤ depth)
    (rest : Document) {budget : Nat} (hb : texts.length < budget) :
    elements (item depth) budget false ((listTail texts).map some ++ rest) =
      .ok (xs, some ']' :: rest) := by
  induction h generalizing budget with
  | nil =>
    obtain ⟨budget, rfl⟩ : ∃ b, budget = b + 1 := ⟨budget - 1, by omega⟩
    rfl
  | @cons text x texts xs spells _ ih =>
    obtain ⟨budget, rfl⟩ : ∃ b, budget = b + 1 := ⟨budget - 1, by omega⟩
    have ht : (listTail (text :: texts)).map some ++ rest =
        some ',' :: (text.map some ++ ((listTail texts).map some ++ rest)) := by
      simp [listTail]
    rw [ht, elements, spells.begins.nextElement_false]
    simp only [bind, Except.bind, if_true]
    rw [spells.reads depth _ hd (delimited_listTail _ rest)]
    simp only
    rw [ih (by simpa using hb)]
    rfl

/-- **A list of texts is read as the list of what they spell.** -/
theorem spells_texts {texts : List (List Char)} {xs : List α}
    (h : List.Forall₂ (Spells item levels) texts xs) :
    Spells (list item) (levels + 1) (Writer.list texts) xs where
  begins := ⟨'[', _, rfl, by decide, by decide⟩
  reads depth rest hd hr := by
    obtain ⟨depth, rfl⟩ : ∃ d, depth = d + 1 := ⟨depth - 1, by omega⟩
    have hle : levels ≤ depth := by omega
    cases h with
    | nil => rfl
    | @cons text x texts xs spells more =>
      have ht : (Writer.list (text :: texts)).map some ++ rest =
          some '[' :: (text.map some ++ ((listTail texts).map some ++ rest)) := by
        rw [list_cons]
        simp
      rw [ht, list, skipBlanks_cons (by decide)]
      simp only [enter, bind, Except.bind]
      rw [elements, spells.begins.nextElement_true]
      simp only [bind, Except.bind, if_true]
      rw [spells.reads depth _ hle (delimited_listTail _ rest)]
      simp only
      rw [elements_listTail more hle rest]
      · rfl
      · have hl := lt_length_listTail texts
        simp only [List.length_append, List.length_map] at hl ⊢
        omega

/-- So a list of written values is read as the list of the values. -/
theorem spells_list {write : α → List Char} {xs : List α}
    (h : ∀ x ∈ xs, Spells item levels (write x) x) :
    Spells (list item) (levels + 1) (Writer.list (xs.map write)) xs :=
  spells_texts (List.forall₂_map_left_iff.mpr (List.forall₂_same.mpr h))

end Lists

end TrialProtocol.Json
