import TrialProtocol.Proofs.Decimal.Value
import TrialProtocol.Proofs.RoundTrip

/-!
# Ways to a decimal

A decimal comes from a text, from a number in a document, or from a string in a document. All three ways
read the literals of `Proofs.Decimal.Literal` and nothing else, and keep the same of them: the sign and
every digit, in order. Of an exponent only the mark and the sign are written anew, so the number stays
the same.

* `exists_literal_of_scan`: whatever is scanned was a literal, the converse of `scan_literal`.
* `parse_eq_ok_iff`: a text is read just if it is a literal between blanks.
* `decode_unquoted_iff`: so is a document without strings and objects, if the blanks are those of the
  format. `decode_quoted_iff`: a string in a document is read as its text is.
-/

namespace TrialProtocol

/-! ## 1. What is kept of a literal -/

namespace Literal

/-- The exponent as it is written anew. -/
def Exponent.rewritten (e : Exponent) : List Char :=
  'e' :: (if e.sign.isMinus then '-' else '+') :: e.digits.map Digit.toChar

/-- The number that an exponent denotes. -/
def Exponent.value (e : Exponent) : Int :=
  if e.sign.isMinus then -(valueOf e.digits : Int) else valueOf e.digits

/-- **The number that a literal denotes.** -/
def value (l : Literal) : ℚ :=
  (if l.negative then -1 else 1) * ((valueOf l.whole + fractionOf l.fraction) *
    10 ^ (l.exponent.map Exponent.value).getD 0)

/-- **A decimal keeps a literal**: it has the same sign and the same digits, it writes them in the same
    order, and it denotes the same number. -/
structure IsKeptBy (l : Literal) (d : Decimal) : Prop where
  text : d.text = (if l.negative then ['-'] else []) ++ l.whole.map Digit.toChar ++
    Decimal.fractionText l.fraction ++ (l.exponent.map Exponent.rewritten).getD []
  value : d.value = l.value

theorem value_decimal (l : Literal) : l.decimal.value = l.value := by
  have hexponent : l.decimal.exponentValue = (l.exponent.map Exponent.value).getD 0 := by
    rw [Decimal.exponentValue, decimal, Option.map_map]
    rfl
  have hpower : l.decimal.power = (l.exponent.map Exponent.value).getD 0 - l.fraction.length := by
    rw [← hexponent]
    rfl
  have hdigits : (l.decimal.coefficient : ℚ) =
      valueOf l.whole * 10 ^ l.fraction.length + valueOf l.fraction := by
    have happend : l.decimal.coefficient = _ := valueOf_append l.whole l.fraction
    rw [happend]
    push_cast
    rfl
  have hten : (10 : ℚ) ^ l.fraction.length ≠ 0 := by positivity
  have hscaled : (l.decimal.coefficient * 10 ^ l.decimal.power : ℚ) =
      (valueOf l.whole + fractionOf l.fraction) * 10 ^ (l.exponent.map Exponent.value).getD 0 := by
    rw [hdigits, hpower, zpow_sub₀ (by norm_num), zpow_natCast, fractionOf]
    field_simp
  rw [Decimal.value, hscaled]
  rfl

theorem isKeptBy_decimal (l : Literal) : l.IsKeptBy l.decimal where
  text := by
    have hexponent : (l.exponent.map Exponent.kept).map Decimal.Exponent.text =
        l.exponent.map Exponent.rewritten := by
      rw [Option.map_map]
      rfl
    exact congrArg (fun e => _ ++ e.getD []) hexponent
  value := l.value_decimal

/-- Only one decimal keeps a literal, since a decimal is known by its text. -/
theorem isKeptBy_iff {l : Literal} {d : Decimal} : l.IsKeptBy d ↔ l.decimal = d := by
  constructor
  · intro h
    have htext : l.decimal.display = d.display :=
      congrArg String.ofList (l.isKeptBy_decimal.text.trans h.text.symm)
    exact Except.ok.inj ((htext ▸ l.decimal.parse_display).symm.trans d.parse_display)
  · rintro rfl
    exact l.isKeptBy_decimal

end Literal

namespace Decimal

open Json (exists_of_bind)

/-! ## 2. What is scanned -/

theorem eq_of_takeDigits (doc : Document) :
    doc = ((takeDigits doc).1.map Digit.toChar).map some ++ (takeDigits doc).2 := by
  fun_induction takeDigits doc with
  | case1 c rest d digit ih =>
    rw [List.map_cons, List.map_cons, List.cons_append, ← ih, Digit.toChar_ofChar? digit]
  | case2 c rest none => rfl
  | case3 doc other => rfl

theorem eq_of_scanDigits {doc rest : Document} {d : Digit} {ds : List Digit}
    (h : scanDigits doc = .ok ((d, ds), rest)) :
    doc = ((d :: ds).map Digit.toChar).map some ++ rest := by
  have hdoc := eq_of_takeDigits doc
  unfold scanDigits at h
  split at h
  · rename_i taken
    cases h
    rwa [taken] at hdoc
  · cases h
  · cases h

theorem eq_of_scanMinus (doc : Document) :
    doc = (if (scanMinus doc).1 then ['-'] else []).map some ++ (scanMinus doc).2 := by
  unfold scanMinus
  split <;> rfl

theorem eq_of_scanFraction {doc rest : Document} {ds : List Digit}
    (h : scanFraction doc = .ok (ds, rest)) : doc = (fractionText ds).map some ++ rest := by
  unfold scanFraction at h
  split at h
  · obtain ⟨⟨⟨d, ds⟩, rest⟩, digits, h⟩ := exists_of_bind h
    cases h
    rw [eq_of_scanDigits digits]
    rfl
  · cases h
    rfl

theorem exists_sign_of_scanSign (doc : Document) : ∃ sign : Literal.Sign,
    sign.isMinus = (scanSign doc).1 ∧ doc = sign.text.map some ++ (scanSign doc).2 := by
  unfold scanSign
  split
  · exact ⟨.plus, rfl, rfl⟩
  · exact ⟨.minus, rfl, rfl⟩
  · exact ⟨.absent, rfl, rfl⟩

theorem exists_of_scanExponentBody (large : Bool) {doc rest : Document} {e : Option Exponent}
    (h : scanExponentBody doc = .ok (e, rest)) : ∃ spelled : Literal.Exponent,
      some spelled.kept = e ∧
        some (if large then 'E' else 'e') :: doc = spelled.text.map some ++ rest := by
  obtain ⟨sign, hsign, hdoc⟩ := exists_sign_of_scanSign doc
  obtain ⟨⟨⟨first, more⟩, rest⟩, (digits : scanDigits (scanSign doc).2 = _), h⟩ := exists_of_bind h
  cases h
  refine ⟨{ large, sign, first, more }, ?_, ?_⟩
  · exact congrArg (fun negative => some { negative, first, more : Exponent }) hsign
  · rw [hdoc, eq_of_scanDigits digits]
    simp only [Literal.Exponent.text, Literal.Exponent.digits, List.map_cons, List.map_append,
      List.cons_append, List.append_assoc]

theorem exists_of_scanExponent {doc rest : Document} {e : Option Exponent}
    (h : scanExponent doc = .ok (e, rest)) : ∃ spelled : Option Literal.Exponent,
      spelled.map Literal.Exponent.kept = e ∧
        doc = ((spelled.map Literal.Exponent.text).getD []).map some ++ rest := by
  unfold scanExponent at h
  split at h
  · obtain ⟨spelled, hkept, hdoc⟩ := exists_of_scanExponentBody false h
    exact ⟨some spelled, hkept, hdoc⟩
  · obtain ⟨spelled, hkept, hdoc⟩ := exists_of_scanExponentBody true h
    exact ⟨some spelled, hkept, hdoc⟩
  · cases h
    exact ⟨none, rfl, rfl⟩

/-- **Whatever is scanned was a literal**, with what follows it. -/
theorem exists_literal_of_scan {doc rest : Document} {d : Decimal} (h : scan doc = .ok (d, rest)) :
    ∃ l : Literal, l.decimal = d ∧ doc = l.text.map some ++ rest := by
  have hminus := eq_of_scanMinus doc
  obtain ⟨⟨⟨first, more⟩, behindWhole⟩, (whole : scanDigits (scanMinus doc).2 = _), h⟩ :=
    exists_of_bind h
  dsimp only at h
  split at h
  case isFalse => cases h
  case isTrue noLeadingZero =>
    obtain ⟨⟨fraction, behindFraction⟩, hfraction, h⟩ := exists_of_bind h
    obtain ⟨⟨exponent, rest⟩, hexponent, h⟩ := exists_of_bind h
    cases h
    obtain ⟨spelled, rfl, (hspelled : behindFraction = _)⟩ := exists_of_scanExponent hexponent
    refine ⟨{ negative := (scanMinus doc).1, first, more, fraction, exponent := spelled,
              no_leading_zero := noLeadingZero }, rfl, ?_⟩
    conv_lhs => rw [hminus, eq_of_scanDigits whole, eq_of_scanFraction hfraction, hspelled]
    simp only [Literal.text, Literal.whole, List.map_append, List.append_assoc]

/-! ## 3. Texts -/

/-- A text is known by the document that holds its characters. -/
theorem eq_of_map_some {s t : List Char} (h : s.map some = t.map some) : s = t :=
  List.map_injective_iff.mpr (Option.some_injective _) h

theorem parse_eq_ok_iff_scan {s : String} {d : Decimal} :
    parse s = .ok d ↔ scan ((Text.trim s.toList).map some) = .ok (d, []) := by
  unfold parse scanAll?
  constructor
  · intro h
    split at h
    · rename_i found
      split at found
      · rename_i scanned
        cases found
        cases h
        exact scanned
      · cases found
    · cases h
  · intro scanned
    rw [scanned]

/-- **A text is read just if it is a literal between blanks.** -/
theorem parse_eq_ok_iff {s : String} {d : Decimal} : parse s = .ok d ↔
    ∃ (l : Literal) (before after : List Char), s.toList = before ++ l.text ++ after ∧
      (∀ c ∈ before ++ after, Text.isBlank c = true) ∧ l.IsKeptBy d := by
  rw [parse_eq_ok_iff_scan]
  constructor
  · intro scanned
    obtain ⟨before, after, hs, blank⟩ := Text.exists_eq_append_trimBy Text.isBlank s.toList
    obtain ⟨l, hl, htext⟩ := exists_literal_of_scan scanned
    rw [List.append_nil] at htext
    have htrim : Text.trimBy Text.isBlank s.toList = l.text := eq_of_map_some htext
    exact ⟨l, before, after, htrim ▸ hs, blank, Literal.isKeptBy_iff.mpr hl⟩
  · rintro ⟨l, before, after, hs, blank, kept⟩
    obtain ⟨hbefore, hafter⟩ := List.forall_mem_append.mp blank
    have htrim : Text.trim s.toList = l.text := by
      rw [hs]
      exact (Text.isTrimmedBy_of_forall l.isBlank_of_mem_text).trimBy_append hbefore hafter
    have hscan := scan_literal l (avoids_nil continues)
    rwa [List.append_nil, ← htrim, Literal.isKeptBy_iff.mp kept] at hscan

example : (parse " -12.50E3\n").toOption.map display = some "-12.50e+3" := by decide +kernel

theorem parse_literal (l : Literal) : parse (String.ofList l.text) = .ok l.decimal := by
  refine parse_eq_ok_iff.mpr ⟨l, [], [], ?_, List.forall_mem_nil _, l.isKeptBy_decimal⟩
  rw [String.toList_ofList, List.nil_append, List.append_nil]

end Decimal

/-! ## 4. Documents -/

namespace Json

/-- Blanks do not continue a number. -/
theorem continues_eq_false {c : Char} (h : isBlank (some c) = true) :
    Decimal.continues c = false := by
  simp only [isBlank, Bool.or_eq_true, beq_iff_eq] at h
  rcases h with ((rfl | rfl) | rfl) | rfl <;> decide

/-- A document that ends well ends with blanks. -/
theorem finish_eq_ok_iff {doc : Document} :
    finish doc = .ok () ↔ ∀ unit ∈ doc, isBlank unit = true := by
  rw [← List.dropWhile_eq_nil_iff, finish, skipBlanks]
  cases doc.dropWhile isBlank <;> simp

/-- A document is read as a whole if its front is, and if the rest is blank. -/
theorem readAll_eq_ok_iff {α : Type} {read : Decoder α} {doc : Document} {x : α} :
    readAll read doc = .ok x ↔
      ∃ rest, read maxDepth doc = .ok (x, rest) ∧ ∀ unit ∈ rest, isBlank unit = true := by
  constructor
  · intro h
    obtain ⟨⟨y, rest⟩, front, h⟩ := exists_of_bind h
    obtain ⟨⟨⟩, ending, h⟩ := exists_of_bind h
    cases h
    exact ⟨rest, front, finish_eq_ok_iff.mp ending⟩
  · rintro ⟨rest, front, blank⟩
    rw [readAll, front]
    simp only [bind, Except.bind, finish_eq_ok_iff.mpr blank]
    rfl

theorem decimal_eq_ok_iff {depth : Nat} {doc rest : Document} {d : Decimal} :
    decimal depth doc = .ok (d, rest) ↔
      ∃ x, generic depth doc = .ok (x, rest) ∧ x.toDecimal = .ok d := by
  constructor
  · intro h
    obtain ⟨⟨x, rest'⟩, value, h⟩ := exists_of_bind h
    obtain ⟨d', found, h⟩ := exists_of_bind h
    cases h
    exact ⟨x, value, found⟩
  · rintro ⟨x, value, found⟩
    rw [decimal, value]
    simp only [bind, Except.bind, found]
    rfl

theorem scan_of_number {doc rest : Document} {d : Decimal} (h : number doc = .ok (d, rest)) :
    Decimal.scan doc = .ok (d, rest) := by
  unfold number at h
  split at h
  · rename_i scanned
    cases h
    exact scanned
  · cases h

/-- A decimal that is neither in a string nor in an object is scanned. -/
theorem scan_of_decimal {depth : Nat} {doc rest : Document} {d : Decimal}
    (h : decimal depth doc = .ok (d, rest)) (quote : some '"' ∉ doc) (brace : some '\x7b' ∉ doc) :
    Decimal.scan (skipBlanks doc) = .ok (d, rest) := by
  have mem : ∀ unit more, skipBlanks doc = unit :: more → unit ∈ doc := fun unit more hdoc =>
    (List.dropWhile_sublist isBlank).mem (by rw [← skipBlanks, hdoc]; exact List.mem_cons_self ..)
  obtain ⟨x, value, found⟩ := decimal_eq_ok_iff.mp h
  unfold generic at value
  split at value
  case h_1 | h_2 | h_3 =>
    obtain ⟨_, -, value⟩ := exists_of_map value
    cases value
    cases found
  case h_4 hdoc => exact absurd (mem _ _ hdoc) quote
  case h_5 =>
    split at value
    · cases value
    · obtain ⟨_, -, value⟩ := exists_of_bind value
      obtain ⟨_, -, value⟩ := exists_of_bind value
      cases value
      cases found
  case h_6 hdoc => exact absurd (mem _ _ hdoc) brace
  case h_7 hdoc =>
    split at value
    · obtain ⟨_, hnumber, value⟩ := exists_of_map value
      cases value
      cases found
      rw [hdoc]
      exact scan_of_number hnumber
    · cases value
  case h_8 | h_9 => cases value

/-- **A document without strings and objects is read just if it is a literal between blanks**, which
    here are those of the format. -/
theorem decode_unquoted_iff {s : String} {d : Decimal} (quote : '"' ∉ s.toList)
    (brace : '\x7b' ∉ s.toList) : decode decimal (Utf8.encode s.toList) = .ok d ↔
      ∃ (l : Literal) (before after : List Char), s.toList = before ++ l.text ++ after ∧
        (∀ c ∈ before ++ after, isBlank (some c) = true) ∧ l.IsKeptBy d := by
  rw [decode, Utf8.units_encode, readAll_eq_ok_iff]
  have absent : ∀ c ∉ s.toList, some c ∉ s.toList.map some := fun c hc mem =>
    hc ((List.mem_map_of_injective (Option.some_injective _)).mp mem)
  constructor
  · rintro ⟨rest, front, blank⟩
    obtain ⟨l, hl, htext⟩ := Decimal.exists_literal_of_scan
      (scan_of_decimal front (absent _ quote) (absent _ brace))
    have hdoc := List.takeWhile_append_dropWhile (p := isBlank) (l := s.toList.map some)
    rw [← skipBlanks, htext] at hdoc
    obtain ⟨before, more, hs, hbefore, hmore⟩ := List.map_eq_append_iff.mp hdoc.symm
    obtain ⟨middle, after, rfl, hmiddle, rfl⟩ := List.map_eq_append_iff.mp hmore
    refine ⟨l, before, after, ?_, List.forall_mem_append.mpr ⟨fun c hc => ?_, fun c hc => ?_⟩,
      Literal.isKeptBy_iff.mpr hl⟩
    · rw [hs, Decimal.eq_of_map_some hmiddle, List.append_assoc]
    · have mem : some c ∈ (s.toList.map some).takeWhile isBlank :=
        hbefore ▸ List.mem_map_of_mem hc
      exact List.mem_takeWhile_imp mem
    · exact blank _ (List.mem_map_of_mem hc)
  · rintro ⟨l, before, after, hs, blank, kept⟩
    obtain ⟨hbefore, hafter⟩ := List.forall_mem_append.mp blank
    have hfront : skipBlanks (s.toList.map some) = l.text.map some ++ after.map some := by
      obtain ⟨c, more, hl, -, hc, -⟩ := exists_literal_eq_cons l
      rw [hs, List.map_append, List.map_append, List.append_assoc, skipBlanks,
        List.dropWhile_append_of_pos (List.forall_mem_map.mpr hbefore), hl]
      exact skipBlanks_cons hc _
    have hrest : Decimal.Avoids Decimal.continues (after.map some) := by
      cases after with
      | nil => exact Decimal.avoids_nil _
      | cons c after =>
        rw [List.map_cons]
        exact Decimal.avoids_cons (continues_eq_false (hafter c (List.mem_cons_self ..))) _
    have hgeneric := generic_literal l maxDepth hfront hrest
    rw [Literal.isKeptBy_iff.mp kept] at hgeneric
    exact ⟨after.map some, decimal_eq_ok_iff.mpr ⟨.number d, hgeneric, rfl⟩,
      List.forall_mem_map.mpr hafter⟩

/-- What is read as a string is read as one too where any value may stand. -/
theorem generic_of_string {depth : Nat} {doc rest : Document} {s : String}
    (h : string depth doc = .ok (s, rest)) : generic depth doc = .ok (.string s, rest) := by
  unfold string stringAs at h
  split at h
  · rename_i hdoc
    unfold generic
    rw [hdoc]
    change (stringBody _).map _ = _
    rw [h]
    rfl
  · cases h

theorem toDecimal_string_eq_ok_iff {s : String} {d : Decimal} :
    (Generic.string s).toDecimal = .ok d ↔ Decimal.parse s = .ok d := by
  rw [Generic.toDecimal]
  cases Decimal.parse s <;> simp

theorem decode_string (s : String) : decode string (serialize Writer.string s) = .ok s :=
  decode_serialize (by decide) (spells_string s)

/-- **A string in a document is read just if its text is**, and as the same decimal. -/
theorem decode_quoted_iff {bytes : List UInt8} {s : String} {d : Decimal}
    (h : decode string bytes = .ok s) :
    decode decimal bytes = .ok d ↔ Decimal.parse s = .ok d := by
  obtain ⟨rest, front, blank⟩ := readAll_eq_ok_iff.mp h
  have hgeneric := generic_of_string front
  rw [decode, readAll_eq_ok_iff, ← toDecimal_string_eq_ok_iff]
  constructor
  · rintro ⟨rest', h, -⟩
    obtain ⟨x, value, found⟩ := decimal_eq_ok_iff.mp h
    cases hgeneric.symm.trans value
    exact found
  · intro found
    exact ⟨rest, decimal_eq_ok_iff.mpr ⟨.string s, hgeneric, found⟩, blank⟩

/-- For a literal no blanks are needed. -/
theorem decode_literal (l : Literal) : decode decimal (Utf8.encode l.text) = .ok l.decimal := by
  have plain : ∀ c ∈ l.text, c ≠ '"' ∧ c ≠ '\x7b' :=
    Literal.forall_mem_text (by decide) (Text.of_all (by decide)) l
  have hdecode := decode_unquoted_iff (s := String.ofList l.text) (d := l.decimal)
  rw [String.toList_ofList] at hdecode
  refine (hdecode (fun mem => (plain _ mem).1 rfl) fun mem => (plain _ mem).2 rfl).mpr
    ⟨l, [], [], ?_, List.forall_mem_nil _, l.isKeptBy_decimal⟩
  rw [List.nil_append, List.append_nil]

end Json

/-! ## 5. All ways together -/

namespace Decimal

/-- **All ways to a decimal agree.** -/
structure WaysAgree : Prop where
  /-- A text is read just if it is a literal between blanks, as the decimal that keeps the literal. -/
  direct : ∀ s d, parse s = .ok d ↔
    ∃ (l : Literal) (before after : List Char), s.toList = before ++ l.text ++ after ∧
      (∀ c ∈ before ++ after, Text.isBlank c = true) ∧ l.IsKeptBy d
  /-- A document that holds the text as a string, in whatever spelling, is read as the text is, … -/
  quoted : ∀ s bytes, Json.decode Json.string bytes = .ok s →
    ∀ d, Json.decode Json.decimal bytes = .ok d ↔ parse s = .ok d
  /-- … and there is such a document for every text. -/
  quotable : ∀ s, Json.decode Json.string (Json.serialize Json.Writer.string s) = .ok s
  /-- A document without strings and objects is read in the same way, up to its notion of blanks. -/
  unquoted : ∀ s : String, '"' ∉ s.toList → '\x7b' ∉ s.toList →
    ∀ d, Json.decode Json.decimal (Utf8.encode s.toList) = .ok d ↔
      ∃ (l : Literal) (before after : List Char), s.toList = before ++ l.text ++ after ∧
        (∀ c ∈ before ++ after, Json.isBlank (some c) = true) ∧ l.IsKeptBy d
  /-- So every literal, of however many digits, is one decimal, as a document and as a text. -/
  literal : ∀ l : Literal, ∃ d, l.IsKeptBy d ∧
    Json.decode Json.decimal (Utf8.encode l.text) = .ok d ∧ parse (String.ofList l.text) = .ok d
  /-- A decimal is written as a literal, which it keeps. -/
  written : ∀ d : Decimal, ∃ l : Literal, d.text = l.text ∧ l.IsKeptBy d
  /-- What is written is read back, in all ways. -/
  back : ∀ d : Decimal, parse d.display = .ok d ∧
    Json.decode Json.decimal (Json.serialize text d) = .ok d ∧
    Json.decode Json.decimal (Json.serialize Json.Writer.string d.display) = .ok d

theorem waysAgree : WaysAgree where
  direct _ _ := parse_eq_ok_iff
  quoted _ _ h _ := Json.decode_quoted_iff h
  quotable := Json.decode_string
  unquoted _ quote brace _ := Json.decode_unquoted_iff quote brace
  literal l := ⟨l.decimal, l.isKeptBy_decimal, Json.decode_literal l, parse_literal l⟩
  written d := ⟨d.literal, d.text_literal.symm, Literal.isKeptBy_iff.mpr d.decimal_literal⟩
  back d := ⟨d.parse_display, Json.decode_serialize (by decide) (Json.spells_decimal d),
    (Json.decode_quoted_iff (Json.decode_string d.display)).mpr d.parse_display⟩

end Decimal

end TrialProtocol
