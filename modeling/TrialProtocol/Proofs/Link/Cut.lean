import TrialProtocol.Proofs.Link

/-!
# Where texts are cut

A field is cut at its commas and an entry at its semicolons, and with the delimiters between them the
parts make up the text again. A text that closes what it opens is cut at the delimiters outside, and
its parts stay whole. Any other text is cut at all of its delimiters.

* `Closes`: a text that closes what it opens, as a grammar. What stands behind such a text is outside.
  `isBalanced_iff_closes`: just these texts are balanced.
* `Parted`: how a text comes apart, one character after the other.
* `cuts`: the places of the delimiters between some parts.
* `IsCutOutside`, `isCutOutside`: all of the above, for any text.
-/

namespace TrialProtocol.Link

/-! ## 1. Texts that close what they open -/

/-- **A text that closes what it opens**: addresses in brackets with no bracket inside, texts in quotes
    with no quote inside, and between them characters that open nothing. -/
inductive Closes : List Char → Prop
  | nil : Closes []
  | plain {c : Char} {s : List Char} (inert : IsInert c) (rest : Closes s) : Closes (c :: s)
  | address {inner s : List Char} (bare : ∀ c ∈ inner, c ≠ '<' ∧ c ≠ '>') (rest : Closes s) :
      Closes ('<' :: (inner ++ '>' :: s))
  | quotes {inner s : List Char} (bare : ∀ c ∈ inner, c ≠ '"') (rest : Closes s) :
      Closes ('"' :: (inner ++ '"' :: s))

theorem Closes.isBalanced {s : List Char} (h : Closes s) : IsBalanced s := by
  induction h with
  | nil => rfl
  | plain inert _ ih => exact (isBalanced_cons_iff inert _).mpr ih
  | address bare _ ih =>
    have inside := behind_of_quiet (quiet_address (d := ',') bare)
    rw [IsBalanced, Enclosure.behind, Enclosure.next, Option.bind_some, behind_append, inside]
    exact ih
  | quotes bare _ ih =>
    have inside := behind_of_quiet (quiet_quotes (d := ',') bare)
    rw [IsBalanced, Enclosure.behind, Enclosure.next, Option.bind_some, behind_append, inside]
    exact ih

/-- What opened the place where a scan stands. -/
def Enclosure.opening : Enclosure → List Char
  | .outside => []
  | .address => ['<']
  | .quotes => ['"']

/-- An address that is closed later may hold one more character in front … -/
theorem Closes.address_cons {c : Char} {s : List Char} (bare : c ≠ '<' ∧ c ≠ '>')
    (h : Closes ('<' :: s)) : Closes ('<' :: c :: s) := by
  cases h with
  | plain inert _ => exact absurd rfl inert.1
  | address inside rest => exact .address (List.forall_mem_cons.mpr ⟨bare, inside⟩) rest

/-- … and so may a text in quotes. -/
theorem Closes.quotes_cons {c : Char} {s : List Char} (bare : c ≠ '"') (h : Closes ('"' :: s)) :
    Closes ('"' :: c :: s) := by
  cases h with
  | plain inert _ => exact absurd rfl inert.2
  | quotes inside rest => exact .quotes (List.forall_mem_cons.mpr ⟨bare, inside⟩) rest

/-- **One character of a scan**: what closes from behind it on closes from in front of it. -/
theorem closes_of_next {e e' : Enclosure} {c : Char} {s : List Char} (next : e.next c = some e')
    (rest : Closes (e'.opening ++ s)) : Closes (e.opening ++ c :: s) := by
  unfold Enclosure.next at next
  split at next
  all_goals cases next
  -- outside, a bracket or a quote opens what is closed behind it, and nothing else does
  · exact rest
  · exact rest
  · rename_i bracket quote
    exact .plain ⟨bracket, quote⟩ rest
  -- an address goes on up to its bracket
  · exact .address (List.forall_mem_nil _) rest
  · rename_i bracket close
    exact Closes.address_cons ⟨bracket, close⟩ rest
  -- quotes go on up to the next one
  · exact .quotes (List.forall_mem_nil _) rest
  · rename_i quote
    exact Closes.quotes_cons quote rest

theorem closes_of_behind {e : Enclosure} {s : List Char} (h : e.behind s = some .outside) :
    Closes (e.opening ++ s) := by
  induction s generalizing e with
  | nil =>
    cases h
    exact .nil
  | cons c s ih =>
    rw [Enclosure.behind] at h
    obtain ⟨e', next, h⟩ := Option.bind_eq_some_iff.mp h
    exact closes_of_next next (ih h)

/-- **Just the balanced texts close what they open.** -/
theorem isBalanced_iff_closes {s : List Char} : IsBalanced s ↔ Closes s :=
  ⟨closes_of_behind (e := .outside), Closes.isBalanced⟩

instance (s : List Char) : Decidable (Closes s) :=
  decidable_of_iff (IsBalanced s) isBalanced_iff_closes

/-! ## 2. How a text comes apart -/

/-- **The parts of a text**, from where a scan stands: a delimiter outside ends a part, and any other
    character belongs to the first one. -/
inductive Parted (d : Char) : Enclosure → List Char → List (List Char) → Prop
  | done : Parted d .outside [] [[]]
  | delimiter {s first : List Char} {more : List (List Char)}
      (rest : Parted d .outside s (first :: more)) : Parted d .outside (d :: s) ([] :: first :: more)
  | character {e e' : Enclosure} {c : Char} {s first : List Char} {more : List (List Char)}
      (other : ¬(e = .outside ∧ c = d)) (next : e.next c = some e')
      (rest : Parted d e' s (first :: more)) : Parted d e (c :: s) ((c :: first) :: more)

theorem parted_of_partsOutside {d : Char} {e : Enclosure} {s : List Char}
    {parts : List (List Char)} (h : partsOutside d e s = some parts) : Parted d e s parts := by
  induction s generalizing e parts with
  | nil =>
    cases e <;> cases h
    exact .done
  | cons c s ih =>
    rw [partsOutside] at h
    split at h
    case isTrue hc =>
      obtain ⟨rfl, rfl⟩ := hc
      obtain ⟨parts, hparts, rfl⟩ := Option.map_eq_some_iff.mp h
      obtain ⟨first, more, rfl⟩ := List.exists_cons_of_ne_nil (partsOutside_ne_nil hparts)
      exact .delimiter (ih hparts)
    case isFalse hc =>
      obtain ⟨e', next, h⟩ := Option.bind_eq_some_iff.mp h
      obtain ⟨parts, hparts, rfl⟩ := Option.map_eq_some_iff.mp h
      obtain ⟨first, more, rfl⟩ := List.exists_cons_of_ne_nil (partsOutside_ne_nil hparts)
      exact .character hc next (ih hparts)

theorem join_cons_cons (d c : Char) (first : List Char) (more : List (List Char)) :
    Text.join [d] ((c :: first) :: more) = c :: Text.join [d] (first :: more) := by
  cases more <;> rfl

/-- **Nothing is lost**: with the delimiters between them the parts are the text again. -/
theorem Parted.join_eq {d : Char} {e : Enclosure} {s : List Char} {parts : List (List Char)}
    (h : Parted d e s parts) : Text.join [d] parts = s := by
  induction h with
  | done => rfl
  | delimiter _ ih =>
    rw [Text.join_cons_of_ne_nil (List.cons_ne_nil _ _), ih]
    rfl
  | character _ _ _ ih => rw [join_cons_cons, ih]

theorem join_splitOutside (d : Char) (s : List Char) : Text.join [d] (splitOutside d s) = s := by
  rw [splitOutside]
  cases h : partsOutside d .outside s with
  | none => exact Text.join_split d s
  | some parts => exact (parted_of_partsOutside h).join_eq

/-- A text that closes what it opens comes apart into the parts it is cut into. -/
theorem Closes.parted {d : Char} (hd : IsInert d) {s : List Char} (h : Closes s) :
    Parted d .outside s (splitOutside d s) := by
  obtain ⟨parts, hparts⟩ := h.isBalanced.exists_partsOutside hd
  rw [splitOutside, hparts, Option.getD_some]
  exact parted_of_partsOutside hparts

/-- **No part can be cut again**: the first one is quiet from where the scan stands, and every other
    from outside. -/
theorem Parted.quiet {d : Char} {e : Enclosure} {s : List Char} {parts : List (List Char)}
    (h : Parted d e s parts) :
    (∀ part, parts.head? = some part → Link.quiet d e part = some .outside) ∧
      ∀ part ∈ parts.tail, Link.quiet d .outside part = some .outside := by
  induction h with
  | done => exact ⟨fun _ hp => Option.some.inj hp ▸ rfl, List.forall_mem_nil _⟩
  | delimiter _ ih =>
    exact ⟨fun _ hp => Option.some.inj hp ▸ rfl, List.forall_mem_cons.mpr ⟨ih.1 _ rfl, ih.2⟩⟩
  | character other next _ ih =>
    refine ⟨fun part hp => ?_, ih.2⟩
    rw [← Option.some.inj hp, Link.quiet, if_neg other, next, Option.bind_some]
    exact ih.1 _ rfl

theorem Parted.quiet_of_mem {d : Char} {s : List Char} {parts : List (List Char)}
    (h : Parted d .outside s parts) {part : List Char} (hp : part ∈ parts) :
    Link.quiet d .outside part = some .outside := by
  obtain ⟨first, more⟩ := h.quiet
  cases parts with
  | nil => cases hp
  | cons p parts =>
    rcases List.mem_cons.mp hp with rfl | hp
    · exact first part rfl
    · exact more part hp

/-! ## 3. Places -/

/-- **The places of the delimiters** between parts that are joined. -/
def cuts : List (List Char) → List Nat
  | part :: next :: more =>
    part.length :: (cuts (next :: more)).map fun i => part.length + 1 + i
  | _ => []

theorem mem_cuts_cons {part next : List Char} {more : List (List Char)} {i : Nat} :
    i ∈ cuts (part :: next :: more) ↔
      i = part.length ∨ ∃ j ∈ cuts (next :: more), part.length + 1 + j = i := by
  rw [cuts, List.mem_cons, List.mem_map]

/-- A delimiter in front is a place, and moves the others on by one … -/
theorem zero_mem_cuts {first : List Char} {more : List (List Char)} :
    0 ∈ cuts ([] :: first :: more) :=
  mem_cuts_cons.mpr (.inl rfl)

theorem succ_mem_cuts_nil {first : List Char} {more : List (List Char)} {i : Nat} :
    i + 1 ∈ cuts ([] :: first :: more) ↔ i ∈ cuts (first :: more) := by
  rw [mem_cuts_cons, List.length_nil]
  grind

/-- … and any other character in front only moves them. -/
theorem zero_not_mem_cuts {c : Char} {first : List Char} {more : List (List Char)} :
    0 ∉ cuts ((c :: first) :: more) := by
  cases more with
  | nil => simp [cuts]
  | cons next more => simp [mem_cuts_cons]

theorem succ_mem_cuts_cons {c : Char} {first : List Char} {more : List (List Char)} {i : Nat} :
    i + 1 ∈ cuts ((c :: first) :: more) ↔ i ∈ cuts (first :: more) := by
  cases more with
  | nil => simp [cuts]
  | cons next more =>
    rw [mem_cuts_cons, mem_cuts_cons, List.length_cons]
    grind

/-- **A text that comes apart is cut at the delimiters outside.** -/
theorem Parted.mem_cuts_iff {d : Char} (hd : IsInert d) {e : Enclosure} {s : List Char}
    {parts : List (List Char)} (h : Parted d e s parts) (i : Nat) :
    i ∈ cuts parts ↔ s[i]? = some d ∧ e.behind (s.take i) = some .outside := by
  induction h generalizing i with
  | done => simp [cuts]
  | delimiter _ ih =>
    cases i with
    | zero => exact iff_of_true zero_mem_cuts ⟨rfl, rfl⟩
    | succ i =>
      rw [succ_mem_cuts_nil, ih, List.getElem?_cons_succ, List.take_succ_cons, Enclosure.behind,
        next_of_isInert hd, Option.bind_some]
  | @character e e' c s first more other next _ ih =>
    cases i with
    | zero =>
      refine iff_of_false zero_not_mem_cuts fun h => other ?_
      exact ⟨Option.some.inj h.2, Option.some.inj h.1⟩
    | succ i =>
      rw [succ_mem_cuts_cons, ih, List.getElem?_cons_succ, List.take_succ_cons, Enclosure.behind,
        next, Option.bind_some]

/-- **A text that is cut everywhere is cut at each delimiter.** -/
theorem mem_cuts_split {d : Char} (s : List Char) (i : Nat) :
    i ∈ cuts (Text.split d s) ↔ s[i]? = some d := by
  induction s generalizing i with
  | nil => simp [Text.split, Text.splitBy, cuts]
  | cons c s ih =>
    obtain ⟨first, more, hs⟩ := List.exists_cons_of_ne_nil (Text.splitBy_ne_nil (· == d) s)
    rw [Text.split, hs] at ih
    by_cases hc : c = d
    · have hsplit : Text.split d (c :: s) = [] :: first :: more := by
        rw [Text.split, Text.splitBy, if_pos (beq_iff_eq.mpr hc), hs]
      rw [hsplit]
      cases i with
      | zero => exact iff_of_true zero_mem_cuts (congrArg some hc)
      | succ i => rw [succ_mem_cuts_nil, ih, List.getElem?_cons_succ]
    · have hsplit : Text.split d (c :: s) = (c :: first) :: more := by
        rw [split_cons hc, Text.split, hs]
        rfl
      rw [hsplit]
      cases i with
      | zero => exact iff_of_false zero_not_mem_cuts fun h => hc (Option.some.inj h)
      | succ i => rw [succ_mem_cuts_cons, ih, List.getElem?_cons_succ]

/-! ## 4. Cut outside -/

/-- **A text is cut outside**, or everywhere if something is left open, and nothing of it is lost. -/
structure IsCutOutside (d : Char) (s : List Char) : Prop where
  /-- There are parts, and with the delimiters between them they are the text again. -/
  lossless : splitOutside d s ≠ [] ∧ Text.join [d] (splitOutside d s) = s
  /-- A text that closes what it opens is cut at the delimiters before which nothing is left open. -/
  outside : Closes s → ∀ i, i ∈ cuts (splitOutside d s) ↔ s[i]? = some d ∧ Closes (s.take i)
  /-- Its parts close what they open, and none of them is cut again. -/
  whole : Closes s → ∀ part ∈ splitOutside d s, Closes part ∧ splitOutside d part = [part]
  /-- Any other text is cut at all delimiters. -/
  everywhere : ¬Closes s → ∀ i, i ∈ cuts (splitOutside d s) ↔ s[i]? = some d

theorem isInert_of_separates {d : Char} (h : d = ',' ∨ d = ';') : IsInert d := by
  rcases h with rfl | rfl
  · exact isInert_comma
  · exact isInert_semicolon

/-- **Fields and entries are cut outside**, whatever they hold. -/
theorem isCutOutside {d : Char} (hd : d = ',' ∨ d = ';') (s : List Char) : IsCutOutside d s where
  lossless := ⟨splitOutside_ne_nil d s, join_splitOutside d s⟩
  outside closes i := by
    have inert := isInert_of_separates hd
    rw [(closes.parted inert).mem_cuts_iff inert, ← isBalanced_iff_closes, IsBalanced]
  whole closes part hp := by
    have still := (closes.parted (isInert_of_separates hd)).quiet_of_mem hp
    exact ⟨isBalanced_iff_closes.mp (behind_of_quiet still), splitOutside_of_quiet still⟩
  everywhere damaged i := by
    have unbalanced : ¬IsBalanced s := fun h => damaged (isBalanced_iff_closes.mp h)
    rw [splitOutside_of_not_isBalanced (isInert_of_separates hd) unbalanced, mem_cuts_split]

/-- A field with delimiters in an address, in quotes and outside. -/
def mixedField : List Char :=
  "</ä;b,c>; t=\"x, <\", </d>".toList

/-- It is cut at one comma and one semicolon, and at all of them behind a bracket that is left open. -/
theorem isCutOutside_sample :
    (Closes mixedField ∧ IsCutOutside ',' mixedField ∧ IsCutOutside ';' mixedField ∧
      cuts (splitOutside ',' mixedField) = [18] ∧ cuts (splitOutside ';' mixedField) = [8]) ∧
    ¬Closes ('<' :: mixedField) ∧ IsCutOutside ',' ('<' :: mixedField) ∧
      cuts (splitOutside ',' ('<' :: mixedField)) = [6, 15, 19] :=
  ⟨⟨by decide +kernel, isCutOutside (.inl rfl) _, isCutOutside (.inr rfl) _, by decide +kernel,
      by decide +kernel⟩,
    by decide +kernel, isCutOutside (.inl rfl) _, by decide +kernel⟩

end TrialProtocol.Link
