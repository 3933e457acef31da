import TrialProtocol.Link
import TrialProtocol.Proofs.Text.Parts

/-!
# Balanced fields

A field is balanced if no bracket opens inside an address and nothing is left open at its end. The
delimiters outside then cut it, and those of a balanced field are still outside when another one
follows: balanced fields can be joined and read one by one (`parseLinks_join`).

* `behind`: where a scan stands behind a text, whatever the delimiter is.
* `splitOutside_append`: the parts of two balanced texts are those of the first, then the second's.
* `ofEntry?_cons`, `parseLinks_cons`: a blank in front of an entry or a field changes nothing.
-/

namespace TrialProtocol.Link

/-! ## 1. Where a scan stands -/

/-- Where a scan stands behind a text; `none` if a bracket opened inside an address. -/
def Enclosure.behind : Enclosure → List Char → Option Enclosure
  | e, [] => some e
  | e, c :: rest => (e.next c).bind fun e => e.behind rest

/-- **A balanced text**: a scan of it ends outside. -/
def IsBalanced (s : List Char) : Prop :=
  Enclosure.outside.behind s = some .outside

instance (s : List Char) : Decidable (IsBalanced s) :=
  inferInstanceAs (Decidable (_ = _))

theorem behind_append (e : Enclosure) (s t : List Char) :
    e.behind (s ++ t) = (e.behind s).bind fun e => e.behind t := by
  induction s generalizing e with
  | nil => rfl
  | cons c s ih =>
    rw [List.cons_append, Enclosure.behind, Enclosure.behind]
    cases e.next c with
    | none => rfl
    | some e => exact ih e

/-- A character that opens nothing outside. -/
def IsInert (c : Char) : Prop :=
  c ≠ '<' ∧ c ≠ '"'

theorem next_of_isInert {c : Char} (h : IsInert c) :
    Enclosure.next .outside c = some .outside := by
  unfold Enclosure.next
  split <;> simp_all [IsInert]

theorem isInert_of_isBlank {c : Char} (h : Text.isBlank c = true) : IsInert c := by
  constructor <;> rintro rfl <;> exact absurd h (by decide)

/-- A scan begins anew behind a balanced text and a character that opens nothing. -/
theorem IsBalanced.append_cons_iff {s : List Char} (hs : IsBalanced s) {c : Char} (hc : IsInert c)
    (t : List Char) : IsBalanced (s ++ c :: t) ↔ IsBalanced t := by
  rw [IsBalanced, behind_append, hs, Option.bind_some, Enclosure.behind, next_of_isInert hc]
  rfl

theorem isBalanced_cons_iff {c : Char} (hc : IsInert c) (t : List Char) :
    IsBalanced (c :: t) ↔ IsBalanced t :=
  IsBalanced.append_cons_iff (s := []) rfl hc t

/-! ## 2. Parts of balanced texts -/

theorem consFirst_append (c : Char) {parts : List (List Char)} (ne : parts ≠ [])
    (more : List (List Char)) : consFirst c (parts ++ more) = consFirst c parts ++ more := by
  cases parts with
  | nil => exact absurd rfl ne
  | cons part parts => rfl

theorem consFirst_ne_nil (c : Char) (parts : List (List Char)) : consFirst c parts ≠ [] := by
  cases parts <;> exact List.cons_ne_nil _ _

theorem partsOutside_ne_nil {d : Char} {e : Enclosure} {s : List Char} {parts : List (List Char)}
    (h : partsOutside d e s = some parts) : parts ≠ [] := by
  cases s with
  | nil =>
    cases e <;> cases h
    exact List.cons_ne_nil _ _
  | cons c s =>
    rw [partsOutside] at h
    split at h
    · obtain ⟨_, -, rfl⟩ := Option.map_eq_some_iff.mp h
      exact List.cons_ne_nil _ _
    · obtain ⟨_, -, h⟩ := Option.bind_eq_some_iff.mp h
      obtain ⟨_, -, rfl⟩ := Option.map_eq_some_iff.mp h
      exact consFirst_ne_nil _ _

theorem splitOutside_ne_nil (d : Char) (s : List Char) : splitOutside d s ≠ [] := by
  rw [splitOutside]
  cases h : partsOutside d .outside s with
  | none => exact Text.splitBy_ne_nil _ s
  | some parts => exact partsOutside_ne_nil h

/-- The parts of a text stay as they are if a delimiter and more follow. -/
theorem partsOutside_append_cons {d : Char} {e : Enclosure} {s : List Char}
    {parts : List (List Char)} (h : partsOutside d e s = some parts) (t : List Char) :
    partsOutside d e (s ++ d :: t) = (partsOutside d .outside t).map (parts ++ ·) := by
  induction s generalizing e parts with
  | nil =>
    cases e <;> cases h
    rw [List.nil_append, partsOutside, if_pos ⟨rfl, rfl⟩]
    rfl
  | cons c s ih =>
    rw [partsOutside] at h
    rw [List.cons_append, partsOutside]
    split at h
    · rename_i hc
      obtain ⟨rest, hrest, rfl⟩ := Option.map_eq_some_iff.mp h
      rw [if_pos hc, ih hrest, Option.map_map]
      rfl
    · rename_i hc
      obtain ⟨e', he, h⟩ := Option.bind_eq_some_iff.mp h
      obtain ⟨rest, hrest, rfl⟩ := Option.map_eq_some_iff.mp h
      rw [if_neg hc, he, Option.bind_some, ih hrest, Option.map_map]
      have hmore : consFirst c ∘ (rest ++ ·) = (consFirst c rest ++ ·) :=
        funext fun more => consFirst_append c (partsOutside_ne_nil hrest) more
      rw [hmore]

/-- Where every delimiter cuts, any other character belongs to the first part. -/
theorem split_cons {d c : Char} (ne : c ≠ d) (s : List Char) :
    Text.split d (c :: s) = consFirst c (Text.split d s) := by
  rw [Text.split, Text.splitBy, if_neg (by simpa using ne)]
  cases h : Text.splitBy (· == d) s <;> simp [Text.split, h, consFirst]

/-- A character that means nothing belongs to the first part, whichever way a text is cut. -/
theorem splitOutside_cons {d c : Char} (hc : IsInert c) (ne : c ≠ d) (s : List Char) :
    splitOutside d (c :: s) = consFirst c (splitOutside d s) := by
  have hparts : partsOutside d .outside (c :: s) =
      (partsOutside d .outside s).map (consFirst c) := by
    rw [partsOutside, if_neg fun h => ne h.2, next_of_isInert hc, Option.bind_some]
  rw [splitOutside, splitOutside, hparts, split_cons ne]
  exact Option.getD_map ..

section Delimiter

variable {d : Char} (hd : IsInert d)

include hd

/-- **Just the balanced texts are cut outside.** -/
theorem isSome_partsOutside_iff (e : Enclosure) (s : List Char) :
    (partsOutside d e s).isSome ↔ e.behind s = some .outside := by
  induction s generalizing e with
  | nil => cases e <;> simp [partsOutside, Enclosure.behind]
  | cons c s ih =>
    rw [partsOutside, Enclosure.behind]
    split
    · rename_i h
      obtain ⟨rfl, rfl⟩ := h
      rw [Option.isSome_map, next_of_isInert hd, Option.bind_some]
      exact ih .outside
    · cases e.next c with
      | none => simp
      | some e =>
        rw [Option.bind_some, Option.isSome_map]
        exact ih e

theorem IsBalanced.exists_partsOutside {s : List Char} (h : IsBalanced s) :
    ∃ parts, partsOutside d .outside s = some parts :=
  Option.isSome_iff_exists.mp ((isSome_partsOutside_iff hd .outside s).mpr h)

/-- **Two balanced texts with a delimiter between them are cut one after the other.** -/
theorem splitOutside_append {s t : List Char} (hs : IsBalanced s) (ht : IsBalanced t) :
    splitOutside d (s ++ d :: t) = splitOutside d s ++ splitOutside d t := by
  obtain ⟨ps, hps⟩ := hs.exists_partsOutside hd
  obtain ⟨qs, hqs⟩ := ht.exists_partsOutside hd
  rw [splitOutside, splitOutside, splitOutside, partsOutside_append_cons hps, hps, hqs]
  rfl

/-- A text that is not balanced is cut everywhere. -/
theorem splitOutside_of_not_isBalanced {s : List Char} (h : ¬IsBalanced s) :
    splitOutside d s = Text.split d s := by
  have hnone : partsOutside d .outside s = none := by
    rw [← Option.not_isSome_iff_eq_none, isSome_partsOutside_iff hd]
    exact h
  rw [splitOutside, hnone, Option.getD_none]

end Delimiter

/-! ## 3. Blanks in front -/

section Blank

variable {c : Char} (blank : Text.isBlank c = true)

include blank

/-- **A blank in front of an entry changes nothing.** -/
theorem ofEntry?_cons (entry : List Char) : ofEntry? (c :: entry) = ofEntry? entry := by
  have ne : c ≠ ';' := by
    rintro rfl
    exact absurd blank (by decide)
  have htrim : (consFirst c (splitOutside ';' entry)).map Text.trim =
      (splitOutside ';' entry).map Text.trim := by
    cases h : splitOutside ';' entry with
    | nil => exact absurd h (splitOutside_ne_nil _ _)
    | cons part parts =>
      rw [consFirst, List.map_cons, List.map_cons, Text.trim, Text.trimBy_cons blank, ← Text.trim]
  unfold ofEntry?
  rw [splitOutside_cons (isInert_of_isBlank blank) ne, htrim]

/-- Nor does one in front of a field. -/
theorem parseLinks_cons (value : List Char) : parseLinks (c :: value) = parseLinks value := by
  have ne : c ≠ ',' := by
    rintro rfl
    exact absurd blank (by decide)
  rw [parseLinks, splitOutside_cons (isInert_of_isBlank blank) ne, parseLinks]
  cases h : splitOutside ',' value with
  | nil => exact absurd h (splitOutside_ne_nil _ _)
  | cons part parts =>
    rw [consFirst, List.filterMap_cons, List.filterMap_cons, ofEntry?_cons blank]

end Blank

/-! ## 4. Joined fields -/

theorem isInert_comma : IsInert ',' := by
  constructor <;> decide

theorem isInert_semicolon : IsInert ';' := by
  constructor <;> decide

theorem isBalanced_join {values : List (List Char)} (h : ∀ v ∈ values, IsBalanced v) :
    IsBalanced (Text.join [',', ' '] values) := by
  induction values with
  | nil => rfl
  | cons v values ih =>
    have hv := h v (List.mem_cons_self ..)
    by_cases hn : values = []
    · rw [hn]
      exact hv
    · have hrest := ih fun w hw => h w (List.mem_cons_of_mem _ hw)
      rw [Text.join_cons_of_ne_nil hn, List.append_assoc]
      exact (hv.append_cons_iff isInert_comma _).mpr
        ((isBalanced_cons_iff (isInert_of_isBlank (by decide)) _).mpr hrest)

/-- **Balanced fields that are joined are read one by one.** -/
theorem parseLinks_join {values : List (List Char)} (h : ∀ v ∈ values, IsBalanced v) :
    parseLinks (Text.join [',', ' '] values) = values.flatMap parseLinks := by
  induction values with
  | nil => rfl
  | cons v values ih =>
    have hv := h v (List.mem_cons_self ..)
    have hmore : ∀ w ∈ values, IsBalanced w := fun w hw => h w (List.mem_cons_of_mem _ hw)
    by_cases hn : values = []
    · rw [hn, List.flatMap_singleton]
      rfl
    · have hblank : Text.isBlank ' ' = true := by decide
      have hrest : IsBalanced (' ' :: Text.join [',', ' '] values) :=
        (isBalanced_cons_iff (isInert_of_isBlank hblank) _).mpr (isBalanced_join hmore)
      calc parseLinks (Text.join [',', ' '] (v :: values))
          = parseLinks (v ++ ',' :: ' ' :: Text.join [',', ' '] values) := by
            rw [Text.join_cons_of_ne_nil hn, List.append_assoc]
            rfl
        _ = parseLinks v ++ parseLinks (' ' :: Text.join [',', ' '] values) := by
            rw [parseLinks, splitOutside_append isInert_comma hv hrest, List.filterMap_append]
            rfl
        _ = (v :: values).flatMap parseLinks := by
            rw [parseLinks_cons hblank, ih hmore, List.flatMap_cons]

end TrialProtocol.Link
