import TrialProtocol.Proofs.Link.Cut

/-!
# Links beside a broken entry

An entry that yields no link stands in a field together with a link. If the entry is balanced, both are
read as if each stood alone. If it is not, nor is the field, which is then cut at every comma, also at
those of the link. So the link is read just if it holds no comma (`parseLinks_beside_iff`).

* `parseLinks_of_single`: a field without a comma is one entry, balanced or not.
* `comma_of_damaged`: no link with a comma is ever read from a field that is not balanced.
* `not_isBalanced_before`, `not_isBalanced_behind`: a clear link does not mend what is broken before or
  behind it.
-/

namespace TrialProtocol.Link

/-! ## 1. A field that is one entry -/

theorem quiet_of_not_mem {d : Char} {s : List Char} (h : d ∉ s) (e : Enclosure) :
    quiet d e s = e.behind s := by
  induction s generalizing e with
  | nil => rfl
  | cons c s ih =>
    obtain ⟨hc, hs⟩ := not_or.mp (mt List.mem_cons.mpr h)
    rw [quiet, if_neg fun hd => hc hd.2.symm, Enclosure.behind]
    exact congrArg _ (funext (ih hs))

theorem splitOutside_of_not_mem {d : Char} (hd : IsInert d) {s : List Char} (h : d ∉ s) :
    splitOutside d s = [s] := by
  by_cases balanced : IsBalanced s
  · exact splitOutside_of_quiet ((quiet_of_not_mem h .outside).trans balanced)
  · rw [splitOutside_of_not_isBalanced hd balanced]
    refine Text.splitBy_of_forall fun c hc => beq_eq_false_iff_ne.mpr ?_
    rintro rfl
    exact h hc

theorem parseLinks_of_single {entry : List Char} (h : ',' ∉ entry) :
    parseLinks entry = ( ofEntry? entry).toList := by
  rw [parseLinks, splitOutside_of_not_mem isInert_comma h]
  cases hl : ofEntry? entry <;> simp [hl]

/-! ## 2. A link is made of its entry -/

theorem mem_of_mem_splitOutside {d : Char} {s part : List Char} (h : part ∈ splitOutside d s)
    {c : Char} (hc : c ∈ part) : c ∈ s := by
  rw [← join_splitOutside d s]
  exact Text.mem_join h hc

theorem mem_of_bracketed? {part inner : List Char} (h : bracketed? part = some inner) {c : Char}
    (hc : c ∈ inner) : c ∈ part := by
  unfold bracketed? at h
  split at h
  · split at h
    · cases h
      exact List.mem_cons_of_mem _ (List.dropLast_subset _ hc)
    · cases h
  · cases h

theorem mem_of_relation? {part rel : List Char} (h : relation? part = some rel) {c : Char}
    (hc : c ∈ rel) : c ∈ part := by
  unfold relation? at h
  split at h
  · cases h
  · split at h
    · rename_i name value hsplit
      split at h
      · cases h
        have hvalue : c ∈ value :=
          Text.mem_of_mem_trimBy (Text.mem_of_mem_trimBy (Text.mem_of_mem_trimBy hc))
        exact Text.mem_of_splitOnce hsplit hvalue
      · cases h
    · cases h

/-- **Every character of a link stands in its entry.** -/
theorem mem_of_ofEntry? {entry : List Char} {l : Link} (h : ofEntry? entry = some l) {c : Char}
    (hc : c ∈ l.uri.toList ∨ c ∈ l.rel.toList) : c ∈ entry := by
  have hpart : ∀ part ∈ (splitOutside ';' entry).map Text.trim, c ∈ part → c ∈ entry := by
    intro part hp hc
    obtain ⟨piece, hpiece, rfl⟩ := List.mem_map.mp hp
    exact mem_of_mem_splitOutside hpiece (Text.mem_of_mem_trimBy hc)
  unfold ofEntry? at h
  simp only at h
  split at h
  · rename_i uri rel huri hrel
    split at h
    · cases h
    · cases h
      rw [String.toList_ofList, String.toList_ofList] at hc
      rcases hc with hc | hc
      · obtain ⟨inner, hinner, rfl⟩ := Option.map_eq_some_iff.mp huri
        obtain ⟨part, hp, hbracketed⟩ := List.exists_of_findSome?_eq_some hinner
        exact hpart part hp (mem_of_bracketed? hbracketed (Text.mem_of_mem_trimBy hc))
      · obtain ⟨part, hp, hrelation⟩ := List.exists_of_findSome?_eq_some hrel
        exact hpart part hp (mem_of_relation? hrelation hc)
  · cases h

theorem comma_mem_text {l : Link} :
    ',' ∈ l.text ↔ ',' ∈ l.uri.toList ∨ ',' ∈ l.rel.toList := by
  simp [text]

/-- **No link with a comma is read from a field that is not balanced.** -/
theorem comma_of_damaged {field : List Char} (damaged : ¬IsBalanced field) {l : Link}
    (h : l ∈ parseLinks field) : ',' ∉ l.text := by
  intro comma
  rw [parseLinks, splitOutside_of_not_isBalanced isInert_comma damaged] at h
  obtain ⟨entry, hentry, hl⟩ := List.mem_filterMap.mp h
  have hin : ',' ∈ entry := mem_of_ofEntry? hl (comma_mem_text.mp comma)
  exact absurd (Text.of_mem_splitBy hentry hin).2 (by decide)

/-! ## 3. Clear links -/

/-- A tidy link without any of the marks that enclose something. -/
structure IsClear (l : Link) : Prop extends l.IsTidy where
  uri_unquoted : ∀ c ∈ l.uri.toList, c ≠ '"'
  rel_unbracketed : ∀ c ∈ l.rel.toList, c ≠ '<' ∧ c ≠ '>'

instance (l : Link) : Decidable l.IsClear :=
  letI := List.decidableBAll (fun c => c ≠ '"') l.uri.toList
  letI := List.decidableBAll (fun c => c ≠ '<' ∧ c ≠ '>') l.rel.toList
  decidable_of_iff (l.IsTidy ∧ (∀ c ∈ l.uri.toList, c ≠ '"') ∧
      ∀ c ∈ l.rel.toList, c ≠ '<' ∧ c ≠ '>')
    ⟨fun ⟨tidy, uri, rel⟩ => ⟨tidy, uri, rel⟩,
      fun h => ⟨h.toIsTidy, h.uri_unquoted, h.rel_unbracketed⟩⟩

theorem behind_of_isInert {s : List Char} (h : ∀ c ∈ s, IsInert c) :
    Enclosure.outside.behind s = some .outside := by
  induction s with
  | nil => rfl
  | cons c s ih =>
    rw [Enclosure.behind, next_of_isInert (h c (List.mem_cons_self ..)), Option.bind_some]
    exact ih fun x hx => h x (List.mem_cons_of_mem _ hx)

section Clear

variable {l : Link} (clear : l.IsClear) {entry : List Char}

include clear

/-- An open quote is closed by the first quote of the relation, and the second one opens another. -/
theorem behind_quotes_text : Enclosure.quotes.behind (',' :: ' ' :: l.text) = some .quotes := by
  have hfront : ∀ c ∈ [',', ' ', '<'] ++ l.uri.toList ++ ['>', ';', ' ', 'r', 'e', 'l', '='],
      c ≠ '"' :=
    List.forall_mem_append.mpr ⟨List.forall_mem_append.mpr
      ⟨Text.of_all (by decide), clear.uri_unquoted⟩, Text.of_all (by decide)⟩
  have hrel : ∀ c ∈ l.rel.toList, IsInert c := fun c hc =>
    ⟨(clear.rel_unbracketed c hc).1, clear.rel_open c hc⟩
  have hparts : ',' :: ' ' :: l.text =
      ([',', ' ', '<'] ++ l.uri.toList ++ ['>', ';', ' ', 'r', 'e', 'l', '=']) ++
        '"' :: (l.rel.toList ++ ['"']) := by
    simp [text]
  rw [hparts, behind_append, behind_of_quiet (quiet_quotes (d := ',') hfront), Option.bind_some,
    Enclosure.behind, Enclosure.next, Option.bind_some, behind_append, behind_of_isInert hrel]
  rfl

/-- **A clear link does not mend what is broken behind it**, … -/
theorem not_isBalanced_behind (damaged : ¬IsBalanced entry) :
    ¬IsBalanced (Text.join [',', ' '] [l.text, entry]) := by
  have hjoin : Text.join [',', ' '] [l.text, entry] = l.text ++ ',' :: ' ' :: entry := by
    simp [Text.join]
  rw [hjoin, clear.isBalanced_text.append_cons_iff isInert_comma,
    isBalanced_cons_iff (isInert_of_isBlank (by decide))]
  exact damaged

/-- … nor what is broken before it. -/
theorem not_isBalanced_before (damaged : ¬IsBalanced entry) :
    ¬IsBalanced (Text.join [',', ' '] [entry, l.text]) := by
  have hjoin : Text.join [',', ' '] [entry, l.text] = entry ++ ',' :: ' ' :: l.text := by
    simp [Text.join]
  rw [hjoin, IsBalanced, behind_append]
  cases hentry : Enclosure.outside.behind entry with
  | none => rintro ⟨⟩
  | some e =>
    cases e with
    | outside => exact absurd hentry damaged
    -- the bracket of the link opens inside the address that was left open
    | address => rintro ⟨⟩
    | quotes =>
      rw [Option.bind_some, behind_quotes_text clear]
      rintro ⟨⟩

end Clear

/-! ## 4. A link and a broken entry -/

/-- Two entries without a comma are found again at the one between them. -/
theorem filterMap_split_join {first second : List Char} (hfirst : ',' ∉ first)
    (hsecond : ',' ∉ second) :
    (Text.split ',' (Text.join [',', ' '] [first, second])).filterMap ofEntry? =
      ( ofEntry? first).toList ++ ( ofEntry? second).toList := by
  have other : ∀ {s : List Char}, ',' ∉ s → ∀ c ∈ s, (c == ',') = false := by
    rintro s hs c hc
    refine beq_eq_false_iff_ne.mpr ?_
    rintro rfl
    exact hs hc
  have hsplit : Text.split ',' (first ++ ',' :: ' ' :: second) = [first, ' ' :: second] := by
    have hblank : ',' ∉ ' ' :: second := by simpa using hsecond
    rw [Text.split, Text.splitBy_append_cons (other hfirst) (beq_self_eq_true ','),
      Text.splitBy_of_forall (other hblank)]
  have hjoin : Text.join [',', ' '] [first, second] = first ++ ',' :: ' ' :: second := by
    simp [Text.join]
  rw [hjoin, hsplit, List.filterMap_cons, List.filterMap_cons, ofEntry?_cons (by decide)]
  cases ofEntry? first <;> cases ofEntry? second <;> rfl

/-- From a field that is cut at every comma a link is read alone just if it holds none. -/
theorem parseLinks_damaged_iff {field : List Char} (damaged : ¬IsBalanced field) {l : Link}
    (cut : ',' ∉ l.text → (Text.split ',' field).filterMap ofEntry? = [l]) :
    parseLinks field = [l] ↔ ',' ∉ l.text := by
  refine ⟨fun h => comma_of_damaged damaged (h ▸ List.mem_singleton_self l), fun comma => ?_⟩
  rw [parseLinks, splitOutside_of_not_isBalanced isInert_comma damaged]
  exact cut comma

/-- **A link beside an entry that yields none is read just if that is balanced or the link holds no
    comma**, and this is so on either side. -/
theorem parseLinks_beside_iff {l : Link} {entry : List Char} (clear : l.IsClear)
    (single : ',' ∉ entry) (broken : parseLinks entry = []) :
    (parseLinks (Text.join [',', ' '] [l.text, entry]) = [l] ↔
      IsBalanced entry ∨ ',' ∉ l.text) ∧
    (parseLinks (Text.join [',', ' '] [entry, l.text]) = [l] ↔
      IsBalanced entry ∨ ',' ∉ l.text) := by
  by_cases balanced : IsBalanced entry
  case pos =>
    have hlink := clear.parseLinks_text
    have first : parseLinks (Text.join [',', ' '] [l.text, entry]) = [l] := by
      rw [parseLinks_join (by simp [clear.isBalanced_text, balanced])]
      simp [hlink, broken]
    have last : parseLinks (Text.join [',', ' '] [entry, l.text]) = [l] := by
      rw [parseLinks_join (by simp [clear.isBalanced_text, balanced])]
      simp [hlink, broken]
    exact ⟨iff_of_true first (.inl balanced), iff_of_true last (.inl balanced)⟩
  case neg =>
    have hentry : ( ofEntry? entry).toList = [] := parseLinks_of_single single ▸ broken
    rw [or_iff_right balanced]
    refine ⟨parseLinks_damaged_iff (not_isBalanced_behind clear balanced) fun comma => ?_,
      parseLinks_damaged_iff (not_isBalanced_before clear balanced) fun comma => ?_⟩
    · rw [filterMap_split_join comma single, hentry, clear.entry_text]
      rfl
    · rw [filterMap_split_join single comma, hentry, clear.entry_text]
      rfl

/-- A clear link with commas, one in its address and one in its relation. -/
def withCommas : Link :=
  { uri := "/a;b,c", rel := "next, last" }

/-- One with semicolons only. -/
def withSemicolons : Link :=
  { uri := "/a;b", rel := "next; rel=last" }

/-- A link with commas stands beside an entry without an address, and one without commas stands beside
    an address that is left open. -/
theorem parseLinks_beside_iff_sample :
    (withCommas.IsClear ∧ parseLinks "/x; rel=self".toList = [] ∧
      parseLinks (Text.join [',', ' '] ["/x; rel=self".toList, withCommas.text]) = [withCommas]) ∧
    (withSemicolons.IsClear ∧ parseLinks "</x; rel=\"self".toList = [] ∧
      parseLinks (Text.join [',', ' '] [withSemicolons.text, "</x; rel=\"self".toList]) =
        [withSemicolons]) := by
  have commas : withCommas.IsClear := by decide +kernel
  have semicolons : withSemicolons.IsClear := by decide +kernel
  have missing : parseLinks "/x; rel=self".toList = [] := by decide +kernel
  have unclosed : parseLinks "</x; rel=\"self".toList = [] := by decide +kernel
  exact ⟨⟨commas, missing, (parseLinks_beside_iff commas (by decide) missing).2.mpr
      (.inl (by decide +kernel))⟩,
    semicolons, unclosed, (parseLinks_beside_iff semicolons (by decide) unclosed).1.mpr
      (.inr (by decide +kernel))⟩

/-- **A broken entry can harm its neighbour**: beside an address that is left open, a link with a comma
    is not read. -/
theorem not_parseLinks_beside : ¬∀ (l : Link) (entry : List Char), l.IsClear → ',' ∉ entry →
    parseLinks entry = [] → parseLinks (Text.join [',', ' '] [l.text, entry]) = [l] ∧
      parseLinks (Text.join [',', ' '] [entry, l.text]) = [l] := by
  intro all
  have read := (all { uri := "/a,b", rel := "next" } "</c".toList (by decide +kernel) (by decide)
    (by decide +kernel)).1
  have lost : parseLinks (Text.join [',', ' ']
      [Link.text { uri := "/a,b", rel := "next" }, "</c".toList]) = [] := by decide +kernel
  rw [lost] at read
  cases read

end TrialProtocol.Link
