import TrialProtocol.Proofs.Link.Balance

/-!
# Written links are read back

A header field of some links is cut at its commas and each entry at its semicolons, outside of
addresses and quotes. `quiet` follows a text that holds no delimiter there: such a text is one part. A
tidy link is balanced and holds no comma outside, and its entry has two parts, the address and the
relation. So it is read back (`parseLinks_text`), and a field of several is read link by link
(`parseLinks_joined`).
-/

namespace TrialProtocol.Link

/-! ## 1. Texts without a delimiter outside -/

/-- Where a scan stands behind a text, unless it met a delimiter outside or a bracket in an address. -/
def quiet (d : Char) : Enclosure → List Char → Option Enclosure
  | e, [] => some e
  | e, c :: rest =>
    if e = .outside ∧ c = d then none else (e.next c).bind fun e => quiet d e rest

theorem quiet_append (d : Char) (e : Enclosure) (s t : List Char) :
    quiet d e (s ++ t) = (quiet d e s).bind fun e => quiet d e t := by
  induction s generalizing e with
  | nil => rfl
  | cons c s ih =>
    rw [List.cons_append, quiet, quiet]
    split
    · rfl
    · cases e.next c with
      | none => rfl
      | some e => exact ih e

/-- **A quiet text that ends outside is one part.** -/
theorem partsOutside_of_quiet {d : Char} {e : Enclosure} {s : List Char}
    (h : quiet d e s = some .outside) : partsOutside d e s = some [s] := by
  induction s generalizing e with
  | nil =>
    cases h
    rfl
  | cons c s ih =>
    rw [quiet] at h
    rw [partsOutside]
    split at h
    · cases h
    · rename_i hc
      obtain ⟨e₁, hn, hq⟩ := Option.bind_eq_some_iff.mp h
      rw [if_neg hc, hn, Option.bind_some, ih hq]
      rfl

theorem splitOutside_of_quiet {d : Char} {s : List Char}
    (h : quiet d .outside s = some .outside) : splitOutside d s = [s] := by
  rw [splitOutside, partsOutside_of_quiet h, Option.getD_some]

/-- A scan does not mind delimiters. -/
theorem behind_of_quiet {d : Char} {e e' : Enclosure} {s : List Char}
    (h : quiet d e s = some e') : e.behind s = some e' := by
  induction s generalizing e with
  | nil => exact h
  | cons c s ih =>
    rw [quiet] at h
    rw [Enclosure.behind]
    split at h
    · cases h
    · obtain ⟨e₁, hn, hq⟩ := Option.bind_eq_some_iff.mp h
      rw [hn, Option.bind_some, ih hq]

/-- An address is closed only by its bracket. -/
theorem quiet_address {d : Char} {s : List Char} (h : ∀ c ∈ s, c ≠ '<' ∧ c ≠ '>') :
    quiet d .address s = some .address := by
  induction s with
  | nil => rfl
  | cons c s ih =>
    obtain ⟨hl, hr⟩ := h c (List.mem_cons_self ..)
    have hn : Enclosure.next .address c = some .address := by
      unfold Enclosure.next
      split <;> simp_all
    rw [quiet, if_neg (by simp), hn, Option.bind_some]
    exact ih fun x hx => h x (List.mem_cons_of_mem _ hx)

/-- Quotes are closed only by a quote. -/
theorem quiet_quotes {d : Char} {s : List Char} (h : ∀ c ∈ s, c ≠ '"') :
    quiet d .quotes s = some .quotes := by
  induction s with
  | nil => rfl
  | cons c s ih =>
    have hq := h c (List.mem_cons_self ..)
    have hn : Enclosure.next .quotes c = some .quotes := by
      unfold Enclosure.next
      split <;> simp_all
    rw [quiet, if_neg (by simp), hn, Option.bind_some]
    exact ih fun x hx => h x (List.mem_cons_of_mem _ hx)

/-! ## 2. Tidy links -/

/-- A link whose parts cannot be mistaken for anything else. -/
structure IsTidy (l : Link) : Prop where
  uri_ne_nil : l.uri.toList ≠ []
  uri_open : ∀ c ∈ l.uri.toList, c ≠ '<' ∧ c ≠ '>'
  uri_trimmed : Text.IsTrimmedBy Text.isBlank l.uri.toList
  rel_ne_nil : l.rel.toList ≠ []
  rel_open : ∀ c ∈ l.rel.toList, c ≠ '"'
  rel_trimmed : Text.IsTrimmedBy Text.isBlank l.rel.toList

-- the characters are looked at one by one along the lists, not among all characters there are
instance (l : Link) : Decidable l.IsTidy :=
  letI := List.decidableBAll (fun c => c ≠ '<' ∧ c ≠ '>') l.uri.toList
  letI := List.decidableBAll (fun c => c ≠ '"') l.rel.toList
  decidable_of_iff ((l.uri.toList ≠ [] ∧ (∀ c ∈ l.uri.toList, c ≠ '<' ∧ c ≠ '>') ∧
      Text.IsTrimmedBy Text.isBlank l.uri.toList) ∧
    l.rel.toList ≠ [] ∧ (∀ c ∈ l.rel.toList, c ≠ '"') ∧
      Text.IsTrimmedBy Text.isBlank l.rel.toList)
    ⟨fun ⟨⟨une, uopen, utrim⟩, rne, ropen, rtrim⟩ => ⟨une, uopen, utrim, rne, ropen, rtrim⟩,
      fun h => ⟨⟨h.uri_ne_nil, h.uri_open, h.uri_trimmed⟩, h.rel_ne_nil, h.rel_open, h.rel_trimmed⟩⟩

/-- The address of a link between its brackets. -/
def addressText (l : Link) : List Char :=
  '<' :: l.uri.toList ++ ['>']

/-- The relation of a link, as a part of its entry. -/
def relationText (l : Link) : List Char :=
  ['r', 'e', 'l', '=', '"'] ++ l.rel.toList ++ ['"']

theorem text_eq (l : Link) : l.text = l.addressText ++ ';' :: ' ' :: l.relationText := by
  simp [text, addressText, relationText]

namespace IsTidy

variable {l : Link}

theorem quiet_addressText (h : l.IsTidy) {d : Char} (hd : d ≠ '<') :
    quiet d .outside l.addressText = some .outside := by
  have ha : quiet d .address (l.uri.toList ++ ['>']) = some .outside := by
    rw [quiet_append, quiet_address h.uri_open, Option.bind_some]
    simp [quiet, Enclosure.next]
  rw [addressText, List.cons_append, quiet, if_neg fun e => hd e.2.symm]
  exact ha

theorem quiet_relationText (h : l.IsTidy) {d : Char}
    (hd : d ∉ ['r', 'e', 'l', '=', '"']) :
    quiet d .outside l.relationText = some .outside := by
  have hs : quiet d .outside ['r', 'e', 'l', '=', '"'] = some .quotes := by
    simp only [List.mem_cons, List.not_mem_nil, or_false, not_or] at hd
    obtain ⟨hr, he, hl, hq, hm⟩ := hd
    simp [quiet, Enclosure.next, Ne.symm hr, Ne.symm he, Ne.symm hl, Ne.symm hq, Ne.symm hm]
  rw [relationText, quiet_append, quiet_append, hs, Option.bind_some, quiet_quotes h.rel_open,
    Option.bind_some]
  simp [quiet, Enclosure.next]

/-- A tidy link holds no comma outside. -/
theorem quiet_text (h : l.IsTidy) : quiet ',' .outside l.text = some .outside := by
  have hs : quiet ',' .outside (';' :: ' ' :: l.relationText) = some .outside := by
    simp only [quiet, Enclosure.next]
    exact h.quiet_relationText (d := ',') (by decide)
  rw [text_eq, quiet_append, h.quiet_addressText (by decide), Option.bind_some]
  exact hs

/-! ## 3. Reading an entry -/

theorem bracketed?_addressText (l : Link) : bracketed? l.addressText = some l.uri.toList := by
  rw [addressText, List.cons_append, bracketed?, List.getLast?_append, List.getLast?_singleton,
    Option.some_or, if_pos rfl, List.dropLast_concat]

theorem relation?_addressText (l : Link) : relation? l.addressText = none := by
  rw [relation?, bracketed?_addressText]
  rfl

theorem bracketed?_relationText (l : Link) : bracketed? l.relationText = none := rfl

theorem relation?_relationText (h : l.IsTidy) : relation? l.relationText = some l.rel.toList := by
  have hs : Text.splitOnce (· == '=') l.relationText =
      some (['r', 'e', 'l'], '"' :: l.rel.toList ++ ['"']) :=
    Text.splitOnce_append_cons (s := ['r', 'e', 'l']) (Text.of_all (by decide)) (by decide) _
  have hn : Text.eqIgnoreCase (Text.trim ['r', 'e', 'l']) ['r', 'e', 'l'] = true := by decide
  have hv : Text.trim ('"' :: l.rel.toList ++ ['"']) = '"' :: l.rel.toList ++ ['"'] :=
    (Text.isTrimmedBy_cons_append (by decide) (by decide) _).trimBy_eq
  have hq : Text.trimBy (· == '"') ('"' :: l.rel.toList ++ ['"']) = l.rel.toList :=
    (Text.isTrimmedBy_of_forall fun c hc => by simpa using h.rel_open c hc).trimBy_between
      (by decide) (by decide)
  have ht : Text.trim l.rel.toList = l.rel.toList := h.rel_trimmed.trimBy_eq
  rw [relation?, bracketed?_relationText, if_neg (by simp), hs]
  simp only [hn, if_true, hv, hq, ht]

theorem trim_addressText (l : Link) : Text.trim l.addressText = l.addressText :=
  (Text.isTrimmedBy_cons_append (by decide) (by decide) _).trimBy_eq

theorem trim_relationText (l : Link) : Text.trim l.relationText = l.relationText :=
  (Text.isTrimmedBy_cons_append (by decide) (by decide) _).trimBy_eq

/-- **The entry of a tidy link has two parts.** -/
theorem splitOutside_text (h : l.IsTidy) :
    splitOutside ';' l.text = [l.addressText, ' ' :: l.relationText] := by
  have hblank : IsInert ' ' := by constructor <;> decide
  have ha : quiet ';' .outside l.addressText = some .outside := h.quiet_addressText (by decide)
  have hr : quiet ';' .outside l.relationText = some .outside := h.quiet_relationText (by decide)
  have hrel : IsBalanced (' ' :: l.relationText) :=
    (isBalanced_cons_iff hblank _).mpr (behind_of_quiet hr)
  rw [text_eq, splitOutside_append isInert_semicolon (behind_of_quiet ha) hrel,
    splitOutside_of_quiet ha, splitOutside_cons hblank (by decide), splitOutside_of_quiet hr]
  rfl

/-- **A tidy link is read from its entry.** -/
theorem entry_text (h : l.IsTidy) : ofEntry? l.text = some l := by
  have htr : Text.trim (' ' :: l.relationText) = l.relationText :=
    (Text.trimBy_cons (by decide) _).trans (trim_relationText l)
  have htu : Text.trim l.uri.toList = l.uri.toList := h.uri_trimmed.trimBy_eq
  have hu : l.uri.toList.isEmpty = false := by simpa using h.uri_ne_nil
  have hl : l.rel.toList.isEmpty = false := by simpa using h.rel_ne_nil
  unfold ofEntry?
  rw [splitOutside_text h]
  simp only [List.map_cons, List.map_nil, trim_addressText, htr, List.findSome?_cons,
    bracketed?_addressText, relation?_addressText, relation?_relationText h, Option.map_some, htu,
    hu, hl, String.ofList_toList]
  rfl

/-! ## 4. Reading a field -/

theorem isBalanced_text (h : l.IsTidy) : IsBalanced l.text :=
  behind_of_quiet h.quiet_text

/-- **A tidy link is read from the field that it makes up.** -/
theorem parseLinks_text (h : l.IsTidy) : parseLinks l.text = [l] := by
  rw [parseLinks, splitOutside_of_quiet h.quiet_text, List.filterMap_cons, h.entry_text]
  rfl

end IsTidy

theorem flatMap_parseLinks_text {links : List Link} (h : ∀ l ∈ links, l.IsTidy) :
    (links.map text).flatMap parseLinks = links := by
  induction links with
  | nil => rfl
  | cons l links ih =>
    rw [List.map_cons, List.flatMap_cons, (h l (List.mem_cons_self ..)).parseLinks_text,
      ih fun m hm => h m (List.mem_cons_of_mem _ hm)]
    rfl

/-- **A field of tidy links is read as these links.** -/
theorem parseLinks_joined {links : List Link} (h : ∀ l ∈ links, l.IsTidy) :
    parseLinks (joined links) = links := by
  have balanced : ∀ v ∈ links.map text, IsBalanced v := by
    intro v hv
    obtain ⟨l, hl, rfl⟩ := List.mem_map.mp hv
    exact (h l hl).isBalanced_text
  rw [joined, parseLinks_join balanced, flatMap_parseLinks_text h]

/-- **Fields are read in parts**: a field that was joined of balanced ones says what each of them says,
    one after the other, and a field that was written for some links says these links, in order. -/
structure ReadsInParts : Prop where
  joined : ∀ values : List (List Char), (∀ v ∈ values, IsBalanced v) →
    parseLinks (Text.join [',', ' '] values) = values.flatMap parseLinks
  written : ∀ links : List Link, (∀ l ∈ links, l.IsTidy) → parseLinks (Link.joined links) = links

theorem readsInParts : ReadsInParts where
  joined _ := parseLinks_join
  written _ := parseLinks_joined

/-- Balanced fields with commas and semicolons inside, among them two that say nothing. -/
def sampleFields : List (List Char) :=
  ["</a;b,c>; title=\"x, <y\"; rel=next, <d>;REL= self ".toList, ">, \"<\";".toList, [],
    "</e>; rel=\"prev, last\"".toList]

/-- Links with all the characters that separate something elsewhere. -/
def sampleLinks : List Link :=
  [{ uri := "/a, b;c=\"d\"", rel := "next, <prev>; rel=x" }, { uri := "=", rel := "," }]

theorem readsInParts_sample :
    ((∀ v ∈ sampleFields, IsBalanced v) ∧ parseLinks (Text.join [',', ' '] sampleFields) =
      [{ uri := "/a;b,c", rel := "next" }, { uri := "d", rel := "self" },
        { uri := "/e", rel := "prev, last" }]) ∧
    (∀ l ∈ sampleLinks, l.IsTidy) ∧ parseLinks (joined sampleLinks) = sampleLinks := by
  have balanced : ∀ v ∈ sampleFields, IsBalanced v := by decide +kernel
  have tidy : ∀ l ∈ sampleLinks, l.IsTidy := by decide +kernel
  refine ⟨⟨balanced, ?_⟩, tidy, readsInParts.written _ tidy⟩
  rw [readsInParts.joined _ balanced]
  decide +kernel

end TrialProtocol.Link
