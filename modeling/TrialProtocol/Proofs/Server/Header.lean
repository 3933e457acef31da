import Mathlib.Data.List.Basic
import TrialProtocol.Proofs.Link
import TrialProtocol.Proofs.Metadata
import TrialProtocol.Proofs.Text.Ascii
import TrialProtocol.Server

/-!
# What headers of the server say

The server puts links, times and locations into header fields. All of them are readable, so none is
refused when it is written, and a client takes from a header what the server put there.

* `experimentFields_eq`, `exists_linkField`: the fields can be sent.
* `extract_experimentFields`, `extract_pageLinks`, `extract_location`: what is read from them.
-/

namespace TrialProtocol

open Http (Field)

/-! ## 1. Fields by their names -/

namespace Http

theorem valuesOf_nil (name : String) : valuesOf [] name = [] := rfl

theorem valuesOf_cons (n : String) (text : List Char) (fields : List Field) (name : String) :
    valuesOf (Field.ofText n text :: fields) name =
      if Text.eqIgnoreCase n.toList name.toList then Utf8.encode text :: valuesOf fields name
      else valuesOf fields name := by
  unfold valuesOf
  have hn : (Field.ofText n text).isNamed name = Text.eqIgnoreCase n.toList name.toList := rfl
  rw [List.filter_cons, hn]
  split <;> rfl

end Http

/-! ## 2. Characters of paths -/

/-- A character that an address in a link holds. -/
def Link.isVisible (c : Char) : Bool :=
  33 ≤ c.toNat && c.toNat ≤ 126 && c != '<' && c != '>'

theorem Link.isVisible_of_isPlain {c : Char} (h : Text.isPlain c = true) : isVisible c = true :=
  Text.of_isPlain (p := fun c => isVisible c = true) (by decide) h

theorem Link.toNat_lt_of_isVisible {c : Char} (h : isVisible c = true) : c.toNat < 128 := by
  simp only [isVisible, Bool.and_eq_true, decide_eq_true_eq] at h
  omega

/-- What is decided for the visible characters holds of them. -/
theorem Link.of_isVisible {p : Char → Prop} (h : ∀ n, n < 128 → isVisible (Char.ofNat n) = true →
    p (Char.ofNat n)) {c : Char} (hc : isVisible c = true) : p c := by
  have hp := h c.toNat (toNat_lt_of_isVisible hc)
  rw [Char.ofNat_toNat] at hp
  exact hp hc

theorem ExperimentName.isPlain_of_isInner {c : Char} (h : isInner c = true) :
    Text.isPlain c = true := by
  simp only [isInner, isEdge, Bool.or_eq_true, beq_iff_eq] at h
  rcases h with ((h | h) | rfl) | rfl
  · have hl := Bool.and_eq_true_iff.mp h
    have h97 : 97 ≤ c.toNat := UInt32.le_iff_toNat_le.mp (of_decide_eq_true hl.1)
    have h122 : c.toNat ≤ 122 := UInt32.le_iff_toNat_le.mp (of_decide_eq_true hl.2)
    simp only [Text.isPlain, Bool.or_eq_true, Bool.and_eq_true, decide_eq_true_eq]
    omega
  · exact Text.isPlain_of_isDigit h
  · decide
  · decide

theorem ExperimentName.isInner_of_isWellFormed {s : List Char} (h : isWellFormed s = true)
    {c : Char} (hc : c ∈ s) : isInner c = true := by
  simp only [isWellFormed, Bool.and_eq_true, List.all_eq_true] at h
  exact h.2 c hc

/-- A well-formed name is plain. -/
theorem ExperimentName.isPlain_of_isWellFormed {s : List Char} (h : isWellFormed s = true)
    {c : Char} (hc : c ∈ s) : Text.isPlain c = true :=
  isPlain_of_isInner (isInner_of_isWellFormed h hc)

namespace Server

/-! ## 3. Fields that can be sent -/

theorem field_eq (name : String) {text : List Char} (h : ∀ c ∈ text, Text.isReadable c = true) :
    field name text = .ok (Field.ofText name text) := by
  have hs : Http.isSendable (Field.ofText name text).value = true := Text.isSendable_encode h
  rw [field]
  exact if_pos hs

/-- A link with a visible address can be sent and read. -/
theorem isTidy_of_visible {uri rel : String} (ne : uri.toList ≠ [])
    (visible : ∀ c ∈ uri.toList, Link.isVisible c = true)
    (known : rel ∈ [Link.relSelf, Link.relTrials, Link.relNextTrial, Link.relNext, Link.relPrev]) :
    Link.IsTidy { uri, rel } := by
  have hrel : ∀ r ∈ [Link.relSelf, Link.relTrials, Link.relNextTrial, Link.relNext, Link.relPrev],
      r.toList ≠ [] ∧ (r.toList.all fun c => c != '"' && !Text.isBlank c) = true :=
    Text.of_all (by decide)
  obtain ⟨hne, hrest⟩ := hrel rel known
  have hall : ∀ c ∈ rel.toList, c ≠ '"' ∧ Text.isBlank c = false := fun c hc => by
    simpa using List.all_eq_true.mp hrest c hc
  have huri : ∀ c ∈ uri.toList, (c ≠ '<' ∧ c ≠ '>') ∧ Text.isBlank c = false := fun c hc =>
    Link.of_isVisible (p := fun c => (c ≠ '<' ∧ c ≠ '>') ∧ Text.isBlank c = false) (by decide)
      (visible c hc)
  constructor
  case uri_ne_nil => exact ne
  case uri_open => exact fun c hc => (huri c hc).1
  case uri_trimmed => exact Text.isTrimmedBy_of_forall fun c hc => (huri c hc).2
  case rel_ne_nil => exact hne
  case rel_open => exact fun c hc => (hall c hc).1
  case rel_trimmed => exact Text.isTrimmedBy_of_forall fun c hc => (hall c hc).2

/-- A written link with a visible address is readable. -/
theorem isReadable_of_mem_text {uri rel : String}
    (visible : ∀ c ∈ uri.toList, Link.isVisible c = true)
    (known : rel ∈ [Link.relSelf, Link.relTrials, Link.relNextTrial, Link.relNext, Link.relPrev])
    {c : Char} (hc : c ∈ Link.text { uri, rel }) : Text.isReadable c = true := by
  have hrel : ∀ r ∈ [Link.relSelf, Link.relTrials, Link.relNextTrial, Link.relNext, Link.relPrev],
      r.toList.all Text.isReadable = true := Text.of_all (by decide)
  have hmid : ∀ c ∈ ['>', ';', ' ', 'r', 'e', 'l', '=', '"'], Text.isReadable c = true :=
    Text.of_all (by decide)
  have huri : ∀ c ∈ uri.toList, Text.isReadable c = true := fun c hc =>
    Link.of_isVisible (p := fun c => Text.isReadable c = true) (by decide) (visible c hc)
  simp only [Link.text, List.cons_append, List.mem_cons, List.mem_append] at hc
  rcases hc with rfl | (((hc | hc) | hc) | hc)
  · decide
  · exact huri c hc
  · exact hmid c (by simpa using hc)
  · exact List.all_eq_true.mp (hrel rel known) c hc
  · rcases hc with rfl | hc
    · decide
    · cases hc

theorem isReadable_of_mem_joined {links : List Link}
    (h : ∀ l ∈ links, ∀ c ∈ l.text, Text.isReadable c = true) {c : Char}
    (hc : c ∈ Link.joined links) : Text.isReadable c = true := by
  rcases Text.mem_of_mem_join hc with hc | ⟨text, ht, hc⟩
  · exact Text.of_all (p := fun c => Text.isReadable c = true) (by decide) c hc
  · obtain ⟨l, hl, rfl⟩ := List.mem_map.mp ht
    exact h l hl c hc

/-! ## 4. Paths -/

theorem toList_experimentPath (name : String) :
    (Store.experimentPath name).toList = "/experiments/".toList ++ name.toList := by
  rw [Store.experimentPath, Store.collectionPath, String.toList_append, String.toList_append]
  rfl

theorem toList_trialsPath (name : String) :
    (trialsPath name).toList = (Store.experimentPath name).toList ++ "/trials".toList := by
  rw [trialsPath, String.toList_append]

theorem toList_nextTrialPath (name : String) :
    (nextTrialPath name).toList = (Store.experimentPath name).toList ++ "/nextTrial".toList := by
  rw [nextTrialPath, String.toList_append]

theorem toList_trialPath (name : String) (id : Nat) :
    (trialPath name id).toList = (trialsPath name).toList ++ '/' :: Nat.toDigits 10 id := by
  have hid : (String.ofList (Nat.toDigits 10 id)).toList = Nat.toDigits 10 id :=
    String.toList_ofList
  rw [trialPath, String.toList_append, String.toList_append, hid, List.append_assoc]
  rfl

section Paths

variable {name : String} (wf : ExperimentName.isWellFormed name.toList = true)

include wf

theorem isPlain_experimentPath : ∀ c ∈ (Store.experimentPath name).toList,
    Text.isPlain c = true := by
  rw [toList_experimentPath]
  exact List.forall_mem_append.mpr
    ⟨Text.of_all (by decide), fun c hc => ExperimentName.isPlain_of_isWellFormed wf hc⟩

theorem isPlain_trialsPath : ∀ c ∈ (trialsPath name).toList, Text.isPlain c = true := by
  rw [toList_trialsPath]
  exact List.forall_mem_append.mpr ⟨isPlain_experimentPath wf, Text.of_all (by decide)⟩

theorem isPlain_nextTrialPath : ∀ c ∈ (nextTrialPath name).toList, Text.isPlain c = true := by
  rw [toList_nextTrialPath]
  exact List.forall_mem_append.mpr ⟨isPlain_experimentPath wf, Text.of_all (by decide)⟩

theorem isPlain_trialPath (id : Nat) : ∀ c ∈ (trialPath name id).toList,
    Text.isPlain c = true := by
  rw [toList_trialPath]
  refine List.forall_mem_append.mpr ⟨isPlain_trialsPath wf, fun c hc => ?_⟩
  rcases List.mem_cons.mp hc with rfl | hc
  · decide
  · exact Text.isPlain_of_mem_toDigits hc

end Paths

/-! ## 5. Dates -/

theorem isReadable_padded (width n : Nat) : ∀ c ∈ Text.padded width n,
    Text.isReadable c = true := by
  refine List.forall_mem_append.mpr ⟨fun c hc => ?_, fun c hc => ?_⟩
  · rw [List.eq_of_mem_replicate hc]
    decide
  · exact Text.isReadable_of_isPlain (Text.isPlain_of_mem_toDigits hc)

/-- An entry of a list of names, or nothing, is readable if the names are. -/
theorem isReadable_getD {names : List String}
    (h : ∀ s ∈ names, s.toList.all Text.isReadable = true) (n : Nat) :
    ∀ c ∈ (names.getD n "").toList, Text.isReadable c = true := by
  rw [List.getD_eq_getElem?_getD]
  cases hn : names[n]? with
  | none =>
    intro c hc
    cases hc
  | some s => exact List.all_eq_true.mp (h s (List.mem_of_getElem? hn))

/-- **Every date can be read.** -/
theorem isReadable_format (t : Instant) : ∀ c ∈ Calendar.format t, Text.isReadable c = true := by
  have hyear : ∀ year, ∀ c ∈ Calendar.yearText year, Text.isReadable c = true := by
    intro year
    unfold Calendar.yearText
    split
    · exact isReadable_padded _ _
    · intro c hc
      rcases List.mem_cons.mp hc with rfl | hc
      · split <;> decide
      · exact isReadable_padded _ _ c hc
  have hday : ∀ n, ∀ c ∈ Calendar.weekdayText n, Text.isReadable c = true := fun n =>
    isReadable_getD (Text.of_all (by decide)) n
  have hmonth : ∀ n, ∀ c ∈ Calendar.monthText n, Text.isReadable c = true := fun n =>
    isReadable_getD (Text.of_all (by decide)) (n - 1)
  unfold Calendar.format Calendar.timeText
  simp only
  simp only [List.forall_mem_append]
  repeat' with_reducible apply And.intro
  all_goals first
    | with_reducible exact hyear _
    | with_reducible exact hday _
    | with_reducible exact hmonth _
    | with_reducible exact isReadable_padded _ _
    | exact Text.of_all (by decide)

/-! ## 6. The header of an experiment -/

/-- What a client takes from the header of an experiment. -/
def experimentMeta (name : String) (lastModified : Instant) : ExperimentLinks where
  self := some (Store.experimentPath name)
  trials := some (trialsPath name)
  nextTrial := some (nextTrialPath name)
  lastModified := Calendar.parse? (Calendar.format lastModified)

section Experiments

variable {name : String} (wf : ExperimentName.isWellFormed name.toList = true)

include wf

/-- The links of an experiment: their addresses are visible, their relations known. -/
theorem visible_experimentLinks : ∀ l ∈ experimentLinks name, l.uri.toList ≠ [] ∧
    (∀ c ∈ l.uri.toList, Link.isVisible c = true) ∧
    l.rel ∈ [Link.relSelf, Link.relTrials, Link.relNextTrial, Link.relNext, Link.relPrev] := by
  intro l hl
  simp only [experimentLinks, List.mem_cons, List.not_mem_nil, or_false] at hl
  rcases hl with rfl | rfl | rfl
  · refine ⟨?_, fun c hc => Link.isVisible_of_isPlain (isPlain_experimentPath wf c hc), by simp⟩
    simp [toList_experimentPath]
  · refine ⟨?_, fun c hc => Link.isVisible_of_isPlain (isPlain_trialsPath wf c hc), by simp⟩
    simp [toList_trialsPath]
  · refine ⟨?_, fun c hc => Link.isVisible_of_isPlain (isPlain_nextTrialPath wf c hc), by simp⟩
    simp [toList_nextTrialPath]

/-- **The header of an experiment can be sent.** -/
theorem experimentFields_eq (lastModified : Instant) : experimentFields name lastModified = .ok
    [Field.ofText "link" (Link.joined (experimentLinks name)),
      Field.ofText "last-modified" (Calendar.format lastModified)] := by
  have hlinks : ∀ c ∈ Link.joined (experimentLinks name), Text.isReadable c = true := fun c hc =>
    isReadable_of_mem_joined (fun l hl c hc => by
      obtain ⟨-, visible, known⟩ := visible_experimentLinks wf l hl
      exact isReadable_of_mem_text visible known hc) hc
  have hne : (experimentLinks name).isEmpty = false := rfl
  rw [experimentFields, linkField, hne, field_eq "link" hlinks,
    field_eq "last-modified" (isReadable_format lastModified)]
  rfl

/-- So can the location of an experiment. -/
theorem field_experimentPath : field "location" (Store.experimentPath name).toList =
    .ok (Field.ofText "location" (Store.experimentPath name).toList) :=
  field_eq _ fun c hc => Text.isReadable_of_isPlain (isPlain_experimentPath wf c hc)

/-- And the location of a trial. -/
theorem field_trialPath (id : Nat) : field "location" (trialPath name id).toList =
    .ok (Field.ofText "location" (trialPath name id).toList) :=
  field_eq _ fun c hc => Text.isReadable_of_isPlain (isPlain_trialPath wf id c hc)

end Experiments

/-! ## 7. What a client takes from a header -/

/-- A known relation stands for itself alone. -/
theorem relations_eq {uri rel : String}
    (known : rel ∈ [Link.relSelf, Link.relTrials, Link.relNextTrial, Link.relNext, Link.relPrev]) :
    Link.relations { uri, rel } = [rel] := by
  have words : ∀ r ∈ [Link.relSelf, Link.relTrials, Link.relNextTrial, Link.relNext, Link.relPrev],
      (Text.wordsBy Text.isAsciiBlank r.toList).map String.ofList = [r] := by decide
  exact words rel known

/-- The links of a field are read as they were written. -/
theorem relationsOf_of_joined {fields : List Field} {links : List Link}
    (field : Http.valuesOf fields "link" = [Utf8.encode (Link.joined links)])
    (visible : ∀ l ∈ links, l.uri.toList ≠ [] ∧ (∀ c ∈ l.uri.toList, Link.isVisible c = true) ∧
      l.rel ∈ [Link.relSelf, Link.relTrials, Link.relNextTrial, Link.relNext, Link.relPrev]) :
    relationsOf fields = links.map fun l => (l.rel, l.uri) := by
  have tidy : ∀ l ∈ links, l.IsTidy := fun l hl => by
    obtain ⟨ne, vis, known⟩ := visible l hl
    exact isTidy_of_visible ne vis known
  have readable : ∀ c ∈ Link.joined links, Text.isReadable c = true := fun c hc =>
    isReadable_of_mem_joined (fun l hl c hc => by
      obtain ⟨-, vis, known⟩ := visible l hl
      exact isReadable_of_mem_text vis known hc) hc
  have hlinks : linksOf fields = links := by
    rw [linksOf, field, List.filterMap_cons, Text.text?_encode readable]
    simp only [List.filterMap_nil, List.flatMap_cons, List.flatMap_nil, List.append_nil]
    exact Link.parseLinks_joined tidy
  rw [relationsOf, hlinks, List.map_eq_flatMap]
  refine List.flatMap_congr fun l hl => ?_
  rw [relations_eq (visible l hl).2.2]
  rfl

theorem firstText?_of_valuesOf {fields : List Field} {name : String} {text : List Char}
    (h : Http.valuesOf fields name = [Utf8.encode text])
    (readable : ∀ c ∈ text, Text.isReadable c = true) :
    firstText? fields name = some text := by
  rw [firstText?, Http.valueOf?, h, List.head?_cons, Option.bind_some, Text.text?_encode readable]

/-- The header of an answer with an experiment. -/
def experimentHeader (name : String) (lastModified : Instant) (location : List Field) :
    List Field :=
  Http.contentType Http.jsonType ::
    ([Field.ofText "link" (Link.joined (experimentLinks name)),
      Field.ofText "last-modified" (Calendar.format lastModified)] ++ location)

section ExperimentHeader

variable {name : String} (lastModified : Instant) {location : List Field}
  (new : location = [] ∨
    location = [Field.ofText "location" (Store.experimentPath name).toList])

include new

theorem valuesOf_link : Http.valuesOf (experimentHeader name lastModified location) "link" =
    [Utf8.encode (Link.joined (experimentLinks name))] := by
  unfold experimentHeader
  rcases new with rfl | rfl <;>
    simp +decide only [Http.contentType, List.cons_append, List.nil_append, Http.valuesOf_cons,
      Http.valuesOf_nil, if_true, if_false]

theorem valuesOf_lastModified :
    Http.valuesOf (experimentHeader name lastModified location) "last-modified" =
      [Utf8.encode (Calendar.format lastModified)] := by
  unfold experimentHeader
  rcases new with rfl | rfl <;>
    simp +decide only [Http.contentType, List.cons_append, List.nil_append, Http.valuesOf_cons,
      Http.valuesOf_nil, if_true, if_false]

variable (wf : ExperimentName.isWellFormed name.toList = true)

include wf

/-- **A client takes the links and the time of an experiment from its header**, with or without the
    location of a new one. -/
theorem extract_experimentFields : ExperimentLinks.extract (Http.contentType Http.jsonType ::
    ([Field.ofText "link" (Link.joined (experimentLinks name)),
      Field.ofText "last-modified" (Calendar.format lastModified)] ++ location)) =
    experimentMeta name lastModified := by
  show ExperimentLinks.extract (experimentHeader name lastModified location) = _
  have htime := firstText?_of_valuesOf (valuesOf_lastModified lastModified new)
    (isReadable_format lastModified)
  rw [extract_experiment, lastLink?, lastLink?, lastLink?, lastModified?, htime,
    relationsOf_of_joined (valuesOf_link lastModified new) (visible_experimentLinks wf)]
  -- the location does not matter beside the link to the experiment itself
  simp +decide only [experimentLinks, List.map_cons, List.map_nil, List.filter_cons,
    List.filter_nil, if_true, if_false, List.getLast?_singleton, Option.map_some, Option.some_or,
    Option.bind_some]
  rfl

end ExperimentHeader

/-- **A client takes the report link of a trial from its location.** -/
theorem extract_location {fields : List Field} {uri : String}
    (h : Http.valuesOf fields "location" = [Utf8.encode uri.toList]) (ne : uri.toList ≠ [])
    (plain : ∀ c ∈ uri.toList, Text.isPlain c = true) :
    TrialLinks.extract fields = { report := some uri } := by
  have htext := firstText?_of_valuesOf h fun c hc => Text.isReadable_of_isPlain (plain c hc)
  rw [extract_trial, location?, htext, Option.filter_some, if_pos (by simpa using ne),
    Option.map_some, String.ofList_toList]

/-! ## 8. Pages -/

theorem isQueryChar_pair {name : String} (h : ∀ c ∈ name.toList, Text.isPlain c = true)
    (n : UInt32) : ∀ part ∈ PageQuery.pair name n, ∀ c ∈ part, Text.isQueryChar c = true := by
  intro part hp c hc
  unfold PageQuery.pair at hp
  split at hp
  · cases hp
  · rw [List.mem_singleton.mp hp] at hc
    have hplain : Text.isPlain c = true → Text.isQueryChar c = true := fun hc => by
      simp [Text.isQueryChar, hc]
    rcases List.mem_append.mp hc with hc | hc
    · exact hplain (h c hc)
    · rcases List.mem_cons.mp hc with rfl | hc
      · decide
      · exact hplain (Text.isPlain_of_mem_toDigits hc)

theorem isQueryChar_encode (q : PageQuery) : ∀ c ∈ q.encode, Text.isQueryChar c = true := by
  intro c hc
  rcases Text.mem_of_mem_join hc with hc | ⟨part, hp, hc⟩
  · rw [List.mem_singleton.mp hc]
    decide
  · rcases List.mem_append.mp hp with hp | hp
    · exact isQueryChar_pair (Text.of_all (by decide)) q.limit part hp c hc
    · exact isQueryChar_pair (Text.of_all (by decide)) q.offset part hp c hc

theorem isVisible_pagePath (q : PageQuery) : ∀ c ∈ (pagePath q).toList,
    Link.isVisible c = true := by
  intro c hc
  unfold pagePath at hc
  split at hc
  · exact Text.of_all (p := fun c => Link.isVisible c = true) (by decide) c hc
  · rename_i hq
    have hid : (String.ofList q.encode).toList = q.encode := String.toList_ofList
    rw [String.toList_append, String.toList_append, hid] at hc
    rcases List.mem_append.mp hc with hc | hc
    · exact Text.of_all (p := fun c => Link.isVisible c = true) (by decide) c hc
    · exact Text.of_isQueryChar (p := fun c => Link.isVisible c = true) (by decide)
        (isQueryChar_encode q c hc)

theorem pagePath_ne_nil (q : PageQuery) : (pagePath q).toList ≠ [] := by
  have h : Store.collectionPath.toList ≠ [] := by decide
  unfold pagePath
  split
  · exact h
  · rw [String.toList_append, String.toList_append]
    simp [h]

/-- What a client takes from the header of a page. -/
def pageMeta (p : Store.Page) : PageLinks where
  next := p.next.map pagePath
  prev := p.prev.map pagePath

theorem visible_pageLinks (p : Store.Page) : ∀ l ∈ pageLinks p, l.uri.toList ≠ [] ∧
    (∀ c ∈ l.uri.toList, Link.isVisible c = true) ∧
    l.rel ∈ [Link.relSelf, Link.relTrials, Link.relNextTrial, Link.relNext, Link.relPrev] := by
  intro l hl
  simp only [pageLinks, List.mem_append, Option.mem_toList, Option.map_eq_some_iff] at hl
  rcases hl with ⟨q, -, rfl⟩ | ⟨q, -, rfl⟩
  · exact ⟨pagePath_ne_nil q, isVisible_pagePath q, by simp⟩
  · exact ⟨pagePath_ne_nil q, isVisible_pagePath q, by simp⟩

theorem extract_pageLinks {fields : List Field} {p : Store.Page}
    (h : relationsOf fields = (pageLinks p).map fun l => (l.rel, l.uri)) :
    PageLinks.extract fields = pageMeta p := by
  rw [extract_page, lastLink?, lastLink?, h]
  unfold pageLinks pageMeta
  cases p.next <;> cases p.prev <;>
    simp +decide only [Option.map_none, Option.map_some, Option.toList_none, Option.toList_some,
      List.nil_append, List.append_nil, List.cons_append, List.map_nil, List.map_cons,
      List.filter_cons, List.filter_nil, if_true, if_false, List.getLast?_nil,
      List.getLast?_singleton]

/-- **A client takes the neighbours of a page from its header**, which can be sent. -/
theorem exists_linkField (p : Store.Page) : ∃ fields, linkField (pageLinks p) = .ok fields ∧
    PageLinks.extract (Http.contentType Http.jsonType :: fields) = pageMeta p := by
  have readable : ∀ c ∈ Link.joined (pageLinks p), Text.isReadable c = true := fun c hc =>
    isReadable_of_mem_joined (fun l hl c hc => by
      obtain ⟨-, visible, known⟩ := visible_pageLinks p l hl
      exact isReadable_of_mem_text visible known hc) hc
  by_cases hl : (pageLinks p).isEmpty
  · refine ⟨[], by rw [linkField, if_pos hl], extract_pageLinks ?_⟩
    rw [List.isEmpty_iff.mp hl]
    decide
  · have hf : linkField (pageLinks p) =
        .ok [Field.ofText "link" (Link.joined (pageLinks p))] := by
      rw [linkField, if_neg hl, field_eq "link" readable]
      rfl
    refine ⟨_, hf, extract_pageLinks (relationsOf_of_joined ?_ (visible_pageLinks p))⟩
    simp +decide only [Http.contentType, Http.valuesOf_cons, Http.valuesOf_nil, if_true, if_false]

end Server

end TrialProtocol
