import TrialProtocol.Metadata

/-!
# What a header means

A resource takes from the notices of a header, one after the other, what concerns it. In the end each
of its parts is decided by one place of the header: by the last link with a relation of its own, by the
first location or by the first time of change. So it does not matter where among fields of other names
these stand, nor what else the header says.

* `foldl_eq_getLast?`: what was set again and again is what was set last.
* `extract_experiment`, `extract_page`, `extract_trial`: each resource's parts.
* `hasOneMeaning`: these, and which changes of a header change nothing.
-/

namespace TrialProtocol

open Http (Field)

/-! ## 1. Names and relations -/

namespace Text

theorem eqIgnoreCase_iff {a b : List Char} :
    eqIgnoreCase a b = true ↔ a.map Char.toLower = b.map Char.toLower :=
  beq_iff_eq

/-- What matches two texts makes them match each other. -/
theorem eqIgnoreCase_of_both {a b c : List Char} (ha : eqIgnoreCase c a = true)
    (hb : eqIgnoreCase c b = true) : eqIgnoreCase a b = true :=
  eqIgnoreCase_iff.mpr ((eqIgnoreCase_iff.mp ha).symm.trans (eqIgnoreCase_iff.mp hb))

theorem eqIgnoreCase_comm (a b : List Char) : eqIgnoreCase a b = eqIgnoreCase b a :=
  Bool.eq_iff_iff.mpr (by rw [eqIgnoreCase_iff, eqIgnoreCase_iff, eq_comm])

end Text

/-- A relation is only one of two different ones. -/
theorem Link.sameRelation_eq_false {a b rel : String} (ne : sameRelation a b = false)
    (h : sameRelation a rel = true) : sameRelation b rel = false := by
  refine Bool.eq_false_iff.mpr fun hb => ?_
  rw [sameRelation, Text.eqIgnoreCase_comm] at h hb
  rw [sameRelation, Text.eqIgnoreCase_of_both h hb] at ne
  cases ne

namespace Http

theorem valuesOf_append (before after : List Field) (name : String) :
    valuesOf (before ++ after) name = valuesOf before name ++ valuesOf after name := by
  rw [valuesOf, List.filter_append, List.map_append]
  rfl

theorem valuesOf_cons_of_named {f : Field} {name : String} (h : f.isNamed name = true)
    (fields : List Field) : valuesOf (f :: fields) name = f.value :: valuesOf fields name := by
  rw [valuesOf, List.filter_cons, if_pos h]
  rfl

theorem valuesOf_cons_of_not_named {f : Field} {name : String} (h : f.isNamed name = false)
    (fields : List Field) : valuesOf (f :: fields) name = valuesOf fields name := by
  rw [valuesOf, List.filter_cons, if_neg (by simp [h])]
  rfl

/-- A field has only one of two different names. -/
theorem Field.isNamed_eq_false {f : Field} {a b : String}
    (ne : Text.eqIgnoreCase a.toList b.toList = false) (h : f.isNamed a = true) :
    f.isNamed b = false := by
  refine Bool.eq_false_iff.mpr fun hb => ?_
  rw [Text.eqIgnoreCase_of_both h hb] at ne
  cases ne

/-- **Fields in another order**, in which those of one name follow each other as before. -/
inductive Reordered : List Field → List Field → Prop
  | refl (fields : List Field) : Reordered fields fields
  | swap {f g : Field} (different : f.isNamed g.name = false) (fields : List Field) :
      Reordered (f :: g :: fields) (g :: f :: fields)
  | cons (f : Field) {fields fields' : List Field} (rest : Reordered fields fields') :
      Reordered (f :: fields) (f :: fields')
  | trans {fields fields' fields'' : List Field} (first : Reordered fields fields')
      (second : Reordered fields' fields'') : Reordered fields fields''

theorem Reordered.valuesOf_eq {fields fields' : List Field} (h : Reordered fields fields')
    (name : String) : valuesOf fields name = valuesOf fields' name := by
  induction h with
  | refl => rfl
  | @swap f g different fields =>
    cases hf : f.isNamed name with
    | false =>
      rw [valuesOf_cons_of_not_named hf]
      cases hg : g.isNamed name with
      | false => rw [valuesOf_cons_of_not_named hg, valuesOf_cons_of_not_named hg,
          valuesOf_cons_of_not_named hf]
      | true => rw [valuesOf_cons_of_named hg, valuesOf_cons_of_named hg,
          valuesOf_cons_of_not_named hf]
    | true =>
      have hg : g.isNamed name = false := by
        refine Bool.eq_false_iff.mpr fun hg => ?_
        rw [Field.isNamed, Text.eqIgnoreCase_comm] at hf hg
        rw [Field.isNamed, Text.eqIgnoreCase_of_both hf hg] at different
        cases different
      rw [valuesOf_cons_of_named hf, valuesOf_cons_of_not_named hg,
        valuesOf_cons_of_not_named hg, valuesOf_cons_of_named hf]
  | cons f _ ih =>
    cases hf : f.isNamed name with
    | false => rw [valuesOf_cons_of_not_named hf, valuesOf_cons_of_not_named hf, ih]
    | true => rw [valuesOf_cons_of_named hf, valuesOf_cons_of_named hf, ih]
  | trans _ _ first second => exact first.trans second

end Http

/-! ## 2. The places of a header that count -/

/-- The links of all readable link fields, in order. -/
def linksOf (fields : List Field) : List Link :=
  ((Http.valuesOf fields "link").filterMap Http.text?).flatMap Link.parseLinks

/-- The relations of these links, each with the address of its link. -/
def relationsOf (fields : List Field) : List (String × String) :=
  (linksOf fields).flatMap fun l => l.relations.map fun rel => (rel, l.uri)

/-- Whether a relation is a known one. -/
def isKnown (known : List String) (rel : String) : Bool :=
  known.any (Link.sameRelation · rel)

/-- The address of the last link with a known relation. -/
def lastLink? (known : List String) (fields : List Field) : Option String :=
  ((relationsOf fields).filter fun r => isKnown known r.1).getLast?.map (·.2)

/-- The first location, if it can be read and is not empty. -/
def location? (fields : List Field) : Option String :=
  ((firstText? fields "location").filter fun text => !text.isEmpty).map String.ofList

/-- The first time of change, if it can be read and is one. -/
def lastModified? (fields : List Field) : Option Instant :=
  (firstText? fields "last-modified").bind Calendar.parse?

theorem locationNotice_eq (fields : List Field) :
    locationNotice fields = ((location? fields).map Notice.location).toList := by
  unfold locationNotice location?
  cases firstText? fields "location" with
  | none => rfl
  | some text => cases text <;> rfl

theorem lastModifiedNotice_eq (fields : List Field) :
    lastModifiedNotice fields = ((lastModified? fields).map Notice.lastModified).toList := by
  unfold lastModifiedNotice lastModified?
  cases (firstText? fields "last-modified").bind Calendar.parse? <;> rfl

/-- **All notices of a header.** -/
theorem notices_eq (fields : List Field) :
    notices fields = ((location? fields).map Notice.location).toList ++
      ((lastModified? fields).map Notice.lastModified).toList ++
      (relationsOf fields).map fun r => .link r.1 r.2 := by
  have hlinks : (linksOf fields).flatMap linkNotices =
      (relationsOf fields).map fun r => .link r.1 r.2 := by
    rw [relationsOf, List.map_flatMap]
    simp only [List.map_map]
    rfl
  rw [notices, ← linksOf, hlinks, locationNotice_eq, lastModifiedNotice_eq]

/-! ## 3. What was set last -/

/-- **A part that was set again and again is what it was set to last.** -/
theorem foldl_eq_getLast? {σ α β : Type} {get : σ → Option β} {step : σ → α → σ}
    {pick : α → Option β} (set : ∀ m a, get (step m a) = (pick a).or (get m)) (xs : List α)
    (m : σ) : get (xs.foldl step m) = (xs.filterMap pick).getLast?.or (get m) := by
  induction xs generalizing m with
  | nil => rfl
  | cons a xs ih =>
    rw [List.foldl_cons, ih, set, List.filterMap_cons]
    cases pick a with
    | none => rfl
    | some b =>
      rw [List.getLast?_cons]
      cases (xs.filterMap pick).getLast? <;> rfl

/-- The address that a notice gives as a location. -/
def Notice.location? : Notice → Option String
  | .location uri => some uri
  | _ => none

/-- The time that a notice gives. -/
def Notice.lastModified? : Notice → Option Instant
  | .lastModified time => some time
  | _ => none

/-- The address that a notice gives for a known relation. -/
def Notice.link? (known : List String) : Notice → Option String
  | .link rel uri => if isKnown known rel then some uri else none
  | _ => none

/-- **Links come last in a header, before them the time of change and first of all the location.** -/
theorem getLast?_filterMap_notices {β : Type} (pick : Notice → Option β) (fields : List Field) :
    ((notices fields).filterMap pick).getLast? =
      ((relationsOf fields).filterMap fun r => pick (.link r.1 r.2)).getLast?.or
        (((lastModified? fields).bind fun time => pick (.lastModified time)).or
          ((location? fields).bind fun uri => pick (.location uri))) := by
  have hone : ∀ {α : Type} (x : Option α) (f : α → Notice),
      ((x.map f).toList.filterMap pick).getLast? = x.bind fun a => pick (f a) := by
    intro α x f
    cases x with
    | none => rfl
    | some a => cases h : pick (f a) <;> simp [h]
  rw [notices_eq, List.filterMap_append, List.filterMap_append, List.getLast?_append,
    List.getLast?_append, hone, hone, List.filterMap_map]
  rfl

theorem getLast?_filterMap_relations (known : List String) (fields : List Field) :
    ((relationsOf fields).filterMap fun r => Notice.link? known (.link r.1 r.2)).getLast? =
      lastLink? known fields := by
  rw [lastLink?, ← List.getLast?_map, ← List.filterMap_eq_map, List.filterMap_filter]
  rfl

theorem getLast?_filterMap_link (known : List String) (fields : List Field) :
    ((notices fields).filterMap (Notice.link? known)).getLast? = lastLink? known fields := by
  rw [getLast?_filterMap_notices, getLast?_filterMap_relations]
  simp [Notice.link?]

theorem getLast?_filterMap_location (fields : List Field) :
    ((notices fields).filterMap Notice.location?).getLast? = location? fields := by
  have hlinks : ((relationsOf fields).filterMap fun r =>
      Notice.location? (.link r.1 r.2)) = [] :=
    List.filterMap_eq_nil_iff.mpr fun _ _ => rfl
  rw [getLast?_filterMap_notices, hlinks]
  cases location? fields <;> simp [Notice.location?]

theorem getLast?_filterMap_lastModified (fields : List Field) :
    ((notices fields).filterMap Notice.lastModified?).getLast? = lastModified? fields := by
  have hlinks : ((relationsOf fields).filterMap fun r =>
      Notice.lastModified? (.link r.1 r.2)) = [] :=
    List.filterMap_eq_nil_iff.mpr fun _ _ => rfl
  rw [getLast?_filterMap_notices, hlinks]
  cases lastModified? fields <;> simp [Notice.lastModified?]

/-- A link wins over the location. -/
theorem getLast?_filterMap_link_or_location (known : List String) (fields : List Field) :
    ((notices fields).filterMap fun n => (n.link? known).or n.location?).getLast? =
      (lastLink? known fields).or (location? fields) := by
  have hlinks : ((relationsOf fields).filterMap fun r =>
      (Notice.link? known (.link r.1 r.2)).or (Notice.location? (.link r.1 r.2))).getLast? =
      lastLink? known fields := by
    simp only [Notice.location?, Option.or_none]
    exact getLast?_filterMap_relations known fields
  rw [getLast?_filterMap_notices, hlinks]
  cases location? fields <;> simp [Notice.link?, Notice.location?]

/-! ## 4. The parts of each resource -/

/-- **What one notice does to an experiment.** A relation is at most one of the three. -/
theorem ExperimentLinks.receive_eq (m : ExperimentLinks) (n : Notice) : m.receive n =
    { self := ((n.link? [Link.relSelf]).or n.location?).or m.self
      trials := (n.link? [Link.relTrials]).or m.trials
      nextTrial := (n.link? [Link.relNextTrial]).or m.nextTrial
      lastModified := n.lastModified?.or m.lastModified } := by
  cases n with
  | location uri => rfl
  | lastModified time => rfl
  | link rel uri =>
    simp only [receive, Notice.link?, Notice.location?, Notice.lastModified?, isKnown,
      List.any_cons, List.any_nil, Bool.or_false]
    split
    case isTrue hself =>
      rw [Link.sameRelation_eq_false (b := Link.relTrials) (by decide) hself,
        Link.sameRelation_eq_false (b := Link.relNextTrial) (by decide) hself]
      rfl
    case isFalse =>
      split
      case isTrue htrials =>
        rw [Link.sameRelation_eq_false (b := Link.relNextTrial) (by decide) htrials]
        rfl
      case isFalse => split <;> rfl

/-- **What one notice does to a page.** -/
theorem PageLinks.receive_eq (m : PageLinks) (n : Notice) : m.receive n =
    { next := (n.link? [Link.relNext]).or m.next
      prev := (n.link? [Link.relPrev, Link.relPrevious]).or m.prev } := by
  cases n with
  | location uri => rfl
  | lastModified time => rfl
  | link rel uri =>
    simp only [receive, Notice.link?, isKnown, List.any_cons, List.any_nil, Bool.or_false]
    split
    case isTrue hnext =>
      rw [Link.sameRelation_eq_false (b := Link.relPrev) (by decide) hnext,
        Link.sameRelation_eq_false (b := Link.relPrevious) (by decide) hnext]
      rfl
    case isFalse => split <;> rfl

section Receive

variable (m : ExperimentLinks) (p : PageLinks) (n : Notice)

theorem self_receive :
    (m.receive n).self = ((n.link? [Link.relSelf]).or n.location?).or m.self := by
  rw [m.receive_eq]

theorem trials_receive : (m.receive n).trials = (n.link? [Link.relTrials]).or m.trials := by
  rw [m.receive_eq]

theorem nextTrial_receive :
    (m.receive n).nextTrial = (n.link? [Link.relNextTrial]).or m.nextTrial := by
  rw [m.receive_eq]

theorem lastModified_receive :
    (m.receive n).lastModified = n.lastModified?.or m.lastModified := by
  rw [m.receive_eq]

theorem next_receive : (p.receive n).next = (n.link? [Link.relNext]).or p.next := by
  rw [p.receive_eq]

theorem prev_receive :
    (p.receive n).prev = (n.link? [Link.relPrev, Link.relPrevious]).or p.prev := by
  rw [p.receive_eq]

end Receive

theorem report_receive (m : TrialLinks) (n : Notice) :
    (m.receive n).report = n.location?.or m.report := by
  cases n <;> rfl

section Extract

variable (fields : List Field)

/-- **What an experiment keeps of a header.** -/
theorem extract_experiment : ExperimentLinks.extract fields =
    { self := (lastLink? [Link.relSelf] fields).or (location? fields)
      trials := lastLink? [Link.relTrials] fields
      nextTrial := lastLink? [Link.relNextTrial] fields
      lastModified := lastModified? fields } := by
  have hself := foldl_eq_getLast? self_receive (notices fields) {}
  have htrials := foldl_eq_getLast? trials_receive (notices fields) {}
  have hnext := foldl_eq_getLast? nextTrial_receive (notices fields) {}
  have htime := foldl_eq_getLast? lastModified_receive (notices fields) {}
  rw [getLast?_filterMap_link_or_location, Option.or_none] at hself
  rw [getLast?_filterMap_link, Option.or_none] at htrials hnext
  rw [getLast?_filterMap_lastModified, Option.or_none] at htime
  rw [← hself, ← htrials, ← hnext, ← htime]
  rfl

/-- **What a page keeps of a header.** -/
theorem extract_page : PageLinks.extract fields =
    { next := lastLink? [Link.relNext] fields
      prev := lastLink? [Link.relPrev, Link.relPrevious] fields } := by
  have hnext := foldl_eq_getLast? next_receive (notices fields) {}
  have hprev := foldl_eq_getLast? prev_receive (notices fields) {}
  rw [getLast?_filterMap_link, Option.or_none] at hnext hprev
  rw [← hnext, ← hprev]
  rfl

/-- **What a trial keeps of a header.** -/
theorem extract_trial : TrialLinks.extract fields = { report := location? fields } := by
  have hreport := foldl_eq_getLast? report_receive (notices fields) {}
  rw [getLast?_filterMap_location, Option.or_none] at hreport
  rw [← hreport]
  rfl

end Extract

/-! ## 5. Changes that change nothing -/

theorem location?_congr {fields fields' : List Field}
    (h : Http.valuesOf fields "location" = Http.valuesOf fields' "location") :
    location? fields = location? fields' := by
  rw [location?, firstText?, Http.valueOf?, h]
  rfl

theorem lastModified?_congr {fields fields' : List Field}
    (h : Http.valuesOf fields "last-modified" = Http.valuesOf fields' "last-modified") :
    lastModified? fields = lastModified? fields' := by
  rw [lastModified?, firstText?, Http.valueOf?, h]
  rfl

theorem lastLink?_congr {fields fields' : List Field}
    (h : Http.valuesOf fields "link" = Http.valuesOf fields' "link") (known : List String) :
    lastLink? known fields = lastLink? known fields' := by
  rw [lastLink?, relationsOf, linksOf, h]
  rfl

/-- **A field that says nothing** to whom only some relations are known: it has another name, or it is
    a link field that cannot be read, or one of unknown relations alone. -/
inductive Http.Field.IsSilent (known : List String) (f : Field) : Prop
  | other (location : f.isNamed "location" = false)
      (lastModified : f.isNamed "last-modified" = false) (link : f.isNamed "link" = false)
  | unreadable (link : f.isNamed "link" = true) (unread : Http.text? f.value = none)
  | unknown (link : f.isNamed "link" = true) {text : List Char}
      (read : Http.text? f.value = some text)
      (foreign : ∀ l ∈ Link.parseLinks text, ∀ rel ∈ l.relations, isKnown known rel = false)

theorem isKnown_eq_false {known few : List String} (sub : ∀ k ∈ few, k ∈ known) {rel : String}
    (h : isKnown known rel = false) : isKnown few rel = false := by
  rw [isKnown, List.any_eq_false] at h ⊢
  exact fun k hk => h k (sub k hk)

/-- What says nothing of many relations says nothing of a few. -/
theorem Http.Field.IsSilent.mono {known few : List String} {f : Field} (h : f.IsSilent known)
    (sub : ∀ k ∈ few, k ∈ known) : f.IsSilent few := by
  cases h with
  | other location lastModified link => exact .other location lastModified link
  | unreadable link unread => exact .unreadable link unread
  | unknown link read foreign =>
    exact .unknown link read fun l hl rel hrel => isKnown_eq_false sub (foreign l hl rel hrel)

theorem relationsOf_append (before after : List Field) :
    relationsOf (before ++ after) = relationsOf before ++ relationsOf after := by
  rw [relationsOf, linksOf, Http.valuesOf_append, List.filterMap_append, List.flatMap_append,
    List.flatMap_append]
  rfl

section Silent

variable {known : List String} {f : Field} (silent : f.IsSilent known)

include silent

/-- A silent field has no known relation. -/
theorem filter_relationsOf_singleton :
    (relationsOf [f]).filter (fun r => isKnown known r.1) = [] := by
  cases silent with
  | other _ _ link =>
    rw [relationsOf, linksOf, Http.valuesOf_cons_of_not_named link]
    rfl
  | unreadable link unread =>
    rw [relationsOf, linksOf, Http.valuesOf_cons_of_named link, List.filterMap_cons, unread]
    rfl
  | @unknown link text read foreign =>
    rw [relationsOf, linksOf, Http.valuesOf_cons_of_named link, List.filterMap_cons, read]
    refine List.filter_eq_nil_iff.mpr fun r hr => ?_
    obtain ⟨l, hl, hr⟩ := List.mem_flatMap.mp hr
    obtain ⟨rel, hrel, rfl⟩ := List.mem_map.mp hr
    have hmem : l ∈ Link.parseLinks text := by simpa [Http.valuesOf] using hl
    rw [foreign l hmem rel hrel]
    exact Bool.false_ne_true

variable (before after : List Field)

theorem lastLink?_of_isSilent :
    lastLink? known (before ++ f :: after) = lastLink? known (before ++ after) := by
  have hparts : before ++ f :: after = before ++ ([f] ++ after) := rfl
  rw [lastLink?, lastLink?, hparts, relationsOf_append, relationsOf_append, relationsOf_append,
    List.filter_append, List.filter_append, List.filter_append,
    filter_relationsOf_singleton silent, List.nil_append]

theorem isNamed_of_isSilent :
    f.isNamed "location" = false ∧ f.isNamed "last-modified" = false := by
  cases silent with
  | other location lastModified => exact ⟨location, lastModified⟩
  | unreadable link | unknown link =>
    exact ⟨Http.Field.isNamed_eq_false (by decide) link,
      Http.Field.isNamed_eq_false (by decide) link⟩

theorem location?_of_isSilent :
    location? (before ++ f :: after) = location? (before ++ after) :=
  location?_congr <| by
    rw [Http.valuesOf_append, Http.valuesOf_append,
      Http.valuesOf_cons_of_not_named (isNamed_of_isSilent silent).1]

theorem lastModified?_of_isSilent :
    lastModified? (before ++ f :: after) = lastModified? (before ++ after) :=
  lastModified?_congr <| by
    rw [Http.valuesOf_append, Http.valuesOf_append,
      Http.valuesOf_cons_of_not_named (isNamed_of_isSilent silent).2]

end Silent

/-! ## 6. The meaning of a header -/

/-- The relations that an experiment knows. -/
def ExperimentLinks.known : List String :=
  [Link.relSelf, Link.relTrials, Link.relNextTrial]

/-- The relations that a page knows. -/
def PageLinks.known : List String :=
  [Link.relNext, Link.relPrev, Link.relPrevious]

/-- **A header has one meaning** for each kind of resource, and keeps it under changes that are none of
    its business. -/
structure HasOneMeaning (fields : List Field) : Prop where
  /-- An experiment is where its last link to itself says, or else where the location says. -/
  experiment : ExperimentLinks.extract fields =
    { self := (lastLink? [Link.relSelf] fields).or (location? fields)
      trials := lastLink? [Link.relTrials] fields
      nextTrial := lastLink? [Link.relNextTrial] fields
      lastModified := lastModified? fields }
  /-- The page before has two names. -/
  page : PageLinks.extract fields =
    { next := lastLink? [Link.relNext] fields
      prev := lastLink? [Link.relPrev, Link.relPrevious] fields }
  /-- A trial has nothing but a location. -/
  trial : TrialLinks.extract fields = { report := location? fields }
  /-- Fields of different names may stand in any order. -/
  reordered : ∀ fields', Http.Reordered fields fields' →
    ExperimentLinks.extract fields' = ExperimentLinks.extract fields ∧
      PageLinks.extract fields' = PageLinks.extract fields ∧
      TrialLinks.extract fields' = TrialLinks.extract fields
  /-- A field that says nothing to a resource may stand anywhere. -/
  silent : ∀ before f after, fields = before ++ after →
    (f.IsSilent ExperimentLinks.known →
      ExperimentLinks.extract (before ++ f :: after) = ExperimentLinks.extract fields) ∧
    (f.IsSilent PageLinks.known →
      PageLinks.extract (before ++ f :: after) = PageLinks.extract fields) ∧
    (f.IsSilent [] → TrialLinks.extract (before ++ f :: after) = TrialLinks.extract fields)

theorem hasOneMeaning (fields : List Field) : HasOneMeaning fields where
  experiment := extract_experiment fields
  page := extract_page fields
  trial := extract_trial fields
  reordered fields' h := by
    have hlocation := location?_congr (h.valuesOf_eq "location")
    have htime := lastModified?_congr (h.valuesOf_eq "last-modified")
    have hlink := lastLink?_congr (h.valuesOf_eq "link")
    refine ⟨?_, ?_, ?_⟩
    · simp only [extract_experiment, hlocation, htime, hlink]
    · simp only [extract_page, hlink]
    · simp only [extract_trial, hlocation]
  silent before f after := by
    rintro rfl
    refine ⟨fun silent => ?_, fun silent => ?_, fun silent => ?_⟩
    · have hlink : ∀ rel ∈ ExperimentLinks.known,
          lastLink? [rel] (before ++ f :: after) = lastLink? [rel] (before ++ after) :=
        fun rel hrel => lastLink?_of_isSilent
          (silent.mono fun k hk => List.mem_singleton.mp hk ▸ hrel) before after
      rw [extract_experiment, extract_experiment, location?_of_isSilent silent,
        lastModified?_of_isSilent silent, hlink Link.relSelf (by decide),
        hlink Link.relTrials (by decide), hlink Link.relNextTrial (by decide)]
    · have hlink : ∀ few, (∀ k ∈ few, k ∈ PageLinks.known) →
          lastLink? few (before ++ f :: after) = lastLink? few (before ++ after) :=
        fun few sub => lastLink?_of_isSilent (silent.mono sub) before after
      rw [extract_page, extract_page, hlink [Link.relNext] (by decide),
        hlink [Link.relPrev, Link.relPrevious] (by decide)]
    · rw [extract_trial, extract_trial, location?_of_isSilent silent]

end TrialProtocol
