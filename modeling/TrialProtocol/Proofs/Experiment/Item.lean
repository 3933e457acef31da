import TrialProtocol.Experiment.Format
import TrialProtocol.Proofs.Json.Members
import TrialProtocol.Proofs.RoundTrip

/-!
# Entries are documents of experiments

An entry of a listing has the members of an experiment and one more, the reference. Whoever reads the
document as an experiment passes over the reference, whoever reads it as an entry takes it; for the rest
both go through the same members in the same way.

* `HasRef`: what the members of an object say about the reference.
* `readMembers_withRef`: both records under construction stay equal up to the reference.
* `ExperimentItem.sharesForm`: so a document is an entry just if it is an experiment, and an entry is
  written like its experiment.
-/

namespace TrialProtocol

open Json

/-! ## 1. The members of both -/

theorem Optimization.passing (depth : Nat) : Passing (record.decoder depth) := by
  refine Record.passing (fun field mem => ?_) depth
  simp only [record, List.mem_cons, List.not_mem_nil, or_false] at mem
  rcases mem with rfl | rfl | rfl <;> exact Member.passing_of passing_word32

theorem Metric.passing (depth : Nat) : Passing (record.decoder depth) := by
  refine Record.passing (fun field mem => ?_) depth
  simp only [record, List.mem_cons, List.not_mem_nil, or_false] at mem
  rcases mem with rfl | rfl
  · exact Member.passing_of passing_string
  · exact Member.passing_of passing_boolean

theorem Bounds.passing (depth : Nat) : Passing (record.decoder depth) := by
  refine Record.passing (fun field mem => ?_) depth
  simp only [record, List.mem_cons, List.not_mem_nil, or_false] at mem
  rcases mem with rfl | rfl <;> exact Member.passing_of passing_decimal

theorem Parameter.passing (depth : Nat) : Passing (record.decoder depth) := by
  refine Record.passing (fun field mem => ?_) depth
  simp only [record, List.mem_cons, List.not_mem_nil, or_false] at mem
  rcases mem with rfl | rfl | rfl
  · exact Member.passing_of passing_string
  · exact Member.passing_of (passing_variant _)
  · exact Member.passing_of Bounds.passing

namespace Experiment

/-- A draft with another reference. -/
def Draft.withRef (ref : Option (Option String)) (s : Draft) : Draft :=
  { s with itemRef := ref }

/-- **A member of an experiment**: what it reads is passed over, and it does not mind the reference. -/
structure IsShared (field : Member Draft) : Prop where
  passing : field.Passing
  filled : ∀ ref s, field.filled (s.withRef ref) = field.filled s
  read : ∀ depth ref s doc, field.read depth (s.withRef ref) doc =
    (field.read depth s doc).map fun (t, rest) => (t.withRef ref, rest)

theorem isShared_of {β : Type} {name : String} {get : Draft → Option β} {set : Draft → β → Draft}
    {item : Decoder β} (passing : ∀ depth, Passing (item depth))
    (same : ∀ ref s, get (s.withRef ref) = get s)
    (kept : ∀ ref s x, set (s.withRef ref) x = (set s x).withRef ref) :
    IsShared (Member.of name get set item) where
  passing := Member.passing_of passing
  filled ref s := congrArg Option.isSome (same ref s)
  read depth ref s doc := by
    change (item depth doc).map _ = ((item depth doc).map _).map _
    cases item depth doc with
    | error fault => rfl
    | ok read => exact congrArg (fun t => Except.ok (t, read.2)) (kept ref s read.1)

theorem isShared : ∀ field ∈ fields, IsShared field := by
  intro field mem
  simp only [fields, List.mem_cons, List.not_mem_nil, or_false] at mem
  rcases mem with rfl | rfl | rfl | rfl
  · exact isShared_of passing_string (fun _ _ => rfl) fun _ _ _ => rfl
  · exact isShared_of Optimization.passing (fun _ _ => rfl) fun _ _ _ => rfl
  · exact isShared_of (passing_list Metric.passing) (fun _ _ => rfl) fun _ _ _ => rfl
  · exact isShared_of (passing_list Parameter.passing) (fun _ _ => rfl) fun _ _ _ => rfl

end Experiment

namespace ExperimentItem

/-! ## 2. The reference -/

/-- The values of the members with a name. -/
def valuesOf (name : String) (ms : List (String × Document)) : List Document :=
  (ms.filter (·.1 == name)).map (·.2)

/-- A value is null or a quoted text, with the reference that it stands for. -/
inductive IsRef (value : Document) : Option String → Prop where
  | null {rest : Document}
      (word : skipBlanks value = some 'n' :: some 'u' :: some 'l' :: some 'l' :: rest) : IsRef value none
  | text {body rest : Document} {text : List Char} (quote : skipBlanks value = some '"' :: body)
      (quoted : Quoted body text rest) : IsRef value (some (String.ofList text))

/-- **An object has at most one reference**, which is null or a string. -/
inductive HasRef (ms : List (String × Document)) : Option String → Prop where
  | absent (missing : valuesOf "itemRef" ms = []) : HasRef ms none
  | present {value : Document} {ref : Option String} (one : valuesOf "itemRef" ms = [value])
      (isRef : IsRef value ref) : HasRef ms ref

/-- The member that holds the reference. -/
def refMember : Member Experiment.Draft :=
  Member.of "itemRef" Experiment.Draft.itemRef (fun s x => { s with itemRef := some x })
    (optional string)

theorem exists_of_isRef {value : Document} {ref : Option String} (h : IsRef value ref) (depth : Nat) :
    ∃ rest, optional string depth value = .ok (ref, rest) := by
  cases h with
  | @null rest word =>
    refine ⟨rest, ?_⟩
    unfold Json.optional
    rw [word]
    rfl
  | @text body rest text quote quoted =>
    refine ⟨rest, ?_⟩
    have read : string depth (some '"' :: body) = .ok (String.ofList text, rest) :=
      stringBody_of_quoted quoted
    unfold Json.optional
    rw [quote]
    change (string depth (some '"' :: body)).map _ = _
    rw [read]
    rfl

/-- What becomes of the reference along some members. -/
inductive Takes : Option (Option String) → List (String × Document) → Option (Option String) → Prop where
  | nil (ref : Option (Option String)) : Takes ref [] ref
  | other {ref ref' : Option (Option String)} {name : String} {value : Document}
      {ms : List (String × Document)} (ne : name ≠ "itemRef") (more : Takes ref ms ref') :
      Takes ref ((name, value) :: ms) ref'
  | here {ref : Option String} {ref' : Option (Option String)} {value : Document}
      {ms : List (String × Document)} (isRef : IsRef value ref) (more : Takes (some ref) ms ref') :
      Takes none (("itemRef", value) :: ms) ref'

theorem valuesOf_cons (name key : String) (value : Document) (ms : List (String × Document)) :
    valuesOf name ((key, value) :: ms) =
      if key = name then value :: valuesOf name ms else valuesOf name ms := by
  unfold valuesOf
  by_cases h : key = name
  · rw [List.filter_cons_of_pos (by simpa using h), if_pos h, List.map_cons]
  · rw [List.filter_cons_of_neg (by simpa using h), if_neg h]

theorem takes_of_absent {ms : List (String × Document)} (h : valuesOf "itemRef" ms = [])
    (ref : Option (Option String)) : Takes ref ms ref := by
  induction ms with
  | nil => exact .nil ref
  | cons m ms ih =>
    obtain ⟨name, value⟩ := m
    rw [valuesOf_cons] at h
    split at h
    · cases h
    · rename_i other
      exact .other other (ih h)

theorem takes_of_present {ms : List (String × Document)} {value : Document} {ref : Option String}
    (h : valuesOf "itemRef" ms = [value]) (isRef : IsRef value ref) : Takes none ms (some ref) := by
  induction ms with
  | nil => cases h
  | cons m ms ih =>
    obtain ⟨name, v⟩ := m
    rw [valuesOf_cons] at h
    split at h
    case isTrue same =>
      obtain ⟨rfl, missing⟩ := List.cons.inj h
      rw [same]
      exact .here isRef (takes_of_absent missing _)
    case isFalse other => exact .other other (ih h)

theorem exists_takes {ms : List (String × Document)} {ref : Option String} (h : HasRef ms ref) :
    ∃ ref', Takes none ms ref' ∧ ref'.getD none = ref := by
  cases h with
  | absent missing => exact ⟨none, takes_of_absent missing none, rfl⟩
  | present one isRef => exact ⟨some ref, takes_of_present one isRef, rfl⟩

theorem passing : ∀ field ∈ record.fields, field.Passing := by
  intro field mem
  rcases List.mem_append.mp mem with mem | mem
  · exact (Experiment.isShared field mem).passing
  · rw [List.mem_singleton.mp mem]
    exact Member.passing_of (passing_optional passing_string)

/-! ## 3. Reading both -/

theorem find?_fields {name : String} (h : name ≠ "itemRef") :
    record.fields.find? (·.name == name) = Experiment.record.fields.find? (·.name == name) := by
  have other : ¬ (refMember.name == name) = true := by simpa using fun e => h e.symm
  change (Experiment.fields ++ [refMember]).find? _ = Experiment.fields.find? _
  rw [List.find?_append, List.find?_singleton, if_neg other, Option.or_none]

/-- **Both records under construction stay equal up to the reference.** -/
theorem readMembers_withRef {depth depth' budget : Nat} {first : Bool} {s : Experiment.Draft}
    {doc rest : Document} {ms : List (String × Document)} {ref ref' : Option (Option String)}
    (taken : entries (raw depth') budget first doc = .ok (ms, rest)) (takes : Takes ref ms ref') :
    record.readMembers depth budget first (s.withRef ref) doc =
      (Experiment.record.readMembers depth budget first s doc).map
        fun (t, rest) => (t.withRef ref', rest) := by
  induction budget generalizing first s doc ms ref with
  | zero => cases taken
  | succ budget ih =>
    rw [Record.readMembers, Record.readMembers]
    obtain ⟨rfl, next⟩ | ⟨key, behind, value, after, name, others, rfl, member, later⟩ :=
      exists_of_entries taken
    · cases takes
      rw [next]
      rfl
    have skipped := skipValue_of_passes member.passes
    simp only [bind, Except.bind, if_true, member.next, member.body, member.colon]
    cases takes with
    | @here x _ _ _ isRef more =>
      obtain ⟨after', read⟩ := exists_of_isRef isRef depth
      have same : after' = after := by
        have passed := skipValue_of_passes (passing_optional passing_string depth read)
        exact Except.ok.inj (passed.symm.trans skipped)
      have known : record.fields.find? (·.name == "itemRef") = some refMember := rfl
      have unknown : Experiment.record.fields.find? (·.name == "itemRef") = none := rfl
      have taken : refMember.read depth (s.withRef none) value = .ok (s.withRef (some x), after) := by
        change (Json.optional string depth value).map _ = _
        rw [read, same]
        rfl
      have missing : ¬ refMember.filled (s.withRef none) = true := Bool.false_ne_true
      simp only [known, unknown, skipped, if_neg missing, taken]
      exact ih later more
    | other ne more =>
      rw [find?_fields ne]
      cases known : Experiment.record.fields.find? (·.name == name) with
      | none =>
        simp only [skipped]
        exact ih later more
      | some field =>
        have shared := Experiment.isShared field (List.mem_of_find?_eq_some known)
        simp only [shared.filled, shared.read]
        split
        · rfl
        cases read : field.read depth s value with
        | error fault => rfl
        | ok result =>
          obtain ⟨t, after'⟩ := result
          have passed := skipValue_of_passes (shared.passing read)
          obtain rfl : after' = after := Except.ok.inj (passed.symm.trans skipped)
          exact ih later more

/-- Where the members can be told, the entry is read as the experiment is. -/
theorem decoder_eq_map {depth : Nat} {doc rest : Document} {ms : List (String × Document)}
    {ref : Option String} (taken : members raw depth doc = .ok (ms, rest)) (hasRef : HasRef ms ref) :
    record.decoder depth doc = (Experiment.record.decoder depth doc).map fun (e, rest) =>
      ({ experiment := e, itemRef := ref.filter (· != "") }, rest) := by
  obtain ⟨ref', takes, rfl⟩ := exists_takes hasRef
  unfold members at taken
  split at taken
  case h_2 => cases taken
  case h_1 inner object =>
    obtain ⟨depth', entered, taken⟩ := exists_of_bind taken
    obtain ⟨⟨_, behind⟩, taken, closed⟩ := exists_of_bind taken
    obtain ⟨_, -, same⟩ := exists_of_bind closed
    cases same
    have alike : record.readMembers depth' (inner.length + 1) true record.empty inner = _ :=
      readMembers_withRef (s := Experiment.record.empty) taken takes
    unfold Record.decoder
    rw [object]
    simp only [bind, Except.bind, entered, alike]
    cases Experiment.record.readMembers depth' (inner.length + 1) true Experiment.record.empty inner with
    | error fault => rfl
    | ok result =>
      obtain ⟨t, after⟩ := result
      have entry : record.ofMembers (t.withRef ref') = .ok
          { experiment := t.experiment, itemRef := (ref'.getD none).filter (· != "") } := rfl
      have experiment : Experiment.record.ofMembers t = .ok t.experiment := rfl
      simp only [Except.map, entry, experiment]
      cases closeObject after <;> rfl

/-! ## 4. The form of both -/

/-- **Entries and experiments share one form of documents.** -/
structure SharesForm : Prop where
  /-- An object with at most one reference is an entry just if it is an experiment. The entry is that of
      the experiment, with the reference unless this is empty. -/
  read : ∀ bytes ms ref, decode (members raw) bytes = .ok ms → HasRef ms ref →
    decode record.decoder bytes = (decode Experiment.record.decoder bytes).map fun e =>
      { experiment := e, itemRef := ref.filter (· != "") }
  /-- An object of which the members cannot be told is neither. -/
  refused : ∀ bytes inner fault, skipBlanks (Utf8.units bytes) = some '\x7b' :: inner →
    decode (members raw) bytes = .error fault →
      (∀ i, decode record.decoder bytes ≠ .ok i) ∧ ∀ e, decode Experiment.record.decoder bytes ≠ .ok e
  /-- Without a reference an entry is written as its experiment, … -/
  plain : ∀ e, serialize toJson { experiment := e } = serialize Experiment.toJson e
  /-- … and with one it has this member behind the others. -/
  appended : ∀ e ref, ∃ body, serialize Experiment.toJson e = Utf8.encode (body ++ ['\x7d']) ∧
    serialize toJson { experiment := e, itemRef := some ref } =
      Utf8.encode (body ++ ',' :: Writer.member "itemRef" (Writer.string ref) ++ ['\x7d'])

/-- Another member behind those of an object. -/
theorem exists_object_append {ms : List (List Char)} (ne : ms ≠ []) (m : List Char) :
    ∃ body, Writer.object ms = body ++ ['\x7d'] ∧
      Writer.object (ms ++ [m]) = body ++ ',' :: m ++ ['\x7d'] := by
  cases ms with
  | nil => exact absurd rfl ne
  | cons first ms =>
    refine ⟨'\x7b' :: Text.join [','] (first :: ms), rfl, ?_⟩
    have joined : Text.join [','] (first :: ms ++ [m]) = Text.join [','] (first :: ms) ++ ',' :: m := by
      rw [List.cons_append, join_cons_eq, join_cons_eq, List.flatMap_append]
      simp
    unfold Writer.object
    rw [joined]
    simp

theorem sharesForm : SharesForm where
  read bytes ms ref taken hasRef := by
    obtain ⟨⟨_, rest⟩, taken, ended⟩ := exists_of_bind taken
    obtain ⟨_, ended, same⟩ := exists_of_bind ended
    cases same
    unfold decode readAll
    rw [decoder_eq_map taken hasRef]
    cases Experiment.record.decoder maxDepth (Utf8.units bytes) with
    | error fault => rfl
    | ok result =>
      obtain ⟨e, after⟩ := result
      change (finish after >>= fun _ => _) = Except.map _ (finish after >>= fun _ => _)
      cases finish after <;> rfl
  refused bytes inner fault object none := by
    constructor
    · intro i read
      obtain ⟨ms, taken⟩ := Record.exists_readAll passing object read
      cases none.symm.trans taken
    · intro e read
      obtain ⟨ms, taken⟩ := Record.exists_readAll
        (fun field mem => (Experiment.isShared field mem).passing) object read
      cases none.symm.trans taken
  plain e := by
    unfold serialize toJson
    rw [Option.map_none, Option.toList_none, List.append_nil]
    rfl
  appended e ref := by
    have ne : e.members ≠ [] := by simp [Experiment.members]
    obtain ⟨body, plain, more⟩ :=
      exists_object_append ne (Writer.member "itemRef" (Writer.string ref))
    exact ⟨body, congrArg Utf8.encode plain, congrArg Utf8.encode more⟩

/-- An entry with a name and a reference. -/
def sampleText : List Char :=
  "\x7b\"displayName\":\"x\",\"itemRef\":\"a\"\x7d".toList

/-- It is read through its experiment. -/
theorem sharesForm_sample : decode record.decoder (Utf8.encode sampleText) =
    .ok { experiment := { displayName := "x" }, itemRef := some "a" } := by
  have taken : decode (members raw) (Utf8.encode sampleText) =
      .ok [("displayName", (sampleText.drop 15).map some),
        ("itemRef", (sampleText.drop 29).map some)] := by
    decide
  have experiment : decode Experiment.record.decoder (Utf8.encode sampleText) =
      .ok { displayName := "x" } := by
    decide
  have quoted : Quoted ((sampleText.drop 30).map some) ['a'] [some '\x7d'] :=
    .plain (by decide) (by decide) (by decide) (.close _)
  have isRef : IsRef ((sampleText.drop 29).map some) (some (String.ofList ['a'])) :=
    .text (by decide) quoted
  rw [sharesForm.read _ _ _ taken (.present (by decide) isRef), experiment]
  decide

end ExperimentItem

end TrialProtocol
