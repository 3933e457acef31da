import TrialProtocol.Json.Record
import TrialProtocol.Proofs.Json.Spelling

/-!
# Written records are read back

An object is written member by member, and some members are left out. `Record.Fills` follows the
record under construction through the members that are there; what the record is in the end, `complete`
says. So a record is read back as soon as each of its members is (`Fills.spells`).
-/

namespace TrialProtocol.Json

/-! ## 1. The members of an object -/

/-- What stands behind a member: a comma and another one, or the closing brace. -/
def objectTail (members : List (List Char)) : List Char :=
  members.flatMap (',' :: ·) ++ ['\x7d']

theorem object_cons (text : List Char) (members : List (List Char)) :
    Writer.object (text :: members) = '\x7b' :: (text ++ objectTail members) := by
  rw [Writer.object, join_cons_eq, objectTail]
  simp

theorem lt_length_objectTail (members : List (List Char)) :
    members.length < (objectTail members).length := by
  have h := lt_length_listTail members
  simp only [listTail, objectTail, List.length_append, List.length_singleton] at h ⊢
  exact h

theorem delimited_objectTail (members : List (List Char)) (rest : Document) :
    Delimited ((objectTail members).map some ++ rest) := by
  cases members with
  | nil => exact delimited_cons (c := '\x7d') (by decide) _
  | cons m members => exact delimited_cons (c := ',') (by decide) _

/-- A written member in a document: its key, the colon, its value. -/
theorem map_member_append (name : String) (text : List Char) (rest : Document) :
    (Writer.member name text).map some ++ rest =
      some '"' :: ((name.toList.flatMap Writer.character).map some ++
        some '"' :: some ':' :: (text.map some ++ rest)) := by
  simp [Writer.member, Writer.string]

theorem nextKey_true (rest : Document) :
    nextKey true (some '"' :: rest) = .ok (true, rest) := by
  rw [nextKey, skipBlanks_cons (by decide)]
  rfl

theorem nextKey_false (rest : Document) :
    nextKey false (some ',' :: some '"' :: rest) = .ok (true, rest) := by
  rw [nextKey, skipBlanks_cons (by decide)]
  simp only [skipBlanks_cons (show isBlank (some '"') = false by decide), Bool.false_eq_true,
    if_false]
  rfl

namespace Record

variable {σ α β : Type}

/-! ## 2. The record under construction -/

/-- **Written members take a record under construction from one state to another.** -/
inductive Fills (r : Record σ α) (levels : Nat) : σ → List (List Char) → σ → Prop where
  | nil (s : σ) : Fills r levels s [] s
  | cons {s s' s'' : σ} {name : String} {text : List Char} {field : Member σ}
      {members : List (List Char)} (known : r.fields.find? (·.name == name) = some field)
      (missing : field.filled s = false)
      (reads : ∀ depth rest, levels ≤ depth → Delimited rest →
        field.read depth s (text.map some ++ rest) = .ok (s', rest))
      (more : Fills r levels s' members s'') :
      Fills r levels s (Writer.member name text :: members) s''

namespace Fills

variable {r : Record σ α} {levels : Nat} {s s' s'' : σ} {members members' : List (List Char)}

theorem append (first : Fills r levels s members s') (second : Fills r levels s' members' s'') :
    Fills r levels s (members ++ members') s'' := by
  induction first with
  | nil s => exact second
  | cons known missing reads _ ih => exact .cons known missing reads (ih second)

/-- One member of some type. -/
theorem one {name : String} {get : σ → Option β} {set : σ → β → σ} {item : Decoder β}
    {text : List Char} {x : β}
    (known : r.fields.find? (·.name == name) = some (Member.of name get set item))
    (missing : get s = none) (spells : Spells item levels text x) (after : set s x = s') :
    Fills r levels s [Writer.member name text] s' := by
  subst after
  have hm : (Member.of name get set item).filled s = false := by
    change (get s).isSome = false
    rw [missing]
    rfl
  refine .cons known hm (fun depth rest hd hr => ?_) (.nil _)
  have hs := spells.reads depth rest hd hr
  simp only [Member.of, hs]
  rfl

/-- One member that is left out at times. -/
theorem oneIf {name : String} {get : σ → Option β} {set : σ → β → σ} {item : Decoder β}
    {text : List Char} {x : β} (present : Bool)
    (known : r.fields.find? (·.name == name) = some (Member.of name get set item))
    (missing : get s = none) (spells : Spells item levels text x)
    (after : (if present then set s x else s) = s') :
    Fills r levels s (Writer.memberIf present name text) s' := by
  subst after
  cases present with
  | true => exact one known missing spells rfl
  | false => exact .nil s

/-! ## 3. Reading it -/

/-- The members behind one of an object, up to the closing brace. -/
theorem readMembers_objectTail (h : Fills r levels s members s') {depth : Nat}
    (hd : levels ≤ depth) (rest : Document) {budget : Nat} (hb : members.length < budget) :
    r.readMembers depth budget false s ((objectTail members).map some ++ rest) =
      .ok (s', some '\x7d' :: rest) := by
  induction h generalizing budget with
  | nil s =>
    obtain ⟨budget, rfl⟩ : ∃ b, budget = b + 1 := ⟨budget - 1, by omega⟩
    rfl
  | @cons s s' s'' name text field members known missing reads more ih =>
    obtain ⟨budget, rfl⟩ : ∃ b, budget = b + 1 := ⟨budget - 1, by omega⟩
    have ht : (objectTail (Writer.member name text :: members)).map some ++ rest =
        some ',' :: ((Writer.member name text).map some ++
          ((objectTail members).map some ++ rest)) := by
      simp [objectTail]
    have hx := reads depth _ hd (delimited_objectTail members rest)
    have hn : ¬(false = true) := by simp
    rw [ht, map_member_append, readMembers, nextKey_false]
    simp only [bind, Except.bind, if_true, stringBody_characters, known, missing, colon,
      skipBlanks_cons (show isBlank (some ':') = false by decide), if_neg hn, hx]
    exact ih (by simpa using hb)

/-- **A record is read back from its written members.** -/
theorem spells {x : α} (h : Fills r levels r.empty members s) (complete : r.complete s = .ok x) :
    Spells r.decoder (levels + 1) (Writer.object members) x where
  begins := ⟨'\x7b', _, rfl, by decide, by decide⟩
  reads depth rest hd hr := by
    obtain ⟨depth, rfl⟩ : ∃ d, depth = d + 1 := ⟨depth - 1, by omega⟩
    have hle : levels ≤ depth := by omega
    have hclose : closeObject (some '\x7d' :: rest) = .ok rest := rfl
    have hm : r.ofMembers s = .ok x := by rw [ofMembers, complete]
    generalize hs : r.empty = start at h
    cases h with
    | nil s =>
      have ht : (Writer.object []).map some ++ rest = some '\x7b' :: some '\x7d' :: rest := rfl
      have hk : nextKey true (some '\x7d' :: rest) = .ok (false, some '\x7d' :: rest) := rfl
      rw [ht, decoder, skipBlanks_cons (by decide)]
      simp only [enter, bind, Except.bind, readMembers, hk, hs, Bool.false_eq_true, if_false,
        pure, Except.pure, hm, hclose]
    | @cons s s' s'' name text field members known missing reads more =>
      have ht : (Writer.object (Writer.member name text :: members)).map some ++ rest =
          some '\x7b' :: ((Writer.member name text).map some ++
            ((objectTail members).map some ++ rest)) := by
        rw [object_cons]
        simp
      have hx := reads depth _ hle (delimited_objectTail members rest)
      have hn : ¬(false = true) := by simp
      rw [ht, map_member_append, decoder, skipBlanks_cons (by decide)]
      simp only [enter, bind, Except.bind]
      rw [readMembers, nextKey_true]
      simp only [bind, Except.bind, if_true, stringBody_characters, hs, known, missing, colon,
        skipBlanks_cons (show isBlank (some ':') = false by decide), if_neg hn, hx]
      rw [more.readMembers_objectTail hle rest]
      · simp only [hm, hclose, pure, Except.pure]
      · have hl := lt_length_objectTail members
        simp only [List.length_append, List.length_map, List.length_cons] at hl ⊢
        omega

end Fills

end Record

end TrialProtocol.Json
