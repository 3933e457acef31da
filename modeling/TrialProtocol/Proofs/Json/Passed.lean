import TrialProtocol.Json.Generic
import TrialProtocol.Proofs.Json.Skipped

/-!
# What is read could be passed over

A member is either read by a decoder or passed over, and a document goes on behind it in the same way.
Whatever a decoder reads is also passed over, up to the same place: the decoder may ask for more, but
it ends where the value ends.

* `Passing`: a reader reads only what is passed over. One lemma for each decoder, from the scalars
  through `passing_list` and `passing_decimal` to `Record.passing`.
-/

namespace TrialProtocol.Json

/-! ## 1. Scalars -/

/-- **A reader reads only what is passed over.** -/
def Passing {α : Type} (read : Reader α) : Prop :=
  ∀ ⦃doc x rest⦄, read doc = .ok (x, rest) → Passes doc rest

theorem exists_of_stringAs {expected : String} {doc rest : Document} {x : String}
    (h : stringAs expected doc = .ok (x, rest)) :
    ∃ body, skipBlanks doc = some '"' :: body ∧ stringBody body = .ok (x, rest) := by
  unfold stringAs at h
  split at h
  · rename_i body text
    exact ⟨body, text, h⟩
  · cases h

theorem passing_stringAs (expected : String) : Passing (stringAs expected) := by
  intro doc x rest h
  obtain ⟨body, text, read⟩ := exists_of_stringAs h
  exact leads_scalar (text ▸ skipScalar_of_stringBody read)

theorem passing_string (depth : Nat) : Passing (string depth) :=
  passing_stringAs "a string"

theorem passing_unit : Passing unit := by
  intro doc x rest h
  unfold unit at h
  split at h
  · rename_i text
    obtain ⟨_, word, same⟩ := exists_of_map h
    cases same
    exact leads_scalar (text ▸ word)
  · cases h

theorem passing_boolean (depth : Nat) : Passing (boolean depth) := by
  intro doc x rest h
  unfold boolean at h
  split at h
  case h_1 | h_2 =>
    rename_i text
    obtain ⟨_, word, same⟩ := exists_of_map h
    cases same
    exact leads_scalar (text ▸ word)
  case h_3 => cases h

/-- What begins like a number is passed over as a number. -/
theorem skipScalar_number {c : Char} {doc rest : Document} {d : Decimal}
    (starts : startsNumber c = true) (h : number (some c :: doc) = .ok (d, rest)) :
    skipScalar (some c :: doc) = .ok rest := by
  unfold skipScalar
  split
  case h_5 heq =>
    cases heq
    rw [if_pos starts, scan_of_number h]
  case h_6 heq => cases heq
  case h_7 heq => cases heq
  all_goals
    rename_i heq
    cases heq
    exact absurd starts (by decide)

theorem passing_machineNumber (expected : String) : Passing (machineNumber expected) := by
  intro doc n rest h
  unfold machineNumber at h
  split at h
  · rename_i text
    split at h
    · rename_i starts
      obtain ⟨⟨d, behind⟩, read, h⟩ := exists_of_bind h
      dsimp only at h
      split at h
      · cases h
        exact leads_scalar (text ▸ skipScalar_number starts read)
      · cases h
    · cases h
  · cases h

theorem passing_word32 (depth : Nat) : Passing (word32 depth) := by
  intro doc x rest h
  obtain ⟨⟨n, _⟩, h, same⟩ := exists_of_map h
  cases same
  obtain ⟨⟨m, _⟩, read, h⟩ := exists_of_bind h
  have passes := passing_machineNumber _ read
  dsimp only at h
  split at h
  · split at h
    · cases h
      exact passes
    · cases h
  all_goals cases h

/-! ## 2. Containers -/

section

variable {α : Type} {budget : Nat} {first : Bool} {doc inner rest : Document}

theorem Passing.leads_elements {item : Reader α} (h : Passing item) {xs : List α}
    (read : elements item budget first doc = .ok (xs, inner))
    (close : closeList inner = .ok rest) : Leads 1 (placeOf first) [.list] doc .passed [] rest := by
  induction budget generalizing first doc xs with
  | zero => cases read
  | succ budget ih =>
    obtain ⟨⟨more, value⟩, next, read⟩ := exists_of_bind read
    cases more with
    | false =>
      cases read
      exact leads_endList next close
    | true =>
      obtain ⟨⟨x, behind⟩, one, read⟩ := exists_of_bind read
      obtain ⟨⟨others, _⟩, more, same⟩ := exists_of_bind read
      cases same
      exact (leads_element next (h one)).trans (ih more)

theorem passing_list {item : Decoder α} (h : ∀ depth, Passing (item depth)) (depth : Nat) :
    Passing (list item depth) := by
  intro doc xs rest read
  unfold list at read
  split at read
  · rename_i text
    obtain ⟨depth', -, read⟩ := exists_of_bind read
    obtain ⟨⟨_, _⟩, read, close⟩ := exists_of_bind read
    obtain ⟨_, close, same⟩ := exists_of_bind close
    cases same
    exact ((leads_list text).trans ((h _).leads_elements read close)).mono (by decide)
  · cases read

theorem passing_optional {item : Decoder α} (h : ∀ depth, Passing (item depth)) (depth : Nat) :
    Passing (optional item depth) := by
  intro doc x rest read
  unfold optional at read
  split at read
  · rename_i text
    obtain ⟨_, word, same⟩ := exists_of_map read
    cases same
    exact leads_scalar (text ▸ word)
  · obtain ⟨⟨_, _⟩, read, same⟩ := exists_of_map read
    cases same
    exact (h depth read).of_skipBlanks

theorem Passing.leads_entries {item : Reader α} (h : Passing item) {xs : List (String × α)}
    (read : entries item budget first doc = .ok (xs, inner))
    (close : closeObject inner = .ok rest) :
    Leads 1 (placeOf first) [.object] doc .passed [] rest := by
  induction budget generalizing first doc xs with
  | zero => cases read
  | succ budget ih =>
    obtain ⟨⟨more, key⟩, next, read⟩ := exists_of_bind read
    cases more with
    | false =>
      cases read
      exact leads_endObject next close
    | true =>
      obtain ⟨⟨name, behind⟩, body, read⟩ := exists_of_bind read
      obtain ⟨value, behindKey, read⟩ := exists_of_bind read
      obtain ⟨⟨x, behindValue⟩, one, read⟩ := exists_of_bind read
      obtain ⟨⟨others, _⟩, more, same⟩ := exists_of_bind read
      cases same
      exact (IsMember.leads ⟨next, body, behindKey, h one⟩).trans (ih more)

/-! ### Values of any kind -/

/-- An object of any kind, or a number that is written out as a string in one. -/
theorem leads_genericMembers {read : Reader Generic} (reads : Passing read) {x : Generic}
    (h : genericMembers read doc = .ok (x, inner)) (close : closeObject inner = .ok rest) :
    Leads 1 .opened [.object] doc .passed [] rest := by
  obtain ⟨⟨more, key⟩, next, h⟩ := exists_of_bind h
  cases more with
  | false =>
    cases h
    exact leads_endObject next close
  | true =>
    obtain ⟨⟨name, behind⟩, body, h⟩ := exists_of_bind h
    obtain ⟨value, behindKey, h⟩ := exists_of_bind h
    dsimp only at h
    split at h
    · obtain ⟨⟨d, _⟩, quoted, same⟩ := exists_of_bind h
      cases same
      obtain ⟨⟨digits, _⟩, string, quoted⟩ := exists_of_bind quoted
      obtain ⟨_, -, same⟩ := exists_of_bind quoted
      cases same
      have member := IsMember.leads ⟨next, body, behindKey, passing_stringAs _ string⟩
      have closed : Leads 1 (placeOf false) [.object] _ .passed [] rest :=
        leads_close (b := .object) (skipBlanks_of_closeObject close)
      exact member.trans closed
    · obtain ⟨⟨_, behindValue⟩, one, h⟩ := exists_of_bind h
      obtain ⟨⟨others, _⟩, more, same⟩ := exists_of_bind h
      cases same
      have member := IsMember.leads ⟨next, body, behindKey, reads one⟩
      exact member.trans (reads.leads_entries more close)

theorem passing_generic (depth : Nat) : Passing (generic depth) := by
  induction depth using Nat.strongRecOn with
  | _ depth ih =>
    intro doc x rest h
    unfold generic at h
    split at h
    case h_1 text | h_2 text | h_3 text =>
      obtain ⟨_, word, same⟩ := exists_of_map h
      cases same
      exact leads_scalar (text ▸ word)
    case h_4 text =>
      obtain ⟨⟨_, _⟩, body, same⟩ := exists_of_map h
      cases same
      exact leads_scalar (text ▸ skipScalar_of_stringBody body)
    case h_5 text =>
      split at h
      · cases h
      · rename_i depth
        obtain ⟨⟨_, _⟩, read, h⟩ := exists_of_bind h
        obtain ⟨_, close, same⟩ := exists_of_bind h
        cases same
        have reads := ih depth (Nat.lt_succ_self _)
        exact ((leads_list text).trans (reads.leads_elements read close)).mono (by decide)
    case h_6 text =>
      split at h
      · cases h
      · rename_i depth
        obtain ⟨⟨_, _⟩, read, h⟩ := exists_of_bind h
        obtain ⟨_, close, same⟩ := exists_of_bind h
        cases same
        have reads := ih depth (Nat.lt_succ_self _)
        exact ((leads_object text).trans (leads_genericMembers reads read close)).mono (by decide)
    case h_7 text =>
      split at h
      · rename_i starts
        obtain ⟨⟨_, _⟩, read, same⟩ := exists_of_map h
        cases same
        exact leads_scalar (text ▸ skipScalar_number starts read)
      · cases h
    case h_8 => cases h
    case h_9 => cases h

theorem passing_decimal (depth : Nat) : Passing (decimal depth) := by
  intro doc x rest h
  obtain ⟨_, read, -⟩ := decimal_eq_ok_iff.mp h
  exact passing_generic depth read

/-! ### Variants -/

theorem exists_of_variantNamed {α : Type} {known : List (String × α)} {x : α}
    (h : variantNamed known doc = .ok (x, rest)) :
    ∃ name, stringAs "variant identifier" doc = .ok (name, rest) := by
  obtain ⟨⟨name, _⟩, read, h⟩ := exists_of_bind h
  dsimp only at h
  split at h
  · cases h
    exact ⟨name, read⟩
  · cases h

/-- The object of one member is passed over like any other. -/
theorem passing_variant {α : Type} (known : List (String × α)) (depth : Nat) :
    Passing (variant known depth) := by
  intro doc x rest h
  unfold variant at h
  split at h
  case h_1 => cases h
  case h_2 text =>
    obtain ⟨name, read⟩ := exists_of_variantNamed h
    have passes := passing_stringAs _ read
    rw [← text] at passes
    exact passes.of_skipBlanks
  case h_3 inner text =>
    obtain ⟨_, -, h⟩ := exists_of_bind h
    obtain ⟨⟨_, behind⟩, named, h⟩ := exists_of_bind h
    obtain ⟨value, behindKey, h⟩ := exists_of_bind h
    obtain ⟨⟨_, behindValue⟩, null, h⟩ := exists_of_bind h
    dsimp only at h
    split at h
    case h_1 => cases h
    case h_2 closing =>
      cases h
      obtain ⟨name, read⟩ := exists_of_variantNamed named
      obtain ⟨key, quote, body⟩ := exists_of_stringAs read
      have next : nextKey true inner = .ok (true, key) := by
        rw [nextKey, quote]
        rfl
      have member := IsMember.leads ⟨next, body, behindKey, passing_unit null⟩
      have closed : Leads 1 (placeOf false) [.object] behindValue .passed [] rest :=
        leads_close (b := .object) closing
      exact ((leads_object text).trans (member.trans closed)).mono (by decide)
    case h_3 => cases h
  case h_4 => cases h

end

/-! ## 3. Records -/

/-- A member reads only what is passed over. -/
def Member.Passing {σ : Type} (field : Member σ) : Prop :=
  ∀ ⦃depth s doc s' rest⦄, field.read depth s doc = .ok (s', rest) → Passes doc rest

theorem Member.passing_of {σ α : Type} {name : String} {get : σ → Option α} {set : σ → α → σ}
    {item : Decoder α} (h : ∀ depth, Json.Passing (item depth)) :
    (Member.of name get set item).Passing := by
  intro depth s doc s' rest read
  obtain ⟨⟨_, _⟩, read, same⟩ := exists_of_map read
  cases same
  exact h depth read

namespace Record

variable {σ α : Type} {r : Record σ α} {depth : Nat} {first : Bool} {s s' : σ}
  {doc inner rest : Document}

/-- **What reading one more member comes to**: there is none, or its value is passed over whether the
    record knows it or not. -/
theorem exists_of_readMembers (passing : ∀ field ∈ r.fields, field.Passing) {budget : Nat}
    (read : r.readMembers depth (budget + 1) first s doc = .ok (s', rest)) :
    nextKey first doc = .ok (false, rest) ∨ ∃ key behind value after name t,
      IsMember first doc key behind value after name ∧
      r.readMembers depth budget false t after = .ok (s', rest) := by
  obtain ⟨⟨more, key⟩, next, read⟩ := exists_of_bind read
  cases more with
  | false =>
    cases read
    exact .inl next
  | true =>
    obtain ⟨⟨name, behind⟩, body, read⟩ := exists_of_bind read
    simp only at read
    split at read
    case h_1 field known =>
      split at read
      case isTrue => cases read
      case isFalse =>
        obtain ⟨value, behindKey, read⟩ := exists_of_bind read
        obtain ⟨⟨t, after⟩, one, read⟩ := exists_of_bind read
        have passes := passing field (List.mem_of_find?_eq_some known) one
        exact .inr ⟨key, behind, value, after, name, t, ⟨next, body, behindKey, passes⟩, read⟩
    case h_2 =>
      obtain ⟨value, behindKey, read⟩ := exists_of_bind read
      obtain ⟨after, skipped, read⟩ := exists_of_bind read
      have passes := passes_iff.mpr skipped
      exact .inr ⟨key, behind, value, after, name, s, ⟨next, body, behindKey, passes⟩, read⟩

theorem leads_readMembers (passing : ∀ field ∈ r.fields, field.Passing) {budget : Nat}
    (read : r.readMembers depth budget first s doc = .ok (s', inner))
    (close : closeObject inner = .ok rest) :
    Leads 1 (placeOf first) [.object] doc .passed [] rest := by
  induction budget generalizing first s doc with
  | zero => cases read
  | succ budget ih =>
    obtain next | ⟨key, behind, value, after, name, t, member, read⟩ :=
      exists_of_readMembers passing read
    · exact leads_endObject next close
    · exact member.leads.trans (ih read)

theorem leads_readElements {fields : List (Member σ)} (passing : ∀ field ∈ fields, field.Passing)
    (read : readElements depth fields first s doc = .ok (s', inner))
    (close : closeList inner = .ok rest) : Leads 1 (placeOf first) [.list] doc .passed [] rest := by
  induction fields generalizing first s doc with
  | nil =>
    cases read
    exact leads_close (b := .list) (skipBlanks_of_closeList close)
  | cons field fields ih =>
    obtain ⟨⟨more, value⟩, next, read⟩ := exists_of_bind read
    cases more with
    | false =>
      cases read
      exact leads_endList next close
    | true =>
      obtain ⟨⟨t, behindValue⟩, one, read⟩ := exists_of_bind read
      have passes := passing field (List.mem_cons_self ..) one
      exact (leads_element next passes).trans
        (ih (fun f hf => passing f (List.mem_cons_of_mem _ hf)) read)

/-- **A record reads only what is passed over** if its members do. -/
theorem passing (members : ∀ field ∈ r.fields, field.Passing) (depth : Nat) :
    Json.Passing (r.decoder depth) := by
  intro doc x rest h
  unfold decoder at h
  split at h
  case h_1 text =>
    obtain ⟨_, -, h⟩ := exists_of_bind h
    obtain ⟨⟨_, _⟩, read, h⟩ := exists_of_bind h
    obtain ⟨_, -, h⟩ := exists_of_bind h
    obtain ⟨_, close, same⟩ := exists_of_bind h
    cases same
    exact ((leads_list text).trans (leads_readElements members read close)).mono (by decide)
  case h_2 text =>
    obtain ⟨_, -, h⟩ := exists_of_bind h
    obtain ⟨⟨_, _⟩, read, h⟩ := exists_of_bind h
    obtain ⟨_, -, h⟩ := exists_of_bind h
    obtain ⟨_, close, same⟩ := exists_of_bind h
    cases same
    exact ((leads_object text).trans (leads_readMembers members read close)).mono (by decide)
  case h_3 => cases h

end Record

end TrialProtocol.Json
