import Mathlib.Data.List.DropRight
import TrialProtocol.Json.Skip
import TrialProtocol.Proofs.Decimal.Reading
import TrialProtocol.Proofs.Json.Decoded

/-!
# Passing over a value

How a value that no one asked for is passed over, step by step. The brackets that are open around it do
not matter, and neither does the budget as long as it is large enough.

* `Leads`: from one place in a document to another, with the number of steps that this takes.
* `leads_scalar`, `leads_element`, `IsMember.leads`, `leads_endList`: what a few steps lead to.
* `Passes`: a value is passed over. `passes_iff`: that is what `skipValue` finds.
-/

namespace TrialProtocol.Json

/-! ## 1. Steps -/

/-- **Passing over leads from one place in a document to another**, from the inner brackets that are
    open there to those open here, whatever is open around both. It takes at most two steps for each
    place of the document that is left behind, less `spare`. -/
def Leads (spare : Nat) (place : SkipPlace) (inner : List Bracket) (doc : Document)
    (place' : SkipPlace) (inner' : List Bracket) (rest : Document) : Prop :=
  ∃ steps, steps + spare + 2 * rest.length ≤ 2 * doc.length ∧ ∀ budget outer,
    skipFrom (budget + steps) place (inner ++ outer) doc = skipFrom budget place' (inner' ++ outer) rest

/-- The value at the front ends where the rest begins. -/
def Passes (doc rest : Document) : Prop :=
  Leads 1 .atValue [] doc .passed [] rest

section

variable {m n : Nat} {p q r : SkipPlace} {xs ys zs : List Bracket} {doc mid rest : Document}

theorem Leads.refl (p : SkipPlace) (xs : List Bracket) (doc : Document) : Leads 0 p xs doc p xs doc :=
  ⟨0, by omega, fun _ _ => rfl⟩

theorem Leads.trans (first : Leads m p xs doc q ys mid) (second : Leads n q ys mid r zs rest) :
    Leads (m + n) p xs doc r zs rest := by
  obtain ⟨j, costs, leads⟩ := first
  obtain ⟨k, costs', leads'⟩ := second
  refine ⟨k + j, by omega, fun budget outer => ?_⟩
  rw [← Nat.add_assoc, leads, leads']

theorem Leads.mono (h : Leads m p xs doc q ys rest) (le : n ≤ m) : Leads n p xs doc q ys rest := by
  obtain ⟨k, costs, leads⟩ := h
  exact ⟨k, by omega, leads⟩

/-- It does so inside of further brackets. -/
theorem Leads.inside (h : Leads m p [] doc q [] rest) (xs : List Bracket) :
    Leads m p xs doc q xs rest := by
  obtain ⟨k, costs, leads⟩ := h
  exact ⟨k, costs, fun budget outer => leads budget (xs ++ outer)⟩

/-- **What passes is what is passed over.** -/
theorem skipValue_of_passes (h : Passes doc rest) : skipValue doc = .ok rest := by
  obtain ⟨k, costs, leads⟩ := h
  obtain ⟨budget, enough⟩ : ∃ budget, 2 * doc.length + 2 = budget + 1 + k :=
    ⟨2 * doc.length + 1 - k, by omega⟩
  rw [skipValue, enough]
  exact leads (budget + 1) []

theorem length_skipBlanks_le (doc : Document) : (skipBlanks doc).length ≤ doc.length :=
  (List.dropWhile_sublist _).length_le

theorem length_lt_of_skipBlanks {unit : Option Char} (h : skipBlanks doc = unit :: rest) :
    rest.length < doc.length :=
  Nat.lt_of_lt_of_le (h ▸ Nat.lt_succ_self _) (length_skipBlanks_le doc)

theorem skipBlanks_skipBlanks (doc : Document) : skipBlanks (skipBlanks doc) = skipBlanks doc :=
  List.dropWhile_idempotent _ _

theorem skipFrom_skipBlanks (budget : Nat) (outer : List Bracket) (doc : Document) :
    skipFrom budget .atValue outer (skipBlanks doc) = skipFrom budget .atValue outer doc := by
  cases budget with
  | zero => rfl
  | succ budget => rw [skipFrom, skipBlanks_skipBlanks, ← skipFrom]

/-- Blanks in front of a value make no difference. -/
theorem Passes.of_skipBlanks (h : Passes (skipBlanks doc) rest) : Passes doc rest := by
  obtain ⟨k, costs, leads⟩ := h
  have le := length_skipBlanks_le doc
  refine ⟨k, by omega, fun budget outer => ?_⟩
  rw [← leads, skipFrom_skipBlanks]

end

/-! ## 2. Scalars -/

theorem length_le_of_expectLetters {letters : List Char} {doc rest : Document}
    (h : expectLetters letters doc = .ok rest) : rest.length ≤ doc.length := by
  induction letters generalizing doc with
  | nil =>
    cases h
    exact Nat.le_refl _
  | cons c letters ih =>
    cases doc with
    | nil => cases h
    | cons unit doc =>
      rw [expectLetters] at h
      split at h
      · exact Nat.le_succ_of_le (ih h)
      · cases h

theorem length_lt_of_skipStringFrom {skip : Nat} {doc rest : Document}
    (h : skipStringFrom skip doc = .ok rest) : rest.length < doc.length := by
  induction doc generalizing skip with
  | nil => cases skip <;> cases h
  | cons unit doc ih =>
    cases skip with
    | succ skip => exact Nat.lt_succ_of_lt (ih h)
    | zero =>
      rw [skipStringFrom] at h
      split at h
      · cases h
        exact Nat.lt_succ_self _
      split at h
      · obtain ⟨n, -, h⟩ := exists_of_bind h
        exact Nat.lt_succ_of_lt (ih h)
      split at h
      · cases h
      · exact Nat.lt_succ_of_lt (ih h)

theorem length_lt_of_scan {doc rest : Document} {d : Decimal}
    (h : Decimal.scan doc = .ok (d, rest)) : rest.length < doc.length := by
  obtain ⟨l, -, rfl⟩ := Decimal.exists_literal_of_scan h
  obtain ⟨c, more, text, -⟩ := exists_literal_eq_cons l
  rw [text, List.map_cons, List.cons_append, List.length_cons, List.length_append]
  omega

theorem length_lt_of_skipScalar {doc rest : Document} (h : skipScalar doc = .ok rest) :
    rest.length < doc.length := by
  unfold skipScalar at h
  split at h
  case h_1 | h_2 | h_3 => exact Nat.lt_succ_of_le (length_le_of_expectLetters h)
  case h_4 => exact Nat.lt_succ_of_lt (length_lt_of_skipStringFrom h)
  case h_5 =>
    split at h
    · split at h
      · rename_i scanned
        cases h
        exact length_lt_of_scan scanned
      · cases h
    · cases h
  case h_6 | h_7 => cases h

/-- A scalar is passed over in one step. -/
theorem leads_scalar {xs : List Bracket} {doc rest : Document}
    (h : skipScalar (skipBlanks doc) = .ok rest) : Leads 1 .atValue xs doc .passed xs rest := by
  have shorter := length_lt_of_skipScalar h
  have le := length_skipBlanks_le doc
  refine ⟨1, by omega, fun budget outer => ?_⟩
  rw [skipFrom]
  split
  · rename_i text
    rw [text] at h
    cases h
  · rename_i text
    rw [text] at h
    cases h
  · rw [h]
    rfl

/-! ### Strings -/

theorem exists_of_hexCode {doc : Document} {code : Nat} (h : hexCode doc = .ok code) :
    ∃ a b c d rest, doc = some a :: some b :: some c :: some d :: rest := by
  unfold hexCode at h
  split at h
  · exact ⟨_, _, _, _, _, rfl⟩
  · split at h <;> cases h

theorem exists_of_lowSurrogate {doc : Document} {low : Nat} (h : lowSurrogate doc = .ok low) :
    ∃ rest code, doc = some '\\' :: some 'u' :: rest ∧ hexCode rest = .ok code := by
  unfold lowSurrogate at h
  split at h
  · obtain ⟨code, hex, -⟩ := exists_of_bind h
    exact ⟨_, code, rfl, hex⟩
  all_goals cases h

/-- An escape that is read is passed over, the two halves of a pair one by one. -/
theorem skipStringFrom_escape {doc rest : Document} {c : Char} {n : Nat}
    (read : escapeAt doc = .ok (c, n)) (h : skipStringFrom n doc = .ok rest) :
    (escapeLength doc >>= fun m => skipStringFrom m doc) = .ok rest := by
  unfold escapeAt at read
  split at read
  · cases read
  · rename_i code
    obtain ⟨⟨_, k⟩, escape, same⟩ := exists_of_bind read
    cases same
    obtain ⟨value, hex, escape⟩ := exists_of_bind escape
    have length : escapeLength (some 'u' :: code) = .ok 5 := by rw [escapeLength, hex]; rfl
    rw [length]
    change skipStringFrom 5 (some 'u' :: code) = .ok rest
    split at escape
    · cases escape
    split at escape
    · obtain ⟨low, pair, same⟩ := exists_of_bind escape
      cases same
      obtain ⟨a, b, d, e, behind, rfl⟩ := exists_of_hexCode hex
      obtain ⟨second, value', rfl, hex'⟩ := exists_of_lowSurrogate pair
      obtain ⟨a', b', d', e', behind', rfl⟩ := exists_of_hexCode hex'
      change skipStringFrom 0 (some '\\' :: some 'u' :: _) = .ok rest
      rw [skipStringFrom, if_neg (by simp), if_pos rfl, escapeLength, hex']
      exact h
    · cases escape
      exact h
  · rename_i d more other
    split at read
    · rename_i letter
      cases read
      rw [escapeLength, letter]
      · exact h
      · exact other
    · cases read
  · cases read

/-- **A string that is read is passed over.** -/
theorem skipStringFrom_of_stringFrom {skip : Nat} {doc places rest : Document}
    (h : stringFrom skip doc = .ok (places, rest)) : skipStringFrom skip doc = .ok rest := by
  induction doc generalizing skip places with
  | nil => cases skip <;> cases h
  | cons unit doc ih =>
    cases skip with
    | succ skip => exact ih h
    | zero =>
      rw [stringFrom] at h
      rw [skipStringFrom]
      split at h
      case isTrue closing =>
        rw [if_pos closing]
        cases h
        rfl
      case isFalse more =>
        rw [if_neg more]
        split at h
        case isTrue escape =>
          obtain ⟨⟨c, n⟩, read, h⟩ := exists_of_bind h
          obtain ⟨⟨_, _⟩, body, same⟩ := exists_of_bind h
          cases same
          rw [if_pos escape]
          exact skipStringFrom_escape read (ih body)
        case isFalse plain =>
          rw [if_neg plain]
          split at h
          case isTrue => cases h
          case isFalse visible =>
            obtain ⟨⟨_, _⟩, body, same⟩ := exists_of_bind h
            cases same
            rw [if_neg visible]
            exact ih body

theorem skipScalar_of_stringBody {doc rest : Document} {x : String}
    (h : stringBody doc = .ok (x, rest)) : skipScalar (some '"' :: doc) = .ok rest := by
  obtain ⟨⟨places, behind⟩, body, h⟩ := exists_of_bind h
  dsimp only at h
  split at h
  · cases h
    exact skipStringFrom_of_stringFrom body
  · cases h

/-! ## 3. Lists and objects -/

/-- Inside a bracket a value is expected either as the first one or behind another one. -/
def placeOf : Bool → SkipPlace
  | true => .opened
  | false => .passed

section

variable {first : Bool} {b : Bracket} {xs : List Bracket} {doc inner value rest : Document}

theorem leads_list (h : skipBlanks doc = some '[' :: inner) :
    Leads 1 .atValue xs doc .opened (.list :: xs) inner := by
  have le := length_lt_of_skipBlanks h
  refine ⟨1, by omega, fun budget outer => ?_⟩
  rw [skipFrom, h]
  rfl

theorem leads_object (h : skipBlanks doc = some '\x7b' :: inner) :
    Leads 1 .atValue xs doc .opened (.object :: xs) inner := by
  have le := length_lt_of_skipBlanks h
  refine ⟨1, by omega, fun budget outer => ?_⟩
  rw [skipFrom, h]
  rfl

theorem leads_close (h : skipBlanks doc = some b.closing :: rest) :
    Leads 1 (placeOf first) (b :: xs) doc .passed xs rest := by
  have le := length_lt_of_skipBlanks h
  refine ⟨1, by omega, fun budget outer => ?_⟩
  have comma : some b.closing ≠ some ',' := by cases b <;> decide
  cases first with
  | true =>
    change skipFrom (budget + 1) .opened (b :: (xs ++ outer)) doc = _
    rw [skipFrom, h]
    exact if_pos rfl
  | false =>
    change skipFrom (budget + 1) .passed (b :: (xs ++ outer)) doc = _
    rw [skipFrom, h]
    exact (if_neg comma).trans (if_pos rfl)

section

variable {place : SkipPlace} {ys : List Bracket}
  (go : Leads 1 .atValue (b :: xs) value place ys rest)

include go

/-- The first value inside a bracket. -/
theorem leads_first {unit : Option Char} (h : skipBlanks doc = unit :: inner)
    (more : unit ≠ some b.closing) (before : beforeValue b (unit :: inner) = .ok value)
    (shorter : value.length ≤ inner.length + 1) : Leads 0 .opened (b :: xs) doc place ys rest := by
  have le := length_lt_of_skipBlanks h
  obtain ⟨k, costs, leads⟩ := go
  refine ⟨k + 1, by omega, fun budget outer => ?_⟩
  change skipFrom (budget + k + 1) .opened (b :: (xs ++ outer)) doc = _
  rw [skipFrom, h]
  refine (if_neg more).trans ?_
  rw [before]
  exact leads budget outer

/-- Any other one. -/
theorem leads_next (h : skipBlanks doc = some ',' :: inner)
    (before : beforeValue b inner = .ok value) (shorter : value.length ≤ inner.length) :
    Leads 0 .passed (b :: xs) doc place ys rest := by
  have le := length_lt_of_skipBlanks h
  obtain ⟨k, costs, leads⟩ := go
  refine ⟨k + 1, by omega, fun budget outer => ?_⟩
  change skipFrom (budget + k + 1) .passed (b :: (xs ++ outer)) doc = _
  rw [skipFrom, h]
  refine (if_pos rfl).trans ?_
  rw [before]
  exact leads budget outer

end

theorem leads_element (h : nextElement first doc = .ok (true, value)) (passes : Passes value rest) :
    Leads 0 (placeOf first) [.list] doc .passed [.list] rest := by
  unfold nextElement at h
  split at h
  case h_1 => cases h
  case h_2 => cases h
  case h_3 inner text =>
    split at h
    case isTrue isFirst =>
      cases h
      rw [isFirst]
      exact leads_first (passes.inside _) text (by decide) rfl (Nat.le_refl _)
    case isFalse isLater =>
      rw [Bool.eq_false_iff.mpr isLater]
      split at h
      · cases h
      · cases h
      · cases h
        exact leads_next (passes.of_skipBlanks.inside _) text rfl (Nat.le_refl _)
  case h_4 isMore isOpen _ =>
    split at h
    case isTrue isFirst =>
      cases h
      rw [isFirst]
      cases text : skipBlanks doc with
      | nil => exact absurd text isMore
      | cons unit inner =>
        rw [text] at passes
        refine leads_first (passes.inside _) text (fun closing => ?_) rfl (Nat.le_refl _)
        exact isOpen inner (closing ▸ text)
    case isFalse => cases h

theorem skipBlanks_of_nextElement (h : nextElement first doc = .ok (false, rest)) :
    skipBlanks doc = rest := by
  unfold nextElement at h
  split at h
  case h_1 => cases h
  case h_2 inner text =>
    cases h
    exact text
  case h_3 =>
    split at h
    · cases h
    · split at h <;> cases h
  case h_4 => split at h <;> cases h

theorem length_lt_of_colon (h : colon doc = .ok rest) : rest.length < doc.length := by
  unfold colon at h
  split at h
  · cases h
  · rename_i text
    cases h
    exact length_lt_of_skipBlanks text
  · cases h

/-- A key that is read is passed over with its colon. -/
theorem skipKey_of_read {key behind : Document} {name : String}
    (quote : keyQuote (skipBlanks doc) = .ok key) (body : stringBody key = .ok (name, behind))
    (h : colon behind = .ok value) :
    skipKey doc = .ok value ∧ value.length < (skipBlanks doc).length := by
  unfold keyQuote at quote
  split at quote
  · rename_i text
    cases quote
    have passed : skipStringFrom 0 key = .ok behind := skipScalar_of_stringBody body
    refine ⟨?_, ?_⟩
    · rw [skipKey, text]
      change (skipStringFrom 0 key >>= colon) = _
      rw [passed]
      exact h
    · have shorter := length_lt_of_colon h
      have string := length_lt_of_skipStringFrom passed
      rw [text, List.length_cons]
      omega
  · cases quote

/-- A member of an object comes next: its key, a colon, and a value that passes. -/
structure IsMember (first : Bool) (doc key behind value rest : Document) (name : String) : Prop where
  next : nextKey first doc = .ok (true, key)
  body : stringBody key = .ok (name, behind)
  colon : colon behind = .ok value
  passes : Passes value rest

theorem IsMember.leads {key behind : Document} {name : String}
    (member : IsMember first doc key behind value rest name) :
    Leads 0 (placeOf first) [.object] doc .passed [.object] rest := by
  obtain ⟨h, body, behindKey, passes⟩ := member
  unfold nextKey at h
  split at h
  case h_1 => cases h
  case h_2 => cases h
  case h_3 inner text =>
    split at h
    case isTrue => cases h
    case isFalse isLater =>
      rw [Bool.eq_false_iff.mpr isLater]
      split at h
      · cases h
      · cases h
      · obtain ⟨_, quote, same⟩ := exists_of_map h
        cases same
        obtain ⟨passed, shorter⟩ := skipKey_of_read quote body behindKey
        have le := length_skipBlanks_le inner
        exact leads_next (passes.inside _) text passed (by omega)
  case h_4 isMore isOpen _ =>
    split at h
    case isTrue isFirst =>
      obtain ⟨_, quote, same⟩ := exists_of_map h
      cases same
      rw [← skipBlanks_skipBlanks] at quote
      obtain ⟨passed, shorter⟩ := skipKey_of_read quote body behindKey
      rw [skipBlanks_skipBlanks] at shorter
      rw [isFirst]
      cases text : skipBlanks doc with
      | nil => exact absurd text isMore
      | cons unit inner =>
        rw [text] at passed shorter
        refine leads_first (passes.inside _) text (fun closing => ?_) passed (Nat.le_of_lt shorter)
        exact isOpen inner (closing ▸ text)
    case isFalse => cases h

theorem skipBlanks_of_nextKey (h : nextKey first doc = .ok (false, rest)) :
    skipBlanks doc = rest := by
  unfold nextKey at h
  split at h
  case h_1 => cases h
  case h_2 inner text =>
    cases h
    exact text
  case h_3 =>
    split at h
    · cases h
    · split at h
      · cases h
      · cases h
      · obtain ⟨_, -, same⟩ := exists_of_map h
        cases same
  case h_4 =>
    split at h
    · obtain ⟨_, -, same⟩ := exists_of_map h
      cases same
    · cases h

theorem skipBlanks_of_closeList (h : closeList doc = .ok rest) : skipBlanks doc = some ']' :: rest := by
  unfold closeList at h
  split at h
  · cases h
  · rename_i text
    cases h
    exact text
  · split at h <;> cases h
  · cases h

theorem skipBlanks_of_closeObject (h : closeObject doc = .ok rest) :
    skipBlanks doc = some '\x7d' :: rest := by
  unfold closeObject at h
  split at h
  · cases h
  · rename_i text
    cases h
    exact text
  · cases h
  · cases h

/-- Behind the last element the list is closed. -/
theorem leads_endList (next : nextElement first doc = .ok (false, inner))
    (close : closeList inner = .ok rest) : Leads 1 (placeOf first) [.list] doc .passed [] rest := by
  have text := skipBlanks_of_closeList close
  rw [← skipBlanks_of_nextElement next, skipBlanks_skipBlanks] at text
  exact leads_close (b := .list) text

/-- Behind the last member the object is closed. -/
theorem leads_endObject (next : nextKey first doc = .ok (false, inner))
    (close : closeObject inner = .ok rest) :
    Leads 1 (placeOf first) [.object] doc .passed [] rest := by
  have text := skipBlanks_of_closeObject close
  rw [← skipBlanks_of_nextKey next, skipBlanks_skipBlanks] at text
  exact leads_close (b := .object) text

end

/-! ## 4. Whatever is passed over -/

/-- The steps that are saved at a place. -/
def spareAt : SkipPlace → Nat
  | .atValue => 1
  | _ => 0

theorem length_le_of_beforeValue {b : Bracket} {doc value : Document}
    (h : beforeValue b doc = .ok value) : value.length ≤ doc.length := by
  cases b with
  | list =>
    cases h
    exact Nat.le_refl _
  | object =>
    change skipKey doc = _ at h
    unfold skipKey at h
    split at h
    · cases h
    · rename_i text
      obtain ⟨behind, string, h⟩ := exists_of_bind h
      have toKey := length_lt_of_skipBlanks text
      have toColon := length_lt_of_skipStringFrom string
      have toValue := length_lt_of_colon h
      omega
    · cases h

/-- **Passing over goes on in the same way inside of other brackets.** -/
theorem leads_of_skipFrom {budget : Nat} {place : SkipPlace} {inner : List Bracket}
    {doc rest : Document} (inside : place = .opened → inner ≠ [])
    (h : skipFrom budget place inner doc = .ok rest) :
    Leads (spareAt place) place inner doc .passed [] rest := by
  -- one step of the budget is one step here; what it saves pays for a bracket that was just opened
  induction budget generalizing place inner doc with
  | zero => cases h
  | succ budget ih =>
    cases place with
    | atValue =>
      rw [skipFrom] at h
      split at h
      · rename_i text
        exact (leads_list text).trans (ih (by simp) h)
      · rename_i text
        exact (leads_object text).trans (ih (by simp) h)
      · obtain ⟨behind, scalar, h⟩ := exists_of_bind h
        exact (leads_scalar scalar).trans (ih (by simp) h)
    | opened =>
      cases inner with
      | nil => exact absurd rfl (inside rfl)
      | cons b inner =>
        rw [skipFrom] at h
        split at h
        · cases h
        · rename_i unit more text
          split at h
          case isTrue closing =>
            rw [closing] at text
            have closed : Leads 1 (placeOf true) (b :: inner) doc .passed inner more :=
              leads_close text
            exact (closed.trans (ih (by simp) h)).mono (by decide)
          case isFalse isMore =>
            obtain ⟨value, before, h⟩ := exists_of_bind h
            exact leads_first (ih (by simp) h) text isMore before (length_le_of_beforeValue before)
    | passed =>
      cases inner with
      | nil =>
        cases h
        exact .refl ..
      | cons b inner =>
        rw [skipFrom] at h
        split at h
        · cases h
        · rename_i unit more text
          split at h
          case isTrue comma =>
            rw [comma] at text
            obtain ⟨value, before, h⟩ := exists_of_bind h
            exact leads_next (ih (by simp) h) text before (length_le_of_beforeValue before)
          case isFalse =>
            split at h
            case isTrue closing =>
              rw [closing] at text
              have closed : Leads 1 (placeOf false) (b :: inner) doc .passed inner more :=
                leads_close text
              exact (closed.trans (ih (by simp) h)).mono (by decide)
            case isFalse => cases h

/-- **A value passes just if it is passed over.** -/
theorem passes_iff {doc rest : Document} : Passes doc rest ↔ skipValue doc = .ok rest :=
  ⟨skipValue_of_passes, leads_of_skipFrom (by simp)⟩

end TrialProtocol.Json
