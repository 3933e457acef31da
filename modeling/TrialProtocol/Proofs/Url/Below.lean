import Mathlib.Data.List.Basic
import TrialProtocol.Proofs.Url.Written

/-!
# What lies below an address of the web

A text that is put below an address becomes a segment in escaped form: without tabs and ends of lines,
which no address holds, and not at all if it is a dot or two. So what lies below an address that is read
back is read back itself. It does not always lie where the text says: a text that is left out or changed
stands for nothing, and one that changes into two dots climbs.

* `IsAddressable`: texts that are neither left out nor changed.
* `IsCanonical.below`, `IsCanonical.withQuery`: what is made of an address is read back.
* `pushSegment_cases`, `isAddressable_of_text`: what becomes of a text.
* `text_folder`: the path that others are put behind.
-/

namespace TrialProtocol.Url

/-! ## 1. Spellings of dots -/

/-- The spellings of a text in small letters. -/
def spellings : List Char → List (List Char)
  | [] => [[]]
  | c :: s => (spellings s).flatMap fun t => [c :: t, c.toUpper :: t]

theorem mem_spellings {s : List Char} (ascii : ∀ c ∈ s, c.toNat < 0x80) :
    s ∈ spellings (s.map Char.toLower) := by
  induction s with
  | nil => exact List.mem_singleton_self _
  | cons c s ih =>
    have hc : c = c.toLower ∨ c = c.toLower.toUpper :=
      Text.of_ascii (p := fun c => c = c.toLower ∨ c = c.toLower.toUpper) (by decide)
        (ascii c (List.mem_cons_self ..))
    refine List.mem_flatMap.mpr ⟨s, ih fun d hd => ascii d (List.mem_cons_of_mem _ hd), ?_⟩
    rcases hc with hc | hc
    · rw [← hc]
      exact List.mem_cons_self ..
    · rw [← hc]
      exact List.mem_cons_of_mem _ (List.mem_singleton_self _)

/-- What holds of all spellings holds of the text. -/
theorem of_map_toLower {p : List Char → Prop} [DecidablePred p] {s t : List Char}
    (ascii : ∀ c ∈ s, c.toNat < 0x80) (h : s.map Char.toLower = t)
    (all : ((spellings t).all fun u => decide (p u)) = true) : p s := by
  have hs := mem_spellings ascii
  rw [h] at hs
  exact of_decide_eq_true (List.all_eq_true.mp all s hs)

/-- **However a dot segment is spelled, its escapes stand for dots.** -/
theorem decode?_of_isDot {s : Segment} (ascii : ∀ c ∈ s, c.toNat < 0x80) (h : isDot s = true) :
    Percent.decode? s = some ['.'] ∨ Percent.decode? s = some ['.', '.'] := by
  simp only [isDot, isSingleDot, isDoubleDot, Bool.or_eq_true, beq_iff_eq] at h
  have single {t} := of_map_toLower (p := fun s => Percent.decode? s = some ['.']) (t := t) ascii
  have double {t} :=
    of_map_toLower (p := fun s => Percent.decode? s = some ['.', '.']) (t := t) ascii
  rcases h with (h | h) | (((h | h) | h) | h)
  · exact .inl (single h (by decide))
  · exact .inl (single h (by decide))
  · exact .inr (double h (by decide))
  · exact .inr (double h (by decide))
  · exact .inr (double h (by decide))
  · exact .inr (double h (by decide))

/-! ## 2. The segment of a text -/

/-- A character that no address holds. -/
def isDropped (c : Char) : Bool :=
  c == '\t' || c == '\n' || c == '\r'

/-- The segment that a text becomes under a scheme of the web. -/
def segmentFor (s : List Char) : Segment :=
  Percent.encode (escapedInSegment true) (s.filter (!isDropped ·))

theorem isWritten_segmentFor (s : List Char) : IsWritten isUnfit (segmentFor s) := by
  refine isWritten_encode (by decide) (fun c hc => ?_) _
  simp only [escapedInSegment, Bool.true_and, Bool.or_eq_false_iff] at hc
  obtain ⟨⟨⟨path, slash⟩, -⟩, backslash⟩ := hc
  rw [isUnfit, path, isSlash, slash, backslash]
  rfl

theorem decode?_segmentFor (s : List Char) :
    Percent.decode? (segmentFor s) = some (s.filter (!isDropped ·)) :=
  Percent.decode?_encode (by decide) _

/-- **A text that stands for itself below an address.** -/
structure IsAddressable (s : List Char) : Prop where
  isDropped_eq : ∀ c ∈ s, isDropped c = false
  ne_dot : s ≠ ['.']
  ne_dots : s ≠ ['.', '.']

namespace IsAddressable

variable {s : List Char} (h : IsAddressable s)

include h

theorem filter_eq : s.filter (!isDropped ·) = s := by
  rw [List.filter_eq_self]
  intro c hc
  rw [h.isDropped_eq c hc]
  rfl

theorem decode? : Percent.decode? (segmentFor s) = some s := by
  rw [decode?_segmentFor, h.filter_eq]

theorem isSegment : IsSegment (segmentFor s) := by
  refine ⟨isWritten_segmentFor s, Bool.eq_false_iff.mpr fun dot => ?_⟩
  rcases decode?_of_isDot (fun c hc => (isWritten_segmentFor s c hc).1) dot with hd | hd
  · exact h.ne_dot (Option.some.inj (h.decode?.symm.trans hd))
  · exact h.ne_dots (Option.some.inj (h.decode?.symm.trans hd))

end IsAddressable

/-- Such texts have segments of their own. -/
theorem segmentFor_inj {s t : List Char} (hs : IsAddressable s) (ht : IsAddressable t)
    (h : segmentFor s = segmentFor t) : s = t := by
  have hd := hs.decode?
  rw [h, ht.decode?] at hd
  exact (Option.some.inj hd).symm

/-! ## 3. One segment more -/

/-- The segments that others are put behind: the root has none yet. -/
def folder (segments : List Segment) : List Segment :=
  if segments == [[]] then [] else segments

theorem mem_folder {segments : List Segment} {t : Segment} (h : t ∈ folder segments) :
    t ∈ segments := by
  unfold folder at h
  split at h
  · cases h
  · exact h

theorem folder_concat (front : List Segment) {last : Segment} (ne : last ≠ []) :
    folder (front ++ [last]) = front ++ [last] := by
  have hroot : front ++ [last] ≠ [[]] := by
    intro h
    have hlast := congrArg List.getLast? h
    rw [List.getLast?_concat] at hlast
    exact ne (Option.some.inj hlast)
  rw [folder, beq_eq_false_iff_ne.mpr hroot, if_neg Bool.false_ne_true]

section Push

variable {u : Url} (web : IsWeb u.scheme)

theorem pushSegment_of_dots (segments : List Segment) {s : List Char} (h : s = ['.'] ∨ s = ['.', '.']) :
    u.pushSegment segments s = segments := by
  have hdots : (s == ".".toList || s == "..".toList) = true := by
    rcases h with rfl | rfl <;> decide
  rw [pushSegment, if_pos hdots]

include web

theorem pushSegment_eq (segments : List Segment) {s : List Char} (dot : s ≠ ['.'])
    (dots : s ≠ ['.', '.']) :
    u.pushSegment segments s = finish false (folder segments) (segmentFor s) := by
  have hdots : (s == ".".toList || s == "..".toList) = false :=
    Bool.or_eq_false_iff.mpr ⟨beq_eq_false_iff_ne.mpr dot, beq_eq_false_iff_ne.mpr dots⟩
  rw [pushSegment, hdots, if_neg Bool.false_ne_true, beq_eq_false_iff_ne.mpr web.ne_file,
    web.isSpecial]
  rfl

/-- **A text that stands for itself becomes one segment more.** -/
theorem pushSegment_of_isAddressable (segments : List Segment) {s : List Char}
    (h : IsAddressable s) : u.pushSegment segments s = folder segments ++ [segmentFor s] := by
  rw [pushSegment_eq web segments h.ne_dot h.ne_dots, finish_of_isSegment h.isSegment.isDot_eq]

/-- What is dropped from a text makes no difference, if the rest stands for itself. -/
theorem pushSegment_filter (segments : List Segment) {s : List Char}
    (h : IsAddressable (s.filter (!isDropped ·))) :
    u.pushSegment segments (s.filter (!isDropped ·)) = u.pushSegment segments s := by
  have hdots : ∀ {t : List Char}, t.filter (!isDropped ·) = t → s.filter (!isDropped ·) ≠ t →
      s ≠ t := by
    intro t ht hne he
    rw [he, ht] at hne
    exact hne rfl
  have hsegment : segmentFor (s.filter (!isDropped ·)) = segmentFor s := by
    rw [segmentFor, h.filter_eq]
    rfl
  rw [pushSegment_eq web segments h.ne_dot h.ne_dots, hsegment,
    pushSegment_eq web segments (hdots (by decide) h.ne_dot) (hdots (by decide) h.ne_dots)]

/-- **What one text does behind a last segment**, if that is neither empty nor the letter of a drive:
    nothing, or it becomes a segment, or as a dot segment it ends the path there or one above. -/
theorem pushSegment_cases (done : List Segment) {last : Segment} (ne : last ≠ [])
    (drive : isDriveLetter last = false) (s : List Char) :
    ((s = ['.'] ∨ s = ['.', '.']) ∧ u.pushSegment (done ++ [last]) s = done ++ [last]) ∨
    ((s ≠ ['.'] ∧ s ≠ ['.', '.'] ∧ isDot (segmentFor s) = false) ∧
      u.pushSegment (done ++ [last]) s = done ++ [last] ++ [segmentFor s]) ∨
    (isDot (segmentFor s) = true ∧ (u.pushSegment (done ++ [last]) s = done ++ [last] ++ [[]] ∨
      u.pushSegment (done ++ [last]) s = done ++ [[]])) := by
  by_cases dots : s = ['.'] ∨ s = ['.', '.']
  · exact .inl ⟨dots, pushSegment_of_dots _ dots⟩
  refine .inr ?_
  rw [not_or] at dots
  rw [pushSegment_eq web _ dots.1 dots.2, folder_concat done ne]
  cases dot : isDot (segmentFor s) with
  | false => exact .inl ⟨⟨dots.1, dots.2, rfl⟩, finish_of_isSegment dot _⟩
  | true =>
    refine .inr ⟨rfl, ?_⟩
    rw [finish, if_pos dot, step]
    split
    · rw [climb, List.getLast?_concat, Option.any_some, drive, if_neg Bool.false_ne_true,
        List.dropLast_concat]
      exact .inr rfl
    · rename_i double
      rw [if_pos ((Bool.or_eq_true_iff.mp dot).resolve_right double)]
      exact .inl rfl

/-- Whatever text is put behind segments, they stay segments, and there is one. -/
theorem isSegment_of_mem_pushSegment {segments : List Segment} (each : ∀ t ∈ segments, IsSegment t)
    (ne : segments ≠ []) (s : List Char) :
    (∀ t ∈ u.pushSegment segments s, IsSegment t) ∧ u.pushSegment segments s ≠ [] := by
  by_cases dots : s = ['.'] ∨ s = ['.', '.']
  · rw [pushSegment_of_dots segments dots]
    exact ⟨each, ne⟩
  rw [not_or] at dots
  rw [pushSegment_eq web segments dots.1 dots.2]
  have hfolder : ∀ t ∈ folder segments, IsSegment t := fun t ht => each t (mem_folder ht)
  have hone : ∀ {done : List Segment} {last : Segment}, (∀ t ∈ done, IsSegment t) →
      IsSegment last → (∀ t ∈ done ++ [last], IsSegment t) ∧ done ++ [last] ≠ [] := fun hd ht =>
    ⟨List.forall_mem_append.mpr ⟨hd, List.forall_mem_singleton.mpr ht⟩, by simp⟩
  by_cases dot : isDot (segmentFor s) = true
  · -- a dot segment takes segments away, or none
    have hstep : ∀ t ∈ step false (folder segments) (segmentFor s), IsSegment t := by
      intro t ht
      unfold step at ht
      split at ht
      · exact hfolder t (mem_climb ht)
      · rename_i double
        have single : isSingleDot (segmentFor s) = true :=
          (Bool.or_eq_true_iff.mp dot).resolve_right double
        rw [if_pos single] at ht
        exact hfolder t ht
    rw [finish, if_pos dot]
    exact hone hstep isSegment_nil
  · have dot := Bool.eq_false_iff.mpr dot
    rw [finish_of_isSegment dot]
    exact hone hfolder ⟨isWritten_segmentFor s, dot⟩

theorem isSegment_of_mem_foldl (names : List (List Char)) {segments : List Segment}
    (each : ∀ t ∈ segments, IsSegment t) (ne : segments ≠ []) :
    (∀ t ∈ names.foldl u.pushSegment segments, IsSegment t) ∧
      names.foldl u.pushSegment segments ≠ [] := by
  induction names generalizing segments with
  | nil => exact ⟨each, ne⟩
  | cons s names ih =>
    obtain ⟨each, ne⟩ := isSegment_of_mem_pushSegment web each ne s
    exact ih each ne

end Push

/-! ## 4. What lies below -/

theorem mem_dropEmptyEnd {segments : List Segment} {t : Segment} (h : t ∈ dropEmptyEnd segments) :
    t ∈ segments := by
  unfold dropEmptyEnd at h
  split at h
  · exact List.dropLast_subset _ h
  · exact h

theorem dropEmptyEnd_ne_nil {segments : List Segment} (ne : segments ≠ []) :
    dropEmptyEnd segments ≠ [] := by
  unfold dropEmptyEnd
  split
  · rename_i h
    have hlong := of_decide_eq_true (Bool.and_eq_true_iff.mp h).1
    intro hnil
    have hlength := congrArg List.length hnil
    rw [List.length_dropLast, List.length_nil] at hlength
    omega
  · exact ne

theorem below_of_segments {u : Url} {segments : List Segment} (path : u.path = .segments segments)
    (names : List (List Char)) : u.below names =
      { u with
        path := .segments (names.foldl u.pushSegment (dropEmptyEnd segments))
        query := none
        fragment := none } := by
  rw [below, path]

/-- **What lies below an address that is read back is read back itself**, whatever texts were put
    there. -/
theorem IsCanonical.below {u : Url} (h : u.IsCanonical) (names : List (List Char)) :
    (u.below names).IsCanonical := by
  obtain ⟨segments, ne, path, each⟩ := h.path
  obtain ⟨each', ne'⟩ := isSegment_of_mem_foldl h.scheme names
    (fun t ht => each t (mem_dropEmptyEnd ht)) (dropEmptyEnd_ne_nil ne)
  rw [below_of_segments path]
  exact
    { scheme := h.scheme
      authority := h.authority
      path := ⟨_, ne', rfl, each'⟩
      query := fun q hq => by cases hq
      fragment := fun f hf => by cases hf }

theorem IsCanonical.withQuery {u : Url} (h : u.IsCanonical) (query : List Char) :
    (u.withQuery query).IsCanonical := by
  unfold Url.withQuery
  split
  · exact h
  · rw [h.scheme.isSpecial]
    exact
      { h with
        query := fun q hq => by
          rw [← Option.some.inj hq]
          exact isWritten_encode (by decide) (fun c hc => hc) _ }

/-! ## 5. Where it lies -/

/-- A path without one slash at its end. -/
def dropSlash (path : List Char) : List Char :=
  if path.getLast? = some '/' then path.dropLast else path

theorem dropSlash_slash (s : List Char) : dropSlash (s ++ ['/']) = s := by
  rw [dropSlash, List.getLast?_concat, if_pos rfl, List.dropLast_concat]

theorem dropSlash_concat (s : List Char) {c : Char} (h : c ≠ '/') :
    dropSlash (s ++ [c]) = s ++ [c] := by
  rw [dropSlash, List.getLast?_concat, if_neg fun he => h (Option.some.inj he)]

theorem dropEmptyEnd_nil {front : List Segment} (ne : front ≠ []) :
    dropEmptyEnd (front ++ [[]]) = front := by
  have hlong : 0 < front.length := List.length_pos_iff.mpr ne
  rw [dropEmptyEnd, List.getLast?_concat, List.length_append, List.length_singleton,
    decide_eq_true (by omega), if_pos (by rfl), List.dropLast_concat]

theorem dropEmptyEnd_concat (front : List Segment) {last : Segment} (ne : last ≠ []) :
    dropEmptyEnd (front ++ [last]) = front ++ [last] := by
  have hlast : (some last == some []) = false :=
    beq_eq_false_iff_ne.mpr fun h => ne (Option.some.inj h)
  rw [dropEmptyEnd, List.getLast?_concat, hlast, Bool.and_false, if_neg Bool.false_ne_true]

theorem text_concat (segments : List Segment) (s : Segment) :
    Path.text (.segments (segments ++ [s])) = Path.text (.segments segments) ++ '/' :: s := by
  simp only [Path.text, List.flatMap_append, List.flatMap_singleton]

/-- **Only a text that stands for itself becomes a segment that stands for it**: one that is left out
    adds none, and one that is changed adds none or another. -/
theorem isAddressable_of_text {u : Url} (web : IsWeb u.scheme) {done : List Segment} {last : Segment}
    (ne : last ≠ []) (drive : isDriveLetter last = false) {s segment : List Char}
    (text : Path.text (.segments (u.pushSegment (done ++ [last]) s)) =
      Path.text (.segments (done ++ [last])) ++ '/' :: segment)
    (decode : Percent.decode? segment = some s) : IsAddressable s := by
  obtain ⟨-, h⟩ | ⟨⟨dot, dots, -⟩, h⟩ | ⟨dot, h | h⟩ := pushSegment_cases web done ne drive s
  · -- left out
    rw [h] at text
    have hlength := congrArg List.length text
    rw [List.length_append, List.length_cons] at hlength
    omega
  · -- a segment, which says all that is kept of the text
    rw [h, text_concat] at text
    have hsegment : segmentFor s = segment := (List.cons.inj (List.append_cancel_left text)).2
    rw [← hsegment, decode?_segmentFor] at decode
    have hkept := List.filter_eq_self.mp (Option.some.inj decode)
    exact ⟨fun c hc => by simpa using hkept c hc, dot, dots⟩
  · -- an empty segment, which stands for no text that is changed
    rw [h, text_concat] at text
    have hsegment : [] = segment := (List.cons.inj (List.append_cancel_left text)).2
    have hnil : Percent.decode? [] = some [] := by decide
    rw [← hsegment, hnil] at decode
    rw [← Option.some.inj decode] at dot
    exact absurd dot (by decide)
  · -- no segment of the name before it is left
    rw [h, text_concat, text_concat] at text
    have hlength := congrArg List.length text
    simp only [List.length_append, List.length_cons, List.length_nil] at hlength
    omega

/-- **The path that others are put behind is written without a slash at its end**, unless there are two
    slashes and nothing else: then none is left. -/
theorem text_folder {segments : List Segment} (ne : segments ≠ [])
    (each : ∀ s ∈ segments, IsSegment s) :
    Path.text (.segments (folder (dropEmptyEnd segments))) =
      if segments = [[], []] then [] else dropSlash (Path.text (.segments segments)) := by
  obtain ⟨front, last, rfl⟩ := segments.eq_nil_or_concat'.resolve_left ne
  by_cases hlast : last = []
  · subst hlast
    rw [text_concat, dropSlash_slash]
    by_cases hfront : front = []
    · subst hfront
      decide
    by_cases hroot : front = [[]]
    · subst hroot
      decide
    have htwo : front ++ [[]] ≠ [[], []] := fun h =>
      hroot (List.append_cancel_right (h.trans (List.singleton_append (l := [[]])).symm))
    rw [dropEmptyEnd_nil hfront, folder, beq_eq_false_iff_ne.mpr hroot, if_neg Bool.false_ne_true,
      if_neg htwo]
  · obtain ⟨init, c, rfl⟩ := last.eq_nil_or_concat'.resolve_left hlast
    have hc : c ≠ '/' := by
      rintro rfl
      have hlast := each _ (List.mem_append_right _ (List.mem_singleton_self _))
      exact absurd (hlast.isSlash_eq '/' (by simp)) (by decide)
    have hend : ∀ {other : List Segment}, other.getLast? = some [] →
        front ++ [init ++ [c]] ≠ other := by
      rintro _ ho rfl
      rw [List.getLast?_concat] at ho
      exact hlast (Option.some.inj ho)
    rw [dropEmptyEnd_concat front hlast, folder, beq_eq_false_iff_ne.mpr (hend rfl),
      if_neg Bool.false_ne_true, if_neg (hend rfl), text_concat, ← List.cons_append,
      ← List.append_assoc, dropSlash_concat _ hc]

end TrialProtocol.Url
