import TrialProtocol.Proofs.Url.Below

/-!
# Addresses below the root of a server

What a client makes of the root address of a server: the addresses below it, what is written for them,
and what is read from that.

* `below_eq`: each name becomes one segment.
* `isCanonical_withTarget`: such an address, written and read again, is the same address.
* `join_path`: a link that is a path leads there, from wherever on the server it was followed.
-/

namespace TrialProtocol.Url

/-! ## 1. Names as segments -/

/-- A text that becomes a segment of a path as it is. -/
structure IsName (s : List Char) : Prop where
  ne_nil : s ≠ []
  isPlain : ∀ c ∈ s, Text.isPlain c = true ∧ c ≠ '/'
  isDot_eq : isDot s = false

/-- A text that begins with neither a dot nor an escape is no dot segment. -/
theorem isDot_of_head {c : Char} {s : List Char} (dot : c.toLower ≠ '.') (escape : c.toLower ≠ '%') :
    isDot (c :: s) = false := by
  have hd : ∀ t : List Char, (c.toLower :: s.map Char.toLower == '.' :: t) = false := fun t =>
    beq_eq_false_iff_ne.mpr fun h => dot (List.cons.inj h).1
  have he : ∀ t : List Char, (c.toLower :: s.map Char.toLower == '%' :: t) = false := fun t =>
    beq_eq_false_iff_ne.mpr fun h => escape (List.cons.inj h).1
  have hsingle : isSingleDot (c :: s) = false := by
    have h := Bool.or_eq_false_iff.mpr ⟨hd [], he ['2', 'e']⟩
    exact h
  have hdouble : isDoubleDot (c :: s) = false := by
    have h := Bool.or_eq_false_iff.mpr ⟨Bool.or_eq_false_iff.mpr ⟨Bool.or_eq_false_iff.mpr
      ⟨hd ['.'], hd ['%', '2', 'e']⟩, he ['2', 'e', '.']⟩, he ['2', 'e', '%', '2', 'e']⟩
    exact h
  rw [isDot, hsingle, hdouble]
  rfl

/-- Nothing in a name is escaped where no more than what is not plain and the slash are. -/
theorem isWritten_of_isName {s : List Char} (h : IsName s) {escaped : Char → Bool}
    (free : ∀ n, n < 128 → Text.isPlain (Char.ofNat n) = true → Char.ofNat n ≠ '/' →
      escaped (Char.ofNat n) = false) : IsWritten escaped s := by
  intro c hc
  obtain ⟨hp, hs⟩ := h.isPlain c hc
  refine ⟨Text.toNat_lt_of_isPlain hp, ?_⟩
  revert hs
  exact Text.of_isPlain (p := fun c => c ≠ '/' → escaped c = false) free hp

theorem IsName.isSegment {s : List Char} (h : IsName s) : IsSegment s where
  written := isWritten_of_isName h (by decide)
  isDot_eq := h.isDot_eq

theorem IsName.isAddressable {s : List Char} (h : IsName s) : IsAddressable s where
  isDropped_eq c hc := (isWritten_of_isName h (by decide) c hc).2
  ne_dot := by
    rintro rfl
    exact absurd h.isDot_eq (by decide)
  ne_dots := by
    rintro rfl
    exact absurd h.isDot_eq (by decide)

/-- A name is its own segment. -/
theorem segmentFor_of_isName {s : List Char} (h : IsName s) : segmentFor s = s := by
  rw [segmentFor, h.isAddressable.filter_eq, (isWritten_of_isName h (by decide)).encode_eq]

theorem isSegment_of_isName {names : List Segment} (h : ∀ s ∈ names, IsName s) :
    ∀ s ∈ names, IsSegment s :=
  fun s hs => (h s hs).isSegment

/-! ## 2. The root of a server -/

/-- An authority without a user, of a proper host, with a port that is not the default one. -/
structure Authority.IsProper (a : Authority) : Prop where
  user_eq : a.user = []
  password_eq : a.password = []
  host : a.host.IsProper
  port : ∀ port ∈ a.port, port ≤ 65535 ∧ port ≠ 80

theorem Authority.IsProper.isKept {a : Authority} (h : a.IsProper) : a.IsKept "http" where
  user := by
    rw [h.user_eq]
    exact isWritten_nil _
  password := by
    rw [h.password_eq]
    exact isWritten_nil _
  host := h.host
  port port hp := by
    have hdefault : defaultPort? "http" = some 80 := by decide
    rw [hdefault]
    exact ⟨(h.port port hp).1, fun he => (h.port port hp).2 (Option.some.inj he)⟩

/-- The root address of a server under `http`. -/
structure IsRoot (u : Url) (a : Authority) : Prop where
  scheme_eq : u.scheme = "http"
  authority_eq : u.authority = some a
  path_eq : u.path = .segments [[]]
  proper : a.IsProper

theorem IsRoot.isWeb {u : Url} {a : Authority} (root : u.IsRoot a) : IsWeb u.scheme :=
  .inl root.scheme_eq

/-- The address with another path and query. -/
def withTarget (u : Url) (names : List Segment) (query : Option (List Char)) : Url :=
  { u with path := .segments names, query := query, fragment := none }

/-- A query that is left out if it is empty. -/
def someQuery (query : List Char) : Option (List Char) :=
  if query.isEmpty then none else some query

theorem isWritten_query {query : List Char} (h : ∀ c ∈ query, Text.isQueryChar c = true) :
    IsWritten (escapedInQuery true) query := fun c hc =>
  Text.of_isQueryChar (p := fun c => c.toNat < 128 ∧ escapedInQuery true c = false) (by decide)
    (h c hc)

/-- Such a query is in escaped form. -/
theorem isWritten_someQuery {query : List Char} (h : ∀ c ∈ query, Text.isQueryChar c = true) :
    ∀ q ∈ someQuery query, IsWritten (escapedInQuery true) q := by
  intro q hq
  unfold someQuery at hq
  split at hq
  · cases hq
  · rw [← Option.some.inj hq]
    exact isWritten_query h

/-- A query in escaped form is put behind an address as it is. -/
theorem withQuery_of_isWritten {u : Url} (web : IsWeb u.scheme) (none : u.query = none)
    {query : List Char} (h : IsWritten (escapedInQuery true) query) :
    u.withQuery query = { u with query := someQuery query } := by
  unfold withQuery someQuery
  split
  · rw [← none]
  · rw [web.isSpecial, h.encode_eq]

section Below

variable {u : Url} {a : Authority} (root : u.IsRoot a)

include root

theorem foldl_pushSegment {names : List (List Char)} (h : ∀ s ∈ names, IsName s)
    {done : List Segment} (ne : done ≠ [[]]) :
    names.foldl u.pushSegment done = done ++ names := by
  induction names generalizing done with
  | nil => rw [List.foldl_nil, List.append_nil]
  | cons s names ih =>
    have hs := h s (List.mem_cons_self ..)
    have hne : done ++ [s] ≠ [[]] := by
      intro he
      have hlast := congrArg List.getLast? he
      rw [List.getLast?_append, List.getLast?_singleton, Option.some_or] at hlast
      exact hs.ne_nil (Option.some.inj hlast)
    rw [List.foldl_cons, pushSegment_of_isAddressable root.isWeb done hs.isAddressable,
      segmentFor_of_isName hs, folder, beq_eq_false_iff_ne.mpr ne, if_neg Bool.false_ne_true,
      ih (fun t ht => h t (List.mem_cons_of_mem _ ht)) hne, List.append_assoc]
    rfl

/-- **Each name becomes one segment below the root.** -/
theorem below_eq {names : List (List Char)} (ne : names ≠ []) (h : ∀ s ∈ names, IsName s) :
    u.below names = u.withTarget names none := by
  obtain ⟨s, names, rfl⟩ := List.exists_cons_of_ne_nil ne
  have hs := h s (List.mem_cons_self ..)
  have hne : [s] ≠ ([[]] : List Segment) := fun he => hs.ne_nil (List.cons.inj he).1
  have hroot : folder (dropEmptyEnd [[]]) = [] := by decide
  rw [below_of_segments root.path_eq, List.foldl_cons,
    pushSegment_of_isAddressable root.isWeb _ hs.isAddressable, segmentFor_of_isName hs, hroot,
    List.nil_append, foldl_pushSegment root (fun t ht => h t (List.mem_cons_of_mem _ ht)) hne]
  rfl

/-- The query is not changed by the address. -/
theorem withQuery_eq {names : List Segment} {query : List Char}
    (h : ∀ c ∈ query, Text.isQueryChar c = true) :
    (u.withTarget names none).withQuery query = u.withTarget names (someQuery query) :=
  withQuery_of_isWritten (u := u.withTarget names none) root.isWeb rfl (isWritten_query h)

/-- **An address below the root is read back** from what is written for it. -/
theorem isCanonical_withTarget {names : List Segment} (ne : names ≠ [])
    (h : ∀ s ∈ names, IsName s) {query : List Char} (hq : ∀ c ∈ query, Text.isQueryChar c = true) :
    (u.withTarget names (someQuery query)).IsCanonical where
  scheme := root.isWeb
  authority := ⟨a, root.authority_eq, by
    rw [withTarget, root.scheme_eq]
    exact root.proper.isKept⟩
  path := ⟨names, ne, rfl, isSegment_of_isName h⟩
  query := isWritten_someQuery hq
  fragment f hf := by cases hf

end Below

/-! ## 3. Links that are paths -/

/-- A joined text of names begins with no slash. -/
theorem exists_join_eq_cons {names : List Segment} (ne : names ≠ []) (h : ∀ s ∈ names, IsName s) :
    ∃ c cs, Text.join ['/'] names = c :: cs ∧ isSlash c = false := by
  obtain ⟨s, rest, rfl⟩ := List.exists_cons_of_ne_nil ne
  have hs := h s (List.mem_cons_self ..)
  obtain ⟨c, cs, rfl⟩ := List.exists_cons_of_ne_nil hs.ne_nil
  have hc : isSlash c = false := hs.isSegment.isSlash_eq c (List.mem_cons_self ..)
  by_cases hn : rest = []
  · rw [hn]
    exact ⟨c, cs, rfl, hc⟩
  · rw [Text.join_cons_of_ne_nil hn]
    exact ⟨c, _, rfl, hc⟩

/-- **A link that is a path leads to that path** on the server of the base, whatever path and query
    the base itself has. -/
theorem join_path {u : Url} (scheme : u.scheme = "http") (tall : u.isFlat = false)
    {names : List Segment} (ne : names ≠ []) (h : ∀ s ∈ names, IsName s)
    {query : List Char} (hq : ∀ c ∈ query, Text.isQueryChar c = true) :
    u.join ('/' :: Text.join ['/'] names ++ markedText '?' (someQuery query)) =
      .ok (u.withTarget names (someQuery query)) := by
  have web : IsWeb u.scheme := .inl scheme
  have hslash : isBeforeQuery '/' = true := by decide
  have hbefore : ∀ c ∈ '/' :: Text.join ['/'] names, isBeforeQuery c = true :=
    List.forall_mem_cons.mpr ⟨hslash, isBeforeQuery_join (isSegment_of_isName h)⟩
  have hcut := @cutTail_clean _ { query := someQuery query } hbefore (isWritten_someQuery hq)
    fun f hf => by cases hf
  rw [markedText, List.append_nil] at hcut
  obtain ⟨c, cs, hc, hslash⟩ := exists_join_eq_cons ne h
  have hnone : readScheme? ('/' :: Text.join ['/'] names) = none := by
    have hslash : isSchemeChar '/' = false := by decide
    rw [readScheme?, List.span_eq_takeWhile_dropWhile, List.takeWhile_cons, hslash]
    rfl
  have hrelative : readRelative u ('/' :: Text.join ['/'] names) { query := someQuery query } =
      .ok (u.withTarget names (someQuery query)) := by
    have hs : isSlash '/' = true := by decide
    have hwalk : walk false [] (segmentsOf true (c :: cs)) = names := by
      rw [← hc, segmentsOf_join ne (isSegment_of_isName h), walk_of_isSegment (isSegment_of_isName h),
        List.nil_append]
    rw [hc, readRelative]
    simp only [hs, hslash, if_true, Bool.false_eq_true, if_false, web.isSpecial, hwalk]
    rw [withTail_eq (by exact web.isSpecial) (isWritten_someQuery hq) fun f hf => by cases hf]
    rfl
  rw [join, read, hcut]
  simp only [hnone, tall, List.isEmpty_cons, Bool.false_and, Bool.false_eq_true, if_false,
    if_neg web.ne_file]
  exact hrelative

end TrialProtocol.Url
