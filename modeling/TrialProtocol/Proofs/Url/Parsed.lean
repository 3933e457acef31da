import TrialProtocol.Proofs.Url.Root

/-!
# Addresses that were read

A reader escapes what it has to, carries out dot segments, gives the host its proper form, and leaves
out a default port. So every address of the web that was read is one that is read back, and without a
user and without a path it is a root.

* `Yields`: what holds of a result, if there is one. Its lemmas follow the steps of a reader.
* `isCanonical_of_parse`: addresses of the web that were read.
* `isRoot_of_parse`: the root addresses among them.
-/

namespace TrialProtocol

/-! ## 1. What a reader yields -/

/-- Whatever the result is, it has the property. -/
def Yields {ε α : Type} (p : α → Prop) (x : Except ε α) : Prop :=
  ∀ a, x = .ok a → p a

namespace Yields

variable {ε α β : Type} {p : α → Prop} {q : β → Prop}

theorem ok {a : α} (h : p a) : Yields p (.ok a : Except ε α) := by
  intro b hb
  cases hb
  exact h

theorem error (e : ε) : Yields p (.error e) := by
  intro b hb
  cases hb

/-- The steps behind a failure do not matter. -/
theorem throw_bind (e : ε) (f : α → Except ε β) : Yields q (throw e >>= f) :=
  error e

theorem bind {x : Except ε α} {f : α → Except ε β} (hx : Yields p x)
    (hf : ∀ a, p a → Yields q (f a)) : Yields q (x >>= f) := by
  cases x with
  | error e => exact error e
  | ok a => exact hf a (hx a rfl)

theorem ite {c : Prop} [Decidable c] {x y : Except ε α} (hx : c → Yields p x)
    (hy : ¬c → Yields p y) : Yields p (if c then x else y) := by
  split
  · rename_i h
    exact hx h
  · rename_i h
    exact hy h

theorem mono {p' : α → Prop} {x : Except ε α} (h : Yields p x) (imp : ∀ a, p a → p' a) :
    Yields p' x :=
  fun a ha => imp a (h a ha)

end Yields

namespace Text

theorem readDigits_yields (limit acc : Nat) (s : List Char) (h : acc ≤ limit) :
    Yields (· ≤ limit) (readDigits limit acc s) := by
  induction s generalizing acc with
  | nil => exact .ok h
  | cons c s ih =>
    rw [readDigits]
    split
    · exact .error _
    · exact .ite (fun hle => ih _ hle) fun _ => .error _

/-- A number that is read is within the limit. -/
theorem readNat_yields (limit : Nat) (s : List Char) : Yields (· ≤ limit) (readNat limit s) := by
  unfold readNat
  split
  · exact .error _
  · exact .error _
  · exact readDigits_yields _ _ _ (Nat.zero_le _)
  · exact readDigits_yields _ _ _ (Nat.zero_le _)

end Text

namespace Url

/-! ## 2. Authorities -/

theorem readPort_yields (s : List Char) :
    Yields (fun r => ∀ port ∈ r.1, port ≤ 65535) (readPort s) := by
  unfold readPort
  simp only
  refine .ite (fun _ => .ok fun port hp => by cases hp) fun _ => .ite (fun _ => ?_) fun _ => .error _
  have hn := Text.readNat_yields 65535 (s.span (· != '\\')).1
  cases hr : Text.readNat 65535 (s.span (· != '\\')).1 with
  | error e => exact .error _
  | ok n =>
    refine .ok fun port hp => ?_
    cases hp
    exact hn n hr

/-- A user that is read is in escaped form. -/
theorem isWritten_userOf (s : List Char) :
    IsWritten escapedInUser (userOf s).1 ∧ IsWritten escapedInUser (userOf s).2 :=
  ⟨isWritten_encode (by decide) (fun _ h => h) _, isWritten_encode (by decide) (fun _ h => h) _⟩

/-- A port that is read, and left out if it is the default one. -/
theorem port_of_ite {scheme : String} {read : Option Nat} (h : ∀ port ∈ read, port ≤ 65535) :
    ∀ port ∈ (if read == defaultPort? scheme then none else read),
      port ≤ 65535 ∧ some port ≠ defaultPort? scheme := by
  intro port hp
  split at hp
  · cases hp
  · rename_i hne
    have hr : read = some port := hp
    refine ⟨h port hp, ?_⟩
    rw [← hr]
    simpa using hne

/-- **An authority that is read under a special scheme** is read back. -/
theorem readAuthority_yields {scheme : String} (special : isSpecial scheme = true) (isLast : Bool)
    (s : List Char) :
    Yields (fun r => r.1.IsKept scheme) (readAuthority scheme isLast s) := by
  unfold readAuthority
  extract_lets isSpec afterUser
  have hafter : ∀ x, Yields (fun r => r.1.IsKept scheme) (afterUser x) := by
    rintro ⟨info, text⟩
    simp -zeta only [afterUser]
    extract_lets withHost readHost
    have hhost : ∀ host : Host, host.IsProper →
        Yields (fun r => r.1.IsKept scheme) (withHost host) := by
      intro host hp
      simp -zeta only [withHost]
      extract_lets withPort readNext
      have hport : ∀ x : Option Nat × List Char, (∀ port ∈ x.1, port ≤ 65535) →
          Yields (fun r => r.1.IsKept scheme) (withPort x) := by
        intro x hx
        simp only [withPort]
        obtain ⟨user, password⟩ := isWritten_userOf info
        exact .ite (fun _ => .throw_bind _ _) fun _ => .ok ⟨user, password, hp, port_of_ite hx⟩
      refine .ite (fun _ => .throw_bind _ _) fun _ => ?_
      simp only [readNext]
      split
      · exact .bind (readPort_yields _) hport
      · exact .bind (.ok fun port hp => by cases hp) hport
    have hread : Yields (fun r => r.1.IsKept scheme) (readHost ()) := by
      simp only [readHost]
      refine .ite (fun _ => ?_) fun hn => absurd special hn
      exact .bind (fun host hr => Host.isProper_of_readDomain hr) hhost
    exact .ite (fun _ => .throw_bind _ _) fun _ => hread
  have hpure : ∀ x, Yields (fun r => r.1.IsKept scheme) (pure x >>= afterUser) :=
    fun x => hafter x
  split
  · exact hpure _
  · exact .ite (fun _ => hpure _) fun _ => .throw_bind _ _
  · exact hpure _

/-! ## 3. Paths -/

theorem mem_step {done : List Segment} {s t : Segment} (h : t ∈ step false done s) :
    t ∈ done ∨ t = s := by
  unfold step at h
  split at h
  · exact .inl (mem_climb h)
  split at h
  · exact .inl h
  · exact (List.mem_append.mp h).imp_right List.mem_singleton.mp

theorem mem_finish {done : List Segment} {s t : Segment} (h : t ∈ finish false done s) :
    t ∈ done ∨ t = s ∨ t = [] := by
  unfold finish at h
  split at h
  · rcases List.mem_append.mp h with h | h
    · exact (mem_step h).imp_right .inl
    · exact .inr (.inr (List.mem_singleton.mp h))
  · exact (List.mem_append.mp h).imp_right fun h => .inl (List.mem_singleton.mp h)

/-- A walk makes no segments of its own but the empty one. -/
theorem mem_walk {done segments : List Segment} {t : Segment} (h : t ∈ walk false done segments) :
    t ∈ done ∨ t ∈ segments ∨ t = [] := by
  induction segments generalizing done with
  | nil => exact .inl h
  | cons s rest ih =>
    cases rest with
    | nil =>
      rcases mem_finish (by exact h) with h | rfl | h
      · exact .inl h
      · exact .inr (.inl (List.mem_cons_self ..))
      · exact .inr (.inr h)
    | cons r rest =>
      rcases ih (by simpa [walk] using h) with h | h | h
      · rcases mem_step h with h | rfl
        · exact .inl h
        · exact .inr (.inl (List.mem_cons_self ..))
      · exact .inr (.inl (List.mem_cons_of_mem _ h))
      · exact .inr (.inr h)

theorem finish_ne_nil (done : List Segment) (s : Segment) : finish false done s ≠ [] := by
  unfold finish
  split
  · simp
  · rw [append_false]
    simp

theorem walk_ne_nil {segments : List Segment} (ne : segments ≠ []) (done : List Segment) :
    walk false done segments ≠ [] := by
  induction segments generalizing done with
  | nil => exact absurd rfl ne
  | cons s rest ih =>
    cases rest with
    | nil => exact finish_ne_nil done s
    | cons r rest =>
      have h := ih (by simp) (step false done s)
      simpa [walk] using h

/-- The segments of a text hold nothing that is unfit. -/
theorem isWritten_of_mem_segmentsOf {s : List Char} {t : Segment} (h : t ∈ segmentsOf true s) :
    IsWritten isUnfit t := by
  have hescape : ∀ c ∈ escapeChars, c.toNat < 0x80 ∧ isUnfit c = false := Text.of_all (by decide)
  obtain ⟨part, hpart, rfl⟩ := List.mem_map.mp h
  intro c hc
  rcases mem_encode hc with hc | ⟨hc, ascii, free⟩
  · exact hescape c hc
  · have hslash : isSlash c = false := (Text.of_mem_splitBy hpart hc).2
    exact ⟨ascii, Bool.or_eq_false_iff.mpr ⟨free, hslash⟩⟩

/-- **A path that is read is made of segments that are read back.** -/
theorem isSegment_of_mem_walk {s : List Char} {t : Segment}
    (h : t ∈ walk false [] (segmentsOf true s)) : IsSegment t := by
  have hdot : isDot t = false := isDot_of_mem_walk (List.forall_mem_nil _) h
  rcases mem_walk h with h | h | rfl
  · cases h
  · exact ⟨isWritten_of_mem_segmentsOf h, hdot⟩
  · exact isSegment_nil

/-- A path behind an authority. -/
theorem pathAfterAuthority_eq (s : List Char) : ∃ segments, segments ≠ [] ∧
    pathAfterAuthority true s = .segments segments ∧ ∀ t ∈ segments, IsSegment t := by
  cases s with
  | nil => exact ⟨[[]], by simp, rfl, List.forall_mem_singleton.mpr isSegment_nil⟩
  | cons c rest =>
    refine ⟨_, walk_ne_nil ?_ [], rfl, fun t ht => isSegment_of_mem_walk ht⟩
    rw [segmentsOf]
    exact fun h => Text.splitBy_ne_nil _ _ (List.map_eq_nil_iff.mp h)

/-! ## 4. Addresses -/

/-- What stands behind a path is escaped there. -/
theorem isCanonical_withTail {u : Url} (web : IsWeb u.scheme)
    (authority : ∃ a, u.authority = some a ∧ a.IsKept u.scheme)
    (path : ∃ segments, segments ≠ [] ∧ u.path = .segments segments ∧ ∀ s ∈ segments, IsSegment s)
    (tail : Tail) : (withTail u tail).IsCanonical where
  scheme := web
  authority := authority
  path := path
  query q hq := by
    obtain ⟨text, -, rfl⟩ := Option.map_eq_some_iff.mp hq
    rw [web.isSpecial]
    exact isWritten_encode (by decide) (fun _ h => h) _
  fragment f hf := by
    obtain ⟨text, -, rfl⟩ := Option.map_eq_some_iff.mp hf
    exact isWritten_encode (by decide) (fun _ h => h) _

/-- **An address of the web that is read from its authority on** is read back. -/
theorem readFromAuthority_yields (scheme : String) (s : List Char) (tail : Tail) :
    Yields (fun u => u.scheme = scheme ∧ (IsWeb scheme → u.IsCanonical))
      (readFromAuthority scheme s tail) := by
  unfold readFromAuthority
  extract_lets isSpec
  refine .bind (p := fun r => IsWeb scheme → r.1.IsKept scheme) ?_
    fun r hr => .ok ⟨rfl, fun web => ?_⟩
  · exact fun r hr web => readAuthority_yields web.isSpecial _ _ r hr
  · refine isCanonical_withTail web ⟨r.1, rfl, hr web⟩ ?_ tail
    simp only [isSpec, web.isSpecial]
    exact pathAfterAuthority_eq _

theorem readFileRoot_scheme (s : List Char) (tail : Tail) :
    (readFile.readFileRoot none s tail).scheme = fileScheme := by
  unfold readFile.readFileRoot
  split <;> rfl

theorem readFromFileHost_yields (s : List Char) (tail : Tail) :
    Yields (fun u => u.scheme = fileScheme) (readFromFileHost s tail) := by
  unfold readFromFileHost
  refine .ite (fun _ => .ok rfl) fun _ => ?_
  exact .bind (p := fun _ => True) (fun _ _ => trivial) fun host _ => .ok rfl

/-- An address of a local file has the scheme of local files. -/
theorem readFile_yields (s : List Char) (tail : Tail) :
    Yields (fun u => u.scheme = fileScheme) (readFile none s tail) := by
  unfold readFile
  split
  · rename_i c rest
    refine .ite (fun _ => ?_) fun _ => .ok rfl
    split
    · rename_i d more
      exact .ite (fun _ => readFromFileHost_yields _ _) fun _ => .ok (readFileRoot_scheme _ _)
    · exact .ok (readFileRoot_scheme _ _)
  · rename_i hnone
    cases hnone
  · exact .ok rfl

/-- **An address of the web that was read is read back.** -/
theorem isCanonical_of_parse {s : List Char} {u : Url} (h : parse s = .ok u) (web : IsWeb u.scheme) :
    u.IsCanonical := by
  have hscheme : ∀ name rest tail, Yields (fun u => IsWeb u.scheme → u.IsCanonical)
      (readScheme none name rest tail) := by
    intro name rest tail
    have hauthority : ∀ text, Yields (fun u => IsWeb u.scheme → u.IsCanonical)
        (readFromAuthority name text tail) := by
      refine fun text => (readFromAuthority_yields name text tail).mono fun u hu web => ?_
      obtain ⟨rfl, hu⟩ := hu
      exact hu web
    unfold readScheme
    refine .ite (fun _ => ?_) fun _ => .ite (fun hs => hauthority _) fun hs => ?_
    · exact (readFile_yields rest tail).mono fun u hu web => absurd hu web.ne_file
    · have hname : ∀ v : Url, v.scheme = name → IsWeb v.scheme → v.IsCanonical :=
        fun v hv web => absurd (hv ▸ web.isSpecial) hs
      split
      · exact hauthority _
      · exact .ok (hname _ rfl)
      · exact .ok (hname _ rfl)
  unfold parse read at h
  simp only at h
  split at h
  · exact hscheme _ _ _ u h web
  · cases h
  · rename_i hnone
    cases hnone

/-- **An address under `http` that is read, without a user and without a path, is a root.** -/
theorem isRoot_of_parse {s : List Char} {u : Url} {a : Authority} (h : parse s = .ok u)
    (scheme : u.scheme = "http") (authority : u.authority = some a) (user : a.user = [])
    (password : a.password = []) (path : u.path = .segments [[]]) : u.IsRoot a := by
  obtain ⟨b, hb, kept⟩ := (isCanonical_of_parse h (.inl scheme)).authority
  rw [authority] at hb
  cases hb
  have hdefault : defaultPort? "http" = some 80 := by decide
  refine ⟨scheme, authority, path, user, password, kept.host, fun n hn => ?_⟩
  obtain ⟨hle, hne⟩ := kept.port n hn
  refine ⟨hle, fun he => hne ?_⟩
  rw [scheme, hdefault, he]

end Url

end TrialProtocol
