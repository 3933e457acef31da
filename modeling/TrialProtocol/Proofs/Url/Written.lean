import Mathlib.Data.List.TakeDrop
import Mathlib.Data.List.TakeWhile
import TrialProtocol.Proofs.Url.Host
import TrialProtocol.Url.Reader

/-!
# Addresses are read back

An address of the web has an authority and a path, and each of its parts holds what is not allowed there
only as escapes. So nothing in it can be mistaken for the end of a part, nothing is escaped a second
time, and no segment is carried out as a dot segment: what is written for the address is read as that
address, on its own and as a link from any other address.

* `IsWritten`: a text that is in escaped form, as `isWritten_encode` makes it.
* `Authority.IsKept`, `IsSegment`: authorities and segments of paths that are read back.
* `read_text`: so are the addresses made of them.
-/

namespace TrialProtocol.Url

/-! ## 1. Escaped texts -/

/-- A text in ASCII without a character that is escaped where the text stands. -/
def IsWritten (escaped : Char → Bool) (s : List Char) : Prop :=
  ∀ c ∈ s, c.toNat < 0x80 ∧ escaped c = false

theorem isWritten_nil (escaped : Char → Bool) : IsWritten escaped [] :=
  List.forall_mem_nil _

/-- Nothing in it is escaped again. -/
theorem IsWritten.encode_eq {escaped : Char → Bool} {s : List Char} (h : IsWritten escaped s) :
    Percent.encode escaped s = s :=
  Text.encode_of_not_escaped h

/-- The characters of escapes. -/
def escapeChars : List Char := "%0123456789ABCDEF".toList

theorem mem_escapeChars {b : UInt8} {c : Char} (h : c ∈ Percent.escape b) : c ∈ escapeChars := by
  have hb : b.toNat < 256 := b.toNat_lt
  have digit : ∀ k : Fin 16, Text.upperHexDigit k.val ∈ escapeChars := by decide
  simp only [Percent.escape, List.mem_cons, List.not_mem_nil, or_false] at h
  rcases h with rfl | rfl | rfl
  · decide
  · exact digit ⟨b.toNat / 16, by omega⟩
  · exact digit ⟨b.toNat % 16, by omega⟩

/-- What stands in an escaped text belongs to an escape or stayed as it was. -/
theorem mem_encode {escaped : Char → Bool} {s : List Char} {c : Char}
    (h : c ∈ Percent.encode escaped s) :
    c ∈ escapeChars ∨ (c ∈ s ∧ c.toNat < 0x80 ∧ escaped c = false) := by
  obtain ⟨d, hd, hc⟩ := List.mem_flatMap.mp h
  rw [Percent.encodeChar] at hc
  split at hc
  · obtain ⟨b, -, hb⟩ := List.mem_flatMap.mp hc
    exact .inl (mem_escapeChars hb)
  · rename_i kept
    rw [List.mem_singleton.mp hc]
    simp only [Bool.or_eq_true, decide_eq_true_eq, not_or, Bool.not_eq_true] at kept
    exact .inr ⟨hd, by omega, kept.2⟩

/-- **A text that was escaped is in escaped form**, also for a place where less is escaped. -/
theorem isWritten_encode {escaped other : Char → Bool}
    (escapes : escapeChars.all (fun c => !other c) = true)
    (less : ∀ c, escaped c = false → other c = false) (s : List Char) :
    IsWritten other (Percent.encode escaped s) := by
  intro c hc
  rcases mem_encode hc with hc | ⟨-, ascii, kept⟩
  · have hascii : ∀ d ∈ escapeChars, d.toNat < 0x80 := Text.of_all (by decide)
    exact ⟨hascii c hc, by simpa using List.all_eq_true.mp escapes c hc⟩
  · exact ⟨ascii, less c kept⟩

/-! ## 2. Segments -/

/-- A character that no segment holds: it is escaped in a path, or ends the segment. -/
def isUnfit (c : Char) : Bool :=
  escapedInPath c || isSlash c

/-- **A segment that is read back**: it is in escaped form without a slash, and is no dot segment. -/
structure IsSegment (s : Segment) : Prop where
  written : IsWritten isUnfit s
  isDot_eq : isDot s = false

theorem isSegment_nil : IsSegment [] :=
  ⟨isWritten_nil _, isDot_nil⟩

theorem IsSegment.isSlash_eq {s : Segment} (h : IsSegment s) : ∀ c ∈ s, isSlash c = false :=
  fun c hc => (Bool.or_eq_false_iff.mp (h.written c hc).2).2

theorem IsSegment.encode_eq {s : Segment} (h : IsSegment s) : Percent.encode escapedInPath s = s :=
  IsWritten.encode_eq fun c hc =>
    (h.written c hc).imp_right fun free => (Bool.or_eq_false_iff.mp free).1

theorem append_false (done : List Segment) (s : Segment) : append false done s = done ++ [s] :=
  rfl

theorem finish_of_isSegment {s : Segment} (h : isDot s = false) (done : List Segment) :
    finish false done s = done ++ [s] := by
  rw [finish, h]
  rfl

theorem step_of_isSegment {s : Segment} (h : isDot s = false) (done : List Segment) :
    step false done s = done ++ [s] := by
  obtain ⟨single, double⟩ := Bool.or_eq_false_iff.mp h
  rw [step, double, single]
  rfl

/-- Such segments are carried out one behind the other. -/
theorem walk_of_isSegment {segments : List Segment} (h : ∀ s ∈ segments, IsSegment s)
    (done : List Segment) : walk false done segments = done ++ segments := by
  induction segments generalizing done with
  | nil => rw [walk, List.append_nil]
  | cons s segments ih =>
    have hs := (h s (List.mem_cons_self ..)).isDot_eq
    cases segments with
    | nil => rw [walk, finish_of_isSegment hs]
    | cons next segments =>
      rw [walk, step_of_isSegment hs, ih fun t ht => h t (List.mem_cons_of_mem _ ht),
        List.append_assoc]
      · rfl
      · simp

/-- The path that the segments are written as. -/
theorem text_segments {segments : List Segment} (ne : segments ≠ []) :
    Path.text (.segments segments) = '/' :: Text.join ['/'] segments := by
  induction segments with
  | nil => exact absurd rfl ne
  | cons s segments ih =>
    by_cases hn : segments = []
    · rw [hn]
      simp [Path.text, Text.join]
    · have hs : Path.text (.segments (s :: segments)) =
          ('/' :: s) ++ Path.text (.segments segments) := by
        simp only [Path.text, List.flatMap_cons]
      rw [hs, ih hn, Text.join_cons_of_ne_nil hn]
      simp

/-- **A written path is cut into its segments.** -/
theorem segmentsOf_join {segments : List Segment} (ne : segments ≠ [])
    (h : ∀ s ∈ segments, IsSegment s) : segmentsOf true (Text.join ['/'] segments) = segments := by
  have hslash : ∀ s ∈ segments, ∀ c ∈ s, (c == '/' || (true && c == '\\')) = false :=
    fun s hs c hc => (h s hs).isSlash_eq c hc
  have hsplit : Text.splitBy (fun c => c == '/' || (true && c == '\\'))
      (Text.join ['/'] segments) = segments := Text.splitBy_join ne hslash (by decide)
  have hid : ∀ s ∈ segments, Percent.encode escapedInPath s = id s := fun s hs =>
    (h s hs).encode_eq
  rw [segmentsOf, hsplit]
  exact (List.map_congr_left hid).trans (List.map_id _)

/-- Different segments are written differently. -/
theorem segments_inj {segments others : List Segment} (ne : segments ≠ [])
    (each : ∀ s ∈ segments, IsSegment s) (ne' : others ≠ []) (each' : ∀ s ∈ others, IsSegment s)
    (h : Path.text (.segments segments) = Path.text (.segments others)) : segments = others := by
  rw [text_segments ne, text_segments ne'] at h
  rw [← segmentsOf_join ne each, (List.cons.inj h).2, segmentsOf_join ne' each']

/-! ## 3. Schemes -/

/-- The schemes of the web. -/
def IsWeb (scheme : String) : Prop :=
  scheme = "http" ∨ scheme = "https"

theorem IsWeb.isSpecial {scheme : String} (h : IsWeb scheme) : isSpecial scheme = true := by
  rcases h with rfl | rfl <;> decide

theorem IsWeb.ne_file {scheme : String} (h : IsWeb scheme) : scheme ≠ fileScheme := by
  rcases h with rfl | rfl <;> decide

theorem readScheme?_of_chars {c : Char} {cs rest : List Char}
    (h : (c :: cs).all (fun d => isSchemeChar d && d.toLower == d) = true) (letter : c.isAlpha = true) :
    readScheme? (c :: cs ++ ':' :: rest) = some (String.ofList (c :: cs), rest) := by
  have hchar : ∀ d ∈ c :: cs, isSchemeChar d = true := fun d hd =>
    (Bool.and_eq_true_iff.mp (List.all_eq_true.mp h d hd)).1
  have hlower : ∀ d ∈ c :: cs, d.toLower = id d := fun d hd =>
    eq_of_beq (Bool.and_eq_true_iff.mp (List.all_eq_true.mp h d hd)).2
  have hcolon : isSchemeChar ':' = false := by decide
  have hspan : (c :: cs ++ ':' :: rest).span isSchemeChar = (c :: cs, ':' :: rest) := by
    rw [List.span_eq_takeWhile_dropWhile, List.takeWhile_append_of_pos hchar,
      List.dropWhile_append_of_pos hchar, List.takeWhile_cons_of_neg (by simp [hcolon]),
      List.dropWhile_cons_of_neg (by simp [hcolon]), List.append_nil]
  rw [readScheme?, hspan]
  simp only [letter, if_true]
  rw [(List.map_congr_left hlower).trans (List.map_id _)]

/-- A scheme of the web is read where it stands. -/
theorem IsWeb.readScheme? {scheme : String} (h : IsWeb scheme) (rest : List Char) :
    readScheme? (scheme.toList ++ ':' :: rest) = some (scheme, rest) := by
  have http : "http".toList = ['h', 't', 't', 'p'] := by decide
  have https : "https".toList = ['h', 't', 't', 'p', 's'] := by decide
  rcases h with rfl | rfl
  · rw [http, readScheme?_of_chars (by decide) (by decide), ← http, String.ofList_toList]
  · rw [https, readScheme?_of_chars (by decide) (by decide), ← https, String.ofList_toList]

/-! ## 4. Authorities -/

theorem cutAt_append {mark : Char} {s : List Char} (h : ∀ c ∈ s, c ≠ mark)
    (after : Option (List Char)) : cutAt mark (s ++ markedText mark after) = (s, after) := by
  cases after with
  | none =>
    rw [markedText, List.append_nil, cutAt,
      Text.splitOnce_of_forall fun c hc => beq_eq_false_iff_ne.mpr (h c hc)]
  | some text =>
    rw [markedText, cutAt, Text.splitOnce_append_cons
      (fun c hc => beq_eq_false_iff_ne.mpr (h c hc)) (beq_self_eq_true mark)]

/-- **An authority that is read back**: its user is in escaped form, its host is proper, and its port is
    not the default one. -/
structure Authority.IsKept (scheme : String) (a : Authority) : Prop where
  user : IsWritten escapedInUser a.user
  password : IsWritten escapedInUser a.password
  host : a.host.IsProper
  port : ∀ port ∈ a.port, port ≤ 65535 ∧ some port ≠ defaultPort? scheme

namespace Authority

/-- The written port with the colon before it. -/
def portText (a : Authority) : List Char :=
  match a.port with
  | some port => ':' :: Nat.toDigits 10 port
  | none => []

/-- The written authority behind its user. -/
def hostText (a : Authority) : List Char :=
  a.host.text ++ a.portText

/-- What stands before the sign behind a user. -/
def userInfo (a : Authority) : List Char :=
  a.user ++ if a.password.isEmpty then [] else ':' :: a.password

theorem text_eq (a : Authority) : a.text = a.userText ++ a.hostText := by
  rw [text, List.append_assoc]
  rfl

theorem userText_cases (a : Authority) :
    (a.user = [] ∧ a.password = [] ∧ a.userText = []) ∨ a.userText = a.userInfo ++ ['@'] := by
  by_cases h : (a.user.isEmpty && a.password.isEmpty) = true
  · obtain ⟨user, password⟩ := Bool.and_eq_true_iff.mp h
    refine .inl ⟨List.isEmpty_iff.mp user, List.isEmpty_iff.mp password, ?_⟩
    rw [userText, if_pos h]
  · refine .inr ?_
    rw [userText, if_neg h]
    rfl

variable {scheme : String} {a : Authority} (kept : a.IsKept scheme)

include kept

theorem isInside_hostText : ∀ c ∈ a.hostText, Host.isInside c = true := by
  intro c hc
  rcases List.mem_append.mp hc with hc | hc
  · exact Host.isInside_text kept.host c hc
  · unfold portText at hc
    split at hc
    · rcases List.mem_cons.mp hc with rfl | hc
      · decide
      · obtain ⟨d, hd, rfl⟩ := exists_digit_of_mem_toDigits (by decide) hc
        exact Host.isInside_of_isOpen (Host.isOpen_digitChar (by omega))
    · cases hc

theorem hostText_ne_nil : a.hostText ≠ [] := fun h =>
  Host.text_ne_nil kept.host (List.append_eq_nil_iff.mp h).1

/-- A character of a user, or the colon before a password. -/
theorem mem_userInfo {c : Char} (h : c ∈ a.userInfo) :
    c = ':' ∨ (c.toNat < 0x80 ∧ escapedInUser c = false) := by
  rcases List.mem_append.mp h with h | h
  · exact .inr (kept.user c h)
  · split at h
    · cases h
    · rcases List.mem_cons.mp h with rfl | h
      · exact .inl rfl
      · exact .inr (kept.password c h)

end Authority

/-- A character of the text before a query: none that is trimmed, and neither `?` nor `#`. -/
def isBeforeQuery (c : Char) : Bool :=
  0x20 < c.toNat && c != '?' && c != '#'

theorem isBeforeQuery_of_isInside {c : Char} (h : Host.isInside c = true) :
    isBeforeQuery c = true := by
  simp only [Host.isInside, Bool.and_eq_true, decide_eq_true_eq] at h
  obtain ⟨⟨⟨⟨⟨hlow, -⟩, -⟩, -⟩, hmark⟩, hhash⟩ := h
  simp only [isBeforeQuery, Bool.and_eq_true, decide_eq_true_eq]
  exact ⟨⟨hlow, hmark⟩, hhash⟩

theorem isSlash_of_isInside {c : Char} (h : Host.isInside c = true) : isSlash c = false := by
  simp only [Host.isInside, Bool.and_eq_true, bne_iff_ne] at h
  rw [isSlash, beq_eq_false_iff_ne.mpr h.1.1.1.1.2, beq_eq_false_iff_ne.mpr h.1.1.1.2]
  rfl

/-- What a user does not escape neither ends the authority nor is trimmed. -/
theorem of_not_escapedInUser {c : Char} (ascii : c.toNat < 0x80) (h : escapedInUser c = false) :
    isBeforeQuery c = true ∧ isSlash c = false ∧ c ≠ ':' ∧ c ≠ '@' := by
  revert h
  exact Text.of_ascii (p := fun c => escapedInUser c = false →
    isBeforeQuery c = true ∧ isSlash c = false ∧ c ≠ ':' ∧ c ≠ '@') (by decide) ascii

namespace Authority

variable {scheme : String} {a : Authority} (kept : a.IsKept scheme)

include kept

/-- **A written authority ends nowhere before its end.** -/
theorem of_mem_text : ∀ c ∈ a.text, isBeforeQuery c = true ∧ isSlash c = false := by
  intro c hc
  rw [text_eq] at hc
  rcases List.mem_append.mp hc with hc | hc
  · rcases userText_cases a with ⟨-, -, none⟩ | some
    · rw [none] at hc
      cases hc
    · rw [some] at hc
      rcases List.mem_append.mp hc with hc | hc
      · rcases mem_userInfo kept hc with rfl | ⟨ascii, free⟩
        · decide
        · obtain ⟨before, slash, -⟩ := of_not_escapedInUser ascii free
          exact ⟨before, slash⟩
      · rw [List.mem_singleton.mp hc]
        decide
  · have hin := isInside_hostText kept c hc
    exact ⟨isBeforeQuery_of_isInside hin, isSlash_of_isInside hin⟩

theorem exists_text_eq_cons : ∃ c cs, a.text = c :: cs ∧ isSlash c = false := by
  have hne : a.text ≠ [] := by
    rw [text_eq]
    exact fun h => hostText_ne_nil kept (List.append_eq_nil_iff.mp h).2
  obtain ⟨c, cs, hc⟩ := List.exists_cons_of_ne_nil hne
  exact ⟨c, cs, hc, (of_mem_text kept c (hc ▸ List.mem_cons_self ..)).2⟩

theorem ne_at_of_mem_hostText : ∀ c ∈ a.hostText.reverse, (c == '@') = false := by
  intro c hc
  have hin := isInside_hostText kept c (List.mem_reverse.mp hc)
  simp only [Host.isInside, Bool.and_eq_true, bne_iff_ne] at hin
  exact beq_eq_false_iff_ne.mpr hin.1.1.2

theorem cutUser_hostText : cutUser a.hostText = none := by
  rw [cutUser, Text.splitOnce_of_forall (ne_at_of_mem_hostText kept)]
  rfl

theorem cutUser_userInfo : cutUser (a.userInfo ++ ['@'] ++ a.hostText) =
    some (a.userInfo, a.hostText) := by
  have hreverse : (a.userInfo ++ ['@'] ++ a.hostText).reverse =
      a.hostText.reverse ++ '@' :: a.userInfo.reverse := by
    simp only [List.reverse_append, List.reverse_singleton, List.singleton_append]
  rw [cutUser, hreverse,
    Text.splitOnce_append_cons (ne_at_of_mem_hostText kept) (beq_self_eq_true '@')]
  simp only [Option.map_some, List.reverse_reverse]

/-- A written user is read back. -/
theorem userOf_userInfo : userOf a.userInfo = (a.user, a.password) := by
  have hcolon : ∀ c ∈ a.user, c ≠ ':' := fun c hc =>
    have ⟨ascii, free⟩ := kept.user c hc
    (of_not_escapedInUser ascii free).2.2.1
  have hinfo : a.userInfo =
      a.user ++ markedText ':' (if a.password.isEmpty then none else some a.password) := by
    unfold userInfo
    split <;> rfl
  have hpassword : (if a.password.isEmpty then none else some a.password).getD [] = a.password := by
    split
    · rename_i h
      rw [List.isEmpty_iff.mp h]
      rfl
    · rfl
  rw [userOf, hinfo, cutAt_append hcolon]
  simp only [hpassword, kept.user.encode_eq, kept.password.encode_eq]

theorem cutPort_hostText : cutPort false a.hostText =
    (a.host.text, a.port.map (Nat.toDigits 10)) := by
  rw [hostText, Host.cutPort_text kept.host]
  unfold portText
  cases a.port with
  | none =>
    rw [cutPort, List.append_nil]
    rfl
  | some port =>
    rw [cutPort, if_pos (by decide), List.append_nil]
    rfl

end Authority

theorem readPort_toDigits {port : Nat} (h : port ≤ 65535) :
    readPort (Nat.toDigits 10 port) = .ok (some port, []) := by
  have hd : ∀ c ∈ Nat.toDigits 10 port, c.isDigit = true := fun c hc =>
    Nat.isDigit_of_mem_toDigits (by decide) (by decide) hc
  have hs : (Nat.toDigits 10 port).span (· != '\\') = (Nat.toDigits 10 port, []) := by
    have hall : ∀ c ∈ Nat.toDigits 10 port, (c != '\\') = true := by
      intro c hc
      have hc := hd c hc
      rw [bne_iff_ne]
      rintro rfl
      exact absurd hc (by decide)
    rw [List.span_eq_takeWhile_dropWhile, List.takeWhile_eq_self_iff.mpr hall,
      List.dropWhile_eq_nil_iff.mpr hall]
  rw [readPort, hs]
  simp only [List.isEmpty_eq_false_iff.mpr Nat.toDigits_ne_nil, List.all_eq_true.mpr hd,
    Text.readNat_toDigits h, Bool.false_eq_true, if_false, if_true]

/-- **A written authority is read back.** -/
theorem readAuthority_text {scheme : String} (special : isSpecial scheme = true) {a : Authority}
    (kept : a.IsKept scheme) (isLast : Bool) : readAuthority scheme isLast a.text = .ok (a, []) := by
  have hempty : a.host.text.isEmpty = false :=
    List.isEmpty_eq_false_iff.mpr (Host.text_ne_nil kept.host)
  unfold readAuthority
  extract_lets isSpec afterUser
  -- whether a user is written or not, the rest is read in the same way
  have hafter : ∀ info, userOf info = (a.user, a.password) →
      afterUser (info, a.hostText) = .ok (a, []) := by
    intro info huser
    simp only [afterUser, isSpec, huser, Authority.cutPort_hostText kept, special, hempty,
      Host.isEmpty_eq_false kept.host, Host.readDomain_text kept.host, if_true, bind, Except.bind,
      pure, Except.pure, Bool.and_false, Bool.false_and, Bool.false_eq_true, if_false]
    obtain ⟨user, password, host, port⟩ := a
    cases port with
    | none => simp only [Option.map_none, ite_self]
    | some port =>
      obtain ⟨hle, hne⟩ := kept.port port rfl
      simp only [Option.map_some, readPort_toDigits hle, beq_eq_false_iff_ne.mpr hne,
        Bool.false_eq_true, if_false]
  rcases Authority.userText_cases a with ⟨user, password, none⟩ | some
  · have huser : userOf [] = (a.user, a.password) := by
      rw [user, password]
      decide
    rw [Authority.text_eq, none, List.nil_append, Authority.cutUser_hostText kept]
    exact hafter [] huser
  · obtain ⟨c, cs, hc⟩ := List.exists_cons_of_ne_nil (Authority.hostText_ne_nil kept)
    rw [Authority.text_eq, some, Authority.cutUser_userInfo kept, hc]
    rw [hc] at hafter
    cases hi : a.userInfo with
    | nil => exact hafter [] (hi ▸ Authority.userOf_userInfo kept)
    | cons d ds => exact hafter (d :: ds) (hi ▸ Authority.userOf_userInfo kept)

/-- A written authority and what stands behind its slash. -/
theorem readFromAuthority_text {scheme : String} (special : isSpecial scheme = true) {a : Authority}
    (kept : a.IsKept scheme) (path : List Char) (tail : Tail) :
    readFromAuthority scheme (a.text ++ '/' :: path) tail =
      .ok (withTail { scheme, authority := some a,
                      path := .segments (walk false [] (segmentsOf true path)) } tail) := by
  have hin : ∀ c ∈ a.text, (!isSeparator true c) = true := by
    intro c hc
    rw [isSeparator_true, (Authority.of_mem_text kept c hc).2]
    rfl
  have hsep : (!isSeparator true '/') = false := by decide
  have hspan : (a.text ++ '/' :: path).span (!isSeparator true ·) = (a.text, '/' :: path) := by
    rw [List.span_eq_takeWhile_dropWhile, List.takeWhile_append_of_pos hin,
      List.dropWhile_append_of_pos hin, List.takeWhile_cons, List.dropWhile_cons, hsep,
      if_neg Bool.false_ne_true, if_neg Bool.false_ne_true, List.append_nil]
  rw [readFromAuthority]
  simp only [special, hspan, readAuthority_text special kept, bind, Except.bind, pure, Except.pure,
    List.nil_append]
  rfl

/-! ## 5. The parts of a text -/

theorem clean_of_forall {s : List Char} (h : ∀ c ∈ s, 0x20 < c.toNat) : clean s = s := by
  have htrim : Text.trimBy (fun c => c.toNat ≤ 0x20) s = s := by
    refine (Text.isTrimmedBy_of_forall fun c hc => ?_).trimBy_eq
    have := h c hc
    simpa using this
  have hfilter : (s.filter fun c => !(c == '\t' || c == '\n' || c == '\r')) = s := by
    rw [List.filter_eq_self]
    intro c hc
    have hlt := h c hc
    have hne : ∀ d : Char, d.toNat ≤ 0x20 → (c == d) = false := by
      intro d hd
      rw [beq_eq_false_iff_ne]
      rintro rfl
      omega
    rw [hne '\t' (by decide), hne '\n' (by decide), hne '\r' (by decide)]
    rfl
  rw [clean, htrim, hfilter]

/-- A query in escaped form holds no blank and no `#`. -/
theorem of_mem_query {query : List Char} (h : IsWritten (escapedInQuery true) query) :
    ∀ c ∈ query, 0x20 < c.toNat ∧ c ≠ '#' := by
  intro c hc
  obtain ⟨ascii, free⟩ := h c hc
  revert free
  exact Text.of_ascii (p := fun c => escapedInQuery true c = false → 0x20 < c.toNat ∧ c ≠ '#')
    (by decide) ascii

theorem of_mem_fragment {fragment : List Char} (h : IsWritten escapedInFragment fragment) :
    ∀ c ∈ fragment, 0x20 < c.toNat := by
  intro c hc
  obtain ⟨ascii, free⟩ := h c hc
  revert free
  exact Text.of_ascii (p := fun c => escapedInFragment c = false → 0x20 < c.toNat) (by decide) ascii

theorem mem_markedText {mark : Char} {part : Option (List Char)} {c : Char}
    (h : c ∈ markedText mark part) : c = mark ∨ ∃ text ∈ part, c ∈ text := by
  cases part with
  | none => cases h
  | some text => exact (List.mem_cons.mp h).imp_right fun hc => ⟨text, rfl, hc⟩

/-- **A text is cut at its query and at its fragment, and not changed.** -/
theorem cutTail_clean {s : List Char} {tail : Tail} (before : ∀ c ∈ s, isBeforeQuery c = true)
    (query : ∀ q ∈ tail.query, IsWritten (escapedInQuery true) q)
    (fragment : ∀ f ∈ tail.fragment, IsWritten escapedInFragment f) :
    cutTail (clean (s ++ markedText '?' tail.query ++ markedText '#' tail.fragment)) = (s, tail) := by
  have hbefore : ∀ c ∈ s, (0x20 < c.toNat ∧ c ≠ '?') ∧ c ≠ '#' := by
    intro c hc
    have hb := before c hc
    simpa [isBeforeQuery] using hb
  have hquery : ∀ c ∈ markedText '?' tail.query, 0x20 < c.toNat ∧ c ≠ '#' := by
    intro c hc
    rcases mem_markedText hc with rfl | ⟨q, hq, hc⟩
    · decide
    · exact of_mem_query (query q hq) c hc
  have hfragment : ∀ c ∈ markedText '#' tail.fragment, 0x20 < c.toNat := by
    intro c hc
    rcases mem_markedText hc with rfl | ⟨f, hf, hc⟩
    · decide
    · exact of_mem_fragment (fragment f hf) c hc
  have hhash : ∀ c ∈ s ++ markedText '?' tail.query, c ≠ '#' :=
    List.forall_mem_append.mpr ⟨fun c hc => (hbefore c hc).2, fun c hc => (hquery c hc).2⟩
  rw [clean_of_forall, cutTail, cutAt_append hhash]
  · simp only [cutAt_append fun c hc => (hbefore c hc).1.2]
  · exact List.forall_mem_append.mpr ⟨List.forall_mem_append.mpr
      ⟨fun c hc => (hbefore c hc).1.1, fun c hc => (hquery c hc).1⟩, hfragment⟩

/-! ## 6. Addresses -/

/-- **An address of the web as it is after reading.** -/
structure IsCanonical (u : Url) : Prop where
  scheme : IsWeb u.scheme
  authority : ∃ a, u.authority = some a ∧ a.IsKept u.scheme
  path : ∃ segments, segments ≠ [] ∧ u.path = .segments segments ∧ ∀ s ∈ segments, IsSegment s
  query : ∀ q ∈ u.query, IsWritten (escapedInQuery true) q
  fragment : ∀ f ∈ u.fragment, IsWritten escapedInFragment f

/-- What is in escaped form already stays as it is behind a path. -/
theorem withTail_eq {u : Url} (special : isSpecial u.scheme = true) {tail : Tail}
    (query : ∀ q ∈ tail.query, IsWritten (escapedInQuery true) q)
    (fragment : ∀ f ∈ tail.fragment, IsWritten escapedInFragment f) :
    withTail u tail = { u with query := tail.query, fragment := tail.fragment } := by
  have hquery : tail.queryFor u.scheme = tail.query := by
    rw [Tail.queryFor, special]
    cases hq : tail.query with
    | none => rfl
    | some q => rw [Option.map_some, (query q hq).encode_eq]
  have hfragment : tail.escapedFragment = tail.fragment := by
    rw [Tail.escapedFragment]
    cases hf : tail.fragment with
    | none => rfl
    | some f => rw [Option.map_some, (fragment f hf).encode_eq]
  rw [withTail, hquery, hfragment]

theorem isBeforeQuery_join {segments : List Segment} (h : ∀ s ∈ segments, IsSegment s) :
    ∀ c ∈ Text.join ['/'] segments, isBeforeQuery c = true := by
  intro c hc
  rcases Text.mem_of_mem_join hc with hc | ⟨s, hs, hc⟩
  · rw [List.mem_singleton.mp hc]
    decide
  · obtain ⟨ascii, free⟩ := (h s hs).written c hc
    revert free
    exact Text.of_ascii (p := fun c => isUnfit c = false → isBeforeQuery c = true)
      (by decide) ascii

/-- Two slashes, an authority and a path behind the scheme, from whatever base. -/
theorem readScheme_text {scheme : String} (web : IsWeb scheme) {a : Authority}
    (kept : a.IsKept scheme) (base : Option Url) (path : List Char) (tail : Tail) :
    readScheme base scheme ('/' :: '/' :: (a.text ++ '/' :: path)) tail =
      .ok (withTail { scheme, authority := some a,
                      path := .segments (walk false [] (segmentsOf true path)) } tail) := by
  obtain ⟨c, cs, hc, hslash⟩ := Authority.exists_text_eq_cons kept
  have hs : isSlash '/' = true := by decide
  have htake : (('/' :: '/' :: (a.text ++ '/' :: path)).takeWhile isSlash).length = 2 := by
    rw [hc, List.cons_append, List.takeWhile_cons, if_pos hs, List.takeWhile_cons, if_pos hs,
      List.takeWhile_cons, if_neg (by simp [hslash])]
    rfl
  have hdrop : ('/' :: '/' :: (a.text ++ '/' :: path)).dropWhile isSlash =
      a.text ++ '/' :: path := by
    rw [hc, List.cons_append, List.dropWhile_cons, if_pos hs, List.dropWhile_cons, if_pos hs,
      List.dropWhile_cons, if_neg (by simp [hslash])]
  rw [readScheme, if_neg web.ne_file, if_pos web.isSpecial]
  split
  · rw [if_neg (by omega), hdrop, readFromAuthority_text web.isSpecial kept]
  · rw [hdrop, readFromAuthority_text web.isSpecial kept]

/-- What is written for an address of the web. -/
theorem text_of_segments {u : Url} {a : Authority} {segments : List Segment} (ne : segments ≠ [])
    (authority : u.authority = some a) (path : u.path = .segments segments) :
    u.text = u.scheme.toList ++ ':' :: '/' :: '/' :: (a.text ++ '/' :: Text.join ['/'] segments) ++
      markedText '?' u.query ++ markedText '#' u.fragment := by
  have hauthority : u.authorityText = '/' :: '/' :: a.text := by
    rw [authorityText, authority]
    rfl
  rw [text, target, hauthority, path, text_segments ne]
  simp only [List.append_assoc, List.cons_append]

/-- **What is written for an address of the web is read as that address**, from whatever base. -/
theorem read_text {u : Url} (h : u.IsCanonical) (base : Option Url) : read base u.text = .ok u := by
  obtain ⟨a, authority, kept⟩ := h.authority
  obtain ⟨segments, ne, path, each⟩ := h.path
  have hscheme : ∀ c ∈ u.scheme.toList, isBeforeQuery c = true := by
    rcases h.scheme with web | web <;> rw [web] <;> exact Text.of_all (by decide)
  have hbefore : ∀ c ∈ u.scheme.toList ++ ':' :: '/' :: '/' ::
      (a.text ++ '/' :: Text.join ['/'] segments), isBeforeQuery c = true := by
    have hcolon : isBeforeQuery ':' = true := by decide
    have hslash : isBeforeQuery '/' = true := by decide
    simp only [List.forall_mem_append, List.forall_mem_cons]
    exact ⟨hscheme, hcolon, hslash, hslash, fun c hc => (Authority.of_mem_text kept c hc).1, hslash,
      isBeforeQuery_join each⟩
  have hcut := @cutTail_clean _ { query := u.query, fragment := u.fragment } hbefore
    h.query h.fragment
  rw [text_of_segments ne authority path, read, hcut]
  simp only [h.scheme.readScheme?, readScheme_text h.scheme kept]
  rw [segmentsOf_join ne each, walk_of_isSegment each, List.nil_append,
    withTail_eq (by exact h.scheme.isSpecial) h.query h.fragment, ← authority, ← path]

end TrialProtocol.Url
