import Mathlib.Data.List.InsertIdx
import Mathlib.Tactic.Ring
import TrialProtocol.Idna.Punycode
import TrialProtocol.Proofs.Text.Parts

/-!
# Labels in ASCII letters are read back

What is read from a written label is the label (`decode?_encode`). Writer and reader count alike: a
code point and a place in a text of so many characters make one number, `code * (length + 1) + place`,
and what is written is by how much that number rises to the next character.

So the proof goes with the writer along the label and keeps what is read from the digits so far
(`Follows`): its text is the label without the characters that are still to come, and its number is
short of the writer's by the steps that are not written yet.
-/

namespace TrialProtocol.Idna.Punycode

/-! ## 1. Digits -/

/-- A text of digits. -/
def AreDigits (s : List Char) : Prop :=
  ∀ c ∈ s, ∃ d, d < base ∧ c = digitChar d

theorem areDigits_digits (bias position n : Nat) : AreDigits (digits bias position n) := by
  fun_induction digits bias position n with
  | case1 position n t hn =>
    have ht := threshold_le position bias
    intro c hc
    exact ⟨n, by unfold base; omega, List.mem_singleton.mp hc⟩
  | case2 position n t hn ih =>
    have ht := threshold_le position bias
    have hm : (n - t) % (base - t) < base - t := Nat.mod_lt _ (by unfold base; omega)
    intro c hc
    rcases List.mem_cons.mp hc with rfl | hc
    · exact ⟨_, by omega, rfl⟩
    · exact ih c hc

theorem areDigits_pass {basic n : Nat} {s : Writing} (h : AreDigits s.out) (c : Char) :
    AreDigits (s.pass basic n c).out := by
  unfold Writing.pass
  split
  · exact h
  · split
    · intro x hx
      rcases List.mem_append.mp hx with hx | hx
      · exact h x hx
      · exact areDigits_digits _ _ _ x hx
    · exact h

theorem areDigits_foldl {basic n : Nat} {s : Writing} (h : AreDigits s.out) (label : List Char) :
    AreDigits (label.foldl (Writing.pass basic n) s).out := by
  induction label generalizing s with
  | nil => exact h
  | cons c label ih => exact ih (areDigits_pass h c)

theorem areDigits_writeAll (label : List Char) (basic next : Nat) (codes : List Nat) {s : Writing}
    (h : AreDigits s.out) : AreDigits (writeAll label basic next codes s).out := by
  induction codes generalizing next s with
  | nil => exact h
  | cons n codes ih =>
    unfold writeAll
    simp only
    refine ih _ ?_
    exact areDigits_foldl (s := { s with delta := s.delta + (n - next) * (s.count + 1) }) h label

theorem digitChar_ne_hyphen {d : Nat} (h : d < base) : digitChar d ≠ '-' := by
  have all : ∀ k : Fin 36, digitChar k.val ≠ '-' := by decide
  exact all ⟨d, h⟩

/-- **The digits begin behind the last hyphen**, which is there if anything stands before it. -/
theorem parts_append {ascii digits : List Char} (h : AreDigits digits) :
    parts ((if ascii.isEmpty then [] else ascii ++ ['-']) ++ digits) = (ascii, digits) := by
  have free : ∀ c ∈ digits.reverse, (c == '-') = false := by
    intro c hc
    obtain ⟨d, hd, rfl⟩ := h c (List.mem_reverse.mp hc)
    exact beq_false_of_ne (digitChar_ne_hyphen hd)
  cases hascii : ascii.reverse with
  | nil =>
    obtain rfl := List.reverse_eq_nil_iff.mp hascii
    rw [parts, List.isEmpty_nil, if_pos rfl, List.nil_append, Text.splitOnce_of_forall free]
  | cons c cs =>
    have hne : ascii.isEmpty = false := by
      rw [List.isEmpty_eq_false_iff]
      rintro rfl
      cases hascii
    have hback : (ascii ++ ['-'] ++ digits).reverse = digits.reverse ++ '-' :: c :: cs := by
      rw [List.reverse_append, List.reverse_append, List.reverse_singleton, hascii]
      rfl
    rw [parts, hne, if_neg Bool.false_ne_true, hback, Text.splitOnce_append_cons free rfl]
    simp only [← hascii, List.reverse_reverse]

/-! ## 2. Numbers -/

/-- A digit from the threshold on has others behind it. -/
theorem read_of_le {r : Reading} {d : Nat} (h : d < base) (le : threshold r.position r.bias ≤ d) :
    r.read (digitChar d) = some { r with
      number := r.number + d * r.weight
      weight := r.weight * (base - threshold r.position r.bias)
      position := r.position + base } := by
  rw [Reading.read, digit?_digitChar h]
  exact if_pos le

/-- A digit below the threshold is the last one. -/
theorem read_of_lt {r : Reading} {d : Nat} (h : d < base) (lt : d < threshold r.position r.bias) :
    r.read (digitChar d) = r.insert? (r.number + d * r.weight) := by
  rw [Reading.read, digit?_digitChar h]
  exact if_neg (Nat.not_le.mpr lt)

/-- **A written number is read back.** -/
theorem foldlM_digits (bias position n : Nat) : ∀ r : Reading, r.bias = bias →
    r.position = position →
    (digits bias position n).foldlM Reading.read r = r.insert? (r.number + n * r.weight) := by
  fun_induction digits bias position n with
  | case1 position n t hn =>
    rintro r rfl rfl
    have ht := threshold_le r.position r.bias
    have hlt : n < base := by unfold base; omega
    rw [List.foldlM_cons, read_of_lt hlt hn]
    exact bind_pure _
  | case2 position n t hn ih =>
    rintro r rfl rfl
    have ht := threshold_le r.position r.bias
    have hpos : 0 < base - t := by unfold base; omega
    have hmod : (n - t) % (base - t) < base - t := Nat.mod_lt _ hpos
    have hdiv := Nat.mod_add_div (n - t) (base - t)
    have hlt : t + (n - t) % (base - t) < base := by omega
    have hrest := ih { r with
      number := r.number + (t + (n - t) % (base - t)) * r.weight
      weight := r.weight * (base - t)
      position := r.position + base } rfl rfl
    rw [List.foldlM_cons, read_of_le hlt (Nat.le_add_right _ _)]
    refine hrest.trans (congrArg r.insert? ?_)
    simp only
    generalize (n - t) % (base - t) = low at *
    generalize (n - t) / (base - t) = high at *
    have hn : n = t + low + (base - t) * high := by omega
    calc r.number + (t + low) * r.weight + high * (r.weight * (base - t))
        = r.number + (t + low + (base - t) * high) * r.weight := by ring
      _ = r.number + n * r.weight := by rw [← hn]

/-! ## 3. Along the label -/

/-- The characters of a label with code points below `n`. -/
def below (n : Nat) (label : List Char) : List Char :=
  label.filter fun c => c.toNat < n

section Below

variable {n : Nat} {c : Char} {label : List Char}

theorem below_cons_of_lt (h : c.toNat < n) : below n (c :: label) = c :: below n label :=
  List.filter_cons_of_pos (decide_eq_true h)

theorem below_cons_of_le (h : n ≤ c.toNat) : below n (c :: label) = below n label :=
  List.filter_cons_of_neg (by simpa using h)

theorem below_concat_of_lt (h : c.toNat < n) : below n (label ++ [c]) = below n label ++ [c] :=
  (List.filter_append ..).trans (congrArg _ (below_cons_of_lt h))

theorem below_concat_of_le (h : n ≤ c.toNat) : below n (label ++ [c]) = below n label :=
  (List.filter_append ..).trans ((congrArg _ (below_cons_of_le h)).trans (List.append_nil _))

theorem below_eq_self (h : ∀ c ∈ label, c.toNat < n) : below n label = label :=
  List.filter_eq_self.mpr fun c hc => decide_eq_true (h c hc)

end Below

/-- What is read from the digits that are written when the writer is on its way with the code point
    `n` and has passed `before`, with `after` ahead. -/
structure Follows (basic n : Nat) (start : Reading) (before after : List Char) (s : Writing)
    (r : Reading) : Prop where
  read : s.out.foldlM Reading.read start = some r
  text : r.text = below (n + 1) before ++ below n after
  count : s.count = r.text.length
  bias : r.bias = s.bias
  /-- The reader is between two numbers. -/
  idle : r.number = 0 ∧ r.weight = 1 ∧ r.position = base
  /-- The reader is behind by the steps that are not written. -/
  steps : r.code * (s.count + 1) + r.place + s.delta =
    n * (s.count + 1) + (below (n + 1) before).length
  first : r.place = 0 ↔ s.count = basic
  basic_le : basic ≤ s.count

/-- Where one number counts both, it tells the code point and the place. -/
theorem eq_of_steps {code place delta n k length : Nat} (hk : k ≤ length)
    (h : code * (length + 1) + place + delta = n * (length + 1) + k) :
    code + (place + delta) / (length + 1) = n ∧ (place + delta) % (length + 1) = k := by
  have hle : code ≤ n := by
    by_contra hlt
    have := Nat.mul_le_mul_right (length + 1) (Nat.lt_of_not_le hlt)
    rw [Nat.succ_mul] at this
    omega
  obtain ⟨more, rfl⟩ := Nat.exists_eq_add_of_le hle
  have hsum : k + (length + 1) * more = place + delta := by
    rw [Nat.add_mul, Nat.mul_comm more] at h
    omega
  obtain ⟨hdiv, hmod⟩ := (Nat.div_mod_unique (Nat.succ_pos length)).mpr
    ⟨hsum, Nat.lt_succ_of_le hk⟩
  exact ⟨by rw [hdiv], hmod⟩

theorem insertIdx_length_append (before after : List Char) (c : Char) :
    (before ++ after).insertIdx before.length c = before ++ c :: after := by
  induction before with
  | nil => rfl
  | cons b before ih => simpa using ih

section Follows

variable {basic n : Nat} {start r : Reading} {before after : List Char} {s : Writing} {c : Char}

/-- The reader puts the character where the writer saw it. -/
theorem Follows.insert? (h : Follows basic n start before (c :: after) s r) (hc : c.toNat = n) :
    r.insert? s.delta = some {
      text := below (n + 1) before ++ c :: below n after
      code := n
      place := (below (n + 1) before).length + 1
      bias := adapt s.delta (s.count + 1) (s.count == basic) } := by
  have htext := h.text
  rw [below_cons_of_le hc.ge] at htext
  have hle : (below (n + 1) before).length ≤ s.count := by
    rw [h.count, htext, List.length_append]
    exact Nat.le_add_right _ _
  obtain ⟨hcode, hplace⟩ := eq_of_steps hle h.steps
  have hfirst : (r.place == 0) = (s.count == basic) := by
    rw [Bool.eq_iff_iff, beq_iff_eq, beq_iff_eq]
    exact h.first
  have hvalid : n.isValidChar := hc ▸ c.valid
  have hchar : Char.ofNat n = c := by rw [← hc, Char.ofNat_toNat]
  rw [Reading.insert?, ← h.count, hcode, hplace, hfirst, if_pos hvalid, hchar, htext,
    insertIdx_length_append]

/-- A character that is there already takes one step. -/
theorem Follows.pass_of_lt (h : Follows basic n start before (c :: after) s r) (lt : c.toNat < n) :
    Follows basic n start (before ++ [c]) after { s with delta := s.delta + 1 } r := by
  have htext := h.text
  have hsteps := h.steps
  have hbefore : below (n + 1) (before ++ [c]) = below (n + 1) before ++ [c] :=
    below_concat_of_lt (Nat.lt_succ_of_lt lt)
  rw [below_cons_of_lt lt] at htext
  refine { h with text := ?_, steps := ?_ }
  · rw [htext, hbefore, List.append_assoc, List.singleton_append]
  · rw [hbefore, List.length_append, List.length_singleton]
    simp only
    omega

/-- A character that comes later takes none. -/
theorem Follows.pass_of_gt (h : Follows basic n start before (c :: after) s r) (gt : n < c.toNat) :
    Follows basic n start (before ++ [c]) after s r := by
  have htext := h.text
  have hbefore : below (n + 1) (before ++ [c]) = below (n + 1) before := below_concat_of_le gt
  rw [below_cons_of_le gt.le] at htext
  exact { h with text := by rw [htext, hbefore], steps := by rw [h.steps, hbefore] }

/-- The character is written, and the reader puts it into its place. -/
theorem Follows.pass_of_eq (h : Follows basic n start before (c :: after) s r) (eq : c.toNat = n) :
    ∃ r', Follows basic n start (before ++ [c]) after
      { out := s.out ++ digits s.bias base s.delta
        delta := 0
        bias := adapt s.delta (s.count + 1) (s.count == basic)
        count := s.count + 1 } r' := by
  have htext := h.text
  have hbefore : below (n + 1) (before ++ [c]) = below (n + 1) before ++ [c] :=
    below_concat_of_lt (Nat.lt_succ_of_le eq.le)
  rw [below_cons_of_le eq.ge] at htext
  obtain ⟨hnumber, hweight, hposition⟩ := h.idle
  have hread : (digits s.bias base s.delta).foldlM Reading.read r = r.insert? s.delta := by
    rw [foldlM_digits _ _ _ r h.bias hposition, hnumber, hweight, Nat.zero_add, Nat.mul_one]
  have hle := h.basic_le
  refine ⟨{ text := below (n + 1) before ++ c :: below n after
            code := n
            place := (below (n + 1) before).length + 1
            bias := adapt s.delta (s.count + 1) (s.count == basic) },
    { read := ?read, text := ?text, count := ?count, bias := rfl, idle := ⟨rfl, rfl, rfl⟩
      steps := ?steps, first := ?first, basic_le := hle.trans (Nat.le_succ _) }⟩
  case read =>
    rw [List.foldlM_append, h.read]
    exact hread.trans (h.insert? eq)
  case text => rw [hbefore, List.append_assoc, List.singleton_append]
  case count => simp only [h.count, htext, List.length_append, List.length_cons, Nat.add_assoc]
  case steps =>
    rw [hbefore, List.length_append, List.length_singleton]
    rfl
  case first =>
    simp only
    omega

/-- **The reader keeps up with the writer** over one character. -/
theorem Follows.pass (h : Follows basic n start before (c :: after) s r) :
    ∃ r', Follows basic n start (before ++ [c]) after (s.pass basic n c) r' := by
  rcases Nat.lt_trichotomy c.toNat n with lt | eq | gt
  · rw [Writing.pass, if_pos lt]
    exact ⟨r, h.pass_of_lt lt⟩
  · rw [Writing.pass, if_neg eq.ge.not_gt, if_pos eq]
    exact h.pass_of_eq eq
  · rw [Writing.pass, if_neg gt.not_gt, if_neg gt.ne']
    exact ⟨r, h.pass_of_gt gt⟩

theorem Follows.foldl (h : Follows basic n start before after s r) :
    ∃ r', Follows basic n start (before ++ after) [] (after.foldl (Writing.pass basic n) s) r' := by
  induction after generalizing before s r with
  | nil => exact ⟨r, by rwa [List.append_nil]⟩
  | cons c after ih =>
    obtain ⟨r', h'⟩ := h.pass
    obtain ⟨r'', h''⟩ := ih h'
    exact ⟨r'', by rwa [List.append_assoc] at h''⟩

end Follows

/-! ## 4. From code point to code point -/

section Codes

variable {basic n : Nat} {start r : Reading} {label : List Char} {s : Writing}

/-- One step more, and the writer is at the beginning again, with the next code point. -/
theorem Follows.again (h : Follows basic n start label [] s r) :
    Follows basic (n + 1) start [] label { s with delta := s.delta + 1 } r := by
  have htext : r.text = below (n + 1) label := h.text.trans (List.append_nil _)
  have hsteps := h.steps
  rw [← htext, ← h.count] at hsteps
  refine { h with text := htext, steps := ?_ }
  simp only [Nat.succ_mul]
  change _ = _ + 0
  omega

/-- Code points that the label does not hold are skipped in as many steps as the text has places. -/
theorem Follows.skip {m : Nat} (h : Follows basic n start [] label s r) (le : n ≤ m)
    (absent : ∀ c ∈ label, n ≤ c.toNat → m ≤ c.toNat) :
    Follows basic m start [] label { s with delta := s.delta + (m - n) * (s.count + 1) } r := by
  have htext : below n label = below m label := by
    refine List.filter_congr fun c hc => decide_eq_decide.mpr ⟨fun hlt => by omega, fun hlt => ?_⟩
    by_contra hn
    have := absent c hc (by omega)
    omega
  have hsteps := h.steps
  obtain ⟨more, rfl⟩ := Nat.exists_eq_add_of_le le
  refine { h with text := h.text.trans htext, steps := ?_ }
  simp only [Nat.add_sub_cancel_left, Nat.add_mul] at hsteps ⊢
  change _ = _ + 0 at hsteps
  change _ = _ + 0
  omega

/-- **The reader keeps up until the label is written.** -/
theorem Follows.writeAll {codes : List Nat} (h : Follows basic n start [] label s r)
    (rising : codes.Pairwise (· < ·)) (from_n : ∀ m ∈ codes, n ≤ m)
    (all : ∀ c ∈ label, n ≤ c.toNat → c.toNat ∈ codes) :
    ∃ r', (writeAll label basic n codes s).out.foldlM Reading.read start = some r' ∧
      r'.text = label ∧ r'.position = base := by
  induction codes generalizing n s r with
  | nil =>
    have hall : ∀ c ∈ label, c.toNat < n := fun c hc =>
      Nat.lt_of_not_le fun hle => List.not_mem_nil (all c hc hle)
    exact ⟨r, h.read, h.text.trans (below_eq_self hall), h.idle.2.2⟩
  | cons m codes ih =>
    obtain ⟨hleast, rising⟩ := List.pairwise_cons.mp rising
    have hskip : ∀ c ∈ label, n ≤ c.toNat → m ≤ c.toNat := by
      intro c hc hle
      rcases List.mem_cons.mp (all c hc hle) with heq | hmem
      · exact heq.ge
      · exact (hleast _ hmem).le
    obtain ⟨r', h'⟩ := (h.skip (from_n m (List.mem_cons_self ..)) hskip).foldl
    refine ih h'.again rising hleast fun c hc hle => ?_
    rcases List.mem_cons.mp (all c hc (by have := from_n m (List.mem_cons_self ..); omega)) with
      heq | hmem
    · omega
    · exact hmem

end Codes

theorem mem_insertOnce {n m : Nat} {l : List Nat} : m ∈ insertOnce n l ↔ m = n ∨ m ∈ l := by
  induction l with
  | nil => exact List.mem_cons
  | cons k l ih =>
    unfold insertOnce
    split
    · exact List.mem_cons
    split
    · rename_i heq
      simp only [List.mem_cons, heq]
      tauto
    · rw [List.mem_cons, ih, List.mem_cons]
      tauto

theorem pairwise_insertOnce {n : Nat} {l : List Nat} (h : l.Pairwise (· < ·)) :
    (insertOnce n l).Pairwise (· < ·) := by
  induction l with
  | nil => exact List.pairwise_singleton ..
  | cons k l ih =>
    obtain ⟨hk, hl⟩ := List.pairwise_cons.mp h
    unfold insertOnce
    split
    case isTrue hlt =>
      refine List.pairwise_cons.mpr ⟨fun m hm => ?_, h⟩
      rcases List.mem_cons.mp hm with rfl | hm
      · exact hlt
      · exact hlt.trans (hk m hm)
    case isFalse hge =>
      split
      case isTrue => exact h
      case isFalse hne =>
        refine List.pairwise_cons.mpr ⟨fun m hm => ?_, ih hl⟩
        rcases mem_insertOnce.mp hm with rfl | hm
        · omega
        · exact hk m hm

theorem mem_codesBeyond {label : List Char} {n : Nat} :
    n ∈ codesBeyond label ↔ ∃ c ∈ label, 0x80 ≤ c.toNat ∧ c.toNat = n := by
  unfold codesBeyond
  induction label with
  | nil => simp
  | cons c label ih =>
    by_cases hc : 0x80 ≤ c.toNat
    · simp [hc, mem_insertOnce, ih, eq_comm]
    · simp [hc, ih]

theorem pairwise_codesBeyond (label : List Char) : (codesBeyond label).Pairwise (· < ·) := by
  unfold codesBeyond
  induction label.filter fun c => 0x80 ≤ c.toNat with
  | nil => exact List.Pairwise.nil
  | cons c label ih => exact pairwise_insertOnce ih

theorem encode_eq (label : List Char) : encode label =
    (if (below 0x80 label).isEmpty then [] else below 0x80 label ++ ['-']) ++
      (writeAll label (below 0x80 label).length 0x80 (codesBeyond label)
        { count := (below 0x80 label).length }).out :=
  rfl

/-- What is written behind the last hyphen are digits. -/
theorem areDigits_written (label : List Char) :
    AreDigits (writeAll label (below 0x80 label).length 0x80 (codesBeyond label)
      { count := (below 0x80 label).length }).out :=
  areDigits_writeAll _ _ _ _ fun _ hc => absurd hc List.not_mem_nil

/-- **A written label is read back.** -/
theorem decode?_encode (label : List Char) : decode? (encode label) = some label := by
  have hstart : Follows (below 0x80 label).length 0x80 { text := below 0x80 label } [] label
      { count := (below 0x80 label).length } { text := below 0x80 label } :=
    { read := rfl, text := rfl, count := rfl, bias := rfl, idle := ⟨rfl, rfl, rfl⟩, steps := rfl
      first := Iff.intro (fun _ => rfl) (fun _ => rfl), basic_le := Nat.le_refl _ }
  obtain ⟨r, hread, htext, hposition⟩ := hstart.writeAll (pairwise_codesBeyond label)
    (fun m hm => by
      obtain ⟨c, -, hc, rfl⟩ := mem_codesBeyond.mp hm
      exact hc)
    (fun c hc hle => mem_codesBeyond.mpr ⟨c, hc, hle, rfl⟩)
  rw [decode?, encode_eq, parts_append (areDigits_written label)]
  simp only [hread, Option.bind_eq_bind, Option.bind_some, hposition, htext, if_true]
  rfl

example : decode? "bcher-kva".toList = some "bücher".toList := by decide +kernel

/-! ## 5. Characters -/

/-- A written label holds nothing that the label did not, save hyphens and digits. -/
theorem of_mem_encode {label : List Char} {c : Char} (hc : c ∈ encode label) :
    c ∈ label ∧ c.toNat < 0x80 ∨ c = '-' ∨ ∃ d, d < base ∧ c = digitChar d := by
  rw [encode_eq] at hc
  rcases List.mem_append.mp hc with hc | hc
  · split at hc
    · cases hc
    · rcases List.mem_append.mp hc with hc | hc
      · obtain ⟨hmem, hlt⟩ := List.mem_filter.mp hc
        exact .inl ⟨hmem, of_decide_eq_true hlt⟩
      · exact .inr (.inl (List.mem_singleton.mp hc))
  · exact .inr (.inr (areDigits_written label c hc))

/-- What a reading puts into a text is not ASCII. -/
structure Reading.IsBeyond (ascii : List Char) (r : Reading) : Prop where
  code : 0x80 ≤ r.code
  text : ∀ c ∈ r.text, c ∈ ascii ∨ 0x80 ≤ c.toNat

theorem Reading.IsBeyond.insert? {ascii : List Char} {r r' : Reading} {number : Nat}
    (h : r.IsBeyond ascii) (hr : r.insert? number = some r') : r'.IsBeyond ascii := by
  unfold Reading.insert? at hr
  simp only at hr
  split at hr
  case isFalse => cases hr
  rename_i hvalid
  obtain rfl := Option.some.inj hr
  have hcode : 0x80 ≤ r.code + (r.place + number) / (r.text.length + 1) :=
    h.code.trans (Nat.le_add_right _ _)
  refine { code := hcode, text := fun c hc => ?_ }
  rcases List.eq_or_mem_of_mem_insertIdx hc with rfl | hc
  · refine .inr (hcode.trans_eq ?_)
    rw [Char.ofNat, dif_pos hvalid]
    rfl
  · exact h.text c hc

theorem Reading.IsBeyond.read {ascii : List Char} {r r' : Reading} {c : Char}
    (h : r.IsBeyond ascii) (hr : r.read c = some r') : r'.IsBeyond ascii := by
  unfold Reading.read at hr
  obtain ⟨d, -, hr⟩ := Option.bind_eq_some_iff.mp hr
  simp only at hr
  split at hr
  · obtain rfl := Option.some.inj hr
    exact { code := h.code, text := h.text }
  · exact h.insert? hr

theorem Reading.IsBeyond.foldlM {ascii digits : List Char} {r r' : Reading} (h : r.IsBeyond ascii)
    (hr : digits.foldlM Reading.read r = some r') : r'.IsBeyond ascii := by
  induction digits generalizing r with
  | nil =>
    obtain rfl := Option.some.inj hr
    exact h
  | cons c digits ih =>
    rw [List.foldlM_cons] at hr
    obtain ⟨next, hnext, hr⟩ := Option.bind_eq_some_iff.mp hr
    exact ih (h.read hnext) hr

theorem mem_of_mem_parts {s : List Char} {c : Char} (hc : c ∈ (parts s).1) : c ∈ s := by
  unfold parts at hc
  split at hc
  · rename_i hsplit
    exact List.mem_reverse.mp (Text.mem_of_splitOnce hsplit (List.mem_reverse.mp hc))
  · cases hc

/-- The ASCII characters of a label that is read were written as they are. -/
theorem mem_of_decode? {s label : List Char} (h : decode? s = some label) {c : Char}
    (hc : c ∈ label) (ascii : c.toNat < 0x80) : c ∈ s := by
  unfold decode? at h
  simp only at h
  obtain ⟨r, hr, h⟩ := Option.bind_eq_some_iff.mp h
  split at h
  case isFalse => cases h
  obtain rfl := Option.some.inj h
  have hstart : Reading.IsBeyond (parts s).1 { text := (parts s).1 } :=
    { code := Nat.le_refl _, text := fun c hc => .inl hc }
  rcases (hstart.foldlM hr).text c hc with hmem | hge
  · exact mem_of_mem_parts hmem
  · exact absurd ascii hge.not_gt

end TrialProtocol.Idna.Punycode
