import TrialProtocol.Proofs.Text.Parts
import TrialProtocol.Url.Ipv4
import TrialProtocol.Url.Ipv6

/-!
# Addresses of machines are read back

What is written for an address of 32 or of 128 bits is read as that address.

* `readIpv4?_ipv4Text`: four decimal numbers between dots.
* `Ipv6.read?_text`: groups between colons, with the longest run of zeros left out.
-/

namespace TrialProtocol.Url

/-! ## 1. Digits -/

theorem hexValue?_digitChar {d : Nat} (h : d < 16) : Text.hexValue? d.digitChar = some d := by
  have all : ∀ k : Fin 16, Text.hexValue? k.val.digitChar = some k.val := by decide
  exact all ⟨d, h⟩

/-- No digit is a colon or a dot. -/
theorem digitChar_ne {d : Nat} (h : d < 16) : d.digitChar ≠ ':' ∧ d.digitChar ≠ '.' := by
  have all : ∀ k : Fin 16, k.val.digitChar ≠ ':' ∧ k.val.digitChar ≠ '.' := by decide
  exact all ⟨d, h⟩

/-- The digits of a number in a base up to sixteen. -/
theorem exists_digit_of_mem_toDigits {b n : Nat} (hb : 1 < b) {c : Char}
    (h : c ∈ Nat.toDigits b n) : ∃ d, d < b ∧ c = d.digitChar := by
  induction n using Nat.strongRecOn with
  | _ n ih =>
    by_cases hn : n < b
    · rw [Nat.toDigits_of_lt_base hn, List.mem_singleton] at h
      exact ⟨n, hn, h⟩
    · rw [Nat.toDigits_of_base_le hb (by omega)] at h
      rcases List.mem_append.mp h with h | h
      · exact ih (n / b) (Nat.div_lt_self (by omega) hb) h
      · exact ⟨n % b, Nat.mod_lt n (by omega), List.mem_singleton.mp h⟩

/-- The digits of a number and their values, of which the number is made. -/
theorem mapM_toDigits {b : Nat} (hb : 1 < b) (h16 : b ≤ 16) (n : Nat) :
    ∃ ds, (Nat.toDigits b n).mapM Text.hexValue? = some ds ∧ (∀ d ∈ ds, d < b) ∧
      ds.foldl (fun n d => b * n + d) 0 = n := by
  induction n using Nat.strongRecOn with
  | _ n ih =>
    by_cases hn : n < b
    · refine ⟨[n], ?_, fun d hd => ?_, by simp⟩
      · rw [Nat.toDigits_of_lt_base hn, List.mapM_cons, hexValue?_digitChar (by omega)]
        rfl
      · rw [List.mem_singleton.mp hd]
        exact hn
    · obtain ⟨ds, hm, hlt, hv⟩ := ih (n / b) (Nat.div_lt_self (by omega) hb)
      have hr : n % b < b := Nat.mod_lt n (by omega)
      refine ⟨ds ++ [n % b], ?_, fun d hd => ?_, ?_⟩
      · rw [Nat.toDigits_of_base_le hb (by omega), List.mapM_append, hm, List.mapM_cons,
          hexValue?_digitChar (by omega)]
        rfl
      · rcases List.mem_append.mp hd with hd | hd
        · exact hlt d hd
        · rw [List.mem_singleton.mp hd]
          exact hr
      · rw [List.foldl_append, hv, List.foldl_cons, List.foldl_nil]
        exact Nat.div_add_mod n b

/-- Reading digits one by one is reading their values first. -/
theorem valueIn?_of_mapM {b : Nat} {s : List Char} {ds : List Nat}
    (hm : s.mapM Text.hexValue? = some ds) (hlt : ∀ d ∈ ds, d < b) :
    valueIn? b s = some (ds.foldl (fun n d => b * n + d) 0) := by
  unfold valueIn?
  generalize 0 = acc
  induction s generalizing ds acc with
  | nil =>
    cases hm
    rfl
  | cons c s ih =>
    rw [List.mapM_cons] at hm
    obtain ⟨d, hd, hm⟩ := Option.bind_eq_some_iff.mp hm
    obtain ⟨ds', hs, hm⟩ := Option.bind_eq_some_iff.mp hm
    cases hm
    have hdb := hlt d (List.mem_cons_self ..)
    have hrest := ih hs (fun x hx => hlt x (List.mem_cons_of_mem _ hx)) (b * acc + d)
    rw [List.foldlM_cons, hd]
    simp only [bind, Option.bind, if_pos hdb]
    exact hrest

theorem valueIn?_toDigits {b : Nat} (hb : 1 < b) (h16 : b ≤ 16) (n : Nat) :
    valueIn? b (Nat.toDigits b n) = some n := by
  obtain ⟨ds, hm, hlt, hv⟩ := mapM_toDigits hb h16 n
  rw [valueIn?_of_mapM hm hlt, hv]

/-- Only zero has a zero in front. -/
theorem head?_toDigits {b : Nat} (hb : 1 < b) (h16 : b ≤ 16) {n : Nat} (hn : n ≠ 0) :
    (Nat.toDigits b n).head? ≠ some '0' := by
  induction n using Nat.strongRecOn with
  | _ n ih =>
    by_cases hlt : n < b
    · have all : ∀ k : Fin 16, k.val ≠ 0 → k.val.digitChar ≠ '0' := by decide
      rw [Nat.toDigits_of_lt_base hlt]
      intro h
      exact all ⟨n, by omega⟩ hn (Option.some.inj h)
    · have hq : n / b ≠ 0 := by
        intro h
        exact hlt (Nat.lt_of_div_eq_zero (by omega) h)
      have hhead := ih (n / b) (Nat.div_lt_self (by omega) hb) hq
      obtain ⟨c, cs, hc⟩ := List.exists_cons_of_ne_nil
        (Nat.toDigits_ne_nil (n := n / b) (b := b))
      rw [hc] at hhead
      rw [Nat.toDigits_of_base_le hb (by omega), hc]
      exact hhead

/-! ## 2. Addresses of 32 bits -/

/-- A decimal number without leading zeros is read as it stands. -/
theorem ipv4Number?_toDigits (n : Nat) : ipv4Number? (Nat.toDigits 10 n) = some n := by
  by_cases hn : n = 0
  · subst hn
    decide
  · have hv := valueIn?_toDigits (b := 10) (by decide) (by decide) n
    have hh := head?_toDigits (b := 10) (by decide) (by decide) hn
    generalize Nat.toDigits 10 n = s at hv hh
    unfold ipv4Number?
    split
    · cases hv
      exact absurd rfl hn
    · exact absurd rfl hh
    · exact absurd rfl hh
    · exact absurd rfl hh
    · exact hv

/-- The numbers of an address. -/
def ipv4Numbers (address : UInt32) : List Nat :=
  let n := address.toNat
  [n / 0x1000000, n / 0x10000 % 256, n / 0x100 % 256, n % 256]

theorem ipv4Text_eq (address : UInt32) :
    ipv4Text address = Text.join ['.'] ((ipv4Numbers address).map (Nat.toDigits 10)) := rfl

theorem ipv4OfNumbers?_ipv4Numbers (address : UInt32) :
    ipv4OfNumbers? (ipv4Numbers address) = some address.toNat := by
  have hn := address.toNat_lt
  have hp : Nat.pow 256 (4 - 3) = 256 := rfl
  simp only [ipv4Numbers, ipv4OfNumbers?, List.dropLast, List.getLast?_cons_cons,
    List.getLast?_singleton, Option.getD_some, List.length_cons, List.length_nil, List.all_cons,
    List.all_nil, List.foldl_cons, List.foldl_nil, Bool.and_true, Bool.and_eq_true,
    decide_eq_true_eq, Nat.zero_add, Nat.reduceAdd]
  rw [hp, if_pos (by omega)]
  refine congrArg some ?_
  omega

/-- A written address is cut at its dots into its numbers. -/
theorem split_ipv4Text (address : UInt32) :
    Text.split '.' (ipv4Text address) = (ipv4Numbers address).map (Nat.toDigits 10) := by
  rw [ipv4Text_eq]
  refine Text.split_join (by simp [ipv4Numbers]) fun part hp c hc => ?_
  obtain ⟨n, -, rfl⟩ := List.mem_map.mp hp
  obtain ⟨d, hd, rfl⟩ := exists_digit_of_mem_toDigits (by decide) hc
  exact beq_eq_false_iff_ne.mpr (digitChar_ne (by omega)).2

theorem labelsOf_ipv4Text (address : UInt32) :
    labelsOf (ipv4Text address) = (ipv4Numbers address).map (Nat.toDigits 10) := by
  have hl : ((ipv4Numbers address).map (Nat.toDigits 10)).getLast? =
      some (Nat.toDigits 10 (address.toNat % 256)) := rfl
  rw [labelsOf, split_ipv4Text]
  simp only [hl, Option.some.injEq, Nat.toDigits_ne_nil, if_false]

theorem endsInNumber_ipv4Text (address : UInt32) : endsInNumber (ipv4Text address) = true := by
  have hl : (labelsOf (ipv4Text address)).getLast? =
      some (Nat.toDigits 10 (address.toNat % 256)) := by
    rw [labelsOf_ipv4Text]
    rfl
  have hd : ∀ c ∈ Nat.toDigits 10 (address.toNat % 256), c.isDigit = true := fun c hc =>
    Nat.isDigit_of_mem_toDigits (by decide) (by decide) hc
  obtain ⟨c, cs, hc⟩ := List.exists_cons_of_ne_nil
    (Nat.toDigits_ne_nil (n := address.toNat % 256) (b := 10))
  rw [hc] at hl hd
  rw [endsInNumber, hl]
  simp only [List.all_eq_true.mpr hd, Bool.true_or]

/-- **A written address of 32 bits is read back.** -/
theorem readIpv4?_ipv4Text (address : UInt32) : readIpv4? (ipv4Text address) = some address := by
  have hm : ∀ ns : List Nat, (ns.map (Nat.toDigits 10)).mapM ipv4Number? = some ns := by
    intro ns
    induction ns with
    | nil => rfl
    | cons n ns ih =>
      rw [List.map_cons, List.mapM_cons, ipv4Number?_toDigits, ih]
      rfl
  rw [readIpv4?, labelsOf_ipv4Text, hm]
  simp only [bind, Option.bind, ipv4OfNumbers?_ipv4Numbers, pure, UInt32.ofNat_toNat]

/-- A written address of 32 bits has digits and dots only. -/
theorem mem_ipv4Text {address : UInt32} {c : Char} (h : c ∈ ipv4Text address) :
    c = '.' ∨ ∃ d, d < 10 ∧ c = d.digitChar := by
  rw [ipv4Text_eq] at h
  rcases Text.mem_of_mem_join h with hc | ⟨part, hp, hc⟩
  · exact .inl (List.mem_singleton.mp hc)
  · obtain ⟨n, -, rfl⟩ := List.mem_map.mp hp
    exact .inr (exists_digit_of_mem_toDigits (by decide) hc)

/-! ## 3. Groups -/

namespace Ipv6

theorem group?_toDigits (g : UInt16) : group? (Nat.toDigits 16 g.toNat) = some g := by
  obtain ⟨ds, hm, -, hv⟩ := mapM_toDigits (b := 16) (by decide) (by decide) g.toNat
  have hpos : 0 < (Nat.toDigits 16 g.toNat).length := Nat.length_toDigits_pos
  have hlen : (Nat.toDigits 16 g.toNat).length ≤ 4 := by
    rw [Nat.length_toDigits_le_iff (by decide) (by decide)]
    exact g.toNat_lt
  rw [group?, if_neg (by omega), hm, Option.map_some, hv, UInt16.ofNat_toNat]

theorem ne_of_mem_toDigits {n : Nat} {c : Char} (h : c ∈ Nat.toDigits 16 n) :
    c ≠ ':' ∧ c ≠ '.' := by
  obtain ⟨d, hd, rfl⟩ := exists_digit_of_mem_toDigits (by decide) h
  exact digitChar_ne hd

theorem groupsText_cons_cons (g h : UInt16) (groups : List UInt16) :
    groupsText (g :: h :: groups) = Nat.toDigits 16 g.toNat ++ ':' :: groupsText (h :: groups) := by
  rw [groupsText, List.map_cons, List.map_cons, Text.join_cons_of_ne_nil (by simp),
    List.append_assoc]
  rfl

theorem groupsText_singleton (g : UInt16) : groupsText [g] = Nat.toDigits 16 g.toNat := rfl

/-- Written groups begin with a digit. -/
theorem exists_groupsText_eq_cons (g : UInt16) (groups : List UInt16) :
    ∃ c cs, groupsText (g :: groups) = c :: cs ∧ c ≠ ':' := by
  obtain ⟨c, cs, hc⟩ := List.exists_cons_of_ne_nil
    (Nat.toDigits_ne_nil (n := g.toNat) (b := 16))
  have hne : c ≠ ':' := by
    have hm : c ∈ Nat.toDigits 16 g.toNat := by rw [hc]; exact List.mem_cons_self ..
    exact (ne_of_mem_toDigits hm).1
  cases groups with
  | nil => exact ⟨c, cs, hc, hne⟩
  | cons h groups =>
    rw [groupsText_cons_cons, hc]
    exact ⟨c, _, rfl, hne⟩

/-- Written groups have digits and colons only. -/
theorem mem_groupsText {groups : List UInt16} {c : Char} (h : c ∈ groupsText groups) :
    c = ':' ∨ ∃ d, d < 16 ∧ c = d.digitChar := by
  rcases Text.mem_of_mem_join h with hc | ⟨part, hp, hc⟩
  · exact .inl (List.mem_singleton.mp hc)
  · obtain ⟨g, -, rfl⟩ := List.mem_map.mp hp
    exact .inr (exists_digit_of_mem_toDigits (by decide) hc)

theorem contains_dot_groupsText (groups : List UInt16) :
    (groupsText groups).contains '.' = false := by
  rw [List.contains_eq_any_beq, List.any_eq_false]
  intro c hc
  rw [beq_iff_eq]
  rintro rfl
  rcases mem_groupsText hc with hc | ⟨d, hd, hc⟩
  · exact absurd hc (by decide)
  · exact (digitChar_ne hd).2 hc.symm

theorem groups?_map (groups : List UInt16) :
    groups? (groups.map fun g => Nat.toDigits 16 g.toNat) = some groups := by
  induction groups with
  | nil => rfl
  | cons g groups ih =>
    cases groups with
    | nil =>
      have hdot := contains_dot_groupsText [g]
      rw [groupsText_singleton] at hdot
      rw [List.map_cons, List.map_nil, groups?, hdot, group?_toDigits]
      rfl
    | cons h groups =>
      rw [List.map_cons, groups?, group?_toDigits, ih]
      · rfl
      · simp

/-- Written groups are read back. -/
theorem readGroups?_groupsText (groups : List UInt16) :
    readGroups? (groupsText groups) = some groups := by
  cases groups with
  | nil => rfl
  | cons g groups =>
    obtain ⟨c, cs, hc, -⟩ := exists_groupsText_eq_cons g groups
    have hs : Text.split ':' (groupsText (g :: groups)) =
        (g :: groups).map fun g => Nat.toDigits 16 g.toNat := by
      refine Text.split_join (by simp) fun part hp c hc => ?_
      obtain ⟨g, -, rfl⟩ := List.mem_map.mp hp
      exact beq_eq_false_iff_ne.mpr (ne_of_mem_toDigits hc).1
    have hne : (groupsText (g :: groups)).isEmpty = false := by
      rw [hc]
      rfl
    rw [readGroups?, hne, hs, groups?_map]
    rfl

/-! ## 4. The gap -/

theorem cutGap_cons {c : Char} (h : c ≠ ':') (s : List Char) :
    cutGap (c :: s) = (cutGap s).map fun (a, b) => (c :: a, b) := by
  rw [cutGap]
  rintro rest hc -
  exact h hc

/-- A text without colons in front of another is passed over. -/
theorem cutGap_append {s : List Char} (h : ∀ c ∈ s, c ≠ ':') (t : List Char) :
    cutGap (s ++ t) = (cutGap t).map fun (a, b) => (s ++ a, b) := by
  induction s with
  | nil =>
    rw [List.nil_append]
    cases cutGap t <;> rfl
  | cons c s ih =>
    rw [List.cons_append, cutGap_cons (h c (List.mem_cons_self ..)),
      ih fun x hx => h x (List.mem_cons_of_mem _ hx)]
    cases cutGap t <;> rfl

/-- A single colon is passed over. -/
theorem cutGap_colon {c : Char} (h : c ≠ ':') (s : List Char) :
    cutGap (':' :: c :: s) = (cutGap (c :: s)).map fun (a, b) => (':' :: a, b) := by
  rw [cutGap]
  rintro rest - hc
  cases hc
  exact h rfl

/-- Between written groups there is no gap. -/
theorem cutGap_groupsText (groups : List UInt16) : cutGap (groupsText groups) = none := by
  induction groups with
  | nil => rfl
  | cons g groups ih =>
    have hg : ∀ c ∈ Nat.toDigits 16 g.toNat, c ≠ ':' := fun c hc => (ne_of_mem_toDigits hc).1
    cases groups with
    | nil =>
      have hn := cutGap_append hg []
      rw [List.append_nil] at hn
      exact hn
    | cons h groups =>
      obtain ⟨c, cs, hc, hne⟩ := exists_groupsText_eq_cons h groups
      rw [hc] at ih
      rw [groupsText_cons_cons, cutGap_append hg, hc, cutGap_colon hne, ih]
      rfl

/-- A gap behind written groups is found. -/
theorem cutGap_groupsText_append (groups : List UInt16) (rest : List Char) :
    cutGap (groupsText groups ++ ':' :: ':' :: rest) = some (groupsText groups, rest) := by
  induction groups with
  | nil => rfl
  | cons g groups ih =>
    have hg : ∀ c ∈ Nat.toDigits 16 g.toNat, c ≠ ':' := fun c hc => (ne_of_mem_toDigits hc).1
    cases groups with
    | nil =>
      rw [groupsText_singleton, cutGap_append hg]
      simp [cutGap]
    | cons h groups =>
      obtain ⟨c, cs, hc, hne⟩ := exists_groupsText_eq_cons h groups
      rw [hc, List.cons_append] at ih
      rw [groupsText_cons_cons, hc, List.append_assoc, cutGap_append hg, List.cons_append,
        List.cons_append, cutGap_colon hne, ih]
      rfl

/-! ## 5. The longest run of zeros -/

theorem takeWhile_zero (groups : List UInt16) :
    groups.takeWhile (· == 0) = List.replicate (zeroRun groups) 0 := by
  rw [List.eq_replicate_iff]
  refine ⟨rfl, fun g hg => ?_⟩
  have hz := List.all_takeWhile (p := (· == 0)) (l := groups)
  exact eq_of_beq (List.all_eq_true.mp hz g hg)

/-- Where the longest run starts, there are as many zeros. -/
theorem eq_around_runStart (groups : List UInt16) {n : Nat} (hn : longestRun groups = n)
    (pos : 0 < n) : groups = groups.take (runStart n groups) ++ List.replicate n 0 ++
      groups.drop (runStart n groups + n) := by
  induction groups with
  | nil =>
    rw [longestRun] at hn
    omega
  | cons g groups ih =>
    rw [runStart]
    by_cases hz : zeroRun (g :: groups) = n
    · have hd : (g :: groups).drop n = (g :: groups).dropWhile (· == 0) := by
        have hsplit := List.takeWhile_append_dropWhile (p := (· == 0)) (l := g :: groups)
        rw [takeWhile_zero, hz] at hsplit
        have hdrop : (List.replicate n 0 ++ (g :: groups).dropWhile (· == 0)).drop
            (List.replicate n (0 : UInt16)).length = (g :: groups).dropWhile (· == 0) :=
          List.drop_left
        rw [hsplit, List.length_replicate] at hdrop
        exact hdrop
      rw [if_pos hz, List.take_zero, List.nil_append, Nat.zero_add, hd, ← hz, ← takeWhile_zero,
        List.takeWhile_append_dropWhile]
    · have hrest : longestRun groups = n := by
        rw [longestRun] at hn
        omega
      have hs : runStart n groups + 1 + n = (runStart n groups + n) + 1 := by omega
      rw [if_neg hz, List.take_succ_cons, hs, List.drop_succ_cons, List.cons_append,
        List.cons_append]
      exact congrArg _ (ih hrest)

/-! ## 6. Addresses of 128 bits -/

theorem ofGroups?_groups (a : Ipv6) : ofGroups? a.groups = some a := by
  rw [ofGroups?, dif_pos a.length_groups]

/-- **A written address of 128 bits is read back.** -/
theorem read?_text (a : Ipv6) : read? a.text = some a := by
  by_cases hn : longestRun a.groups < 2
  · rw [text, if_pos hn, read?, cutGap_groupsText]
    simp only [readGroups?_groupsText, Option.bind_some, ofGroups?_groups]
  · have hsplit := eq_around_runStart a.groups rfl (by omega)
    generalize hfront : a.groups.take (runStart (longestRun a.groups) a.groups) = front at hsplit
    generalize hback : a.groups.drop (runStart (longestRun a.groups) a.groups +
      longestRun a.groups) = back at hsplit
    have hlen := congrArg List.length hsplit
    rw [a.length_groups, List.length_append, List.length_append, List.length_replicate] at hlen
    have hgap : 8 - front.length - back.length = longestRun a.groups := by omega
    have htext : a.text = groupsText front ++ ':' :: ':' :: groupsText back := by
      rw [text, if_neg hn]
      simp only [hfront, hback, List.append_assoc, List.cons_append, List.nil_append]
    rw [htext, read?, cutGap_groupsText_append]
    simp only [contains_dot_groupsText, Bool.false_eq_true, if_false, readGroups?_groupsText, bind,
      Option.bind]
    rw [if_pos (by omega), hgap, ← hsplit, ofGroups?_groups]

/-- A written address of 128 bits has digits and colons only. -/
theorem mem_text {a : Ipv6} {c : Char} (h : c ∈ a.text) :
    c = ':' ∨ ∃ d, d < 16 ∧ c = d.digitChar := by
  unfold text at h
  simp only at h
  split at h
  · exact mem_groupsText h
  · rcases List.mem_append.mp h with h | h
    · rcases List.mem_append.mp h with h | h
      · exact mem_groupsText h
      · simp only [List.mem_cons, List.not_mem_nil, or_false, or_self] at h
        exact .inl h
    · exact mem_groupsText h

end Ipv6

end TrialProtocol.Url
