import TrialProtocol.Proofs.Idna.Form
import TrialProtocol.Proofs.Text.Ascii
import TrialProtocol.Proofs.Url.Machine
import TrialProtocol.Url.Reader

/-!
# Hosts are read back

Whatever host is read from the text of a special address, what is written for it is read as that host,
and it cannot be mistaken for another part of an address: it holds none of the signs that end an
authority, and no colon outside its brackets.
-/

namespace TrialProtocol.Url.Host

/-! ## 1. Hosts that are read -/

/-- A host that special addresses have: an address of a machine, or a name in its ASCII form. -/
inductive IsProper : Host → Prop where
  | ipv4 (a : UInt32) : IsProper (.ipv4 a)
  | ipv6 (a : Ipv6) : IsProper (.ipv6 a)
  | named {name : List Char} (form : Idna.toAscii? name = some name)
      (proper : ofDomain name = .ok (.named name)) : IsProper (.named name)

theorem isProper_of_readBracketed {s : List Char} {h : Host} (hr : readBracketed s = .ok h) :
    h.IsProper := by
  unfold readBracketed at hr
  split at hr
  · split at hr
    · cases hr
      exact .ipv6 _
    · cases hr
  · cases hr

/-- **Every host that is read is proper.** -/
theorem isProper_of_readDomain {s : List Char} {h : Host} (hr : readDomain s = .ok h) :
    h.IsProper := by
  unfold readDomain at hr
  split at hr
  · exact isProper_of_readBracketed hr
  · split at hr
    · rename_i domain hd
      obtain ⟨decoded, -, hform⟩ := Option.bind_eq_some_iff.mp hd
      have hname := Idna.toAscii?_of_toAscii?_eq_some hform
      have hof := hr
      unfold ofDomain at hr
      split at hr
      · cases hr
      · split at hr
        · split at hr
          · cases hr
            exact .ipv4 _
          · cases hr
        · cases hr
          exact .named hname hof
    · cases hr

/-! ## 2. Their characters -/

/-- A character of a host outside of brackets. -/
def isOpen (c : Char) : Bool :=
  !Idna.isForbidden c

theorem isOpen_digitChar {d : Nat} (h : d < 16) : isOpen d.digitChar = true := by
  have all : ∀ k : Fin 16, isOpen k.val.digitChar = true := by decide
  exact all ⟨d, h⟩

theorem ne_of_isOpen {c d : Char} (h : isOpen c = true) (hd : isOpen d = false) : c ≠ d := by
  rintro rfl
  rw [h] at hd
  cases hd

theorem isOpen_ipv4Text (a : UInt32) : ∀ c ∈ ipv4Text a, isOpen c = true := by
  intro c hc
  rcases mem_ipv4Text hc with rfl | ⟨d, hd, rfl⟩
  · decide
  · exact isOpen_digitChar (by omega)

theorem isOpen_named {name : List Char} (form : Idna.toAscii? name = some name) :
    ∀ c ∈ name, isOpen c = true := by
  intro c hc
  rw [isOpen, Idna.isForbidden_of_toAscii form c hc]
  rfl

/-- A character that neither ends an authority nor is passed over at the ends of an address. -/
def isInside (c : Char) : Bool :=
  0x20 < c.toNat && c != '/' && c != '\\' && c != '@' && c != '?' && c != '#'

theorem isInside_of_isOpen {c : Char} (h : isOpen c = true) : isInside c = true := by
  have hlow : 0x20 < c.toNat := by
    simp only [isOpen, Idna.isForbidden, Bool.not_eq_true', Bool.or_eq_false_iff,
      decide_eq_false_iff_not] at h
    omega
  have hne : ∀ d, isOpen d = false → (c != d) = true := fun d hd => by
    rw [bne_iff_ne]
    exact ne_of_isOpen h hd
  simp only [isInside, Bool.and_eq_true, decide_eq_true_eq]
  exact ⟨⟨⟨⟨⟨hlow, hne '/' (by decide)⟩, hne '\\' (by decide)⟩, hne '@' (by decide)⟩,
    hne '?' (by decide)⟩, hne '#' (by decide)⟩

/-- **A written host ends no authority and is not trimmed.** -/
theorem isInside_text {h : Host} (hp : h.IsProper) : ∀ c ∈ h.text, isInside c = true := by
  intro c hc
  cases hp with
  | ipv4 a => exact isInside_of_isOpen (isOpen_ipv4Text a c hc)
  | ipv6 a =>
    simp only [text, List.cons_append, List.mem_cons, List.mem_append, List.not_mem_nil,
      or_false] at hc
    rcases hc with rfl | hc | rfl
    · decide
    · rcases Ipv6.mem_text hc with rfl | ⟨d, hd, rfl⟩
      · decide
      · exact isInside_of_isOpen (isOpen_digitChar hd)
    · decide
  | named form => exact isInside_of_isOpen (isOpen_named form c hc)

theorem text_ne_nil {h : Host} (hp : h.IsProper) : h.text ≠ [] := by
  cases hp with
  | ipv4 a =>
    intro hn
    have he := endsInNumber_ipv4Text a
    rw [text] at hn
    rw [hn] at he
    exact absurd he (by decide)
  | ipv6 a => simp [text]
  | named form proper =>
    intro hn
    rw [text] at hn
    subst hn
    cases proper

theorem isEmpty_eq_false {h : Host} (hp : h.IsProper) : h.isEmpty = false := by
  have ht := text_ne_nil hp
  cases h with
  | named name =>
    rw [isEmpty]
    exact List.isEmpty_eq_false_iff.mpr ht
  | ipv4 a => rfl
  | ipv6 a => rfl

/-! ## 3. Ports -/

/-- The first colon behind characters that are no colons and no brackets. -/
theorem cutPort_append {s : List Char} (h : ∀ c ∈ s, isOpen c = true) (t : List Char) :
    cutPort false (s ++ t) = (s ++ (cutPort false t).1, (cutPort false t).2) := by
  induction s with
  | nil => rfl
  | cons c s ih =>
    have hc := h c (List.mem_cons_self ..)
    have hcolon : (c == ':') = false := beq_eq_false_iff_ne.mpr (ne_of_isOpen hc (by decide))
    have hleft : (c == '[') = false := beq_eq_false_iff_ne.mpr (ne_of_isOpen hc (by decide))
    have hright : (c == ']') = false := beq_eq_false_iff_ne.mpr (ne_of_isOpen hc (by decide))
    rw [List.cons_append, cutPort]
    simp only [hcolon, hleft, hright, Bool.false_and, Bool.false_eq_true, if_false,
      ih fun x hx => h x (List.mem_cons_of_mem _ hx)]
    rfl

/-- Between brackets no colon counts. -/
theorem cutPort_bracketed {s : List Char} (h : ∀ c ∈ s, c ≠ ']') (t : List Char) :
    cutPort true (s ++ ']' :: t) =
      (s ++ ']' :: (cutPort false t).1, (cutPort false t).2) := by
  induction s with
  | nil => rfl
  | cons c s ih =>
    have hright : (c == ']') = false := beq_eq_false_iff_ne.mpr (h c (List.mem_cons_self ..))
    rw [List.cons_append, cutPort]
    simp only [hright, Bool.not_true, Bool.and_false, Bool.false_eq_true, if_false, ite_self,
      ih fun x hx => h x (List.mem_cons_of_mem _ hx)]
    rfl

/-- **The port is cut off behind a written host.** -/
theorem cutPort_text {h : Host} (hp : h.IsProper) (t : List Char) :
    cutPort false (h.text ++ t) = (h.text ++ (cutPort false t).1, (cutPort false t).2) := by
  cases hp with
  | ipv4 a => exact cutPort_append (isOpen_ipv4Text a) t
  | ipv6 a =>
    have hin : ∀ c ∈ a.text, c ≠ ']' := by
      rintro c hc rfl
      rcases Ipv6.mem_text hc with hc | ⟨d, hd, hc⟩
      · exact absurd hc (by decide)
      · exact ne_of_isOpen (isOpen_digitChar hd) (d := ']') (by decide) hc.symm
    have hb := cutPort_bracketed hin t
    have ht : (Host.ipv6 a).text ++ t = '[' :: (a.text ++ ']' :: t) := by
      rw [text, List.append_assoc, List.cons_append, List.singleton_append]
    have hcolon : ('[' == ':') = false := by decide
    rw [ht, cutPort]
    simp only [hcolon, Bool.false_and, Bool.false_eq_true, if_false, beq_self_eq_true, if_true, hb]
    simp [text]
  | named form => exact cutPort_append (isOpen_named form) t

/-! ## 4. Reading back -/

theorem readBracketed_text (a : Ipv6) : readBracketed (a.text ++ [']']) = .ok (.ipv6 a) := by
  rw [readBracketed, List.reverse_append, List.reverse_singleton, List.singleton_append]
  simp only [List.reverse_reverse, Ipv6.read?_text]

/-- A written address of 32 bits is a plain name in its ASCII form. -/
theorem toAscii?_ipv4Text (a : UInt32) : Idna.toAscii? (ipv4Text a) = some (ipv4Text a) := by
  have hchar : ∀ c ∈ ipv4Text a, Idna.IsWritten c := by
    have all : ∀ k : Fin 10, k.val.digitChar.toNat < 0x80 ∧
        k.val.digitChar.toLower = k.val.digitChar ∧
        Idna.isForbidden k.val.digitChar = false := by decide
    intro c hc
    rcases mem_ipv4Text hc with rfl | ⟨d, hd, rfl⟩
    · exact ⟨by decide, by decide, by decide⟩
    · obtain ⟨ascii, small, allowed⟩ := all ⟨d, hd⟩
      exact ⟨ascii, small, allowed⟩
  have hmark : ∀ n, (Idna.marked? (Nat.toDigits 10 n)).isNone = true := by
    intro n
    obtain ⟨c, cs, hc⟩ := List.exists_cons_of_ne_nil (Nat.toDigits_ne_nil (n := n) (b := 10))
    obtain ⟨d, hd, rfl⟩ := exists_digit_of_mem_toDigits (b := 10) (n := n) (c := c) (by decide)
      (by rw [hc]; exact List.mem_cons_self ..)
    have all : ∀ k : Fin 10, 'x' ≠ k.val.digitChar.toLower := by decide
    have hmark : Idna.mark = 'x' :: "n--".toList := by decide
    rw [hc, Idna.marked?, hmark, List.map_cons, Text.stripStart, if_neg (all ⟨d, hd⟩)]
    rfl
  have hplain : Idna.isPlain (ipv4Text a) = true := by
    rw [Idna.isPlain, split_ipv4Text, List.all_map, Bool.and_eq_true]
    exact ⟨List.all_eq_true.mpr fun c hc => Idna.isAscii_iff.mpr (hchar c hc).ascii,
      List.all_eq_true.mpr fun n _ => hmark n⟩
  rw [Idna.toAscii?, if_pos hplain, Idna.plainForm?_eq_some hchar]

/-- A domain in its ASCII form is read as it stands. -/
theorem readDomain_of_toAscii {name : List Char} (form : Idna.toAscii? name = some name)
    (free : ∀ c ∈ name, isOpen c = true) : readDomain name = ofDomain name := by
  have hne : ∀ c ∈ name, c ≠ '%' := fun c hc => ne_of_isOpen (free c hc) (by decide)
  have hd : (Percent.decode? name).bind Idna.toAscii? = some name := by
    rw [Text.decode?_of_ne hne, Option.bind_some, form]
  unfold readDomain
  split
  · rename_i rest
    exact absurd rfl (ne_of_isOpen (free '[' (List.mem_cons_self ..)) (by decide))
  · rw [hd]

/-- **A written host is read back.** -/
theorem readDomain_text {h : Host} (hp : h.IsProper) : readDomain h.text = .ok h := by
  cases hp with
  | ipv4 a =>
    have hne := text_ne_nil (.ipv4 a)
    rw [text] at hne ⊢
    rw [readDomain_of_toAscii (toAscii?_ipv4Text a) (isOpen_ipv4Text a), ofDomain,
      if_neg (by simpa using hne), endsInNumber_ipv4Text, readIpv4?_ipv4Text]
    rfl
  | ipv6 a => exact readBracketed_text a
  | named form proper =>
    rw [text, readDomain_of_toAscii form (isOpen_named form), proper]

end TrialProtocol.Url.Host
