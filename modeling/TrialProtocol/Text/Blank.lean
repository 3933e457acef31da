/-!
# Blanks and words

Blank characters, trimming, and cutting a text into parts.

* `isBlank` is the property White_Space, not the ASCII blanks alone.
* `isAsciiBlank` is the smaller set that separates relation types in a link.
* `split` keeps empty parts, `words` drops them.
-/

namespace TrialProtocol.Text

/-! ## 1. Blank characters -/

/-- The characters with the Unicode property White_Space. -/
def isBlank (c : Char) : Bool :=
  let n := c.toNat
  (9 ≤ n && n ≤ 13) || n == 0x20 || n == 0x85 || n == 0xA0 || n == 0x1680 ||
    (0x2000 ≤ n && n ≤ 0x200A) || n == 0x2028 || n == 0x2029 || n == 0x202F ||
    n == 0x205F || n == 0x3000

/-- Tab, line feed, form feed, carriage return and space; the vertical tab is not among them. -/
def isAsciiBlank (c : Char) : Bool :=
  let n := c.toNat
  n == 9 || n == 10 || n == 12 || n == 13 || n == 32

/-! ## 2. Trimming -/

/-- Drops the matching characters at the end. -/
def dropEndWhile (p : Char → Bool) (s : List Char) : List Char :=
  (s.reverse.dropWhile p).reverse

/-- Drops the matching characters at both ends. -/
def trimBy (p : Char → Bool) (s : List Char) : List Char :=
  dropEndWhile p (s.dropWhile p)

/-- Drops the blanks at both ends. -/
def trim (s : List Char) : List Char :=
  trimBy isBlank s

/-! ## 3. Parts and words -/

/-- Cuts at every matching character; `n` cuts give `n + 1` parts, some of them perhaps empty. -/
def splitBy (p : Char → Bool) : List Char → List (List Char)
  | [] => [[]]
  | c :: rest =>
    if p c then [] :: splitBy p rest
    else
      match splitBy p rest with
      | [] => [[c]]
      | part :: parts => (c :: part) :: parts

/-- Cuts at every occurrence of `d`. -/
def split (d : Char) (s : List Char) : List (List Char) :=
  splitBy (· == d) s

/-- The non-empty parts between matching characters. -/
def wordsBy (p : Char → Bool) (s : List Char) : List (List Char) :=
  (splitBy p s).filter (fun w => !w.isEmpty)

/-- Puts `d` between the parts. -/
def join (d : List Char) : List (List Char) → List Char
  | [] => []
  | [part] => part
  | part :: parts => part ++ d ++ join d parts

/-- Cuts at the first matching character, which is dropped; `none` if there is none. -/
def splitOnce (p : Char → Bool) : List Char → Option (List Char × List Char)
  | [] => none
  | c :: rest =>
    if p c then some ([], rest)
    else (splitOnce p rest).map (fun (a, b) => (c :: a, b))

/-- Removes `pre` from the front of a text that begins with it. -/
def stripStart : List Char → List Char → Option (List Char)
  | [], s => some s
  | _ :: _, [] => none
  | c :: pre, d :: s => if c = d then stripStart pre s else none

/-! ## 4. Case -/

/-- Equality up to the case of the letters `A` to `Z`. -/
def eqIgnoreCase (a b : List Char) : Bool :=
  a.map Char.toLower == b.map Char.toLower

/-! ## 5. Small facts -/

theorem splitBy_ne_nil (p : Char → Bool) (s : List Char) : splitBy p s ≠ [] := by
  cases s with
  | nil => simp [splitBy]
  | cons c rest =>
    unfold splitBy
    split
    · simp
    · split <;> simp

theorem join_cons_of_ne_nil {d part : List Char} {parts : List (List Char)} (h : parts ≠ []) :
    join d (part :: parts) = part ++ d ++ join d parts := by
  cases parts with
  | nil => exact absurd rfl h
  | cons p ps => rfl

/-- Cutting loses nothing: putting the delimiter back gives the text again. -/
theorem join_split (d : Char) (s : List Char) : join [d] (split d s) = s := by
  unfold split
  induction s with
  | nil => rfl
  | cons c rest ih =>
    unfold splitBy
    split
    · rename_i h
      rw [join_cons_of_ne_nil (splitBy_ne_nil _ _), ih, eq_of_beq h]
      rfl
    · cases hs : splitBy (· == d) rest with
      | nil => exact absurd hs (splitBy_ne_nil _ _)
      | cons part parts =>
        rw [hs] at ih
        cases parts with
        | nil => simpa [join] using ih
        | cons q qs => simpa [join] using ih

theorem stripStart_append (pre s : List Char) : stripStart pre (pre ++ s) = some s := by
  induction pre with
  | nil => rfl
  | cons c pre ih => simp [stripStart, ih]

theorem eq_append_of_stripStart {pre s t : List Char} (h : stripStart pre s = some t) :
    s = pre ++ t := by
  induction pre generalizing s with
  | nil => simpa [stripStart] using h
  | cons c pre ih =>
    cases s with
    | nil => simp [stripStart] at h
    | cons d s =>
      unfold stripStart at h
      split at h
      · rename_i hcd
        rw [hcd, ih h]
        rfl
      · simp at h

end TrialProtocol.Text
