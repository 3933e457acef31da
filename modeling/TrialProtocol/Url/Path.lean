import TrialProtocol.Text.Blank
import TrialProtocol.Url.Scheme

/-!
# Paths

The path of an address is a list of segments, each written behind a slash. Dot segments, also in
escaped spelling, are carried out while a path is read: one dot stays, two dots climb. So no path that
was read holds a dot segment.

* A drive letter (`C:`) is never climbed over.
* A path that ends in a dot segment ends in an empty segment, that is, in a slash.
-/

namespace TrialProtocol.Url

/-- A segment of a path, with its escapes. -/
abbrev Segment := List Char

/-- A segment that stays where it is. -/
def isSingleDot (s : Segment) : Bool :=
  let s := s.map Char.toLower
  s == ".".toList || s == "%2e".toList

/-- A segment that climbs. -/
def isDoubleDot (s : Segment) : Bool :=
  let s := s.map Char.toLower
  s == "..".toList || s == ".%2e".toList || s == "%2e.".toList || s == "%2e%2e".toList

/-- A segment that is carried out and not kept. -/
def isDot (s : Segment) : Bool :=
  isSingleDot s || isDoubleDot s

/-- The letter of a drive, with a colon or a bar behind it. -/
def isDriveLetter : Segment → Bool
  | [letter, mark] => letter.isAlpha && (mark == ':' || mark == '|')
  | _ => false

/-- The letter of a drive with a colon. -/
def isProperDriveLetter (s : Segment) : Bool :=
  isDriveLetter s && s.getLast? == some ':'

/-- The segments above. -/
def climb (done : List Segment) : List Segment :=
  if done.getLast?.any isDriveLetter then done else done.dropLast

/-- A segment behind others. In a local path a drive letter at the root gets its colon. -/
def append (isFile : Bool) (done : List Segment) (s : Segment) : List Segment :=
  match isFile && done.isEmpty && isDriveLetter s, s with
  | true, letter :: _ => [[letter, ':']]
  | _, s => done ++ [s]

/-- Carries out a segment with a slash behind it. -/
def step (isFile : Bool) (done : List Segment) (s : Segment) : List Segment :=
  if isDoubleDot s then climb done
  else if isSingleDot s then done
  else append isFile done s

/-- Carries out the last segment. -/
def finish (isFile : Bool) (done : List Segment) (s : Segment) : List Segment :=
  if isDot s then step isFile done s ++ [[]] else append isFile done s

/-- Carries out segments behind those already done. -/
def walk (isFile : Bool) (done : List Segment) : List Segment → List Segment
  | [] => done
  | [last] => finish isFile done last
  | s :: rest => walk isFile (step isFile done s) rest

/-- The segments of a text, with what a path does not allow escaped. -/
def segmentsOf (special : Bool) (s : List Char) : List Segment :=
  (Text.splitBy (fun c => c == '/' || (special && c == '\\')) s).map (Percent.encode escapedInPath)

/-- Drops empty segments in front of others. -/
def dropEmptyFront : List Segment → List Segment
  | [] :: s :: rest => dropEmptyFront (s :: rest)
  | segments => segments

/-- The path of an address. -/
inductive Path where
  /-- A path without hierarchy, as in a mail address. -/
  | flat (text : List Char)
  /-- A path of segments. -/
  | segments (list : List Segment)
  deriving DecidableEq, Repr

/-- The segments, none of a path without hierarchy. -/
def Path.toSegments : Path → List Segment
  | .flat _ => []
  | .segments list => list

/-- The written path. -/
def Path.text : Path → List Char
  | .flat text => text
  | .segments list => list.flatMap ('/' :: ·)

/-! ## Dots are gone -/

theorem isDot_nil : isDot [] = false := by decide

theorem mem_climb {done : List Segment} {s : Segment} (h : s ∈ climb done) : s ∈ done := by
  unfold climb at h
  split at h
  · exact h
  · exact List.dropLast_subset _ h

/-- A letter and a colon are no dot segment. -/
theorem isDot_drive {letter : Char} (h : letter.isAlpha = true) : isDot [letter, ':'] = false := by
  have hl : letter ≠ '.' := by
    rintro rfl
    exact absurd h (by decide)
  simp only [isDot, isSingleDot, isDoubleDot, List.map_cons, List.map_nil]
  have hc : Char.toLower ':' = ':' := by decide
  simp [hc]

theorem isDot_of_mem_append {isFile : Bool} {done : List Segment} {s t : Segment}
    (hs : isDot s = false) (hd : ∀ u ∈ done, isDot u = false) (h : t ∈ append isFile done s) :
    isDot t = false := by
  unfold append at h
  split at h
  · rename_i letter rest hc
    rw [List.mem_singleton.mp h]
    match rest, hc with
    | [mark], hc =>
      simp only [isDriveLetter, Bool.and_eq_true] at hc
      exact isDot_drive hc.2.1
    | [], hc => simp [isDriveLetter] at hc
    | _ :: _ :: _, hc => simp [isDriveLetter] at hc
  · rcases List.mem_append.mp h with h | h
    · exact hd t h
    · rw [List.mem_singleton.mp h]
      exact hs

theorem isDot_of_mem_step {isFile : Bool} {done : List Segment} {s t : Segment}
    (hd : ∀ u ∈ done, isDot u = false) (h : t ∈ step isFile done s) : isDot t = false := by
  unfold step at h
  split at h
  · exact hd t (mem_climb h)
  split at h
  · exact hd t h
  · rename_i h2 h1
    exact isDot_of_mem_append (by simp [isDot, h1, h2]) hd h

/-- **No dot segment is left in a path that was walked.** -/
theorem isDot_of_mem_walk {isFile : Bool} {done segments : List Segment} {t : Segment}
    (hd : ∀ u ∈ done, isDot u = false) (h : t ∈ walk isFile done segments) : isDot t = false := by
  induction segments generalizing done with
  | nil => exact hd t h
  | cons s rest ih =>
    cases rest with
    | nil =>
      unfold walk finish at h
      split at h
      · rcases List.mem_append.mp h with h | h
        · exact isDot_of_mem_step hd h
        · rw [List.mem_singleton.mp h]
          exact isDot_nil
      · rename_i hs
        exact isDot_of_mem_append (by simpa using hs) hd h
    | cons r rest =>
      exact ih (fun u hu => isDot_of_mem_step hd hu) (by simpa [walk] using h)

example : walk false [] (segmentsOf true "a/.%2E\\b//./c/..".toList) =
    ["b".toList, [], []] := by decide +kernel

end TrialProtocol.Url
