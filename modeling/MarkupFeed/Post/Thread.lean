import MarkupFeed.Text.Blank
import MarkupFeed.Text.DecimalDigits
import MarkupFeed.Text.LowerCase

/-!
# The thread of a subject

The thread a subject belongs to. Marks such as `Re:` and `Fwd[2]:` in front do not count, nor do
case and the amount of white space.
-/

namespace MarkupFeed.Thread

/-- The words that mark a reply or a forwarded message. -/
def markWords : List (List Char) := [['f', 'w', 'd'], ['r', 'e'], ['f', 'w'], ['a', 'w']]

/-- Removes a word in front, whatever the case of its ASCII letters. -/
def dropWord? (word text : List Char) : Option (List Char) :=
  if (text.take word.length).map Char.toLower = word then some (text.drop word.length) else none

/-- Removes a number in brackets in front, if there is one. -/
def dropCount (text : List Char) : List Char :=
  match text with
  | '[' :: rest =>
    match rest.takeWhile Text.isDecimalDigit, rest.dropWhile Text.isDecimalDigit with
    | _ :: _, ']' :: after => after
    | _, _ => text
  | _ => text

/-- Removes white space, a colon and white space in front, of which the colon has to be there. -/
def dropColon? (text : List Char) : Option (List Char) :=
  match text.dropWhile Text.isBlank with
  | ':' :: rest => some (rest.dropWhile Text.isBlank)
  | _ => none

/-- Removes one mark in front. -/
def dropMark? (text : List Char) : Option (List Char) :=
  (markWords.findSome? (dropWord? · text)).bind fun rest => dropColon? (dropCount rest)

theorem length_dropWhile_le {α : Type} (p : α → Bool) (list : List α) :
    (list.dropWhile p).length ≤ list.length := (List.dropWhile_suffix p).length_le

theorem dropCount_length_le (text : List Char) : (dropCount text).length ≤ text.length := by
  fun_cases dropCount text with
  | case1 rest digit digits after hdigits hafter =>
    have h := length_dropWhile_le Text.isDecimalDigit rest
    rw [hdigits, List.length_cons] at h
    rw [List.length_cons]
    omega
  | case2 => exact Nat.le_refl _
  | case3 => exact Nat.le_refl _

theorem dropColon?_length_lt {text rest : List Char} (h : dropColon? text = some rest) :
    rest.length < text.length := by
  revert h
  fun_cases dropColon? text with
  | case1 after hafter =>
    intro h
    have hblank := length_dropWhile_le Text.isBlank text
    rw [hafter, List.length_cons] at hblank
    calc rest.length
      _ = (after.dropWhile Text.isBlank).length := by rw [Option.some.inj h]
      _ ≤ after.length := length_dropWhile_le Text.isBlank after
      _ < text.length := hblank
  | case2 => exact fun h => absurd h (Option.some_ne_none rest).symm

theorem dropMark?_length_lt {text rest : List Char} (h : dropMark? text = some rest) :
    rest.length < text.length := by
  obtain ⟨after, found, colon⟩ := Option.bind_eq_some_iff.1 h
  obtain ⟨word, _, dropped⟩ := List.exists_of_findSome?_eq_some found
  have hcolon := dropColon?_length_lt colon
  have hcount := dropCount_length_le after
  unfold dropWord? at dropped
  split at dropped
  · have : (text.drop word.length).length ≤ text.length := by simp
    simp only [Option.some.injEq] at dropped
    rw [dropped] at this
    omega
  · contradiction

/-- Removes all marks in front. -/
def dropMarks (text : List Char) : List Char :=
  match _h : dropMark? text with
  | some rest => dropMarks rest
  | none => text
termination_by text.length
decreasing_by exact dropMark?_length_lt ‹_›

/-- The subject without marks. -/
def topic (subject : List Char) : List Char := dropMarks (subject.dropWhile Text.isBlank)

/-- What all subjects of a thread have in common. -/
def key (subject : String) : String :=
  Text.lowerCase (Text.collapse (String.ofList (topic subject.toList)))

end MarkupFeed.Thread
