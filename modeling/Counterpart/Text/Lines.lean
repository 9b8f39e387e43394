/-
Lines of a text, and replacing one text by another.
-/
import Counterpart.Text.Blank

namespace Counterpart.Text

/-- The text without one carriage return at its end. -/
def dropReturn (cs : List Char) : List Char :=
  if cs.getLast? = some '\r' then cs.dropLast else cs

/-- Every line feed closes a line, together with a carriage return in front of
it; what follows the last line feed is a line only if it holds something. -/
def linesOfPieces : List (List Char) → List (List Char)
  | [] => []
  | [last] => if last.isEmpty then [] else [last]
  | piece :: rest => dropReturn piece :: linesOfPieces rest

/-- The lines of a text, without their ends. -/
def lines (cs : List Char) : List (List Char) :=
  linesOfPieces (pieces '\n' cs)

/-- The rest of `cs` behind `front`, if `cs` starts with it. -/
def dropFront? [DecidableEq α] : List α → List α → Option (List α)
  | [], cs => some cs
  | _ :: _, [] => none
  | f :: front, c :: cs => if f = c then dropFront? front cs else none

/-- The rest of `cs` in front of `back`, if `cs` ends with it. -/
def dropBack? [DecidableEq α] (back cs : List α) : Option (List α) :=
  (dropFront? back.reverse cs.reverse).map List.reverse

theorem dropFront?_eq_some [DecidableEq α] {front cs rest : List α}
    (h : dropFront? front cs = some rest) : cs = front ++ rest := by
  induction front generalizing cs with
  | nil => simpa [dropFront?] using h
  | cons f front ih =>
      cases cs with
      | nil => simp [dropFront?] at h
      | cons c cs =>
          simp only [dropFront?] at h
          split at h
          · next hfc => simp [hfc, ih h]
          · cases h

theorem length_of_dropFront? [DecidableEq α] {front cs rest : List α}
    (h : dropFront? front cs = some rest) : rest.length ≤ cs.length := by
  rw [dropFront?_eq_some h]
  simp

/-- Every occurrence of `f :: front`, from the left and without overlap, replaced
by `new`. -/
def replaceFrom [DecidableEq α] (f : α) (front new : List α) : List α → List α
  | [] => []
  | c :: cs =>
      if f = c then
        match found : dropFront? front cs with
        | some rest =>
            have := length_of_dropFront? found
            new ++ replaceFrom f front new rest
        | none => c :: replaceFrom f front new cs
      else c :: replaceFrom f front new cs
  termination_by cs => cs.length
  decreasing_by all_goals simp only [List.length_cons]; omega

/-- Every occurrence of `old`, from the left and without overlap, replaced by
`new`; the empty text occurs nowhere. -/
def replace [DecidableEq α] (old new cs : List α) : List α :=
  match old with
  | [] => cs
  | f :: front => replaceFrom f front new cs

/-- The texts one after another with `mark` between each two. -/
def join (mark : List α) : List (List α) → List α
  | [] => []
  | [piece] => piece
  | piece :: rest => piece ++ mark ++ join mark rest

end Counterpart.Text
