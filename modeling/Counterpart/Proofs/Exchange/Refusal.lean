/-
When a driver is taken to refuse its input: only for a marked line with the one word that
says so.
-/
import Counterpart.Exchange.Report

namespace Counterpart.DriverReport

open Text

/-- Whether an output has a marked line whose only word is the refusal of the input. -/
def Refuses (stdout : Bytes) : Prop :=
  ∃ line ∈ pieces '\n' (lossy stdout), ∃ rest,
    dropFront? mark (dropReturns line) = some rest ∧ words rest = ["BADINPUT".toList]

variable {sig : Signature}

theorem withMemory_ne_badInput (line index length : List Char) (digits : Option (List Char))
    (report : DriverReport) :
    withMemory sig line index length digits report ≠ .error .badInput := by
  unfold withMemory
  split
  · simp [malformed]
  · split
    · simp
    · split <;> simp [malformed]

theorem withReturn_ne_badInput (line : List Char) (fields : List (List Char))
    (report : DriverReport) : withReturn sig line fields report ≠ .error .badInput := by
  unfold withReturn
  split
  · simp [malformed]
  · split <;> simp [malformed]

theorem words_of_withFields {line : List Char} {report : DriverReport} {fields : List (List Char)}
    (hbad : withFields sig line report fields = .error .badInput) :
    fields = ["BADINPUT".toList] := by
  unfold withFields at hbad
  split at hbad
  · simp [malformed] at hbad
  · next keyword fields =>
      by_cases hret : keyword = "RET".toList
      · rw [if_pos hret] at hbad
        exact absurd hbad (withReturn_ne_badInput line fields report)
      · by_cases hmem : keyword = "MEM".toList
        · rw [if_neg hret, if_pos hmem] at hbad
          split at hbad
          · exact absurd hbad (withMemory_ne_badInput line _ _ none report)
          · exact absurd hbad (withMemory_ne_badInput line _ _ (some _) report)
          · simp [malformed] at hbad
        · rw [if_neg hret, if_neg hmem] at hbad
          by_cases hfields : fields = []
          · rw [if_neg (not_not_intro hfields)] at hbad
            by_cases hkeyword : keyword = "BADINPUT".toList
            · rw [hkeyword, hfields]
            · rw [if_neg hkeyword] at hbad
              split at hbad <;> simp [malformed] at hbad
          · rw [if_pos hfields] at hbad
            simp [malformed] at hbad

theorem exists_refusal_of_withLines {report : DriverReport} {lines : List (List Char)}
    (hbad : withLines sig report lines = .error .badInput) :
    ∃ line ∈ lines, ∃ rest,
      dropFront? mark (dropReturns line) = some rest ∧ words rest = ["BADINPUT".toList] := by
  induction lines generalizing report with
  | nil => cases hbad
  | cons line lines ih =>
      rw [withLines] at hbad
      cases hline : withLine sig report line with
      | error fault =>
          rw [hline] at hbad
          cases hbad
          simp only [withLine] at hline
          split at hline
          · cases hline
          · next rest hrest =>
              exact ⟨line, List.mem_cons_self, rest, hrest, words_of_withFields hline⟩
      | ok next =>
          rw [hline] at hbad
          obtain ⟨other, hother, hrefusal⟩ := ih hbad
          exact ⟨other, List.mem_cons_of_mem _ hother, hrefusal⟩

/-- A report is not understood as a refusal unless the output is one. -/
theorem refuses_of_read {stdout : Bytes} (hbad : read sig stdout = .error .badInput) :
    Refuses stdout :=
  exists_refusal_of_withLines hbad

end Counterpart.DriverReport
