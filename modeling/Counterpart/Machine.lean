/-
What the records and the clock of the machine say: how many processors the program may use,
and the moment as a text.
-/
import Counterpart.Text.Lines
import Counterpart.Text.Numeral

namespace Counterpart

namespace Processors

/-- The number of ones in a mask of hexadecimal digits, which commas may part. -/
def ones (mask : List Char) : Nat :=
  (mask.flatMap fun c =>
    (List.range 4).map ((Text.digitValue? 16 c).getD 0).testBit).count true

/-- The number of processors a process may be scheduled on, from the record of its status. -/
def allowed? (status : List Char) : Option Nat :=
  ((Text.lines status).findSome? (Text.dropFront? "Cpus_allowed:".toList)).map ones

/-- The control groups a process is in, as paths below the root group, innermost first, from
the record of its groups. -/
def groups (record : List Char) : List (List Char) :=
  match (Text.lines record).findSome? (Text.dropFront? "0::/".toList) with
  | some path =>
      let names := Text.pieces '/' path
      (List.range (names.length + 1)).reverse.map fun n => Text.join ['/'] (names.take n)
  | none => []

/-- The whole processors that a control group's limit comes to, from its record of time per
period; there is no number where the group has no limit. -/
def quota? (limits : List Char) : Option Nat := do
  let line ← (Text.lines limits).head?
  match Text.pieces ' ' line with
  | time :: period :: _ =>
      let time ← Text.nat64? time
      let period ← Text.nat64? period
      if period = 0 then none else some (time / period)
  | _ => none

/-- The number of processors to use: those allowed, as far as no quota leaves fewer. -/
def available (allowed : Option Nat) (quotas : List Nat) : Nat :=
  max 1 (quotas.foldl min (allowed.getD 1))

theorem available_pos (allowed : Option Nat) (quotas : List Nat) :
    0 < available allowed quotas :=
  Nat.le_max_left 1 _

example :
    available (allowed? "Cpus_allowed:\t3f,0000000f\n".toList)
      (["150000 100000\n", "max 100000\n"].filterMap fun limits => quota? limits.toList) = 1 := by
  decide

end Processors

/-- A day of the Gregorian calendar. -/
structure Date where
  year : Int
  month : Nat
  day : Nat
  deriving DecidableEq, Repr

/-- The day so many days behind the first of January 1970. -/
def Date.ofDays (days : Int) : Date :=
  -- Years are taken from March to March, so that a leap day is the last of its year, and in
  -- spans of four hundred, which all have the same days; the count starts in the year zero.
  let days := days + 719468
  let inSpan := (days % 146097).toNat
  let yearInSpan := (inSpan - inSpan / 1460 + inSpan / 36524 - inSpan / 146096) / 365
  let inYear := inSpan - (365 * yearInSpan + yearInSpan / 4 - yearInSpan / 100)
  let monthFromMarch := (5 * inYear + 2) / 153
  { year := days / 146097 * 400 + yearInSpan + (if monthFromMarch < 10 then 0 else 1)
    month := if monthFromMarch < 10 then monthFromMarch + 3 else monthFromMarch - 9
    day := inYear - (153 * monthFromMarch + 2) / 5 + 1 }

/-- A moment of universal time. -/
structure Moment where
  /-- The whole seconds since the beginning of 1970. -/
  seconds : Int
  nanos : Nat
  deriving DecidableEq, Repr

namespace Moment

/-- The fraction of a second, in as many groups of three digits as it needs. -/
def fraction (nanos : Nat) : List Char :=
  if nanos = 0 then []
  else if nanos % 10 ^ 6 = 0 then '.' :: Text.padZeros 3 (Text.decimal (nanos / 10 ^ 6))
  else if nanos % 10 ^ 3 = 0 then '.' :: Text.padZeros 6 (Text.decimal (nanos / 10 ^ 3))
  else '.' :: Text.padZeros 9 (Text.decimal nanos)

/-- The moment as date and time of day in universal time, for a year of four digits. -/
def text (m : Moment) : String :=
  let date := Date.ofDays (m.seconds / 86400)
  let second := (m.seconds % 86400).toNat
  let two n := Text.padZeros 2 (Text.decimal n)
  let day := Text.join ['-']
    [Text.padZeros 4 (Text.integer date.year), two date.month, two date.day]
  let time := Text.join [':'] [two (second / 3600), two (second / 60 % 60), two (second % 60)]
  String.ofList (day ++ 'T' :: time ++ fraction m.nanos ++ "+00:00".toList)

example : (text ⟨951868799, 250000000⟩) = "2000-02-29T23:59:59.250+00:00" := by decide

end Moment

end Counterpart
