/-
The texts of scalars.  A scalar may go over several lines: blanks around a line end are
dropped, a single line end becomes a space, and further ones are kept.
-/
import Counterpart.Yaml.Token

namespace Counterpart.Yaml

/-- What stands between two words of a scalar, latest first. -/
inductive Gap where
  | blanks (cs : List Char)
  /-- Line ends; the first is missing if it was escaped. -/
  | breaks (first : Option Char) (more : List Char)

namespace Gap

def hasBreak : Gap → Bool
  | blanks _ => false
  | breaks _ _ => true

/-- The gap with one more character. -/
def push (c : Char) : Gap → Gap
  | blanks cs => if isBreak c then breaks (some c) [] else blanks (c :: cs)
  | breaks first more => if isBreak c then breaks first (c :: more) else breaks first more

/-- What the gap contributes to the scalar, latest first. -/
def folded : Gap → List Char
  | blanks cs => cs
  | breaks (some '\n') [] => [' ']
  | breaks (some '\n') more => more
  | breaks (some c) more => more ++ [c]
  | breaks none more => more

end Gap

/-- A scalar and what follows it. -/
structure ScalarRun where
  text : List Char
  place : Place
  rest : List Char
  /-- Whether the blanks behind the scalar contain a line end. -/
  brokeLine : Bool

/-- The run of a text that is given backwards. -/
def ScalarRun.done (text : List Char) (place : Place) (rest : List Char) (brokeLine : Bool) :
    Option ScalarRun :=
  some ⟨text.reverse, place, rest, brokeLine⟩

/-- The characters that separate flow collections. -/
def flowMarks : List Char := [',', '[', ']', '\x7b', '\x7d']

/-- Whether a plain scalar ends in front of a character. -/
def endsPlain (flow : Bool) (c : Char) (rest : List Char) : Bool :=
  (c == ':' && atGap rest) || (flow && flowMarks.contains c)

/-- Whether a colon stands where none may, in front of a mark of a flow collection. -/
def misplacedColon (flow : Bool) (c : Char) (rest : List Char) : Bool :=
  flow && c == ':' && (rest.head?).any fun d => d == '?' || flowMarks.contains d

mutual

/-- Reads on inside a word of a plain scalar.  `indent` is the least column at which
the scalar goes on. -/
def plainWord (flow : Bool) (indent : Int) (place : Place) (text : List Char) :
    List Char → Option ScalarRun
  | [] => ScalarRun.done text place [] false
  | c :: rest =>
      if isSpace c || isBreak c then
        plainGap flow indent (place.after c) text ((Gap.blanks []).push c) rest
      else if misplacedColon flow c rest then none
      else if endsPlain flow c rest then ScalarRun.done text place (c :: rest) false
      else plainWord flow indent (place.after c) (c :: text) rest

/-- Reads on inside the blanks behind a word of a plain scalar. -/
def plainGap (flow : Bool) (indent : Int) (place : Place) (text : List Char) (gap : Gap) :
    List Char → Option ScalarRun
  | [] => ScalarRun.done text place [] gap.hasBreak
  | c :: rest =>
      let outdented := !flow && (place.column : Int) < indent
      if isSpace c || isBreak c then
        if gap.hasBreak && (place.column : Int) < indent && c == '\t' then none
        else plainGap flow indent (place.after c) text (gap.push c) rest
      else if outdented || (marker? place (c :: rest)).isSome || c == '#' then
        ScalarRun.done text place (c :: rest) gap.hasBreak
      else if misplacedColon flow c rest then none
      else if endsPlain flow c rest then ScalarRun.done text place (c :: rest) gap.hasBreak
      else plainWord flow indent (place.after c) (c :: (gap.folded ++ text)) rest

end

/-- The quote around a scalar. -/
inductive Quote where
  | single
  | double
  deriving DecidableEq, Repr

def Quote.mark : Quote → Char
  | .single => '\''
  | .double => '"'

/-- The character of a code, unless it is half of a surrogate pair or out of range. -/
def coded? (digits : List Char) : Option Char :=
  (Text.digits? 16 digits).bind fun n =>
    if (0xD800 ≤ n ∧ n ≤ 0xDFFF) ∨ 0x10FFFF < n then none else some (Char.ofNat n)

/-- The character of an escape that takes one letter. -/
def letterEscape? (c : Char) : Option Char :=
  match c with
  | '0' => some (Char.ofNat 0)
  | 'a' => some (Char.ofNat 7)
  | 'b' => some (Char.ofNat 8)
  | 't' | '\t' => some '\t'
  | 'n' => some '\n'
  | 'v' => some (Char.ofNat 11)
  | 'f' => some (Char.ofNat 12)
  | 'r' => some '\r'
  | 'e' => some (Char.ofNat 27)
  | ' ' => some ' '
  | '"' => some '"'
  | '/' => some '/'
  | '\\' => some '\\'
  | 'N' => some (Char.ofNat 0x85)
  | '_' => some (Char.ofNat 0xA0)
  | 'L' => some (Char.ofNat 0x2028)
  | 'P' => some (Char.ofNat 0x2029)
  | _ => none

/-- The number of digits behind a letter that opens a code. -/
def codeLength? (c : Char) : Option Nat :=
  match c with
  | 'x' => some 2
  | 'u' => some 4
  | 'U' => some 8
  | _ => none

/-- The character that an escape stands for, from the text behind the backslash, and the
number of characters it takes there behind the first. -/
def escape? (c : Char) (rest : List Char) : Option (Char × Nat) :=
  match codeLength? c with
  | some n => if rest.length < n then none else (coded? (rest.take n)).map fun d => (d, n)
  | none => (letterEscape? c).map fun d => (d, 0)

mutual

/-- Reads on inside a word of a quoted scalar. -/
def quotedWord (quote : Quote) (place : Place) (text cs : List Char) : Option ScalarRun :=
  match cs with
  | [] => none
  | c :: rest =>
      if isSpace c || isBreak c then
        quotedGap quote (place.after c) text ((Gap.blanks []).push c) rest
      else if c = quote.mark then
        match quote, rest with
        | .single, '\'' :: rest => quotedWord quote (place.right 2) ('\'' :: text) rest
        | _, rest => ScalarRun.done text (place.right 1) rest false
      else if quote = .double ∧ c = '\\' then
        match rest with
        | [] => none
        | d :: rest =>
            if isBreak d then
              quotedGap quote ((place.right 1).after d) text (.breaks none []) rest
            else match escape? d rest with
              | none => none
              | some (e, n) => quotedWord quote (place.right (n + 2)) (e :: text) (rest.drop n)
      else quotedWord quote (place.after c) (c :: text) rest
  termination_by 2 * cs.length
  decreasing_by all_goals simp only [List.length_cons, List.length_drop]; omega

/-- Reads on inside the blanks between two words of a quoted scalar. -/
def quotedGap (quote : Quote) (place : Place) (text : List Char) (gap : Gap) (cs : List Char) :
    Option ScalarRun :=
  match cs with
  | [] => none
  | c :: rest =>
      if isSpace c || isBreak c then quotedGap quote (place.after c) text (gap.push c) rest
      else if (marker? place (c :: rest)).isSome then none
      else quotedWord quote place (gap.folded ++ text) (c :: rest)
  termination_by 2 * cs.length + 1
  decreasing_by all_goals simp only [List.length_cons]; omega

end

end Counterpart.Yaml
