/-
What the tokens of a text are, said without the scanner.  Spaces and tabs are skipped, and every
token is the longest piece with the shape of a token at its place.  The scanner finds exactly
these tokens, so a text has one reading at most.
-/
import Counterpart.Length.Token
import Counterpart.Proofs.Except
import Counterpart.Proofs.Text.Identifier

namespace Counterpart.LengthToken

open Text

/-- The number that a run of digits denotes. -/
def runValue (cs : List Char) : Nat :=
  cs.foldl (fun value c => value * 10 + (c.toNat - '0'.toNat)) 0

/-- A run of digits, an identifier, or one of the four marks. -/
inductive Shape : List Char → Prop
  | run {cs : List Char} (hne : cs ≠ []) (hdigits : ∀ c ∈ cs, isDecimal c = true) : Shape cs
  | identifier {cs : List Char} (hname : isIdentifier cs = true) : Shape cs
  | mark {c : Char} (hmark : c ∈ ['+', '*', '(', ')']) : Shape [c]

/-- The token that a piece of text stands for.  A run of digits stands for its number, which must
fit sixty-four bits. -/
inductive Denotes : List Char → LengthToken → Prop
  | number {cs : List Char} (hne : cs ≠ []) (hdigits : ∀ c ∈ cs, isDecimal c = true)
      (hfits : runValue cs < 2 ^ 64) : Denotes cs (number (runValue cs))
  | name {cs : List Char} (hname : isIdentifier cs = true) : Denotes cs (name (String.ofList cs))
  | plus : Denotes ['+'] plus
  | times : Denotes ['*'] times
  | openParen : Denotes ['('] openParen
  | closeParen : Denotes [')'] closeParen

/-- No longer piece that goes on into the rest has the shape of a token. -/
def Longest (front rest : List Char) : Prop :=
  ∀ more, more ≠ [] → more <+: rest → ¬ Shape (front ++ more)

/-- The tokens of a text. -/
inductive Spelled : List Char → List LengthToken → Prop
  | nil : Spelled [] []
  | blank {c : Char} {cs : List Char} {tokens : List LengthToken} (hblank : c = ' ' ∨ c = '\t')
      (hrest : Spelled cs tokens) : Spelled (c :: cs) tokens
  | token {front rest : List Char} {token : LengthToken} {tokens : List LengthToken}
      (hdenotes : Denotes front token) (hlongest : Longest front rest)
      (hrest : Spelled rest tokens) : Spelled (front ++ rest) (token :: tokens)

/-- The first character of a token decides which characters may follow in it. -/
def follows (c : Char) : Char → Bool :=
  if isDecimal c then isDecimal
  else if isIdentifierStart c then isIdentifierPart
  else fun _ => false

theorem ofMark?_eq_none_iff {c : Char} : ofMark? c = none ↔ c ∉ ['+', '*', '(', ')'] := by
  unfold ofMark?
  split <;> simp_all

theorem not_isIdentifierPart_of_mark :
    ∀ c ∈ ['+', '*', '(', ')'], isIdentifierPart c = false := by
  simp only [List.forall_mem_cons]
  exact ⟨rfl, rfl, rfl, rfl, nofun⟩

/-- A character of a run or of an identifier is neither a blank nor a mark. -/
theorem plain_of_isIdentifierPart {c : Char} (hc : isIdentifierPart c = true) :
    ¬ (c = ' ' ∨ c = '\t') ∧ ofMark? c = none := by
  constructor
  · rintro (rfl | rfl) <;> cases hc
  · rw [ofMark?_eq_none_iff]
    intro hmark
    rw [not_isIdentifierPart_of_mark c hmark] at hc
    cases hc

theorem follows_of_isDecimal {c : Char} (hc : isDecimal c = true) : follows c = isDecimal := by
  simp [follows, hc]

theorem follows_of_isIdentifierStart {c : Char} (hc : isIdentifierStart c = true) :
    follows c = isIdentifierPart := by
  simp [follows, hc, not_isDecimal_of_isIdentifierStart hc]

theorem follows_of_mark {c : Char} (hc : c ∈ ['+', '*', '(', ')']) (d : Char) :
    follows c d = false := by
  have hpart := not_isIdentifierPart_of_mark c hc
  rw [isIdentifierPart, Bool.or_eq_false_iff] at hpart
  simp [follows, hpart]

/-- The characters of a piece with the shape of a token follow its first one. -/
theorem follows_of_shape {c : Char} {cs : List Char} (hshape : Shape (c :: cs)) :
    ∀ d ∈ cs, follows c d = true := by
  intro d hd
  cases hshape with
  | run _ hdigits =>
      rw [follows_of_isDecimal (hdigits c List.mem_cons_self)]
      exact hdigits d (List.mem_cons_of_mem c hd)
  | identifier hname =>
      rw [isIdentifier, Bool.and_eq_true, List.all_eq_true] at hname
      rw [follows_of_isIdentifierStart hname.1]
      exact hname.2 d hd
  | mark _ => cases hd

/-- A piece with the shape of a token grows by every character that follows its first one. -/
theorem Shape.append_singleton {c d : Char} {cs : List Char} (hshape : Shape (c :: cs))
    (hd : follows c d = true) : Shape (c :: cs ++ [d]) := by
  cases hshape with
  | run _ hdigits =>
      rw [follows_of_isDecimal (hdigits c List.mem_cons_self)] at hd
      refine .run (by simp) ?_
      intro e he
      rcases List.mem_append.1 he with he | he
      · exact hdigits e he
      · exact List.mem_singleton.1 he ▸ hd
  | identifier hname =>
      rw [isIdentifier, Bool.and_eq_true] at hname
      rw [follows_of_isIdentifierStart hname.1] at hd
      refine .identifier ?_
      simp [isIdentifier, hname, hd]
  | mark hmark => simp [follows_of_mark hmark] at hd

/-- A piece is the longest if the next character does not follow. -/
theorem longest_cons_iff {c : Char} {cs rest : List Char} (hshape : Shape (c :: cs)) :
    Longest (c :: cs) rest ↔ ∀ d ∈ rest.head?, follows c d = false := by
  constructor
  · intro hlongest d hd
    obtain ⟨rest, rfl⟩ := List.head?_eq_some_iff.1 hd
    by_contra hfollows
    rw [Bool.not_eq_false] at hfollows
    have hprefix : [d] <+: d :: rest := ⟨rest, rfl⟩
    exact hlongest [d] (by simp) hprefix (hshape.append_singleton hfollows)
  · intro hhead more hne hprefix hlonger
    obtain ⟨d, more, rfl⟩ := List.exists_cons_of_ne_nil hne
    obtain ⟨back, rfl⟩ := hprefix
    have hfollows := follows_of_shape hlonger d (by simp)
    rw [hhead d rfl] at hfollows
    cases hfollows

theorem Denotes.shape {cs : List Char} {token : LengthToken} (hdenotes : Denotes cs token) :
    Shape cs := by
  cases hdenotes with
  | number hne hdigits _ => exact .run hne hdigits
  | name hname => exact .identifier hname
  | plus | times | openParen | closeParen => exact .mark (by simp)

theorem digitsFrom?_eq_runValue {cs : List Char} (hdigits : ∀ c ∈ cs, isDecimal c = true)
    (value : Nat) : digitsFrom? 10 value cs =
      some (cs.foldl (fun value c => value * 10 + (c.toNat - '0'.toNat)) value) := by
  induction cs generalizing value with
  | nil => rfl
  | cons c cs ih =>
      have hc := isDecimal_iff.1 (hdigits c List.mem_cons_self)
      have hvalue : digitValue? 10 c = some (c.toNat - '0'.toNat) := by
        have hrange : '0'.toNat ≤ c.toNat ∧ c.toNat ≤ '9'.toNat := hc
        have hlt : c.toNat - '0'.toNat < 10 := by
          change c.toNat - 48 < 10
          omega
        simp only [digitValue?, if_pos hrange, Option.filter_some, decide_eq_true hlt, if_true]
      have hrest := ih fun d hd => hdigits d (List.mem_cons_of_mem c hd)
      rw [digitsFrom?, hvalue, Option.bind_some, hrest]
      rfl

theorem digits?_eq_runValue {cs : List Char} (hne : cs ≠ [])
    (hdigits : ∀ c ∈ cs, isDecimal c = true) : digits? 10 cs = some (runValue cs) := by
  rw [digits?, if_neg (by simpa using hne), digitsFrom?_eq_runValue hdigits, runValue]

theorem isDecimal_of_digitValue? {c : Char} {d : Nat} (hvalue : digitValue? 10 c = some d) :
    isDecimal c = true := by
  simp only [digitValue?, Option.filter_eq_some_iff, decide_eq_true_eq] at hvalue
  obtain ⟨hsome, hlt⟩ := hvalue
  split at hsome
  · next hrange => exact isDecimal_iff.2 hrange
  · split at hsome
    · cases hsome
      omega
    · split at hsome
      · cases hsome
        omega
      · cases hsome

theorem isDecimal_of_digitsFrom? {cs : List Char} {value n : Nat}
    (hread : digitsFrom? 10 value cs = some n) : ∀ c ∈ cs, isDecimal c = true := by
  induction cs generalizing value with
  | nil => exact List.forall_mem_nil _
  | cons c cs ih =>
      obtain ⟨d, hvalue, hrest⟩ := Option.bind_eq_some_iff.1 hread
      exact List.forall_mem_cons.2 ⟨isDecimal_of_digitValue? hvalue, ih hrest⟩

/-- Of the numerals without a sign only runs of digits are read. -/
theorem digits?_eq_some_iff {cs : List Char} {n : Nat} : digits? 10 cs = some n ↔
    (cs ≠ [] ∧ ∀ c ∈ cs, isDecimal c = true) ∧ runValue cs = n := by
  constructor
  · intro hread
    have hne : cs ≠ [] := by
      rintro rfl
      cases hread
    have hdigits : ∀ c ∈ cs, isDecimal c = true := by
      rw [digits?, if_neg (by simpa using hne)] at hread
      exact isDecimal_of_digitsFrom? hread
    rw [digits?_eq_runValue hne hdigits] at hread
    exact ⟨⟨hne, hdigits⟩, Option.some.inj hread⟩
  · rintro ⟨⟨hne, hdigits⟩, rfl⟩
    exact digits?_eq_runValue hne hdigits

theorem denotes_of_ofMark? {c : Char} {token : LengthToken} (hmark : ofMark? c = some token) :
    Denotes [c] token := by
  unfold ofMark? at hmark
  split at hmark <;> cases hmark <;> constructor

theorem all_takeWhile_of_head {p : Char → Bool} {c : Char} (hc : p c = true) (cs : List Char) :
    ∀ d ∈ c :: cs.takeWhile p, p d = true := by
  intro d hd
  rcases List.mem_cons.1 hd with rfl | hd
  · exact hc
  · exact List.all_eq_true.1 List.all_takeWhile d hd

/-- A text that opens with a run of digits. -/
theorem Spelled.run {c : Char} {cs : List Char} {tokens : List LengthToken}
    (hdecimal : isDecimal c = true) (hfits : runValue (c :: cs.takeWhile isDecimal) < 2 ^ 64)
    (hrest : Spelled (cs.dropWhile isDecimal) tokens) :
    Spelled (c :: cs) (number (runValue (c :: cs.takeWhile isDecimal)) :: tokens) := by
  have hne : c :: cs.takeWhile isDecimal ≠ [] := by simp
  have hdigits := all_takeWhile_of_head hdecimal cs
  have hlongest : Longest (c :: cs.takeWhile isDecimal) (cs.dropWhile isDecimal) := by
    rw [longest_cons_iff (.run hne hdigits), follows_of_isDecimal hdecimal]
    exact head?_dropWhile isDecimal cs
  have hspelled := Spelled.token (.number hne hdigits hfits) hlongest hrest
  rwa [List.cons_append, List.takeWhile_append_dropWhile] at hspelled

/-- A text that opens with an identifier. -/
theorem Spelled.identifier {c : Char} {cs : List Char} {tokens : List LengthToken}
    (hstart : isIdentifierStart c = true) (hrest : Spelled (cs.dropWhile isIdentifierPart) tokens) :
    Spelled (c :: cs)
      (name (String.ofList (c :: cs.takeWhile isIdentifierPart)) :: tokens) := by
  have hname : isIdentifier (c :: cs.takeWhile isIdentifierPart) = true := by
    rw [isIdentifier, hstart, Bool.true_and, List.all_eq_true]
    exact List.all_eq_true.1 List.all_takeWhile
  have hlongest :
      Longest (c :: cs.takeWhile isIdentifierPart) (cs.dropWhile isIdentifierPart) := by
    rw [longest_cons_iff (.identifier hname), follows_of_isIdentifierStart hstart]
    exact head?_dropWhile isIdentifierPart cs
  have hspelled := Spelled.token (.name hname) hlongest hrest
  rwa [List.cons_append, List.takeWhile_append_dropWhile] at hspelled

/-- The scanner finds tokens of the text. -/
theorem spelled_of_scan {cs : List Char} {tokens : List LengthToken}
    (hscan : scan cs = .ok tokens) : Spelled cs tokens := by
  fun_induction scan cs generalizing tokens with
  | case1 =>
      cases hscan
      exact .nil
  | case2 c cs hblank ih => exact .blank hblank (ih hscan)
  | case3 c cs hblank token hmark ih =>
      obtain ⟨rest, hrest, rfl⟩ := map_eq_ok_iff.1 hscan
      have hdenotes := denotes_of_ofMark? hmark
      have hlongest : Longest [c] cs := by
        refine (longest_cons_iff hdenotes.shape).2 fun d _ => follows_of_mark ?_ d
        by_contra hnot
        rw [ofMark?_eq_none_iff.2 hnot] at hmark
        cases hmark
      exact .token hdenotes hlongest (ih hrest)
  | case4 => cases hscan
  | case5 c cs hblank hmark hdecimal n hvalue ih =>
      obtain ⟨rest, hrest, rfl⟩ := map_eq_ok_iff.1 hscan
      rw [digits?_eq_runValue (List.cons_ne_nil _ _) (all_takeWhile_of_head hdecimal cs),
        Option.filter_eq_some_iff, decide_eq_true_eq] at hvalue
      obtain ⟨hn, hfits⟩ := hvalue
      cases hn
      exact .run hdecimal hfits (ih hrest)
  | case6 c cs hblank hmark hdecimal hstart ih =>
      obtain ⟨rest, hrest, rfl⟩ := map_eq_ok_iff.1 hscan
      exact .identifier hstart (ih hrest)
  | case7 => cases hscan

theorem scan_run_append {front rest : List Char} (hne : front ≠ [])
    (hdigits : ∀ c ∈ front, isDecimal c = true) (hfits : runValue front < 2 ^ 64)
    (hlongest : Longest front rest) :
    scan (front ++ rest) = (scan rest).map (number (runValue front) :: ·) := by
  obtain ⟨c, body, rfl⟩ := List.exists_cons_of_ne_nil hne
  have hc := hdigits c List.mem_cons_self
  have hbody : ∀ d ∈ body, isDecimal d = true :=
    fun d hd => hdigits d (List.mem_cons_of_mem c hd)
  have hrest := (longest_cons_iff (.run hne hdigits)).1 hlongest
  rw [follows_of_isDecimal hc] at hrest
  obtain ⟨hblank, hmark⟩ := plain_of_isIdentifierPart (isIdentifierPart_of_isDecimal hc)
  have hvalue : (digits? 10 (c :: body)).filter (· < 2 ^ 64) = some (runValue (c :: body)) := by
    rw [digits?_eq_runValue hne hdigits, Option.filter_some, if_pos (decide_eq_true hfits)]
  rw [List.cons_append, scan, if_neg hblank]
  simp only [hmark, hc, if_true, takeWhile_eq_of_head? hbody hrest,
    dropWhile_eq_of_head? hbody hrest, hvalue]

theorem scan_identifier_append {front rest : List Char} (hname : isIdentifier front = true)
    (hlongest : Longest front rest) :
    scan (front ++ rest) = (scan rest).map (name (String.ofList front) :: ·) := by
  cases front with
  | nil => cases hname
  | cons c body =>
      have hrest := (longest_cons_iff (.identifier hname)).1 hlongest
      rw [isIdentifier, Bool.and_eq_true, List.all_eq_true] at hname
      obtain ⟨hc, hbody⟩ := hname
      rw [follows_of_isIdentifierStart hc] at hrest
      obtain ⟨hblank, hmark⟩ :=
        plain_of_isIdentifierPart (isIdentifierPart_of_isIdentifierStart hc)
      have hdecimal := not_isDecimal_of_isIdentifierStart hc
      rw [List.cons_append, scan, if_neg hblank]
      simp only [hmark, hdecimal, hc, Bool.false_eq_true, if_false, if_true,
        takeWhile_eq_of_head? hbody hrest, dropWhile_eq_of_head? hbody hrest]

/-- The scanner goes behind the longest piece at its place. -/
theorem scan_append {front rest : List Char} {token : LengthToken} (hdenotes : Denotes front token)
    (hlongest : Longest front rest) : scan (front ++ rest) = (scan rest).map (token :: ·) := by
  cases hdenotes with
  | number hne hdigits hfits => exact scan_run_append hne hdigits hfits hlongest
  | name hname => exact scan_identifier_append hname hlongest
  | plus | times | openParen | closeParen =>
      rw [List.singleton_append, scan, if_neg (by decide)]
      rfl

/-- The tokens of a text are those that the scanner finds. -/
theorem scan_of_spelled {cs : List Char} {tokens : List LengthToken}
    (hspelled : Spelled cs tokens) : scan cs = .ok tokens := by
  induction hspelled with
  | nil => rw [scan]
  | blank hblank _ ih => rw [scan, if_pos hblank, ih]
  | token hdenotes hlongest _ ih => rw [scan_append hdenotes hlongest, ih, Except.map]

theorem scan_eq_ok_iff {cs : List Char} {tokens : List LengthToken} :
    scan cs = .ok tokens ↔ Spelled cs tokens :=
  ⟨spelled_of_scan, scan_of_spelled⟩

end Counterpart.LengthToken
