/-
Length expressions by recursive descent, one function for each phrase of the grammar.  A descent is
given a number of levels that its calls may nest.  Three levels for each token are enough, and it
then comes to what the reader comes to, with the same faults.
-/
import Counterpart.Proofs.Length.Grammar

namespace Counterpart.LengthExpr

/-- What a descent comes to: nothing without enough levels, else a fault or an expression with the
tokens behind it. -/
abbrev Descent := Option (Except LengthFault (LengthExpr × List LengthToken))

namespace Descent

/-- Goes on with the expression found and the tokens behind it. -/
def andThen (found : Descent) (next : LengthExpr → List LengthToken → Descent) : Descent :=
  match found with
  | some (.ok (e, rest)) => next e rest
  | other => other

/-- The parenthesis that must stand behind an expression. -/
def closed (e : LengthExpr) : List LengthToken → Descent
  | .closeParen :: rest => some (.ok (e, rest))
  | _ => some (.error .missingClose)

mutual

/-- A product, and further ones behind plus signs. -/
def sum? : Nat → List LengthToken → Descent
  | 0, _ => none
  | levels + 1, tokens => (product? levels tokens).andThen (moreTerms? levels)

/-- The products behind plus signs, added to what is on the left. -/
def moreTerms? : Nat → LengthExpr → List LengthToken → Descent
  | 0, _, _ => none
  | levels + 1, left, .plus :: tokens =>
      (product? levels tokens).andThen fun right => moreTerms? levels (add left right)
  | _ + 1, left, tokens => some (.ok (left, tokens))

/-- An atom, and further ones behind times signs. -/
def product? : Nat → List LengthToken → Descent
  | 0, _ => none
  | levels + 1, tokens => (atom? levels tokens).andThen (moreFactors? levels)

/-- The atoms behind times signs, multiplied with what is on the left. -/
def moreFactors? : Nat → LengthExpr → List LengthToken → Descent
  | 0, _, _ => none
  | levels + 1, left, .times :: tokens =>
      (atom? levels tokens).andThen fun right => moreFactors? levels (mul left right)
  | _ + 1, left, tokens => some (.ok (left, tokens))

/-- A number, a name, or a sum in parentheses. -/
def atom? : Nat → List LengthToken → Descent
  | 0, _ => none
  | _ + 1, [] => some (.error .unexpectedEnd)
  | _ + 1, .number n :: tokens => some (.ok (const n, tokens))
  | _ + 1, .name s :: tokens => some (.ok (param s, tokens))
  | levels + 1, .openParen :: tokens => (sum? levels tokens).andThen closed
  | _ + 1, _ :: _ => some (.error .expectedAtom)

end

/-- The expression that all tokens make up. -/
def whole? (levels : Nat) (tokens : List LengthToken) : Option (Except LengthFault LengthExpr) :=
  if tokens.isEmpty then some (.error .empty)
  else (sum? levels tokens).map fun result => result.bind fun (e, rest) =>
    if rest.isEmpty then .ok e else .error .trailingTokens

variable {levels : Nat} {tokens rest : List LengthToken} {e : LengthExpr}
  {r : Except LengthFault (LengthExpr × List LengthToken)}

theorem andThen_eq_some_iff {found : Descent} {next : LengthExpr → List LengthToken → Descent} :
    found.andThen next = some r ↔
      (∃ fault, found = some (.error fault) ∧ r = .error fault) ∨
        ∃ e rest, found = some (.ok (e, rest)) ∧ next e rest = some r := by
  rcases found with _ | fault | ⟨e, rest⟩
  · simp [andThen]
  · simp [andThen, eq_comm]
  · constructor
    · exact fun hnext => .inr ⟨e, rest, rfl, hnext⟩
    · rintro (⟨_, hfault, _⟩ | ⟨_, _, hfound, hnext⟩)
      · cases hfault
      · cases hfound
        exact hnext

/-- The terms end where no plus sign stands. -/
theorem moreTerms?_of_head? (left : LengthExpr) (hplus : tokens.head? ≠ some .plus) :
    moreTerms? (levels + 1) left tokens = some (.ok (left, tokens)) := by
  cases tokens with
  | nil => rfl
  | cons token tokens =>
      cases token with
      | plus => exact absurd rfl hplus
      | number | name | times | openParen | closeParen => rfl

/-- The factors end where no times sign stands. -/
theorem moreFactors?_of_head? (left : LengthExpr) (htimes : tokens.head? ≠ some .times) :
    moreFactors? (levels + 1) left tokens = some (.ok (left, tokens)) := by
  cases tokens with
  | nil => rfl
  | cons token tokens =>
      cases token with
      | times => exact absurd rfl htimes
      | number | name | plus | openParen | closeParen => rfl

open ReaderState

/-- The reader goes on from a state as a descent says, and is then in the state that belongs to the
expression found. -/
def Leads (state : ReaderState) (tokens : List LengthToken)
    (r : Except LengthFault (LengthExpr × List LengthToken)) (next : LengthExpr → ReaderState) :
    Prop :=
  state.run tokens = r.bind fun found => (next found.1).run found.2

/-- None of the given tokens stands behind what was found. -/
def Stops (marks : List LengthToken) (r : Except LengthFault (LengthExpr × List LengthToken)) :
    Prop :=
  ∀ e rest, r = .ok (e, rest) → ∀ token ∈ rest.head?, token ∉ marks

/-- With so many levels the five descents agree with the reader. -/
structure Agree (levels : Nat) : Prop where
  sum : ∀ tokens r, sum? levels tokens = some r → Stops [.plus, .times] r ∧
    ∀ outer, Leads (operand Frame.start outer) tokens r (operator Frame.start · outer)
  moreTerms : ∀ left tokens r, moreTerms? levels left tokens = some r →
    tokens.head? ≠ some .times → Stops [.plus, .times] r ∧
      ∀ frame term outer, frame.addTerm term = left →
        Leads (operator frame term outer) tokens r (operator Frame.start · outer)
  product : ∀ tokens r, product? levels tokens = some r → Stops [.times] r ∧
    ∀ sum outer, Leads (operand ⟨sum, none⟩ outer) tokens r (operator ⟨sum, none⟩ · outer)
  moreFactors : ∀ left tokens r, moreFactors? levels left tokens = some r → Stops [.times] r ∧
    ∀ frame outer, Leads (operator frame left outer) tokens r (operator frame · outer)
  atom : ∀ tokens r, atom? levels tokens = some r → ∀ frame outer,
    Leads (operand frame outer) tokens r fun e => operator frame (frame.multiply e) outer

theorem stops_error (marks : List LengthToken) (fault : LengthFault) :
    Stops marks (.error fault) := by
  intro e rest hok
  cases hok

theorem stops_ok {marks : List LengthToken} (hhead : ∀ token ∈ rest.head?, token ∉ marks) :
    Stops marks (.ok (e, rest)) := by
  intro e' rest' hok
  cases hok
  exact hhead

theorem Leads.then {state : ReaderState} {next next' : LengthExpr → ReaderState}
    (hfirst : Leads state tokens (.ok (e, rest)) next) (hrest : Leads (next e) rest r next') :
    Leads state tokens r next' :=
  Eq.trans hfirst hrest

/-- Behind a term the reader forgets the product read so far. -/
theorem run_operator (sum left right : Option LengthExpr) (term : LengthExpr)
    (outer : List Frame) (tokens : List LengthToken) :
    (operator ⟨sum, left⟩ term outer).run tokens =
      (operator ⟨sum, right⟩ term outer).run tokens := by
  cases tokens with
  | nil => cases outer <;> rfl
  | cons token tokens => cases token <;> cases outer <;> rfl

/-- Where no factor follows, a term is as good as the sum it completes. -/
theorem run_operator_addTerm (frame : Frame) (term : LengthExpr) (outer : List Frame)
    (hhead : tokens.head? ≠ some .times) :
    (operator frame term outer).run tokens =
      (operator Frame.start (frame.addTerm term) outer).run tokens := by
  cases tokens with
  | nil => cases outer <;> rfl
  | cons token tokens =>
      cases token with
      | times => exact absurd rfl hhead
      | number | name | plus | openParen | closeParen => cases outer <;> rfl

/-- The reader asks for the parenthesis as well, if no sign stands there. -/
theorem leads_closed {frame : Frame} {outer : List Frame} (hclosed : closed e rest = some r)
    (hhead : ∀ token ∈ rest.head?, token ∉ [.plus, .times]) :
    Leads (operator Frame.start e (frame :: outer)) rest r
      fun e => operator frame (frame.multiply e) outer := by
  cases rest with
  | nil =>
      cases hclosed
      rfl
  | cons token rest =>
      have hsign := hhead token rfl
      cases token with
      | plus | times => simp at hsign
      | number | name | openParen | closeParen =>
          cases hclosed
          rfl

theorem Agree.sum_succ (hagree : Agree levels) (hsum : sum? (levels + 1) tokens = some r) :
    Stops [.plus, .times] r ∧
      ∀ outer, Leads (operand Frame.start outer) tokens r (operator Frame.start · outer) := by
  rw [sum?, andThen_eq_some_iff] at hsum
  rcases hsum with ⟨fault, hfound, rfl⟩ | ⟨e, rest, hfound, hmore⟩
  · obtain ⟨_, hleads⟩ := hagree.product _ _ hfound
    exact ⟨stops_error _ _, fun outer => hleads none outer⟩
  · obtain ⟨hstops, hleads⟩ := hagree.product _ _ hfound
    have hhead : rest.head? ≠ some .times := by
      intro htimes
      exact hstops e rest rfl _ htimes (by simp)
    obtain ⟨hstops', hleads'⟩ := hagree.moreTerms _ _ _ hmore hhead
    exact ⟨hstops', fun outer => (hleads none outer).then (hleads' ⟨none, none⟩ e outer rfl)⟩

theorem Agree.moreTerms_succ (hagree : Agree levels) {left : LengthExpr}
    (hmore : moreTerms? (levels + 1) left tokens = some r) (hhead : tokens.head? ≠ some .times) :
    Stops [.plus, .times] r ∧ ∀ frame term outer, frame.addTerm term = left →
      Leads (operator frame term outer) tokens r (operator Frame.start · outer) := by
  by_cases hplus : tokens.head? = some .plus
  · obtain ⟨tokens, rfl⟩ := List.head?_eq_some_iff.1 hplus
    rw [moreTerms?, andThen_eq_some_iff] at hmore
    rcases hmore with ⟨fault, hfound, rfl⟩ | ⟨e, rest, hfound, hmore⟩
    · obtain ⟨_, hleads⟩ := hagree.product _ _ hfound
      refine ⟨stops_error _ _, ?_⟩
      rintro frame term outer rfl
      exact hleads (some (frame.addTerm term)) outer
    · obtain ⟨hstops, hleads⟩ := hagree.product _ _ hfound
      have hhead' : rest.head? ≠ some .times := by
        intro htimes
        exact hstops e rest rfl _ htimes (by simp)
      obtain ⟨hstops', hleads'⟩ := hagree.moreTerms _ _ _ hmore hhead'
      refine ⟨hstops', ?_⟩
      rintro frame term outer rfl
      have hfirst : Leads (operator frame term outer) (.plus :: tokens) (.ok (e, rest))
          (operator ⟨some (frame.addTerm term), none⟩ · outer) :=
        hleads (some (frame.addTerm term)) outer
      exact hfirst.then (hleads' ⟨_, none⟩ e outer rfl)
  · rw [moreTerms?_of_head? left hplus] at hmore
    cases hmore
    constructor
    · refine stops_ok fun token htoken => ?_
      simp only [List.mem_cons, List.not_mem_nil, or_false, not_or]
      exact ⟨fun h => hplus (h ▸ htoken), fun h => hhead (h ▸ htoken)⟩
    · rintro frame term outer rfl
      exact run_operator_addTerm frame term outer hhead

theorem Agree.product_succ (hagree : Agree levels)
    (hproduct : product? (levels + 1) tokens = some r) : Stops [.times] r ∧
      ∀ sum outer, Leads (operand ⟨sum, none⟩ outer) tokens r (operator ⟨sum, none⟩ · outer) := by
  rw [product?, andThen_eq_some_iff] at hproduct
  rcases hproduct with ⟨fault, hfound, rfl⟩ | ⟨e, rest, hfound, hmore⟩
  · exact ⟨stops_error _ _, fun sum outer => hagree.atom _ _ hfound ⟨sum, none⟩ outer⟩
  · obtain ⟨hstops, hleads⟩ := hagree.moreFactors _ _ _ hmore
    refine ⟨hstops, ?_⟩
    intro sum outer
    exact (hagree.atom _ _ hfound ⟨sum, none⟩ outer).then (hleads ⟨sum, none⟩ outer)

theorem Agree.moreFactors_succ (hagree : Agree levels) {left : LengthExpr}
    (hmore : moreFactors? (levels + 1) left tokens = some r) : Stops [.times] r ∧
      ∀ frame outer, Leads (operator frame left outer) tokens r (operator frame · outer) := by
  by_cases htimes : tokens.head? = some .times
  · obtain ⟨tokens, rfl⟩ := List.head?_eq_some_iff.1 htimes
    rw [moreFactors?, andThen_eq_some_iff] at hmore
    rcases hmore with ⟨fault, hfound, rfl⟩ | ⟨e, rest, hfound, hmore⟩
    · exact ⟨stops_error _ _, fun frame outer => hagree.atom _ _ hfound ⟨_, some left⟩ outer⟩
    · obtain ⟨hstops, hleads⟩ := hagree.moreFactors _ _ _ hmore
      refine ⟨hstops, ?_⟩
      rintro ⟨sum, before⟩ outer
      have hfirst : Leads (operator ⟨sum, before⟩ left outer) (.times :: tokens) (.ok (e, rest))
          (fun e => operator ⟨sum, some left⟩ (mul left e) outer) :=
        hagree.atom _ _ hfound ⟨sum, some left⟩ outer
      refine hfirst.then ?_
      rw [Leads, run_operator sum (some left) before]
      exact hleads ⟨sum, before⟩ outer
  · rw [moreFactors?_of_head? left htimes] at hmore
    cases hmore
    constructor
    · refine stops_ok fun token htoken => ?_
      rw [List.mem_singleton]
      exact fun h => htimes (h ▸ htoken)
    · exact fun frame outer => rfl

theorem Agree.atom_succ (hagree : Agree levels) (hatom : atom? (levels + 1) tokens = some r)
    (frame : Frame) (outer : List Frame) :
    Leads (operand frame outer) tokens r fun e => operator frame (frame.multiply e) outer := by
  cases tokens with
  | nil =>
      cases hatom
      rfl
  | cons token tokens =>
      cases token with
      | number | name | plus | times | closeParen =>
          cases hatom
          rfl
      | openParen =>
          rw [atom?, andThen_eq_some_iff] at hatom
          rcases hatom with ⟨fault, hfound, rfl⟩ | ⟨e, rest, hfound, hclosed⟩
          · exact (hagree.sum _ _ hfound).2 (frame :: outer)
          · obtain ⟨hstops, hleads⟩ := hagree.sum _ _ hfound
            have hfirst : Leads (operand frame outer) (.openParen :: tokens) (.ok (e, rest))
                (operator Frame.start · (frame :: outer)) :=
              hleads (frame :: outer)
            exact hfirst.then (leads_closed hclosed fun token => hstops e rest rfl token)

theorem agree (levels : Nat) : Agree levels := by
  induction levels with
  | zero => exact ⟨nofun, nofun, nofun, nofun, nofun⟩
  | succ levels ih =>
      exact ⟨fun _ _ => ih.sum_succ, fun _ _ _ => ih.moreTerms_succ, fun _ _ => ih.product_succ,
        fun _ _ _ => ih.moreFactors_succ, fun _ _ => ih.atom_succ⟩

/-- What a descent comes to is what the reader comes to. -/
theorem eq_ofTokens_of_whole? {result : Except LengthFault LengthExpr}
    (hwhole : whole? levels tokens = some result) : result = ofTokens tokens := by
  rw [whole?] at hwhole
  rw [ofTokens]
  by_cases hempty : tokens.isEmpty
  · rw [if_pos hempty] at hwhole ⊢
    exact (Option.some.inj hwhole).symm
  · rw [if_neg hempty, Option.map_eq_some_iff] at hwhole
    rw [if_neg hempty]
    obtain ⟨r, hsum, rfl⟩ := hwhole
    obtain ⟨hstops, hleads⟩ := (agree levels).sum _ _ hsum
    rw [hleads []]
    rcases r with fault | ⟨e, rest⟩
    · rfl
    · cases rest with
      | nil => rfl
      | cons token rest =>
          have hsign := hstops e _ rfl token rfl
          cases token with
          | plus | times => simp at hsign
          | number | name | openParen | closeParen => rfl

/-- The descent ends, and what it finds leaves fewer tokens than the given number. -/
def Ends (found : Descent) (n : Nat) : Prop :=
  ∃ r, found = some r ∧ ∀ e rest, r = .ok (e, rest) → rest.length < n

theorem ends_error (fault : LengthFault) (n : Nat) : Ends (some (.error fault)) n :=
  ⟨_, rfl, nofun⟩

theorem ends_ok {n : Nat} (hlength : rest.length < n) : Ends (some (.ok (e, rest))) n := by
  refine ⟨_, rfl, ?_⟩
  intro e' rest' hok
  cases hok
  exact hlength

theorem Ends.andThen {found : Descent} {next : LengthExpr → List LengthToken → Descent} {n m : Nat}
    (hfound : Ends found n) (hnext : ∀ e rest, rest.length < n → Ends (next e rest) m) :
    Ends (found.andThen next) m := by
  obtain ⟨r, rfl, hlength⟩ := hfound
  rcases r with fault | ⟨e, rest⟩
  · exact ends_error fault m
  · exact hnext e rest (hlength e rest rfl)

theorem Ends.mono {found : Descent} {n m : Nat} (hfound : Ends found n) (hle : n ≤ m) :
    Ends found m := by
  obtain ⟨r, hr, hlength⟩ := hfound
  exact ⟨r, hr, fun e rest hok => Nat.lt_of_lt_of_le (hlength e rest hok) hle⟩

/-- Three levels for each token are enough for the five descents.  What one of them finds takes up
a token at least, so the loops and the parentheses go on with fewer. -/
structure Enough (levels : Nat) : Prop where
  sum : ∀ tokens, 3 * tokens.length + 3 ≤ levels → Ends (sum? levels tokens) tokens.length
  moreTerms : ∀ left tokens, 3 * tokens.length + 2 ≤ levels →
    Ends (moreTerms? levels left tokens) (tokens.length + 1)
  product : ∀ tokens, 3 * tokens.length + 2 ≤ levels → Ends (product? levels tokens) tokens.length
  moreFactors : ∀ left tokens, 3 * tokens.length + 1 ≤ levels →
    Ends (moreFactors? levels left tokens) (tokens.length + 1)
  atom : ∀ tokens, 3 * tokens.length + 1 ≤ levels → Ends (atom? levels tokens) tokens.length

theorem Enough.sum_succ (henough : Enough levels)
    (hlevels : 3 * tokens.length + 3 ≤ levels + 1) :
    Ends (sum? (levels + 1) tokens) tokens.length := by
  rw [sum?]
  refine (henough.product tokens (by omega)).andThen ?_
  intro e rest hrest
  exact (henough.moreTerms e rest (by omega)).mono hrest

theorem Enough.product_succ (henough : Enough levels)
    (hlevels : 3 * tokens.length + 2 ≤ levels + 1) :
    Ends (product? (levels + 1) tokens) tokens.length := by
  rw [product?]
  refine (henough.atom tokens (by omega)).andThen ?_
  intro e rest hrest
  exact (henough.moreFactors e rest (by omega)).mono hrest

theorem Enough.moreTerms_succ (henough : Enough levels) (left : LengthExpr)
    (hlevels : 3 * tokens.length + 2 ≤ levels + 1) :
    Ends (moreTerms? (levels + 1) left tokens) (tokens.length + 1) := by
  by_cases hplus : tokens.head? = some .plus
  · obtain ⟨tokens, rfl⟩ := List.head?_eq_some_iff.1 hplus
    rw [List.length_cons] at hlevels ⊢
    rw [moreTerms?]
    refine (henough.product tokens (by omega)).andThen ?_
    intro right rest hrest
    exact (henough.moreTerms (add left right) rest (by omega)).mono (by omega)
  · rw [moreTerms?_of_head? left hplus]
    exact ends_ok (Nat.lt_succ_self _)

theorem Enough.moreFactors_succ (henough : Enough levels) (left : LengthExpr)
    (hlevels : 3 * tokens.length + 1 ≤ levels + 1) :
    Ends (moreFactors? (levels + 1) left tokens) (tokens.length + 1) := by
  by_cases htimes : tokens.head? = some .times
  · obtain ⟨tokens, rfl⟩ := List.head?_eq_some_iff.1 htimes
    rw [List.length_cons] at hlevels ⊢
    rw [moreFactors?]
    refine (henough.atom tokens (by omega)).andThen ?_
    intro right rest hrest
    exact (henough.moreFactors (mul left right) rest (by omega)).mono (by omega)
  · rw [moreFactors?_of_head? left htimes]
    exact ends_ok (Nat.lt_succ_self _)

theorem ends_closed (e : LengthExpr) (rest : List LengthToken) :
    Ends (closed e rest) (rest.length + 1) := by
  unfold closed
  split
  · refine ends_ok ?_
    rw [List.length_cons]
    omega
  · exact ends_error _ _

theorem Enough.atom_succ (henough : Enough levels)
    (hlevels : 3 * tokens.length + 1 ≤ levels + 1) :
    Ends (atom? (levels + 1) tokens) tokens.length := by
  cases tokens with
  | nil => exact ends_error _ _
  | cons token tokens =>
      rw [List.length_cons] at hlevels ⊢
      cases token with
      | number | name => exact ends_ok (Nat.lt_succ_self _)
      | plus | times | closeParen => exact ends_error _ _
      | openParen =>
          rw [atom?]
          refine (henough.sum tokens (by omega)).andThen ?_
          intro e rest hrest
          exact (ends_closed e rest).mono (by omega)

theorem enough (levels : Nat) : Enough levels := by
  induction levels with
  | zero => exact ⟨nofun, nofun, nofun, nofun, nofun⟩
  | succ levels ih =>
      exact ⟨fun _ => ih.sum_succ, fun left _ => ih.moreTerms_succ left, fun _ => ih.product_succ,
        fun left _ => ih.moreFactors_succ left, fun _ => ih.atom_succ⟩

/-- With three levels for each token, and three more, the descent ends and comes to what the reader
comes to. -/
theorem whole?_eq (hlevels : 3 * tokens.length + 3 ≤ levels) :
    whole? levels tokens = some (ofTokens tokens) := by
  obtain ⟨r, hsum, _⟩ := (enough levels).sum tokens hlevels
  have hends : ∃ result, whole? levels tokens = some result := by
    rw [whole?, hsum]
    split
    · exact ⟨_, rfl⟩
    · exact ⟨_, rfl⟩
  obtain ⟨result, hresult⟩ := hends
  rw [hresult, eq_ofTokens_of_whole? hresult]

end Descent

end Counterpart.LengthExpr
