/-
Which texts are length expressions.  A text is read if its tokens are derived by the grammar, and
then as the tree of the derivation; every other text is refused in a message that quotes it.
-/
import Counterpart.Proofs.Length.Descent
import Counterpart.Proofs.Length.Token
import Counterpart.ValueType.Read

namespace Counterpart.LengthExpr

namespace Descent

variable {levels : Nat} {tokens : List LengthToken} {e : LengthExpr}

theorem andThen_eq_ok_iff {found : Descent} {next : LengthExpr → List LengthToken → Descent}
    {x : LengthExpr × List LengthToken} : found.andThen next = some (.ok x) ↔
      ∃ e rest, found = some (.ok (e, rest)) ∧ next e rest = some (.ok x) := by
  rw [andThen_eq_some_iff]
  constructor
  · rintro (⟨_, _, hok⟩ | hnext)
    · cases hok
    · exact hnext
  · exact .inr

/-- What a descent finds in front of the tokens that it leaves. -/
def Finds (phrase : Phrase) (tokens : List LengthToken) (x : LengthExpr × List LengthToken) :
    Prop :=
  ∃ front, tokens = front ++ x.2 ∧ Derives phrase front x.1

/-- What a loop adds behind a phrase that it starts with. -/
def Extends (phrase : Phrase) (left : LengthExpr) (tokens : List LengthToken)
    (x : LengthExpr × List LengthToken) : Prop :=
  ∃ back, tokens = back ++ x.2 ∧
    ∀ front, Derives phrase front left → Derives phrase (front ++ back) x.1

theorem extends_refl (phrase : Phrase) (left : LengthExpr) (tokens : List LengthToken) :
    Extends phrase left tokens (left, tokens) := by
  refine ⟨[], rfl, ?_⟩
  intro front hfront
  rwa [List.append_nil]

theorem Extends.finds {phrase : Phrase} {rest : List LengthToken}
    {x : LengthExpr × List LengthToken} (hextends : Extends phrase e rest x)
    {front : List LengthToken} (hfront : Derives phrase front e) :
    Finds phrase (front ++ rest) x := by
  obtain ⟨back, rfl, hback⟩ := hextends
  exact ⟨front ++ back, (List.append_assoc _ _ _).symm, hback front hfront⟩

/-- What the five descents find is derived by the grammar. -/
structure Sound (levels : Nat) : Prop where
  sum : ∀ tokens x, sum? levels tokens = some (.ok x) → Finds .sum tokens x
  moreTerms : ∀ left tokens x, moreTerms? levels left tokens = some (.ok x) →
    Extends .sum left tokens x
  product : ∀ tokens x, product? levels tokens = some (.ok x) → Finds .product tokens x
  moreFactors : ∀ left tokens x, moreFactors? levels left tokens = some (.ok x) →
    Extends .product left tokens x
  atom : ∀ tokens x, atom? levels tokens = some (.ok x) → Finds .atom tokens x

variable {x : LengthExpr × List LengthToken}

theorem Sound.sum_succ (hsound : Sound levels) (hsum : sum? (levels + 1) tokens = some (.ok x)) :
    Finds .sum tokens x := by
  rw [sum?, andThen_eq_ok_iff] at hsum
  obtain ⟨e, rest, hfound, hmore⟩ := hsum
  obtain ⟨front, rfl, hfront⟩ := hsound.product _ _ hfound
  exact (hsound.moreTerms _ _ _ hmore).finds (.term hfront)

theorem Sound.product_succ (hsound : Sound levels)
    (hproduct : product? (levels + 1) tokens = some (.ok x)) : Finds .product tokens x := by
  rw [product?, andThen_eq_ok_iff] at hproduct
  obtain ⟨e, rest, hfound, hmore⟩ := hproduct
  obtain ⟨front, rfl, hfront⟩ := hsound.atom _ _ hfound
  exact (hsound.moreFactors _ _ _ hmore).finds (.factor hfront)

theorem Sound.moreTerms_succ (hsound : Sound levels) {left : LengthExpr}
    (hmore : moreTerms? (levels + 1) left tokens = some (.ok x)) : Extends .sum left tokens x := by
  by_cases hplus : tokens.head? = some .plus
  · obtain ⟨tokens, rfl⟩ := List.head?_eq_some_iff.1 hplus
    rw [moreTerms?, andThen_eq_ok_iff] at hmore
    obtain ⟨right, rest, hfound, hmore⟩ := hmore
    obtain ⟨middle, rfl, hmiddle⟩ := hsound.product _ _ hfound
    obtain ⟨back, hrest, hback⟩ := hsound.moreTerms _ _ _ hmore
    refine ⟨.plus :: middle ++ back, ?_, ?_⟩
    · simp [hrest]
    · intro front hfront
      rw [← List.append_assoc]
      exact hback _ (.plus hfront hmiddle)
  · rw [moreTerms?_of_head? left hplus] at hmore
    cases hmore
    exact extends_refl _ _ _

theorem Sound.moreFactors_succ (hsound : Sound levels) {left : LengthExpr}
    (hmore : moreFactors? (levels + 1) left tokens = some (.ok x)) :
    Extends .product left tokens x := by
  by_cases htimes : tokens.head? = some .times
  · obtain ⟨tokens, rfl⟩ := List.head?_eq_some_iff.1 htimes
    rw [moreFactors?, andThen_eq_ok_iff] at hmore
    obtain ⟨right, rest, hfound, hmore⟩ := hmore
    obtain ⟨middle, rfl, hmiddle⟩ := hsound.atom _ _ hfound
    obtain ⟨back, hrest, hback⟩ := hsound.moreFactors _ _ _ hmore
    refine ⟨.times :: middle ++ back, ?_, ?_⟩
    · simp [hrest]
    · intro front hfront
      rw [← List.append_assoc]
      exact hback _ (.times hfront hmiddle)
  · rw [moreFactors?_of_head? left htimes] at hmore
    cases hmore
    exact extends_refl _ _ _

theorem Sound.atom_succ (hsound : Sound levels)
    (hatom : atom? (levels + 1) tokens = some (.ok x)) : Finds .atom tokens x := by
  cases tokens with
  | nil => cases hatom
  | cons token tokens =>
      cases token with
      | number n =>
          cases hatom
          exact ⟨[.number n], rfl, .number n⟩
      | name s =>
          cases hatom
          exact ⟨[.name s], rfl, .name s⟩
      | plus | times | closeParen => cases hatom
      | openParen =>
          rw [atom?, andThen_eq_ok_iff] at hatom
          obtain ⟨e, rest, hfound, hclosed⟩ := hatom
          obtain ⟨front, rfl, hfront⟩ := hsound.sum _ _ hfound
          unfold closed at hclosed
          split at hclosed
          · cases hclosed
            exact ⟨.openParen :: front ++ [.closeParen], by simp, .parens hfront⟩
          · cases hclosed

theorem sound (levels : Nat) : Sound levels := by
  induction levels with
  | zero => exact ⟨nofun, nofun, nofun, nofun, nofun⟩
  | succ levels ih =>
      exact ⟨fun _ _ => ih.sum_succ, fun _ _ _ => ih.moreTerms_succ, fun _ _ => ih.product_succ,
        fun _ _ _ => ih.moreFactors_succ, fun _ _ => ih.atom_succ⟩

theorem derives_of_whole? (hwhole : whole? levels tokens = some (.ok e)) :
    Derives .sum tokens e := by
  rw [whole?] at hwhole
  split at hwhole
  · cases hwhole
  · obtain ⟨r, hsum, hr⟩ := Option.map_eq_some_iff.1 hwhole
    rcases r with fault | ⟨e', rest⟩
    · cases hr
    · obtain ⟨front, rfl, hfront⟩ := (sound levels).sum _ _ hsum
      cases rest with
      | nil =>
          cases hr
          rwa [List.append_nil]
      | cons token rest => cases hr

end Descent

/-- The reader gives the tree of the derivation of the tokens. -/
theorem ofTokens_eq_ok_iff {tokens : List LengthToken} {e : LengthExpr} :
    ofTokens tokens = .ok e ↔ Derives .sum tokens e := by
  constructor
  · intro hread
    have hwhole : Descent.whole? (3 * tokens.length + 3) tokens = some (ofTokens tokens) :=
      Descent.whole?_eq (Nat.le_refl _)
    rw [hread] at hwhole
    exact Descent.derives_of_whole? hwhole
  · exact ofTokens_of_derives

/-- A text is read as the tree that the grammar gives to its tokens. -/
theorem read_eq_ok_iff {cs : List Char} {e : LengthExpr} :
    read cs = .ok e ↔ ∃ tokens, LengthToken.Spelled cs tokens ∧ Derives .sum tokens e := by
  change LengthToken.scan cs >>= ofTokens = .ok e ↔ _
  rw [bind_eq_ok_iff]
  simp only [LengthToken.scan_eq_ok_iff, ofTokens_eq_ok_iff]

theorem readIn_eq_ok_iff {cs : List Char} {e : LengthExpr} :
    readIn cs = .ok e ↔ read cs = .ok e := by
  unfold readIn
  split
  · next h => simp [h]
  · next h => simp [h]

/-- A text is refused with a fault that quotes it, or not at all. -/
theorem exists_badLength_iff {cs : List Char} :
    (∃ fault, readIn cs = .error (.badLength (String.ofList cs) fault)) ↔
      ¬ ∃ e, readIn cs = .ok e := by
  unfold readIn
  split
  · simp
  · simp

/-- A text is accepted exactly if it is spelled with tokens from which the grammar derives a sum,
and the expression read is the tree of the derivation.  Every other text is refused with a fault
that quotes it.  A descent through the phrases of the grammar ends on every list of tokens, with
three nested calls for each of them and three more, and comes to what the reader comes to. -/
theorem readIn_accepts_grammar (cs : List Char) :
    (∀ e, readIn cs = .ok e ↔
      ∃ tokens, LengthToken.Spelled cs tokens ∧ Derives .sum tokens e) ∧
    ((∃ fault, readIn cs = .error (.badLength (String.ofList cs) fault)) ↔
      ¬ ∃ tokens e, LengthToken.Spelled cs tokens ∧ Derives .sum tokens e) ∧
    ∀ tokens more, Descent.whole? (3 * tokens.length + 3 + more) tokens =
      some (ofTokens tokens) := by
  have haccepts : ∀ e, readIn cs = .ok e ↔
      ∃ tokens, LengthToken.Spelled cs tokens ∧ Derives .sum tokens e :=
    fun e => readIn_eq_ok_iff.trans read_eq_ok_iff
  refine ⟨haccepts, ?_, ?_⟩
  · rw [exists_badLength_iff, not_iff_not]
    simp only [haccepts]
    exact exists_comm
  · intro tokens more
    exact Descent.whole?_eq (Nat.le_add_right _ more)

-- Digits and a name may touch, but they are two tokens, and no phrase has both side by side.
example : readIn "12n".toList = .error (.badLength "12n" .trailingTokens) := by cbv

end Counterpart.LengthExpr
