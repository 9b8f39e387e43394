/-
The line of a definition, read back.  The name goes up to the parenthesis behind it, commas part
the names of the arguments, and the rest of the line is the body.
-/
import Counterpart.Proofs.Header.Reading

namespace Counterpart.CDefinition

open Text

/-- The name of an argument, behind blanks. -/
def parameter? (cs : List Char) : Option String :=
  let name := cs.dropWhile (· = ' ')
  if isIdentifier name then some (String.ofList name) else none

/-- The definition of a line. -/
def read? (line : String) : Option CDefinition := do
  let rest ← dropFront? "#define ".toList line.toList
  let name := rest.takeWhile isIdentifierPart
  let inside ← dropFront? ['('] (rest.dropWhile isIdentifierPart)
  let arguments ← (pieces ',' (inside.takeWhile (· ≠ ')'))).mapM parameter?
  let behind ← dropFront? [')'] (inside.dropWhile (· ≠ ')'))
  let body ← CExpr.read? behind
  if isIdentifier name then some ⟨String.ofList name, arguments, body⟩ else none

/-- Names are identifiers, there is an argument, and the body needs no more parentheses. -/
structure Readable (d : CDefinition) : Prop where
  name : isIdentifier d.name.toList = true
  arguments : ∀ a ∈ d.arguments, isIdentifier a.toList = true
  nonempty : d.arguments ≠ []
  body : d.body.Grouped

/-- The names of the arguments as they are written. -/
def parameters (names : List String) : List Char :=
  (String.intercalate ", " names).toList

theorem parameters_singleton (name : String) : parameters [name] = name.toList := by
  rw [parameters, String.toList_intercalate]
  exact List.append_nil _

theorem parameters_cons (first second : String) (rest : List String) :
    parameters (first :: second :: rest) =
      first.toList ++ ',' :: ' ' :: parameters (second :: rest) := by
  simp only [parameters, String.toList_intercalate, List.map_cons, List.intercalate_cons_cons]
  exact List.append_assoc first.toList ", ".toList _

theorem head?_identifier {cs : List Char} (hname : isIdentifier cs = true) :
    ∀ c ∈ cs.head?, decide (c = ' ') = false := by
  intro c hc
  have hpart := isIdentifierPart_of_mem hname (List.mem_of_head? hc)
  refine decide_eq_false ?_
  rintro rfl
  exact absurd hpart (by decide)

theorem parameter?_append {blanks : List Char} {name : String} (hblanks : ∀ c ∈ blanks, c = ' ')
    (hname : isIdentifier name.toList = true) :
    parameter? (blanks ++ name.toList) = some name := by
  have hdrop : (blanks ++ name.toList).dropWhile (· = ' ') = name.toList :=
    dropWhile_eq_of_head? (fun c hc => decide_eq_true (hblanks c hc)) (head?_identifier hname)
  rw [parameter?, hdrop]
  exact (if_pos hname).trans (congrArg some String.ofList_toList)

theorem comma_notMem {blanks : List Char} {name : String} (hblanks : ∀ c ∈ blanks, c = ' ')
    (hname : isIdentifier name.toList = true) : ',' ∉ blanks ++ name.toList := by
  intro hmem
  rcases List.mem_append.1 hmem with hmem | hmem
  · exact absurd (hblanks _ hmem) (by decide)
  · exact absurd (isIdentifierPart_of_mem hname hmem) (by decide)

/-- Commas part the names of the arguments.  All but the first have a blank in front. -/
theorem mapM_parameter? {names : List String} (hne : names ≠ [])
    (hnames : ∀ name ∈ names, isIdentifier name.toList = true) (blanks : List Char)
    (hblanks : ∀ c ∈ blanks, c = ' ') :
    (pieces ',' (blanks ++ parameters names)).mapM parameter? = some names := by
  induction names generalizing blanks with
  | nil => exact absurd rfl hne
  | cons first names ih =>
      have hfirst := hnames first List.mem_cons_self
      have hcomma := comma_notMem hblanks hfirst
      have hread := parameter?_append hblanks hfirst
      cases names with
      | nil =>
          rw [parameters_singleton, pieces_of_notMem hcomma, List.mapM_cons, hread]
          rfl
      | cons second rest =>
          have hrest := ih (List.cons_ne_nil _ _)
            (fun name hname => hnames name (List.mem_cons_of_mem _ hname))
            [' '] (by simp)
          rw [parameters_cons, ← List.append_assoc, pieces_append hcomma, List.mapM_cons, hread]
          rw [List.singleton_append] at hrest
          rw [hrest]
          rfl

theorem ne_close_of_mem_parameters {names : List String}
    (hnames : ∀ name ∈ names, isIdentifier name.toList = true) :
    ∀ c ∈ parameters names, decide (c ≠ ')') = true := by
  intro c hc
  refine decide_eq_true ?_
  rintro rfl
  induction names with
  | nil => exact List.not_mem_nil hc
  | cons first names ih =>
      have hfirst : ')' ∉ first.toList := fun hmem =>
        absurd (isIdentifierPart_of_mem (hnames first List.mem_cons_self) hmem) (by decide)
      cases names with
      | nil => exact hfirst (parameters_singleton first ▸ hc)
      | cons second rest =>
          rw [parameters_cons, List.mem_append, List.mem_cons, List.mem_cons] at hc
          rcases hc with hc | hc | hc | hc
          · exact hfirst hc
          · cases hc
          · cases hc
          · exact ih (fun name hname => hnames name (List.mem_cons_of_mem _ hname)) hc

/-- The line of a definition is read as the definition. -/
theorem read?_line {d : CDefinition} (hd : d.Readable) : read? d.line = some d := by
  have hline : d.line.toList = "#define ".toList ++ (d.name.toList ++
      '(' :: (parameters d.arguments ++ ')' :: ' ' :: d.body.text)) := by
    simp only [line, String.toList_append, String.toList_ofList, parameters, List.append_assoc]
    rfl
  have hname : ∀ c ∈ d.name.toList, isIdentifierPart c = true :=
    fun c hc => isIdentifierPart_of_mem hd.name hc
  have hclose := ne_close_of_mem_parameters hd.arguments
  have harguments := mapM_parameter? hd.nonempty hd.arguments [] (by simp)
  have hbody : CExpr.read? (' ' :: d.body.text) = some d.body := by
    have hblank : CExpr.scan (' ' :: d.body.text) = CExpr.scan d.body.text :=
      CExpr.scan_blank [] d.body.text
    rw [CExpr.read?, hblank]
    exact CExpr.read?_text hd.body
  have hopen : dropFront? ['('] ('(' :: (parameters d.arguments ++ ')' :: ' ' :: d.body.text)) =
      some (parameters d.arguments ++ ')' :: ' ' :: d.body.text) := rfl
  have hbehind : dropFront? [')'] (')' :: ' ' :: d.body.text) = some (' ' :: d.body.text) := rfl
  have hnameEnd : ∀ c ∈ ('(' :: (parameters d.arguments ++ ')' :: ' ' :: d.body.text)).head?,
      isIdentifierPart c = false := by
    rintro c ⟨⟩
    rfl
  have hargumentsEnd : ∀ c ∈ (')' :: ' ' :: d.body.text).head?, decide (c ≠ ')') = false := by
    rintro c ⟨⟩
    rfl
  rw [List.nil_append] at harguments
  rw [read?, hline, dropFront?_append]
  simp only [Option.bind_eq_bind, Option.bind_some]
  rw [takeWhile_eq_of_head? hname hnameEnd, dropWhile_eq_of_head? hname hnameEnd, hopen,
    Option.bind_some, takeWhile_eq_of_head? hclose hargumentsEnd, harguments, Option.bind_some,
    dropWhile_eq_of_head? hclose hargumentsEnd, hbehind, Option.bind_some, hbody,
    Option.bind_some, if_pos hd.name, String.ofList_toList]

end Counterpart.CDefinition
