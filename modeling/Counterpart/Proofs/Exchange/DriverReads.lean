/-
What a driver reads before it calls the function, as its text tells it.  For every parameter, in
order, the text has the operations that take the words and the blocks which are encoded for it.
-/
import Counterpart.Proofs.Exchange.DriverLines
import Counterpart.Proofs.Exchange.Groups

namespace Counterpart.Driver

open Text Exchange

variable {sig : Signature} {guardBytes : Nat}

/-- What a line before the call can tell: which parameter is next, or an operation. -/
inductive ReadEvent where
  | parameter (name : List Char)
  | operation (op : Operation)
  deriving DecidableEq, Repr

/-- The mark of an operation that takes a word. -/
def wordMark : List Char :=
  ['e', 'q', '_', 'r', 'e', 'a', 'd', '_', 'w', 'o', 'r', 'd', '(', ')']

/-- The mark of an operation that takes a block. -/
def blockMark : List Char :=
  ['e', 'q', '_', 'r', 'e', 'a', 'd', '_', 'b', 'l', 'o', 'c', 'k', '(']

/-- What begins at a place of a line. -/
def readEvent? (cs : List Char) : Option ReadEvent :=
  match dropFront? ['/', '*', ' '] cs with
  | some rest => some (.parameter (rest.takeWhile (· ≠ ' ')))
  | none =>
      if (dropFront? wordMark cs).isSome then some (.operation .word)
      else if (dropFront? blockMark cs).isSome then some (.operation .block)
      else none

/-- What is read for a parameter. -/
def paramEvents (p : Param) : List ReadEvent :=
  .parameter p.name.toList :: (operations p.ty).map .operation

/-- What is found in the lines of the text between the head of the main function and the call. -/
def readEvents (text : List Char) : List ReadEvent :=
  (between "int main(void)".toList "    fflush(stdout);".toList (pieces '\n' text)).flatMap
    (found readEvent?)

section Pieces

/-- A piece of a line in which these events are found, whatever follows it. -/
def Reads (text : String) (events : List ReadEvent) : Prop :=
  ∀ rest, found readEvent? (text.toList ++ rest) = events ++ found readEvent? rest

theorem reads_ofList {cs : List Char} {events : List ReadEvent}
    (hcs : ∀ rest, found readEvent? (cs ++ rest) = events ++ found readEvent? rest) :
    Reads (String.ofList cs) events := by
  unfold Reads
  rwa [String.toList_ofList]

/-- Nothing is found in text that stands in front of a piece. -/
theorem Reads.behind {front text : String} {events : List ReadEvent} (htext : Reads text events)
    (hfront : Reads front []) : Reads (front ++ text) events := by
  intro rest
  rw [String.toList_append, List.append_assoc, hfront, htext, List.nil_append]

/-- Nothing is found in text that stands behind a piece. -/
theorem Reads.before {text back : String} {events : List ReadEvent} (htext : Reads text events)
    (hback : Reads back []) : Reads (text ++ back) events := by
  intro rest
  rw [String.toList_append, List.append_assoc, htext, hback, List.nil_append]

theorem Reads.found {text : String} {events : List ReadEvent} (htext : Reads text events) :
    found readEvent? text.toList = events := by
  have hfound := htext []
  rwa [List.append_nil, found_nil rfl, List.append_nil] at hfound

theorem readEvent?_cons_of_ne {c : Char} (hslash : '/' ≠ c) (he : 'e' ≠ c) (rest : List Char) :
    readEvent? (c :: rest) = none := by
  rw [readEvent?, dropFront?_cons_of_ne hslash, wordMark, blockMark, dropFront?_cons_of_ne he,
    dropFront?_cons_of_ne he]
  rfl

theorem reads_toString (n : Nat) : Reads (toString n) [] := by
  apply silent_of_forall
  intro c hc rest
  rw [toList_toString] at hc
  have hdigit := isDecimal_of_mem_decimal hc
  apply readEvent?_cons_of_ne
  · rintro rfl
    exact absurd hdigit (by decide)
  · rintro rfl
    exact absurd hdigit (by decide)

theorem reads_variable (i : Nat) : Reads s!"a{i}" [] :=
  (reads_toString i).behind (reads_ofList fun _ => rfl)

theorem reads_field (i f : Nat) : Reads s!"a{i}_f{f}" [] :=
  (reads_toString f).behind ((reads_variable i).before (reads_ofList fun _ => rfl))

theorem reads_int_declared (width : Width) (signed : Bool) :
    Reads (ScalarType.int width signed).declared [] := by
  cases width <;> cases signed <;> exact reads_ofList fun _ => rfl

end Pieces

/-- A number with a point is declared on one line and read on the next. -/
theorem found_floatLines {type name bits back : String} (hname : Reads name [])
    (htype : Reads type []) (hbits : Reads bits [.operation .word]) (hback : Reads back []) :
    [type ++ name ++ ";", bits ++ name ++ back].flatMap
      (fun line => found readEvent? line.toList) = [.operation .word] := by
  have hdeclared : Reads (type ++ name ++ ";") [] :=
    (hname.behind htype).before (reads_ofList fun _ => rfl)
  have hread : Reads (bits ++ name ++ back) [.operation .word] := (hbits.before hname).before hback
  rw [List.flatMap_cons, List.flatMap_singleton, hdeclared.found, hread.found]
  rfl

theorem found_readScalar (ty : ScalarType) {name : String} (hname : Reads name []) :
    (readScalar ty name).flatMap (fun line => found readEvent? line.toList) =
      [.operation .word] := by
  cases ty with
  | int width signed =>
      have hdeclared := reads_int_declared width signed
      have htype : Reads ("    " ++ (ScalarType.int width signed).declared ++ " ") [] :=
        (hdeclared.behind (reads_ofList fun _ => rfl)).before (reads_ofList fun _ => rfl)
      have hcast : Reads " = (" [] := reads_ofList fun _ => rfl
      have hread : Reads ")eq_read_word();" [.operation .word] := reads_ofList fun _ => rfl
      have hfront := ((htype.before hname).before hcast).before hdeclared
      rw [readScalar, List.flatMap_singleton]
      exact (hread.behind hfront).found
  | f32 | f64 =>
      exact found_floatLines hname (reads_ofList fun _ => rfl) (reads_ofList fun _ => rfl)
        (reads_ofList fun _ => rfl)

/-- No operation begins in a name, because the marks of the operations have a bracket. -/
theorem found_identifier_append {name : List Char}
    (hname : ∀ c ∈ name, isIdentifierPart c = true) (rest : List Char) :
    found readEvent? (name ++ ' ' :: rest) = found readEvent? (' ' :: rest) := by
  induction name with
  | nil => rfl
  | cons c name ih =>
      have hnone {mark : List Char} (hblank : ' ' ∉ mark) (hbracket : '(' ∈ mark) :
          dropFront? mark (c :: name ++ ' ' :: rest) = none := by
        rw [Option.eq_none_iff_forall_ne_some]
        intro behind hdrop
        have hbegins : mark <+: c :: name ++ ' ' :: rest :=
          ⟨behind, (dropFront?_eq_some hdrop).symm⟩
        rw [prefix_append_cons_iff hblank] at hbegins
        exact absurd (hname '(' (hbegins.subset hbracket)) (by decide)
      have hslash : '/' ≠ c := by
        rintro rfl
        exact absurd (hname _ List.mem_cons_self) (by decide)
      have hread : readEvent? (c :: (name ++ ' ' :: rest)) = none := by
        rw [readEvent?, dropFront?_cons_of_ne hslash, ← List.cons_append,
          hnone (by decide) (by decide), hnone (by decide) (by decide)]
        rfl
      rw [List.cons_append, found_cons_of_none hread]
      exact ih fun d hd => hname d (List.mem_cons_of_mem c hd)

/-- The comment above the lines of a parameter names it. -/
theorem found_comment {name : String} (hname : isIdentifier name.toList = true) :
    found readEvent? ("    /* " ++ name ++ " */").toList = [.parameter name.toList] := by
  have hparts : ∀ c ∈ name.toList, isIdentifierPart c = true :=
    fun c hc => isIdentifierPart_of_mem hname hc
  have hblank : ∀ c ∈ name.toList, decide (c ≠ ' ') = true := by
    intro c hc
    rw [decide_eq_true_eq]
    rintro rfl
    exact absurd (hparts _ hc) (by decide)
  have htext : ("    /* " ++ name ++ " */").toList =
      [' ', ' ', ' ', ' '] ++ ('/' :: '*' :: ' ' :: (name.toList ++ [' ', '*', '/'])) := by
    rw [String.toList_append, String.toList_append]
    rfl
  have htake : (name.toList ++ [' ', '*', '/']).takeWhile (· ≠ ' ') = name.toList := by
    rw [List.takeWhile_append_of_pos hblank]
    exact List.append_nil _
  have hevent : readEvent? ('/' :: '*' :: ' ' :: (name.toList ++ [' ', '*', '/'])) =
      some (.parameter name.toList) := congrArg (fun cs => some (ReadEvent.parameter cs)) htake
  have hrest : found readEvent? ('*' :: ' ' :: (name.toList ++ [' ', '*', '/'])) = [] :=
    found_identifier_append hparts ['*', '/']
  have hfront : found readEvent?
      ([' ', ' ', ' ', ' '] ++ ('/' :: '*' :: ' ' :: (name.toList ++ [' ', '*', '/']))) =
      found readEvent? ('/' :: '*' :: ' ' :: (name.toList ++ [' ', '*', '/'])) := rfl
  rw [htext, hfront, found_cons, hevent, hrest]
  rfl

/-- The type of a pointer ends so that no mark is open behind it. -/
theorem reads_paramType {ty : ValueType} (hpointer : ty.isPointer = true) (i : Nat) :
    Reads (paramType i ty) [] := by
  cases ty with
  | scalar _ | aggregate _ => cases hpointer
  | cstring _ | bytes _ _ => exact reads_ofList fun _ => rfl
  | buffer elem _ _ =>
      intro rest
      rw [paramType, String.toList_append, List.append_assoc]
      cases elem with
      | int width signed => exact reads_int_declared width signed _
      | f32 | f64 => rfl

theorem found_pointerLines {ty : ValueType} (hpointer : ty.isPointer = true) (i : Nat) :
    ([ s!"    size_t a{i}_len;",
      s!"    unsigned char *a{i}_raw = eq_read_block(&a{i}_len);",
      "    " ++ paramType i ty ++ s!" a{i} = (" ++ paramType i ty ++ s!")a{i}_raw;" ]).flatMap
        (fun line => found readEvent? line.toList) = [.operation .block] := by
  have hnumber := reads_toString i
  have htype := reads_paramType hpointer i
  have hfirst : Reads s!"    size_t a{i}_len;" [] :=
    (hnumber.behind (reads_ofList fun _ => rfl)).before (reads_ofList fun _ => rfl)
  have hfront : Reads s!"    unsigned char *a{i}" [] := hnumber.behind (reads_ofList fun _ => rfl)
  have hread : Reads "_raw = eq_read_block(&a" [.operation .block] := reads_ofList fun _ => rfl
  have hsecond : Reads s!"    unsigned char *a{i}_raw = eq_read_block(&a{i}_len);"
      [.operation .block] :=
    ((hread.behind hfront).before hnumber).before (reads_ofList fun _ => rfl)
  have hvariable : Reads s!" a{i} = (" [] :=
    (hnumber.behind (reads_ofList fun _ => rfl)).before (reads_ofList fun _ => rfl)
  have hraw : Reads s!")a{i}_raw;" [] :=
    (hnumber.behind (reads_ofList fun _ => rfl)).before (reads_ofList fun _ => rfl)
  have hthird : Reads ("    " ++ paramType i ty ++ s!" a{i} = (" ++ paramType i ty ++
      s!")a{i}_raw;") [] :=
    (((htype.behind (reads_ofList fun _ => rfl)).before hvariable).before htype).before hraw
  rw [List.flatMap_cons, List.flatMap_cons, List.flatMap_singleton, hfirst.found, hsecond.found,
    hthird.found]
  rfl

theorem found_fieldLines (ty : ScalarType) (i f : Nat) :
    (readScalar ty s!"a{i}_f{f}" ++ [s!"    a{i}.f{f} = a{i}_f{f};"]).flatMap
      (fun line => found readEvent? line.toList) = [.operation .word] := by
  have hi := reads_toString i
  have hf := reads_toString f
  have hassign : Reads s!"    a{i}.f{f} = a{i}_f{f};" [] :=
    (((((((hi.behind (reads_ofList fun _ => rfl)).before (reads_ofList fun _ => rfl)).before
      hf).before (reads_ofList fun _ => rfl)).before hi).before (reads_ofList fun _ => rfl)).before
        hf).before (reads_ofList fun _ => rfl)
  rw [List.flatMap_append, found_readScalar ty (reads_field i f), List.flatMap_singleton,
    hassign.found]
  rfl

theorem found_aggregateLines (fields : List ScalarType) (i : Nat) :
    (s!"    struct eq_agg_{i} a{i};" ::
      ((List.range fields.length).zip fields).flatMap fun (f, ty) =>
        readScalar ty s!"a{i}_f{f}" ++ [s!"    a{i}.f{f} = a{i}_f{f};"]).flatMap
      (fun line => found readEvent? line.toList) =
        (List.replicate fields.length Operation.word).map .operation := by
  have hi := reads_toString i
  have hfirst : Reads s!"    struct eq_agg_{i} a{i};" [] :=
    (((hi.behind (reads_ofList fun _ => rfl)).before (reads_ofList fun _ => rfl)).before hi).before
      (reads_ofList fun _ => rfl)
  have hfields : ∀ entry ∈ (List.range fields.length).zip fields,
      (readScalar entry.2 s!"a{i}_f{entry.1}" ++
        [s!"    a{i}.f{entry.1} = a{i}_f{entry.1};"]).flatMap
          (fun line => found readEvent? line.toList) = [ReadEvent.operation .word] :=
    fun entry _ => found_fieldLines entry.2 i entry.1
  have hlength : ((List.range fields.length).zip fields).length = fields.length := by simp
  rw [List.flatMap_cons, hfirst.found, List.nil_append, List.flatMap_assoc,
    List.flatMap_congr hfields, List.map_replicate, ← List.map_eq_flatMap, List.map_const', hlength]

/-- The lines of one parameter name it and read what its type takes. -/
theorem found_readLines {entry : Nat × Param} (hname : isIdentifier entry.2.name.toList = true) :
    (readLines entry).flatMap (fun line => found readEvent? line.toList) = paramEvents entry.2 := by
  obtain ⟨i, name, ty⟩ := entry
  have hcomment := found_comment hname
  cases ty with
  | scalar ty =>
      rw [readLines, List.flatMap_cons, hcomment, found_readScalar ty (reads_variable i)]
      rfl
  | aggregate fields =>
      rw [readLines, List.flatMap_cons, hcomment, found_aggregateLines fields i]
      rfl
  | buffer _ _ _ | cstring _ | bytes _ _ =>
      rw [readLines, List.flatMap_cons, hcomment, found_pointerLines rfl i]
      rfl

/-- Where the main function begins. -/
def mainLine : Line := .code "int main(void)"

/-- Where the reading ends and the call follows. -/
def flushLine : Line := .code "    fflush(stdout);"

section Lines

/-- A line that begins in another way is another line. -/
theorem append_ne_ofList {front line : List Char} (hbegins : ¬ front <+: line)
    (back : String) : String.ofList front ++ back ≠ String.ofList line := by
  intro htext
  have hchars := congrArg String.toList htext
  rw [String.toList_append, String.toList_ofList, String.toList_ofList] at hchars
  exact hbegins ⟨_, hchars⟩

theorem ofList_ne {front line : List Char} (hne : front ≠ line) :
    String.ofList front ≠ String.ofList line :=
  fun htext => hne (String.ofList_injective htext)

theorem ne_mainLine_of_mem_headLines :
    ∀ line ∈ headLines sig guardBytes, line.text ≠ mainLine.text := by
  simp only [headLines, preludeLines, prelude, List.take_succ_cons, List.take_zero,
    List.drop_succ_cons, List.drop_zero, List.map_cons, List.map_nil, List.forall_mem_append,
    List.forall_mem_cons, List.forall_mem_map, List.forall_mem_flatMap, Line.text,
    String.append_assoc]
  and_intros
  all_goals try first
    | exact List.forall_mem_nil _
    | exact ofList_ne (by decide)
    | exact append_ne_ofList (by decide) _
  · rintro ⟨i, p⟩ -
    simp only [structLines]
    split
    · simp only [List.forall_mem_append, List.forall_mem_singleton, List.forall_mem_map,
        String.append_assoc]
      exact ⟨⟨append_ne_ofList (by decide) _,
        fun entry _ => append_ne_ofList (by decide) _⟩, ofList_ne (by decide)⟩
    · exact List.forall_mem_nil _
  · rw [declaration]
    simp only [String.append_assoc]
    exact append_ne_ofList (by decide) _

/-- An indented line is the one that ends the reading only if it goes on as that does. -/
theorem indented_ne {front : String} (hbegins : ¬ front.toList <+: "fflush(stdout);".toList)
    (back : String) : "    " ++ (front ++ back) ≠ flushLine.text := by
  have hline : flushLine.text = "    " ++ "fflush(stdout);" := append_of_ofList rfl
  intro htext
  have hchars := congrArg String.toList (htext.trans hline)
  rw [String.toList_append, String.toList_append, String.toList_append] at hchars
  exact hbegins ⟨_, List.append_cancel_left hchars⟩

theorem not_prefix_declared (ty : ScalarType) :
    ¬ ty.declared.toList <+: "fflush(stdout);".toList := by
  cases ty with
  | int width signed => cases width <;> cases signed <;> decide
  | f32 | f64 => decide

theorem ne_flushLine_of_mem_readScalar (ty : ScalarType) (name : String) :
    ∀ line ∈ readScalar ty name, line ≠ flushLine.text := by
  cases ty with
  | int width signed =>
      simp only [readScalar, List.forall_mem_singleton, String.append_assoc]
      exact indented_ne (not_prefix_declared _) _
  | f32 | f64 =>
      simp only [readScalar, List.forall_mem_cons, String.append_assoc]
      exact ⟨append_ne_ofList (by decide) _, append_ne_ofList (by decide) _,
        List.forall_mem_nil _⟩

theorem paramType_append_ne {ty : ValueType} (hpointer : ty.isPointer = true) (i : Nat)
    (back : String) : "    " ++ (paramType i ty ++ back) ≠ flushLine.text := by
  cases ty with
  | scalar _ | aggregate _ => cases hpointer
  | buffer elem _ _ =>
      rw [paramType, String.append_assoc]
      exact indented_ne (not_prefix_declared elem) _
  | cstring _ =>
      have hbegins : ¬ "char *".toList <+: "fflush(stdout);".toList := by decide
      exact indented_ne hbegins back
  | bytes _ _ =>
      have hbegins : ¬ "void *".toList <+: "fflush(stdout);".toList := by decide
      exact indented_ne hbegins back

theorem ne_flushLine_of_mem_pointerLines {ty : ValueType} (hpointer : ty.isPointer = true)
    (i : Nat) : ∀ line ∈ [ s!"    size_t a{i}_len;",
      s!"    unsigned char *a{i}_raw = eq_read_block(&a{i}_len);",
      "    " ++ paramType i ty ++ s!" a{i} = (" ++ paramType i ty ++ s!")a{i}_raw;" ],
        line ≠ flushLine.text := by
  simp only [List.forall_mem_cons, String.append_assoc]
  exact ⟨append_ne_ofList (by decide) _, append_ne_ofList (by decide) _,
    paramType_append_ne hpointer i _, List.forall_mem_nil _⟩

theorem ne_flushLine_of_mem_readLines (entry : Nat × Param) :
    ∀ line ∈ readLines entry, line ≠ flushLine.text := by
  obtain ⟨i, name, ty⟩ := entry
  have hcomment : "    /* " ++ name ++ " */" ≠ flushLine.text := by
    rw [String.append_assoc]
    exact append_ne_ofList (by decide) _
  cases ty with
  | scalar ty => exact List.forall_mem_cons.2 ⟨hcomment, ne_flushLine_of_mem_readScalar ty _⟩
  | aggregate fields =>
      simp only [readLines, List.forall_mem_cons, List.forall_mem_flatMap, List.forall_mem_append,
        Prod.forall]
      refine ⟨hcomment, ?_, fun f ty _ => ⟨ne_flushLine_of_mem_readScalar ty _, ?_⟩⟩
      · simp only [String.append_assoc]
        exact append_ne_ofList (by decide) _
      · simp only [String.append_assoc]
        exact ⟨append_ne_ofList (by decide) _, List.forall_mem_nil _⟩
  | buffer _ _ _ | cstring _ | bytes _ _ =>
      exact List.forall_mem_cons.2 ⟨hcomment, ne_flushLine_of_mem_pointerLines rfl i⟩

end Lines

/-- In front of the call, the parameters are read in order, each by the operations of its type. -/
theorem readEvents_source (hvalid : sig.validate = .ok ()) :
    readEvents (source sig guardBytes).toList = sig.params.flatMap paramEvents := by
  have hlines : sourceLines sig guardBytes = headLines sig guardBytes ++ mainLine ::
      ((.code "\x7b" :: ((numbered sig).flatMap readLines).map .code) ++ flushLine ::
        (callLines sig ++ (numbered sig).flatMap memoryReport ++
          [ .report "    printf(\"" "END\\n\");", .code "    fflush(stdout);",
            .code "    return 0;", .code "\x7d" ])) := by
    simp only [sourceLines, mainLine, flushLine, List.append_assoc, List.cons_append,
      List.nil_append]
  have hmiddle : ∀ line ∈ (.code "\x7b" :: ((numbered sig).flatMap readLines).map Line.code),
      line.text ≠ flushLine.text := by
    simp only [List.forall_mem_cons, List.forall_mem_map, List.forall_mem_flatMap]
    refine ⟨ofList_ne (by decide), fun entry _ => ne_flushLine_of_mem_readLines entry⟩
  have hbrace : found readEvent? "\x7b".toList = [] := by decide
  have hentries : ∀ entry ∈ numbered sig,
      (readLines entry).flatMap (fun line => found readEvent? line.toList) = paramEvents entry.2 :=
    fun entry hentry => found_readLines
      ((Signature.isIdentifier_of_validate hvalid).2 _ (List.of_mem_zip hentry).2)
  have hbetween := between_source hvalid hlines ne_mainLine_of_mem_headLines hmiddle
  have hparams : (numbered sig).map (·.2) = sig.params := by
    rw [numbered, List.map_snd_zip]
    exact le_of_eq List.length_range.symm
  change readEvents _ = _
  rw [readEvents]
  change (between mainLine.text.toList flushLine.text.toList _).flatMap _ = _
  rw [hbetween, List.flatMap_map, List.flatMap_cons, List.flatMap_map, List.flatMap_assoc]
  refine (congrArg (· ++ _) hbrace).trans ?_
  rw [List.nil_append]
  refine (List.flatMap_congr hentries).trans ?_
  rw [← hparams, List.flatMap_map]

end Counterpart.Driver
