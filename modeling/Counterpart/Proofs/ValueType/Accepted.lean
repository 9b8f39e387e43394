/-
Which texts are parameter types.  A text is read exactly if it stands for a type in the accepted
grammar, and then as that type.  It is of the documented grammar unless a position of its structure
is blank or its size has a sign.
-/
import Counterpart.Proofs.Except
import Counterpart.Proofs.Forall
import Counterpart.Proofs.Length.Accepted
import Counterpart.Proofs.ValueType.Grammar

namespace Counterpart

open Text

theorem ScalarType.read_eq_ok_iff {t : ScalarType} {cs : List Char} :
    read cs = .ok t ↔ t.Occupies cs := by
  constructor
  · intro hread
    refine ⟨trim cs, ?_, padded_trim cs⟩
    simp only [read] at hread
    split at hread
    · cases hread
    · split at hread
      · next ty hname =>
        cases hread
        exact hname
      · cases hread
  · rintro ⟨name, hname, hpadded⟩
    have htrim : trim cs = trim name := hpadded.trim_eq
    have hread := hname.plainName.read
    unfold read at hread ⊢
    rwa [htrim]

namespace TypeGrammar

section Parts

variable {digits : List Char} {size : Nat} {positions : List (List Char)}
  {fields : List ScalarType}

theorem nat64?_eq_some_iff : nat64? digits = some size ↔ accepted.Size digits size := by
  unfold nat64? natBelow?
  constructor
  · intro hread
    split at hread
    · exact ⟨_, .inr rfl, denotes_number_iff.2 hread⟩
    · exact ⟨_, .inl rfl, denotes_number_iff.2 hread⟩
  · rintro ⟨run, rfl | rfl, hrun⟩
    · split
      · exact absurd List.mem_cons_self (notMem_of_denotes_number hrun (by decide))
      · exact denotes_number_iff.1 hrun
    · exact denotes_number_iff.1 hrun

/-- The reader skips the blank positions. -/
theorem skipping_iff : Skipping positions fields ↔
    (positions.filter fun position => !(trim position).isEmpty).mapM ScalarType.read =
      .ok fields := by
  rw [mapM_eq_ok_iff]
  induction positions generalizing fields with
  | nil =>
      rw [List.filter_nil, List.forall₂_nil_left_iff]
      constructor
      · intro hskipping
        cases hskipping
        rfl
      · rintro rfl
        exact .nil
  | cons position positions ih =>
      by_cases hblank : Blank position
      · have hskipped : (!(trim position).isEmpty) = false := by
          rw [trim_eq_nil_iff.2 hblank]
          rfl
        rw [skipping_blank_iff hblank, List.filter_cons, hskipped, if_neg Bool.false_ne_true, ih]
      · have hkept : (!(trim position).isEmpty) = true := by
          rwa [Bool.not_eq_true', List.isEmpty_eq_false_iff, Ne, trim_eq_nil_iff]
        rw [skipping_field_iff hblank, List.filter_cons, if_pos hkept, List.forall₂_cons_left_iff]
        simp only [ScalarType.read_eq_ok_iff, ih]

end Parts

section Reader

variable {head inner rest whole : List Char} {isMutable : Bool} {v : ValueType}

/-- Behind its keyword the reader takes a size for an opaque object. -/
theorem readBracketed_bytes_iff (hkeyword : trim head = "bytes".toList) :
    ValueType.readBracketed whole head (inner ++ [']']) isMutable = .ok v ↔
      ∃ size, accepted.Size (trim inner) size ∧ .bytes size isMutable = v := by
  simp only [ValueType.readBracketed, dropBack?_append, if_pos hkeyword, ← nat64?_eq_some_iff]
  cases nat64? (trim inner) with
  | none => simp
  | some size => simp

/-- Behind anything else it takes a length for a buffer. -/
theorem readBracketed_buffer_iff (hkeyword : trim head ≠ "bytes".toList) :
    ValueType.readBracketed whole head (inner ++ [']']) isMutable = .ok v ↔
      ∃ t, t.Occupies (trim head) ∧ ∃ length, (∃ tokens, LengthToken.Spelled inner tokens ∧
        LengthExpr.Derives .sum tokens length) ∧ .buffer t length isMutable = v := by
  simp only [ValueType.readBracketed, dropBack?_append, if_neg hkeyword,
    ← ScalarType.read_eq_ok_iff, ← LengthExpr.read_eq_ok_iff, ← LengthExpr.readIn_eq_ok_iff]
  rw [bind_eq_ok_iff]
  refine exists_congr fun t => and_congr_right fun _ => ?_
  rw [bind_eq_ok_iff]
  exact exists_congr fun length => and_congr_right fun _ => by rw [Except.ok.injEq]

theorem braced?_eq_some_iff {cs : List Char} : ValueType.braced? cs = some inner ↔
    cs = '\x7b' :: inner ++ ['\x7d'] := by
  unfold ValueType.braced?
  rw [Option.bind_eq_some_iff]
  constructor
  · rintro ⟨found, hfront, hback⟩
    rw [dropFront?_eq_some hfront, dropBack?_eq_some hback]
    rfl
  · rintro rfl
    exact ⟨inner ++ ['\x7d'], dropFront?_append _ _, dropBack?_append _ _⟩

/-- Between the braces of a structure the reader takes the fields at the positions. -/
theorem readAggregate_eq_ok_iff : ValueType.readAggregate whole rest = .ok v ↔
    ∃ inner fields, trim rest = '\x7b' :: inner ++ ['\x7d'] ∧
      accepted.Fields (pieces ',' inner) fields ∧ .aggregate fields = v := by
  simp only [ValueType.readAggregate, ← braced?_eq_some_iff]
  cases ValueType.braced? (trim rest) with
  | none => simp
  | some inner =>
      simp only [Option.some.injEq, exists_and_left, exists_eq_left']
      rw [bind_eq_ok_iff]
      refine exists_congr fun fields => ?_
      rw [ValueType.readFields, ← skipping_iff]
      cases fields with
      | nil => simp [accepted]
      | cons t fields => simp [accepted]

end Reader

section Complete

variable {part head inner body whole : List Char} {isMutable : Bool} {v : ValueType}

theorem readBase_trailed (hhead : Trailed part head) (hne : part ≠ []) (hbracket : '[' ∉ part)
    (hstart : part.head? ≠ some 's') :
    ValueType.readBase whole (head ++ '[' :: inner ++ [']']) isMutable =
      ValueType.readBracketed whole head (inner ++ [']']) isMutable := by
  apply ValueType.readBase_bracketed (hhead.ne_nil hne)
  · rwa [hhead.padded.mem_iff (by decide)]
  · rwa [hhead.head?_eq hne]

theorem readBase_single {t : ScalarType} {name : List Char} (hname : t.Named name)
    (hhead : Trailed name head) : ValueType.readBase whole (head ++ ['*']) isMutable =
      .ok (.buffer t (.const 1) isMutable) := by
  have hplain := hname.plainName
  have hcstr : head ++ ['*'] ≠ "cstr".toList := by
    intro hbody
    have hlast := congrArg List.getLast? hbody
    rw [List.getLast?_concat] at hlast
    exact absurd hlast (by decide)
  have hstruct : dropFront? "struct".toList (head ++ ['*']) = none := by
    apply ValueType.dropFront?_struct
    rw [List.head?_append_of_ne_nil _ (hhead.ne_nil hplain.ne_nil),
      hhead.head?_eq hplain.ne_nil]
    exact hplain.start
  have helem : ScalarType.read head = .ok t :=
    ScalarType.read_eq_ok_iff.2 ⟨name, hname, hhead.padded⟩
  simp only [ValueType.readBase, if_neg hcstr, hstruct, dropBack?_append, helem]
  rfl

theorem readBase_aggregate {positions : List (List Char)} {fields : List ScalarType}
    (hhead : Trailed "struct".toList head) (hne : positions ≠ [])
    (hfields : accepted.Fields positions fields) :
    ValueType.readBase whole (head ++ '\x7b' :: join [','] positions ++ ['\x7d']) false =
      .ok (.aggregate fields) := by
  obtain ⟨gap, hgap, rfl⟩ := hhead
  have hbraces : trim (gap ++ ('\x7b' :: join [','] positions ++ ['\x7d'])) =
      '\x7b' :: join [','] positions ++ ['\x7d'] := by
    have htight : Tight ('\x7b' :: join [','] positions ++ ['\x7d']) :=
      .concat (by simp; decide) (by decide)
    rw [(hgap.padded _).trim_eq, htight.trim_eq]
  have hcommas : ∀ position ∈ positions, ',' ∉ position :=
    hfields.2.notMem (by decide) (by decide)
  rw [List.append_assoc, List.append_assoc]
  have hcstr : "struct".toList ++ (gap ++ ('\x7b' :: join [','] positions ++ ['\x7d'])) ≠
      "cstr".toList := by
    intro hbody
    have hfirst : 's' = 'c' := (List.cons.inj hbody).1
    exact absurd hfirst (by decide)
  simp only [ValueType.readBase, if_neg hcstr, dropFront?_append, Bool.false_eq_true, if_false]
  rw [readAggregate_eq_ok_iff]
  exact ⟨_, fields, hbraces, (pieces_join hne hcommas).symm ▸ hfields, rfl⟩

theorem readBase_of_base (hbase : accepted.Base body v) :
    ValueType.readBase whole body v.isMutable = .ok v := by
  cases hbase with
  | scalar hname => exact ValueType.readBase_of_plainName hname.plainName
  | single isMutable hname hhead => exact readBase_single hname hhead
  | @buffer t name head inner tokens length isMutable hname hhead htokens hlength =>
      have hplain := hname.plainName
      have htrim : trim head = name := hhead.padded.trim_eq.trans (trim_of_isWord hplain.isWord)
      rw [readBase_trailed hhead hplain.ne_nil hplain.bracket hplain.start,
        readBracketed_buffer_iff (htrim ▸ hplain.ne_bytes)]
      exact ⟨t, ⟨name, hname, htrim ▸ Padded.refl name⟩, length, ⟨tokens, htokens, hlength⟩, rfl⟩
  | cstring => rfl
  | @bytes head inner digits size isMutable hhead hinner hsize =>
      have htrim : trim head = "bytes".toList := hhead.padded.trim_eq
      have hdigits : trim inner = digits :=
        hinner.trim_eq.trans (trim_of_isWord (isWord_size hsize))
      rw [readBase_trailed hhead (by decide) (by decide) (by decide), readBracketed_bytes_iff htrim]
      exact ⟨size, hdigits ▸ hsize, rfl⟩
  | aggregate hhead hne hfields => exact readBase_aggregate hhead hne hfields

end Complete

section Sound

variable {head tail rest body whole : List Char} {isMutable : Bool} {v : ValueType}

theorem base_of_readAggregate (htight : Tight ("struct".toList ++ rest))
    (hread : ValueType.readAggregate whole rest = .ok v) :
    accepted.Base ("struct".toList ++ rest) v ∧ v.isMutable = false := by
  obtain ⟨inner, fields, hbraces, hfields, rfl⟩ := readAggregate_eq_ok_iff.1 hread
  obtain ⟨gap, hgap, hrest⟩ := (padded_trim rest).exists_leading htight.last
  refine ⟨?_, rfl⟩
  rw [hrest, hbraces, ← List.append_assoc, ← List.append_assoc, ← join_pieces ',' inner]
  exact .aggregate ⟨gap, hgap, rfl⟩ (pieces_ne_nil ',' inner) hfields

theorem base_of_readBracketed (htight : Tight (head ++ '[' :: tail))
    (hread : ValueType.readBracketed whole head tail isMutable = .ok v) :
    accepted.Base (head ++ '[' :: tail) v ∧ v.isMutable = isMutable := by
  have hhead : Trailed (trim head) head := (padded_trim head).trailed htight.first
  cases htail : dropBack? [']'] tail with
  | none =>
      rw [ValueType.readBracketed, htail] at hread
      cases hread
  | some inner =>
      rw [dropBack?_eq_some htail] at hread ⊢
      rw [← List.cons_append, ← List.append_assoc]
      by_cases hkeyword : trim head = "bytes".toList
      · obtain ⟨size, hsize, rfl⟩ := (readBracketed_bytes_iff hkeyword).1 hread
        exact ⟨.bytes isMutable (hkeyword ▸ hhead) (padded_trim inner) hsize, rfl⟩
      · obtain ⟨t, helem, length, ⟨tokens, htokens, hlength⟩, rfl⟩ :=
          (readBracketed_buffer_iff hkeyword).1 hread
        exact ⟨.buffer isMutable (helem.named (tight_trim head)) hhead htokens hlength, rfl⟩

theorem base_of_readBase (htight : Tight body)
    (hread : ValueType.readBase whole body isMutable = .ok v) :
    accepted.Base body v ∧ v.isMutable = isMutable := by
  rw [ValueType.readBase] at hread
  split at hread
  · next hcstr =>
    cases hread
    exact ⟨hcstr ▸ .cstring isMutable, rfl⟩
  split at hread
  · next rest hrest =>
    cases dropFront?_eq_some hrest
    split at hread
    · cases hread
    · next hvalue =>
      rw [Bool.not_eq_true] at hvalue
      rw [hvalue]
      exact base_of_readAggregate htight hread
  split at hread
  · next elem hstar =>
    cases dropBack?_eq_some hstar
    obtain ⟨t, helem, hread⟩ := bind_eq_ok_iff.1 hread
    cases hread
    obtain ⟨name, hname, hpadded⟩ := ScalarType.read_eq_ok_iff.1 helem
    exact ⟨.single isMutable hname (hpadded.trailed htight.first), rfl⟩
  split at hread
  · next hbracket =>
    have hcut := takeWhile_append_mark hbracket
    rw [← hcut] at htight ⊢
    exact base_of_readBracketed htight hread
  · obtain ⟨t, hname, hread⟩ := bind_eq_ok_iff.1 hread
    split at hread
    · cases hread
    · next hvalue =>
      rw [Bool.not_eq_true] at hvalue
      cases hread
      exact ⟨.scalar ((ScalarType.read_eq_ok_iff.1 hname).named htight), hvalue.symm⟩

end Sound

section Marked

variable {head base cs : List Char} {v : ValueType}

/-- No mark of mutability is taken off a type. -/
theorem dropFront?_mark (hopening : Opening base) : dropFront? "mut ".toList base = none := by
  obtain ⟨c, rest, rfl, _, hc⟩ := hopening
  apply dropFront?_eq_none
  rintro ⟨behind, hbehind⟩
  exact hc (List.cons.inj hbehind).1.symm

theorem Opening.isEmpty_eq (hopening : Opening base) : base.isEmpty = false := by
  obtain ⟨c, rest, rfl, _⟩ := hopening
  rfl

theorem Base.tight_marked (hbase : accepted.Base base v) (hhead : Trailed "mut ".toList head) :
    Tight (head ++ base) := by
  obtain ⟨gap, _, rfl⟩ := hhead
  refine ⟨?_, ?_⟩
  · intro c hc
    rw [← Option.some.inj hc]
    decide
  · intro c hc
    obtain ⟨d, rest, hopens, _⟩ := hbase.opening
    rw [hopens, List.getLast?_append_cons, ← hopens] at hc
    exact hbase.tight.last c hc

theorem read_unmarked (hbase : accepted.Base base v) (hmutable : v.isMutable = false)
    (hcs : Padded base cs) : ValueType.read cs = .ok v := by
  have htrim : trim cs = base := hcs.trim_eq.trans hbase.tight.trim_eq
  simp only [ValueType.read, htrim, hbase.opening.isEmpty_eq, dropFront?_mark hbase.opening,
    Bool.false_eq_true, if_false]
  exact hmutable ▸ readBase_of_base hbase

theorem read_marked (hbase : accepted.Base base v) (hmutable : v.isMutable = true)
    (hhead : Trailed "mut ".toList head) (hcs : Padded (head ++ base) cs) :
    ValueType.read cs = .ok v := by
  have htrim : trim cs = head ++ base := hcs.trim_eq.trans (hbase.tight_marked hhead).trim_eq
  obtain ⟨gap, hgap, rfl⟩ := hhead
  have hbehind : trim (gap ++ base) = base := by
    rw [(hgap.padded base).trim_eq, hbase.tight.trim_eq]
  have hsome : ("mut ".toList ++ (gap ++ base)).isEmpty = false := rfl
  rw [List.append_assoc] at htrim
  simp only [ValueType.read, htrim, hsome, dropFront?_append, hbehind, Bool.false_eq_true,
    if_false]
  exact hmutable ▸ readBase_of_base hbase

theorem writes_of_read (hread : ValueType.read cs = .ok v) : accepted.Writes cs v := by
  simp only [ValueType.read] at hread
  split at hread
  · cases hread
  split at hread
  · next rest hmark =>
    have hwhole := dropFront?_eq_some hmark
    have hlast := (tight_trim cs).last
    rw [hwhole] at hlast
    obtain ⟨gap, hgap, hrest⟩ := (padded_trim rest).exists_leading hlast
    obtain ⟨hbase, hmutable⟩ := base_of_readBase (tight_trim rest) hread
    refine .marked hbase hmutable ⟨gap, hgap, rfl⟩ ?_
    rw [List.append_assoc, ← hrest, ← hwhole]
    exact padded_trim cs
  · obtain ⟨hbase, hmutable⟩ := base_of_readBase (tight_trim cs) hread
    exact .unmarked hbase hmutable (padded_trim cs)

/-- The reader accepts exactly this grammar. -/
theorem read_eq_ok_iff : ValueType.read cs = .ok v ↔ accepted.Writes cs v := by
  refine ⟨writes_of_read, fun hwrites => ?_⟩
  cases hwrites with
  | unmarked hbase hmutable hcs => exact read_unmarked hbase hmutable hcs
  | marked hbase hmutable hhead hcs => exact read_marked hbase hmutable hhead hcs

end Marked

section Documented

variable {head body cs cs' : List Char} {v : ValueType}

/-- A structure has as many fields as there are positions between commas, and a size is told
without a sign. -/
structure Plain (cs : List Char) (v : ValueType) : Prop where
  positions : ∀ fields, v = .aggregate fields → fields.length = cs.count ',' + 1
  unsigned : ∀ size isMutable, v = .bytes size isMutable → '+' ∉ cs

theorem plain_congr (hcount : cs.count ',' = cs'.count ',') (hplus : '+' ∈ cs ↔ '+' ∈ cs') :
    Plain cs v ↔ Plain cs' v := by
  constructor
  · rintro ⟨hpositions, hunsigned⟩
    exact ⟨hcount ▸ hpositions, by rwa [← hplus]⟩
  · rintro ⟨hpositions, hunsigned⟩
    exact ⟨hcount ▸ hpositions, by rwa [hplus]⟩

theorem plain_of_ne (hfields : ∀ fields, v ≠ .aggregate fields)
    (hbytes : ∀ size isMutable, v ≠ .bytes size isMutable) : Plain cs v where
  positions fields hv := absurd hv (hfields fields)
  unsigned size isMutable hv := absurd hv (hbytes size isMutable)

/-- The positions of a structure are counted by the commas. -/
theorem plain_aggregate_iff {positions : List (List Char)} {fields : List ScalarType}
    (hhead : Trailed "struct".toList head) (hne : positions ≠ [])
    (hskipping : Skipping positions fields) :
    Plain (head ++ '\x7b' :: join [','] positions ++ ['\x7d']) (.aggregate fields) ↔
      fields.length = positions.length := by
  have hcommas : ∀ position ∈ positions, ',' ∉ position :=
    hskipping.notMem (by decide) (by decide)
  have hcount : (head ++ '\x7b' :: join [','] positions ++ ['\x7d']).count ',' + 1 =
      positions.length := by
    have hnone : head.count ',' = 0 := hhead.padded.count_eq (by decide)
    rw [← count_join hne hcommas]
    simp [hnone]
  rw [← hcount]
  constructor
  · exact fun hplain => hplain.positions fields rfl
  · intro hlength
    refine ⟨?_, nofun⟩
    intro other hother
    cases hother
    exact hlength

/-- A size without a sign is a run of digits. -/
theorem plain_bytes_iff {inner digits : List Char} {size : Nat} {isMutable : Bool}
    (hhead : Trailed "bytes".toList head) (hinner : Padded digits inner)
    (hsize : accepted.Size digits size) :
    Plain (head ++ '[' :: inner ++ [']']) (.bytes size isMutable) ↔
      LengthToken.Denotes digits (.number size) := by
  have hplus : '+' ∈ head ++ '[' :: inner ++ [']'] ↔ '+' ∈ digits := by
    have hnone : '+' ∉ head := by
      rw [hhead.padded.mem_iff (by decide)]
      decide
    rw [← hinner.mem_iff (by decide)]
    simp [hnone]
  constructor
  · intro hplain
    obtain ⟨run, rfl | rfl, hdenotes⟩ := hsize
    · exact hdenotes
    · exact absurd (hplus.2 List.mem_cons_self) (hplain.unsigned size isMutable rfl)
  · intro hdenotes
    refine ⟨nofun, fun _ _ _ hmem => ?_⟩
    exact notMem_of_denotes_number hdenotes (by decide) (hplus.1 hmem)

theorem documented_base_iff : documented.Base body v ↔ accepted.Base body v ∧ Plain body v := by
  constructor
  · intro hbase
    cases hbase with
    | scalar hname => exact ⟨.scalar hname, plain_of_ne nofun nofun⟩
    | single isMutable hname hhead =>
        exact ⟨.single isMutable hname hhead, plain_of_ne nofun nofun⟩
    | buffer isMutable hname hhead htokens hlength =>
        exact ⟨.buffer isMutable hname hhead htokens hlength, plain_of_ne nofun nofun⟩
    | cstring isMutable => exact ⟨.cstring isMutable, plain_of_ne nofun nofun⟩
    | bytes isMutable hhead hinner hsize =>
        have haccepted : accepted.Size _ _ := ⟨_, .inl rfl, hsize⟩
        exact ⟨.bytes isMutable hhead hinner haccepted,
          (plain_bytes_iff hhead hinner haccepted).2 hsize⟩
    | @aggregate head positions fields hhead hne hfields =>
        obtain ⟨hskipping, hlength⟩ := skipping_length_iff.2 hfields
        have hsome : fields ≠ [] := by
          rwa [← List.length_pos_iff_ne_nil, hlength, List.length_pos_iff_ne_nil]
        exact ⟨.aggregate hhead hne ⟨hsome, hskipping⟩,
          (plain_aggregate_iff hhead hne hskipping).2 hlength⟩
  · rintro ⟨hbase, hplain⟩
    cases hbase with
    | scalar hname => exact .scalar hname
    | single isMutable hname hhead => exact .single isMutable hname hhead
    | buffer isMutable hname hhead htokens hlength =>
        exact .buffer isMutable hname hhead htokens hlength
    | cstring isMutable => exact .cstring isMutable
    | bytes isMutable hhead hinner hsize =>
        exact .bytes isMutable hhead hinner ((plain_bytes_iff hhead hinner hsize).1 hplain)
    | aggregate hhead hne hfields =>
        have hlength := (plain_aggregate_iff hhead hne hfields.2).1 hplain
        exact .aggregate hhead hne (skipping_length_iff.1 ⟨hfields.2, hlength⟩)

/-- Neither blanks nor the mark of mutability hold a comma or a plus sign. -/
theorem plain_marked_iff (hhead : Trailed "mut ".toList head) :
    Plain (head ++ body) v ↔ Plain body v := by
  have hcommas : head.count ',' = 0 := hhead.padded.count_eq (by decide)
  have hsigns : '+' ∉ head := by
    rw [hhead.padded.mem_iff (by decide)]
    decide
  apply plain_congr
  · rw [List.count_append, hcommas, Nat.zero_add]
  · rw [List.mem_append, or_iff_right hsigns]

theorem plain_padded_iff (hpadded : Padded body cs) : Plain cs v ↔ Plain body v :=
  plain_congr (hpadded.count_eq (by decide)) (hpadded.mem_iff (by decide))

/-- Among the accepted texts, those of the documented grammar are the plain ones. -/
theorem documented_writes_iff :
    documented.Writes cs v ↔ accepted.Writes cs v ∧ Plain cs v := by
  constructor
  · intro hwrites
    cases hwrites with
    | unmarked hbase hmutable hcs =>
        obtain ⟨haccepted, hplain⟩ := documented_base_iff.1 hbase
        exact ⟨.unmarked haccepted hmutable hcs, (plain_padded_iff hcs).2 hplain⟩
    | marked hbase hmutable hhead hcs =>
        obtain ⟨haccepted, hplain⟩ := documented_base_iff.1 hbase
        refine ⟨.marked haccepted hmutable hhead hcs, ?_⟩
        rwa [plain_padded_iff hcs, plain_marked_iff hhead]
  · rintro ⟨hwrites, hplain⟩
    cases hwrites with
    | unmarked hbase hmutable hcs =>
        rw [plain_padded_iff hcs] at hplain
        exact .unmarked (documented_base_iff.2 ⟨hbase, hplain⟩) hmutable hcs
    | marked hbase hmutable hhead hcs =>
        rw [plain_padded_iff hcs, plain_marked_iff hhead] at hplain
        exact .marked (documented_base_iff.2 ⟨hbase, hplain⟩) hmutable hhead hcs

/-- A text stands for one type at most. -/
theorem writes_unique {w : ValueType} (hv : accepted.Writes cs v) (hw : accepted.Writes cs w) :
    v = w :=
  Except.ok.inj ((read_eq_ok_iff.2 hv).symm.trans (read_eq_ok_iff.2 hw))

/-- The reader answers with a type exactly if the text stands for it in the accepted grammar, and
leaves the documented grammar with a structure that has a blank position or a size that has a
sign, and with nothing else. -/
theorem read_exact (cs : List Char) (v : ValueType) :
    (ValueType.read cs = .ok v ↔ accepted.Writes cs v) ∧
      (documented.Writes cs v ↔ ValueType.read cs = .ok v ∧ Plain cs v) := by
  rw [documented_writes_iff, read_eq_ok_iff]
  exact ⟨Iff.rfl, Iff.rfl⟩

/-- A position without a name is dropped, and the plus sign of a size is passed over. -/
theorem read_not_documented :
    (ValueType.read "struct\x7bint4,,int4\x7d".toList =
        .ok (.aggregate [.int .w4 true, .int .w4 true]) ∧
      ∀ v, ¬ documented.Writes "struct\x7bint4,,int4\x7d".toList v) ∧
    (ValueType.read "bytes[+5]".toList = .ok (.bytes 5 false) ∧
      ∀ v, ¬ documented.Writes "bytes[+5]".toList v) := by
  have hfields : ValueType.read "struct\x7bint4,,int4\x7d".toList =
      .ok (.aggregate [.int .w4 true, .int .w4 true]) := by decide +kernel
  have hsize : ValueType.read "bytes[+5]".toList = .ok (.bytes 5 false) := by decide +kernel
  refine ⟨⟨hfields, fun v hwrites => ?_⟩, ⟨hsize, fun v hwrites => ?_⟩⟩
  · obtain ⟨haccepted, hplain⟩ := documented_writes_iff.1 hwrites
    cases (read_eq_ok_iff.2 haccepted).symm.trans hfields
    exact absurd (hplain.positions _ rfl) (by decide)
  · obtain ⟨haccepted, hplain⟩ := documented_writes_iff.1 hwrites
    cases (read_eq_ok_iff.2 haccepted).symm.trans hsize
    exact hplain.unsigned _ _ rfl (by decide)

end Documented

end TypeGrammar

end Counterpart
