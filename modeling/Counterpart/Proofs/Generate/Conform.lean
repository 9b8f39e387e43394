/-
Every generated set conforms to its signature, whichever kind of row it comes from and
whatever the stream of the random rows.
-/
import Counterpart.Generate.Sets
import Counterpart.Proofs.Generate.Sample
import Counterpart.Proofs.Signature.Valid

namespace Counterpart

namespace Generate

section

variable {config : GeneratorConfig} {sig : Signature} {set : ArgumentSet}
  {sets : List ArgumentSet}

theorem mem_fixedSets {ρ : Type} {provenance : Provenance}
    {build : ρ → Except InputError (List ArgValue)} {count index : Nat} {rows : List ρ}
    (hsets : fixedSets provenance build count index rows = .ok sets) (hset : set ∈ sets) :
    set.provenance = provenance ∧ ∃ row ∈ rows, build row = .ok set.values := by
  induction count generalizing index rows sets with
  | zero =>
      cases hsets
      simp at hset
  | succ count ih =>
      cases rows with
      | nil =>
          cases hsets
          simp at hset
      | cons row rows =>
          obtain ⟨values, hvalues, hsets⟩ := bind_eq_ok_iff.1 hsets
          obtain ⟨rest, hrest, hall⟩ := bind_eq_ok_iff.1 hsets
          cases hall
          rcases List.mem_cons.1 hset with rfl | hset
          · exact ⟨rfl, row, List.mem_cons_self, hvalues⟩
          · obtain ⟨hprovenance, row, hrow, hbuild⟩ := ih hrest hset
            exact ⟨hprovenance, row, List.mem_cons_of_mem _ hrow, hbuild⟩

theorem mem_randomSets {count index : Nat} {stream : Stream}
    (hsets : randomSets config sig count index stream = .ok sets) (hset : set ∈ sets) :
    set.provenance = .random ∧
      ∃ s s', (RandomRow.build config sig).run s = .ok (set.values, s') := by
  induction count generalizing index stream sets with
  | zero =>
      cases hsets
      simp at hset
  | succ count ih =>
      obtain ⟨⟨values, stream'⟩, hvalues, hsets⟩ := bind_eq_ok_iff.1 hsets
      obtain ⟨rest, hrest, hall⟩ := bind_eq_ok_iff.1 hsets
      cases hall
      rcases List.mem_cons.1 hset with rfl | hset
      · exact ⟨rfl, stream, stream', hvalues⟩
      · exact ih hrest hset

/-- Every set is built by a row of one of the three kinds. -/
theorem mem_setsFrom {stream : Stream} {explicit : List (List ExplicitValue)} {count : Nat}
    (hsets : setsFrom stream config sig explicit count = .ok sets) (hset : set ∈ sets) :
    (set.provenance = .boundary ∧ ∃ row : BoundaryRow, row.build config sig = .ok set.values) ∨
    (set.provenance = .explicit ∧
      ∃ i, ∃ row ∈ explicit, ExplicitRow.build i config sig row = .ok set.values) ∨
    (set.provenance = .random ∧
      ∃ s s', (RandomRow.build config sig).run s = .ok (set.values, s')) := by
  obtain ⟨boundary, hboundary, hsets⟩ := bind_eq_ok_iff.1 hsets
  obtain ⟨written, hwritten, hsets⟩ := bind_eq_ok_iff.1 hsets
  obtain ⟨random, hrandom, hall⟩ := bind_eq_ok_iff.1 hsets
  cases hall
  rw [List.mem_append, List.mem_append] at hset
  rcases hset with (hset | hset) | hset
  · obtain ⟨hprovenance, row, _, hbuild⟩ := mem_fixedSets hboundary hset
    exact .inl ⟨hprovenance, row, hbuild⟩
  · obtain ⟨hprovenance, ⟨i, row⟩, hrow, hbuild⟩ := mem_fixedSets hwritten hset
    exact .inr (.inl ⟨hprovenance, i, row, (List.of_mem_zip hrow).2, hbuild⟩)
  · exact .inr (.inr (mem_randomSets hrandom hset))

/-- Whichever the row, every parameter is given a value. -/
theorem given_of_mem_setsFrom {stream : Stream} {explicit : List (List ExplicitValue)}
    {count : Nat} (hsets : setsFrom stream config sig explicit count = .ok sets)
    (hset : set ∈ sets) :
    ∃ dims, List.Forall₂ (Given config set.provenance dims) sig.params set.values := by
  rcases mem_setsFrom hsets hset with
    ⟨hprovenance, row, hbuild⟩ | ⟨hprovenance, i, row, _, hbuild⟩ | ⟨hprovenance, s, s', hbuild⟩
  · obtain ⟨dims, _, hgiven⟩ := BoundaryRow.given_build hbuild
    exact ⟨dims, hprovenance ▸ hgiven⟩
  · exact ⟨_, hprovenance ▸ ExplicitRow.given_build hbuild⟩
  · have hdims : RandomRow.Ensures (fun _ => True) (RandomRow.dims config sig sig.dimensions) :=
      ⟨fun _ _ _ _ => trivial⟩
    obtain ⟨dims, _, hgiven⟩ := (RandomRow.ensures_build hdims).result _ _ _ hbuild
    exact ⟨dims, hprovenance ▸ hgiven⟩

end

end Generate

namespace Given

variable {config : GeneratorConfig} {provenance : Provenance} {dims : Dims} {p : Param}
  {v : ArgValue}

theorem length_flatMap_toBytes {elem : ScalarType} {values : List ScalarValue}
    (hvalues : ∀ v ∈ values, v.IsOf elem) :
    (values.flatMap (·.toBytes)).length = values.length * elem.size := by
  induction values with
  | nil => simp
  | cons v vs ih =>
      have hv := (hvalues v List.mem_cons_self).1
      have hrest := ih fun w hw => hvalues w (List.mem_cons_of_mem _ hw)
      rw [List.flatMap_cons, List.length_append, hrest, ScalarValue.length_toBytes, hv,
        List.length_cons, Nat.succ_mul, Nat.add_comm]

theorem conforms (hnullable : p.nullable = true → p.ty.isPointer = true)
    (hv : Given config provenance dims p v) : v.Conforms config.maxBufferElems p.ty := by
  cases hv with
  | null hnull =>
      rcases hnull with hnull | ⟨_, hpointer⟩
      · exact .null (hnullable hnull)
      · exact .null hpointer
  | dimension hty _ => exact hty ▸ .scalar (ScalarValue.isOf_ofBits _ _)
  | scalar hty _ hv => exact hty ▸ .scalar hv
  | @buffer elem _ _ values hty _ hcap hvalues =>
      have hlength := length_flatMap_toBytes hvalues
      rw [hty]
      apply ArgValue.Conforms.buffer
      · exact ⟨values.length, by rw [hlength, Nat.mul_comm]⟩
      · rwa [hlength, Nat.mul_div_cancel _ elem.size_pos]
  | cstring hty hnul => exact hty ▸ .cstring hnul
  | bytes hty hsize => exact hty ▸ .bytes hsize
  | aggregate hty hfields => exact hty ▸ .aggregate hfields

theorem nullable_of_null (hnull : Given config provenance dims p .null) :
    p.nullable = true ∨ provenance = .explicit := by
  cases hnull with
  | null hnull => exact hnull.imp_right And.left

end Given

namespace Generate

theorem conforms_of_mem_setsFrom {stream : Stream} {config : GeneratorConfig} {sig : Signature}
    {explicit : List (List ExplicitValue)} {count : Nat} {set : ArgumentSet}
    {sets : List ArgumentSet} (hvalid : sig.validate = .ok ())
    (hsets : setsFrom stream config sig explicit count = .ok sets) (hset : set ∈ sets) :
    List.Forall₂ (fun p v => ArgValue.Conforms config.maxBufferElems p.ty v) sig.params
      set.values := by
  obtain ⟨dims, hgiven⟩ := given_of_mem_setsFrom hsets hset
  have hnullable : ∀ p ∈ sig.params, p.nullable = true → p.ty.isPointer = true :=
    fun p hp => Signature.isPointer_of_nullable hvalid hp
  refine ((List.forall₂_and_left _ _).2 ⟨hnullable, hgiven⟩).imp ?_
  rintro p v ⟨hp, hv⟩
  exact hv.conforms hp

/-- The sets generated for a valid signature have one conforming value for each parameter
and are accepted by the encoder.  Null pointers stand only where they may, unless a row was
written by hand. -/
theorem setsFrom_conform (stream : Stream) (config : GeneratorConfig) (sig : Signature)
    (explicit : List (List ExplicitValue)) (count : Nat) (sets : List ArgumentSet)
    (hvalid : sig.validate = .ok ())
    (hsets : setsFrom stream config sig explicit count = .ok sets) :
    ∀ set ∈ sets,
      (∃ text, Exchange.encode sig set.values = .ok text) ∧
      List.Forall₂ (fun p v => ArgValue.Conforms config.maxBufferElems p.ty v ∧
        (v = .null → p.nullable = true ∨ set.provenance = .explicit)) sig.params set.values := by
  intro set hset
  have hconforms := conforms_of_mem_setsFrom hvalid hsets hset
  refine ⟨Exchange.exists_encode hconforms, ?_⟩
  obtain ⟨dims, hgiven⟩ := given_of_mem_setsFrom hsets hset
  refine hconforms.mp ?_ hgiven
  intro p v hv hgiven
  refine ⟨hv, ?_⟩
  rintro rfl
  exact hgiven.nullable_of_null

namespace Assorted

/-- Parameters of every shape. -/
def sig : Signature :=
  ⟨"f",
    [⟨"n", .scalar (.int .w1 false), some ⟨0, 2⟩, false, []⟩,
      ⟨"xs", .buffer (.int .w2 true) (.param "n") true, none, true, []⟩,
      ⟨"name", .cstring false, none, false, []⟩,
      ⟨"raw", .bytes 2 true, none, true, []⟩,
      ⟨"pair", .aggregate [.int .w1 true, .f64], none, false, []⟩],
    .void⟩

def config : GeneratorConfig :=
  { midLen := 2, maxDimension := 2, maxStringLen := 2, maxBufferElems := 2 }

/-- A row with a list that sizes `xs`, and one with nulls. -/
def explicit : List (List ExplicitValue) :=
  [[.int 0, .list [.int (-1)], .text "a", .list [.uint 0, .int 255], .list [.int 1, .int 2]],
    [.int 1, .null, .text "", .null, .list [.int 1, .int 2]]]

/-- A stream of zeros. -/
def stream : Stream := ⟨fun _ => [], 0, []⟩

theorem valid_sig : sig.validate = .ok () := by
  rfl

theorem exists_sets :
    ∃ sets, sets.length = 9 ∧ setsFrom stream config sig explicit 9 = .ok sets := by
  have hlength : (setsFrom stream config sig explicit 9).toOption.map List.length = some 9 := by
    decide +kernel
  obtain ⟨sets, hsets, hnine⟩ := Option.map_eq_some_iff.1 hlength
  exact ⟨sets, hnine, toOption_eq_some_iff.1 hsets⟩

end Assorted

open Assorted in
theorem setsFrom_conform_assorted :
    ∃ sets, sets.length = 9 ∧ setsFrom stream config sig explicit 9 = .ok sets ∧
      ∀ set ∈ sets, ∃ text, Exchange.encode sig set.values = .ok text := by
  obtain ⟨sets, hlength, hsets⟩ := exists_sets
  refine ⟨sets, hlength, hsets, ?_⟩
  intro set hset
  exact (setsFrom_conform stream config sig explicit 9 sets valid_sig hsets set hset).1

end Generate

end Counterpart
