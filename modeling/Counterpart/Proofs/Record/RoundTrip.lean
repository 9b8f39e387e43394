/-
Records read back from their JSON forms.  A value is stored in a node if the node can be written
and the value is read from it; every type is stored because the types of its parts are, and what
is stored comes back from the text.
-/
import Counterpart.Proofs.Forall
import Counterpart.Proofs.History.Row
import Counterpart.Proofs.Json.RoundTrip
import Counterpart.Record.Run
import Mathlib.Data.List.Nodup

namespace Counterpart

namespace Json

theorem Writable.tagged {depth : Nat} {value : Json} (hvalue : value.Writable depth)
    (name : String) : (tagged name value).Writable (depth + 1) :=
  .object (List.forall_mem_singleton.2 hvalue)

theorem choice?_tagged (name : String) (value : Json) :
    (tagged name value).choice? = some (name, some value) := rfl

/-- The members of an object are found by their names if no name occurs twice. -/
theorem exists_slots? (names : List String) {members : List (String × Json)}
    (hnodup : (members.map (·.1)).Nodup) :
    ∃ slot, Document.slots? names (object members) = some slot ∧
      (∀ m ∈ members, slot m.1 = .given m.2) ∧
      ∀ name ∉ members.map (·.1), slot name = .absent := by
  have hcount : (names.all fun name => (members.countP (·.1 == name)) ≤ 1) = true := by
    rw [List.all_eq_true]
    intro name _
    have hname := List.nodup_iff_count_le_one.1 hnodup name
    rw [List.count, List.countP_map] at hname
    exact decide_eq_true hname
  refine ⟨_, if_pos hcount, ?_, ?_⟩
  · intro m hm
    simp only [find?_of_nodup_map hnodup hm]
  · intro name hname
    have hnone : members.find? (·.1 == name) = none := by
      rw [List.find?_eq_none]
      intro m hm heq
      exact hname (beq_iff_eq.1 heq ▸ List.mem_map_of_mem hm)
    simp only [hnone]

theorem itemsReadable_of_forall {items : List Json}
    (hitems : ∀ item ∈ items, item.isReadable = true) : itemsReadable items = true := by
  induction items with
  | nil => rfl
  | cons item items ih =>
      obtain ⟨hitem, hitems⟩ := List.forall_mem_cons.1 hitems
      rw [itemsReadable, hitem, ih hitems, Bool.and_self]

theorem membersReadable_of_forall {members : List (String × Json)}
    (hmembers : ∀ m ∈ members, m.2.isReadable = true) : membersReadable members = true := by
  induction members with
  | nil => rfl
  | cons m members ih =>
      obtain ⟨hvalue, hmembers⟩ := List.forall_mem_cons.1 hmembers
      rw [membersReadable, hvalue, ih hmembers, Bool.and_self]

theorem Writable.isReadable {depth : Nat} {j : Json} (hj : j.Writable depth) :
    j.isReadable = true := by
  induction hj with
  | null | bool _ | int _ _ | string _ => rfl
  | array _ ih => exact itemsReadable_of_forall ih
  | object _ ih => exact membersReadable_of_forall ih

variable {α : Type}

/-- The node can be written inside `depth` others, and the value is read from it. -/
structure Stores (depth : Nat) (read? : Json → Option α) (node : Json) (x : α) : Prop where
  writable : node.Writable depth
  read : read? node = some x

/-- What is stored within the depth that is read comes back from the text. -/
theorem Stores.read_compact {read? : Json → Option α} {node : Json} {x : α}
    (hstores : Stores depthLimit read? node x) :
    (Json.read? node.compact).bind read? = some x := by
  rw [hstores.writable.read?_compact, Option.bind_some, hstores.read]

/-- A record is read from an object if it is read from the places of its members. -/
theorem read_object (names : List String) {members : List (String × Json)}
    {fill? : (String → Slot Json) → Option α} {x : α} (hnodup : (members.map (·.1)).Nodup)
    (hfill : ∀ slot : String → Slot Json, (∀ m ∈ members, slot m.1 = .given m.2) →
      (∀ name ∉ members.map (·.1), slot name = .absent) → fill? slot = some x) :
    (Document.slots? names (object members)).bind fill? = some x := by
  obtain ⟨slot, hslots, hgiven, habsent⟩ := exists_slots? names hnodup
  rw [hslots, Option.bind_some, hfill slot hgiven habsent]

theorem stores_text (depth : Nat) (s : String) : Stores depth Document.text? (.string s) s :=
  ⟨.string s, rfl⟩

theorem stores_bool (depth : Nat) (b : Bool) : Stores depth Document.bool? (.bool b) b :=
  ⟨.bool b, rfl⟩

theorem stores_nat (depth : Nat) {n : Nat} (hn : n < 2 ^ 64) :
    Stores depth Document.nat? (.nat n) n where
  writable := .int (by omega) (by omega)
  read := if_pos ⟨by omega, by omega⟩

theorem stores_int (depth : Nat) {i : Int} (hlow : -(2 ^ 63) ≤ i) (hhigh : i < 2 ^ 63) :
    Stores depth Document.int? (.int i) i where
  writable := .int hlow (by omega)
  read := if_pos ⟨hlow, hhigh⟩

theorem stores_int32 (depth : Nat) {i : Int} (hlow : -(2 ^ 31) ≤ i) (hhigh : i < 2 ^ 31) :
    Stores depth Document.int32? (.int i) i := by
  have hwide := stores_int depth (by omega : -(2 ^ 63) ≤ i) (by omega)
  refine ⟨hwide.writable, ?_⟩
  rw [Document.int32?, hwide.read, Option.filter_some, if_pos (decide_eq_true ⟨hlow, hhigh⟩)]

/-- A list is stored if each of its items is. -/
theorem stores_list {depth : Nat} {read? : Json → Option α} {write : α → Json} {items : List α}
    (hitems : ∀ x ∈ items, Stores depth read? (write x) x) :
    Stores (depth + 1) (Document.list? read?) (list write items) items where
  writable := .array (List.forall_mem_map.2 fun x hx => (hitems x hx).writable)
  read := by
    change (items.map write).mapM read? = some items
    induction items with
    | nil => rfl
    | cons x items ih =>
        obtain ⟨hx, hitems⟩ := List.forall_mem_cons.1 hitems
        rw [List.map_cons, List.mapM_cons, hx.read, ih hitems]
        rfl

theorem stores_byte (depth : Nat) (b : UInt8) : Stores depth Document.byte? (.nat b.toNat) b := by
  have hb : b.toNat < 256 := b.toNat_lt
  have hnat := stores_nat depth (by omega : b.toNat < 2 ^ 64)
  refine ⟨hnat.writable, ?_⟩
  rw [Document.byte?, Document.natBelow?, hnat.read, Option.filter_some,
    if_pos (decide_eq_true hb), Option.map_some, UInt8.ofNat_toNat]

theorem stores_bytes (depth : Nat) (content : Bytes) :
    Stores (depth + 1) Document.bytes? (.bytes content) content :=
  stores_list fun b _ => stores_byte depth b

/-- A text that may be missing is read where a record holds it. -/
theorem stores_optionalText (depth : Nat) (s : Option String) :
    Stores depth (fun node => (Slot.given node).optional Document.text?) (.optional .string s)
      s := by
  cases s with
  | none => exact ⟨.null, rfl⟩
  | some s => exact ⟨.string s, rfl⟩

end Json

open Json

theorem Width.stores (depth : Nat) (w : Width) : Stores depth ofJson? w.toJson w := by
  refine ⟨.string _, ?_⟩
  cases w <;> rfl

theorem ScalarType.stores (depth : Nat) (ty : ScalarType) :
    Stores (depth + 2) ofJson? ty.toJson ty := by
  cases ty with
  | int width signed =>
      have hwidth := width.stores depth
      have hsigned := stores_bool depth signed
      refine ⟨.tagged (.object ?_) _, ?_⟩
      · simp [hwidth.writable, hsigned.writable]
      · rw [toJson, ofJson?, choice?_tagged]
        refine read_object _ (by simp) ?_
        intro slot hgiven _
        simp only [List.forall_mem_cons] at hgiven
        simp [hgiven, Slot.required, hwidth.read, hsigned.read]
  | f32 => exact ⟨.string _, rfl⟩
  | f64 => exact ⟨.string _, rfl⟩

theorem ScalarValue.stores (depth : Nat) (v : ScalarValue) :
    Stores (depth + 3) ofJson? v.toJson v := by
  have hty := v.ty.stores depth
  have hbits := stores_nat (depth + 2) v.bits.isLt
  refine ⟨.object (by simp [hty.writable, hbits.writable]), ?_⟩
  rw [toJson, ofJson?]
  refine read_object _ (by simp) ?_
  intro slot hgiven _
  simp only [List.forall_mem_cons] at hgiven
  simp [hgiven, Slot.required, hty.read, hbits.read]

theorem ArgValue.stores (depth : Nat) (v : ArgValue) :
    Stores (depth + 5) ofJson? v.toJson v := by
  cases v with
  | scalar v =>
      have hv := v.stores (depth + 1)
      refine ⟨hv.writable.tagged _, ?_⟩
      rw [toJson, ofJson?, choice?_tagged]
      simp [hv.read]
  | buffer elem content =>
      have helem := elem.stores (depth + 1)
      have hcontent := stores_bytes (depth + 2) content
      refine ⟨.tagged (.object ?_) _, ?_⟩
      · simp [helem.writable, hcontent.writable]
      · rw [toJson, ofJson?, choice?_tagged]
        refine read_object _ (by simp) ?_
        intro slot hgiven _
        simp only [List.forall_mem_cons] at hgiven
        simp [hgiven, Slot.required, helem.read, hcontent.read]
  | cstring content =>
      have hcontent := stores_bytes (depth + 3) content
      exact ⟨hcontent.writable.tagged _, by simp [ofJson?, toJson, choice?_tagged, hcontent.read]⟩
  | bytes content =>
      have hcontent := stores_bytes (depth + 3) content
      exact ⟨hcontent.writable.tagged _, by simp [ofJson?, toJson, choice?_tagged, hcontent.read]⟩
  | aggregate fields =>
      have hfields := stores_list fun v (_ : v ∈ fields) => v.stores depth
      exact ⟨hfields.writable.tagged _, by simp [ofJson?, toJson, choice?_tagged, hfields.read]⟩
  | null => exact ⟨.string _, rfl⟩

theorem Provenance.stores (depth : Nat) (p : Provenance) : Stores depth ofJson? p.toJson p :=
  ⟨.string _, p.ofLabel?_label⟩

/-- The index is a number of sixty-four bits. -/
structure ArgumentSet.Fits (set : ArgumentSet) : Prop where
  index : set.index < 2 ^ 64

theorem ArgumentSet.Fits.stores {set : ArgumentSet} (hset : set.Fits) (depth : Nat) :
    Stores (depth + 7) ofJson? set.toJson set := by
  have hindex := stores_nat (depth + 6) hset.index
  have hprovenance := set.provenance.stores (depth + 6)
  have hvalues := stores_list fun v (_ : v ∈ set.values) => v.stores depth
  refine ⟨.object ?_, ?_⟩
  · simp [hindex.writable, hprovenance.writable, hvalues.writable]
  · rw [toJson, ofJson?]
    refine read_object _ (by simp) ?_
    intro slot hgiven _
    simp only [List.forall_mem_cons] at hgiven
    simp [hgiven, Slot.required, hindex.read, hprovenance.read, hvalues.read]

/-- The numbers of a range fit sixty-four bits. -/
structure ByteRange.Fits (r : ByteRange) : Prop where
  offset : r.offset < 2 ^ 64
  length : r.length < 2 ^ 64

theorem ByteRange.Fits.stores {r : ByteRange} (hr : r.Fits) (depth : Nat) :
    Stores (depth + 1) ofNode? r.toJson r := by
  have hoffset := stores_nat depth hr.offset
  have hlength := stores_nat depth hr.length
  refine ⟨.object (by simp [hoffset.writable, hlength.writable]), ?_⟩
  rw [toJson, ofNode?]
  refine read_object _ (by simp) ?_
  intro slot hgiven _
  simp only [List.forall_mem_cons] at hgiven
  simp [hgiven, Slot.required, hoffset.read, hlength.read]

/-- The numbers of a target fit sixty-four bits. -/
def PointerTarget.Fits : PointerTarget → Prop
  | param index offset => index < 2 ^ 64 ∧ offset < 2 ^ 64
  | null | foreign => True

theorem PointerTarget.Fits.stores {target : PointerTarget} (htarget : target.Fits) (depth : Nat) :
    Stores (depth + 2) ofJson? target.toJson target := by
  cases target with
  | null => exact ⟨.string _, rfl⟩
  | param index offset =>
      have hindex := stores_nat depth htarget.1
      have hoffset := stores_nat depth htarget.2
      refine ⟨.tagged (.object ?_) _, ?_⟩
      · simp [hindex.writable, hoffset.writable]
      · rw [toJson, ofJson?, choice?_tagged]
        refine read_object _ (by simp) ?_
        intro slot hgiven _
        simp only [List.forall_mem_cons] at hgiven
        simp [hgiven, Slot.required, hindex.read, hoffset.read]
  | foreign => exact ⟨.string _, rfl⟩

/-- The numbers of a result fit sixty-four bits. -/
def ReturnValue.InRange : ReturnValue → Prop
  | pointer target => target.Fits
  | void | scalar _ | str _ => True

theorem ReturnValue.InRange.stores {ret : ReturnValue} (hret : ret.InRange) (depth : Nat) :
    Stores (depth + 4) ofJson? ret.toJson ret := by
  cases ret with
  | void => exact ⟨.string _, rfl⟩
  | scalar v =>
      have hv := v.stores depth
      exact ⟨hv.writable.tagged _, by simp [ofJson?, toJson, choice?_tagged, hv.read]⟩
  | pointer target =>
      have htarget := PointerTarget.Fits.stores hret (depth + 1)
      exact ⟨htarget.writable.tagged _, by simp [ofJson?, toJson, choice?_tagged, htarget.read]⟩
  | str content =>
      cases content with
      | none => exact ⟨.tagged .null _, rfl⟩
      | some content =>
          have hcontent := stores_bytes (depth + 2) content
          refine ⟨hcontent.writable.tagged _, ?_⟩
          have hthere : Document.isNothing (Json.bytes content) = false := rfl
          simp [ofJson?, toJson, choice?_tagged, Json.optional, hthere, hcontent.read]

/-- The numbers of a snapshot fit sixty-four bits. -/
structure Snapshot.Fits (s : Snapshot) : Prop where
  param : s.param < 2 ^ 64
  logicalLen : s.logicalLen < 2 ^ 64
  ignore : ∀ r ∈ s.ignore, r.Fits

theorem Snapshot.Fits.stores {s : Snapshot} (hs : s.Fits) (depth : Nat) :
    Stores (depth + 3) ofJson? s.toJson s := by
  have hparam := stores_nat (depth + 2) hs.param
  have hname := stores_text (depth + 2) s.name
  have hlength := stores_nat (depth + 2) hs.logicalLen
  have hbefore := stores_bytes (depth + 1) s.before
  have hafter := stores_bytes (depth + 1) s.after
  have hignore := stores_list fun r hr => (hs.ignore r hr).stores depth
  refine ⟨.object ?_, ?_⟩
  · simp [hparam.writable, hname.writable, hlength.writable, hbefore.writable, hafter.writable,
      hignore.writable]
  · rw [toJson, ofJson?]
    refine read_object _ (by simp) ?_
    intro slot hgiven _
    simp only [List.forall_mem_cons] at hgiven
    simp [hgiven, Slot.required, hparam.read, hname.read, hlength.read, hbefore.read, hafter.read,
      hignore.read]

/-- The number of a fault fits thirty-two bits with a sign. -/
def Fault.Fits : Fault → Prop
  | signal n | exit n => -(2 ^ 31) ≤ n ∧ n < 2 ^ 31
  | timeout | garbled _ => True

theorem Fault.Fits.stores {fault : Fault} (hfault : fault.Fits) (depth : Nat) :
    Stores (depth + 1) ofJson? fault.toJson fault := by
  cases fault with
  | signal n =>
      have hn := stores_int32 depth hfault.1 hfault.2
      exact ⟨hn.writable.tagged _, by simp [ofJson?, toJson, choice?_tagged, hn.read]⟩
  | exit n =>
      have hn := stores_int32 depth hfault.1 hfault.2
      exact ⟨hn.writable.tagged _, by simp [ofJson?, toJson, choice?_tagged, hn.read]⟩
  | timeout => exact ⟨.string _, rfl⟩
  | garbled reason =>
      have hreason := stores_text depth reason
      exact ⟨hreason.writable.tagged _, by simp [ofJson?, toJson, choice?_tagged, hreason.read]⟩

/-- The numbers of an execution fit their widths. -/
def Execution.Fits : Execution → Prop
  | completed ret snapshots => ret.InRange ∧ ∀ s ∈ snapshots, s.Fits
  | faulted fault => fault.Fits

theorem Execution.Fits.stores {e : Execution} (he : e.Fits) (depth : Nat) :
    Stores (depth + 6) ofJson? e.toJson e := by
  cases e with
  | completed ret snapshots =>
      have hret := ReturnValue.InRange.stores he.1 depth
      have hsnapshots := stores_list fun s hs => (he.2 s hs).stores depth
      refine ⟨.tagged (.object ?_) _, ?_⟩
      · simp [hret.writable, hsnapshots.writable]
      · rw [toJson, ofJson?, choice?_tagged]
        refine read_object _ (by simp) ?_
        intro slot hgiven _
        simp only [List.forall_mem_cons] at hgiven
        simp [hgiven, Slot.required, hret.read, hsnapshots.read]
  | faulted fault =>
      have hfault := Fault.Fits.stores he (depth + 4)
      exact ⟨hfault.writable.tagged _, by simp [ofJson?, toJson, choice?_tagged, hfault.read]⟩

theorem Category.stores (depth : Nat) (c : Category) : Stores depth ofNode? c.toJson c :=
  ⟨.string _, c.ofLabel?_label⟩

theorem Verdict.stores (depth : Nat) (v : Verdict) : Stores depth ofJson? v.toJson v :=
  ⟨.string _, v.ofLabel?_label⟩

/-- The index of an entry is a number of sixty-four bits. -/
structure VerdictEntry.Fits (e : VerdictEntry) : Prop where
  setIndex : e.setIndex < 2 ^ 64

theorem VerdictEntry.Fits.stores {e : VerdictEntry} (he : e.Fits) (depth : Nat) :
    Stores (depth + 1) ofJson? e.toJson e := by
  have hcase := stores_text depth e.case
  have hcategory := e.category.stores depth
  have hsetIndex := stores_nat depth he.setIndex
  have hprovenance := e.provenance.stores depth
  have hverdict := e.verdict.stores depth
  have harguments := stores_text depth e.arguments
  obtain ⟨case, category, setIndex, provenance, verdict, detail, arguments⟩ := e
  refine ⟨.object ?_, ?_⟩
  · cases detail <;>
      simp [memberIf, hcase.writable, hcategory.writable, hsetIndex.writable,
        hprovenance.writable, hverdict.writable, harguments.writable, Writable.string]
  · rw [toJson, ofJson?]
    refine read_object _ (by cases detail <;> simp [memberIf]) ?_
    intro slot hgiven habsent
    have hdetail : (slot "detail").optionalOrAbsent Document.text? = some detail := by
      cases detail with
      | none =>
          rw [habsent "detail" (by simp [memberIf])]
          rfl
      | some detail =>
          rw [hgiven ("detail", .string detail) (by simp [memberIf])]
          rfl
    simp only [List.forall_mem_append, List.forall_mem_cons] at hgiven
    simp [hgiven, hdetail, Slot.required, hcase.read, hcategory.read, hsetIndex.read,
      hprovenance.read, hverdict.read, harguments.read]

theorem RunRecord.Fits.writable_members {r : RunRecord} (hr : r.Fits) (depth : Nat) :
    ∀ m ∈ r.members, m.2.Writable depth := by
  have hseed := stores_nat depth hr.seed
  have hcount := stores_nat depth hr.count
  have hdir := stores_optionalText depth r.decompiledDir
  have htoolchain := stores_optionalText depth r.toolchain
  have htotal := stores_nat depth hr.total
  have hpassed := stores_nat depth hr.passed
  simp [members, hseed.writable, hcount.writable, hdir.writable, htoolchain.writable,
    htotal.writable, hpassed.writable, Writable.string]

/-- A record is read from the places of its fields, whatever stands beside them. -/
theorem RunRecord.Fits.ofSlots?_eq {r : RunRecord} (hr : r.Fits) {slot : String → Slot Json}
    (hgiven : ∀ m ∈ r.members, slot m.1 = .given m.2) : ofSlots? slot = some r := by
  have htext := fun s => (stores_text 0 s).read
  have hseed := (stores_nat 0 hr.seed).read
  have hcount := (stores_nat 0 hr.count).read
  have hdir := (stores_optionalText 0 r.decompiledDir).read
  have htoolchain := (stores_optionalText 0 r.toolchain).read
  have htotal := (stores_nat 0 hr.total).read
  have hpassed := (stores_nat 0 hr.passed).read
  simp only [members, List.forall_mem_cons] at hgiven
  simp [ofSlots?, hgiven, Slot.required, htext, hseed, hcount, hdir, htoolchain, htotal, hpassed]

theorem RunRecord.nodup_members (r : RunRecord) : (r.members.map (·.1)).Nodup := by
  simp [members]

theorem RunRecord.Fits.stores {r : RunRecord} (hr : r.Fits) (depth : Nat) :
    Stores (depth + 1) ofJson? r.toJson r := by
  refine ⟨.object (hr.writable_members depth), ?_⟩
  rw [toJson, ofJson?]
  exact read_object _ r.nodup_members fun slot hgiven _ => hr.ofSlots?_eq hgiven

/-- The number of a stored run fits sixty-four bits with a sign. -/
structure StoredRun.Fits (run : StoredRun) : Prop where
  low : -(2 ^ 63) ≤ run.id
  high : run.id < 2 ^ 63
  record : run.record.Fits

theorem StoredRun.Fits.stores {run : StoredRun} (hrun : run.Fits) (depth : Nat) :
    Stores (depth + 1) ofJson? run.toJson run := by
  have hid := stores_int depth hrun.low hrun.high
  have hwritable : run.toJson.Writable (depth + 1) :=
    .object (List.forall_mem_cons.2 ⟨hid.writable, hrun.record.writable_members depth⟩)
  refine ⟨hwritable, ?_⟩
  have hreadable := hwritable.isReadable
  have hnodup : ((("id", Json.int run.id) :: run.record.members).map (·.1)).Nodup := by
    simp [RunRecord.members]
  rw [toJson] at hreadable ⊢
  simp only [ofJson?, hreadable, Bool.not_true, Bool.false_eq_true, if_false]
  refine read_object _ hnodup ?_
  intro slot hgiven _
  obtain ⟨hslot, hmembers⟩ := List.forall_mem_cons.1 hgiven
  simp [hslot, Slot.required, hid.read, hrun.record.ofSlots?_eq hmembers]

/-- Every argument set, execution, verdict, record of a run and stored run whose numbers fit their
widths is read back from its compact text. -/
theorem Json.records_read_back :
    (∀ set : ArgumentSet, set.Fits →
      (Json.read? set.toJson.compact).bind ArgumentSet.ofJson? = some set) ∧
    (∀ e : Execution, e.Fits → (Json.read? e.toJson.compact).bind Execution.ofJson? = some e) ∧
    (∀ e : VerdictEntry, e.Fits →
      (Json.read? e.toJson.compact).bind VerdictEntry.ofJson? = some e) ∧
    (∀ r : RunRecord, r.Fits → (Json.read? r.toJson.compact).bind RunRecord.ofJson? = some r) ∧
    ∀ run : StoredRun, run.Fits →
      (Json.read? run.toJson.compact).bind StoredRun.ofJson? = some run := by
  -- An argument set nests seven deep and an execution six; the others hold no records.
  refine ⟨?_, ?_, ?_, ?_, ?_⟩
  · exact fun set hset => (hset.stores 120).read_compact
  · exact fun e he => (he.stores 121).read_compact
  · exact fun e he => (he.stores 126).read_compact
  · exact fun r hr => (hr.stores 126).read_compact
  · exact fun run hrun => (hrun.stores 126).read_compact

namespace Awkward

/-- Bits outside the type, bytes that are no text, and nothing at all. -/
def arguments : ArgumentSet where
  index := 2 ^ 64 - 1
  provenance := .random
  values := [.scalar ⟨.int .w1 true, BitVec.allOnes 64⟩, .buffer .f32 [0xFF],
    .cstring [0x22, 0x5C, 0x80], .bytes [], .aggregate [⟨.f64, 1⟩], .null]

/-- No text where one is returned, and a name with everything that is escaped. -/
def execution : Execution :=
  .completed (.str none)
    [⟨0, "q\"\\\n\x01\x7f", 2 ^ 64 - 1, [0, 255], [], [⟨2 ^ 64 - 1, 0⟩]⟩]

/-- A detail that is there but holds nothing. -/
def entry : VerdictEntry :=
  ⟨"swap", .pointerAccess, 0, .explicit, .crashMismatch, some "", "#0 explicit (NULL)"⟩

def record : RunRecord :=
  ⟨"", "null", 2 ^ 64 - 1, 0, "corpus", none, some "cc \"13\"", "", 1, 1⟩

def run : StoredRun := ⟨-(2 ^ 63), record⟩

end Awkward

open Awkward in
theorem Json.records_read_back_awkward :
    (arguments.Fits ∧ execution.Fits ∧ entry.Fits ∧ record.Fits ∧ run.Fits) ∧
      (Json.read? arguments.toJson.compact).bind ArgumentSet.ofJson? = some arguments ∧
      (Json.read? execution.toJson.compact).bind Execution.ofJson? = some execution ∧
      (Json.read? entry.toJson.compact).bind VerdictEntry.ofJson? = some entry ∧
      (Json.read? record.toJson.compact).bind RunRecord.ofJson? = some record ∧
      (Json.read? run.toJson.compact).bind StoredRun.ofJson? = some run := by
  obtain ⟨hsets, hexecutions, hentries, hrecords, hruns⟩ := records_read_back
  have harguments : arguments.Fits := ⟨by decide⟩
  have hranges : ∀ r ∈ ([⟨2 ^ 64 - 1, 0⟩] : List ByteRange), r.Fits :=
    List.forall_mem_singleton.2 ⟨by decide, by decide⟩
  have hexecution : execution.Fits :=
    ⟨trivial, List.forall_mem_singleton.2 ⟨by decide, by decide, hranges⟩⟩
  have hentry : entry.Fits := ⟨by decide⟩
  have hrecord : record.Fits := ⟨by decide, by decide, by decide, by decide⟩
  have hrun : run.Fits := ⟨by decide, by decide, hrecord⟩
  exact ⟨⟨harguments, hexecution, hentry, hrecord, hrun⟩, hsets _ harguments,
    hexecutions _ hexecution, hentries _ hentry, hrecords _ hrecord, hruns _ hrun⟩

end Counterpart
