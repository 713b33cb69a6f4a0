/-
Module: ContractEvents.Proofs.InterfaceRoundTrip
Purpose: Every interface entry reads back from its binary form and from its text.
Main exports: SpecType.Sized, SpecEntry.Sized, SpecType.reads_write, SpecEntry.reads_write,
  SpecEntry.ofText_toText
-/
import ContractEvents.Proofs.BinaryReading
import ContractEvents.Spec.Codec

namespace ContractEvents

open Xdr Xdr.Reader

/-!
Every text and every list of an interface has a longest length, and an entry that keeps to them all
reads back from its binary form.  A record is read part by part.  Only types are nested, and a
reader that allows for as many levels as the form has bytes is deep enough for them.
-/

namespace Xdr.Reader

variable {α : Type} {reader : Reader α} {write : α → Bytes} {items : List α} {max bound : Nat}

theorem reads_text {bs : Bytes} (bounded : max ≤ unbounded) (allowed : bs.length ≤ max) :
    Reads (Reader.blob max) (Xdr.blob bs) bs :=
  reads_blob (Nat.le_trans allowed bounded) allowed

theorem reads_flatMap (each : ∀ item ∈ items, Reads reader (write item) item) :
    Reads (replicate reader items.length) (items.flatMap write) items := by
  induction items with
  | nil => exact reads_pure []
  | cons item items inductionHypothesis =>
      obtain ⟨here, others⟩ := List.forall_mem_cons.mp each
      exact here.cons (inductionHypothesis others)

theorem length_write_le_of_mem {item : α} (member : item ∈ items) :
    (write item).length ≤ (Xdr.list write items).length := by
  obtain ⟨before, behind, rfl⟩ := List.mem_iff_append.mp member
  simp only [Xdr.list, List.flatMap_append, List.flatMap_cons, List.length_append]
  omega

/-- A list reads back if each item does, for which there is as much room as for the list. -/
theorem reads_listOf (bounded : max ≤ unbounded) (allowed : items.length ≤ max)
    (room : (Xdr.list write items).length ≤ bound)
    (each : ∀ item ∈ items, (write item).length ≤ bound → Reads reader (write item) item) :
    Reads (Reader.list max reader) (Xdr.list write items) items := by
  apply reads_list (Nat.le_trans allowed bounded) allowed
  apply reads_flatMap
  intro item member
  exact each item member (Nat.le_trans (length_write_le_of_mem member) room)

end Xdr.Reader

theorem reads_symbol {name : Bytes} (allowed : name.length ≤ SpecLimit.symbol) :
    Reads symbolReader (Xdr.blob name) name :=
  (reads_text (by decide) allowed).nested

/-! ### Types -/

namespace SpecType

mutual

/-- Every tuple and every name in the type is as short as it has to be. -/
def Sized : SpecType → Prop
  | .option inner => inner.Sized
  | .result value failure => value.Sized ∧ failure.Sized
  | .vec item => item.Sized
  | .map key value => key.Sized ∧ value.Sized
  | .tuple items => items.length ≤ SpecLimit.tupleItems ∧ SizedItems items
  | .udt name => name.length ≤ SpecLimit.typeName
  | _ => True

/-- Every one of the types is. -/
def SizedItems : List SpecType → Prop
  | [] => True
  | item :: items => item.Sized ∧ SizedItems items

end

theorem length_write_pos (type : SpecType) : 0 < type.write.length := by
  unfold write
  split <;> simp only [List.length_append, Bytes.length_ofWord] <;> omega

mutual

/-- A type reads back from its binary form, by a reader that allows for as many levels of nesting as
the form has bytes. -/
theorem reads_write (type : SpecType) (sized : type.Sized) {bound : Nat}
    (room : type.write.length ≤ bound) : Reads (reader bound) type.write type := by
  obtain ⟨bound, rfl⟩ : ∃ levels, bound = levels + 1 :=
    Nat.exists_eq_add_one.mpr (Nat.lt_of_lt_of_le (length_write_pos type) room)
  rw [reader]
  apply Reads.nested
  cases type with
  | option inner =>
      simp only [write, List.length_append, Bytes.length_ofWord] at room
      have reads := reads_write inner sized (show _ ≤ bound by omega)
      exact (reads_choice rfl).bind _ (reads.nested.nested.nested.bind_pure SpecType.option)
  | result value failure =>
      obtain ⟨sizedValue, sizedFailure⟩ : value.Sized ∧ failure.Sized := sized
      simp only [write, List.length_append, Bytes.length_ofWord] at room
      have readsValue := reads_write value sizedValue (show _ ≤ bound by omega)
      have readsFailure := reads_write failure sizedFailure (show _ ≤ bound by omega)
      rw [write, List.append_assoc]
      exact (reads_choice rfl).bind _ (readsValue.nested.bind _
        (readsFailure.nested.bind_pure (SpecType.result value))).nested.nested
  | vec item =>
      simp only [write, List.length_append, Bytes.length_ofWord] at room
      have reads := reads_write item sized (show _ ≤ bound by omega)
      exact (reads_choice rfl).bind _ (reads.nested.nested.nested.bind_pure SpecType.vec)
  | map key value =>
      obtain ⟨sizedKey, sizedValue⟩ : key.Sized ∧ value.Sized := sized
      simp only [write, List.length_append, Bytes.length_ofWord] at room
      have readsKey := reads_write key sizedKey (show _ ≤ bound by omega)
      have readsValue := reads_write value sizedValue (show _ ≤ bound by omega)
      rw [write, List.append_assoc]
      exact (reads_choice rfl).bind _ (readsKey.nested.bind _
        (readsValue.nested.bind_pure (SpecType.map key))).nested.nested
  | tuple items =>
      obtain ⟨allowed, sizedItems⟩ : items.length ≤ SpecLimit.tupleItems ∧ SizedItems items := sized
      have small : items.length ≤ unbounded := Nat.le_trans allowed (by decide)
      simp only [write, List.length_append, Bytes.length_ofWord] at room
      have reads := reads_writeItems items sizedItems (show _ ≤ bound by omega)
      rw [write, List.append_assoc]
      exact (reads_choice rfl).bind _
        ((reads_list small allowed reads).nested.nested.bind_pure SpecType.tuple)
  | bytesN length =>
      exact (reads_choice rfl).bind _ ((reads_word length).nested.bind_pure SpecType.bytesN)
  | udt name =>
      have allowed : name.length ≤ SpecLimit.typeName := sized
      exact (reads_choice rfl).bind _
        ((reads_text (by decide) allowed).nested.bind_pure SpecType.udt)
  | _ =>
      rw [write, ← List.append_nil (Bytes.ofWord _)]
      exact (reads_choice rfl).bind _ (reads_pure _)

theorem reads_writeItems (items : List SpecType) (sized : SizedItems items) {bound : Nat}
    (room : (writeItems items).length ≤ bound) :
    Reads (replicate (reader bound) items.length) (writeItems items) items := by
  cases items with
  | nil => exact reads_pure []
  | cons item items =>
      obtain ⟨sizedItem, sizedItems⟩ : item.Sized ∧ SizedItems items := sized
      rw [writeItems, List.length_append] at room
      rw [writeItems]
      exact (reads_write item sizedItem (by omega)).cons
        (reads_writeItems items sizedItems (by omega))

end

end SpecType

/-! ### Records -/

/-- The texts and the type of the field are as short as they have to be. -/
structure SpecField.Sized (field : SpecField) : Prop where
  doc : field.doc.length ≤ SpecLimit.doc
  name : field.name.length ≤ SpecLimit.fieldName
  type : field.type.Sized

theorem SpecField.reads_write {field : SpecField} (sized : field.Sized) {bound : Nat}
    (room : field.write.length ≤ bound) : Reads (reader bound) field.write field := by
  simp only [write, List.length_append] at room
  have readsType := field.type.reads_write sized.type (show _ ≤ bound by omega)
  rw [write, List.append_assoc]
  exact ((reads_text (by decide) sized.doc).bind _ ((reads_text (by decide) sized.name).bind _
    (readsType.bind_pure (SpecField.mk field.doc field.name)))).nested

/-- The texts, the inputs and the outputs of the function are as short as they have to be. -/
structure SpecFunction.Sized (f : SpecFunction) : Prop where
  doc : f.doc.length ≤ SpecLimit.doc
  name : f.name.length ≤ SpecLimit.symbol
  inputCount : f.inputs.length ≤ SpecLimit.inputs
  inputs : ∀ input ∈ f.inputs, input.Sized
  outputCount : f.outputs.length ≤ SpecLimit.outputs
  outputs : ∀ output ∈ f.outputs, output.Sized

theorem SpecFunction.reads_write {f : SpecFunction} (sized : f.Sized) {bound : Nat}
    (room : f.write.length ≤ bound) : Reads (reader bound) f.write f := by
  simp only [write, List.length_append] at room
  have readsInputs := reads_listOf (by decide) sized.inputCount (show _ ≤ bound by omega)
    fun input member => SpecField.reads_write (sized.inputs input member)
  have readsOutputs := reads_listOf (by decide) sized.outputCount (show _ ≤ bound by omega)
    fun output member => output.reads_write (sized.outputs output member)
  simp only [write, List.append_assoc]
  exact ((reads_text (by decide) sized.doc).bind _ ((reads_symbol sized.name).bind _
    (readsInputs.bind _ (readsOutputs.bind_pure (SpecFunction.mk f.doc f.name f.inputs))))).nested

/-- The texts and the fields of the structure are as short as they have to be. -/
structure SpecStruct.Sized (s : SpecStruct) : Prop where
  doc : s.doc.length ≤ SpecLimit.doc
  lib : s.lib.length ≤ SpecLimit.lib
  name : s.name.length ≤ SpecLimit.typeName
  count : s.fields.length ≤ SpecLimit.structFields
  fields : ∀ field ∈ s.fields, field.Sized

theorem SpecStruct.reads_write {s : SpecStruct} (sized : s.Sized) {bound : Nat}
    (room : s.write.length ≤ bound) : Reads (reader bound) s.write s := by
  simp only [write, List.length_append] at room
  have readsFields := reads_listOf (by decide) sized.count (show _ ≤ bound by omega)
    fun field member => SpecField.reads_write (sized.fields field member)
  simp only [write, List.append_assoc]
  exact ((reads_text (by decide) sized.doc).bind _ ((reads_text (by decide) sized.lib).bind _
    ((reads_text (by decide) sized.name).bind _
      (readsFields.bind_pure (SpecStruct.mk s.doc s.lib s.name))))).nested

/-- The texts and the types of the case are as short as they have to be. -/
def SpecUnionCase.Sized : SpecUnionCase → Prop
  | .void doc name => doc.length ≤ SpecLimit.doc ∧ name.length ≤ SpecLimit.typeName
  | .tuple doc name types =>
      doc.length ≤ SpecLimit.doc ∧ name.length ≤ SpecLimit.typeName ∧
        types.length ≤ SpecLimit.tupleItems ∧ ∀ type ∈ types, type.Sized

theorem SpecUnionCase.reads_write {c : SpecUnionCase} (sized : c.Sized) {bound : Nat}
    (room : c.write.length ≤ bound) : Reads (reader bound) c.write c := by
  apply Reads.nested
  cases c with
  | void doc name =>
      obtain ⟨shortDoc, shortName⟩ := sized
      rw [write, List.append_assoc]
      exact (reads_choice rfl).bind _ ((reads_text (by decide) shortDoc).bind _
        ((reads_text (by decide) shortName).bind_pure (SpecUnionCase.void doc))).nested
  | tuple doc name types =>
      obtain ⟨shortDoc, shortName, count, sizedTypes⟩ := sized
      simp only [write, List.length_append] at room
      have readsTypes := reads_listOf (by decide) count (show _ ≤ bound by omega)
        fun type member => type.reads_write (sizedTypes type member)
      simp only [write, List.append_assoc]
      exact (reads_choice rfl).bind _ ((reads_text (by decide) shortDoc).bind _
        ((reads_text (by decide) shortName).bind _
          (readsTypes.bind_pure (SpecUnionCase.tuple doc name)))).nested

/-- The texts and the cases of the union are as short as they have to be. -/
structure SpecUnion.Sized (u : SpecUnion) : Prop where
  doc : u.doc.length ≤ SpecLimit.doc
  lib : u.lib.length ≤ SpecLimit.lib
  name : u.name.length ≤ SpecLimit.typeName
  count : u.cases.length ≤ SpecLimit.cases
  cases : ∀ c ∈ u.cases, c.Sized

theorem SpecUnion.reads_write {u : SpecUnion} (sized : u.Sized) {bound : Nat}
    (room : u.write.length ≤ bound) : Reads (reader bound) u.write u := by
  simp only [write, List.length_append] at room
  have readsCases := reads_listOf (by decide) sized.count (show _ ≤ bound by omega)
    fun c member => SpecUnionCase.reads_write (sized.cases c member)
  simp only [write, List.append_assoc]
  exact ((reads_text (by decide) sized.doc).bind _ ((reads_text (by decide) sized.lib).bind _
    ((reads_text (by decide) sized.name).bind _
      (readsCases.bind_pure (SpecUnion.mk u.doc u.lib u.name))))).nested

/-- The texts of the case are as short as they have to be. -/
structure SpecEnumCase.Sized (c : SpecEnumCase) : Prop where
  doc : c.doc.length ≤ SpecLimit.doc
  name : c.name.length ≤ SpecLimit.typeName

theorem SpecEnumCase.reads_write {c : SpecEnumCase} (sized : c.Sized) :
    Reads reader c.write c := by
  rw [write, List.append_assoc]
  exact ((reads_text (by decide) sized.doc).bind _ ((reads_text (by decide) sized.name).bind _
    ((reads_word c.value).bind_pure (SpecEnumCase.mk c.doc c.name)))).nested

/-- The texts and the cases of the enumeration are as short as they have to be. -/
structure SpecEnum.Sized (e : SpecEnum) : Prop where
  doc : e.doc.length ≤ SpecLimit.doc
  lib : e.lib.length ≤ SpecLimit.lib
  name : e.name.length ≤ SpecLimit.typeName
  count : e.cases.length ≤ SpecLimit.cases
  cases : ∀ c ∈ e.cases, c.Sized

theorem SpecEnum.reads_write {e : SpecEnum} (sized : e.Sized) : Reads reader e.write e := by
  have readsCases := reads_listOf (by decide) sized.count Nat.le.refl
    fun c member _ => SpecEnumCase.reads_write (sized.cases c member)
  simp only [write, List.append_assoc]
  exact ((reads_text (by decide) sized.doc).bind _ ((reads_text (by decide) sized.lib).bind _
    ((reads_text (by decide) sized.name).bind _
      (readsCases.bind_pure (SpecEnum.mk e.doc e.lib e.name))))).nested

/-- The texts and the type of the parameter are as short as they have to be. -/
structure SpecParam.Sized (p : SpecParam) : Prop where
  doc : p.doc.length ≤ SpecLimit.doc
  name : p.name.length ≤ SpecLimit.fieldName
  type : p.type.Sized

theorem SpecParam.reads_write {p : SpecParam} (sized : p.Sized) {bound : Nat}
    (room : p.write.length ≤ bound) : Reads (reader bound) p.write p := by
  have location_read : SpecLocation.ofNumber? p.location.number = some p.location := by
    cases p.location <;> rfl
  simp only [write, List.length_append] at room
  have readsType := p.type.reads_write sized.type (show _ ≤ bound by omega)
  simp only [write, List.append_assoc]
  exact ((reads_text (by decide) sized.doc).bind _ ((reads_text (by decide) sized.name).bind _
    (readsType.bind _
      ((reads_choice location_read).bind_pure (SpecParam.mk p.doc p.name p.type))))).nested

/-- The texts, the prefix topics and the parameters of the event are as short as they have to
be. -/
structure SpecEvent.Sized (e : SpecEvent) : Prop where
  doc : e.doc.length ≤ SpecLimit.doc
  lib : e.lib.length ≤ SpecLimit.lib
  name : e.name.length ≤ SpecLimit.symbol
  prefixCount : e.prefixTopics.length ≤ SpecLimit.prefixTopics
  prefixTopics : ∀ topic ∈ e.prefixTopics, topic.length ≤ SpecLimit.symbol
  paramCount : e.params.length ≤ SpecLimit.params
  params : ∀ param ∈ e.params, param.Sized

theorem SpecEvent.reads_write {e : SpecEvent} (sized : e.Sized) {bound : Nat}
    (room : e.write.length ≤ bound) : Reads (reader bound) e.write e := by
  have format_read : SpecDataFormat.ofNumber? e.dataFormat.number = some e.dataFormat := by
    cases e.dataFormat <;> rfl
  simp only [write, List.length_append] at room
  have readsPrefix := reads_listOf (by decide) sized.prefixCount Nat.le.refl
    fun topic member _ => reads_symbol (sized.prefixTopics topic member)
  have readsParams := reads_listOf (by decide) sized.paramCount (show _ ≤ bound by omega)
    fun param member => SpecParam.reads_write (sized.params param member)
  simp only [write, List.append_assoc]
  exact ((reads_text (by decide) sized.doc).bind _ ((reads_text (by decide) sized.lib).bind _
    ((reads_symbol sized.name).bind _ (readsPrefix.bind _ (readsParams.bind _
      ((reads_choice format_read).bind_pure
        (SpecEvent.mk e.doc e.lib e.name e.prefixTopics e.params))))))).nested

/-! ### Entries -/

namespace SpecEntry

/-- Every text and every list in the entry is as short as it has to be.  No entry on the wire has a
longer one. -/
def Sized : SpecEntry → Prop
  | .function f => f.Sized
  | .struct s => s.Sized
  | .union u => u.Sized
  | .enum e => e.Sized
  | .errorEnum e => e.Sized
  | .event e => e.Sized

/-- An entry reads back from its binary form. -/
theorem reads_write {entry : SpecEntry} (sized : entry.Sized) {bound : Nat}
    (room : entry.write.length ≤ bound) : Reads (reader bound) entry.write entry := by
  apply Reads.nested
  cases entry with
  | function f =>
      rw [write, List.length_append] at room
      have reads := SpecFunction.reads_write sized (show _ ≤ bound by omega)
      exact (reads_choice rfl).bind _ (reads.bind_pure SpecEntry.function)
  | struct s =>
      rw [write, List.length_append] at room
      have reads := SpecStruct.reads_write sized (show _ ≤ bound by omega)
      exact (reads_choice rfl).bind _ (reads.bind_pure SpecEntry.struct)
  | union u =>
      rw [write, List.length_append] at room
      have reads := SpecUnion.reads_write sized (show _ ≤ bound by omega)
      exact (reads_choice rfl).bind _ (reads.bind_pure SpecEntry.union)
  | enum e => exact (reads_choice rfl).bind _ ((SpecEnum.reads_write sized).bind_pure _)
  | errorEnum e => exact (reads_choice rfl).bind _ ((SpecEnum.reads_write sized).bind_pure _)
  | event e =>
      rw [write, List.length_append] at room
      have reads := SpecEvent.reads_write sized (show _ ≤ bound by omega)
      exact (reads_choice rfl).bind _ (reads.bind_pure SpecEntry.event)

/-- An entry reads back from its text. -/
theorem ofText_toText {entry : SpecEntry} (sized : entry.Sized) :
    ofText entry.toText = .ok entry :=
  runText_encode fun _ room => reads_write sized room

end SpecEntry

end ContractEvents
