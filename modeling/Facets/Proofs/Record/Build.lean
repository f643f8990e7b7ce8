import Facets.Proofs.Field.Coercion

/-
Records that are built from raw data.

A built record stores for each field of the schema what the raw value is coerced to
(`Record.get?_fill`), which is a value of the type of the field or none
(`Record.Holds`).  Since coercing twice is coercing once, reading it back as the type
of the field gives what reading the raw record gives (`Record.typed_rebuild`).
-/
namespace Facets

open Outcome

namespace Fields

variable {f : Fields} {key key' : String} {v : Value}

theorem get?_set_self : (f.set key v).get? key = some v := Assoc.find?_put_self

theorem get?_set_of_ne (hne : key' ≠ key) : (f.set key v).get? key' = f.get? key' :=
  Assoc.find?_put_of_ne hne

/-- What is stored, as raw data. -/
def data (f : Fields) : List (Value × Value) := f.entries.map fun p => (.text p.1, p.2)

theorem valueAt?_data : Value.valueAt? key f.data = f.get? key :=
  Value.valueAt?_map_text key f.entries

end Fields

/-- Whether a stored value is empty makes no difference to coercion. -/
theorem Record.coerce_field {k : Kind} {key : String} (r : Record) :
    k.coerce (r.field key) = k.coerce ((r.fields.get? key).getD .null) := by
  unfold field
  cases r.fields.get? key with
  | none => rfl
  | some v =>
    by_cases hv : v.isEmpty = true
    · simp only [hv, if_true, Option.getD_some]
      rw [Kind.coerce, Kind.coerce, if_pos hv]
      rfl
    · simp only [hv, Bool.false_eq_true, if_false, Option.getD_some]

namespace Record

variable {s : Schema} {f : Field} {r built : Record} {raw : List (Value × Value)}
  {fields : List Field}

/-! ## Filling -/

/-- The record with a typed value for a key, if there is one. -/
def store (r : Record) (key : String) (x : Option Typed) : Record :=
  match x with
  | some t => r.setField key t.toValue
  | none => r

theorem fill_cons_eq_ok :
    fill raw (f :: fields) r = .ok built ↔
      ∃ x, f.kind.coerce ((Value.valueAt? f.key raw).getD .null) = .ok x ∧
        fill raw fields (r.store f.key x) = .ok built := by
  rw [fill, bind_eq_ok]
  refine exists_congr fun x => and_congr_right fun _ => ?_
  cases x <;> rfl

theorem get?_store_self {key : String} {x : Option Typed} :
    (r.store key x).fields.get? key = (x.map Typed.toValue).or (r.fields.get? key) := by
  cases x with
  | none => rfl
  | some t => exact Fields.get?_set_self

theorem get?_store_of_ne {key key' : String} {x : Option Typed} (hne : key' ≠ key) :
    (r.store key x).fields.get? key' = r.fields.get? key' := by
  cases x with
  | none => rfl
  | some t => exact Fields.get?_set_of_ne hne

theorem identity_fill (h : fill raw fields r = .ok built) :
    built.serial = r.serial ∧ built.id = r.id ∧ built.path = r.path := by
  induction fields generalizing r with
  | nil =>
    rw [Except.ok.inj h]
    exact ⟨rfl, rfl, rfl⟩
  | cons f fields ih =>
    obtain ⟨x, -, h⟩ := fill_cons_eq_ok.mp h
    have hrest := ih h
    cases x <;> exact hrest

theorem get?_fill_of_notMem {key : String} (hkey : key ∉ fields.map Field.key)
    (h : fill raw fields r = .ok built) : built.fields.get? key = r.fields.get? key := by
  induction fields generalizing r with
  | nil => rw [Except.ok.inj h]
  | cons f fields ih =>
    have hne : key ≠ f.key ∧ key ∉ fields.map Field.key := by simpa using hkey
    obtain ⟨x, -, h⟩ := fill_cons_eq_ok.mp h
    rw [ih hne.2 h, get?_store_of_ne hne.1]

/-- Each field is filled with what its raw value is coerced to. -/
theorem get?_fill (hdistinct : (fields.map Field.key).Nodup) (h : fill raw fields r = .ok built)
    (hf : f ∈ fields) :
    ∃ x, f.kind.coerce ((Value.valueAt? f.key raw).getD .null) = .ok x ∧
      built.fields.get? f.key = (x.map Typed.toValue).or (r.fields.get? f.key) := by
  induction fields generalizing r with
  | nil => cases hf
  | cons g fields ih =>
    obtain ⟨hg, hrest⟩ := List.nodup_cons.mp hdistinct
    obtain ⟨x, hx, h⟩ := fill_cons_eq_ok.mp h
    by_cases hfg : f = g
    · subst hfg
      exact ⟨x, hx, by rw [get?_fill_of_notMem hg h, get?_store_self]⟩
    · have hmem : f ∈ fields := (List.mem_cons.mp hf).resolve_left hfg
      have hne : f.key ≠ g.key := by
        intro heq
        exact hg (heq ▸ List.mem_map_of_mem hmem)
      obtain ⟨y, hy, hbuilt⟩ := ih hrest h hmem
      exact ⟨y, hy, by rw [hbuilt, get?_store_of_ne hne]⟩

theorem exists_fill (h : ∀ f ∈ fields, ∃ x,
    f.kind.coerce ((Value.valueAt? f.key raw).getD .null) = .ok x) (r : Record) :
    ∃ built, fill raw fields r = .ok built := by
  induction fields generalizing r with
  | nil => exact ⟨r, rfl⟩
  | cons f fields ih =>
    obtain ⟨⟨x, hx⟩, hrest⟩ := List.forall_mem_cons.mp h
    obtain ⟨built, hbuilt⟩ := ih hrest (r.store f.key x)
    exact ⟨built, fill_cons_eq_ok.mpr ⟨x, hx, hbuilt⟩⟩

/-! ## Building -/

/-- The record that is built from what a record stores. -/
def rebuild (s : Schema) (r : Record) : Except Fault Record :=
  build r.serial r.fields.data r.id r.path s

theorem coerce_data : f.kind.coerce ((Value.valueAt? f.key r.fields.data).getD .null) = r.typed f := by
  rw [Fields.valueAt?_data, typed, coerce_field]

theorem identity_rebuild (h : r.rebuild s = .ok built) :
    built.serial = r.serial ∧ built.id = r.id ∧ built.path = r.path :=
  identity_fill (r := ⟨r.serial, r.id, r.path, .empty⟩) h

theorem exists_rebuild (h : ∀ f ∈ s.fields, ∃ x, r.typed f = .ok x) :
    ∃ built, r.rebuild s = .ok built := by
  refine exists_fill (fun f hf => ?_) _
  rw [coerce_data]
  exact h f hf

/-- What a built record stores for a field: a value of the type of the field, or
none. -/
structure Holds (r : Record) (f : Field) (x : Option Typed) : Prop where
  get? : r.fields.get? f.key = x.map Typed.toValue
  field : r.field f.key = (x.map Typed.toValue).getD .null
  typed : r.typed f = .ok x
  fit : ∀ t ∈ x, t.Fit
  kind : ∀ t ∈ x, t.kind = f.kind

/-- Each field is built from its raw value. -/
theorem exists_holds {serial : Nat} {id path : String} (h : build serial raw id path s = .ok built)
    (hf : f ∈ s.fields) :
    ∃ x, f.kind.coerce ((Value.valueAt? f.key raw).getD .null) = .ok x ∧ built.Holds f x := by
  obtain ⟨x, hx, hget⟩ := get?_fill s.distinct h hf
  have hempty : (Fields.empty).get? f.key = none := rfl
  rw [hempty, Option.or_none] at hget
  have hfit : ∀ t ∈ x, t.Fit := by
    rintro t rfl
    exact Kind.fit_of_coerce hx
  have hfield : built.field f.key = (x.map Typed.toValue).getD .null := by
    rw [field, hget]
    cases x with
    | none => rfl
    | some t => simp [(hfit t rfl).1]
  refine ⟨x, hx, hget, hfield, ?_, hfit, ?_⟩
  · rw [typed, hfield]
    exact Kind.coerce_coerce hx
  · rintro t rfl
    exact Kind.kind_of_coerce hx

/-- The record has been built for this schema, from data of any kind. -/
def IsBuilt (s : Schema) (r : Record) : Prop :=
  ∃ serial raw id path, build serial raw id path s = .ok r

theorem IsBuilt.exists_holds (h : r.IsBuilt s) (hf : f ∈ s.fields) : ∃ x, r.Holds f x := by
  obtain ⟨_, _, _, _, h⟩ := h
  obtain ⟨x, -, hx⟩ := Record.exists_holds h hf
  exact ⟨x, hx⟩

theorem isBuilt_of_mapM {records all : List Record} (h : records.mapM (rebuild s) = .ok all) :
    ∀ b ∈ all, b.IsBuilt s := by
  intro b hb
  obtain ⟨r, -, hr⟩ := mem_of_mapM_ok h b hb
  exact ⟨r.serial, r.fields.data, r.id, r.path, hr⟩

/-- A built record stores the typed values of the fields of the schema. -/
theorem field_rebuild (h : r.rebuild s = .ok built) (hf : f ∈ s.fields) :
    ∃ x, r.typed f = .ok x ∧ built.field f.key = (x.map Typed.toValue).getD .null := by
  obtain ⟨x, hx, hbuilt⟩ := exists_holds h hf
  rw [coerce_data] at hx
  exact ⟨x, hx, hbuilt.field⟩

/-- Reading a field of a built record is reading it from the raw data. -/
theorem typed_rebuild (h : r.rebuild s = .ok built) (hf : f ∈ s.fields) :
    built.typed f = r.typed f := by
  obtain ⟨x, hx, hbuilt⟩ := exists_holds h hf
  rw [coerce_data] at hx
  rw [hbuilt.typed, hx]

theorem plain_rebuild (h : r.rebuild s = .ok built) (hf : f ∈ s.fields) :
    f.kind.plain (built.field f.key) = f.kind.plain (r.field f.key) := by
  have htyped : f.kind.coerce (built.field f.key) = f.kind.coerce (r.field f.key) :=
    typed_rebuild h hf
  rw [Kind.plain, htyped, Kind.plain]

end Record
end Facets
