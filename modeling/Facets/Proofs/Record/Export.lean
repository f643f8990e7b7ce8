import Facets.Proofs.Record.Build

/-
Records as entries, and back.

A record is exported with its identity and all fields of a schema, or with those fields
that have a value (`Record.find?_fullEntries`, `Record.find?_toEntries`).  Building from
a full export gives the same fields (`Record.build_exported`).  Identity and fields
share one set of names, so the identity is exported unless a field of its name holds
something else (`Record.RoundTrips`).
-/
namespace Facets

open Outcome

namespace Assoc

variable {κ α : Type} [DecidableEq κ]

/-- Storing the value of each key of a list. -/
theorem find?_foldl_put (value : κ → α) (key : κ) (keys : List κ) (kept : List (κ × α)) :
    find? (· == ·) key (keys.foldl (fun kept k => put (· == ·) k (value k) kept) kept) =
      if key ∈ keys then some (value key) else find? (· == ·) key kept := by
  induction keys generalizing kept with
  | nil => rfl
  | cons k keys ih =>
    rw [List.foldl_cons, ih]
    by_cases hkeys : key ∈ keys
    · rw [if_pos hkeys, if_pos (List.mem_cons_of_mem k hkeys)]
    · rw [if_neg hkeys]
      by_cases hkey : key = k
      · subst hkey
        rw [if_pos List.mem_cons_self, find?_put_self]
      · rw [find?_put_of_ne hkey, if_neg (by simp [hkey, hkeys])]

end Assoc

theorem Schema.hasField_iff {s : Schema} {key : String} :
    s.hasField key = true ↔ key ∈ s.fields.map Field.key := by
  simp [hasField, field?]

namespace Record

variable {s : Schema} {r built : Record} {raw : List (Value × Value)} {key : String}
  {fields : List Field} {serial : Nat} {id path : String}

/-! ## Exports -/

/-- A field of the schema takes the place of an identity entry of its name. -/
theorem find?_fullEntries (s : Schema) (r : Record) (key : String) :
    Assoc.find? (· == ·) key (r.fullEntries s) =
      if s.hasField key then some (r.field key)
      else Assoc.find? (· == ·) key r.identityEntries := by
  have hfold : r.fullEntries s = (s.fields.map Field.key).foldl
      (fun kept k => Assoc.put (· == ·) k (r.field k) kept) r.identityEntries := by
    rw [List.foldl_map]
    rfl
  simp only [hfold, Assoc.find?_foldl_put, Schema.hasField_iff]

/-- What is stored and not empty is the value of the field. -/
theorem field_of_mem {p : String × Value} (hp : p ∈ r.fields.entries)
    (hvalue : p.2.isEmpty = false) : r.field p.1 = p.2 := by
  have hget : r.fields.get? p.1 = some p.2 := (Assoc.find?_eq_some_iff r.fields.distinct).mpr hp
  rw [field, hget]
  simp [hvalue]

theorem hasField_eq : r.hasField key = (r.fields.get? key).any fun v => !v.isEmpty := by
  unfold hasField field
  cases r.fields.get? key with
  | none => rfl
  | some v =>
    cases hv : v.isEmpty with
    | true => simp only [hv, if_true, Option.any_some, Bool.not_true]; rfl
    | false => simp only [hv, Bool.false_eq_true, if_false, Option.any_some]

/-- The fields with a value are those that store something that is not empty. -/
theorem hasField_iff : r.hasField key = true ↔
    key ∈ (r.fields.entries.filter fun p => !p.2.isEmpty).map Prod.fst := by
  rw [hasField_eq, Option.any_eq_true]
  constructor
  · rintro ⟨v, hget, hv⟩
    exact List.mem_map.mpr ⟨(key, v), List.mem_filter.mpr ⟨Assoc.mem_of_find? hget, hv⟩, rfl⟩
  · intro h
    obtain ⟨p, hp, rfl⟩ := List.mem_map.mp h
    obtain ⟨hp, hv⟩ := List.mem_filter.mp hp
    exact ⟨p.2, (Assoc.find?_eq_some_iff r.fields.distinct).mpr hp, hv⟩

/-- A field with a value takes the place of an identity entry of its name. -/
theorem find?_toEntries (r : Record) (key : String) :
    Assoc.find? (· == ·) key r.toEntries =
      if r.hasField key then some (r.field key)
      else Assoc.find? (· == ·) key r.identityEntries := by
  have hfold : r.toEntries = ((r.fields.entries.filter fun p => !p.2.isEmpty).map Prod.fst).foldl
      (fun kept k => Assoc.put (· == ·) k (r.field k) kept) r.identityEntries := by
    rw [List.foldl_map]
    refine List.foldl_ext _ _ _ fun kept p hp => ?_
    obtain ⟨hp, hv⟩ := List.mem_filter.mp hp
    rw [field_of_mem hp (by simpa using hv)]
  simp only [hfold, Assoc.find?_foldl_put, hasField_iff]

/-! ## Building again -/

/-- What the fields are filled with depends on nothing but what they are coerced to. -/
theorem fill_of_fill {raw' : List (Value × Value)} {r' : Record}
    (hraw : ∀ f ∈ fields, f.kind.coerce ((Value.valueAt? f.key raw').getD .null) =
      f.kind.coerce ((Value.valueAt? f.key raw).getD .null))
    (hfields : r'.fields = r.fields) (h : fill raw fields r = .ok built) :
    fill raw' fields r' = .ok { r' with fields := built.fields } := by
  induction fields generalizing r r' with
  | nil =>
    rw [← Except.ok.inj h, ← hfields]
    rfl
  | cons f fields ih =>
    obtain ⟨hf, hrest⟩ := List.forall_mem_cons.mp hraw
    obtain ⟨x, hx, h⟩ := fill_cons_eq_ok.mp h
    have hstore : (r'.store f.key x).fields = (r.store f.key x).fields := by
      cases x with
      | none => exact hfields
      | some t => exact congrArg (Fields.set · f.key t.toValue) hfields
    refine fill_cons_eq_ok.mpr ⟨x, hf.trans hx, ?_⟩
    rw [ih hrest hstore h]
    cases x <;> rfl

/-- The full export as raw data. -/
def exported (r : Record) (s : Schema) : List (Value × Value) :=
  (r.fullEntries s).map fun p => (.text p.1, p.2)

theorem valueAt?_exported {f : Field} (hf : f ∈ s.fields) :
    Value.valueAt? f.key (r.exported s) = some (r.field f.key) := by
  have hfield : s.hasField f.key = true := Schema.hasField_iff.mpr (List.mem_map_of_mem hf)
  rw [exported, Value.valueAt?_map_text, find?_fullEntries, if_pos hfield]

/-- Building from the full export gives the same fields, whoever the record is. -/
theorem build_exported (h : build serial raw id path s = .ok built) (serial' : Nat)
    (id' path' : String) :
    build serial' (built.exported s) id' path' s = .ok ⟨serial', id', path', built.fields⟩ := by
  have hfill : fill raw s.fields ⟨serial, id, path, .empty⟩ = .ok built := h
  unfold build
  refine fill_of_fill (fun f hf => ?_) (Eq.refl Fields.empty) hfill
  obtain ⟨x, hx, hholds⟩ := exists_holds h hf
  rw [valueAt?_exported hf, Option.getD_some, hx]
  exact hholds.typed

/-- A built record has values for fields of the schema only. -/
theorem hasField_of_build (h : build serial raw id path s = .ok built)
    (hkey : built.hasField key = true) : s.hasField key = true := by
  by_contra hnone
  have hget : built.fields.get? key = none :=
    get?_fill_of_notMem (fun hmem => hnone (Schema.hasField_iff.mpr hmem)) h
  rw [hasField_eq, hget] at hkey
  cases hkey

/-- What exports of a built record carry. -/
structure RoundTrips (s : Schema) (r : Record) : Prop where
  rebuild : ∀ serial id path,
    build serial (r.exported s) id path s = .ok ⟨serial, id, path, r.fields⟩
  values : ∀ f ∈ s.fields,
    Assoc.find? (· == ·) f.key (r.fullEntries s) = some (r.field f.key)
  identity : ∀ p ∈ r.identityEntries, Assoc.find? (· == ·) p.1 (r.fullEntries s) = some p.2 ↔
    s.hasField p.1 = false ∨ r.field p.1 = p.2
  shortValues : ∀ key, r.hasField key = true →
    Assoc.find? (· == ·) key r.toEntries = some (r.field key) ∧
      Assoc.find? (· == ·) key (r.fullEntries s) = some (r.field key)
  shortIdentity : ∀ p ∈ r.identityEntries, Assoc.find? (· == ·) p.1 r.toEntries = some p.2 ↔
    r.hasField p.1 = false ∨ r.field p.1 = p.2
  shortKeys : ∀ key, (Assoc.find? (· == ·) key r.toEntries).isSome = true ↔
    r.hasField key = true ∨ key ∈ r.identityEntries.map Prod.fst

theorem find?_identityEntries {p : String × Value} (hp : p ∈ r.identityEntries) :
    Assoc.find? (· == ·) p.1 r.identityEntries = some p.2 :=
  (Assoc.find?_eq_some_iff (by simp [identityEntries])).mpr hp

theorem roundTrips_of_build (h : build serial raw id path s = .ok built) :
    RoundTrips s built where
  rebuild := build_exported h
  values f hf := by
    rw [find?_fullEntries, if_pos (Schema.hasField_iff.mpr (List.mem_map_of_mem hf))]
  identity p hp := by
    rw [find?_fullEntries]
    cases s.hasField p.1 with
    | true => simp
    | false => simp [find?_identityEntries hp]
  shortValues key hkey := by
    rw [find?_toEntries, find?_fullEntries, if_pos hkey, if_pos (hasField_of_build h hkey)]
    exact ⟨rfl, rfl⟩
  shortIdentity p hp := by
    rw [find?_toEntries]
    cases built.hasField p.1 with
    | true => simp
    | false => simp [find?_identityEntries hp]
  shortKeys key := by
    rw [find?_toEntries]
    cases built.hasField key with
    | true => simp
    | false => simp [Assoc.find?_isSome_iff]

/-- Raw data whose values can be coerced makes a record that survives its export. -/
theorem exists_roundTrips (serial : Nat) (id path : String)
    (hraw : ∀ f ∈ s.fields, ∃ x, f.kind.coerce ((Value.valueAt? f.key raw).getD .null) = .ok x) :
    ∃ r, build serial raw id path s = .ok r ∧ r.id = id ∧ r.path = path ∧ RoundTrips s r := by
  obtain ⟨r, hr⟩ := exists_fill hraw ⟨serial, id, path, .empty⟩
  obtain ⟨-, hid, hpath⟩ := identity_fill hr
  exact ⟨r, hr, hid, hpath, roundTrips_of_build hr⟩

end Record

namespace Sample

/-- A title that is a number, a year that is none, and a key that is no text. -/
def filed : List (Value × Value) :=
  [(.text "title", .int 1984), (.text "year", .text "soon"), (.bool true, .text "lost")]

def cabinet : Schema :=
  ⟨"cabinet", [{ key := "title", label := "Title", kind := .string },
    { key := "year", label := "Year", kind := .number }], {}, by decide⟩

/-- A schema with a field of the name of an identity entry. -/
def numbered : Schema :=
  ⟨"numbered", [{ key := "id", label := "Id", kind := .string }], {}, by decide⟩

end Sample

namespace Record

open Sample

theorem exists_roundTrips_filed :
    (∀ f ∈ cabinet.fields, ∃ x,
      f.kind.coerce ((Value.valueAt? f.key filed).getD .null) = .ok x) ∧
    ∃ r, build 0 filed "w" "w.md" cabinet = .ok r ∧ r.id = "w" ∧ r.path = "w.md" ∧
      RoundTrips cabinet r := by
  have hcoerce : ∀ f ∈ cabinet.fields, ∃ x,
      f.kind.coerce ((Value.valueAt? f.key filed).getD .null) = .ok x := by
    have hgives : ∀ f ∈ cabinet.fields, gives
        ((f.kind.coerce ((Value.valueAt? f.key filed).getD .null)).map Option.isSome)
        (f.key == "title") = true := by decide +kernel
    intro f hf
    obtain ⟨x, hx, -⟩ := map_eq_ok.mp (gives_iff.mp (hgives f hf))
    exact ⟨x, hx⟩
  exact ⟨hcoerce, exists_roundTrips 0 "w" "w.md" hcoerce⟩

/-- A record without a value for a field of the name id is exported without its
identity. -/
theorem not_exports_id_of_id_field :
    ¬ ∀ (s : Schema) (raw : List (Value × Value)) (r : Record),
      build 0 raw "w" "w.md" s = .ok r →
        Assoc.find? (· == ·) "id" (r.fullEntries s) = some (.text "w") := by
  intro hid
  have hnull := hid numbered [] ⟨0, "w", "w.md", .empty⟩ rfl
  rw [find?_fullEntries, if_pos (by decide)] at hnull
  cases hnull

end Record
end Facets
