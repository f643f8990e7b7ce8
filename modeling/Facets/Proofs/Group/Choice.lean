import Facets.Proofs.Filter.Select
import Facets.Proofs.Group.Members

/-
Choosing a value is choosing its group.

A filter compares typed values, and grouping compares their keys.  The key of a typed
value of a scalar type is the value itself, or the key of a boolean, so on built
records both tell apart the same values (`Typed.same_key`), and the records that a
choice keeps are the group of its key (`Filter.apply_select_eq_group`).
-/
namespace Facets

open Outcome

/-! ## Keys of typed values -/

namespace Typed

variable {t u : Typed}

/-- The group key of a typed value of a scalar type. -/
def key : Typed → Value
  | .flag b => .boolKey b
  | t => t.toValue

theorem groupKey_toValue (ht : t.Fit) (hscalar : t.kind.isScalar = true) :
    t.toValue.groupKey = .ok t.key := by
  rw [Value.groupKey, if_neg (by simp [ht.1])]
  cases t with
  | text s | flag b | moment m => rfl
  | number n => cases n <;> rfl
  | items _ | labels _ | mapping _ => cases hscalar

/-- Values of one scalar type are one exactly when their keys are. -/
theorem same_key (hkind : t.kind = u.kind) : t.key.same u.key = t.toValue.same u.toValue := by
  cases t with
  | flag b =>
    cases u with
    | flag c =>
      -- As values booleans are the numbers 1 and 0.
      rw [Bool.eq_iff_iff, key, key, toValue, toValue, Value.same, Value.same, Value.amount?]
      simp only [Amount.same_int]
      cases b <;> cases c <;> decide
    | _ => cases hkind
  | _ =>
    cases u with
    | flag c => cases hkind
    | _ => rfl

theorem toValue_ne_null (t : Typed) : t.toValue ≠ .null := by
  cases t with
  | number n => cases n <;> exact nofun
  | _ => exact nofun

theorem key_ne_null (t : Typed) : t.key ≠ .null := by
  unfold key
  split
  · exact nofun
  · exact t.toValue_ne_null

end Typed

theorem Value.same_null_eq_false {v : Value} (hv : v ≠ .null) : v.same .null = false :=
  Bool.eq_false_iff.mpr fun h => hv (eq_null_of_same h)

/-! ## Built records -/

namespace Record.Holds

variable {r : Record} {f : Field} {x : Option Typed} {t : Typed}

theorem groupKey_field (h : r.Holds f x) (hscalar : f.kind.isScalar = true) :
    (r.field f.key).groupKey = .ok ((x.map Typed.key).getD .null) := by
  rw [h.field]
  cases x with
  | none => rfl
  | some t => exact Typed.groupKey_toValue (h.fit t rfl) (h.kind t rfl ▸ hscalar)

/-- A built record has a value exactly when it has the key of the value. -/
theorem isAt_key (h : r.Holds f x) (hscalar : f.kind.isScalar = true) (hkind : t.kind = f.kind) :
    Groups.isAt (fun r => (r.field f.key).groupKey) t.key r =
      (r.field f.key).same t.toValue := by
  rw [Groups.isAt, h.groupKey_field hscalar, h.field, Value.same_comm _ t.toValue]
  cases x with
  | none =>
    have hvalue : t.toValue.same .null = false := Value.same_null_eq_false t.toValue_ne_null
    exact (Value.same_null_eq_false t.key_ne_null).trans hvalue.symm
  | some u => exact Typed.same_key (hkind.trans (h.kind u rfl).symm)

end Record.Holds

/-! ## Choosing a value -/

/-- On records that are built for a schema, the choice of a value that one of them
stores for a field of a scalar type keeps the group of the key of the value. -/
theorem Filter.apply_select_eq_group {s : Schema} {f : Field} {d : FilterDefinition}
    {state : FilterState} {records : List Record} {r : Record} {v : Value} (ranges : FieldRanges)
    (hd : d.Selects s f) (hscalar : f.kind.isScalar = true)
    (hbuilt : ∀ r ∈ records, r.IsBuilt s) (hr : r ∈ records)
    (hv : r.fields.get? f.key = some v) (hstate : Assoc.find? (· == ·) f.key state = some v) :
    ∃ sel groups key members,
      (Filter.apply s [d] state ranges records).outcome = .ok sel ∧
      (Group.byField f.key records).outcome = .ok groups ∧ v.groupKey = .ok key ∧
      Assoc.find? Value.same key groups = some members ∧ sel.records records = members := by
  obtain ⟨x, hx⟩ := (hbuilt r hr).exists_holds hd.mem
  obtain ⟨t, rfl, rfl⟩ := Option.map_eq_some_iff.mp (hx.get?.symm.trans hv)
  have ht : t.Fit := hx.fit t rfl
  have hkind : t.kind = f.kind := hx.kind t rfl
  have hkey : t.toValue.groupKey = .ok t.key := Typed.groupKey_toValue ht (hkind ▸ hscalar)
  obtain ⟨sel, hsel, hkept⟩ := Choice.exists_apply_scalar hd hscalar hbuilt ht hkind hstate
  obtain ⟨groups, hgroups⟩ := Group.exists_byKey_iff.mpr fun r' hr' => by
    obtain ⟨x', hx'⟩ := (hbuilt r' hr').exists_holds hd.mem
    exact ⟨_, hx'.groupKey_field hscalar⟩
  have hrkey : (r.field f.key).groupKey = .ok t.key := hx.groupKey_field hscalar
  have hfind := (Group.byKey_partitions hgroups).find?_eq hr hrkey
  refine ⟨sel, groups, t.key, _, hsel, Group.byField_eq_ok.mpr hgroups, hkey, hfind, ?_⟩
  rw [hkept]
  refine List.filter_congr fun r' hr' => ?_
  obtain ⟨x', hx'⟩ := (hbuilt r' hr').exists_holds hd.mem
  exact (hx'.isAt_key hscalar hkind).symm

namespace Sample

/-- Lengths in many forms: three of them are zero, and a truth value is none. -/
def lengths : List Record :=
  [book 0 [("pages", .int 0)], book 1 [("pages", .float (.ofRatio true 0 1))],
    book 2 [("pages", .text " 1.0 ")], book 3 [("pages", .text "0")],
    book 4 [("pages", .bool false)]]

def lengthChoice : FilterDefinition := ⟨"pages", .select, "Length", true, none⟩

theorem selects_lengthChoice : lengthChoice.Selects schema pages :=
  ⟨by decide, rfl, rfl, rfl, rfl⟩

theorem exists_apply_lengths :
    ∃ built sel, lengths.mapM (Record.rebuild schema) = .ok built ∧
      (Filter.apply schema [lengthChoice] [("pages", .int 0)] [] built).outcome = .ok sel ∧
      (sel.records built).map Record.serial = [0, 1, 3] := by
  have hserials : gives (do
      let built ← lengths.mapM (Record.rebuild schema)
      let sel ← (Filter.apply schema [lengthChoice] [("pages", .int 0)] [] built).outcome
      pure ((sel.records built).map Record.serial)) [0, 1, 3] = true := by decide +kernel
  obtain ⟨built, hbuilt, h⟩ := bind_eq_ok.mp (gives_iff.mp hserials)
  obtain ⟨sel, hsel, h⟩ := bind_eq_ok.mp h
  exact ⟨built, sel, hbuilt, hsel, pure_eq_ok.mp h⟩

/-- The first of the built records stores the integer zero. -/
theorem exists_zero_of_lengths {built : List Record}
    (h : lengths.mapM (Record.rebuild schema) = .ok built) :
    ∃ r ∈ built, r.fields.get? "pages" = some (.int 0) := by
  obtain ⟨r, hr, hbuilt⟩ := ok_of_mapM_ok h (book 0 [("pages", .int 0)]) List.mem_cons_self
  obtain ⟨x, hx, hholds⟩ := Record.exists_holds hbuilt selects_lengthChoice.mem
  have htyped : (book 0 [("pages", .int 0)]).typed pages = .ok (some (.number (.int 0))) := rfl
  rw [Record.coerce_data, htyped] at hx
  rw [← Except.ok.inj hx] at hholds
  exact ⟨r, hr, hholds.get?⟩

end Sample

open Sample in
theorem Filter.apply_select_eq_group_lengths :
    ∃ built r, lengths.mapM (Record.rebuild schema) = .ok built ∧
      lengthChoice.Selects schema pages ∧ (∀ r ∈ built, r.IsBuilt schema) ∧ r ∈ built ∧
      r.fields.get? "pages" = some (.int 0) ∧
      ∃ sel groups key members,
        (Filter.apply schema [lengthChoice] [("pages", .int 0)] [] built).outcome = .ok sel ∧
        (Group.byField "pages" built).outcome = .ok groups ∧ (Value.int 0).groupKey = .ok key ∧
        Assoc.find? Value.same key groups = some members ∧ sel.records built = members ∧
        members.map Record.serial = [0, 1, 3] := by
  obtain ⟨built, sel, hbuilt, hsel, hserials⟩ := exists_apply_lengths
  obtain ⟨r, hr, hzero⟩ := exists_zero_of_lengths hbuilt
  have hall := Record.isBuilt_of_mapM hbuilt
  have hstate : Assoc.find? (· == ·) "pages" [("pages", Value.int 0)] = some (.int 0) := rfl
  obtain ⟨sel', groups, key, members, hsel', hgroups, hkey, hfind, hmembers⟩ :=
    apply_select_eq_group [] selects_lengthChoice rfl hall hr hzero hstate
  obtain rfl := Except.ok.inj (hsel.symm.trans hsel')
  exact ⟨built, r, hbuilt, selects_lengthChoice, hall, hr, hzero, sel, groups, key, members, hsel,
    hgroups, hkey, hfind, hmembers, hmembers ▸ hserials⟩

end Facets
