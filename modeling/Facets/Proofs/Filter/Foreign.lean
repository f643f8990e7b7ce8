import Facets.Proofs.Filter.Choices
import Facets.Proofs.Value.Canonical

/-
Choices that are no value of the type of the field.

Such a choice is compared as it is, and equals no typed value but for one pair of
types: truth values and numbers are equal where one counts as the other
(`Value.same_toValue_iff`).  Elsewhere it keeps nothing (`FilterDefinition.keeps_foreign`).
-/
namespace Facets

open Outcome

/-! ## Values of two types that are equal -/

/-- What is one with a number is a number of the same value. -/
theorem Amount.exists_number_of_same {m : Number} {a : Amount} (h : (ofNumber m).same a = true) :
    ∃ n, a = .ofNumber n ∧ n.value = m.value := by
  have hplace : a.place? = some (.at m.scaled) := (same_iff_place (place?_ofNumber m)).mp h
  match a with
  | .int n => exact ⟨.int n, rfl, (Value.same_ofNumber.mp h).symm⟩
  | .float (.finite x) => exact ⟨.float x, rfl, (Value.same_ofNumber.mp h).symm⟩
  | .float (.infinite true) | .float (.infinite false) | .float (.nan _) => cases hplace

namespace Value

/-- A truth value counts as one or zero among numbers, and a number that is one or zero
as a truth value. -/
inductive CountsAs : Value → Typed → Prop
  | flag {b : Bool} {n : Number} (h : n.value = if b then 1 else 0) :
    CountsAs (.bool b) (.number n)
  | number {v : Value} {n : Number} {b : Bool} (hv : v.finite? = some n)
    (h : n.value = if b then 1 else 0) : CountsAs v (.flag b)

variable {v : Value} {m n : Number} {k : Kind} {t : Typed} {b : Bool}

theorem finite?_ofNumber (n : Number) : (ofNumber n).finite? = some n := by
  cases n <;> rfl

theorem value_ofBool (b : Bool) : (Number.int (if b then 1 else 0)).value = if b then 1 else 0 := by
  cases b <;> simp [Number.value]

theorem bool_same (b : Bool) (v : Value) :
    (Value.bool b).same v = (ofNumber (.int (if b then 1 else 0))).same v := by
  rw [same, ofNumber, same]

theorem finite?_of_amount? (h : v.amount? = some (.ofNumber n)) :
    (∃ b, v = .bool b ∧ n = .int (if b then 1 else 0)) ∨ v.finite? = some n := by
  cases v <;> cases n <;> simp_all [amount?, Amount.ofNumber, finite?]

theorem same_ofNumber_iff :
    v.same (ofNumber m) = true ↔
      (∃ b, v = .bool b ∧ m.value = if b then 1 else 0) ∨
        ∃ n, v.finite? = some n ∧ n.value = m.value := by
  have hm : (ofNumber m).amount? = some (.ofNumber m) := amount?_of_finite? (finite?_ofNumber m)
  constructor
  · intro h
    rw [same_comm] at h
    obtain ⟨a, ha, hsame⟩ := exists_amount_of_same hm h
    obtain ⟨n, rfl, hn⟩ := Amount.exists_number_of_same hsame
    rcases finite?_of_amount? ha with ⟨b, rfl, rfl⟩ | hfinite
    · exact .inl ⟨b, rfl, hn.symm.trans (value_ofBool b)⟩
    · exact .inr ⟨n, hfinite, hn⟩
  · rintro (⟨b, rfl, hb⟩ | ⟨n, hn, hvalue⟩)
    · have hsame : (Amount.ofNumber (.int (if b then 1 else 0))).same (.ofNumber m) = true :=
        same_ofNumber.mpr ((value_ofBool b).trans hb.symm)
      exact same_of_alike (.amount rfl hm hsame)
    · exact same_of_alike (.amount (amount?_of_finite? hn) hm (same_ofNumber.mpr hvalue))

theorem owns_of_finite? (h : v.finite? = some n) : Kind.number.Owns v := by
  cases v with
  | int i => exact .integer i
  | float x =>
    cases x with
    | finite x => exact .double x
    | _ => cases h
  | _ => cases h

/-- Beside the values of its own type, a typed value equals nothing but what counts as
it. -/
theorem same_toValue_iff (hne : v.isEmpty = false) (hforeign : ¬ k.Owns v)
    (hscalar : k.isArray = false) (hkind : t.kind = k) :
    v.same t.toValue = true ↔ v.CountsAs t := by
  rw [← hkind] at hforeign hscalar
  cases t with
  | number m =>
    refine same_ofNumber_iff.trans ⟨?_, fun h => ?_⟩
    · rintro (⟨b, rfl, hb⟩ | ⟨n, hn, -⟩)
      · exact .flag hb
      · exact absurd (owns_of_finite? hn) hforeign
    · cases h with
      | flag h => exact .inl ⟨_, rfl, h⟩
  | flag b =>
    have hnumber : v.same (.bool b) = v.same (ofNumber (.int (if b then 1 else 0))) := by
      rw [same_comm, bool_same, same_comm]
    refine (Bool.eq_iff_iff.mp hnumber).trans (same_ofNumber_iff.trans ⟨?_, fun h => ?_⟩)
    · rintro (⟨c, rfl, -⟩ | ⟨n, hn, hvalue⟩)
      · exact absurd (.flag c) hforeign
      · exact .number hn (hvalue.trans (value_ofBool b))
    · cases h with
      | number hn h => exact .inr ⟨_, hn, h.trans (value_ofBool b).symm⟩
  | text s =>
    refine iff_of_false (fun h => ?_) (fun h => by cases h)
    cases alike_of_same h with
    | text => exact hforeign (.text (by simpa [isEmpty] using hne))
    | amount _ hw _ | members _ hw _ => cases hw
  | moment m =>
    refine iff_of_false (fun h => ?_) (fun h => by cases h)
    have hmoment : v.same (.dateTime m.clock (some m.place)) = true := h
    cases alike_of_same hmoment with
    | @moment clock _ place _ hsame =>
      -- What has no place never equals what has one.
      cases place with
      | none => cases hsame
      | some place => exact hforeign (.moment clock place)
    | amount _ hw _ | members _ hw _ => cases hw
  | mapping ps =>
    refine iff_of_false (fun h => ?_) (fun h => by cases h)
    cases alike_of_same h with
    | dict => exact hforeign (.mapping (by simpa [isEmpty] using hne))
    | amount _ hw _ | members _ hw _ => cases hw
  | items _ | labels _ => cases hscalar

end Value

/-! ## What is kept -/

namespace FilterDefinition

open Facets.Filter

/-- The value is what the filter offers a choice of, alone. -/
inductive ChoosesOne (d : FilterDefinition) (v : Value) : Value → Prop
  | select (h : d.kind = .select) : ChoosesOne d v v
  | checkbox (h : d.kind = .checkbox) : ChoosesOne d v (.list [v])

variable {d : FilterDefinition} {s : Schema} {f : Field} {state : FilterState}
  {ranges : FieldRanges} {records kept : List Record} {chosen v : Value} {r : Record}

theorem keeps_of_choosesOne (h : d.Uses s f) (hne : v.isEmpty = false)
    (hchoice : d.ChoosesOne v chosen) :
    d.keeps s state ranges records chosen =
      (d.withKind .select).keeps s state ranges records v := by
  cases hchoice with
  | select hkind => rw [← hkind, withKind_self]
  | checkbox hkind => rw [← keeps_singleton h hne, ← hkind, withKind_self]

theorem admits_foreign (hscalar : f.kind.isArray = false) (hne : v.isEmpty = false)
    (hforeign : ¬ f.kind.Owns v) :
    (Constraint.equals f.key f.kind v).admits r = .ok true ↔
      ∃ t, f.kind.coerce (r.field f.key) = .ok (some t) ∧ v.CountsAs t := by
  rw [Constraint.admits, bind_eq_ok]
  constructor
  · rintro ⟨x, hx, h⟩
    have hequal := pure_eq_ok.mp h
    cases x with
    | none => cases hequal.symm.trans (Value.null_equal hne)
    | some t =>
      have hsame : t.toValue.same v = true := ((Bool.and_eq_true _ _).mp hequal).2
      rw [Value.same_comm, Value.same_toValue_iff hne hforeign hscalar (Kind.kind_of_coerce hx)]
        at hsame
      exact ⟨t, hx, hsame⟩
  · rintro ⟨t, ht, hcounts⟩
    have hsame : v.same t.toValue = true :=
      (Value.same_toValue_iff hne hforeign hscalar (Kind.kind_of_coerce ht)).mpr hcounts
    refine ⟨some t, ht, pure_eq_ok.mpr ?_⟩
    rw [Option.map_some, Option.getD_some, Value.equal, t.isNaN_toValue, Value.same_comm, hsame]
    rfl

theorem demand_foreign (hscalar : f.kind.isArray = false) (hne : v.isEmpty = false)
    (hnone : f.kind.coerce v = .ok none) :
    (demand ranges records .select f v).outcome = .ok (some (.equals f.key f.kind v)) := by
  have hexpected : expected f.kind v = .ok v := by
    rw [expected, hnone]
    rfl
  show select f v = _
  rw [select_of_not_isArray hscalar hne, hexpected]
  rfl

/-- A choice that is no value of the type keeps only what counts as it, so it keeps nothing
unless truth values meet numbers.  It has an answer where every stored value has a
coercion. -/
theorem keeps_foreign {d : FilterDefinition} {s : Schema} {f : Field} {v chosen : Value}
    (h : d.Uses s f) (hscalar : f.kind.isArray = false) (hne : v.isEmpty = false)
    (hnone : f.kind.coerce v = .ok none) (hchoice : d.ChoosesOne v chosen)
    (state : FilterState) (ranges : FieldRanges) (records : List Record) :
    ((∃ kept, d.keeps s state ranges records chosen = .ok kept) ↔
      ∀ r ∈ records, ∃ x, f.kind.coerce (r.field f.key) = .ok x) ∧
    ∀ kept, d.keeps s state ranges records chosen = .ok kept →
      (∀ r, r ∈ kept ↔ r ∈ records ∧
        ∃ t, f.kind.coerce (r.field f.key) = .ok (some t) ∧ v.CountsAs t) ∧
      ((f.kind = .number → ∀ b, v ≠ .bool b) → (f.kind = .boolean → v.finite? = none) →
        kept = []) := by
  rw [keeps_of_choosesOne h hne hchoice]
  have hdemand : (demand ranges records .select f v).outcome =
      .ok (some (.equals f.key f.kind v)) := demand_foreign hscalar hne hnone
  have hforeign : ¬ f.kind.Owns v := Kind.not_owns_of_coerce hnone
  have hselect : (d.withKind .select).Uses s f := h.withKind .select
  constructor
  · rw [exists_keeps_iff_of_demand hselect hdemand]
    exact forall₂_congr fun r _ => exists_bind_pure_iff
  · intro kept hkept
    have hmem : ∀ r, r ∈ kept ↔ r ∈ records ∧
        ∃ t, f.kind.coerce (r.field f.key) = .ok (some t) ∧ v.CountsAs t := by
      intro r
      rw [mem_keeps_of_demand hselect hdemand hkept, admits_foreign hscalar hne hforeign]
    refine ⟨hmem, fun hnumber hboolean => ?_⟩
    refine List.eq_nil_iff_forall_not_mem.mpr fun r hr => ?_
    obtain ⟨-, t, ht, hcounts⟩ := (hmem r).mp hr
    have hkind : t.kind = f.kind := Kind.kind_of_coerce ht
    cases hcounts with
    | flag => exact hnumber hkind.symm _ rfl
    | number hfinite =>
      rw [hboolean hkind.symm] at hfinite
      cases hfinite

end FilterDefinition

namespace Sample

def byFinished : FilterDefinition := ⟨"finished", .checkbox, "Finished", true, none⟩

def inYear : FilterDefinition := ⟨"year", .select, "Year", true, none⟩

/-- The first two years. -/
def annals : List Record := [book 1 [("year", .int 1)], book 2 [("year", .int 2)]]

end Sample

namespace FilterDefinition

open Sample in
theorem keeps_foreign_books :
    ∃ kept, byFinished.Uses schema finished ∧ finished.kind.isArray = false ∧
      (Value.int 1).isEmpty = false ∧ finished.kind.coerce (.int 1) = .ok none ∧
      byFinished.ChoosesOne (.int 1) (.list [.int 1]) ∧
      byFinished.keeps schema [] [] books (.list [.int 1]) = .ok kept ∧
      kept.map Record.serial = [0, 1, 3] ∧
      (∀ r, r ∈ kept ↔ r ∈ books ∧ ∃ t,
        finished.kind.coerce (r.field finished.key) = .ok (some t) ∧ (Value.int 1).CountsAs t) ∧
      byFinished.keeps schema [] [] books (.list [.text "soon"]) = .ok [] := by
  have huses : byFinished.Uses schema finished := ⟨by decide, by decide⟩
  have hone : byFinished.ChoosesOne (.int 1) (.list [.int 1]) := .checkbox rfl
  have hsoon : byFinished.ChoosesOne (.text "soon") (.list [.text "soon"]) := .checkbox rfl
  have hserials : gives ((byFinished.keeps schema [] [] books (.list [.int 1])).map
      (·.map Record.serial)) [0, 1, 3] = true := by decide +kernel
  have hanswer : gives ((byFinished.keeps schema [] [] books (.list [.text "soon"])).map
      (·.map Record.serial)) [] = true := by decide +kernel
  obtain ⟨kept, hkept, hserials⟩ := map_eq_ok.mp (gives_iff.mp hserials)
  obtain ⟨nothing, hnothing, -⟩ := map_eq_ok.mp (gives_iff.mp hanswer)
  obtain ⟨-, hmem⟩ := keeps_foreign huses rfl rfl rfl hone [] [] books
  obtain ⟨-, hempty⟩ := keeps_foreign huses rfl (by decide) rfl hsoon [] [] books
  refine ⟨kept, huses, rfl, rfl, rfl, hone, hkept, hserials, (hmem kept hkept).1, ?_⟩
  rw [hnothing, (hempty nothing hnothing).2 (fun _ _ hv => by cases hv) (fun _ => rfl)]

open Sample in
/-- A truth value is no number, and yet its choice keeps the number that it counts as. -/
theorem keeps_flag_among_years :
    inYear.Uses printing year ∧ (Value.bool true).isEmpty = false ∧
      year.kind.coerce (.bool true) = .ok none ∧
      ∃ kept, inYear.keeps printing [] [] annals (.bool true) = .ok kept ∧
        kept.map Record.serial = [1] := by
  have hserials : gives ((inYear.keeps printing [] [] annals (.bool true)).map
      (·.map Record.serial)) [1] = true := by decide +kernel
  exact ⟨⟨by decide, by decide⟩, rfl, rfl, map_eq_ok.mp (gives_iff.mp hserials)⟩

end FilterDefinition
end Facets
