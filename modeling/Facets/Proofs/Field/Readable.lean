import Facets.Proofs.Field.Limits
import Facets.Proofs.Field.Typing

/-
Values that a type can be read from.

Coercion has a result except where digits exceed the limit (`Kind.exists_coerce_iff`):
an integer that would have to be written, alone or inside of a label, and a text that
is an integer numeral, when it is read as a number.  Whatever else is stored becomes a
value of the type or nothing (`exists_coerceTo_iff`).
-/
namespace Facets

open Outcome

namespace Number

/-- A text is read unless it is an integer numeral with too many digits. -/
theorem exists_ofText_iff {s : String} :
    (∃ n, ofText s = .ok n) ↔ (Value.text s).isReadableLeaf = true := by
  constructor
  · rintro ⟨n, h⟩
    rw [Value.isReadableLeaf]
    rw [ofText] at h
    cases hread : Numeral.read? (Text.strip s.toList) with
    | none => rfl
    | some numeral =>
      rw [hread] at h
      simp only [Numeral.number] at h
      rw [Option.all_some, Bool.or_eq_true, Bool.not_eq_true', decide_eq_true_eq]
      cases hinteger : numeral.isInteger with
      | false => exact .inl rfl
      | true =>
        rw [hinteger, if_pos rfl] at h
        split at h
        · exact .inr ‹_›
        · cases h
  · intro h
    have hreadable : (Value.text s).Readable := h
    obtain ⟨n, hn, -⟩ := Value.exists_ofText hreadable
    exact ⟨n, hn⟩

end Number

/-! ## What digits stand in the way of -/

/-- An integer that can be written, or no integer. -/
def Value.IsWritableScalar (v : Value) : Prop := ∀ n, v = .int n → Value.isShort n = true

/-- No digits beyond the limit stand in the way of reading the value as this type. -/
def Kind.CanRead (k : Kind) (v : Value) : Prop :=
  match k with
  | .string | .array => v.IsWritableScalar
  | .number => v.isReadableLeaf = true
  | .labels => v.IsWritableScalar ∧ ∀ items, v.items? = some items → ∀ x ∈ items, x.Writable
  | .boolean | .date | .object => True

namespace Value

variable {v : Value}

theorem isWritableScalar_int {n : Int} (h : isShort n = true) : (Value.int n).IsWritableScalar := by
  intro m hm
  obtain rfl := Value.int.inj hm
  exact h

theorem writable_int {n : Int} (h : isShort n = true) : (Value.int n).Writable := by
  simpa only [Writable, everyLeaf, isShortLeaf] using h

theorem exists_asText_iff : (∃ text, v.asText = .ok text) ↔ v.IsWritableScalar := by
  cases v with
  | int n =>
    constructor
    · rintro ⟨text, h⟩
      rw [asText] at h
      obtain ⟨written, hwritten, -⟩ := map_eq_ok.mp h
      exact isWritableScalar_int (isShort_of_integerText hwritten)
    · intro h
      exact exists_asText (writable_int (h n rfl))
  | float _ => exact iff_of_true (exists_asText rfl) fun _ h => by cases h
  | _ => exact iff_of_true ⟨_, rfl⟩ fun _ h => by cases h

theorem exists_asNumber_iff : (∃ n, v.asNumber = .ok n) ↔ v.isReadableLeaf = true := by
  cases v with
  | text s => exact Number.exists_ofText_iff
  | float x => cases x <;> exact iff_of_true ⟨_, rfl⟩ rfl
  | _ => exact iff_of_true ⟨_, rfl⟩ rfl

theorem exists_asItems_iff : (∃ items, v.asItems = .ok items) ↔ v.IsWritableScalar := by
  cases v with
  | bool _ | int _ | float _ =>
    -- The only item is the text of the value.
    refine Iff.trans ?_ exists_asText_iff
    rw [asItems]
    constructor
    · rintro ⟨items, h⟩
      obtain ⟨text, htext, -⟩ := bind_eq_ok.mp h
      exact ⟨text, htext⟩
    · rintro ⟨text, htext⟩
      rw [htext, ok_bind]
      cases text <;> exact ⟨_, rfl⟩
  | _ => exact iff_of_true ⟨_, rfl⟩ fun _ h => by cases h

/-- Items have labels when all of them can be written.  Empty ones need none. -/
theorem exists_asLabels_of_items {items : List Value} (h : v.asItems = .ok (some items)) :
    (∃ labels, v.asLabels = .ok labels) ↔ ∀ x ∈ items, x.Writable := by
  rw [asLabels, h, ok_bind]
  dsimp only
  constructor
  · rintro ⟨labels, hlabels⟩ x hx
    obtain ⟨texts, htexts, -⟩ := bind_eq_ok.mp hlabels
    cases hempty : x.isEmpty with
    | true => exact writable_of_isEmpty hempty
    | false =>
      have hkept : x ∈ items.filter fun item => !item.isEmpty :=
        List.mem_filter.mpr ⟨hx, by rw [hempty]; rfl⟩
      obtain ⟨text, -, htext⟩ := ok_of_mapM_ok htexts x hkept
      exact exists_display_iff.mp ⟨text, htext⟩
  · intro hall
    have hkept : ∀ x ∈ items.filter fun item => !item.isEmpty, x.Writable := fun x hx =>
      hall x (List.mem_of_mem_filter hx)
    obtain ⟨texts, htexts⟩ := exists_displays hkept
    exact ⟨_, by rw [htexts]; rfl⟩

theorem exists_asLabels_iff : (∃ labels, v.asLabels = .ok labels) ↔ Kind.labels.CanRead v := by
  have hscalar : v.IsWritableScalar → v.items? = none → Kind.labels.CanRead v := by
    intro hint hnone
    refine ⟨hint, fun items hitems => ?_⟩
    rw [hnone] at hitems
    cases hitems
  cases v with
  | list items | tuple items =>
    cases items with
    | nil =>
      refine iff_of_true ⟨none, rfl⟩ ⟨fun _ h => (by cases h), fun items hitems x hx => ?_⟩
      rw [← Option.some.inj hitems] at hx
      cases hx
    | cons x xs =>
      rw [exists_asLabels_of_items rfl]
      constructor
      · intro hall
        refine ⟨fun _ h => (by cases h), fun items hitems => ?_⟩
        rw [← Option.some.inj hitems]
        exact hall
      · intro h
        exact h.2 _ rfl
  | int n =>
    constructor
    · rintro ⟨labels, h⟩
      obtain ⟨items, hitems, -⟩ := bind_eq_ok.mp h
      exact hscalar (exists_asItems_iff.mp ⟨items, hitems⟩) rfl
    · intro h
      exact exists_asLabels (writable_int (h.1 n rfl))
  | text _ | bool _ | float _ =>
    exact iff_of_true (exists_asLabels rfl) (hscalar (fun _ h => by cases h) rfl)
  | _ => exact iff_of_true ⟨_, rfl⟩ (hscalar (fun _ h => by cases h) rfl)

end Value

namespace Kind

variable {k : Kind} {v : Value}

theorem exists_convert_iff : (∃ x, k.convert v = .ok x) ↔ k.CanRead v := by
  cases k with
  | string => exact exists_bind_pure_iff.trans Value.exists_asText_iff
  | number => exact exists_bind_pure_iff.trans Value.exists_asNumber_iff
  | array => exact exists_bind_pure_iff.trans Value.exists_asItems_iff
  | labels => exact exists_bind_pure_iff.trans Value.exists_asLabels_iff
  | boolean | date | object => exact iff_of_true ⟨_, rfl⟩ trivial

/-- Coercion has a result exactly where no digits beyond the limit stand in the way. -/
theorem exists_coerce_iff : (∃ x, k.coerce v = .ok x) ↔ k.CanRead v := by
  rw [← exists_convert_iff, coerce]
  cases hempty : v.isEmpty with
  | true =>
    have hlimits : v.WithinLimits :=
      ⟨Value.writable_of_isEmpty hempty, Value.everyLeaf_of_isEmpty rfl rfl hempty⟩
    obtain ⟨x, hx, -⟩ := exists_convert k hlimits
    rw [if_pos rfl]
    exact iff_of_true ⟨none, rfl⟩ ⟨x, hx⟩
  | false => rw [if_neg Bool.false_ne_true]

/-- A numeral that cannot be read is not passed over. -/
theorem coerce_ne_ok_of_unreadable {s : String} {fault : Fault}
    (h : Number.ofText s = .error fault) {x : Option Typed} : number.coerce (.text s) ≠ .ok x := by
  intro hx
  have hread : number.CanRead (.text s) := exists_coerce_iff.mp ⟨x, hx⟩
  obtain ⟨n, hn⟩ := Number.exists_ofText_iff.mpr hread
  cases hn.symm.trans h

end Kind

/-- Coercion to any type, known or not, has a result unless digits exceed the limit,
and the result is nothing or a value of the type. -/
theorem exists_coerceTo_iff (tag : String) (v : Value) :
    ((∃ x, v.coerceTo tag = .ok x) ↔ ∀ k, Kind.ofTag? tag = some k → k.CanRead v) ∧
      ∀ t, v.coerceTo tag = .ok (some t) → ∃ k, Kind.ofTag? tag = some k ∧ k.Owns t.toValue := by
  rw [Value.coerceTo]
  cases hkind : Kind.ofTag? tag with
  | none =>
    refine ⟨iff_of_true ⟨none, rfl⟩ (fun k hk => by cases hk), fun t ht => ?_⟩
    cases Except.ok.inj ht
  | some k =>
    refine ⟨?_, fun t ht => ⟨k, rfl, Kind.owns_of_coerce ht⟩⟩
    constructor
    · intro h j hj
      rw [← Option.some.inj hj]
      exact Kind.exists_coerce_iff.mp h
    · intro h
      exact Kind.exists_coerce_iff.mpr (h k rfl)

/-- A year with too many digits is no number, and not nothing either. -/
theorem not_coerceTo_of_endless_year :
    ¬ ∃ x, (Value.text Sample.endlessYear).coerceTo Kind.number.tag = .ok x := by
  rintro ⟨x, h⟩
  rw [Value.coerceTo_tag] at h
  have hread : Kind.number.CanRead (.text Sample.endlessYear) := Kind.exists_coerce_iff.mp ⟨x, h⟩
  obtain ⟨n, hn⟩ := Number.exists_ofText_iff.mpr hread
  cases hn.symm.trans Sample.ofText_endlessYear

end Facets
