import Facets.Field.Plain
import Facets.Proofs.Order.Comparator
import Facets.Proofs.Outcome
import Facets.Proofs.Text.Digits

/-
Coercion of what has been coerced.

What coercion gives is fit to be stored (`Kind.fit_of_coerce`): it is no empty
value, and no label is empty.  The second part needs that a value that is not empty
is not displayed as the empty text (`Value.display_ne_empty`).  What is fit is coerced
to itself (`Typed.coerce_toValue`), so coercing twice is coercing once.
-/
namespace Facets

open Outcome

/-! ## Texts of values -/

namespace Number

theorem integerChars_ne_nil (n : Int) : integerChars n ≠ [] := by
  unfold integerChars
  split
  · exact List.cons_ne_nil _ _
  · exact Text.decimal_ne_nil _

theorem integerText_ne_empty {n : Int} {s : String} (h : integerText n = .ok s) : s ≠ "" := by
  unfold integerText at h
  split at h
  · rw [← Except.ok.inj h, Ne, String.ofList_eq_empty_iff]
    exact integerChars_ne_nil n
  · cases h

theorem Layout.chars_ne_nil (l : Layout) (d : Decimal) : l.chars d ≠ [] := by
  unfold Layout.chars
  simp only
  split
  · split <;> simp
  · simp

theorem FiniteDouble.chars_ne_nil (x : FiniteDouble) : x.chars ≠ [] := by
  unfold FiniteDouble.chars
  simp only
  split
  · exact List.cons_ne_nil _ _
  · split
    · exact List.cons_ne_nil _ _
    · exact Layout.chars_ne_nil _ _

theorem Double.text_ne_empty (x : Double) : x.text ≠ "" := by
  rw [Double.text, Ne, String.ofList_eq_empty_iff]
  cases x with
  | finite x => exact x.chars_ne_nil
  | infinite negative => cases negative <;> decide
  | nan _ => simp [Double.chars]

theorem plain_ne_empty {n : Number} {s : String} (h : n.plain = .ok s) : s ≠ "" := by
  cases n with
  | int n =>
    rw [plain] at h
    exact integerText_ne_empty h
  | float x =>
    rw [plain] at h
    split at h
    · rw [← Except.ok.inj h, Ne, String.ofList_eq_empty_iff]
      exact integerChars_ne_nil _
    · rw [← Except.ok.inj h, Ne, String.ofList_eq_empty_iff]
      exact x.chars_ne_nil

end Number

theorem Range.text_ne_empty {r : Range} {separator s : String} (h : r.text separator = .ok s) :
    s ≠ "" := by
  obtain ⟨low, -, h⟩ := bind_eq_ok.mp h
  obtain ⟨high, -, h⟩ := bind_eq_ok.mp h
  rw [← pure_eq_ok.mp h]
  simp

namespace Value

variable {v : Value} {s : String}

theorem bracketed_ne_empty {opening : String} (h : opening ≠ "") (items : List String)
    (closing : String) : bracketed opening items closing ≠ "" := by
  simp [bracketed, h]

theorem tupleNotation_ne_empty (items : List String) : tupleNotation items ≠ "" := by
  unfold tupleNotation
  split
  · simp
  · exact bracketed_ne_empty (by decide) items _

theorem call_ne_empty (name : String) (arguments : List String) : call name arguments ≠ "" := by
  simp [call]

/-- No value has the empty notation. -/
theorem quoted_ne_empty (h : v.quoted = .ok s) : s ≠ "" := by
  cases v with
  | null =>
    rw [← Except.ok.inj h]
    decide
  | bool b =>
    rw [← Except.ok.inj h]
    cases b <;> decide
  | int n => exact Number.integerText_ne_empty h
  | float x =>
    rw [← Except.ok.inj h]
    exact x.text_ne_empty
  | text t =>
    rw [← Except.ok.inj h, Ne, Text.quoted, String.ofList_eq_empty_iff]
    exact List.append_ne_nil_of_left_ne_nil (List.cons_ne_nil _ _) _
  | dateTime _ _ | date _ | bytes _ | boolKey _ =>
    rw [← Except.ok.inj h]
    exact call_ne_empty _ _
  | mappingKey _ | range _ =>
    rw [quoted] at h
    obtain ⟨parts, -, h⟩ := bind_eq_ok.mp h
    rw [← pure_eq_ok.mp h]
    exact call_ne_empty _ _
  | tuple _ =>
    rw [quoted] at h
    obtain ⟨parts, -, h⟩ := bind_eq_ok.mp h
    rw [← pure_eq_ok.mp h]
    exact tupleNotation_ne_empty parts
  | list _ | dict _ =>
    rw [quoted] at h
    obtain ⟨parts, -, h⟩ := bind_eq_ok.mp h
    rw [← pure_eq_ok.mp h]
    exact bracketed_ne_empty (by decide) parts _
  | set _ | frozenSet _ =>
    rw [quoted] at h
    obtain ⟨parts, -, h⟩ := bind_eq_ok.mp h
    rw [← pure_eq_ok.mp h]
    split
    · decide
    · exact bracketed_ne_empty (by decide) parts _

/-- Only what is empty is displayed as the empty text. -/
theorem display_ne_empty (hv : v.isEmpty = false) (h : v.display = .ok s) : s ≠ "" := by
  cases v with
  | text t =>
    rw [← Except.ok.inj h]
    simpa [isEmpty] using hv
  | dateTime l o =>
    rw [← Except.ok.inj h, Ne, String.ofList_eq_empty_iff]
    simp [Calendar.dateTimeChars]
  | date d =>
    rw [← Except.ok.inj h, Ne, String.ofList_eq_empty_iff]
    simp [Calendar.isoDateChars, Calendar.monthDayChars]
  | range r => exact Range.text_ne_empty h
  | _ => exact quoted_ne_empty h

end Value

/-! ## Coercing twice -/

namespace Typed

/-- What can be stored for a field: no empty value, and no empty label. -/
def Fit (t : Typed) : Prop :=
  t.toValue.isEmpty = false ∧ ∀ ls, t = .labels ls → ∀ l ∈ ls, l ≠ ""

theorem fit_of_kind {t : Typed} {k : Kind} (hkind : t.kind = k) (hk : k ≠ .labels)
    (h : t.toValue.isEmpty = false) : t.Fit := by
  refine ⟨h, fun ls hls => ?_⟩
  rw [hls] at hkind
  exact absurd hkind.symm hk

end Typed

namespace Value

variable {v : Value}

theorem asText_ne_empty {s : String} (h : v.asText = .ok (some s)) : s ≠ "" := by
  cases v with
  | text t =>
    rw [asText] at h
    split at h
    · cases Except.ok.inj h
    · rename_i ht
      rwa [← Option.some.inj (Except.ok.inj h)]
  | bool b =>
    rw [← Option.some.inj (Except.ok.inj h)]
    cases b <;> decide
  | int n =>
    rw [asText] at h
    obtain ⟨s', hs, hsome⟩ := map_eq_ok.mp h
    rw [← Option.some.inj hsome]
    exact Number.plain_ne_empty hs
  | float x =>
    cases x with
    | finite x =>
      rw [asText] at h
      obtain ⟨s', hs, hsome⟩ := map_eq_ok.mp h
      rw [← Option.some.inj hsome]
      exact Number.plain_ne_empty hs
    | _ => cases Except.ok.inj h
  | _ => cases Except.ok.inj h

theorem asItems_ne_nil {items : List Value} (h : v.asItems = .ok (some items)) : items ≠ [] := by
  cases v with
  | list vs | tuple vs =>
    rw [asItems] at h
    split at h
    · cases Except.ok.inj h
    · rename_i hvs
      rw [← Option.some.inj (Except.ok.inj h)]
      simpa using hvs
  | text t =>
    rw [asItems] at h
    split at h
    · cases Except.ok.inj h
    · rw [← Option.some.inj (Except.ok.inj h)]
      exact List.cons_ne_nil _ _
  | bool _ | int _ | float _ =>
    rw [asItems] at h
    obtain ⟨text, -, h⟩ := bind_eq_ok.mp h
    cases text with
    | none =>
      rw [← Option.some.inj (pure_eq_ok.mp h)]
      exact List.cons_ne_nil _ _
    | some s =>
      rw [← Option.some.inj (pure_eq_ok.mp h)]
      exact List.cons_ne_nil _ _
  | _ => cases Except.ok.inj h

/-- There are labels only where there are some, and none of them is empty. -/
theorem asLabels_ne_empty {ls : List String} (h : v.asLabels = .ok (some ls)) :
    ls ≠ [] ∧ ∀ l ∈ ls, l ≠ "" := by
  obtain ⟨items, -, h⟩ := bind_eq_ok.mp h
  cases items with
  | none => cases pure_eq_ok.mp h
  | some items =>
    obtain ⟨labels, hlabels, h⟩ := bind_eq_ok.mp h
    have hsome := pure_eq_ok.mp h
    split at hsome
    · cases hsome
    · rename_i hne
      obtain rfl := Option.some.inj hsome
      refine ⟨by simpa using hne, fun l hl => ?_⟩
      obtain ⟨item, hitem, hdisplay⟩ := mem_of_mapM_ok hlabels l hl
      have hitemNe : item.isEmpty = false := by simpa using (List.mem_filter.mp hitem).2
      exact display_ne_empty hitemNe hdisplay

theorem asMapping_ne_nil {ps : List (Value × Value)} (h : v.asMapping = some ps) : ps ≠ [] := by
  cases v with
  | dict qs =>
    rw [asMapping] at h
    split at h
    · cases h
    · rename_i hqs
      rw [← Option.some.inj h]
      simpa using hqs
  | _ => cases h

end Value

namespace Kind

variable {k : Kind} {v : Value} {t : Typed}

/-- What coercion gives can be stored. -/
theorem fit_of_coerce (h : k.coerce v = .ok (some t)) : t.Fit := by
  have hkind := kind_of_coerce h
  unfold coerce at h
  split at h
  · cases Except.ok.inj h
  · cases k with
    | string =>
      obtain ⟨s, hs, h⟩ := bind_eq_ok.mp h
      obtain ⟨s, rfl, rfl⟩ := Option.map_eq_some_iff.mp (pure_eq_ok.mp h)
      refine Typed.fit_of_kind hkind (by decide) ?_
      simpa [Typed.toValue, Value.isEmpty] using Value.asText_ne_empty hs
    | number =>
      obtain ⟨n, -, h⟩ := bind_eq_ok.mp h
      obtain ⟨n, rfl, rfl⟩ := Option.map_eq_some_iff.mp (pure_eq_ok.mp h)
      cases n <;> exact Typed.fit_of_kind hkind (by decide) rfl
    | boolean =>
      obtain ⟨b, -, rfl⟩ := Option.map_eq_some_iff.mp (Except.ok.inj h)
      exact Typed.fit_of_kind hkind (by decide) rfl
    | date =>
      obtain ⟨m, -, rfl⟩ := Option.map_eq_some_iff.mp (Except.ok.inj h)
      exact Typed.fit_of_kind hkind (by decide) rfl
    | array =>
      obtain ⟨items, hitems, h⟩ := bind_eq_ok.mp h
      obtain ⟨items, rfl, rfl⟩ := Option.map_eq_some_iff.mp (pure_eq_ok.mp h)
      refine Typed.fit_of_kind hkind (by decide) ?_
      simpa [Typed.toValue, Value.isEmpty] using Value.asItems_ne_nil hitems
    | labels =>
      obtain ⟨ls, hls, h⟩ := bind_eq_ok.mp h
      obtain ⟨ls, rfl, rfl⟩ := Option.map_eq_some_iff.mp (pure_eq_ok.mp h)
      obtain ⟨hne, hall⟩ := Value.asLabels_ne_empty hls
      refine ⟨?_, ?_⟩
      · simpa [Typed.toValue, Value.isEmpty] using hne
      · intro ls' heq
        rw [← Typed.labels.inj heq]
        exact hall
    | object =>
      obtain ⟨ps, hps, rfl⟩ := Option.map_eq_some_iff.mp (Except.ok.inj h)
      refine Typed.fit_of_kind hkind (by decide) ?_
      simpa [Typed.toValue, Value.isEmpty] using Value.asMapping_ne_nil hps

end Kind

namespace Typed

variable {t : Typed}

theorem mapM_display_text (ls : List String) :
    (ls.map Value.text).mapM Value.display = .ok ls := by
  induction ls with
  | nil => rfl
  | cons l ls ih =>
    rw [List.map_cons, List.mapM_cons, ih]
    rfl

/-- What can be stored is coerced to itself. -/
theorem coerce_toValue (h : t.Fit) : t.kind.coerce t.toValue = .ok (some t) := by
  obtain ⟨hne, hlabels⟩ := h
  rw [Kind.coerce, if_neg (by simp [hne])]
  cases t with
  | text s =>
    have hs : s ≠ "" := by simpa [toValue, Value.isEmpty] using hne
    simp [kind, toValue, Kind.convert, Value.asText, hs]
  | number n => cases n <;> rfl
  | flag b => rfl
  | moment m => rfl
  | items vs =>
    have hvs : vs ≠ [] := by simpa [toValue, Value.isEmpty] using hne
    simp [kind, toValue, Kind.convert, Value.asItems, hvs]
  | labels ls =>
    have hls : ls ≠ [] := by simpa [toValue, Value.isEmpty] using hne
    have hfilter : (ls.map Value.text).filter (fun item => !item.isEmpty) = ls.map .text := by
      refine List.filter_eq_self.mpr fun item hitem => ?_
      obtain ⟨l, hl, rfl⟩ := List.mem_map.mp hitem
      simpa [Value.isEmpty] using hlabels ls rfl l hl
    have hitems : (Value.list (ls.map .text)).asItems = .ok (some (ls.map .text)) := by
      simp [Value.asItems, hls]
    have hread : (Value.list (ls.map .text)).asLabels = .ok (some ls) := by
      rw [Value.asLabels, hitems, ok_bind]
      simp only [hfilter]
      rw [mapM_display_text, ok_bind, if_neg (by simpa using hls)]
      rfl
    rw [kind, toValue, Kind.convert, hread]
    rfl
  | mapping ps =>
    have hps : ps ≠ [] := by simpa [toValue, Value.isEmpty] using hne
    simp [kind, toValue, Kind.convert, Value.asMapping, hps]

end Typed

/-- Coercing twice is coercing once, for every type. -/
theorem Kind.coerce_coerce {k : Kind} {v : Value} {x : Option Typed} (h : k.coerce v = .ok x) :
    k.coerce ((x.map Typed.toValue).getD .null) = .ok x := by
  cases x with
  | none => rfl
  | some t =>
    have hkind : t.kind = k := kind_of_coerce h
    rw [← hkind]
    exact Typed.coerce_toValue (fit_of_coerce h)

end Facets
