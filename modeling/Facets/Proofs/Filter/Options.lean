import Facets.Proofs.Filter.Built
import Facets.Proofs.Filter.Select
import Facets.Proofs.Filter.Total
import Facets.Proofs.Group.Members

/-
The values that a filter offers.

The listed values are the different items of the records (`uniqueValues_perm`).  On
built records a choice of an item keeps every record that has it
(`Choice.OnBuilt.keepsOwners`), for scalar types because stored values are compared as
they stand, and for list types because an item is its own text.  Both halves of
exactness (`Choice.OffersExactly`) follow from this, without looking at the type again.
-/
namespace Facets

open Outcome

/-! ## Listed values -/

section Listed

variable {key : String} {records : List Record} {values : List Value} {v : Value}

/-- The listed values are the different items, in another order. -/
theorem uniqueValues_perm (h : uniqueValues key records = .ok values) :
    values.Perm (Value.distinct (listable key records)) := by
  obtain ⟨listed, hlisted, h⟩ := bind_eq_ok.mp h
  obtain ⟨hvalues, -⟩ := map_snd_of_mapM_ok (g := fun v => v) hlisted
  rw [← pure_eq_ok.mp h]
  refine ((List.mergeSort_perm _ _).map _).trans (List.Perm.of_eq ?_)
  rw [hvalues, List.map_id']
  rfl

/-- A value is listed only if a record has it. -/
theorem exists_item_of_listed (h : uniqueValues key records = .ok values) (hv : v ∈ values) :
    (∃ r ∈ records, v ∈ fieldItems key r) ∧ v.isEmpty = false := by
  have hmem := Value.distinct_subset _ ((uniqueValues_perm h).mem_iff.mp hv)
  obtain ⟨hitem, hne, -⟩ := mem_listable.mp hmem
  exact ⟨hitem, hne⟩

theorem apart_of_listed (h : uniqueValues key records = .ok values) :
    values.Pairwise fun v w => v.same w = false := by
  refine (uniqueValues_perm h).symm.pairwise (Value.apart_distinct _) fun {v w} hvw => ?_
  rwa [Value.same_comm]

/-- For every item that can be a key, a value that is one with it is listed. -/
theorem exists_listed_of_item {r : Record} (h : uniqueValues key records = .ok values)
    (hr : r ∈ records) (hv : v ∈ fieldItems key r) (hne : v.isEmpty = false)
    (hkey : v.isKey = true) : ∃ w ∈ values, w.same v = true := by
  obtain ⟨w, hw, hsame⟩ := Value.exists_same_of_mem (mem_listable.mpr ⟨⟨r, hr, hv⟩, hne, hkey⟩)
  exact ⟨w, (uniqueValues_perm h).mem_iff.mpr hw, hsame⟩

end Listed

/-! ## Items of built records -/

def Value.isText : Value → Bool
  | .text _ => true
  | _ => false

theorem Value.exists_text_of_isText {v : Value} (h : v.isText = true) : ∃ text, v = .text text := by
  cases v with
  | text text => exact ⟨text, rfl⟩
  | _ => cases h

namespace Typed

variable {t : Typed}

theorem items?_toValue (hscalar : t.kind.isScalar = true) : t.toValue.items? = none := by
  cases t with
  | number n => cases n <;> rfl
  | text _ | flag _ | moment _ => rfl
  | items _ | labels _ | mapping _ => cases hscalar

theorem isKey_toValue (hscalar : t.kind.isScalar = true) : t.toValue.isKey = true := by
  cases t with
  | number n => cases n <;> rfl
  | text _ | flag _ | moment _ => rfl
  | items _ | labels _ | mapping _ => cases hscalar

/-- Only a long integer has no text. -/
theorem exists_display (hscalar : t.kind.isScalar = true)
    (hshort : ∀ n, t.toValue = .int n → Value.isShort n = true) :
    ∃ text, t.toValue.display = .ok text := by
  cases t with
  | number n =>
    cases n with
    | int n =>
      have hwritable : (Value.int n).Writable := by
        simpa only [Value.Writable, Value.everyLeaf, Value.isShortLeaf] using hshort n rfl
      exact Value.exists_display hwritable
    | float x => exact ⟨_, rfl⟩
  | text _ | flag _ | moment _ => exact ⟨_, rfl⟩
  | items _ | labels _ | mapping _ => cases hscalar

end Typed

namespace Record.Holds

variable {r : Record} {f : Field} {x : Option Typed} {v : Value}

/-- The only item of a scalar is the stored value. -/
theorem fieldItems_of_scalar (h : r.Holds f x) (hscalar : f.kind.isScalar = true) :
    fieldItems f.key r = [r.field f.key] := by
  have hitems : (r.field f.key).items? = none := by
    rw [h.field]
    cases x with
    | none => rfl
    | some t => exact Typed.items?_toValue (h.kind t rfl ▸ hscalar)
  rw [fieldItems, hitems]
  rfl

/-- An item of a scalar that is not empty is a typed value. -/
theorem exists_typed_of_item (h : r.Holds f x) (hscalar : f.kind.isScalar = true)
    (hv : v ∈ fieldItems f.key r) (hne : v.isEmpty = false) :
    ∃ t : Typed, t.Fit ∧ t.kind = f.kind ∧ v = t.toValue ∧ r.field f.key = v := by
  rw [h.fieldItems_of_scalar hscalar, List.mem_singleton, h.field] at hv
  cases x with
  | none =>
    rw [hv] at hne
    cases hne
  | some t => exact ⟨t, h.fit t rfl, h.kind t rfl, hv, h.field.trans hv.symm⟩

/-- An item of a list that is not empty stands in the stored list. -/
theorem mem_items_of_item (h : r.Holds f x) (harray : f.kind.isArray = true)
    (hv : v ∈ fieldItems f.key r) (hne : v.isEmpty = false) :
    ∃ items, (r.field f.key).items? = some items ∧ v ∈ items := by
  rw [fieldItems] at hv
  cases hitems : (r.field f.key).items? with
  | some items =>
    rw [hitems] at hv
    exact ⟨items, rfl, hv⟩
  | none =>
    rw [hitems, Option.getD_none, List.mem_singleton] at hv
    cases x with
    | none =>
      rw [hv, h.field] at hne
      cases hne
    | some t =>
      have ht : t.kind.isArray = true := h.kind t rfl ▸ harray
      rw [h.field] at hitems
      cases t with
      | items _ | labels _ => cases hitems
      | _ => cases ht

/-- Labels are texts. -/
theorem exists_text_of_labels (h : r.Holds f x) (hlabels : f.kind = .labels)
    (hv : v ∈ fieldItems f.key r) (hne : v.isEmpty = false) : ∃ s, v = .text s := by
  obtain ⟨items, hitems, hmem⟩ := h.mem_items_of_item (hlabels ▸ rfl) hv hne
  rw [h.field] at hitems
  cases x with
  | none => cases hitems
  | some t =>
    have ht : t.kind = .labels := (h.kind t rfl).trans hlabels
    cases t with
    | labels ls =>
      obtain rfl := Option.some.inj hitems
      obtain ⟨s, -, hs⟩ := List.mem_map.mp hmem
      exact ⟨s, hs.symm⟩
    | _ => cases ht

end Record.Holds

/-! ## Choosing an item -/

namespace Choice

open Constraint

variable {s : Schema} {f : Field} {d : FilterDefinition} {ranges : FieldRanges}
  {records : List Record} {r : Record} {v : Value}

/-- The items of list fields are texts, as far as they are not empty.  Labels are
texts anyway. -/
def HasTexts (f : Field) (records : List Record) : Prop :=
  f.kind = .array → ∀ r ∈ records, ∀ v ∈ fieldItems f.key r, v.isEmpty = false →
    v.isText = true

instance : Decidable (HasTexts f records) :=
  inferInstanceAs (Decidable (f.kind = .array → ∀ r ∈ records, ∀ v ∈ fieldItems f.key r,
    v.isEmpty = false → v.isText = true))

/-- A field of a schema with a choice, and records that are built for it. -/
structure OnBuilt (s : Schema) (f : Field) (d : FilterDefinition) (records : List Record) :
    Prop where
  selects : d.Selects s f
  kind : f.kind ≠ .object
  built : ∀ r ∈ records, r.IsBuilt s
  texts : HasTexts f records

namespace OnBuilt

theorem isScalar (h : OnBuilt s f d records) (harray : f.kind.isArray = false) :
    f.kind.isScalar = true := by
  have hkind := h.kind
  cases hk : f.kind <;> simp_all [Kind.isArray, Kind.isScalar]

/-- An item of a scalar is a typed value, which the record stores. -/
theorem exists_typed (h : OnBuilt s f d records) (harray : f.kind.isArray = false)
    (hr : r ∈ records) (hv : v ∈ fieldItems f.key r) (hne : v.isEmpty = false) :
    ∃ t : Typed, t.Fit ∧ t.kind = f.kind ∧ v = t.toValue ∧ r.field f.key = v := by
  obtain ⟨x, hx⟩ := (h.built r hr).exists_holds h.selects.mem
  exact hx.exists_typed_of_item (h.isScalar harray) hv hne

/-- An item of a list is a text. -/
theorem exists_text (h : OnBuilt s f d records) (harray : f.kind.isArray = true)
    (hr : r ∈ records) (hv : v ∈ fieldItems f.key r) (hne : v.isEmpty = false) :
    ∃ text, v = .text text := by
  cases hkind : f.kind with
  | array => exact Value.exists_text_of_isText (h.texts hkind r hr v hv hne)
  | labels =>
    obtain ⟨x, hx⟩ := (h.built r hr).exists_holds h.selects.mem
    exact hx.exists_text_of_labels hkind hv hne
  | _ =>
    rw [hkind] at harray
    cases harray

/-- Items that are not empty can be keys. -/
theorem isKey (h : OnBuilt s f d records) (hr : r ∈ records) (hv : v ∈ fieldItems f.key r)
    (hne : v.isEmpty = false) : v.isKey = true := by
  cases harray : f.kind.isArray with
  | true =>
    obtain ⟨text, rfl⟩ := h.exists_text harray hr hv hne
    rfl
  | false =>
    obtain ⟨t, -, hkind, rfl, -⟩ := h.exists_typed harray hr hv hne
    exact Typed.isKey_toValue (hkind ▸ h.isScalar harray)

/-- The items of a list can be compared by their texts. -/
theorem exists_display (h : OnBuilt s f d records) (harray : f.kind.isArray = true)
    (hr : r ∈ records) {items : List Value} (hitems : (r.field f.key).items? = some items) :
    ∀ v ∈ items, ∃ text, v.display = .ok text := by
  intro v hv
  have hitem : v ∈ fieldItems f.key r := by
    rw [fieldItems, hitems]
    exact hv
  cases hne : v.isEmpty with
  | true => exact Value.exists_display (Value.writable_of_isEmpty hne)
  | false =>
    obtain ⟨text, rfl⟩ := h.exists_text harray hr hitem hne
    exact ⟨text, rfl⟩

theorem admits_holds (h : OnBuilt s f d records) (harray : f.kind.isArray = true)
    (targets : List String) (hr : r ∈ records) :
    (Constraint.holds f.key targets).admits r =
      .ok (((r.field f.key).items?.getD []).any (isTarget targets)) := by
  rw [admits]
  cases hitems : (r.field f.key).items? with
  | none => rfl
  | some items => exact someTarget_eq_any (h.exists_display harray hr hitems) targets

/-- The choice leaves every record that has an item which is one with the chosen value. -/
def KeepsOwners (s : Schema) (f : Field) (d : FilterDefinition) (ranges : FieldRanges)
    (records : List Record) (v : Value) : Prop :=
  ∃ sel, (Filter.apply s [d] [(f.key, v)] ranges records).outcome = .ok sel ∧
    ∀ r ∈ records, (∃ w ∈ fieldItems f.key r, v.same w = true) → r ∈ sel.records records

theorem find?_choice (f : Field) (v : Value) :
    Assoc.find? (· == ·) f.key [(f.key, v)] = some v := by
  simp [Assoc.find?]

theorem keepsOwners_typed (h : OnBuilt s f d records) (harray : f.kind.isArray = false)
    {t : Typed} (ht : t.Fit) (hkind : t.kind = f.kind) :
    KeepsOwners s f d ranges records t.toValue := by
  have hscalar := h.isScalar harray
  obtain ⟨sel, hsel, hkept⟩ :=
    exists_apply_scalar h.selects hscalar h.built ht hkind (find?_choice f t.toValue)
  refine ⟨sel, hsel, fun r hr hitem => ?_⟩
  obtain ⟨w, hw, hsame⟩ := hitem
  obtain ⟨x, hx⟩ := (h.built r hr).exists_holds h.selects.mem
  rw [hx.fieldItems_of_scalar hscalar, List.mem_singleton] at hw
  rw [hkept, List.mem_filter, Value.same_comm, ← hw]
  exact ⟨hr, hsame⟩

theorem keepsOwners_text (h : OnBuilt s f d records) (harray : f.kind.isArray = true)
    {text : String} (htext : text ≠ "") : KeepsOwners s f d ranges records (.text text) := by
  obtain ⟨sel, hsel, hkept⟩ := exists_apply h.selects (find?_choice f (.text text))
    (select_text harray htext) fun r hr => h.admits_holds harray [text] hr
  refine ⟨sel, hsel, fun r hr hitem => ?_⟩
  obtain ⟨w, hw, hsame⟩ := hitem
  obtain rfl : w = .text text := by
    cases Value.alike_of_same hsame with
    | text _ => rfl
    | amount hv | members hv => cases hv
  obtain ⟨x, hx⟩ := (h.built r hr).exists_holds h.selects.mem
  have hne : (Value.text text).isEmpty = false := by simpa [Value.isEmpty] using htext
  obtain ⟨items, hitems, hmem⟩ := hx.mem_items_of_item harray hw hne
  have htarget : isTarget [text] (.text text) = true := by simp [isTarget, Value.display]
  rw [hkept, List.mem_filter, hitems]
  exact ⟨hr, List.any_eq_true.mpr ⟨_, hmem, htarget⟩⟩

/-- The choice of an item of a record keeps every record that has the item. -/
theorem keepsOwners (h : OnBuilt s f d records) (ranges : FieldRanges) (hr : r ∈ records)
    (hv : v ∈ fieldItems f.key r) (hne : v.isEmpty = false) :
    KeepsOwners s f d ranges records v := by
  cases harray : f.kind.isArray with
  | true =>
    obtain ⟨text, rfl⟩ := h.exists_text harray hr hv hne
    exact h.keepsOwners_text harray (by simpa [Value.isEmpty] using hne)
  | false =>
    obtain ⟨t, ht, hkind, rfl, -⟩ := h.exists_typed harray hr hv hne
    exact h.keepsOwners_typed harray ht hkind

end OnBuilt

/-! ## Exact options -/

/-- The offered values are exact: no two are one, each keeps some record when it is
chosen, and every record with an item is kept by one of them. -/
structure OffersExactly (s : Schema) (f : Field) (d : FilterDefinition) (ranges : FieldRanges)
    (records : List Record) (values : List Value) : Prop where
  apart : values.Pairwise fun v w => v.same w = false
  useful : ∀ v ∈ values, ∃ sel,
    (Filter.apply s [d] [(f.key, v)] ranges records).outcome = .ok sel ∧
      sel.records records ≠ []
  complete : ∀ r ∈ records, (∃ v ∈ fieldItems f.key r, v.isEmpty = false) →
    ∃ v ∈ values, ∃ sel,
      (Filter.apply s [d] [(f.key, v)] ranges records).outcome = .ok sel ∧
        r ∈ sel.records records

theorem OnBuilt.offersExactly (h : OnBuilt s f d records) (ranges : FieldRanges)
    {values : List Value} (hvalues : uniqueValues f.key records = .ok values) :
    OffersExactly s f d ranges records values where
  apart := apart_of_listed hvalues
  useful v hv := by
    obtain ⟨⟨r, hr, hitem⟩, hne⟩ := exists_item_of_listed hvalues hv
    obtain ⟨sel, hsel, hkept⟩ := h.keepsOwners ranges hr hitem hne
    exact ⟨sel, hsel, List.ne_nil_of_mem (hkept r hr ⟨v, hitem, v.same_refl⟩)⟩
  complete r hr hitem := by
    obtain ⟨w, hw, hne⟩ := hitem
    obtain ⟨v, hv, hsame⟩ := exists_listed_of_item hvalues hr hw hne (h.isKey hr hw hne)
    -- What is chosen may be another record's item that is one with this one.
    obtain ⟨⟨r₀, hr₀, hitem₀⟩, hne₀⟩ := exists_item_of_listed hvalues hv
    obtain ⟨sel, hsel, hkept⟩ := h.keepsOwners ranges hr₀ hitem₀ hne₀
    exact ⟨v, hv, sel, hsel, hkept r hr ⟨w, hw, hsame⟩⟩

/-- Only a stored integer can keep the values from being listed, by having no text. -/
theorem OnBuilt.exists_uniqueValues_iff (h : OnBuilt s f d records) :
    (∃ values, uniqueValues f.key records = .ok values) ↔
      ∀ r ∈ records, ∀ n, r.field f.key = .int n → Value.isShort n = true := by
  rw [Facets.exists_uniqueValues_iff]
  constructor
  · intro hall r hr n hn
    have hitem : Value.int n ∈ fieldItems f.key r := by
      rw [fieldItems, hn]
      exact List.mem_singleton_self _
    obtain ⟨w, hw, hsame⟩ :=
      Value.exists_same_of_mem (mem_listable.mpr ⟨⟨r, hr, hitem⟩, rfl, rfl⟩)
    obtain ⟨text, htext⟩ := hall w hw
    exact Value.isShort_of_same hsame htext
  · intro hshort v hv
    obtain ⟨⟨r, hr, hitem⟩, hne, -⟩ := mem_listable.mp (Value.distinct_subset _ hv)
    cases harray : f.kind.isArray with
    | true =>
      obtain ⟨text, rfl⟩ := h.exists_text harray hr hitem hne
      exact ⟨text, rfl⟩
    | false =>
      obtain ⟨t, -, hkind, rfl, hfield⟩ := h.exists_typed harray hr hitem hne
      exact Typed.exists_display (hkind ▸ h.isScalar harray) fun n hn =>
        hshort r hr n (hfield.trans hn)

/-- Without values of its own a choice offers those of the data. -/
theorem fieldOptions_eq_ok (h : d.Selects s f) (hoptions : d.options.getD [] = [])
    {options : List (String × List Value)} :
    fieldOptions s [d] records = .ok options ↔
      ∃ values, uniqueValues f.key records = .ok values ∧ options = [(f.key, values)] := by
  have hlisted : fieldOptions s [d] records =
      uniqueValues d.field records >>= fun values => pure [(d.field, values)] := by
    rw [fieldOptions, usableFilters_eq h, List.foldlM_cons, h.kind]
    cases hd : d.options with
    | none => simp [FilterKind.hasOptions]
    | some given =>
      rw [hd] at hoptions
      obtain rfl : given = [] := hoptions
      simp [FilterKind.hasOptions]
  rw [hlisted, bind_eq_ok, h.field]
  exact exists_congr fun values => and_congr_right fun _ => pure_eq_ok.trans eq_comm

end Choice

/-- A choice without values of its own offers, on records that are built for the schema,
exactly the values of the records.  They can be listed when the stored integers can be
written. -/
theorem fieldOptions_exact {s : Schema} {f : Field} {d : FilterDefinition}
    {records : List Record} (ranges : FieldRanges) (hd : d.Selects s f)
    (hoptions : d.options.getD [] = []) (hkind : f.kind ≠ .object)
    (hbuilt : ∀ r ∈ records, r.IsBuilt s) (htexts : Choice.HasTexts f records) :
    ((∃ options, fieldOptions s [d] records = .ok options) ↔
      ∀ r ∈ records, ∀ n, r.field f.key = .int n → Value.isShort n = true) ∧
    ∀ options, fieldOptions s [d] records = .ok options → ∃ values,
      options = [(f.key, values)] ∧ Choice.OffersExactly s f d ranges records values := by
  have hon : Choice.OnBuilt s f d records := ⟨hd, hkind, hbuilt, htexts⟩
  constructor
  · rw [← hon.exists_uniqueValues_iff]
    constructor
    · rintro ⟨options, h⟩
      obtain ⟨values, hvalues, -⟩ := (Choice.fieldOptions_eq_ok hd hoptions).mp h
      exact ⟨values, hvalues⟩
    · rintro ⟨values, hvalues⟩
      exact ⟨_, (Choice.fieldOptions_eq_ok hd hoptions).mpr ⟨values, hvalues, rfl⟩⟩
  · intro options h
    obtain ⟨values, hvalues, hlisted⟩ := (Choice.fieldOptions_eq_ok hd hoptions).mp h
    exact ⟨values, hlisted, hon.offersExactly ranges hvalues⟩

namespace Sample

/-- Lists of tags with a repeated one, empty ones and a label, and a single tag. -/
def clippings : List Record :=
  [book 0 [("tags", .list [.text "sea", .null, .text "[[Emma]]"])],
    book 1 [("tags", .text "Emma")], book 2 [("tags", .tuple [.text "sea", .text ""])], book 3 []]

theorem selects_tagChoice :
    FilterDefinition.Selects ⟨"tags", .select, "Tags", true, none⟩ tagged tags :=
  ⟨by decide, rfl, rfl, rfl, rfl⟩

theorem exists_clippings :
    ∃ built, clippings.mapM (Record.rebuild tagged) = .ok built ∧ Choice.HasTexts tags built ∧
      (∀ r ∈ built, Value.isShortLeaf (r.field "tags") = true) ∧
      built.map (fun r => (fieldItems "tags" r).length) = [3, 1, 2, 1] := by
  have hrun : gives ((clippings.mapM (Record.rebuild tagged)).map fun built =>
      (decide (Choice.HasTexts tags built ∧
        ∀ r ∈ built, Value.isShortLeaf (r.field "tags") = true),
        built.map fun r => (fieldItems "tags" r).length)) (true, [3, 1, 2, 1]) = true := by
    decide +kernel
  obtain ⟨built, hbuilt, h⟩ := map_eq_ok.mp (gives_iff.mp hrun)
  obtain ⟨hdecide, hlengths⟩ := Prod.mk.inj h
  obtain ⟨htexts, hshort⟩ := of_decide_eq_true hdecide
  exact ⟨built, hbuilt, htexts, hshort, hlengths⟩

end Sample

open Sample in
theorem fieldOptions_exact_clippings :
    ∃ built options values, clippings.mapM (Record.rebuild tagged) = .ok built ∧
      FilterDefinition.Selects ⟨"tags", .select, "Tags", true, none⟩ tagged tags ∧
      tags.kind ≠ .object ∧ (∀ r ∈ built, r.IsBuilt tagged) ∧ Choice.HasTexts tags built ∧
      built.map (fun r => (fieldItems "tags" r).length) = [3, 1, 2, 1] ∧
      fieldOptions tagged tagChoice built = .ok options ∧ options = [("tags", values)] ∧
      Choice.OffersExactly tagged tags ⟨"tags", .select, "Tags", true, none⟩ [] built values := by
  obtain ⟨built, hbuilt, htexts, hshort, hlengths⟩ := exists_clippings
  have hall := Record.isBuilt_of_mapM hbuilt
  have hkind : tags.kind ≠ .object := by decide
  obtain ⟨hlist, hexact⟩ := fieldOptions_exact [] selects_tagChoice rfl hkind hall htexts
  obtain ⟨options, hoptions⟩ := hlist.mpr fun r hr n hn => by
    have hleaf : Value.isShortLeaf (r.field tags.key) = true := hshort r hr
    rwa [hn] at hleaf
  obtain ⟨values, rfl, hvalues⟩ := hexact options hoptions
  exact ⟨built, _, values, hbuilt, selects_tagChoice, hkind, hall, htexts, hlengths, hoptions, rfl,
    hvalues⟩

namespace Sample

/-- A book with a number of pages that cannot be written. -/
def endlessBook : Record := book 0 [("pages", .int endless)]

theorem exists_endlessBook :
    ∃ built, endlessBook.rebuild schema = .ok built ∧ built.field "pages" = .int endless := by
  have hserial : gives ((endlessBook.rebuild schema).map Record.serial) 0 = true := by
    decide +kernel
  obtain ⟨built, hbuilt, -⟩ := map_eq_ok.mp (gives_iff.mp hserial)
  have hpages : pages ∈ schema.fields := by decide
  obtain ⟨x, hx, hfield⟩ := Record.field_rebuild hbuilt hpages
  have htyped : endlessBook.typed pages = .ok (some (.number (.int endless))) := rfl
  rw [← Except.ok.inj (htyped.symm.trans hx)] at hfield
  exact ⟨built, hbuilt, hfield⟩

end Sample

open Sample in
/-- On a built book whose number of pages cannot be written no options can be listed. -/
theorem not_fieldOptions_of_endlessBook :
    ∃ built, endlessBook.rebuild schema = .ok built ∧
      FilterDefinition.Selects ⟨"pages", .select, "Length", true, none⟩ schema pages ∧
      pages.kind ≠ .object ∧ Choice.HasTexts pages [built] ∧
      ¬ ∃ options,
        fieldOptions schema [⟨"pages", .select, "Length", true, none⟩] [built] = .ok options := by
  obtain ⟨built, hbuilt, hfield⟩ := exists_endlessBook
  have hselects : FilterDefinition.Selects ⟨"pages", .select, "Length", true, none⟩ schema pages :=
    ⟨by decide, rfl, rfl, rfl, rfl⟩
  have hkind : pages.kind ≠ .object := by decide
  have hrebuilt : [endlessBook].mapM (Record.rebuild schema) = .ok [built] := by
    rw [List.mapM_cons, hbuilt]
    rfl
  have hall := Record.isBuilt_of_mapM hrebuilt
  have htexts : Choice.HasTexts pages [built] := by
    intro harray
    cases harray
  have hon : Choice.OnBuilt schema pages ⟨"pages", .select, "Length", true, none⟩ [built] :=
    ⟨hselects, hkind, hall, htexts⟩
  refine ⟨built, hbuilt, hselects, hkind, htexts, fun hoptions => ?_⟩
  obtain ⟨options, h⟩ := hoptions
  obtain ⟨values, hvalues, -⟩ := (Choice.fieldOptions_eq_ok hselects rfl).mp h
  have hshort := hon.exists_uniqueValues_iff.mp ⟨values, hvalues⟩ built List.mem_cons_self
  have hwritten := hshort endless hfield
  rw [isShort_endless] at hwritten
  cases hwritten

end Facets
