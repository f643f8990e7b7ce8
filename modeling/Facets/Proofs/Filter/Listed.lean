import Facets.Proofs.Filter.Options
import Mathlib.Data.Char
import Mathlib.Data.List.Lex
import Mathlib.Data.List.Sort
import Mathlib.Data.Prod.Lex
import Mathlib.Data.Set.List

/-
The order of listed texts.

Texts are listed by their fold, and those of one fold as they stand (`listedKey`).  No two
texts have one key, so the list is in strictly increasing order and does not depend on the
order in which the records and their items are met (`uniqueValues_of_texts`).
-/
namespace Facets

open Outcome

/-! ## The order of texts -/

theorem Text.compare_eq_lt_iff {s t : List Char} : compare s t = .lt ↔ s < t := by
  induction s generalizing t with
  | nil => cases t <;> simp
  | cons c s ih =>
    cases t with
    | nil => simp
    | cons d t =>
      rw [List.compare_cons_cons, Ordering.then_eq_lt, ih, List.cons_lt_cons_iff,
        compare_lt_iff_lt, compare_eq_iff_eq]

/-- The fold of a text, and the text. -/
def listedKey (s : String) : List Char ×ₗ List Char := toLex (Text.casefold s.toList, s.toList)

theorem listedKey_injective : Function.Injective listedKey := by
  intro s t h
  have hpair := toLex.injective h
  exact String.toList_injective (Prod.mk.inj hpair).2

variable {s t : String}

theorem listedBefore_iff : listedBefore s t = true ↔ listedKey s ≤ listedKey t := by
  have hgt : ∀ a b : List Char, compare a b = .gt ↔ b < a := fun a b => by
    rw [← Text.compare_eq_lt_iff]
    exact Std.OrientedCmp.gt_iff_lt
  rw [← not_lt, listedBefore, bne_iff_ne, Ne, Ordering.then_eq_gt, hgt, hgt,
    Std.LawfulEqCmp.compare_eq_iff_eq, listedKey, listedKey, Prod.Lex.toLex_lt_toLex]
  simp only [eq_comm]

/-- Different texts are listed in strictly increasing order. -/
theorem pairwise_listed {texts : List String} (h : texts.Nodup) :
    (texts.mergeSort listedBefore).Pairwise fun s t => listedKey s < listedKey t := by
  have hsorted : (texts.mergeSort listedBefore).Pairwise fun s t => listedBefore s t = true := by
    refine List.pairwise_mergeSort (fun s t u hst htu => ?_) (fun s t => ?_) texts
    · rw [listedBefore_iff] at hst htu ⊢
      exact le_trans hst htu
    · rw [Bool.or_eq_true, listedBefore_iff, listedBefore_iff]
      exact le_total _ _
  have hnodup := (List.mergeSort_perm texts listedBefore).nodup_iff.mpr h
  refine hsorted.imp₂ (fun s t hle hne => ?_) hnodup
  exact lt_of_le_of_ne (listedBefore_iff.mp hle) fun heq => hne (listedKey_injective heq)

/-- Texts in strictly increasing order are settled by which they are. -/
theorem eq_of_pairwise_listed {texts texts' : List String}
    (h : texts.Pairwise fun s t => listedKey s < listedKey t)
    (h' : texts'.Pairwise fun s t => listedKey s < listedKey t)
    (hmem : ∀ s, s ∈ texts ↔ s ∈ texts') : texts = texts' := by
  have hkeys : texts.map listedKey = texts'.map listedKey := by
    refine (List.pairwise_map.mpr h).eq_of_mem_iff (List.pairwise_map.mpr h') fun k => ?_
    simp only [List.mem_map, hmem]
  exact List.map_injective_iff.mpr listedKey_injective hkeys

/-! ## Fields of texts -/

/-- The field has no value, or it has a text or a list of texts. -/
def Record.HoldsTexts (key : String) (r : Record) : Prop :=
  ∀ v ∈ fieldItems key r, v = .null ∨ v.isText = true

variable {key : String} {records records' : List Record}

theorem exists_texts (h : ∀ r ∈ records, r.HoldsTexts key) :
    ∃ texts : List String, Value.distinct (listable key records) = texts.map .text ∧
      texts.Nodup := by
  have htext : ∀ v ∈ Value.distinct (listable key records), v ∈ Set.range Value.text := by
    intro v hv
    obtain ⟨⟨r, hr, hitem⟩, hne, -⟩ := mem_listable.mp (Value.distinct_subset _ hv)
    rcases h r hr v hitem with hnull | htext
    · rw [hnull] at hne
      cases hne
    · obtain ⟨s, hs⟩ := Value.exists_text_of_isText htext
      exact ⟨s, hs.symm⟩
  have hrange : Value.distinct (listable key records) ∈ Set.range (List.map Value.text) := by
    rw [Set.range_list_map]
    exact htext
  obtain ⟨texts, htexts⟩ := hrange
  refine ⟨texts, htexts.symm, ?_⟩
  have hapart := Value.apart_distinct (listable key records)
  rw [← htexts, List.pairwise_map] at hapart
  refine hapart.imp fun {s t} hst heq => ?_
  rw [heq, Value.same_refl] at hst
  cases hst

theorem uniqueValues_eq_of_texts {texts : List String}
    (h : Value.distinct (listable key records) = texts.map .text) :
    uniqueValues key records = .ok ((texts.mergeSort listedBefore).map .text) := by
  have hlisted : (texts.map Value.text).mapM (fun v => do
      let text ← v.display
      pure (text, v)) = .ok (texts.map fun s => (s, Value.text s)) := by
    rw [mapM_eq_ok, List.forall₂_map_left_iff, List.forall₂_map_right_iff, List.forall₂_same]
    exact fun s _ => rfl
  have hsort : ((texts.map fun s => (s, Value.text s)).mergeSort fun p q =>
      listedBefore p.1 q.1) = (texts.mergeSort listedBefore).map fun s => (s, Value.text s) := by
    refine (List.map_mergeSort fun s _ t _ => ?_).symm
    rfl
  rw [listable] at h
  rw [uniqueValues]
  simp only [h, hlisted, ok_bind, hsort, List.map_map]
  rfl

theorem mem_texts {texts : List String}
    (h : Value.distinct (listable key records) = texts.map .text) :
    s ∈ texts ↔ s ≠ "" ∧ ∃ r ∈ records, .text s ∈ fieldItems key r := by
  have hlistable : Value.text s ∈ listable key records ↔
      s ≠ "" ∧ ∃ r ∈ records, .text s ∈ fieldItems key r := by
    rw [mem_listable, and_comm]
    simp [Value.isEmpty, Value.isKey, Value.notKey?]
  have htexts : s ∈ texts ↔ Value.text s ∈ Value.distinct (listable key records) := by
    rw [h, List.mem_map_of_injective fun _ _ => Value.text.inj]
  rw [htexts, ← hlistable]
  constructor
  · exact fun hs => Value.distinct_subset _ hs
  · intro hs
    obtain ⟨v, hv, hsame⟩ := Value.exists_same_of_mem hs
    have hmem := hv
    rw [h] at hmem
    obtain ⟨t, -, rfl⟩ := List.mem_map.mp hmem
    rw [Value.same, beq_iff_eq] at hsame
    rwa [← hsame]

/-- The records in another order, each with its items in another order. -/
def Reordered (key : String) (records records' : List Record) : Prop :=
  ∃ moved, records.Perm moved ∧
    List.Forall₂ (fun r r' => (fieldItems key r).Perm (fieldItems key r')) moved records'

/-- The items are the same ones then. -/
theorem Reordered.exists_item_iff (h : Reordered key records records') (v : Value) :
    (∃ r ∈ records, v ∈ fieldItems key r) ↔ ∃ r ∈ records', v ∈ fieldItems key r := by
  obtain ⟨moved, hperm, hitems⟩ := h
  simp only [hperm.mem_iff]
  clear hperm
  induction hitems with
  | nil => rfl
  | cons hitem _ ih => rw [List.exists_mem_cons_iff, List.exists_mem_cons_iff, hitem.mem_iff, ih]

/-- The values of a field of texts are its different texts in strictly increasing order,
in whatever order records and items are met. -/
theorem uniqueValues_of_texts (h : ∀ r ∈ records, r.HoldsTexts key) :
    ∃ texts : List String, uniqueValues key records = .ok (texts.map .text) ∧
      (∀ s, s ∈ texts ↔ s ≠ "" ∧ ∃ r ∈ records, .text s ∈ fieldItems key r) ∧
      (texts.Pairwise fun s t => listedKey s < listedKey t) ∧
      ∀ records', Reordered key records records' →
        uniqueValues key records' = .ok (texts.map .text) := by
  obtain ⟨found, hfound, hnodup⟩ := exists_texts h
  refine ⟨found.mergeSort listedBefore, uniqueValues_eq_of_texts hfound, fun s => ?_,
    pairwise_listed hnodup, fun records' hreordered => ?_⟩
  · rw [List.mem_mergeSort]
    exact mem_texts hfound
  · have h' : ∀ r ∈ records', r.HoldsTexts key := by
      intro r hr v hv
      obtain ⟨r', hr', hv'⟩ := (hreordered.exists_item_iff v).mpr ⟨r, hr, hv⟩
      exact h r' hr' v hv'
    obtain ⟨found', hfound', hnodup'⟩ := exists_texts h'
    rw [uniqueValues_eq_of_texts hfound']
    congr 2
    refine eq_of_pairwise_listed (pairwise_listed hnodup') (pairwise_listed hnodup) fun s => ?_
    rw [List.mem_mergeSort, List.mem_mergeSort, mem_texts hfound, mem_texts hfound',
      hreordered.exists_item_iff]

namespace Sample

/-- Texts that are one but for their case, in a list and alone. -/
def named : List Record :=
  [⟨0, "x", "", .ofEntries [("name", .list [.text "sea", .text "", .text "Sea"])]⟩,
    ⟨1, "y", "", .ofEntries [("name", .text "land")]⟩, ⟨2, "z", "", .empty⟩]

/-- The same records the other way round, and the list as well. -/
def renamed : List Record :=
  [⟨2, "z", "", .empty⟩, ⟨1, "y", "", .ofEntries [("name", .text "land")]⟩,
    ⟨0, "x", "", .ofEntries [("name", .list [.text "Sea", .text "", .text "sea"])]⟩]

end Sample

open Sample in
theorem uniqueValues_of_texts_named :
    (∀ r ∈ named, r.HoldsTexts "name") ∧ Reordered "name" named renamed ∧
      ∃ texts : List String, uniqueValues "name" named = .ok (texts.map .text) ∧
        (∀ s, s ∈ texts ↔ s ≠ "" ∧ ∃ r ∈ named, .text s ∈ fieldItems "name" r) ∧
        (texts.Pairwise fun s t => listedKey s < listedKey t) ∧
        uniqueValues "name" renamed = .ok (texts.map .text) := by
  have hitems : named.map (fieldItems "name") =
      [[.text "sea", .text "", .text "Sea"], [.text "land"], [.null]] := rfl
  have htexts : ∀ v ∈ (named.map (fieldItems "name")).flatten, v = .null ∨ v.isText = true := by
    rw [hitems]
    simp [Value.isText]
  have hnamed : ∀ r ∈ named, r.HoldsTexts "name" := fun r hr v hv =>
    htexts v (List.mem_flatten_of_mem (List.mem_map_of_mem hr) hv)
  have hreordered : Reordered "name" named renamed := by
    refine ⟨named.reverse, (List.reverse_perm named).symm, ?_⟩
    have hnames := List.reverse_perm [Value.text "Sea", .text "", .text "sea"]
    exact .cons (.refl _) (.cons (.refl _) (.cons hnames .nil))
  obtain ⟨texts, htexts, hmem, hsorted, hsame⟩ := uniqueValues_of_texts hnamed
  exact ⟨hnamed, hreordered, texts, htexts, hmem, hsorted, hsame renamed hreordered⟩

end Facets
