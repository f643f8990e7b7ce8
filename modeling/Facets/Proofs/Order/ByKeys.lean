import Facets.Proofs.Order.Sorted

/-
Records by several fields.

Sorting by each key in turn, from the last to the first, is one stable sort by
all keys together, the first key counting most.  The induction is on the keys:
a stable sort by the first key keeps the order that the others have made
wherever the first finds records equal.
-/
namespace Facets

open Outcome Facets.Order

/-- The order of two records by several keys: by the first, and where it finds
them equal by the others. -/
def Schema.compareByKeys (s : Schema) : List SortKey → Record → Record → Except Fault Ordering
  | [] => fun _ _ => .ok .eq
  | key :: keys => lexicographic (s.compareBy key) (s.compareByKeys keys)

namespace Order

variable {s : Schema} {keys : List SortKey} {records out : List Record}

theorem isPreorder_compareByKeys (s : Schema) (keys : List SortKey) :
    IsPreorder (s.compareByKeys keys) := by
  induction keys with
  | nil => exact isPreorder_eq
  | cons key keys ih => exact (s.isPreorder_compareBy key).lexicographic ih

theorem outcome_sortByKeys_cons (key : SortKey) :
    (sortByKeys (some s) (key :: keys) records).outcome =
      (sortByKeys (some s) keys records).outcome >>= fun sorted =>
        (sortBy (some s) key sorted).outcome :=
  Journaled.outcome_bind _ _

/-- Whenever a sort by several keys has an answer it is the stable sort by them. -/
theorem sortByKeys_isStableSort (h : (sortByKeys (some s) keys records).outcome = .ok out) :
    IsStableSort (s.compareByKeys keys) records out := by
  induction keys generalizing out with
  | nil =>
    obtain rfl := Except.ok.inj h
    exact isStableSort_eq records
  | cons key keys ih =>
    rw [outcome_sortByKeys_cons] at h
    obtain ⟨sorted, hsorted, hout⟩ := bind_eq_ok.mp h
    exact (ih hsorted).lexicographic (s.isPreorder_compareBy key) (Schema.sortBy_isStableSort hout)

/-- Records whose values can be compared by each key can be sorted by all. -/
theorem exists_sortByKeys
    (h : ∀ key ∈ keys, ∀ f, s.sortField? key.field = some f →
      ∀ r ∈ records, f.kind.CanRank (r.field key.field)) :
    ∃ out, (sortByKeys (some s) keys records).outcome = .ok out := by
  induction keys with
  | nil => exact ⟨records, rfl⟩
  | cons key keys ih =>
    obtain ⟨hkey, hkeys⟩ := List.forall_mem_cons.mp h
    obtain ⟨sorted, hsorted⟩ := ih hkeys
    have hperm := (sortByKeys_isStableSort hsorted).perm
    have hsorted' : ∀ f, s.sortField? key.field = some f →
        ∀ r ∈ sorted, f.kind.CanRank (r.field key.field) := fun f hf r hr =>
      hkey f hf r (hperm.mem_iff.mp hr)
    obtain ⟨out, hout⟩ := Schema.exists_sortBy hsorted'
    exact ⟨out, by rw [outcome_sortByKeys_cons, hsorted, ok_bind, hout]⟩

end Order

namespace Sample

/-- The second key names no field, so it tells no books apart. -/
def byProgress : List SortKey := [⟨"finished", false⟩, ⟨"author", true⟩, byTitle]

end Sample

/-- Records whose values have a plain text have one stable sort by all keys, and
sorting by each key in turn finds it. -/
theorem sortByKeys_unique_stableSort {s : Schema} {keys : List SortKey} {records : List Record}
    (hplain : ∀ key ∈ keys, ∀ f, s.field? key.field = some f → f.sortable = true →
      ∀ r ∈ records, ∃ text, f.kind.plain (r.field key.field) = .ok text) :
    ∃ out, (sortByKeys (some s) keys records).outcome = .ok out ∧
      ∀ l, IsStableSort (s.compareByKeys keys) records l ↔ l = out := by
  have hrank : ∀ key ∈ keys, ∀ f, s.sortField? key.field = some f →
      ∀ r ∈ records, f.kind.CanRank (r.field key.field) := by
    intro key hkey f hf r hr
    obtain ⟨hfield, hsortable⟩ := Schema.sortField?_eq_some.mp hf
    obtain ⟨text, htext⟩ := hplain key hkey f hfield hsortable r hr
    exact Kind.canRank_of_plain htext
  obtain ⟨out, hout⟩ := exists_sortByKeys hrank
  have hstable := sortByKeys_isStableSort hout
  refine ⟨out, hout, fun l => ⟨fun hl => ?_, fun hl => hl ▸ hstable⟩⟩
  exact hl.unique (isPreorder_compareByKeys s keys) hstable

open Sample in
theorem sortByKeys_unique_stableSort_books :
    ∃ out, (sortByKeys (some schema) byProgress books).outcome = .ok out ∧
      ∀ l, IsStableSort (schema.compareByKeys byProgress) books l ↔ l = out := by
  refine sortByKeys_unique_stableSort ?_
  simp only [byProgress, List.forall_mem_cons]
  refine ⟨fun f hf _ => ?_, fun f hf _ => ?_, fun f hf _ => ?_,
    fun _ h => absurd h List.not_mem_nil⟩
  · obtain rfl := Option.some.inj (hf : some finished = some f)
    simp only [books, List.forall_mem_cons]
    exact ⟨⟨_, rfl⟩, ⟨_, rfl⟩, ⟨_, rfl⟩, ⟨_, rfl⟩, fun _ h => absurd h List.not_mem_nil⟩
  · have hnone : none = some f := hf
    contradiction
  · obtain rfl := Option.some.inj (hf : some title = some f)
    exact plain_title

end Facets
