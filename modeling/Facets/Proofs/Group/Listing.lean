import Facets.Group.Sort
import Facets.Proofs.Order.Comparator
import Facets.Proofs.Value.Limits

/-
The order in which groups are listed.

`GroupOrder.compare` says how two groups are compared in each order: by the size
of the group, in one direction or the other, or by its key, the null key last and
the others by the fold of their text and then by the text.  Whenever groups can be
listed, the list is their stable sort by this comparison.
-/
namespace Facets

open Outcome Facets.Order

/-! ## Comparing by a key -/

namespace Order

/-- Items compared by a key that they may lack. -/
def comparing {α κ : Type} (cmp : κ → κ → Ordering) (keyOf : α → Except Fault κ) (x y : α) :
    Except Fault Ordering := do
  let k ← keyOf x
  let l ← keyOf y
  pure (cmp k l)

variable {α κ : Type} {cmp : κ → κ → Ordering} {keyOf : α → Except Fault κ} {x y : α}

theorem comparing_eq_ok {o : Ordering} :
    comparing cmp keyOf x y = .ok o ↔
      ∃ k l, keyOf x = .ok k ∧ keyOf y = .ok l ∧ cmp k l = o := by
  simp only [comparing, bind_eq_ok, pure_eq_ok, exists_and_left]

theorem isPreorder_comparing [Std.TransCmp cmp] : IsPreorder (comparing cmp keyOf) where
  swap h := by
    obtain ⟨k, l, hk, hl, rfl⟩ := comparing_eq_ok.mp h
    exact comparing_eq_ok.mpr ⟨l, k, hl, hk, Std.OrientedCmp.eq_swap⟩
  trans := by
    rintro x y z ⟨o, hxy, hle⟩ ⟨o', hyz, hle'⟩
    obtain ⟨k, l, hk, hl, rfl⟩ := comparing_eq_ok.mp hxy
    obtain ⟨l', m, hl', hm, rfl⟩ := comparing_eq_ok.mp hyz
    obtain rfl := Except.ok.inj (hl.symm.trans hl')
    exact ⟨cmp k m, comparing_eq_ok.mpr ⟨k, m, hk, hm, rfl⟩, Std.TransCmp.isLE_trans hle hle'⟩

/-- Items that are sorted by a key that each of them has are in stable order. -/
theorem isStableSort_comparing {β : Type} [Std.TransCmp cmp] (keyOf : α → Except Fault κ)
    (item : β → α) (key : β → κ) {bs : List β}
    (hkey : ∀ b ∈ bs, keyOf (item b) = .ok (key b)) {le : β → β → Bool}
    (hle : ∀ b c, le b c = true ↔ (cmp (key b) (key c)).isLE = true) :
    IsStableSort (comparing cmp keyOf) (bs.map item) ((bs.mergeSort le).map item) := by
  refine isStableSort_mergeSort isPreorder_comparing (fun a b c hab hbc => ?_) (fun b c => ?_)
    fun b hb c hc => ?_
  · rw [hle] at *
    exact Std.TransCmp.isLE_trans hab hbc
  · rw [Bool.or_eq_true, hle, hle, @Std.OrientedCmp.eq_swap _ cmp _ (key c) (key b)]
    cases cmp (key b) (key c) <;> decide
  · rw [hle, atMost_iff (comparing_eq_ok.mpr ⟨key b, key c, hkey b hb, hkey c hc, rfl⟩)]

end Order

/-! ## Comparing groups -/

instance : Std.TransCmp Groups.ListingKey.compare :=
  inferInstanceAs (Std.TransCmp (compareLex (compareLex (compareOn Groups.ListingKey.isNull)
    (compareOn Groups.ListingKey.folded)) (compareOn Groups.ListingKey.text)))

/-- How two groups are compared in an order: by what is shown of their keys, or by
their sizes. -/
def GroupOrder.compare : GroupOrder → Value × List Record → Value × List Record →
    Except Fault Ordering
  | .alphabetical => comparing Groups.ListingKey.compare fun g => Groups.listingKey g.1
  | .largestFirst => comparing (fun m n : Nat => Ord.compare n m) fun g => .ok g.2.length
  | .smallestFirst => comparing (fun m n : Nat => Ord.compare m n) fun g => .ok g.2.length

theorem GroupOrder.isPreorder_compare (o : GroupOrder) : IsPreorder o.compare := by
  have : Std.TransCmp fun m n : Nat => Ord.compare n m := Std.TransCmp.opposite
  cases o with
  | alphabetical => exact isPreorder_comparing
  | largestFirst => exact isPreorder_comparing
  | smallestFirst => exact isPreorder_comparing

namespace Groups

variable {groups sorted : Groups}

theorem exists_listingKey_iff {key : Value} :
    (∃ listing, listingKey key = .ok listing) ↔ key.Writable := by
  rw [← Value.exists_keyText_iff]
  exact exists_bind_pure_iff

/-- Groups can be listed by their keys exactly when the keys can be written. -/
theorem exists_sort_alphabetical_iff :
    (∃ sorted, groups.sort .alphabetical = .ok sorted) ↔ ∀ g ∈ groups, g.1.Writable := by
  simp only [← exists_listingKey_iff]
  refine exists_bind_pure_iff.trans (exists_mapM_ok_iff.trans ?_)
  exact forall₂_congr fun g _ => exists_bind_pure_iff

/-- Groups that are sorted by their sizes, in either direction, are in stable
order. -/
theorem isStableSort_bySize {cmp : Nat → Nat → Ordering} [Std.TransCmp cmp]
    {le : Value × List Record → Value × List Record → Bool}
    (hle : ∀ g h, le g h = true ↔ (cmp g.2.length h.2.length).isLE = true) :
    IsStableSort (comparing cmp fun g : Value × List Record => .ok g.2.length) groups
      (groups.mergeSort le) := by
  have hstable := isStableSort_comparing (fun g : Value × List Record => .ok g.2.length) id
    (fun g => g.2.length) (fun g (_ : g ∈ groups) => rfl) hle
  rwa [List.map_id, List.map_id] at hstable

/-- Listed groups are the groups in stable order. -/
theorem sort_isStableSort {o : GroupOrder} (h : groups.sort o = .ok sorted) :
    IsStableSort o.compare groups sorted := by
  have : Std.TransCmp fun m n : Nat => Ord.compare n m := Std.TransCmp.opposite
  cases o with
  | alphabetical =>
    obtain ⟨listed, hlisted, h⟩ := bind_eq_ok.mp h
    obtain rfl := pure_eq_ok.mp h
    obtain ⟨hsnd, hkeys⟩ := map_snd_of_mapM_ok (g := id) hlisted
    rw [List.map_id] at hsnd
    have hkey : ∀ p ∈ listed, listingKey p.2.1 = .ok p.1 := fun p hp => by
      obtain ⟨g, _, hg, hp⟩ := hkeys p hp
      rwa [← hp]
    have hle : ∀ p q : ListingKey × (Value × List Record),
        (p.1.compare q.1 != .gt) = true ↔ (p.1.compare q.1).isLE = true := fun p q => by
      cases p.1.compare q.1 <;> decide
    have hstable := isStableSort_comparing (fun g : Value × List Record => listingKey g.1)
      Prod.snd Prod.fst hkey hle
    rwa [hsnd] at hstable
  | largestFirst =>
    obtain rfl := Except.ok.inj h
    exact isStableSort_bySize fun g h => by rw [decide_eq_true_eq, Nat.isLE_compare]
  | smallestFirst =>
    obtain rfl := Except.ok.inj h
    exact isStableSort_bySize fun g h => by rw [decide_eq_true_eq, Nat.isLE_compare]

end Groups
end Facets
