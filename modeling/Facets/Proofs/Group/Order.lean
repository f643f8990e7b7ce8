import Facets.Proofs.Filter.Listed
import Facets.Proofs.Group.Listing
import Facets.Proofs.Value.Limits

/-
Groups in the orders that have a name.

An order ranks groups by the text of their keys or by their sizes, and groups of one rank
stay as they stand in the mapping (`Order.IsRankedBy`).  Sizes always order groups; texts
do when every key has one, and then the group of the records without a value comes last
(`Groups.sortByName_ranks`).
-/
namespace Facets

open Outcome Facets.Order

/-! ## Ranks -/

namespace Order

variable {α κ : Type} [DecidableEq κ] {cmp : α → α → Except Fault Ordering} {rank : α → κ}
  {before : κ → κ → Prop} {l out : List α}

/-- `out` holds the items of `l` in the order of their ranks, and items of one rank as
they stand in `l`. -/
structure IsRankedBy (rank : α → κ) (before : κ → κ → Prop) (l out : List α) : Prop where
  perm : out.Perm l
  ordered : out.Pairwise fun x y => before (rank x) (rank y)
  stable : ∀ k, (out.filter fun x => rank x = k) = l.filter fun x => rank x = k

/-- A stable sort by a comparison of ranks. -/
theorem IsStableSort.isRankedBy (h : IsStableSort cmp l out)
    (hbefore : ∀ x ∈ l, ∀ y ∈ l, AtMost cmp x y → before (rank x) (rank y))
    (hties : ∀ x ∈ l, ∀ y ∈ l, (ties cmp x y = true ↔ rank y = rank x)) :
    IsRankedBy rank before l out where
  perm := h.perm
  ordered := h.ordered.imp_of_mem fun hx hy hxy =>
    hbefore _ (h.perm.mem_iff.mp hx) _ (h.perm.mem_iff.mp hy) hxy
  stable k := by
    by_cases hk : ∃ x ∈ l, rank x = k
    · obtain ⟨x, hx, rfl⟩ := hk
      have hclass : ∀ y ∈ l, (decide (rank y = rank x)) = ties cmp x y := fun y hy => by
        rw [Bool.eq_iff_iff, decide_eq_true_eq, hties x hx y hy]
      rw [List.filter_congr hclass, ← h.stable x hx]
      exact List.filter_congr fun y hy => hclass y (h.perm.mem_iff.mp hy)
    · -- No item has the rank, so neither side holds any.
      have hnone : ∀ y ∈ l, ¬ decide (rank y = k) = true := fun y hy hrank =>
        hk ⟨y, hy, decide_eq_true_eq.mp hrank⟩
      rw [List.filter_eq_nil_iff.mpr hnone, List.filter_eq_nil_iff]
      exact fun y hy => hnone y (h.perm.mem_iff.mp hy)

end Order

namespace Groups

variable {groups sorted : Groups} {g h : Value × List Record} {s t : String}

/-! ## Texts -/

/-- The group of the records without a value. -/
def hasNullKey (g : Value × List Record) : Bool :=
  match g.1 with
  | .null => true
  | _ => false

/-- The text of the key of a group. -/
def shownText (g : Value × List Record) : String := g.1.keyText.toOption.getD ""

/-- Every key has a text.  The groups of keys that are no null come in the order of the
folds of their texts and then of the texts, those of one text as they stand in the mapping,
and after them the group of the null key. -/
structure RanksTexts (groups sorted : Groups) : Prop where
  perm : sorted.Perm groups
  texts : ∀ g ∈ groups, g.1.keyText = .ok (shownText g)
  nullLast : ∃ named, sorted = named ++ groups.filter hasNullKey ∧
    IsRankedBy shownText (fun s t => listedKey s ≤ listedKey t)
      (groups.filter fun g => !hasNullKey g) named

theorem shownText_eq (hs : g.1.keyText = .ok s) : shownText g = s := by
  rw [shownText, hs]
  rfl

theorem listingKey_eq (hs : g.1.keyText = .ok s) :
    listingKey g.1 = .ok ⟨hasNullKey g, Text.casefold s.toList, s.toList⟩ := by
  unfold listingKey
  rw [hs]
  rfl

/-- Two groups whose keys have texts are compared by nulls, folds and texts. -/
theorem compare_alphabetical (hg : g.1.keyText = .ok s) (hh : h.1.keyText = .ok t) :
    GroupOrder.alphabetical.compare g h =
      .ok (ListingKey.compare ⟨hasNullKey g, Text.casefold s.toList, s.toList⟩
        ⟨hasNullKey h, Text.casefold t.toList, t.toList⟩) :=
  comparing_eq_ok.mpr ⟨_, _, listingKey_eq hg, listingKey_eq hh, rfl⟩

theorem isLE_compare_texts (b : Bool) :
    (ListingKey.compare ⟨b, Text.casefold s.toList, s.toList⟩
      ⟨b, Text.casefold t.toList, t.toList⟩).isLE = true ↔ listedKey s ≤ listedKey t := by
  have hself : Ord.compare b b = .eq := Std.ReflCmp.compare_self
  rw [← listedBefore_iff, listedBefore, ListingKey.compare, hself, Ordering.eq_then, bne_iff_ne,
    Ordering.isLE_iff_ne_gt]

section Texts

variable (hg : g.1.keyText = .ok s) (hh : h.1.keyText = .ok t)

include hg hh

theorem atMost_alphabetical (hnull : hasNullKey g = hasNullKey h) :
    AtMost GroupOrder.alphabetical.compare g h ↔ listedKey s ≤ listedKey t := by
  rw [atMost_iff (compare_alphabetical hg hh), hnull, isLE_compare_texts]

theorem ties_alphabetical (hnull : hasNullKey g = hasNullKey h) :
    ties GroupOrder.alphabetical.compare g h = true ↔ t = s := by
  have hpre := GroupOrder.alphabetical.isPreorder_compare
  have hle : AtMost GroupOrder.alphabetical.compare g h ↔ listedKey s ≤ listedKey t :=
    atMost_alphabetical hg hh hnull
  have hge : AtMost GroupOrder.alphabetical.compare h g ↔ listedKey t ≤ listedKey s :=
    atMost_alphabetical hh hg hnull.symm
  constructor
  · intro hties
    refine listedKey_injective (le_antisymm ?_ ?_)
    · exact hge.mp (.of_ties (hpre.ties_symm hties))
    · exact hle.mp (.of_ties hties)
  · rintro rfl
    exact hpre.ties_of_atMost (hle.mpr le_rfl) (hge.mpr le_rfl)

theorem compare_null_last (hgn : hasNullKey g = false) (hhn : hasNullKey h = true) :
    GroupOrder.alphabetical.compare g h = .ok .lt := by
  rw [compare_alphabetical hg hh, hgn, hhn]
  rfl

end Texts

theorem keyText_of_hasNullKey (hg : hasNullKey g = true) : g.1.keyText = .ok "" := by
  unfold hasNullKey at hg
  split at hg
  · rename_i hnull
    rw [hnull, Value.keyText]
  · cases hg

/-- Groups that are listed by their keys are ranked by the texts of the keys. -/
theorem ranksTexts_of_sort (h : groups.sort .alphabetical = .ok sorted) :
    RanksTexts groups sorted := by
  have hstable : IsStableSort GroupOrder.alphabetical.compare groups sorted := sort_isStableSort h
  have hpre := GroupOrder.alphabetical.isPreorder_compare
  have htexts : ∀ g ∈ groups, g.1.keyText = .ok (shownText g) := fun g hg => by
    obtain ⟨s, hs⟩ := Value.exists_keyText (exists_sort_alphabetical_iff.mp ⟨sorted, h⟩ g hg)
    rw [shownText_eq hs, hs]
  have hnulls : IsStableSort GroupOrder.alphabetical.compare (groups.filter hasNullKey)
      (groups.filter hasNullKey) := by
    refine .of_ordered (List.Pairwise.imp_of_mem ?_ (List.pairwise_of_forall fun _ _ => trivial))
    intro g g' hg hg' _
    have hgn := List.of_mem_filter hg
    have hgn' := List.of_mem_filter hg'
    exact (atMost_alphabetical (keyText_of_hasNullKey hgn) (keyText_of_hasNullKey hgn')
      (hgn.trans hgn'.symm)).mpr le_rfl
  have hnamed := hstable.filter fun g => !hasNullKey g
  refine ⟨hstable.perm, htexts, sorted.filter fun g => !hasNullKey g, ?_, ?_⟩
  · refine hstable.unique hpre (.append hpre hnamed hnulls fun g hg g' hg' hgn hgn' => ?_)
    exact compare_null_last (htexts g hg) (htexts g' hg') hgn hgn'
  · have hnot : ∀ {g}, g ∈ groups.filter (fun g => !hasNullKey g) →
        g.1.keyText = .ok (shownText g) ∧ hasNullKey g = false := fun hg => by
      obtain ⟨hg, hgn⟩ := List.mem_filter.mp hg
      exact ⟨htexts _ hg, by simpa using hgn⟩
    refine hnamed.isRankedBy (fun g hg g' hg' => ?_) fun g hg g' hg' => ?_
    · exact (atMost_alphabetical (hnot hg).1 (hnot hg').1
        ((hnot hg).2.trans (hnot hg').2.symm)).mp
    · exact ties_alphabetical (hnot hg).1 (hnot hg').1 ((hnot hg).2.trans (hnot hg').2.symm)

/-! ## Sizes -/

/-- Groups that are listed by their sizes are ranked by them. -/
theorem ranksSizes {o : GroupOrder} {cmp : Nat → Nat → Ordering} {before : Nat → Nat → Prop}
    [Std.LawfulEqCmp cmp]
    (ho : o.compare = comparing cmp fun g => .ok g.2.length)
    (hbefore : ∀ m n, (cmp m n).isLE = true → before m n) (h : groups.sort o = .ok sorted) :
    IsRankedBy (fun g => g.2.length) before groups sorted := by
  have hstable := sort_isStableSort h
  rw [ho] at hstable
  have hcmp : ∀ g g' : Value × List Record, comparing cmp (fun g : Value × List Record =>
      .ok g.2.length) g g' = .ok (cmp g.2.length g'.2.length) := fun g g' => rfl
  refine hstable.isRankedBy (fun g _ g' _ hle => ?_) fun g _ g' _ => ?_
  · exact hbefore _ _ ((atMost_iff (hcmp g g')).mp hle)
  · rw [ties_iff, hcmp, Except.ok.injEq, Std.LawfulEqCmp.compare_eq_iff_eq, eq_comm]

/-! ## Orders by name -/

theorem sortByName_name (o : GroupOrder) (groups : Groups) :
    groups.sortByName o.name = groups.sort o := by
  cases o <;> rfl

theorem sortByName_of_unknown {name : String} (h : ∀ o : GroupOrder, o.name ≠ name)
    (groups : Groups) : groups.sortByName name = .error (.unknownGroupOrder name) := by
  have hnone : GroupOrder.all.find? (·.name == name) = none := by
    rw [List.find?_eq_none]
    intro o _ hname
    exact h o (beq_iff_eq.mp hname)
  rw [sortByName, GroupOrder.ofName, hnone]
  rfl

/-- Every group is listed once.  By sizes groups can always be listed, and by texts exactly
when their keys can be written; no other name lists them. -/
theorem sortByName_ranks (groups : Groups) :
    ((∃ sorted, groups.sortByName "alphabetical" = .ok sorted) ↔ ∀ g ∈ groups, g.1.Writable) ∧
    (∀ sorted, groups.sortByName "alphabetical" = .ok sorted → RanksTexts groups sorted) ∧
    (∃ sorted, groups.sortByName "count-desc" = .ok sorted ∧
      IsRankedBy (fun g => g.2.length) (· ≥ ·) groups sorted) ∧
    (∃ sorted, groups.sortByName "count-asc" = .ok sorted ∧
      IsRankedBy (fun g => g.2.length) (· ≤ ·) groups sorted) ∧
    ∀ name, name ∉ ["alphabetical", "count-desc", "count-asc"] →
      groups.sortByName name = .error (.unknownGroupOrder name) := by
  have : Std.LawfulEqCmp fun m n : Nat => Ord.compare n m := Std.LawfulEqCmp.opposite
  refine ⟨?_, fun sorted h => ?_, ?_, ?_, fun name hname => ?_⟩
  · exact (sortByName_name .alphabetical groups) ▸ exists_sort_alphabetical_iff
  · exact ranksTexts_of_sort ((sortByName_name .alphabetical groups).symm.trans h)
  · obtain ⟨sorted, hsorted⟩ : ∃ sorted, groups.sort .largestFirst = .ok sorted := ⟨_, rfl⟩
    refine ⟨sorted, (sortByName_name .largestFirst groups).trans hsorted, ?_⟩
    exact ranksSizes rfl (fun m n hle => Nat.isLE_compare.mp hle) hsorted
  · obtain ⟨sorted, hsorted⟩ : ∃ sorted, groups.sort .smallestFirst = .ok sorted := ⟨_, rfl⟩
    refine ⟨sorted, (sortByName_name .smallestFirst groups).trans hsorted, ?_⟩
    exact ranksSizes rfl (fun m n hle => Nat.isLE_compare.mp hle) hsorted
  · refine sortByName_of_unknown (fun o ho => hname ?_) groups
    rw [← ho]
    cases o <;> decide

end Groups

namespace Sample

/-- Keys of which two have one text and two others one fold, and the null key first. -/
def mixed : Groups :=
  [(.null, [⟨0, "a", "", .empty⟩]), (.boolKey true, [⟨1, "b", "", .empty⟩]),
    (.tuple [.text "x", .text "y"], [⟨2, "c", "", .empty⟩]), (.text "true", [⟨3, "d", "", .empty⟩]),
    (.text "maybe", [⟨4, "e", "", .empty⟩]), (.text "Maybe", [⟨5, "f", "", .empty⟩])]

end Sample

open Sample in
theorem Groups.sortByName_ranks_mixed :
    ∃ sorted named, mixed.sortByName "alphabetical" = .ok sorted ∧ RanksTexts mixed sorted ∧
      sorted = named ++ [(.null, [⟨0, "a", "", .empty⟩])] ∧
      (named.filter fun g => shownText g = "true").map Prod.fst = [.boolKey true, .text "true"] := by
  obtain ⟨sorted, hsorted⟩ : ∃ sorted, mixed.sortByName "alphabetical" = .ok sorted := ⟨_, rfl⟩
  have hranks := (sortByName_ranks mixed).2.1 sorted hsorted
  obtain ⟨named, hnamed, htexts⟩ := hranks.nullLast
  refine ⟨sorted, named, hsorted, hranks, hnamed, ?_⟩
  rw [htexts.stable]
  rfl

open Sample in
/-- A group whose key cannot be written has no place among texts. -/
theorem Groups.not_sortByName_of_endless_key :
    ¬ ∃ sorted, Groups.sortByName "alphabetical" [(.int endless, [⟨0, "a", "", .empty⟩])] =
      .ok sorted := by
  intro hsorted
  obtain ⟨sorted, h⟩ := hsorted
  have hall := exists_sort_alphabetical_iff.mp
    ⟨sorted, (sortByName_name .alphabetical _).symm.trans h⟩
  exact not_writable_endless (hall (.int endless, [⟨0, "a", "", .empty⟩]) List.mem_cons_self)

end Facets
