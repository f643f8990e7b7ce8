import Facets.Proofs.Group.Items
import Facets.Statistics.Basic

/-
Counts and groups by items.

Counting takes the keys of one record without repetitions, where grouping compares the
record with the last member of a group.  Both count a record once for each key, so the
count of a key is the size of its group and the number of records with a single value of
the key (`Statistics.counts_agree_with_groups`).
-/
namespace Facets

open Outcome

namespace Value

variable {k : Value} {keys : List Value}

theorem any_distinct (keys : List Value) (k : Value) :
    (distinct keys).any k.same = keys.any k.same := by
  rw [Bool.eq_iff_iff, List.any_eq_true, List.any_eq_true]
  constructor
  · intro h
    obtain ⟨l, hl, hsame⟩ := h
    exact ⟨l, distinct_subset keys hl, hsame⟩
  · intro h
    obtain ⟨l, hl, hsame⟩ := h
    obtain ⟨m, hm, hkept⟩ := exists_same_of_mem hl
    exact ⟨m, hm, same_trans hsame (same_symm hkept)⟩

/-- Of values that are apart at most one is one with a key. -/
theorem countP_of_apart (h : keys.Pairwise fun k l => k.same l = false) (k : Value) :
    keys.countP k.same = if keys.any k.same then 1 else 0 := by
  induction keys with
  | nil => rfl
  | cons l keys ih =>
    rw [List.pairwise_cons] at h
    rw [List.any_cons, List.countP_cons, ih h.2]
    by_cases hl : k.same l = true
    · have hrest : keys.any k.same = false := by
        rw [← Bool.not_eq_true, List.any_eq_true]
        intro hany
        obtain ⟨m, hm, hsame⟩ := hany
        exact absurd (same_trans (same_symm hl) hsame) (by simp [h.1 m hm])
      simp [hl, hrest]
    · simp [hl]

/-- Dropping what was met before and dropping repetitions first are one. -/
theorem distinct_append_distinct (seen keys : List Value) :
    distinct (seen ++ distinct keys) = distinct (seen ++ keys) := by
  induction keys using List.reverseRecOn with
  | nil => rfl
  | append_singleton keys v ih =>
    rw [← List.append_assoc, distinct_append (seen ++ keys), distinct_append keys]
    by_cases hold : (distinct keys).any (·.same v) = true
    · have hseen : (distinct (seen ++ keys)).any (·.same v) = true := by
        obtain ⟨w, hw, hsame⟩ := List.any_eq_true.mp hold
        obtain ⟨u, hu, hkept⟩ :=
          exists_same_of_mem (List.mem_append_right seen (distinct_subset keys hw))
        exact List.any_eq_true.mpr ⟨u, hu, same_trans hkept hsame⟩
      rw [if_pos hold, if_pos hseen, ih]
    · rw [if_neg hold, ← List.append_assoc, distinct_append, ih]

end Value

namespace Statistics

variable {key : String} {records : List Record} {counts : List (Value × Nat)} {r : Record}
  {k : Value} {keys : List Value}

/-! ## One record -/

/-- The field has a single value of this key. -/
def hasSingle (key : String) (k : Value) (r : Record) : Bool :=
  r.hasField key && (r.field key).items?.isNone && Value.hasKey k (r.field key)

/-- How often a key was counted. -/
def countOf (counts : List (Value × Nat)) (k : Value) : Nat :=
  (Assoc.find? Value.same k counts).getD 0

theorem countOf_countKey (counts : List (Value × Nat)) (key k : Value) :
    countOf (countKey key counts) k = countOf counts k + if k.same key then 1 else 0 := by
  unfold countOf countKey
  rw [Assoc.find?_update, Value.same_comm k key]
  split
  · rename_i hsame
    rw [Assoc.find?_eq_of_same hsame]
    rfl
  · rfl

theorem countOf_foldl (keys : List Value) (counts : List (Value × Nat)) (k : Value) :
    countOf (keys.foldl (fun counts k => countKey k counts) counts) k =
      countOf counts k + keys.countP k.same := by
  induction keys generalizing counts with
  | nil => rfl
  | cons key keys ih =>
    rw [List.foldl_cons, ih, countOf_countKey, List.countP_cons]
    omega

/-- The keys that are met in a record: one for each item of a list, and one for any other
value. -/
def metKeys (key : String) (r : Record) : Except Fault (List Value) :=
  if r.hasField key then
    match (r.field key).items? with
    | some items => Value.itemKeys items
    | none => do
      let k ← (r.field key).groupKey
      pure [k]
  else .ok []

theorem occurringKeys_eq (key : String) (r : Record) :
    occurringKeys key r = (do
      let keys ← metKeys key r
      pure (Value.distinct keys)) := by
  unfold occurringKeys metKeys
  split
  · rename_i hnull
    rw [Record.field_eq_null.mp hnull]
    rfl
  · rename_i hnull
    have hfield : r.hasField key = true := by
      rw [← Bool.not_eq_false, ← Record.field_eq_null]
      exact hnull
    rw [if_pos hfield]
    cases (r.field key).items? with
    | some items => rfl
    | none =>
      simp only [bind_assoc, pure_bind]
      rfl

theorem any_metKeys (h : metKeys key r = .ok keys) (k : Value) :
    keys.any k.same = (Group.hasItem key k r || hasSingle key k r) := by
  unfold metKeys at h
  unfold Group.hasItem hasSingle
  by_cases hfield : r.hasField key = true
  · rw [if_pos hfield] at h
    rw [hfield]
    cases hitems : (r.field key).items? with
    | some items =>
      rw [hitems] at h
      simpa using Value.any_itemKeys h k
    | none =>
      rw [hitems] at h
      obtain ⟨l, hl, h⟩ := bind_eq_ok.mp h
      simp [← pure_eq_ok.mp h, Value.hasKey, hl]
  · rw [if_neg hfield] at h
    have hnull := Record.field_eq_null.mpr (eq_false_of_ne_true hfield)
    rw [← Except.ok.inj h, hnull]
    simp [hfield, Value.items?]

/-- A list is no single value. -/
theorem not_hasItem_of_hasSingle (h : hasSingle key k r = true) :
    Group.hasItem key k r = false := by
  unfold hasSingle at h
  unfold Group.hasItem
  cases hitems : (r.field key).items? with
  | none => rfl
  | some items => simp [hitems] at h

/-! ## All records -/

theorem keys_of_countBy (h : countBy key records = .ok counts) :
    ∃ keys, records.mapM (metKeys key) = .ok keys ∧
      counts.map Prod.fst = Value.distinct keys.flatten := by
  refine foldlM_invariant (I := fun done counts => ∃ keys, done.mapM (metKeys key) = .ok keys ∧
    counts.map Prod.fst = Value.distinct keys.flatten) ⟨[], rfl, rfl⟩ ?_ h
  intro done r counts next hdone hnext
  obtain ⟨keys, hkeys, hcounts⟩ := hdone
  obtain ⟨occurring, hoccurring, hnext⟩ := bind_eq_ok.mp hnext
  rw [occurringKeys_eq] at hoccurring
  obtain ⟨new, hnew, hoccurring⟩ := bind_eq_ok.mp hoccurring
  rw [← pure_eq_ok.mp hnext, ← pure_eq_ok.mp hoccurring]
  refine ⟨keys ++ [new], ?_, ?_⟩
  · rw [mapM_eq_ok]
    exact List.rel_append (mapM_eq_ok.mp hkeys) (.cons hnew .nil)
  · rw [List.flatten_append, List.flatten_singleton, ← Value.distinct_append_distinct]
    exact Assoc.keys_foldl_update hcounts _ _

theorem countOf_countBy (h : countBy key records = .ok counts) (k : Value) :
    countOf counts k = records.countP (Group.hasItem key k) + records.countP (hasSingle key k) := by
  refine foldlM_invariant (I := fun done counts => countOf counts k =
    done.countP (Group.hasItem key k) + done.countP (hasSingle key k)) rfl ?_ h
  intro done r counts next hdone hnext
  obtain ⟨occurring, hoccurring, hnext⟩ := bind_eq_ok.mp hnext
  rw [occurringKeys_eq] at hoccurring
  obtain ⟨keys, hkeys, hoccurring⟩ := bind_eq_ok.mp hoccurring
  have honce : (Value.distinct keys).countP k.same =
      if Group.hasItem key k r || hasSingle key k r then 1 else 0 := by
    rw [Value.countP_of_apart (Value.apart_distinct keys), Value.any_distinct, any_metKeys hkeys]
  rw [← pure_eq_ok.mp hnext, ← pure_eq_ok.mp hoccurring, countOf_foldl, honce, hdone,
    List.countP_append, List.countP_append, List.countP_singleton, List.countP_singleton]
  cases hsingle : hasSingle key k r with
  | true =>
    rw [not_hasItem_of_hasSingle hsingle]
    simp
    omega
  | false =>
    cases Group.hasItem key k r <;> simp
    omega

theorem exists_metKeys_iff :
    (∃ keys, metKeys key r = .ok keys) ↔ (r.field key).canKey = true := by
  unfold metKeys
  by_cases hfield : r.hasField key = true
  · rw [if_pos hfield]
    cases hitems : (r.field key).items? with
    | some items => rw [Value.canKey_iff_of_items hitems, ← Value.exists_itemKeys_iff]
    | none => rw [exists_bind_pure_iff, Value.exists_groupKey_iff]
  · have hnull := Record.field_eq_null.mpr (eq_false_of_ne_true hfield)
    rw [if_neg hfield, hnull]
    exact iff_of_true ⟨[], rfl⟩ rfl

/-- Records can be counted exactly when the keys of all objects in their values can be
written. -/
theorem exists_countBy_iff : (∃ counts, countBy key records = .ok counts) ↔
    ∀ r ∈ records, (r.field key).canKey = true := by
  simp only [← exists_metKeys_iff]
  constructor
  · intro h
    obtain ⟨counts, h⟩ := h
    obtain ⟨keys, hkeys, -⟩ := keys_of_countBy h
    exact exists_mapM_ok_iff.mp ⟨keys, hkeys⟩
  · intro h
    refine exists_foldlM_ok (fun r hr counts => ?_) []
    obtain ⟨keys, hkeys⟩ := h r hr
    exact ⟨_, by rw [occurringKeys_eq, hkeys, ok_bind, pure_bind]; rfl⟩

/-- What can be counted can be grouped by its items. -/
theorem exists_byItem_of_countBy (h : countBy key records = .ok counts) :
    ∃ groups, Group.byItem key records = .ok groups := by
  refine Group.exists_byItem_iff.mpr fun r hr item hitem => ?_
  have hcan := exists_countBy_iff.mp ⟨counts, h⟩ r hr
  cases hitems : (r.field key).items? with
  | none =>
    rw [hitems] at hitem
    cases hitem
  | some items =>
    rw [hitems] at hitem
    exact (Value.canKey_iff_of_items hitems).mp hcan item hitem

/-! ## The most common key -/

/-- The first of the most frequent keys: keys before it are less frequent, and keys after it
are not more frequent. -/
def IsFirstMost (counts : List (Value × Nat)) (p : Value × Nat) : Prop :=
  ∃ before after, counts = before ++ p :: after ∧ (∀ q ∈ before, q.2 < p.2) ∧
    ∀ q ∈ after, q.2 ≤ p.2

namespace IsFirstMost

variable {p q : Value × Nat}

theorem mem (h : IsFirstMost counts p) : p ∈ counts := by
  obtain ⟨before, after, rfl, -, -⟩ := h
  exact List.mem_append_right _ List.mem_cons_self

theorem le (h : IsFirstMost counts p) (hq : q ∈ counts) : q.2 ≤ p.2 := by
  obtain ⟨before, after, rfl, hbefore, hafter⟩ := h
  rcases List.mem_append.mp hq with hq | hq
  · exact Nat.le_of_lt (hbefore q hq)
  · rcases List.mem_cons.mp hq with rfl | hq
    · exact Nat.le_refl _
    · exact hafter q hq

/-- Only a more frequent key displaces it. -/
theorem concat (h : IsFirstMost counts p) (q : Value × Nat) :
    IsFirstMost (counts ++ [q]) (if p.2 < q.2 then q else p) := by
  by_cases hlt : p.2 < q.2
  · rw [if_pos hlt]
    exact ⟨counts, [], rfl, fun s hs => Nat.lt_of_le_of_lt (h.le hs) hlt, by simp⟩
  · rw [if_neg hlt]
    obtain ⟨before, after, rfl, hbefore, hafter⟩ := h
    refine ⟨before, after ++ [q], by simp, hbefore, List.forall_mem_append.mpr ⟨hafter, ?_⟩⟩
    intro s hs
    rw [List.mem_singleton.mp hs]
    exact Nat.le_of_not_lt hlt

end IsFirstMost

theorem isFirstMost_firstMost {p : Value × Nat} (h : firstMost counts = some p) :
    IsFirstMost counts p := by
  cases counts with
  | nil => cases h
  | cons first rest =>
    rw [← Option.some.inj h]
    clear h
    induction rest using List.reverseRecOn with
    | nil => exact ⟨[], [], rfl, by simp, by simp⟩
    | append_singleton rest q ih =>
      rw [List.foldl_append, ← List.cons_append]
      exact ih.concat q

/-- The most common key: none without any key, or the first of those that no key is more
frequent than. -/
inductive IsMostCommon (counts : List (Value × Nat)) : Option Value → Prop
  | none (h : counts = []) : IsMostCommon counts none
  | first {k : Value} {n : Nat} (hfirst : IsFirstMost counts (k, n))
    (hmost : ∀ l, countOf counts l ≤ countOf counts k) : IsMostCommon counts (some k)

theorem exists_mostCommon (h : countBy key records = .ok counts) :
    ∃ most, mostCommon key records = .ok most ∧ IsMostCommon counts most := by
  rw [mostCommon, h, ok_bind]
  refine ⟨_, rfl, ?_⟩
  cases hmost : firstMost counts with
  | none =>
    cases counts with
    | nil => exact .none rfl
    | cons p rest => cases hmost
  | some p =>
    obtain ⟨keys, -, hkeys⟩ := keys_of_countBy h
    have hfirst := isFirstMost_firstMost hmost
    have hapart : (counts.map Prod.fst).Pairwise fun k l => k.same l = false :=
      hkeys ▸ Value.apart_distinct keys.flatten
    have hcount : countOf counts p.1 = p.2 := by
      rw [countOf, Assoc.find?_of_mem hapart hfirst.mem, Option.getD_some]
    refine .first hfirst fun l => ?_
    rw [hcount, countOf]
    cases hfind : Assoc.find? Value.same l counts with
    | none => exact Nat.zero_le _
    | some n =>
      obtain ⟨k, hk, -⟩ := Assoc.exists_mem_of_find? hfind
      exact hfirst.le hk

/-! ## Counts and groups -/

/-- Groups by items hold each record once for every key of its items, and counts are the
sizes of these groups and the numbers of single values.  Keys that are one are kept as one,
in the order in which they are first met, and of the most frequent ones the first is the
most common.  All of this exists as long as the keys of objects can be written. -/
theorem counts_agree_with_groups (key : String) (hserial : (records.map Record.serial).Nodup) :
    ((∃ groups, Group.byItem key records = .ok groups) ↔
      ∀ r ∈ records, ∀ item ∈ (r.field key).items?.getD [], item.canKey = true) ∧
    (∀ groups, Group.byItem key records = .ok groups → Groups.OfItems key groups records) ∧
    ((∃ counts, countBy key records = .ok counts) ↔
      ∀ r ∈ records, (r.field key).canKey = true) ∧
    ∀ counts, countBy key records = .ok counts →
      (∃ groups, Group.byItem key records = .ok groups ∧ ∀ k, countOf counts k =
        (groups.membersOf k).length + (records.filter (hasSingle key k)).length) ∧
      (∃ keys, records.mapM (metKeys key) = .ok keys ∧
        counts.map Prod.fst = Value.distinct keys.flatten) ∧
      ∃ most, mostCommon key records = .ok most ∧ IsMostCommon counts most := by
  refine ⟨Group.exists_byItem_iff, fun groups h => Group.ofItems_of_byItem h hserial,
    exists_countBy_iff, fun counts h => ⟨?_, keys_of_countBy h, exists_mostCommon h⟩⟩
  obtain ⟨groups, hgroups⟩ := exists_byItem_of_countBy h
  refine ⟨groups, hgroups, fun k => ?_⟩
  rw [countOf_countBy h, Group.membersOf_byItem hgroups hserial, List.countP_eq_length_filter,
    List.countP_eq_length_filter]

end Statistics

namespace Sample

/-- Records of which one repeats a tag and one has a single tag that is no list. -/
def coasts : List Record :=
  [⟨0, "tide", "", .ofEntries [("tags", .list [.text "sea", .text "land", .text "sea"])]⟩,
    ⟨1, "reef", "", .ofEntries [("tags", .text "sea")]⟩,
    ⟨2, "moor", "", .ofEntries [("tags", .tuple [.text "", .text "land"])]⟩]

end Sample

open Statistics Sample in
/-- Both tags are counted twice, and the one that is met first is the most common. -/
theorem Statistics.counts_agree_with_groups_coasts :
    (coasts.map Record.serial).Nodup ∧
      ∃ groups counts, Group.byItem "tags" coasts = .ok groups ∧
        Groups.OfItems "tags" groups coasts ∧ countBy "tags" coasts = .ok counts ∧
        counts.map Prod.snd = [2, 2] ∧
        (∀ k, countOf counts k =
          (groups.membersOf k).length + (coasts.filter (hasSingle "tags" k)).length) ∧
        ∃ most, mostCommon "tags" coasts = .ok most ∧ IsMostCommon counts most := by
  have hserial : (coasts.map Record.serial).Nodup := by decide
  have hcounted : gives ((countBy "tags" coasts).map fun counts => counts.map Prod.snd) [2, 2] =
      true := by decide +kernel
  obtain ⟨counts, hcounts, htwice⟩ := map_eq_ok.mp (gives_iff.mp hcounted)
  obtain ⟨-, hitems, -, hcount⟩ := counts_agree_with_groups "tags" hserial
  obtain ⟨⟨groups, hgroups, hsizes⟩, -, hmost⟩ := hcount counts hcounts
  exact ⟨hserial, groups, counts, hgroups, hitems groups hgroups, hcounts, htwice, hsizes, hmost⟩

open Statistics Sample in
/-- A record with one item can neither be grouped nor counted, if the item is an object whose
key cannot be written. -/
theorem Statistics.not_counts_agree_with_endless_key :
    (∀ r ∈ [shelved 0 (.list [endlessObject])], (r.field "shelf").isNaN = false) ∧
      (¬ ∃ groups, Group.byItem "shelf" [shelved 0 (.list [endlessObject])] = .ok groups) ∧
      ¬ ∃ counts, countBy "shelf" [shelved 0 (.list [endlessObject])] = .ok counts := by
  have hfield : (shelved 0 (.list [endlessObject])).field "shelf" = .list [endlessObject] := rfl
  refine ⟨fun r hr => ?_, fun hgroups => ?_, fun hcounts => ?_⟩
  · rw [List.mem_singleton.mp hr, hfield]
    rfl
  · have hitem := Group.exists_byItem_iff.mp hgroups _ List.mem_cons_self endlessObject
      (by rw [hfield]; exact List.mem_cons_self)
    rw [canKey_endlessObject] at hitem
    cases hitem
  · have hvalue := exists_countBy_iff.mp hcounts _ List.mem_cons_self
    rw [hfield, Value.canKey_iff_of_items rfl] at hvalue
    have hitem := hvalue endlessObject List.mem_cons_self
    rw [canKey_endlessObject] at hitem
    cases hitem

end Facets
