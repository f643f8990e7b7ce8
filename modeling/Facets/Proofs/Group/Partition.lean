import Facets.Group.Basic
import Facets.Proofs.Outcome
import Mathlib.Algebra.Ring.Nat

/-
Groups as a partition.

A record joins the group of its key, or starts a new group at the end
(`Assoc.update_cases`).  Either way what has been grouped so far stays a partition
of the records met so far (`Groups.ByKey.add`), so grouping partitions all records
(`Group.byKey_partitions`).
-/
namespace Facets

open Outcome

/-- An update changes the value of the first entry of the key, or it adds an entry
at the end because there is none. -/
theorem Assoc.update_cases {κ α : Type} (same : κ → κ → Bool) (key : κ)
    (change : Option α → α) (entries : List (κ × α)) :
    (∃ before k v after, entries = before ++ (k, v) :: after ∧ same k key = true ∧
      update same key change entries = before ++ (k, change (some v)) :: after) ∨
    (∀ p ∈ entries, same p.1 key = false) ∧
      update same key change entries = entries ++ [(key, change none)] := by
  induction entries with
  | nil => exact .inr ⟨fun _ h => absurd h List.not_mem_nil, rfl⟩
  | cons p rest ih =>
    obtain ⟨k, v⟩ := p
    cases hk : same k key with
    | true => exact .inl ⟨[], k, v, rest, rfl, hk, by simp [update, hk]⟩
    | false =>
      rcases ih with ⟨before, k', v', after, rfl, hk', hupdate⟩ | ⟨hnone, hupdate⟩
      · exact .inl ⟨(k, v) :: before, k', v', after, rfl, hk', by simp [update, hk, hupdate]⟩
      · exact .inr ⟨List.forall_mem_cons.mpr ⟨hk, hnone⟩, by simp [update, hk, hupdate]⟩

/-! ## Partitions -/

/-- The parts hold every item of a list exactly once.  None is empty, and each
keeps the order of the list. -/
structure IsPartition {α : Type} (parts : List (List α)) (whole : List α) : Prop where
  perm : parts.flatten.Perm whole
  nonempty : ∀ part ∈ parts, part ≠ []
  inOrder : ∀ part ∈ parts, part.Sublist whole

namespace IsPartition

variable {α : Type} {parts parts' before after : List (List α)} {part whole : List α} {a : α}

/-- The parts of a partition may be listed in any order. -/
theorem of_perm (h : IsPartition parts whole) (hperm : parts'.Perm parts) :
    IsPartition parts' whole where
  perm := hperm.flatten.trans h.perm
  nonempty part hpart := h.nonempty part (hperm.mem_iff.mp hpart)
  inOrder part hpart := h.inOrder part (hperm.mem_iff.mp hpart)

theorem sum_length (h : IsPartition parts whole) : (parts.map List.length).sum = whole.length := by
  rw [← List.length_flatten, h.perm.length_eq]

/-- The next item joins a part. -/
theorem join (h : IsPartition (before ++ part :: after) whole) (a : α) :
    IsPartition (before ++ (part ++ [a]) :: after) (whole ++ [a]) where
  perm := by
    have hwhole : ((before ++ part :: after).flatten ++ [a]).Perm (whole ++ [a]) :=
      h.perm.append_right [a]
    refine List.Perm.trans ?_ hwhole
    simp only [List.flatten_append, List.flatten_cons, List.append_assoc]
    have hlast : ([a] ++ after.flatten).Perm (after.flatten ++ [a]) := List.perm_append_comm
    exact (hlast.append_left part).append_left before.flatten
  nonempty p hp := by
    rcases List.mem_append.mp hp with hp | hp
    · exact h.nonempty p (List.mem_append_left _ hp)
    · rcases List.mem_cons.mp hp with rfl | hp
      · exact List.append_ne_nil_of_right_ne_nil part (List.cons_ne_nil a [])
      · exact h.nonempty p (List.mem_append_right _ (List.mem_cons_of_mem _ hp))
  inOrder p hp := by
    have hgrow : whole.Sublist (whole ++ [a]) := List.sublist_append_left whole [a]
    rcases List.mem_append.mp hp with hp | hp
    · exact (h.inOrder p (List.mem_append_left _ hp)).trans hgrow
    · rcases List.mem_cons.mp hp with rfl | hp
      · have hpart : part.Sublist whole :=
          h.inOrder part (List.mem_append_right _ List.mem_cons_self)
        exact hpart.append (List.Sublist.refl [a])
      · exact (h.inOrder p (List.mem_append_right _ (List.mem_cons_of_mem _ hp))).trans hgrow

/-- The next item starts a part of its own. -/
theorem start (h : IsPartition parts whole) (a : α) :
    IsPartition (parts ++ [[a]]) (whole ++ [a]) where
  perm := by
    rw [List.flatten_append, List.flatten_singleton]
    exact h.perm.append_right [a]
  nonempty p hp := by
    rcases List.mem_append.mp hp with hp | hp
    · exact h.nonempty p hp
    · rw [List.mem_singleton.mp hp]
      exact List.cons_ne_nil a []
  inOrder p hp := by
    rcases List.mem_append.mp hp with hp | hp
    · exact (h.inOrder p hp).trans (List.sublist_append_left whole [a])
    · rw [List.mem_singleton.mp hp]
      exact List.sublist_append_right whole [a]

end IsPartition

/-! ## Groups by a key -/

/-- The groups of records by a key: a partition with one part for each key that
occurs.  The key of a group is that of its first member. -/
structure Groups.ByKey (keyOf : Record → Except Fault Value) (groups : Groups)
    (records : List Record) : Prop where
  partition : IsPartition (groups.map Prod.snd) records
  keyed : ∀ g ∈ groups, ∃ first rest, g.2 = first :: rest ∧ keyOf first = .ok g.1 ∧
    ∀ r ∈ rest, ∃ key, keyOf r = .ok key ∧ g.1.same key = true
  apart : (groups.map Prod.fst).Pairwise fun k l => k.same l = false

namespace Groups

variable {keyOf : Record → Except Fault Value} {groups : Groups} {records : List Record}
  {r : Record} {key : Value}

/-- One more record is grouped. -/
theorem ByKey.add (h : ByKey keyOf groups records) (hkey : keyOf r = .ok key) :
    ByKey keyOf (groups.add key r) (records ++ [r]) := by
  rcases Assoc.update_cases Value.same key (fun members => members.getD [] ++ [r]) groups with
    ⟨before, k, members, after, rfl, hsame, hadd⟩ | ⟨hnone, hadd⟩
  · -- The group of the key grows at its end, so its first member stays.
    obtain ⟨first, rest, hmembers, hfirst, hrest⟩ :=
      h.keyed (k, members) (List.mem_append_right _ List.mem_cons_self)
    rw [Groups.add, hadd]
    refine ⟨?_, fun g hg => ?_, ?_⟩
    · have hjoin := h.partition
      rw [List.map_append, List.map_cons] at hjoin ⊢
      exact hjoin.join r
    · rcases List.mem_append.mp hg with hg | hg
      · exact h.keyed g (List.mem_append_left _ hg)
      · rcases List.mem_cons.mp hg with rfl | hg
        · refine ⟨first, rest ++ [r], congrArg (· ++ [r]) hmembers, hfirst, fun r' hr' => ?_⟩
          rcases List.mem_append.mp hr' with hr' | hr'
          · exact hrest r' hr'
          · rw [List.mem_singleton.mp hr']
            exact ⟨key, hkey, hsame⟩
        · exact h.keyed g (List.mem_append_right _ (List.mem_cons_of_mem _ hg))
    · have hapart := h.apart
      rw [List.map_append, List.map_cons] at hapart ⊢
      exact hapart
  · -- The key is new, and the record starts its group.
    rw [Groups.add, hadd]
    refine ⟨?_, fun g hg => ?_, ?_⟩
    · rw [List.map_append]
      exact h.partition.start r
    · rcases List.mem_append.mp hg with hg | hg
      · exact h.keyed g hg
      · rw [List.mem_singleton.mp hg]
        exact ⟨r, [], rfl, hkey, by simp⟩
    · rw [List.map_append, List.pairwise_append]
      refine ⟨h.apart, List.pairwise_singleton _ _, fun k hk l hl => ?_⟩
      obtain ⟨p, hp, rfl⟩ := List.mem_map.mp hk
      rw [List.mem_singleton.mp hl]
      exact hnone p hp

end Groups

namespace Group

variable {keyOf : Record → Except Fault Value} {groups : Groups} {records : List Record}

/-- Grouping by a key partitions the records. -/
theorem byKey_partitions (h : byKey keyOf records = .ok groups) :
    Groups.ByKey keyOf groups records := by
  -- At each point the records that were met so far are grouped.
  refine foldlM_invariant (I := fun done groups => Groups.ByKey keyOf groups done) ?_ ?_ h
  · exact ⟨⟨.nil, by simp, by simp⟩, by simp, .nil⟩
  · intro done groups r next hdone hnext
    obtain ⟨key, hkey, hnext⟩ := bind_eq_ok.mp hnext
    rw [← pure_eq_ok.mp hnext]
    exact hdone.add hkey

theorem byField_eq_ok {key : String} :
    (byField key records).outcome = .ok groups ↔
      byKey (fun r => (r.field key).groupKey) records = .ok groups := by
  simp [byField, bind_eq_ok]

end Group
end Facets
