import Facets.Proofs.Group.Members

/-
Groups by the items of a list field.

A record is put once into the group of each key that one of its items has: putting it
there again leaves the group as it is (`Record.joinOnce_joinOnce`).  So if no record
stands twice in a list, the group of a key is all records with an item of that key, in
their order (`Group.ofItems_of_byItem`).
-/
namespace Facets

open Outcome

/-! ## Keys of items -/

namespace Value

variable {v k l : Value} {items keys : List Value}

/-- The group key of the value is this one. -/
def hasKey (k v : Value) : Bool :=
  match v.groupKey with
  | .ok key => k.same key
  | .error _ => false

theorem hasKey_iff : hasKey k v = true ↔ ∃ key, v.groupKey = .ok key ∧ k.same key = true := by
  unfold hasKey
  cases v.groupKey <;> simp

def itemKeys (items : List Value) : Except Fault (List Value) :=
  (items.filter fun item => !item.isEmpty).mapM groupKey

theorem any_itemKeys (h : itemKeys items = .ok keys) (k : Value) :
    keys.any k.same = items.any fun item => !item.isEmpty && hasKey k item := by
  rw [Bool.eq_iff_iff, List.any_eq_true, List.any_eq_true]
  constructor
  · intro hkeys
    obtain ⟨key, hkey, hsame⟩ := hkeys
    obtain ⟨item, hitem, hgroup⟩ := mem_of_mapM_ok h key hkey
    obtain ⟨hitem, hne⟩ := List.mem_filter.mp hitem
    exact ⟨item, hitem, Bool.and_eq_true_iff.mpr ⟨hne, hasKey_iff.mpr ⟨key, hgroup, hsame⟩⟩⟩
  · intro hitems
    obtain ⟨item, hitem, h'⟩ := hitems
    obtain ⟨hne, hhas⟩ := Bool.and_eq_true_iff.mp h'
    obtain ⟨key, hgroup, hsame⟩ := hasKey_iff.mp hhas
    obtain ⟨key', hkey', hgroup'⟩ := ok_of_mapM_ok h item (List.mem_filter.mpr ⟨hitem, hne⟩)
    obtain rfl := Except.ok.inj (hgroup.symm.trans hgroup')
    exact ⟨key, hkey', hsame⟩

theorem exists_itemKeys_iff : (∃ keys, itemKeys items = .ok keys) ↔
    ∀ item ∈ items, item.canKey = true := by
  rw [itemKeys, exists_mapM_ok_iff]
  simp only [exists_groupKey_iff, List.mem_filter, Bool.not_eq_true', and_imp]
  refine forall₂_congr fun item _ => ⟨fun h => ?_, fun h _ => h⟩
  cases hempty : item.isEmpty with
  | true => exact canKey_of_isEmpty hempty
  | false => exact h hempty

end Value

/-! ## One record -/

/-- A record as one more member, unless it is the last one already. -/
def Record.joinOnce (r : Record) (members : List Record) : List Record :=
  if members.getLast?.any fun last => last.serial == r.serial then members
  else members ++ [r]

theorem Record.joinOnce_joinOnce (r : Record) (members : List Record) :
    r.joinOnce (r.joinOnce members) = r.joinOnce members := by
  by_cases hlast : (members.getLast?.any fun last => last.serial == r.serial) = true
  · have hjoin : r.joinOnce members = members := if_pos hlast
    rw [hjoin, hjoin]
  · have hjoin : r.joinOnce members = members ++ [r] := if_neg hlast
    rw [hjoin]
    exact if_pos (by simp)

theorem Record.joinOnce_of_fresh {r : Record} {members : List Record}
    (h : ∀ m ∈ members, m.serial ≠ r.serial) : r.joinOnce members = members ++ [r] := by
  refine if_neg ?_
  cases hlast : members.getLast? with
  | none => exact Bool.false_ne_true
  | some m => simpa using h m (List.mem_of_getLast? hlast)

namespace Groups

variable {groups : Groups} {r : Record} {k key : Value}

/-- The members of the group of a key, of which a key without a group has none. -/
def membersOf (groups : Groups) (k : Value) : List Record :=
  (Assoc.find? Value.same k groups).getD []

theorem membersOf_addOnce (groups : Groups) (key k : Value) (r : Record) :
    (groups.addOnce key r).membersOf k =
      if key.same k then r.joinOnce (groups.membersOf k) else groups.membersOf k := by
  unfold addOnce membersOf
  rw [Assoc.find?_update]
  split
  · rename_i hsame
    rw [Assoc.find?_eq_of_same hsame]
    rfl
  · rfl

/-- A record is put once into the group of each of the keys. -/
theorem membersOf_foldl (keys : List Value) (groups : Groups) (k : Value) (r : Record) :
    (keys.foldl (fun groups key => groups.addOnce key r) groups).membersOf k =
      if keys.any k.same then r.joinOnce (groups.membersOf k) else groups.membersOf k := by
  induction keys generalizing groups with
  | nil => rfl
  | cons key keys ih =>
    rw [List.foldl_cons, ih, membersOf_addOnce, List.any_cons, Value.same_comm k key]
    cases key.same k with
    | false => rfl
    | true => cases keys.any k.same <;> simp [Record.joinOnce_joinOnce]

end Groups

namespace Group

theorem addItems_eq (r : Record) (items : List Value) (groups : Groups) :
    addItems r items groups = (do
      let keys ← Value.itemKeys items
      pure (keys.foldl (fun groups key => groups.addOnce key r) groups)) := by
  induction items generalizing groups with
  | nil => rfl
  | cons v vs ih =>
    rw [addItems, Value.itemKeys]
    by_cases hv : v.isEmpty = true
    · rw [if_pos hv, List.filter_cons_of_neg (by simp [hv]), ih]
      rfl
    · rw [if_neg hv, List.filter_cons_of_pos (by simp [hv]), List.mapM_cons]
      simp only [bind_assoc, pure_bind, ih, List.foldl_cons]
      rfl

/-! ## All records -/

variable {key : String} {groups : Groups} {records : List Record} {r : Record} {k : Value}

/-- The keys of the items of a list field. -/
def keysOf (key : String) (r : Record) : Except Fault (List Value) :=
  Value.itemKeys ((r.field key).items?.getD [])

/-- The value of the field is a list with an item of this key. -/
def hasItem (key : String) (k : Value) (r : Record) : Bool :=
  ((r.field key).items?.getD []).any fun item => !item.isEmpty && Value.hasKey k item

theorem byItem_eq (key : String) (records : List Record) :
    byItem key records = records.foldlM (fun (groups : Groups) r => do
      let keys ← keysOf key r
      pure (keys.foldl (fun groups k => groups.addOnce k r) groups)) [] := by
  unfold byItem keysOf
  congr 1
  funext groups r
  cases (r.field key).items? with
  | none => rfl
  | some items => exact addItems_eq r items groups

/-- The groups have the keys of all items without repetitions, in the order in which they
are first met. -/
theorem keys_of_byItem (h : byItem key records = .ok groups) :
    ∃ keys, records.mapM (keysOf key) = .ok keys ∧
      groups.map Prod.fst = Value.distinct keys.flatten := by
  rw [byItem_eq] at h
  refine foldlM_invariant (I := fun done groups => ∃ keys, done.mapM (keysOf key) = .ok keys ∧
    groups.map Prod.fst = Value.distinct keys.flatten) ⟨[], rfl, rfl⟩ ?_ h
  intro done r groups next hdone hnext
  obtain ⟨keys, hkeys, hgroups⟩ := hdone
  obtain ⟨new, hnew, hnext⟩ := bind_eq_ok.mp hnext
  rw [← pure_eq_ok.mp hnext]
  refine ⟨keys ++ [new], ?_, ?_⟩
  · rw [mapM_eq_ok]
    exact List.rel_append (mapM_eq_ok.mp hkeys) (.cons hnew .nil)
  · rw [List.flatten_append, List.flatten_singleton]
    exact Assoc.keys_foldl_update hgroups new _

/-- Of records that stand once in a list, those with an item of a key are its group. -/
theorem membersOf_byItem (h : byItem key records = .ok groups)
    (hserial : (records.map Record.serial).Nodup) (k : Value) :
    groups.membersOf k = records.filter (hasItem key k) := by
  rw [byItem_eq] at h
  -- What has been met so far holds no record twice, so the next record is in no group yet.
  refine foldlM_invariant (I := fun done (groups : Groups) => (done.map Record.serial).Nodup →
    groups.membersOf k = done.filter (hasItem key k)) (fun _ => rfl) ?_ h hserial
  intro done r groups next hdone hnext hnodup
  rw [List.map_append, List.nodup_append] at hnodup
  obtain ⟨hnodup, -, hfresh⟩ := hnodup
  obtain ⟨keys, hkeys, hnext⟩ := bind_eq_ok.mp hnext
  have hjoin : r.joinOnce (done.filter (hasItem key k)) = done.filter (hasItem key k) ++ [r] := by
    refine Record.joinOnce_of_fresh fun m hm => ?_
    exact hfresh m.serial (List.mem_map_of_mem (List.mem_of_mem_filter hm)) r.serial (by simp)
  have hany : keys.any k.same = hasItem key k r := Value.any_itemKeys hkeys k
  rw [← pure_eq_ok.mp hnext, Groups.membersOf_foldl, hany, hdone hnodup, hjoin, List.filter_append]
  cases hitem : hasItem key k r with
  | true => rw [if_pos rfl, List.filter_cons_of_pos hitem, List.filter_nil]
  | false =>
    rw [if_neg Bool.false_ne_true, List.filter_cons_of_neg (by simp [hitem]), List.filter_nil,
      List.append_nil]

/-- Groups by items exist exactly when every item can have a key. -/
theorem exists_byItem_iff : (∃ groups, byItem key records = .ok groups) ↔
    ∀ r ∈ records, ∀ item ∈ (r.field key).items?.getD [], item.canKey = true := by
  have hkeys : (∃ keys, records.mapM (keysOf key) = .ok keys) ↔
      ∀ r ∈ records, ∀ item ∈ (r.field key).items?.getD [], item.canKey = true := by
    rw [exists_mapM_ok_iff]
    exact forall₂_congr fun r _ => Value.exists_itemKeys_iff
  rw [← hkeys]
  constructor
  · intro h
    obtain ⟨groups, h⟩ := h
    obtain ⟨keys, hkeys, -⟩ := keys_of_byItem h
    exact ⟨keys, hkeys⟩
  · intro h
    rw [exists_mapM_ok_iff] at h
    rw [byItem_eq]
    refine exists_foldlM_ok (fun r hr groups => ?_) []
    obtain ⟨keys, hkeys⟩ := h r hr
    exact ⟨_, by rw [hkeys, ok_bind]; rfl⟩

end Group

/-- What groups by the items of a field are. -/
structure Groups.OfItems (key : String) (groups : Groups) (records : List Record) : Prop where
  membersOf : ∀ k, groups.membersOf k = records.filter (Group.hasItem key k)
  members : ∀ g ∈ groups, g.2 = records.filter (Group.hasItem key g.1)
  nonempty : ∀ g ∈ groups, g.2 ≠ []
  apart : (groups.map Prod.fst).Pairwise fun k l => k.same l = false

theorem Group.ofItems_of_byItem {key : String} {groups : Groups} {records : List Record}
    (h : byItem key records = .ok groups) (hserial : (records.map Record.serial).Nodup) :
    Groups.OfItems key groups records := by
  obtain ⟨keys, hkeys, hgroups⟩ := keys_of_byItem h
  have hapart : (groups.map Prod.fst).Pairwise fun k l => k.same l = false :=
    hgroups ▸ Value.apart_distinct keys.flatten
  have hmembers : ∀ g ∈ groups, g.2 = records.filter (hasItem key g.1) := by
    intro g hg
    rw [← membersOf_byItem h hserial, Groups.membersOf, Assoc.find?_of_mem hapart hg,
      Option.getD_some]
  refine ⟨membersOf_byItem h hserial, hmembers, fun g hg => ?_, hapart⟩
  -- The key of a group is that of an item, whose record is a member.
  have hkey : g.1 ∈ keys.flatten := by
    refine Value.distinct_subset _ ?_
    rw [← hgroups]
    exact List.mem_map_of_mem hg
  obtain ⟨new, hnew, hmem⟩ := List.mem_flatten.mp hkey
  obtain ⟨r, hr, hread⟩ := mem_of_mapM_ok hkeys new hnew
  have hitem : hasItem key g.1 r = true := by
    rw [hasItem, ← Value.any_itemKeys hread]
    exact List.any_eq_true.mpr ⟨g.1, hmem, g.1.same_refl⟩
  rw [hmembers g hg]
  exact List.ne_nil_of_mem (List.mem_filter.mpr ⟨hr, hitem⟩)

end Facets
