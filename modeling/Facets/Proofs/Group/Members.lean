import Facets.Proofs.Group.Partition
import Facets.Proofs.Value.Limits

/-
The members of groups.

The group of a key is all records of that key, in their order
(`Groups.ByKey.members_eq`), and the keys stand in the order in which they are first
met (`Group.keys_of_byKey`).  `Groups.OfField` is what follows for the groups of a
field.  Grouping by month is grouping the records that have a date by its month,
and then sorting; `Groups.OfMonths` is what follows for it.
-/
namespace Facets

open Outcome

/-! ## Entries under keys that are one -/

namespace Assoc

variable {α : Type} {key k l : Value} {change : Option α → α} {entries : List (Value × α)}

/-- An update changes what is found for the keys that are one with its key. -/
theorem find?_update (key k : Value) (change : Option α → α) (entries : List (Value × α)) :
    find? Value.same k (update Value.same key change entries) =
      if key.same k then some (change (find? Value.same key entries))
      else find? Value.same k entries := by
  induction entries with
  | nil => rfl
  | cons p rest ih =>
    obtain ⟨l, v⟩ := p
    by_cases hl : l.same key = true
    · have hsame : l.same k = key.same k := by
        rw [Bool.eq_iff_iff]
        exact ⟨Value.same_trans (Value.same_symm hl), Value.same_trans hl⟩
      simp only [update, find?, if_pos hl, hsame]
      by_cases hk : key.same k = true
      · rw [if_pos hk, if_pos hk]
      · rw [if_neg hk, if_neg hk, if_neg hk]
    · rw [update, if_neg hl, find?, find?, find?, if_neg hl, ih]
      by_cases hk : l.same k = true
      · have hkey : ¬key.same k = true := fun hkey =>
          hl (Value.same_trans hk (Value.same_symm hkey))
        rw [if_pos hk, if_pos hk, if_neg hkey]
      · rw [if_neg hk, if_neg hk]

theorem find?_eq_of_same (h : k.same l = true) (entries : List (Value × α)) :
    find? Value.same k entries = find? Value.same l entries := by
  induction entries with
  | nil => rfl
  | cons p rest ih =>
    have hsame : p.1.same k = p.1.same l := by
      rw [Bool.eq_iff_iff]
      exact ⟨fun hk => Value.same_trans hk h, fun hl => Value.same_trans hl (Value.same_symm h)⟩
    rw [find?, find?, hsame, ih]

/-- The keys of entries are distinct as long as they are changed by updates alone. -/
theorem keys_update {keys : List Value} (h : entries.map Prod.fst = Value.distinct keys)
    (key : Value) (change : Option α → α) :
    (update Value.same key change entries).map Prod.fst = Value.distinct (keys ++ [key]) := by
  rw [Value.distinct_append, ← h]
  rcases update_cases Value.same key change entries with
    ⟨before, l, v, after, rfl, hsame, hupdate⟩ | ⟨hnone, hupdate⟩
  · rw [hupdate, if_pos]
    · simp
    · simp [hsame]
  · rw [hupdate, if_neg]
    · simp
    · simpa using hnone

theorem keys_foldl_update {seen : List Value} (h : entries.map Prod.fst = Value.distinct seen)
    (keys : List Value) (change : Option α → α) :
    (keys.foldl (fun entries key => update Value.same key change entries) entries).map Prod.fst =
      Value.distinct (seen ++ keys) := by
  induction keys generalizing entries seen with
  | nil => rw [List.append_nil, List.foldl_nil, h]
  | cons key keys ih =>
    rw [List.foldl_cons, List.append_cons]
    exact ih (keys_update h key change)

/-- What stands under distinct keys is found under them. -/
theorem find?_of_mem {p : Value × α}
    (h : (entries.map Prod.fst).Pairwise fun k l => k.same l = false) (hp : p ∈ entries) :
    find? Value.same p.1 entries = some p.2 := by
  induction entries with
  | nil => cases hp
  | cons q rest ih =>
    rw [List.map_cons, List.pairwise_cons] at h
    rw [find?]
    rcases List.mem_cons.mp hp with rfl | hp
    · rw [if_pos (Value.same_refl _)]
    · rw [h.1 p.1 (List.mem_map_of_mem hp), if_neg Bool.false_ne_true, ih h.2 hp]

end Assoc

/-! ## Keys -/

namespace Value

variable {v k : Value}

theorem eq_null_of_same (h : v.same .null = true) : v = .null := by
  cases v <;> simp [same, amount?] at h ⊢

/-- A key that is null or no number is the value itself. -/
theorem eq_of_keyPart (h : v.keyPart = .ok k) (hk : k = .null ∨ k.isNaN = true) : v = k := by
  cases v with
  | null | int _ | float _ | text _ | dateTime _ _ | date _ | boolKey _ =>
    exact Except.ok.inj h
  | bool _ | bytes _ =>
    obtain rfl := Except.ok.inj h
    simp [isNaN] at hk
  | list _ | tuple _ | dict _ | set _ | frozenSet _ | range _ =>
    rw [keyPart] at h
    obtain ⟨_, _, h⟩ := bind_eq_ok.mp h
    obtain rfl := pure_eq_ok.mp h
    simp [isNaN] at hk
  | mappingKey _ =>
    rw [keyPart] at h
    split at h
    · exact Except.ok.inj h
    · obtain ⟨_, _, h⟩ := bind_eq_ok.mp h
      obtain rfl := pure_eq_ok.mp h
      simp [isNaN] at hk

/-- Only what is empty has the null key. -/
theorem groupKey_eq_null : v.groupKey = .ok .null ↔ v.isEmpty = true := by
  unfold groupKey
  constructor
  · intro h
    split at h
    · assumption
    · rw [eq_of_keyPart h (.inl rfl)]
      rfl
  · intro h
    rw [if_pos h]

/-- The key of a value that is equal to itself is equal to itself. -/
theorem isNaN_of_groupKey (h : v.groupKey = .ok k) (hv : v.isNaN = false) : k.isNaN = false := by
  unfold groupKey at h
  split at h
  · rw [← Except.ok.inj h]
    rfl
  · cases hk : k.isNaN with
    | false => rfl
    | true => rw [← hk, ← eq_of_keyPart h (.inr hk), hv]

end Value

/-- A field is read as null when it has no value. -/
theorem Record.field_eq_null {r : Record} {key : String} :
    r.field key = .null ↔ r.hasField key = false := by
  unfold hasField field
  cases r.fields.get? key with
  | none => simp [Value.isEmpty]
  | some v =>
    cases h : v.isEmpty with
    | true =>
      simp only [h, if_true, true_iff]
      rfl
    | false =>
      simp only [h, Bool.false_eq_true, if_false, Bool.not_false, reduceCtorEq, iff_false]
      rintro rfl
      exact absurd h (by decide)

/-! ## Groups by a key -/

namespace Groups

variable {keyOf : Record → Except Fault Value} {groups : Groups} {records : List Record}
  {r : Record} {g : Value × List Record} {k : Value}

/-- The record has this key. -/
def isAt (keyOf : Record → Except Fault Value) (k : Value) (r : Record) : Bool :=
  match keyOf r with
  | .ok key => k.same key
  | .error _ => false

theorem isAt_iff : isAt keyOf k r = true ↔ ∃ key, keyOf r = .ok key ∧ k.same key = true := by
  unfold isAt
  cases keyOf r <;> simp

/-- Keys that are one have the same records. -/
theorem isAt_eq_of_same {l : Value} (h : k.same l = true) : isAt keyOf k = isAt keyOf l := by
  funext r
  rw [Bool.eq_iff_iff, isAt_iff, isAt_iff]
  constructor
  · rintro ⟨key, hkey, hat⟩
    exact ⟨key, hkey, Value.same_trans (Value.same_symm h) hat⟩
  · rintro ⟨key, hkey, hat⟩
    exact ⟨key, hkey, Value.same_trans h hat⟩

namespace ByKey

theorem isAt_of_mem (h : ByKey keyOf groups records) (hg : g ∈ groups) (hr : r ∈ g.2) :
    isAt keyOf g.1 r = true := by
  obtain ⟨first, rest, hmembers, hfirst, hrest⟩ := h.keyed g hg
  rw [hmembers] at hr
  rcases List.mem_cons.mp hr with rfl | hr
  · exact isAt_iff.mpr ⟨g.1, hfirst, g.1.same_refl⟩
  · exact isAt_iff.mpr (hrest r hr)

theorem exists_group (h : ByKey keyOf groups records) (hr : r ∈ records) :
    ∃ g ∈ groups, r ∈ g.2 := by
  obtain ⟨part, hpart, hr⟩ := List.mem_flatten.mp (h.partition.perm.mem_iff.mpr hr)
  obtain ⟨g, hg, rfl⟩ := List.mem_map.mp hpart
  exact ⟨g, hg, hr⟩

/-- The group of a key is all records of that key. -/
theorem members_eq (h : ByKey keyOf groups records) (hg : g ∈ groups) :
    g.2 = records.filter (isAt keyOf g.1) := by
  have hall : g.2.filter (isAt keyOf g.1) = g.2 :=
    List.filter_eq_self.mpr fun r hr => h.isAt_of_mem hg hr
  -- The key of any other group is another one, so no record of it has this key.
  have hflat : (groups.map Prod.snd).flatten.filter (isAt keyOf g.1) = g.2 := by
    obtain ⟨before, after, hgroups⟩ := List.append_of_mem hg
    have hapart := h.apart
    rw [hgroups, List.map_append, List.map_cons, List.pairwise_append, List.pairwise_cons] at hapart
    obtain ⟨-, ⟨hafter, -⟩, hbefore⟩ := hapart
    have hnone : ∀ g' ∈ groups, g.1.same g'.1 = false → g'.2.filter (isAt keyOf g.1) = [] := by
      intro g' hg' hother
      refine List.filter_eq_nil_iff.mpr fun r hr hat => ?_
      obtain ⟨key, hkey, hsame⟩ := isAt_iff.mp hat
      obtain ⟨key', hkey', hsame'⟩ := isAt_iff.mp (h.isAt_of_mem hg' hr)
      obtain rfl := Except.ok.inj (hkey.symm.trans hkey')
      exact absurd (Value.same_trans hsame (Value.same_symm hsame')) (by simp [hother])
    have hothers : ∀ others : Groups, others ⊆ groups →
        (∀ g' ∈ others, g.1.same g'.1 = false) →
          (others.map Prod.snd).flatten.filter (isAt keyOf g.1) = [] := by
      intro others hsub hother
      rw [List.filter_flatten, List.flatten_eq_nil_iff]
      intro part hpart
      obtain ⟨g', hg', rfl⟩ : ∃ g' ∈ others, g'.2.filter (isAt keyOf g.1) = part := by
        simpa using hpart
      exact hnone g' (hsub hg') (hother g' hg')
    have hb := hothers before (by simp [hgroups]) fun g' hg' => by
      rw [Value.same_comm]
      exact hbefore g'.1 (List.mem_map_of_mem hg') g.1 List.mem_cons_self
    have ha := hothers after (by simp [hgroups]) fun g' hg' =>
      hafter g'.1 (List.mem_map_of_mem hg')
    rw [hgroups, List.map_append, List.map_cons, List.flatten_append, List.flatten_cons,
      List.filter_append, List.filter_append, hb, ha, hall, List.nil_append, List.append_nil]
  have hperm := h.partition.perm.filter (isAt keyOf g.1)
  have hsub := (h.partition.inOrder g.2 (List.mem_map_of_mem hg)).filter (isAt keyOf g.1)
  rw [hflat] at hperm
  rw [hall] at hsub
  exact hsub.eq_of_length hperm.length_eq

/-- Looking up the key of a record gives all records of that key. -/
theorem find?_eq (h : ByKey keyOf groups records) (hr : r ∈ records) (hkey : keyOf r = .ok k) :
    Assoc.find? Value.same k groups = some (records.filter (isAt keyOf k)) := by
  obtain ⟨g, hg, hmem⟩ := h.exists_group hr
  obtain ⟨_, hkey', hat⟩ := isAt_iff.mp (h.isAt_of_mem hg hmem)
  obtain rfl := Except.ok.inj (hkey.symm.trans hkey')
  obtain ⟨members, hfind⟩ := Assoc.exists_find?_of_same hg hat
  obtain ⟨l, hl, hsame⟩ := Assoc.exists_mem_of_find? hfind
  have hmembers : members = records.filter (isAt keyOf l) := h.members_eq hl
  rw [hfind, hmembers, isAt_eq_of_same hsame]

/-- Two records are in one group exactly when their keys are one. -/
theorem together_iff (h : ByKey keyOf groups records) {r' : Record} (hr : r ∈ records)
    (hr' : r' ∈ records) :
    (∃ g ∈ groups, r ∈ g.2 ∧ r' ∈ g.2) ↔
      ∃ key key', keyOf r = .ok key ∧ keyOf r' = .ok key' ∧ key.same key' = true := by
  constructor
  · rintro ⟨g, hg, hmem, hmem'⟩
    obtain ⟨key, hkey, hsame⟩ := isAt_iff.mp (h.isAt_of_mem hg hmem)
    obtain ⟨key', hkey', hsame'⟩ := isAt_iff.mp (h.isAt_of_mem hg hmem')
    exact ⟨key, key', hkey, hkey', Value.same_trans (Value.same_symm hsame) hsame'⟩
  · rintro ⟨key, key', hkey, hkey', hsame⟩
    obtain ⟨g, hg, hmem⟩ := h.exists_group hr
    obtain ⟨l, hl, hat⟩ := isAt_iff.mp (h.isAt_of_mem hg hmem)
    obtain rfl := Except.ok.inj (hkey.symm.trans hl)
    refine ⟨g, hg, hmem, ?_⟩
    rw [h.members_eq hg, List.mem_filter]
    exact ⟨hr', isAt_iff.mpr ⟨key', hkey', Value.same_trans hat hsame⟩⟩

end ByKey
end Groups

namespace Group

variable {keyOf : Record → Except Fault Value} {groups : Groups} {records : List Record}

/-- The keys of groups are the keys of the records without repetitions, in the order
in which they are first met. -/
theorem keys_of_byKey (h : byKey keyOf records = .ok groups) :
    ∃ keys, records.mapM keyOf = .ok keys ∧ groups.map Prod.fst = Value.distinct keys := by
  refine foldlM_invariant (I := fun done groups => ∃ keys, done.mapM keyOf = .ok keys ∧
    groups.map Prod.fst = Value.distinct keys) ⟨[], rfl, rfl⟩ ?_ h
  rintro done groups r next ⟨keys, hkeys, hgroups⟩ hnext
  obtain ⟨key, hkey, hnext⟩ := bind_eq_ok.mp hnext
  rw [← pure_eq_ok.mp hnext]
  refine ⟨keys ++ [key], ?_, ?_⟩
  · rw [mapM_eq_ok]
    exact List.rel_append (mapM_eq_ok.mp hkeys) (.cons hkey .nil)
  · exact Assoc.keys_update hgroups key _

/-- Records in another order have the same groups, up to the order of the groups and
of their members. -/
theorem exists_perm_of_byKey {records' : List Record} {groups' : Groups}
    (hperm : records'.Perm records) (h : byKey keyOf records = .ok groups)
    (h' : byKey keyOf records' = .ok groups') : ∀ g' ∈ groups', ∃ g ∈ groups, g'.2.Perm g.2 := by
  intro g' hg'
  have hbyKey : Groups.ByKey keyOf groups records := byKey_partitions h
  have hbyKey' : Groups.ByKey keyOf groups' records' := byKey_partitions h'
  obtain ⟨r, hr⟩ := List.exists_mem_of_ne_nil g'.2
    (hbyKey'.partition.nonempty g'.2 (List.mem_map_of_mem hg'))
  have hmem : r ∈ records' :=
    (hbyKey'.partition.inOrder g'.2 (List.mem_map_of_mem hg')).subset hr
  obtain ⟨g, hg, hrg⟩ := hbyKey.exists_group (hperm.mem_iff.mp hmem)
  -- The groups share a record, so their keys are one.
  have hsame : g'.1.same g.1 = true := by
    obtain ⟨key, hkey, hat'⟩ := Groups.isAt_iff.mp (hbyKey'.isAt_of_mem hg' hr)
    obtain ⟨_, hkey', hat⟩ := Groups.isAt_iff.mp (hbyKey.isAt_of_mem hg hrg)
    rw [← Except.ok.inj (hkey.symm.trans hkey')] at hat
    exact Value.same_trans hat' (Value.same_symm hat)
  refine ⟨g, hg, ?_⟩
  rw [hbyKey'.members_eq hg', hbyKey.members_eq hg, Groups.isAt_eq_of_same hsame]
  exact hperm.filter _

/-- Records can be grouped exactly when each of them has a key. -/
theorem exists_byKey_iff :
    (∃ groups, byKey keyOf records = .ok groups) ↔ ∀ r ∈ records, ∃ key, keyOf r = .ok key := by
  constructor
  · rintro ⟨groups, h⟩ r hr
    obtain ⟨keys, hkeys, -⟩ := keys_of_byKey h
    obtain ⟨key, -, hkey⟩ := ok_of_mapM_ok hkeys r hr
    exact ⟨key, hkey⟩
  · intro h
    refine exists_foldlM_ok (fun r hr (groups : Groups) => ?_) []
    obtain ⟨key, hkey⟩ := h r hr
    exact ⟨groups.add key r, by rw [hkey, ok_bind]; rfl⟩

end Group

/-! ## Groups by a field -/

/-- What groups by the value of a field are. -/
structure Groups.OfField (key : String) (groups : Groups) (records : List Record) : Prop where
  partition : IsPartition (groups.map Prod.snd) records
  flatten : groups.flatten.Perm records
  firstSeen : ∃ keys, (records.mapM fun r => (r.field key).groupKey) = .ok keys ∧
    groups.map Prod.fst = Value.distinct keys
  together : ∀ r ∈ records, ∀ r' ∈ records, (∃ g ∈ groups, r ∈ g.2 ∧ r' ∈ g.2) ↔
    ∃ k k', (r.field key).groupKey = .ok k ∧ (r'.field key).groupKey = .ok k' ∧
      k.equal k' = true
  nullGroup : ∀ members, (.null, members) ∈ groups ↔
    members = records.filter (fun r => !r.hasField key) ∧ members ≠ []

namespace Group

variable {key : String} {groups : Groups} {records : List Record}

/-- A record has the null key exactly when it has no value. -/
theorem isAt_null_iff {r : Record} :
    Groups.isAt (fun r => (r.field key).groupKey) .null r = !r.hasField key := by
  rw [Bool.eq_iff_iff, Groups.isAt_iff]
  constructor
  · rintro ⟨k, hk, hsame⟩
    obtain rfl := Value.eq_null_of_same (Value.same_symm hsame)
    simpa [Record.hasField] using Value.groupKey_eq_null.mp hk
  · intro h
    refine ⟨.null, Value.groupKey_eq_null.mpr ?_, Value.same_refl _⟩
    simpa [Record.hasField] using h

theorem ofField_of_byField (hnan : ∀ r ∈ records, (r.field key).isNaN = false)
    (h : (byField key records).outcome = .ok groups) : Groups.OfField key groups records := by
  have hok := byField_eq_ok.mp h
  have hbyKey := byKey_partitions hok
  refine ⟨hbyKey.partition, ?_, keys_of_byKey hok, fun r hr r' hr' => ?_, fun members => ?_⟩
  · rw [Groups.flatten, List.flatMap_def]
    exact hbyKey.partition.perm
  · rw [hbyKey.together_iff hr hr']
    -- Keys are equal when they are one, since none of them is NaN.
    have hequal : ∀ {k k'}, (r.field key).groupKey = .ok k → k.equal k' = k.same k' :=
      fun hk => by rw [Value.equal, Value.isNaN_of_groupKey hk (hnan r hr)]; rfl
    constructor
    · rintro ⟨k, k', hk, hk', hsame⟩
      exact ⟨k, k', hk, hk', (hequal hk).trans hsame⟩
    · rintro ⟨k, k', hk, hk', hsame⟩
      exact ⟨k, k', hk, hk', (hequal hk).symm.trans hsame⟩
  · have hnull : records.filter (Groups.isAt (fun r => (r.field key).groupKey) .null) =
        records.filter fun r => !r.hasField key :=
      List.filter_congr fun r _ => isAt_null_iff
    constructor
    · intro hmem
      refine ⟨?_, hbyKey.partition.nonempty members (List.mem_map_of_mem hmem)⟩
      rw [← hnull]
      exact hbyKey.members_eq hmem
    · rintro ⟨rfl, hne⟩
      obtain ⟨r, hr⟩ := List.exists_mem_of_ne_nil _ hne
      rw [← hnull, List.mem_filter] at hr
      obtain ⟨g, hg, hmem⟩ := hbyKey.exists_group hr.1
      obtain ⟨k, hk, hsame⟩ := Groups.isAt_iff.mp hr.2
      obtain rfl := Value.eq_null_of_same (Value.same_symm hsame)
      obtain ⟨k', hk', hsame'⟩ := Groups.isAt_iff.mp (hbyKey.isAt_of_mem hg hmem)
      obtain rfl := Except.ok.inj (hk.symm.trans hk')
      obtain hg1 := Value.eq_null_of_same hsame'
      have hmembers := hbyKey.members_eq hg
      rw [hg1, hnull] at hmembers
      rwa [← hmembers, ← hg1]

end Group

/-! ## Groups by month -/

/-- What groups by the month of a date field are. -/
structure Groups.OfMonths (key : String) (groups : Groups) (records : List Record) : Prop where
  partition : IsPartition (groups.map Prod.snd)
    (records.filter fun r => !r.hasField key || (r.field key).asMoment.isSome)
  nullLast : ∃ months : Groups,
    (groups = months ++ if records.filter (fun r => !r.hasField key) = [] then []
      else [(.null, records.filter fun r => !r.hasField key)]) ∧
    (months.map Prod.fst).Nodup ∧ ∀ g ∈ months, ∃ month, g.1 = .text month ∧
      g.2 = records.filter fun r => (r.field key).asMoment.any (Group.monthText · == month)

/-- Items that are in no part yet make a part of their own. -/
theorem IsPartition.append_filter {α : Type} {parts : List (List α)} {whole : List α}
    {p q : α → Bool} (h : IsPartition parts (whole.filter p))
    (hpq : ∀ a ∈ whole, q a = true → p a = false) :
    IsPartition (parts ++ if whole.filter q = [] then [] else [whole.filter q])
      (whole.filter fun a => q a || p a) := by
  have hrest : (if whole.filter q = [] then [] else [whole.filter q]).flatten =
      whole.filter q := by
    split
    · simp_all
    · simp
  have hleft : (whole.filter p).Sublist (whole.filter fun a => q a || p a) :=
    List.monotone_filter_right whole fun a ha => by simp [ha]
  have hright : (whole.filter q).Sublist (whole.filter fun a => q a || p a) :=
    List.monotone_filter_right whole fun a ha => by simp [ha]
  refine ⟨?_, fun part hpart => ?_, fun part hpart => ?_⟩
  · rw [List.flatten_append, hrest]
    -- Of the items that are in one of the two filters, those outside `p` are in `q`.
    have hsplit := List.filter_append_perm p (whole.filter fun a => q a || p a)
    rw [List.filter_filter, List.filter_filter] at hsplit
    have hp : (whole.filter fun a => p a && (q a || p a)) = whole.filter p :=
      List.filter_congr fun a _ => by cases p a <;> simp
    have hq : (whole.filter fun a => !p a && (q a || p a)) = whole.filter q :=
      List.filter_congr fun a ha => by
        cases hqa : q a with
        | true => simp [hpq a ha hqa]
        | false => cases p a <;> rfl
    rw [hp, hq] at hsplit
    exact (h.perm.append_right _).trans hsplit
  · rcases List.mem_append.mp hpart with hpart | hpart
    · exact h.nonempty part hpart
    · split at hpart
      · cases hpart
      · rename_i hne
        rwa [List.mem_singleton.mp hpart]
  · rcases List.mem_append.mp hpart with hpart | hpart
    · exact (h.inOrder part hpart).trans hleft
    · split at hpart
      · cases hpart
      · rwa [List.mem_singleton.mp hpart]

namespace Group

variable {key : String} {groups : Groups} {records : List Record} {r : Record}

/-- The month of a record as its key.  A record without a date has none. -/
def monthOf (key : String) (r : Record) : Except Fault Value :=
  match (r.field key).asMoment with
  | some m => .ok (.text (monthText m))
  | none => .error (.notAKey "date")

theorem monthOf_eq_ok {k : Value} :
    monthOf key r = .ok k ↔ ∃ m, (r.field key).asMoment = some m ∧ .text (monthText m) = k := by
  unfold monthOf
  cases (r.field key).asMoment <;> simp

theorem monthKey?_eq : monthKey? key r = (r.field key).asMoment.map fun m => .text (monthText m) := by
  unfold monthKey?
  split
  · rename_i hnull
    simp only [hnull, Value.asMoment, Option.map_none]
  · rfl

/-- A record with a date has a value. -/
theorem hasField_of_asMoment (h : (r.field key).asMoment.isSome = true) :
    r.hasField key = true := by
  by_contra hnone
  rw [Bool.not_eq_true, ← Record.field_eq_null] at hnone
  simp [hnone, Value.asMoment] at h

/-- Collecting the records of each month is grouping the records that have a date
by their month. -/
theorem byKey_monthOf (start : Groups) :
    (records.filter fun r => (r.field key).asMoment.isSome).foldlM (fun groups r => do
        let month ← monthOf key r
        pure (groups.add month r)) start =
      .ok (records.foldl (fun groups r =>
        match monthKey? key r with
        | some month => groups.add month r
        | none => groups) start) := by
  induction records generalizing start with
  | nil => rfl
  | cons r records ih =>
    rw [List.foldl_cons, monthKey?_eq]
    cases hm : (r.field key).asMoment with
    | none =>
      rw [List.filter_cons_of_neg (by simp [hm])]
      exact ih start
    | some m =>
      rw [List.filter_cons_of_pos (by simp [hm]), List.foldlM_cons, monthOf, hm]
      exact ih (start.add (.text (monthText m)) r)

/-- The records of a month have a date in it. -/
theorem isAt_monthOf {month : String} :
    (Groups.isAt (monthOf key) (.text month) r && (r.field key).asMoment.isSome) =
      (r.field key).asMoment.any (monthText · == month) := by
  unfold Groups.isAt monthOf
  cases (r.field key).asMoment with
  | none => rfl
  | some m => simp [Value.same, Bool.beq_comm]

/-- Grouping by month sorts the groups of the records with a date, and adds the
records without a value. -/
theorem exists_months (key : String) (records : List Record) :
    ∃ months : Groups,
      Groups.ByKey (monthOf key) months
        (records.filter fun r => (r.field key).asMoment.isSome) ∧
      byMonth key records = months.mergeSort monthNotBefore ++
        if records.filter (fun r => !r.hasField key) = [] then []
        else [(.null, records.filter fun r => !r.hasField key)] := by
  refine ⟨_, byKey_partitions (byKey_monthOf []), congrArg₂ (· ++ ·) rfl ?_⟩
  have hlast : ∀ undated : List Record, undated = records.filter (fun r => !r.hasField key) →
      (if undated.isEmpty then [] else [(Value.null, undated)]) =
        if records.filter (fun r => !r.hasField key) = [] then []
        else [(.null, records.filter fun r => !r.hasField key)] := by
    rintro undated rfl
    simp only [List.isEmpty_iff]
  refine hlast _ (List.filter_congr fun r _ => ?_)
  split
  · rename_i hnull
    rw [Record.field_eq_null.mp hnull]
    rfl
  · rename_i hne
    cases hfield : r.hasField key with
    | true => rfl
    | false => exact absurd (Record.field_eq_null.mpr hfield) hne

theorem ofMonths_byMonth (key : String) (records : List Record) :
    Groups.OfMonths key (byMonth key records) records := by
  obtain ⟨months, hbyKey, heq⟩ := exists_months key records
  have hperm := List.mergeSort_perm months monthNotBefore
  have hdisjoint : ∀ r ∈ records, (!r.hasField key) = true →
      (r.field key).asMoment.isSome = false := by
    intro r _ hnone
    cases hdated : (r.field key).asMoment.isSome with
    | false => rfl
    | true =>
      rw [hasField_of_asMoment hdated] at hnone
      cases hnone
  rw [heq]
  refine ⟨?_, months.mergeSort monthNotBefore, rfl, ?_, fun g hg => ?_⟩
  · rw [List.map_append, apply_ite (List.map Prod.snd)]
    exact (hbyKey.partition.of_perm (hperm.map Prod.snd)).append_filter hdisjoint
  · refine (hperm.map Prod.fst).nodup_iff.mpr (hbyKey.apart.imp fun {k l} hkl heq => ?_)
    rw [heq, Value.same_refl] at hkl
    cases hkl
  · have hg := hperm.mem_iff.mp hg
    obtain ⟨first, rest, -, hfirst, -⟩ := hbyKey.keyed g hg
    obtain ⟨m, -, hmonth⟩ := monthOf_eq_ok.mp hfirst
    refine ⟨monthText m, hmonth.symm, ?_⟩
    rw [hbyKey.members_eq hg, ← hmonth, List.filter_filter]
    exact List.filter_congr fun r _ => isAt_monthOf

/-- Records can be grouped by a field exactly when the keys of all objects in their values can
be written. -/
theorem exists_byField_iff {key : String} {records : List Record} :
    (∃ groups, (byField key records).outcome = .ok groups) ↔
      ∀ r ∈ records, (r.field key).canKey = true := by
  simp only [byField_eq_ok, ← Value.exists_groupKey_iff]
  exact exists_byKey_iff

/-- Grouping by a field and grouping by month partition the records.  Records can be
grouped by a field exactly when the keys of all objects in their values can be written,
and always by month. -/
theorem byField_and_byMonth_partition (key : String) (records : List Record)
    (hnan : ∀ r ∈ records, (r.field key).isNaN = false) :
    ((∃ groups, (byField key records).outcome = .ok groups) ↔
      ∀ r ∈ records, (r.field key).canKey = true) ∧
    (∀ groups, (byField key records).outcome = .ok groups →
      Groups.OfField key groups records) ∧
    Groups.OfMonths key (byMonth key records) records := by
  exact ⟨exists_byField_iff, fun groups h => ofField_of_byField hnan h,
    ofMonths_byMonth key records⟩

end Group

namespace Sample

def shelved (serial : Nat) (shelf : Value) : Record :=
  ⟨serial, toString serial, "", .ofEntries [("shelf", shelf)]⟩

/-- One and 1.0 are one key, true is not; a list and a tuple are one key; the last
two have no value. -/
def shelves : List Record :=
  [shelved 0 (.int 1), shelved 1 (.float (.ofInt 1)), shelved 2 (.bool true),
    shelved 3 (.list [.int 1, .text "a"]), shelved 4 (.tuple [.float (.ofInt 1), .text "a"]),
    shelved 5 (.text ""), shelved 6 (.list [])]

theorem exists_byField_shelves :
    (∀ r ∈ shelves, (r.field "shelf").isNaN = false) ∧
      ∃ groups, (Group.byField "shelf" shelves).outcome = .ok groups ∧
        groups.map (fun g => g.2.map Record.serial) = [[0, 1], [2], [3, 4], [5, 6]] := by
  have hrun : (∀ r ∈ shelves, (r.field "shelf").isNaN = false) ∧
      gives ((Group.byField "shelf" shelves).outcome.map fun groups =>
        groups.map fun g => g.2.map Record.serial) [[0, 1], [2], [3, 4], [5, 6]] = true := by
    decide +kernel
  exact ⟨hrun.1, map_eq_ok.mp (gives_iff.mp hrun.2)⟩

end Sample

namespace Group

open Sample in
theorem byField_and_byMonth_partition_shelves :
    (∀ r ∈ shelves, (r.field "shelf").isNaN = false) ∧
    (∃ groups, (byField "shelf" shelves).outcome = .ok groups ∧
      groups.map (fun g => g.2.map Record.serial) = [[0, 1], [2], [3, 4], [5, 6]] ∧
      Groups.OfField "shelf" groups shelves) ∧
    Groups.OfMonths "shelf" (byMonth "shelf" shelves) shelves := by
  obtain ⟨hnan, groups, hgroups, hserials⟩ := exists_byField_shelves
  obtain ⟨-, hfield, hmonths⟩ := byField_and_byMonth_partition "shelf" shelves hnan
  exact ⟨hnan, ⟨groups, hgroups, hserials, hfield groups hgroups⟩, hmonths⟩

open Sample in
/-- The records whose value is an object with a key that cannot be written are in no group. -/
theorem not_byField_of_endless_key :
    endlessObject.isNaN = false ∧
      ¬ ∃ groups, (byField "shelf" [shelved 0 endlessObject]).outcome = .ok groups := by
  have hfield : (shelved 0 endlessObject).field "shelf" = endlessObject := rfl
  refine ⟨rfl, fun hgroups => ?_⟩
  have hcan := exists_byField_iff.mp hgroups (shelved 0 endlessObject) List.mem_cons_self
  rw [hfield, canKey_endlessObject] at hcan
  cases hcan

end Group
end Facets
