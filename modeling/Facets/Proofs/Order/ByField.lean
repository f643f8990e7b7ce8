import Facets.Proofs.Order.Comparator

/-
Records by one field.

Whenever a sort by a field has an answer, the answer is the stable sort of the
records by the comparison of their stored values (`sortAs_isStableSort`).  It has
one when every value can be read and ranked, and then so does the sort of any
part of the records.
-/
namespace Facets

open Outcome

namespace Kind

def lacks (k : Kind) (key : String) (r : Record) : Bool :=
  match k.coerce (r.field key) with
  | .ok none => true
  | _ => false

variable {k : Kind} {key : String} {r : Record} {v : Value}

theorem lacks_eq {x : Option Typed} (h : k.coerce (r.field key) = .ok x) :
    k.lacks key r = x.isNone := by
  unfold lacks
  rw [h]
  cases x <;> rfl

theorem lacks_iff : k.lacks key r = true ↔ k.coerce (r.field key) = .ok none := by
  unfold lacks
  split <;> simp_all

/-- A record whose field can be read and that does not lack a value has one. -/
theorem exists_typed {x : Option Typed} (h : k.coerce (r.field key) = .ok x)
    (hl : k.lacks key r = false) : ∃ t, k.coerce (r.field key) = .ok (some t) := by
  rw [lacks_eq h] at hl
  obtain ⟨t, rfl⟩ := Option.isSome_iff_exists.mp (Option.isNone_eq_false_iff.mp hl)
  exact ⟨t, h⟩

/-- A value that can be compared: it is read as the type, and what is read has a
rank. -/
def CanRank (k : Kind) (v : Value) : Prop :=
  ∃ x, k.coerce v = .ok x ∧ ∀ t ∈ x, ∃ p, t.rank = .ok p

/-- A value that has a plain text as this type. -/
def HasPlain (k : Kind) (v : Value) : Prop := ∃ text, k.plain v = .ok text

theorem hasPlain_iff : k.HasPlain v ↔ (k.plain v).isOk = true := by
  unfold HasPlain
  cases k.plain v <;> simp [Except.isOk, Except.toBool]

instance : Decidable (k.HasPlain v) := decidable_of_iff _ hasPlain_iff.symm

theorem canRank_of_plain {text : String} (h : k.plain v = .ok text) : k.CanRank v := by
  obtain ⟨x, hx, h⟩ := bind_eq_ok.mp h
  refine ⟨x, hx, fun t ht => ?_⟩
  rw [Option.mem_def.mp ht] at h
  cases t with
  | mapping ps => exact ⟨_, bind_eq_ok.mpr ⟨text, h, rfl⟩⟩
  | _ => exact ⟨_, rfl⟩

end Kind

/-- The order of two records by a field of a type, in the direction of the sort. -/
def SortKey.compareAs (key : SortKey) (k : Kind) (x y : Record) : Except Fault Ordering :=
  k.compareIn key.descending (x.field key.field) (y.field key.field)

namespace Order

variable {k : Kind} {key : SortKey} {records part out front : List Record} {n : Nat}

theorem isPreorder_compareAs (key : SortKey) (k : Kind) : IsPreorder (key.compareAs k) :=
  (k.isPreorder_compareIn key.descending).comap fun r : Record => r.field key.field

/-! ## Reading -/

section Read

variable {field : String} {read : List (Option Typed × Record)}

theorem readField_spec (h : readField k field records = .ok read) :
    read.map Prod.snd = records ∧ ∀ p ∈ read, k.coerce (p.2.field field) = .ok p.1 := by
  obtain ⟨hsnd, hmem⟩ := map_snd_of_mapM_ok h
  refine ⟨by rw [hsnd, List.map_id'], fun p hp => ?_⟩
  obtain ⟨r, _, hr, rfl⟩ := hmem p hp
  exact hr

theorem mem_present {p : Typed × Record} : p ∈ present read ↔ (some p.1, p.2) ∈ read := by
  simp only [present, List.mem_filterMap, Option.map_eq_some_iff, Prod.exists]
  constructor
  · rintro ⟨t, r, hmem, t', rfl, rfl⟩
    exact hmem
  · exact fun hmem => ⟨_, _, hmem, _, rfl, rfl⟩

theorem map_snd_present_eq (read : List (Option Typed × Record)) :
    (present read).map Prod.snd = (read.filter fun p => p.1.isSome).map Prod.snd := by
  induction read with
  | nil => rfl
  | cons p read ih =>
    obtain ⟨_ | t, r⟩ := p
    · exact ih
    · exact congrArg (r :: ·) ih

theorem map_snd_present (h : readField k field records = .ok read) :
    (present read).map Prod.snd = records.filter fun r => !k.lacks field r := by
  obtain ⟨hsnd, hcoerce⟩ := readField_spec h
  rw [map_snd_present_eq, ← hsnd, List.filter_map]
  refine congrArg _ (List.filter_congr fun p hp => ?_)
  rw [Function.comp, Kind.lacks_eq (hcoerce p hp), Option.not_isNone]

theorem absent_eq (h : readField k field records = .ok read) :
    absent read = records.filter (k.lacks field) := by
  obtain ⟨hsnd, hcoerce⟩ := readField_spec h
  rw [← hsnd, List.filter_map, absent]
  refine congrArg _ (List.filter_congr fun p hp => ?_)
  rw [Function.comp, Kind.lacks_eq (hcoerce p hp)]

theorem exists_readField (h : ∀ r ∈ records, ∃ x, k.coerce (r.field field) = .ok x) :
    ∃ read, readField k field records = .ok read :=
  exists_mapM_ok fun r hr => by
    obtain ⟨x, hx⟩ := h r hr
    exact ⟨(x, r), bind_eq_ok.mpr ⟨x, hx, rfl⟩⟩

end Read

/-! ## Arranging -/

section Arrange

variable {ps qs : List (Typed × Record)}

def rankAll (ps : List (Typed × Record)) : Except Fault (List (Rank × Record)) :=
  ps.mapM fun p => do
    let rank ← p.1.rank
    pure (rank, p.2)

theorem arrange_eq_ok_of_two {descending : Bool} {p q : Typed × Record} :
    arrange descending (p :: q :: ps) = .ok front ↔
      ∃ ranked, rankAll (p :: q :: ps) = .ok ranked ∧
        (ranked.mergeSort fun p q => mayPrecede descending p.1 q.1).map Prod.snd = front := by
  change (rankAll (p :: q :: ps) >>= fun ranked => pure _) = _ ↔ _
  simp only [bind_eq_ok, pure_eq_ok]

/-- What is arranged is the stable sort of the records by their values. -/
theorem arrange_isStableSort
    (hps : ∀ p ∈ ps, k.coerce (p.2.field key.field) = .ok (some p.1))
    (h : arrange key.descending ps = .ok front) :
    IsStableSort (key.compareAs k) (ps.map Prod.snd) front := by
  match ps with
  | [] =>
    obtain rfl := Except.ok.inj h
    exact .of_ordered .nil
  | [p] =>
    obtain rfl := Except.ok.inj h
    exact .of_ordered (List.pairwise_singleton _ _)
  | p :: q :: ps =>
    obtain ⟨ranked, hranked, rfl⟩ := arrange_eq_ok_of_two.mp h
    obtain ⟨hsnd, hrank⟩ := map_snd_of_mapM_ok hranked
    rw [← hsnd]
    refine isStableSort_mergeSort (isPreorder_compareAs key k) (fun _ _ _ => mayPrecede_trans)
      (fun a b => mayPrecede_total key.descending a.1 b.1) fun a ha b hb => ?_
    obtain ⟨p, hp, hpa, hsa⟩ := hrank a ha
    obtain ⟨q, hq, hqb, hsb⟩ := hrank b hb
    have hcompare : key.compareAs k a.2 b.2 =
        .ok (turn key.descending (a.1.compare b.1)) := by
      rw [← hsa, ← hsb]
      exact Kind.compareIn_eq_ok.mpr (.both (hps p hp) (hps q hq) hpa hqb)
    rw [mayPrecede_iff, atMost_iff hcompare]

/-- Part of what can be arranged can be arranged.  A single record is arranged
without its rank, so two records of the part are needed to need ranks at all. -/
theorem exists_arrange_of_sublist {descending : Bool} (hsub : qs.Sublist ps)
    (h : arrange descending ps = .ok front) : ∃ front', arrange descending qs = .ok front' := by
  match qs with
  | [] => exact ⟨[], rfl⟩
  | [q] => exact ⟨[q.2], rfl⟩
  | q₁ :: q₂ :: qs =>
    match ps with
    | [] => exact absurd hsub.length_le (by simp)
    | [p] => exact absurd hsub.length_le (by simp)
    | p₁ :: p₂ :: ps =>
      obtain ⟨ranked, hranked, _⟩ := arrange_eq_ok_of_two.mp h
      obtain ⟨ranked', hranked', _⟩ := mapM_sublist hsub hranked
      exact ⟨_, arrange_eq_ok_of_two.mpr ⟨ranked', hranked', rfl⟩⟩

theorem exists_arrange {descending : Bool} (h : ∀ p ∈ ps, ∃ rank, p.1.rank = .ok rank) :
    ∃ front, arrange descending ps = .ok front := by
  match ps with
  | [] => exact ⟨[], rfl⟩
  | [p] => exact ⟨[p.2], rfl⟩
  | p :: q :: ps =>
    obtain ⟨ranked, hranked⟩ : ∃ ranked, rankAll (p :: q :: ps) = .ok ranked :=
      exists_mapM_ok fun p hp => by
        obtain ⟨rank, hrank⟩ := h p hp
        exact ⟨(rank, p.2), bind_eq_ok.mpr ⟨rank, hrank, rfl⟩⟩
    exact ⟨_, arrange_eq_ok_of_two.mpr ⟨ranked, hranked, rfl⟩⟩

end Arrange

/-! ## Sorting -/

theorem sortAs_eq_ok :
    sortAs k key records = .ok (out, n) ↔
      ∃ read front, readField k key.field records = .ok read ∧
        arrange key.descending (present read) = .ok front ∧
        front ++ absent read = out ∧ (absent read).length = n := by
  simp only [sortAs, bind_eq_ok, pure_eq_ok, Prod.mk.injEq, exists_and_left]

/-- The sorted records with a value, followed by those without one, are the
sorted records. -/
theorem isStableSort_append_lacks
    (hread : ∀ r ∈ records, ∃ x, k.coerce (r.field key.field) = .ok x)
    (hfront : IsStableSort (key.compareAs k) (records.filter fun r => !k.lacks key.field r) front) :
    IsStableSort (key.compareAs k) records (front ++ records.filter (k.lacks key.field)) := by
  refine hfront.append (p := k.lacks key.field) (isPreorder_compareAs key k) ?_ ?_
  · refine .of_ordered (List.Pairwise.imp_of_mem ?_ (List.pairwise_of_forall fun _ _ => trivial))
    intro x y hx hy _
    have hx' := Kind.lacks_iff.mp (List.mem_filter.mp hx).2
    have hy' := Kind.lacks_iff.mp (List.mem_filter.mp hy).2
    exact ⟨.eq, Kind.compareIn_eq_ok.mpr (.neither hx' hy'), rfl⟩
  · intro x hx y _ hlx hly
    obtain ⟨_, hread⟩ := hread x hx
    obtain ⟨t, ht⟩ := Kind.exists_typed hread hlx
    exact Kind.compareIn_eq_ok.mpr (.first ht (Kind.lacks_iff.mp hly))

theorem coerce_of_readField {read : List (Option Typed × Record)} {field : String}
    (h : readField k field records = .ok read) :
    ∀ r ∈ records, ∃ x, k.coerce (r.field field) = .ok x := by
  intro r hr
  obtain ⟨p, _, hp⟩ := ok_of_mapM_ok h r hr
  obtain ⟨x, hx, _⟩ := bind_eq_ok.mp hp
  exact ⟨x, hx⟩

/-- What a sort gives ends with the records without a value. -/
theorem exists_front_of_sortAs (h : sortAs k key records = .ok (out, n)) :
    ∃ front, out = front ++ records.filter (k.lacks key.field) ∧
      IsStableSort (key.compareAs k) (records.filter fun r => !k.lacks key.field r) front := by
  obtain ⟨read, front, hread, hfront, rfl, _⟩ := sortAs_eq_ok.mp h
  obtain ⟨_, hcoerce⟩ := readField_spec hread
  have hsorted := arrange_isStableSort (fun p hp => hcoerce _ (mem_present.mp hp)) hfront
  rw [map_snd_present hread] at hsorted
  exact ⟨front, by rw [absent_eq hread], hsorted⟩

/-- Sorted records are their stable sort by the values of the field. -/
theorem sortAs_isStableSort (h : sortAs k key records = .ok (out, n)) :
    IsStableSort (key.compareAs k) records out := by
  obtain ⟨front, rfl, hfront⟩ := exists_front_of_sortAs h
  obtain ⟨read, _, hread, _⟩ := sortAs_eq_ok.mp h
  exact isStableSort_append_lacks (coerce_of_readField hread) hfront

theorem exists_sortAs_of_sublist (hsub : part.Sublist records)
    (h : sortAs k key records = .ok (out, n)) : ∃ out' n', sortAs k key part = .ok (out', n') := by
  obtain ⟨read, front, hread, hfront, _⟩ := sortAs_eq_ok.mp h
  obtain ⟨read', hread', hsub'⟩ := mapM_sublist hsub hread
  obtain ⟨front', hfront'⟩ := exists_arrange_of_sublist (hsub'.filterMap _) hfront
  exact ⟨_, _, sortAs_eq_ok.mpr ⟨read', front', hread', hfront', rfl, rfl⟩⟩

theorem exists_sortAs (h : ∀ r ∈ records, k.CanRank (r.field key.field)) :
    ∃ out n, sortAs k key records = .ok (out, n) := by
  have hcan : ∀ r ∈ records, ∃ x, k.coerce (r.field key.field) = .ok x := fun r hr => by
    obtain ⟨x, hx, _⟩ := h r hr
    exact ⟨x, hx⟩
  obtain ⟨read, hread⟩ := exists_readField hcan
  obtain ⟨hsnd, hcoerce⟩ := readField_spec hread
  have hranks : ∀ p ∈ present read, ∃ rank, p.1.rank = .ok rank := by
    intro p hp
    have hmem : (some p.1, p.2) ∈ read := mem_present.mp hp
    have hr : p.2 ∈ records := hsnd ▸ List.mem_map_of_mem hmem
    obtain ⟨x, hx, hrank⟩ := h p.2 hr
    rw [hcoerce _ hmem] at hx
    exact hrank p.1 (Except.ok.inj hx).symm
  obtain ⟨front, hfront⟩ := exists_arrange hranks
  exact ⟨_, _, sortAs_eq_ok.mpr ⟨read, front, hread, hfront, rfl, rfl⟩⟩

end Order

/-! ## Sorting by a schema -/

open Facets.Order

namespace Schema

def sortField? (s : Schema) (key : String) : Option Field := (s.field? key).filter (·.sortable)

/-- The order of two records by one key.  A key that cannot be sorted by tells
no records apart. -/
def compareBy (s : Schema) (key : SortKey) (x y : Record) : Except Fault Ordering :=
  match s.sortField? key.field with
  | some f => key.compareAs f.kind x y
  | none => .ok .eq

variable {s : Schema} {f : Field} {key : SortKey}

theorem sortField?_eq_some {key : String} :
    s.sortField? key = some f ↔ s.field? key = some f ∧ f.sortable = true :=
  Option.filter_eq_some_iff

theorem compareBy_eq (h : s.sortField? key.field = some f) :
    s.compareBy key = key.compareAs f.kind := by
  funext x y
  rw [compareBy, h]

theorem compareBy_eq_of_none (h : s.sortField? key.field = none) :
    s.compareBy key = fun _ _ => .ok .eq := by
  funext x y
  rw [compareBy, h]

theorem isPreorder_compareBy (s : Schema) (key : SortKey) : IsPreorder (s.compareBy key) := by
  cases h : s.sortField? key.field with
  | some f =>
    rw [compareBy_eq h]
    exact isPreorder_compareAs key f.kind
  | none =>
    rw [compareBy_eq_of_none h]
    exact isPreorder_eq

/-- The outcome of a sort does not depend on what it notes. -/
theorem outcome_sortBy (s : Schema) (key : SortKey) (records : List Record) :
    (sortBy (some s) key records).outcome =
      match s.sortField? key.field with
      | some f => (sortAs f.kind key records).map Prod.fst
      | none => .ok records := by
  cases hf : s.field? key.field with
  | none => simp [sortBy, sortIssue?, sortField?, hf]
  | some f =>
    cases hs : f.sortable with
    | false => simp [sortBy, sortIssue?, sortField?, Option.filter, hf, hs]
    | true =>
      have hsort : s.sortField? key.field = some f := sortField?_eq_some.mpr ⟨hf, hs⟩
      have hissue : s.sortIssue? key.field = none := by simp [sortIssue?, hf, hs]
      simp only [sortBy, hsort, hissue, kind?, hf, Option.map_some, Option.getD_some]
      cases sortAs f.kind key records <;> rfl

variable {records part out : List Record}

theorem sortBy_eq_ok (h : s.sortField? key.field = some f) :
    (sortBy (some s) key records).outcome = .ok out ↔
      ∃ n, sortAs f.kind key records = .ok (out, n) := by
  simp only [outcome_sortBy, h, map_eq_ok, Prod.exists]
  exact ⟨fun ⟨_, n, hn, hout⟩ => ⟨n, hout ▸ hn⟩, fun ⟨n, hn⟩ => ⟨out, n, hn, rfl⟩⟩

theorem sortBy_eq_ok_of_none (h : s.sortField? key.field = none) :
    (sortBy (some s) key records).outcome = .ok out ↔ records = out := by
  rw [outcome_sortBy, h]
  simp

/-- Whenever a sort has an answer it is the stable sort by the key. -/
theorem sortBy_isStableSort (h : (sortBy (some s) key records).outcome = .ok out) :
    IsStableSort (s.compareBy key) records out := by
  cases hf : s.sortField? key.field with
  | some f =>
    obtain ⟨n, hn⟩ := (sortBy_eq_ok hf).mp h
    rw [compareBy_eq hf]
    exact sortAs_isStableSort hn
  | none =>
    obtain rfl := (sortBy_eq_ok_of_none hf).mp h
    rw [compareBy_eq_of_none hf]
    exact isStableSort_eq records

theorem exists_sortBy_of_sublist (hsub : part.Sublist records)
    (h : (sortBy (some s) key records).outcome = .ok out) :
    ∃ out', (sortBy (some s) key part).outcome = .ok out' := by
  cases hf : s.sortField? key.field with
  | some f =>
    obtain ⟨n, hn⟩ := (sortBy_eq_ok hf).mp h
    obtain ⟨out', n', hn'⟩ := exists_sortAs_of_sublist hsub hn
    exact ⟨out', (sortBy_eq_ok hf).mpr ⟨n', hn'⟩⟩
  | none => exact ⟨part, (sortBy_eq_ok_of_none hf).mpr rfl⟩

/-- Records whose values can be compared as the type of the key can be sorted. -/
theorem exists_sortBy
    (h : ∀ f, s.sortField? key.field = some f → ∀ r ∈ records, f.kind.CanRank (r.field key.field)) :
    ∃ out, (sortBy (some s) key records).outcome = .ok out := by
  cases hf : s.sortField? key.field with
  | some f =>
    obtain ⟨out, n, hn⟩ := exists_sortAs (h f hf)
    exact ⟨out, (sortBy_eq_ok hf).mpr ⟨n, hn⟩⟩
  | none => exact ⟨records, (sortBy_eq_ok_of_none hf).mpr rfl⟩

end Schema

end Facets
