import Facets.Proofs.Order.ByField

/-
What a sort by one field gives.

`SortedBy` says so in terms of the values of the field alone: which records come
last, how the typed values of the others compare, and which keep their order.
There is exactly one such list, and a sort finds it.
-/
namespace Facets

open Outcome Facets.Order

/-- The order of two records by the stored values of a field. -/
def Kind.compareField (k : Kind) (field : String) (x y : Record) : Except Fault Ordering :=
  k.compare (x.field field) (y.field field)

/-- `out` is `records` in the order of a field. -/
structure SortedBy (k : Kind) (key : SortKey) (records out : List Record) : Prop where
  perm : out.Perm records
  /-- The records without a usable value come last, as they stood. -/
  lackingLast : ∃ front, out = front ++ records.filter (k.lacks key.field) ∧
    ∀ r ∈ front, k.lacks key.field r = false
  /-- Of two records with values the earlier is not beyond the later. -/
  ordered : out.Pairwise fun x y => ∀ a b, k.coerce (x.field key.field) = .ok (some a) →
    k.coerce (y.field key.field) = .ok (some b) →
      ∃ o, k.comparator a b = .ok o ∧ (turn key.descending o).isLE
  /-- The records with values equal to that of one of them stand as they stood. -/
  stable : ∀ x ∈ records, k.lacks key.field x = false →
    out.filter (ties (k.compareField key.field) x) =
      records.filter (ties (k.compareField key.field) x)

namespace SortedBy

variable {k : Kind} {key : SortKey} {records out : List Record}

/-- Which records are equal does not depend on the direction. -/
theorem ties_compareAs (x : Record) :
    ties (key.compareAs k) x = ties (k.compareField key.field) x := by
  funext y
  rw [Bool.eq_iff_iff, ties_iff, ties_iff, Kind.compareField, ← Kind.compareIn_false]
  exact Kind.compareIn_eq_ok_eq key.descending false

/-- A record that is equal to one with a value has a value. -/
theorem lacks_eq_false_of_ties {x y : Record} (hx : k.lacks key.field x = false)
    (h : ties (key.compareAs k) x y = true) : k.lacks key.field y = false := by
  cases hy : k.lacks key.field y with
  | false => rfl
  | true =>
    have hnone := Kind.coerce_eq_none_of_eq (ties_iff.mp h) (Kind.lacks_iff.mp hy)
    rwa [Kind.lacks_iff.mpr hnone] at hx

theorem filter_lacks_ties {x : Record} (hx : k.lacks key.field x = false) :
    (records.filter (k.lacks key.field)).filter (ties (key.compareAs k) x) = [] := by
  refine List.filter_eq_nil_iff.mpr fun y hy htie => ?_
  have hy' : k.lacks key.field y = true := (List.mem_filter.mp hy).2
  rw [lacks_eq_false_of_ties hx htie] at hy'
  contradiction

theorem filter_value_ties {x : Record} (hx : k.lacks key.field x = false) :
    (records.filter fun r => !k.lacks key.field r).filter (ties (key.compareAs k) x) =
      records.filter (ties (key.compareAs k) x) := by
  rw [List.filter_filter]
  refine List.filter_congr fun y _ => ?_
  rw [Bool.eq_iff_iff, Bool.and_eq_true, Bool.not_eq_true']
  exact ⟨And.left, fun htie => ⟨htie, lacks_eq_false_of_ties hx htie⟩⟩

/-- What a sort gives is in the order of the field. -/
theorem of_sortAs {n : Nat} (h : sortAs k key records = .ok (out, n)) :
    SortedBy k key records out where
  perm := (sortAs_isStableSort h).perm
  lackingLast := by
    obtain ⟨front, hout, hfront⟩ := exists_front_of_sortAs h
    refine ⟨front, hout, fun r hr => ?_⟩
    have hvalue := (List.mem_filter.mp (hfront.perm.mem_iff.mp hr)).2
    rwa [Bool.not_eq_true'] at hvalue
  ordered := by
    refine (sortAs_isStableSort h).ordered.imp ?_
    intro x y hxy a b ha hb
    obtain ⟨o, ho, hle⟩ := hxy
    obtain ⟨o', ho', rfl⟩ := (Kind.compareIn_of_some ha hb).mp ho
    exact ⟨o', ho', hle⟩
  stable x hx _ := by
    rw [← ties_compareAs]
    exact (sortAs_isStableSort h).stable x hx

/-- A list in the order of the field is the stable sort by the field. -/
theorem isStableSort (hrank : ∀ r ∈ records, k.CanRank (r.field key.field))
    (h : SortedBy k key records out) : IsStableSort (key.compareAs k) records out := by
  obtain ⟨front, rfl, hfront⟩ := h.lackingLast
  have hread : ∀ r ∈ records, ∃ x, k.coerce (r.field key.field) = .ok x := fun r hr => by
    obtain ⟨x, hx, _⟩ := hrank r hr
    exact ⟨x, hx⟩
  have htyped : ∀ r ∈ front, ∃ t, k.coerce (r.field key.field) = .ok (some t) := fun r hr => by
    obtain ⟨x, hx⟩ := hread r (h.perm.mem_iff.mp (List.mem_append_left _ hr))
    exact Kind.exists_typed hx (hfront r hr)
  refine isStableSort_append_lacks hread ⟨?_, ?_, fun x hx => ?_⟩
  · have hparts := List.filter_append_perm (fun r => !k.lacks key.field r) records
    simp only [Bool.not_not] at hparts
    exact (List.perm_append_right_iff _).mp (h.perm.trans hparts.symm)
  · refine (List.pairwise_append.mp h.ordered).1.imp_of_mem ?_
    intro x y hx hy hxy
    obtain ⟨a, ha⟩ := htyped x hx
    obtain ⟨b, hb⟩ := htyped y hy
    obtain ⟨o, ho, hle⟩ := hxy a b ha hb
    exact ⟨_, (Kind.compareIn_of_some ha hb).mpr ⟨o, ho, rfl⟩, hle⟩
  · obtain ⟨hx, hlx⟩ := List.mem_filter.mp hx
    rw [Bool.not_eq_true'] at hlx
    have hclass := h.stable x hx hlx
    rw [← ties_compareAs, List.filter_append, filter_lacks_ties hlx, List.append_nil] at hclass
    rw [hclass, filter_value_ties hlx]

end SortedBy

/-! ## Books -/

namespace Sample

def title : Field := ⟨"title", "Title", .string, true, true, true, 0, none⟩

def finished : Field := ⟨"finished", "Finished", .boolean, true, true, true, 0, none⟩

def pages : Field := ⟨"pages", "Pages", .number, true, true, true, 0, none⟩

def schema : Schema := ⟨"books", [title, finished, pages], {}, by decide⟩

def book (serial : Nat) (entries : List (String × Value)) : Record :=
  ⟨serial, toString serial, "", .ofEntries entries⟩

/-- Two titles differ only in case, and one book has none. -/
def books : List Record :=
  [book 0 [("title", .text "Walden"), ("finished", .bool true), ("pages", .int 352)],
    book 1 [("finished", .bool true), ("pages", .int 90)],
    book 2 [("title", .text "emma"), ("finished", .text "no"), ("pages", .text "474")],
    book 3 [("title", .text "EMMA"), ("finished", .bool true)]]

def byTitle : SortKey := ⟨"title", true⟩

theorem plain_title : ∀ r ∈ books, ∃ text, title.kind.plain (r.field title.key) = .ok text := by
  simp only [books, List.forall_mem_cons]
  exact ⟨⟨_, rfl⟩, ⟨_, rfl⟩, ⟨_, rfl⟩, ⟨_, rfl⟩, fun _ h => absurd h List.not_mem_nil⟩

end Sample

/-! ## Sorting -/

/-- Records whose values have a plain text have one sorted list, and a sort finds
it.  Sorted records stay as they are, and the ascending order is that of the
stored values. -/
theorem sortBy_unique_sorted {s : Schema} {f : Field} {key : SortKey} {records : List Record}
    (hfield : s.field? key.field = some f) (hsortable : f.sortable = true)
    (hplain : ∀ r ∈ records, ∃ text, f.kind.plain (r.field key.field) = .ok text) :
    ∃ out, (sortBy (some s) key records).outcome = .ok out ∧
      (∀ l, SortedBy f.kind key records l ↔ l = out) ∧
      (sortBy (some s) key out).outcome = .ok out ∧
      (key.descending = false → ∀ l,
        IsStableSort (f.kind.compareField key.field) records l ↔ l = out) := by
  have hsort : s.sortField? key.field = some f :=
    Schema.sortField?_eq_some.mpr ⟨hfield, hsortable⟩
  have hrank : ∀ r ∈ records, f.kind.CanRank (r.field key.field) := fun r hr => by
    obtain ⟨text, htext⟩ := hplain r hr
    exact Kind.canRank_of_plain htext
  have hpre : IsPreorder (key.compareAs f.kind) := isPreorder_compareAs key f.kind
  obtain ⟨out, n, hout⟩ := exists_sortAs hrank
  have hstable : IsStableSort (key.compareAs f.kind) records out := sortAs_isStableSort hout
  have hrank' : ∀ r ∈ out, f.kind.CanRank (r.field key.field) := fun r hr =>
    hrank r (hstable.perm.mem_iff.mp hr)
  obtain ⟨again, m, hagain⟩ := exists_sortAs hrank'
  have hself : again = out :=
    (sortAs_isStableSort hagain).unique hpre (.of_ordered hstable.ordered)
  refine ⟨out, (Schema.sortBy_eq_ok hsort).mpr ⟨n, hout⟩, fun l => ⟨fun hl => ?_, ?_⟩,
    (Schema.sortBy_eq_ok hsort).mpr ⟨m, hself ▸ hagain⟩, fun hdesc l => ?_⟩
  · exact (hl.isStableSort hrank).unique hpre hstable
  · rintro rfl
    exact .of_sortAs hout
  · have hraw : key.compareAs f.kind = f.kind.compareField key.field := by
      funext x y
      rw [SortKey.compareAs, hdesc, Kind.compareIn_false, Kind.compareField]
    rw [hraw] at hpre hstable
    exact ⟨fun hl => hl.unique hpre hstable, fun hl => hl ▸ hstable⟩

open Sample in
theorem sortBy_unique_sorted_titles :
    ∃ out, (sortBy (some schema) byTitle books).outcome = .ok out ∧
      (∀ l, SortedBy title.kind byTitle books l ↔ l = out) ∧
      (sortBy (some schema) byTitle out).outcome = .ok out ∧
      (byTitle.descending = false → ∀ l,
        IsStableSort (title.kind.compareField byTitle.field) books l ↔ l = out) :=
  sortBy_unique_sorted rfl rfl plain_title

end Facets
