import Facets.Proofs.Filter.Ranges
import Facets.Proofs.Order.ByKeys
import Facets.Proofs.Record.Build

/-
Sorting records that are built from raw data.

A built record is compared as the raw one is, by one field (`Schema.compareBy_rebuilt`)
and by several (`Schema.compareByKeys_rebuilt`).  Since a list has only one stable
sort, the sort of the built records is built from the sort of the raw ones.
-/
namespace Facets

open Outcome Facets.Order

/-! ## Built records -/

namespace Record

variable {s : Schema} {r : Record} {records : List Record}

/-- The built record, or the record itself where it cannot be built. -/
def rebuilt (s : Schema) (r : Record) : Record :=
  match r.rebuild s with
  | .ok built => built
  | .error _ => r

/-- Every field of the schema can be read and written as a plain text. -/
def HasPlain (s : Schema) (r : Record) : Prop :=
  ∀ f ∈ s.fields, ∃ text, f.kind.plain (r.field f.key) = .ok text

theorem hasPlain_iff :
    r.HasPlain s ↔ ∀ f ∈ s.fields, (f.kind.plain (r.field f.key)).isOk = true :=
  forall₂_congr fun _ _ => Kind.hasPlain_iff

instance : Decidable (r.HasPlain s) := decidable_of_iff _ hasPlain_iff.symm

theorem rebuild_eq (h : r.HasPlain s) : r.rebuild s = .ok (r.rebuilt s) := by
  obtain ⟨built, hbuilt⟩ : ∃ built, r.rebuild s = .ok built := by
    refine exists_rebuild fun f hf => ?_
    obtain ⟨text, htext⟩ := h f hf
    obtain ⟨x, hx, -⟩ := bind_eq_ok.mp htext
    exact ⟨x, hx⟩
  rw [rebuilt, hbuilt]

theorem mapM_rebuild (h : ∀ r ∈ records, r.HasPlain s) :
    records.mapM (rebuild s) = .ok (records.map (rebuilt s)) := by
  rw [mapM_eq_ok, List.forall₂_map_right_iff, List.forall₂_same]
  exact fun r hr => rebuild_eq (h r hr)

theorem id_rebuilt (h : r.HasPlain s) : (r.rebuilt s).id = r.id :=
  (identity_rebuild (rebuild_eq h)).2.1

theorem map_id_rebuilt (h : ∀ r ∈ records, r.HasPlain s) :
    (records.map (rebuilt s)).map Record.id = records.map Record.id := by
  rw [List.map_map]
  exact List.map_congr_left fun r hr => id_rebuilt (h r hr)

end Record

/-! ## Comparing -/

theorem Kind.compareIn_congr {k : Kind} {descending : Bool} {a a' b b' : Value}
    (ha : k.coerce a = k.coerce a') (hb : k.coerce b = k.coerce b') :
    k.compareIn descending a b = k.compareIn descending a' b' := by
  rw [compareIn, compareIn, ha, hb]

namespace Schema

variable {s : Schema} {x y : Record}

theorem mem_of_sortField? {key : String} {f : Field} (h : s.sortField? key = some f) :
    f ∈ s.fields ∧ f.key = key := by
  have hfield : s.field? key = some f := (sortField?_eq_some.mp h).1
  exact ⟨List.mem_of_find?_eq_some hfield, key_of_field? hfield⟩

theorem compareBy_rebuilt (key : SortKey) (hx : x.HasPlain s) (hy : y.HasPlain s) :
    s.compareBy key (x.rebuilt s) (y.rebuilt s) = s.compareBy key x y := by
  cases hf : s.sortField? key.field with
  | none => rw [compareBy_eq_of_none hf]
  | some f =>
    obtain ⟨hmem, hkey⟩ := mem_of_sortField? hf
    rw [compareBy_eq hf, SortKey.compareAs, SortKey.compareAs, ← hkey]
    exact Kind.compareIn_congr (Record.typed_rebuild (Record.rebuild_eq hx) hmem)
      (Record.typed_rebuild (Record.rebuild_eq hy) hmem)

theorem compareByKeys_rebuilt (keys : List SortKey) (hx : x.HasPlain s) (hy : y.HasPlain s) :
    s.compareByKeys keys (x.rebuilt s) (y.rebuilt s) = s.compareByKeys keys x y := by
  induction keys with
  | nil => rfl
  | cons key keys ih =>
    rw [compareByKeys, lexicographic, lexicographic, compareBy_rebuilt key hx hy, ih]

end Schema

/-! ## Sorting -/

section Sorting

variable {s : Schema} {records out out' : List Record}
  {cmp : Record → Record → Except Fault Ordering}

/-- The sort of the built records is built from the sort of the raw ones. -/
theorem mapM_rebuild_sorted (hplain : ∀ r ∈ records, r.HasPlain s) (hcmp : IsPreorder cmp)
    (hagree : ∀ x ∈ records, ∀ y ∈ records, cmp (x.rebuilt s) (y.rebuilt s) = cmp x y)
    (h : IsStableSort cmp records out)
    (h' : IsStableSort cmp (records.map (Record.rebuilt s)) out') :
    out.mapM (Record.rebuild s) = .ok out' ∧ out'.map Record.id = out.map Record.id := by
  have hout : ∀ r ∈ out, r.HasPlain s := fun r hr => hplain r (h.perm.mem_iff.mp hr)
  have heq : out' = out.map (Record.rebuilt s) := h'.unique hcmp (h.map hagree)
  rw [heq]
  exact ⟨Record.mapM_rebuild hout, Record.map_id_rebuilt hout⟩

theorem canRank_of_hasPlain (hplain : ∀ r ∈ records, r.HasPlain s) {key : SortKey} {f : Field}
    (hf : s.sortField? key.field = some f) :
    ∀ r ∈ records, f.kind.CanRank (r.field key.field) := by
  intro r hr
  obtain ⟨hmem, hkey⟩ := Schema.mem_of_sortField? hf
  obtain ⟨text, htext⟩ := hplain r hr f hmem
  rw [← hkey]
  exact Kind.canRank_of_plain htext

theorem hasPlain_rebuilt {r : Record} (h : r.HasPlain s) : (r.rebuilt s).HasPlain s := by
  intro f hf
  rw [Record.plain_rebuild (Record.rebuild_eq h) hf]
  exact h f hf

/-- Building records changes neither their typed values nor their plain texts, and
it commutes with sorting. -/
theorem rebuild_sort_comm (hplain : ∀ r ∈ records, r.HasPlain s) :
    ∃ built, records.mapM (Record.rebuild s) = .ok built ∧
      List.Forall₂ (fun r b => b.id = r.id ∧ b.path = r.path ∧
        ∀ f ∈ s.fields, b.typed f = r.typed f ∧
          f.kind.plain (b.field f.key) = f.kind.plain (r.field f.key)) records built ∧
      (∀ key, ∃ out out', (sortBy (some s) key records).outcome = .ok out ∧
        (sortBy (some s) key built).outcome = .ok out' ∧
        out.mapM (Record.rebuild s) = .ok out' ∧ out'.map Record.id = out.map Record.id) ∧
      ∀ keys, ∃ out out', (sortByKeys (some s) keys records).outcome = .ok out ∧
        (sortByKeys (some s) keys built).outcome = .ok out' ∧
        out.mapM (Record.rebuild s) = .ok out' ∧ out'.map Record.id = out.map Record.id := by
  have hbuilt : ∀ r ∈ records.map (Record.rebuilt s), r.HasPlain s := by
    intro r hr
    obtain ⟨raw, hraw, rfl⟩ := List.mem_map.mp hr
    exact hasPlain_rebuilt (hplain raw hraw)
  refine ⟨records.map (Record.rebuilt s), Record.mapM_rebuild hplain, ?_, fun key => ?_,
    fun keys => ?_⟩
  · rw [List.forall₂_map_right_iff, List.forall₂_same]
    intro r hr
    have hrebuild := Record.rebuild_eq (hplain r hr)
    obtain ⟨-, hid, hpath⟩ := Record.identity_rebuild hrebuild
    exact ⟨hid, hpath, fun f hf =>
      ⟨Record.typed_rebuild hrebuild hf, Record.plain_rebuild hrebuild hf⟩⟩
  · obtain ⟨out, hout⟩ := Schema.exists_sortBy fun f hf => canRank_of_hasPlain hplain hf
    obtain ⟨out', hout'⟩ := Schema.exists_sortBy fun f hf => canRank_of_hasPlain hbuilt hf
    refine ⟨out, out', hout, hout', mapM_rebuild_sorted hplain (s.isPreorder_compareBy key) ?_
      (Schema.sortBy_isStableSort hout) (Schema.sortBy_isStableSort hout')⟩
    exact fun x hx y hy => Schema.compareBy_rebuilt key (hplain x hx) (hplain y hy)
  · have hrank : ∀ key ∈ keys, ∀ f, s.sortField? key.field = some f →
        ∀ r ∈ records, f.kind.CanRank (r.field key.field) :=
      fun key _ f hf => canRank_of_hasPlain hplain hf
    have hrank' : ∀ key ∈ keys, ∀ f, s.sortField? key.field = some f →
        ∀ r ∈ records.map (Record.rebuilt s), f.kind.CanRank (r.field key.field) :=
      fun key _ f hf => canRank_of_hasPlain hbuilt hf
    obtain ⟨out, hout⟩ := exists_sortByKeys hrank
    obtain ⟨out', hout'⟩ := exists_sortByKeys hrank'
    refine ⟨out, out', hout, hout', mapM_rebuild_sorted hplain (isPreorder_compareByKeys s keys) ?_
      (sortByKeys_isStableSort hout) (sortByKeys_isStableSort hout')⟩
    exact fun x hx y hy => Schema.compareByKeys_rebuilt keys (hplain x hx) (hplain y hy)

end Sorting

namespace Sample

def tags : Field := ⟨"tags", "Tags", .array, true, true, true, 0, none⟩

def links : Field := ⟨"links", "Links", .labels, true, true, true, 0, none⟩

def notes : Field := ⟨"notes", "Notes", .object, true, true, true, 0, none⟩

def drawer : Schema := ⟨"drawer", [title, pages, finished, tags, links, notes], {}, by decide⟩

/-- Raw data in many forms: numbers and truth values as texts, a number as a text
and as a list, a tuple, empty items, and a field that the schema does not know. -/
def cards : List Record :=
  [book 0 [("title", .int 1984), ("pages", .text " 328 "), ("finished", .text "Yes"),
      ("tags", .float (.ofInt 3))],
    book 1 [("title", .text "Walden"), ("pages", .text "many"), ("author", .text "Thoreau"),
      ("links", .tuple [.text "[[Emma]]", .text "", .int 7])],
    book 2 [("title", .bool false), ("pages", .int 90), ("tags", .list [.null, .text "sea"]),
      ("notes", .dict [(.text "b", .int 1), (.int 2, .null)])]]

def byLinks : List SortKey := [⟨"links", true⟩, ⟨"tags", false⟩, ⟨"pages", false⟩]

theorem hasPlain_cards : ∀ r ∈ cards, r.HasPlain drawer := by
  decide +kernel

end Sample

open Sample in
theorem rebuild_sort_comm_cards :
    ∃ built, cards.mapM (Record.rebuild drawer) = .ok built ∧
      List.Forall₂ (fun r b => b.id = r.id ∧ b.path = r.path ∧
        ∀ f ∈ drawer.fields, b.typed f = r.typed f ∧
          f.kind.plain (b.field f.key) = f.kind.plain (r.field f.key)) cards built ∧
      ∃ out out', (sortByKeys (some drawer) byLinks cards).outcome = .ok out ∧
        (sortByKeys (some drawer) byLinks built).outcome = .ok out' ∧
        out.mapM (Record.rebuild drawer) = .ok out' ∧
        out'.map Record.id = out.map Record.id := by
  obtain ⟨built, hbuilt, hfields, -, hkeys⟩ := rebuild_sort_comm hasPlain_cards
  exact ⟨built, hbuilt, hfields, hkeys byLinks⟩

end Facets
