import Facets.Proofs.Filter.Composition
import Facets.Proofs.Order.Built

/-
Filtering records that are built from raw data.

Choices and texts are compared with what a stored value is coerced to, so a built
record is admitted as the raw one is (`Constraint.admits_rebuild`).  Choices for a
list field are the exception: they look at the items of the stored value.  A single
scalar has no items until it is built into a list, and an empty item is not among
the labels.  `Kind.lists` is the test for values without either, and where stored
values pass it, building and filtering commute (`apply_rebuild_comm`).
-/
namespace Facets

open Outcome Constraint

/-! ## Items of raw and built values -/

namespace Kind

/-- The items of a value are those of the list that is built from it, as far as
choices can tell. -/
def lists (k : Kind) : Value → Bool
  | .bool _ | .int _ | .float _ => false
  | .text s => s == ""
  | .list items | .tuple items =>
    k != .labels || items.all fun item =>
      match item with
      | .text _ => true
      | item => !item.isEmpty
  | _ => true

end Kind

namespace Constraint

variable {targets : List String} {v : Value} {x : Option Typed}

/-- Whether a value has an item that is one of the targets. -/
def holdsIn (targets : List String) (v : Value) : Except Fault Bool :=
  match v.items? with
  | some items => someTarget targets items
  | none => .ok false

theorem holdsIn_of_some {items : List Value} (h : v.items? = some items) :
    holdsIn targets v = someTarget targets items := by
  rw [holdsIn, h]

theorem holdsIn_of_none (h : v.items? = none) : holdsIn targets v = .ok false := by
  rw [holdsIn, h]

theorem holdsIn_of_isEmpty (h : v.isEmpty = true) : holdsIn targets v = .ok false := by
  cases v with
  | list items | tuple items =>
    have hitems : items = [] := by simpa [Value.isEmpty] using h
    rw [hitems]
    rfl
  | _ => rfl

theorem asItems_of_lists {k : Kind} (hlists : k.lists v = true) (hempty : v.isEmpty = false) :
    v.asItems = .ok v.items? := by
  cases v with
  | list items | tuple items =>
    have hitems : items ≠ [] := by simpa [Value.isEmpty] using hempty
    simp [Value.asItems, Value.items?, hitems]
  | text s =>
    have hs : (s == "") = true := hlists
    rw [Value.isEmpty, hs] at hempty
    cases hempty
  | bool _ | int _ | float _ => cases hlists
  | _ => rfl

/-- What is empty has no items before coercion and none after it. -/
theorem holdsIn_coerce_of_isEmpty {k : Kind} (hempty : v.isEmpty = true)
    (h : k.coerce v = .ok x) :
    holdsIn targets ((x.map Typed.toValue).getD .null) = holdsIn targets v := by
  rw [Kind.coerce, if_pos hempty] at h
  rw [holdsIn_of_isEmpty hempty, ← Except.ok.inj h]
  rfl

theorem holdsIn_array (hlists : Kind.array.lists v = true) (h : Kind.array.coerce v = .ok x) :
    holdsIn targets ((x.map Typed.toValue).getD .null) = holdsIn targets v := by
  by_cases hempty : v.isEmpty = true
  · exact holdsIn_coerce_of_isEmpty hempty h
  · rw [Bool.not_eq_true] at hempty
    have hx : x = v.items?.map .items := by
      rw [Kind.coerce, hempty, Kind.convert, asItems_of_lists hlists hempty] at h
      exact (Except.ok.inj h).symm
    rw [hx]
    cases hitems : v.items? with
    | none =>
      rw [holdsIn_of_none hitems]
      rfl
    | some items =>
      rw [holdsIn_of_some hitems]
      rfl

/-- Blank texts are not among the labels, but no target is blank. -/
theorem someTarget_labels {items : List Value} {labels : List String}
    (htargets : ∀ t ∈ targets, t ≠ "")
    (hitems : ∀ item ∈ items, item.isEmpty = true → item = .text "")
    (h : (items.filter fun item => !item.isEmpty).mapM Value.display = .ok labels) :
    someTarget targets (labels.map .text) = someTarget targets items := by
  induction items generalizing labels with
  | nil =>
    rw [← pure_eq_ok.mp h]
    rfl
  | cons item items ih =>
    obtain ⟨hitem, hrest⟩ := List.forall_mem_cons.mp hitems
    by_cases hempty : item.isEmpty = true
    · rw [List.filter_cons_of_neg (by simp [hempty])] at h
      have hblank : targets.contains "" = false := by
        rw [Bool.eq_false_iff]
        intro hmem
        exact htargets "" (List.contains_iff_mem.mp hmem) rfl
      have hlabel : entryLabel "" = "" := by decide
      have hdisplay : (Value.text "").display = .ok "" := rfl
      rw [ih hrest h, hitem hempty]
      conv => rhs; rw [someTarget, hdisplay, ok_bind, hlabel, hblank]
      rfl
    · rw [List.filter_cons_of_pos (by simpa using hempty), List.mapM_cons] at h
      obtain ⟨label, hlabel, h⟩ := bind_eq_ok.mp h
      obtain ⟨labels', hlabels', h⟩ := bind_eq_ok.mp h
      have hdisplay : (Value.text label).display = .ok label := rfl
      rw [← pure_eq_ok.mp h, List.map_cons, someTarget, someTarget, hlabel, hdisplay, ok_bind,
        ok_bind, ih hrest hlabels']

/-- A list for labels has no empty item but blank texts. -/
theorem eq_blank_of_lists {items : List Value} (hlists : Kind.labels.lists v = true)
    (hv : v.items? = some items) : ∀ item ∈ items, item.isEmpty = true → item = .text "" := by
  intro item hitem hempty
  have hall : (items.all fun item =>
      match item with
      | .text _ => true
      | item => !item.isEmpty) = true := by
    cases v with
    | list vs | tuple vs =>
      rw [← Option.some.inj hv]
      exact hlists
    | _ => cases hv
  have hone := List.all_eq_true.mp hall item hitem
  cases item with
  | text s => simpa [Value.isEmpty] using hempty
  | _ => simp_all

theorem holdsIn_labels (htargets : ∀ t ∈ targets, t ≠ "") (hlists : Kind.labels.lists v = true)
    (h : Kind.labels.coerce v = .ok x) :
    holdsIn targets ((x.map Typed.toValue).getD .null) = holdsIn targets v := by
  by_cases hempty : v.isEmpty = true
  · exact holdsIn_coerce_of_isEmpty hempty h
  · rw [Bool.not_eq_true] at hempty
    rw [Kind.coerce, hempty, Kind.convert, Value.asLabels, asItems_of_lists hlists hempty] at h
    obtain ⟨ls, hls, hx⟩ := bind_eq_ok.mp h
    cases hitems : v.items? with
    | none =>
      rw [hitems] at hls
      rw [← pure_eq_ok.mp hx, ← pure_eq_ok.mp hls, holdsIn_of_none hitems]
      rfl
    | some items =>
      rw [hitems, ok_bind] at hls
      obtain ⟨labels, hlabels, hls⟩ := bind_eq_ok.mp hls
      have hsome := someTarget_labels htargets (eq_blank_of_lists hlists hitems) hlabels
      rw [← pure_eq_ok.mp hx, ← pure_eq_ok.mp hls, holdsIn_of_some hitems, ← hsome]
      cases labels with
      | nil => rfl
      | cons label labels => rfl

end Constraint

/-! ## Demands -/

namespace Constraint

variable {s : Schema} {f : Field} {r built : Record} {c : Constraint}

/-- A demand on a field that a filter other than a range makes. -/
def On (f : Field) : Constraint → Prop
  | .equals key kind _ | .oneOf key kind _ | .contains key kind _ => key = f.key ∧ kind = f.kind
  | .holds key targets => key = f.key ∧ f.kind.isArray = true ∧ ∀ t ∈ targets, t ≠ ""
  | .within _ _ => False

/-- The demand looks at items as they are stored. -/
def isHolds : Constraint → Bool
  | .holds _ _ => true
  | _ => false

/-- A built record is admitted as the raw one is. -/
theorem admits_rebuild (hc : c.On f) (hf : f ∈ s.fields) (h : r.rebuild s = .ok built)
    (hlists : c.isHolds = true → f.kind.lists (r.field f.key) = true) :
    c.admits built = c.admits r := by
  have htyped : f.kind.coerce (built.field f.key) = f.kind.coerce (r.field f.key) :=
    Record.typed_rebuild h hf
  cases c with
  | equals key kind expected =>
    obtain ⟨rfl, rfl⟩ := hc
    rw [admits, admits, htyped]
  | oneOf key kind expected =>
    obtain ⟨rfl, rfl⟩ := hc
    rw [admits, admits, htyped]
  | contains key kind query =>
    obtain ⟨rfl, rfl⟩ := hc
    rw [admits, admits, Kind.folded, Kind.folded, Record.plain_rebuild h hf]
  | within key range => exact hc.elim
  | holds key targets =>
    obtain ⟨rfl, harray, htargets⟩ := hc
    obtain ⟨x, hx, hbuilt⟩ := Record.field_rebuild h hf
    have hv : f.kind.lists (r.field f.key) = true := hlists rfl
    show holdsIn targets (built.field f.key) = holdsIn targets (r.field f.key)
    rw [hbuilt]
    rw [Record.typed] at hx
    cases hkind : f.kind with
    | array =>
      rw [hkind] at hv hx
      exact holdsIn_array hv hx
    | labels =>
      rw [hkind] at hv hx
      exact holdsIn_labels htargets hv hx
    | _ =>
      rw [hkind] at harray
      cases harray

end Constraint

namespace Filter

variable {s : Schema} {state : FilterState} {ranges : FieldRanges} {ds : List FilterDefinition}
  {f : Field} {chosen : Value} {records : List Record} {c : Constraint} {kind : FilterKind}

theorem on_of_select (h : select f chosen = .ok (some c)) : c.On f := by
  unfold select at h
  split at h
  · cases Except.ok.inj h
  · rename_i hempty
    split at h
    · rename_i harray
      obtain ⟨target, htarget, h⟩ := bind_eq_ok.mp h
      obtain rfl := Option.some.inj (pure_eq_ok.mp h)
      refine ⟨rfl, harray, fun t ht => ?_⟩
      rw [List.mem_singleton.mp ht]
      exact Value.display_ne_empty (by simpa using hempty) htarget
    · obtain ⟨v, -, h⟩ := bind_eq_ok.mp h
      obtain rfl := Option.some.inj (pure_eq_ok.mp h)
      exact ⟨rfl, rfl⟩

theorem on_of_checkbox (h : checkbox f chosen = .ok (some c)) : c.On f := by
  rcases checkbox_cases h with ⟨harray, targets, htargets, rfl⟩ | ⟨-, vs, -, rfl⟩
  · refine ⟨rfl, harray, fun t ht => ?_⟩
    obtain ⟨v, hv, hdisplay⟩ := mem_of_mapM_ok htargets t ht
    exact Value.display_ne_empty (isEmpty_of_mem_chosenValues hv) hdisplay
  · exact ⟨rfl, rfl⟩

theorem on_of_text (h : text f chosen = .ok (some c)) : c.On f ∧ c.isHolds = false := by
  unfold text at h
  split at h
  · cases Except.ok.inj h
  · obtain ⟨query, -, h⟩ := bind_eq_ok.mp h
    have hsome := pure_eq_ok.mp h
    split at hsome
    · cases hsome
    · obtain rfl := Option.some.inj hsome
      exact ⟨⟨rfl, rfl⟩, rfl⟩

/-- What the record stores for the list fields of choices passes the test. -/
def SeesLists (s : Schema) (ds : List FilterDefinition) (r : Record) : Prop :=
  ∀ d ∈ s.usableFilters ds, d.kind.hasOptions = true → ∀ f ∈ s.field? d.field,
    f.kind.isArray = true → f.kind.lists (r.field f.key) = true

instance {r : Record} : Decidable (SeesLists s ds r) :=
  inferInstanceAs (Decidable (∀ d ∈ s.usableFilters ds, d.kind.hasOptions = true →
    ∀ f ∈ s.field? d.field, f.kind.isArray = true → f.kind.lists (r.field f.key) = true))

theorem on_of_demand (hrange : kind ≠ .range)
    (h : (demand ranges records kind f chosen).outcome = .ok (some c)) :
    c.On f ∧ (c.isHolds = true → kind.hasOptions = true) := by
  cases kind with
  | select => exact ⟨on_of_select h, fun _ => rfl⟩
  | checkbox => exact ⟨on_of_checkbox h, fun _ => rfl⟩
  | range => exact absurd rfl hrange
  | text =>
    obtain ⟨hon, hholds⟩ := on_of_text h
    refine ⟨hon, fun htrue => ?_⟩
    rw [hholds] at htrue
    cases htrue

/-- What filters other than ranges demand is decided alike for a raw and a built
record. -/
theorem admits_rebuild_of_mem {cs : List Constraint} {r built : Record}
    (hrange : ∀ d ∈ ds, d.kind ≠ .range)
    (hcs : (demands s state ranges records (s.usableFilters ds)).outcome = .ok cs)
    (h : r.rebuild s = .ok built) (hlists : SeesLists s ds r) :
    ∀ c ∈ cs, c.admits built = c.admits r := by
  intro c hc
  obtain ⟨d, hd, hdemand⟩ := (mem_demands_iff hcs).mp hc
  unfold demandOf at hdemand
  cases hf : s.field? d.field with
  | none =>
    rw [hf] at hdemand
    cases Except.ok.inj hdemand
  | some f =>
    cases hchosen : Assoc.find? (· == ·) d.field state with
    | none =>
      rw [hf, hchosen] at hdemand
      cases Except.ok.inj hdemand
    | some chosen =>
      rw [hf, hchosen] at hdemand
      have hmem : f ∈ s.fields := List.mem_of_find?_eq_some hf
      obtain ⟨hon, hoptions⟩ := on_of_demand (hrange d (List.mem_of_mem_filter hd)) hdemand
      refine admits_rebuild hon hmem h fun hholds => ?_
      have harray : f.kind.isArray = true := by
        cases c with
        | holds key targets => exact hon.2.1
        | _ => cases hholds
      exact hlists d hd (hoptions hholds) f hf harray

end Filter

/-! ## Filtering -/

/-- Choices and texts leave the same of raw and of built records, as long as the list
fields of choices hold lists whose items are all kept when they are built. -/
theorem apply_rebuild_comm {s : Schema} {ds : List FilterDefinition} {state : FilterState}
    {ranges : FieldRanges} {records built : List Record} {sel : Selection}
    (hrange : ∀ d ∈ ds, d.kind ≠ .range)
    (hbuilt : records.mapM (Record.rebuild s) = .ok built)
    (hlists : ∀ r ∈ records, Filter.SeesLists s ds r)
    (h : (Filter.apply s ds state ranges records).outcome = .ok sel) :
    ∃ sel', (Filter.apply s ds state ranges built).outcome = .ok sel' ∧
      (sel.records records).mapM (Record.rebuild s) = .ok (sel'.records built) ∧
      (sel'.records built).map Record.id = (sel.records records).map Record.id := by
  obtain ⟨cs, hcs, hall, hkept⟩ := Filter.exists_apply_iff.mp ⟨sel, h, rfl⟩
  have hsame : Filter.demands s state ranges built (s.usableFilters ds) =
      Filter.demands s state ranges records (s.usableFilters ds) :=
    Filter.demands_congr fun d hd hkind => absurd hkind (hrange d (List.mem_of_mem_filter hd))
  have hadmits : ∀ {r b : Record}, r ∈ records → r.rebuild s = .ok b →
      admitsAll b cs = admitsAll r cs := fun {r b} hr hb =>
    admitsAll_congr (Filter.admits_rebuild_of_mem hrange hcs hb (hlists r hr))
  have hall' : ∀ b ∈ built, ∃ admitted, admitsAll b cs = .ok admitted := by
    intro b hb
    obtain ⟨r, hr, hrb⟩ := mem_of_mapM_ok hbuilt b hb
    rw [hadmits hr hrb]
    exact hall r hr
  obtain ⟨sel', hsel', hkept'⟩ := Filter.exists_apply_iff.mpr ⟨cs, hsame ▸ hcs, hall', rfl⟩
  have hfiltered : (records.filter (meetsAll cs)).mapM (Record.rebuild s) =
      .ok (built.filter (meetsAll cs)) := by
    refine mapM_filter hbuilt fun r hr b hb => ?_
    rw [meetsAll, meetsAll, hadmits hr hb]
  rw [← hkept]
  refine ⟨sel', hsel', hkept' ▸ hfiltered, ?_⟩
  rw [hkept']
  exact map_eq_of_mapM_ok hfiltered fun r _ b hb => (Record.identity_rebuild hb).2.1

namespace Sample

/-- Lists and tuples with blank and missing items, and a number as a title. -/
def papers : List Record :=
  [book 0 [("title", .int 1984), ("tags", .list [.null, .text "sea"]),
      ("links", .tuple [.text "", .text "[[Emma]]"])],
    book 1 [("title", .text "Walden"), ("tags", .tuple [.text "sea"]),
      ("links", .list [.int 7])],
    book 2 [("title", .text "1984"), ("links", .list [.text "Emma"])]]

def choices : List FilterDefinition :=
  [⟨"tags", .select, "Tags", true, none⟩, ⟨"links", .checkbox, "Links", true, none⟩,
    ⟨"title", .text, "Title", true, none⟩]

def chosen : FilterState :=
  [("tags", .text "sea"), ("links", .set [.text "Emma", .int 7]), ("title", .text "98")]

theorem exists_apply_papers :
    (∀ r ∈ papers, Filter.SeesLists drawer choices r) ∧
      ∃ built sel, papers.mapM (Record.rebuild drawer) = .ok built ∧
        (Filter.apply drawer choices chosen [] papers).outcome = .ok sel ∧
        (sel.records papers).map Record.id = ["0"] := by
  have hrun : (∀ r ∈ papers, Filter.SeesLists drawer choices r) ∧ gives (do
      let _ ← papers.mapM (Record.rebuild drawer)
      let sel ← (Filter.apply drawer choices chosen [] papers).outcome
      pure ((sel.records papers).map Record.id)) ["0"] = true := by decide +kernel
  obtain ⟨hlists, hids⟩ := hrun
  obtain ⟨built, hbuilt, h⟩ := bind_eq_ok.mp (gives_iff.mp hids)
  obtain ⟨sel, hsel, h⟩ := bind_eq_ok.mp h
  exact ⟨hlists, built, sel, hbuilt, hsel, pure_eq_ok.mp h⟩

end Sample

open Sample in
theorem apply_rebuild_comm_papers :
    ∃ built sel, (∀ d ∈ choices, d.kind ≠ .range) ∧
      papers.mapM (Record.rebuild drawer) = .ok built ∧
      (∀ r ∈ papers, Filter.SeesLists drawer choices r) ∧
      (Filter.apply drawer choices chosen [] papers).outcome = .ok sel ∧
      (sel.records papers).map Record.id = ["0"] ∧
      ∃ sel', (Filter.apply drawer choices chosen [] built).outcome = .ok sel' ∧
        (sel.records papers).mapM (Record.rebuild drawer) = .ok (sel'.records built) ∧
        (sel'.records built).map Record.id = (sel.records papers).map Record.id := by
  obtain ⟨hlists, built, sel, hbuilt, hsel, hids⟩ := exists_apply_papers
  have hrange : ∀ d ∈ choices, d.kind ≠ .range := by decide
  exact ⟨built, sel, hrange, hbuilt, hlists, hsel, hids,
    apply_rebuild_comm hrange hbuilt hlists hsel⟩

namespace Sample

def tagged : Schema := ⟨"catalog", [tags], {}, by decide⟩

/-- A single tag, stored as a text and not as a list. -/
def loose : List Record := [⟨0, "a", "", .ofEntries [("tags", .text "sea")]⟩]

def tagChoice : List FilterDefinition := [⟨"tags", .select, "Tags", true, none⟩]

end Sample

open Sample in
/-- A choice for a list field does not see a single scalar.  It sees the list that is
built from the same data. -/
theorem not_apply_rebuild_comm_loose :
    ∃ built sel sel', loose.mapM (Record.rebuild tagged) = .ok built ∧
      (Filter.apply tagged tagChoice [("tags", .text "sea")] [] loose).outcome = .ok sel ∧
      (Filter.apply tagged tagChoice [("tags", .text "sea")] [] built).outcome = .ok sel' ∧
      (sel.records loose).map Record.id = [] ∧ (sel'.records built).map Record.id = ["a"] := by
  have hids : gives (do
      let built ← loose.mapM (Record.rebuild tagged)
      let sel ← (Filter.apply tagged tagChoice [("tags", .text "sea")] [] loose).outcome
      let sel' ← (Filter.apply tagged tagChoice [("tags", .text "sea")] [] built).outcome
      pure ((sel.records loose).map Record.id, (sel'.records built).map Record.id))
      ([], ["a"]) = true := by decide +kernel
  obtain ⟨built, hbuilt, h⟩ := bind_eq_ok.mp (gives_iff.mp hids)
  obtain ⟨sel, hsel, h⟩ := bind_eq_ok.mp h
  obtain ⟨sel', hsel', h⟩ := bind_eq_ok.mp h
  obtain ⟨hraw, hbuilt'⟩ := Prod.mk.inj (pure_eq_ok.mp h)
  exact ⟨built, sel, sel', hbuilt, hsel, hsel', hraw, hbuilt'⟩

end Facets
