import Facets.Proofs.Field.Readable
import Facets.Proofs.Filter.Built
import Facets.Proofs.Filter.Select
import Facets.Proofs.Filter.Single
import Facets.Proofs.Filter.Total
import Facets.Proofs.Filter.Within

/-
Choices of several values.

A checkbox filter keeps the records that have one of the chosen values, whichever way
these are compared: by their texts with the items of a list, and as the type of the field
otherwise (`FilterDefinition.mem_keeps_checkbox`).  So choices add up, and a choice of
one value is what a select filter makes of it.
-/
namespace Facets

open Outcome Constraint

/-- The record has the value in the field: as an item or as the label in one, where the
field holds a list, and as its typed value elsewhere. -/
inductive Field.Has (f : Field) (r : Record) (v : Value) : Prop
  | item {items : List Value} {item : Value} {text : String} (harray : f.kind.isArray = true)
    (hitems : (r.field f.key).items? = some items) (hmem : item ∈ items)
    (hv : v.display = .ok text) (h : isTarget [text] item = true)
  | typed {t : Typed} {w : Value} (hscalar : f.kind.isArray = false)
    (ht : f.kind.coerce (r.field f.key) = .ok (some t)) (hv : Filter.expected f.kind v = .ok w)
    (h : w.same t.toValue = true)

theorem Value.null_equal {v : Value} (hne : v.isEmpty = false) : Value.null.equal v = false := by
  cases v with
  | null => cases hne
  | _ => simp [equal, isNaN, same]

/-! ## Items and targets -/

namespace Constraint

variable {targets targets' : List String} {items : List Value} {v : Value} {b : Bool}

/-- The targets count one by one. -/
theorem isTarget_iff_exists :
    isTarget targets v = true ↔ ∃ target ∈ targets, isTarget [target] v = true := by
  unfold isTarget
  cases v.display with
  | error e => simp
  | ok text => simp [and_or_left, exists_or]

/-- A search that has an answer found a target if there is one.  It may have stopped
before an item that has no text. -/
theorem eq_any_of_someTarget (h : someTarget targets items = .ok b) :
    b = items.any (isTarget targets) := by
  induction items with
  | nil => exact (Except.ok.inj h).symm
  | cons v items ih =>
    rw [someTarget] at h
    obtain ⟨text, htext, h⟩ := bind_eq_ok.mp h
    have hv : isTarget targets v =
        (targets.contains text || targets.contains (entryLabel text)) := by
      rw [isTarget, htext]
    rw [← hv] at h
    rw [List.any_cons]
    cases hfound : isTarget targets v with
    | true =>
      rw [if_pos hfound] at h
      rw [← pure_eq_ok.mp h, Bool.true_or]
    | false =>
      rw [if_neg (Bool.not_eq_true _ ▸ hfound)] at h
      rw [Bool.false_or, ih h]

/-- With more targets a search stops at the same item or before it. -/
theorem exists_someTarget_of_subset (hsub : targets ⊆ targets')
    (h : someTarget targets items = .ok b) : ∃ b', someTarget targets' items = .ok b' := by
  induction items with
  | nil => exact ⟨false, rfl⟩
  | cons v items ih =>
    rw [someTarget] at h
    obtain ⟨text, htext, h⟩ := bind_eq_ok.mp h
    rw [someTarget, htext, ok_bind]
    by_cases hfound : (targets'.contains text || targets'.contains (entryLabel text)) = true
    · exact ⟨true, if_pos hfound⟩
    · have hnone : ¬ (targets.contains text || targets.contains (entryLabel text)) = true := by
        simp only [Bool.or_eq_true, List.contains_iff_mem] at hfound ⊢
        exact fun hsome => hfound (hsome.imp (@hsub _) (@hsub _))
      rw [if_neg hnone] at h
      rw [if_neg hfound]
      exact ih h

theorem admits_holds_iff {r : Record} {key : String}
    (h : (Constraint.holds key targets).admits r = .ok b) :
    b = true ↔ ∃ items, (r.field key).items? = some items ∧
      ∃ item ∈ items, isTarget targets item = true := by
  rw [admits] at h
  cases hitems : (r.field key).items? with
  | none =>
    rw [hitems] at h
    simp [← Except.ok.inj h]
  | some items =>
    rw [hitems] at h
    simp [eq_any_of_someTarget h]

theorem admits_oneOf_iff {r : Record} {key : String} {k : Kind} {vs : List Value}
    (h : (Constraint.oneOf key k vs).admits r = .ok b) :
    b = true ↔ ∃ t, k.coerce (r.field key) = .ok (some t) ∧ ∃ w ∈ vs, w.same t.toValue = true := by
  rw [admits] at h
  obtain ⟨x, hx, h⟩ := bind_eq_ok.mp h
  cases x with
  | none => simp [hx, ← pure_eq_ok.mp h]
  | some t => simp [hx, ← pure_eq_ok.mp h]

theorem exists_admits_holds_of_subset {r : Record} {key : String} (hsub : targets ⊆ targets')
    (h : ∃ b, (Constraint.holds key targets).admits r = .ok b) :
    ∃ b, (Constraint.holds key targets').admits r = .ok b := by
  simp only [admits] at h ⊢
  cases hitems : (r.field key).items? with
  | none => exact ⟨false, rfl⟩
  | some items =>
    rw [hitems] at h
    obtain ⟨b, hb⟩ := h
    exact exists_someTarget_of_subset hsub hb

/-- A typed value is compared with each expected one, and that never faults. -/
theorem exists_admits_oneOf_iff {r : Record} {key : String} {k : Kind} {vs : List Value} :
    (∃ b, (Constraint.oneOf key k vs).admits r = .ok b) ↔ ∃ x, k.coerce (r.field key) = .ok x := by
  rw [admits, exists_bind_ok_iff]
  refine exists_congr fun x => and_iff_left_of_imp fun _ => ?_
  cases x with
  | none => exact ⟨false, rfl⟩
  | some t => exact ⟨_, rfl⟩

end Constraint

/-! ## The demand of a choice -/

namespace Filter

variable {f : Field} {r : Record} {chosen small large v w : Value} {c c' : Constraint} {b : Bool}

theorem mem_chosenValues_list {vs : List Value} :
    v ∈ chosenValues (.list vs) ↔ v ∈ vs ∧ v.isEmpty = false := by
  simp [chosenValues]

/-! ## Records that meet it -/

/-- A record meets the demand of several values exactly when it has one of them. -/
theorem admits_checkbox_iff (hc : checkbox f chosen = .ok (some c)) (hb : c.admits r = .ok b) :
    b = true ↔ ∃ v ∈ chosenValues chosen, f.Has r v := by
  rcases checkbox_cases hc with ⟨harray, targets, htargets, rfl⟩ | ⟨hscalar, vs, hvs, rfl⟩
  · rw [admits_holds_iff hb]
    constructor
    · rintro ⟨items, hitems, item, hmem, hitem⟩
      obtain ⟨target, htarget, hitem⟩ := isTarget_iff_exists.mp hitem
      obtain ⟨v, hv, hdisplay⟩ := (mem_mapM_ok_iff htargets).mp htarget
      exact ⟨v, hv, .item harray hitems hmem hdisplay hitem⟩
    · rintro ⟨v, hv, ⟨_, hitems, hmem, hdisplay, hitem⟩ | ⟨hscalar⟩⟩
      · have htarget := (mem_mapM_ok_iff htargets).mpr ⟨v, hv, hdisplay⟩
        exact ⟨_, hitems, _, hmem, isTarget_iff_exists.mpr ⟨_, htarget, hitem⟩⟩
      · cases harray.symm.trans hscalar
  · rw [admits_oneOf_iff hb]
    constructor
    · rintro ⟨t, ht, w, hw, hsame⟩
      obtain ⟨v, hv, hexpected⟩ := (mem_mapM_ok_iff hvs).mp hw
      exact ⟨v, hv, .typed hscalar ht hexpected hsame⟩
    · rintro ⟨v, hv, ⟨harray⟩ | ⟨_, ht, hexpected, hsame⟩⟩
      · cases hscalar.symm.trans harray
      · exact ⟨_, ht, _, (mem_mapM_ok_iff hvs).mpr ⟨v, hv, hexpected⟩, hsame⟩

/-- What can be tested against some values can be tested against more. -/
theorem exists_admits_of_subset (hsmall : checkbox f small = .ok (some c))
    (hlarge : checkbox f large = .ok (some c'))
    (hsub : chosenValues small ⊆ chosenValues large) (h : ∃ b, c.admits r = .ok b) :
    ∃ b, c'.admits r = .ok b := by
  rcases checkbox_cases hsmall with ⟨harray, targets, htargets, rfl⟩ | ⟨hscalar, vs, -, rfl⟩ <;>
    rcases checkbox_cases hlarge with ⟨harray', targets', htargets', rfl⟩ | ⟨hscalar', vs', -, rfl⟩
  · obtain ⟨found, hfound, hincl⟩ := mapM_subset hsub htargets'
    obtain rfl := Except.ok.inj (hfound.symm.trans htargets)
    exact exists_admits_holds_of_subset hincl h
  · cases harray.symm.trans hscalar'
  · cases hscalar.symm.trans harray'
  · exact exists_admits_oneOf_iff.mpr (exists_admits_oneOf_iff.mp h)

theorem isEmpty_expected {k : Kind} (hne : v.isEmpty = false) (h : expected k v = .ok w) :
    w.isEmpty = false := by
  obtain ⟨x, hx, hw⟩ := bind_eq_ok.mp h
  rw [← pure_eq_ok.mp hw]
  cases x with
  | none => exact hne
  | some t => exact (Kind.owns_of_coerce hx).isEmpty_eq_false

/-- A record is tested against one value alike by both kinds of choice.  A record without
a value is compared as null by one of them, and left out by the other. -/
theorem admits_oneOf_singleton {key : String} {k : Kind} (hne : w.isEmpty = false) :
    (Constraint.oneOf key k [w]).admits r = (Constraint.equals key k w).admits r := by
  rw [admits, admits]
  refine congrArg (k.coerce (r.field key) >>= ·) (funext fun x => ?_)
  cases x with
  | none =>
    show Except.ok false = Except.ok (Value.null.equal w)
    rw [Value.null_equal hne]
  | some t =>
    show Except.ok ([w].any (·.same t.toValue)) = Except.ok (t.toValue.equal w)
    rw [Value.equal, t.isNaN_toValue, Value.same_comm t.toValue w, List.any_cons, List.any_nil,
      Bool.or_false, Bool.not_false, Bool.true_and]

theorem checkbox_singleton (hne : v.isEmpty = false) (records : List Record) :
    (checkbox f (.list [v]) >>= fun c => keepWhere (fun r => admitsAll r c.toList) records) =
      select f v >>= fun c => keepWhere (fun r => admitsAll r c.toList) records := by
  have hvalues : chosenValues (.list [v]) = [v] := by simp [chosenValues, hne]
  have hsome : chosenValues (.list [v]) ≠ [] := by simp [hvalues]
  cases harray : f.kind.isArray with
  | true =>
    rw [checkbox_of_isArray hsome harray, select_of_isArray harray hne, hvalues]
    simp only [List.mapM_cons, List.mapM_nil, bind_assoc, pure_bind]
  | false =>
    rw [checkbox_of_not_isArray hsome harray, select_of_not_isArray harray hne, hvalues]
    simp only [List.mapM_cons, List.mapM_nil, bind_assoc, pure_bind]
    cases hw : expected f.kind v with
    | error e => rfl
    | ok w =>
      simp only [ok_bind, Option.toList_some, admitsAll_singleton,
        admits_oneOf_singleton (isEmpty_expected hne hw)]

end Filter

/-! ## What is kept -/

namespace FilterDefinition

variable {d : FilterDefinition} {s : Schema} {f : Field} {state : FilterState}
  {ranges : FieldRanges} {records kept kept' : List Record} {chosen small large v : Value}
  {r : Record}

open Facets.Filter

/-- A single value is chosen alike in a list and by itself. -/
theorem keeps_singleton (h : d.Uses s f) (hne : v.isEmpty = false) :
    (d.withKind .checkbox).keeps s state ranges records (.list [v]) =
      (d.withKind .select).keeps s state ranges records v := by
  rw [keeps_eq (h.withKind .checkbox), keeps_eq (h.withKind .select)]
  exact checkbox_singleton hne records

section Checkbox

variable (h : d.Uses s f) (hkind : d.kind = .checkbox)

include h hkind

theorem keeps_checkbox_eq_ok :
    d.keeps s state ranges records chosen = .ok kept ↔
      ∃ c, checkbox f chosen = .ok c ∧ (∀ r ∈ records, ∃ b, admitsAll r c.toList = .ok b) ∧
        kept = records.filter (meetsAll c.toList) := by
  rw [keeps_eq_ok h, hkind]
  exact Iff.rfl

theorem keeps_checkbox_of_nil (hnone : chosenValues chosen = []) :
    d.keeps s state ranges records chosen = .ok records := by
  refine (keeps_checkbox_eq_ok h hkind).mpr ⟨none, checkbox_of_nil hnone, fun r _ => ⟨true, rfl⟩, ?_⟩
  exact (List.filter_eq_self.mpr fun _ _ => rfl).symm

/-- A checkbox filter keeps exactly the records that have a chosen value. -/
theorem mem_keeps_checkbox (hne : chosenValues chosen ≠ [])
    (hkept : d.keeps s state ranges records chosen = .ok kept) :
    r ∈ kept ↔ r ∈ records ∧ ∃ v ∈ chosenValues chosen, f.Has r v := by
  obtain ⟨c, hc, hall, rfl⟩ := (keeps_checkbox_eq_ok h hkind).mp hkept
  obtain ⟨c, rfl⟩ : ∃ c', c = some c' := exists_of_checkbox hne hc
  rw [List.mem_filter]
  refine and_congr_right fun hr => ?_
  obtain ⟨b, hb⟩ := hall r hr
  rw [Option.toList_some, admitsAll_singleton] at hb
  rw [Option.toList_some, meetsAll_iff, List.forall_mem_singleton, hb, Except.ok.injEq]
  exact admits_checkbox_iff hc hb

theorem exists_select_of_keeps (hkept : d.keeps s state ranges records chosen = .ok kept) :
    ∀ v ∈ chosenValues chosen, ∃ c, select f v = .ok c := by
  obtain ⟨c, hc, -⟩ := (keeps_checkbox_eq_ok h hkind).mp hkept
  exact exists_checkbox_iff.mp ⟨c, hc⟩

/-- A choice to which values are added still has an answer, if each value has a demand. -/
theorem exists_keeps_of_subset (hne : chosenValues small ≠ [])
    (hsub : chosenValues small ⊆ chosenValues large)
    (hdemands : ∀ v ∈ chosenValues large, ∃ c, select f v = .ok c)
    (hkept : d.keeps s state ranges records small = .ok kept) :
    ∃ kept', d.keeps s state ranges records large = .ok kept' := by
  obtain ⟨c, hc, hall, -⟩ := (keeps_checkbox_eq_ok h hkind).mp hkept
  obtain ⟨c, rfl⟩ := exists_of_checkbox hne hc
  obtain ⟨c', hc'⟩ := exists_checkbox_iff.mpr hdemands
  obtain ⟨c', rfl⟩ := exists_of_checkbox (fun hnone => hne (List.subset_nil.mp (hnone ▸ hsub))) hc'
  refine ⟨_, (keeps_checkbox_eq_ok h hkind).mpr ⟨some c', hc', fun r hr => ?_, rfl⟩⟩
  have htested := hall r hr
  simp only [Option.toList_some, admitsAll_singleton] at htested ⊢
  exact exists_admits_of_subset hc hc' hsub htested

theorem keeps_subset_of_subset (hne : chosenValues small ≠ [])
    (hsub : chosenValues small ⊆ chosenValues large)
    (hkept : d.keeps s state ranges records small = .ok kept)
    (hkept' : d.keeps s state ranges records large = .ok kept') : kept ⊆ kept' := by
  intro r hr
  have hne' : chosenValues large ≠ [] := fun hnone => hne (List.subset_nil.mp (hnone ▸ hsub))
  rw [mem_keeps_checkbox h hkind hne hkept] at hr
  rw [mem_keeps_checkbox h hkind hne' hkept']
  exact ⟨hr.1, hr.2.imp fun v hv => ⟨hsub hv.1, hv.2⟩⟩

theorem exists_keeps_of_mem_iff {both : Value} (hne : chosenValues small ≠ [])
    (hne' : chosenValues large ≠ [])
    (hmem : ∀ v, v ∈ chosenValues both ↔ v ∈ chosenValues small ∨ v ∈ chosenValues large)
    (hkept : d.keeps s state ranges records small = .ok kept)
    (hkept' : d.keeps s state ranges records large = .ok kept') :
    ∃ all, d.keeps s state ranges records both = .ok all ∧ ∀ r, r ∈ all ↔ r ∈ kept ∨ r ∈ kept' := by
  have hsub : chosenValues small ⊆ chosenValues both := fun v hv => (hmem v).mpr (.inl hv)
  have hwide : chosenValues both ≠ [] := fun hnone => hne (List.subset_nil.mp (hnone ▸ hsub))
  have hdemands : ∀ v ∈ chosenValues both, ∃ c, select f v = .ok c := by
    intro v hv
    rcases (hmem v).mp hv with hv | hv
    · exact exists_select_of_keeps h hkind hkept v hv
    · exact exists_select_of_keeps h hkind hkept' v hv
  obtain ⟨all, hall⟩ := exists_keeps_of_subset h hkind hne hsub hdemands hkept
  refine ⟨all, hall, fun r => ?_⟩
  rw [mem_keeps_checkbox h hkind hwide hall, mem_keeps_checkbox h hkind hne hkept,
    mem_keeps_checkbox h hkind hne' hkept']
  simp only [hmem, or_and_right, exists_or, and_or_left]

/-- Only which values are chosen counts. -/
theorem keeps_eq_ok_of_mem_iff (hmem : ∀ v, v ∈ chosenValues small ↔ v ∈ chosenValues large)
    (hkept : d.keeps s state ranges records small = .ok kept) :
    d.keeps s state ranges records large = .ok kept := by
  by_cases hnone : chosenValues small = []
  · have hnone' : chosenValues large = [] := by
      simpa [List.eq_nil_iff_forall_not_mem, hmem] using hnone
    rw [keeps_checkbox_of_nil h hkind hnone']
    rwa [keeps_checkbox_of_nil h hkind hnone] at hkept
  · have hnone' : chosenValues large ≠ [] := by
      simpa [List.eq_nil_iff_forall_not_mem, hmem] using hnone
    have hdemands : ∀ v ∈ chosenValues large, ∃ c, select f v = .ok c := fun v hv =>
      exists_select_of_keeps h hkind hkept v ((hmem v).mpr hv)
    obtain ⟨kept', hkept'⟩ :=
      exists_keeps_of_subset h hkind hnone (fun v => (hmem v).mp) hdemands hkept
    have heq : kept = kept' := eq_of_mem_keeps_iff h h hkept hkept' fun r => by
      simp only [mem_keeps_checkbox h hkind hnone hkept, mem_keeps_checkbox h hkind hnone' hkept',
        hmem]
    rw [heq, hkept']

end Checkbox

/-- The values of a list are alternatives for what keeps records.  Lists without a
non-empty value are no choice, and are left out. -/
structure Alternatives (keep : List Value → Except Fault (List Record)) : Prop where
  append : ∀ vs ws kept kept', (∃ v ∈ vs, v.isEmpty = false) → (∃ w ∈ ws, w.isEmpty = false) →
    keep vs = .ok kept → keep ws = .ok kept' →
      ∃ both, keep (vs ++ ws) = .ok both ∧ ∀ r, r ∈ both ↔ r ∈ kept ∨ r ∈ kept'
  grow : ∀ vs ws kept kept', (∃ v ∈ vs, v.isEmpty = false) → vs ⊆ ws →
    keep vs = .ok kept → keep ws = .ok kept' → kept ⊆ kept'
  /-- Neither order nor repetitions matter. -/
  members : ∀ vs ws kept, (∀ v, v ∈ vs ↔ v ∈ ws) → keep vs = .ok kept → keep ws = .ok kept

/-- A record is kept by several values exactly when one of them keeps it, and a single
value may as well be chosen by itself. -/
theorem checkbox_alternatives {d : FilterDefinition} {s : Schema} {f : Field} (h : d.Uses s f)
    (hkind : d.kind = .checkbox) (state : FilterState) (ranges : FieldRanges)
    (records : List Record) :
    Alternatives (fun vs => d.keeps s state ranges records (.list vs)) ∧
      ∀ v, v.isEmpty = false → d.keeps s state ranges records (.list [v]) =
        (d.withKind .select).keeps s state ranges records v := by
  have hsome : ∀ {vs : List Value}, (∃ v ∈ vs, v.isEmpty = false) →
      chosenValues (.list vs) ≠ [] := by
    intro vs hne
    obtain ⟨v, hv⟩ := hne
    exact List.ne_nil_of_mem (mem_chosenValues_list.mpr hv)
  refine ⟨⟨?_, ?_, ?_⟩, fun v hv => ?_⟩
  · intro vs ws kept kept' hvs hws hkept hkept'
    refine exists_keeps_of_mem_iff h hkind (hsome hvs) (hsome hws) (fun v => ?_) hkept hkept'
    simp only [mem_chosenValues_list, List.mem_append, or_and_right]
  · intro vs ws kept kept' hvs hsub hkept hkept'
    have hvalues : chosenValues (.list vs) ⊆ chosenValues (.list ws) := List.filter_subset _ hsub
    exact keeps_subset_of_subset h hkind (hsome hvs) hvalues hkept hkept'
  · intro vs ws kept hmem hkept
    refine keeps_eq_ok_of_mem_iff h hkind (fun v => ?_) hkept
    simp only [mem_chosenValues_list, hmem]
  · rw [← keeps_singleton h hv, ← hkind, withKind_self]

end FilterDefinition

namespace Sample

def byLengths : FilterDefinition := ⟨"pages", .checkbox, "Length", true, none⟩

def short : List Value := [.null, .text "90.0"]

def middling : List Value := [.text "352", .int 474]

def byYears : FilterDefinition := ⟨"year", .checkbox, "Year", true, none⟩

def reprints : List Record := [book 1 [("year", .int 1928)]]

end Sample

namespace FilterDefinition

open Facets.Filter

open Sample in
theorem checkbox_alternatives_books :
    ∃ kept kept' both, byLengths.Uses schema pages ∧ byLengths.kind = .checkbox ∧
      byLengths.keeps schema [] [] books (.list short) = .ok kept ∧
      byLengths.keeps schema [] [] books (.list middling) = .ok kept' ∧
      byLengths.keeps schema [] [] books (.list (short ++ middling)) = .ok both ∧
      (∀ r, r ∈ both ↔ r ∈ kept ∨ r ∈ kept') ∧
      kept.map Record.serial = [1] ∧ kept'.map Record.serial = [0, 2] ∧
      byLengths.keeps schema [] [] books (.list [.int 90]) =
        (byLengths.withKind .select).keeps schema [] [] books (.int 90) := by
  have huses : byLengths.Uses schema pages := ⟨by decide, by decide⟩
  have hshort : gives ((byLengths.keeps schema [] [] books (.list short)).map
      (·.map Record.serial)) [1] = true := by decide +kernel
  have hmiddling : gives ((byLengths.keeps schema [] [] books (.list middling)).map
      (·.map Record.serial)) [0, 2] = true := by decide +kernel
  obtain ⟨kept, hkept, hserials⟩ := map_eq_ok.mp (gives_iff.mp hshort)
  obtain ⟨kept', hkept', hserials'⟩ := map_eq_ok.mp (gives_iff.mp hmiddling)
  obtain ⟨halternatives, hsingle⟩ := checkbox_alternatives huses rfl [] [] books
  obtain ⟨both, hboth, hmem⟩ := halternatives.append short middling kept kept'
    ⟨_, List.mem_cons_of_mem _ List.mem_cons_self, by decide⟩ ⟨_, List.mem_cons_self, by decide⟩
    hkept hkept'
  exact ⟨kept, kept', both, huses, rfl, hkept, hkept', hboth, hmem, hserials, hserials',
    hsingle _ rfl⟩

open Sample in
/-- A year with too many digits leaves the choice without an answer, also for the record
that another chosen year keeps. -/
theorem not_checkbox_alternatives_of_endless_year :
    byYears.Uses printing year ∧ (Value.text endlessYear).isEmpty = false ∧
      (∃ kept, byYears.keeps printing [] [] reprints (.list [.int 1928]) = .ok kept ∧
        kept.map Record.serial = [1]) ∧
      ¬ ∃ kept, byYears.keeps printing [] [] reprints
        (.list ([.int 1928] ++ [.text endlessYear])) = .ok kept := by
  have huses : byYears.Uses printing year := ⟨by decide, by decide⟩
  have hempty : (Value.text endlessYear).isEmpty = false :=
    Value.isEmpty_of_unreadable ofText_endlessYear
  have hserials : gives ((byYears.keeps printing [] [] reprints (.list [.int 1928])).map
      (·.map Record.serial)) [1] = true := by decide +kernel
  refine ⟨huses, hempty, map_eq_ok.mp (gives_iff.mp hserials), ?_⟩
  rintro ⟨kept, hkept⟩
  have hchosen : Value.text endlessYear ∈
      chosenValues (.list ([.int 1928] ++ [.text endlessYear])) :=
    mem_chosenValues_list.mpr ⟨by simp, hempty⟩
  obtain ⟨c, hc⟩ := exists_select_of_keeps huses rfl hkept _ hchosen
  rw [select_of_not_isArray rfl hempty] at hc
  obtain ⟨w, hw, -⟩ := bind_eq_ok.mp hc
  obtain ⟨x, hx, -⟩ := bind_eq_ok.mp hw
  exact Kind.coerce_ne_ok_of_unreadable ofText_endlessYear hx

end FilterDefinition
end Facets
