import Facets.Proofs.Field.Readable
import Facets.Proofs.Filter.Single
import Facets.Proofs.Filter.Within
import Facets.Proofs.Order.ByField

/-
Searching for text.

Folding goes by characters and leaves none out, so the fold of a part of a text is a
part of its fold (`Text.casefold_infix`).  A text filter keeps the records with the
folded query in their folded plain text (`FilterDefinition.mem_keeps_text`); what a
longer query keeps, a part of the query keeps too.
-/
namespace Facets

open Outcome

/-! ## Parts of folded texts -/

namespace Text

variable {part cs : List Char}

theorem isPart_iff : isPart part cs = true ↔ part <:+: cs := by
  induction cs with
  | nil => simp [isPart]
  | cons c cs ih =>
    rw [isPart, Bool.or_eq_true, ih, List.isPrefixOf_iff_prefix, List.infix_cons_iff]

theorem foldChar_ne_nil (c : Char) : foldChar c ≠ [] := by
  have hsequences : ∀ s ∈ foldSequences, s.2 ≠ [] := by decide
  unfold foldChar
  split
  · exact List.cons_ne_nil _ _
  · split
    · rename_i s hs
      rw [Ne, List.map_eq_nil_iff]
      exact hsequences s (List.mem_of_find?_eq_some hs)
    · exact List.cons_ne_nil _ _

theorem casefold_eq_nil_iff : casefold cs = [] ↔ cs = [] := by
  rw [casefold, List.flatMap_eq_nil_iff, List.eq_nil_iff_forall_not_mem]
  exact forall₂_congr fun c _ => iff_of_false (foldChar_ne_nil c) not_false

theorem casefold_infix (h : part <:+: cs) : casefold part <:+: casefold cs := by
  obtain ⟨before, after, rfl⟩ := h
  rw [casefold_append, casefold_append]
  exact List.infix_append _ _ _

end Text

namespace FilterDefinition

open Facets.Filter

variable {d : FilterDefinition} {s : Schema} {f : Field} {state : FilterState}
  {ranges : FieldRanges} {records kept kept' : List Record} {q q' : String} {r : Record}

/-! ## What is kept -/

theorem text_eq_contains (hq : q ≠ "") :
    text f (.text q) = .ok (some (.contains f.key f.kind (Text.casefold q.toList))) := by
  have hfold : Text.casefold q.toList ≠ [] := by
    rw [Ne, Text.casefold_eq_nil_iff, String.toList_eq_nil_iff]
    exact hq
  show Except.ok (if (Text.casefold q.toList).isEmpty then none else _) = _
  rw [if_neg (by simpa using hfold)]

theorem exists_admits_contains {key : String} {k : Kind} {query : List Char} :
    (∃ b, (Constraint.contains key k query).admits r = .ok b) ↔ k.HasPlain (r.field key) := by
  rw [Constraint.admits, exists_bind_pure_iff, Kind.folded, exists_bind_pure_iff, Kind.HasPlain]

theorem admits_contains_iff {key : String} {k : Kind} {query : List Char} :
    (Constraint.contains key k query).admits r = .ok true ↔
      ∃ text, k.plain (r.field key) = .ok text ∧ query <:+: Text.casefold text.toList := by
  simp only [Constraint.admits, Kind.folded, bind_eq_ok, pure_eq_ok, Text.isPart_iff]
  constructor
  · rintro ⟨_, ⟨text, htext, rfl⟩, hpart⟩
    exact ⟨text, htext, hpart⟩
  · rintro ⟨text, htext, hpart⟩
    exact ⟨_, ⟨text, htext, rfl⟩, hpart⟩

section Text

variable (h : d.Uses s f) (hkind : d.kind = .text) (hq : q ≠ "")

include hkind hq

theorem demand_text :
    (demand ranges records d.kind f (.text q)).outcome =
      .ok (some (.contains f.key f.kind (Text.casefold q.toList))) := by
  rw [hkind]
  exact text_eq_contains hq

include h

/-- A search has an answer where every stored value has a plain text. -/
theorem exists_keeps_text_iff :
    (∃ kept, d.keeps s state ranges records (.text q) = .ok kept) ↔
      ∀ r ∈ records, f.kind.HasPlain (r.field f.key) := by
  rw [exists_keeps_iff_of_demand h (demand_text hkind hq)]
  exact forall₂_congr fun r _ => exists_admits_contains

theorem mem_keeps_text (hkept : d.keeps s state ranges records (.text q) = .ok kept) :
    r ∈ kept ↔ r ∈ records ∧ ∃ text, f.kind.plain (r.field f.key) = .ok text ∧
      Text.casefold q.toList <:+: Text.casefold text.toList := by
  rw [mem_keeps_of_demand h (demand_text hkind hq) hkept, admits_contains_iff]

end Text

/-- What a search by plain text keeps of records.  The empty query is no search, and is left
out. -/
structure Searches (k : Kind) (key : String) (records : List Record)
    (keep : String → Except Fault (List Record)) : Prop where
  answers : ∀ q, q ≠ "" →
    ((∃ kept, keep q = .ok kept) ↔ ∀ r ∈ records, k.HasPlain (r.field key))
  sound : ∀ q kept, q ≠ "" → keep q = .ok kept → ∀ r ∈ kept, r ∈ records ∧
    ∃ text, k.plain (r.field key) = .ok text ∧
      Text.casefold q.toList <:+: Text.casefold text.toList
  /-- Any part of the text finds the record, in any spelling with the fold of the part. -/
  complete : ∀ q kept, keep q = .ok kept → ∀ r ∈ records, ∀ text,
    k.plain (r.field key) = .ok text → ∀ part, part ≠ [] → part <:+: text.toList →
      Text.casefold q.toList = Text.casefold part → r ∈ kept
  monotone : ∀ q q' kept', q ≠ "" → q.toList <:+: q'.toList → keep q' = .ok kept' →
    ∃ kept, keep q = .ok kept ∧ kept' ⊆ kept

theorem text_searches {d : FilterDefinition} {s : Schema} {f : Field} (h : d.Uses s f)
    (hkind : d.kind = .text) (state : FilterState) (ranges : FieldRanges)
    (records : List Record) :
    Searches f.kind f.key records fun q => d.keeps s state ranges records (.text q) where
  answers q hq := exists_keeps_text_iff h hkind hq
  sound q kept hq hkept r hr := (mem_keeps_text h hkind hq hkept).mp hr
  complete q kept hkept r hr text htext part hpart hinfix hfold := by
    have hq : q ≠ "" := by
      rintro rfl
      exact hpart (Text.casefold_eq_nil_iff.mp hfold.symm)
    refine (mem_keeps_text h hkind hq hkept).mpr ⟨hr, text, htext, ?_⟩
    rw [hfold]
    exact Text.casefold_infix hinfix
  monotone q q' kept' hq hinfix hkept' := by
    have hq' : q' ≠ "" := by
      rintro rfl
      exact hq (String.toList_eq_nil_iff.mp (List.infix_nil.mp hinfix))
    obtain ⟨kept, hkept⟩ := (exists_keeps_text_iff h hkind hq).mpr
      ((exists_keeps_text_iff h hkind hq').mp ⟨kept', hkept'⟩)
    refine ⟨kept, hkept, fun r hr => (mem_keeps_text h hkind hq hkept).mpr ?_⟩
    obtain ⟨hmem, text, htext, hfound⟩ := (mem_keeps_text h hkind hq' hkept').mp hr
    exact ⟨hmem, text, htext, (Text.casefold_infix hinfix).trans hfound⟩

end FilterDefinition

namespace Sample

def byWords : FilterDefinition := ⟨"title", .text, "Title", true, none⟩

def inYears : FilterDefinition := ⟨"year", .text, "Year", true, none⟩

/-- One letter of the first title folds to two. -/
def streets : List Record :=
  [book 0 [("title", .text "Straße")], book 1 [("title", .text "STRASSE")],
    book 2 [("title", .text "Strand")], book 3 []]

end Sample

namespace FilterDefinition

open Sample in
theorem text_searches_streets :
    ∃ kept wide, byWords.Uses schema title ∧ byWords.kind = .text ∧
      byWords.keeps schema [] [] streets (.text "sS") = .ok kept ∧
      kept.map Record.serial = [0, 1] ∧
      (∀ r ∈ streets, ∀ text, title.kind.plain (r.field title.key) = .ok text →
        ['ß'] <:+: text.toList → r ∈ kept) ∧
      byWords.keeps schema [] [] streets (.text "S") = .ok wide ∧ kept ⊆ wide := by
  have huses : byWords.Uses schema title := ⟨by decide, by decide⟩
  have hsearches := text_searches huses rfl [] [] streets
  have hserials : gives ((byWords.keeps schema [] [] streets (.text "sS")).map
      (·.map Record.serial)) [0, 1] = true := by decide +kernel
  have hfold : Text.casefold "sS".toList = Text.casefold ['ß'] := by decide +kernel
  have hinfix : "S".toList <:+: "sS".toList := ⟨['s'], [], rfl⟩
  obtain ⟨kept, hkept, hserials⟩ := map_eq_ok.mp (gives_iff.mp hserials)
  obtain ⟨wide, hwide, hsub⟩ := hsearches.monotone "S" "sS" kept (by decide) hinfix hkept
  refine ⟨kept, wide, huses, rfl, hkept, hserials, fun r hr text htext hpart => ?_, hwide, hsub⟩
  exact hsearches.complete "sS" kept hkept r hr text htext ['ß'] (by decide) hpart hfold

open Sample in
/-- A year with too many digits leaves the search without an answer, also for part of the
year of another record. -/
theorem not_text_searches_of_endless_year :
    inYears.Uses printing year ∧ "192".toList <:+: "1928".toList ∧
      (∃ r ∈ printings, year.kind.plain (r.field year.key) = .ok "1928") ∧
      ¬ ∃ kept, inYears.keeps printing [] [] printings (.text "192") = .ok kept := by
  have huses : inYears.Uses printing year := ⟨by decide, by decide⟩
  have hplain : gives (year.kind.plain ((book 1 [("year", .int 1928)]).field year.key)) "1928" =
      true := by decide +kernel
  refine ⟨huses, ⟨[], ['8'], rfl⟩, ⟨book 1 [("year", .int 1928)], ?_, gives_iff.mp hplain⟩, ?_⟩
  · exact List.mem_cons_of_mem _ List.mem_cons_self
  · intro hanswer
    have hall := (exists_keeps_text_iff huses rfl (by decide)).mp hanswer
    obtain ⟨text, htext⟩ := hall (dated endlessYear) List.mem_cons_self
    obtain ⟨x, hx, -⟩ := bind_eq_ok.mp htext
    have hfield : (dated endlessYear).field year.key = .text endlessYear :=
      field_dated ofText_endlessYear
    rw [hfield] at hx
    exact Kind.coerce_ne_ok_of_unreadable ofText_endlessYear hx

end FilterDefinition
end Facets
