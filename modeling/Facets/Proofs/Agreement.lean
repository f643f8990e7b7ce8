import Facets.Assoc
import Facets.Keep
import Mathlib.Data.List.Forall2

/-
Two runs side by side.

Two outcomes agree when they are one fault, or values that stand in a relation
(`Outcome.Agree`).  An operation that treats related items alike takes lists that are
related place by place to results that agree; this file proves it for the operations
that the engines are built from.  None of them looks at the items, so the relation
can be any.
-/
namespace Facets

/-! ## Outcomes -/

namespace Outcome

variable {α β γ δ : Type} {R : α → β → Prop} {S : γ → δ → Prop}

/-- One fault, or two values that stand in a relation. -/
inductive Agree (R : α → β → Prop) : Except Fault α → Except Fault β → Prop
  | ok {a : α} {b : β} (h : R a b) : Agree R (.ok a) (.ok b)
  | fault (e : Fault) : Agree R (.error e) (.error e)

theorem agree_eq {x y : Except Fault α} : Agree Eq x y ↔ x = y := by
  constructor
  · intro h
    cases h with
    | ok h => rw [h]
    | fault e => rfl
  · rintro rfl
    cases x with
    | ok a => exact .ok rfl
    | error e => exact .fault e

namespace Agree

theorem bind {x : Except Fault α} {y : Except Fault β} {f : α → Except Fault γ}
    {g : β → Except Fault δ} (h : Agree R x y) (hfg : ∀ {a b}, R a b → Agree S (f a) (g b)) :
    Agree S (x >>= f) (y >>= g) := by
  cases h with
  | ok hab => exact hfg hab
  | fault e => exact .fault e

/-- Two sequences that begin alike agree if they go on alike. -/
theorem bind_left {x : Except Fault α} {f : α → Except Fault γ} {g : α → Except Fault δ}
    (h : ∀ a, Agree S (f a) (g a)) : Agree S (x >>= f) (x >>= g) := by
  cases x with
  | ok a => exact h a
  | error e => exact .fault e

theorem map {x : Except Fault α} {y : Except Fault β} {f : α → γ} {g : β → δ} (h : Agree R x y)
    (hfg : ∀ {a b}, R a b → S (f a) (g b)) : Agree S (x.map f) (y.map g) := by
  cases h with
  | ok hab => exact .ok (hfg hab)
  | fault e => exact .fault e

theorem mapM {as : List α} {bs : List β} {f : α → Except Fault γ} {g : β → Except Fault δ}
    (h : List.Forall₂ R as bs) (hfg : ∀ {a b}, R a b → Agree S (f a) (g b)) :
    Agree (List.Forall₂ S) (as.mapM f) (bs.mapM g) := by
  induction h with
  | nil => exact .ok .nil
  | cons hab _ ih =>
    rw [List.mapM_cons, List.mapM_cons]
    exact (hfg hab).bind fun hcd => ih.bind fun hrest => .ok (.cons hcd hrest)

theorem foldlM {as : List α} {bs : List β} {f : γ → α → Except Fault γ}
    {g : δ → β → Except Fault δ} (h : List.Forall₂ R as bs)
    (hfg : ∀ {c d a b}, S c d → R a b → Agree S (f c a) (g d b)) {c : γ} {d : δ} (hstart : S c d) :
    Agree S (as.foldlM f c) (bs.foldlM g d) := by
  induction h generalizing c d with
  | nil => exact .ok hstart
  | cons hab _ ih =>
    rw [List.foldlM_cons, List.foldlM_cons]
    exact (hfg hstart hab).bind fun hnext => ih hnext

theorem keepWhere {as : List α} {bs : List β} {p : α → Except Fault Bool}
    {q : β → Except Fault Bool} (h : List.Forall₂ R as bs) (hpq : ∀ {a b}, R a b → p a = q b) :
    Agree (List.Forall₂ R) (Facets.keepWhere p as) (Facets.keepWhere q bs) := by
  induction h with
  | nil => exact .ok .nil
  | cons hab _ ih =>
    rw [Facets.keepWhere, Facets.keepWhere, hpq hab]
    refine bind_left fun keep => ih.bind fun hrest => .ok ?_
    cases keep with
    | true => exact .cons hab hrest
    | false => exact hrest

end Agree

/-! ## Loops whose results are equal -/

theorem mapM_eq_of_forall₂ {as : List α} {bs : List β} {f : α → Except Fault γ}
    {g : β → Except Fault γ} (h : List.Forall₂ R as bs) (hfg : ∀ {a b}, R a b → f a = g b) :
    as.mapM f = bs.mapM g := by
  have hagree := Agree.mapM (S := Eq) h fun hab => agree_eq.mpr (hfg hab)
  rwa [List.forall₂_eq_eq_eq, agree_eq] at hagree

theorem foldlM_eq_of_forall₂ {as : List α} {bs : List β} {f : γ → α → Except Fault γ}
    {g : γ → β → Except Fault γ} (h : List.Forall₂ R as bs)
    (hfg : ∀ {a b}, R a b → ∀ c, f c a = g c b) (start : γ) : as.foldlM f start = bs.foldlM g start := by
  refine agree_eq.mp (Agree.foldlM h ?_ rfl)
  rintro c _ a b rfl hab
  exact agree_eq.mpr (hfg hab c)

end Outcome

/-! ## Lists -/

section Lists

variable {α β γ : Type} {R : α → β → Prop} {as : List α} {bs : List β}

theorem flatMap_eq_of_forall₂ {f : α → List γ} {g : β → List γ} (h : List.Forall₂ R as bs)
    (hfg : ∀ {a b}, R a b → f a = g b) : as.flatMap f = bs.flatMap g := by
  induction h with
  | nil => rfl
  | cons hab _ ih => rw [List.flatMap_cons, List.flatMap_cons, hfg hab, ih]

theorem forall₂_filter {p : α → Bool} {q : β → Bool} (h : List.Forall₂ R as bs)
    (hpq : ∀ {a b}, R a b → p a = q b) : List.Forall₂ R (as.filter p) (bs.filter q) :=
  List.rel_filter (fun _ _ hab => iff_of_eq (congrArg (· = true) (hpq hab))) h

/-- Sorting by comparisons that agree keeps related items in the same places. -/
theorem forall₂_mergeSort {le : α → α → Bool} {le' : β → β → Bool} (h : List.Forall₂ R as bs)
    (hle : ∀ {a b a' b'}, R a b → R a' b' → le a a' = le' b b') :
    List.Forall₂ R (as.mergeSort le) (bs.mergeSort le') := by
  -- Both sorts are images of one sort of the pairs.
  have hpairs : ∀ p ∈ as.zip bs, R p.1 p.2 := fun p hp => List.forall₂_zip h hp
  have hfst : (as.zip bs).map Prod.fst = as := List.map_fst_zip (Nat.le_of_eq h.length_eq)
  have hsnd : (as.zip bs).map Prod.snd = bs := List.map_snd_zip (Nat.le_of_eq h.length_eq.symm)
  have hleft : ((as.zip bs).mergeSort fun p q => le p.1 q.1).map Prod.fst = as.mergeSort le := by
    rw [List.map_mergeSort (s := le) fun p _ q _ => rfl, hfst]
  have hright : ((as.zip bs).mergeSort fun p q => le p.1 q.1).map Prod.snd = bs.mergeSort le' := by
    rw [List.map_mergeSort (s := le') fun p hp q hq => hle (hpairs p hp) (hpairs q hq), hsnd]
  rw [← hleft, ← hright, List.forall₂_map_left_iff, List.forall₂_map_right_iff, List.forall₂_same]
  exact fun p hp => hpairs p (List.mem_mergeSort.mp hp)

/-- A test of the last items that does not tell related ones apart. -/
theorem getLast?_any_eq {p : α → Bool} {q : β → Bool} (h : List.Forall₂ R as bs)
    (hpq : ∀ {a b}, R a b → p a = q b) : as.getLast?.any p = bs.getLast?.any q := by
  rw [← List.head?_reverse, ← List.head?_reverse]
  have hreverse := List.forall₂_reverse_iff.mpr h
  generalize as.reverse = first, bs.reverse = first' at hreverse
  cases hreverse with
  | nil => rfl
  | cons hab _ => exact hpq hab

end Lists

theorem rel_getD {α β : Type} {R : α → β → Prop} {x : Option α} {y : Option β} {a : α} {b : β}
    (h : Option.Rel R x y) (hab : R a b) : R (x.getD a) (y.getD b) := by
  cases h with
  | none => exact hab
  | some h => exact h

theorem isSome_iff_of_rel {α β : Type} {R : α → β → Prop} {x : Option α} {y : Option β}
    (h : Option.Rel R x y) : x.isSome = true ↔ y.isSome = true := by
  cases h with
  | none => exact Iff.rfl
  | some _ => exact iff_of_true rfl rfl

/-! ## Entries -/

section Entries

variable {κ α β : Type} {R : α → β → Prop}

/-- Two entries of one key whose values stand in a relation. -/
structure Labelled (R : α → β → Prop) (p : κ × α) (q : κ × β) : Prop where
  key : p.1 = q.1
  value : R p.2 q.2

/-- The values of related entries, in the order of the keys. -/
theorem forall₂_mergeSort_key (before : κ → κ → Bool) {entries : List (κ × α)}
    {entries' : List (κ × β)} (h : List.Forall₂ (Labelled R) entries entries') :
    List.Forall₂ R ((entries.mergeSort fun p q => before p.1 q.1).map Prod.snd)
      ((entries'.mergeSort fun p q => before p.1 q.1).map Prod.snd) := by
  have hsort : List.Forall₂ (Labelled R) (entries.mergeSort fun p q => before p.1 q.1)
      (entries'.mergeSort fun p q => before p.1 q.1) :=
    forall₂_mergeSort h fun hp hq => by rw [hp.key, hq.key]
  exact List.rel_map (fun _ _ hp => hp.value) hsort

/-- Changing the values of one key alike keeps entries related. -/
theorem forall₂_update {same : κ → κ → Bool} {change : Option α → α} {change' : Option β → β}
    {entries : List (κ × α)} {entries' : List (κ × β)}
    (h : List.Forall₂ (Labelled R) entries entries') (key : κ)
    (hchange : ∀ {a b}, Option.Rel R a b → R (change a) (change' b)) :
    List.Forall₂ (Labelled R) (Assoc.update same key change entries)
      (Assoc.update same key change' entries') := by
  induction h with
  | nil => exact .cons ⟨rfl, hchange .none⟩ .nil
  | @cons p q rest rest' hpq hrest ih =>
    obtain ⟨k, a⟩ := p
    obtain ⟨l, b⟩ := q
    obtain ⟨rfl, hab⟩ : k = l ∧ R a b := ⟨hpq.key, hpq.value⟩
    rw [Assoc.update, Assoc.update]
    split
    · exact .cons ⟨rfl, hchange (.some hab)⟩ hrest
    · exact .cons hpq ih

variable [DecidableEq κ] {entries : List (κ × α)} {entries' : List (κ × β)}

/-- Looking a key up in related entries finds related values. -/
theorem rel_find? (h : List.Forall₂ (Labelled R) entries entries') (key : κ) :
    Option.Rel R (Assoc.find? (· == ·) key entries) (Assoc.find? (· == ·) key entries') := by
  induction h with
  | nil => exact .none
  | @cons p q rest rest' hpq hrest ih =>
    obtain ⟨k, a⟩ := p
    obtain ⟨l, b⟩ := q
    obtain ⟨rfl, hab⟩ : k = l ∧ R a b := ⟨hpq.key, hpq.value⟩
    rw [Assoc.find?, Assoc.find?]
    split
    · exact .some hab
    · exact ih

/-- Entries with the same distinct keys are related when looking up finds related
values. -/
theorem forall₂_of_rel_find? (hkeys : entries.map Prod.fst = entries'.map Prod.fst)
    (hdistinct : (entries.map Prod.fst).Nodup)
    (h : ∀ key, Option.Rel R (Assoc.find? (· == ·) key entries)
      (Assoc.find? (· == ·) key entries')) : List.Forall₂ (Labelled R) entries entries' := by
  induction entries generalizing entries' with
  | nil =>
    obtain rfl : entries' = [] := List.map_eq_nil_iff.mp hkeys.symm
    exact .nil
  | cons p rest ih =>
    cases entries' with
    | nil => cases hkeys
    | cons q rest' =>
      obtain ⟨k, a⟩ := p
      obtain ⟨l, b⟩ := q
      obtain ⟨rfl, hrest⟩ := List.cons.inj hkeys
      obtain ⟨hk, hdistinct⟩ := List.nodup_cons.mp hdistinct
      refine .cons ⟨rfl, ?_⟩ (ih hrest hdistinct fun key => ?_)
      · have hhead := h k
        rw [Assoc.find?, Assoc.find?, if_pos BEq.rfl, if_pos BEq.rfl] at hhead
        cases hhead with
        | some hab => exact hab
      · by_cases hkey : (k == key) = true
        · -- The key of the first entry is that of no other one.
          obtain rfl := beq_iff_eq.mp hkey
          have hnone : Assoc.find? (· == ·) k rest = none := by
            rw [← Option.not_isSome_iff_eq_none, Assoc.find?_isSome_iff]
            exact hk
          have hnone' : Assoc.find? (· == ·) k rest' = none := by
            rw [← Option.not_isSome_iff_eq_none, Assoc.find?_isSome_iff]
            exact fun hmem => hk (by rw [hrest]; exact hmem)
          rw [hnone, hnone']
          exact .none
        · have htail := h key
          rwa [Assoc.find?, Assoc.find?, if_neg hkey, if_neg hkey] at htail

end Entries
end Facets
