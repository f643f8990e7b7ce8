import Facets.Proofs.Outcome
import Mathlib.Data.List.Basic

/-
Stable sorts by a comparison that may fault.

`IsStableSort cmp l out` says that `out` holds the items of `l` in the order of
`cmp`, and that items which `cmp` does not tell apart stand as they stood in
`l`.  Sorting by a second comparison and then by a first one is sorting by both,
the first counting most (`IsStableSort.lexicographic`), and taking some of the
items commutes with sorting (`IsStableSort.filter`).  A list has only one stable
sort (`IsStableSort.unique`).
-/
namespace Facets
namespace Order

open Outcome

variable {α : Type}

def ties (cmp : α → α → Except Fault Ordering) (x y : α) : Bool := gives (cmp x y) .eq

/-- Two items are compared and the first may stand before the second. -/
def AtMost (cmp : α → α → Except Fault Ordering) (x y : α) : Prop :=
  ∃ o, cmp x y = .ok o ∧ o.isLE

/-- `out` is the stable sort of `l`.  Ties are classes of equal items, and each
class keeps its order. -/
structure IsStableSort (cmp : α → α → Except Fault Ordering) (l out : List α) : Prop where
  perm : out.Perm l
  ordered : out.Pairwise (AtMost cmp)
  stable : ∀ x ∈ l, out.filter (ties cmp x) = l.filter (ties cmp x)

/-- A comparison that is a preorder on the items it can compare. -/
structure IsPreorder (cmp : α → α → Except Fault Ordering) : Prop where
  swap : ∀ {x y o}, cmp x y = .ok o → cmp y x = .ok o.swap
  trans : ∀ {x y z}, AtMost cmp x y → AtMost cmp y z → AtMost cmp x z

/-- The first comparison, and the second where the first finds items equal. -/
def lexicographic (first second : α → α → Except Fault Ordering) (x y : α) :
    Except Fault Ordering := do
  match ← first x y with
  | .eq => second x y
  | o => pure o

variable {cmp first second : α → α → Except Fault Ordering} {x y z : α}
  {l mid out out' : List α}

@[simp]
theorem ties_iff : ties cmp x y = true ↔ cmp x y = .ok .eq := gives_iff

theorem atMost_iff {o : Ordering} (h : cmp x y = .ok o) : AtMost cmp x y ↔ o.isLE = true := by
  simp [AtMost, h]

theorem AtMost.of_ties (h : ties cmp x y = true) : AtMost cmp x y :=
  ⟨.eq, ties_iff.mp h, by decide⟩

namespace IsPreorder

theorem ties_of_atMost (h : IsPreorder cmp) (hxy : AtMost cmp x y) (hyx : AtMost cmp y x) :
    ties cmp x y = true := by
  obtain ⟨o, ho, hle⟩ := hxy
  obtain ⟨o', ho', hle'⟩ := hyx
  rw [h.swap ho] at ho'
  obtain rfl := Except.ok.inj ho'
  cases o with
  | lt => contradiction
  | eq => exact ties_iff.mpr ho
  | gt => contradiction

theorem comap {β : Type} (h : IsPreorder cmp) (f : β → α) :
    IsPreorder fun x y => cmp (f x) (f y) where
  swap hxy := h.swap hxy
  trans hxy hyz := h.trans hxy hyz

theorem ties_symm (h : IsPreorder cmp) (hxy : ties cmp x y = true) : ties cmp y x = true :=
  ties_iff.mpr (h.swap (ties_iff.mp hxy))

/-- An item that is equal to some item is equal to itself. -/
theorem ties_self (h : IsPreorder cmp) (hxy : ties cmp x y = true) : ties cmp x x = true := by
  have hself : AtMost cmp x x := h.trans (.of_ties hxy) (.of_ties (h.ties_symm hxy))
  exact h.ties_of_atMost hself hself

end IsPreorder

namespace IsStableSort

theorem of_ordered (h : l.Pairwise (AtMost cmp)) : IsStableSort cmp l l :=
  ⟨.refl l, h, fun _ _ => rfl⟩

theorem filter (h : IsStableSort cmp l out) (p : α → Bool) :
    IsStableSort cmp (l.filter p) (out.filter p) where
  perm := h.perm.filter p
  ordered := h.ordered.filter p
  stable x hx := by
    rw [List.filter_comm, h.stable x (List.mem_of_mem_filter hx), List.filter_comm]

/-- Items that are compared as others are have the sort of the others. -/
theorem map {β : Type} {cmp' : β → β → Except Fault Ordering} {f : α → β}
    (h : IsStableSort cmp l out) (hcmp : ∀ x ∈ l, ∀ y ∈ l, cmp' (f x) (f y) = cmp x y) :
    IsStableSort cmp' (l.map f) (out.map f) where
  perm := h.perm.map f
  ordered := by
    rw [List.pairwise_map]
    refine List.Pairwise.imp_of_mem ?_ h.ordered
    intro x y hx hy hxy
    rwa [AtMost, hcmp x (h.perm.mem_iff.mp hx) y (h.perm.mem_iff.mp hy)]
  stable z hz := by
    obtain ⟨x, hx, rfl⟩ := List.mem_map.mp hz
    have hties : ∀ y ∈ l, ties cmp' (f x) (f y) = ties cmp x y := by
      intro y hy
      rw [ties, ties, hcmp x hx y hy]
    have hout : (out.filter fun y => ties cmp' (f x) (f y)) = out.filter (ties cmp x) :=
      List.filter_congr fun y hy => hties y (h.perm.mem_iff.mp hy)
    have hl : (l.filter fun y => ties cmp' (f x) (f y)) = l.filter (ties cmp x) :=
      List.filter_congr hties
    rw [List.filter_map, List.filter_map, Function.comp_def, hout, hl, h.stable x hx]

/-- A list has only one stable sort.  Of two sorts the first items are equal by
the comparison, so they head the same class of equal items and are one. -/
theorem unique (hcmp : IsPreorder cmp) (h : IsStableSort cmp l out)
    (h' : IsStableSort cmp l out') : out = out' := by
  have hperm : out.Perm out' := h.perm.trans h'.perm.symm
  have hstable : ∀ x ∈ out, out.filter (ties cmp x) = out'.filter (ties cmp x) := fun x hx =>
    (h.stable x (h.perm.mem_iff.mp hx)).trans (h'.stable x (h.perm.mem_iff.mp hx)).symm
  have hord := h.ordered
  have hord' := h'.ordered
  clear h h'
  induction out generalizing out' with
  | nil => exact hperm.nil_eq
  | cons a t ih =>
    cases out' with
    | nil => exact absurd hperm.symm.nil_eq.symm (List.cons_ne_nil a t)
    | cons b t' =>
      obtain ⟨ha, ht⟩ := List.pairwise_cons.mp hord
      obtain ⟨hb, ht'⟩ := List.pairwise_cons.mp hord'
      have hab : a = b := by
        rcases List.mem_cons.mp (hperm.mem_iff.mp List.mem_cons_self) with rfl | hmem
        · rfl
        rcases List.mem_cons.mp (hperm.mem_iff.mpr List.mem_cons_self) with rfl | hmem'
        · rfl
        have htie : ties cmp a b = true := hcmp.ties_of_atMost (ha b hmem') (hb a hmem)
        have hclass := hstable a List.mem_cons_self
        rw [List.filter_cons_of_pos (hcmp.ties_self htie), List.filter_cons_of_pos htie] at hclass
        exact (List.cons.inj hclass).1
      subst hab
      -- Without the common head each class is still the same on both sides.
      have hclasses : ∀ x ∈ t, t.filter (ties cmp x) = t'.filter (ties cmp x) := by
        intro x hx
        have hclass := hstable x (List.mem_cons_of_mem a hx)
        by_cases hxa : ties cmp x a = true
        · rw [List.filter_cons_of_pos hxa, List.filter_cons_of_pos hxa] at hclass
          exact (List.cons.inj hclass).2
        · rwa [List.filter_cons_of_neg hxa, List.filter_cons_of_neg hxa] at hclass
      rw [ih hperm.cons_inv hclasses ht ht']

end IsStableSort

/-! ## Sorting by a test

A test that is a total preorder on decorated items sorts the items by any
comparison that agrees with it. -/

section MergeSort

variable {β : Type} {le : β → β → Bool} {bs : List β} {f : β → α}

/-- Items that may all stand in either order keep their order. -/
theorem filter_mergeSort (htrans : ∀ a b c, le a b = true → le b c = true → le a c = true)
    (htotal : ∀ a b, (le a b || le b a) = true) {p : β → Bool}
    (hp : ∀ a ∈ bs, ∀ b ∈ bs, p a = true → p b = true → le a b = true) :
    (bs.mergeSort le).filter p = bs.filter p := by
  have hclass : (bs.filter p).Pairwise (le · ·) := by
    refine List.Pairwise.imp_of_mem ?_ (List.pairwise_of_forall fun _ _ => True.intro)
    intro a b ha hb _
    obtain ⟨ha, hpa⟩ := List.mem_filter.mp ha
    obtain ⟨hb, hpb⟩ := List.mem_filter.mp hb
    exact hp a ha b hb hpa hpb
  have hsub : (bs.filter p).Sublist ((bs.mergeSort le).filter p) := by
    have h := (List.sublist_mergeSort htrans htotal hclass List.filter_sublist).filter p
    rwa [List.filter_filter, List.filter_congr fun b _ => Bool.and_self (p b)] at h
  exact (hsub.eq_of_length ((List.mergeSort_perm bs le).filter p).length_eq.symm).symm

theorem isStableSort_mergeSort (hcmp : IsPreorder cmp)
    (htrans : ∀ a b c, le a b = true → le b c = true → le a c = true)
    (htotal : ∀ a b, (le a b || le b a) = true)
    (hle : ∀ a ∈ bs, ∀ b ∈ bs, le a b = true ↔ AtMost cmp (f a) (f b)) :
    IsStableSort cmp (bs.map f) ((bs.mergeSort le).map f) where
  perm := (List.mergeSort_perm bs le).map f
  ordered := by
    rw [List.pairwise_map]
    refine List.Pairwise.imp_of_mem ?_ (List.pairwise_mergeSort htrans htotal bs)
    intro a b ha hb hab
    exact (hle a (List.mem_mergeSort.mp ha) b (List.mem_mergeSort.mp hb)).mp hab
  stable x _ := by
    rw [List.filter_map, List.filter_map, filter_mergeSort htrans htotal]
    intro a ha b hb hxa hxb
    exact (hle a ha b hb).mpr (hcmp.trans (.of_ties (hcmp.ties_symm hxa)) (.of_ties hxb))

end MergeSort

/-! ## Sorting in two parts -/

section Parts

variable {p : α → Bool} {part front back : List α}

/-- A sorted part of a list holds each class of equal items whole or not at all,
when the test that makes the part does not tell equal items apart. -/
theorem IsStableSort.filter_ties (h : IsStableSort cmp (l.filter p) part) (hx : x ∈ l)
    (hsame : ∀ y ∈ l, ties cmp x y = true → p y = p x) :
    part.filter (ties cmp x) = if p x then l.filter (ties cmp x) else [] := by
  by_cases hpx : p x = true
  · rw [if_pos hpx, h.stable x (List.mem_filter.mpr ⟨hx, hpx⟩), List.filter_filter]
    refine List.filter_congr fun y hy => ?_
    rw [Bool.eq_iff_iff, Bool.and_eq_true]
    exact ⟨And.left, fun htie => ⟨htie, (hsame y hy htie).trans hpx⟩⟩
  · rw [if_neg hpx]
    refine List.filter_eq_nil_iff.mpr fun y hy htie => ?_
    obtain ⟨hy, hpy⟩ := List.mem_filter.mp (h.perm.mem_iff.mp hy)
    exact hpx ((hsame y hy htie).symm.trans hpy)

/-- Equal items stand on one side of a test that splits the order. -/
theorem IsPreorder.eq_of_ties (hcmp : IsPreorder cmp)
    (hlt : ∀ x ∈ l, ∀ y ∈ l, p x = false → p y = true → cmp x y = .ok .lt)
    (hx : x ∈ l) (hy : y ∈ l) (htie : ties cmp x y = true) : p y = p x := by
  have hxy : cmp x y = .ok .eq := ties_iff.mp htie
  have hyx : cmp y x = .ok .eq := hcmp.swap hxy
  cases hpx : p x <;> cases hpy : p y
  · rfl
  · rw [hlt x hx y hy hpx hpy] at hxy
    cases hxy
  · rw [hlt y hy x hx hpy hpx] at hyx
    cases hyx
  · rfl

/-- Two sorted parts of a list make a sorted list when everything in the first is
below everything in the second. -/
theorem IsStableSort.append (hcmp : IsPreorder cmp)
    (hfront : IsStableSort cmp (l.filter fun x => !p x) front)
    (hback : IsStableSort cmp (l.filter p) back)
    (hlt : ∀ x ∈ l, ∀ y ∈ l, p x = false → p y = true → cmp x y = .ok .lt) :
    IsStableSort cmp l (front ++ back) where
  perm := by
    have hparts := List.filter_append_perm (fun x => !p x) l
    simp only [Bool.not_not] at hparts
    exact (hfront.perm.append hback.perm).trans hparts
  ordered := by
    refine List.pairwise_append.mpr ⟨hfront.ordered, hback.ordered, fun x hx y hy => ?_⟩
    obtain ⟨hx, hpx⟩ := List.mem_filter.mp (hfront.perm.mem_iff.mp hx)
    obtain ⟨hy, hpy⟩ := List.mem_filter.mp (hback.perm.mem_iff.mp hy)
    rw [Bool.not_eq_true'] at hpx
    exact ⟨.lt, hlt x hx y hy hpx hpy, rfl⟩
  stable x hx := by
    have hsame : ∀ y ∈ l, ties cmp x y = true → p y = p x := fun y hy =>
      hcmp.eq_of_ties hlt hx hy
    have hsame' : ∀ y ∈ l, ties cmp x y = true → (!p y) = !p x := fun y hy htie => by
      rw [hsame y hy htie]
    rw [List.filter_append, hfront.filter_ties hx hsame', hback.filter_ties hx hsame]
    cases p x with
    | true => exact List.nil_append _
    | false => exact List.append_nil _

end Parts

/-! ## Sorting by several comparisons -/

theorem lexicographic_of_eq (h : first x y = .ok .eq) :
    lexicographic first second x y = second x y := by
  simp [lexicographic, h]

theorem lexicographic_of_ne {o : Ordering} (h : first x y = .ok o) (ho : o ≠ .eq) :
    lexicographic first second x y = .ok o := by
  cases o <;> simp_all [lexicographic]

theorem ties_lexicographic :
    ties (lexicographic first second) x y = (ties first x y && ties second x y) := by
  unfold ties
  cases h : first x y with
  | error e => simp [lexicographic, h, gives, bind, Except.bind]
  | ok o =>
    by_cases ho : o = .eq
    · rw [ho] at h
      rw [lexicographic_of_eq h, ho]
      rfl
    · rw [lexicographic_of_ne h ho]
      simp [gives, ho]

theorem atMost_lexicographic :
    AtMost (lexicographic first second) x y ↔
      AtMost first x y ∧ (ties first x y = true → AtMost second x y) := by
  cases h : first x y with
  | error e => simp [AtMost, lexicographic, h, bind, Except.bind]
  | ok o =>
    by_cases ho : o = .eq
    · rw [ho] at h
      simp [AtMost, lexicographic_of_eq h, ties, gives, h]
    · simp [AtMost, lexicographic_of_ne h ho, ties, gives, h, ho]

/-- Sorting by the second comparison and then by the first is sorting by both.
Stability of the second sort is what keeps the order of the first one. -/
theorem IsStableSort.lexicographic (hfirst : IsPreorder first)
    (h₂ : IsStableSort second l mid) (h₁ : IsStableSort first mid out) :
    IsStableSort (lexicographic first second) l out where
  perm := h₁.perm.trans h₂.perm
  ordered := by
    rw [List.pairwise_iff_forall_sublist]
    intro x y hxy
    refine atMost_lexicographic.mpr
      ⟨List.pairwise_iff_forall_sublist.mp h₁.ordered hxy, fun htie => ?_⟩
    have hx : x ∈ mid := h₁.perm.mem_iff.mp (hxy.subset List.mem_cons_self)
    have hclass : [x, y].filter (ties first x) = [x, y] := by
      simp only [List.filter_cons_of_pos (hfirst.ties_self htie), List.filter_cons_of_pos htie,
        List.filter_nil]
    have hsub : [x, y].Sublist (mid.filter (ties first x)) := by
      rw [← h₁.stable x hx, ← hclass]
      exact hxy.filter (ties first x)
    exact List.pairwise_iff_forall_sublist.mp h₂.ordered (hsub.trans List.filter_sublist)
  stable x hx := by
    have hx' : x ∈ mid := h₂.perm.mem_iff.mpr hx
    have hboth (as : List α) : as.filter (ties (Order.lexicographic first second) x) =
        (as.filter (ties first x)).filter (ties second x) := by
      rw [List.filter_filter]
      exact List.filter_congr fun y _ => by rw [ties_lexicographic, Bool.and_comm]
    calc out.filter (ties (Order.lexicographic first second) x)
        = (out.filter (ties first x)).filter (ties second x) := hboth out
      _ = (mid.filter (ties first x)).filter (ties second x) := by rw [h₁.stable x hx']
      _ = (mid.filter (ties second x)).filter (ties first x) := List.filter_comm _ _ _
      _ = (l.filter (ties second x)).filter (ties first x) := by rw [h₂.stable x hx]
      _ = (l.filter (ties first x)).filter (ties second x) := List.filter_comm _ _ _
      _ = l.filter (ties (Order.lexicographic first second) x) := (hboth l).symm

/-! ## Preorders by several comparisons -/

namespace IsPreorder

/-- Of three items in order the outer two are equal only when all three are. -/
theorem ties_of_ties (h : IsPreorder cmp) (hxy : AtMost cmp x y) (hyz : AtMost cmp y z)
    (hxz : ties cmp x z = true) : ties cmp x y = true ∧ ties cmp y z = true := by
  have hzx : AtMost cmp z x := .of_ties (h.ties_symm hxz)
  exact ⟨h.ties_of_atMost hxy (h.trans hyz hzx), h.ties_of_atMost hyz (h.trans hzx hxy)⟩

theorem lexicographic (h₁ : IsPreorder first) (h₂ : IsPreorder second) :
    IsPreorder (lexicographic first second) where
  swap {x y o} h := by
    cases hf : first x y with
    | error e => simp [Order.lexicographic, hf, bind, Except.bind] at h
    | ok o' =>
      have hf' : first y x = .ok o'.swap := h₁.swap hf
      by_cases ho : o' = .eq
      · rw [ho] at hf hf'
        rw [lexicographic_of_eq hf] at h
        rw [lexicographic_of_eq hf']
        exact h₂.swap h
      · rw [lexicographic_of_ne hf ho] at h
        have ho' : o'.swap ≠ .eq := fun e => ho (Ordering.swap_eq_eq.mp e)
        rw [lexicographic_of_ne hf' ho', ← Except.ok.inj h]
  trans {x y z} hxy hyz := by
    obtain ⟨hxy₁, hxy₂⟩ := atMost_lexicographic.mp hxy
    obtain ⟨hyz₁, hyz₂⟩ := atMost_lexicographic.mp hyz
    refine atMost_lexicographic.mpr ⟨h₁.trans hxy₁ hyz₁, fun htie => ?_⟩
    obtain ⟨htie₁, htie₂⟩ := h₁.ties_of_ties hxy₁ hyz₁ htie
    exact h₂.trans (hxy₂ htie₁) (hyz₂ htie₂)

end IsPreorder

theorem isPreorder_eq : IsPreorder fun _ _ : α => .ok .eq where
  swap h := by rw [← Except.ok.inj h]; rfl
  trans _ hyz := hyz

theorem isStableSort_eq (l : List α) : IsStableSort (fun _ _ => .ok .eq) l l :=
  .of_ordered (List.pairwise_of_forall fun _ _ => ⟨.eq, rfl, rfl⟩)

end Order
end Facets
