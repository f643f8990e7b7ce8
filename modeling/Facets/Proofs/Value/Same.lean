import Facets.Proofs.Calendar.Zones
import Facets.Proofs.Number.Rounding
import Facets.Value.Equality
import Mathlib.Data.List.Forall2
import Mathlib.Data.List.Induction

/-
Values that are one form classes.

`Value.same_iff` says what it takes for two values to be one, form by form, in
terms of their parts.  From it follows that being one is an equivalence
(`same_refl`, `same_symm`, `same_trans`): each proof is one induction on the
parts of the first value, and the other values are opened by `same_iff`.
`Value.distinct` keeps one value of each class.
-/
namespace Facets

/-! ## Amounts, bounds and moments -/

namespace Amount

variable {a b c : Amount}

theorem same_refl (a : Amount) : a.same a = true := by
  unfold same
  cases a.place? <;> simp

theorem same_symm (h : a.same b = true) : b.same a = true := by
  unfold same at h ⊢
  cases hp : a.place? <;> cases hq : b.place? <;> simp_all

theorem same_trans (hab : a.same b = true) (hbc : b.same c = true) : a.same c = true := by
  unfold same at hab hbc ⊢
  cases hp : a.place? <;> cases hq : b.place? <;> cases hr : c.place? <;> simp_all

/-- One with a number is what has its place. -/
theorem same_iff_place {p : Place} (h : a.place? = some p) :
    a.same b = true ↔ b.place? = some p := by
  rw [same, h]
  cases b.place? with
  | none => simp
  | some q => exact beq_iff_eq.trans (eq_comm.trans Option.some_inj.symm)

theorem same_ofNumber {m n : Number} :
    (ofNumber m).same (ofNumber n) = true ↔ m.scaled = n.scaled := by
  simp [same]

theorem same_int {m n : Int} : (Amount.int m).same (.int n) = true ↔ m = n := by
  have hone : (Number.unitsInOne : Int) ≠ 0 := Int.natCast_ne_zero.mpr Number.unitsInOne_pos.ne'
  rw [same_iff_place rfl]
  constructor
  · intro h
    exact (Int.eq_of_mul_eq_mul_right hone (Place.at.inj (Option.some.inj h))).symm
  · rintro rfl
    rfl

end Amount

namespace Range

variable {a b c : Option Amount}

theorem sameBound_refl (a : Option Amount) : sameBound a a = true := by
  cases a with
  | none => rfl
  | some a => exact a.same_refl

theorem sameBound_symm (h : sameBound a b = true) : sameBound b a = true := by
  cases a <;> cases b <;> first | exact Amount.same_symm h | exact h

theorem sameBound_trans (hab : sameBound a b = true) (hbc : sameBound b c = true) :
    sameBound a c = true := by
  cases a <;> cases b <;> cases c <;>
    first | exact Amount.same_trans hab hbc | exact hab | exact hbc | contradiction

end Range

namespace Value

section Moments

variable {l l' l'' : LocalTime} {p p' p'' : Option Place}

theorem sameMoment_refl (l : LocalTime) (p : Option Place) : sameMoment l p l p = true := by
  cases p with
  | none => exact beq_self_eq_true l.micros
  | some p => exact Moment.same_refl ⟨l, p⟩

theorem sameMoment_symm (h : sameMoment l p l' p' = true) : sameMoment l' p' l p = true := by
  cases p <;> cases p'
  · exact beq_iff_eq.mpr (eq_of_beq h).symm
  · cases h
  · cases h
  · exact Moment.same_symm h

theorem sameMoment_trans (h : sameMoment l p l' p' = true) (h' : sameMoment l' p' l'' p'' = true) :
    sameMoment l p l'' p'' = true := by
  cases p <;> cases p' <;> cases p'' <;> try contradiction
  · exact beq_iff_eq.mpr ((eq_of_beq h).trans (eq_of_beq h'))
  · exact Moment.same_trans h h'

end Moments

/-! ## Parts -/

/-- The values directly inside a value. -/
def parts : Value → List Value
  | .list items | .tuple items | .set items | .frozenSet items => items
  | .dict entries => entries.flatMap fun p => [p.1, p.2]
  | .mappingKey entries => entries.map (·.2)
  | _ => []

theorem sizeOf_lt_of_mem_parts {v w : Value} (h : w ∈ v.parts) : sizeOf w < sizeOf v := by
  cases v with
  | list items | tuple items | set items | frozenSet items =>
    have hlt : sizeOf w < sizeOf items := List.sizeOf_lt_of_mem h
    simp only [list.sizeOf_spec, tuple.sizeOf_spec, set.sizeOf_spec, frozenSet.sizeOf_spec]
    omega
  | dict entries =>
    obtain ⟨⟨k, u⟩, hp, hw⟩ := List.mem_flatMap.mp h
    have hlt := List.sizeOf_lt_of_mem hp
    simp only [List.mem_cons, List.not_mem_nil, or_false] at hw
    simp only [Prod.mk.sizeOf_spec, dict.sizeOf_spec] at *
    rcases hw with rfl | rfl <;> omega
  | mappingKey entries =>
    obtain ⟨⟨k, u⟩, hp, rfl⟩ := List.mem_map.mp h
    have hlt := List.sizeOf_lt_of_mem hp
    simp only [Prod.mk.sizeOf_spec, mappingKey.sizeOf_spec] at *
    omega
  | _ => cases h

/-- What holds of a value whenever it holds of its parts holds of all values. -/
theorem induction_parts {P : Value → Prop} (h : ∀ v, (∀ w ∈ v.parts, P w) → P v) (v : Value) :
    P v :=
  h v fun w hw =>
    have := sizeOf_lt_of_mem_parts hw
    induction_parts h w
termination_by v

/-! ## Values that are one, form by form -/

/-- The items of a set of either kind. -/
def members? : Value → Option (List Value)
  | .set items | .frozenSet items => some items
  | _ => none

/-- Items of one list and of the other that stand for each other. -/
def Matched {α : Type} (R : α → α → Prop) (xs ys : List α) : Prop :=
  (∀ x ∈ xs, ∃ y ∈ ys, R x y) ∧ ∀ y ∈ ys, ∃ x ∈ xs, R x y

/-- How two values can be one, when `R` says which of their parts are. -/
inductive Alike (R : Value → Value → Prop) : Value → Value → Prop
  | null : Alike R .null .null
  | amount {v w : Value} {a b : Amount} (hv : v.amount? = some a) (hw : w.amount? = some b)
    (h : a.same b = true) : Alike R v w
  | text (s : String) : Alike R (.text s) (.text s)
  | moment {l l' : LocalTime} {p p' : Option Place} (h : sameMoment l p l' p' = true) :
    Alike R (.dateTime l p) (.dateTime l' p')
  | date (d : Date) : Alike R (.date d) (.date d)
  | list {xs ys : List Value} (h : List.Forall₂ R xs ys) : Alike R (.list xs) (.list ys)
  | tuple {xs ys : List Value} (h : List.Forall₂ R xs ys) : Alike R (.tuple xs) (.tuple ys)
  | members {v w : Value} {xs ys : List Value} (hv : v.members? = some xs)
    (hw : w.members? = some ys) (h : Matched R xs ys) : Alike R v w
  | dict {ps qs : List (Value × Value)} (h : Matched (fun p q => R p.1 q.1 ∧ R p.2 q.2) ps qs) :
    Alike R (.dict ps) (.dict qs)
  | bytes (s : String) : Alike R (.bytes s) (.bytes s)
  | boolKey (b : Bool) : Alike R (.boolKey b) (.boolKey b)
  | named {ps qs : List (String × Value)} (h : List.Forall₂ (fun p q => p.1 = q.1 ∧ R p.2 q.2) ps qs) :
    Alike R (.mappingKey ps) (.mappingKey qs)
  | range {r s : Range} (hmin : Range.sameBound r.min s.min = true)
    (hmax : Range.sameBound r.max s.max = true) : Alike R (.range r) (.range s)

theorem sameItems_iff {xs ys : List Value} :
    sameItems xs ys = true ↔ List.Forall₂ (fun x y => x.same y = true) xs ys := by
  induction xs generalizing ys with
  | nil => cases ys <;> simp [sameItems]
  | cons x xs ih => cases ys <;> simp [sameItems, ih]

theorem someSame_iff {xs : List Value} {y : Value} :
    someSame xs y = true ↔ ∃ x ∈ xs, x.same y = true := by
  induction xs with
  | nil => simp [someSame]
  | cons x xs ih => simp [someSame, ih]

theorem eachIn_iff {xs ys : List Value} :
    eachIn xs ys = true ↔ ∀ x ∈ xs, ∃ y ∈ ys, x.same y = true := by
  induction xs with
  | nil => simp [eachIn]
  | cons x xs ih => simp [eachIn, ih]

theorem someSameEntry_iff {ps : List (Value × Value)} {q : Value × Value} :
    someSameEntry ps q = true ↔ ∃ p ∈ ps, p.1.same q.1 = true ∧ p.2.same q.2 = true := by
  induction ps with
  | nil => simp [someSameEntry]
  | cons p ps ih =>
    obtain ⟨k, v⟩ := p
    rw [someSameEntry, Bool.or_eq_true, Bool.and_eq_true, ih]
    simp

theorem eachEntryIn_iff {ps qs : List (Value × Value)} :
    eachEntryIn ps qs = true ↔
      ∀ p ∈ ps, ∃ q ∈ qs, p.1.same q.1 = true ∧ p.2.same q.2 = true := by
  induction ps with
  | nil => simp [eachEntryIn]
  | cons p ps ih =>
    obtain ⟨k, v⟩ := p
    rw [eachEntryIn, Bool.and_eq_true, ih, List.any_eq_true]
    simp

theorem sameEntries_iff {ps qs : List (String × Value)} :
    sameEntries ps qs = true ↔
      List.Forall₂ (fun p q => p.1 = q.1 ∧ p.2.same q.2 = true) ps qs := by
  induction ps generalizing qs with
  | nil => cases qs <;> simp [sameEntries]
  | cons p ps ih =>
    obtain ⟨k, v⟩ := p
    cases qs with
    | nil => simp [sameEntries]
    | cons q qs =>
      obtain ⟨l, w⟩ := q
      simp [sameEntries, ih]

theorem sameSet_iff {xs ys : List Value} :
    (eachIn xs ys && ys.all (someSame xs)) = true ↔
      Matched (fun x y => x.same y = true) xs ys := by
  rw [Bool.and_eq_true, eachIn_iff, List.all_eq_true]
  simp only [someSame_iff, Matched]

theorem sameDict_iff {ps qs : List (Value × Value)} :
    (eachEntryIn ps qs && qs.all (someSameEntry ps)) = true ↔
      Matched (fun p q => p.1.same q.1 = true ∧ p.2.same q.2 = true) ps qs := by
  rw [Bool.and_eq_true, eachEntryIn_iff, List.all_eq_true]
  simp only [someSameEntry_iff, Matched]

theorem same_of_alike {v w : Value} (h : Alike (fun v w => v.same w = true) v w) :
    v.same w = true := by
  cases h with
  | null => simp [same]
  | amount hv hw h =>
    cases v <;> simp only [amount?, Option.some.injEq, reduceCtorEq] at hv <;>
      rw [same, hw, hv] <;> exact h
  | text s => simp [same]
  | moment h => rwa [same]
  | date d => simp [same]
  | list h => rwa [same, sameItems_iff]
  | tuple h => rwa [same, sameItems_iff]
  | members hv hw h =>
    cases v <;> simp only [members?, Option.some.injEq, reduceCtorEq] at hv <;>
      cases w <;> simp only [members?, Option.some.injEq, reduceCtorEq] at hw <;>
      rw [same, sameSet_iff, hv, hw] <;> exact h
  | dict h => rwa [same, sameDict_iff]
  | bytes s => simp [same]
  | boolKey b => simp [same]
  | named h => rwa [same, sameEntries_iff]
  | range hmin hmax => rw [same, hmin, hmax]; rfl

theorem alike_of_same {v w : Value} (h : v.same w = true) :
    Alike (fun v w => v.same w = true) v w := by
  cases v with
  | bool _ | int _ | float _ =>
    rw [same] at h
    split at h
    · rename_i hw
      exact .amount rfl hw h
    · contradiction
  | null =>
    cases w <;> simp only [same, Bool.false_eq_true] at h
    exact .null
  | text s =>
    cases w <;> simp only [same, Bool.false_eq_true, beq_iff_eq] at h
    exact h ▸ .text s
  | dateTime l o =>
    cases w <;> simp only [same, Bool.false_eq_true] at h
    exact .moment h
  | date d =>
    cases w <;> simp only [same, Bool.false_eq_true, beq_iff_eq] at h
    exact h ▸ .date d
  | list xs =>
    cases w <;> simp only [same, Bool.false_eq_true, sameItems_iff] at h
    exact .list h
  | tuple xs =>
    cases w <;> simp only [same, Bool.false_eq_true, sameItems_iff] at h
    exact .tuple h
  | set xs | frozenSet xs =>
    cases w <;> simp only [same, Bool.false_eq_true, sameSet_iff] at h
    · exact .members rfl rfl h
    · exact .members rfl rfl h
  | dict ps =>
    cases w <;> simp only [same, Bool.false_eq_true, sameDict_iff] at h
    exact .dict h
  | bytes s =>
    cases w <;> simp only [same, Bool.false_eq_true, beq_iff_eq] at h
    exact h ▸ .bytes s
  | boolKey b =>
    cases w <;> simp only [same, Bool.false_eq_true, beq_iff_eq] at h
    exact h ▸ .boolKey b
  | mappingKey ps =>
    cases w <;> simp only [same, Bool.false_eq_true, sameEntries_iff] at h
    exact .named h
  | range r =>
    cases w <;> simp only [same, Bool.false_eq_true, Bool.and_eq_true] at h
    exact .range h.1 h.2

/-- Two values are one exactly when they are of one form and their parts are one. -/
theorem same_iff {v w : Value} : v.same w = true ↔ Alike (fun v w => v.same w = true) v w :=
  ⟨alike_of_same, same_of_alike⟩

/-! ## An equivalence -/

section Parts

variable {α : Type} {R : α → α → Prop} {xs ys zs : List α}

theorem forall₂_symm_of_mem (h : ∀ x ∈ xs, ∀ y, R x y → R y x) (hxy : List.Forall₂ R xs ys) :
    List.Forall₂ R ys xs := by
  induction hxy with
  | nil => exact .nil
  | cons hx _ ih =>
    obtain ⟨hhead, htail⟩ := List.forall_mem_cons.mp h
    exact .cons (hhead _ hx) (ih htail)

theorem forall₂_trans_of_mem (h : ∀ x ∈ xs, ∀ y z, R x y → R y z → R x z)
    (hxy : List.Forall₂ R xs ys) (hyz : List.Forall₂ R ys zs) : List.Forall₂ R xs zs := by
  induction hxy generalizing zs with
  | nil => exact hyz
  | cons hx _ ih =>
    obtain ⟨hhead, htail⟩ := List.forall_mem_cons.mp h
    cases hyz with
    | cons hy hyz => exact .cons (hhead _ _ hx hy) (ih htail hyz)

theorem Matched.refl (h : ∀ x ∈ xs, R x x) : Matched R xs xs :=
  ⟨fun x hx => ⟨x, hx, h x hx⟩, fun x hx => ⟨x, hx, h x hx⟩⟩

theorem Matched.symm (h : ∀ x ∈ xs, ∀ y, R x y → R y x) (hxy : Matched R xs ys) :
    Matched R ys xs := by
  refine ⟨fun y hy => ?_, fun x hx => ?_⟩
  · obtain ⟨x, hx, hR⟩ := hxy.2 y hy
    exact ⟨x, hx, h x hx y hR⟩
  · obtain ⟨y, hy, hR⟩ := hxy.1 x hx
    exact ⟨y, hy, h x hx y hR⟩

theorem Matched.trans (h : ∀ x ∈ xs, ∀ y z, R x y → R y z → R x z) (hxy : Matched R xs ys)
    (hyz : Matched R ys zs) : Matched R xs zs := by
  refine ⟨fun x hx => ?_, fun z hz => ?_⟩
  · obtain ⟨y, hy, hxy⟩ := hxy.1 x hx
    obtain ⟨z, hz, hyz⟩ := hyz.1 y hy
    exact ⟨z, hz, h x hx y z hxy hyz⟩
  · obtain ⟨y, hy, hyz⟩ := hyz.2 z hz
    obtain ⟨x, hx, hxy⟩ := hxy.2 y hy
    exact ⟨x, hx, h x hx y z hxy hyz⟩

end Parts

variable {u v w : Value}

theorem parts_of_members? {xs : List Value} (h : v.members? = some xs) : v.parts = xs := by
  cases v <;> simp_all [members?, parts]

/-- A key or a value of a mapping is a part of it. -/
theorem mem_parts_of_mem_entries {ps : List (Value × Value)} {p : Value × Value} (h : p ∈ ps) :
    p.1 ∈ (Value.dict ps).parts ∧ p.2 ∈ (Value.dict ps).parts :=
  ⟨List.mem_flatMap.mpr ⟨p, h, by simp⟩, List.mem_flatMap.mpr ⟨p, h, by simp⟩⟩

theorem mem_parts_of_mem_named {ps : List (String × Value)} {p : String × Value} (h : p ∈ ps) :
    p.2 ∈ (Value.mappingKey ps).parts :=
  List.mem_map_of_mem h

/-- Every value is one with itself. -/
theorem same_refl (v : Value) : v.same v = true := by
  induction v using induction_parts with
  | h v ih =>
    refine same_iff.mpr ?_
    cases v with
    | null => exact .null
    | bool _ | int _ | float _ => exact .amount rfl rfl (Amount.same_refl _)
    | text s => exact .text s
    | dateTime l o => exact .moment (sameMoment_refl l o)
    | date d => exact .date d
    | list xs => exact .list (List.forall₂_same.mpr ih)
    | tuple xs => exact .tuple (List.forall₂_same.mpr ih)
    | set xs | frozenSet xs => exact .members rfl rfl (.refl ih)
    | dict ps =>
      refine .dict (.refl fun p hp => ?_)
      obtain ⟨hk, hv⟩ := mem_parts_of_mem_entries hp
      exact ⟨ih _ hk, ih _ hv⟩
    | bytes s => exact .bytes s
    | boolKey b => exact .boolKey b
    | mappingKey ps =>
      exact .named (List.forall₂_same.mpr fun p hp => ⟨rfl, ih _ (mem_parts_of_mem_named hp)⟩)
    | range r => exact .range (Range.sameBound_refl _) (Range.sameBound_refl _)

/-- What is one with a number is a number of the same value. -/
theorem exists_amount_of_same {b : Amount} (hv : v.amount? = some b) (h : v.same w = true) :
    ∃ c, w.amount? = some c ∧ b.same c = true := by
  cases alike_of_same h with
  | amount hv' hw hbc =>
    obtain rfl := Option.some.inj (hv.symm.trans hv')
    exact ⟨_, hw, hbc⟩
  | members hv' => cases v <;> simp_all [amount?, members?]
  | _ => cases hv

/-- What is one with a set is a set with the same members. -/
theorem exists_members_of_same {xs : List Value} (hv : v.members? = some xs)
    (h : v.same w = true) :
    ∃ ys, w.members? = some ys ∧ Matched (fun x y => x.same y = true) xs ys := by
  cases alike_of_same h with
  | members hv' hw hxy =>
    obtain rfl := Option.some.inj (hv.symm.trans hv')
    exact ⟨_, hw, hxy⟩
  | amount hv' => cases v <;> simp_all [amount?, members?]
  | _ => cases hv

theorem same_symm (hvw : v.same w = true) : w.same v = true := by
  induction v using induction_parts generalizing w with
  | h v ih =>
    have hparts : ∀ x ∈ v.parts, ∀ y, x.same y = true → y.same x = true :=
      fun x hx _ hxy => ih x hx hxy
    refine same_iff.mpr ?_
    cases alike_of_same hvw with
    | null => exact .null
    | amount hv hw h => exact .amount hw hv (Amount.same_symm h)
    | text s => exact .text s
    | moment h => exact .moment (sameMoment_symm h)
    | date d => exact .date d
    | list h => exact .list (forall₂_symm_of_mem hparts h)
    | tuple h => exact .tuple (forall₂_symm_of_mem hparts h)
    | members hv hw h =>
      rw [parts_of_members? hv] at hparts
      exact .members hw hv (.symm hparts h)
    | dict h =>
      refine .dict (.symm (fun p hp q hpq => ?_) h)
      obtain ⟨hk, hv⟩ := mem_parts_of_mem_entries hp
      exact ⟨ih _ hk hpq.1, ih _ hv hpq.2⟩
    | bytes s => exact .bytes s
    | boolKey b => exact .boolKey b
    | named h =>
      refine .named (forall₂_symm_of_mem (fun p hp q hpq => ?_) h)
      exact ⟨hpq.1.symm, ih _ (mem_parts_of_mem_named hp) hpq.2⟩
    | range hmin hmax => exact .range (Range.sameBound_symm hmin) (Range.sameBound_symm hmax)

theorem same_trans (huv : u.same v = true) (hvw : v.same w = true) : u.same w = true := by
  induction u using induction_parts generalizing v w with
  | h u ih =>
    have hparts : ∀ x ∈ u.parts, ∀ y z, x.same y = true → y.same z = true → x.same z = true :=
      fun x hx _ _ hxy hyz => ih x hx hxy hyz
    refine same_iff.mpr ?_
    cases alike_of_same huv with
    | null | text _ | date _ | bytes _ | boolKey _ => exact alike_of_same hvw
    | amount hu hv h =>
      obtain ⟨c, hw, h'⟩ := exists_amount_of_same hv hvw
      exact .amount hu hw (Amount.same_trans h h')
    | members hu hv h =>
      obtain ⟨zs, hw, h'⟩ := exists_members_of_same hv hvw
      rw [parts_of_members? hu] at hparts
      exact .members hu hw (.trans hparts h h')
    | moment h =>
      cases alike_of_same hvw with
      | moment h' => exact .moment (sameMoment_trans h h')
      | amount hv | members hv => cases hv
    | list h =>
      cases alike_of_same hvw with
      | list h' => exact .list (forall₂_trans_of_mem hparts h h')
      | amount hv | members hv => cases hv
    | tuple h =>
      cases alike_of_same hvw with
      | tuple h' => exact .tuple (forall₂_trans_of_mem hparts h h')
      | amount hv | members hv => cases hv
    | dict h =>
      cases alike_of_same hvw with
      | dict h' =>
        refine .dict (.trans (fun p hp q r hpq hqr => ?_) h h')
        obtain ⟨hk, hv⟩ := mem_parts_of_mem_entries hp
        exact ⟨ih _ hk hpq.1 hqr.1, ih _ hv hpq.2 hqr.2⟩
      | amount hv | members hv => cases hv
    | named h =>
      cases alike_of_same hvw with
      | named h' =>
        refine .named (forall₂_trans_of_mem (fun p hp q r hpq hqr => ?_) h h')
        exact ⟨hpq.1.trans hqr.1, ih _ (mem_parts_of_mem_named hp) hpq.2 hqr.2⟩
      | amount hv | members hv => cases hv
    | range hmin hmax =>
      cases alike_of_same hvw with
      | range hmin' hmax' =>
        exact .range (Range.sameBound_trans hmin hmin') (Range.sameBound_trans hmax hmax')
      | amount hv | members hv => cases hv

theorem same_comm (v w : Value) : v.same w = w.same v :=
  Bool.eq_iff_iff.mpr ⟨same_symm, same_symm⟩

/-! ## Different values -/

theorem distinct_append (items : List Value) (v : Value) :
    distinct (items ++ [v]) =
      if (distinct items).any (·.same v) then distinct items else distinct items ++ [v] := by
  rw [distinct, List.foldl_append]
  rfl

/-- What is kept are items. -/
theorem distinct_subset (items : List Value) : distinct items ⊆ items := by
  induction items using List.reverseRecOn with
  | nil => exact List.Subset.refl _
  | append_singleton items v ih =>
    rw [distinct_append]
    split
    · exact List.subset_append_of_subset_left _ ih
    · exact List.append_subset.mpr
        ⟨List.subset_append_of_subset_left _ ih, List.subset_append_right _ _⟩

/-- Of values that are one the first is kept, and no other. -/
theorem apart_distinct (items : List Value) :
    (distinct items).Pairwise fun v w => v.same w = false := by
  induction items using List.reverseRecOn with
  | nil => exact .nil
  | append_singleton items v ih =>
    rw [distinct_append]
    split
    · exact ih
    · rename_i hnew
      refine List.pairwise_append.mpr ⟨ih, List.pairwise_singleton _ _, fun w hw u hu => ?_⟩
      rw [List.mem_singleton.mp hu]
      simpa using fun hsame => hnew (List.any_eq_true.mpr ⟨w, hw, hsame⟩)

/-- Every item is one with an item that is kept. -/
theorem exists_same_of_mem {items : List Value} (h : v ∈ items) :
    ∃ w ∈ distinct items, w.same v = true := by
  induction items using List.reverseRecOn with
  | nil => cases h
  | append_singleton items u ih =>
    rw [distinct_append]
    have hkept : ∀ w ∈ distinct items, w ∈ (if (distinct items).any (·.same u) then distinct items
        else distinct items ++ [u]) := by
      intro w hw
      split
      · exact hw
      · exact List.mem_append_left _ hw
    rcases List.mem_append.mp h with h | h
    · obtain ⟨w, hw, hsame⟩ := ih h
      exact ⟨w, hkept w hw, hsame⟩
    · rw [List.mem_singleton.mp h]
      by_cases hold : (distinct items).any (·.same u) = true
      · obtain ⟨w, hw, hsame⟩ := List.any_eq_true.mp hold
        exact ⟨w, hkept w hw, hsame⟩
      · rw [if_neg hold]
        exact ⟨u, by simp, u.same_refl⟩

end Value
end Facets
