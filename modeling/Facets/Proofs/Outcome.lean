import Facets.Keep
import Mathlib.Data.List.Forall2

/-
Taking outcomes apart.

A sequence of steps has an answer exactly when each step has one.  Proofs about
operations that may fault use this by `bind_eq_ok` and `mapM_eq_ok` and never
unfold the monad.
-/

namespace Facets
namespace Outcome

variable {α β : Type}

/-- The outcome is this value.  A fault is no value. -/
def gives [DecidableEq α] (x : Except Fault α) (a : α) : Bool :=
  match x with
  | .ok b => b = a
  | .error _ => false

@[simp]
theorem gives_iff [DecidableEq α] {x : Except Fault α} {a : α} :
    gives x a = true ↔ x = .ok a := by
  cases x <;> simp [gives]

@[simp]
theorem pure_eq_ok {a b : α} : (pure a : Except Fault α) = .ok b ↔ a = b := by
  simp [pure, Except.pure]

theorem bind_eq_ok {x : Except Fault α} {f : α → Except Fault β} {b : β} :
    x >>= f = .ok b ↔ ∃ a, x = .ok a ∧ f a = .ok b := by
  cases x with
  | error e =>
    constructor
    · intro h
      cases h
    · rintro ⟨_, h, _⟩
      cases h
  | ok a =>
    constructor
    · intro h
      exact ⟨a, rfl, h⟩
    · rintro ⟨a', ha, h⟩
      rwa [Except.ok.inj ha]

theorem map_eq_ok {x : Except Fault α} {f : α → β} {b : β} :
    x.map f = .ok b ↔ ∃ a, x = .ok a ∧ f a = b := by
  cases x with
  | error e =>
    constructor
    · intro h
      cases h
    · rintro ⟨_, h, _⟩
      cases h
  | ok a =>
    constructor
    · intro h
      exact ⟨a, rfl, Except.ok.inj h⟩
    · rintro ⟨a', ha, rfl⟩
      rw [← Except.ok.inj ha]
      rfl

theorem exists_bind_ok_iff {x : Except Fault α} {f : α → Except Fault β} :
    (∃ b, x >>= f = .ok b) ↔ ∃ a, x = .ok a ∧ ∃ b, f a = .ok b := by
  constructor
  · rintro ⟨b, h⟩
    obtain ⟨a, ha, hb⟩ := bind_eq_ok.mp h
    exact ⟨a, ha, b, hb⟩
  · rintro ⟨a, ha, b, hb⟩
    exact ⟨b, bind_eq_ok.mpr ⟨a, ha, hb⟩⟩

/-- A last step without a fault has an answer when the steps before it have one. -/
theorem exists_bind_pure_iff {x : Except Fault α} {f : α → β} :
    (∃ b, (x >>= fun a => pure (f a)) = .ok b) ↔ ∃ a, x = .ok a := by
  rw [exists_bind_ok_iff]
  constructor
  · rintro ⟨a, ha, -⟩
    exact ⟨a, ha⟩
  · rintro ⟨a, ha⟩
    exact ⟨a, ha, f a, rfl⟩

@[simp]
theorem ok_bind (a : α) (f : α → Except Fault β) : (Except.ok a >>= f) = f a := rfl

theorem mapM_eq_ok {f : α → Except Fault β} {as : List α} {bs : List β} :
    as.mapM f = .ok bs ↔ List.Forall₂ (fun a b => f a = .ok b) as bs := by
  induction as generalizing bs with
  | nil => rw [List.mapM_nil, pure_eq_ok, List.forall₂_nil_left_iff, eq_comm]
  | cons a as ih =>
    rw [List.mapM_cons, bind_eq_ok]
    constructor
    · rintro ⟨b, hb, h⟩
      obtain ⟨bs', hbs', h⟩ := bind_eq_ok.mp h
      rw [← pure_eq_ok.mp h]
      exact .cons hb (ih.mp hbs')
    · rintro (_ | ⟨hb, hbs⟩)
      exact ⟨_, hb, bind_eq_ok.mpr ⟨_, ih.mpr hbs, rfl⟩⟩

/-- Steps that all have answers make a traversal that has one. -/
theorem exists_mapM_ok {f : α → Except Fault β} {as : List α} (h : ∀ a ∈ as, ∃ b, f a = .ok b) :
    ∃ bs, as.mapM f = .ok bs := by
  induction as with
  | nil => exact ⟨[], rfl⟩
  | cons a as ih =>
    obtain ⟨b, hb⟩ := h a List.mem_cons_self
    obtain ⟨bs, hbs⟩ := ih fun a' ha' => h a' (List.mem_cons_of_mem a ha')
    exact ⟨b :: bs, mapM_eq_ok.mpr (.cons hb (mapM_eq_ok.mp hbs))⟩

theorem ok_of_mapM_ok {f : α → Except Fault β} {as : List α} {bs : List β}
    (h : as.mapM f = .ok bs) : ∀ a ∈ as, ∃ b ∈ bs, f a = .ok b := by
  induction mapM_eq_ok.mp h with
  | nil => exact fun a ha => absurd ha List.not_mem_nil
  | @cons a b as bs hb hbs ih =>
    intro a' ha'
    rcases List.mem_cons.mp ha' with rfl | ha'
    · exact ⟨b, List.mem_cons_self, hb⟩
    · obtain ⟨b', hb', hf⟩ := ih (mapM_eq_ok.mpr hbs) a' ha'
      exact ⟨b', List.mem_cons_of_mem b hb', hf⟩

theorem mem_of_mapM_ok {f : α → Except Fault β} {as : List α} {bs : List β}
    (h : as.mapM f = .ok bs) : ∀ b ∈ bs, ∃ a ∈ as, f a = .ok b := by
  induction mapM_eq_ok.mp h with
  | nil => exact fun b hb => absurd hb List.not_mem_nil
  | @cons a b as bs hb hbs ih =>
    intro b' hb'
    rcases List.mem_cons.mp hb' with rfl | hb'
    · exact ⟨a, List.mem_cons_self, hb⟩
    · obtain ⟨a', ha', hf⟩ := ih (mapM_eq_ok.mpr hbs) b' hb'
      exact ⟨a', List.mem_cons_of_mem a ha', hf⟩

/-- What a traversal found are the answers of its steps. -/
theorem mem_mapM_ok_iff {f : α → Except Fault β} {as : List α} {bs : List β} {b : β}
    (h : as.mapM f = .ok bs) : b ∈ bs ↔ ∃ a ∈ as, f a = .ok b := by
  refine ⟨mem_of_mapM_ok h b, ?_⟩
  rintro ⟨a, ha, hb⟩
  obtain ⟨b', hmem, hb'⟩ := ok_of_mapM_ok h a ha
  rwa [Except.ok.inj (hb.symm.trans hb')]

theorem exists_mapM_ok_iff {f : α → Except Fault β} {as : List α} :
    (∃ bs, as.mapM f = .ok bs) ↔ ∀ a ∈ as, ∃ b, f a = .ok b := by
  constructor
  · rintro ⟨bs, h⟩ a ha
    obtain ⟨b, -, hb⟩ := ok_of_mapM_ok h a ha
    exact ⟨b, hb⟩
  · exact exists_mapM_ok

/-- What holds of the answers of all steps holds of all answers of a traversal. -/
theorem exists_mapM_ok_forall {f : α → Except Fault β} {P : β → Prop} {as : List α}
    (h : ∀ a ∈ as, ∃ b, f a = .ok b ∧ P b) : ∃ bs, as.mapM f = .ok bs ∧ ∀ b ∈ bs, P b := by
  obtain ⟨bs, hbs⟩ := exists_mapM_ok fun a ha => (h a ha).imp fun _ hb => hb.1
  refine ⟨bs, hbs, fun b hb => ?_⟩
  obtain ⟨a, ha, hab⟩ := mem_of_mapM_ok hbs b hb
  obtain ⟨b', hab', hP⟩ := h a ha
  rwa [Except.ok.inj (hab.symm.trans hab')]

/-- A traversal of items of another one has an answer if the other has one, and
finds nothing new. -/
theorem mapM_subset {f : α → Except Fault β} {as part : List α} {bs : List β}
    (hpart : part ⊆ as) (h : as.mapM f = .ok bs) : ∃ bs', part.mapM f = .ok bs' ∧ bs' ⊆ bs := by
  have hall : ∀ a ∈ part, ∃ b ∈ bs, f a = .ok b := fun a ha => ok_of_mapM_ok h a (hpart ha)
  obtain ⟨bs', hbs'⟩ := exists_mapM_ok fun a ha => by
    obtain ⟨b, _, hb⟩ := hall a ha
    exact ⟨b, hb⟩
  refine ⟨bs', hbs', fun b hb => ?_⟩
  obtain ⟨a, ha, hab⟩ := mem_of_mapM_ok hbs' b hb
  obtain ⟨b', hmem, hab'⟩ := hall a ha
  obtain rfl := Except.ok.inj (hab.symm.trans hab')
  exact hmem

/-- Part of a traversal that has an answer has one, which is part of the answer. -/
theorem mapM_sublist {f : α → Except Fault β} {as part : List α} {bs : List β}
    (hsub : part.Sublist as) (h : as.mapM f = .ok bs) :
    ∃ bs', part.mapM f = .ok bs' ∧ bs'.Sublist bs := by
  induction hsub generalizing bs with
  | slnil => exact ⟨bs, h, .refl bs⟩
  | cons a _ ih =>
    cases mapM_eq_ok.mp h with
    | cons _ hbs =>
      obtain ⟨bs', hbs', hsub'⟩ := ih (mapM_eq_ok.mpr hbs)
      exact ⟨bs', hbs', hsub'.cons _⟩
  | cons_cons a _ ih =>
    cases mapM_eq_ok.mp h with
    | cons hb hbs =>
      obtain ⟨bs', hbs', hsub'⟩ := ih (mapM_eq_ok.mpr hbs)
      exact ⟨_ :: bs', mapM_eq_ok.mpr (.cons hb (mapM_eq_ok.mp hbs')), hsub'.cons_cons _⟩

/-- Items paired with an answer each stay in their order. -/
theorem map_snd_of_mapM_ok {γ : Type} {f : α → Except Fault β} {g : α → γ} {as : List α}
    {ps : List (β × γ)} (h : (as.mapM fun a => do
      let b ← f a
      pure (b, g a)) = .ok ps) :
    ps.map Prod.snd = as.map g ∧ ∀ p ∈ ps, ∃ a ∈ as, f a = .ok p.1 ∧ g a = p.2 := by
  have hpair : ∀ {a : α} {p : β × γ}, (f a >>= fun b => pure (b, g a)) = .ok p →
      f a = .ok p.1 ∧ g a = p.2 := by
    intro a p hp
    obtain ⟨b, hb, hp⟩ := bind_eq_ok.mp hp
    obtain rfl := pure_eq_ok.mp hp
    exact ⟨hb, rfl⟩
  refine ⟨?_, fun p hp => ?_⟩
  · induction mapM_eq_ok.mp h with
    | nil => rfl
    | cons hp hps ih => rw [List.map_cons, List.map_cons, ih (mapM_eq_ok.mpr hps), (hpair hp).2]
  · obtain ⟨a, ha, hap⟩ := mem_of_mapM_ok h p hp
    exact ⟨a, ha, hpair hap⟩

/-- What each step of a traversal gives can be read off the items. -/
theorem map_eq_of_mapM_ok {γ : Type} {f : α → Except Fault β} {p : β → γ} {q : α → γ}
    {as : List α} {bs : List β} (h : as.mapM f = .ok bs)
    (hpq : ∀ a ∈ as, ∀ b, f a = .ok b → p b = q a) : bs.map p = as.map q := by
  induction mapM_eq_ok.mp h with
  | nil => rfl
  | @cons a b as bs hb hbs ih =>
    obtain ⟨ha, has⟩ := List.forall_mem_cons.mp hpq
    rw [List.map_cons, List.map_cons, ha b hb, ih (mapM_eq_ok.mpr hbs) has]

/-- A test of the answers that is a test of the items keeps the answers of the items
that it keeps. -/
theorem mapM_filter {f : α → Except Fault β} {p : α → Bool} {q : β → Bool} {as : List α}
    {bs : List β} (h : as.mapM f = .ok bs) (hpq : ∀ a ∈ as, ∀ b, f a = .ok b → q b = p a) :
    (as.filter p).mapM f = .ok (bs.filter q) := by
  induction mapM_eq_ok.mp h with
  | nil => rfl
  | @cons a b as bs hb hbs ih =>
    obtain ⟨ha, has⟩ := List.forall_mem_cons.mp hpq
    have hrest := ih (mapM_eq_ok.mpr hbs) has
    by_cases hp : p a = true
    · rw [List.filter_cons_of_pos hp, List.filter_cons_of_pos ((ha b hb).trans hp)]
      exact mapM_eq_ok.mpr (.cons hb (mapM_eq_ok.mp hrest))
    · rw [List.filter_cons_of_neg hp, List.filter_cons_of_neg (by rwa [ha b hb])]
      exact hrest

/-- What holds at the start of a loop and is preserved by each of its steps holds
at its end.  The invariant may speak of the items gone through so far. -/
theorem foldlM_invariant {f : β → α → Except Fault β} {I : List α → β → Prop} {as : List α}
    {b₀ b : β} (hstart : I [] b₀)
    (hstep : ∀ done a b b', I done b → f b a = .ok b' → I (done ++ [a]) b')
    (h : as.foldlM f b₀ = .ok b) : I as b := by
  suffices hgo : ∀ done b₀, I done b₀ → as.foldlM f b₀ = .ok b → I (done ++ as) b from
    hgo [] b₀ hstart h
  clear h hstart b₀
  induction as with
  | nil =>
    intro done b₀ hdone h
    rw [← pure_eq_ok.mp h, List.append_nil]
    exact hdone
  | cons a as ih =>
    intro done b₀ hdone h
    rw [List.foldlM_cons] at h
    obtain ⟨next, hnext, h⟩ := bind_eq_ok.mp h
    rw [← List.singleton_append, ← List.append_assoc]
    exact ih (done ++ [a]) next (hstep done a b₀ next hdone hnext) h

/-- Steps that all have answers make a loop that has one. -/
theorem exists_foldlM_ok {f : β → α → Except Fault β} {as : List α}
    (h : ∀ a ∈ as, ∀ b, ∃ b', f b a = .ok b') (start : β) : ∃ b, as.foldlM f start = .ok b := by
  induction as generalizing start with
  | nil => exact ⟨start, rfl⟩
  | cons a as ih =>
    obtain ⟨next, hnext⟩ := h a List.mem_cons_self start
    obtain ⟨b, hb⟩ := ih (fun a' ha' => h a' (List.mem_cons_of_mem a ha')) next
    exact ⟨b, by rw [List.foldlM_cons, hnext, ok_bind, hb]⟩

end Outcome

open Outcome in
/-- A search has an answer exactly when its test has one on every item, and then
it keeps the items that pass. -/
theorem keepWhere_eq_ok {α : Type} {test : α → Except Fault Bool} {as kept : List α} :
    keepWhere test as = .ok kept ↔
      (∀ a ∈ as, ∃ b, test a = .ok b) ∧ kept = as.filter fun a => gives (test a) true := by
  induction as generalizing kept with
  | nil => simp [keepWhere, eq_comm]
  | cons a as ih =>
    rw [keepWhere, bind_eq_ok]
    constructor
    · rintro ⟨b, hb, h⟩
      obtain ⟨ks, hks, h⟩ := bind_eq_ok.mp h
      obtain ⟨hall, hkept⟩ := ih.mp hks
      refine ⟨List.forall_mem_cons.mpr ⟨⟨b, hb⟩, hall⟩, ?_⟩
      rw [← pure_eq_ok.mp h, hkept]
      cases b <;> simp [gives, hb]
    · rintro ⟨hall, rfl⟩
      obtain ⟨⟨b, hb⟩, hall⟩ := List.forall_mem_cons.mp hall
      refine ⟨b, hb, bind_eq_ok.mpr ⟨_, ih.mpr ⟨hall, rfl⟩, ?_⟩⟩
      cases b <;> simp [gives, hb]

end Facets
