import Facets.Proofs.Outcome
import Facets.Proofs.Value.Same
import Facets.Value.Key

/-
Values that have a text.

Only integers can lack a text, by having more digits than are written.  A value
whose integers, however deep inside it, can all be written has a text and a group
key (`exists_quoted_iff`, `exists_keyPart`), and its group key has a text again.
For a group key alone the keys of the objects inside have to be written
(`exists_groupKey_iff`).
-/
namespace Facets

open Outcome

namespace Value

/-! ## The leaves of a value -/

mutual

/-- Every value without parts inside a value passes a test. -/
def everyLeaf (p : Value → Bool) : Value → Bool
  | .list items | .tuple items | .set items | .frozenSet items => everyItem p items
  | .dict entries => everyEntry p entries
  | .mappingKey entries => everyNamed p entries
  | v => p v

def everyItem (p : Value → Bool) : List Value → Bool
  | [] => true
  | v :: vs => everyLeaf p v && everyItem p vs

def everyEntry (p : Value → Bool) : List (Value × Value) → Bool
  | [] => true
  | (k, v) :: ps => everyLeaf p k && everyLeaf p v && everyEntry p ps

def everyNamed (p : Value → Bool) : List (String × Value) → Bool
  | [] => true
  | (_, v) :: ps => everyLeaf p v && everyNamed p ps

end

section Leaves

variable {p : Value → Bool}

theorem everyItem_iff {items : List Value} :
    everyItem p items = true ↔ ∀ v ∈ items, v.everyLeaf p = true := by
  induction items with
  | nil => simp [everyItem]
  | cons v vs ih => simp [everyItem, ih]

theorem everyEntry_iff {entries : List (Value × Value)} :
    everyEntry p entries = true ↔
      ∀ q ∈ entries, q.1.everyLeaf p = true ∧ q.2.everyLeaf p = true := by
  induction entries with
  | nil => simp [everyEntry]
  | cons q qs ih => simp [everyEntry, ih]

theorem everyNamed_iff {entries : List (String × Value)} :
    everyNamed p entries = true ↔ ∀ q ∈ entries, q.2.everyLeaf p = true := by
  induction entries with
  | nil => simp [everyNamed]
  | cons q qs ih => simp [everyNamed, ih]

end Leaves

/-! ## Values with a text -/

/-- An integer whose digits are within the limit. -/
def isShort (n : Int) : Bool := n.natAbs < Nat.pow 10 Fault.digitLimit

def isShortAmount : Amount → Bool
  | .int n => isShort n
  | .float _ => true

/-- A leaf that can be written. -/
def isShortLeaf : Value → Bool
  | .int n => isShort n
  | .range r => r.min.all isShortAmount && r.max.all isShortAmount
  | _ => true

/-- All integers in the value can be written. -/
def Writable (v : Value) : Prop := v.everyLeaf isShortLeaf = true

instance (v : Value) : Decidable v.Writable := inferInstanceAs (Decidable (_ = true))

variable {v : Value}

theorem integerText_eq_ok {n : Int} (h : isShort n = true) :
    Number.integerText n = .ok (String.ofList (Number.integerChars n)) :=
  if_pos (decide_eq_true_eq.mp h)

theorem isShort_of_integerText {n : Int} {text : String} (h : Number.integerText n = .ok text) :
    isShort n = true := by
  rw [Number.integerText] at h
  split at h
  · exact decide_eq_true ‹_›
  · cases h

theorem exists_integerText_iff {n : Int} :
    (∃ text, Number.integerText n = .ok text) ↔ isShort n = true := by
  constructor
  · rintro ⟨text, h⟩
    exact isShort_of_integerText h
  · intro h
    exact ⟨_, integerText_eq_ok h⟩

theorem exists_amountText_iff {a : Amount} :
    (∃ text, a.text = .ok text) ↔ isShortAmount a = true := by
  cases a with
  | int n => exact exists_integerText_iff
  | float x => exact iff_of_true ⟨_, rfl⟩ rfl

theorem exists_boundText_iff {a : Option Amount} :
    (∃ text, Range.boundText a = .ok text) ↔ a.all isShortAmount = true := by
  cases a with
  | none => exact iff_of_true ⟨_, rfl⟩ rfl
  | some a => exact exists_amountText_iff

theorem exists_rangeText_iff {r : Range} {separator : String} :
    (∃ text, r.text separator = .ok text) ↔ (Value.range r).Writable := by
  rw [Range.text, exists_bind_ok_iff]
  simp only [exists_bind_pure_iff, exists_and_right, exists_boundText_iff]
  exact Bool.and_eq_true_iff.symm

/-- The values that have a notation are those that can be written. -/
theorem exists_quoted_iff : (∃ text, v.quoted = .ok text) ↔ v.Writable := by
  induction v using induction_parts with
  | h v ih =>
    cases v with
    | null | bool _ | float _ | text _ | dateTime _ _ | date _ | bytes _ | boolKey _ =>
      exact iff_of_true ⟨_, rfl⟩ rfl
    | int n =>
      simp only [quoted, Writable, everyLeaf, isShortLeaf]
      exact exists_integerText_iff
    | range r =>
      rw [quoted, exists_bind_pure_iff]
      exact exists_rangeText_iff
    | list items | tuple items | set items | frozenSet items =>
      rw [quoted, exists_bind_pure_iff, quotedItems_eq_mapM, exists_mapM_ok_iff, Writable,
        everyLeaf, everyItem_iff]
      exact forall₂_congr ih
    | dict entries =>
      rw [quoted, exists_bind_pure_iff, quotedEntries_eq_mapM, exists_mapM_ok_iff, Writable,
        everyLeaf, everyEntry_iff]
      refine forall₂_congr fun p hp => ?_
      obtain ⟨hk, hv⟩ := mem_parts_of_mem_entries hp
      rw [exists_bind_ok_iff]
      simp only [exists_bind_pure_iff, exists_and_right, ih p.1 hk, ih p.2 hv]
      rfl
    | mappingKey entries =>
      rw [quoted, exists_bind_pure_iff, quotedNamed_eq_mapM, exists_mapM_ok_iff, Writable,
        everyLeaf, everyNamed_iff]
      refine forall₂_congr fun p hp => ?_
      rw [exists_bind_pure_iff]
      exact ih p.2 (mem_parts_of_mem_named hp)

theorem exists_display_iff : (∃ text, v.display = .ok text) ↔ v.Writable := by
  cases v with
  | text _ | dateTime _ _ | date _ => exact iff_of_true ⟨_, rfl⟩ rfl
  | range r => exact exists_rangeText_iff
  | _ => exact exists_quoted_iff

theorem exists_display (h : v.Writable) : ∃ text, v.display = .ok text :=
  exists_display_iff.mpr h

theorem everyLeaf_of_isEmpty {p : Value → Bool} (hnull : p .null = true)
    (htext : p (.text "") = true) (h : v.isEmpty = true) : v.everyLeaf p = true := by
  cases v with
  | null => exact hnull
  | text s =>
    obtain rfl : s = "" := beq_iff_eq.mp h
    exact htext
  | list items | tuple items | set items | frozenSet items =>
    have hitems : items = [] := by simpa [isEmpty] using h
    rw [hitems]
    rfl
  | dict entries =>
    have hentries : entries = [] := by simpa [isEmpty] using h
    rw [hentries]
    rfl
  | _ => cases h

theorem writable_of_isEmpty (h : v.isEmpty = true) : v.Writable :=
  everyLeaf_of_isEmpty rfl rfl h

/-! ## Integers that are one with a value -/

/-- An integer within the finite doubles can be written. -/
theorem isShort_of_lt {n : Int} (h : n.natAbs < 2 * Number.safe) : isShort n = true := by
  have hlimit : 2 * Number.safe ≤ Nat.pow 10 Fault.digitLimit := by decide +kernel
  exact decide_eq_true (Nat.lt_of_lt_of_le h hlimit)

/-- An integer that is one with a finite double lies within the finite doubles. -/
theorem natAbs_lt_of_scaled {n : Int} {x : Number.FiniteDouble}
    (h : n * Number.unitsInOne = x.scaled) : n.natAbs < 2 * Number.safe := by
  have hunits : n.natAbs * Number.unitsInOne = x.units := by
    have habs := congrArg Int.natAbs h
    rw [Int.natAbs_mul, Int.natAbs_natCast] at habs
    rw [habs, Number.FiniteDouble.scaled]
    split <;> simp
  have hbeyond := x.onGrid.1
  rw [← hunits, Number.scales.1, ← Nat.mul_assoc] at hbeyond
  exact Nat.lt_of_mul_lt_mul_right hbeyond

/-- An integer can be written if a value that is one with it can. -/
theorem isShort_of_same {w : Value} {n : Int} {text : String} (h : w.same (.int n) = true)
    (htext : w.display = .ok text) : isShort n = true := by
  obtain ⟨a, ha, hsame⟩ := exists_amount_of_same (v := .int n) rfl (same_symm h)
  cases w with
  | bool b =>
    obtain rfl := Option.some.inj ha
    rw [Amount.same_int.mp hsame]
    cases b <;> exact isShort_of_lt (by decide +kernel)
  | int m =>
    obtain rfl := Option.some.inj ha
    rw [Amount.same_int.mp hsame]
    exact isShort_of_integerText htext
  | float x =>
    obtain rfl := Option.some.inj ha
    cases x with
    | finite x =>
      have hplace := Option.some.inj ((Amount.same_iff_place rfl).mp hsame)
      exact isShort_of_lt (natAbs_lt_of_scaled (Amount.Place.at.inj hplace).symm)
    | infinite b => cases b <;> cases hsame
    | nan n => cases hsame
  | _ => cases ha

/-! ## Group keys -/

/-- The group key of what can be written can be written. -/
theorem exists_keyPart (h : v.Writable) : ∃ key, v.keyPart = .ok key ∧ key.Writable := by
  induction v using induction_parts with
  | h v ih =>
    have hall : ∀ items : List Value, v.parts = items → (∀ x ∈ items, x.Writable) →
        ∃ parts, keyParts items = .ok parts ∧ ∀ part ∈ parts, part.Writable := by
      rintro items rfl hitems
      rw [keyParts_eq_mapM]
      exact exists_mapM_ok_forall fun x hx => ih x hx (hitems x hx)
    cases v with
    | bool _ | null | float _ | text _ | dateTime _ _ | date _ | boolKey _ | bytes _ =>
      exact ⟨_, rfl, rfl⟩
    | int n => exact ⟨.int n, rfl, h⟩
    | list items | tuple items =>
      obtain ⟨parts, hparts, hwritable⟩ := hall items rfl (everyItem_iff.mp h)
      exact ⟨.tuple parts, by rw [keyPart, hparts]; rfl, everyItem_iff.mpr hwritable⟩
    | set items | frozenSet items =>
      obtain ⟨parts, hparts, hwritable⟩ := hall items rfl (everyItem_iff.mp h)
      -- Items of a set may get the same key, which is kept once.
      refine ⟨.frozenSet (distinct parts), by rw [keyPart, hparts]; rfl, ?_⟩
      exact everyItem_iff.mpr fun w hw => hwritable w (distinct_subset parts hw)
    | dict entries =>
      have hentry : ∀ p ∈ entries, ∃ q : String × Value, (p.1.display >>= fun name =>
          p.2.keyPart >>= fun part => pure (name, part)) = .ok q ∧ q.2.Writable := by
        intro p hp
        obtain ⟨hk, hv⟩ := everyEntry_iff.mp h p hp
        obtain ⟨name, hname⟩ := exists_display hk
        obtain ⟨part, hpart, hwritable⟩ := ih p.2 (mem_parts_of_mem_entries hp).2 hv
        exact ⟨(name, part), by rw [hname, ok_bind, hpart]; rfl, hwritable⟩
      obtain ⟨parts, hparts, hwritable⟩ := exists_mapM_ok_forall hentry
      refine ⟨.mappingKey (sortEntries parts), by rw [keyPart, keyEntries_eq_mapM, hparts]; rfl, ?_⟩
      exact everyNamed_iff.mpr fun q hq => hwritable q (List.mem_mergeSort.mp hq)
    | mappingKey entries =>
      rw [keyPart]
      split
      · exact ⟨.mappingKey entries, rfl, h⟩
      · obtain ⟨written, hwritten⟩ := exists_quoted_iff.mpr h
        exact ⟨.text written, by rw [hwritten]; rfl, rfl⟩
    | range r =>
      obtain ⟨written, hwritten⟩ := exists_quoted_iff.mpr h
      exact ⟨.text written, by rw [keyPart, hwritten]; rfl, rfl⟩

theorem exists_groupKey (h : v.Writable) : ∃ key, v.groupKey = .ok key ∧ key.Writable := by
  unfold groupKey
  split
  · exact ⟨.null, rfl, rfl⟩
  · exact exists_keyPart h

mutual

/-- The keys of the objects inside a value, however deep, can be written, and so can what
has no group key but its notation. -/
def canKey : Value → Bool
  | .list items | .tuple items | .set items | .frozenSet items => itemsCanKey items
  | .dict entries => entriesCanKey entries
  | .mappingKey entries => isKey (.mappingKey entries) || everyNamed isShortLeaf entries
  | .range r => isShortLeaf (.range r)
  | _ => true

def itemsCanKey : List Value → Bool
  | [] => true
  | v :: vs => canKey v && itemsCanKey vs

def entriesCanKey : List (Value × Value) → Bool
  | [] => true
  | (k, v) :: ps => everyLeaf isShortLeaf k && canKey v && entriesCanKey ps

end

theorem itemsCanKey_iff {items : List Value} :
    itemsCanKey items = true ↔ ∀ v ∈ items, v.canKey = true := by
  induction items with
  | nil => simp [itemsCanKey]
  | cons v vs ih => simp [itemsCanKey, ih]

theorem entriesCanKey_iff {entries : List (Value × Value)} :
    entriesCanKey entries = true ↔ ∀ p ∈ entries, p.1.Writable ∧ p.2.canKey = true := by
  induction entries with
  | nil => simp [entriesCanKey]
  | cons p ps ih => simp [entriesCanKey, ih, Writable]

theorem exists_keyPart_iff : (∃ key, v.keyPart = .ok key) ↔ v.canKey = true := by
  induction v using induction_parts with
  | h v ih =>
    cases v with
    | null | bool _ | int _ | float _ | text _ | dateTime _ _ | date _ | bytes _ | boolKey _ =>
      exact iff_of_true ⟨_, rfl⟩ rfl
    | range r =>
      rw [keyPart, exists_bind_pure_iff, exists_quoted_iff]
      rfl
    | list items | tuple items | set items | frozenSet items =>
      rw [keyPart, exists_bind_pure_iff, keyParts_eq_mapM, exists_mapM_ok_iff, canKey,
        itemsCanKey_iff]
      exact forall₂_congr ih
    | dict entries =>
      rw [keyPart, exists_bind_pure_iff, keyEntries_eq_mapM, exists_mapM_ok_iff, canKey,
        entriesCanKey_iff]
      refine forall₂_congr fun p hp => ?_
      rw [exists_bind_ok_iff]
      simp only [exists_bind_pure_iff, exists_and_right, exists_display_iff,
        ih p.2 (mem_parts_of_mem_entries hp).2]
    | mappingKey entries =>
      rw [keyPart, canKey, Bool.or_eq_true]
      by_cases hkey : isKey (.mappingKey entries) = true
      · rw [if_pos hkey]
        exact iff_of_true ⟨_, rfl⟩ (.inl hkey)
      · rw [if_neg hkey, exists_bind_pure_iff, exists_quoted_iff]
        exact (or_iff_right hkey).symm

theorem canKey_of_isEmpty (h : v.isEmpty = true) : v.canKey = true := by
  cases v with
  | null | text _ => rfl
  | list items | tuple items | set items | frozenSet items =>
    obtain rfl := List.isEmpty_iff.mp h
    rfl
  | dict entries =>
    obtain rfl := List.isEmpty_iff.mp h
    rfl
  | _ => cases h

theorem canKey_iff_of_items {items : List Value} (h : v.items? = some items) :
    v.canKey = true ↔ ∀ item ∈ items, item.canKey = true := by
  cases v with
  | list items' | tuple items' =>
    obtain rfl := Option.some.inj h
    exact itemsCanKey_iff
  | _ => cases h

/-- The values that have a group key. -/
theorem exists_groupKey_iff : (∃ key, v.groupKey = .ok key) ↔ v.canKey = true := by
  unfold groupKey
  cases hempty : v.isEmpty with
  | false => exact exists_keyPart_iff
  | true => exact iff_of_true ⟨_, rfl⟩ (canKey_of_isEmpty hempty)

/-- The keys that have a text are those that can be written. -/
theorem exists_keyText_iff : (∃ text, v.keyText = .ok text) ↔ v.Writable := by
  induction v using induction_parts with
  | h v ih =>
    cases v with
    | null | boolKey _ | bool _ | float _ | text _ | dateTime _ _ | date _ | bytes _ =>
      exact iff_of_true ⟨_, rfl⟩ rfl
    | tuple items | frozenSet items =>
      rw [keyText, exists_bind_pure_iff, keyTexts_eq_mapM, exists_mapM_ok_iff, Writable,
        everyLeaf, everyItem_iff]
      exact forall₂_congr ih
    | mappingKey entries =>
      rw [keyText, exists_bind_pure_iff, keyTextEntries_eq_mapM, exists_mapM_ok_iff, Writable,
        everyLeaf, everyNamed_iff]
      refine forall₂_congr fun p hp => ?_
      rw [exists_bind_pure_iff]
      exact ih p.2 (mem_parts_of_mem_named hp)
    | int _ | list _ | set _ | dict _ | range _ =>
      rw [keyText]
      · exact exists_display_iff
      all_goals simp

theorem exists_keyText (h : v.Writable) : ∃ text, v.keyText = .ok text :=
  exists_keyText_iff.mpr h

theorem exists_groupLabel (h : v.Writable) : ∃ label, v.groupLabel = .ok label := by
  unfold groupLabel
  split
  · exact ⟨_, rfl⟩
  · exact exists_keyText h

end Value

namespace Sample

/-- The least integer that cannot be written. -/
def endless : Int := (Nat.pow 10 Fault.digitLimit : Nat)

theorem isShort_endless : Value.isShort endless = false := by decide +kernel

theorem not_writable_endless : ¬ (Value.int endless).Writable := by decide +kernel

/-- An object whose only key cannot be written. -/
def endlessObject : Value := .dict [(.int endless, .int 1)]

theorem canKey_endlessObject : endlessObject.canKey = false := by decide +kernel

end Sample
end Facets
