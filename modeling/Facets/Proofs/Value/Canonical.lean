import Facets.Field.Coerce
import Facets.Proofs.Agreement
import Facets.Proofs.Group.Members
import Facets.Proofs.Number.Exact

/-
Group keys of data are canonical.

Two values of plain data have the same key exactly when both are empty or they match:
booleans match booleans only, numbers match by value, a list matches a tuple, and
mappings match key by key (`Value.groupKey_equal_iff_matches`).  Keys of mappings are
sorted by name, so that the order in which a mapping was filled is lost and nothing
else is (`forall₂_sortEntries_iff`).
-/
namespace Facets

open Outcome

namespace Value

/-- A mapping with texts as keys. -/
abbrev ofTexts (entries : List (String × Value)) : Value :=
  .dict (entries.map fun p => (.text p.1, p.2))

/-- Plain data.  The keys of a mapping are different texts. -/
inductive IsData : Value → Prop
  | null : IsData .null
  | text (s : String) : IsData (.text s)
  | flag (b : Bool) : IsData (.bool b)
  | integer (n : Int) : IsData (.int n)
  | double (x : Number.FiniteDouble) : IsData (.float (.finite x))
  | list {items : List Value} (h : ∀ v ∈ items, IsData v) : IsData (.list items)
  | tuple {items : List Value} (h : ∀ v ∈ items, IsData v) : IsData (.tuple items)
  | mapping {entries : List (String × Value)} (hkeys : (entries.map Prod.fst).Nodup)
    (h : ∀ p ∈ entries, IsData p.2) : IsData (ofTexts entries)

/-- Data of one content.  The form of numbers and of sequences and the order of the
entries of mappings make no difference. -/
inductive Matches : Value → Value → Prop
  | null : Matches .null .null
  | text (s : String) : Matches (.text s) (.text s)
  | flag (b : Bool) : Matches (.bool b) (.bool b)
  | number {v w : Value} {m n : Number} (hv : v.finite? = some m) (hw : w.finite? = some n)
    (h : m.value = n.value) : Matches v w
  | sequence {v w : Value} {xs ys : List Value} (hv : v.items? = some xs) (hw : w.items? = some ys)
    (h : List.Forall₂ Matches xs ys) : Matches v w
  | mapping {ps qs : List (Value × Value)}
    (h : ∀ key, Option.Rel Matches (valueAt? key ps) (valueAt? key qs)) :
    Matches (.dict ps) (.dict qs)

/-! ## Sorted entries -/

section Entries

variable {ps qs : List (String × Value)} {R : Value → Value → Prop}

theorem sortEntries_perm (ps : List (String × Value)) : (sortEntries ps).Perm ps :=
  List.mergeSort_perm ps _

theorem nodup_sortEntries (h : (ps.map Prod.fst).Nodup) : ((sortEntries ps).map Prod.fst).Nodup :=
  ((sortEntries_perm ps).map Prod.fst).nodup_iff.mpr h

theorem sorted_sortEntries (ps : List (String × Value)) :
    ((sortEntries ps).map Prod.fst).Pairwise (· ≤ ·) := by
  have hsorted : (ps.mergeSort fun p q => decide (p.1 ≤ q.1)).Pairwise
      fun p q => decide (p.1 ≤ q.1) = true := by
    refine List.pairwise_mergeSort (fun p q r hpq hqr => ?_) (fun p q => ?_) ps
    · rw [decide_eq_true_eq] at hpq hqr ⊢
      exact String.le_trans hpq hqr
    · rw [Bool.or_eq_true, decide_eq_true_eq, decide_eq_true_eq]
      exact String.le_total p.1 q.1
  exact List.pairwise_map.mpr (hsorted.imp of_decide_eq_true)

theorem sortEntries_keys_eq (hps : (ps.map Prod.fst).Nodup) (hqs : (qs.map Prod.fst).Nodup)
    (h : ∀ key, key ∈ ps.map Prod.fst ↔ key ∈ qs.map Prod.fst) :
    (sortEntries ps).map Prod.fst = (sortEntries qs).map Prod.fst := by
  have hperm : (ps.map Prod.fst).Perm (qs.map Prod.fst) :=
    (List.perm_ext_iff_of_nodup hps hqs).mpr h
  refine List.Perm.eq_of_pairwise (fun s t _ _ hst hts => String.le_antisymm hst hts)
    (sorted_sortEntries ps) (sorted_sortEntries qs) ?_
  exact ((sortEntries_perm ps).map Prod.fst).trans
    (hperm.trans ((sortEntries_perm qs).map Prod.fst).symm)

/-- Sorted entries are related place by place when looking up relates them. -/
theorem forall₂_sortEntries_iff (hps : (ps.map Prod.fst).Nodup) (hqs : (qs.map Prod.fst).Nodup) :
    List.Forall₂ (Labelled R) (sortEntries ps) (sortEntries qs) ↔
      ∀ key, Option.Rel R (Assoc.find? (· == ·) key ps) (Assoc.find? (· == ·) key qs) := by
  have hfind : ∀ {es : List (String × Value)}, (es.map Prod.fst).Nodup → ∀ key,
      Assoc.find? (· == ·) key (sortEntries es) = Assoc.find? (· == ·) key es :=
    fun hes _ => Assoc.find?_perm hes (sortEntries_perm _)
  constructor
  · intro h key
    rw [← hfind hps, ← hfind hqs]
    exact rel_find? h key
  · intro h
    refine forall₂_of_rel_find? (sortEntries_keys_eq hps hqs fun key => ?_)
      (nodup_sortEntries hps) fun key => ?_
    · rw [← Assoc.find?_isSome_iff, ← Assoc.find?_isSome_iff]
      exact isSome_iff_of_rel (h key)
    · rw [hfind hps, hfind hqs]
      exact h key

end Entries

/-! ## Keys, form by form -/

section Keys

variable {v k : Value}

/-- The keys of a mapping with texts as keys. -/
theorem keyEntries_texts_eq_mapM (entries : List (String × Value)) :
    keyEntries (entries.map fun p => (.text p.1, p.2)) =
      entries.mapM (fun p => p.2.keyPart >>= fun part => pure (p.1, part)) := by
  rw [keyEntries_eq_mapM, List.mapM_map]
  rfl

theorem keyParts_eq_ok {items keys : List Value} :
    keyParts items = .ok keys ↔ List.Forall₂ (fun v k => v.keyPart = .ok k) items keys := by
  rw [keyParts_eq_mapM, mapM_eq_ok]

theorem keyEntries_eq_ok {entries keys : List (String × Value)} :
    keyEntries (entries.map fun p => (.text p.1, p.2)) = .ok keys ↔
      List.Forall₂ (Labelled fun v k => v.keyPart = .ok k) entries keys := by
  rw [keyEntries_texts_eq_mapM, mapM_eq_ok]
  constructor
  · intro h
    refine h.imp fun p q hpq => ?_
    obtain ⟨part, hpart, hq⟩ := bind_eq_ok.mp hpq
    obtain rfl := pure_eq_ok.mp hq
    exact ⟨rfl, hpart⟩
  · intro h
    refine h.imp fun p q hpq => bind_eq_ok.mpr ⟨q.2, hpq.value, ?_⟩
    rw [hpq.key]
    rfl

/-- Data has a key, since texts can always be written. -/
theorem IsData.canKey (hv : v.IsData) : v.canKey = true := by
  induction hv with
  | null | text _ | flag _ | integer _ | double _ => rfl
  | list _ ih | tuple _ ih => exact itemsCanKey_iff.mpr ih
  | @mapping entries _ _ ih =>
    refine entriesCanKey_iff.mpr fun p hp => ?_
    obtain ⟨q, hq, rfl⟩ := List.mem_map.mp hp
    exact ⟨rfl, ih q hq⟩

/-- The key of data, form by form. -/
inductive KeyOf : Value → Value → Prop
  | null : KeyOf .null .null
  | text (s : String) : KeyOf (.text s) (.text s)
  | flag (b : Bool) : KeyOf (.bool b) (.boolKey b)
  | number {v : Value} {n : Number} (hv : v.finite? = some n) : KeyOf v v
  | sequence {v : Value} {items keys : List Value} (hv : v.items? = some items)
    (h : List.Forall₂ (fun v k => v.keyPart = .ok k) items keys) : KeyOf v (.tuple keys)
  | mapping {entries keys : List (String × Value)} (hkeys : (entries.map Prod.fst).Nodup)
    (h : List.Forall₂ (Labelled fun v k => v.keyPart = .ok k) entries keys) :
    KeyOf (ofTexts entries) (.mappingKey (sortEntries keys))

theorem IsData.keyOf (hv : v.IsData) (hk : v.keyPart = .ok k) : KeyOf v k := by
  cases hv with
  | null =>
    obtain rfl := Except.ok.inj hk
    exact .null
  | text s =>
    obtain rfl := Except.ok.inj hk
    exact .text s
  | flag b =>
    obtain rfl := Except.ok.inj hk
    exact .flag b
  | integer n =>
    obtain rfl := Except.ok.inj hk
    exact .number rfl
  | double x =>
    obtain rfl := Except.ok.inj hk
    exact .number rfl
  | list _ | tuple _ =>
    rw [keyPart] at hk
    obtain ⟨keys, hkeys, hk⟩ := bind_eq_ok.mp hk
    obtain rfl := pure_eq_ok.mp hk
    exact .sequence rfl (keyParts_eq_ok.mp hkeys)
  | mapping hdistinct _ =>
    rw [keyPart] at hk
    obtain ⟨keys, hkeys, hk⟩ := bind_eq_ok.mp hk
    obtain rfl := pure_eq_ok.mp hk
    exact .mapping hdistinct (keyEntries_eq_ok.mp hkeys)

end Keys

/-! ## Canonical keys -/

theorem amount?_of_finite? {v : Value} {n : Number} (h : v.finite? = some n) :
    v.amount? = some (.ofNumber n) := by
  cases v with
  | int m =>
    rw [← Option.some.inj h]
    rfl
  | float x =>
    cases x with
    | finite x =>
      rw [← Option.some.inj h]
      rfl
    | _ => cases h
  | _ => cases h

/-- Numbers of any form are one exactly when they have one value. -/
theorem same_ofNumber {m n : Number} :
    (Amount.ofNumber m).same (.ofNumber n) = true ↔ m.value = n.value :=
  Amount.same_ofNumber.trans Number.value_inj.symm

section Parts

variable {α β : Type} {P : α → β → Prop} {R : α → α → Prop} {S : β → β → Prop} {xs ys : List α}
  {ks ls : List β}

/-- Lists are related when their images are, if this holds item by item. -/
theorem forall₂_iff_of_images (hx : List.Forall₂ P xs ks) (hy : List.Forall₂ P ys ls)
    (h : ∀ x ∈ xs, ∀ y ∈ ys, ∀ k l, P x k → P y l → (S k l ↔ R x y)) :
    List.Forall₂ S ks ls ↔ List.Forall₂ R xs ys := by
  induction hx generalizing ys ls with
  | nil =>
    cases hy with
    | nil => exact iff_of_true .nil .nil
    | cons _ _ => exact iff_of_false (fun h => by cases h) fun h => by cases h
  | @cons x k xs ks hxk _ ih =>
    cases hy with
    | nil => exact iff_of_false (fun h => by cases h) fun h => by cases h
    | @cons y l ys ls hyl hys =>
      obtain ⟨hhead, htail⟩ := List.forall_mem_cons.mp h
      have hrest := ih hys fun x' hx' y' hy' => htail x' hx' y' (List.mem_cons_of_mem _ hy')
      rw [List.forall₂_cons, List.forall₂_cons, hrest, hhead y List.mem_cons_self k l hxk hyl]

end Parts

variable {a b k l : Value}

theorem parts_of_items? {xs : List Value} (h : a.items? = some xs) : a.parts = xs := by
  cases a <;> simp_all [items?, parts]

theorem IsData.of_mem_parts {v w : Value} (hv : v.IsData) (hw : w ∈ v.parts) : w.IsData := by
  cases hv with
  | list hall | tuple hall => exact hall w hw
  | mapping _ hall =>
    obtain ⟨p, hp, hw⟩ := List.mem_flatMap.mp hw
    obtain ⟨q, hq, rfl⟩ := List.mem_map.mp hp
    rcases List.mem_pair.mp hw with rfl | rfl
    · exact .text q.1
    · exact hall q hq
  | _ => cases hw

theorem mem_parts_of_mem_texts {entries : List (String × Value)} {p : String × Value}
    (h : p ∈ entries) : p.2 ∈ (ofTexts entries).parts :=
  (mem_parts_of_mem_entries (List.mem_map_of_mem h)).2

/-- The keys of two values are one exactly when the values match. -/
def IsCanonicalFor (a b : Value) : Prop :=
  ∀ k l, a.keyPart = .ok k → b.keyPart = .ok l → (k.same l = true ↔ a.Matches b)

theorem same_items_iff {xs ys ks ls : List Value}
    (hk : List.Forall₂ (fun v k => v.keyPart = .ok k) xs ks)
    (hl : List.Forall₂ (fun v k => v.keyPart = .ok k) ys ls)
    (hparts : ∀ x ∈ xs, ∀ y ∈ ys, x.IsCanonicalFor y) :
    List.Forall₂ (fun k l => k.same l = true) ks ls ↔ List.Forall₂ Matches xs ys :=
  forall₂_iff_of_images hk hl fun x hx y hy => hparts x hx y hy

theorem same_entries_iff {ps qs ks ls : List (String × Value)}
    (hps : (ps.map Prod.fst).Nodup) (hqs : (qs.map Prod.fst).Nodup)
    (hk : List.Forall₂ (Labelled fun v k => v.keyPart = .ok k) ps ks)
    (hl : List.Forall₂ (Labelled fun v k => v.keyPart = .ok k) qs ls)
    (hparts : ∀ p ∈ ps, ∀ q ∈ qs, p.2.IsCanonicalFor q.2) :
    List.Forall₂ (fun p q => p.1 = q.1 ∧ p.2.same q.2 = true) (sortEntries ks) (sortEntries ls) ↔
      ∀ key, Option.Rel Matches (valueAt? key (ps.map fun p => (.text p.1, p.2)))
        (valueAt? key (qs.map fun p => (.text p.1, p.2))) := by
  have hsort : ∀ {es fs : List (String × Value)},
      List.Forall₂ (Labelled fun v k => v.keyPart = .ok k) es fs →
      List.Forall₂ (Labelled fun v k => v.keyPart = .ok k) (sortEntries es) (sortEntries fs) :=
    fun h => forall₂_mergeSort h fun hp hq => by rw [hp.key, hq.key]
  simp only [valueAt?_map_text]
  rw [← forall₂_sortEntries_iff hps hqs]
  refine forall₂_iff_of_images (hsort hk) (hsort hl) ?_
  intro p hp q hq k l hpk hql
  have hcanonical := hparts p (List.mem_mergeSort.mp hp) q (List.mem_mergeSort.mp hq)
  have hiff := hcanonical _ _ hpk.value hql.value
  rw [← hpk.key, ← hql.key, hiff]
  exact ⟨fun h => ⟨h.1, h.2⟩, fun h => ⟨h.key, h.value⟩⟩

/-- Values whose keys are one match, if this holds of their parts. -/
theorem matches_of_same (hk : KeyOf a k) (hl : KeyOf b l) (h : k.same l = true)
    (hparts : ∀ x ∈ a.parts, ∀ y ∈ b.parts, x.IsCanonicalFor y) : a.Matches b := by
  cases hk with
  | null =>
    obtain rfl := eq_null_of_same (same_symm h)
    cases hl with
    | null => exact .null
    | number hw => cases hw
  | text s =>
    cases alike_of_same h with
    | text _ =>
      cases hl with
      | text _ => exact .text s
      | number hw => cases hw
    | amount hv _ _ | members hv _ _ => cases hv
  | flag t =>
    cases alike_of_same h with
    | boolKey _ =>
      cases hl with
      | flag _ => exact .flag t
      | number hw => cases hw
    | amount hv _ _ | members hv _ _ => cases hv
  | number hv =>
    obtain ⟨c, hc, hsame⟩ := exists_amount_of_same (amount?_of_finite? hv) h
    cases hl with
    | number hw =>
      have hcount := (amount?_of_finite? hw).symm.trans hc
      obtain rfl := Option.some.inj hcount
      exact .number hv hw (same_ofNumber.mp hsame)
    | _ => cases hc
  | sequence hv hks =>
    cases alike_of_same h with
    | tuple hsame =>
      cases hl with
      | sequence hw hls =>
        rw [parts_of_items? hv, parts_of_items? hw] at hparts
        exact .sequence hv hw ((same_items_iff hks hls hparts).mp hsame)
      | number hw => cases hw
    | amount hv _ _ | members hv _ _ => cases hv
  | mapping hps hks =>
    cases alike_of_same h with
    | named hsame =>
      generalize hl' : Value.mappingKey _ = l' at hl
      cases hl with
      | mapping hqs hls =>
        obtain rfl := Value.mappingKey.inj hl'
        refine .mapping ((same_entries_iff hps hqs hks hls fun p hp q hq => ?_).mp hsame)
        exact hparts _ (mem_parts_of_mem_texts hp) _ (mem_parts_of_mem_texts hq)
      | number hw =>
        subst hl'
        cases hw
      | _ => cases hl'
    | amount hv _ _ | members hv _ _ => cases hv

theorem same_of_matches (hk : KeyOf a k) (hl : KeyOf b l) (h : a.Matches b)
    (hparts : ∀ x ∈ a.parts, ∀ y ∈ b.parts, x.IsCanonicalFor y) : k.same l = true := by
  cases h with
  | null | text _ | flag _ =>
    cases hk with
    | number hv => cases hv
    | sequence hv _ => cases hv
    | _ =>
      cases hl with
      | number hw => cases hw
      | sequence hw _ => cases hw
      | _ => exact same_refl _
  | number hv hw hvalue =>
    have hkey : ∀ {v n k}, KeyOf v k → v.finite? = some n → v = k := by
      intro v n k hk hv
      cases hk with
      | number _ => rfl
      | sequence hitems _ => cases v <;> simp_all [items?, finite?]
      | _ => cases hv
    rw [← hkey hk hv, ← hkey hl hw]
    exact same_of_alike (.amount (amount?_of_finite? hv) (amount?_of_finite? hw)
      (same_ofNumber.mpr hvalue))
  | sequence hv hw hitems =>
    have hkey : ∀ {v k xs}, KeyOf v k → v.items? = some xs →
        ∃ ks, List.Forall₂ (fun v k => v.keyPart = .ok k) xs ks ∧ k = .tuple ks := by
      intro v k xs hk hv
      cases hk with
      | sequence hv' hks =>
        obtain rfl := Option.some.inj (hv'.symm.trans hv)
        exact ⟨_, hks, rfl⟩
      | number hn => cases v <;> simp_all [items?, finite?]
      | _ => cases hv
    obtain ⟨ks, hks, rfl⟩ := hkey hk hv
    obtain ⟨ls, hls, rfl⟩ := hkey hl hw
    rw [parts_of_items? hv, parts_of_items? hw] at hparts
    exact same_of_alike (.tuple ((same_items_iff hks hls hparts).mpr hitems))
  | mapping hentries =>
    cases hk with
    | mapping hps hks =>
      generalize hdict : Value.dict _ = b at hl
      cases hl with
      | mapping hqs hls =>
        obtain rfl := Value.dict.inj hdict
        refine same_of_alike (.named ((same_entries_iff hps hqs hks hls ?_).mpr hentries))
        intro p hp q hq
        exact hparts _ (mem_parts_of_mem_texts hp) _ (mem_parts_of_mem_texts hq)
      | number hw | sequence hw _ =>
        subst hdict
        cases hw
      | _ => cases hdict
    | number hv | sequence hv _ => cases hv

/-- The keys of data are one exactly when the data matches. -/
theorem IsData.isCanonicalFor (ha : a.IsData) (hb : b.IsData) : a.IsCanonicalFor b := by
  induction a using induction_parts generalizing b with
  | h a ih =>
    intro k l hk hl
    have hparts : ∀ x ∈ a.parts, ∀ y ∈ b.parts, x.IsCanonicalFor y := fun x hx y hy =>
      ih x hx (ha.of_mem_parts hx) (hb.of_mem_parts hy)
    constructor
    · intro h
      exact matches_of_same (ha.keyOf hk) (hb.keyOf hl) h hparts
    · intro h
      exact same_of_matches (ha.keyOf hk) (hb.keyOf hl) h hparts

theorem Matches.isEmpty_eq (h : a.Matches b) (ha : a.IsData) (hb : b.IsData) :
    a.isEmpty = b.isEmpty := by
  have hnumber : ∀ {v n}, finite? v = some n → v.isEmpty = false := by
    intro v n hv
    cases v with
    | int _ | float _ => rfl
    | _ => cases hv
  have hitems : ∀ {v xs}, items? v = some xs → v.isEmpty = xs.isEmpty := by
    intro v xs hv
    cases v with
    | list _ | tuple _ => rw [← Option.some.inj hv]; rfl
    | _ => cases hv
  cases h with
  | null | text _ | flag _ => rfl
  | number hv hw _ => rw [hnumber hv, hnumber hw]
  | sequence hv hw h =>
    rw [hitems hv, hitems hw]
    cases h with
    | nil => rfl
    | cons _ _ => rfl
  | mapping h =>
    cases ha with
    | @mapping ps hps _ =>
      cases hb with
      | @mapping qs hqs _ =>
        simp only [valueAt?_map_text] at h
        have hsorted := ((forall₂_sortEntries_iff hps hqs).mpr h).length_eq
        rw [(sortEntries_perm ps).length_eq, (sortEntries_perm qs).length_eq] at hsorted
        rw [isEmpty, isEmpty, List.isEmpty_map, List.isEmpty_map, Bool.eq_iff_iff,
          List.isEmpty_iff_length_eq_zero, List.isEmpty_iff_length_eq_zero, hsorted]

theorem IsData.isNaN_eq_false (ha : a.IsData) : a.isNaN = false := by
  cases ha <;> rfl

theorem IsData.exists_groupKey (ha : a.IsData) : ∃ k, a.groupKey = .ok k :=
  exists_groupKey_iff.mpr ha.canKey

theorem keyPart_of_groupKey (h : a.groupKey = .ok k) (hempty : a.isEmpty = false) :
    a.keyPart = .ok k := by
  rwa [groupKey, hempty, if_neg Bool.false_ne_true] at h

/-- Group keys are canonical: two values of plain data have the same key exactly when
both are empty or they match. -/
theorem groupKey_equal_iff_matches (ha : a.IsData) (hb : b.IsData) :
    ∃ k l, a.groupKey = .ok k ∧ b.groupKey = .ok l ∧
      (k.equal l = true ↔ (a.isEmpty = true ∧ b.isEmpty = true) ∨ a.Matches b) := by
  obtain ⟨k, hk⟩ := ha.exists_groupKey
  obtain ⟨l, hl⟩ := hb.exists_groupKey
  refine ⟨k, l, hk, hl, ?_⟩
  rw [equal, isNaN_of_groupKey hk ha.isNaN_eq_false, Bool.not_false, Bool.true_and]
  have hnull : ∀ {v j : Value}, v.groupKey = .ok j → (j.same .null = true ↔ v.isEmpty = true) := by
    intro v j hj
    rw [← groupKey_eq_null, hj, Except.ok.injEq]
    constructor
    · intro h
      exact eq_null_of_same h
    · rintro rfl
      exact same_refl _
  have hempty : a.Matches b → a.isEmpty = b.isEmpty := fun h => h.isEmpty_eq ha hb
  cases hae : a.isEmpty with
  | true =>
    obtain rfl := Except.ok.inj (hk.symm.trans (groupKey_eq_null.mpr hae))
    rw [same_comm, hnull hl]
    constructor
    · intro hbe
      exact .inl ⟨rfl, hbe⟩
    · rintro (⟨-, hbe⟩ | hmatch)
      · exact hbe
      · rw [← hempty hmatch, hae]
  | false =>
    cases hbe : b.isEmpty with
    | true =>
      obtain rfl := Except.ok.inj (hl.symm.trans (groupKey_eq_null.mpr hbe))
      rw [hnull hk, hae]
      constructor
      · intro h
        cases h
      · rintro (⟨h, -⟩ | hmatch)
        · exact h
        · rw [← hae, hempty hmatch, hbe]
    | false =>
      rw [ha.isCanonicalFor hb k l (keyPart_of_groupKey hk hae) (keyPart_of_groupKey hl hbe)]
      constructor
      · intro hmatch
        exact .inr hmatch
      · rintro (⟨h, -⟩ | hmatch)
        · cases h
        · exact hmatch

end Value

namespace Sample

def minusZero : Number.FiniteDouble := ⟨true, 0, by decide +kernel⟩

def one : Number.FiniteDouble := ⟨false, Number.unitsInOne, by decide +kernel⟩

def inventory : List (String × Value) :=
  [("boxes", .list [.int 0, .int 1, .bool true, .null]), ("room", .text "")]

/-- The same content, filled in another order and counted in doubles. -/
def recount : List (String × Value) :=
  [("room", .text ""),
    ("boxes", .tuple [.float (.finite minusZero), .float (.finite one), .bool true, .null])]

theorem isData_inventory : (Value.ofTexts inventory).IsData := by
  refine .mapping (by decide) ?_
  rw [inventory, List.forall_mem_cons, List.forall_mem_singleton]
  refine ⟨.list ?_, .text ""⟩
  simp only [List.forall_mem_cons]
  exact ⟨.integer 0, .integer 1, .flag true, .null, List.forall_mem_nil _⟩

theorem isData_recount : (Value.ofTexts recount).IsData := by
  refine .mapping (by decide) ?_
  rw [recount, List.forall_mem_cons, List.forall_mem_singleton]
  refine ⟨.text "", .tuple ?_⟩
  simp only [List.forall_mem_cons]
  exact ⟨.double minusZero, .double one, .flag true, .null, List.forall_mem_nil _⟩

theorem matches_recount : Value.Matches (.ofTexts inventory) (.ofTexts recount) := by
  have hzero : (Number.int 0).value = (Number.float minusZero).value :=
    Number.value_inj.mpr (by decide +kernel)
  have hone : (Number.int 1).value = (Number.float one).value :=
    Number.value_inj.mpr (by decide +kernel)
  refine .mapping fun key => ?_
  rw [Value.valueAt?_map_text, Value.valueAt?_map_text]
  by_cases hroom : "room" = key
  · subst hroom
    exact .some (.text "")
  · by_cases hboxes : "boxes" = key
    · subst hboxes
      refine .some (.sequence rfl rfl ?_)
      exact .cons (.number rfl rfl hzero) (.cons (.number rfl rfl hone)
        (.cons (.flag true) (.cons .null .nil)))
    · simp [inventory, recount, Assoc.find?, hroom, hboxes]

end Sample

namespace Value

open Sample in
theorem groupKey_equal_iff_matches_recount :
    ∃ k l, groupKey (.ofTexts inventory) = .ok k ∧ groupKey (.ofTexts recount) = .ok l ∧
      k.equal l = true := by
  obtain ⟨k, l, hk, hl, hiff⟩ := groupKey_equal_iff_matches isData_inventory isData_recount
  exact ⟨k, l, hk, hl, hiff.mpr (.inr matches_recount)⟩

end Value
end Facets
