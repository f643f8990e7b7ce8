namespace Facets

/-
Entries in the order in which their keys were first met.  Which keys count as
one is the caller's: `same` compares a stored key with the key asked for.
-/
namespace Assoc

variable {κ α : Type}

def find? (same : κ → κ → Bool) (key : κ) : List (κ × α) → Option α
  | [] => none
  | (k, v) :: rest => if same k key then some v else find? same key rest

/-- Change the value stored for a key, which stays where it is; a new key goes
to the end. -/
def update (same : κ → κ → Bool) (key : κ) (change : Option α → α) :
    List (κ × α) → List (κ × α)
  | [] => [(key, change none)]
  | (k, v) :: rest =>
    if same k key then (k, change (some v)) :: rest
    else (k, v) :: update same key change rest

def put (same : κ → κ → Bool) (key : κ) (value : α) (entries : List (κ × α)) : List (κ × α) :=
  update same key (fun _ => value) entries

def erase (same : κ → κ → Bool) (key : κ) : List (κ × α) → List (κ × α)
  | [] => []
  | (k, v) :: rest => if same k key then rest else (k, v) :: erase same key rest

/-! ## Keys -/

/-- An update adds a key at most at the end. -/
theorem mem_keys_update {same : κ → κ → Bool} {key : κ} {change : Option α → α} {k : κ}
    {entries : List (κ × α)} (h : k ∈ (update same key change entries).map Prod.fst) :
    k ∈ entries.map Prod.fst ∨ k = key := by
  induction entries with
  | nil => exact .inr (by simpa [update] using h)
  | cons p rest ih =>
    obtain ⟨k', v⟩ := p
    unfold update at h
    split at h
    · exact .inl (by simpa using h)
    · rcases List.mem_cons.mp h with h | h
      · exact .inl (by simp [h])
      · rcases ih h with h | h
        · exact .inl (List.mem_cons_of_mem _ h)
        · exact .inr h

/-- With keys that are one only when equal, an update keeps keys distinct. -/
theorem nodup_keys_update [DecidableEq κ] {key : κ} {change : Option α → α}
    {entries : List (κ × α)} (h : (entries.map Prod.fst).Nodup) :
    ((update (· == ·) key change entries).map Prod.fst).Nodup := by
  induction entries with
  | nil => simp [update]
  | cons p rest ih =>
    obtain ⟨k, v⟩ := p
    obtain ⟨hk, hrest⟩ := List.nodup_cons.mp h
    unfold update
    split
    · exact List.nodup_cons.mpr ⟨hk, hrest⟩
    · rename_i hne
      refine List.nodup_cons.mpr ⟨fun hmem => ?_, ih hrest⟩
      rcases mem_keys_update hmem with h | h
      · exact hk h
      · exact hne (beq_iff_eq.mpr h)

/-- What is left after forgetting a key stood there before, in the same order. -/
theorem erase_sublist (same : κ → κ → Bool) (key : κ) (entries : List (κ × α)) :
    (erase same key entries).Sublist entries := by
  induction entries with
  | nil => exact List.Sublist.refl _
  | cons p rest ih =>
    unfold erase
    split
    · exact List.sublist_cons_self _ _
    · exact ih.cons_cons _

/-- Forgetting a key keeps the others distinct. -/
theorem nodup_keys_erase {same : κ → κ → Bool} {key : κ} {entries : List (κ × α)}
    (h : (entries.map Prod.fst).Nodup) : ((erase same key entries).map Prod.fst).Nodup :=
  h.sublist ((erase_sublist same key entries).map _)

/-! ## Look-up -/

/-- What is found is stored under a key that counts as the one asked for. -/
theorem exists_mem_of_find? {same : κ → κ → Bool} {key : κ} {v : α} {entries : List (κ × α)}
    (h : find? same key entries = some v) : ∃ k, (k, v) ∈ entries ∧ same k key = true := by
  induction entries with
  | nil => cases h
  | cons p rest ih =>
    obtain ⟨k, w⟩ := p
    unfold find? at h
    split at h
    · rename_i hk
      exact ⟨k, by rw [Option.some.inj h]; exact List.mem_cons_self, hk⟩
    · obtain ⟨k', hmem, hk'⟩ := ih h
      exact ⟨k', List.mem_cons_of_mem _ hmem, hk'⟩

/-- Something is found when some key counts as the one asked for. -/
theorem exists_find?_of_same {same : κ → κ → Bool} {key : κ} {p : κ × α}
    {entries : List (κ × α)} (h : p ∈ entries) (hp : same p.1 key = true) :
    ∃ v, find? same key entries = some v := by
  induction entries with
  | nil => cases h
  | cons q rest ih =>
    obtain ⟨k, w⟩ := q
    unfold find?
    split
    · exact ⟨w, rfl⟩
    · rename_i hne
      rcases List.mem_cons.mp h with rfl | h
      · exact absurd hp hne
      · exact ih h

section LookUp

variable [DecidableEq κ] {key : κ} {value v : α} {p : κ × α} {entries : List (κ × α)}

theorem mem_of_find? (h : find? (· == ·) key entries = some v) : (key, v) ∈ entries := by
  obtain ⟨k, hmem, hk⟩ := exists_mem_of_find? h
  rwa [← beq_iff_eq.mp hk]

theorem exists_find?_of_mem (h : p ∈ entries) : ∃ v, find? (· == ·) p.1 entries = some v :=
  exists_find?_of_same h BEq.rfl

/-- Changing the values changes what is found. -/
theorem find?_map {β : Type} (f : α → β) :
    find? (· == ·) key (entries.map fun p => (p.1, f p.2)) =
      (find? (· == ·) key entries).map f := by
  induction entries with
  | nil => rfl
  | cons q rest ih =>
    obtain ⟨k, w⟩ := q
    rw [List.map_cons, find?, find?]
    split
    · rfl
    · exact ih

theorem find?_put_self : find? (· == ·) key (put (· == ·) key value entries) = some value := by
  induction entries with
  | nil => simp [put, update, find?]
  | cons q rest ih =>
    obtain ⟨k, w⟩ := q
    unfold put update
    split
    · rename_i hk
      rw [find?, if_pos hk]
    · rename_i hk
      rw [find?, if_neg hk]
      exact ih

theorem find?_put_of_ne {key' : κ} (hne : key' ≠ key) :
    find? (· == ·) key' (put (· == ·) key value entries) = find? (· == ·) key' entries := by
  induction entries with
  | nil =>
    have hkey : (key == key') = false := by simpa using Ne.symm hne
    simp [put, update, find?, hkey]
  | cons q rest ih =>
    obtain ⟨k, w⟩ := q
    unfold put update
    split
    · rename_i hk
      have hkey : ¬ (k == key') = true := by
        rw [beq_iff_eq.mp hk]
        simpa using Ne.symm hne
      rw [find?, find?, if_neg hkey, if_neg hkey]
    · rw [find?, find?]
      split
      · rfl
      · exact ih

theorem mem_put_self : (key, value) ∈ put (· == ·) key value entries := by
  induction entries with
  | nil => exact List.mem_cons_self
  | cons q rest ih =>
    obtain ⟨k, w⟩ := q
    unfold put update
    split
    · rename_i hk
      rw [beq_iff_eq.mp hk]
      exact List.mem_cons_self
    · exact List.mem_cons_of_mem _ ih

/-- Storing a value keeps what is stored under the other keys. -/
theorem mem_put_of_ne (hne : p.1 ≠ key) (h : p ∈ entries) :
    p ∈ put (· == ·) key value entries := by
  induction entries with
  | nil => cases h
  | cons q rest ih =>
    obtain ⟨k, w⟩ := q
    unfold put update
    split
    · rename_i hk
      rcases List.mem_cons.mp h with rfl | h
      · exact absurd (beq_iff_eq.mp hk) hne
      · exact List.mem_cons_of_mem _ h
    · rcases List.mem_cons.mp h with rfl | h
      · exact List.mem_cons_self
      · exact List.mem_cons_of_mem _ (ih h)

theorem mem_of_mem_put (h : p ∈ put (· == ·) key value entries) :
    p = (key, value) ∨ p ∈ entries := by
  induction entries with
  | nil => exact .inl (List.mem_singleton.mp h)
  | cons q rest ih =>
    obtain ⟨k, w⟩ := q
    unfold put update at h
    split at h
    · rename_i hk
      rw [beq_iff_eq.mp hk] at h
      rcases List.mem_cons.mp h with rfl | h
      · exact .inl rfl
      · exact .inr (List.mem_cons_of_mem _ h)
    · rcases List.mem_cons.mp h with rfl | h
      · exact .inr List.mem_cons_self
      · rcases ih h with h | h
        · exact .inl h
        · exact .inr (List.mem_cons_of_mem _ h)

theorem find?_isSome_iff :
    (find? (· == ·) key entries).isSome = true ↔ key ∈ entries.map Prod.fst := by
  rw [Option.isSome_iff_exists]
  constructor
  · rintro ⟨v, hv⟩
    exact List.mem_map.mpr ⟨_, mem_of_find? hv, rfl⟩
  · intro h
    obtain ⟨p, hp, rfl⟩ := List.mem_map.mp h
    exact exists_find?_of_mem hp

/-- With distinct keys, what is found for a key is what is stored under it. -/
theorem find?_eq_some_iff (h : (entries.map Prod.fst).Nodup) :
    find? (· == ·) key entries = some v ↔ (key, v) ∈ entries := by
  refine ⟨mem_of_find?, fun hmem => ?_⟩
  induction entries with
  | nil => cases hmem
  | cons p rest ih =>
    obtain ⟨k, w⟩ := p
    obtain ⟨hk, hrest⟩ := List.nodup_cons.mp h
    unfold find?
    rcases List.mem_cons.mp hmem with heq | hmem
    · obtain ⟨rfl, rfl⟩ := Prod.mk.inj heq
      rw [if_pos BEq.rfl]
    · have hne : ¬ (k == key) = true := by
        intro heq
        rw [beq_iff_eq.mp heq] at hk
        exact hk (List.mem_map.mpr ⟨_, hmem, rfl⟩)
      rw [if_neg hne]
      exact ih hrest hmem

/-- With distinct keys, the order of the entries makes no difference. -/
theorem find?_perm {entries' : List (κ × α)} (h : (entries.map Prod.fst).Nodup)
    (hperm : entries'.Perm entries) :
    find? (· == ·) key entries' = find? (· == ·) key entries := by
  have h' : (entries'.map Prod.fst).Nodup := (hperm.map Prod.fst).nodup_iff.mpr h
  refine Option.ext fun v => ?_
  rw [find?_eq_some_iff h, find?_eq_some_iff h', hperm.mem_iff]

end LookUp

end Assoc
end Facets
