import Facets.Field.Plain
import Facets.Proofs.Number.Spelling
import Facets.Proofs.Order.ByField
import Facets.Proofs.Value.Limits

/-
Values that can be read as every type.

Only texts can fail to be read, by being an integer numeral with more digits than
are read.  A value whose integers can be written and whose texts can be read can
be read as every type, and what is read has a plain text (`Kind.exists_coerce`).
-/
namespace Facets

open Outcome

/-! ## Numerals -/

namespace Number

open Text

/-- An integer numeral of few enough digits stands for an integer that can be
written. -/
theorem Numeral.isShort_integer {cs : List Char} {n : Numeral} (h : n.Spells cs)
    (hlength : n.whole.length ≤ Fault.digitLimit) : Value.isShort n.integer = true := by
  have hlt := ofDecimal_lt (digits_append_iff.mp h.digits).1
  have hpow : ∀ k, n.whole.length ≤ k → 10 ^ n.whole.length ≤ Nat.pow 10 k := fun _ hk =>
    Nat.pow_le_pow_right (by decide) hk
  have hsize : n.integer.natAbs = ofDecimal n.whole := by
    unfold Numeral.integer
    split <;> omega
  rw [Value.isShort, decide_eq_true_eq, hsize]
  exact Nat.lt_of_lt_of_le hlt (hpow _ hlength)

/-- Digits alone are a numeral. -/
theorem Numeral.read?_digits {ds : List Char} (hdigits : Digits ds) (hne : ds ≠ []) :
    Numeral.read? (strip ds) = some ⟨false, ds, none, none⟩ := by
  rw [strip_eq_self fun c hc => not_isBlank_of_isDigit (hdigits c hc)]
  have hspells := Spells.mk .absent (.whole hdigits hne) .absent
  rw [List.nil_append, List.append_nil] at hspells
  exact read?_of_spells hspells

/-- An integer numeral of too many digits is not read. -/
theorem ofText_of_long {ds : List Char} (hdigits : Digits ds)
    (hlong : Fault.digitLimit < ds.length) :
    ofText (String.ofList ds) = .error (.numeralTooLong ds.length) := by
  have hne : ds ≠ [] := List.ne_nil_of_length_pos (Nat.zero_lt_of_lt hlong)
  rw [ofText, String.toList_ofList, Numeral.read?_digits hdigits hne]
  exact if_neg (Nat.not_le.mpr hlong)

end Number

/-- The empty text can be read: it is no number. -/
theorem Value.isEmpty_of_unreadable {s : String} {fault : Fault}
    (h : Number.ofText s = .error fault) : (Value.text s).isEmpty = false := by
  rw [isEmpty, beq_eq_false_iff_ne]
  rintro rfl
  cases h

namespace Sample

/-- One digit more than are read. -/
def endlessYear : String := String.ofList (List.replicate (Fault.digitLimit + 1) '1')

theorem ofText_endlessYear :
    Number.ofText endlessYear = .error (.numeralTooLong (Fault.digitLimit + 1)) := by
  have hdigits : ∀ c ∈ List.replicate (Fault.digitLimit + 1) '1', c.isDigit = true := by
    intro c hc
    rw [List.eq_of_mem_replicate hc]
    rfl
  have hlong : Fault.digitLimit < (List.replicate (Fault.digitLimit + 1) '1').length := by
    rw [List.length_replicate]
    exact Nat.lt_succ_self _
  rw [endlessYear, Number.ofText_of_long hdigits hlong, List.length_replicate]

end Sample

namespace Value

/-- A text that is not an integer numeral of too many digits. -/
def isReadableLeaf : Value → Bool
  | .text s => (Number.Numeral.read? (Text.strip s.toList)).all fun n =>
      !n.isInteger || n.whole.length ≤ Fault.digitLimit
  | _ => true

/-- All texts in the value can be read. -/
def Readable (v : Value) : Prop := v.everyLeaf isReadableLeaf = true

instance (v : Value) : Decidable v.Readable := inferInstanceAs (Decidable (_ = true))

variable {v : Value}

/-! ## Reading -/

/-- A number that is a double, or an integer that can be written. -/
def isShortNumber : Number → Bool
  | .int m => isShort m
  | .float _ => true

theorem exists_ofText {s : String} (h : (Value.text s).Readable) :
    ∃ n, Number.ofText s = .ok n ∧ ∀ m ∈ n, isShortNumber m = true := by
  simp only [Readable, everyLeaf, isReadableLeaf] at h
  unfold Number.ofText
  cases hread : Number.Numeral.read? (Text.strip s.toList) with
  | none => exact ⟨none, rfl, by simp⟩
  | some n =>
    rw [hread, Option.all_some, Bool.or_eq_true, Bool.not_eq_true', decide_eq_true_eq] at h
    simp only [Number.Numeral.number]
    cases hinteger : n.isInteger with
    | false =>
      refine ⟨n.double.finite?.map .float, if_neg Bool.false_ne_true, fun m hm => ?_⟩
      obtain ⟨x, _, rfl⟩ := Option.map_eq_some_iff.mp hm
      rfl
    | true =>
      have hlength : n.whole.length ≤ Fault.digitLimit := by simpa [hinteger] using h
      refine ⟨some (.int n.integer), by rw [if_pos rfl, if_pos hlength], fun m hm => ?_⟩
      rw [← Option.some.inj hm]
      exact Number.Numeral.isShort_integer (Number.Numeral.spells_of_read? hread) hlength

theorem exists_plainNumber {n : Number} (h : isShortNumber n = true) :
    ∃ text, n.plain = .ok text := by
  cases n with
  | int m => exact ⟨_, integerText_eq_ok h⟩
  | float x =>
    rw [Number.plain]
    split
    · exact ⟨_, rfl⟩
    · exact ⟨_, rfl⟩

/-- A number is read, and it can be written again. -/
theorem exists_asNumber (hw : v.Writable) (hr : v.Readable) :
    ∃ n, v.asNumber = .ok n ∧ ∀ m ∈ n, isShortNumber m = true := by
  cases v with
  | int n =>
    simp only [Writable, everyLeaf, isShortLeaf] at hw
    exact ⟨some (.int n), rfl, by simpa [isShortNumber] using hw⟩
  | float x =>
    cases x with
    | finite x => exact ⟨some (.float x), rfl, by simp [isShortNumber]⟩
    | infinite _ | nan _ => exact ⟨none, rfl, by simp⟩
  | text s => exact exists_ofText hr
  | _ => exact ⟨none, rfl, by simp⟩

theorem exists_asText (h : v.Writable) : ∃ text, v.asText = .ok text := by
  have hnumber {n : Number} (hn : isShortNumber n = true) :
      ∃ text, n.plain.map some = .ok text := by
    obtain ⟨text, htext⟩ := exists_plainNumber hn
    exact ⟨some text, by rw [htext]; rfl⟩
  cases v with
  | int n =>
    simp only [Writable, everyLeaf, isShortLeaf] at h
    rw [asText]
    exact hnumber (by rwa [isShortNumber])
  | float x =>
    cases x with
    | finite x => exact hnumber rfl
    | infinite _ | nan _ => exact ⟨none, rfl⟩
  | _ => exact ⟨_, rfl⟩

/-- The items of what can be written can be written. -/
theorem exists_asItems (h : v.Writable) :
    ∃ items, v.asItems = .ok items ∧ ∀ xs ∈ items, ∀ x ∈ xs, x.Writable := by
  have hnone : ∀ xs ∈ (none : Option (List Value)), ∀ x ∈ xs, x.Writable := by simp
  cases v with
  | list items | tuple items =>
    have hall : ∀ x ∈ items, x.Writable := everyItem_iff.mp h
    refine ⟨_, rfl, ?_⟩
    split
    · exact hnone
    · simpa using hall
  | text s =>
    refine ⟨_, rfl, ?_⟩
    split
    · exact hnone
    · simp [Writable, everyLeaf, isShortLeaf]
  | bool _ | int _ | float _ =>
    obtain ⟨text, htext⟩ := exists_asText h
    rw [asItems, htext, ok_bind]
    cases text with
    | some s => exact ⟨_, rfl, by simp [Writable, everyLeaf, isShortLeaf]⟩
    | none => exact ⟨_, rfl, by simp [Writable, everyLeaf, isShortLeaf]⟩
  | _ => exact ⟨none, rfl, hnone⟩

theorem exists_displays {items : List Value} (h : ∀ x ∈ items, x.Writable) :
    ∃ parts, items.mapM display = .ok parts :=
  exists_mapM_ok fun x hx => exists_display (h x hx)

theorem exists_asLabels (h : v.Writable) : ∃ labels, v.asLabels = .ok labels := by
  obtain ⟨items, hitems, hall⟩ := exists_asItems h
  rw [asLabels, hitems, ok_bind]
  cases items with
  | none => exact ⟨_, rfl⟩
  | some items =>
    have hkept : ∀ x ∈ items.filter fun item => !item.isEmpty, x.Writable := fun x hx =>
      hall items rfl x (List.mem_of_mem_filter hx)
    obtain ⟨labels, hlabels⟩ := exists_displays hkept
    dsimp only
    rw [hlabels]
    exact ⟨_, rfl⟩

/-- The keys of a mapping that can be written can be written. -/
theorem writable_keys {ps : List (Value × Value)} (h : v.Writable) (hps : v.asMapping = some ps) :
    ∀ q ∈ ps, q.1.Writable := by
  cases v with
  | dict entries =>
    obtain ⟨_, hsome⟩ := Option.ite_none_left_eq_some.mp hps
    obtain rfl := Option.some.inj hsome
    exact fun q hq => (everyEntry_iff.mp h q hq).1
  | _ => cases hps

end Value

/-! ## Values within limits -/

/-- The integers in the value can be written, and the texts in it can be read. -/
structure Value.WithinLimits (v : Value) : Prop where
  writable : v.Writable
  readable : v.Readable

instance (v : Value) : Decidable v.WithinLimits :=
  decidable_of_iff (v.Writable ∧ v.Readable) ⟨fun h => ⟨h.1, h.2⟩, fun h => ⟨h.1, h.2⟩⟩

namespace Value

theorem withinLimits_null : Value.null.WithinLimits := ⟨rfl, rfl⟩

theorem WithinLimits.of_everyItem {items : List Value}
    (hwritable : everyItem isShortLeaf items = true)
    (hreadable : everyItem isReadableLeaf items = true) : ∀ x ∈ items, x.WithinLimits :=
  fun x hx => ⟨everyItem_iff.mp hwritable x hx, everyItem_iff.mp hreadable x hx⟩

theorem WithinLimits.mem_items {v : Value} {items : List Value} (h : v.WithinLimits)
    (hitems : v.items? = some items) : ∀ x ∈ items, x.WithinLimits := by
  cases v with
  | list vs | tuple vs =>
    obtain rfl := Option.some.inj hitems
    exact of_everyItem h.writable h.readable
  | _ => cases hitems

theorem WithinLimits.mem_entries {entries : List (Value × Value)}
    (h : (Value.dict entries).WithinLimits) :
    ∀ q ∈ entries, q.1.WithinLimits ∧ q.2.WithinLimits := by
  intro q hq
  obtain ⟨hkw, hvw⟩ := everyEntry_iff.mp h.writable q hq
  obtain ⟨hkr, hvr⟩ := everyEntry_iff.mp h.readable q hq
  exact ⟨⟨hkw, hkr⟩, ⟨hvw, hvr⟩⟩

end Value

/-- All values that the record stores are within limits. -/
def Record.WithinLimits (r : Record) : Prop := ∀ p ∈ r.fields.entries, p.2.WithinLimits

instance (r : Record) : Decidable r.WithinLimits := inferInstanceAs (Decidable (∀ p ∈ _, _))

theorem Record.WithinLimits.field {r : Record} (h : r.WithinLimits) (key : String) :
    (r.field key).WithinLimits := by
  unfold Record.field Fields.get?
  split
  · rename_i v hv
    split
    · exact Value.withinLimits_null
    · exact h _ (Assoc.mem_of_find? hv)
  · exact Value.withinLimits_null

namespace Kind

variable {k : Kind} {v : Value}

/-- A value is read as any type, and what is read has a plain text. -/
theorem exists_convert (k : Kind) (h : v.WithinLimits) :
    ∃ t, k.convert v = .ok t ∧ ∀ x ∈ t, ∃ text, x.plain = .ok text := by
  cases k with
  | string =>
    obtain ⟨text, htext⟩ := Value.exists_asText h.writable
    refine ⟨text.map .text, by rw [convert, htext]; rfl, fun x hx => ?_⟩
    obtain ⟨s, _, rfl⟩ := Option.map_eq_some_iff.mp hx
    exact ⟨s, rfl⟩
  | number =>
    obtain ⟨n, hn, hshort⟩ := Value.exists_asNumber h.writable h.readable
    refine ⟨n.map .number, by rw [convert, hn]; rfl, fun x hx => ?_⟩
    obtain ⟨m, hm, rfl⟩ := Option.map_eq_some_iff.mp hx
    exact Value.exists_plainNumber (hshort m hm)
  | boolean =>
    refine ⟨v.asFlag.map .flag, rfl, fun x hx => ?_⟩
    obtain ⟨b, _, rfl⟩ := Option.map_eq_some_iff.mp hx
    exact ⟨_, rfl⟩
  | date =>
    refine ⟨v.asMoment.map .moment, rfl, fun x hx => ?_⟩
    obtain ⟨m, _, rfl⟩ := Option.map_eq_some_iff.mp hx
    exact ⟨_, rfl⟩
  | array =>
    obtain ⟨items, hitems, hall⟩ := Value.exists_asItems h.writable
    refine ⟨items.map .items, by rw [convert, hitems]; rfl, fun x hx => ?_⟩
    obtain ⟨vs, hvs, rfl⟩ := Option.map_eq_some_iff.mp hx
    obtain ⟨parts, hparts⟩ := Value.exists_displays (hall vs hvs)
    exact ⟨joined parts, by rw [Typed.plain, hparts]; rfl⟩
  | labels =>
    obtain ⟨labels, hlabels⟩ := Value.exists_asLabels h.writable
    refine ⟨labels.map .labels, by rw [convert, hlabels]; rfl, fun x hx => ?_⟩
    obtain ⟨ls, _, rfl⟩ := Option.map_eq_some_iff.mp hx
    exact ⟨_, rfl⟩
  | object =>
    refine ⟨v.asMapping.map .mapping, rfl, fun x hx => ?_⟩
    obtain ⟨ps, hps, rfl⟩ := Option.map_eq_some_iff.mp hx
    have hkeys : ∀ q ∈ ps, ∃ text, q.1.display = .ok text := fun q hq =>
      Value.exists_display (Value.writable_keys h.writable hps q hq)
    obtain ⟨keys, hkeys⟩ := exists_mapM_ok hkeys
    exact ⟨joined keys, by rw [Typed.plain, hkeys]; rfl⟩

theorem exists_coerce (k : Kind) (h : v.WithinLimits) :
    ∃ t, k.coerce v = .ok t ∧ ∀ x ∈ t, ∃ text, x.plain = .ok text := by
  unfold coerce
  split
  · exact ⟨none, rfl, by simp⟩
  · exact exists_convert k h

theorem exists_plain (k : Kind) (h : v.WithinLimits) :
    ∃ text, k.plain v = .ok text := by
  obtain ⟨t, ht, hplain⟩ := exists_coerce k h
  rw [plain, ht, ok_bind]
  cases t with
  | none => exact ⟨"", rfl⟩
  | some x => exact hplain x rfl

end Kind
end Facets
