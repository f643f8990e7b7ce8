import Facets.Logging.Size
import Facets.Proofs.Outcome
import Facets.Proofs.Text.Digits
import Mathlib.Data.List.TakeWhile
import Mathlib.Data.Nat.Digits.Defs

/-
Sizes in bytes.

A size is a run of digits of any script, blanks and a unit whose letters have either case
(`SizeChars`, `SpellsUnit`).  `SizeOutcome` says what becomes of every text, and
`parseSize_eq_iff` that reading it comes out so.  One letter is in the way: the sign of the
kelvin is matched as a `k`, but has no other case, so the unit that it spells is not found.
-/
namespace Facets

/-! ## Letters and digits -/

namespace Text

/-- A letter in upper case was that letter or the one 32 further on. -/
theorem eq_or_of_toUpper {c d : Char} (h : c.toUpper = d) :
    c = d ∨ c = Char.ofNat (d.toNat + 32) := by
  unfold Char.toUpper at h
  split at h
  · rename_i hlower
    have hrange : 97 ≤ c.val.toNat ∧ c.val.toNat ≤ 122 := hlower
    have hdistance : ('A'.val - 'a'.val).toNat = 4294967264 := by decide
    have hnat : c.toNat = d.toNat + 32 := by
      subst h
      show c.val.toNat = (c.val + _).toNat + 32
      rw [UInt32.toNat_add, hdistance]
      omega
    right
    rw [← hnat, Char.ofNat_toNat]
  · exact .inl h

theorem not_isAnyDigit_of_isBlank {c : Char} (h : isBlank c = true) : isAnyDigit c = false := by
  have hblanks : ∀ n ∈ blanks, (zeros.find? fun z => z ≤ n && n ≤ z + 9) = none := by decide
  rw [isBlank, List.contains_iff_mem] at h
  rw [isAnyDigit, digitValue?, hblanks _ h]
  rfl

/-- The value of a decimal digit of any script. -/
def digitOf (c : Char) : Nat := (digitValue? c).getD 0

/-- A run of digits stands for the number that they are in base ten. -/
theorem digitsValue_eq_ofDigits (cs : List Char) :
    digitsValue cs = Nat.ofDigits 10 (cs.reverse.map digitOf) := by
  rw [Nat.ofDigits_eq_foldr, List.foldr_map, List.foldr_reverse, digitsValue]
  simp only [digitOf, Nat.add_comm, Nat.cast_id]

end Text

namespace Logging

open Text

variable {cs digits unit : List Char} {c d b : Char} {bytes : Nat} {s : String}
  {x : Except Fault Nat}

/-! ## Units -/

/-- The letters of a unit in either case, and its bytes. -/
inductive SpellsUnit : List Char → Nat → Prop
  | none : SpellsUnit [] 1
  | byte {b : Char} (hb : b.toUpper = 'B') : SpellsUnit [b] 1
  | kilo {k b : Char} (hk : k.toUpper = 'K') (hb : b.toUpper = 'B') : SpellsUnit [k, b] 1024
  | mega {m b : Char} (hm : m.toUpper = 'M') (hb : b.toUpper = 'B') :
      SpellsUnit [m, b] (1024 ^ 2)
  | giga {g b : Char} (hg : g.toUpper = 'G') (hb : b.toUpper = 'B') :
      SpellsUnit [g, b] (1024 ^ 3)

/-- The letters of the unit of 1024 bytes with the sign of the kelvin. -/
inductive SpellsKelvin : List Char → Prop
  | sign {b : Char} (hb : b.toUpper = 'B') : SpellsKelvin [kelvin, b]

/-- The letters are matched as a unit. -/
def MatchesUnit (unit : List Char) : Prop := (∃ bytes, SpellsUnit unit bytes) ∨ SpellsKelvin unit

theorem sameLetter_iff (hd : d.toUpper ≠ 'K') : sameLetter c d = true ↔ c.toUpper = d.toUpper := by
  simp [sameLetter, hd]

theorem sameLetter_k : sameLetter c 'K' = true ↔ c.toUpper = 'K' ∨ c = kelvin := by
  simp [sameLetter]

theorem matchesUnit_letter : MatchesUnit [c] ↔ c.toUpper = 'B' := by
  constructor
  · rintro (⟨bytes, hc⟩ | hc)
    · cases hc with
      | byte hb => exact hb
    · cases hc
  · intro hb
    exact .inl ⟨1, .byte hb⟩

theorem matchesUnit_pair :
    MatchesUnit [c, b] ↔
      (c.toUpper = 'K' ∨ c = kelvin ∨ c.toUpper = 'M' ∨ c.toUpper = 'G') ∧ b.toUpper = 'B' := by
  constructor
  · rintro (⟨bytes, h⟩ | h)
    · cases h with
      | kilo hk hb => exact ⟨.inl hk, hb⟩
      | mega hm hb => exact ⟨.inr (.inr (.inl hm)), hb⟩
      | giga hg hb => exact ⟨.inr (.inr (.inr hg)), hb⟩
    · cases h with
      | sign hb => exact ⟨.inr (.inl rfl), hb⟩
  · rintro ⟨hk | rfl | hm | hg, hb⟩
    · exact .inl ⟨_, .kilo hk hb⟩
    · exact .inr (.sign hb)
    · exact .inl ⟨_, .mega hm hb⟩
    · exact .inl ⟨_, .giga hg hb⟩

theorem matchesUnit_iff :
    MatchesUnit unit ↔ unit = [] ∨ (units.any fun u => spells unit u.1) = true := by
  have hB : ∀ c, sameLetter c 'B' = true ↔ c.toUpper = 'B' := fun c => sameLetter_iff (by decide)
  have hM : ∀ c, sameLetter c 'M' = true ↔ c.toUpper = 'M' := fun c => sameLetter_iff (by decide)
  have hG : ∀ c, sameLetter c 'G' = true ↔ c.toUpper = 'G' := fun c => sameLetter_iff (by decide)
  match unit with
  | [] => exact iff_of_true (.inl ⟨1, .none⟩) (.inl rfl)
  | [c] => simp [matchesUnit_letter, units, spells, hB]
  | [c, b] =>
    simp [matchesUnit_pair, units, spells, sameLetter_k, hB, hM, hG, or_and_right, or_assoc]
  | c :: d :: e :: rest =>
    have hno : ¬ MatchesUnit (c :: d :: e :: rest) := by
      rintro (⟨bytes, h⟩ | h) <;> cases h
    simp [hno, units, spells]

theorem MatchesUnit.letters (h : MatchesUnit unit) :
    ∀ c ∈ unit, c = kelvin ∨ c.toUpper ∈ ['B', 'K', 'M', 'G'] := by
  rcases h with ⟨bytes, h⟩ | h
  · cases h <;> simp [*]
  · cases h
    simp [*]

/-- No letter of a unit is a digit or a blank. -/
theorem MatchesUnit.apart (h : MatchesUnit unit) :
    ∀ c ∈ unit, isAnyDigit c = false ∧ isBlank c = false := by
  intro c hc
  rcases h.letters c hc with rfl | hupper
  · decide
  · simp only [List.mem_cons, List.not_mem_nil, or_false] at hupper
    rcases hupper with hd | hd | hd | hd <;> rcases eq_or_of_toUpper hd with rfl | rfl <;> decide

/-- The bytes of a unit are found by its letters in upper case. -/
theorem SpellsUnit.unitBytes_eq (h : SpellsUnit unit bytes) :
    unitBytes (if unit.isEmpty then ['B'] else unit) = .ok bytes := by
  cases h with
  | none => rfl
  | byte hb => simp [unitBytes, units, hb]
  | kilo hk hb => simp [unitBytes, units, hk, hb]
  | mega hm hb => simp [unitBytes, units, hm, hb]
  | giga hg hb => simp [unitBytes, units, hg, hb]

theorem SpellsKelvin.unitBytes_eq (h : SpellsKelvin unit) :
    unitBytes (if unit.isEmpty then ['B'] else unit) =
      .error (.unknownUnit (String.ofList [kelvin, 'B'])) := by
  cases h with
  | sign hb =>
    have hkelvin : kelvin.toUpper = kelvin := by decide
    have hother : ('K' == kelvin) = false ∧ ('M' == kelvin) = false ∧ ('G' == kelvin) = false := by
      decide
    simp [unitBytes, units, hkelvin, hb, hother]

/-! ## The parts of a size -/

/-- Digits of any script, blanks and the letters of a unit. -/
structure SizeChars (cs digits unit : List Char) : Prop where
  nonempty : digits ≠ []
  ofDigits : ∀ c ∈ digits, isAnyDigit c = true
  matched : MatchesUnit unit
  joined : ∃ blanks : List Char, (∀ c ∈ blanks, isBlank c = true) ∧ cs = digits ++ (blanks ++ unit)

/-- The parts are told apart by the kinds of their characters. -/
theorem SizeChars.split (h : SizeChars cs digits unit) :
    cs.takeWhile isAnyDigit = digits ∧ (cs.dropWhile isAnyDigit).dropWhile isBlank = unit := by
  obtain ⟨blanks, hblanks, rfl⟩ := h.joined
  have hunit : ∀ c ∈ unit.head?, isAnyDigit c = false ∧ isBlank c = false := fun c hc =>
    h.matched.apart c (List.mem_of_mem_head? hc)
  have hrest : ∀ c ∈ (blanks ++ unit).head?, isAnyDigit c = false := by
    cases blanks with
    | nil => exact fun c hc => (hunit c hc).1
    | cons b blanks =>
      rintro c ⟨⟩
      exact not_isAnyDigit_of_isBlank (hblanks b List.mem_cons_self)
  obtain ⟨htake, hdrop⟩ := span_append h.ofDigits hrest
  rw [htake, hdrop, (span_append hblanks fun c hc => (hunit c hc).2).2]
  exact ⟨rfl, rfl⟩

theorem sizeChars_of_split (hdigits : cs.takeWhile isAnyDigit ≠ [])
    (hunit : MatchesUnit ((cs.dropWhile isAnyDigit).dropWhile isBlank)) :
    SizeChars cs (cs.takeWhile isAnyDigit) ((cs.dropWhile isAnyDigit).dropWhile isBlank) where
  nonempty := hdigits
  ofDigits _ hc := List.mem_takeWhile_imp hc
  matched := hunit
  joined := ⟨(cs.dropWhile isAnyDigit).takeWhile isBlank, fun _ hc => List.mem_takeWhile_imp hc, by
    rw [List.takeWhile_append_dropWhile, List.takeWhile_append_dropWhile]⟩

theorem sizeParts?_eq_some_iff {p : List Char × List Char} :
    sizeParts? cs = some p ↔ ∃ digits unit, SizeChars cs digits unit ∧
      p = (digits, if unit.isEmpty then ['B'] else unit) := by
  constructor
  · intro h
    simp only [sizeParts?, List.isEmpty_iff] at h
    split_ifs at h with hdigits hunit hmatch
    · refine ⟨_, _, sizeChars_of_split hdigits (matchesUnit_iff.mpr (.inl hunit)), ?_⟩
      rw [← Option.some.inj h, hunit]
      rfl
    · refine ⟨_, _, sizeChars_of_split hdigits (matchesUnit_iff.mpr (.inr hmatch)), ?_⟩
      rw [← Option.some.inj h, if_neg (by simpa using hunit)]
  · rintro ⟨digits, unit, h, rfl⟩
    obtain ⟨hdigits, hunit⟩ := h.split
    have hmatch := matchesUnit_iff.mp h.matched
    simp only [sizeParts?, hdigits, hunit, List.isEmpty_iff, if_neg h.nonempty]
    by_cases hempty : unit = []
    · simp [hempty]
    · simp [hempty, hmatch.resolve_left hempty]

/-! ## Outcomes -/

/-- What becomes of a text that is read as a size. -/
inductive SizeOutcome (s : String) : Except Fault Nat → Prop
  | size {digits unit : List Char} {bytes : Nat} (hparts : SizeChars (strip s.toList) digits unit)
      (hunit : SpellsUnit unit bytes) (hshort : digits.length ≤ Fault.digitLimit) :
      SizeOutcome s (.ok (Nat.ofDigits 10 (digits.reverse.map digitOf) * bytes))
  | noSize (hparts : ∀ digits unit, ¬ SizeChars (strip s.toList) digits unit) :
      SizeOutcome s (.error (.invalidSize s))
  | tooLong {digits unit : List Char} (hparts : SizeChars (strip s.toList) digits unit)
      (hlong : Fault.digitLimit < digits.length) :
      SizeOutcome s (.error (.numeralTooLong digits.length))
  | kelvin {digits unit : List Char} (hparts : SizeChars (strip s.toList) digits unit)
      (hunit : SpellsKelvin unit) (hshort : digits.length ≤ Fault.digitLimit) :
      SizeOutcome s (.error (.unknownUnit (String.ofList [kelvin, 'B'])))

theorem parseSize_of_sizeChars (h : SizeChars (strip s.toList) digits unit) :
    parseSize s = if Fault.digitLimit < digits.length then .error (.numeralTooLong digits.length)
      else unitBytes (if unit.isEmpty then ['B'] else unit) >>= fun bytes =>
        pure (Nat.ofDigits 10 (digits.reverse.map digitOf) * bytes) := by
  rw [parseSize, sizeParts?_eq_some_iff.mpr ⟨digits, unit, h, rfl⟩, ← digitsValue_eq_ofDigits]

theorem parseSize_of_not_sizeChars (h : ∀ digits unit, ¬ SizeChars (strip s.toList) digits unit) :
    parseSize s = .error (.invalidSize s) := by
  have hnone : sizeParts? (strip s.toList) = none := by
    rw [Option.eq_none_iff_forall_ne_some]
    intro p hp
    obtain ⟨digits, unit, hparts, -⟩ := sizeParts?_eq_some_iff.mp hp
    exact h digits unit hparts
  rw [parseSize, hnone]

/-- A text is read as its characters say, and in no other way. -/
theorem parseSize_eq_iff (s : String) (x : Except Fault Nat) :
    parseSize s = x ↔ SizeOutcome s x := by
  constructor
  · rintro rfl
    by_cases hsize : ∃ digits unit, SizeChars (strip s.toList) digits unit
    · obtain ⟨digits, unit, h⟩ := hsize
      rw [parseSize_of_sizeChars h]
      by_cases hlong : Fault.digitLimit < digits.length
      · rw [if_pos hlong]
        exact .tooLong h hlong
      · rw [if_neg hlong]
        rcases h.matched with ⟨bytes, hunit⟩ | hunit
        · rw [hunit.unitBytes_eq]
          exact .size h hunit (Nat.le_of_not_lt hlong)
        · rw [hunit.unitBytes_eq]
          exact .kelvin h hunit (Nat.le_of_not_lt hlong)
    · have hno : ∀ digits unit, ¬ SizeChars (strip s.toList) digits unit := fun digits unit h =>
        hsize ⟨digits, unit, h⟩
      rw [parseSize_of_not_sizeChars hno]
      exact .noSize hno
  · intro h
    cases h with
    | size hparts hunit hshort =>
      rw [parseSize_of_sizeChars hparts, if_neg (Nat.not_lt.mpr hshort), hunit.unitBytes_eq]
      rfl
    | noSize hparts => exact parseSize_of_not_sizeChars hparts
    | tooLong hparts hlong => rw [parseSize_of_sizeChars hparts, if_pos hlong]
    | kelvin hparts hunit hshort =>
      rw [parseSize_of_sizeChars hparts, if_neg (Nat.not_lt.mpr hshort), hunit.unitBytes_eq]
      rfl

example : parseSize " ١0 kB " = .ok 10240 := by rfl

end Logging

namespace Sample

/-- A size whose unit begins with the sign of the kelvin. -/
def kelvinSize : String := "1\u212AB"

end Sample

namespace Logging

open Sample in
/-- A unit with the sign of the kelvin has a fault of its own, which is neither that of a text
without a size nor that of too many digits. -/
theorem not_parseSize_of_kelvin :
    parseSize kelvinSize = .error (.unknownUnit "\u212AB") ∧
      ¬ ((∃ n, parseSize kelvinSize = .ok n) ∨
        parseSize kelvinSize = .error (.invalidSize kelvinSize) ∨
        ∃ n, parseSize kelvinSize = .error (.numeralTooLong n)) := by
  have hfault : parseSize kelvinSize = .error (.unknownUnit "\u212AB") := by rfl
  refine ⟨hfault, ?_⟩
  rw [hfault]
  simp

end Logging
end Facets
