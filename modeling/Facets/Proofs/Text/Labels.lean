import Facets.Field.Plain
import Mathlib.Data.List.Infix

/-
Labels between brackets.

An opening counts when it is closed on its own line.  `IsLabel` says which part of a text
is its label: it stands after the leftmost opening that counts and before the first
closing from there.  The search finds this part, and none exactly when no opening counts
(`label?_eq_some_iff`, `label?_eq_none_iff`).  What follows about labels in brackets and
about labels of labels is read off `IsLabel` alone.
-/
namespace Facets
namespace Text

variable {b c : Char} {cs before inner other : List Char}

/-- After `before` stands an opening that is closed after `inner`, on the same line. -/
structure Encloses (cs before inner : List Char) : Prop where
  sameLine : '\n' ∉ inner
  bracketed : before ++ '[' :: '[' :: (inner ++ [']', ']']) <+: cs

/-- `inner` stands after the leftmost opening that is closed on its line and before the
first closing after it. -/
structure IsLabel (cs before inner : List Char) : Prop where
  encloses : Encloses cs before inner
  leftmost : ∀ before' inner', Encloses cs before' inner' → before.length ≤ before'.length
  first : ∀ inner', Encloses cs before inner' → inner.length ≤ inner'.length

theorem pair_prefix_iff : [b, b] <+: c :: cs ↔ c = b ∧ cs.head? = some b := by
  cases cs with
  | nil => simp
  | cons d cs => simp [eq_comm]

/-! ## The first closing -/

theorem beforeClosing?_eq_some (h : beforeClosing? cs = some inner) :
    '\n' ∉ inner ∧ inner ++ [']', ']'] <+: cs ∧
      ∀ other, other ++ [']', ']'] <+: cs → inner.length ≤ other.length := by
  fun_induction beforeClosing? cs generalizing inner with
  | case1 => cases h
  | case2 c cs hclosing =>
    obtain rfl := Option.some.inj h
    exact ⟨List.not_mem_nil, pair_prefix_iff.mpr hclosing, fun _ _ => Nat.zero_le _⟩
  | case3 => cases h
  | case4 c cs hclosing hline ih =>
    obtain ⟨inner, hinner, rfl⟩ := Option.map_eq_some_iff.mp h
    obtain ⟨hsame, hcloses, hfirst⟩ := ih hinner
    refine ⟨List.not_mem_cons_of_ne_of_not_mem (Ne.symm hline) hsame,
      List.cons_prefix_cons.mpr ⟨rfl, hcloses⟩, fun other hother => ?_⟩
    cases other with
    | nil => exact absurd (pair_prefix_iff.mp hother) hclosing
    | cons d other => exact Nat.succ_le_succ (hfirst other (List.cons_prefix_cons.mp hother).2)

/-- Without an answer the line ends before any closing. -/
theorem beforeClosing?_eq_none (h : beforeClosing? cs = none) (hline : '\n' ∉ inner) :
    ¬ inner ++ [']', ']'] <+: cs := by
  fun_induction beforeClosing? cs generalizing inner with
  | case1 => simp
  | case2 => cases h
  | case3 cs hclosing =>
    cases inner with
    | nil => exact fun hcloses => hclosing (pair_prefix_iff.mp hcloses)
    | cons d inner =>
      intro hcloses
      obtain rfl := (List.cons_prefix_cons.mp hcloses).1
      exact hline List.mem_cons_self
  | case4 c cs hclosing hc ih =>
    cases inner with
    | nil => exact fun hcloses => hclosing (pair_prefix_iff.mp hcloses)
    | cons d inner =>
      intro hcloses
      exact ih (Option.map_eq_none_iff.mp h) (List.not_mem_of_not_mem_cons hline)
        (List.cons_prefix_cons.mp hcloses).2

/-! ## The leftmost opening -/

theorem not_encloses_nil : ¬ Encloses [] before inner := fun h => by
  simpa using h.bracketed

/-- An opening at the start of a text is closed after it. -/
theorem encloses_start_iff : Encloses (c :: cs) [] inner ↔
    (c = '[' ∧ cs.head? = some '[') ∧ '\n' ∉ inner ∧ inner ++ [']', ']'] <+: cs.tail := by
  constructor
  · rintro ⟨hline, hbracketed⟩
    obtain ⟨hc, hrest⟩ := List.cons_prefix_cons.mp hbracketed
    cases cs with
    | nil => simp at hrest
    | cons d cs =>
      obtain ⟨rfl, hcloses⟩ := List.cons_prefix_cons.mp hrest
      exact ⟨⟨hc.symm, rfl⟩, hline, hcloses⟩
  · rintro ⟨⟨rfl, hhead⟩, hline, hcloses⟩
    refine ⟨hline, List.cons_prefix_cons.mpr ⟨rfl, ?_⟩⟩
    rw [← List.cons_head?_tail hhead]
    exact List.cons_prefix_cons.mpr ⟨rfl, hcloses⟩

theorem not_encloses_start
    (h : (if c = '[' ∧ cs.head? = some '[' then beforeClosing? cs.tail else none) = none) :
    ∀ other, ¬ Encloses (c :: cs) [] other := by
  intro other hencloses
  obtain ⟨hopening, hline, hcloses⟩ := encloses_start_iff.mp hencloses
  rw [if_pos hopening] at h
  exact beforeClosing?_eq_none h hline hcloses

theorem encloses_cons_iff :
    Encloses (c :: cs) (b :: before) inner ↔ b = c ∧ Encloses cs before inner := by
  constructor
  · rintro ⟨hline, hbracketed⟩
    obtain ⟨hb, hrest⟩ := List.cons_prefix_cons.mp hbracketed
    exact ⟨hb, hline, hrest⟩
  · rintro ⟨hb, hline, hrest⟩
    exact ⟨hline, List.cons_prefix_cons.mpr ⟨hb, hrest⟩⟩

/-- Nothing is to the left of an opening at the start of a text. -/
theorem isLabel_start (hopening : c = '[' ∧ cs.head? = some '[')
    (h : beforeClosing? cs.tail = some inner) : IsLabel (c :: cs) [] inner := by
  obtain ⟨hline, hcloses, hfirst⟩ := beforeClosing?_eq_some h
  refine ⟨encloses_start_iff.mpr ⟨hopening, hline, hcloses⟩, fun _ _ _ => Nat.zero_le _, ?_⟩
  exact fun inner' h' => hfirst inner' (encloses_start_iff.mp h').2.2

/-- A label further on counts when no opening at the start of the text does. -/
theorem IsLabel.cons (hstart : ∀ other, ¬ Encloses (c :: cs) [] other)
    (h : IsLabel cs before inner) : IsLabel (c :: cs) (c :: before) inner where
  encloses := encloses_cons_iff.mpr ⟨rfl, h.encloses⟩
  leftmost before' inner' h' := by
    cases before' with
    | nil => exact absurd h' (hstart inner')
    | cons b before' =>
      exact Nat.succ_le_succ (h.leftmost before' inner' (encloses_cons_iff.mp h').2)
  first inner' h' := h.first inner' (encloses_cons_iff.mp h').2

/-! ## The search -/

theorem label?_cons (c : Char) (cs : List Char) :
    label? (c :: cs) =
      (if c = '[' ∧ cs.head? = some '[' then beforeClosing? cs.tail else none).or (label? cs) :=
  rfl

theorem exists_isLabel_of_label? (h : label? cs = some inner) :
    ∃ before, IsLabel cs before inner := by
  induction cs with
  | nil => cases h
  | cons c cs ih =>
    rw [label?_cons, Option.or_eq_some_iff] at h
    rcases h with hhere | ⟨hnone, hrest⟩
    · obtain ⟨hopening, hclosing⟩ := Option.ite_none_right_eq_some.mp hhere
      exact ⟨[], isLabel_start hopening hclosing⟩
    · obtain ⟨before, hlabel⟩ := ih hrest
      exact ⟨c :: before, hlabel.cons (not_encloses_start hnone)⟩

theorem not_encloses_of_label? (h : label? cs = none) : ¬ Encloses cs before inner := by
  induction cs generalizing before with
  | nil => exact not_encloses_nil
  | cons c cs ih =>
    rw [label?_cons, Option.or_eq_none_iff] at h
    cases before with
    | nil => exact not_encloses_start h.1 inner
    | cons b before => exact fun hencloses => ih h.2 (encloses_cons_iff.mp hencloses).2

theorem eq_of_isPrefix {xs ys : List Char} (hxs : xs <+: cs) (hys : ys <+: cs)
    (hlength : xs.length = ys.length) : xs = ys :=
  (List.prefix_of_prefix_length_le hxs hys hlength.le).eq_of_length hlength

/-- A text has at most one label. -/
theorem IsLabel.unique {before' inner' : List Char} (h : IsLabel cs before inner)
    (h' : IsLabel cs before' inner') : inner = inner' := by
  have hbefore : before.length = before'.length :=
    Nat.le_antisymm (h.leftmost _ _ h'.encloses) (h'.leftmost _ _ h.encloses)
  obtain rfl : before = before' :=
    eq_of_isPrefix ((List.prefix_append _ _).trans h.encloses.bracketed)
      ((List.prefix_append _ _).trans h'.encloses.bracketed) hbefore
  have hinner : inner.length = inner'.length :=
    Nat.le_antisymm (h.first _ h'.encloses) (h'.first _ h.encloses)
  have hsame := eq_of_isPrefix h.encloses.bracketed h'.encloses.bracketed (by simp [hinner])
  simpa using hsame

/-- What is found is the label. -/
theorem label?_eq_some_iff : label? cs = some inner ↔ ∃ before, IsLabel cs before inner := by
  refine ⟨exists_isLabel_of_label?, ?_⟩
  rintro ⟨before, h⟩
  cases hfound : label? cs with
  | none => exact absurd h.encloses (not_encloses_of_label? hfound)
  | some inner' =>
    obtain ⟨before', h'⟩ := exists_isLabel_of_label? hfound
    rw [h.unique h']

theorem label?_eq_none_iff : label? cs = none ↔ ∀ before inner, ¬ Encloses cs before inner := by
  refine ⟨fun h _ _ => not_encloses_of_label? h, fun h => ?_⟩
  rw [Option.eq_none_iff_forall_ne_some]
  intro inner hfound
  obtain ⟨before, hlabel⟩ := exists_isLabel_of_label? hfound
  exact h before inner hlabel.encloses

/-! ## Labels of labels -/

/-- A closing inside what is enclosed is a closing for the same opening. -/
theorem Encloses.shorten (h : Encloses cs before inner) (hcloses : other ++ [']', ']'] <+: inner) :
    Encloses cs before other where
  sameLine hmem := h.sameLine (hcloses.subset (List.mem_append_left _ hmem))
  bracketed := by
    have hrest : other ++ [']', ']'] <+: inner ++ [']', ']'] :=
      hcloses.trans (List.prefix_append _ _)
    refine List.IsPrefix.trans ((List.prefix_append_right_inj before).mpr ?_) h.bracketed
    exact List.cons_prefix_cons.mpr ⟨rfl, List.cons_prefix_cons.mpr ⟨rfl, hrest⟩⟩

theorem IsLabel.not_closes (h : IsLabel cs before inner) : ¬ other ++ [']', ']'] <+: inner := by
  intro hcloses
  have hfirst : inner.length ≤ other.length := h.first other (h.encloses.shorten hcloses)
  have hlength := hcloses.length_le
  rw [List.length_append, List.length_cons] at hlength
  omega

/-- A label holds no closing, so no label in turn. -/
theorem IsLabel.not_encloses {before' : List Char} (h : IsLabel cs before inner) :
    ¬ Encloses inner before' other := by
  intro hencloses
  have hcloses : (before' ++ '[' :: '[' :: other) ++ [']', ']'] <+: inner := by
    simpa using hencloses.bracketed
  exact h.not_closes hcloses

theorem label_of_isLabel (h : IsLabel cs before inner) : label cs = inner := by
  rw [label, label?_eq_some_iff.mpr ⟨before, h⟩, Option.getD_some]

theorem label_of_not_encloses (h : ∀ before inner, ¬ Encloses cs before inner) :
    label cs = cs := by
  rw [label, label?_eq_none_iff.mpr h, Option.getD_none]

/-- Taking the label leaves nothing to take. -/
theorem label_label (cs : List Char) : label (label cs) = label cs := by
  cases hfound : label? cs with
  | none => simp only [label, hfound, Option.getD_none]
  | some inner =>
    obtain ⟨before, h⟩ := exists_isLabel_of_label? hfound
    rw [label_of_isLabel h, label_of_not_encloses fun _ _ => h.not_encloses]

/-- A text without a line end is the label between brackets around it, when the brackets
after it are the first closing. -/
theorem isLabel_bracketed (hline : '\n' ∉ inner) (hclosing : ¬ [']', ']'] <:+: inner ++ [']']) :
    IsLabel ('[' :: '[' :: (inner ++ [']', ']'])) [] inner := by
  refine ⟨⟨hline, List.prefix_refl _⟩, fun _ _ _ => Nat.zero_le _, fun other h => ?_⟩
  have hcloses : other ++ [']', ']'] <+: inner ++ [']', ']'] := (encloses_start_iff.mp h).2.2
  by_contra hlt
  have hearlier : other ++ [']', ']'] <+: inner ++ [']'] := by
    have hlast : inner ++ [']'] <+: inner ++ [']', ']'] :=
      (List.prefix_append_right_inj _).mpr (by simp)
    refine List.prefix_of_prefix_length_le hcloses hlast ?_
    simp only [List.length_append, List.length_cons, List.length_nil]
    omega
  exact hclosing ((List.suffix_append other _).isInfix.trans hearlier.isInfix)

end Text

open Text

/-- The label in an entry is the part that `IsLabel` describes, or the entry itself when no
opening in it is closed on its line.  So brackets come off a label that they are put
around, and what is left has no brackets to take off. -/
theorem entryLabel_isLabel (s : String) :
    ((∃ before inner, IsLabel s.toList before inner ∧ entryLabel s = String.ofList inner) ∨
      (∀ before inner, ¬ Encloses s.toList before inner) ∧ entryLabel s = s) ∧
    (∀ l : String, '\n' ∉ l.toList → ¬ "]]".toList <:+: (l ++ "]").toList →
      entryLabel ("[[" ++ l ++ "]]") = l) ∧
    entryLabel (entryLabel s) = entryLabel s := by
  refine ⟨?_, fun l hline hclosing => ?_, ?_⟩
  · cases hfound : label? s.toList with
    | none =>
      have hnone := label?_eq_none_iff.mp hfound
      refine .inr ⟨hnone, ?_⟩
      rw [entryLabel, label_of_not_encloses hnone, String.ofList_toList]
    | some inner =>
      obtain ⟨before, h⟩ := label?_eq_some_iff.mp hfound
      exact .inl ⟨before, inner, h, by rw [entryLabel, label_of_isLabel h]⟩
  · rw [String.toList_append] at hclosing
    have hchars : ("[[" ++ l ++ "]]").toList = '[' :: '[' :: (l.toList ++ [']', ']']) := by
      simp [String.toList_append]
    rw [entryLabel, hchars, label_of_isLabel (isLabel_bracketed hline hclosing),
      String.ofList_toList]
  · rw [entryLabel, entryLabel, String.toList_ofList, label_label]

namespace Sample

/-- Its first opening is not closed on its line, and the second one is closed twice. -/
def crossedEntry : String := "a [[b\n[[[c]d]] e]]"

end Sample

open Sample in
theorem entryLabel_isLabel_crossed :
    (∃ before, IsLabel crossedEntry.toList before "[c]d".toList) ∧
      entryLabel crossedEntry = "[c]d" ∧
      ('\n' ∉ "[c]d".toList ∧ ¬ "]]".toList <:+: ("[c]d" ++ "]").toList ∧
        entryLabel ("[[" ++ "[c]d" ++ "]]") = "[c]d") ∧
      entryLabel (entryLabel crossedEntry) = entryLabel crossedEntry := by
  have hlabel : entryLabel crossedEntry = "[c]d" := by decide
  have hclosing : ¬ "]]".toList <:+: ("[c]d" ++ "]").toList := by decide
  obtain ⟨hfound, hbracketed, hagain⟩ := entryLabel_isLabel crossedEntry
  rcases hfound with ⟨before, inner, h, hlabel'⟩ | ⟨-, hself⟩
  · obtain rfl : inner = "[c]d".toList := by
      rw [← hlabel, hlabel', String.toList_ofList]
    exact ⟨⟨before, h⟩, hlabel, ⟨by decide, hclosing, hbracketed _ (by decide) hclosing⟩, hagain⟩
  · exact absurd (hlabel.symm.trans hself) (by decide)

end Facets
