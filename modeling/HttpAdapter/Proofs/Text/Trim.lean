import HttpAdapter.Text.CodeRange
import Mathlib.Data.List.DropRight
import Mathlib.Data.List.Induction
import Mathlib.Data.List.TakeWhile

/-!
What trimming leaves of a text: no white space at the ends, and all that is not at the ends as it
was.
-/

namespace HttpAdapter.Text

theorem trimEndChars_eq_rdropWhile (cs : List Char) : trimEndChars cs = cs.rdropWhile isBlank := rfl

/-- What ends in a visible character keeps its end. -/
theorem trimEndChars_append_singleton {c : Char} (cs : List Char) (visible : isBlank c = false) :
    trimEndChars (cs ++ [c]) = cs ++ [c] :=
  List.rdropWhile_concat_neg isBlank cs c (by simp [visible])

/-- A trimmed line does not end in white space. -/
theorem getLast?_trimEndChars (cs : List Char) {c : Char} (blank : isBlank c = true) :
    (trimEndChars cs).getLast? ≠ some c := by
  intro last
  have full : cs.rdropWhile isBlank ≠ [] := by
    intro none
    rw [trimEndChars_eq_rdropWhile, none] at last
    cases last
  have ending : (cs.rdropWhile isBlank).getLast full = c :=
    Option.some_inj.mp ((List.getLast?_eq_some_getLast full).symm.trans last)
  exact List.rdropWhile_last_not isBlank cs full (ending ▸ blank)

/-- Trimming takes nothing but white space off the end. -/
theorem eq_trimEndChars_append (cs : List Char) :
    ∃ blanks, (∀ c ∈ blanks, isBlank c = true) ∧ cs = trimEndChars cs ++ blanks :=
  ⟨cs.rtakeWhile isBlank, fun _ => List.mem_rtakeWhile_imp,
    List.rdropWhile_append_rtakeWhile.symm⟩

theorem trimEndChars_subset (cs : List Char) : trimEndChars cs ⊆ cs :=
  (List.rdropWhile_prefix isBlank cs).subset

/-- A line keeps what is visible. -/
theorem mem_trimEndChars_iff {cs : List Char} {c : Char} (visible : isBlank c = false) :
    c ∈ trimEndChars cs ↔ c ∈ cs := by
  refine ⟨fun member => trimEndChars_subset cs member, fun member => ?_⟩
  obtain ⟨blanks, blank, letters⟩ := eq_trimEndChars_append cs
  rw [letters, List.mem_append] at member
  refine member.resolve_right fun atEnd => ?_
  rw [blank c atEnd] at visible
  cases visible

/-- A line keeps its visible start. -/
theorem exists_trimEndChars_cons {c : Char} (visible : isBlank c = false) (cs : List Char) :
    ∃ shorter, shorter ⊆ cs ∧ trimEndChars (c :: cs) = c :: shorter := by
  refine ⟨trimEndChars cs, trimEndChars_subset cs, ?_⟩
  rw [trimEndChars, trimEndChars, List.reverse_cons, List.dropWhile_append]
  split
  · rename_i none
    rw [List.isEmpty_iff] at none
    simp [none, visible]
  · simp

/-- A line with a visible end is whole. -/
theorem trimEndChars_append {cs ending : List Char} (full : ending ≠ [])
    (visible : trimEndChars ending = ending) : trimEndChars (cs ++ ending) = cs ++ ending := by
  cases ending using List.reverseRecOn with
  | nil => exact absurd rfl full
  | append_singleton front last =>
      have shown : isBlank last = false := by
        cases blank : isBlank last with
        | false => rfl
        | true =>
            have ends := getLast?_trimEndChars (front ++ [last]) blank
            rw [visible, List.getLast?_concat] at ends
            exact absurd rfl ends
      rw [← List.append_assoc]
      exact trimEndChars_append_singleton (cs ++ front) shown

theorem trimChars_subset (cs : List Char) : trimChars cs ⊆ cs :=
  List.Subset.trans (trimEndChars_subset _) (List.dropWhile_subset _)

/-- A text without white space at its ends. -/
structure IsTrimmed (cs : List Char) : Prop where
  start : ∀ c ∈ cs.head?, isBlank c = false
  ending : ∀ c ∈ cs.getLast?, isBlank c = false

theorem isTrimmed_iff {cs : List Char} : IsTrimmed cs ↔
    cs.head?.all (!isBlank ·) = true ∧ cs.getLast?.all (!isBlank ·) = true := by
  simp only [Option.all_eq_true, Bool.not_eq_true']
  exact ⟨fun trimmed => ⟨trimmed.start, trimmed.ending⟩, fun ends => ⟨ends.1, ends.2⟩⟩

instance (cs : List Char) : Decidable (IsTrimmed cs) := decidable_of_iff _ isTrimmed_iff.symm

theorem isTrimmed_trimChars (cs : List Char) : IsTrimmed (trimChars cs) where
  start := by
    intro c first
    rw [trimChars] at first
    cases kept : cs.dropWhile isBlank with
    | nil =>
        rw [kept] at first
        cases first
    | cons d ds =>
        have visible := List.head?_dropWhile_not isBlank cs
        rw [kept, List.head?_cons] at visible
        have shown : isBlank d = false := by simpa using visible
        obtain ⟨shorter, -, whole⟩ := exists_trimEndChars_cons shown ds
        rw [kept, whole, List.head?_cons, Option.mem_some_iff] at first
        exact first ▸ shown
  ending := by
    intro c last
    cases blank : isBlank c with
    | false => rfl
    | true => exact absurd last (getLast?_trimEndChars _ blank)

theorem trimEndChars_append_blanks (cs : List Char) {blanks : List Char}
    (blank : ∀ c ∈ blanks, isBlank c = true) : trimEndChars (cs ++ blanks) = trimEndChars cs := by
  rw [trimEndChars, List.reverse_append, List.dropWhile_append_of_pos, trimEndChars]
  intro c member
  exact blank c (List.mem_reverse.mp member)

theorem trimEndChars_of_isTrimmed {cs : List Char} (trimmed : IsTrimmed cs) :
    trimEndChars cs = cs := by
  cases cs using List.reverseRecOn with
  | nil => rfl
  | append_singleton front last =>
      exact trimEndChars_append_singleton front (trimmed.ending last (by simp))

theorem trimChars_of_blank {cs : List Char} (blank : ∀ c ∈ cs, isBlank c = true) :
    trimChars cs = [] := by
  rw [trimChars, List.dropWhile_eq_nil_iff.mpr blank]
  rfl

/-- Trimming takes the white space around a text away. -/
theorem trimChars_append {before cs after : List Char} (front : ∀ c ∈ before, isBlank c = true)
    (trimmed : IsTrimmed cs) (full : cs ≠ []) (back : ∀ c ∈ after, isBlank c = true) :
    trimChars (before ++ cs ++ after) = cs := by
  obtain ⟨first, others, letters⟩ := List.exists_cons_of_ne_nil full
  have visible : isBlank first = false := trimmed.start first (by simp [letters])
  have start : (cs ++ after).dropWhile isBlank = cs ++ after := by
    simp [letters, visible]
  rw [trimChars, List.append_assoc, List.dropWhile_append_of_pos front, start,
    trimEndChars_append_blanks cs back, trimEndChars_of_isTrimmed trimmed]

end HttpAdapter.Text
