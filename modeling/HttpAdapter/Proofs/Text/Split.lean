import HttpAdapter.Text.Split
import Mathlib.Data.List.Basic
import Mathlib.Data.List.Induction
import Mathlib.Tactic.Push

/-!
Laws of splitting and joining: where a text that is put together is cut, and what is left of a
joined text when empty parts are dropped.
-/

namespace HttpAdapter.Text

variable {sep : Char}

theorem cutLast_eq_none {cs : List Char} (whole : cutLast sep cs = none) : sep ∉ cs := by
  induction cs with
  | nil => simp
  | cons c cs ih =>
      simp only [cutLast] at whole
      split at whole
      · simp at whole
      · rename_i rest
        split at whole
        · simp at whole
        · rename_i different
          simp only [List.mem_cons, not_or]
          exact ⟨Ne.symm different, ih rest⟩

theorem cutLast_eq_some {cs before after : List Char}
    (cut : cutLast sep cs = some (before, after)) :
    cs = before ++ sep :: after ∧ sep ∉ after := by
  induction cs generalizing before with
  | nil => simp [cutLast] at cut
  | cons c cs ih =>
      simp only [cutLast] at cut
      split at cut
      · rename_i front back rest
        cases cut
        obtain ⟨letters, absent⟩ := ih rest
        exact ⟨by simp [letters], absent⟩
      · rename_i rest
        split at cut
        · rename_i equal
          cases cut
          exact ⟨by simp [equal], cutLast_eq_none rest⟩
        · simp at cut

theorem cutLast_of_not_mem {cs : List Char} (absent : sep ∉ cs) : cutLast sep cs = none := by
  cases cut : cutLast sep cs with
  | none => rfl
  | some parts =>
      obtain ⟨letters, -⟩ := cutLast_eq_some cut
      rw [letters] at absent
      simp at absent

/-- A text is cut at its last separator. -/
theorem cutLast_append_cons {after : List Char} (before : List Char) (absent : sep ∉ after) :
    cutLast sep (before ++ sep :: after) = some (before, after) := by
  induction before with
  | nil => simp [cutLast, cutLast_of_not_mem absent]
  | cons c before ih => simp [cutLast, ih]

theorem cutFirst_of_not_mem {cs : List Char} (absent : sep ∉ cs) : cutFirst sep cs = none := by
  induction cs with
  | nil => rfl
  | cons c cs ih =>
      obtain ⟨different, absent⟩ := List.ne_and_not_mem_of_not_mem_cons absent
      rw [cutFirst, if_neg (Ne.symm different), ih absent]
      rfl

/-- A text is cut at its first separator. -/
theorem cutFirst_append_cons {before : List Char} (after : List Char) (absent : sep ∉ before) :
    cutFirst sep (before ++ sep :: after) = some (before, after) := by
  induction before with
  | nil => simp [cutFirst]
  | cons c before ih =>
      obtain ⟨different, absent⟩ := List.ne_and_not_mem_of_not_mem_cons absent
      rw [List.cons_append, cutFirst, if_neg (Ne.symm different), ih absent]
      rfl

/-- The first character is a separator, or belongs to the first part. -/
@[simp] theorem splitOn_cons_self (cs : List Char) :
    (sep :: cs).splitOn sep = [] :: cs.splitOn sep := by
  simp [List.splitOn_cons_eq_if_modifyHead]

theorem splitOn_cons_of_ne {c : Char} (different : c ≠ sep) (cs : List Char) :
    (c :: cs).splitOn sep = (cs.splitOn sep).modifyHead (c :: ·) := by
  simp [List.splitOn_cons_eq_if_modifyHead, different]

/-- No part holds the separator. -/
theorem not_mem_of_mem_splitOn {cs part : List Char} (member : part ∈ cs.splitOn sep) :
    sep ∉ part := by
  induction cs generalizing part with
  | nil => simp_all
  | cons c cs ih =>
      by_cases hc : c = sep
      · subst hc
        rw [splitOn_cons_self, List.mem_cons] at member
        rcases member with rfl | member
        · exact List.not_mem_nil
        · exact ih member
      · obtain ⟨first, parts, split⟩ := List.exists_cons_of_ne_nil (List.splitOn_ne_nil sep cs)
        rw [splitOn_cons_of_ne hc, split, List.modifyHead_cons, List.mem_cons] at member
        rw [split] at ih
        rcases member with rfl | member
        · rw [List.mem_cons, not_or]
          exact ⟨Ne.symm hc, ih List.mem_cons_self⟩
        · exact ih (List.mem_cons_of_mem _ member)

/-- The first part of a text is what stands in front of its first separator. -/
theorem exists_splitOn_eq_cons (cs : List Char) :
    ∃ parts, cs.splitOn sep = cs.takeWhile (· ≠ sep) :: parts := by
  induction cs with
  | nil => exact ⟨[], rfl⟩
  | cons c cs ih =>
      obtain ⟨parts, split⟩ := ih
      by_cases hc : c = sep
      · exact ⟨cs.splitOn sep, by simp [hc]⟩
      · exact ⟨parts, by simp [splitOn_cons_of_ne hc, hc, split]⟩

/-- A front without separators belongs to the first part. -/
theorem splitOn_append_of_not_mem_left {front : List Char} (absent : sep ∉ front)
    (cs : List Char) :
    ∃ first parts, cs.splitOn sep = first :: parts ∧
      (front ++ cs).splitOn sep = (front ++ first) :: parts := by
  obtain ⟨first, parts, split⟩ := List.exists_cons_of_ne_nil (List.splitOn_ne_nil sep cs)
  refine ⟨first, parts, split, ?_⟩
  induction front with
  | nil => exact split
  | cons c front ih =>
      obtain ⟨different, absent⟩ := List.ne_and_not_mem_of_not_mem_cons absent
      simp [splitOn_cons_of_ne (Ne.symm different), ih absent]

/-- A tail without separators belongs to the last part. -/
theorem splitOn_append_of_not_mem {tail : List Char} (cs : List Char) (absent : sep ∉ tail) :
    ∃ front last, (cs ++ tail).splitOn sep = front ++ [last ++ tail] := by
  induction cs with
  | nil => exact ⟨[], [], by simp [List.splitOn_eq_singleton absent]⟩
  | cons c cs ih =>
      obtain ⟨front, last, parts⟩ := ih
      by_cases hc : c = sep
      · exact ⟨[] :: front, last, by simp [hc, parts]⟩
      · cases front with
        | nil => exact ⟨[], c :: last, by simp [splitOn_cons_of_ne hc, parts]⟩
        | cons part front =>
            exact ⟨(c :: part) :: front, last, by simp [splitOn_cons_of_ne hc, parts]⟩

/-- What changes no character into the separator, and no separator, changes the parts. -/
theorem splitOn_map {change : Char → Char} (keeps : ∀ c, change c = sep ↔ c = sep)
    (cs : List Char) : (cs.map change).splitOn sep = (cs.splitOn sep).map (·.map change) := by
  induction cs with
  | nil => rfl
  | cons c cs ih =>
      obtain ⟨part, parts, split⟩ := List.exists_cons_of_ne_nil (List.splitOn_ne_nil sep cs)
      rw [split] at ih
      by_cases hc : c = sep
      · subst hc
        simp [(keeps c).mpr rfl, ih, split]
      · have stays : change c ≠ sep := fun same => hc ((keeps c).mp same)
        simp [splitOn_cons_of_ne hc, splitOn_cons_of_ne stays, ih, split]

theorem intercalate_cons_cons {α : Type} {sep : α} (first second : List α)
    (parts : List (List α)) :
    [sep].intercalate (first :: second :: parts) =
      first ++ sep :: [sep].intercalate (second :: parts) := by
  rw [List.intercalate_cons_cons, List.append_assoc, List.singleton_append]

/-- What is joined begins with its first part; each other part follows a separator. -/
theorem intercalate_cons {α : Type} {sep : α} (first : List α) (parts : List (List α)) :
    [sep].intercalate (first :: parts) = first ++ parts.flatMap (sep :: ·) := by
  induction parts generalizing first with
  | nil => simp [List.intercalate]
  | cons second parts ih => rw [intercalate_cons_cons, ih, List.flatMap_cons, List.cons_append]

theorem toList_join_cons (first : String) (parts : List String) :
    (join sep (first :: parts)).toList = first.toList ++ parts.flatMap (sep :: ·.toList) := by
  rw [toList_join, List.map_cons, intercalate_cons, List.flatMap_map]

@[simp] theorem join_singleton (part : String) : join sep [part] = part := by
  rw [← String.toList_inj, toList_join_cons, List.flatMap_nil, List.append_nil]

/-- A text that holds no separator is its only part. -/
theorem split_of_not_mem {text : String} (absent : sep ∉ text.toList) :
    split sep text = [text] := by
  rw [split, List.splitOn_eq_singleton absent, List.map_singleton, String.ofList_toList]

/-- The parts of a text make it up again. -/
theorem join_split (text : String) : join sep (split sep text) = text := by
  rw [← String.toList_inj, toList_join, split, List.map_map]
  simp [Function.comp_def]

/-- What stands in front of joined parts, each with its separator. -/
theorem intercalate_append {parts : List (List Char)} (front : List (List Char))
    (full : parts ≠ []) :
    [sep].intercalate (front ++ parts) =
      front.flatMap (· ++ [sep]) ++ [sep].intercalate parts := by
  induction front with
  | nil => rfl
  | cons first front ih =>
      obtain ⟨next, others, rest⟩ :=
        List.exists_cons_of_ne_nil (List.append_ne_nil_of_right_ne_nil front full)
      rw [List.cons_append, rest, intercalate_cons_cons, ← rest, ih]
      simp

/-- A text with an empty last part ends in a separator, unless it is empty itself. -/
theorem getLast?_of_splitOn {cs : List Char} (several : cs.splitOn sep ≠ [[]])
    (last : (cs.splitOn sep).getLast? = some []) : cs.getLast? = some sep := by
  obtain ⟨front, parts⟩ := List.getLast?_eq_some_iff.mp last
  have letters := @List.intercalate_splitOn _ cs _ _ sep
  rw [parts, intercalate_append front (List.cons_ne_nil [] [])] at letters
  rw [parts] at several
  cases front using List.reverseRecOn with
  | nil => exact absurd rfl several
  | append_singleton front part =>
      rw [← letters, List.flatMap_append]
      simp [List.intercalate]

/-- Splitting joined texts splits each of them. -/
theorem splitOn_intercalate_eq_flatMap {parts : List (List Char)} (full : parts ≠ []) :
    ([sep].intercalate parts).splitOn sep = parts.flatMap (List.splitOn sep) := by
  induction parts with
  | nil => exact absurd rfl full
  | cons first parts ih =>
      cases parts with
      | nil => simp [List.intercalate]
      | cons second parts =>
          rw [intercalate_cons_cons, List.splitOn_append_cons_self,
            ih (List.cons_ne_nil second parts)]
          rfl

/-- Parts without separators are the parts of the text that they make. -/
theorem split_join {parts : List String} (full : parts ≠ [])
    (absent : ∀ part ∈ parts, sep ∉ part.toList) : split sep (join sep parts) = parts := by
  rw [split, toList_join,
    List.splitOn_intercalate sep (by simpa using absent) (by simpa using full)]
  simp [Function.comp_def]

/-- Texts joined from parts without separators are equal exactly if the parts are. -/
theorem join_inj {parts others : List String} (full : parts ≠ []) (full' : others ≠ [])
    (absent : ∀ part ∈ parts, sep ∉ part.toList) (absent' : ∀ part ∈ others, sep ∉ part.toList) :
    join sep parts = join sep others ↔ parts = others := by
  refine ⟨fun same => ?_, congrArg _⟩
  rw [← split_join full absent, same, split_join full' absent']

theorem map_intercalate (change : Char → Char) (parts : List (List Char)) :
    ([sep].intercalate parts).map change =
      [change sep].intercalate (parts.map (·.map change)) := by
  induction parts with
  | nil => rfl
  | cons first parts ih =>
      cases parts with
      | nil => simp [List.intercalate]
      | cons second parts =>
          rw [intercalate_cons_cons, List.map_append, List.map_cons, ih]
          exact (intercalate_cons_cons _ _ _).symm

/-- Between separators a joined text holds what its parts hold. -/
theorem mem_intercalate {c : Char} (different : c ≠ sep) {parts : List (List Char)} :
    c ∈ [sep].intercalate parts ↔ ∃ part ∈ parts, c ∈ part := by
  induction parts with
  | nil => simp [List.intercalate]
  | cons first parts ih =>
      cases parts with
      | nil => simp [List.intercalate]
      | cons second parts =>
          rw [intercalate_cons_cons, List.mem_append, List.mem_cons, ih]
          simp [different]

/-- A joined text has all its parts, and a separator less than there are parts. -/
theorem length_intercalate (parts : List (List Char)) (full : parts ≠ []) :
    ([sep].intercalate parts).length + 1 = parts.flatten.length + parts.length := by
  induction parts with
  | nil => exact absurd rfl full
  | cons first parts ih =>
      cases parts with
      | nil => simp [List.intercalate]
      | cons second parts =>
          have rest := ih (List.cons_ne_nil second parts)
          rw [intercalate_cons_cons]
          simp only [List.length_append, List.length_cons, List.flatten_cons] at rest ⊢
          omega

/-- Dropping empty parts makes a joined text shorter, if there are any. -/
theorem intercalate_filter_eq_iff {parts : List (List Char)}
    (some : parts.filter (!·.isEmpty) ≠ []) :
    ([sep].intercalate (parts.filter (!·.isEmpty))).length = ([sep].intercalate parts).length ↔
      [] ∉ parts := by
  have full : parts ≠ [] := by
    rintro rfl
    exact some rfl
  have letters : (parts.filter (!·.isEmpty)).flatten = parts.flatten := by
    clear some full
    induction parts with
    | nil => rfl
    | cons part parts ih => cases part <;> simp [ih]
  have whole : ([sep].intercalate parts).length + 1 = parts.flatten.length + parts.length :=
    length_intercalate parts full
  have kept : ([sep].intercalate (parts.filter (!·.isEmpty))).length + 1 =
      parts.flatten.length + (parts.filter (!·.isEmpty)).length := by
    rw [length_intercalate _ some, letters]
  constructor
  · intro same empty
    have fewer : (parts.filter (!·.isEmpty)).length < parts.length :=
      List.length_filter_lt_length_iff_exists.mpr ⟨[], empty, by simp⟩
    omega
  · intro none
    have all : parts.filter (!·.isEmpty) = parts := by
      rw [List.filter_eq_self]
      intro part member
      simp only [Bool.not_eq_true', List.isEmpty_eq_false_iff]
      rintro rfl
      exact none member
    rw [all]

end HttpAdapter.Text
