import HttpAdapter.Proofs.Text.Split
import HttpAdapter.Proofs.Text.Trim
import HttpAdapter.Rendering.Module
import HttpAdapter.Grammar.Program
import Mathlib.Data.List.Forall2
import Mathlib.Data.List.Induction
import Mathlib.Data.List.TakeWhile

/-!
What the tidy layout of a text leaves.  Each line loses the white space at its end, and empty lines
may be gone: `exists_drops_tidyChars`.  Which of them are gone plays no part in what the text means,
so that is all there is to say of it.
-/

namespace HttpAdapter

open Text

/-- Lines of which some empty ones are gone. -/
inductive Drops : List (List Char) → List (List Char) → Prop
  | nil : Drops [] []
  | keep {lines kept : List (List Char)} (line : List Char) :
      Drops lines kept → Drops (line :: lines) (line :: kept)
  | drop {lines kept : List (List Char)} : Drops lines kept → Drops ([] :: lines) kept

namespace Drops

variable {lines kept fewer front back : List (List Char)} {line : List Char}

theorem refl : (lines : List (List Char)) → Drops lines lines
  | [] => nil
  | line :: lines => keep line (refl lines)

theorem trans (first : Drops lines kept) (second : Drops kept fewer) : Drops lines fewer := by
  induction first generalizing fewer with
  | nil => exact second
  | keep line _ ih =>
      cases second with
      | keep _ second => exact keep line (ih second)
      | drop second => exact drop (ih second)
  | drop _ ih => exact drop (ih second)

theorem append {others : List (List Char)} (first : Drops lines kept)
    (second : Drops others fewer) : Drops (lines ++ others) (kept ++ fewer) := by
  induction first with
  | nil => exact second
  | keep line _ ih => exact keep line ih
  | drop _ ih => exact drop ih

theorem of_empty (empty : ∀ line ∈ lines, line = []) : Drops lines [] := by
  induction lines with
  | nil => exact nil
  | cons line lines ih =>
      rw [List.forall_mem_cons] at empty
      obtain ⟨rfl, empty⟩ := empty
      exact drop (ih empty)

/-- What is left of two pieces is what is left of each. -/
theorem of_append (drops : Drops (front ++ back) kept) :
    ∃ first second, kept = first ++ second ∧ Drops front first ∧ Drops back second := by
  induction front generalizing kept with
  | nil => exact ⟨[], kept, rfl, nil, drops⟩
  | cons line front ih =>
      cases drops with
      | keep _ drops =>
          obtain ⟨first, second, rfl, left, right⟩ := ih drops
          exact ⟨line :: first, second, rfl, keep line left, right⟩
      | drop drops =>
          obtain ⟨first, second, rfl, left, right⟩ := ih drops
          exact ⟨first, second, rfl, drop left, right⟩

/-- A line that is not empty stays. -/
theorem of_cons (drops : Drops (line :: lines) kept) (full : line ≠ []) :
    ∃ rest, kept = line :: rest ∧ Drops lines rest := by
  cases drops with
  | keep _ drops => exact ⟨_, rfl, drops⟩
  | drop drops => exact absurd rfl full

theorem subset (drops : Drops lines kept) : kept ⊆ lines := by
  induction drops with
  | nil => exact List.Subset.refl _
  | keep line _ ih => exact List.cons_subset_cons line ih
  | drop _ ih => exact List.subset_cons_of_subset _ ih

/-- Only empty lines are gone. -/
theorem mem_of_ne_nil (drops : Drops lines kept) (member : line ∈ lines) (full : line ≠ []) :
    line ∈ kept := by
  induction drops with
  | nil => exact member
  | keep other _ ih =>
      rcases List.mem_cons.mp member with rfl | later
      · exact List.mem_cons_self
      · exact List.mem_cons_of_mem other (ih later)
  | drop _ ih => exact ih (List.mem_of_ne_of_mem full member)

end Drops

theorem drops_squeezeLines (empty : Nat) (lines : List (List Char)) :
    Drops lines (squeezeLines empty lines) := by
  fun_induction squeezeLines empty lines with
  | case1 => exact .nil
  | case2 empty lines _ ih => exact .keep [] ih
  | case3 empty lines _ ih => exact .drop ih
  | case4 empty c cs lines ih => exact .keep (c :: cs) ih

theorem drops_dropWhile_isEmpty (lines : List (List Char)) :
    Drops lines (lines.dropWhile (·.isEmpty)) := by
  induction lines with
  | nil => exact .nil
  | cons line lines ih =>
      cases line with
      | nil => exact .drop ih
      | cons c cs => exact .refl _

theorem dropEmptyEnd_eq_rdropWhile (lines : List (List Char)) :
    dropEmptyEnd lines = lines.rdropWhile (·.isEmpty) := rfl

theorem drops_dropEmptyEnd (lines : List (List Char)) : Drops lines (dropEmptyEnd lines) := by
  have empty : ∀ line ∈ lines.rtakeWhile (·.isEmpty), line = [] := fun _ member =>
    List.isEmpty_iff.mp (List.mem_rtakeWhile_imp member)
  have whole := (Drops.refl (dropEmptyEnd lines)).append (.of_empty empty)
  rwa [dropEmptyEnd_eq_rdropWhile, List.rdropWhile_append_rtakeWhile, List.append_nil] at whole

/-- The lines of a text, without the white space at their ends. -/
def trimmedLines (text : List Char) : List (List Char) := (text.splitOn '\n').map trimEndChars

theorem drops_tidyLines (text : List Char) : Drops (trimmedLines text) (tidyLines text) :=
  ((drops_dropWhile_isEmpty _).trans (drops_squeezeLines 0 _)).trans (drops_dropEmptyEnd _)

/-- A text made of lines has those of each of them, and an empty one at its end. -/
theorem trimmedLines_flatMap (lines : List (List Char)) :
    trimmedLines (lines.flatMap (· ++ ['\n'])) = lines.flatMap trimmedLines ++ [[]] := by
  induction lines with
  | nil => rfl
  | cons line lines ih =>
      rw [List.flatMap_cons, List.flatMap_cons, List.append_assoc, List.append_assoc, ← ih]
      change trimmedLines (line ++ '\n' :: lines.flatMap (· ++ ['\n'])) = _
      rw [trimmedLines, List.splitOn_append_cons_self, List.map_append]
      rfl

/-- Of a text made of lines, its tidy layout leaves all but some empty lines. -/
theorem exists_drops_tidyChars (lines : List (List Char)) :
    ∃ kept, Drops (lines.flatMap trimmedLines ++ [[]]) kept ∧
      tidyChars (lines.flatMap (· ++ ['\n'])) = kept.flatMap (· ++ ['\n']) := by
  have drops := drops_tidyLines (lines.flatMap (· ++ ['\n']))
  rw [trimmedLines_flatMap] at drops
  rw [tidyChars]
  cases tidy : tidyLines (lines.flatMap (· ++ ['\n'])) using List.reverseRecOn with
  | nil =>
      -- The layout of a text without any line that stays is one empty line.
      rw [tidy] at drops
      obtain ⟨first, second, none, left, -⟩ := drops.of_append
      obtain ⟨rfl, -⟩ := List.append_eq_nil_iff.mp none.symm
      exact ⟨[[]], left.append (.keep [] .nil), rfl⟩
  | append_singleton front last =>
      refine ⟨front ++ [last], tidy ▸ drops, ?_⟩
      rw [intercalate_append front (List.cons_ne_nil last []), List.flatMap_append]
      simp [List.intercalate]

/-- A text keeps what is visible. -/
theorem mem_tidyChars_iff {text : List Char} {c : Char} (visible : isBlank c = false) :
    c ∈ tidyChars text ↔ c ∈ text := by
  have other : c ≠ '\n' := by
    rintro rfl
    exact absurd visible (by decide)
  have tidy : c ∈ tidyChars text ↔ ∃ line ∈ tidyLines text, c ∈ line := by
    rw [tidyChars, List.mem_append, List.mem_singleton, or_iff_left other, mem_intercalate other]
  have whole : c ∈ text ↔ ∃ line ∈ text.splitOn '\n', c ∈ line := by
    rw [← mem_intercalate other, List.intercalate_splitOn]
  rw [tidy, whole]
  have drops := drops_tidyLines text
  constructor
  · rintro ⟨line, kept, inLine⟩
    obtain ⟨part, inText, rfl⟩ := List.mem_map.mp (drops.subset kept)
    exact ⟨part, inText, (mem_trimEndChars_iff visible).mp inLine⟩
  · rintro ⟨part, inText, inPart⟩
    have shown := (mem_trimEndChars_iff visible).mpr inPart
    exact ⟨_, drops.mem_of_ne_nil (List.mem_map_of_mem inText) (List.ne_nil_of_mem shown), shown⟩

section Lines

theorem lineEnd_not_mem_tidyLines {text line : List Char} (member : line ∈ tidyLines text) :
    '\n' ∉ line := by
  obtain ⟨part, inParts, rfl⟩ := List.mem_map.mp ((drops_tidyLines text).subset member)
  obtain ⟨blanks, -, letters⟩ := eq_trimEndChars_append part
  intro inLine
  exact not_mem_of_mem_splitOn inParts (letters ▸ List.mem_append_left blanks inLine)

/-- The lines of the tidy layout of a text are its tidy lines, if it has any, and an empty one at
    the end. -/
theorem splitOn_tidyChars (text : List Char) :
    (tidyChars text).splitOn '\n' =
      (if tidyLines text = [] then [[]] else tidyLines text) ++ [[]] := by
  have last : (tidyChars text).splitOn '\n' =
      (['\n'].intercalate (tidyLines text)).splitOn '\n' ++ [[]] :=
    List.splitOn_append_cons_self (['\n'].intercalate (tidyLines text)) []
  rw [last]
  by_cases none : tidyLines text = []
  · rw [if_pos none, none]
    rfl
  · rw [if_neg none,
      List.splitOn_intercalate '\n' (fun _ member => lineEnd_not_mem_tidyLines member) none]

variable {S : List Char → List Char → Prop} {lines lines' : List (List Char)}

section Related

variable (empty : ∀ line line', S line line' → (line = [] ↔ line' = []))

include empty

theorem forall₂_dropWhile_isEmpty (rows : List.Forall₂ S lines lines') :
    List.Forall₂ S (lines.dropWhile (·.isEmpty)) (lines'.dropWhile (·.isEmpty)) := by
  induction rows with
  | nil => exact .nil
  | @cons line line' _ _ first rest ih =>
      have same : line.isEmpty = line'.isEmpty := by
        rw [Bool.eq_iff_iff, List.isEmpty_iff, List.isEmpty_iff]
        exact empty line line' first
      rw [List.dropWhile_cons, List.dropWhile_cons, same]
      split
      · exact ih
      · exact .cons first rest

theorem forall₂_squeezeLines (count : Nat) (rows : List.Forall₂ S lines lines') :
    List.Forall₂ S (squeezeLines count lines) (squeezeLines count lines') := by
  induction rows generalizing count with
  | nil => exact .nil
  | @cons line line' _ _ first rest ih =>
      have same := empty line line' first
      cases line with
      | nil =>
          rw [same.mp rfl] at first ⊢
          rw [squeezeLines, squeezeLines]
          split
          · exact .cons first (ih (count + 1))
          · exact ih (count + 1)
      | cons c cs =>
          obtain ⟨d, ds, rfl⟩ := List.exists_cons_of_ne_nil (mt same.mpr (List.cons_ne_nil c cs))
          rw [squeezeLines, squeezeLines]
          exact .cons first (ih 0)

/-- Texts with related lines have related tidy lines, if related lines are both empty or neither
    is. -/
theorem forall₂_tidyLines {text text' : List Char}
    (rows : List.Forall₂ S (trimmedLines text) (trimmedLines text')) :
    List.Forall₂ S (tidyLines text) (tidyLines text') := by
  have squeezed := forall₂_squeezeLines empty 0 (forall₂_dropWhile_isEmpty empty rows)
  have front := forall₂_dropWhile_isEmpty empty (List.forall₂_reverse_iff.mpr squeezed)
  exact List.forall₂_reverse_iff.mpr front

theorem forall₂_splitOn_tidyChars (reflexive : S [] []) {text text' : List Char}
    (rows : List.Forall₂ S (trimmedLines text) (trimmedLines text')) :
    List.Forall₂ S ((tidyChars text).splitOn '\n') ((tidyChars text').splitOn '\n') := by
  have tidy := forall₂_tidyLines empty rows
  have none : tidyLines text = [] ↔ tidyLines text' = [] := by
    rw [← List.length_eq_zero_iff, ← List.length_eq_zero_iff, tidy.length_eq]
  rw [splitOn_tidyChars, splitOn_tidyChars]
  refine List.rel_append ?_ (.cons reflexive .nil)
  simp only [none]
  split
  · exact .cons reflexive .nil
  · exact tidy

end Related

end Lines

end HttpAdapter
