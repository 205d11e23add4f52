import HttpAdapter.Grammar.Scanner
import HttpAdapter.Text.CodeRange
import HttpAdapter.Text.Quoted

/-!
What the characters of an identifier are: printable, no white space, and such as may go on a word.
Beyond ASCII the tables of code points are compared range by range.
-/

namespace HttpAdapter.Text

/-- Whether each range lies in one of the others, both in ascending order. -/
def CodeRanges.within : CodeRanges → CodeRanges → Bool
  | [], _ => true
  | (first, last) :: inner, outer =>
      match outer.dropWhile (·.2 < first) with
      | [] => false
      | (low, high) :: rest =>
          decide (first ≤ last ∧ low ≤ first ∧ last ≤ high) && within inner ((low, high) :: rest)

/-- Ranges that end too early do not matter. -/
theorem CodeRanges.contains_dropWhile {ranges : CodeRanges} {first n : Nat} (above : first ≤ n) :
    CodeRanges.contains (ranges.dropWhile (·.2 < first)) n = ranges.contains n := by
  induction ranges with
  | nil => rfl
  | cons range ranges ih =>
      obtain ⟨low, high⟩ := range
      by_cases early : high < first
      · rw [List.dropWhile_cons_of_pos (by simpa using early), ih,
          contains_cons_of_lt ranges (by omega)]
      · rw [List.dropWhile_cons_of_neg (by simpa using early)]

theorem CodeRanges.contains_of_within {inner outer : CodeRanges} (covered : inner.within outer)
    {n : Nat} (member : inner.contains n) : outer.contains n := by
  induction inner generalizing outer with
  | nil => simp [contains] at member
  | cons range inner ih =>
      obtain ⟨first, last⟩ := range
      simp only [within] at covered
      split at covered
      · cases covered
      · rename_i low high rest left
        rw [Bool.and_eq_true, decide_eq_true_eq] at covered
        obtain ⟨⟨order, below, above⟩, covered⟩ := covered
        by_cases here : n ≤ last
        · have starts : first ≤ n := by simpa [contains, here] using member
          rw [← contains_dropWhile starts, left]
          exact contains_cons_of_mem rest (by omega) (by omega)
        · rw [contains_cons_of_lt inner (by omega)] at member
          rw [← contains_dropWhile (show first ≤ n by omega), left]
          exact ih covered member

/-- A code point that ranges contain lies in one of them. -/
theorem CodeRanges.exists_of_contains {ranges : CodeRanges} {n : Nat} (member : ranges.contains n) :
    ∃ range ∈ ranges, range.1 ≤ n ∧ n ≤ range.2 := by
  induction ranges with
  | nil => simp [contains] at member
  | cons range ranges ih =>
      obtain ⟨first, last⟩ := range
      by_cases here : n ≤ last
      · exact ⟨(first, last), List.mem_cons_self, by simpa [contains, here] using member, here⟩
      · rw [contains_cons_of_lt ranges (by omega)] at member
        obtain ⟨range, inRanges, inside⟩ := ih member
        exact ⟨range, List.mem_cons_of_mem _ inRanges, inside⟩

/-- A property of all ASCII characters is one of their code points. -/
theorem forall_ascii {P : Char → Prop} (points : ∀ n < 128, P (Char.ofNat n)) {c : Char}
    (ascii : c.toNat < 128) : P c := by
  have own := points c.toNat ascii
  rwa [Char.ofNat_toNat] at own

/-- A property of all blank characters is one of their code points. -/
theorem forall_blank {P : Char → Prop} (points : ∀ range ∈ blankRanges,
      ∀ n ∈ List.range' range.1 (range.2 - range.1 + 1), P (Char.ofNat n)) {c : Char}
    (blank : isBlank c = true) : P c := by
  obtain ⟨range, listed, low, high⟩ := CodeRanges.exists_of_contains blank
  have member : c.toNat ∈ List.range' range.1 (range.2 - range.1 + 1) := by
    rw [List.mem_range'_1]
    omega
  have own := points range listed c.toNat member
  rwa [Char.ofNat_toNat] at own

section Characters

variable {c : Char}

theorem isPrintable_of_isNameChar (inner : isNameChar c = true) : isPrintable c = true := by
  by_cases ascii : c.toNat < 128
  · exact forall_ascii (P := fun c => isNameChar c = true → isPrintable c = true) (by decide)
      ascii inner
  · have start : nameStartRanges.within printableRanges = true := by decide +kernel
    have later : nameInnerRanges.within printableRanges = true := by decide +kernel
    simp only [isNameChar, ascii, if_false, Bool.or_eq_true] at inner
    rw [isPrintable, if_neg ascii]
    rcases inner with inner | inner
    · exact CodeRanges.contains_of_within start inner
    · exact CodeRanges.contains_of_within later inner

theorem isNameChar_of_isDigit (digit : c.isDigit = true) : isNameChar c = true := by
  have ascii : c.toNat < 128 := by
    simp only [Char.isDigit, Bool.and_eq_true, decide_eq_true_eq, ge_iff_le,
      UInt32.le_iff_toNat_le] at digit
    have above : c.toNat ≤ 57 := digit.2
    omega
  exact forall_ascii (P := fun c => c.isDigit = true → isNameChar c = true) (by decide) ascii digit

theorem isBlank_of_isNameChar (inner : isNameChar c = true) : isBlank c = false := by
  rw [← Bool.not_eq_true]
  intro blank
  exact forall_blank (P := fun c => isNameChar c ≠ true) (by decide +kernel) blank inner

theorem isWordChar_of_isNameChar (inner : isNameChar c = true) : Grammar.isWordChar c = true := by
  by_cases ascii : c.toNat < 128
  · simp only [isNameChar, ascii, if_true] at inner
    simp [Grammar.isWordChar, inner]
  · simp [Grammar.isWordChar, Nat.not_lt.mp ascii]

/-- What may stand in a name is none of the ASCII characters that may not. -/
theorem ne_of_isNameChar {d : Char} (inner : isNameChar c = true) (other : isNameChar d = false) :
    c ≠ d := by
  rintro rfl
  rw [inner] at other
  cases other

end Characters

/-- All characters of an identifier may stand in a name. -/
theorem isNameChar_of_mem {name : List Char} (named : isIdentifier name = true) {c : Char}
    (member : c ∈ name) : isNameChar c = true := by
  unfold isIdentifier at named
  split at named
  · simp at named
  · rw [Bool.and_eq_true, List.all_eq_true] at named
    rcases List.mem_cons.mp member with rfl | later
    · exact isNameChar_of_isNameStart named.1
    · exact named.2 c later

/-- An identifier goes on with any characters of names. -/
theorem isIdentifier_append {name more : List Char} (named : isIdentifier name = true)
    (inner : ∀ c ∈ more, isNameChar c = true) : isIdentifier (name ++ more) = true := by
  unfold isIdentifier at named
  split at named
  · simp at named
  · rw [Bool.and_eq_true] at named
    simp only [List.cons_append, isIdentifier, List.all_append, named.1, named.2,
      Bool.true_and, List.all_eq_true]
    exact inner

end HttpAdapter.Text
