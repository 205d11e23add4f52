/-!
Sets of code points written as ascending, disjoint, closed ranges, and runs of a case mapping; the
tables of character properties are values of these types.  The smallest of them is white space, with
the trimming of a text.
-/

namespace HttpAdapter.Text

/-- A set of code points, as ascending and disjoint ranges `(first, last)`. -/
abbrev CodeRanges := List (Nat × Nat)

/-- Membership.  The ranges ascend, so the first one that ends at or after `n` decides. -/
def CodeRanges.contains : CodeRanges → Nat → Bool
  | [], _ => false
  | (first, last) :: rest, n => if n ≤ last then decide (first ≤ n) else contains rest n

/-- A run `(first, last, stride, shift)` of a case mapping: every `stride`-th code point from
    `first` to `last` moves by `shift`. -/
abbrev CaseRun := Nat × Nat × Nat × Int

/-- The image of `n` under runs that ascend; a code point in no run stays as it is. -/
def shiftByRuns : List CaseRun → Nat → Nat
  | [], n => n
  | (first, last, stride, shift) :: rest, n =>
      if first ≤ n ∧ n ≤ last ∧ (n - first) % stride = 0 then (n + shift : Int).toNat
      else shiftByRuns rest n

/-- A range that ends before `n` does not decide on it. -/
theorem CodeRanges.contains_cons_of_lt {first last n : Nat} (rest : CodeRanges) (h : last < n) :
    contains ((first, last) :: rest) n = contains rest n := by
  simp [contains, Nat.not_le.mpr h]

/-- A code point inside the first range belongs to the set. -/
theorem CodeRanges.contains_cons_of_mem {first last n : Nat} (rest : CodeRanges)
    (low : first ≤ n) (high : n ≤ last) : contains ((first, last) :: rest) n = true := by
  simp [contains, low, high]

/-!
White space and trimming.  A character is blank when Unicode gives it the property White_Space or
one of the bidirectional classes WS, B and S; the zero-width space and the byte order mark are not.
-/

/-- The blank code points. -/
def blankRanges : CodeRanges :=
  [(0x09, 0x0d), (0x1c, 0x20), (0x85, 0x85), (0xa0, 0xa0), (0x1680, 0x1680), (0x2000, 0x200a),
   (0x2028, 0x2029), (0x202f, 0x202f), (0x205f, 0x205f), (0x3000, 0x3000)]

/-- Whether a character is white space. -/
def isBlank (c : Char) : Bool := blankRanges.contains c.toNat

/-- Drops the white space at the end. -/
def trimEndChars (cs : List Char) : List Char := (cs.reverse.dropWhile isBlank).reverse

/-- Drops the white space at both ends. -/
def trimChars (cs : List Char) : List Char := trimEndChars (cs.dropWhile isBlank)

/-- The text without the white space at its ends. -/
def trim (s : String) : String := String.ofList (trimChars s.toList)

@[simp] theorem toList_trim (s : String) : (trim s).toList = trimChars s.toList := by
  simp [trim]

end HttpAdapter.Text
