import HttpAdapter.Proofs.Text.Identifier
import HttpAdapter.Text.LetterCase

/-!
What the case mappings leave alone.  Neither of them brings in a character that ends a literal or a
line or begins an escape, or the null character: `mem_of_mem_upper`, `mem_of_mem_lower`.  White
space stays in lower case what it is.
-/

namespace HttpAdapter.Text

/-- The characters that end a literal or a line or begin an escape, and the null character, which
    no program holds. -/
def breaks : List Char := ['"', '\\', '\n', '\r', '\x00']

/-- What holds of each of them holds of all. -/
theorem forall_breaks {P : Char → Prop} (quote : P '"') (backslash : P '\\') (lineFeed : P '\n')
    (carriageReturn : P '\r') (null : P '\x00') : ∀ d ∈ breaks, P d := by
  simp only [breaks, List.forall_mem_cons]
  exact ⟨quote, backslash, lineFeed, carriageReturn, null, List.forall_mem_nil P⟩

/-- None of them may stand in a name. -/
theorem not_mem_breaks_of_isNameChar {c : Char} (inner : isNameChar c = true) : c ∉ breaks := by
  intro special
  have others : ∀ d ∈ breaks, isNameChar d = false := forall_breaks rfl rfl rfl rfl rfl
  exact ne_of_isNameChar inner (others c special) rfl

/-- Whether a run moves its code points to code points of characters other than the first. -/
def CaseRun.staysValid (run : CaseRun) : Bool :=
  let (first, last, _, shift) := run
  decide (0 < first + shift ∧
    (last + shift < 0xd800 ∨ 0xdfff < first + shift ∧ last + shift < 0x110000))

section Runs

variable {runs : List CaseRun} {n : Nat} (stay : ∀ run ∈ runs, CaseRun.staysValid run = true)

include stay

/-- Runs that stay valid move the code point of a character to that of a character. -/
theorem isValidChar_shiftByRuns (valid : n.isValidChar) : (shiftByRuns runs n).isValidChar := by
  induction runs with
  | nil => exact valid
  | cons run runs ih =>
      obtain ⟨first, last, stride, shift⟩ := run
      rw [List.forall_mem_cons] at stay
      obtain ⟨here, stay⟩ := stay
      simp only [shiftByRuns]
      split
      · have inside := of_decide_eq_true here
        simp only [Nat.isValidChar]
        omega
      · exact ih stay

/-- A code point beyond ASCII does not move to one within it that no run reaches. -/
theorem shiftByRuns_ne {k : Nat}
    (apart : ∀ run ∈ runs, k < run.1 + run.2.2.2 ∨ run.2.1 + run.2.2.2 < k)
    (ascii : k < 128) (beyond : 128 ≤ n) : shiftByRuns runs n ≠ k := by
  induction runs with
  | nil =>
      simp only [shiftByRuns]
      omega
  | cons run runs ih =>
      obtain ⟨first, last, stride, shift⟩ := run
      rw [List.forall_mem_cons] at apart stay
      obtain ⟨here, apart⟩ := apart
      obtain ⟨valid, stay⟩ := stay
      simp only [shiftByRuns]
      split
      · have inside := of_decide_eq_true valid
        simp only at here
        omega
      · exact ih stay apart

end Runs

theorem toNat_ofNat_of_isValidChar {n : Nat} (valid : n.isValidChar) :
    (Char.ofNat n).toNat = n := by
  rw [Char.ofNat, dif_pos valid]
  rfl

/-- A mapping beyond ASCII brings in no character that neither its expansions nor its runs
    reach. -/
theorem not_mem_mapCase {expansions : List (Nat × List Nat)} {runs : List CaseRun} {c d : Char}
    (images : ∀ entry ∈ expansions, d ∉ entry.2.map Char.ofNat)
    (stay : ∀ run ∈ runs, CaseRun.staysValid run = true)
    (apart : ∀ run ∈ runs, d.toNat < run.1 + run.2.2.2 ∨ run.2.1 + run.2.2.2 < d.toNat)
    (ascii : d.toNat < 128) (beyond : 128 ≤ c.toNat) : d ∉ mapCase expansions runs c.toNat := by
  unfold mapCase
  split
  · rename_i image found
    obtain ⟨front, back, entries, -⟩ := List.lookup_eq_some_iff.mp found
    exact images (c.toNat, image) (by simp [entries])
  · rw [List.mem_singleton]
    rintro rfl
    have valid : (shiftByRuns runs c.toNat).isValidChar := isValidChar_shiftByRuns stay c.valid
    rw [toNat_ofNat_of_isValidChar valid] at apart ascii
    exact shiftByRuns_ne stay apart ascii beyond rfl

/-- Whether the tables of a case mapping, and what it does within ASCII, bring in none of the
    breaks. -/
def avoidsBreaks (expansions : List (Nat × List Nat)) (runs : List CaseRun)
    (within : Char → Char) : Bool :=
  runs.all CaseRun.staysValid && breaks.all fun d =>
    expansions.all (fun entry => decide (d ∉ entry.2.map Char.ofNat)) &&
    runs.all (fun run =>
      decide (d.toNat < run.1 + run.2.2.2 ∨ run.2.1 + run.2.2.2 < d.toNat)) &&
    (List.range 128).all fun n => decide (d = within (Char.ofNat n) → Char.ofNat n = d)

/-- A case mapping brings in none of the breaks, if its tables do not. -/
theorem eq_of_mem_mapped {expansions : List (Nat × List Nat)} {runs : List CaseRun}
    {within : Char → Char} (avoids : avoidsBreaks expansions runs within = true) {c d : Char}
    (special : d ∈ breaks)
    (member : d ∈ if c.toNat < 128 then [within c] else mapCase expansions runs c.toNat) :
    c = d := by
  simp only [avoidsBreaks, Bool.and_eq_true, List.all_eq_true, decide_eq_true_eq] at avoids
  obtain ⟨stay, avoids⟩ := avoids
  obtain ⟨⟨images, apart⟩, points⟩ := avoids d special
  split at member
  · rename_i ascii
    rw [List.mem_singleton] at member
    exact forall_ascii (P := fun c => d = within c → c = d)
      (fun n inAscii => points n (List.mem_range.mpr inAscii)) ascii member
  · rename_i beyond
    have ascii : ∀ d ∈ breaks, d.toNat < 128 :=
      forall_breaks (by decide) (by decide) (by decide) (by decide) (by decide)
    exact absurd member (not_mem_mapCase images stay apart (ascii d special) (Nat.not_lt.mp beyond))

/-- Upper case brings in none of the breaks. -/
theorem eq_of_mem_upperChar {c d : Char} (special : d ∈ breaks) (member : d ∈ upperChar c) :
    c = d := eq_of_mem_mapped (by decide +kernel) special member

/-- Lower case brings in none of the breaks. -/
theorem eq_of_mem_lowerChar {c d : Char} (special : d ∈ breaks) (member : d ∈ lowerChar c) :
    c = d := eq_of_mem_mapped (by decide +kernel) special member

/-- A text in upper case has only the breaks that it had. -/
theorem mem_of_mem_upper {s : String} {d : Char} (special : d ∈ breaks)
    (member : d ∈ (upper s).toList) : d ∈ s.toList := by
  rw [toList_upper] at member
  obtain ⟨c, inText, inUpper⟩ := List.mem_flatMap.mp member
  exact eq_of_mem_upperChar special inUpper ▸ inText

/-- A character that is its own upper-case form stays in a text. -/
theorem mem_upper {s : String} {c : Char} (own : c ∈ upperChar c) (member : c ∈ s.toList) :
    c ∈ (upper s).toList := by
  rw [toList_upper]
  exact List.mem_flatMap.mpr ⟨c, member, own⟩

theorem mem_of_mem_lowerAfter {before cs : List Char} {d : Char} (special : d ∈ breaks)
    (member : d ∈ lowerAfter before cs) : d ∈ cs := by
  induction cs generalizing before with
  | nil => simp [lowerAfter] at member
  | cons c cs ih =>
      rw [lowerAfter, List.mem_append] at member
      rcases member with here | later
      · split at here
        · have sigma : lowerSigma before cs ∉ breaks := by
            unfold lowerSigma
            split <;> decide
          rw [List.mem_singleton] at here
          exact absurd (here ▸ special) sigma
        · rw [eq_of_mem_lowerChar special here]
          exact List.mem_cons_self
      · exact List.mem_cons_of_mem c (ih later)

/-- A text in lower case has only the breaks that it had. -/
theorem mem_of_mem_lower {s : String} {d : Char} (special : d ∈ breaks)
    (member : d ∈ (lower s).toList) : d ∈ s.toList := by
  rw [toList_lower] at member
  exact mem_of_mem_lowerAfter special member

/-- A character that is its own lower-case form stays in a text. -/
theorem mem_lowerAfter {before cs : List Char} {c : Char} (own : c ∈ lowerChar c)
    (other : c ≠ '\u03a3') (member : c ∈ cs) : c ∈ lowerAfter before cs := by
  induction cs generalizing before with
  | nil => cases member
  | cons d cs ih =>
      rw [lowerAfter, List.mem_append]
      rcases List.mem_cons.mp member with rfl | later
      · rw [if_neg other]
        exact Or.inl own
      · exact Or.inr (ih later)

theorem mem_lower {s : String} {c : Char} (own : c ∈ lowerChar c) (other : c ≠ '\u03a3')
    (member : c ∈ s.toList) : c ∈ (lower s).toList := by
  rw [toList_lower]
  exact mem_lowerAfter own other member

/-- White space is the same in lower case. -/
theorem mem_lower_of_isBlank {s : String} {c : Char} (blank : isBlank c = true)
    (member : c ∈ s.toList) : c ∈ (lower s).toList := by
  have same : c ∈ lowerChar c ∧ c ≠ '\u03a3' :=
    forall_blank (P := fun c => c ∈ lowerChar c ∧ c ≠ '\u03a3') (by decide +kernel) blank
  exact mem_lower same.1 same.2 member

end HttpAdapter.Text
