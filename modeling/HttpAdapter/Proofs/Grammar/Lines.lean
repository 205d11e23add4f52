import HttpAdapter.Proofs.Grammar.Lexing

/-!
How lines fall into tokens when their layout is tidied.  `Scans` says so for every choice of the
empty lines that are gone; lines that are fixed are read by `readFixed`, others by a piece of text
at a time, and a docstring by the reader of its literal.  A line that is less deep than the open
blocks closes them, and else is read as if they were not there: `Scans.dedent`.
-/

namespace HttpAdapter.Grammar

open HttpAdapter.Text

theorem unifyLineEnds_of_not_mem {cs : List Char} (absent : '\r' ∉ cs) : unifyLineEnds cs = cs := by
  fun_induction unifyLineEnds cs with
  | case1 => rfl
  | case2 cs _ => simp at absent
  | case3 c cs _ ih =>
      obtain ⟨other, absent⟩ := List.ne_and_not_mem_of_not_mem_cons absent
      rw [if_neg (Ne.symm other), ih absent]

theorem unifyLineEnds_cons {c : Char} {cs : List Char}
    (apart : c = '\r' → cs.head? ≠ some '\n') :
    unifyLineEnds (c :: cs) = (if c = '\r' then '\n' else c) :: unifyLineEnds cs := by
  rw [unifyLineEnds]
  rintro cs rfl rfl
  exact apart rfl rfl

/-- A line end behind what is none is a line end of its own. -/
theorem unifyLineEnds_append {cs : List Char} (ds : List Char) (ends : cs.getLast? ≠ some '\r') :
    unifyLineEnds (cs ++ '\n' :: ds) = unifyLineEnds cs ++ '\n' :: unifyLineEnds ds := by
  fun_induction unifyLineEnds cs with
  | case1 => simp [unifyLineEnds]
  | case2 cs ih =>
      have shorter : cs.getLast? ≠ some '\r' := by
        intro last
        cases cs <;> simp_all
      simp [unifyLineEnds, ih shorter]
  | case3 c cs notBoth ih =>
      have shorter : cs.getLast? ≠ some '\r' := by
        intro last
        cases cs <;> simp_all
      have apart : c = '\r' → (cs ++ '\n' :: ds).head? ≠ some '\n' := by
        rintro rfl next
        cases cs with
        | nil => exact ends rfl
        | cons d cs =>
            cases next
            exact notBoth cs rfl rfl
      rw [List.cons_append, unifyLineEnds_cons apart, ih shorter, List.cons_append]

/-- The text of lines with one kind of line end. -/
def unified (lines : List (List Char)) : List Char :=
  lines.flatMap fun line => unifyLineEnds line ++ ['\n']

theorem unifyLineEnds_flatMap {lines : List (List Char)}
    (ends : ∀ line ∈ lines, line.getLast? ≠ some '\r') :
    unifyLineEnds (lines.flatMap (· ++ ['\n'])) = unified lines := by
  induction lines with
  | nil => rfl
  | cons line lines ih =>
      rw [List.forall_mem_cons] at ends
      rw [List.flatMap_cons, List.append_assoc, List.singleton_append,
        unifyLineEnds_append _ ends.1, ih ends.2]
      simp [unified]

/-- Lines lead from a spot to another one, whichever empty lines are gone, and the tokens on the
    way are as `P` says. -/
def Scans (p : Spot) (lines : List String) (q : Spot) (P : List Token → Prop) : Prop :=
  ∀ kept, Drops (lines.flatMap fun line => trimmedLines line.toList) kept →
    ∃ ts, P ts ∧ Reads p (unified kept) q ts

section Scans

variable {p q r : Spot} {lines more : List String} {P Q R : List Token → Prop}

theorem Scans.append (first : Scans p lines q P) (second : Scans q more r Q)
    (both : ∀ ts us, P ts → Q us → R (ts ++ us)) : Scans p (lines ++ more) r R := by
  intro kept drops
  rw [List.flatMap_append] at drops
  obtain ⟨front, back, rfl, left, right⟩ := drops.of_append
  obtain ⟨ts, own, read⟩ := first front left
  obtain ⟨us, others, onward⟩ := second back right
  refine ⟨ts ++ us, both ts us own others, ?_⟩
  rw [unified, List.flatMap_append]
  exact read.append onward

/-- Lines with just these tokens, one after the other. -/
theorem Scans.append_eq {ts us : List Token} (first : Scans p lines q (· = ts))
    (second : Scans q more r (· = us)) : Scans p (lines ++ more) r (· = ts ++ us) := by
  refine first.append second ?_
  rintro _ _ rfl rfl
  rfl

theorem Scans.mono (scans : Scans p lines q P) (weaker : ∀ ts, P ts → Q ts) :
    Scans p lines q Q := by
  intro kept drops
  obtain ⟨ts, own, read⟩ := scans kept drops
  exact ⟨ts, weaker ts own, read⟩

/-- Pieces that each lead back to where they start do so one after the other. -/
theorem Scans.flatMap {α : Type} {as : List α} {piece : α → List String}
    (each : ∀ a ∈ as, Scans p (piece a) p P) (none : P [])
    (both : ∀ ts us, P ts → P us → P (ts ++ us)) : Scans p (as.flatMap piece) p P := by
  induction as with
  | nil =>
      intro kept drops
      cases drops
      exact ⟨[], none, rfl⟩
  | cons a as ih =>
      rw [List.forall_mem_cons] at each
      exact each.1.append (ih each.2) both

end Scans

section Lines

variable {blocks : List (Nat × Nat)} {brackets : List Bracket} {p q : Spot}
variable {line : String} {lines : List String} {ts : List Token} {P : List Token → Prop}

/-- An empty line at the start of a line changes nothing. -/
theorem reads_newline :
    Reads (lineStart blocks brackets) ['\n'] (lineStart blocks brackets) [] := rfl

/-- An empty line changes nothing, whether it stays or not. -/
theorem Scans.blank (scans : Scans (lineStart blocks brackets) lines q P) :
    Scans (lineStart blocks brackets) ("" :: lines) q P := by
  intro kept drops
  cases drops with
  | keep _ drops =>
      obtain ⟨ts, own, read⟩ := scans _ drops
      exact ⟨ts, own, reads_newline.append read⟩
  | drop drops => exact scans kept drops

/-- A line that its layout leaves as it is. -/
structure IsWhole (line : String) : Prop where
  full : line.toList ≠ []
  trimmed : trimmedLines line.toList = [line.toList]
  noReturn : '\r' ∉ line.toList

instance (line : String) : Decidable (IsWhole line) :=
  decidable_of_iff
    (line.toList ≠ [] ∧ trimmedLines line.toList = [line.toList] ∧ '\r' ∉ line.toList)
    ⟨fun ⟨full, trimmed, noReturn⟩ => ⟨full, trimmed, noReturn⟩,
      fun ⟨full, trimmed, noReturn⟩ => ⟨full, trimmed, noReturn⟩⟩

/-- A line ends in what is visible and holds no line end before. -/
theorem isWhole_append {front ending : String} (full : ending.toList ≠ [])
    (visible : trimEndChars ending.toList = ending.toList)
    (inFront : ∀ c ∈ front.toList, c ≠ '\n' ∧ c ≠ '\r')
    (inEnding : ∀ c ∈ ending.toList, c ≠ '\n' ∧ c ≠ '\r') : IsWhole (front ++ ending) := by
  have absent (d : Char) (special : d = '\n' ∨ d = '\r') : d ∉ (front ++ ending).toList := by
    rw [String.toList_append, List.mem_append]
    rintro (member | member)
    · rcases special with rfl | rfl
      · exact (inFront _ member).1 rfl
      · exact (inFront _ member).2 rfl
    · rcases special with rfl | rfl
      · exact (inEnding _ member).1 rfl
      · exact (inEnding _ member).2 rfl
  refine ⟨by simp [full], ?_, absent _ (Or.inr rfl)⟩
  rw [trimmedLines, List.splitOn_eq_singleton (absent _ (Or.inl rfl)), String.toList_append,
    List.map_singleton, trimEndChars_append full visible]

/-- What is left of lines that begin with a whole one begins with it. -/
theorem IsWhole.exists_kept (whole : IsWhole line) (lines : List String) {kept : List (List Char)}
    (drops : Drops ((line :: lines).flatMap fun line => trimmedLines line.toList) kept) :
    ∃ rest, unified kept = line.toList ++ '\n' :: unified rest ∧
      Drops (lines.flatMap fun line => trimmedLines line.toList) rest := by
  rw [List.flatMap_cons, whole.trimmed, List.singleton_append] at drops
  obtain ⟨rest, rfl, others⟩ := drops.of_cons whole.full
  refine ⟨rest, ?_, others⟩
  rw [unified, List.flatMap_cons, unifyLineEnds_of_not_mem whole.noReturn, List.append_assoc]
  rfl

/-- A whole line is read as it is written. -/
theorem Scans.single (whole : IsWhole line) (read : Reads p (line.toList ++ ['\n']) q ts) :
    Scans p [line] q (· = ts) := by
  intro kept drops
  obtain ⟨rest, letters, drops⟩ := whole.exists_kept _ drops
  cases drops
  exact ⟨ts, rfl, letters ▸ read⟩

/-- A comment has no tokens. -/
theorem reads_comment {text : List Char} (inText : '\n' ∉ text) :
    Reads (lineStart blocks brackets) ('#' :: text ++ ['\n']) (lineStart blocks brackets) [] := by
  have inside : Reads ⟨.comment true, blocks, brackets⟩ text ⟨.comment true, blocks, brackets⟩
      [] := by
    induction text with
    | nil => rfl
    | cons c text ih =>
        obtain ⟨other, inText⟩ := List.ne_and_not_mem_of_not_mem_cons inText
        refine Reads.cons ?_ (ih inText)
        simp [Spot.scanner, Scanner.step, Ne.symm other]
  exact Reads.cons rfl (inside.append rfl)

theorem Scans.comment {text : List Char} (letters : line.toList = '#' :: text)
    (inText : ∀ c ∈ text, c ≠ '\n' ∧ c ≠ '\r') :
    Scans (lineStart blocks brackets) [line] (lineStart blocks brackets) (· = []) := by
  obtain ⟨shorter, subset, trimmed⟩ : ∃ shorter, shorter ⊆ text ∧
      trimEndChars ('#' :: text) = '#' :: shorter :=
    exists_trimEndChars_cons (by decide) text
  have noEnd : '\n' ∉ line.toList := by
    rw [letters, List.mem_cons, not_or]
    exact ⟨by decide, fun member => (inText _ member).1 rfl⟩
  intro kept drops
  simp only [List.flatMap_cons, List.flatMap_nil, List.append_nil] at drops
  rw [trimmedLines, List.splitOn_eq_singleton noEnd, List.map_singleton, letters, trimmed] at drops
  obtain ⟨rest, rfl, others⟩ := drops.of_cons (List.cons_ne_nil _ _)
  cases others
  have whole : '\r' ∉ '#' :: shorter := by
    rw [List.mem_cons, not_or]
    exact ⟨by decide, fun member => (inText _ (subset member)).2 rfl⟩
  refine ⟨[], rfl, ?_⟩
  rw [unified, List.flatMap_singleton, unifyLineEnds_of_not_mem whole]
  exact reads_comment fun member => (inText _ (subset member)).1 rfl

/-- Reads lines of which each one leads to the start of a line; the empty ones are left out. -/
def readFixed (p : Spot) : List String → Option (Spot × List Token)
  | [] => some (p, [])
  | line :: lines =>
      if line.toList = [] then
        if p.mode = .margin .start then readFixed p lines else none
      else if trimmedLines line.toList = [line.toList] ∧ '\r' ∉ line.toList then
        (scanFrom (p.scanner []) (line.toList ++ ['\n'])).bind fun s =>
          (readFixed ⟨s.mode, s.blocks, s.brackets⟩ lines).map fun (q, ts) =>
            (q, s.tokens.reverse ++ ts)
      else none

/-- Fixed lines have fixed tokens. -/
theorem Scans.fixed (read : readFixed p lines = some (q, ts)) : Scans p lines q (· = ts) := by
  induction lines generalizing p ts with
  | nil =>
      intro kept drops
      cases drops
      cases read
      exact ⟨[], rfl, rfl⟩
  | cons line lines ih =>
      simp only [readFixed] at read
      split at read
      · rename_i empty
        split at read
        · rename_i start
          obtain ⟨mode, blocks, brackets⟩ := p
          cases start
          rw [String.toList_eq_nil_iff] at empty
          subst empty
          exact (ih read).blank
        · cases read
      · rename_i full
        split at read
        · rename_i whole
          obtain ⟨s, scanned, read⟩ := Option.bind_eq_some_iff.mp read
          obtain ⟨⟨r, us⟩, rest, same⟩ := Option.map_eq_some_iff.mp read
          cases same
          have first : Reads p (line.toList ++ ['\n']) ⟨s.mode, s.blocks, s.brackets⟩
              s.tokens.reverse := by
            rw [Reads, scanned, List.reverse_reverse]
            rfl
          refine (Scans.single ⟨full, whole.1, whole.2⟩ first).append (ih rest) ?_
          rintro _ _ rfl rfl
          exact rfl
        · cases read

end Lines

section Dedent

variable {extra base : List (Nat × Nat)} {column : Nat} {q : Spot} {ts : List Token}

theorem closeBlocks_append (wider : ∀ block ∈ extra, column < block.1)
    (inLine : base.headD (0, 0) = (column, column)) (tokens : List Token) :
    Scanner.closeBlocks column (extra ++ base) tokens =
      (base, List.replicate extra.length Token.dedent ++ tokens) := by
  induction extra generalizing tokens with
  | nil =>
      cases base with
      | nil => rfl
      | cons block base =>
          obtain ⟨width, narrow⟩ := block
          cases inLine
          simp [Scanner.closeBlocks]
  | cons block extra ih =>
      obtain ⟨width, narrow⟩ := block
      rw [List.forall_mem_cons] at wider
      rw [List.cons_append, Scanner.closeBlocks, if_pos wider.1, ih wider.2, List.length_cons,
        List.replicate_succ', List.append_assoc]
      rfl

/-- A line in line with one of the open blocks closes those inside it. -/
theorem indentLine?_append (extra base : List (Nat × Nat))
    (wider : ∀ block ∈ extra, column < block.1)
    (inLine : base.headD (0, 0) = (column, column)) (mode : Mode) :
    (Spot.scanner ⟨mode, extra ++ base, []⟩ []).indentLine? column column =
      some (Spot.scanner ⟨mode, base, []⟩ (List.replicate extra.length .dedent)) := by
  have notDeeper : ¬ ((extra ++ base).headD (0, 0)).1 < column := by
    cases extra with
    | nil =>
        rw [List.nil_append, inLine]
        exact Nat.lt_irrefl column
    | cons block extra =>
        rw [List.forall_mem_cons] at wider
        exact Nat.lt_asymm wider.1
  simp only [Scanner.indentLine?, Spot.scanner, if_neg notDeeper, closeBlocks_append wider inLine,
    List.append_nil, if_pos inLine]

theorem reads_spaces (blocks : List (Nat × Nat)) (brackets : List Bracket) (column : Nat) :
    Reads (lineStart blocks brackets) (List.replicate column ' ')
      ⟨.margin ⟨column, column, 0⟩, blocks, brackets⟩ [] := by
  induction column with
  | zero => rfl
  | succ column ih =>
      rw [List.replicate_succ']
      have space : Reads ⟨.margin ⟨column, column, 0⟩, blocks, brackets⟩ [' ']
          ⟨.margin ⟨column + 1, column + 1, 0⟩, blocks, brackets⟩ [] := rfl
      exact ih.append space

/-- A character that stands in the text of a line and not in its margin. -/
def isInner (c : Char) : Bool := !([' ', '\t', '\x0c', '\\', '\n', '#'].contains c)

/-- A line that its layout leaves as it is, with its text in this column. -/
structure StartsAt (column : Nat) (line : String) : Prop where
  whole : IsWhole line
  text : ∃ c cs, line.toList = List.replicate column ' ' ++ c :: cs ∧ isInner c = true

/-- Whether a line begins with white space up to a column, and with text there. -/
def hasMargin (column : Nat) (cs : List Char) : Bool :=
  cs.take column == List.replicate column ' ' && (cs.drop column).head?.any isInner

theorem text_of_hasMargin {cs : List Char} (margin : hasMargin column cs = true)
    (ds : List Char) :
    ∃ c others, cs ++ ds = List.replicate column ' ' ++ c :: others ∧ isInner c = true := by
  rw [hasMargin, Bool.and_eq_true, beq_iff_eq] at margin
  obtain ⟨spaces, inner⟩ := margin
  cases behind : cs.drop column with
  | nil =>
      rw [behind] at inner
      cases inner
  | cons c others =>
      rw [behind] at inner
      refine ⟨c, others ++ ds, ?_, inner⟩
      rw [← spaces, ← List.cons_append, ← behind, ← List.append_assoc, List.take_append_drop]

/-- Whether a fixed line is left as it is by its layout, with its text in a column. -/
def isLine (column : Nat) (line : String) : Bool :=
  decide (IsWhole line) && hasMargin column line.toList

theorem startsAt_of_isLine (fixed : isLine column line = true) : StartsAt column line := by
  rw [isLine, Bool.and_eq_true, decide_eq_true_eq] at fixed
  refine ⟨fixed.1, ?_⟩
  have text := text_of_hasMargin fixed.2 []
  rwa [List.append_nil] at text

/-- What a fixed text holds besides line ends. -/
theorem ne_lineEnd_of_all {text : List Char}
    (fixed : (text.all fun c => c != '\n' && c != '\r') = true) :
    ∀ c ∈ text, c ≠ '\n' ∧ c ≠ '\r' := by
  intro c member
  have own := List.all_eq_true.mp fixed c member
  rwa [Bool.and_eq_true, bne_iff_ne, bne_iff_ne] at own

/-- Whether the text around a hole in a line holds no line end and is not blank behind it. -/
def isFrame (front ending : String) : Bool :=
  !ending.isEmpty && trimEndChars ending.toList == ending.toList &&
    (front.toList ++ ending.toList).all fun c => c != '\n' && c != '\r'

/-- A line with a hole for a text without line ends is whole. -/
theorem isWhole_frame {front hole ending : String} (frame : isFrame front ending = true)
    (inHole : ∀ c ∈ hole.toList, c ≠ '\n' ∧ c ≠ '\r') : IsWhole (front ++ hole ++ ending) := by
  simp only [isFrame, Bool.and_eq_true, Bool.not_eq_true', beq_iff_eq, List.all_append,
    List.all_eq_true, bne_iff_ne, ne_eq] at frame
  obtain ⟨⟨full, visible⟩, inFront, inEnding⟩ := frame
  refine isWhole_append (by simpa using full) visible ?_ inEnding
  intro c member
  rw [String.toList_append, List.mem_append] at member
  exact member.elim (inFront c) (inHole c)

theorem startsAt_frame {front hole ending : String} (margin : hasMargin column front.toList = true)
    (frame : isFrame front ending = true) (inHole : ∀ c ∈ hole.toList, c ≠ '\n' ∧ c ≠ '\r') :
    StartsAt column (front ++ hole ++ ending) where
  whole := isWhole_frame frame inHole
  text := by
    rw [String.append_assoc, String.toList_append]
    exact text_of_hasMargin margin _

/-- Lines are read as among other open blocks, but for the marks of indentation in front, if their
    first line closes or opens just the blocks that make the difference. -/
theorem Scans.of_indentLine? (marks : List Token) {blocks others : List (Nat × Nat)} {column : Nat}
    {line : String} {lines : List String} {q : Spot} {P : List Token → Prop}
    (starts : StartsAt column line)
    (own : ∀ mode, (Spot.scanner ⟨mode, others, []⟩ []).indentLine? column column =
      some (Spot.scanner ⟨mode, others, []⟩ []))
    (here : ∀ mode, (Spot.scanner ⟨mode, blocks, []⟩ []).indentLine? column column =
      some (Spot.scanner ⟨mode, others, []⟩ marks.reverse))
    (scans : Scans (lineStart others []) (line :: lines) q P) :
    Scans (lineStart blocks []) (line :: lines) q fun ts => ∃ us, P us ∧ ts = marks ++ us := by
  obtain ⟨c, cs, letters, inner⟩ := starts.text
  intro kept drops
  obtain ⟨us, holds, read⟩ := scans kept drops
  obtain ⟨rest, text, -⟩ := starts.whole.exists_kept _ drops
  rw [text, letters, List.append_assoc, List.cons_append] at read ⊢
  refine ⟨marks ++ us, ⟨us, holds, rfl⟩, ?_⟩
  rw [Reads, scanFrom_append, reads_spaces, Option.bind_some] at read
  refine (reads_spaces _ [] column).append (Reads.of_step marks ?_ read)
  simp only [isInner, List.contains_cons, List.contains_nil, Bool.or_false, Bool.not_eq_true',
    Bool.or_eq_false_iff, beq_eq_false_iff_ne, ne_eq] at inner
  obtain ⟨n1, n2, n3, n4, n5, n6⟩ := inner
  have step (blocks : List (Nat × Nat)) :
      (Spot.scanner ⟨.margin ⟨column, column, 0⟩, blocks, []⟩ []).step c =
        ((Spot.scanner ⟨.margin ⟨column, column, 0⟩, blocks, []⟩ []).indentLine? column column).bind
          (·.begin? c) := by
    change Scanner.stepMargin _ _ c = _
    simp [Scanner.stepMargin, Spot.scanner, Margin.widths, n1, n2, n3, n4, n5, n6]
  rw [step, step, here, own, Option.bind_some, Option.bind_some, ← Scanner.begin?_after]
  rfl

/-- Open blocks inside the one that lines go on are closed first. -/
theorem Scans.dedent (extra base : List (Nat × Nat)) {line : String} {lines : List String}
    {P : List Token → Prop} (starts : StartsAt column line)
    (wider : ∀ block ∈ extra, column < block.1)
    (inLine : base.headD (0, 0) = (column, column))
    (scans : Scans (lineStart base []) (line :: lines) q P) :
    Scans (lineStart (extra ++ base) []) (line :: lines) q fun ts =>
      ∃ us, P us ∧ ts = List.replicate extra.length .dedent ++ us := by
  apply Scans.of_indentLine? (List.replicate extra.length .dedent) starts _ _ scans
  · exact indentLine?_append [] base (by simp) inLine
  · rw [List.reverse_replicate]
    exact indentLine?_append extra base wider inLine

/-- Lines that are deeper than the line before open a block. -/
theorem Scans.indent (base : List (Nat × Nat)) {line : String} {lines : List String}
    {P : List Token → Prop} (starts : StartsAt column line)
    (deeper : (base.headD (0, 0)).1 < column ∧ (base.headD (0, 0)).2 < column)
    (few : base.length + 1 < maxBlocks)
    (scans : Scans (lineStart ((column, column) :: base) []) (line :: lines) q P) :
    Scans (lineStart base []) (line :: lines) q fun ts => ∃ us, P us ∧ ts = .indent :: us := by
  apply Scans.of_indentLine? [.indent] starts _ _ scans
  · exact indentLine?_append [] ((column, column) :: base) (by simp) rfl
  · intro mode
    rw [List.headD_eq_head?_getD] at deeper
    simp [Scanner.indentLine?, Spot.scanner, Scanner.emit, deeper, few]

end Dedent

section Literals

variable {blocks : List (Nat × Nat)} {brackets : List Bracket} {cs : List Char}

/-- Characters that neither end a literal nor begin an escape stay in it. -/
theorem reads_text (reversed : List Char) (inText : ∀ c ∈ cs, c ∉ breaks) :
    Reads ⟨.text plainKind '"' false 0 reversed, blocks, brackets⟩ cs
      ⟨.text plainKind '"' false 0 (cs.reverse ++ reversed), blocks, brackets⟩ [] := by
  induction cs generalizing reversed with
  | nil => rfl
  | cons c cs ih =>
      rw [List.forall_mem_cons] at inText
      obtain ⟨other, inText⟩ := inText
      simp only [breaks, List.mem_cons, List.not_mem_nil, or_false, not_or] at other
      rw [List.reverse_cons, List.append_assoc]
      refine Reads.cons ?_ (ih (c :: reversed) inText)
      simp [Spot.scanner, Scanner.step, Scanner.stepText, Scanner.enter, other.1, other.2.1,
        other.2.2.1]

variable [Interpreter]

/-- Blank characters are no part of an escape beyond its first character, but for a space in a
    character name. -/
theorem escape_step_of_isBlank {c : Char} (blank : isBlank c = true) :
    (∀ left value, EscapePart.step false (.digits left value) c = none) ∧
      EscapePart.step false .nameMark c = none ∧
      ∀ reversed, EscapePart.step false (.name reversed) c = none ∨
        EscapePart.step false (.name reversed) c = some (.name (c :: reversed)) := by
  have apart : hexValue? c = none ∧ c ≠ '\x7b' ∧ c ≠ '\x7d' :=
    forall_blank (P := fun c => hexValue? c = none ∧ c ≠ '\x7b' ∧ c ≠ '\x7d')
      (by decide +kernel) blank
  refine ⟨fun left value => by simp [EscapePart.step, apart.1],
    by simp [EscapePart.step, apart.2.1],
    fun reversed => ?_⟩
  simp only [EscapePart.step, if_neg apart.2.2]
  split
  · exact Or.inr rfl
  · exact Or.inl rfl

/-- The end of a line breaks a character name. -/
theorem readLiteral_name {reversed : List Char} {run : Nat} {blanks : List Char}
    (blank : ∀ c ∈ blanks, isBlank c = true) :
    readLiteral ⟨.name reversed, run⟩ (blanks ++ ['\n']) = none := by
  induction blanks generalizing reversed run with
  | nil => rfl
  | cons c blanks ih =>
      rw [List.forall_mem_cons] at blank
      obtain ⟨-, -, inName⟩ := escape_step_of_isBlank blank.1
      rw [List.cons_append, readLiteral_cons]
      rcases inName reversed with broken | onward
      · simp [LiteralPart.step, broken]
      · simp [LiteralPart.step, onward, ih blank.2]

/-- White space at the end of a line of a literal makes no difference. -/
theorem readLiteral_of_blanks {p : LiteralPart} {blanks : List Char}
    (blank : ∀ c ∈ blanks, isBlank c = true)
    (read : readLiteral p (blanks ++ ['\n']) = some .start) :
    readLiteral p ['\n'] = some .start := by
  obtain ⟨escape, run⟩ := p
  cases blanks with
  | nil => exact read
  | cons c blanks =>
      obtain ⟨inDigits, inMark, -⟩ := escape_step_of_isBlank (blank c List.mem_cons_self)
      cases escape with
      | plain => rfl
      | backslash => rfl
      | digits left value => simp [readLiteral_cons, LiteralPart.step, inDigits] at read
      | nameMark => simp [readLiteral_cons, LiteralPart.step, inMark] at read
      | name reversed =>
          rw [readLiteral_name blank] at read
          cases read

/-- The lines of a text, trimmed, leave the reader of a literal where it is if the text does. -/
theorem readLiteral_trimmed {line part : List Char}
    (leaves : readLiteral .start (line ++ ['\n']) = some .start)
    (member : part ∈ trimmedLines line) :
    readLiteral .start (part ++ ['\n']) = some .start := by
  obtain ⟨whole, inLine, rfl⟩ := List.mem_map.mp member
  have parts : line ++ ['\n'] = (line.splitOn '\n').flatMap (· ++ ['\n']) := by
    have whole := @List.intercalate_splitOn _ (line ++ '\n' :: []) _ _ '\n'
    rw [List.splitOn_append_cons_self, List.splitOn_nil,
      intercalate_append _ (List.cons_ne_nil [] [])] at whole
    rw [← whole]
    exact List.append_nil _
  rw [parts, readLiteral_lines] at leaves
  split at leaves
  · rename_i each
    obtain ⟨blanks, blank, text⟩ := eq_trimEndChars_append whole
    have read := each whole inLine
    rw [text, List.append_assoc, readLiteral_append] at read
    obtain ⟨p, front, read⟩ := Option.bind_eq_some_iff.mp read
    rw [readLiteral_append, front]
    exact readLiteral_of_blanks blank read
  · cases leaves

omit [Interpreter] in
/-- Three quotes close a literal. -/
theorem reads_tripleQuote (blocks : List (Nat × Nat)) (reversed : List Char) :
    Reads ⟨LiteralPart.start.mode reversed, blocks, []⟩ (tripleQuote ++ ['\n'])
      (lineStart blocks []) [.literal ⟨false, false, false, reversed.reverse⟩, .newline] := rfl

/-- Lines between lines with triple quotes are one literal, if each leaves the reader of the literal
    where it is. -/
theorem Scans.docstring {indent : String} {lines : List String}
    (whole : IsWhole (indent ++ "\"\"\""))
    (spaces : ∀ c ∈ indent.toList, c = ' ')
    (opens : Reads (lineStart blocks []) (indent.toList ++ tripleQuote)
      ⟨LiteralPart.start.mode [], blocks, []⟩ [])
    (leaves : ∀ line ∈ lines, readLiteral .start (line.toList ++ ['\n']) = some .start) :
    Scans (lineStart blocks [])
      ((indent ++ "\"\"\"") :: (lines ++ [indent ++ "\"\"\""])) (lineStart blocks []) fun ts =>
        ∃ body, escapesComplete false body = true ∧
          ts = [.literal ⟨false, false, false, body⟩, .newline] := by
  intro kept drops
  obtain ⟨rest, text, others⟩ := whole.exists_kept _ drops
  rw [List.flatMap_append] at others
  obtain ⟨mid, last, rfl, middle, closing⟩ := others.of_append
  obtain ⟨none, ending, nothing⟩ := whole.exists_kept [] closing
  cases nothing
  let body := '\n' :: (unified mid ++ indent.toList)
  have read : readLiteral .start body = some .start := by
    have each : ∀ line ∈ mid.map unifyLineEnds,
        readLiteral .start (line ++ ['\n']) = some .start := by
      rw [List.forall_mem_map]
      intro part inMid
      obtain ⟨line, inLines, member⟩ := List.mem_flatMap.mp (middle.subset inMid)
      rw [readLiteral_append, readLiteral_unifyLineEnds, ← readLiteral_append]
      exact readLiteral_trimmed (leaves line inLines) member
    have plain : ∀ c ∈ indent.toList, c ≠ '"' ∧ c ≠ '\\' := by
      intro c member
      rw [spaces c member]
      decide
    change readLiteral .start (unified mid ++ indent.toList) = _
    have whole : unified mid = (mid.map unifyLineEnds).flatMap (· ++ ['\n']) := by
      rw [List.flatMap_map, unified]
    rw [readLiteral_append, whole, readLiteral_lines, if_pos each, Option.bind_some,
      readLiteral_of_plain plain]
  have letters : unified kept =
      (indent.toList ++ tripleQuote) ++ (body ++ (tripleQuote ++ ['\n'])) := by
    have quotes : "\"\"\"".toList = tripleQuote := rfl
    have both : unified (mid ++ last) = unified mid ++ unified last := List.flatMap_append
    rw [text, both, ending, String.toList_append, quotes]
    simp [body, unified]
  have inside : Reads ⟨LiteralPart.start.mode [], blocks, []⟩ body
      ⟨LiteralPart.start.mode body.reverse, blocks, []⟩ [] := by
    have scanned := scanFrom_of_readLiteral read (Spot.scanner ⟨.between, blocks, []⟩ []) []
    rw [List.append_nil] at scanned
    exact scanned
  have closes : Reads ⟨LiteralPart.start.mode body.reverse, blocks, []⟩ (tripleQuote ++ ['\n'])
      (lineStart blocks []) [.literal ⟨false, false, false, body⟩, .newline] := by
    have closed := reads_tripleQuote blocks body.reverse
    rwa [List.reverse_reverse] at closed
  refine ⟨_, ⟨body, ?_, rfl⟩, letters ▸ opens.append (inside.append closes)⟩
  rw [escapesComplete, foldlM_plain_of_readLiteral read]
  rfl

end Literals

section Tokens

variable {blocks : List (Nat × Nat)} {lines : List String} {P : List Token → Prop}

/-- Lines that are not there lead nowhere. -/
theorem Scans.nil (p : Spot) : Scans p [] p (· = []) := by
  intro kept drops
  cases drops
  exact ⟨[], rfl, rfl⟩

/-- A text with a line end at its end, or an empty one, is read as it is. -/
theorem reads_closeLastLine {p : Spot} {cs : List Char} {ts : List Token}
    (read : Reads p cs (lineStart blocks []) ts) :
    Reads p (closeLastLine cs) (lineStart blocks []) ts := by
  unfold closeLastLine
  split
  · exact read
  · have more := read.append reads_newline
    rwa [List.append_nil] at more

/-- The tokens of lines in their tidy layout are those that the lines lead through, and then the
    blocks that are open at the end are closed. -/
theorem tokens?_tidyChars (scans : Scans (lineStart [] []) lines (lineStart blocks []) P) :
    ∃ ts, P ts ∧ tokens? (tidyChars ((lines.map (·.toList)).flatMap (· ++ ['\n']))) =
      some (ts ++ List.replicate blocks.length .dedent) := by
  have whole : Scans (lineStart [] []) (lines ++ [""]) (lineStart blocks []) P :=
    scans.append (Scans.nil _).blank fun ts us own none => by
      rw [none, List.append_nil]
      exact own
  obtain ⟨kept, drops, tidy⟩ := exists_drops_tidyChars (lines.map (·.toList))
  rw [List.flatMap_map, show [[]] = [""].flatMap fun line => trimmedLines line.toList from rfl,
    ← List.flatMap_append] at drops
  have ends : ∀ line ∈ kept, line.getLast? ≠ some '\r' := by
    intro part member
    obtain ⟨line, -, inLine⟩ := List.mem_flatMap.mp (drops.subset member)
    obtain ⟨text, -, rfl⟩ := List.mem_map.mp inLine
    exact getLast?_trimEndChars _ (by decide)
  obtain ⟨ts, own, read⟩ := whole kept drops
  refine ⟨ts, own, ?_⟩
  have closed := reads_closeLastLine read
  rw [tokens?, tidy, unifyLineEnds_flatMap ends]
  change (scanFrom (Spot.scanner (lineStart [] []) []) _).bind _ = _
  rw [closed, Option.bind_some]
  simp [Scanner.finish?, Spot.scanner, lineStart]

end Tokens

end HttpAdapter.Grammar
