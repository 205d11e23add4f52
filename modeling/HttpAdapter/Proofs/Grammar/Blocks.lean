import HttpAdapter.Proofs.Grammar.Lines
import HttpAdapter.Proofs.Grammar.Names
import HttpAdapter.Proofs.Grammar.Parsing

/-!
Lines that form statements among the blocks of a program.  Lines in a column may come behind deeper
lines, whose blocks they close, and may leave blocks of their own open, so `Forms` counts the marks
of indentation on both sides out of the statements.  It is closed under everything that a template
does: lines one after the other, empty lines, repetition, and blocks in blocks.
-/

namespace HttpAdapter.Grammar

open HttpAdapter.Text

/-- The start of a line where blocks in these columns are open, innermost first. -/
def openAt (columns : List Nat) : Spot := lineStart (columns.map fun column => (column, column)) []

/-- As many ends of blocks. -/
def closing (columns : List Nat) : List Token := List.replicate columns.length .dedent

/-- Lines in the innermost of these columns form tokens as `P` says.  They may stand behind lines of
    deeper columns, and may leave deeper blocks open; what closes the former is not counted among
    the tokens, and what closes the latter is. -/
def Forms (columns : List Nat) (lines : List String) (P : List Token → Prop) : Prop :=
  ∀ outer : List Nat, (∀ column ∈ outer, columns.headD 0 < column) →
    ∃ inner : List Nat, (∀ column ∈ inner, columns.headD 0 < column) ∧
      Scans (openAt (outer ++ columns)) lines (openAt (inner ++ columns)) fun ts =>
        ∃ us, P us ∧ ts ++ closing inner = closing outer ++ us

section Forms

variable {columns inner : List Nat} {head line : String} {lines more : List String}
variable {P Q R : List Token → Prop} {ts : List Token}

theorem Forms.mono (forms : Forms columns lines P) (weaker : ∀ ts, P ts → Q ts) :
    Forms columns lines Q := by
  intro outer wider
  obtain ⟨inner, deeper, scans⟩ := forms outer wider
  refine ⟨inner, deeper, scans.mono ?_⟩
  rintro ts ⟨us, own, same⟩
  exact ⟨us, weaker us own, same⟩

theorem Forms.append (first : Forms columns lines P) (second : Forms columns more Q)
    (both : ∀ ts us, P ts → Q us → R (ts ++ us)) : Forms columns (lines ++ more) R := by
  intro outer wider
  obtain ⟨middle, between, scans⟩ := first outer wider
  obtain ⟨inner, deeper, onward⟩ := second middle between
  refine ⟨inner, deeper, scans.append onward ?_⟩
  rintro ts us ⟨vs, own, front⟩ ⟨ws, others, back⟩
  refine ⟨vs ++ ws, both vs ws own others, ?_⟩
  rw [List.append_assoc, back, ← List.append_assoc, front, List.append_assoc]

theorem Forms.blank (forms : Forms columns lines P) : Forms columns ("" :: lines) P := by
  intro outer wider
  obtain ⟨inner, deeper, scans⟩ := forms outer wider
  exact ⟨inner, deeper, scans.blank⟩

/-- A comment at the start of a line is like an empty line. -/
theorem Forms.comment (starts : line.toList.head? = some '#')
    (inLine : ∀ c ∈ line.toList, c ≠ '\n' ∧ c ≠ '\r') (forms : Forms columns lines P) :
    Forms columns (line :: lines) P := by
  obtain ⟨text, letters⟩ := List.head?_eq_some_iff.mp starts
  have inText : ∀ c ∈ text, c ≠ '\n' ∧ c ≠ '\r' := by
    rw [letters, List.forall_mem_cons] at inLine
    exact inLine.2
  intro outer wider
  obtain ⟨inner, deeper, scans⟩ := forms outer wider
  refine ⟨inner, deeper, (Scans.comment letters inText).append scans ?_⟩
  rintro ts us rfl own
  exact own

theorem headD_map (columns : List Nat) :
    (columns.map fun column => (column, column)).headD (0, 0) =
      (columns.headD 0, columns.headD 0) := by
  cases columns <;> rfl

/-- Lines that are read in their own blocks close deeper ones before. -/
theorem Forms.of_scans (inner : List Nat) (starts : StartsAt (columns.headD 0) line)
    (deeper : ∀ column ∈ inner, columns.headD 0 < column)
    (scans : Scans (openAt columns) (line :: lines) (openAt (inner ++ columns)) Q)
    (own : ∀ ts, Q ts → P (ts ++ closing inner)) : Forms columns (line :: lines) P := by
  intro outer wider
  refine ⟨inner, deeper, ?_⟩
  have dedented := Scans.dedent (outer.map fun column => (column, column)) _ starts
    (by simpa using wider) (headD_map columns) scans
  rw [← List.map_append] at dedented
  refine dedented.mono ?_
  rintro ts ⟨us, holds, rfl⟩
  refine ⟨us ++ closing inner, own us holds, ?_⟩
  rw [List.length_map, List.append_assoc]
  rfl

/-- A line that opens no blocks. -/
theorem Forms.single (starts : StartsAt (columns.headD 0) line)
    (read : Reads (openAt columns) (line.toList ++ ['\n']) (openAt columns) ts) (own : P ts) :
    Forms columns [line] P := by
  refine Forms.of_scans [] starts (by simp) (Scans.single starts.whole read) ?_
  rintro _ rfl
  rw [closing, List.length_nil, List.replicate_zero, List.append_nil]
  exact own

/-- Whether fixed lines are read as these tokens, with blocks in the columns `inner` still open. -/
def isFixed (columns inner : List Nat) (ts : List Token) : List String → Bool
  | [] => false
  | line :: lines =>
      isLine (columns.headD 0) line &&
        inner.all (fun column => decide (columns.headD 0 < column)) &&
        (readFixed (openAt columns) (line :: lines)).map (fun r => (r.1, r.2 ++ closing inner)) ==
          some (openAt (inner ++ columns), ts)

/-- Fixed lines form their tokens. -/
theorem Forms.fixed (inner : List Nat) (ts : List Token) (own : P ts)
    (fixed : isFixed columns inner ts lines = true) : Forms columns lines P := by
  cases lines with
  | nil => cases fixed
  | cons line lines =>
      simp only [isFixed, Bool.and_eq_true, decide_eq_true_eq, beq_iff_eq, List.all_eq_true,
        Option.map_eq_some_iff] at fixed
      obtain ⟨⟨starts, deeper⟩, ⟨q, us⟩, read, same⟩ := fixed
      obtain ⟨rfl, rfl⟩ := Prod.mk.inj same
      refine Forms.of_scans inner (startsAt_of_isLine starts) deeper (Scans.fixed read) ?_
      rintro _ rfl
      exact own

variable [Interpreter]

theorem Forms.nil : Forms columns [] AreStatements := by
  intro outer wider
  refine ⟨outer, wider, (Scans.nil _).mono ?_⟩
  rintro ts rfl
  exact ⟨[], AreStatements.nil, (List.append_nil _).symm⟩

/-- A statement in front of others. -/
theorem Forms.cons (first : Forms columns lines IsStatement)
    (others : Forms columns more AreStatements) : Forms columns (lines ++ more) AreBlock :=
  first.append others fun _ _ statement statements => statement.append statements

theorem Forms.statements (forms : Forms columns lines IsStatement) :
    Forms columns lines AreStatements :=
  forms.mono fun _ statement => statement.single

theorem Forms.ofBlock (forms : Forms columns lines AreBlock) : Forms columns lines AreStatements :=
  forms.mono fun _ block => block.1

/-- Pieces of statements form statements. -/
theorem Forms.flatMap {α : Type} {as : List α} {piece : α → List String}
    (each : ∀ a ∈ as, Forms columns (piece a) AreStatements) :
    Forms columns (as.flatMap piece) AreStatements := by
  induction as with
  | nil => exact Forms.nil
  | cons a as ih =>
      rw [List.forall_mem_cons] at each
      exact each.1.append (ih each.2) fun _ _ => AreStatements.append

/-- A head and the block behind it are one statement. -/
theorem Forms.block (columns : List Nat) (column : Nat) (starts : StartsAt (columns.headD 0) head)
    (reads : Scans (openAt columns) (head :: more) (openAt columns) (· = ts ++ [Token.newline]))
    (opens : Opens ts) (body : Forms (column :: columns) lines AreBlock)
    (inside : ∃ line rest, lines = line :: rest ∧ StartsAt column line)
    (deeper : columns.headD 0 < column) (few : columns.length + 1 < maxBlocks) :
    Forms columns (head :: more ++ lines) IsStatement := by
  obtain ⟨line, rest, rfl, inside⟩ := inside
  obtain ⟨inner, within, scans⟩ := body [] (by simp)
  have indented := Scans.indent (columns.map fun column => (column, column)) inside
    (by rw [headD_map]; exact ⟨deeper, deeper⟩) (by rw [List.length_map]; exact few) scans
  have whole := reads.append (R := fun us => ∃ vs, AreBlock vs ∧
    us ++ closing inner = ts ++ .newline :: .indent :: vs) indented (by
      rintro _ _ rfl ⟨us, ⟨vs, block, same⟩, rfl⟩
      refine ⟨vs, block, ?_⟩
      have same : us ++ closing inner = vs := same
      simp only [List.append_assoc, List.cons_append, List.nil_append, same])
  have ends : openAt (inner ++ column :: columns) = openAt ((inner ++ [column]) ++ columns) := by
    rw [List.append_assoc]
    rfl
  rw [ends] at whole
  refine Forms.of_scans _ starts ?_ whole ?_
  · intro other member
    rcases List.mem_append.mp member with member | member
    · exact Nat.lt_trans deeper (within other member)
    · rw [List.mem_singleton.mp member]
      exact deeper
  · rintro us ⟨vs, block, same⟩
    have closed : closing (inner ++ [column]) = closing inner ++ [Token.dedent] := by
      rw [closing, List.length_append, List.length_singleton, List.replicate_succ']
      rfl
    rw [closed, ← List.append_assoc, same, List.append_assoc, List.cons_append, List.cons_append]
    exact IsStatement.block opens block

/-- Lines between lines with triple quotes are a statement, if each of them leaves the reader of
    a literal where it is. -/
theorem Forms.docstring (indent : String)
    (fixed : isLine (columns.headD 0) (indent ++ "\"\"\"") = true)
    (spaces : indent.toList = List.replicate (columns.headD 0) ' ')
    (opens : Reads (openAt columns) (indent.toList ++ tripleQuote)
      ⟨LiteralPart.start.mode [], (openAt columns).blocks, []⟩ [])
    (leaves : ∀ line ∈ lines, readLiteral .start (line.toList ++ ['\n']) = some .start) :
    Forms columns ((indent ++ "\"\"\"") :: (lines ++ [indent ++ "\"\"\""])) IsStatement := by
  have blank : ∀ c ∈ indent.toList, c = ' ' := by
    intro c member
    rw [spaces] at member
    exact List.eq_of_mem_replicate member
  have starts := startsAt_of_isLine fixed
  refine Forms.of_scans [] starts (by simp) (Scans.docstring starts.whole blank opens leaves) ?_
  rintro _ ⟨body, complete, rfl⟩
  refine IsStatement.of_reads 9 (fun _ _ _ _ => rfl) (fun depth => ?_) rfl rfl
  simp [literalsWellFormed, closing, complete]

end Forms

section Names

variable {blocks : List (Nat × Nat)} {brackets : List Bracket} {q : Spot} {first : String}
variable {names : List String} {c : Char} {cs : List Char} {ts : List Token}

theorem reads_attributes (named : ∀ name ∈ names, isName name = true) (ends : endsWord c = true)
    (rest : Reads ⟨.between, blocks, brackets⟩ (c :: cs) q ts) :
    Reads ⟨.between, blocks, brackets⟩ (names.flatMap ('.' :: ·.toList) ++ c :: cs) q
      (attributes names ++ ts) := by
  induction names with
  | nil => exact rest
  | cons name names ih =>
      rw [List.forall_mem_cons] at named
      have onward := ih named.2
      rw [List.flatMap_cons, List.cons_append, List.cons_append, List.append_assoc]
      have dot (ds : List Char) (us : List Token) (read : Reads ⟨.dot, blocks, brackets⟩ ds q us) :
          Reads ⟨.between, blocks, brackets⟩ ('.' :: ds) q us :=
        Reads.cons rfl read
      apply dot
      cases names with
      | nil => exact reads_dotName named.1 ends rest
      | cons next names => exact reads_dotName named.1 (by decide) onward

/-- Names with dots between them are a name and its attributes. -/
theorem reads_join (start : isName first = true) (named : ∀ name ∈ names, isName name = true)
    (ends : endsWord c = true) (rest : Reads ⟨.between, blocks, brackets⟩ (c :: cs) q ts) :
    Reads ⟨.between, blocks, brackets⟩ ((join '.' (first :: names)).toList ++ c :: cs) q
      (ident first :: (attributes names ++ ts)) := by
  have onward := reads_attributes named ends rest
  rw [toList_join_cons, List.append_assoc]
  cases names with
  | nil => exact reads_name start ends rest
  | cons next names => exact reads_name start (by decide) onward

theorem ne_lineEnd_of_mem_join (start : isName first = true)
    (named : ∀ name ∈ names, isName name = true) :
    ∀ c ∈ (join '.' (first :: names)).toList, c ≠ '\n' ∧ c ≠ '\r' := by
  intro c member
  rw [toList_join_cons, List.mem_append, List.mem_flatMap] at member
  rcases member with inFirst | ⟨name, other, member⟩
  · exact ne_lineEnd_of_isName start c inFirst
  · rcases List.mem_cons.mp member with rfl | inName
    · decide
    · exact ne_lineEnd_of_isName (named name other) c inName

end Names

/-- A text whose lines form statements is a program in its tidy layout, unless that holds the null
    character. -/
theorem Forms.isProgram_iff [Interpreter] {lines : List String}
    (forms : Forms [] lines AreStatements) :
    isProgram (tidyChars ((lines.map (·.toList)).flatMap (· ++ ['\n']))) = true ↔
      '\x00' ∉ tidyChars ((lines.map (·.toList)).flatMap (· ++ ['\n'])) := by
  obtain ⟨inner, -, scans⟩ := forms [] (by simp)
  obtain ⟨ts, ⟨us, statements, same⟩, tokens⟩ := tokens?_tidyChars scans
  have same : ts ++ closing inner = us := same
  rw [List.append_nil, List.length_map] at tokens
  change tokens? _ = some (ts ++ closing inner) at tokens
  rw [same] at tokens
  obtain ⟨less, length⟩ : ∃ less,
      (tidyChars ((lines.map (·.toList)).flatMap (· ++ ['\n']))).length = less + 1 :=
    ⟨_, by rw [tidyChars, List.length_append]; rfl⟩
  simp only [Grammar.isProgram, tokens, length, statements.isStatements, statements.sound less,
    Bool.and_self, Bool.if_false_left, Bool.and_true, Bool.not_eq_true', decide_eq_false_iff_not]

end HttpAdapter.Grammar
