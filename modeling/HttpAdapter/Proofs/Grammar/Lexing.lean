import HttpAdapter.Proofs.Grammar.LongLiteral
import HttpAdapter.Proofs.Text.LetterCase
import HttpAdapter.Proofs.Tidying

/-!
How texts fall into tokens, piece by piece.  What a scanner has read makes no difference to what it
reads next, `Scanner.step_after`, so a piece of text has tokens of its own: `Reads` says which, and
where they leave the scanner.  `Scans` says the same of lines whose layout may still be tidied.
-/

namespace HttpAdapter.Grammar

open HttpAdapter.Text

/-- A name of the language: an identifier that is no reserved word. -/
def isName (name : String) : Bool := isIdentifier name.toList && !isKeyword name.toList

theorem isIdentifier_of_isName {name : String} (named : isName name = true) :
    isIdentifier name.toList = true := by
  rw [isName, Bool.and_eq_true] at named
  exact named.1

namespace Scanner

/-- The scanner with earlier tokens behind its own. -/
def after (s : Scanner) (earlier : List Token) : Scanner :=
  { s with tokens := s.tokens ++ earlier }

section After

variable (s : Scanner) (earlier : List Token)

theorem after_enter (mode : Mode) : (s.after earlier).enter mode = (s.enter mode).after earlier :=
  rfl

theorem after_emit (t : Token) : (s.after earlier).emit t = (s.emit t).after earlier := rfl

theorem after_emitLiteral (kind : LiteralKind) (reversed : List Char) :
    (s.after earlier).emitLiteral kind reversed = (s.emitLiteral kind reversed).after earlier :=
  rfl

theorem endLine_after : (s.after earlier).endLine = s.endLine.after earlier := by
  unfold endLine
  by_cases outside : s.brackets.isEmpty
  · rw [if_pos outside, if_pos (show (s.after earlier).brackets.isEmpty from outside)]
    rfl
  · rw [if_neg outside, if_neg (show ¬ (s.after earlier).brackets.isEmpty from outside)]
    rfl

theorem begin?_after (c : Char) :
    (s.after earlier).begin? c = (s.begin? c).map (·.after earlier) := by
  unfold begin?
  simp only [endLine_after, apply_ite (Option.map _), Option.map_some, Option.map_map]
  rfl

theorem closeBlocks_append (column : Nat) (blocks : List (Nat × Nat)) (tokens : List Token) :
    closeBlocks column blocks (tokens ++ earlier) =
      ((closeBlocks column blocks tokens).1, (closeBlocks column blocks tokens).2 ++ earlier) := by
  induction blocks generalizing tokens with
  | nil => rfl
  | cons block blocks ih =>
      obtain ⟨width, narrow⟩ := block
      simp only [closeBlocks]
      split
      · exact ih (.dedent :: tokens)
      · rfl

theorem indentLine?_after (column narrow : Nat) :
    (s.after earlier).indentLine? column narrow =
      (s.indentLine? column narrow).map (·.after earlier) := by
  unfold indentLine?
  simp only [after, closeBlocks_append, apply_ite (Option.map _), Option.map_some, Option.map_none]
  rfl

theorem stepMargin_after (m : Margin) (c : Char) :
    (s.after earlier).stepMargin m c = (s.stepMargin m c).map (·.after earlier) := by
  unfold stepMargin
  simp only [indentLine?_after, begin?_after, after_enter, Option.bind_map, Function.comp_def,
    apply_ite (Option.map _), Option.map_some, Option.map_bind]
  rfl

theorem endWord?_after (glued : Bool) (reversed : List Char) (c : Char) :
    (s.after earlier).endWord? glued reversed c =
      (s.endWord? glued reversed c).map (·.after earlier) := by
  unfold endWord?
  simp only [after_emit, begin?_after, Option.map_bind, Function.comp_def]

theorem stepWord_after (glued : Bool) (reversed : List Char) (c : Char) :
    (s.after earlier).stepWord glued reversed c =
      (s.stepWord glued reversed c).map (·.after earlier) := by
  unfold stepWord
  simp only [endWord?_after, after_enter]
  repeat' split
  all_goals rfl

theorem stepNumber_after (part : NumberPart) (c : Char) :
    (s.after earlier).stepNumber part c = (s.stepNumber part c).map (·.after earlier) := by
  unfold stepNumber
  simp only [after_emit, stepWord_after, begin?_after, after_enter]
  repeat' split
  all_goals rfl

theorem stepText_after (kind : LiteralKind) (quote : Char) (long : Bool) (run : Nat)
    (reversed : List Char) (c : Char) :
    (s.after earlier).stepText kind quote long run reversed c =
      (s.stepText kind quote long run reversed c).map (·.after earlier) := by
  unfold stepText
  simp only [after_enter]
  repeat' split
  all_goals rfl

theorem emitSymbol?_after (m : Symbol) :
    (s.after earlier).emitSymbol? m = (s.emitSymbol? m).map (·.after earlier) := by
  unfold emitSymbol?
  simp only [after_emit]
  split
  · simp only [apply_ite (Option.map _)]
    rfl
  · simp only [after]
    split
    · simp only [apply_ite (Option.map _)]
      rfl
    · rfl
  · rfl

/-- The tokens that have been read make no difference to what a scanner does. -/
theorem step_after (c : Char) : (s.after earlier).step c = (s.step c).map (·.after earlier) := by
  unfold step
  have mode : (s.after earlier).mode = s.mode := rfl
  rw [mode]
  cases s.mode with
  | margin m => exact stepMargin_after s earlier m c
  | marginJoined m => exact stepMargin_after s earlier m c
  | between => exact begin?_after s earlier c
  | word glued reversed => exact stepWord_after s earlier glued reversed c
  | number part => exact stepNumber_after s earlier part c
  | text kind quote long run reversed =>
      exact stepText_after s earlier kind quote long run reversed c
  | mark m =>
      simp only [emitSymbol?_after, begin?_after, Option.bind_map, Function.comp_def]
      split
      · rfl
      · split
        · rfl
        · simp only [Option.map_bind, Function.comp_def]
  | _ =>
      simp only [after_enter, after_emit, after_emitLiteral, begin?_after, stepText_after,
        endLine_after]
      repeat' split
      all_goals rfl

end After

end Scanner

theorem scanFrom_after (s : Scanner) (earlier : List Token) (cs : List Char) :
    scanFrom (s.after earlier) cs = (scanFrom s cs).map (·.after earlier) := by
  induction cs generalizing s with
  | nil => rfl
  | cons c cs ih =>
      rw [scanFrom_cons, scanFrom_cons, Scanner.step_after, Option.bind_map, Option.map_bind]
      exact congrArg (Option.bind (s.step c)) (funext fun t => ih t)

/-- Where a scanner stands, without the tokens that it has read. -/
structure Spot where
  mode : Mode
  blocks : List (Nat × Nat)
  brackets : List Bracket
  deriving DecidableEq, Repr

/-- A scanner at a spot. -/
def Spot.scanner (p : Spot) (tokens : List Token) : Scanner :=
  ⟨p.mode, p.blocks, p.brackets, tokens⟩

/-- The start of a line. -/
def lineStart (blocks : List (Nat × Nat)) (brackets : List Bracket) : Spot :=
  ⟨.margin .start, blocks, brackets⟩

/-- A text leads from a spot to another one, with these tokens on the way. -/
def Reads (p : Spot) (cs : List Char) (q : Spot) (ts : List Token) : Prop :=
  scanFrom (p.scanner []) cs = some (q.scanner ts.reverse)

instance (p : Spot) (cs : List Char) (q : Spot) (ts : List Token) : Decidable (Reads p cs q ts) :=
  inferInstanceAs (Decidable (_ = _))

section Reads

variable {p q r : Spot} {cs ds : List Char} {ts us : List Token}

theorem Reads.scanFrom (read : Reads p cs q ts) (earlier : List Token) :
    scanFrom (p.scanner earlier) cs = some (q.scanner (ts.reverse ++ earlier)) := by
  change Grammar.scanFrom ((p.scanner []).after earlier) cs = _
  rw [scanFrom_after, read]
  rfl

theorem Reads.append (first : Reads p cs q ts) (second : Reads q ds r us) :
    Reads p (cs ++ ds) r (ts ++ us) := by
  rw [Reads, scanFrom_append, first, Option.bind_some, second.scanFrom, List.reverse_append]

/-- One character in front of a text that is read, with no token of its own. -/
theorem Reads.cons {c : Char} (step : (p.scanner []).step c = some (q.scanner []))
    (rest : Reads q cs r ts) : Reads p (c :: cs) r ts := by
  rw [Reads, scanFrom_cons, step, Option.bind_some]
  exact rest

/-- What a scanner reads as another one does, but for tokens that it reads first. -/
theorem Reads.of_step (us : List Token) {c : Char} (step : (p.scanner []).step c =
      ((q.scanner []).step c).map (·.after us.reverse))
    (rest : Reads q (c :: cs) r ts) : Reads p (c :: cs) r (us ++ ts) := by
  rw [Reads, scanFrom_cons] at rest ⊢
  rw [step]
  cases next : (q.scanner []).step c with
  | none => simp [next] at rest
  | some t =>
      rw [next, Option.bind_some] at rest
      rw [Option.map_some, Option.bind_some, scanFrom_after, rest]
      simp [Spot.scanner, Scanner.after]

end Reads

section Words

variable {blocks : List (Nat × Nat)} {brackets : List Bracket} {q : Spot}
variable {cs : List Char} {ts : List Token}

/-- The mode does not matter where a token begins. -/
theorem begin?_enter (s : Scanner) (mode : Mode) (c : Char) :
    (s.enter mode).begin? c = s.begin? c := by
  have lineEnd : (s.enter mode).endLine = s.endLine := by
    obtain ⟨_, _, brackets, _⟩ := s
    cases brackets <;> rfl
  unfold Scanner.begin?
  rw [lineEnd]
  rfl

theorem isDigit_of_isNameStart {c : Char} (start : isNameStart c = true) : c.isDigit = false := by
  by_cases ascii : c.toNat < 128
  · exact forall_ascii (P := fun c => isNameStart c = true → c.isDigit = false) (by decide)
      ascii start
  · simp only [Char.isDigit, Bool.and_eq_false_iff, decide_eq_false_iff_not]
    right
    intro small
    have small : c.toNat ≤ 57 := small
    omega

/-- A character that may begin a name begins a word. -/
theorem begin?_of_isNameStart {c : Char} (start : isNameStart c = true) (s : Scanner) :
    s.begin? c = some (s.enter (.word false [c])) := by
  have inner := isNameChar_of_isNameStart start
  have noDigit := isDigit_of_isNameStart start
  have apart : [' ', '\t', '\x0c', '\n', '#', '\\', '.', '!', '"', '\''].all (!isNameChar ·) := by
    decide
  have others : ∀ d ∈ [' ', '\t', '\x0c', '\n', '#', '\\', '.', '!', '"', '\''], c ≠ d := by
    intro d listed
    apply ne_of_isNameChar inner
    simpa using List.all_eq_true.mp apart d listed
  have noZero : c ≠ '0' := by
    rintro rfl
    exact absurd noDigit (by decide)
  simp only [List.forall_mem_cons] at others
  obtain ⟨o1, o2, o3, o4, o5, o6, o7, o8, o9, o10, -⟩ := others
  simp [Scanner.begin?, o1, o2, o3, o4, o5, o6, o7, o8, o9, o10, noZero, noDigit,
    isWordChar_of_isNameChar inner]

/-- A word goes on with further characters of words. -/
theorem reads_word (reversed : List Char) (inner : ∀ c ∈ cs, isWordChar c = true) :
    Reads ⟨.word false reversed, blocks, brackets⟩ cs
      ⟨.word false (cs.reverse ++ reversed), blocks, brackets⟩ [] := by
  induction cs generalizing reversed with
  | nil => rfl
  | cons c cs ih =>
      rw [List.forall_mem_cons] at inner
      rw [List.reverse_cons, List.append_assoc]
      refine Reads.cons ?_ (ih (c :: reversed) inner.2)
      simp [Spot.scanner, Scanner.step, Scanner.stepWord, Scanner.enter, inner.1]

/-- A name begins with a character that may begin one. -/
theorem exists_start_of_isName {name : String} (named : isName name = true) :
    ∃ first others, name.toList = first :: others ∧ isNameStart first = true := by
  have identifier := isIdentifier_of_isName named
  unfold isIdentifier at identifier
  split at identifier
  · simp at identifier
  · rename_i first others letters
    rw [Bool.and_eq_true] at identifier
    exact ⟨first, others, letters, identifier.1⟩

/-- A character that ends a word. -/
def endsWord (c : Char) : Bool := !isWordChar c && c != '"' && c != '\''

/-- A name between tokens is one token, if what stands behind it ends a word. -/
theorem reads_name {name : String} (named : isName name = true) {c : Char}
    (ends : endsWord c = true) (rest : Reads ⟨.between, blocks, brackets⟩ (c :: cs) q ts) :
    Reads ⟨.between, blocks, brackets⟩ (name.toList ++ c :: cs) q (.name name.toList :: ts) := by
  obtain ⟨first, others, letters, start⟩ := exists_start_of_isName named
  rw [isName, Bool.and_eq_true, Bool.not_eq_true', isKeyword, Option.isSome_eq_false_iff,
    Option.isNone_iff_eq_none] at named
  obtain ⟨identifier, free⟩ := named
  have chars : ∀ d ∈ name.toList, isWordChar d = true :=
    fun d member => isWordChar_of_isNameChar (isNameChar_of_mem identifier member)
  have token : wordToken? false name.toList = some (.name name.toList) := by
    simp [wordToken?, free, identifier]
  have begins : Reads ⟨.between, blocks, brackets⟩ [first] ⟨.word false [first], blocks, brackets⟩
      [] := by
    rw [Reads, scanFrom_cons]
    change (Scanner.begin? _ first).bind _ = _
    rw [begin?_of_isNameStart start]
    rfl
  have word : Reads ⟨.between, blocks, brackets⟩ name.toList
      ⟨.word false name.toList.reverse, blocks, brackets⟩ [] := by
    rw [letters] at chars ⊢
    rw [List.forall_mem_cons] at chars
    rw [List.reverse_cons]
    exact begins.append (reads_word [first] chars.2)
  refine word.append ?_
  simp only [endsWord, Bool.and_eq_true, Bool.not_eq_true', bne_iff_ne, ne_eq] at ends
  obtain ⟨⟨noWord, noDouble⟩, noSingle⟩ := ends
  -- The end of the word and what follows a token are read alike, but for the token.
  refine Reads.of_step [.name name.toList] ?_ rest
  change Scanner.stepWord _ false name.toList.reverse c = (Scanner.begin? _ c).map _
  simp only [Scanner.stepWord, noWord, noDouble, noSingle, Scanner.endWord?,
    List.reverse_reverse, token, Bool.false_eq_true, if_false, decide_false, Bool.or_self,
    Bool.false_and, Option.bind_some]
  rw [← Scanner.begin?_after, ← begin?_enter _ .between]
  rfl

/-- A name behind a dot is a token of its own. -/
theorem reads_dotName {name : String} (named : isName name = true) {c : Char}
    (ends : endsWord c = true) (rest : Reads ⟨.between, blocks, brackets⟩ (c :: cs) q ts) :
    Reads ⟨.dot, blocks, brackets⟩ (name.toList ++ c :: cs) q
      (.symbol .dot :: .name name.toList :: ts) := by
  have read := reads_name named ends rest
  obtain ⟨first, others, letters, start⟩ := exists_start_of_isName named
  have noDot : first ≠ '.' := ne_of_isNameChar (isNameChar_of_isNameStart start) (by decide)
  rw [letters, List.cons_append] at read ⊢
  refine Reads.of_step [.symbol .dot] ?_ read
  change (if first = '.' then _ else if first.isDigit then _ else _) = _
  rw [if_neg noDot, if_neg (by simp [isDigit_of_isNameStart start]),
    show (Spot.scanner ⟨.between, blocks, brackets⟩ []).step first =
      Scanner.begin? (Spot.scanner ⟨.between, blocks, brackets⟩ []) first from rfl,
    ← Scanner.begin?_after, ← begin?_enter _ .between]
  rfl

theorem exists_cons_of_endsWord {cs : List Char} (ends : cs.head?.any endsWord = true) :
    ∃ c others, cs = c :: others ∧ endsWord c = true := by
  cases cs with
  | nil => cases ends
  | cons c others => exact ⟨c, others, rfl, ends⟩

/-- A name in a hole between two pieces of text is one token. -/
theorem reads_hole {p : Spot} {us : List Token} {front ending name : String}
    (named : isName name = true) (ends : ending.toList.head?.any endsWord = true)
    (before : Reads p front.toList ⟨.between, blocks, brackets⟩ ts)
    (behind : Reads ⟨.between, blocks, brackets⟩ (ending.toList ++ cs) q us) :
    Reads p ((front ++ name ++ ending).toList ++ cs) q (ts ++ .name name.toList :: us) := by
  obtain ⟨c, others, letters, ended⟩ := exists_cons_of_endsWord ends
  rw [letters] at behind
  rw [String.toList_append, String.toList_append, List.append_assoc, List.append_assoc, letters]
  exact before.append (reads_name named ended behind)

/-- The same for the name of a member, with a dot in front of the hole. -/
theorem reads_memberHole {p : Spot} {us : List Token} {front ending name : String}
    (named : isName name = true) (ends : ending.toList.head?.any endsWord = true)
    (before : Reads p front.toList ⟨.dot, blocks, brackets⟩ ts)
    (behind : Reads ⟨.between, blocks, brackets⟩ (ending.toList ++ cs) q us) :
    Reads p ((front ++ name ++ ending).toList ++ cs) q
      (ts ++ .symbol .dot :: .name name.toList :: us) := by
  obtain ⟨c, others, letters, ended⟩ := exists_cons_of_endsWord ends
  rw [letters] at behind
  rw [String.toList_append, String.toList_append, List.append_assoc, List.append_assoc, letters]
  exact before.append (reads_dotName named ended behind)

end Words

end HttpAdapter.Grammar
