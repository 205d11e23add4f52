import HttpAdapter.Grammar.Literal
import HttpAdapter.Grammar.Scanner
import Mathlib.Data.List.Induction

/-!
What may stand between triple quotes.  `ReadsAsLiteral` says so of the scanner and of the reader of
escapes, which look at the text one after the other; `readLiteral` is one reader that does both, and
starts anew at each line end: `readsAsLiteral_iff`, `readLiteral_lines`.
-/

namespace HttpAdapter.Grammar

/-- Three double quotes. -/
def tripleQuote : List Char := ['"', '"', '"']

/-- The kind of a literal without letters in front. -/
def plainKind : LiteralKind := ⟨false, false, false⟩

/-- A scanner that stood at `s` has opened a literal and is inside it, after these characters. -/
def Scanner.Inside (s t : Scanner) (read : List Char) : Prop :=
  (∃ run, t = s.enter (.text plainKind '"' true run read.reverse)) ∨
    t = s.enter (.textEscape plainKind '"' true read.reverse)

variable [Interpreter]

/-- A text stays between the triple quotes around it: nothing in it closes the literal, the quotes
    behind it do, and all its escapes are complete. -/
structure ReadsAsLiteral (body : List Char) : Prop where
  inside : ∀ (s : Scanner) before after, unifyLineEnds body = before ++ after →
    ∃ t, scanFrom (s.enter .between) (tripleQuote ++ before) = some t ∧ s.Inside t before
  closed : ∀ s : Scanner,
    scanFrom (s.enter .between) (tripleQuote ++ unifyLineEnds body ++ tripleQuote) =
      some (s.emitLiteral plainKind (unifyLineEnds body).reverse)
  escapes : escapesComplete false (unifyLineEnds body) = true

/-- Where the reader of a literal stands: in what part of an escape, and after how many quotes
    that may begin its end. -/
structure LiteralPart where
  escape : EscapePart
  run : Nat
  deriving DecidableEq, Repr

namespace LiteralPart

/-- Outside escapes, after no quote. -/
def start : LiteralPart := ⟨.plain, 0⟩

/-- Reads a character, unless it closes the literal or breaks an escape. -/
def step (p : LiteralPart) (c : Char) : Option LiteralPart :=
  if p.escape = .plain ∧ c = '"' then if p.run = 2 then none else some ⟨.plain, p.run + 1⟩
  else (p.escape.step false c).map (⟨·, 0⟩)

/-- The mode of a scanner that stands there. -/
def mode (p : LiteralPart) (reversed : List Char) : Mode :=
  if p.escape = .backslash then .textEscape plainKind '"' true reversed
  else .text plainKind '"' true p.run reversed

end LiteralPart

/-- Reads the text of a literal from a part on. -/
def readLiteral (p : LiteralPart) (cs : List Char) : Option LiteralPart :=
  cs.foldlM LiteralPart.step p

theorem readLiteral_append (p : LiteralPart) (cs ds : List Char) :
    readLiteral p (cs ++ ds) = (readLiteral p cs).bind fun q => readLiteral q ds := by
  simp [readLiteral, List.foldlM_append, bind]

theorem readLiteral_cons (p : LiteralPart) (c : Char) (cs : List Char) :
    readLiteral p (c :: cs) = (p.step c).bind fun q => readLiteral q cs := by
  simp [readLiteral, bind]

@[simp] theorem readLiteral_nil (p : LiteralPart) : readLiteral p [] = some p := rfl

namespace LiteralPart

/-- What the reader of escapes takes in the middle of one is neither a quote nor a backslash. -/
theorem ne_of_escape_step {e f : EscapePart} {c : Char} (step : e.step false c = some f)
    (middle : e ≠ .plain) (noBackslash : e ≠ .backslash) :
    c ≠ '"' ∧ c ≠ '\\' ∧ f ≠ .backslash := by
  refine ⟨?_, ?_, ?_⟩
  · rintro rfl
    cases e <;> simp_all [EscapePart.step, hexValue?]
  · rintro rfl
    cases e <;> simp_all [EscapePart.step, hexValue?]
  · rintro rfl
    cases e with
    | plain => exact middle rfl
    | backslash => exact noBackslash rfl
    | digits left value =>
        simp only [EscapePart.step, Option.bind_eq_some_iff] at step
        obtain ⟨d, -, step⟩ := step
        split at step
        · split at step <;> simp at step
        · simp at step
    | nameMark =>
        simp only [EscapePart.step] at step
        split at step <;> simp at step
    | name empty =>
        simp only [EscapePart.step] at step
        split at step
        · split at step <;> simp at step
        · split at step <;> simp at step

/-- The scanner stays inside the literal wherever the reader goes on. -/
theorem scanner_step {p q : LiteralPart} {c : Char} (step : p.step c = some q) (s : Scanner)
    (reversed : List Char) :
    (s.enter (p.mode reversed)).step c = some (s.enter (q.mode (c :: reversed))) := by
  obtain ⟨escape, run⟩ := p
  unfold LiteralPart.step at step
  by_cases quote : escape = .plain ∧ c = '"'
  · obtain ⟨rfl, rfl⟩ := quote
    simp only [true_and, if_true] at step
    split at step
    · simp at step
    · rename_i short
      cases step
      simp [mode, Scanner.step, Scanner.stepText, Scanner.enter, short]
  · rw [if_neg quote] at step
    obtain ⟨next, taken, rfl⟩ := Option.map_eq_some_iff.mp step
    cases escape with
    | plain =>
        have noQuote : c ≠ '"' := fun same => quote ⟨rfl, same⟩
        simp only [EscapePart.step, Option.some.injEq] at taken
        subst taken
        by_cases backslash : c = '\\' <;>
          simp [mode, Scanner.step, Scanner.stepText, Scanner.enter, noQuote, backslash]
    | backslash =>
        have plain : next ≠ .backslash := by
          rintro rfl
          simp only [EscapePart.step] at taken
          repeat' split at taken
          all_goals simp at taken
        simp [mode, Scanner.step, Scanner.enter, plain]
    | _ =>
        obtain ⟨noQuote, noBackslash, plain⟩ := ne_of_escape_step taken (by simp) (by simp)
        simp [mode, Scanner.step, Scanner.stepText, Scanner.enter, noQuote, noBackslash, plain]

/-- So does the reader of escapes. -/
theorem escape_step {p q : LiteralPart} {c : Char} (step : p.step c = some q) :
    p.escape.step false c = some q.escape := by
  unfold LiteralPart.step at step
  split at step
  · rename_i quote
    obtain ⟨plain, rfl⟩ := quote
    split at step
    · simp at step
    · cases step
      simp [plain, EscapePart.step]
  · obtain ⟨next, taken, rfl⟩ := Option.map_eq_some_iff.mp step
    exact taken

end LiteralPart

theorem scanFrom_of_readLiteral {p q : LiteralPart} {cs : List Char}
    (read : readLiteral p cs = some q) (s : Scanner) (reversed : List Char) :
    scanFrom (s.enter (p.mode reversed)) cs = some (s.enter (q.mode (cs.reverse ++ reversed))) := by
  induction cs generalizing p reversed with
  | nil =>
      cases read
      rfl
  | cons c cs ih =>
      rw [readLiteral_cons, Option.bind_eq_some_iff] at read
      obtain ⟨next, step, rest⟩ := read
      rw [scanFrom_cons, LiteralPart.scanner_step step, Option.bind_some, ih rest]
      simp

theorem foldlM_escape_of_readLiteral {p q : LiteralPart} {cs : List Char}
    (read : readLiteral p cs = some q) :
    cs.foldlM (EscapePart.step false) p.escape = some q.escape := by
  induction cs generalizing p with
  | nil =>
      cases read
      rfl
  | cons c cs ih =>
      rw [readLiteral_cons, Option.bind_eq_some_iff] at read
      obtain ⟨next, step, rest⟩ := read
      rw [List.foldlM_cons, LiteralPart.escape_step step]
      exact ih rest

theorem foldlM_plain_of_readLiteral {q : LiteralPart} {cs : List Char}
    (read : readLiteral .start cs = some q) :
    cs.foldlM (EscapePart.step false) .plain = some q.escape :=
  foldlM_escape_of_readLiteral read

omit [Interpreter] in
/-- Three quotes open a literal where a token may begin. -/
theorem scanFrom_tripleQuote (s : Scanner) (cs : List Char) :
    scanFrom (s.enter .between) (tripleQuote ++ cs) =
      scanFrom (s.enter (LiteralPart.start.mode [])) cs := by
  rw [scanFrom_append]
  rfl

/-- The reader takes each end of a line for the same. -/
theorem LiteralPart.step_return (p : LiteralPart) : p.step '\r' = p.step '\n' := by
  obtain ⟨escape, run⟩ := p
  cases escape <;> simp [LiteralPart.step, EscapePart.step, hexValue?]

/-- The reader starts anew after the end of a line. -/
theorem LiteralPart.eq_start_of_step {p q : LiteralPart} (step : p.step '\n' = some q) :
    q = .start := by
  obtain ⟨escape, run⟩ := p
  cases escape <;> simp_all [LiteralPart.step, EscapePart.step, hexValue?, LiteralPart.start]

theorem readLiteral_unifyLineEnds (p : LiteralPart) (cs : List Char) :
    readLiteral p (unifyLineEnds cs) = readLiteral p cs := by
  fun_induction unifyLineEnds cs generalizing p with
  | case1 => rfl
  | case2 cs ih =>
      rw [readLiteral_cons, readLiteral_cons, LiteralPart.step_return]
      cases step : p.step '\n' with
      | none => rfl
      | some q =>
          rw [Option.bind_some, Option.bind_some, ih, readLiteral_cons,
            LiteralPart.eq_start_of_step step]
          rfl
  | case3 c cs _ ih =>
      have same : p.step (if c = '\r' then '\n' else c) = p.step c := by
        split
        · rename_i equal
          rw [equal, LiteralPart.step_return]
        · rfl
      rw [readLiteral_cons, readLiteral_cons, same]
      simp only [ih]

theorem LiteralPart.step_eq_none {p : LiteralPart} {c : Char} (stop : p.step c = none) :
    p.escape.step false c = none ∨ p = ⟨.plain, 2⟩ ∧ c = '"' := by
  obtain ⟨escape, run⟩ := p
  unfold LiteralPart.step at stop
  split at stop
  · rename_i quote
    obtain ⟨rfl, rfl⟩ := quote
    split at stop
    · rename_i full
      exact Or.inr ⟨by rw [← full], rfl⟩
    · simp at stop
  · exact Or.inl (by simpa using stop)

/-- The reader gets through a part of a text that stays between its quotes. -/
theorem ReadsAsLiteral.exists_readLiteral {body : List Char} (reads : ReadsAsLiteral body)
    {before after : List Char} (parts : unifyLineEnds body = before ++ after) :
    ∃ q, readLiteral .start before = some q := by
  induction before using List.reverseRecOn generalizing after with
  | nil => exact ⟨.start, rfl⟩
  | append_singleton before c ih =>
      have shorter : unifyLineEnds body = before ++ (c :: after) := by simpa using parts
      obtain ⟨p, read⟩ := ih shorter
      cases step : p.step c with
      | some q => exact ⟨q, by simp [readLiteral_append, read, readLiteral_cons, step]⟩
      | none =>
          -- The character either breaks an escape or is the third quote in a row.
          exfalso
          rcases LiteralPart.step_eq_none step with broken | ⟨rfl, rfl⟩
          · have escapes := reads.escapes
            rw [escapesComplete, parts, List.append_assoc, List.foldlM_append,
              foldlM_plain_of_readLiteral read] at escapes
            simp [broken, bind] at escapes
          · obtain ⟨t, scanned, inside⟩ := reads.inside .start _ after parts
            rw [scanFrom_tripleQuote, scanFrom_append, scanFrom_of_readLiteral read] at scanned
            simp only [Option.bind_some, scanFrom_cons, scanFrom_nil, LiteralPart.mode] at scanned
            simp [Scanner.step, Scanner.stepText, Scanner.enter, Scanner.emitLiteral] at scanned
            subst scanned
            simp [Scanner.Inside, Scanner.enter] at inside

omit [Interpreter] in
/-- The quotes behind a text close the literal, all three of them, only if the reader is where it
    started. -/
theorem LiteralPart.eq_start_of_closed {p : LiteralPart} {s : Scanner}
    {reversed text : List Char} (whole : p.escape = .plain ∨ p.escape = .backslash)
    (closed : scanFrom (s.enter (p.mode reversed)) tripleQuote =
      some (s.emitLiteral plainKind text)) : p = .start := by
  obtain ⟨escape, run⟩ := p
  simp only at whole
  simp only [tripleQuote, scanFrom_cons, scanFrom_nil, LiteralPart.mode] at closed
  rcases whole with rfl | rfl
  · match run with
    | 0 => rfl
    | 1 | 2 | n + 3 =>
        simp [Scanner.step, Scanner.stepText, Scanner.enter, Scanner.emitLiteral, Scanner.emit,
          Scanner.begin?] at closed
  · simp [Scanner.step, Scanner.stepText, Scanner.enter, Scanner.emitLiteral,
      Scanner.emit] at closed

/-- A text stays between its quotes if and only if the reader ends where it started. -/
theorem readsAsLiteral_iff {body : List Char} :
    ReadsAsLiteral body ↔ readLiteral .start body = some .start := by
  rw [← readLiteral_unifyLineEnds]
  constructor
  · intro reads
    obtain ⟨q, read⟩ := reads.exists_readLiteral (List.append_nil _).symm
    have closed := reads.closed .start
    rw [List.append_assoc, scanFrom_tripleQuote, scanFrom_append, scanFrom_of_readLiteral read,
      Option.bind_some] at closed
    have whole : q.escape = .plain ∨ q.escape = .backslash := by
      have escapes := reads.escapes
      rw [escapesComplete, foldlM_plain_of_readLiteral read] at escapes
      cases same : q.escape <;> simp [same] at escapes ⊢
    rw [read, LiteralPart.eq_start_of_closed whole closed]
  · intro read
    refine ⟨?_, ?_, ?_⟩
    · intro s before after parts
      rw [parts, readLiteral_append, Option.bind_eq_some_iff] at read
      obtain ⟨q, read, -⟩ := read
      refine ⟨_, (scanFrom_tripleQuote s before).trans (scanFrom_of_readLiteral read s []), ?_⟩
      rw [List.append_nil, LiteralPart.mode]
      split
      · exact Or.inr rfl
      · exact Or.inl ⟨q.run, rfl⟩
    · intro s
      rw [List.append_assoc, scanFrom_tripleQuote, scanFrom_append, scanFrom_of_readLiteral read]
      simp [tripleQuote, scanFrom_cons, LiteralPart.mode, LiteralPart.start, Scanner.step,
        Scanner.stepText, Scanner.enter, Scanner.emitLiteral, Scanner.emit]
    · rw [escapesComplete, foldlM_plain_of_readLiteral read]
      rfl

/-- The reader gets through lines if it gets through each of them, and then starts anew. -/
theorem readLiteral_lines (lines : List (List Char)) :
    readLiteral .start (lines.flatMap (· ++ ['\n'])) =
      if ∀ line ∈ lines, readLiteral .start (line ++ ['\n']) = some .start then some .start
      else none := by
  induction lines with
  | nil => simp
  | cons line lines ih =>
      rw [List.flatMap_cons, readLiteral_append]
      simp only [List.forall_mem_cons]
      cases read : readLiteral .start (line ++ ['\n']) with
      | none => simp
      | some q =>
          have anew : q = .start := by
            rw [readLiteral_append, Option.bind_eq_some_iff] at read
            obtain ⟨p, -, read⟩ := read
            rw [readLiteral_cons, Option.bind_eq_some_iff] at read
            obtain ⟨r, step, read⟩ := read
            cases read
            exact LiteralPart.eq_start_of_step step
          simp [anew, ih]

/-- Text without quotes and backslashes leaves the reader where it is. -/
theorem readLiteral_of_plain {cs : List Char} (plain : ∀ c ∈ cs, c ≠ '"' ∧ c ≠ '\\') :
    readLiteral .start cs = some .start := by
  induction cs with
  | nil => rfl
  | cons c cs ih =>
      rw [List.forall_mem_cons] at plain
      obtain ⟨⟨noQuote, noBackslash⟩, plain⟩ := plain
      rw [readLiteral_cons]
      simp only [LiteralPart.step, LiteralPart.start, noQuote, and_false, if_false,
        EscapePart.step, noBackslash, Option.map_some, Option.bind_some]
      exact ih plain

/-- Where no backslash stands, three quotes in a row stop the reader, and nothing else does. -/
theorem readLiteral_of_no_backslash {cs : List Char} (noBackslash : '\\' ∉ cs) {run : Nat}
    (few : run ≤ 2) :
    (tripleQuote <:+: List.replicate run '"' ++ cs → readLiteral ⟨.plain, run⟩ cs = none) ∧
      (¬ tripleQuote <:+: List.replicate run '"' ++ cs →
        ∃ run', readLiteral ⟨.plain, run⟩ cs = some ⟨.plain, run'⟩) := by
  induction cs generalizing run with
  | nil =>
      refine ⟨?_, fun _ => ⟨run, rfl⟩⟩
      intro inside
      have length := inside.length_le
      simp only [tripleQuote, List.length_cons, List.length_nil, List.length_append,
        List.length_replicate] at length
      omega
  | cons c cs ih =>
      simp only [List.mem_cons, not_or] at noBackslash
      obtain ⟨plain, noBackslash⟩ := noBackslash
      rw [readLiteral_cons]
      by_cases quote : c = '"'
      · subst quote
        by_cases full : run = 2
        · subst full
          have inside : tripleQuote <:+: List.replicate 2 '"' ++ '"' :: cs :=
            List.IsPrefix.isInfix ⟨cs, rfl⟩
          exact ⟨fun _ => by simp [LiteralPart.step], fun apart => absurd inside apart⟩
        · have more : List.replicate run '"' ++ '"' :: cs = List.replicate (run + 1) '"' ++ cs := by
            rw [List.replicate_succ', List.append_assoc, List.singleton_append]
          have next := ih noBackslash (show run + 1 ≤ 2 by omega)
          rw [more]
          simpa [LiteralPart.step, full] using next
      · have apart : tripleQuote <:+: List.replicate run '"' ++ c :: cs ↔ tripleQuote <:+: cs := by
          match run, few with
          | 0, _ | 1, _ | 2, _ =>
              simp [tripleQuote, List.infix_cons_iff, List.cons_prefix_cons, List.replicate,
                Ne.symm quote]
        have next := ih noBackslash (Nat.zero_le 2)
        simp only [apart]
        simpa [LiteralPart.step, quote, EscapePart.step, Ne.symm plain] using next

end HttpAdapter.Grammar
