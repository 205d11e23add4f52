import HttpAdapter.Grammar.Program

/-!
How tokens are read as statements, whatever stands behind them.  A statement needs no more depth
than twice its length and a little, so statements can be put one behind the other and into the
blocks of others; the rules that the rest takes no part in are read by computation.
-/

namespace HttpAdapter.Grammar

/-- Whether the token goes on a compound statement. -/
def Token.continues : Token → Bool
  | .keyword .elifKw | .keyword .elseKw | .keyword .exceptKw | .keyword .finallyKw => true
  | _ => false

/-- Whether a statement may begin with the token, wherever it stands. -/
def Token.beginsStatement (t : Token) : Bool := t != .dedent && !t.continues

variable [Interpreter]

/-- The literals among the tokens are well formed, and so are those in formatted ones. -/
def AreSound (ts : List Token) : Prop := ∀ depth, literalsWellFormed (depth + 2) ts = true

/-- The tokens are one statement, unless what stands behind goes it on. -/
structure IsStatement (ts : List Token) : Prop where
  begins : ts.head?.any Token.beginsStatement = true
  reads : ∀ {inner depth rest}, 2 * ts.length + 7 ≤ inner → 2 * ts.length + 7 ≤ depth →
    rest.head?.any Token.continues = false →
      readSection inner depth .statement (ts ++ rest) = some rest
  sound : AreSound ts

/-- The tokens are statements, one behind the other. -/
inductive AreStatements : List Token → Prop where
  | nil : AreStatements []
  | cons {ts us : List Token} (first : IsStatement ts) (others : AreStatements us) :
      AreStatements (ts ++ us)

/-- The tokens are the statements of a block. -/
def AreBlock (ts : List Token) : Prop := AreStatements ts ∧ ts ≠ []

/-- The tokens begin a compound statement, up to the colon in front of its block. -/
structure Opens (ts : List Token) : Prop where
  begins : ts.head?.any Token.beginsStatement = true
  opens : ∀ {inner depth us}, 2 * ts.length + 7 ≤ inner →
    readSection inner (depth + 2) .statement (ts ++ us) = readSection inner (depth + 1) .block us
  sound : AreSound ts

section Sound

theorem literalsWellFormed_append (depth : Nat) (ts us : List Token) :
    literalsWellFormed depth (ts ++ us) =
      (literalsWellFormed depth ts && literalsWellFormed depth us) := by
  cases depth with
  | zero => rfl
  | succ depth => simp only [literalsWellFormed, List.all_append]

theorem AreSound.append {ts us : List Token} (first : AreSound ts) (second : AreSound us) :
    AreSound (ts ++ us) := by
  intro depth
  rw [literalsWellFormed_append, first depth, second depth]
  rfl

theorem areSound_nil : AreSound [] := fun _ => rfl

end Sound

section Ends

omit [Interpreter]

variable {read : Phrase → Reader} {go : Section → StatementReader} {rest : List Token}

theorem readElse_end (ends : rest.head?.any Token.continues = false) :
    readElse go rest = some rest := by
  unfold readElse
  split
  · simp [Token.continues] at ends
  · rfl

theorem readAttemptEnd_end (ends : rest.head?.any Token.continues = false) :
    readAttemptEnd go rest = some rest := by
  rw [readAttemptEnd, readElse_end ends]
  dsimp only [Option.bind_eq_bind, Option.bind_some]
  split
  · simp [Token.continues] at ends
  · rfl

theorem readHandlers_end {groups : Bool} (ends : rest.head?.any Token.continues = false) :
    readHandlers read go groups rest = some rest := by
  unfold readHandlers
  split
  · simp [Token.continues] at ends
  · exact readAttemptEnd_end ends

theorem readOtherwise_end (ends : rest.head?.any Token.continues = false) :
    readOtherwise read go rest = some rest := by
  unfold readOtherwise
  split
  · simp [Token.continues] at ends
  · exact readElse_end ends

/-- What stands behind statements is the end of their block or of the text. -/
def endsBlock : List Token → Bool
  | [] => true
  | t :: _ => t == .dedent

theorem not_continues_of_endsBlock (ends : endsBlock rest = true) :
    rest.head?.any Token.continues = false := by
  cases rest with
  | nil => rfl
  | cons t rest =>
      rw [endsBlock, beq_iff_eq] at ends
      rw [ends]
      rfl

end Ends

section Statements

variable {ts us rest : List Token}

theorem IsStatement.full (statement : IsStatement ts) : ts ≠ [] := by
  rintro rfl
  cases statement.begins

theorem IsStatement.single (statement : IsStatement ts) : AreStatements ts := by
  rw [← List.append_nil ts]
  exact AreStatements.cons statement AreStatements.nil

theorem AreStatements.append (first : AreStatements ts) (second : AreStatements us) :
    AreStatements (ts ++ us) := by
  induction first with
  | nil => exact second
  | cons statement _ ih =>
      rw [List.append_assoc]
      exact AreStatements.cons statement ih

theorem IsStatement.append (first : IsStatement ts) (others : AreStatements us) :
    AreBlock (ts ++ us) :=
  ⟨AreStatements.cons first others, fun none => first.full (List.append_eq_nil_iff.mp none).1⟩

theorem AreStatements.sound (statements : AreStatements ts) : AreSound ts := by
  induction statements with
  | nil => exact areSound_nil
  | cons statement _ ih => exact statement.sound.append ih

/-- Statements begin as statements do, or there are none. -/
theorem AreStatements.begins (statements : AreStatements ts) :
    ts = [] ∨ ts.head?.any Token.beginsStatement = true := by
  cases statements with
  | nil => exact Or.inl rfl
  | @cons ts us statement _ =>
      right
      have begins := statement.begins
      cases ts with
      | nil => cases begins
      | cons t ts => exact begins

/-- Statements are read up to the end of their block. -/
theorem AreBlock.reads {inner depth : Nat} (block : AreBlock ts)
    (deepInside : 2 * ts.length + 7 ≤ inner) (deep : 2 * ts.length + 8 ≤ depth)
    (ends : endsBlock rest = true) :
    readSection inner depth .statements (ts ++ rest) = some rest := by
  obtain ⟨statements, full⟩ := block
  induction statements generalizing depth with
  | nil => exact absurd rfl full
  | @cons ts us statement others ih =>
      have positive : 0 < ts.length := List.length_pos_iff.mpr statement.full
      rw [List.length_append] at deepInside deep
      obtain ⟨depth, rfl⟩ : ∃ less, depth = less + 1 := ⟨depth - 1, by omega⟩
      have behind : (us ++ rest).head?.any Token.continues = false := by
        cases us with
        | nil => exact not_continues_of_endsBlock ends
        | cons t us =>
            have begins : t.beginsStatement = true := by
              rcases others.begins with none | begins
              · cases none
              · exact begins
            rw [Token.beginsStatement, Bool.and_eq_true, Bool.not_eq_true'] at begins
            exact begins.2
      have first : readSection inner depth .statement (ts ++ (us ++ rest)) = some (us ++ rest) :=
        statement.reads (by omega) (by omega) behind
      rw [List.append_assoc]
      change readStatements (readSection inner depth) (ts ++ (us ++ rest)) = some rest
      rw [readStatements, first]
      cases us with
      | nil =>
          cases rest with
          | nil => rfl
          | cons t rest =>
              rw [endsBlock, beq_iff_eq] at ends
              subst ends
              rfl
      | cons t us =>
          have notEnd : t ≠ .dedent := by
            rcases others.begins with none | begins
            · cases none
            · rintro rfl
              cases begins
          have onward : readSection inner depth .statements (t :: us ++ rest) = some rest :=
            ih (by omega) (by omega) (List.cons_ne_nil t us)
          rw [List.cons_append] at onward ⊢
          dsimp only [Option.bind_eq_bind, Option.bind_some]
          split
          · contradiction
          · rename_i same
            exact absurd (List.cons.inj same).1 notEnd
          · exact onward

/-- A compound statement is its head and a block of statements. -/
theorem IsStatement.block (head : Opens ts) (block : AreBlock us) :
    IsStatement (ts ++ .newline :: .indent :: (us ++ [Token.dedent])) where
  begins := by
    have begins := head.begins
    cases ts with
    | nil => cases begins
    | cons t ts => exact begins
  reads := by
    intro inner depth rest deepInside deep _
    simp only [List.length_append, List.length_cons, List.length_nil] at deepInside deep
    obtain ⟨depth, rfl⟩ : ∃ less, depth = less + 2 := ⟨depth - 2, by omega⟩
    have inBlock : readSection inner depth .statements (us ++ .dedent :: rest) =
        some (.dedent :: rest) :=
      block.reads (by omega) (by omega) rfl
    simp only [List.append_assoc, List.cons_append, List.nil_append]
    rw [head.opens (by omega)]
    change Option.bind (readSection inner depth .statements (us ++ .dedent :: rest)) _ = _
    rw [inBlock]
    rfl
  sound := head.sound.append
    ((show AreSound [.newline, .indent] from fun _ => rfl).append
      (block.1.sound.append (show AreSound [.dedent] from fun _ => rfl)))

/-- Statements up to the end of the text are a program's. -/
theorem AreStatements.isStatements (statements : AreStatements ts) : isStatements ts = true := by
  by_cases full : ts = []
  · rw [full]
    rfl
  · have read : readSection (phraseDepth ts) (phraseDepth ts) .statements (ts ++ []) = some [] :=
      AreBlock.reads ⟨statements, full⟩ (Nat.le_succ _) (Nat.le_refl _) rfl
    rw [List.append_nil] at read
    rw [Grammar.isStatements, read]
    simp

end Statements


section Rules

/-- A statement that is read at some depth, whatever is added to it. -/
theorem IsStatement.of_reads {ts : List Token} (least : Nat)
    (reads : ∀ i d rest, rest.head?.any Token.continues = false →
      readSection (i + least) (d + least) .statement (ts ++ rest) = some rest)
    (sound : AreSound ts) (begins : ts.head?.any Token.beginsStatement = true)
    (size : Nat.ble least (2 * ts.length + 7) = true) : IsStatement ts where
  begins := begins
  reads := by
    intro inner depth rest deepInside deep ends
    have enough := Nat.le_of_ble_eq_true size
    have read := reads (inner - least) (depth - least) rest ends
    rwa [Nat.sub_add_cancel (Nat.le_trans enough deepInside),
      Nat.sub_add_cancel (Nat.le_trans enough deep)] at read
  sound := sound

section Compound

variable {ts : List Token}

/-- An attempt that is read up to where further handlers could stand. -/
theorem IsStatement.of_attempt
    (reads : ∀ i d rest, readSection (i + 30) (d + 30) .statement (ts ++ rest) =
      readHandlers (readPhrase (i + 30)) (readSection (i + 30) (d + 27)) false rest)
    (sound : AreSound ts) (begins : ts.head?.any Token.beginsStatement = true)
    (size : Nat.ble 30 (2 * ts.length + 7) = true) : IsStatement ts :=
  IsStatement.of_reads 30 (fun i d rest ends => (reads i d rest).trans (readHandlers_end ends))
    sound begins size

/-- A condition that is read up to where another one could stand. -/
theorem IsStatement.of_condition
    (reads : ∀ i d rest, readSection (i + 30) (d + 30) .statement (ts ++ rest) =
      readOtherwise (readPhrase (i + 30)) (readSection (i + 30) (d + 28)) rest)
    (sound : AreSound ts) (begins : ts.head?.any Token.beginsStatement = true)
    (size : Nat.ble 30 (2 * ts.length + 7) = true) : IsStatement ts :=
  IsStatement.of_reads 30 (fun i d rest ends => (reads i d rest).trans (readOtherwise_end ends))
    sound begins size

/-- A loop that is read up to where a block for its regular end could stand. -/
theorem IsStatement.of_loop
    (reads : ∀ i d rest, readSection (i + 30) (d + 30) .statement (ts ++ rest) =
      readElse (readSection (i + 30) (d + 29)) rest)
    (sound : AreSound ts) (begins : ts.head?.any Token.beginsStatement = true)
    (size : Nat.ble 30 (2 * ts.length + 7) = true) : IsStatement ts :=
  IsStatement.of_reads 30 (fun i d rest ends => (reads i d rest).trans (readElse_end ends))
    sound begins size

end Compound

/-- A head that is read at some depth, whatever is added to it. -/
theorem Opens.of_opens {ts : List Token} (least : Nat)
    (opens : ∀ i d us, readSection (i + least) (d + 2) .statement (ts ++ us) =
      readSection (i + least) (d + 1) .block us)
    (sound : AreSound ts) (begins : ts.head?.any Token.beginsStatement = true)
    (size : Nat.ble least (2 * ts.length + 7) = true) : Opens ts where
  begins := begins
  opens := by
    intro inner depth us deepInside
    have read := opens (inner - least) depth us
    rwa [Nat.sub_add_cancel (Nat.le_trans (Nat.le_of_ble_eq_true size) deepInside)] at read
  sound := sound

end Rules

/-- The name of that spelling. -/
def ident (spelling : String) : Token := .name spelling.toList

/-- Attributes, one of the other. -/
def attributes (names : List String) : List Token :=
  names.flatMap fun name => [.symbol .dot, ident name]

section Expressions

omit [Interpreter]

variable {i : Nat} {f : Form} {ts rest : List Token}

/-- A primary at the end of its line is all of the expressions there. -/
theorem readPhrase_expressions {t : Token} (begins : (∃ n, t = .name n) ∨ t = .symbol .leftBrace)
    (primary : readPrimary (readPhrase (i + 1)) (t :: ts) = some (f, .newline :: rest)) :
    readPhrase (i + 2) .expressions (t :: ts) = some (f, .newline :: rest) := by
  have factor : readFactor (readPhrase (i + 1)) (t :: ts) = some (f, .newline :: rest) := by
    rcases begins with ⟨n, rfl⟩ | rfl <;> exact primary
  have sum : readSum (readPhrase (i + 1)) (t :: ts) = some (f, .newline :: rest) := by
    rw [readSum, factor]
    rfl
  have inversion : readInversion (readPhrase (i + 1)) (t :: ts) = some (f, .newline :: rest) := by
    have start : readInversion (readPhrase (i + 1)) (t :: ts) =
        (readSum (readPhrase (i + 1)) (t :: ts)).bind fun read =>
          readPhrase (i + 1) (.comparisons read.1) read.2 := by
      rcases begins with ⟨n, rfl⟩ | rfl <;> rfl
    rw [start, sum]
    rfl
  have disjunction :
      readDisjunction (readPhrase (i + 1)) (t :: ts) = some (f, .newline :: rest) := by
    rw [readDisjunction, inversion]
    rfl
  have expression : readExpression (readPhrase (i + 1)) (t :: ts) = some (f, .newline :: rest) := by
    rcases begins with ⟨n, rfl⟩ | rfl
    all_goals
      simp only [readExpression, disjunction]
      rfl
  have element : readElement (readPhrase (i + 1)) false (t :: ts) = some (f, .newline :: rest) := by
    rcases begins with ⟨n, rfl⟩ | rfl <;> exact expression
  change readExpressions (readPhrase (i + 1)) (t :: ts) = _
  rw [readExpressions, element]
  rfl

/-- Attributes of a primary, and a call without arguments at the end of the line. -/
theorem readPhrase_trailers (names : List String) :
    readPhrase (i + names.length + 3) (.trailers f)
      (attributes names ++ .symbol .leftParen :: .symbol .rightParen :: .newline :: rest) =
        some (.value, .newline :: rest) := by
  induction names generalizing f with
  | nil => rfl
  | cons name names ih => exact ih

theorem readPhrase_call (name : String) (names : List String) :
    readPhrase (i + names.length + 4) .expressions
      (ident name :: attributes names ++
        .symbol .leftParen :: .symbol .rightParen :: .newline :: rest) =
        some (.value, .newline :: rest) :=
  readPhrase_expressions (Or.inl ⟨_, rfl⟩) (readPhrase_trailers names)

theorem length_attributes (names : List String) :
    (attributes names).length = 2 * names.length := by
  induction names with
  | nil => rfl
  | cons name names ih =>
      simp only [attributes, List.flatMap_cons, List.length_append, List.length_cons] at ih ⊢
      rw [ih, List.length_nil]
      omega

/-- A pair of a mapping: a text, and a member of a member of an object. -/
def entry (key : List Char) (first second third : String) : List Token :=
  [.literal ⟨false, false, false, key⟩, .symbol .colon, ident first, .symbol .dot, ident second,
   .symbol .dot, ident third, .symbol .comma]

theorem readExpression_key (i : Nat) (key : List Char) (ts : List Token) :
    readExpression (readPhrase (i + 4))
      (.literal ⟨false, false, false, key⟩ :: .symbol .colon :: ts) =
        some (.value, .symbol .colon :: ts) := rfl

theorem readExpression_value (i : Nat) (first second third : String) (ts : List Token) :
    readExpression (readPhrase (i + 7)) (ident first :: .symbol .dot :: ident second ::
      .symbol .dot :: ident third :: .symbol .comma :: ts) =
        some (.place, .symbol .comma :: ts) := rfl

theorem readPhrase_entry (i : Nat) (key : List Char) (first second third : String)
    (ts : List Token) : readPhrase (i + 8) .pairs (entry key first second third ++ ts) =
      readPhrase (i + 7) .pairs ts := by
  change readPairs (readPhrase (i + 7)) (.literal ⟨false, false, false, key⟩ :: .symbol .colon ::
    ident first :: .symbol .dot :: ident second :: .symbol .dot :: ident third :: .symbol .comma ::
      ts) = _
  simp only [readPairs, readExpression_key (i + 3), expect, if_true, readExpression_value,
    afterPair, Option.bind_eq_bind, Option.bind_some]

/-- An entry in front of others leaves eight steps of depth for its own tokens. -/
theorem depth_entry (i : Nat) (key : List Char) (first second third : String) (ts : List Token) :
    i + (entry key first second third ++ ts).length + 2 = (i + ts.length + 2) + 8 := by
  rw [List.length_append, show (entry key first second third).length = 8 from rfl]
  omega

/-- What stands in front of the pairs of a table. -/
def tableHead : List Token :=
  [ident "self", .symbol .dot, ident "routes", .symbol .colon, ident "Dict", .symbol .leftBracket,
   ident "str", .symbol .comma, ident "Handler", .symbol .rightBracket, .symbol .assign,
   .symbol .leftBrace]

/-- A table is the value of an assignment with an annotation. -/
theorem readAssignment_table {i : Nat} {ts rest : List Token}
    (value : readPhrase (i + 12) .expressions (.symbol .leftBrace :: ts) = some (.value, rest)) :
    readAssignment (readPhrase (i + 12)) (tableHead ++ ts) = some rest := by
  have target : readPhrase (i + 12) .expressions (tableHead ++ ts) =
      some (.place, tableHead.drop 3 ++ ts) := rfl
  have annotation : readPhrase (i + 12) .expression (tableHead.drop 4 ++ ts) =
      some (.place, .symbol .assign :: .symbol .leftBrace :: ts) := rfl
  have colon : tableHead.drop 3 ++ ts = .symbol .colon :: (tableHead.drop 4 ++ ts) := rfl
  simp only [readAssignment, target, colon, Form.place, skip, annotation, readValue, value,
    Option.bind_eq_bind, Option.bind_some, Option.map_some, if_true]

theorem readDottedName_attributes (name : String) (names : List String) (ts : List Token) :
    readDottedName (ident name :: attributes names ++ .keyword .importKw :: ts) =
      some (.keyword .importKw :: ts) := by
  induction names generalizing name with
  | nil => rfl
  | cons next names ih => exact ih next

end Expressions

theorem areSound_attributes (names : List String) : AreSound (attributes names) := by
  intro depth
  induction names with
  | nil => rfl
  | cons name names ih => exact ih

/-- The result of a call without arguments, for a name. -/
theorem isStatement_assignCall {target : String} (other : target.toList ≠ matchName) (name : String)
    (names : List String) :
    IsStatement (ident target :: .symbol .assign :: ident name ::
      (attributes names ++ [Token.symbol .leftParen, .symbol .rightParen, .newline])) where
  begins := rfl
  reads := by
    intro inner depth rest deepInside deep _
    simp only [List.length_cons, List.length_append, length_attributes, List.length_nil]
      at deepInside deep
    obtain ⟨i, rfl⟩ : ∃ i, inner = i + names.length + 5 := ⟨inner - names.length - 5, by omega⟩
    obtain ⟨d, rfl⟩ : ∃ d, depth = d + 2 := ⟨depth - 2, by omega⟩
    have call : readPhrase (i + names.length + 4) .expressions (ident name :: (attributes names ++
        .symbol .leftParen :: .symbol .rightParen :: .newline :: rest)) =
          some (.value, .newline :: rest) := readPhrase_call name names
    have assigned : readPhrase (i + names.length + 5) .assigned (ident name :: (attributes names ++
        .symbol .leftParen :: .symbol .rightParen :: .newline :: rest)) =
          some (.value, .newline :: rest) := by
      change Option.bind (readPhrase (i + names.length + 4) .expressions _) _ = _
      rw [call]
      rfl
    simp only [List.cons_append, List.append_assoc, List.nil_append]
    change readStatement (readPhrase (i + names.length + 5))
      (readSection (i + names.length + 5) (d + 1))
      (.name target.toList :: .symbol .assign :: ident name :: (attributes names ++
        .symbol .leftParen :: .symbol .rightParen :: .newline :: rest)) = _
    rw [readStatement, if_neg other]
    change Option.bind (Option.map (·.2) (readPhrase (i + names.length + 5) .assigned _)) _ = _
    rw [assigned]
    rfl
  sound :=
    (show AreSound [ident target, .symbol .assign, ident name] from fun _ => rfl).append
      ((areSound_attributes names).append fun _ => rfl)

/-- The pairs of a mapping. -/
inductive AreEntries : List Token → Prop where
  | nil : AreEntries []
  | cons {key : List Char} {first second third : String} {ts : List Token}
      (complete : escapesComplete false key = true) (others : AreEntries ts) :
      AreEntries (entry key first second third ++ ts)

theorem AreEntries.append {ts us : List Token} (first : AreEntries ts) (second : AreEntries us) :
    AreEntries (ts ++ us) := by
  induction first with
  | nil => exact second
  | cons complete _ ih =>
      rw [List.append_assoc]
      exact AreEntries.cons complete ih

theorem AreEntries.sound {ts : List Token} (entries : AreEntries ts) : AreSound ts := by
  induction entries with
  | nil => exact areSound_nil
  | cons complete _ ih =>
      refine AreSound.append (fun depth => ?_) ih
      simp [literalsWellFormed, entry, ident, complete]

theorem AreEntries.reads {i : Nat} {ts rest : List Token} (entries : AreEntries ts) :
    readPhrase (i + ts.length + 2) .pairs (ts ++ .symbol .rightBrace :: rest) =
      some (.value, rest) := by
  induction entries generalizing i with
  | nil => rfl
  | @cons key first second third ts complete _ ih =>
      have less : i + ts.length + 2 + 7 = (i + 7) + ts.length + 2 := by omega
      rw [depth_entry, List.append_assoc, readPhrase_entry, less]
      exact ih

theorem AreEntries.afterBrace {i : Nat} {ts rest : List Token} (entries : AreEntries ts) :
    afterBrace (readPhrase (i + ts.length + 2)) (ts ++ .symbol .rightBrace :: rest) =
      some (.value, rest) := by
  cases entries with
  | nil => rfl
  | @cons key first second third ts complete others =>
      have less : i + ts.length + 2 + 8 = (i + 8) + ts.length + 2 := by omega
      rw [depth_entry, List.append_assoc]
      change readPhrase (i + ts.length + 2 + 8) .pairs (ts ++ .symbol .rightBrace :: rest) = _
      rw [less]
      exact others.reads

theorem AreEntries.isStatement {ts : List Token} (entries : AreEntries ts) :
    IsStatement (tableHead ++ (ts ++ [Token.symbol .rightBrace, .newline])) where
  begins := rfl
  reads := by
    intro inner depth rest deepInside deep _
    simp only [List.length_append, List.length_cons, List.length_nil,
      show tableHead.length = 12 from rfl] at deepInside deep
    obtain ⟨i, rfl⟩ : ∃ i, inner = i + ts.length + 12 := ⟨inner - ts.length - 12, by omega⟩
    obtain ⟨d, rfl⟩ : ∃ d, depth = d + 2 := ⟨depth - 2, by omega⟩
    have atom : readAtom (readPhrase (i + ts.length + 11)) (.symbol .leftBrace :: (ts ++
        .symbol .rightBrace :: .newline :: rest)) = some (.value, .newline :: rest) := by
      have less : i + ts.length + 11 = i + 9 + ts.length + 2 := by omega
      rw [less]
      exact entries.afterBrace
    have value : readPhrase (i + ts.length + 12) .expressions (.symbol .leftBrace :: (ts ++
        .symbol .rightBrace :: .newline :: rest)) = some (.value, .newline :: rest) := by
      refine readPhrase_expressions (Or.inr rfl) ?_
      rw [readPrimary, atom]
      rfl
    simp only [List.append_assoc, List.cons_append, List.nil_append]
    change Option.bind (readAssignment (readPhrase (i + ts.length + 12)) (tableHead ++ (ts ++
        .symbol .rightBrace :: .newline :: rest))) _ = _
    rw [readAssignment_table value]
    rfl
  sound := AreSound.append (fun _ => rfl) (entries.sound.append fun _ => rfl)

/-- A member of a package is imported under another name. -/
theorem isStatement_importMember (name : String) (names : List String) (member bound : String) :
    IsStatement (.keyword .fromKw :: ident name :: (attributes names ++
      [.keyword .importKw, ident member, .keyword .asKw, ident bound, .newline])) where
  begins := rfl
  reads := by
    intro inner depth rest deepInside deep _
    obtain ⟨d, rfl⟩ : ∃ d, depth = d + 2 := ⟨depth - 2, by omega⟩
    have source : readSource (ident name :: (attributes names ++
        .keyword .importKw :: ident member :: .keyword .asKw :: ident bound :: .newline :: rest)) =
        some (.keyword .importKw :: ident member :: .keyword .asKw :: ident bound :: .newline ::
          rest) :=
      readDottedName_attributes name names _
    simp only [List.append_assoc, List.cons_append, List.nil_append]
    change Option.bind (Option.bind (readSource (ident name :: (attributes names ++
        .keyword .importKw :: ident member :: .keyword .asKw :: ident bound :: .newline ::
        rest))) _) _ = _
    rw [source]
    rfl
  sound := (show AreSound [.keyword .fromKw, ident name] from fun _ => rfl).append
    ((areSound_attributes names).append fun _ => rfl)

/-- A module is imported under another name. -/
theorem isStatement_importModule (name bound : String) :
    IsStatement [.keyword .importKw, ident name, .keyword .asKw, ident bound, .newline] :=
  IsStatement.of_reads 2 (fun _ _ _ _ => rfl) (fun _ => rfl) rfl rfl

end HttpAdapter.Grammar
