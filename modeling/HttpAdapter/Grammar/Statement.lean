import HttpAdapter.Grammar.Pattern

/-!
The statements of the language, from simple ones on a line to compound ones with blocks.  The
rules are given a reader for the expressions in them and one for each `Section`, and `readSection`
closes the circle with a bound on the depth.  Only the shape of a text is judged here: a `return`
outside a function has a meaningful shape.
-/

namespace HttpAdapter.Grammar

/-- The parts of a program that the rules refer to. -/
inductive Section where
  /-- One or more statements, up to the end of their block. -/
  | statements
  | statement
  /-- What stands behind the colon of a compound statement. -/
  | block
  /-- Simple statements on one line. -/
  | line
  /-- What stands behind the block of a condition. -/
  | otherwise
  /-- The handlers of an attempt, which catch groups or single errors. -/
  | handlers (groups : Bool)
  /-- The cases of a selection, up to the end of their block. -/
  | cases
  /-- The managers of a context, in parentheses or not. -/
  | managers (enclosed : Bool)
  /-- A definition behind its decorators. -/
  | decorated
  deriving DecidableEq, Repr

/-- Takes a statement or a part of one off the front of the tokens. -/
abbrev StatementReader := List Token → Option (List Token)

/-- The name that begins a selection. -/
def matchName : List Char := ['m', 'a', 't', 'c', 'h']

/-- The name that begins a case of a selection. -/
def caseName : List Char := ['c', 'a', 's', 'e']

/-- Takes the end of a line off the front of the tokens. -/
def expectNewline : StatementReader
  | .newline :: ts => some ts
  | _ => none

/-- Names with commas between them. -/
def readNames : StatementReader
  | .name _ :: .symbol .comma :: ts => readNames ts
  | .name _ :: ts => some ts
  | _ => none

/-- A name, perhaps with others in front of it that dots separate. -/
def readDottedName : StatementReader
  | .name _ :: .symbol .dot :: ts => readDottedName ts
  | .name _ :: ts => some ts
  | _ => none

/-- Modules to import, each with a name of its own or not. -/
def readImportedModules : StatementReader
  | .name _ :: .symbol .dot :: ts => readImportedModules ts
  | .name _ :: .symbol .comma :: ts => readImportedModules ts
  | .name _ :: .keyword .asKw :: .name _ :: .symbol .comma :: ts => readImportedModules ts
  | .name _ :: .keyword .asKw :: .name _ :: ts => some ts
  | .name _ :: ts => some ts
  | _ => none

/-- Names to import from a module; no comma comes last. -/
def readImportedNames : StatementReader
  | .name _ :: .symbol .comma :: ts => readImportedNames ts
  | .name _ :: .keyword .asKw :: .name _ :: .symbol .comma :: ts => readImportedNames ts
  | .name _ :: .keyword .asKw :: .name _ :: ts => some ts
  | .name _ :: ts => some ts
  | _ => none

/-- Names to import from a module, up to a closing parenthesis; a comma may come last. -/
def readEnclosedNames : StatementReader
  | .name _ :: .symbol .rightParen :: ts => some ts
  | .name _ :: .symbol .comma :: .symbol .rightParen :: ts => some ts
  | .name _ :: .symbol .comma :: ts => readEnclosedNames ts
  | .name _ :: .keyword .asKw :: .name _ :: .symbol .rightParen :: ts => some ts
  | .name _ :: .keyword .asKw :: .name _ :: .symbol .comma :: .symbol .rightParen :: ts => some ts
  | .name _ :: .keyword .asKw :: .name _ :: .symbol .comma :: ts => readEnclosedNames ts
  | _ => none

/-- Drops the dots in front of a module that is named from where the text stands. -/
def dropDots : List Token → List Token
  | .symbol .dot :: ts | .symbol .ellipsis :: ts => dropDots ts
  | ts => ts

/-- The module that names are imported from: a name, or dots, or a name behind dots. -/
def readSource (ts : List Token) : Option (List Token) :=
  match ts, dropDots ts with
  | .symbol _ :: _, .keyword .importKw :: rest => some (.keyword .importKw :: rest)
  | _, rest => readDottedName rest

/-- What is imported from a module. -/
def readImportTargets : StatementReader
  | .symbol .star :: ts => some ts
  | .symbol .leftParen :: ts => readEnclosedNames ts
  | ts => readImportedNames ts

/-- Whether the symbol updates what stands left of it. -/
def Symbol.isUpdate : Symbol → Bool
  | .plusAssign | .minusAssign | .starAssign | .powerAssign | .slashAssign | .floorDivAssign
  | .percentAssign | .matMulAssign | .shiftLeftAssign | .shiftRightAssign
  | .ampersandAssign | .barAssign | .caretAssign => true
  | _ => false

section Rules

variable (read : Phrase → Reader) (pattern : StatementReader) (go : Section → StatementReader)

/-- An expression phrase, of which only the rest of the tokens matters. -/
def skip (p : Phrase) : StatementReader := fun ts => (read p ts).map (·.2)

/-- A value: expressions, or what a generator is asked for. -/
def readValue : StatementReader
  | .keyword .yieldKw :: ts => skip read .yielded ts
  | ts => skip read .expressions ts

/-- An assignment, an annotation, an update, or an expression by itself. -/
def readAssignment : StatementReader := fun ts => do
  let (f, ts) ← read .expressions ts
  match ts with
  | .symbol .assign :: ts => if f.target then skip read .assigned ts else none
  | .symbol .colon :: ts =>
      if f.single then do
        let ts ← skip read .expression ts
        match ts with
        | .symbol .assign :: ts => readValue read ts
        | _ => some ts
      else none
  | .symbol m :: ts =>
      if m.isUpdate then if f.single then readValue read ts else none
      else some (.symbol m :: ts)
  | _ => some ts

/-- A simple statement. -/
def readSimple : StatementReader
  | .keyword .passKw :: ts | .keyword .breakKw :: ts | .keyword .continueKw :: ts => some ts
  | .keyword .returnKw :: ts =>
      if startsExpression ts then skip read .expressions ts else some ts
  | .keyword .raiseKw :: ts =>
      if startsExpression ts then do
        let ts ← skip read .expression ts
        match ts with
        | .keyword .fromKw :: ts => skip read .expression ts
        | _ => some ts
      else some ts
  | .keyword .globalKw :: ts | .keyword .nonlocalKw :: ts => readNames ts
  | .keyword .assertKw :: ts => do
      let ts ← skip read .expression ts
      match ts with
      | .symbol .comma :: ts => skip read .expression ts
      | _ => some ts
  | .keyword .delKw :: ts => skip read .erasures ts
  | .keyword .importKw :: ts => readImportedModules ts
  | .keyword .fromKw :: ts => do
      let ts ← readSource ts
      let ts ← expectWord .importKw ts
      readImportTargets ts
  | .keyword .yieldKw :: ts => skip read .yielded ts
  | ts => readAssignment read ts

/-- Simple statements up to the end of their line, with semicolons between them. -/
def readLine : StatementReader := fun ts => do
  let ts ← readSimple read ts
  match ts with
  | .newline :: ts => some ts
  | .symbol .semicolon :: .newline :: ts => some ts
  | .symbol .semicolon :: ts => go .line ts
  | _ => none

/-- A colon and a block. -/
def colonBlock (ts : List Token) : Option (List Token) := do
  let ts ← expect .colon ts
  go .block ts

/-- Statements on lines of their own, deeper than the line before, or on the same line. -/
def readBlock : StatementReader
  | .newline :: .indent :: ts => do
      let ts ← go .statements ts
      match ts with
      | .dedent :: ts => some ts
      | _ => none
  | .newline :: _ => none
  | ts => go .line ts

/-- What stands behind a loop: a block for its regular end, or nothing. -/
def readElse : StatementReader
  | .keyword .elseKw :: ts => colonBlock go ts
  | ts => some ts

/-- What stands behind the block of a condition: another condition, a last block, or nothing. -/
def readOtherwise : StatementReader
  | .keyword .elifKw :: ts => do
      let ts ← skip read .namedExpression ts
      let ts ← colonBlock go ts
      go .otherwise ts
  | ts => readElse go ts

/-- A loop over elements, behind its first word. -/
def readFor : StatementReader := fun ts => do
  let ts ← skip read .targets ts
  let ts ← expectWord .inKw ts
  let ts ← skip read .expressions ts
  let ts ← colonBlock go ts
  readElse go ts

/-- The managers of a context: expressions, each with a target for its value or not. -/
def readManagers (enclosed : Bool) : StatementReader := fun ts => do
  let ts ← skip read .expression ts
  let ts ← match ts with
    | .keyword .asKw :: ts => skip read .target ts
    | _ => some ts
  match ts with
  | .symbol .comma :: ts =>
      if enclosed && (ts.head? = some (.symbol .rightParen)) then some ts
      else go (.managers enclosed) ts
  | _ => some ts

/-- The managers of a context in parentheses, up to the colon. -/
def readEnclosedManagers : StatementReader
  | .symbol .leftParen :: ts => do
      let ts ← go (.managers true) ts
      let ts ← expect .rightParen ts
      expect .colon ts
  | _ => none

/-- A context, behind its first word.  Parentheses belong to the list of managers if that makes
    sense, else to the first manager. -/
def readWith : StatementReader := fun ts => do
  let ts ← match readEnclosedManagers go ts with
    | some rest => some rest
    | none => (go (.managers false) ts).bind (expect .colon)
  go .block ts

/-- What stands behind the handlers of an attempt: a block for its regular end, and one for every
    end, or one of them, or nothing. -/
def readAttemptEnd : StatementReader := fun ts => do
  let ts ← readElse go ts
  match ts with
  | .keyword .finallyKw :: ts => colonBlock go ts
  | _ => some ts

/-- The handlers of an attempt.  A handler for groups names the errors it catches. -/
def readHandlers (groups : Bool) : StatementReader
  | .keyword .exceptKw :: ts => do
      let ts ← if groups then expect .star ts else some ts
      let ts ← match groups, ts with
        | false, .symbol .colon :: _ => some ts
        | _, _ => do
            let ts ← skip read .expression ts
            match ts with
            | .keyword .asKw :: .name _ :: ts => some ts
            | _ => some ts
      let ts ← colonBlock go ts
      go (.handlers groups) ts
  | ts => readAttemptEnd go ts

/-- An attempt, behind its first word: handlers follow, or a block for every end. -/
def readTry : StatementReader := fun ts => do
  let ts ← colonBlock go ts
  match ts with
  | .keyword .finallyKw :: ts => colonBlock go ts
  | .keyword .exceptKw :: .symbol .star :: _ => go (.handlers true) ts
  | .keyword .exceptKw :: _ => go (.handlers false) ts
  | _ => none

/-- A function, behind its first word. -/
def readFunction : StatementReader
  | .name _ :: .symbol .leftParen :: ts => do
      let ts ← skip read (.parameters true .start) ts
      let ts ← expect .rightParen ts
      let ts ← match ts with
        | .symbol .arrow :: ts => skip read .expression ts
        | _ => some ts
      colonBlock go ts
  | _ => none

/-- A class, behind its first word. -/
def readClass : StatementReader
  | .name _ :: .symbol .leftParen :: ts => do
      let ts ← skip read (.arguments .positional) ts
      colonBlock go ts
  | .name _ :: ts => colonBlock go ts
  | _ => none

/-- A statement that begins with `async`, behind that word. -/
def readAsync : StatementReader
  | .keyword .defKw :: ts => readFunction read go ts
  | .keyword .forKw :: ts => readFor read go ts
  | .keyword .withKw :: ts => readWith go ts
  | _ => none

/-- A definition behind its decorators. -/
def readDecorated : StatementReader
  | .symbol .matMul :: ts => do
      let ts ← skip read .namedExpression ts
      let ts ← expectNewline ts
      go .decorated ts
  | .keyword .defKw :: ts => readFunction read go ts
  | .keyword .asyncKw :: .keyword .defKw :: ts => readFunction read go ts
  | .keyword .classKw :: ts => readClass read go ts
  | _ => none

/-- The cases of a selection, up to the end of their block. -/
def readCases : StatementReader
  | .name n :: ts =>
      if n = caseName then do
        let ts ← pattern ts
        let ts ← match ts with
          | .keyword .ifKw :: ts => skip read .namedExpression ts
          | _ => some ts
        let ts ← colonBlock go ts
        match ts with
        | .dedent :: ts => some ts
        | _ => go .cases ts
      else none
  | _ => none

/-- A selection, behind its first word. -/
def readMatch : StatementReader := fun ts => do
  let ts ← skip read .subject ts
  let ts ← expect .colon ts
  match ts with
  | .newline :: .indent :: ts => go .cases ts
  | _ => none

/-- A statement.  The word that begins a selection is a name, and the line may also be a simple
    statement that begins with that name. -/
def readStatement : StatementReader
  | .keyword .ifKw :: ts => do
      let ts ← skip read .namedExpression ts
      let ts ← colonBlock go ts
      go .otherwise ts
  | .keyword .whileKw :: ts => do
      let ts ← skip read .namedExpression ts
      let ts ← colonBlock go ts
      readElse go ts
  | .keyword .forKw :: ts => readFor read go ts
  | .keyword .tryKw :: ts => readTry go ts
  | .keyword .withKw :: ts => readWith go ts
  | .keyword .defKw :: ts => readFunction read go ts
  | .keyword .classKw :: ts => readClass read go ts
  | .keyword .asyncKw :: ts => readAsync read go ts
  | .symbol .matMul :: ts => readDecorated read go (.symbol .matMul :: ts)
  | .name n :: ts =>
      if n = matchName then
        match readMatch read go ts with
        | some rest => some rest
        | none => go .line (.name n :: ts)
      else go .line (.name n :: ts)
  | ts => go .line ts

/-- Statements up to the end of their block or of the text. -/
def readStatements : StatementReader := fun ts => do
  let ts ← go .statement ts
  match ts with
  | [] => some []
  | .dedent :: _ => some ts
  | _ => go .statements ts

/-- The rule for each section. -/
def sectionRule : Section → StatementReader
  | .statements => readStatements go
  | .statement => readStatement read go
  | .block => readBlock go
  | .line => readLine read go
  | .otherwise => readOtherwise read go
  | .handlers groups => readHandlers read go groups
  | .cases => readCases read pattern go
  | .managers enclosed => readManagers read go enclosed
  | .decorated => readDecorated read go

end Rules

/-- Reads a section whose rules nest no deeper than `depth`, with phrases and patterns no deeper
    than `inner`. -/
def readSection (inner : Nat) : Nat → Section → StatementReader
  | 0, _, _ => none
  | depth + 1, s, ts =>
      sectionRule (readPhrase inner) (readCasePattern inner) (readSection inner depth) s ts

end HttpAdapter.Grammar
