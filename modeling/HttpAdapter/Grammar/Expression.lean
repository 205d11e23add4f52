import HttpAdapter.Grammar.Token

/-!
The expressions of the language.  A `Reader` takes an expression off the front of a list of tokens
and says what may be done with it: it may be assigned to, deleted, or neither.  The rules do not
recurse themselves: each is given a reader for every `Phrase`, and `readPhrase` closes the circle
with a bound on the depth.  The precedence of operators plays no part in what is an expression, so
that only the levels remain at which other phrases may stand.
-/

namespace HttpAdapter.Grammar

/-- What may be done with an expression that has been read. -/
structure Form where
  /-- It may be annotated and updated in place: a name, an attribute or an element. -/
  single : Bool
  /-- It may stand left of an assignment. -/
  target : Bool
  /-- It may be deleted. -/
  erasable : Bool
  deriving DecidableEq, Repr

namespace Form

/-- A name, an attribute or an element. -/
def place : Form := ⟨true, true, true⟩

/-- Anything that is only a value. -/
def value : Form := ⟨false, false, false⟩

/-- A tuple or list without elements. -/
def nothing : Form := ⟨false, true, true⟩

/-- An expression behind a star. -/
def starred (f : Form) : Form := ⟨false, f.target, false⟩

/-- A tuple or list of an element and others. -/
def also (f g : Form) : Form := ⟨false, f.target && g.target, f.erasable && g.erasable⟩

end Form

/-- The arguments of a call that have been read: none, only positional ones, one with a name, or
    one that unpacks a mapping. -/
inductive ArgumentStage where
  | first | positional | named | unpacked
  deriving DecidableEq, Repr

/-- What the star in a list of parameters has been followed by. -/
inductive StarStage where
  /-- There was no star yet. -/
  | unseen
  /-- The star stood alone, and a name has to follow. -/
  | bare
  | seen
  /-- Two stars: the list is at its end. -/
  | last
  deriving DecidableEq, Repr

/-- The parameters that have been read. -/
structure ParameterStage where
  /-- Some parameter came before. -/
  begun : Bool
  /-- Some parameter came with a default. -/
  defaulted : Bool
  /-- The slash came. -/
  slashed : Bool
  star : StarStage
  deriving DecidableEq, Repr

/-- No parameter yet. -/
def ParameterStage.start : ParameterStage := ⟨false, false, false, .unseen⟩

/-- The phrases that the rules refer to. -/
inductive Phrase where
  | expression
  /-- An expression, or a name with a value for it. -/
  | namedExpression
  /-- One or more expressions, with stars or without. -/
  | expressions
  /-- What goes on a list of expressions after a comma. -/
  | moreExpressions (named : Bool)
  /-- What is given to an assignment: further targets and the value. -/
  | assigned
  | yielded
  /-- What a selection is made on. -/
  | subject
  | inversion
  /-- What goes on a chain of connectives, comparisons or operators. -/
  | connectives (f : Form)
  | comparisons (f : Form)
  | operations (f : Form)
  | factor
  /-- Attributes, calls and elements behind an expression. -/
  | trailers (f : Form)
  | arguments (stage : ArgumentStage)
  | subscripts
  | pairs
  /-- The loops and conditions of a comprehension. -/
  | loops
  | conditions
  /-- One target of a loop, or all of them. -/
  | target
  | targets
  /-- What is to be deleted. -/
  | erasures
  | parameters (annotated : Bool) (stage : ParameterStage)
  deriving DecidableEq, Repr

/-- Takes a phrase off the front of the tokens. -/
abbrev Reader := List Token → Option (Form × List Token)

/-- Takes a symbol off the front of the tokens. -/
def expect (m : Symbol) : List Token → Option (List Token)
  | .symbol n :: ts => if n = m then some ts else none
  | _ => none

/-- Takes a reserved word off the front of the tokens. -/
def expectWord (k : Keyword) : List Token → Option (List Token)
  | .keyword l :: ts => if l = k then some ts else none
  | _ => none

/-- Whether an expression, with a star or without, begins with the token. -/
def Token.beginsExpression : Token → Bool
  | .name _ | .number _ | .literal _ => true
  | .keyword .falseKw | .keyword .noneKw | .keyword .trueKw | .keyword .notKw
  | .keyword .lambdaKw | .keyword .awaitKw => true
  | .symbol .leftParen | .symbol .leftBracket | .symbol .leftBrace | .symbol .ellipsis
  | .symbol .plus | .symbol .minus | .symbol .tilde | .symbol .star => true
  | _ => false

/-- Whether an expression begins at the front of the tokens. -/
def startsExpression (ts : List Token) : Bool := ts.head?.any Token.beginsExpression

/-- Whether the loops of a comprehension begin at the front of the tokens. -/
def startsLoop : List Token → Bool
  | .keyword .forKw :: _ | .keyword .asyncKw :: _ => true
  | _ => false

/-- Whether the symbol stands between two operands. -/
def Symbol.isOperator : Symbol → Bool
  | .plus | .minus | .star | .power | .slash | .floorDiv | .percent | .matMul
  | .shiftLeft | .shiftRight | .ampersand | .bar | .caret => true
  | _ => false

/-- Takes a comparison operator off the front of the tokens. -/
def comparisonOperator? : List Token → Option (List Token)
  | .symbol .less :: ts | .symbol .greater :: ts | .symbol .equal :: ts
  | .symbol .notEqual :: ts | .symbol .lessEqual :: ts | .symbol .greaterEqual :: ts => some ts
  | .keyword .inKw :: ts => some ts
  | .keyword .notKw :: .keyword .inKw :: ts => some ts
  | .keyword .isKw :: .keyword .notKw :: ts => some ts
  | .keyword .isKw :: ts => some ts
  | _ => none

/-- Takes the literals off the front that stand next to one: text and bytes do not mix. -/
def adjacentLiterals (bytes : Bool) : List Token → Option (List Token)
  | .literal t :: ts => if t.bytes = bytes then adjacentLiterals bytes ts else none
  | ts => some ts

section Rules

variable (go : Phrase → Reader)

/-- The phrase as a mere value. -/
def asValue (r : Option (Form × List Token)) : Option (Form × List Token) :=
  r.map fun (_, ts) => (.value, ts)

/-- The phrase with a closing symbol behind it. -/
def closedBy (m : Symbol) (r : Option (Form × List Token)) : Option (Form × List Token) :=
  r.bind fun (f, ts) => (expect m ts).map ((f, ·))

/-- An expression in parentheses, a tuple or a generator. -/
def afterParen : Reader := fun ts =>
  match ts with
  | .symbol .rightParen :: ts => some (.nothing, ts)
  | .keyword .yieldKw :: ts => closedBy .rightParen (go .yielded ts)
  | .symbol .star :: ts => do
      let (f, ts) ← go .factor ts
      let (f, ts) ← go (.operations f) ts
      let ts ← expect .comma ts
      let (g, ts) ← go (.moreExpressions true) ts
      closedBy .rightParen (some (f.starred.also g, ts))
  | _ => do
      let (f, ts) ← go .namedExpression ts
      match ts with
      | .symbol .rightParen :: ts => some (f, ts)
      | .symbol .comma :: ts => do
          let (g, ts) ← go (.moreExpressions true) ts
          closedBy .rightParen (some (f.also g, ts))
      | _ => if startsLoop ts then closedBy .rightParen (asValue (go .loops ts)) else none

/-- A list or a list comprehension. -/
def afterBracket : Reader := fun ts =>
  match ts with
  | .symbol .rightBracket :: ts => some (.nothing, ts)
  | .symbol .star :: _ => closedBy .rightBracket (go (.moreExpressions true) ts)
  | _ => do
      let (f, ts) ← go .namedExpression ts
      match ts with
      | .symbol .rightBracket :: ts => some (f.also .nothing, ts)
      | .symbol .comma :: ts => do
          let (g, ts) ← go (.moreExpressions true) ts
          closedBy .rightBracket (some (f.also g, ts))
      | _ => if startsLoop ts then closedBy .rightBracket (asValue (go .loops ts)) else none

/-- What follows the first element of a set. -/
def afterMember : Reader
  | .symbol .rightBrace :: ts => some (.value, ts)
  | .symbol .comma :: ts => closedBy .rightBrace (asValue (go (.moreExpressions true) ts))
  | ts => if startsLoop ts then closedBy .rightBrace (asValue (go .loops ts)) else none

/-- What follows a pair of a mapping. -/
def afterPair : Reader
  | .symbol .comma :: ts => go .pairs ts
  | .symbol .rightBrace :: ts => some (.value, ts)
  | _ => none

/-- A set, a mapping, or a comprehension of one. -/
def afterBrace : Reader := fun ts =>
  match ts with
  | .symbol .rightBrace :: _ | .symbol .power :: _ => go .pairs ts
  | .symbol .star :: _ => closedBy .rightBrace (asValue (go (.moreExpressions true) ts))
  | .name _ :: .symbol .walrus :: _ => do
      let (_, ts) ← go .namedExpression ts
      afterMember go ts
  | _ => do
      let (_, ts) ← go .expression ts
      match ts with
      | .symbol .colon :: ts => do
          let (_, ts) ← go .expression ts
          if startsLoop ts then closedBy .rightBrace (asValue (go .loops ts)) else afterPair go ts
      | _ => afterMember go ts

/-- The smallest expressions. -/
def readAtom : Reader
  | .name _ :: ts => some (.place, ts)
  | .number _ :: ts => some (.value, ts)
  | .literal t :: ts => (adjacentLiterals t.bytes ts).map ((.value, ·))
  | .keyword .trueKw :: ts | .keyword .falseKw :: ts | .keyword .noneKw :: ts => some (.value, ts)
  | .symbol .ellipsis :: ts => some (.value, ts)
  | .symbol .leftParen :: ts => afterParen go ts
  | .symbol .leftBracket :: ts => afterBracket go ts
  | .symbol .leftBrace :: ts => afterBrace go ts
  | _ => none

/-- A smallest expression with its trailers. -/
def readPrimary : Reader := fun ts => do
  let (f, ts) ← readAtom go ts
  go (.trailers f) ts

/-- Attributes, calls and elements. -/
def readTrailers (f : Form) : Reader
  | .symbol .dot :: .name _ :: ts => go (.trailers .place) ts
  | .symbol .leftParen :: ts => do
      let (_, ts) ← go (.arguments .first) ts
      go (.trailers .value) ts
  | .symbol .leftBracket :: ts => do
      let (_, ts) ← go .subscripts ts
      go (.trailers .place) ts
  | ts => some (f, ts)

/-- A primary behind signs or `await`. -/
def readFactor : Reader
  | .symbol .plus :: ts | .symbol .minus :: ts | .symbol .tilde :: ts => asValue (go .factor ts)
  | .keyword .awaitKw :: ts => asValue (readPrimary go ts)
  | ts => readPrimary go ts

/-- Operators and operands behind an operand. -/
def readOperations (f : Form) : Reader
  | .symbol m :: ts =>
      if m.isOperator then do
        let (_, ts) ← readFactor go ts
        go (.operations .value) ts
      else some (f, .symbol m :: ts)
  | ts => some (f, ts)

/-- An operand with the operators and operands behind it. -/
def readSum : Reader := fun ts => do
  let (f, ts) ← readFactor go ts
  go (.operations f) ts

/-- Comparisons behind a sum. -/
def readComparisons (f : Form) : Reader := fun ts =>
  match comparisonOperator? ts with
  | some ts => do
      let (_, ts) ← readSum go ts
      go (.comparisons .value) ts
  | none => some (f, ts)

/-- A comparison, or its negation. -/
def readInversion : Reader
  | .keyword .notKw :: ts => asValue (go .inversion ts)
  | ts => do
      let (f, ts) ← readSum go ts
      go (.comparisons f) ts

/-- Connectives behind a comparison. -/
def readConnectives (f : Form) : Reader
  | .keyword .andKw :: ts | .keyword .orKw :: ts => do
      let (_, ts) ← readInversion go ts
      go (.connectives .value) ts
  | ts => some (f, ts)

/-- Comparisons and their connectives. -/
def readDisjunction : Reader := fun ts => do
  let (f, ts) ← readInversion go ts
  go (.connectives f) ts

/-- A disjunction, a choice between two values, or a function without a name. -/
def readExpression : Reader
  | .keyword .lambdaKw :: ts => do
      let (_, ts) ← go (.parameters false .start) ts
      let ts ← expect .colon ts
      asValue (go .expression ts)
  | ts => do
      let (f, ts) ← readDisjunction go ts
      match ts with
      | .keyword .ifKw :: ts => do
          let (_, ts) ← readDisjunction go ts
          let ts ← expectWord .elseKw ts
          asValue (go .expression ts)
      | _ => some (f, ts)

/-- An expression, or a name with a value for it. -/
def readNamedExpression : Reader
  | .name _ :: .symbol .walrus :: ts => asValue (readExpression go ts)
  | ts => readExpression go ts

/-- An element of a list of expressions: a star goes with a sum. -/
def readElement (named : Bool) : Reader
  | .symbol .star :: ts => (readSum go ts).map fun (f, ts) => (f.starred, ts)
  | ts => if named then readNamedExpression go ts else readExpression go ts

/-- The elements that are left of a list of expressions, with a comma behind each but the last. -/
def readMoreExpressions (named : Bool) : Reader := fun ts =>
  if startsExpression ts then do
    let (f, ts) ← readElement go named ts
    match ts with
    | .symbol .comma :: ts => do
        let (g, ts) ← go (.moreExpressions named) ts
        some (f.also g, ts)
    | _ => some (f.also .nothing, ts)
  else some (.nothing, ts)

/-- One or more expressions; a comma makes them a tuple. -/
def readExpressions : Reader := fun ts => do
  let (f, ts) ← readElement go false ts
  match ts with
  | .symbol .comma :: ts => do
      let (g, ts) ← go (.moreExpressions false) ts
      some (f.also g, ts)
  | _ => some (f, ts)

/-- What stands behind `yield`. -/
def readYielded : Reader
  | .keyword .fromKw :: ts => asValue (readExpression go ts)
  | ts => if startsExpression ts then asValue (go .expressions ts) else some (.value, ts)

/-- What stands behind the sign of an assignment. -/
def readAssigned : Reader
  | .keyword .yieldKw :: ts => go .yielded ts
  | ts => do
      let (f, ts) ← go .expressions ts
      match ts with
      | .symbol .assign :: ts => if f.target then go .assigned ts else none
      | _ => some (.value, ts)

/-- What a selection is made on: a star asks for a comma. -/
def readSubject : Reader := fun ts => do
  let (f, rest) ← readElement go true ts
  match rest with
  | .symbol .comma :: rest => go (.moreExpressions true) rest
  | _ => if ts.head? = some (.symbol .star) then none else some (f, rest)

/-- What follows an argument. -/
def afterArgument (stage : ArgumentStage) : Reader
  | .symbol .comma :: ts => go (.arguments stage) ts
  | .symbol .rightParen :: ts => some (.value, ts)
  | _ => none

/-- The arguments of a call up to its closing parenthesis.  A generator may stand alone without
    parentheses of its own. -/
def readArguments (stage : ArgumentStage) : Reader
  | .symbol .rightParen :: ts => some (.value, ts)
  | .symbol .power :: ts => do
      let (_, ts) ← readExpression go ts
      afterArgument go .unpacked ts
  | .symbol .star :: ts =>
      if stage = .unpacked then none
      else do
        let (_, ts) ← readExpression go ts
        afterArgument go (if stage = .named then .named else .positional) ts
  | .name _ :: .symbol .assign :: ts => do
      let (_, ts) ← readExpression go ts
      afterArgument go (if stage = .unpacked then .unpacked else .named) ts
  | ts =>
      if stage = .named || stage = .unpacked then none
      else do
        let (_, ts) ← readNamedExpression go ts
        if stage = .first && startsLoop ts then closedBy .rightParen (asValue (go .loops ts))
        else afterArgument go .positional ts

/-- An expression that may be missing. -/
def readOptional : Reader := fun ts =>
  if startsExpression ts then readExpression go ts else some (.value, ts)

/-- The end and the stride of a slice, behind its first colon. -/
def readSliceEnd : Reader := fun ts => do
  let (_, ts) ← readOptional go ts
  match ts with
  | .symbol .colon :: ts => readOptional go ts
  | _ => some (.value, ts)

/-- An index or a slice. -/
def readSubscript : Reader
  | .symbol .star :: ts => readExpression go ts
  | .symbol .colon :: ts => readSliceEnd go ts
  | .name n :: .symbol .walrus :: ts => readNamedExpression go (.name n :: .symbol .walrus :: ts)
  | ts => do
      let (f, ts) ← readExpression go ts
      match ts with
      | .symbol .colon :: ts => readSliceEnd go ts
      | _ => some (f, ts)

/-- Indices and slices up to the closing bracket; there is at least one. -/
def readSubscripts : Reader := fun ts => do
  let (_, ts) ← readSubscript go ts
  match ts with
  | .symbol .comma :: .symbol .rightBracket :: ts => some (.value, ts)
  | .symbol .comma :: ts => go .subscripts ts
  | .symbol .rightBracket :: ts => some (.value, ts)
  | _ => none

/-- The pairs of a mapping up to its closing brace. -/
def readPairs : Reader
  | .symbol .rightBrace :: ts => some (.value, ts)
  | .symbol .power :: ts => do
      let (_, ts) ← readSum go ts
      afterPair go ts
  | ts => do
      let (_, ts) ← readExpression go ts
      let ts ← expect .colon ts
      let (_, ts) ← readExpression go ts
      afterPair go ts

/-- A loop of a comprehension with what follows it. -/
def readLoops : Reader := fun ts => do
  let ts ← match ts with
    | .keyword .asyncKw :: ts => expectWord .forKw ts
    | _ => expectWord .forKw ts
  let (_, ts) ← go .targets ts
  let ts ← expectWord .inKw ts
  let (_, ts) ← readDisjunction go ts
  go .conditions ts

/-- The conditions behind a loop of a comprehension, and further loops. -/
def readConditions : Reader
  | .keyword .ifKw :: ts => do
      let (_, ts) ← readDisjunction go ts
      go .conditions ts
  | ts => if startsLoop ts then go .loops ts else some (.value, ts)

/-- A target, with a star or without. -/
def readTarget : Reader := fun ts => do
  let (f, ts) ← readPrimary go (match ts with
    | .symbol .star :: ts => ts
    | _ => ts)
  if f.target then some (f, ts) else none

/-- Targets of a loop. -/
def readTargets : Reader := fun ts => do
  let (f, ts) ← readTarget go ts
  match ts with
  | .symbol .comma :: ts =>
      if startsExpression ts then go .targets ts else some (f, ts)
  | _ => some (f, ts)

/-- What is to be deleted. -/
def readErasures : Reader := fun ts => do
  let (f, ts) ← readPrimary go ts
  if f.erasable then
    match ts with
    | .symbol .comma :: ts =>
        if startsExpression ts then go .erasures ts else some (f, ts)
    | _ => some (f, ts)
  else none

/-- The annotation of a parameter, where there is one; behind a star it may have a star. -/
def readAnnotation (annotated starred : Bool) (ts : List Token) : Option (List Token) :=
  match ts with
  | .symbol .colon :: ts' =>
      if annotated then
        ((if starred then readElement go false ts' else readExpression go ts')).map (·.2)
      else some ts
  | _ => some ts

/-- What follows a parameter; the closing symbol is left where it is. -/
def afterParameter (annotated : Bool) (stage : ParameterStage) : Reader
  | .symbol .comma :: ts => go (.parameters annotated stage) ts
  | .symbol m :: ts =>
      if m = (if annotated then .rightParen else .colon) && stage.star != .bare then
        some (.value, .symbol m :: ts)
      else none
  | _ => none

/-- Parameters up to the closing symbol: a parenthesis where they may be annotated, else a
    colon. -/
def readParameters (annotated : Bool) (stage : ParameterStage) : Reader
  | .symbol .slash :: ts =>
      if stage.begun && !stage.slashed && stage.star = .unseen then
        afterParameter go annotated { stage with slashed := true } ts
      else none
  | .symbol .star :: .symbol .comma :: ts =>
      if stage.star = .unseen then
        go (.parameters annotated { stage with star := .bare }) ts
      else none
  | .symbol .star :: .name _ :: ts =>
      if stage.star = .unseen then do
        let ts ← readAnnotation go annotated true ts
        afterParameter go annotated { stage with star := .seen } ts
      else none
  | .symbol .power :: .name _ :: ts =>
      if stage.star = .unseen || stage.star = .seen then do
        let ts ← readAnnotation go annotated false ts
        afterParameter go annotated { stage with star := .last } ts
      else none
  | .name _ :: ts =>
      if stage.star = .last then none
      else do
        let ts ← readAnnotation go annotated false ts
        let star : StarStage := if stage.star = .bare then .seen else stage.star
        match ts with
        | .symbol .assign :: ts => do
            let (_, ts) ← readExpression go ts
            let defaulted := stage.defaulted || star = .unseen
            afterParameter go annotated { stage with begun := true, defaulted, star } ts
        | _ =>
            if stage.defaulted && star = .unseen then none
            else afterParameter go annotated { stage with begun := true, star } ts
  | .symbol m :: ts =>
      if m = (if annotated then .rightParen else .colon) && stage.star != .bare then
        some (.value, .symbol m :: ts)
      else none
  | _ => none

/-- The rule for each phrase. -/
def readRule : Phrase → Reader
  | .expression => readExpression go
  | .namedExpression => readNamedExpression go
  | .expressions => readExpressions go
  | .moreExpressions named => readMoreExpressions go named
  | .assigned => readAssigned go
  | .yielded => readYielded go
  | .subject => readSubject go
  | .inversion => readInversion go
  | .connectives f => readConnectives go f
  | .comparisons f => readComparisons go f
  | .operations f => readOperations go f
  | .factor => readFactor go
  | .trailers f => readTrailers go f
  | .arguments stage => readArguments go stage
  | .subscripts => readSubscripts go
  | .pairs => readPairs go
  | .loops => readLoops go
  | .conditions => readConditions go
  | .target => readTarget go
  | .targets => readTargets go
  | .erasures => readErasures go
  | .parameters annotated stage => readParameters go annotated stage

end Rules

/-- A depth that no expression in the tokens exceeds: a rule takes a token off the front before
    the second rule below it begins. -/
def phraseDepth (ts : List Token) : Nat := 2 * ts.length + 8

/-- Reads a phrase whose rules nest no deeper than `depth`. -/
def readPhrase : Nat → Phrase → Reader
  | 0, _, _ => none
  | depth + 1, p, ts => readRule (readPhrase depth) p ts

end HttpAdapter.Grammar
