import HttpAdapter.Grammar.Expression

/-!
The patterns of selections: literals, names that capture, dotted values, groups, sequences,
mappings and classes, with alternatives and captures of the whole.  The rules are given a reader
for each `PatternPhrase`, and `readPattern` closes the circle with a bound on the depth.
-/

namespace HttpAdapter.Grammar

/-- The pattern phrases that the rules refer to. -/
inductive PatternPhrase where
  /-- A pattern, which may name what it matches. -/
  | pattern
  /-- The alternatives behind the first. -/
  | alternatives
  /-- Elements of a sequence, with or without a star. -/
  | elements
  /-- The entries of a mapping up to its closing brace. -/
  | entries
  /-- The arguments of a class up to its closing parenthesis. -/
  | members (named : Bool)
  deriving DecidableEq, Repr

/-- Takes a pattern off the front of the tokens. -/
abbrev PatternReader := List Token → Option (List Token)

/-- The name that matches everything and captures nothing. -/
def wildcard : List Char := ['_']

/-- Whether a pattern begins with the token. -/
def Token.beginsPattern : Token → Bool
  | .name _ | .number _ | .literal _ => true
  | .keyword .falseKw | .keyword .noneKw | .keyword .trueKw => true
  | .symbol .leftParen | .symbol .leftBracket | .symbol .leftBrace | .symbol .minus
  | .symbol .star => true
  | _ => false

/-- A number with an imaginary part behind it, if one follows. -/
def afterRealPart (imaginary : Bool) : PatternReader
  | .symbol .plus :: ts | .symbol .minus :: ts =>
      match ts with
      | .number true :: ts => if imaginary then none else some ts
      | _ => none
  | ts => some ts

/-- A literal: a number with a sign or without, text, or one of the three constants. -/
def readConstant : PatternReader
  | .number imaginary :: ts => afterRealPart imaginary ts
  | .symbol .minus :: .number imaginary :: ts => afterRealPart imaginary ts
  | .literal t :: ts => adjacentLiterals t.bytes ts
  | .keyword .noneKw :: ts | .keyword .trueKw :: ts | .keyword .falseKw :: ts => some ts
  | _ => none

/-- Whether the tokens go on as they may not go on behind a captured name. -/
def blocksCapture : List Token → Bool
  | .symbol .dot :: _ | .symbol .leftParen :: _ | .symbol .assign :: _ => true
  | _ => false

/-- A name that captures. -/
def readCapture : PatternReader
  | .name n :: ts => if n = wildcard || blocksCapture ts then none else some ts
  | _ => none

/-- The attributes behind a name. -/
def dropAttributes : List Token → List Token
  | .symbol .dot :: .name _ :: ts => dropAttributes ts
  | ts => ts

section Rules

variable (go : PatternPhrase → PatternReader)

/-- A pattern that begins with a name: the wildcard, a capture, a dotted value or a class. -/
def afterName (n : List Char) (ts : List Token) : Option (List Token) :=
  if n = wildcard then some ts
  else match dropAttributes ts with
    | .symbol .leftParen :: rest => go (.members false) rest
    | rest => if blocksCapture rest then none else some rest

/-- An element of a sequence, and whether it has a star. -/
def readSequenceElement : List Token → Option (Bool × List Token)
  | .symbol .star :: .name n :: ts =>
      if n = wildcard then some (true, ts)
      else (readCapture (.name n :: ts)).map ((true, ·))
  | ts => (go .pattern ts).map ((false, ·))

/-- A group or a sequence in parentheses: a star asks for a comma. -/
def readRound : PatternReader
  | .symbol .rightParen :: ts => some ts
  | ts => do
      let (starred, ts) ← readSequenceElement go ts
      match ts with
      | .symbol .comma :: ts => (go .elements ts).bind (expect .rightParen)
      | _ => if starred then none else expect .rightParen ts

/-- A pattern that is closed: no alternative and no name for the whole. -/
def readClosed : PatternReader
  | .name n :: ts => afterName go n ts
  | .symbol .leftParen :: ts => readRound go ts
  | .symbol .leftBracket :: ts => (go .elements ts).bind (expect .rightBracket)
  | .symbol .leftBrace :: ts => go .entries ts
  | ts => readConstant ts

/-- A pattern, which may name what it matches. -/
def readWhole : PatternReader := fun ts => do
  let ts ← (readClosed go ts).bind (go .alternatives)
  match ts with
  | .keyword .asKw :: ts => readCapture ts
  | _ => some ts

/-- The alternatives behind the first. -/
def readAlternatives : PatternReader
  | .symbol .bar :: ts => (readClosed go ts).bind (go .alternatives)
  | ts => some ts

/-- Elements of a sequence with commas between them; there may be none. -/
def readElements : PatternReader := fun ts =>
  if ts.head?.any Token.beginsPattern then do
    let (_, ts) ← readSequenceElement go ts
    match ts with
    | .symbol .comma :: ts => go .elements ts
    | _ => some ts
  else some ts

/-- The key of an entry: a literal or a dotted name. -/
def readKey : PatternReader
  | .name _ :: .symbol .dot :: ts => some (dropAttributes (.symbol .dot :: ts))
  | ts => readConstant ts

/-- The entries of a mapping up to its closing brace; the rest of the mapping comes last. -/
def readEntries : PatternReader
  | .symbol .rightBrace :: ts => some ts
  | .symbol .power :: ts => do
      let ts ← readCapture ts
      match ts with
      | .symbol .comma :: ts => expect .rightBrace ts
      | _ => expect .rightBrace ts
  | ts => do
      let ts ← readKey ts
      let ts ← expect .colon ts
      let ts ← go .pattern ts
      match ts with
      | .symbol .comma :: ts => go .entries ts
      | _ => expect .rightBrace ts

/-- The arguments of a class up to its closing parenthesis: those with a name come last. -/
def readMembers (named : Bool) : PatternReader
  | .symbol .rightParen :: ts => some ts
  | .name _ :: .symbol .assign :: ts => do
      let ts ← go .pattern ts
      match ts with
      | .symbol .comma :: ts => go (.members true) ts
      | _ => expect .rightParen ts
  | ts =>
      if named then none
      else do
        let ts ← go .pattern ts
        match ts with
        | .symbol .comma :: ts => go (.members false) ts
        | _ => expect .rightParen ts

/-- The rule for each pattern phrase. -/
def patternRule : PatternPhrase → PatternReader
  | .pattern => readWhole go
  | .alternatives => readAlternatives go
  | .elements => readElements go
  | .entries => readEntries go
  | .members named => readMembers go named

end Rules

/-- Reads a pattern phrase whose rules nest no deeper than `depth`. -/
def readPattern : Nat → PatternPhrase → PatternReader
  | 0, _, _ => none
  | depth + 1, p, ts => patternRule (readPattern depth) p ts

/-- The pattern of a case, which may be a sequence without brackets. -/
def readCasePattern (depth : Nat) (ts : List Token) : Option (List Token) := do
  let (starred, ts) ← readSequenceElement (readPattern depth) ts
  match ts with
  | .symbol .comma :: ts => readPattern depth .elements ts
  | _ => if starred then none else some ts

end HttpAdapter.Grammar
