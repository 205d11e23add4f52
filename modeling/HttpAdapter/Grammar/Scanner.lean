import HttpAdapter.Grammar.NumberPart
import HttpAdapter.Grammar.Token
import HttpAdapter.Text.Identifier

/-!
From characters to tokens.  A `Scanner` is the state between two characters of the text and `step`
reads one of them, so that reading a text piece by piece is the same as reading it at once:
`scanFrom_append`.  Lines, indentation and brackets are handled here; a line end inside brackets
is no token, and neither are comments and blank lines.
-/

namespace HttpAdapter.Grammar

open HttpAdapter.Text

/-- What the letters in front of a string literal ask for. -/
structure LiteralKind where
  bytes : Bool
  raw : Bool
  formatted : Bool
  deriving DecidableEq, Repr

/-- The kinds of literal by the lower-case letters in front of the quotes. -/
def LiteralKind.ofLetters? (letters : List Char) : Option LiteralKind :=
  match letters.map Char.toLower with
  | [] | ['u'] => some ⟨false, false, false⟩
  | ['r'] => some ⟨false, true, false⟩
  | ['b'] => some ⟨true, false, false⟩
  | ['b', 'r'] | ['r', 'b'] => some ⟨true, true, false⟩
  | ['f'] => some ⟨false, false, true⟩
  | ['f', 'r'] | ['r', 'f'] => some ⟨false, true, true⟩
  | _ => none

/-- The width of the white space at the start of a line: `column` with tabs to the next multiple
    of eight, `narrow` with tabs as single spaces, and the column at which a backslash joined the
    line to the next one, if that was not zero. -/
structure Margin where
  column : Nat
  narrow : Nat
  joined : Nat
  deriving DecidableEq, Repr

/-- The start of a line. -/
def Margin.start : Margin := ⟨0, 0, 0⟩

/-- The two widths that count as the indentation of the line. -/
def Margin.widths (m : Margin) : Nat × Nat :=
  if m.joined = 0 then (m.column, m.narrow) else (m.joined, m.joined)

/-- Where a scanner stands. -/
inductive Mode where
  /-- In the white space at the start of a line. -/
  | margin (m : Margin)
  /-- After a backslash in that white space. -/
  | marginJoin (m : Margin)
  /-- In that white space, where a backslash has promised more text. -/
  | marginJoined (m : Margin)
  /-- Between two tokens of a line. -/
  | between
  /-- After a backslash that joins two lines. -/
  | join
  /-- In a comment, which may have its line for itself. -/
  | comment (alone : Bool)
  /-- In a word, last character first; a glued one follows a number without a space. -/
  | word (glued : Bool) (reversed : List Char)
  | number (part : NumberPart)
  /-- After one or two dots. -/
  | dot
  | dots
  /-- After an exclamation mark, which only begins an operator. -/
  | bang
  /-- After a symbol that may grow. -/
  | mark (symbol : Symbol)
  /-- After one or two quotes at the start of a literal. -/
  | quote (kind : LiteralKind) (quote : Char)
  | quotes (kind : LiteralKind) (quote : Char)
  /-- In a literal, last character first, after `run` quotes that may begin its end. -/
  | text (kind : LiteralKind) (quote : Char) (long : Bool) (run : Nat) (reversed : List Char)
  /-- After a backslash in a literal. -/
  | textEscape (kind : LiteralKind) (quote : Char) (long : Bool) (reversed : List Char)
  deriving DecidableEq, Repr

/-- The state between two characters: the mode, the widths of the open blocks and the open
    brackets, innermost first, and the tokens so far, last first. -/
structure Scanner where
  mode : Mode
  blocks : List (Nat × Nat)
  brackets : List Bracket
  tokens : List Token
  deriving DecidableEq, Repr

/-- The deepest nesting of brackets. -/
def maxBrackets : Nat := 200

/-- One more than the deepest nesting of blocks. -/
def maxBlocks : Nat := 100

/-- Whether the character may go on a word; beyond ASCII the whole word is judged at its end. -/
def isWordChar (c : Char) : Bool := c.isAlphanum || c == '_' || decide (128 ≤ c.toNat)

/-- Whether a word may follow a number without a space: it begins with an operator word. -/
def mayFollowNumber (word : List Char) : Bool :=
  ["and", "else", "for", "if", "in", "is", "not", "or"].any fun op => op.toList.isPrefixOf word

/-- The token that a word is. -/
def wordToken? (glued : Bool) (word : List Char) : Option Token :=
  if glued && !mayFollowNumber word then none
  else match Keyword.ofSpelling? word with
    | some k => some (.keyword k)
    | none => if isIdentifier word then some (.name word) else none

namespace Scanner

/-- Nothing read. -/
def start : Scanner := ⟨.margin .start, [], [], []⟩

/-- The scanner with one more token. -/
def emit (s : Scanner) (t : Token) : Scanner := { s with tokens := t :: s.tokens }

/-- The scanner in another mode. -/
def enter (s : Scanner) (mode : Mode) : Scanner := { s with mode }

/-- The end of a line that holds something: no token inside brackets. -/
def endLine (s : Scanner) : Scanner :=
  (if s.brackets.isEmpty then s.emit .newline else s).enter (.margin .start)

/-- Puts a symbol behind the tokens; brackets must match. -/
def emitSymbol? (s : Scanner) (m : Symbol) : Option Scanner :=
  match Bracket.opened? m, Bracket.closed? m with
  | some b, _ =>
      if s.brackets.length < maxBrackets then
        some { s.emit (.symbol m) with brackets := b :: s.brackets }
      else none
  | none, some b =>
      match s.brackets with
      | top :: rest => if top = b then some { s.emit (.symbol m) with brackets := rest } else none
      | [] => none
  | none, none => some (s.emit (.symbol m))

/-- Reads the first character of what follows a token. -/
def begin? (s : Scanner) (c : Char) : Option Scanner :=
  if c = ' ' || c = '\t' || c = '\x0c' then some (s.enter .between)
  else if c = '\n' then some s.endLine
  else if c = '#' then some (s.enter (.comment false))
  else if c = '\\' then some (s.enter .join)
  else if c = '.' then some (s.enter .dot)
  else if c = '!' then some (s.enter .bang)
  else if c = '"' || c = '\'' then some (s.enter (.quote ⟨false, false, false⟩ c))
  else if c = '0' then some (s.enter (.number .zero))
  else if c.isDigit then some (s.enter (.number (.decimal 1)))
  else if isWordChar c then some (s.enter (.word false [c]))
  else (Symbol.ofChar? c).map fun m => s.enter (.mark m)

/-- Closes the blocks wider than `column`. -/
def closeBlocks (column : Nat) : List (Nat × Nat) → List Token → List (Nat × Nat) × List Token
  | [], tokens => ([], tokens)
  | (width, narrow) :: rest, tokens =>
      if column < width then closeBlocks column rest (.dedent :: tokens)
      else ((width, narrow) :: rest, tokens)

/-- Compares the indentation of a line with the open blocks.  Both widths have to agree on whether
    the line is deeper, and a line that is less deep has to be in line with an open block. -/
def indentLine? (s : Scanner) (column narrow : Nat) : Option Scanner :=
  let (width, narrowWidth) := s.blocks.headD (0, 0)
  if width < column then
    if narrowWidth < narrow && s.blocks.length + 1 < maxBlocks then
      some { s.emit .indent with blocks := (column, narrow) :: s.blocks }
    else none
  else
    let (blocks, tokens) := closeBlocks column s.blocks s.tokens
    if blocks.headD (0, 0) = (column, narrow) then some { s with blocks, tokens } else none

/-- Reads a character in the white space at the start of a line. -/
def stepMargin (s : Scanner) (m : Margin) (c : Char) : Option Scanner :=
  if c = ' ' then some (s.enter (.margin ⟨m.column + 1, m.narrow + 1, m.joined⟩))
  else if c = '\t' then
    some (s.enter (.margin ⟨(m.column / 8 + 1) * 8, m.narrow + 1, m.joined⟩))
  else if c = '\x0c' then some (s.enter (.margin ⟨0, 0, m.joined⟩))
  else if c = '\\' then
    some (s.enter (.marginJoin { m with joined := if m.joined = 0 then m.column else m.joined }))
  else if c = '\n' then some (s.enter (.margin .start))
  else if c = '#' then some (s.enter (.comment true))
  else if s.brackets.isEmpty then
    (s.indentLine? m.widths.1 m.widths.2).bind (·.begin? c)
  else s.begin? c

/-- The end of a word, in front of `c`. -/
def endWord? (s : Scanner) (glued : Bool) (reversed : List Char) (c : Char) : Option Scanner :=
  (wordToken? glued reversed.reverse).bind fun t => (s.emit t).begin? c

/-- Reads a character in or behind a word; letters in front of a quote belong to the literal. -/
def stepWord (s : Scanner) (glued : Bool) (reversed : List Char) (c : Char) : Option Scanner :=
  if isWordChar c then some (s.enter (.word glued (c :: reversed)))
  else if (c = '"' || c = '\'') && !glued then
    match LiteralKind.ofLetters? reversed.reverse with
    | some kind => some (s.enter (.quote kind c))
    | none => s.endWord? glued reversed c
  else s.endWord? glued reversed c

/-- Reads a character in or behind a number. -/
def stepNumber (s : Scanner) (part : NumberPart) (c : Char) : Option Scanner :=
  match part.move c with
  | .more part => some (s.enter (.number part))
  | .reject => none
  | .stop =>
      let s := s.emit (.number (part == .imaginary))
      match part with
      | .exponentMark letter => s.stepWord true [letter] c
      | _ => if isWordChar c then some (s.enter (.word true [c])) else s.begin? c

/-- Puts a literal behind the tokens. -/
def emitLiteral (s : Scanner) (kind : LiteralKind) (reversed : List Char) : Scanner :=
  (s.emit (.literal ⟨kind.bytes, kind.raw, kind.formatted, reversed.reverse⟩)).enter .between

/-- Reads a character inside a literal.  A long literal ends at three quotes, a short one at one
    and never beyond its line. -/
def stepText (s : Scanner) (kind : LiteralKind) (quote : Char) (long : Bool) (run : Nat)
    (reversed : List Char) (c : Char) : Option Scanner :=
  if c = quote then
    if long then
      if run = 2 then some (s.emitLiteral kind (reversed.drop 2))
      else some (s.enter (.text kind quote long (run + 1) (c :: reversed)))
    else some (s.emitLiteral kind reversed)
  else if c = '\n' && !long then none
  else if c = '\\' then some (s.enter (.textEscape kind quote long (c :: reversed)))
  else some (s.enter (.text kind quote long 0 (c :: reversed)))

/-- Reads one character. -/
def step (s : Scanner) (c : Char) : Option Scanner :=
  match s.mode with
  | .margin m => s.stepMargin m c
  | .marginJoined m => s.stepMargin m c
  | .marginJoin m => if c = '\n' then some (s.enter (.marginJoined m)) else none
  | .between => s.begin? c
  | .join => if c = '\n' then some (s.enter .between) else none
  | .comment alone =>
      if c = '\n' then some (if alone then s.enter (.margin .start) else s.endLine) else some s
  | .word glued reversed => s.stepWord glued reversed c
  | .number part => s.stepNumber part c
  | .dot =>
      if c = '.' then some (s.enter .dots)
      else if c.isDigit then some (s.enter (.number .fraction))
      else (s.emit (.symbol .dot)).begin? c
  | .dots =>
      if c = '.' then some ((s.emit (.symbol .ellipsis)).enter .between)
      else if c.isDigit then some ((s.emit (.symbol .dot)).enter (.number .fraction))
      else ((s.emit (.symbol .dot)).emit (.symbol .dot)).begin? c
  | .bang => if c = '=' then some ((s.emit (.symbol .notEqual)).enter .between) else none
  | .mark m =>
      match m.extend? c with
      | some longer => some (s.enter (.mark longer))
      | none =>
          if m = .less && c = '>' then none
          else (s.emitSymbol? m).bind (·.begin? c)
  | .quote kind quote =>
      if c = quote then some (s.enter (.quotes kind quote))
      else s.stepText kind quote false 0 [] c
  | .quotes kind quote =>
      if c = quote then some (s.enter (.text kind quote true 0 []))
      else (s.emitLiteral kind []).begin? c
  | .text kind quote long run reversed => s.stepText kind quote long run reversed c
  | .textEscape kind quote long reversed =>
      some (s.enter (.text kind quote long 0 (c :: reversed)))

/-- The tokens at the end of the text, which has to be the start of a line outside brackets; the
    open blocks are closed. -/
def finish? (s : Scanner) : Option (List Token) :=
  match s.mode with
  | .margin _ =>
      if s.brackets.isEmpty then
        some (List.replicate s.blocks.length Token.dedent ++ s.tokens).reverse
      else none
  | _ => none

end Scanner

/-- The state after reading characters. -/
def scanFrom (s : Scanner) (cs : List Char) : Option Scanner := cs.foldlM Scanner.step s

/-- Reading two pieces is reading one and then the other. -/
theorem scanFrom_append (s : Scanner) (cs ds : List Char) :
    scanFrom s (cs ++ ds) = (scanFrom s cs).bind fun t => scanFrom t ds := by
  simp [scanFrom, List.foldlM_append, bind]

@[simp] theorem scanFrom_nil (s : Scanner) : scanFrom s [] = some s := rfl

theorem scanFrom_cons (s : Scanner) (c : Char) (cs : List Char) :
    scanFrom s (c :: cs) = (s.step c).bind fun t => scanFrom t cs := by
  simp [scanFrom, bind]

/-- One kind of line end in place of the three. -/
def unifyLineEnds : List Char → List Char
  | [] => []
  | '\r' :: '\n' :: cs => '\n' :: unifyLineEnds cs
  | c :: cs => (if c = '\r' then '\n' else c) :: unifyLineEnds cs

/-- The text with a line end at its end. -/
def closeLastLine (cs : List Char) : List Char :=
  if cs.getLast? = some '\n' then cs else cs ++ ['\n']

/-- The tokens of a text, unless some part of it is no token. -/
def tokens? (text : List Char) : Option (List Token) :=
  (scanFrom .start (closeLastLine (unifyLineEnds text))).bind (·.finish?)

end HttpAdapter.Grammar
