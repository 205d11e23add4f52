import HttpAdapter.Grammar.Token

/-!
What may stand between the quotes of a literal.  Backslashes begin escapes, bytes are ASCII, and
the braces of a formatted literal enclose fields with an expression each, an optional conversion
and an optional format, which may hold fields once more.
-/

namespace HttpAdapter.Grammar

/-- What the programs are for brings its own data: the names of characters, and the words for what
    is wrong with a text that is no program. -/
class Interpreter where
  /-- Whether a character has the name. -/
  isCharacterName : List Char → Bool
  /-- What is said of the text of a file. -/
  complaint (file text : String) : String

/-- An interpreter that knows no character by name, and tells only the null character from other
    mistakes. -/
abbrev Interpreter.bare : Interpreter where
  isCharacterName _ := false
  complaint _ text :=
    if '\x00' ∈ text.toList then "source code string cannot contain null bytes"
    else "invalid syntax"

/-- What has been read of an escape. -/
inductive EscapePart where
  /-- Outside escapes. -/
  | plain
  | backslash
  /-- In a number of so many digits to come, with the value so far. -/
  | digits (left : Nat) (value : Nat)
  /-- In front of the brace that opens a character name. -/
  | nameMark
  /-- In a character name, last character first. -/
  | name (reversed : List Char)
  deriving DecidableEq, Repr

/-- The value of a hexadecimal digit. -/
def hexValue? (c : Char) : Option Nat :=
  if c.isDigit then some (c.toNat - 48)
  else if 'a' ≤ c && c ≤ 'f' then some (c.toNat - 87)
  else if 'A' ≤ c && c ≤ 'F' then some (c.toNat - 55)
  else none

variable [Interpreter]

/-- Reads a character of a literal.  Numbers have a fixed count of digits and stay in the range of
    code points; character names are made of letters, digits, blanks and hyphens; a letter without a
    meaning stands for itself. -/
def EscapePart.step (bytes : Bool) : EscapePart → Char → Option EscapePart
  | .plain, c => some (if c = '\\' then .backslash else .plain)
  | .backslash, c =>
      if c = 'x' then some (.digits 2 0)
      else if bytes then some .plain
      else if c = 'u' then some (.digits 4 0)
      else if c = 'U' then some (.digits 8 0)
      else if c = 'N' then some .nameMark
      else some .plain
  | .digits left value, c =>
      (hexValue? c).bind fun d =>
        let value := 16 * value + d
        if left ≤ 1 then if value ≤ 0x10ffff then some .plain else none
        else some (.digits (left - 1) value)
  | .nameMark, c => if c = '\x7b' then some (.name []) else none
  | .name reversed, c =>
      if c = '\x7d' then
        if Interpreter.isCharacterName reversed.reverse then some .plain else none
      else if c.isAlphanum || c = ' ' || c = '-' then some (.name (c :: reversed))
      else none

/-- Whether every escape in the text is complete.  A backslash at the very end, which only a piece
    of a formatted literal can have, stands for itself. -/
def escapesComplete (bytes : Bool) (cs : List Char) : Bool :=
  match cs.foldlM (EscapePart.step bytes) .plain with
  | some .plain | some .backslash => true
  | _ => false

/-- A piece of a formatted literal. -/
inductive FormatPiece where
  | text (cs : List Char)
  | expression (cs : List Char)
  deriving DecidableEq, Repr

/-- Where the reader of a piece of text stands: outside escapes, after a backslash, after the
    letter of a character name, or in that name. -/
inductive TextPart where
  | plain | backslash | nameMark | name
  deriving DecidableEq, Repr

/-- Reads text up to a brace, last character first.  Outside formats a doubled brace is text, and
    ends the piece behind its first half; a closing brace by itself is refused there.  Says whether
    the piece ended at a doubled brace. -/
def readPiece (raw nested : Bool) :
    TextPart → List Char → List Char → Option (List Char × Bool × List Char)
  | _, reversed, [] => some (reversed, false, [])
  | .nameMark, reversed, c :: cs =>
      readPiece raw nested (if c = '\x7b' then .name else .plain) (c :: reversed) cs
  | .name, reversed, c :: cs =>
      readPiece raw nested (if c = '\x7d' then .plain else .name) (c :: reversed) cs
  | part, reversed, c :: cs =>
      if part = .plain && !raw && c = '\\' then readPiece raw nested .backslash (c :: reversed) cs
      else if part = .backslash && c = 'N' then readPiece raw nested .nameMark (c :: reversed) cs
      else if c = '\x7b' || c = '\x7d' then
        if nested then some (reversed, false, c :: cs)
        else if cs.head? = some c then some (c :: reversed, true, cs.drop 1)
        else if c = '\x7d' then none
        else some (reversed, false, c :: cs)
      else readPiece raw nested .plain (c :: reversed) cs

/-- Where the reader of a field's expression stands: how many characters are judged already, the
    quote that is open and whether it is a triple one, and the open brackets. -/
structure FieldPart where
  judged : Nat
  quote : Option (Char × Bool)
  brackets : List Bracket
  deriving DecidableEq, Repr

/-- The characters that end an expression outside brackets, unless they begin a comparison. -/
def endsExpression (c : Char) : Bool :=
  c = '!' || c = ':' || c = '\x7d' || c = '=' || c = '<' || c = '>'

/-- Reads the expression of a field up to the character that ends it, last character first.
    Neither backslashes nor comments may stand in it. -/
def readField : FieldPart → List Char → List Char → Option (List Char × List Char)
  | _, _, [] => none
  | s, reversed, c :: cs =>
      if c = '\\' then none
      else if 0 < s.judged then readField { s with judged := s.judged - 1 } (c :: reversed) cs
      else match s.quote with
      | some (q, true) =>
          if c = q && cs.take 2 = [q, q] then readField ⟨2, none, s.brackets⟩ (c :: reversed) cs
          else readField s (c :: reversed) cs
      | some (q, false) =>
          readField (if c = q then ⟨0, none, s.brackets⟩ else s) (c :: reversed) cs
      | none =>
          if c = '\'' || c = '"' then
            if cs.take 2 = [c, c] then
              readField ⟨2, some (c, true), s.brackets⟩ (c :: reversed) cs
            else readField ⟨0, some (c, false), s.brackets⟩ (c :: reversed) cs
          else if c = '#' then none
          else if s.brackets.isEmpty && endsExpression c then
            if (c = '!' || c = '=' || c = '<' || c = '>') && cs.head? = some '=' then
              readField ⟨1, none, []⟩ (c :: reversed) cs
            else if c = '<' || c = '>' then readField s (c :: reversed) cs
            else some (reversed, c :: cs)
          else match (Symbol.ofChar? c).bind Bracket.opened?,
              (Symbol.ofChar? c).bind Bracket.closed? with
          | some b, _ =>
              if s.brackets.length < 200 then
                readField ⟨0, none, b :: s.brackets⟩ (c :: reversed) cs
              else none
          | none, some b =>
              if s.brackets.head? = some b then
                readField ⟨0, none, s.brackets.drop 1⟩ (c :: reversed) cs
              else none
          | none, none => readField s (c :: reversed) cs

/-- Whether only spaces stand in the expression. -/
def isEmptyField (cs : List Char) : Bool :=
  cs.all fun c => c = ' ' || c = '\t' || c = '\n' || c = '\x0c'

/-- Drops the sign that asks for the text of an expression, and the spaces behind it. -/
def dropTextSign : List Char → List Char
  | '=' :: cs => cs.dropWhile fun c => c = ' ' || ('\t' ≤ c && c ≤ '\r')
  | cs => cs

/-- Drops the conversion of a field, which has to be one of three. -/
def dropConversion? : List Char → Option (List Char)
  | '!' :: c :: cs => if c = 's' || c = 'r' || c = 'a' then some cs else none
  | ['!'] => none
  | cs => some cs

/-- The pieces of a formatted literal or, below the top, of a format, up to the brace that ends
    it.  Fields nest twice at most. -/
def readPieces (raw : Bool) :
    Nat → Nat → List Char → Option (List FormatPiece × List Char)
  | 0, _, _ => none
  | depth + 1, level, cs => do
      let (reversed, doubled, rest) ← readPiece raw (0 < level) .plain [] cs
      let piece := FormatPiece.text reversed.reverse
      if doubled then do
        let (more, rest) ← readPieces raw depth level rest
        some (piece :: more, rest)
      else match rest with
        | '\x7b' :: rest =>
            if 2 ≤ level then none
            else do
              let (reversed, rest) ← readField ⟨0, none, []⟩ [] rest
              if isEmptyField reversed then none
              else do
                let rest ← dropConversion? (dropTextSign rest)
                let (format, rest) ← match rest with
                  | ':' :: rest => readPieces raw depth (level + 1) rest
                  | _ => some ([], rest)
                match rest with
                | '\x7d' :: rest => do
                    let (more, rest) ← readPieces raw depth level rest
                    some (piece :: .expression reversed.reverse :: format ++ more, rest)
                | _ => none
        | _ => some ([piece], rest)

/-- The pieces of a formatted literal. -/
def formatPieces? (raw : Bool) (body : List Char) : Option (List FormatPiece) :=
  match readPieces raw (body.length + 1) 0 body with
  | some (pieces, []) => some pieces
  | _ => none

end HttpAdapter.Grammar
