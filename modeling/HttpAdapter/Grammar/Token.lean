/-!
The tokens of the language that generated modules are written in: names, reserved words, numbers,
string literals, operators and delimiters, and the marks of line ends and of indentation.
-/

namespace HttpAdapter.Grammar

/-- The reserved words; none of them is a name. -/
inductive Keyword where
  | falseKw | noneKw | trueKw | andKw | asKw | assertKw | asyncKw | awaitKw | breakKw | classKw
  | continueKw | defKw | delKw | elifKw | elseKw | exceptKw | finallyKw | forKw | fromKw | globalKw
  | ifKw | importKw | inKw | isKw | lambdaKw | nonlocalKw | notKw | orKw | passKw | raiseKw
  | returnKw | tryKw | whileKw | withKw | yieldKw
  deriving DecidableEq, Repr

/-- The reserved words with their spelling. -/
def Keyword.spellings : List (Keyword × String) :=
  [(.falseKw, "False"), (.noneKw, "None"), (.trueKw, "True"), (.andKw, "and"), (.asKw, "as"),
   (.assertKw, "assert"), (.asyncKw, "async"), (.awaitKw, "await"), (.breakKw, "break"),
   (.classKw, "class"), (.continueKw, "continue"), (.defKw, "def"), (.delKw, "del"),
   (.elifKw, "elif"), (.elseKw, "else"), (.exceptKw, "except"), (.finallyKw, "finally"),
   (.forKw, "for"), (.fromKw, "from"), (.globalKw, "global"), (.ifKw, "if"),
   (.importKw, "import"), (.inKw, "in"), (.isKw, "is"), (.lambdaKw, "lambda"),
   (.nonlocalKw, "nonlocal"), (.notKw, "not"), (.orKw, "or"), (.passKw, "pass"),
   (.raiseKw, "raise"), (.returnKw, "return"), (.tryKw, "try"), (.whileKw, "while"),
   (.withKw, "with"), (.yieldKw, "yield")]

/-- The reserved word that a text spells. -/
def Keyword.ofSpelling? (word : List Char) : Option Keyword :=
  (spellings.find? fun entry => entry.2.toList == word).map (·.1)

/-- Whether a text spells a reserved word. -/
def isKeyword (word : List Char) : Bool := (Keyword.ofSpelling? word).isSome

/-- Operators and delimiters. -/
inductive Symbol where
  | leftParen | rightParen | leftBracket | rightBracket | leftBrace | rightBrace
  | comma | colon | semicolon | dot | ellipsis | arrow | walrus | assign
  | plus | minus | star | power | slash | floorDiv | percent | matMul
  | shiftLeft | shiftRight | ampersand | bar | caret | tilde
  | less | greater | equal | notEqual | lessEqual | greaterEqual
  | plusAssign | minusAssign | starAssign | powerAssign | slashAssign | floorDivAssign
  | percentAssign | matMulAssign | shiftLeftAssign | shiftRightAssign
  | ampersandAssign | barAssign | caretAssign
  deriving DecidableEq, Repr

/-- A string literal as written: what its letters in front of the quotes ask for, and the text
    between the quotes. -/
structure Literal where
  bytes : Bool
  raw : Bool
  formatted : Bool
  body : List Char
  deriving DecidableEq, Repr

/-- A token. -/
inductive Token where
  | name (text : List Char)
  | keyword (word : Keyword)
  | number (imaginary : Bool)
  | literal (text : Literal)
  | symbol (mark : Symbol)
  | newline
  | indent
  | dedent
  deriving DecidableEq, Repr

/-- The symbol that one character spells by itself. -/
def Symbol.ofChar? : Char → Option Symbol
  | '(' => some .leftParen
  | ')' => some .rightParen
  | '[' => some .leftBracket
  | ']' => some .rightBracket
  | '\x7b' => some .leftBrace
  | '\x7d' => some .rightBrace
  | ',' => some .comma
  | ':' => some .colon
  | ';' => some .semicolon
  | '=' => some .assign
  | '+' => some .plus
  | '-' => some .minus
  | '*' => some .star
  | '/' => some .slash
  | '%' => some .percent
  | '@' => some .matMul
  | '&' => some .ampersand
  | '|' => some .bar
  | '^' => some .caret
  | '~' => some .tilde
  | '<' => some .less
  | '>' => some .greater
  | _ => none

/-- The longer symbol that a symbol and one more character spell. -/
def Symbol.extend? : Symbol → Char → Option Symbol
  | .colon, '=' => some .walrus
  | .assign, '=' => some .equal
  | .plus, '=' => some .plusAssign
  | .minus, '=' => some .minusAssign
  | .minus, '>' => some .arrow
  | .star, '*' => some .power
  | .star, '=' => some .starAssign
  | .power, '=' => some .powerAssign
  | .slash, '/' => some .floorDiv
  | .slash, '=' => some .slashAssign
  | .floorDiv, '=' => some .floorDivAssign
  | .percent, '=' => some .percentAssign
  | .matMul, '=' => some .matMulAssign
  | .ampersand, '=' => some .ampersandAssign
  | .bar, '=' => some .barAssign
  | .caret, '=' => some .caretAssign
  | .less, '<' => some .shiftLeft
  | .less, '=' => some .lessEqual
  | .shiftLeft, '=' => some .shiftLeftAssign
  | .greater, '>' => some .shiftRight
  | .greater, '=' => some .greaterEqual
  | .shiftRight, '=' => some .shiftRightAssign
  | _, _ => none

/-- A bracket that is open. -/
inductive Bracket where
  | round | square | curly
  deriving DecidableEq, Repr

/-- The bracket that a symbol opens. -/
def Bracket.opened? : Symbol → Option Bracket
  | .leftParen => some .round
  | .leftBracket => some .square
  | .leftBrace => some .curly
  | _ => none

/-- The bracket that a symbol closes. -/
def Bracket.closed? : Symbol → Option Bracket
  | .rightParen => some .round
  | .rightBracket => some .square
  | .rightBrace => some .curly
  | _ => none

end HttpAdapter.Grammar
