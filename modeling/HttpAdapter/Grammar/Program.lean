import HttpAdapter.Fault
import HttpAdapter.Grammar.Literal
import HttpAdapter.Grammar.Scanner
import HttpAdapter.Grammar.Statement
import HttpAdapter.Text.CodeRange
import HttpAdapter.Text.Split

/-!
Whole programs, and their tidy layout.  A text is a program when it holds no null character and
falls into tokens, the tokens form statements, and every literal among them is well formed,
expressions inside formatted literals included.
-/

namespace HttpAdapter.Grammar

/-- Whether the tokens are statements up to their end. -/
def isStatements (ts : List Token) : Bool :=
  ts.isEmpty || readSection (phraseDepth ts) (phraseDepth ts) .statements ts == some []

/-- Whether the tokens are one expression in parentheses on a line. -/
def isEnclosedExpression (ts : List Token) : Bool :=
  match readPhrase (phraseDepth ts) .expressions ts with
  | some (_, [.newline]) => true
  | _ => false

variable [Interpreter]

/-- Whether the literals among the tokens are well formed; the literals in the fields of formatted
    ones are no deeper than `depth`. -/
def literalsWellFormed : Nat → List Token → Bool
  | 0, _ => false
  | depth + 1, ts => ts.all fun
      | .literal t =>
          if t.bytes then
            t.body.all (fun c => decide (c.toNat < 128)) && (t.raw || escapesComplete true t.body)
          else if t.formatted then
            match formatPieces? t.raw t.body with
            | none => false
            | some pieces => pieces.all fun
                | .text cs => t.raw || escapesComplete false cs
                | .expression cs =>
                    match tokens? ('(' :: cs ++ [')']) with
                    | none => false
                    | some inner => isEnclosedExpression inner && literalsWellFormed depth inner
          else t.raw || escapesComplete false t.body
      | _ => true

/-- Whether the text is a program. -/
def isProgram (text : List Char) : Bool :=
  if '\x00' ∈ text then false
  else match tokens? text with
    | none => false
    | some ts => isStatements ts && literalsWellFormed (text.length + 1) ts

end HttpAdapter.Grammar

/-!
The tidy layout of a program: no white space at the ends of lines, at most two empty lines in a
row, none at the start or the end, and a line end at the end.
-/

namespace HttpAdapter

open Text

/-- Drops what is more than two empty lines in a row, after `empty` of them. -/
def squeezeLines : Nat → List (List Char) → List (List Char)
  | _, [] => []
  | empty, [] :: lines =>
      if empty < 2 then [] :: squeezeLines (empty + 1) lines else squeezeLines (empty + 1) lines
  | _, (c :: cs) :: lines => (c :: cs) :: squeezeLines 0 lines

/-- Drops the empty lines at the end. -/
def dropEmptyEnd (lines : List (List Char)) : List (List Char) :=
  (lines.reverse.dropWhile (·.isEmpty)).reverse

/-- The tidy lines of a text. -/
def tidyLines (text : List Char) : List (List Char) :=
  let lines := (text.splitOn '\n').map trimEndChars
  dropEmptyEnd (squeezeLines 0 (lines.dropWhile (·.isEmpty)))

/-- The tidy layout of a text. -/
def tidyChars (text : List Char) : List Char := ['\n'].intercalate (tidyLines text) ++ ['\n']

/-- The tidy layout of a program that goes to a file.  The name of the file is looked at before the
    text. -/
def tidyProgram [Grammar.Interpreter] (file source : String) : Except Fault String :=
  let tidy := tidyChars source.toList
  if '\x00' ∈ file.toList then .error (.nullInFileName file)
  else if Grammar.isProgram tidy then .ok (String.ofList tidy)
  else .error (.invalidProgram file (Grammar.Interpreter.complaint file (String.ofList tidy)))

end HttpAdapter
