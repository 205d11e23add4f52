import HttpAdapter.Fault
import HttpAdapter.Table
import HttpAdapter.Text.CodeRange
import HttpAdapter.Text.LetterCase
import HttpAdapter.Text.Split

/-!
The settings of a run, read from a parameter of the form `key=value,key,…`.  Each piece of the
parameter changes the settings that the pieces before it made, so that a later one wins.
-/

namespace HttpAdapter

open Text

/-- The settings of a run. -/
structure Settings where
  /-- Stands in front of the module paths made from file names. -/
  importPrefix : String
  /-- The generated servers hand the request on to the service. -/
  requestContext : Bool
  /-- Has no effect yet. -/
  allowDeleteBody : Bool
  /-- The packages of files whose directory does not name it. -/
  packageMap : Table String
  deriving DecidableEq, Repr

namespace Settings

/-- The settings without a parameter. -/
def default : Settings := ⟨"", false, false, []⟩

/-- The spellings of truth. -/
def trueWords : List String := ["1", "t", "true", "yes"]

/-- The spellings of falsehood. -/
def falseWords : List String := ["0", "f", "false", "no"]

/-- The value of a flag, in any letter case; a flag by itself is set. -/
def readFlag (flag : String) : Option String → Except Fault Bool
  | none => .ok true
  | some value =>
      if trueWords.contains (lower value) then .ok true
      else if falseWords.contains (lower value) then .ok false
      else .error (.invalidFlag flag value)

/-- The key and, behind the first equals sign, the value of a piece. -/
def keyValue (piece : String) : String × Option String :=
  match cutFirst '=' piece.toList with
  | none => (piece, none)
  | some (key, value) => (String.ofList key, some (String.ofList value))

/-- The settings that a trimmed piece makes of others.  A key that begins with a capital M and has
    a value puts a file into a package. -/
def change (s : Settings) (piece : String) : Except Fault Settings :=
  match keyValue piece with
  | (key, value) =>
      match key.toList, value with
      | 'M' :: file, some package =>
          .ok { s with packageMap := s.packageMap.set (String.ofList file) package }
      | _, _ =>
          if key = "import_prefix" then .ok { s with importPrefix := value.getD "" }
          else if key = "request_context" then
            (readFlag key value).map fun flag => { s with requestContext := flag }
          else if key = "allow_delete_body" then
            (readFlag key value).map fun flag => { s with allowDeleteBody := flag }
          else .error (.unknownSetting piece)

/-- The settings that a piece makes of others; a blank piece changes nothing. -/
def read (s : Settings) (piece : String) : Except Fault Settings :=
  let piece := trim piece
  if piece.isEmpty then .ok s else s.change piece

/-- The settings that a parameter makes of others. -/
def readAll (s : Settings) (parameter : String) : Except Fault Settings :=
  (split ',' parameter).foldlM read s

/-- The settings of a parameter. -/
def ofParameter (parameter : String) : Except Fault Settings := default.readAll parameter

end Settings

end HttpAdapter
