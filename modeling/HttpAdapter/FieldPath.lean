import HttpAdapter.Catalog.Entry
import HttpAdapter.Grammar.Token

/-!
Paths through the fields of messages, and the expressions of generated code that follow them.
-/

namespace HttpAdapter

open Text

/-- The attribute of `expr` that a name names, spelled as a text. -/
def attributeByText (expr name : String) : String :=
  "getattr(" ++ expr ++ ", " ++ quoted name ++ ")"

/-- The value of a field of `expr`; a reserved word cannot stand behind a dot. -/
def FieldEntry.access (f : FieldEntry) (expr : String) : String :=
  if Grammar.isKeyword f.name.toList then attributeByText expr f.name else expr ++ "." ++ f.name

/-- The value of a field of `expr` that further fields are taken from. -/
def FieldEntry.accessOnward (f : FieldEntry) (expr : String) : String :=
  if f.message.file.decl.isProto2 then attributeByText expr f.name else f.access expr

/-- The fields that lead from a message to one of its parts. -/
abbrev FieldPath := List FieldEntry

namespace FieldPath

/-- The path as it is written in an HTTP rule. -/
def render (p : FieldPath) : String := join '.' (p.map (·.name))

/-- The value at the end of the path from `expr`. -/
def access : FieldPath → String → String
  | [], expr => expr
  | [f], expr => f.access expr
  | f :: g :: p, expr => access (g :: p) (f.accessOnward expr)

/-- Whether the path leads on from a message of the third version of the language. -/
def leadsOnInProto3 : FieldPath → Bool
  | f :: _ :: _ => !f.message.file.decl.isProto2
  | _ => false

end FieldPath

end HttpAdapter
