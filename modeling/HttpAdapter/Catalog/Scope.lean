import HttpAdapter.Catalog.Basic
import HttpAdapter.FieldPath

/-!
Look-up by name.  A name with a dot in front counts from the root; any other is tried in the scope
it stands in and then in each scope around that, from the inside out.
-/

namespace HttpAdapter

open Text

/-- The scopes around a place, as the names that lead to them: the place itself first, the root
    last. -/
def enclosingScopes : List String → List (List String)
  | [] => [[]]
  | name :: names => (enclosingScopes names).map (name :: ·) ++ [[]]

/-- The names that lead to a place; dots around it do not count. -/
def scopeOf (location : String) : List String :=
  let trimmed := (location.toList.dropWhile (· == '.')).reverse.dropWhile (· == '.')
  if trimmed.isEmpty then [] else split '.' (String.ofList trimmed.reverse)

/-- The names from the root that a name at a place may stand for, in the order of trial. -/
def candidates (location name : String) : List String :=
  if name.toList.head? = some '.' then [name]
  else (enclosingScopes (scopeOf location)).map fun scope => join '.' ("" :: scope ++ [name])

/-- The entry that a name at a place stands for. -/
def Table.resolve? {α : Type} (t : Table α) (location name : String) : Option α :=
  (candidates location name).findSome? t.get?

namespace Catalog

/-- The message that a name at a place stands for. -/
def message (c : Catalog) (location name : String) : Except Fault MessageEntry :=
  match c.messages.resolve? location name with
  | some entry => .ok entry
  | none => .error (.unknownMessage name)

/-- The enumeration that a name at a place stands for. -/
def enum (c : Catalog) (location name : String) : Except Fault EnumEntry :=
  match c.enums.resolve? location name with
  | some entry => .ok entry
  | none => .error (.unknownEnum name)

/-- The message that the values of a field are.  Its name counts from the message around the
    field. -/
def messageOf (c : Catalog) (f : FieldEntry) : Except Fault MessageEntry :=
  if f.isMessage then c.message f.message.fullName f.decl.typeName
  else .error (.scalarField f.message.fullName f.name)

/-- The fields that a path of names leads through from a message.  Every field but the last has a
    message type, and the message type of every field is in the catalog. -/
def follow (c : Catalog) (path : String) (m : MessageEntry) : List String → Except Fault FieldPath
  | [] => .ok []
  | name :: names =>
      match m.field? name with
      | none => .error (.unknownField name m.fullName)
      | some f =>
          if f.isMessage then
            match c.messageOf f with
            | .error fault => .error fault
            | .ok next => (follow c path next names).map (f :: ·)
          else if names.isEmpty then .ok [f]
          else .error (.scalarInPath path name)

/-- The fields that a path with dots leads through from a message. -/
def fieldPath (c : Catalog) (m : MessageEntry) (path : String) : Except Fault FieldPath :=
  c.follow path m (split '.' path)

end Catalog

end HttpAdapter
