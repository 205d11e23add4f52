import HttpAdapter.Fault
import HttpAdapter.Proto
import HttpAdapter.Text.CodeRange

/-!
The bindings of an HTTP rule, and the variables of their paths.
-/

namespace HttpAdapter

/-- One way in which a service method is exposed. -/
structure HttpBinding where
  verb : String
  path : String
  body : String
  responseBody : String
  deriving DecidableEq, Repr

/-- The binding of a rule, without its additional ones.  The rule has to match something, and to
    spell out a method that is not empty if it spells out one. -/
def HttpRule.binding (r : HttpRule) : Except Fault HttpBinding :=
  match r.pattern with
  | none => .error .missingPattern
  | some (.standard verb path) => .ok ⟨verb.name, path, r.body, r.responseBody⟩
  | some (.custom kind path) =>
      if kind.isEmpty then .error (.missingKind path)
      else .ok ⟨kind, path, r.body, r.responseBody⟩

/-- A rule and its additional ones.  What those add in turn does not count. -/
def HttpRule.withAdditional (r : HttpRule) : List HttpRule := r :: r.additional

/-!
The variables of a path.  A variable stands between braces, with a pattern behind an equals sign
or without: `{name}`, `{name.first}`, `{name=shelves/*}`.  Braces around nothing and braces that
are not closed are no variables.
-/

/-- Where the reader of a path stands. -/
inductive PathPart where
  | outside
  /-- In a variable, last character first. -/
  | inside (reversed : List Char)
  /-- In the pattern behind a variable. -/
  | pattern (name : List Char)
  deriving DecidableEq, Repr

/-- The variables from here on, untrimmed. -/
def pathVariablesFrom : PathPart → List Char → List (List Char)
  | _, [] => []
  | .outside, c :: cs => pathVariablesFrom (if c = '\x7b' then .inside [] else .outside) cs
  | .inside reversed, c :: cs =>
      if c = '\x7d' then
        if reversed.isEmpty then pathVariablesFrom .outside cs
        else reversed.reverse :: pathVariablesFrom .outside cs
      else if c = '=' then
        pathVariablesFrom (if reversed.isEmpty then .outside else .pattern reversed.reverse) cs
      else pathVariablesFrom (.inside (c :: reversed)) cs
  | .pattern name, c :: cs =>
      if c = '\x7d' then name :: pathVariablesFrom .outside cs
      else pathVariablesFrom (.pattern name) cs

/-- The variables of a path in order, each trimmed. -/
def pathVariables (path : String) : List String :=
  (pathVariablesFrom .outside path.toList).map fun name => String.ofList (Text.trimChars name)

end HttpAdapter
