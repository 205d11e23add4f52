import HttpAdapter.Proto
import HttpAdapter.Table
import HttpAdapter.Text.CodeRange
import HttpAdapter.Text.Split

/-!
The comments of services and methods.  A location belongs to service `i` when its path is `6, i`,
and to method `j` of it when its path is `6, i, 2, j`; the last location of a declaration counts.
-/

namespace HttpAdapter

open Text

/-- The field number of the services of a file. -/
def servicesField : Int := 6

/-- The field number of the methods of a service. -/
def methodsField : Int := 2

/-- The path of a service. -/
def servicePath (service : Nat) : List Int := [servicesField, service]

/-- The path of a method. -/
def methodPath (service method : Nat) : List Int := [servicesField, service, methodsField, method]

/-- The comment of what has none. -/
def missingComment : String := "Missing associated documentation comment in .proto file."

/-- Whether a path leads to a service or a method. -/
def isCommented : List Int → Bool
  | [first, _] => first == servicesField
  | [first, _, third, _] => first == servicesField && third == methodsField
  | _ => false

/-- The trimmed lines of a paragraph without the line ends at its end. -/
def paragraphLines (paragraph : String) : List String :=
  let body := (paragraph.toList.reverse.dropWhile (· == '\n')).reverse
  (body.splitOn '\n').map fun line => String.ofList (trimChars line)

/-- The paragraphs at a location: the detached ones, the leading one and the trailing one, where
    the last two are not empty. -/
def SourceLocation.paragraphs (l : SourceLocation) : List String :=
  l.leadingDetached ++ [l.leading, l.trailing].filter (!·.isEmpty)

/-- The lines of the comment at a location, with an empty line between two paragraphs. -/
def SourceLocation.comment (l : SourceLocation) : List String :=
  match l.paragraphs with
  | [] => [missingComment]
  | paragraphs => [""].intercalate (paragraphs.map paragraphLines)

/-- The comments by path, in the order in which the paths first occur. -/
abbrev Comments := List (List Int × List String)

namespace Comments

/-- The comments with one for a path. -/
def set : Comments → List Int → List String → Comments
  | [], path, lines => [(path, lines)]
  | (p, old) :: rest, path, lines =>
      if p = path then (path, lines) :: rest else (p, old) :: set rest path lines

/-- The comment of a path. -/
def get? : Comments → List Int → Option (List String)
  | [], _ => none
  | (p, lines) :: rest, path => if p = path then some lines else get? rest path

/-- The comments at locations. -/
def ofLocations (locations : List SourceLocation) : Comments :=
  (locations.filter (isCommented ·.path)).foldl (fun cs l => cs.set l.path l.comment) []

/-- The lines to show for a path. -/
def lines (cs : Comments) (path : List Int) : List String := (cs.get? path).getD [missingComment]

/-- The comment just set is found, and the others are as they were. -/
theorem get?_set (cs : Comments) (path other : List Int) (lines : List String) :
    (cs.set path lines).get? other = if path = other then some lines else cs.get? other := by
  induction cs with
  | nil => simp [set, get?]
  | cons entry rest ih =>
      obtain ⟨p, old⟩ := entry
      by_cases hp : p = path
      · subst hp
        by_cases h : p = other <;> simp [set, get?, h]
      · by_cases h : p = other
        · subst h
          simp [set, get?, hp, Ne.symm hp]
        · simp [set, get?, hp, h, ih]

end Comments

end HttpAdapter
