/-!
Splitting text at a separator character and joining it again.  `split` and `join` are inverse
where no part holds the separator; `cutFirst` and `cutLast` cut once, at the first and at the last
separator.
-/

namespace HttpAdapter.Text

/-- The text before and after the first separator. -/
def cutFirst (sep : Char) : List Char → Option (List Char × List Char)
  | [] => none
  | c :: cs =>
      if c = sep then some ([], cs)
      else (cutFirst sep cs).map fun (before, after) => (c :: before, after)

/-- The text before and after the last separator. -/
def cutLast (sep : Char) : List Char → Option (List Char × List Char)
  | [] => none
  | c :: cs =>
      match cutLast sep cs with
      | some (before, after) => some (c :: before, after)
      | none => if c = sep then some ([], cs) else none

/-- All parts of a text between separators. -/
def split (sep : Char) (s : String) : List String := (s.toList.splitOn sep).map String.ofList

/-- The parts with a separator between each two. -/
def join (sep : Char) (parts : List String) : String :=
  String.ofList ([sep].intercalate (parts.map String.toList))

/-- One character in place of another, everywhere. -/
def replace (old new : Char) (s : String) : String :=
  String.ofList (s.toList.map fun c => if c = old then new else c)

@[simp] theorem toList_join (sep : Char) (parts : List String) :
    (join sep parts).toList = [sep].intercalate (parts.map String.toList) := by
  simp [join]

@[simp] theorem toList_replace (old new : Char) (s : String) :
    (replace old new s).toList = s.toList.map fun c => if c = old then new else c := by
  simp [replace]

end HttpAdapter.Text
