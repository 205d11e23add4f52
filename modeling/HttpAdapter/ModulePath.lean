import HttpAdapter.Fault
import HttpAdapter.Grammar.Token
import HttpAdapter.Proto
import HttpAdapter.Text.Quoted
import HttpAdapter.Text.Split

/-!
The names that follow from the name and the package of a file: the module that holds its message
classes, the path that this module is imported by, the name that it is imported as, and the file
that a generated module goes to.
-/

/-! File names with slashes. -/

namespace HttpAdapter.Text.FilePath

/-- The segment after the last slash. -/
def lastSegment (path : List Char) : List Char :=
  match cutLast '/' path with
  | none => path
  | some (_, base) => base

/-- The part up to the last segment, without the slashes at its end unless it is all slashes. -/
def directory (path : List Char) : List Char :=
  match cutLast '/' path with
  | none => []
  | some (head, _) =>
      let head := head ++ ['/']
      if head.all (· == '/') then head else (head.reverse.dropWhile (· == '/')).reverse

/-- A segment without its extension, which begins at the last dot; dots at the front of a segment
    begin no extension. -/
def stem (base : List Char) : List Char :=
  match cutLast '.' base with
  | none => base
  | some (before, _) => if before.all (· == '.') then base else before

/-- A path below a directory; an absolute path stays as it is. -/
def below (dir path : List Char) : List Char :=
  match path with
  | '/' :: _ => path
  | _ => if dir.isEmpty || dir.getLast? == some '/' then dir ++ path else dir ++ '/' :: path

end HttpAdapter.Text.FilePath

namespace HttpAdapter

open Text

/-- A module of message classes.  `variant` takes the place of `name` where another module is
    imported as `name` already. -/
structure ImportedModule where
  path : String
  name : String
  variant : Option String
  deriving DecidableEq, Repr

namespace ImportedModule

/-- The name that the module is imported as. -/
def boundName (m : ImportedModule) : String := m.variant.getD m.name

/-- The line that imports the module: from its package, if the path names one. -/
def importStatement (m : ImportedModule) : String :=
  match cutLast '.' m.path.toList with
  | some (c :: parent, name) =>
      "from " ++ String.ofList (c :: parent) ++ " import " ++ String.ofList name ++ " as " ++
        m.boundName
  | some ([], name) => "import " ++ String.ofList name ++ " as " ++ m.boundName
  | none => "import " ++ m.path ++ " as " ++ m.boundName

/-- The module as a short text. -/
def describe (m : ImportedModule) : String :=
  "PythonPackage(" ++ quoted m.path ++ ", " ++ quoted m.name ++ ", " ++
    quoted (m.variant.getD "") ++ ")"

end ImportedModule

/-- A package name as an identifier: dots and hyphens become underscores, and a reserved word gets
    one more. -/
def identifierOfPackage (package : String) : String :=
  let name := replace '-' '_' (replace '.' '_' package)
  if Grammar.isKeyword name.toList then name ++ "_" else name

/-- The last segment of a file name without its extension. -/
def fileStem (file : String) : String :=
  String.ofList (FilePath.stem (FilePath.lastSegment file.toList))

/-- The same with underscores for hyphens. -/
def moduleStem (file : String) : String := replace '-' '_' (fileStem file)

/-- The module that holds the message classes of a file. -/
def messageModule (file : String) : String := moduleStem file ++ "_pb2"

/-- The components of a path in which both dots and slashes separate; empty ones are dropped. -/
def pathComponents (path : String) : List String :=
  (split '.' (replace '/' '.' path)).filter (!·.isEmpty)

/-- The components of all parts with dots between them. -/
def dottedPath (parts : List String) : String := join '.' (parts.flatMap pathComponents)

/-- The file next to `file` whose name ends in `ending`. -/
def siblingFile (file ending : String) : String :=
  String.ofList (FilePath.below (FilePath.directory file.toList)
    (moduleStem file ++ ending).toList)

/-- The end of the name of a generated module. -/
def ModuleKind.ending : ModuleKind → String
  | .adapter => "_pb2_http.py"
  | .router => "_pb2_http_router.py"

/-- The file that a generated module goes to. -/
def outputFile (kind : ModuleKind) (file : String) : String := siblingFile file kind.ending

/-- The package name in a `go_package` option: behind the last slash, and there behind the first
    semicolon. -/
def packageOfOption (option : String) : String :=
  let last := match cutLast '/' option.toList with
    | none => option.toList
    | some (_, rest) => rest
  match cutFirst ';' last with
  | none => String.ofList last
  | some (_, name) => String.ofList name

/-- The package that a file belongs to.  Files that code is generated for in one run belong to one
    package. -/
def FileDecl.homePackage (f : FileDecl) : String :=
  match f.goPackage, f.package with
  | some option, _ => identifierOfPackage (packageOfOption option)
  | none, some package => package
  | none, none => fileStem f.name

/-- The name that the module of a file is imported as while it is free. -/
def FileDecl.preferredName (f : FileDecl) : String :=
  if f.packageName.isEmpty then identifierOfPackage (fileStem f.name)
  else identifierOfPackage f.packageName

/-- The path that the module of a file is imported by: below the prefix the package that the
    settings put the file into, else its directory. -/
def FileDecl.modulePath (f : FileDecl) (importPrefix : String) (mapped : Option String) : String :=
  dottedPath [importPrefix, mapped.getD (String.ofList (FilePath.directory f.name.toList)),
    messageModule f.name]

end HttpAdapter
