import HttpAdapter.Proofs.Generation.Emission
import HttpAdapter.Proofs.Rendering.Module
import HttpAdapter.Proofs.Tidying

/-!
Where the null character stands in a generated module.  No program holds it, and neither a name nor
what is laid out around the names does, so it can only come from comments, verbs and paths:
`nullFree_handler`, `nullFree_class`, `nullFree_dispatch`.
-/

namespace HttpAdapter

open Grammar Text

/-- Lines without the null character. -/
def NullFree (lines : List String) : Prop := ∀ line ∈ lines, '\x00' ∉ line.toList

instance (lines : List String) : Decidable (NullFree lines) :=
  inferInstanceAs (Decidable (∀ line ∈ lines, '\x00' ∉ line.toList))

section Lines

variable {line : String} {lines more : List String}

@[simp] theorem nullFree_nil : NullFree [] := List.forall_mem_nil _

@[simp] theorem nullFree_cons :
    NullFree (line :: lines) ↔ '\x00' ∉ line.toList ∧ NullFree lines := List.forall_mem_cons

@[simp] theorem nullFree_append : NullFree (lines ++ more) ↔ NullFree lines ∧ NullFree more :=
  List.forall_mem_append

@[simp] theorem nullFree_flatMap {α : Type} {as : List α} {piece : α → List String} :
    NullFree (as.flatMap piece) ↔ ∀ a ∈ as, NullFree (piece a) := List.forall_mem_flatMap

/-- The text of lines holds the null character if one of them does. -/
theorem null_mem_textOfLines : '\x00' ∈ (textOfLines lines).toList ↔ ¬ NullFree lines := by
  rw [toList_textOfLines, NullFree]
  simp

/-- A module holds the null character if one of its lines does. -/
theorem null_mem_program (f : TargetFile) (kind : ModuleKind) (requestContext : Bool) :
    '\x00' ∈ f.program kind requestContext ↔ ¬ NullFree (f.lines kind requestContext) := by
  rw [TargetFile.program, mem_tidyChars_iff (by decide), null_mem_textOfLines]

end Lines

/-- Escaping leaves every character but the backslash as it is. -/
theorem mem_escapeDocstringChars_iff {cs : List Char} {c : Char} (other : c ≠ '\\') :
    c ∈ escapeDocstringChars cs ↔ c ∈ cs := by
  fun_induction escapeDocstringChars cs with
  | case1 => rfl
  | case2 cs ih => simp [ih, other]
  | case3 cs ih => simp [ih, other]
  | case4 d cs _ _ ih => simp [ih]

theorem null_mem_escapeDocstring (line : String) :
    '\x00' ∈ (escapeDocstring line).toList ↔ '\x00' ∈ line.toList := by
  rw [escapeDocstring, String.toList_ofList]
  exact mem_escapeDocstringChars_iff (by decide)

theorem null_mem_upper (text : String) : '\x00' ∈ (upper text).toList ↔ '\x00' ∈ text.toList :=
  ⟨mem_of_mem_upper (by decide), mem_upper (by decide +kernel)⟩

theorem null_not_mem_of_isName {name : String} (named : isName name = true) :
    '\x00' ∉ name.toList := not_mem_of_isName named rfl

theorem null_not_mem_of_isPlain {text : String} (plain : IsPlain text) : '\x00' ∉ text.toList :=
  fun member => plain _ member (by decide)

theorem null_not_mem_of_isDotted {text : String} (dotted : IsDotted text) :
    '\x00' ∉ text.toList := by
  obtain ⟨first, others, rfl, named, rest⟩ := dotted
  rw [toList_join, mem_intercalate (by decide)]
  rintro ⟨part, inParts, member⟩
  obtain ⟨name, inNames, rfl⟩ := List.mem_map.mp inParts
  have all : ∀ name ∈ first :: others, isName name = true := List.forall_mem_cons.mpr ⟨named, rest⟩
  exact null_not_mem_of_isName (all name inNames) member

/-- An escaped comment is as free of the null character as the comment. -/
theorem nullFree_comment (indent : String) (free : '\x00' ∉ indent.toList) (comment : List String) :
    NullFree (comment.map fun line => indent ++ escapeDocstring line) ↔ NullFree comment := by
  simp only [NullFree, List.forall_mem_map, String.toList_append, List.mem_append,
    null_mem_escapeDocstring, free, false_or]

/-- A route with plain parameters is as free of the null character as its verb and its path. -/
theorem nullFree_route {r : RouteOutline}
    (plain : ∀ p ∈ r.parameters, IsPlain p.1 ∧ IsPlain p.2) :
    NullFree r.lines ↔ NullFree [r.verb, r.path] := by
  have parameters : NullFree (r.parameters.map fun p =>
      "            " ++ p.1 ++ " -> " ++ p.2) := by
    rw [NullFree, List.forall_mem_map]
    intro p member
    obtain ⟨name, expr⟩ := plain p member
    simp [null_not_mem_of_isPlain name, null_not_mem_of_isPlain expr]
  simp [RouteOutline.lines, parameters, null_mem_upper, null_mem_escapeDocstring, -toList_upper]

/-- The lines of a handler hold the null character only in its docstring. -/
theorem nullFree_handler {h : HandlerOutline} {routes : List String} (named : isName h.name = true)
    (argument : IsDotted h.argument) (requestContext : Bool) :
    NullFree (h.lines requestContext routes) ↔ NullFree h.comment ∧ NullFree routes := by
  have comment := nullFree_comment "        " (by decide) h.comment
  cases requestContext <;>
    simp [HandlerOutline.lines, comment, null_not_mem_of_isName named,
      null_not_mem_of_isDotted argument]

/-- So do the lines of a class up to its handlers. -/
theorem nullFree_class {s : ServiceOutline} {className : String}
    (named : isName className = true) :
    NullFree (s.headLines className) ↔ NullFree s.comment := by
  have comment := nullFree_comment "    " (by decide) s.comment
  simp [ServiceOutline.headLines, comment, null_not_mem_of_isName named]

theorem null_not_mem_routeLine {service : String} {h : HandlerOutline}
    (named : isName service = true) (handlerNamed : isName h.name = true) :
    '\x00' ∉ (routeLine service h).toList := by
  have lowered {name : String} (named : isName name = true) : '\x00' ∉ (lower name).toList :=
    fun member => not_mem_breaks_of_mem_lower named _ member (by decide)
  simp [routeLine, routeKey, lowered named, lowered handlerNamed,
    null_not_mem_of_isName handlerNamed, -toList_lower]

/-- The class that dispatches to a service holds none. -/
theorem nullFree_dispatch {s : ServiceOutline} {table : List String} (named : isName s.name = true)
    (entries : NullFree table) : NullFree (s.dispatchLines table) := by
  simp [ServiceOutline.dispatchLines, entries, null_not_mem_of_isName named]

theorem nullFree_runtimeImports (kind : ModuleKind) : NullFree (runtimeImports kind) := by
  cases kind <;> decide

theorem nullFree_interlude (kind : ModuleKind) : NullFree (interlude kind) := by
  cases kind <;> decide

/-- The header holds one if the name of the file or of its package does. -/
theorem nullFree_header (m : ModuleOutline) :
    NullFree m.headerLines ↔ NullFree [m.source, m.package] := by
  simp [ModuleOutline.headerLines]

theorem null_not_mem_importStatement {m : ImportedModule} (path : IsDotted m.path)
    (bound : isName m.boundName = true) : '\x00' ∉ m.importStatement.toList := by
  have inPath := null_not_mem_of_isDotted path
  have inName := null_not_mem_of_isName bound
  unfold ImportedModule.importStatement
  split
  · rename_i c parent name cut
    rw [(cutLast_eq_some cut).1] at inPath
    simp only [List.mem_append, List.mem_cons, not_or] at inPath
    simp [inPath, inName]
  · rename_i name cut
    rw [(cutLast_eq_some cut).1] at inPath
    simp only [List.nil_append, List.mem_cons, not_or] at inPath
    simp [inPath, inName]
  · simp [inPath, inName]

section Module

variable [Interpreter] {f : TargetFile} {kind : ModuleKind} {requestContext : Bool}

end Module

end HttpAdapter
