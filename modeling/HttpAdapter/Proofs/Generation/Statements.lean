import HttpAdapter.Proofs.Generation.Layout

/-!
The statements of a generated module.  Each line is empty, indented or a comment, or it begins a
statement of the module; which of the four it is can be told from how the module spells it.
-/

namespace HttpAdapter

open Text

/-- Whether a line begins a statement of its module: it is neither empty nor indented nor a
    comment. -/
def isStatement (line : String) : Bool := line.toList.head?.any fun c => c != ' ' && c != '#'

/-- Texts that begin with a character, as a module spells them. -/
inductive Begins (c : Char) : String → Prop
  | literal (cs : List Char) : Begins c (String.ofList (c :: cs))
  | longer {front : String} (back : String) : Begins c front → Begins c (front ++ back)

/-- Lines with the statements among them. -/
inductive Statements : List String → List String → Prop
  | nil : Statements [] []
  | empty {lines found : List String} : Statements lines found → Statements ("" :: lines) found
  | inner {line : String} {lines found : List String} :
      Begins ' ' line → Statements lines found → Statements (line :: lines) found
  | comment {line : String} {lines found : List String} :
      Begins '#' line → Statements lines found → Statements (line :: lines) found
  | statement {line : String} {lines found : List String} {c : Char} :
      c ≠ ' ' ∧ c ≠ '#' → Begins c line → Statements lines found →
      Statements (line :: lines) (line :: found)

theorem Begins.head?_eq {c : Char} {line : String} (begins : Begins c line) :
    line.toList.head? = some c := by
  induction begins with
  | literal cs => simp
  | longer back _ ih => rw [String.toList_append, List.head?_append, ih, Option.some_or]

theorem isStatement_of_begins {c : Char} {line : String} (begins : Begins c line) :
    isStatement line = (c != ' ' && c != '#') := by
  rw [isStatement, begins.head?_eq, Option.any_some]

namespace Statements

theorem filter_eq {lines found : List String} (statements : Statements lines found) :
    lines.filter isStatement = found := by
  induction statements with
  | nil => rfl
  | empty _ ih => rw [List.filter_cons_of_neg (by simp [isStatement]), ih]
  | inner begins _ ih => rw [List.filter_cons_of_neg (by simp [isStatement_of_begins begins]), ih]
  | comment begins _ ih => rw [List.filter_cons_of_neg (by simp [isStatement_of_begins begins]), ih]
  | statement other begins _ ih =>
      rw [List.filter_cons_of_pos (by simp [isStatement_of_begins begins, other]), ih]

theorem append {first second found others : List String} (front : Statements first found)
    (back : Statements second others) : Statements (first ++ second) (found ++ others) := by
  induction front with
  | nil => exact back
  | empty _ ih => exact .empty ih
  | inner begins _ ih => exact .inner begins ih
  | comment begins _ ih => exact .comment begins ih
  | statement other begins _ ih => exact .statement other begins ih

theorem flatMap {α : Type} {as : List α} {lines found : α → List String}
    (each : ∀ a ∈ as, Statements (lines a) (found a)) :
    Statements (as.flatMap lines) (as.flatMap found) := by
  induction as with
  | nil => exact .nil
  | cons a as ih =>
      obtain ⟨first, rest⟩ := List.forall_mem_cons.mp each
      exact first.append (ih rest)

/-- Lines that all begin with a space have no statement. -/
theorem indented {α : Type} (as : List α) {line : α → String}
    (each : ∀ a, Begins ' ' (line a)) : Statements (as.map line) [] := by
  induction as with
  | nil => exact .nil
  | cons a as ih => exact .inner (each a) ih

end Statements

section Lines

variable (comments : Comments) (requestContext : Bool)

theorem statements_route (r : RouteOutline) : Statements r.lines [] := by
  have verb : Statements ["", "        " ++ upper r.verb ++ " " ++ escapeDocstring r.path] [] :=
    .empty (.inner (.longer _ (.longer _ (.longer _ (.literal _)))) .nil)
  exact verb.append (.indented r.parameters fun _ => .longer _ (.longer _ (.longer _ (.literal _))))

/-- A handler has no statement of the module. -/
theorem statements_handler (service : Nat) (m : LinkedMethod) :
    Statements (m.lines comments requestContext service) [] := by
  have front : Statements ["    def " ++ m.decl.name ++ "(self, request, response):",
      "        \"\"\""] [] :=
    .inner (.longer _ (.longer _ (.literal _))) (.inner (.literal _) .nil)
  have routes : Statements (m.bindings.flatMap (·.outline.lines)) [] := by
    have all := Statements.flatMap fun b (_ : b ∈ m.bindings) => statements_route b.outline
    rwa [List.flatMap_eq_nil_iff.mpr fun _ _ => rfl] at all
  refine ((front.append (.indented _ fun _ => .longer _ (.literal _))).append routes).append ?_
  repeat' constructor

theorem statements_class (className : String) (s : LinkedService) :
    Statements (s.classLines comments requestContext className) ["class " ++ className ++ ":"] := by
  have head : Statements ["class " ++ className ++ ":", "    \"\"\""]
      ["class " ++ className ++ ":"] :=
    .statement (by decide) (.longer _ (.longer _ (.literal _))) (.inner (.literal _) .nil)
  have tail : Statements ["    \"\"\"", "", "    def __init__(self, srv, cdc: Codec):",
      "        self.srv = srv", "        self.cdc = cdc"] [] :=
    .inner (.literal _) (.empty (.inner (.literal _) (.inner (.literal _)
      (.inner (.literal _) .nil))))
  have handlers : Statements
      (s.served.flatMap fun m => "" :: m.lines comments requestContext s.index) [] := by
    have all := Statements.flatMap fun m (_ : m ∈ s.served) =>
      Statements.empty (statements_handler comments requestContext s.index m)
    rwa [List.flatMap_eq_nil_iff.mpr fun _ _ => rfl] at all
  exact ((head.append (.indented _ fun _ => .longer _ (.literal _))).append tail).append handlers

theorem statements_dispatch (s : ServiceOutline) {table : List String}
    (indented : Statements table []) :
    Statements (s.dispatchLines table) ["class " ++ s.name ++ "Router:"] := by
  have found : ["class " ++ s.name ++ "Router:"] =
      (["class " ++ s.name ++ "Router:"] ++ []) ++ [] := rfl
  rw [ServiceOutline.dispatchLines, found]
  refine Statements.append (Statements.append ?_ indented) ?_
  · refine .statement (by decide) (.longer _ (.longer _ (.literal _))) ?_
    repeat' constructor
  · repeat' constructor

theorem statements_imports (modules : List ImportedModule) :
    Statements (modules.map (·.importStatement)) (modules.map (·.importStatement)) := by
  induction modules with
  | nil => exact .nil
  | cons m modules ih =>
      have begins : Begins 'f' m.importStatement ∨ Begins 'i' m.importStatement := by
        unfold ImportedModule.importStatement
        split
        · exact Or.inl (by repeat' constructor)
        · exact Or.inr (by repeat' constructor)
        · exact Or.inr (by repeat' constructor)
      rcases begins with fromPackage | whole
      · exact .statement (by decide) fromPackage ih
      · exact .statement (by decide) whole ih

end Lines

end HttpAdapter
