import HttpAdapter.Proofs.Catalog.Step

/-!
What registering files comes to.  All names that files declare stand in one row, and files are
registered up to the first one that is repeated: `declares_registerAll`.
-/

namespace HttpAdapter

open Text

/-- What is declared once in a run.  A message and an enumeration may share a name. -/
inductive Symbol where
  | file (name : String)
  | message (name : String)
  | enum (name : String)
  deriving DecidableEq, Repr

/-- What is said of a symbol that is declared again. -/
def Symbol.fault : Symbol → Fault
  | .file name => .duplicateFile name
  | .message name => .duplicateMessage name
  | .enum name => .duplicateEnum name

mutual

/-- What a message declares in a scope: itself, then what stands in it, messages first. -/
def MessageDecl.symbols (scope : String) : MessageDecl → List Symbol
  | ⟨name, _, nested, enums⟩ =>
      .message (scope ++ "." ++ name) ::
        (MessageDecl.allSymbols (scope ++ "." ++ name) nested ++
          enums.map fun e => .enum (scope ++ "." ++ name ++ "." ++ e.name))

/-- What messages declare in a scope, one after the other. -/
def MessageDecl.allSymbols (scope : String) : List MessageDecl → List Symbol
  | [] => []
  | m :: ms => MessageDecl.symbols scope m ++ MessageDecl.allSymbols scope ms

end

/-- The scope of a file: its package, with a dot in front, if it has one. -/
def FileDecl.scope (f : FileDecl) : String :=
  if f.packageName.isEmpty then "" else "." ++ f.packageName

/-- What a file declares: itself, its messages with what stands in them, and its enumerations. -/
def FileDecl.symbols (f : FileDecl) : List Symbol :=
  .file f.name :: (MessageDecl.allSymbols f.scope f.messages ++
    f.enums.map fun e => .enum (f.scope ++ "." ++ e.name))

section Repeated

variable {α : Type} [DecidableEq α]

/-- The items of a row that are known or stood in the row before. -/
def repeated (known : List α) : List α → List α
  | [] => []
  | a :: as => (if a ∈ known then [a] else []) ++ repeated (known ++ [a]) as

theorem repeated_append (known as bs : List α) :
    repeated known (as ++ bs) = repeated known as ++ repeated (known ++ as) bs := by
  induction as generalizing known with
  | nil => simp [repeated]
  | cons a as ih =>
      rw [List.cons_append, repeated, repeated, ih, List.append_assoc, List.append_assoc]
      rfl

theorem repeated_eq_nil_iff {known as : List α} :
    repeated known as = [] ↔ as.Nodup ∧ ∀ a ∈ as, a ∉ known := by
  induction as generalizing known with
  | nil => simp [repeated]
  | cons a as ih =>
      rw [repeated, List.append_eq_nil_iff, ih, List.nodup_cons, List.forall_mem_cons]
      constructor
      · rintro ⟨new, distinct, apart⟩
        have unknown : a ∉ known := by
          intro member
          simp [member] at new
        refine ⟨⟨?_, distinct⟩, unknown, ?_⟩
        · intro member
          exact apart a member (by simp)
        · intro b member old
          exact apart b member (by simp [old])
      · rintro ⟨⟨absent, distinct⟩, unknown, apart⟩
        refine ⟨if_neg unknown, distinct, ?_⟩
        intro b member
        rw [List.mem_append, List.mem_singleton, not_or]
        refine ⟨apart b member, ?_⟩
        rintro rfl
        exact absent member

/-- Nothing is repeated in a row if and only if its items are distinct. -/
theorem repeated_nil_eq_nil_iff {as : List α} : repeated [] as = [] ↔ as.Nodup := by
  simp [repeated_eq_nil_iff]

end Repeated

section Names

variable (file : SourceFile)

/-- The scope that names lead to in a file. -/
def SourceFile.scopeOf (outers : List String) : String :=
  outers.foldl (fun scope name => scope ++ "." ++ name) file.decl.scope

theorem scopeOf_append_singleton (outers : List String) (name : String) :
    file.scopeOf (outers ++ [name]) = file.scopeOf outers ++ "." ++ name := by
  simp [SourceFile.scopeOf]

theorem toList_scopeOf (outers : List String) :
    (file.scopeOf outers).toList =
      file.decl.scope.toList ++ outers.flatMap fun name => '.' :: name.toList := by
  unfold SourceFile.scopeOf
  generalize file.decl.scope = scope
  induction outers generalizing scope with
  | nil => simp
  | cons name outers ih =>
      rw [List.foldl_cons, ih]
      simp

/-- The name of a declaration from the root is that of its scope, a dot and its own name. -/
theorem qualify_eq (outers : List String) (name : String) :
    file.qualify outers name = file.scopeOf outers ++ "." ++ name := by
  rw [← String.toList_inj, SourceFile.qualify, toList_join, List.map_append, List.map_append,
    List.map_cons, List.cons_append, List.cons_append, intercalate_cons, String.toList_append,
    String.toList_append, toList_scopeOf, FileDecl.scope]
  split <;> simp [List.flatMap_map]

/-- The symbol of a declaration. -/
def Declaration.symbol : Declaration → Symbol
  | .message m => .message m.fullName
  | .enum e => .enum e.fullName

theorem map_symbol_enumDeclarations (outers : List String) (index : Nat) (es : List EnumDecl) :
    (enumDeclarations file outers index es).map (·.symbol) =
      es.map fun e => .enum (file.scopeOf outers ++ "." ++ e.name) := by
  induction es generalizing index with
  | nil => rfl
  | cons e es ih =>
      rw [enumDeclarations, List.map_cons, List.map_cons, ih, ← qualify_eq]
      rfl

mutual

theorem map_symbol_messageDeclarations : ∀ (outers : List String) (index : Nat) (m : MessageDecl),
    (messageDeclarations file outers index m).map (·.symbol) = m.symbols (file.scopeOf outers)
  | outers, index, ⟨name, fields, nested, enums⟩ => by
      rw [messageDeclarations, List.map_cons, List.map_append, map_symbol_siblingDeclarations,
        map_symbol_enumDeclarations, MessageDecl.symbols, scopeOf_append_singleton, ← qualify_eq]
      rfl

theorem map_symbol_siblingDeclarations : ∀ (outers : List String) (index : Nat)
    (ms : List MessageDecl),
    (siblingDeclarations file outers index ms).map (·.symbol) =
      MessageDecl.allSymbols (file.scopeOf outers) ms
  | _, _, [] => rfl
  | outers, index, m :: ms => by
      rw [siblingDeclarations, List.map_append, map_symbol_messageDeclarations,
        map_symbol_siblingDeclarations, MessageDecl.allSymbols]

end

/-- The declarations of a file are those of its symbols that stand behind the file itself. -/
theorem symbols_eq : file.decl.symbols =
    .file file.name :: file.declarations.map (·.symbol) := by
  rw [SourceFile.declarations, List.map_append, map_symbol_siblingDeclarations,
    map_symbol_enumDeclarations]
  rfl

end Names

namespace Catalog

/-- Whether a catalog has a symbol. -/
def Has (c : Catalog) : Symbol → Prop
  | .file name => name ∈ c.files.keys
  | .message name => name ∈ c.messages.keys
  | .enum name => name ∈ c.enums.keys

/-- A catalog has these symbols and no others. -/
def HasExactly (c : Catalog) (known : List Symbol) : Prop := ∀ s, c.Has s ↔ s ∈ known

end Catalog

open Catalog

/-- What declaring symbols in a catalog with others comes to: it stops at the first that is
    repeated, and otherwise the catalog has them all. -/
structure Declares (o : Outcome) (known symbols : List Symbol) : Prop where
  fault : o.fault = (repeated known symbols).head?.map Symbol.fault
  symbols : o.fault = none → o.catalog.HasExactly (known ++ symbols)

theorem mem_keys_set {α : Type} {t : Table α} {key other : String} {value : α} :
    other ∈ (t.set key value).keys ↔ other ∈ t.keys ∨ other = key := by
  rw [Table.keys_set]
  split
  · rename_i member
    constructor
    · exact Or.inl
    · rintro (old | rfl)
      · exact old
      · exact member
  · rw [List.mem_append, List.mem_singleton]

theorem HasExactly.declares_one {c : Catalog} {known : List Symbol} (exact : c.HasExactly known)
    {s : Symbol} {o : Outcome} (old : c.Has s → o.fault = some s.fault)
    (new : ¬ c.Has s → o.fault = none ∧ ∀ t, o.catalog.Has t ↔ c.Has t ∨ t = s) :
    Declares o known [s] := by
  by_cases member : c.Has s
  · have listed : s ∈ known := (exact s).mp member
    have fault := old member
    refine ⟨by simp [repeated, fault, listed], ?_⟩
    intro none
    simp [fault] at none
  · have unlisted : s ∉ known := fun listed => member ((exact s).mpr listed)
    obtain ⟨fault, has⟩ := new member
    refine ⟨by simp [repeated, fault, unlisted], ?_⟩
    intro _ t
    rw [has, exact, List.mem_append, List.mem_singleton]

theorem declares_declare {c : Catalog} {known : List Symbol} (exact : c.HasExactly known)
    (d : Declaration) : Declares (c.declare d) known [d.symbol] := by
  cases d with
  | message m =>
      refine HasExactly.declares_one exact ?_ ?_
      · intro old
        rw [declare, if_pos ((Table.get?_isSome_iff _ _).mpr old)]
        rfl
      · intro new
        have absent : ¬ (c.messages.get? m.fullName).isSome := by
          rwa [Table.get?_isSome_iff]
        rw [declare, if_neg absent]
        refine ⟨rfl, ?_⟩
        intro t
        cases t with
        | message name => simp [Has, mem_keys_set, Declaration.symbol]
        | _ => simp [Has, Declaration.symbol]
  | enum e =>
      refine HasExactly.declares_one exact ?_ ?_
      · intro old
        rw [declare, if_pos ((Table.get?_isSome_iff _ _).mpr old)]
        rfl
      · intro new
        have absent : ¬ (c.enums.get? e.fullName).isSome := by
          rwa [Table.get?_isSome_iff]
        rw [declare, if_neg absent]
        refine ⟨rfl, ?_⟩
        intro t
        cases t with
        | enum name => simp [Has, mem_keys_set, Declaration.symbol]
        | _ => simp [Has, Declaration.symbol]

/-- What declaring the symbols of one item comes to, declaring those of a row comes to. -/
theorem declares_each {α : Type} {step : Catalog → α → Outcome} {symbols : α → List Symbol}
    {as : List α} (one : ∀ c known, ∀ a ∈ as, c.HasExactly known →
      Declares (step c a) known (symbols a))
    {c : Catalog} {known : List Symbol} (exact : c.HasExactly known) :
    Declares (Outcome.each step c as) known (as.flatMap symbols) := by
  induction as generalizing c known with
  | nil =>
      refine ⟨rfl, fun _ => ?_⟩
      rw [List.flatMap_nil, List.append_nil]
      exact exact
  | cons a as ih =>
      have first := one c known a List.mem_cons_self exact
      rw [List.flatMap_cons]
      simp only [Outcome.each]
      split
      · rename_i d outcome
        rw [outcome] at first
        have none := first.fault.symm
        rw [Option.map_eq_none_iff, List.head?_eq_none_iff] at none
        have rest := ih (fun c known b member => one c known b (List.mem_cons_of_mem _ member))
          (first.symbols rfl)
        refine ⟨?_, ?_⟩
        · rw [repeated_append, none, List.nil_append]
          exact rest.fault
        · rw [← List.append_assoc]
          exact rest.symbols
      · rename_i d fault outcome
        rw [outcome] at first
        obtain ⟨s, repeats, rfl⟩ := Option.map_eq_some_iff.mp first.fault.symm
        refine ⟨by simp [repeated_append, repeats], ?_⟩
        intro none
        cases none

theorem declares_register {c : Catalog} {known : List Symbol} (exact : c.HasExactly known)
    (f : FileDecl) : Declares (c.register f) known f.symbols := by
  unfold register
  split
  · rename_i old
    rw [Table.get?_isSome_iff] at old
    have listed : .file f.name ∈ known := (exact (.file f.name)).mp old
    refine ⟨?_, ?_⟩
    · rw [FileDecl.symbols, repeated, if_pos listed]
      rfl
    · intro none
      cases none
  · rename_i new
    rw [Table.get?_isSome_iff] at new
    have unlisted : .file f.name ∉ known := fun listed => new ((exact (.file f.name)).mpr listed)
    have opened : (c.openFile f).HasExactly (known ++ [.file f.name]) := by
      intro s
      rw [List.mem_append, List.mem_singleton, ← exact]
      cases s with
      | file name => simp [Has, openFile, mem_keys_set]
      | _ => simp [Has, openFile, withModule]
    let file : SourceFile := ⟨f, c.moduleOf f⟩
    have inside : Declares (Outcome.each declare (c.openFile f) file.declarations)
        (known ++ [.file f.name]) (file.declarations.map (·.symbol)) := by
      rw [List.map_eq_flatMap]
      exact declares_each (fun _ _ d _ exact => declares_declare exact d) opened
    have symbols : f.symbols = .file f.name :: file.declarations.map (·.symbol) := symbols_eq file
    rw [symbols]
    refine ⟨?_, ?_⟩
    · rw [repeated, if_neg unlisted]
      exact inside.fault
    · intro none
      rw [← List.singleton_append, ← List.append_assoc]
      exact inside.symbols none

/-- Files are registered up to the first symbol that an earlier declaration has. -/
theorem declares_registerAll {c : Catalog} (exact : c.HasExactly []) (files : List FileDecl) :
    Declares (Outcome.each register c files) [] (files.flatMap (·.symbols)) :=
  declares_each (fun _ _ f _ exact => declares_register exact f) exact

theorem hasExactly_empty (importPrefix : String) (packageMap : Table String) :
    (empty importPrefix packageMap).HasExactly [] := by
  intro s
  cases s <;> simp [Has, empty, Table.keys]

section Files

/-- The declaration of a registered file. -/
def Catalog.decl? (c : Catalog) (name : String) : Option FileDecl :=
  (c.files.get? name).map (·.file.decl)

/-- The first file of a name. -/
def Request.file? (r : Request) (name : String) : Option FileDecl := r.files.find? (·.name == name)

theorem decl?_declare (c : Catalog) (d : Declaration) : (c.declare d).catalog.decl? = c.decl? := by
  have kept {change : FileEntry → FileEntry} {d : Catalog} {key : String}
      (updated : d.files = c.files.update key change)
      (same : ∀ entry, (change entry).file = entry.file) : d.decl? = c.decl? := by
    funext name
    rw [decl?, updated]
    exact Table.map_get?_update (fun entry => by rw [same]) _ _ _
  cases d with
  | message m =>
      simp only [declare]
      split
      · rfl
      · exact kept rfl fun _ => rfl
  | enum e =>
      simp only [declare]
      split
      · rfl
      · exact kept rfl fun _ => rfl

theorem decl?_register {c : Catalog} {f : FileDecl} (success : (c.register f).fault = none)
    (name : String) :
    (c.register f).catalog.decl? name =
      (c.decl? name).or (if f.name = name then some f else none) := by
  unfold register at success ⊢
  split at success
  · cases success
  · rename_i new
    rw [if_neg new]
    have start : (c.openFile f).decl? name =
        (c.decl? name).or (if f.name = name then some f else none) := by
      rw [decl?, openFile, Table.get?_set]
      split
      · rename_i same
        subst same
        rw [Option.not_isSome_iff_eq_none] at new
        simp [decl?, new]
      · simp [decl?]
    rw [← start]
    exact congrFun (Outcome.each_keep (P := fun d => d.decl? = (c.openFile f).decl?)
      (fun d a _ same => (decl?_declare d a).trans same) rfl) name

/-- After files are registered, a name leads to the file that it led to before, or to the first of
    them that has the name. -/
theorem decl?_registerAll {c : Catalog} {files : List FileDecl}
    (success : (Outcome.each register c files).fault = none) (name : String) :
    (Outcome.each register c files).catalog.decl? name =
      (c.decl? name).or (files.find? (·.name == name)) := by
  induction files generalizing c with
  | nil => simp [Outcome.each]
  | cons f files ih =>
      simp only [Outcome.each] at success ⊢
      split at success
      · rename_i d outcome
        have first := decl?_register (c := c) (f := f) (by rw [outcome]) name
        rw [outcome] at first
        rw [ih success, first, Option.or_assoc, List.find?_cons]
        by_cases same : f.name = name
        · simp [same]
        · have other : (f.name == name) = false := by simpa using same
          simp [same, other]
      · cases success

end Files

end HttpAdapter
