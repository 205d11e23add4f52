import HttpAdapter.Catalog.Entry

/-!
What stands among the declarations of a file: each of them belongs to the file, and the messages
are those that the file declares at any depth.
-/

namespace HttpAdapter

/-- A message stands among others or inside one of them, at any depth. -/
inductive MessageDecl.Within : List MessageDecl → MessageDecl → Prop
  | among {ms : List MessageDecl} {m : MessageDecl} : m ∈ ms → Within ms m
  | inside {ms : List MessageDecl} {outer m : MessageDecl} :
      outer ∈ ms → Within outer.nested m → Within ms m

/-- The file that a declaration belongs to. -/
def Declaration.file : Declaration → SourceFile
  | .message m => m.file
  | .enum e => e.file

theorem MessageDecl.Within.mono {ms ns : List MessageDecl} {m : MessageDecl} (subset : ms ⊆ ns)
    (within : Within ms m) : Within ns m := by
  cases within with
  | among member => exact .among (subset member)
  | inside member deeper => exact .inside (subset member) deeper

/-- What a declaration of a file satisfies: it belongs to the file, and a message is one of those
    messages. -/
def Declaration.BelongsTo (file : SourceFile) (ms : List MessageDecl) (d : Declaration) : Prop :=
  d.file = file ∧ ∀ m, d = .message m → MessageDecl.Within ms m.decl

theorem belongsTo_of_mem_enumDeclarations {file : SourceFile} {ms : List MessageDecl}
    {outers : List String} {index : Nat} {es : List EnumDecl} {d : Declaration}
    (member : d ∈ enumDeclarations file outers index es) : d.BelongsTo file ms := by
  induction es generalizing index with
  | nil => simp [enumDeclarations] at member
  | cons e es ih =>
      rcases List.mem_cons.mp member with rfl | member
      · exact ⟨rfl, by simp⟩
      · exact ih member

mutual

theorem belongsTo_of_mem_messageDeclarations {file : SourceFile} {d : Declaration} :
    ∀ (m : MessageDecl) (outers : List String) (index : Nat),
      d ∈ messageDeclarations file outers index m → d.BelongsTo file [m]
  | ⟨name, fields, nested, enums⟩, outers, index, member => by
      simp only [messageDeclarations, List.mem_cons, List.mem_append] at member
      rcases member with rfl | member | member
      · refine ⟨rfl, ?_⟩
        rintro m equal
        cases equal
        exact .among List.mem_cons_self
      · obtain ⟨own, messages⟩ := belongsTo_of_mem_siblingDeclarations nested _ _ member
        exact ⟨own, fun m equal => .inside List.mem_cons_self (messages m equal)⟩
      · exact belongsTo_of_mem_enumDeclarations member

theorem belongsTo_of_mem_siblingDeclarations {file : SourceFile} {d : Declaration} :
    ∀ (ms : List MessageDecl) (outers : List String) (index : Nat),
      d ∈ siblingDeclarations file outers index ms → d.BelongsTo file ms
  | [], _, _, member => by simp [siblingDeclarations] at member
  | m :: ms, outers, index, member => by
      simp only [siblingDeclarations, List.mem_append] at member
      rcases member with member | member
      · obtain ⟨own, messages⟩ := belongsTo_of_mem_messageDeclarations m _ _ member
        exact ⟨own, fun n equal => (messages n equal).mono (by simp)⟩
      · obtain ⟨own, messages⟩ := belongsTo_of_mem_siblingDeclarations ms _ _ member
        exact ⟨own, fun n equal => (messages n equal).mono (List.subset_cons_self m ms)⟩

end

/-- A declaration of a file belongs to it. -/
theorem belongsTo_of_mem_declarations {file : SourceFile} {d : Declaration}
    (member : d ∈ file.declarations) : d.BelongsTo file file.decl.messages := by
  rcases List.mem_append.mp member with member | member
  · exact belongsTo_of_mem_siblingDeclarations _ _ _ member
  · exact belongsTo_of_mem_enumDeclarations member

theorem not_mem_enumDeclarations {file : SourceFile} {outers : List String} {index : Nat}
    {es : List EnumDecl} (entry : MessageEntry) :
    .message entry ∉ enumDeclarations file outers index es := by
  induction es generalizing index with
  | nil => simp [enumDeclarations]
  | cons e es ih => simp [enumDeclarations, ih]

section Outers

variable {file : SourceFile} {P : String → Prop} {entry : MessageEntry}

mutual

/-- What the names around a message and those of all messages in it satisfy, the names around each
    of those do. -/
theorem forall_outers_of_mem_messageDeclarations :
    ∀ (m : MessageDecl) (outers : List String) (index : Nat), (∀ name ∈ outers, P name) →
      (∀ d, MessageDecl.Within [m] d → P d.name) →
      .message entry ∈ messageDeclarations file outers index m → ∀ name ∈ entry.outers, P name
  | ⟨name, fields, nested, enums⟩, outers, index, around, names, member => by
      have deeper : ∀ other ∈ outers ++ [name], P other := by
        rw [List.forall_mem_append]
        exact ⟨around, by simpa using names _ (.among List.mem_cons_self)⟩
      simp only [messageDeclarations, List.mem_cons, List.mem_append] at member
      rcases member with own | inside | enum
      · cases own
        exact around
      · exact forall_outers_of_mem_siblingDeclarations nested _ _ deeper
          (fun d within => names d (.inside List.mem_cons_self within)) inside
      · exact absurd enum (not_mem_enumDeclarations entry)

theorem forall_outers_of_mem_siblingDeclarations :
    ∀ (ms : List MessageDecl) (outers : List String) (index : Nat), (∀ name ∈ outers, P name) →
      (∀ d, MessageDecl.Within ms d → P d.name) →
      .message entry ∈ siblingDeclarations file outers index ms → ∀ name ∈ entry.outers, P name
  | [], _, _, _, _, member => by simp [siblingDeclarations] at member
  | m :: ms, outers, index, around, names, member => by
      simp only [siblingDeclarations, List.mem_append] at member
      rcases member with member | member
      · exact forall_outers_of_mem_messageDeclarations m _ _ around
          (fun d within => names d (within.mono (by simp))) member
      · exact forall_outers_of_mem_siblingDeclarations ms _ _ around
          (fun d within => names d (within.mono (List.subset_cons_self m ms))) member

end

end Outers

end HttpAdapter
