import HttpAdapter.Proofs.Catalog.Linking

/-!
Which paths lead from a message through fields, and what stops the others: `fieldPath_walk`.  The
names of a path are gone through one by one.  A front of them leads to at most one message, and
there the next name either passes or stops the path, for one of three reasons.
-/

namespace HttpAdapter.Catalog

open Text

/-- Names lead from a message to another: each is the name of a field with messages for values, and
    the next one counts from the message that the type of this field stands for. -/
inductive Reaches (c : Catalog) : MessageEntry → List String → MessageEntry → Prop
  | here (m : MessageEntry) : Reaches c m [] m
  | onward {m next last : MessageEntry} {f : FieldEntry} {name : String} {names : List String} :
      m.field? name = some f → f.isMessage = true →
      c.message m.fullName f.decl.typeName = .ok next → Reaches c next names last →
      Reaches c m (name :: names) last

/-- A name passes at a message: it is the name of a field, which has messages for values if there
    are names behind it; and if it has, its type stands for a message. -/
def Passes (c : Catalog) (m : MessageEntry) (name : String) (behind : List String) : Prop :=
  ∃ f, m.field? name = some f ∧ (behind ≠ [] → f.isMessage = true) ∧
    (f.isMessage = true → ∃ next, c.message m.fullName f.decl.typeName = .ok next)

/-- What stops a path at a name that counts from a message. -/
inductive Stops (c : Catalog) (path : String) (m : MessageEntry) (name : String)
    (behind : List String) : Fault → Prop
  | absent : m.field? name = none → Stops c path m name behind (.unknownField name m.fullName)
  | scalar {f : FieldEntry} : m.field? name = some f → f.isMessage = false → behind ≠ [] →
      Stops c path m name behind (.scalarInPath path name)
  | unresolved {f : FieldEntry} {fault : Fault} : m.field? name = some f → f.isMessage = true →
      c.message m.fullName f.decl.typeName = .error fault → Stops c path m name behind fault

/-- A path is stopped at one of these names, which all names in front of it lead up to. -/
def StopsAmong (c : Catalog) (path : String) (m : MessageEntry) (names : List String)
    (fault : Fault) : Prop :=
  ∃ front name behind last, names = front ++ name :: behind ∧ c.Reaches m front last ∧
    c.Stops path last name behind fault

variable {c : Catalog} {path : String} {m : MessageEntry} {f : FieldEntry} {name : String}
variable {names : List String} {fault : Fault}

theorem message_of_field? (found : m.field? name = some f) : f.message = m := by
  obtain ⟨member, -⟩ := mem_fields_of_field? found
  obtain ⟨decl, -, rfl⟩ := List.mem_map.mp member
  rfl

theorem messageOf_of_field? (found : m.field? name = some f) (holds : f.isMessage = true) :
    c.messageOf f = c.message m.fullName f.decl.typeName := by
  rw [messageOf, if_pos holds, message_of_field? found]

/-- A name passes exactly if nothing stops the path there. -/
theorem passes_iff : c.Passes m name names ↔ ∀ fault, ¬ c.Stops path m name names fault := by
  constructor
  · rintro ⟨f, found, further, resolves⟩ fault stops
    cases stops with
    | absent none =>
        rw [found] at none
        cases none
    | scalar other noMessage more =>
        cases found.symm.trans other
        rw [further more] at noMessage
        cases noMessage
    | unresolved other holds failed =>
        cases found.symm.trans other
        obtain ⟨next, resolved⟩ := resolves holds
        rw [resolved] at failed
        cases failed
  · intro free
    cases found : m.field? name with
    | none => exact absurd (.absent found) (free _)
    | some f =>
        refine ⟨f, found, ?_, ?_⟩
        · intro more
          rw [← Bool.not_eq_false]
          exact fun noMessage => free _ (.scalar found noMessage more)
        · intro holds
          cases resolved : c.message m.fullName f.decl.typeName with
          | error fault => exact absurd (.unresolved found holds resolved) (free fault)
          | ok next => exact ⟨next, rfl⟩

/-- A path is stopped at its first name or, if that leads on, among the others. -/
theorem stopsAmong_cons : c.StopsAmong path m (name :: names) fault ↔
    c.Stops path m name names fault ∨
      ∃ f next, m.field? name = some f ∧ f.isMessage = true ∧
        c.message m.fullName f.decl.typeName = .ok next ∧ c.StopsAmong path next names fault := by
  constructor
  · rintro ⟨front, other, behind, last, parts, reaches, stops⟩
    cases reaches with
    | here =>
        cases parts
        exact Or.inl stops
    | onward found holds resolved reaches =>
        cases parts
        exact Or.inr ⟨_, _, found, holds, resolved, _, _, _, _, rfl, reaches, stops⟩
  · rintro (stops | ⟨f, next, found, holds, resolved, amongOthers⟩)
    · exact ⟨[], name, names, m, rfl, .here m, stops⟩
    · obtain ⟨front, other, behind, last, rfl, reaches, stops⟩ := amongOthers
      exact ⟨name :: front, other, behind, last, rfl, .onward found holds resolved reaches, stops⟩

theorem follow_of_stops (stops : c.Stops path m name names fault) :
    c.follow path m (name :: names) = .error fault := by
  cases stops with
  | absent none => simp only [follow, none]
  | scalar found noMessage more =>
      simp only [follow, found, noMessage, Bool.false_eq_true, if_false]
      exact if_neg (by simpa using more)
  | unresolved found holds failed =>
      simp only [follow, found, holds, if_true, messageOf_of_field? found holds, failed]

theorem follow_of_leads_on {next : MessageEntry} (found : m.field? name = some f)
    (holds : f.isMessage = true) (resolved : c.message m.fullName f.decl.typeName = .ok next) :
    c.follow path m (name :: names) = (c.follow path next names).map (f :: ·) := by
  simp only [follow, found, holds, if_true, messageOf_of_field? found holds, resolved]

theorem follow_of_last (found : m.field? name = some f) (noMessage : f.isMessage = false) :
    c.follow path m [name] = .ok [f] := by
  simp [follow, found, noMessage]

/-- At a name a path is stopped, led on to a message, or at its end with another kind of field. -/
theorem stops_or_leads_on (c : Catalog) (path : String) (m : MessageEntry) (name : String)
    (names : List String) :
    (∃ fault, c.Stops path m name names fault) ∨
      (∃ f next, m.field? name = some f ∧ f.isMessage = true ∧
        c.message m.fullName f.decl.typeName = .ok next) ∨
      ∃ f, m.field? name = some f ∧ f.isMessage = false ∧ names = [] := by
  cases found : m.field? name with
  | none => exact Or.inl ⟨_, .absent found⟩
  | some f =>
      cases holds : f.isMessage with
      | true =>
          cases resolved : c.message m.fullName f.decl.typeName with
          | error fault => exact Or.inl ⟨fault, .unresolved found holds resolved⟩
          | ok next => exact Or.inr (Or.inl ⟨f, next, rfl, holds, resolved⟩)
      | false =>
          by_cases last : names = []
          · exact Or.inr (Or.inr ⟨f, rfl, holds, last⟩)
          · exact Or.inl ⟨_, .scalar found holds last⟩

/-- Names lead nowhere exactly if the path is stopped among them, and with that fault. -/
theorem follow_eq_error_iff :
    c.follow path m names = .error fault ↔ c.StopsAmong path m names fault := by
  induction names generalizing m with
  | nil => simp [follow, StopsAmong]
  | cons name names ih =>
      rw [stopsAmong_cons]
      constructor
      · intro failed
        rcases stops_or_leads_on c path m name names with
          ⟨first, stops⟩ | ⟨f, next, found, holds, resolved⟩ | ⟨f, found, noMessage, rfl⟩
        · rw [follow_of_stops stops] at failed
          cases failed
          exact Or.inl stops
        · rw [follow_of_leads_on found holds resolved] at failed
          exact Or.inr ⟨f, next, found, holds, resolved, ih.mp (map_eq_error.mp failed)⟩
        · rw [follow_of_last found noMessage] at failed
          cases failed
      · rintro (stops | ⟨f, next, found, holds, resolved, others⟩)
        · exact follow_of_stops stops
        · rw [follow_of_leads_on found holds resolved, ih.mpr others]
          rfl

/-- A path leads from a message through fields exactly if each of its names passes at the message
    that the names in front of it lead to.  Then there is a field for each name, of that name: the
    first is one of the message, and each next one of the message that the field before refers to.
    Otherwise the path is stopped by what is wrong with the first name that does not pass. -/
theorem fieldPath_walk (c : Catalog) (m : MessageEntry) (path : String) :
    ((∃ fields, c.fieldPath m path = .ok fields) ↔
      ∀ front name behind last, split '.' path = front ++ name :: behind →
        c.Reaches m front last → c.Passes last name behind) ∧
    (∀ fields, c.fieldPath m path = .ok fields →
      fields.map (·.name) = split '.' path ∧ FieldPath.render fields = path ∧
        c.Leads m fields) ∧
    ∀ fault, c.fieldPath m path = .error fault ↔
      ∃ front name behind last, split '.' path = front ++ name :: behind ∧
        c.Reaches m front last ∧ c.Stops path last name behind fault := by
  have failure (fault : Fault) : c.fieldPath m path = .error fault ↔
      c.StopsAmong path m (split '.' path) fault := follow_eq_error_iff
  refine ⟨?_, ?_, failure⟩
  · have success : (∃ fields, c.fieldPath m path = .ok fields) ↔
        ∀ fault, ¬ c.StopsAmong path m (split '.' path) fault := by
      simp only [← failure]
      cases c.fieldPath m path with
      | error fault => simp
      | ok fields => simp
    rw [success]
    constructor
    · intro free front name behind last parts reaches
      have unstopped : ∀ fault, ¬ c.Stops path last name behind fault := fun fault stops =>
        free fault ⟨front, name, behind, last, parts, reaches, stops⟩
      exact passes_iff.mpr unstopped
    · rintro passes fault ⟨front, name, behind, last, parts, reaches, stops⟩
      exact passes_iff.mp (passes front name behind last parts reaches) fault stops
  · intro fields success
    obtain ⟨leads, spelled⟩ := leads_of_fieldPath success
    exact ⟨(leads_of_follow success).1, spelled, leads⟩

/-- From a message with a field of its own type, paths go round it: one of them to its end, one
    into a number, one past a field that is not there, and one into a type that is not there. -/
theorem fieldPath_walk_round :
    let file : SourceFile :=
      ⟨⟨"a.proto", some "p", none, none, [], [], [], []⟩, ⟨"a_pb2", "p", none⟩⟩
    let node : MessageEntry := ⟨file, [], ⟨"Node", [⟨"next", .message, "Node", .optional⟩,
      ⟨"id", .int64, "", .optional⟩, ⟨"lost", .message, ".q.M", .optional⟩], [], []⟩, 0⟩
    let c : Catalog := { empty "" [] with messages := [(".p.Node", node)] }
    (∃ fields, c.fieldPath node "next.next.id" = .ok fields ∧ c.Leads node fields ∧
      fields.map (·.name) = ["next", "next", "id"]) ∧
    c.fieldPath node "next.id.x" = .error (.scalarInPath "next.id.x" "id") ∧
    c.fieldPath node "next.previous" = .error (.unknownField "previous" ".p.Node") ∧
    c.fieldPath node "next.lost" = .error (.unknownMessage ".q.M") := by
  intro file node c
  have itself : c.message node.fullName "Node" = .ok node := by
    have scopes : candidates node.fullName "Node" = [".p.Node.Node", ".p.Node", ".Node"] := by
      decide +kernel
    rw [message, Table.resolve?, scopes]
    rfl
  have absent : c.message node.fullName ".q.M" = .error (.unknownMessage ".q.M") := by
    have scopes : candidates node.fullName ".q.M" = [".q.M"] := by decide +kernel
    rw [message, Table.resolve?, scopes]
    rfl
  have round : c.Reaches node ["next"] node := .onward rfl rfl itself (.here node)
  obtain ⟨-, spelled, -⟩ := fieldPath_walk c node "next.next.id"
  have failure (path : String) := (fieldPath_walk c node path).2.2
  refine ⟨?_, ?_, ?_, ?_⟩
  · have found : (c.fieldPath node "next.next.id").isOk := by decide +kernel
    cases resolved : c.fieldPath node "next.next.id" with
    | error fault =>
        rw [resolved] at found
        cases found
    | ok fields =>
        obtain ⟨names, -, leads⟩ := spelled fields resolved
        exact ⟨fields, rfl, leads, names.trans (by decide +kernel)⟩
  · exact (failure "next.id.x" _).mpr
      ⟨["next"], "id", ["x"], node, by decide +kernel, round, .scalar rfl rfl (by simp)⟩
  · rw [show ".p.Node" = node.fullName by decide +kernel]
    exact (failure "next.previous" _).mpr
      ⟨["next"], "previous", [], node, by decide +kernel, round, .absent rfl⟩
  · exact (failure "next.lost" _).mpr
      ⟨["next"], "lost", [], node, by decide +kernel, round, .unresolved rfl rfl absent⟩

end HttpAdapter.Catalog
