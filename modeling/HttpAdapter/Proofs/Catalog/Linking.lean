import HttpAdapter.Catalog.Linking
import HttpAdapter.Proofs.Except
import HttpAdapter.Proofs.Text.Split

/-!
What a file is linked to, declaration by declaration: a service to each that has methods, a method
to each of its methods, a binding to each rule, and a parameter to each variable of a path, all in
their order and with their numbers (`forall₂_linkFile`).  So the messages of each method are in the
catalog, and the variables of its paths lead from field to field, each next one a field of the
message that the type of the one before resolves to (`links_of_linkFile`).
-/

namespace HttpAdapter

open Text

/-- The rules of a method: its own, then the additional ones. -/
def MethodDecl.rules (m : MethodDecl) : List HttpRule := m.http.toList.flatMap (·.withAdditional)

namespace Catalog

/-- Fields that lead on from a message: the first is a field of it, and each next one a field of
    the message that is the type of the one before. -/
inductive Leads (c : Catalog) : MessageEntry → List FieldEntry → Prop
  | last {m : MessageEntry} {f : FieldEntry} : f ∈ m.fields → Leads c m [f]
  | onward {m next : MessageEntry} {f : FieldEntry} {fs : List FieldEntry} :
      f ∈ m.fields → c.messageOf f = .ok next → Leads c next fs → Leads c m (f :: fs)

/-- A message that the catalog holds under some name. -/
def Holds (c : Catalog) (m : MessageEntry) : Prop := ∃ key, c.messages.get? key = some m

theorem mem_fields_of_field? {m : MessageEntry} {name : String} {f : FieldEntry}
    (found : m.field? name = some f) : f ∈ m.fields ∧ f.name = name := by
  refine ⟨List.mem_of_find?_eq_some found, ?_⟩
  have same := List.find?_some found
  simpa [FieldEntry.name] using same

/-- A message that a name stands for is in the catalog. -/
theorem holds_of_message {c : Catalog} {location name : String} {m : MessageEntry}
    (success : c.message location name = .ok m) : c.Holds m := by
  unfold Catalog.message at success
  split at success
  · rename_i entry resolved
    cases success
    obtain ⟨key, -, found⟩ := List.exists_of_findSome?_eq_some resolved
    exact ⟨key, found⟩
  · simp at success

theorem holds_of_messageOf {c : Catalog} {f : FieldEntry} {m : MessageEntry}
    (success : c.messageOf f = .ok m) : c.Holds m := by
  unfold messageOf at success
  split at success
  · exact holds_of_message success
  · simp at success

/-- All fields on the way are fields of messages that the catalog holds, if the first one is. -/
theorem holds_of_leads {c : Catalog} {m : MessageEntry} {fields : List FieldEntry}
    (leads : c.Leads m fields) (held : c.Holds m) :
    ∀ f ∈ fields, f ∈ f.message.fields ∧ c.Holds f.message := by
  have own {m : MessageEntry} {f : FieldEntry} (member : f ∈ m.fields) : f.message = m := by
    obtain ⟨decl, -, rfl⟩ := List.mem_map.mp member
    rfl
  induction leads with
  | last member =>
      intro f inList
      rw [List.mem_singleton] at inList
      subst inList
      rw [own member]
      exact ⟨member, held⟩
  | onward member resolved _ ih =>
      rw [List.forall_mem_cons]
      refine ⟨?_, ih (holds_of_messageOf resolved)⟩
      rw [own member]
      exact ⟨member, held⟩

/-- Fields that names lead through have those names, and lead on from where the names start. -/
theorem leads_of_follow {c : Catalog} {path : String} {m : MessageEntry} {names : List String}
    {fields : FieldPath} (success : c.follow path m names = .ok fields) :
    fields.map (·.name) = names ∧ (names ≠ [] → c.Leads m fields) := by
  induction names generalizing m fields with
  | nil =>
      cases success
      simp
  | cons name names ih =>
      simp only [follow] at success
      split at success
      · simp at success
      · rename_i f found
        obtain ⟨member, rfl⟩ := mem_fields_of_field? found
        split at success
        · split at success
          · simp at success
          · rename_i next resolved
            obtain ⟨rest, followed, rfl⟩ := map_eq_ok.mp success
            obtain ⟨same, leads⟩ := ih followed
            refine ⟨by simp [same], fun _ => ?_⟩
            cases names with
            | nil =>
                cases followed
                exact .last member
            | cons second names => exact .onward member resolved (leads (by simp))
        · split at success
          · rename_i empty
            cases success
            rw [List.isEmpty_iff] at empty
            exact ⟨by simp [empty], fun _ => .last member⟩
          · simp at success

/-- The fields of a path lead on from the message it starts at, and spell the path. -/
theorem leads_of_fieldPath {c : Catalog} {m : MessageEntry} {path : String} {fields : FieldPath}
    (success : c.fieldPath m path = .ok fields) :
    c.Leads m fields ∧ FieldPath.render fields = path := by
  obtain ⟨names, leads⟩ := leads_of_follow success
  have full : split '.' path ≠ [] := by
    simp [split]
  refine ⟨leads full, ?_⟩
  rw [FieldPath.render, names, join_split]

variable {c : Catalog} {package : String} {index : Nat}

/-- A variable of a path, linked to the fields that it leads through. -/
structure LinksVariable (c : Catalog) (request : MessageEntry) (text : String)
    (p : PathParameter) : Prop where
  name : p.name = text
  fields : c.fieldPath request text = .ok p.fields

/-- A rule, linked. -/
structure LinksRule (c : Catalog) (request : MessageEntry) (r : HttpRule) (b : LinkedBinding) :
    Prop where
  binding : r.binding = .ok ⟨b.verb, b.path, b.body, b.responseBody⟩
  parameters : List.Forall₂ (c.LinksVariable request) (pathVariables b.path) b.parameters

/-- A method with its number, linked. -/
structure LinksMethod (c : Catalog) (package : String) (d : MethodDecl × Nat) (m : LinkedMethod) :
    Prop where
  decl : m.decl = d.1
  index : m.index = d.2
  request : c.message package d.1.inputType = .ok m.request
  response : c.message package d.1.outputType = .ok m.response
  bindings : List.Forall₂ (c.LinksRule m.request) d.1.rules m.bindings

/-- A service with its number, linked. -/
structure LinksService (c : Catalog) (package : String) (d : ServiceDecl × Nat)
    (s : LinkedService) : Prop where
  name : s.name = d.1.name
  index : s.index = d.2
  methods : List.Forall₂ (c.LinksMethod package) d.1.methods.zipIdx s.methods

theorem linksRule_of_linkRule {request : MessageEntry} {r : HttpRule} {b : LinkedBinding}
    (success : c.linkRule request r = .ok b) : c.LinksRule request r b := by
  obtain ⟨pattern, bound, success⟩ := bind_eq_ok.mp success
  obtain ⟨parameters, resolved, success⟩ := bind_eq_ok.mp success
  cases success
  refine ⟨bound, (forall₂_of_mapM_eq_ok resolved).imp ?_⟩
  intro name p linked
  obtain ⟨fields, followed, rfl⟩ := map_eq_ok.mp linked
  exact ⟨rfl, followed⟩

theorem linksMethod_of_linkMethod {decl : MethodDecl} {m : LinkedMethod}
    (success : c.linkMethod package index decl = .ok m) :
    c.LinksMethod package (decl, index) m := by
  obtain ⟨request, requested, success⟩ := bind_eq_ok.mp success
  obtain ⟨response, responded, success⟩ := bind_eq_ok.mp success
  obtain ⟨bindings, bound, success⟩ := bind_eq_ok.mp success
  cases success
  refine ⟨rfl, rfl, requested, responded, ?_⟩
  rw [MethodDecl.rules]
  cases http : decl.http with
  | none =>
      rw [http] at bound
      cases bound
      exact .nil
  | some r =>
      rw [http] at bound
      rw [Option.toList_some, List.flatMap_singleton]
      exact (forall₂_of_mapM_eq_ok bound).imp fun _ _ => linksRule_of_linkRule

theorem forall₂_linkMethods {decls : List MethodDecl} {ms : List LinkedMethod}
    (success : c.linkMethods package index decls = .ok ms) :
    List.Forall₂ (c.LinksMethod package) (decls.zipIdx index) ms := by
  induction decls generalizing index ms with
  | nil =>
      cases success
      exact .nil
  | cons decl decls ih =>
      obtain ⟨first, linked, success⟩ := bind_eq_ok.mp success
      obtain ⟨others, rest, success⟩ := bind_eq_ok.mp success
      cases success
      exact .cons (linksMethod_of_linkMethod linked) (ih rest)

/-- A service without methods is left out, but it counts. -/
theorem forall₂_linkServices {decls : List ServiceDecl} {services : List LinkedService}
    (success : c.linkServices package index decls = .ok services) :
    List.Forall₂ (c.LinksService package) ((decls.zipIdx index).filter (!·.1.methods.isEmpty))
      services := by
  induction decls generalizing index services with
  | nil =>
      cases success
      exact .nil
  | cons decl decls ih =>
      obtain ⟨methods, linked, success⟩ := bind_eq_ok.mp success
      obtain ⟨others, rest, success⟩ := bind_eq_ok.mp success
      cases success
      have each := forall₂_linkMethods linked
      have empty : methods.isEmpty = decl.methods.isEmpty := by
        rw [Bool.eq_iff_iff, List.isEmpty_iff_length_eq_zero, List.isEmpty_iff_length_eq_zero,
          ← each.length_eq, List.length_zipIdx]
      rw [List.zipIdx_cons, empty]
      cases none : decl.methods.isEmpty with
      | true =>
          rw [List.filter_cons_of_neg (by simp [none])]
          exact ih rest
      | false =>
          rw [List.filter_cons_of_pos (by simp [none])]
          exact .cons ⟨rfl, rfl, each⟩ (ih rest)

/-- A file is linked to its services. -/
theorem forall₂_linkFile {entry : FileEntry} {f : TargetFile}
    (success : c.linkFile entry = .ok f) :
    f.entry = entry ∧ List.Forall₂ (c.LinksService entry.file.decl.packageName)
      (entry.file.decl.services.zipIdx.filter (!·.1.methods.isEmpty)) f.services := by
  obtain ⟨services, resolved, rfl⟩ := map_eq_ok.mp success
  exact ⟨rfl, forall₂_linkServices resolved⟩

/-- What a linked method satisfies in the catalog it was linked in. -/
structure Links (c : Catalog) (m : LinkedMethod) : Prop where
  request : c.Holds m.request
  response : c.Holds m.response
  parameters : ∀ b ∈ m.bindings, ∀ p ∈ b.parameters,
    c.Leads m.request p.fields ∧ FieldPath.render p.fields = p.name

/-- What a method is linked to is in the catalog. -/
theorem LinksMethod.links {d : MethodDecl × Nat} {m : LinkedMethod}
    (links : c.LinksMethod package d m) : c.Links m where
  request := holds_of_message links.request
  response := holds_of_message links.response
  parameters := by
    intro b binding p parameter
    obtain ⟨r, -, rule⟩ := exists_of_mem_forall₂ links.bindings binding
    obtain ⟨text, -, found⟩ := exists_of_mem_forall₂ rule.parameters parameter
    rw [found.name]
    exact leads_of_fieldPath found.fields

/-- A linked file wraps the file, and its methods are linked in the catalog. -/
theorem links_of_linkFile {entry : FileEntry} {linked : TargetFile}
    (success : c.linkFile entry = .ok linked) :
    linked.entry = entry ∧ ∀ s ∈ linked.services, ∀ m ∈ s.methods, c.Links m := by
  obtain ⟨own, services⟩ := forall₂_linkFile success
  refine ⟨own, ?_⟩
  intro s service m method
  obtain ⟨d, -, linksService⟩ := exists_of_mem_forall₂ services service
  obtain ⟨e, -, linksMethod⟩ := exists_of_mem_forall₂ linksService.methods method
  exact linksMethod.links

end Catalog

end HttpAdapter
