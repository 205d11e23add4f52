import HttpAdapter.Proofs.Catalog.Exactness
import Mathlib.Data.Option.Basic

/-!
Catalogs that agree up to a relation between their files.  Where related files declare the same
under the same names, linking against one catalog or the other fails with the same fault or gives
services that agree (`sameResult_linkServices`), and what registering related files leaves agrees
(`agrees_of_contains`).
-/

namespace HttpAdapter

/-- Two files declare the same messages and enumerations under the same names. -/
structure SourceFile.Alike (s t : SourceFile) : Prop where
  name : s.name = t.name
  packageName : s.decl.packageName = t.decl.packageName
  isProto2 : s.decl.isProto2 = t.decl.isProto2
  messages : s.decl.messages = t.decl.messages
  enums : s.decl.enums = t.decl.enums

section Relations

variable (R : SourceFile → SourceFile → Prop)

/-- One message in two catalogs: it stands at one place of related files. -/
structure MessageEntry.Agrees (m n : MessageEntry) : Prop where
  file : R m.file n.file
  outers : m.outers = n.outers
  decl : m.decl = n.decl
  index : m.index = n.index

/-- One enumeration in two catalogs. -/
structure EnumEntry.Agrees (d e : EnumEntry) : Prop where
  file : R d.file e.file
  outers : d.outers = e.outers
  decl : d.decl = e.decl
  index : d.index = e.index

/-- One field in two catalogs. -/
structure FieldEntry.Agrees (f g : FieldEntry) : Prop where
  message : f.message.Agrees R g.message
  decl : f.decl = g.decl

/-- One variable of a path, linked to the same fields, with the same expression for its value. -/
structure PathParameter.Agrees (p q : PathParameter) : Prop where
  name : p.name = q.name
  fields : List.Forall₂ (FieldEntry.Agrees R) p.fields q.fields
  access : ∀ expr, FieldPath.access p.fields expr = FieldPath.access q.fields expr

/-- One rule, linked in two catalogs. -/
structure LinkedBinding.Agrees (a b : LinkedBinding) : Prop where
  verb : a.verb = b.verb
  path : a.path = b.path
  body : a.body = b.body
  responseBody : a.responseBody = b.responseBody
  parameters : List.Forall₂ (PathParameter.Agrees R) a.parameters b.parameters

/-- One method, linked in two catalogs. -/
structure LinkedMethod.Agrees (m n : LinkedMethod) : Prop where
  decl : m.decl = n.decl
  index : m.index = n.index
  request : m.request.Agrees R n.request
  response : m.response.Agrees R n.response
  bindings : List.Forall₂ (LinkedBinding.Agrees R) m.bindings n.bindings

/-- One service, linked in two catalogs. -/
structure LinkedService.Agrees (s t : LinkedService) : Prop where
  name : s.name = t.name
  index : s.index = t.index
  methods : List.Forall₂ (LinkedMethod.Agrees R) s.methods t.methods

/-- One file in two catalogs, with the same declarations in the same order. -/
structure FileEntry.Agrees (e f : FileEntry) : Prop where
  file : R e.file f.file
  messages : List.Forall₂ (MessageEntry.Agrees R) e.messages f.messages
  enums : List.Forall₂ (EnumEntry.Agrees R) e.enums f.enums

/-- One file, linked in two catalogs. -/
structure TargetFile.Agrees (f g : TargetFile) : Prop where
  entry : f.entry.Agrees R g.entry
  services : List.Forall₂ (LinkedService.Agrees R) f.services g.services

/-- Each name leads to the same in both catalogs, or to nothing in both. -/
structure Catalog.Agrees (c d : Catalog) : Prop where
  messages : ∀ name,
    Option.Rel (MessageEntry.Agrees R) (c.messages.get? name) (d.messages.get? name)
  enums : ∀ name, Option.Rel (EnumEntry.Agrees R) (c.enums.get? name) (d.enums.get? name)
  files : ∀ name, Option.Rel (FileEntry.Agrees R) (c.files.get? name) (d.files.get? name)
  targets : ∀ name, Option.Rel (TargetFile.Agrees R) (c.targets.get? name) (d.targets.get? name)

end Relations

section Entries

variable {R : SourceFile → SourceFile → Prop} (alike : ∀ s t, R s t → s.Alike t)

include alike

theorem qualify_eq_of_related {s t : SourceFile} (related : R s t) : s.qualify = t.qualify := by
  funext outers name
  rw [SourceFile.qualify, SourceFile.qualify, (alike s t related).packageName]

theorem MessageEntry.Agrees.fullName {m n : MessageEntry} (agrees : m.Agrees R n) :
    m.fullName = n.fullName := by
  rw [MessageEntry.fullName, MessageEntry.fullName, qualify_eq_of_related alike agrees.file,
    agrees.outers, agrees.decl]

theorem EnumEntry.Agrees.fullName {d e : EnumEntry} (agrees : d.Agrees R e) :
    d.fullName = e.fullName := by
  rw [EnumEntry.fullName, EnumEntry.fullName, qualify_eq_of_related alike agrees.file,
    agrees.outers, agrees.decl]

omit alike in
theorem FieldEntry.Agrees.name {f g : FieldEntry} (agrees : f.Agrees R g) : f.name = g.name :=
  congrArg (·.name) agrees.decl

omit alike in
theorem FieldEntry.Agrees.isMessage {f g : FieldEntry} (agrees : f.Agrees R g) :
    f.isMessage = g.isMessage := by
  rw [FieldEntry.isMessage, FieldEntry.isMessage, agrees.decl]

omit alike in
theorem FieldEntry.Agrees.access {f g : FieldEntry} (agrees : f.Agrees R g) :
    f.access = g.access := by
  funext expr
  rw [FieldEntry.access, FieldEntry.access, agrees.name]

theorem FieldEntry.Agrees.accessOnward {f g : FieldEntry} (agrees : f.Agrees R g) :
    f.accessOnward = g.accessOnward := by
  funext expr
  rw [FieldEntry.accessOnward, FieldEntry.accessOnward, agrees.name, agrees.access,
    (alike _ _ agrees.message.file).isProto2]

/-- Fields that agree have the same expression for the value at their end. -/
theorem access_eq_of_agrees {p q : FieldPath} (agree : List.Forall₂ (FieldEntry.Agrees R) p q)
    (expr : String) : FieldPath.access p expr = FieldPath.access q expr := by
  induction agree generalizing expr with
  | nil => rfl
  | cons first others ih =>
      cases others with
      | nil => exact congrFun first.access expr
      | cons second rest =>
          rw [FieldPath.access, FieldPath.access, first.accessOnward alike]
          exact ih _

omit alike in
theorem field?_of_agrees {m n : MessageEntry} (agrees : m.Agrees R n) (name : String) :
    Option.Rel (FieldEntry.Agrees R) (m.field? name) (n.field? name) := by
  have same : ((fun f : FieldEntry => f.decl.name == name) ∘ fun d => ⟨m, d⟩) =
      ((fun f : FieldEntry => f.decl.name == name) ∘ fun d => ⟨n, d⟩) := rfl
  rw [MessageEntry.field?, MessageEntry.field?, MessageEntry.fields, MessageEntry.fields,
    List.find?_map, List.find?_map, agrees.decl, same]
  cases List.find? _ n.decl.fields with
  | none => exact .none
  | some d => exact .some ⟨agrees, rfl⟩

end Entries

namespace Catalog

section Linking

variable {R : SourceFile → SourceFile → Prop} {c d : Catalog} {package : String} {index : Nat}

theorem resolve?_of_rel {α β : Type} {S : α → β → Prop} {t : Table α} {u : Table β}
    (rel : ∀ name, Option.Rel S (t.get? name) (u.get? name)) (location name : String) :
    Option.Rel S (t.resolve? location name) (u.resolve? location name) := by
  unfold Table.resolve?
  induction candidates location name with
  | nil => exact .none
  | cons candidate others ih =>
      rw [List.findSome?_cons, List.findSome?_cons]
      have here := rel candidate
      generalize t.get? candidate = a at here
      generalize u.get? candidate = b at here
      cases here with
      | none => exact ih
      | some related => exact .some related

variable (alike : ∀ s t, R s t → s.Alike t)
  (messages : ∀ name, Option.Rel (MessageEntry.Agrees R) (c.messages.get? name)
    (d.messages.get? name))

section Messages

include messages

theorem sameResult_message (location name : String) :
    SameResult (MessageEntry.Agrees R) (c.message location name) (d.message location name) := by
  have found := resolve?_of_rel messages location name
  unfold Catalog.message
  generalize c.messages.resolve? location name = a at found
  generalize d.messages.resolve? location name = b at found
  cases found with
  | none => exact .error _
  | some related => exact .ok related

include alike

theorem sameResult_messageOf {f g : FieldEntry} (agrees : f.Agrees R g) :
    SameResult (MessageEntry.Agrees R) (c.messageOf f) (d.messageOf g) := by
  unfold messageOf
  rw [agrees.isMessage, agrees.message.fullName alike, agrees.decl, agrees.name]
  split
  · exact sameResult_message messages _ _
  · exact .error _

theorem sameResult_follow {path : String} {m n : MessageEntry} (agrees : m.Agrees R n)
    (names : List String) :
    SameResult (List.Forall₂ (FieldEntry.Agrees R)) (c.follow path m names)
      (d.follow path n names) := by
  induction names generalizing m n with
  | nil => exact .ok .nil
  | cons name names ih =>
      have found := field?_of_agrees agrees name
      unfold follow
      rw [agrees.fullName alike]
      generalize m.field? name = a at found
      generalize n.field? name = b at found
      cases found with
      | none => exact .error _
      | @some f g field =>
          simp only [field.isMessage]
          split
          · have next := sameResult_messageOf alike messages field
            generalize c.messageOf f = x at next
            generalize d.messageOf g = y at next
            cases next with
            | error fault => exact .error fault
            | ok related => exact (ih related).map fun _ _ rest => .cons field rest
          · split
            · exact .ok (.cons field .nil)
            · exact .error _

theorem sameResult_fieldPath {m n : MessageEntry} (agrees : m.Agrees R n) (path : String) :
    SameResult (List.Forall₂ (FieldEntry.Agrees R)) (c.fieldPath m path) (d.fieldPath n path) :=
  sameResult_follow alike messages agrees _

theorem sameResult_linkRule {m n : MessageEntry} (agrees : m.Agrees R n) (r : HttpRule) :
    SameResult (LinkedBinding.Agrees R) (c.linkRule m r) (d.linkRule n r) := by
  unfold linkRule
  cases r.binding with
  | error fault => exact .error fault
  | ok b =>
      have parameters : SameResult (List.Forall₂ (PathParameter.Agrees R))
          (c.linkParameters m b.path) (d.linkParameters n b.path) := by
        refine SameResult.mapM (List.forall₂_same.mpr fun name _ => rfl) ?_
        rintro name _ rfl
        refine (sameResult_fieldPath alike messages agrees name).map fun p q fields => ?_
        exact ⟨rfl, fields, access_eq_of_agrees alike fields⟩
      exact parameters.map fun ps qs same => ⟨rfl, rfl, rfl, rfl, same⟩

theorem sameResult_linkMethod (m : MethodDecl) :
    SameResult (LinkedMethod.Agrees R) (c.linkMethod package index m)
      (d.linkMethod package index m) := by
  unfold linkMethod
  refine (sameResult_message messages _ _).bind fun request request' requests => ?_
  refine (sameResult_message messages _ _).bind fun response response' responses => ?_
  have bindings : SameResult (List.Forall₂ (LinkedBinding.Agrees R)) (c.linkRules request m.http)
      (d.linkRules request' m.http) := by
    unfold linkRules
    cases m.http with
    | none => exact .ok .nil
    | some r =>
        refine SameResult.mapM (List.forall₂_same.mpr fun r _ => rfl) ?_
        rintro r _ rfl
        exact sameResult_linkRule alike messages requests r
  exact bindings.map fun as bs same => ⟨rfl, rfl, requests, responses, same⟩

theorem sameResult_linkMethods (ms : List MethodDecl) :
    SameResult (List.Forall₂ (LinkedMethod.Agrees R)) (c.linkMethods package index ms)
      (d.linkMethods package index ms) := by
  induction ms generalizing index with
  | nil => exact .ok .nil
  | cons m ms ih =>
      refine (sameResult_linkMethod alike messages m).bind fun first first' same => ?_
      exact (@ih (index + 1)).map fun rest rest' others => .cons same others

/-- Linking services fails with the same fault in catalogs that agree, or gives services that
    agree. -/
theorem sameResult_linkServices (ss : List ServiceDecl) :
    SameResult (List.Forall₂ (LinkedService.Agrees R)) (c.linkServices package index ss)
      (d.linkServices package index ss) := by
  induction ss generalizing index with
  | nil => exact .ok .nil
  | cons s ss ih =>
      refine (sameResult_linkMethods alike messages s.methods).bind fun ms ns methods => ?_
      refine (@ih (index + 1)).map fun rest rest' others => ?_
      cases methods with
      | nil => exact others
      | cons first more => exact .cons ⟨rfl, rfl, .cons first more⟩ others

/-- The same file is linked the same way. -/
theorem sameResult_linkFile {e f : FileEntry} (agrees : e.Agrees R f)
    (services : e.file.decl.services = f.file.decl.services) :
    SameResult (TargetFile.Agrees R) (c.linkFile e) (d.linkFile f) := by
  unfold linkFile
  rw [(alike _ _ agrees.file).packageName, services]
  exact (sameResult_linkServices alike messages _).map fun _ _ same => ⟨agrees, same⟩

end Messages

end Linking

section Contents

variable {R : SourceFile → SourceFile → Prop}

/-- One declaration in two catalogs. -/
inductive DeclarationsAgree (R : SourceFile → SourceFile → Prop) : Declaration → Declaration → Prop
  | message {m n : MessageEntry} : m.Agrees R n → DeclarationsAgree R (.message m) (.message n)
  | enum {d e : EnumEntry} : d.Agrees R e → DeclarationsAgree R (.enum d) (.enum e)

section Declarations

variable {s t : SourceFile}

theorem agree_enumDeclarations (related : R s t) (outers : List String) (index : Nat)
    (es : List EnumDecl) :
    List.Forall₂ (DeclarationsAgree R) (enumDeclarations s outers index es)
      (enumDeclarations t outers index es) := by
  induction es generalizing index with
  | nil => exact .nil
  | cons e es ih => exact .cons (.enum ⟨related, rfl, rfl, rfl⟩) (ih (index + 1))

mutual

theorem agree_messageDeclarations (related : R s t) :
    ∀ (outers : List String) (index : Nat) (m : MessageDecl), List.Forall₂ (DeclarationsAgree R)
      (messageDeclarations s outers index m) (messageDeclarations t outers index m)
  | outers, index, ⟨name, fields, nested, enums⟩ => by
      rw [messageDeclarations, messageDeclarations]
      refine .cons (.message ⟨related, rfl, rfl, rfl⟩) (List.rel_append ?_ ?_)
      · exact agree_siblingDeclarations related (outers ++ [name]) 0 nested
      · exact agree_enumDeclarations related (outers ++ [name]) 0 enums

theorem agree_siblingDeclarations (related : R s t) :
    ∀ (outers : List String) (index : Nat) (ms : List MessageDecl),
      List.Forall₂ (DeclarationsAgree R) (siblingDeclarations s outers index ms)
        (siblingDeclarations t outers index ms)
  | _, _, [] => .nil
  | outers, index, m :: ms => by
      rw [siblingDeclarations, siblingDeclarations]
      exact List.rel_append (agree_messageDeclarations related outers index m)
        (agree_siblingDeclarations related outers (index + 1) ms)

end

/-- Related files that are alike are registered alike. -/
theorem agrees_entry (related : R s t) (alike : s.Alike t) : s.entry.Agrees R t.entry := by
  have declarations : List.Forall₂ (DeclarationsAgree R) s.declarations t.declarations := by
    rw [SourceFile.declarations, SourceFile.declarations, alike.messages, alike.enums]
    exact List.rel_append (agree_siblingDeclarations related [] 0 _)
      (agree_enumDeclarations related [] 0 _)
  refine ⟨related, ?_, ?_⟩
  · refine List.rel_filterMap ?_ declarations
    rintro _ _ (messages | enums)
    · exact .some messages
    · exact .none
  · refine List.rel_filterMap ?_ declarations
    rintro _ _ (messages | enums)
    · exact .none
    · exact .some enums

end Declarations

/-- Each item of one row is related to one of the other. -/
structure Matched {α β : Type} (S : α → β → Prop) (as : List α) (bs : List β) : Prop where
  left : ∀ a ∈ as, ∃ b ∈ bs, S a b
  right : ∀ b ∈ bs, ∃ a ∈ as, S a b

theorem Matched.flatMap {α β γ δ : Type} {S : α → β → Prop} {T : γ → δ → Prop} {as : List α}
    {bs : List β} {f : α → List γ} {g : β → List δ} (matched : Matched S as bs)
    (each : ∀ a b, S a b → List.Forall₂ T (f a) (g b)) :
    Matched T (as.flatMap f) (bs.flatMap g) := by
  refine ⟨?_, ?_⟩
  · intro x member
    obtain ⟨a, inRow, held⟩ := List.mem_flatMap.mp member
    obtain ⟨b, other, related⟩ := matched.left a inRow
    obtain ⟨y, found, same⟩ := exists_of_mem_forall₂ (each a b related).flip held
    exact ⟨y, List.mem_flatMap.mpr ⟨b, other, found⟩, same⟩
  · intro y member
    obtain ⟨b, inRow, held⟩ := List.mem_flatMap.mp member
    obtain ⟨a, other, related⟩ := matched.right b inRow
    obtain ⟨x, found, same⟩ := exists_of_mem_forall₂ (each a b related) held
    exact ⟨x, List.mem_flatMap.mpr ⟨a, other, found⟩, same⟩

/-- Rows that match lead from equal names to related items, where names are distinct. -/
theorem Matched.rel_get? {α β : Type} {S : α → β → Prop} {as : List α} {bs : List β}
    {name : α → String} {name' : β → String} (matched : Matched S as bs)
    (names : ∀ a b, S a b → name a = name' b) (distinct : (as.map name).Nodup)
    (distinct' : (bs.map name').Nodup) (key : String) :
    Option.Rel S (Table.get? (as.map fun a => (name a, a)) key)
      (Table.get? (bs.map fun b => (name' b, b)) key) := by
  have keys : (Table.keys (as.map fun a => (name a, a))).Nodup := by
    rwa [Table.keys, List.map_map]
  have keys' : (Table.keys (bs.map fun b => (name' b, b))).Nodup := by
    rwa [Table.keys, List.map_map]
  cases found : Table.get? (as.map fun a => (name a, a)) key with
  | some a =>
      obtain ⟨_, member, equal⟩ := List.mem_map.mp (Table.mem_of_get? found)
      cases equal
      obtain ⟨b, other, related⟩ := matched.left a member
      rw [names a b related,
        Table.get?_of_mem keys' (List.mem_map.mpr ⟨b, other, rfl⟩)]
      exact .some related
  | none =>
      cases found' : Table.get? (bs.map fun b => (name' b, b)) key with
      | none => exact .none
      | some b =>
          obtain ⟨_, member, equal⟩ := List.mem_map.mp (Table.mem_of_get? found')
          cases equal
          obtain ⟨a, other, related⟩ := matched.right b member
          rw [← names a b related,
            Table.get?_of_mem keys (List.mem_map.mpr ⟨a, other, rfl⟩)] at found
          cases found

/-- What related files declare is the same under each name. -/
theorem agrees_of_contains (alike : ∀ s t, R s t → s.Alike t) {c d : Catalog}
    {sources sources' : List SourceFile} (contains : c.Contains sources)
    (contains' : d.Contains sources') (matched : Matched R sources sources')
    (distinct : (symbolsOf sources).Nodup) (distinct' : (symbolsOf sources').Nodup)
    (targets : c.targets = []) (targets' : d.targets = []) : c.Agrees R d := by
  obtain ⟨files, messages, enums⟩ := nodup_symbolsOf_iff.mp distinct
  obtain ⟨files', messages', enums'⟩ := nodup_symbolsOf_iff.mp distinct'
  have entries : ∀ s t, R s t → s.entry.Agrees R t.entry := fun s t related =>
    agrees_entry related (alike s t related)
  refine ⟨?_, ?_, ?_, ?_⟩
  · rw [contains.messages, contains'.messages]
    exact (matched.flatMap fun s t related => (entries s t related).messages).rel_get?
      (fun _ _ agrees => agrees.fullName alike) messages messages'
  · rw [contains.enums, contains'.enums]
    exact (matched.flatMap fun s t related => (entries s t related).enums).rel_get?
      (fun _ _ agrees => agrees.fullName alike) enums enums'
  · intro name
    have found := matched.rel_get? (fun s t related => (alike s t related).name) files files' name
    rw [contains.files, contains'.files]
    rw [Table.get?_map_value sources _ SourceFile.entry,
      Table.get?_map_value sources' _ SourceFile.entry]
    generalize Table.get? (sources.map fun s => (s.name, s)) name = a at found
    generalize Table.get? (sources'.map fun s => (s.name, s)) name = b at found
    cases found with
    | none => exact .none
    | some related => exact .some (entries _ _ related)
  · intro name
    rw [targets, targets']
    exact .none

end Contents

section Targets

variable {R : SourceFile → SourceFile → Prop} (alike : ∀ s t, R s t → s.Alike t)
  (decl : ∀ s t, R s t → s.decl = t.decl)

include alike decl

/-- Where related files have one declaration, targets are linked alike in catalogs that agree. -/
theorem agrees_linkTargets {c d : Catalog} (agrees : c.Agrees R d) (first : Option String)
    (names : List String) :
    (c.linkTargets first names).fault = (d.linkTargets first names).fault ∧
      (c.linkTargets first names).catalog.Agrees R (d.linkTargets first names).catalog := by
  induction names generalizing c d first with
  | nil => exact ⟨rfl, agrees⟩
  | cons name names ih =>
      have file := agrees.files name
      simp only [linkTargets]
      generalize c.files.get? name = a at file
      generalize d.files.get? name = b at file
      cases file with
      | none => exact ⟨rfl, agrees⟩
      | @some e f entries =>
          have same := decl _ _ entries.file
          have linked :=
            sameResult_linkFile alike agrees.messages entries (congrArg (·.services) same)
          simp only [same]
          split
          · generalize c.linkFile e = x at linked
            generalize d.linkFile f = y at linked
            cases linked with
            | error fault => exact ⟨rfl, agrees⟩
            | @ok g h targets =>
                refine ih (c := c.addTarget name g) (d := d.addTarget name h) ?_ _
                refine ⟨agrees.messages, agrees.enums, agrees.files, fun other => ?_⟩
                simp only [addTarget, Table.get?_set]
                split
                · exact .some targets
                · exact agrees.targets other
          · exact ⟨rfl, agrees⟩

end Targets

end Catalog

end HttpAdapter
