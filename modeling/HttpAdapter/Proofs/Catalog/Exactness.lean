import HttpAdapter.Proofs.Catalog.Positions

/-!
What registering the files of a request comes to, said of the places where they declare something:
it stops exactly if two places have the same name, and otherwise the tables lead from the name of
each place to what stands there (`registration_exact`).
-/

namespace HttpAdapter

open Text

/-- The name from the root of what a file declares inside the messages `outers`. -/
def FileDecl.fullName (f : FileDecl) (outers : List String) (name : String) : String :=
  let package := if f.packageName.isEmpty then [] else [f.packageName]
  join '.' ("" :: package ++ outers ++ [name])

/-- The name of the message at a position from the root. -/
def FileDecl.messageName? (f : FileDecl) (p : Position) : Option String :=
  (f.level.at? p.path).bind fun l => l.messages[p.index]?.map fun m => f.fullName l.outers m.name

/-- The name of the enumeration at a position from the root. -/
def FileDecl.enumName? (f : FileDecl) (p : Position) : Option String :=
  (f.level.at? p.path).bind fun l => l.enums[p.index]?.map fun e => f.fullName l.outers e.name

namespace Request

variable (r : Request)

/-- The name of a file of a request. -/
def fileName? (i : ℕ) : Option String := r.files[i]?.map (·.name)

/-- The name of the message at a position of a file. -/
def messageName? (place : ℕ × Position) : Option String :=
  r.files[place.1]?.bind (·.messageName? place.2)

/-- The name of the enumeration at a position of a file. -/
def enumName? (place : ℕ × Position) : Option String :=
  r.files[place.1]?.bind (·.enumName? place.2)

/-- Two files have the same name, or two of their messages, or two of their enumerations. -/
def Clashes : Prop := Repeats r.fileName? ∨ Repeats r.messageName? ∨ Repeats r.enumName?

end Request

/-- The entry of a message at a position of a file that is registered. -/
def Catalog.messageAt? (c : Catalog) (r : Request) (place : ℕ × Position) : Option MessageEntry :=
  r.files[place.1]?.bind fun f => (c.files.get? f.name).bind (·.file.messageAt? place.2)

/-- The entry of an enumeration at a position of a file that is registered. -/
def Catalog.enumAt? (c : Catalog) (r : Request) (place : ℕ × Position) : Option EnumEntry :=
  r.files[place.1]?.bind fun f => (c.files.get? f.name).bind (·.file.enumAt? place.2)

/-- A table leads from the names of what stands at some places to just that, and no two places
    share a name. -/
structure Table.Indexes {ι α : Type} (t : Table α) (name : α → String) (at? : ι → Option α) :
    Prop where
  keys : t.keys.Nodup
  found : ∀ i a, at? i = some a → t.get? (name a) = some a
  only : ∀ key a, t.get? key = some a → name a = key ∧ ∃ i, at? i = some a
  apart : ¬ Repeats fun i => (at? i).map name

/-- Whether a fault says that something is declared twice. -/
def Fault.isDuplicate : Fault → Bool
  | .duplicateFile _ => true
  | .duplicateMessage _ => true
  | .duplicateEnum _ => true
  | _ => false

section Rows

variable {ι α φ : Type}

/-- Rows of items that are listed by places are listed by those places behind the number of the
    row. -/
theorem lists_flatMap {key : ι → List (WithTop ℕ)} {at? : φ → ι → Option α} {items : φ → List α}
    {rows : List φ} (each : ∀ row ∈ rows, Lists key (at? row) (items row)) :
    Lists (fun place : ℕ × ι => WithTop.some place.1 :: key place.2)
      (fun place => rows[place.1]?.bind (at? · place.2)) (rows.flatMap items) := by
  induction rows with
  | nil => exact ⟨[], .nil, fun i => by simp, rfl⟩
  | cons row rows ih =>
      obtain ⟨first, others⟩ := List.forall_mem_cons.mp each
      obtain ⟨here, sorted, complete, equal⟩ := first
      obtain ⟨later, sortedLater, completeLater, equalLater⟩ := ih others
      refine ⟨here.map (0, ·) ++ later.map fun place => (place.1 + 1, place.2), ?_, ?_, ?_⟩
      · refine List.pairwise_append.mpr ⟨List.pairwise_map.mpr ?_, List.pairwise_map.mpr ?_, ?_⟩
        · exact sorted.imp fun before => List.cons_lt_cons_iff.mpr (Or.inr ⟨rfl, before⟩)
        · refine sortedLater.imp fun before => ?_
          rcases List.cons_lt_cons_iff.mp before with less | ⟨same, less⟩
          · rw [WithTop.coe_lt_coe] at less
            exact List.cons_lt_cons_iff.mpr (Or.inl (WithTop.coe_lt_coe.mpr (by omega)))
          · rw [WithTop.coe_inj] at same
            exact List.cons_lt_cons_iff.mpr
              (Or.inr ⟨congrArg (fun i => WithTop.some (i + 1)) same, less⟩)
        · intro p left q right
          obtain ⟨i, -, rfl⟩ := List.mem_map.mp left
          obtain ⟨place, -, rfl⟩ := List.mem_map.mp right
          exact List.cons_lt_cons_iff.mpr (Or.inl (WithTop.coe_lt_coe.mpr (Nat.succ_pos _)))
      · rintro ⟨_ | n, i⟩
        · simp [complete]
        · have there := completeLater (n, i)
          simp only [List.mem_append, List.mem_map, Prod.mk.injEq, List.getElem?_cons_succ]
          rw [← there]
          constructor
          · rintro (⟨j, -, absurd, -⟩ | ⟨place, member, number, rfl⟩)
            · omega
            · obtain rfl := Nat.succ.inj number
              exact member
          · exact fun member => Or.inr ⟨(n, i), member, rfl, rfl⟩
      · rw [List.map_append, List.map_map, List.map_map, List.flatMap_cons, List.map_append,
          ← equal, ← equalLater]
        rfl

theorem lists_map (items : List φ) (f : φ → α) :
    Lists id (fun i : ℕ => items[i]?.map f) (items.map f) := by
  refine ⟨List.range items.length, List.pairwise_lt_range, fun i => ?_, ?_⟩
  · simp
  · refine List.ext_getElem? fun i => ?_
    by_cases bound : i < items.length
    · simp [bound]
    · simp [bound]

/-- Places with distinct names index a table of what stands there. -/
theorem indexes_of_lists {κ : Type} [Preorder κ] {key : ι → κ} {at? : ι → Option α}
    {items : List α} {name : α → String} (lists : Lists key at? items)
    (distinct : (items.map name).Nodup) :
    Table.Indexes (items.map fun a => (name a, a)) name at? := by
  have keys : (Table.keys (items.map fun a => (name a, a))).Nodup := by
    rw [Table.keys, List.map_map]
    exact distinct
  refine ⟨keys, ?_, ?_, (lists.map name).nodup_iff.mp distinct⟩
  · intro i a held
    exact Table.get?_of_mem keys (List.mem_map.mpr ⟨a, lists.mem_iff.mpr ⟨i, held⟩, rfl⟩)
  · intro k a found
    obtain ⟨b, member, equal⟩ := List.mem_map.mp (Table.mem_of_get? found)
    cases equal
    exact ⟨rfl, lists.mem_iff.mp member⟩

end Rows

section Symbols

/-- The name of a file. -/
def Symbol.file? : Symbol → Option String
  | .file name => some name
  | _ => none

/-- The name of a message. -/
def Symbol.message? : Symbol → Option String
  | .message name => some name
  | _ => none

/-- The name of an enumeration. -/
def Symbol.enum? : Symbol → Option String
  | .enum name => some name
  | _ => none

theorem mem_filterMap_iff (name? : Symbol → Option String) (symbol : String → Symbol)
    (inverse : ∀ s name, name? s = some name ↔ s = symbol name) (symbols : List Symbol)
    (name : String) : name ∈ symbols.filterMap name? ↔ symbol name ∈ symbols := by
  simp [List.mem_filterMap, inverse]

/-- Symbols are distinct exactly if those of each kind are. -/
theorem nodup_symbols_iff {symbols : List Symbol} :
    symbols.Nodup ↔ (symbols.filterMap Symbol.file?).Nodup ∧
      (symbols.filterMap Symbol.message?).Nodup ∧ (symbols.filterMap Symbol.enum?).Nodup := by
  induction symbols with
  | nil => simp
  | cons s symbols ih =>
      rw [List.nodup_cons, ih]
      cases s with
      | file name =>
          have known := mem_filterMap_iff Symbol.file? Symbol.file
            (by rintro (_ | _ | _) other <;> simp [Symbol.file?]) symbols name
          simp only [List.filterMap_cons, Symbol.file?, Symbol.message?, Symbol.enum?,
            List.nodup_cons, known, and_assoc]
      | message name =>
          have known := mem_filterMap_iff Symbol.message? Symbol.message
            (by rintro (_ | _ | _) other <;> simp [Symbol.message?]) symbols name
          simp only [List.filterMap_cons, Symbol.file?, Symbol.message?, Symbol.enum?,
            List.nodup_cons, known]
          tauto
      | enum name =>
          have known := mem_filterMap_iff Symbol.enum? Symbol.enum
            (by rintro (_ | _ | _) other <;> simp [Symbol.enum?]) symbols name
          simp only [List.filterMap_cons, Symbol.file?, Symbol.message?, Symbol.enum?,
            List.nodup_cons, known]
          tauto

section Sources

variable {sources : List SourceFile}

/-- What files declare. -/
def symbolsOf (sources : List SourceFile) : List Symbol := sources.flatMap (·.decl.symbols)

theorem filterMap_file?_symbolsOf :
    (symbolsOf sources).filterMap Symbol.file? = sources.map (·.name) := by
  induction sources with
  | nil => rfl
  | cons s sources ih =>
      have none : (s.declarations.map (·.symbol)).filterMap Symbol.file? = [] := by
        rw [List.filterMap_eq_nil_iff]
        intro symbol member
        obtain ⟨d | d, -, rfl⟩ := List.mem_map.mp member <;> rfl
      rw [symbolsOf, List.flatMap_cons, symbols_eq, List.filterMap_append, List.filterMap_cons,
        none]
      exact congrArg (s.name :: ·) ih

/-- The names of one kind are those of the entries of that kind. -/
theorem filterMap_symbolsOf {α : Type} (name? : Symbol → Option String)
    (part? : Declaration → Option α) (name : α → String) (files : ∀ n, name? (.file n) = none)
    (same : ∀ d : Declaration, name? d.symbol = (part? d).map name) :
    (symbolsOf sources).filterMap name? =
      (sources.flatMap fun s => s.declarations.filterMap part?).map name := by
  induction sources with
  | nil => rfl
  | cons s sources ih =>
      have here : (s.declarations.map (·.symbol)).filterMap name? =
          (s.declarations.filterMap part?).map name := by
        rw [List.filterMap_map, List.map_filterMap]
        exact List.filterMap_congr fun d _ => same d
      rw [symbolsOf, List.flatMap_cons, symbols_eq, List.filterMap_append, List.filterMap_cons,
        files, here, List.flatMap_cons, List.map_append]
      exact congrArg (_ ++ ·) ih

theorem nodup_symbolsOf_iff :
    (symbolsOf sources).Nodup ↔ (sources.map (·.name)).Nodup ∧
      ((sources.flatMap (·.messages)).map (·.fullName)).Nodup ∧
      ((sources.flatMap (·.enums)).map (·.fullName)).Nodup := by
  rw [nodup_symbols_iff, filterMap_file?_symbolsOf,
    filterMap_symbolsOf Symbol.message? Declaration.message? MessageEntry.fullName (fun _ => rfl)
      (by rintro (d | d) <;> rfl),
    filterMap_symbolsOf Symbol.enum? Declaration.enum? EnumEntry.fullName (fun _ => rfl)
      (by rintro (d | d) <;> rfl)]
  rfl

end Sources

end Symbols

namespace Catalog

section Faults

/-- What registering symbols stops with says that one of them is declared twice. -/
theorem isDuplicate_symbol (s : Symbol) : s.fault.isDuplicate := by
  cases s <;> rfl

variable {c : Catalog}

theorem not_isDuplicate_message {location name : String} {fault : Fault}
    (failure : c.message location name = .error fault) : ¬ fault.isDuplicate := by
  unfold message at failure
  split at failure
  · cases failure
  · cases failure
    simp [Fault.isDuplicate]

theorem not_isDuplicate_messageOf {f : FieldEntry} {fault : Fault}
    (failure : c.messageOf f = .error fault) : ¬ fault.isDuplicate := by
  unfold messageOf at failure
  split at failure
  · exact not_isDuplicate_message failure
  · cases failure
    simp [Fault.isDuplicate]

theorem not_isDuplicate_follow {path : String} {m : MessageEntry} {names : List String}
    {fault : Fault} (failure : c.follow path m names = .error fault) : ¬ fault.isDuplicate := by
  induction names generalizing m with
  | nil => cases failure
  | cons name names ih =>
      unfold follow at failure
      split at failure
      · cases failure
        simp [Fault.isDuplicate]
      · rename_i f found
        split at failure
        · split at failure
          · rename_i other missing
            cases failure
            exact not_isDuplicate_messageOf missing
          · rename_i next _
            cases rest : c.follow path next names with
            | error other =>
                rw [rest] at failure
                cases failure
                exact ih rest
            | ok fields =>
                rw [rest] at failure
                cases failure
        · split at failure
          · cases failure
          · cases failure
            simp [Fault.isDuplicate]

theorem mem_faults {ε α : Type} {x : Except ε α} {fault : ε} :
    fault ∈ faults x ↔ x = .error fault := by
  cases x <;> simp [faults, eq_comm]

theorem not_isDuplicate_methodFaults {package : String} {m : MethodDecl} {fault : Fault}
    (member : fault ∈ c.methodFaults package m) : ¬ fault.isDuplicate := by
  have path {request : MessageEntry} {path : String}
      (member : fault ∈ c.pathFaults request path) : ¬ fault.isDuplicate := by
    obtain ⟨name, -, failed⟩ := List.mem_flatMap.mp member
    exact not_isDuplicate_follow (mem_faults.mp failed)
  rw [methodFaults, List.mem_append, List.mem_append] at member
  rcases member with (request | response) | rules
  · exact not_isDuplicate_message (mem_faults.mp request)
  · exact not_isDuplicate_message (mem_faults.mp response)
  · obtain ⟨request, -, rules⟩ := List.mem_flatMap.mp rules
    obtain ⟨r, -, rule⟩ := List.mem_flatMap.mp rules
    unfold ruleFaults at rule
    split at rule
    · rw [List.mem_singleton] at rule
      simp [rule, Fault.isDuplicate]
    · exact path rule
    · split at rule
      · rw [List.mem_singleton] at rule
        simp [rule, Fault.isDuplicate]
      · exact path rule

theorem not_isDuplicate_targetFaults {file? : String → Option FileDecl} {package name : String}
    {fault : Fault} (member : fault ∈ c.targetFaults file? package name) :
    ¬ fault.isDuplicate := by
  unfold targetFaults at member
  split at member
  · rw [List.mem_singleton] at member
    simp [member, Fault.isDuplicate]
  · rcases List.mem_append.mp member with inconsistent | linking
    · split at inconsistent
      · cases inconsistent
      · rw [List.mem_singleton] at inconsistent
        simp [inconsistent, Fault.isDuplicate]
    · obtain ⟨m, -, failed⟩ := List.mem_flatMap.mp linking
      exact not_isDuplicate_methodFaults failed

/-- Linking never stops because something is declared twice. -/
theorem not_isDuplicate_linkTargets {first : Option String} {names : List String} {fault : Fault}
    (stopped : (c.linkTargets first names).fault = some fault) : ¬ fault.isDuplicate := by
  rw [linkTargets_fault rfl] at stopped
  obtain ⟨name, -, member⟩ := List.mem_flatMap.mp (List.mem_of_mem_head? stopped)
  exact not_isDuplicate_targetFaults member

end Faults

section Registered

variable {c : Catalog}

theorem symbolsOf_sourcesOf (c : Catalog) (fs : List FileDecl) :
    symbolsOf (c.sourcesOf fs) = fs.flatMap (·.symbols) := by
  conv_rhs => rw [← map_decl_sourcesOf c fs]
  rw [symbolsOf, List.flatMap_map]

theorem fileName?_eq (c : Catalog) (r : Request) :
    r.fileName? = fun i => ((c.sourcesOf r.files)[i]?).map (·.name) := by
  funext i
  rw [Request.fileName?, ← congrArg (·[i]?) (map_decl_sourcesOf c r.files)]
  simp [SourceFile.name, Function.comp_def]

theorem messageName?_decl (s : SourceFile) (p : Position) :
    s.decl.messageName? p = (s.messageAt? p).map (·.fullName) := by
  rw [FileDecl.messageName?, SourceFile.messageAt?, Option.map_bind]
  simp only [Function.comp_def, Option.map_map]
  rfl

theorem enumName?_decl (s : SourceFile) (p : Position) :
    s.decl.enumName? p = (s.enumAt? p).map (·.fullName) := by
  rw [FileDecl.enumName?, SourceFile.enumAt?, Option.map_bind]
  simp only [Function.comp_def, Option.map_map]
  rfl

theorem messageName?_eq (c : Catalog) (r : Request) :
    r.messageName? = fun place => (((c.sourcesOf r.files)[place.1]?).bind
      (·.messageAt? place.2)).map (·.fullName) := by
  funext place
  rw [Request.messageName?, ← congrArg (·[place.1]?) (map_decl_sourcesOf c r.files),
    List.getElem?_map]
  cases (c.sourcesOf r.files)[place.1]? with
  | none => rfl
  | some s => exact messageName?_decl s place.2

theorem enumName?_eq (c : Catalog) (r : Request) :
    r.enumName? = fun place => (((c.sourcesOf r.files)[place.1]?).bind
      (·.enumAt? place.2)).map (·.fullName) := by
  funext place
  rw [Request.enumName?, ← congrArg (·[place.1]?) (map_decl_sourcesOf c r.files),
    List.getElem?_map]
  cases (c.sourcesOf r.files)[place.1]? with
  | none => rfl
  | some s => exact enumName?_decl s place.2

theorem lists_sources_messages (sources : List SourceFile) :
    Lists (fun place : ℕ × Position => WithTop.some place.1 :: place.2.opening)
      (fun place => sources[place.1]?.bind (·.messageAt? place.2)) (sources.flatMap (·.messages)) :=
  lists_flatMap fun s _ => lists_messages s

theorem lists_sources_enums (sources : List SourceFile) :
    Lists (fun place : ℕ × Position => WithTop.some place.1 :: place.2.closing)
      (fun place => sources[place.1]?.bind (·.enumAt? place.2)) (sources.flatMap (·.enums)) :=
  lists_flatMap fun s _ => lists_enums s

/-- The symbols of files are distinct exactly if no names clash. -/
theorem nodup_symbols_files_iff (c : Catalog) (r : Request) :
    (r.files.flatMap (·.symbols)).Nodup ↔ ¬ r.Clashes := by
  rw [← symbolsOf_sourcesOf c, nodup_symbolsOf_iff, Request.Clashes, fileName?_eq c,
    messageName?_eq c, enumName?_eq c, not_or, not_or]
  exact and_congr (lists_map _ _).nodup_iff (and_congr
    ((lists_sources_messages _).map _).nodup_iff ((lists_sources_enums _).map _).nodup_iff)

/-- Registering files stops exactly if names clash, and then because of that. -/
theorem registerAll_fault_isSome_iff (exact : c.HasExactly []) (r : Request) :
    (Outcome.each register c r.files).fault.isSome ↔ r.Clashes := by
  rw [(declares_registerAll exact r.files).fault, Option.isSome_map, ← not_iff_not,
    ← nodup_symbols_files_iff c, ← repeated_nil_eq_nil_iff, Option.not_isSome_iff_eq_none,
    List.head?_eq_none_iff]

theorem isDuplicate_registerAll (exact : c.HasExactly []) {r : Request} {fault : Fault}
    (stopped : (Outcome.each register c r.files).fault = some fault) : fault.isDuplicate := by
  rw [(declares_registerAll exact r.files).fault] at stopped
  obtain ⟨s, -, rfl⟩ := Option.map_eq_some_iff.mp stopped
  exact isDuplicate_symbol s

/-- A load stops because something is declared twice exactly if registering its files stops. -/
theorem registerAll_fault_iff (fresh : c.loaded = false) (exact : c.HasExactly []) (r : Request)
    (fault : Fault) : (Outcome.each register c r.files).fault = some fault ↔
      (c.load r).fault = some fault ∧ fault.isDuplicate := by
  rw [load_fault fresh, Option.or_eq_some_iff]
  constructor
  · intro stopped
    exact ⟨Or.inl stopped, isDuplicate_registerAll exact stopped⟩
  · rintro ⟨stopped | ⟨-, linking⟩, duplicate⟩
    · exact stopped
    · exact absurd duplicate (not_isDuplicate_linkTargets linking)

/-- Where no names clash, a load leaves just what its files declare in the catalog. -/
theorem contains_load (fresh : c.loaded = false) (exact : c.HasExactly []) (empty : c.Contains [])
    {r : Request} (apart : ¬ r.Clashes) :
    (c.load r).catalog.Contains (c.sourcesOf r.files) := by
  have success : (Outcome.each register c r.files).fault = none := by
    rw [← Option.not_isSome_iff_eq_none, registerAll_fault_isSome_iff exact]
    exact apart
  have registered := contains_registerAll empty success
  have same := sameTables_load fresh r
  rw [List.nil_append] at registered
  exact ⟨same.files.trans registered.files, same.messages.trans registered.messages,
    same.enums.trans registered.enums⟩

/-- What a name leads to among files of distinct names. -/
theorem Contains.files_get? {sources : List SourceFile} (contains : c.Contains sources)
    (distinct : (sources.map (·.name)).Nodup) {s : SourceFile} (member : s ∈ sources) :
    c.files.get? s.name = some s.entry := by
  rw [contains.files]
  refine Table.get?_of_mem ?_ (List.mem_map.mpr ⟨s, member, rfl⟩)
  rw [Table.keys, List.map_map]
  exact distinct

theorem Contains.bind_files {α : Type} {r : Request} {sources : List SourceFile}
    (contains : c.Contains sources) (distinct : (sources.map (·.name)).Nodup)
    (files : sources.map (·.decl) = r.files) (at? : SourceFile → Position → Option α)
    (place : ℕ × Position) :
    (r.files[place.1]?.bind fun f => (c.files.get? f.name).bind (at? ·.file place.2)) =
      sources[place.1]?.bind (at? · place.2) := by
  rw [← congrArg (·[place.1]?) files, List.getElem?_map]
  cases found : sources[place.1]? with
  | none => rfl
  | some s =>
      have registered := contains.files_get? distinct (List.mem_of_getElem? found)
      exact congrArg (Option.bind · (at? ·.file place.2)) registered

/-- Registering the files of a request stops exactly if two files, two messages or two enumerations
    at different places have one name, and these are the loads that stop because something is
    declared twice.  Otherwise the catalog has the files in their order, each with its messages,
    outer before inner, and its enumerations, those of nested messages before those beside them;
    and the names of all places lead to what stands there. -/
theorem registration_exact (importPrefix : String) (packageMap : Table String) (r : Request) :
    let start := empty importPrefix packageMap
    let registered := Outcome.each register start r.files
    let c := (start.load r).catalog
    (registered.fault.isSome ↔ r.Clashes) ∧
    (∀ fault, registered.fault = some fault ↔
      (start.load r).fault = some fault ∧ fault.isDuplicate) ∧
    (¬ r.Clashes →
      c.files.keys = r.files.map (·.name) ∧
      (∀ f ∈ r.files, ∃ entry, c.files.get? f.name = some entry ∧ entry.file.decl = f ∧
        Lists Position.opening entry.file.messageAt? entry.messages ∧
        Lists Position.closing entry.file.enumAt? entry.enums) ∧
      c.messages.Indexes (·.fullName) (c.messageAt? r) ∧
      c.enums.Indexes (·.fullName) (c.enumAt? r)) := by
  intro start registered c
  have exact : start.HasExactly [] := hasExactly_empty importPrefix packageMap
  refine ⟨registerAll_fault_isSome_iff exact r, registerAll_fault_iff rfl exact r, ?_⟩
  intro apart
  have contains : c.Contains (start.sourcesOf r.files) :=
    contains_load rfl exact (contains_empty importPrefix packageMap) apart
  have files := map_decl_sourcesOf start r.files
  have distinct := (nodup_symbols_files_iff start r).mpr apart
  rw [← symbolsOf_sourcesOf start, nodup_symbolsOf_iff] at distinct
  obtain ⟨names, messages, enums⟩ := distinct
  refine ⟨?_, ?_, ?_, ?_⟩
  · conv_rhs => rw [← files]
    rw [contains.files, Table.keys, List.map_map, List.map_map]
    rfl
  · intro f member
    rw [← files] at member
    obtain ⟨s, source, rfl⟩ := List.mem_map.mp member
    exact ⟨s.entry, contains.files_get? names source, rfl, lists_messages s, lists_enums s⟩
  · have places : c.messageAt? r = fun place =>
        (start.sourcesOf r.files)[place.1]?.bind (·.messageAt? place.2) :=
      funext (contains.bind_files names files SourceFile.messageAt?)
    rw [contains.messages, places]
    exact indexes_of_lists (lists_sources_messages _) messages
  · have places : c.enumAt? r = fun place =>
        (start.sourcesOf r.files)[place.1]?.bind (·.enumAt? place.2) :=
      funext (contains.bind_files names files SourceFile.enumAt?)
    rw [contains.enums, places]
    exact indexes_of_lists (lists_sources_enums _) enums

/-- A message and an enumeration share a name, which is no clash.  The names of two messages clash
    where the package of one leads to the same place as the message around the other. -/
theorem registration_exact_two_requests :
    let inner : MessageDecl := ⟨"Inner", [], [], [⟨"E"⟩]⟩
    let outer : MessageDecl := ⟨"Outer", [], [inner], [⟨"E"⟩]⟩
    let r : Request := ⟨"", [], [⟨"a.proto", some "p", none, none, [outer], [⟨"Outer"⟩], [], []⟩]⟩
    let s : Request := ⟨"", [], r.files ++
      [⟨"b.proto", some "p.Outer", none, none, [inner], [], [], []⟩]⟩
    let c := ((empty "" []).load r).catalog
    ¬ r.Clashes ∧ c.messages.Indexes (·.fullName) (c.messageAt? r) ∧
      (c.messages.get? ".p.Outer.Inner").map (fun m => (m.outers, m.index)) = some (["Outer"], 0) ∧
      c.enums.keys = [".p.Outer.Inner.E", ".p.Outer.E", ".p.Outer"] ∧
      s.Clashes ∧ ((empty "" []).load s).fault = some (.duplicateMessage ".p.Outer.Inner") := by
  intro inner outer r s c
  have apart : ¬ r.Clashes := by
    rw [← (registration_exact "" [] r).1]
    decide +kernel
  obtain ⟨-, -, messages, -⟩ := (registration_exact "" [] r).2.2 apart
  refine ⟨apart, messages, by decide +kernel, by decide +kernel, ?_, by decide +kernel⟩
  exact (registration_exact "" [] s).1.mp (by decide +kernel)

end Registered

end Catalog

end HttpAdapter
