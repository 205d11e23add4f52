import HttpAdapter.Proofs.Catalog.Step

/-!
How a file that is registered comes to the name of its module.  The preferred name is tried, and if
it is taken its variants one after the other, until one can be reserved.  That takes no more tries
than one more than there are names in use, and gives the first name of this row that is available:
`register_probes`.
-/

namespace HttpAdapter.Catalog

/-- A name is free, or held by this path. -/
def Available (names : Table String) (name path : String) : Prop :=
  names.get? name = none ∨ names.get? name = some path

/-- Variants of a name are tried one after the other, from a number on, until one can be reserved:
    how many are tried, the number of the last one, and the catalog in which it is reserved. -/
inductive ProbesVariants (c : Catalog) (name path : String) : Nat → Nat → Nat → Catalog → Prop
  | given {i : Nat} {after : Catalog} :
      c.reserve (numbered name i) path = .ok after → ProbesVariants c name path i 1 i after
  | taken {i tries last : Nat} {after : Catalog} :
      c.reserve (numbered name i) path = .error (.nameTaken (numbered name i)) →
      ProbesVariants c name path (i + 1) tries last after →
      ProbesVariants c name path i (tries + 1) last after

/-- A name is tried, and if it is taken its variants from the first one on: how many names are
    tried, the variant that is reserved, if it is one, and the catalog in which it is reserved. -/
inductive ProbesNames (c : Catalog) (name path : String) : Nat → Option String → Catalog → Prop
  | given {after : Catalog} :
      c.reserve name path = .ok after → ProbesNames c name path 1 none after
  | taken {tries last : Nat} {after : Catalog} :
      c.reserve name path = .error (.nameTaken name) →
      ProbesVariants c name path 0 tries last after →
      ProbesNames c name path (tries + 1) (some (numbered name last)) after

section Probing

variable {c : Catalog} {name path : String}

theorem not_available_iff {names : Table String} :
    ¬ Available names name path ↔ HeldByOther names name path := by
  unfold Available HeldByOther
  cases names.get? name <;> simp

/-- A name that is available can be reserved. -/
theorem reserve_of_available (available : Available c.aliases name path) :
    c.reserve name path = .ok { c with aliases := c.aliases.set name path } := by
  rcases available with free | held
  · simp [reserve, free]
  · simp [reserve, held, Table.set_of_get?_eq_some held]

theorem reserve_of_heldByOther (taken : HeldByOther c.aliases name path) :
    c.reserve name path = .error (.nameTaken name) := by
  obtain ⟨holder, found, other⟩ := taken
  simp [reserve, found, other]

/-- Where `tries` variants from a number on are held by others, and the next one is available, that
    one is reserved. -/
theorem probesVariants_of_available {tries i : Nat}
    (taken : ∀ j < tries, HeldByOther c.aliases (numbered name (i + j)) path)
    (available : Available c.aliases (numbered name (i + tries)) path) :
    c.ProbesVariants name path i (tries + 1) (i + tries)
      { c with aliases := c.aliases.set (numbered name (i + tries)) path } := by
  induction tries generalizing i with
  | zero => exact .given (reserve_of_available available)
  | succ tries ih =>
      have onward : i + (tries + 1) = i + 1 + tries := by omega
      refine .taken (reserve_of_heldByOther (taken 0 (Nat.succ_pos _))) ?_
      rw [onward] at available ⊢
      refine ih (fun j below => ?_) available
      have later := taken (j + 1) (Nat.succ_lt_succ below)
      rwa [show i + (j + 1) = i + 1 + j by omega] at later

/-- A name and its variants up to a number are fewer than the names in use if others hold them. -/
theorem succ_le_length_of_heldByOther {i : Nat} (own : HeldByOther c.aliases name path)
    (smaller : ∀ j < i, HeldByOther c.aliases (numbered name j) path) :
    i + 1 ≤ c.aliases.length := by
  have apart : name ∉ (List.range i).map (numbered name) := by
    intro member
    obtain ⟨j, -, same⟩ := List.mem_map.mp member
    exact numbered_ne name j same
  have inUse : ∀ held ∈ name :: (List.range i).map (numbered name),
      HeldByOther c.aliases held path := by
    intro held member
    rcases List.mem_cons.mp member with rfl | member
    · exact own
    · obtain ⟨j, inRange, rfl⟩ := List.mem_map.mp member
      exact smaller j (List.mem_range.mp inRange)
  have distinct := List.nodup_cons.mpr ⟨apart, nodup_map_numbered name i⟩
  have bound := length_le_of_heldByOther distinct inUse
  simpa using bound

/-- The module of a file has the preferred name if that is available, and otherwise the first of its
    variants that is. -/
theorem moduleOf_cases (c : Catalog) (f : FileDecl) :
    let name := f.preferredName
    let path := c.modulePath f
    Available c.aliases name path ∧ c.moduleOf f = ⟨path, name, none⟩ ∨
      HeldByOther c.aliases name path ∧
        ∃ i, c.moduleOf f = ⟨path, name, some (numbered name i)⟩ ∧
          Available c.aliases (numbered name i) path ∧
          ∀ j < i, HeldByOther c.aliases (numbered name j) path := by
  intro name path
  cases available : c.isAvailable name path with
  | true =>
      refine Or.inl ⟨isAvailable_iff.mp available, ?_⟩
      simp [moduleOf, name, path, available]
  | false =>
      obtain ⟨first, smaller⟩ := firstNumber_spec c name path
      refine Or.inr ⟨isAvailable_eq_false_iff.mp available, c.firstNumber name path, ?_,
        isAvailable_iff.mp first, fun j below => isAvailable_eq_false_iff.mp (smaller j below)⟩
      simp [moduleOf, name, path, available]

/-- The search for the name of a module ends with that name. -/
theorem probesNames_moduleOf (c : Catalog) (f : FileDecl) :
    ∃ tries ≤ c.aliases.length + 1, c.ProbesNames f.preferredName (c.modulePath f) tries
      (c.moduleOf f).variant (c.withModule (c.moduleOf f)) := by
  rcases moduleOf_cases c f with ⟨available, found⟩ | ⟨own, i, found, available, smaller⟩
  · rw [found]
    exact ⟨1, Nat.succ_le_succ (Nat.zero_le _), .given (reserve_of_available available)⟩
  · rw [found]
    refine ⟨i + 1 + 1, Nat.succ_le_succ (succ_le_length_of_heldByOther own smaller),
      .taken (reserve_of_heldByOther own) ?_⟩
    rw [← Nat.zero_add i] at available
    have probes := probesVariants_of_available (by simpa using smaller) available
    rwa [Nat.zero_add] at probes

end Probing

section Registering

variable {c : Catalog}

theorem aliases_declare (c : Catalog) (d : Declaration) :
    (c.declare d).catalog.aliases = c.aliases := by
  cases d <;> simp only [declare] <;> split <;> rfl

theorem Registered.declare {file : SourceFile} (registered : c.Registered file)
    (d : Declaration) : (c.declare d).catalog.Registered file := by
  cases d with
  | message m =>
      simp only [Catalog.declare]
      split
      · exact registered
      · exact registered.addMessage m
  | enum e =>
      simp only [Catalog.declare]
      split
      · exact registered
      · exact registered.addEnum e

/-- A new file is registered with its module, and nothing but the name of that is given away, even
    where one of its declarations stops the rest. -/
theorem register_spec {f : FileDecl} (new : c.files.get? f.name = none) :
    (c.register f).catalog.aliases = (c.withModule (c.moduleOf f)).aliases ∧
      (c.register f).catalog.Registered ⟨f, c.moduleOf f⟩ := by
  have notIgnored : ¬ (c.files.get? f.name).isSome := by simp [new]
  rw [register, if_neg notIgnored]
  refine Outcome.each_keep (P := fun d => d.aliases = (c.withModule (c.moduleOf f)).aliases ∧
    d.Registered ⟨f, c.moduleOf f⟩) ?_ ⟨rfl, ?_⟩
  · rintro d declaration - ⟨aliases, registered⟩
    exact ⟨(aliases_declare d declaration).trans aliases, registered.declare declaration⟩
  · exact ⟨⟨⟨f, c.moduleOf f⟩, [], []⟩, by simp [SourceFile.name, Table.get?_set], rfl⟩

/-- A new file is registered with a module that prefers its name and has its path.  Its name is
    found after at most one more try than there are names in use: the preferred name if that is
    available, and otherwise the first variant that is, which is then noted as such.  It goes to the
    path, and all other names stay with those that hold them. -/
theorem register_probes (c : Catalog) (f : FileDecl) (new : c.files.get? f.name = none) :
    let name := f.preferredName
    let path := c.modulePath f
    let registered := (c.register f).catalog
    ∃ entry, registered.files.get? f.name = some entry ∧
      let m := entry.file.module
      m.name = name ∧ m.path = path ∧
      (∃ tries ≤ c.aliases.length + 1, ∃ after,
        c.ProbesNames name path tries m.variant after ∧ after.aliases = registered.aliases) ∧
      (Available c.aliases name path → m.boundName = name) ∧
      (¬ Available c.aliases name path → ∃ i, m.boundName = numbered name i ∧
        Available c.aliases (numbered name i) path ∧
        ∀ j < i, ¬ Available c.aliases (numbered name j) path) ∧
      (∀ other, registered.aliases.get? other =
        if other = m.boundName then some path else c.aliases.get? other) ∧
      (m.variant.getD "" ≠ "" ↔ HeldByOther c.aliases name path) := by
  intro name path registered
  obtain ⟨aliases, entry, found, own⟩ := register_spec new
  refine ⟨entry, found, ?_⟩
  rw [own]
  intro m
  obtain ⟨tries, few, probes⟩ := probesNames_moduleOf c f
  refine ⟨moduleOf_name c f, moduleOf_path c f, ⟨tries, few, _, probes, aliases.symm⟩, ?_⟩
  simp only [not_available_iff]
  have given (other : String) : registered.aliases.get? other =
      if other = m.boundName then some path else c.aliases.get? other := by
    rw [aliases, withModule, Table.get?_set, moduleOf_path]
    exact if_congr eq_comm rfl rfl
  rcases moduleOf_cases c f with ⟨available, chosen⟩ | ⟨taken, i, chosen, available, smaller⟩
  · have free : ¬ HeldByOther c.aliases name path := fun taken =>
      not_available_iff.mpr taken available
    have bound : m.boundName = name := congrArg (·.boundName) chosen
    have variant : m.variant = none := congrArg (·.variant) chosen
    exact ⟨fun _ => bound, fun taken => absurd taken free, given,
      iff_of_false (by simp [variant]) free⟩
  · have bound : m.boundName = numbered name i := congrArg (·.boundName) chosen
    have variant : m.variant = some (numbered name i) := congrArg (·.variant) chosen
    have full : numbered name i ≠ "" := by simp [numbered]
    exact ⟨fun available => absurd available (not_available_iff.mpr taken),
      fun _ => ⟨i, bound, available, smaller⟩, given,
      iff_of_true (by simpa [variant] using full) taken⟩

/-- Where one module is imported as `foo` and another one, of a package of that name, as `foo_0`, a
    third one of the package `foo` becomes `foo_1`. -/
theorem register_probes_third :
    let f : FileDecl := ⟨"c.proto", some "foo", none, none, [], [], [], []⟩
    let c : Catalog := { empty "" [] with aliases := [("foo", "a_pb2"), ("foo_0", "b_pb2")] }
    ∃ entry, (c.register f).catalog.files.get? "c.proto" = some entry ∧
      entry.file.module.boundName = "foo_1" ∧
      (c.register f).catalog.aliases.get? "foo_0" = some "b_pb2" ∧
      ∃ tries ≤ 3, ∃ after, c.ProbesNames "foo" "c_pb2" tries entry.file.module.variant after := by
  intro f c
  have name : f.preferredName = "foo" := by decide +kernel
  have path : c.modulePath f = "c_pb2" := by decide +kernel
  obtain ⟨entry, found, -, -, ⟨tries, few, after, probes, -⟩, -, variant, given, -⟩ :=
    register_probes c f rfl
  rw [name, path] at probes variant
  have own : ¬ Available c.aliases "foo" "c_pb2" :=
    not_available_iff.mpr ⟨"a_pb2", rfl, by decide⟩
  obtain ⟨i, bound, available, smaller⟩ := variant own
  have first : i ≠ 0 := by
    rintro rfl
    exact not_available_iff.mpr ⟨"b_pb2", by decide +kernel, by decide⟩ available
  have second : ¬ 1 < i := fun above => smaller 1 above (Or.inl (by decide +kernel))
  obtain rfl : i = 1 := by omega
  have named : entry.file.module.boundName = "foo_1" := bound.trans (by decide +kernel)
  refine ⟨entry, found, named, ?_, tries, few, after, probes⟩
  rw [given, named]
  rfl

end Registering

end HttpAdapter.Catalog
