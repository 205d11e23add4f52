import HttpAdapter.Proofs.Catalog.Contents
import Mathlib.Data.List.Lex
import Mathlib.Data.List.Nodup
import Mathlib.Order.WithBot

/-!
The places where a file declares messages and enumerations, and the order in which it declares
them: messages outer before inner, and the enumerations inside a message behind those that its
nested messages hold (`lists_messages`, `lists_enums`).
-/

namespace HttpAdapter

/-- What is declared side by side inside the messages `outers`, outermost first. -/
structure Level where
  outers : List String
  messages : List MessageDecl
  enums : List EnumDecl

/-- What is declared inside a message of a level. -/
def Level.inside (l : Level) (m : MessageDecl) : Level := ⟨l.outers ++ [m.name], m.nested, m.enums⟩

/-- The level that the numbers of messages lead to, each among its siblings. -/
def Level.at? (l : Level) : List Nat → Option Level
  | [] => some l
  | i :: path => l.messages[i]?.bind fun m => (l.inside m).at? path

/-- What a file declares outside of messages. -/
def FileDecl.level (f : FileDecl) : Level := ⟨[], f.messages, f.enums⟩

/-- A place among siblings: the numbers of the messages around it, outermost first, and its own
    number. -/
structure Position where
  path : List Nat
  index : Nat
  deriving DecidableEq, Repr

/-- Sorts messages by where they begin: behind the messages around them. -/
def Position.opening (p : Position) : List (WithTop ℕ) := p.path.map WithTop.some ++ [.some p.index]

/-- Sorts enumerations by where they stand: behind all messages beside them. -/
def Position.closing (p : Position) : List (WithTop ℕ) :=
  p.path.map WithTop.some ++ [⊤, .some p.index]

/-- The message at a position. -/
def SourceFile.messageAt? (s : SourceFile) (p : Position) : Option MessageEntry :=
  (s.decl.level.at? p.path).bind fun l =>
    l.messages[p.index]?.map fun m => ⟨s, l.outers, m, p.index⟩

/-- The enumeration at a position. -/
def SourceFile.enumAt? (s : SourceFile) (p : Position) : Option EnumEntry :=
  (s.decl.level.at? p.path).bind fun l =>
    l.enums[p.index]?.map fun e => ⟨s, l.outers, e, p.index⟩

section Lists

variable {ι κ α β : Type} [Preorder κ]

/-- The items are those at the places that hold one, each once, in the order of the places. -/
def Lists (key : ι → κ) (at? : ι → Option α) (items : List α) : Prop :=
  ∃ places : List ι, places.Pairwise (key · < key ·) ∧ (∀ i, i ∈ places ↔ (at? i).isSome) ∧
    places.map at? = items.map some

/-- Two places hold the same. -/
def Repeats (at? : ι → Option α) : Prop := ∃ i j a, i ≠ j ∧ at? i = some a ∧ at? j = some a

theorem Lists.map {key : ι → κ} {at? : ι → Option α} {items : List α}
    (lists : Lists key at? items) (f : α → β) :
    Lists key (fun i => (at? i).map f) (items.map f) := by
  obtain ⟨places, sorted, complete, equal⟩ := lists
  refine ⟨places, sorted, fun i => ?_, ?_⟩
  · rw [complete, Option.isSome_map]
  · have mapped := congrArg (List.map (Option.map f)) equal
    simp only [List.map_map, Function.comp_def, Option.map_some] at mapped ⊢
    exact mapped

theorem Lists.nodup_places {key : ι → κ} {places : List ι}
    (sorted : places.Pairwise (key · < key ·)) : places.Nodup :=
  sorted.imp (S := (· ≠ ·)) fun before same => lt_irrefl _ (same ▸ before)

/-- What is listed is distinct unless two places hold the same. -/
theorem Lists.nodup_iff {key : ι → κ} {at? : ι → Option α} {items : List α}
    (lists : Lists key at? items) : items.Nodup ↔ ¬ Repeats at? := by
  obtain ⟨places, sorted, complete, equal⟩ := lists
  rw [← List.nodup_map_iff (Option.some_injective α), ← equal,
    List.nodup_map_iff_inj_on (nodup_places sorted)]
  constructor
  · rintro injective ⟨i, j, a, different, left, right⟩
    refine different (injective i ?_ j ?_ (left.trans right.symm))
    · simp [complete, left]
    · simp [complete, right]
  · intro unique i first j second same
    obtain ⟨a, held⟩ := Option.isSome_iff_exists.mp ((complete i).mp first)
    by_contra different
    exact unique ⟨i, j, a, different, held, same ▸ held⟩

theorem Lists.mem_iff {key : ι → κ} {at? : ι → Option α} {items : List α}
    (lists : Lists key at? items) {a : α} : a ∈ items ↔ ∃ i, at? i = some a := by
  obtain ⟨places, sorted, complete, equal⟩ := lists
  have same : a ∈ items ↔ some a ∈ places.map at? := by
    rw [equal, List.mem_map_of_injective (Option.some_injective α)]
  rw [same, List.mem_map]
  constructor
  · rintro ⟨i, -, held⟩
    exact ⟨i, held⟩
  · rintro ⟨i, held⟩
    exact ⟨i, (complete i).mpr (by rw [held, Option.isSome_some]), held⟩

end Lists

/-- Where items of two rows agree in what they lead to, so do all that the rows lead to. -/
theorem map_filterMap_of_forall₂ {α β γ δ : Type} {f : α → Option γ} {g : β → Option δ}
    {at? : γ → Option δ} {as : List α} {bs : List β}
    (related : List.Forall₂ (fun a b => (f a).map at? = (g b).map some) as bs) :
    (as.filterMap f).map at? = (bs.filterMap g).map some := by
  rw [List.map_filterMap, List.map_filterMap]
  induction related with
  | nil => rfl
  | cons first _ ih => rw [List.filterMap_cons, List.filterMap_cons, first, ih]

/-- The place of a declaration. -/
inductive Slot where
  | message (p : Position)
  | enum (p : Position)

namespace Slot

/-- The place inside message number `i`. -/
def below (i : Nat) : Slot → Slot
  | message p => message ⟨i :: p.path, p.index⟩
  | enum p => enum ⟨i :: p.path, p.index⟩

/-- Sorts declarations. -/
def key : Slot → List (WithTop ℕ)
  | message p => p.opening
  | enum p => p.closing

/-- The numbers of the messages around a place. -/
def path : Slot → List Nat
  | message p => p.path
  | enum p => p.path

/-- The position of a message. -/
def message? : Slot → Option Position
  | message p => some p
  | enum _ => none

/-- The position of an enumeration. -/
def enum? : Slot → Option Position
  | message _ => none
  | enum p => some p

theorem key_below (i : Nat) (s : Slot) : (s.below i).key = .some i :: s.key := by
  cases s <;> rfl

theorem key_ne_nil (s : Slot) : s.key ≠ [] := by
  cases s <;> simp [key, Position.opening, Position.closing]

end Slot

/-- The places of enumerations declared side by side, numbered from `index` on. -/
def enumSlots (index : Nat) : List EnumDecl → List Slot
  | [] => []
  | _ :: es => .enum ⟨[], index⟩ :: enumSlots (index + 1) es

mutual

/-- The places of what a message declares in the order of its declarations. -/
def messageSlots (index : Nat) : MessageDecl → List Slot
  | ⟨_, _, nested, enums⟩ =>
      .message ⟨[], index⟩ :: (siblingSlots 0 nested ++ enumSlots 0 enums).map (·.below index)

/-- The places of what messages declare, numbered from `index` on. -/
def siblingSlots (index : Nat) : List MessageDecl → List Slot
  | [] => []
  | m :: ms => messageSlots index m ++ siblingSlots (index + 1) ms

end

/-- The places of what a level declares. -/
def Level.slots (l : Level) : List Slot := siblingSlots 0 l.messages ++ enumSlots 0 l.enums

theorem messageSlots_eq (l : Level) (index : Nat) (m : MessageDecl) :
    messageSlots index m = .message ⟨[], index⟩ :: (l.inside m).slots.map (·.below index) := by
  cases m
  rw [messageSlots, Level.slots, Level.inside]

section Order

theorem mem_siblingSlots {index : Nat} {ms : List MessageDecl} {s : Slot} :
    s ∈ siblingSlots index ms ↔ ∃ i m, ms[i]? = some m ∧ s ∈ messageSlots (index + i) m := by
  induction ms generalizing index with
  | nil => simp [siblingSlots]
  | cons m ms ih =>
      rw [siblingSlots, List.mem_append, ih]
      constructor
      · rintro (here | ⟨i, n, found, there⟩)
        · exact ⟨0, m, rfl, here⟩
        · exact ⟨i + 1, n, found, by rwa [Nat.add_comm i 1, ← Nat.add_assoc]⟩
      · rintro ⟨i, n, found, member⟩
        cases i with
        | zero =>
            cases found
            exact Or.inl member
        | succ i => exact Or.inr ⟨i, n, found, by rwa [Nat.add_comm i 1, ← Nat.add_assoc] at member⟩

theorem mem_enumSlots {index : Nat} {es : List EnumDecl} {s : Slot} :
    s ∈ enumSlots index es ↔ ∃ i < es.length, s = .enum ⟨[], index + i⟩ := by
  induction es generalizing index with
  | nil => simp [enumSlots]
  | cons e es ih =>
      rw [enumSlots, List.mem_cons, ih]
      constructor
      · rintro (rfl | ⟨i, bound, rfl⟩)
        · exact ⟨0, Nat.succ_pos _, rfl⟩
        · exact ⟨i + 1, Nat.succ_lt_succ bound, by rw [Nat.add_comm i 1, ← Nat.add_assoc]⟩
      · rintro ⟨i, bound, rfl⟩
        cases i with
        | zero => exact Or.inl rfl
        | succ i =>
            refine Or.inr ⟨i, Nat.lt_of_succ_lt_succ bound, ?_⟩
            rw [Nat.add_comm i 1, ← Nat.add_assoc]

/-- All that a message declares sorts under its number. -/
theorem key_of_mem_messageSlots {index : Nat} {m : MessageDecl} {s : Slot}
    (member : s ∈ messageSlots index m) : ∃ rest, s.key = .some index :: rest := by
  rw [messageSlots_eq ⟨[], [], []⟩, List.mem_cons, List.mem_map] at member
  rcases member with rfl | ⟨inner, -, rfl⟩
  · exact ⟨[], rfl⟩
  · exact ⟨inner.key, inner.key_below index⟩

theorem key_of_mem_siblingSlots {index : Nat} {ms : List MessageDecl} {s : Slot}
    (member : s ∈ siblingSlots index ms) :
    ∃ i : Nat, index ≤ i ∧ ∃ rest, s.key = .some i :: rest := by
  obtain ⟨i, m, -, inside⟩ := mem_siblingSlots.mp member
  exact ⟨index + i, Nat.le_add_right index i, key_of_mem_messageSlots inside⟩

theorem sorted_enumSlots (index : Nat) (es : List EnumDecl) :
    (enumSlots index es).Pairwise (·.key < ·.key) := by
  induction es generalizing index with
  | nil => exact .nil
  | cons e es ih =>
      rw [enumSlots, List.pairwise_cons]
      refine ⟨fun s member => ?_, ih (index + 1)⟩
      obtain ⟨i, -, rfl⟩ := mem_enumSlots.mp member
      have later : WithTop.some index < WithTop.some (index + 1 + i) :=
        WithTop.coe_lt_coe.mpr (by omega)
      exact List.cons_lt_cons_iff.mpr (Or.inr ⟨rfl, List.cons_lt_cons_iff.mpr (Or.inl later)⟩)

/-- Messages come before the enumerations beside them. -/
theorem sorted_slots_of {l : Level}
    (siblings : (siblingSlots 0 l.messages).Pairwise (·.key < ·.key)) :
    l.slots.Pairwise (·.key < ·.key) := by
  refine List.pairwise_append.mpr ⟨siblings, sorted_enumSlots 0 l.enums, ?_⟩
  intro s left t right
  obtain ⟨i, -, rest, key⟩ := key_of_mem_siblingSlots left
  obtain ⟨j, -, rfl⟩ := mem_enumSlots.mp right
  rw [key]
  exact List.cons_lt_cons_iff.mpr (Or.inl (WithTop.coe_lt_top i))

mutual

theorem sorted_messageSlots : ∀ (index : Nat) (m : MessageDecl),
    (messageSlots index m).Pairwise (·.key < ·.key)
  | index, ⟨name, fields, nested, enums⟩ => by
      rw [messageSlots_eq ⟨[], [], []⟩, List.pairwise_cons]
      refine ⟨?_, ?_⟩
      · intro s member
        obtain ⟨inner, -, rfl⟩ := List.mem_map.mp member
        obtain ⟨first, rest, key⟩ := List.exists_cons_of_ne_nil inner.key_ne_nil
        rw [Slot.key_below, key]
        exact List.cons_lt_cons_iff.mpr (Or.inr ⟨rfl, List.nil_lt_cons first rest⟩)
      · have inner : (Level.slots ⟨[name], nested, enums⟩).Pairwise (·.key < ·.key) :=
          sorted_slots_of (sorted_siblingSlots 0 nested)
        refine List.pairwise_map.mpr (inner.imp fun before => ?_)
        rw [Slot.key_below, Slot.key_below]
        exact List.cons_lt_cons_iff.mpr (Or.inr ⟨rfl, before⟩)

theorem sorted_siblingSlots : ∀ (index : Nat) (ms : List MessageDecl),
    (siblingSlots index ms).Pairwise (·.key < ·.key)
  | _, [] => .nil
  | index, m :: ms => by
      rw [siblingSlots]
      refine List.pairwise_append.mpr
        ⟨sorted_messageSlots index m, sorted_siblingSlots (index + 1) ms, ?_⟩
      intro s left t right
      obtain ⟨rest, first⟩ := key_of_mem_messageSlots left
      obtain ⟨i, later, others, second⟩ := key_of_mem_siblingSlots right
      rw [first, second]
      exact List.cons_lt_cons_iff.mpr (Or.inl (WithTop.coe_lt_coe.mpr later))

end

theorem sorted_slots (l : Level) : l.slots.Pairwise (·.key < ·.key) :=
  sorted_slots_of (sorted_siblingSlots 0 l.messages)

end Order

section Declared

variable (file : SourceFile)

/-- The declaration at a place of a level. -/
def Level.declaration? (l : Level) : Slot → Option Declaration
  | .message p => (l.at? p.path).bind fun inner =>
      inner.messages[p.index]?.map fun m => .message ⟨file, inner.outers, m, p.index⟩
  | .enum p => (l.at? p.path).bind fun inner =>
      inner.enums[p.index]?.map fun e => .enum ⟨file, inner.outers, e, p.index⟩

theorem declaration?_below (l : Level) (i : Nat) (s : Slot) :
    l.declaration? file (s.below i) =
      l.messages[i]?.bind fun m => (l.inside m).declaration? file s := by
  cases s <;> simp [Level.declaration?, Slot.below, Level.at?, Option.bind_assoc]

theorem map_declaration?_enumSlots {l : Level} {index : Nat} {es : List EnumDecl}
    (standing : ∀ i, l.enums[index + i]? = es[i]?) :
    (enumSlots index es).map (l.declaration? file) =
      (enumDeclarations file l.outers index es).map some := by
  induction es generalizing index with
  | nil => rfl
  | cons e es ih =>
      have here : l.enums[index]? = some e := standing 0
      have onward : ∀ i, l.enums[index + 1 + i]? = es[i]? := fun i => by
        rw [Nat.add_assoc, Nat.add_comm 1 i]
        exact standing (i + 1)
      rw [enumSlots, enumDeclarations, List.map_cons, List.map_cons, ih onward]
      simp [Level.declaration?, Level.at?, here]

mutual

theorem map_declaration?_messageSlots : ∀ (l : Level) (index : Nat) (m : MessageDecl),
    l.messages[index]? = some m →
      (messageSlots index m).map (l.declaration? file) =
        (messageDeclarations file l.outers index m).map some
  | l, index, ⟨name, fields, nested, enums⟩, here => by
      have inside : (siblingSlots 0 nested ++ enumSlots 0 enums).map
          (fun s => l.declaration? file (s.below index)) =
            (siblingDeclarations file (l.outers ++ [name]) 0 nested ++
              enumDeclarations file (l.outers ++ [name]) 0 enums).map some := by
        simp only [declaration?_below, here, Option.bind_some]
        rw [List.map_append, List.map_append]
        refine congrArg₂ (· ++ ·) ?_ ?_
        · exact map_declaration?_siblingSlots (l.inside ⟨name, fields, nested, enums⟩) 0 nested
            fun i => by rw [Nat.zero_add]; rfl
        · exact map_declaration?_enumSlots file
            (l := l.inside ⟨name, fields, nested, enums⟩) fun i => by rw [Nat.zero_add]; rfl
      rw [messageSlots, messageDeclarations, List.map_cons, List.map_cons, List.map_map,
        Function.comp_def, inside]
      simp [Level.declaration?, Level.at?, here]

theorem map_declaration?_siblingSlots : ∀ (l : Level) (index : Nat) (ms : List MessageDecl),
    (∀ i, l.messages[index + i]? = ms[i]?) →
      (siblingSlots index ms).map (l.declaration? file) =
        (siblingDeclarations file l.outers index ms).map some
  | _, _, [], _ => rfl
  | l, index, m :: ms, standing => by
      rw [siblingSlots, siblingDeclarations, List.map_append, List.map_append,
        map_declaration?_messageSlots l index m (standing 0),
        map_declaration?_siblingSlots l (index + 1) ms fun i => by
          rw [Nat.add_assoc, Nat.add_comm 1 i]
          exact standing (i + 1)]

end

/-- What a level declares stands at its places, in their order. -/
theorem map_declaration?_slots (l : Level) :
    l.slots.map (l.declaration? file) =
      (siblingDeclarations file l.outers 0 l.messages ++
        enumDeclarations file l.outers 0 l.enums).map some := by
  rw [Level.slots, List.map_append, List.map_append,
    map_declaration?_siblingSlots file l 0 l.messages fun i => by rw [Nat.zero_add],
    map_declaration?_enumSlots file fun i => by rw [Nat.zero_add]]

/-- No declaration stands anywhere else. -/
theorem mem_slots_of_declaration? {l : Level} {s : Slot}
    (declared : (l.declaration? file s).isSome) : s ∈ l.slots := by
  generalize length : s.path.length = n
  induction n generalizing l s with
  | zero =>
      rw [List.length_eq_zero_iff] at length
      rw [Level.slots, List.mem_append]
      cases s with
      | message p =>
          obtain ⟨path, index⟩ := p
          cases length
          simp only [Level.declaration?, Level.at?, Option.bind_some, Option.isSome_map] at declared
          obtain ⟨m, found⟩ := Option.isSome_iff_exists.mp declared
          refine Or.inl (mem_siblingSlots.mpr ⟨index, m, found, ?_⟩)
          rw [messageSlots_eq l, Nat.zero_add]
          exact List.mem_cons_self
      | enum p =>
          obtain ⟨path, index⟩ := p
          cases length
          simp only [Level.declaration?, Level.at?, Option.bind_some, Option.isSome_map] at declared
          obtain ⟨e, found⟩ := Option.isSome_iff_exists.mp declared
          refine Or.inr (mem_enumSlots.mpr ⟨index, (List.getElem?_eq_some_iff.mp found).1, ?_⟩)
          rw [Nat.zero_add]
  | succ n ih =>
      obtain ⟨i, inner, rfl, shorter⟩ : ∃ i inner, s = Slot.below i inner ∧
          inner.path.length = n := by
        rcases s with ⟨path, index⟩ | ⟨path, index⟩
        all_goals
          obtain ⟨i, rest, rfl⟩ := List.exists_cons_of_length_eq_add_one length
        · exact ⟨i, .message ⟨rest, index⟩, rfl, Nat.succ.inj length⟩
        · exact ⟨i, .enum ⟨rest, index⟩, rfl, Nat.succ.inj length⟩
      rw [declaration?_below] at declared
      cases found : l.messages[i]? with
      | none =>
          rw [found] at declared
          cases declared
      | some m =>
          rw [found, Option.bind_some] at declared
          rw [Level.slots, List.mem_append]
          refine Or.inl (mem_siblingSlots.mpr ⟨i, m, found, ?_⟩)
          rw [messageSlots_eq l, Nat.zero_add]
          exact List.mem_cons_of_mem _ (List.mem_map_of_mem (ih declared shorter))

theorem forall₂_slots_declarations :
    List.Forall₂ (fun s d => file.decl.level.declaration? file s = some d)
      file.decl.level.slots file.declarations := by
  rw [← List.forall₂_map_right_iff (R := fun s o => file.decl.level.declaration? file s = o)
    (f := some), ← List.forall₂_map_left_iff (R := Eq), List.forall₂_eq_eq_eq]
  exact map_declaration?_slots file file.decl.level

/-- The places of one kind list what is declared of that kind. -/
theorem lists_of_slots {α : Type} (position? : Slot → Option Position)
    (slot : Position → Slot) {part? : Declaration → Option α} {at? : Position → Option α}
    {key : Position → List (WithTop ℕ)} (keys : ∀ p, (slot p).key = key p)
    (kind : ∀ s p, position? s = some p ↔ s = slot p)
    (held : ∀ p, at? p = (file.decl.level.declaration? file (slot p)).bind part?)
    (entries : ∀ s d, file.decl.level.declaration? file s = some d →
      (position? s).isSome = (part? d).isSome) :
    Lists key at? (file.declarations.filterMap part?) := by
  refine ⟨file.decl.level.slots.filterMap position?, ?_, ?_, ?_⟩
  · refine List.pairwise_filterMap.mpr ((sorted_slots file.decl.level).imp ?_)
    intro s t before p first q second
    rw [(kind s p).mp first, (kind t q).mp second, keys, keys] at before
    exact before
  · intro p
    rw [List.mem_filterMap, held]
    constructor
    · rintro ⟨s, member, position⟩
      obtain rfl := (kind s p).mp position
      obtain ⟨d, -, found⟩ := exists_of_mem_forall₂
        (List.Forall₂.flip (forall₂_slots_declarations file)) member
      rw [found, Option.bind_some, ← entries _ d found, position, Option.isSome_some]
    · intro some
      obtain ⟨a, found⟩ := Option.isSome_iff_exists.mp some
      obtain ⟨d, here, -⟩ := Option.bind_eq_some_iff.mp found
      exact ⟨slot p, mem_slots_of_declaration? file (by rw [here, Option.isSome_some]),
        (kind _ p).mpr rfl⟩
  · refine map_filterMap_of_forall₂ ((forall₂_slots_declarations file).imp ?_)
    intro s d here
    have same := entries s d here
    cases position : position? s with
    | none =>
        rw [position] at same
        have absent : part? d = none :=
          Option.isNone_iff_eq_none.mp (Option.isSome_eq_false_iff.mp same.symm)
        rw [absent, Option.map_none, Option.map_none]
    | some p =>
        rw [position] at same
        obtain ⟨a, entry⟩ := Option.isSome_iff_exists.mp same.symm
        rw [Option.map_some, held, ← (kind s p).mp position, here, Option.bind_some, entry,
          Option.map_some]

/-- The messages of a file, outer before inner. -/
theorem lists_messages : Lists Position.opening file.messageAt? file.messages := by
  refine lists_of_slots file Slot.message? Slot.message ?_ ?_ ?_ ?_
  · exact fun p => rfl
  · rintro (p | p) q <;> simp [Slot.message?]
  · intro p
    simp only [SourceFile.messageAt?, Level.declaration?, Option.bind_assoc]
    congr
    funext l
    cases l.messages[p.index]? <;> rfl
  · rintro (p | p) d found
    all_goals
      obtain ⟨inner, -, mapped⟩ := Option.bind_eq_some_iff.mp found
      obtain ⟨_, -, rfl⟩ := Option.map_eq_some_iff.mp mapped
      rfl

/-- The enumerations of a file, those of nested messages before those beside them. -/
theorem lists_enums : Lists Position.closing file.enumAt? file.enums := by
  refine lists_of_slots file Slot.enum? Slot.enum ?_ ?_ ?_ ?_
  · exact fun p => rfl
  · rintro (p | p) q <;> simp [Slot.enum?]
  · intro p
    simp only [SourceFile.enumAt?, Level.declaration?, Option.bind_assoc]
    congr
    funext l
    cases l.enums[p.index]? <;> rfl
  · rintro (p | p) d found
    all_goals
      obtain ⟨inner, -, mapped⟩ := Option.bind_eq_some_iff.mp found
      obtain ⟨_, -, rfl⟩ := Option.map_eq_some_iff.mp mapped
      rfl

end Declared

end HttpAdapter
