import HttpAdapter.Proofs.FirstFailure
import HttpAdapter.Rendering.Module

/-!
Outlines that lack an entry.  No module of either kind is laid out for one, and the fault names what
was to be read first from an entry that is missing: `text_of_missing`.  An adapter is laid out in
the order of its outline.  A router reads the names of all handlers of a service before any of their
routes, so there a missing handler comes first even if a route of an earlier one is missing too.
-/

namespace HttpAdapter

open Catalog

/-- An entry for a service is missing, or one inside it. -/
inductive LacksEntry : Option ServiceOutline → Prop
  | service : LacksEntry none
  | handler {s : ServiceOutline} : none ∈ s.handlers → LacksEntry (some s)
  | route {s : ServiceOutline} {h : HandlerOutline} :
      some h ∈ s.handlers → none ∈ h.routes → LacksEntry (some s)

/-- The fault where a handler is missing, or a route of it. -/
inductive HandlerMisses (fault : String → Fault) : Option HandlerOutline → Fault → Prop
  | handler : HandlerMisses fault none (fault "name")
  | route {h : HandlerOutline} : none ∈ h.routes → HandlerMisses fault (some h) (fault "method")

/-- The fault where a service is missing, or that of its first handler that is not whole. -/
inductive ServiceMisses (fault : String → Fault) : Option ServiceOutline → Fault → Prop
  | service : ServiceMisses fault none (fault "name")
  | handler {s : ServiceOutline} {stop : Fault} :
      FirstFailure (HandlerMisses fault) s.handlers stop → ServiceMisses fault (some s) stop

/-- The fault where a service is missing, or one of its handlers, or else a route of one. -/
inductive DispatchMisses (fault : String → Fault) : Option ServiceOutline → Fault → Prop
  | service : DispatchMisses fault none (fault "name")
  | handler {s : ServiceOutline} : none ∈ s.handlers → DispatchMisses fault (some s) (fault "name")
  | route {s : ServiceOutline} {h : HandlerOutline} :
      none ∉ s.handlers → some h ∈ s.handlers → none ∈ h.routes →
      DispatchMisses fault (some s) (fault "method")

variable {fault : String → Fault} {requestContext : Bool} {stop : Fault}

section Rows

variable {α : Type} {property : String}

theorem bind_entryOr_eq_error_iff {β : Type} {entry : Option α} {f : α → Except Fault β} :
    (entryOr fault property entry >>= f) = .error stop ↔
      entry = none ∧ stop = fault property ∨ ∃ a, entry = some a ∧ f a = .error stop := by
  cases entry with
  | none => simp [entryOr, bind, Except.bind, eq_comm]
  | some a => simp [entryOr, bind, Except.bind]

theorem entryOr_eq_error_iff {entry : Option α} :
    entryOr fault property entry = .error stop ↔ entry = none ∧ stop = fault property := by
  cases entry with
  | none => simp [entryOr, eq_comm]
  | some a => simp [entryOr]

/-- What is made of a row fails as the first item does that fails. -/
theorem row_eq_error_iff {β γ : Type} {items : List α} {f : α → Except Fault β} {g : List β → γ}
    {misses : α → Fault → Prop} (each : ∀ item stop, f item = .error stop ↔ misses item stop) :
    (items.mapM f >>= fun row => pure (g row)) = .error stop ↔
      FirstFailure misses items stop := by
  rw [bind_pure_eq_error, mapM_eq_error_iff]
  simp only [each]

/-- A row of entries is read up to the first that is missing. -/
theorem mapM_entryOr_eq_error_iff {entries : List (Option α)} :
    entries.mapM (entryOr fault property) = .error stop ↔
      none ∈ entries ∧ stop = fault property := by
  rw [mapM_eq_error_iff]
  simp only [entryOr_eq_error_iff]
  constructor
  · rintro ⟨front, entry, behind, rfl, -, rfl, equal⟩
    exact ⟨by simp, equal⟩
  · rintro ⟨member, equal⟩
    obtain ⟨front, behind, parts, absent⟩ := List.eq_append_cons_of_mem member
    refine ⟨front, none, behind, parts, ?_, rfl, equal⟩
    rintro earlier inFront other ⟨rfl, -⟩
    exact absent inFront

theorem mapM_entryOr_of_mem {entries : List (Option α)} (missing : none ∈ entries) :
    entries.mapM (entryOr fault property) = .error (fault property) :=
  mapM_entryOr_eq_error_iff.mpr ⟨missing, rfl⟩

theorem exists_mapM_entryOr_iff {entries : List (Option α)} :
    (∃ row, entries.mapM (entryOr fault property) = .ok row) ↔ none ∉ entries := by
  constructor
  · rintro ⟨row, success⟩ missing
    rw [mapM_entryOr_of_mem missing] at success
    cases success
  · intro whole
    cases read : entries.mapM (entryOr fault property) with
    | ok row => exact ⟨row, rfl⟩
    | error stop => exact absurd (mapM_entryOr_eq_error_iff.mp read).1 whole

end Rows

section Handlers

theorem render_handler_eq_error_iff {h : HandlerOutline} :
    h.render fault requestContext = .error stop ↔ none ∈ h.routes ∧ stop = fault "method" := by
  rw [HandlerOutline.render, bind_pure_eq_error, mapM_entryOr_eq_error_iff]

/-- The lines of an entry for a handler, with an empty line in front. -/
def handlerEntry (fault : String → Fault) (requestContext : Bool) (entry : Option HandlerOutline) :
    Except Fault (List String) := do
  let h ← entryOr fault "name" entry
  let lines ← h.render fault requestContext
  return "" :: lines

theorem handlerEntry_eq_error_iff {entry : Option HandlerOutline} :
    handlerEntry fault requestContext entry = .error stop ↔ HandlerMisses fault entry stop := by
  rw [handlerEntry, bind_entryOr_eq_error_iff]
  simp only [bind_pure_eq_error, render_handler_eq_error_iff]
  constructor
  · rintro (⟨rfl, rfl⟩ | ⟨h, rfl, missing, rfl⟩)
    · exact .handler
    · exact .route missing
  · intro misses
    cases misses with
    | handler => exact Or.inl ⟨rfl, rfl⟩
    | route missing => exact Or.inr ⟨_, rfl, missing, rfl⟩

theorem render_service_eq_error_iff {s : ServiceOutline} {className : String} :
    s.render fault requestContext className = .error stop ↔
      FirstFailure (HandlerMisses fault) s.handlers stop := by
  have laid : s.render fault requestContext className =
      s.handlers.mapM (handlerEntry fault requestContext) >>= fun handlers =>
        pure (s.headLines className ++ handlers.flatten) := rfl
  rw [laid]
  exact row_eq_error_iff fun _ _ => handlerEntry_eq_error_iff

/-- Some handler is missing or lacks a route exactly if one of them is the first to. -/
theorem exists_firstFailure_handlers_iff {entries : List (Option HandlerOutline)} :
    (∃ stop, FirstFailure (HandlerMisses fault) entries stop) ↔
      none ∈ entries ∨ ∃ h, some h ∈ entries ∧ none ∈ h.routes := by
  rw [exists_firstFailure_iff]
  constructor
  · rintro ⟨entry, member, stop, misses⟩
    cases misses with
    | handler => exact Or.inl member
    | route missing => exact Or.inr ⟨_, member, missing⟩
  · rintro (missing | ⟨h, member, missing⟩)
    · exact ⟨none, missing, _, .handler⟩
    · exact ⟨some h, member, _, .route missing⟩

/-- Where no handler is missing, the first that is not whole lacks a route. -/
theorem firstFailure_handlers_iff {entries : List (Option HandlerOutline)}
    (named : none ∉ entries) : FirstFailure (HandlerMisses fault) entries stop ↔
      (∃ h, some h ∈ entries ∧ none ∈ h.routes) ∧ stop = fault "method" := by
  have only {other : Fault} (first : FirstFailure (HandlerMisses fault) entries other) :
      other = fault "method" := by
    obtain ⟨front, entry, behind, rfl, -, misses⟩ := first
    cases misses with
    | handler => exact absurd (by simp) named
    | route => rfl
  constructor
  · intro first
    exact ⟨(exists_firstFailure_handlers_iff.mp ⟨stop, first⟩).resolve_left named, only first⟩
  · rintro ⟨lacking, rfl⟩
    obtain ⟨other, first⟩ := exists_firstFailure_handlers_iff.mpr (Or.inr lacking)
    exact only first ▸ first

end Handlers

section Services

theorem adapterService_eq_error_iff {entry : Option ServiceOutline} :
    adapterService fault requestContext entry = .error stop ↔ ServiceMisses fault entry stop := by
  rw [adapterService, bind_entryOr_eq_error_iff]
  simp only [bind_pure_eq_error, render_service_eq_error_iff]
  constructor
  · rintro (⟨rfl, rfl⟩ | ⟨s, rfl, first⟩)
    · exact .service
    · exact .handler first
  · intro misses
    cases misses with
    | service => exact Or.inl ⟨rfl, rfl⟩
    | handler first => exact Or.inr ⟨_, rfl, first⟩

theorem routerService_eq_error_iff {entry : Option ServiceOutline} :
    routerService fault requestContext entry = .error stop ↔ DispatchMisses fault entry stop := by
  rw [routerService, bind_entryOr_eq_error_iff]
  constructor
  · rintro (⟨rfl, rfl⟩ | ⟨s, rfl, failure⟩)
    · exact .service
    · rcases bind_eq_error.mp failure with names | ⟨handlers, names, body⟩
      · obtain ⟨missing, rfl⟩ := mapM_entryOr_eq_error_iff.mp names
        exact .handler missing
      · have named : none ∉ s.handlers := exists_mapM_entryOr_iff.mp ⟨handlers, names⟩
        have first := render_service_eq_error_iff.mp (bind_pure_eq_error.mp body)
        obtain ⟨⟨h, member, missing⟩, rfl⟩ := (firstFailure_handlers_iff named).mp first
        exact .route named member missing
  · intro misses
    cases misses with
    | service => exact Or.inl ⟨rfl, rfl⟩
    | handler missing =>
        exact Or.inr ⟨_, rfl, bind_eq_error.mpr (Or.inl (mapM_entryOr_of_mem missing))⟩
    | @route s h named member missing =>
        have read : ∃ row, s.handlers.mapM (entryOr fault "name") = .ok row :=
          exists_mapM_entryOr_iff.mpr named
        have first : FirstFailure (HandlerMisses fault) s.handlers (fault "method") :=
          (firstFailure_handlers_iff named).mpr ⟨⟨h, member, missing⟩, rfl⟩
        obtain ⟨handlers, names⟩ := read
        refine Or.inr ⟨_, rfl, bind_eq_error.mpr (Or.inr ⟨handlers, names, ?_⟩)⟩
        exact bind_pure_eq_error.mpr (render_service_eq_error_iff.mpr first)

theorem exists_serviceMisses_iff {entry : Option ServiceOutline} :
    (∃ stop, ServiceMisses fault entry stop) ↔ LacksEntry entry := by
  constructor
  · rintro ⟨stop, misses⟩
    cases misses with
    | service => exact .service
    | handler first =>
        rcases exists_firstFailure_handlers_iff.mp ⟨stop, first⟩ with
          missing | ⟨h, member, missing⟩
        · exact .handler missing
        · exact .route member missing
  · intro lacks
    cases lacks with
    | service => exact ⟨_, .service⟩
    | handler missing =>
        obtain ⟨stop, first⟩ := exists_firstFailure_handlers_iff.mpr (Or.inl missing)
        exact ⟨stop, .handler first⟩
    | route member missing =>
        obtain ⟨stop, first⟩ := exists_firstFailure_handlers_iff.mpr (Or.inr ⟨_, member, missing⟩)
        exact ⟨stop, .handler first⟩

theorem exists_dispatchMisses_iff {entry : Option ServiceOutline} :
    (∃ stop, DispatchMisses fault entry stop) ↔ LacksEntry entry := by
  constructor
  · rintro ⟨stop, misses⟩
    cases misses with
    | service => exact .service
    | handler missing => exact .handler missing
    | route _ member missing => exact .route member missing
  · intro lacks
    cases lacks with
    | service => exact ⟨_, .service⟩
    | handler missing => exact ⟨_, .handler missing⟩
    | @route s h member missing =>
        by_cases named : none ∈ s.handlers
        · exact ⟨_, .handler named⟩
        · exact ⟨_, .route named member missing⟩

end Services

/-- A module that is laid out service by service fails as its first service does that fails. -/
theorem text_eq_error_iff {m : ModuleOutline} {kind : ModuleKind} {head : List String}
    {lines : Option ServiceOutline → Except Fault (List String)}
    {misses : Option ServiceOutline → Fault → Prop}
    (laid : m.render kind =
      m.services.mapM lines >>= fun services => pure (head ++ services.flatten))
    (each : ∀ entry stop, lines entry = .error stop ↔ misses entry stop) :
    m.text kind = .error stop ↔ FirstFailure misses m.services stop := by
  rw [ModuleOutline.text, map_eq_error, laid]
  exact row_eq_error_iff each

theorem text_adapter_eq_error_iff {m : ModuleOutline} : m.text .adapter = .error stop ↔
    FirstFailure (ServiceMisses (.missingEntry m.source .adapter)) m.services stop :=
  text_eq_error_iff rfl fun _ _ => adapterService_eq_error_iff

theorem text_router_eq_error_iff {m : ModuleOutline} : m.text .router = .error stop ↔
    FirstFailure (DispatchMisses (.missingEntry m.source .router)) m.services stop :=
  text_eq_error_iff rfl fun _ _ => routerService_eq_error_iff

/-- Modules of both kinds are laid out unless some entry of their outline is missing.  The fault
    of an adapter is that of the first entry missing in the order of the outline.  The fault of a
    router is decided by the first service that is missing or lacks an entry: it names what is read
    from a service or a handler, if that service or one of its handlers is missing, and else what
    is read from a route. -/
theorem text_of_missing (m : ModuleOutline) :
    (∀ kind, (∃ stop, m.text kind = .error stop) ↔ ∃ entry ∈ m.services, LacksEntry entry) ∧
    (∀ stop, m.text .adapter = .error stop ↔
      FirstFailure (ServiceMisses (.missingEntry m.source .adapter)) m.services stop) ∧
    ∀ stop, m.text .router = .error stop ↔
      FirstFailure (DispatchMisses (.missingEntry m.source .router)) m.services stop := by
  refine ⟨?_, fun _ => text_adapter_eq_error_iff, fun _ => text_router_eq_error_iff⟩
  intro kind
  cases kind with
  | adapter =>
      simp only [text_adapter_eq_error_iff, exists_firstFailure_iff, exists_serviceMisses_iff]
  | router =>
      simp only [text_router_eq_error_iff, exists_firstFailure_iff, exists_dispatchMisses_iff]

/-- The first handler lacks a route and the second one is missing. -/
example :
    let m : ModuleOutline :=
      ⟨"p", "a.proto", [], [some ⟨"S", [], [some ⟨"A", "p.M", [], [none]⟩, none]⟩], false⟩
    m.text .adapter = .error (.missingEntry "a.proto" .adapter "method") ∧
      m.text .router = .error (.missingEntry "a.proto" .router "name") :=
  ⟨rfl, rfl⟩

end HttpAdapter
