import HttpAdapter.Proofs.Catalog.Linked
import HttpAdapter.Proofs.Text.Split
import HttpAdapter.Proofs.Text.Trim
import Mathlib.Data.List.DropRight
import Mathlib.Data.List.Induction

/-!
Which comment stands where.  A service or method that is shown has the lines of the last location
with the path of its declaration, which is made of the numbers that it was declared with, whatever
is left out in front of it: `outline_comments`.
-/

namespace HttpAdapter

open Text

/-- The lines of a paragraph: its text, without the line ends at its end, is cut at the others, and
    each part is trimmed. -/
def LinesOf (paragraph : String) (lines : List String) : Prop :=
  ∃ (rows : List (List Char)) (ends : Nat),
    paragraph.toList = ['\n'].intercalate rows ++ List.replicate ends '\n' ∧
    rows ≠ [] ∧ (∀ row ∈ rows, '\n' ∉ row) ∧ (rows = [[]] ∨ rows.getLast? ≠ some []) ∧
    lines = rows.map fun row => String.ofList (trimChars row)

/-- The lines of a location: its detached paragraphs, the leading and the trailing one, where those
    two are not empty, with an empty line between two paragraphs; or that there are none. -/
inductive Describes (l : SourceLocation) : List String → Prop
  | missing : l.leadingDetached ++ [l.leading, l.trailing].filter (· ≠ "") = [] →
      Describes l [missingComment]
  | paragraphs {groups : List (List String)} : groups ≠ [] →
      List.Forall₂ LinesOf (l.leadingDetached ++ [l.leading, l.trailing].filter (· ≠ "")) groups →
      Describes l ([""].intercalate groups)

/-- The lines for a path: those of its last location, or that there is none. -/
inductive Shows (locations : List SourceLocation) (path : List Int) : List String → Prop
  | last {before after : List SourceLocation} {l : SourceLocation} {lines : List String} :
      locations = before ++ l :: after → l.path = path → (∀ later ∈ after, later.path ≠ path) →
      Describes l lines → Shows locations path lines
  | missing : (∀ l ∈ locations, l.path ≠ path) →
      Shows locations path [missingComment]

/-- A handler of a method of a service, both with the numbers that they were declared with. -/
def ShowsMethod (locations : List SourceLocation) (service : Nat) (d : MethodDecl × Nat)
    (outline : Option HandlerOutline) : Prop :=
  ∃ h, outline = some h ∧ h.name = d.1.name ∧ Shows locations [6, service, 2, d.2] h.comment

/-- A service with the number that it was declared with, and its handlers. -/
def ShowsService (locations : List SourceLocation) (d : ServiceDecl × Nat)
    (outline : Option ServiceOutline) : Prop :=
  ∃ s, outline = some s ∧ s.name = d.1.name ∧ Shows locations [6, d.2] s.comment ∧
    List.Forall₂ (ShowsMethod locations d.2) d.1.served s.handlers

section Lines

/-- The text of a paragraph ends in a line that is not empty, if it has any. -/
theorem linesOf_paragraphLines (paragraph : String) :
    LinesOf paragraph (paragraphLines paragraph) := by
  let isEnd : Char → Bool := fun c => c == '\n'
  let body := paragraph.toList.rdropWhile isEnd
  let ends := paragraph.toList.rtakeWhile isEnd
  have onlyEnds : ends = List.replicate ends.length '\n' := by
    refine List.eq_replicate_iff.mpr ⟨rfl, fun c member => ?_⟩
    simpa [isEnd] using List.mem_rtakeWhile_imp member
  refine ⟨body.splitOn '\n', ends.length, ?_, List.splitOn_ne_nil '\n' body,
    fun row member => not_mem_of_mem_splitOn member, ?_, rfl⟩
  · rw [← onlyEnds, List.intercalate_splitOn]
    exact (List.rdropWhile_append_rtakeWhile ..).symm
  · rw [Decidable.or_iff_not_imp_left]
    intro several last
    have ends := getLast?_of_splitOn several last
    have full : body ≠ [] := List.ne_nil_of_mem (List.mem_of_getLast? ends)
    have visible := List.rdropWhile_last_not isEnd paragraph.toList full
    rw [List.getLast?_eq_some_getLast full, Option.some.injEq] at ends
    exact visible (by rw [ends]; rfl)

theorem describes_comment (l : SourceLocation) : Describes l l.comment := by
  have same : l.paragraphs = l.leadingDetached ++ [l.leading, l.trailing].filter (· ≠ "") := by
    refine congrArg (l.leadingDetached ++ ·) (List.filter_congr fun text _ => ?_)
    rw [Bool.eq_iff_iff]
    simp
  unfold SourceLocation.comment
  cases paragraphs : l.paragraphs with
  | nil => exact .missing (same ▸ paragraphs)
  | cons first others =>
      refine .paragraphs (List.cons_ne_nil _ _) ?_
      rw [← same, paragraphs]
      exact List.forall₂_map_right_iff.mpr
        (List.forall₂_same.mpr fun paragraph _ => linesOf_paragraphLines paragraph)

/-- A line without line ends and without white space at its ends. -/
structure IsTidyLine (line : String) : Prop where
  whole : '\n' ∉ line.toList
  trimmed : IsTrimmed line.toList

theorem isTidyLine_empty : IsTidyLine "" := ⟨by simp, by simp, by simp⟩

theorem isTidyLine_missingComment : IsTidyLine missingComment where
  whole := by decide +kernel
  trimmed := by
    constructor
    · intro c first
      obtain rfl : 'M' = c := Option.some.inj first
      decide +kernel
    · intro c last
      obtain rfl : '.' = c := Option.some.inj last
      decide +kernel

/-- The lines of a paragraph are tidy, and there is at least one. -/
theorem LinesOf.tidy {paragraph : String} {lines : List String}
    (linesOf : LinesOf paragraph lines) : lines ≠ [] ∧ ∀ line ∈ lines, IsTidyLine line := by
  obtain ⟨rows, ends, -, full, whole, -, rfl⟩ := linesOf
  refine ⟨by simpa using full, fun line member => ?_⟩
  obtain ⟨row, inRows, rfl⟩ := List.mem_map.mp member
  constructor
  · rw [String.toList_ofList]
    exact fun inside => whole row inRows (trimChars_subset row inside)
  · rw [String.toList_ofList]
    exact isTrimmed_trimChars row

theorem Describes.tidy {l : SourceLocation} {lines : List String} (describes : Describes l lines) :
    lines ≠ [] ∧ ∀ line ∈ lines, IsTidyLine line := by
  cases describes with
  | missing => exact ⟨by simp, by simpa using isTidyLine_missingComment⟩
  | @paragraphs groups full each =>
      have tidy : ∀ group ∈ groups, group ≠ [] ∧ ∀ line ∈ group, IsTidyLine line := by
        intro group member
        obtain ⟨paragraph, -, linesOf⟩ := exists_of_mem_forall₂ each member
        exact linesOf.tidy
      obtain ⟨first, others, rfl⟩ := List.exists_cons_of_ne_nil full
      obtain ⟨⟨some, firstTidy⟩, othersTidy⟩ := List.forall_mem_cons.mp tidy
      rw [intercalate_cons]
      refine ⟨List.append_ne_nil_of_left_ne_nil some _, fun line member => ?_⟩
      rcases List.mem_append.mp member with inFirst | inOthers
      · exact firstTidy line inFirst
      · obtain ⟨group, other, inGroup⟩ := List.mem_flatMap.mp inOthers
        rcases List.mem_cons.mp inGroup with rfl | inGroup
        · exact isTidyLine_empty
        · exact (othersTidy group other).2 line inGroup

theorem Shows.tidy {locations : List SourceLocation} {path : List Int} {lines : List String}
    (shows : Shows locations path lines) : lines ≠ [] ∧ ∀ line ∈ lines, IsTidyLine line := by
  cases shows with
  | last _ _ _ describes => exact describes.tidy
  | missing => exact ⟨by simp, by simpa using isTidyLine_missingComment⟩

end Lines

section Locations

variable {locations : List SourceLocation} {path : List Int} {l : SourceLocation}

/-- A location that belongs to a service or a method sets the comment of its path. -/
theorem ofLocations_append_singleton (locations : List SourceLocation) (l : SourceLocation) :
    Comments.ofLocations (locations ++ [l]) =
      if isCommented l.path then (Comments.ofLocations locations).set l.path l.comment
      else Comments.ofLocations locations := by
  cases commented : isCommented l.path <;>
    simp [Comments.ofLocations, List.filter_append, commented]

/-- Other locations have no effect. -/
theorem ofLocations_append_cons (other : isCommented l.path = false)
    (before after : List SourceLocation) :
    Comments.ofLocations (before ++ l :: after) = Comments.ofLocations (before ++ after) := by
  simp [Comments.ofLocations, List.filter_append, other]

theorem isCommented_eq_false (service : ∀ i, path ≠ [6, i]) (method : ∀ i j, path ≠ [6, i, 2, j]) :
    isCommented path = false := by
  unfold isCommented
  split
  · rename_i first i
    have different : first ≠ servicesField := by
      rintro rfl
      exact service i rfl
    simpa using different
  · rename_i first i third j
    have different : first = servicesField → third ≠ methodsField := by
      rintro rfl rfl
      exact method i j rfl
    simpa using different
  · rfl

/-- A location for another path does not change the lines for a path. -/
theorem Shows.append_singleton {lines : List String} (shows : Shows locations path lines)
    (other : l.path ≠ path) : Shows (locations ++ [l]) path lines := by
  cases shows with
  | @last before after m lines parts same later describes =>
      have whole : locations ++ [l] = before ++ m :: (after ++ [l]) := by simp [parts]
      refine .last whole same ?_ describes
      simpa [or_imp, forall_and] using ⟨later, other⟩
  | missing none => exact .missing (by simpa [or_imp, forall_and] using ⟨none, other⟩)

/-- The lines for the path of a service or method are those of its last location. -/
theorem shows_lines (commented : isCommented path = true) (locations : List SourceLocation) :
    Shows locations path ((Comments.ofLocations locations).lines path) := by
  induction locations using List.reverseRecOn with
  | nil => exact .missing (by simp)
  | append_singleton locations l ih =>
      rw [ofLocations_append_singleton]
      by_cases same : l.path = path
      · rw [same, if_pos commented, Comments.lines, Comments.get?_set, if_pos rfl]
        exact .last rfl same (by simp) (describes_comment l)
      · split
        · rw [Comments.lines, Comments.get?_set, if_neg same]
          exact ih.append_singleton same
        · exact ih.append_singleton same

end Locations

/-- The outline of a linked file has the services of the file with an eligible method, and for each
    of them its eligible methods, all in their order.  Each service and each method shows the lines
    of the last location with its path, by the numbers that it was declared with, or that there is
    none.  There is always a line, and all lines are tidy.  Locations for anything but a service or
    a method have no effect. -/
theorem outline_comments (c : Catalog) {entry : FileEntry} {f : TargetFile}
    (linked : c.linkFile entry = .ok f) (requestContext : Bool) :
    let locations := entry.file.decl.locations
    List.Forall₂ (ShowsService locations) entry.file.decl.exposed
      (f.outline requestContext).services ∧
    (∀ path lines, Shows locations path lines → lines ≠ [] ∧ ∀ line ∈ lines, IsTidyLine line) ∧
    ∀ (before after : List SourceLocation) (l : SourceLocation),
      (∀ i, l.path ≠ [6, i]) → (∀ i j, l.path ≠ [6, i, 2, j]) →
      Comments.ofLocations (before ++ l :: after) = Comments.ofLocations (before ++ after) := by
  intro locations
  obtain ⟨own, -⟩ := Catalog.forall₂_linkFile linked
  have services := Catalog.forall₂_exposed linked
  subst own
  let comments := Comments.ofLocations locations
  refine ⟨?_, fun path lines shows => shows.tidy, fun before after l service method =>
    ofLocations_append_cons (isCommented_eq_false service method) before after⟩
  refine List.forall₂_map_right_iff.mpr (services.imp fun d s links => ?_)
  refine ⟨s.outline comments, rfl, links.name, ?_, ?_⟩
  · have path : servicePath s.index = [6, (d.2 : Int)] := by
      rw [links.index]
      rfl
    have shows : Shows locations (servicePath s.index) (s.outline comments).comment :=
      shows_lines rfl locations
    rwa [path] at shows
  · refine List.forall₂_map_right_iff.mpr (links.served.imp fun e m method => ?_)
    refine ⟨m.outline comments s.index, rfl, congrArg (·.name) method.decl, ?_⟩
    have path : methodPath s.index m.index = [6, (d.2 : Int), 2, (e.2 : Int)] := by
      rw [links.index, method.index]
      rfl
    have shows : Shows locations (methodPath s.index m.index)
        (m.outline comments s.index).comment := shows_lines rfl locations
    rwa [path] at shows

/-- Behind a service without methods and a method without a rule, a service and its second method
    keep their comments, of which the service has two; one for a message counts for nothing. -/
theorem outline_comments_second_service :
    let location (path : List Int) (leading : String) : SourceLocation := ⟨path, [], leading, ""⟩
    let before := [location [6, 1] "Old.", location [6, 1, 2, 1] " Second.\n\n"]
    let after := [location [6, 1] " New:\n more.\n"]
    let rule : HttpRule := ⟨some (.standard .get "/v1"), "", "", []⟩
    let method (name : String) (http : Option HttpRule) : MethodDecl :=
      ⟨name, "M", "M", false, false, http⟩
    let served : ServiceDecl := ⟨"S", [method "First" none, method "Second" (some rule)]⟩
    let file : SourceFile := ⟨⟨"a.proto", some "p", none, none, [], [],
      [⟨"Empty", []⟩, served], before ++ location [4, 0] "M." :: after⟩, ⟨"a_pb2", "p", none⟩⟩
    let message : MessageEntry := ⟨file, [], ⟨"M", [], [], []⟩, 0⟩
    let c : Catalog := { Catalog.empty "" [] with messages := [(".p.M", message)] }
    ∃ f, c.linkFile ⟨file, [], []⟩ = .ok f ∧
      List.Forall₂ (ShowsService file.decl.locations) [(served, 1)] (f.outline false).services ∧
      Comments.ofLocations file.decl.locations = Comments.ofLocations (before ++ after) := by
  intro location before after rule method served file message c
  have free : c.fileFaults file.decl = [] := by decide +kernel
  have reports := c.reportsFirst_linkFile ⟨file, [], []⟩
  obtain ⟨f, linked⟩ := reports.eq_ok_iff.mpr free
  obtain ⟨services, -, noEffect⟩ := outline_comments c linked false
  exact ⟨f, linked, services, noEffect before after (location [4, 0] "M.")
    (by simp [location]) (by simp [location])⟩

end HttpAdapter
