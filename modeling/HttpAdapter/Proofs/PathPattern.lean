import HttpAdapter.Proofs.Catalog.Linked
import HttpAdapter.Proofs.Text.Trim

/-!
The variables of a path by its groups of braces.  A path is read from the left: where a group
begins, the whole group is one piece, and any other character stands for itself.  The variables are
those of the groups read that way, whatever the path holds; and a path that is put together from
groups, and from texts between them without opening braces, is read as those groups:
`linkRule_variables`.
-/

namespace HttpAdapter

open Text

/-- A variable between braces, with a pattern behind an equals sign or without. -/
structure BraceGroup where
  name : List Char
  pattern : Option (List Char)

namespace BraceGroup

/-- A name is not empty, and ends at an equals sign or a closing brace; a pattern ends at a closing
    brace. -/
structure WellFormed (g : BraceGroup) : Prop where
  full : g.name ≠ []
  name : '\x7d' ∉ g.name ∧ '=' ∉ g.name
  pattern : ∀ p ∈ g.pattern, '\x7d' ∉ p

instance (g : BraceGroup) : Decidable g.WellFormed :=
  decidable_of_iff (g.name ≠ [] ∧ ('\x7d' ∉ g.name ∧ '=' ∉ g.name) ∧ ∀ p ∈ g.pattern, '\x7d' ∉ p)
    ⟨fun ⟨full, name, pattern⟩ => ⟨full, name, pattern⟩,
      fun ⟨full, name, pattern⟩ => ⟨full, name, pattern⟩⟩

/-- What stands behind the name. -/
def ending (g : BraceGroup) : List Char :=
  match g.pattern with
  | none => ['\x7d']
  | some p => '=' :: p ++ ['\x7d']

/-- The group as it is written. -/
def text (g : BraceGroup) : List Char := '\x7b' :: g.name ++ g.ending

/-- The name without the white space at its ends. -/
def variableName (g : BraceGroup) : String := String.ofList (trimChars g.name)

end BraceGroup

/-- A piece of a path. -/
inductive PathPiece where
  | literal (text : List Char)
  | group (g : BraceGroup)

namespace PathPiece

/-- The piece as it is written. -/
def text : PathPiece → List Char
  | .literal text => text
  | .group g => g.text

/-- The group that the piece is. -/
def group? : PathPiece → Option BraceGroup
  | .literal _ => none
  | .group g => some g

/-- A literal text without opening braces, or a group. -/
def IsPlain : PathPiece → Prop
  | .literal text => '\x7b' ∉ text
  | .group g => g.WellFormed

instance : DecidablePred IsPlain
  | .literal text => inferInstanceAs (Decidable ('\x7b' ∉ text))
  | .group g => inferInstanceAs (Decidable g.WellFormed)

end PathPiece

/-- The text of pieces one after the other. -/
def pathText (pieces : List PathPiece) : List Char := pieces.flatMap (·.text)

/-- The groups among pieces. -/
def pathGroups (pieces : List PathPiece) : List BraceGroup := pieces.filterMap (·.group?)

/-- A group of braces begins a text. -/
def BeginsGroup (text : List Char) : Prop := ∃ g : BraceGroup, g.WellFormed ∧ g.text <+: text

/-- A text, read from the left: a group where one begins, and elsewhere the next character. -/
inductive ReadsAs : List Char → List PathPiece → Prop
  | nil : ReadsAs [] []
  | group {g : BraceGroup} {rest : List Char} {pieces : List PathPiece} :
      g.WellFormed → ReadsAs rest pieces → ReadsAs (g.text ++ rest) (.group g :: pieces)
  | literal {c : Char} {rest : List Char} {pieces : List PathPiece} :
      ¬ BeginsGroup (c :: rest) → ReadsAs rest pieces →
      ReadsAs (c :: rest) (.literal [c] :: pieces)

section Reading

variable {text rest name : List Char} {g : BraceGroup}

/-- Without closing braces there are no variables. -/
theorem pathVariablesFrom_of_not_mem (part : PathPart) (unclosed : '\x7d' ∉ text) :
    pathVariablesFrom part text = [] := by
  induction text generalizing part with
  | nil => cases part <;> rfl
  | cons c text ih =>
      obtain ⟨different, unclosed⟩ := List.ne_and_not_mem_of_not_mem_cons unclosed
      cases part with
      | outside => exact ih _ unclosed
      | inside reversed =>
          rw [pathVariablesFrom, if_neg (Ne.symm different), ih _ unclosed, ih _ unclosed, ite_self]
      | pattern name => rw [pathVariablesFrom, if_neg (Ne.symm different), ih _ unclosed]

/-- Text without opening braces is passed over. -/
theorem pathVariablesFrom_literal (plain : '\x7b' ∉ text) (rest : List Char) :
    pathVariablesFrom .outside (text ++ rest) = pathVariablesFrom .outside rest := by
  induction text with
  | nil => rfl
  | cons c text ih =>
      obtain ⟨different, plain⟩ := List.ne_and_not_mem_of_not_mem_cons plain
      rw [List.cons_append, pathVariablesFrom, if_neg (Ne.symm different), ih plain]

/-- A name is kept, last character first. -/
theorem pathVariablesFrom_name (unclosed : '\x7d' ∉ name) (whole : '=' ∉ name)
    (reversed rest : List Char) :
    pathVariablesFrom (.inside reversed) (name ++ rest) =
      pathVariablesFrom (.inside (name.reverse ++ reversed)) rest := by
  induction name generalizing reversed with
  | nil => rfl
  | cons c name ih =>
      obtain ⟨noBrace, unclosed⟩ := List.ne_and_not_mem_of_not_mem_cons unclosed
      obtain ⟨noEquals, whole⟩ := List.ne_and_not_mem_of_not_mem_cons whole
      rw [List.cons_append, pathVariablesFrom, if_neg (Ne.symm noBrace),
        if_neg (Ne.symm noEquals), ih unclosed whole, List.reverse_cons, List.append_assoc]
      rfl

/-- A pattern is passed over up to the brace that closes it. -/
theorem pathVariablesFrom_pattern {pattern : List Char} (unclosed : '\x7d' ∉ pattern)
    (name rest : List Char) :
    pathVariablesFrom (.pattern name) (pattern ++ '\x7d' :: rest) =
      name :: pathVariablesFrom .outside rest := by
  induction pattern with
  | nil => rfl
  | cons c pattern ih =>
      obtain ⟨different, unclosed⟩ := List.ne_and_not_mem_of_not_mem_cons unclosed
      rw [List.cons_append, pathVariablesFrom, if_neg (Ne.symm different), ih unclosed]

/-- A group gives its name. -/
theorem pathVariablesFrom_group (formed : g.WellFormed) (rest : List Char) :
    pathVariablesFrom .outside (g.text ++ rest) = g.name :: pathVariablesFrom .outside rest := by
  obtain ⟨name, pattern⟩ := g
  obtain ⟨full, ⟨unclosed, whole⟩, closed⟩ := formed
  have named : (name.reverse ++ []).isEmpty = false := by simpa using full
  have kept : (name.reverse ++ []).reverse = name := by simp
  rw [BraceGroup.text, List.cons_append, List.cons_append, pathVariablesFrom, if_pos rfl,
    List.append_assoc, pathVariablesFrom_name unclosed whole]
  cases pattern with
  | none =>
      change pathVariablesFrom _ ('\x7d' :: rest) = _
      rw [pathVariablesFrom, if_pos rfl, named, kept]
      rfl
  | some pattern =>
      change pathVariablesFrom _ ('=' :: (pattern ++ ['\x7d'] ++ rest)) = _
      rw [pathVariablesFrom, if_neg (by decide), if_pos rfl, named, kept, List.append_assoc]
      exact pathVariablesFrom_pattern (closed pattern rfl) name rest

/-- A text up to the first equals sign or closing brace. -/
theorem exists_name_append (text : List Char) :
    ∃ name rest, text = name ++ rest ∧ '\x7d' ∉ name ∧ '=' ∉ name ∧
      ∀ c ∈ rest.head?, c = '\x7d' ∨ c = '=' := by
  let inName : Char → Bool := fun c => c != '\x7d' && c != '='
  refine ⟨text.takeWhile inName, text.dropWhile inName,
    List.takeWhile_append_dropWhile.symm, ?_, ?_, ?_⟩
  · exact fun member => absurd (List.mem_takeWhile_imp member) (by decide)
  · exact fun member => absurd (List.mem_takeWhile_imp member) (by decide)
  · intro c first
    have stopped := List.head?_dropWhile_not inName text
    rw [Option.mem_def.mp first] at stopped
    simpa [inName, Decidable.or_iff_not_imp_left] using stopped

/-- A name that is not empty begins a group if a closing brace follows somewhere behind it. -/
theorem beginsGroup_of_name {behind : List Char} (full : name ≠ [])
    (inside : '\x7d' ∉ name ∧ '=' ∉ name) (stop : ∀ c ∈ behind.head?, c = '\x7d' ∨ c = '=')
    (closed : '\x7d' ∈ behind) : BeginsGroup ('\x7b' :: (name ++ behind)) := by
  cases behind with
  | nil => cases closed
  | cons d behind =>
      rcases stop d rfl with rfl | rfl
      · refine ⟨⟨name, none⟩, ⟨full, inside, by simp⟩, behind, ?_⟩
        simp [BraceGroup.text, BraceGroup.ending]
      · have later : '\x7d' ∈ behind := by simpa using closed
        obtain ⟨pattern, rest, rfl, unclosed⟩ := List.eq_append_cons_of_mem later
        refine ⟨⟨name, some pattern⟩, ⟨full, inside, by simpa using unclosed⟩, rest, ?_⟩
        simp [BraceGroup.text, BraceGroup.ending]

/-- Where no group begins, the next character is passed over. -/
theorem pathVariablesFrom_cons {c : Char} (noGroup : ¬ BeginsGroup (c :: rest)) :
    pathVariablesFrom .outside (c :: rest) = pathVariablesFrom .outside rest := by
  by_cases brace : c = '\x7b'
  · subst brace
    obtain ⟨name, behind, rfl, unclosed, whole, stop⟩ := exists_name_append rest
    by_cases closed : '\x7d' ∈ name ++ behind
    · have later : '\x7d' ∈ behind := (List.mem_append.mp closed).resolve_left unclosed
      cases name with
      | nil =>
          -- The name would be empty: what stops it is no opening brace, so it is passed over too.
          cases behind with
          | nil => cases later
          | cons d behind => rcases stop d rfl with rfl | rfl <;> rfl
      | cons d name =>
          have begins := beginsGroup_of_name (List.cons_ne_nil d name) ⟨unclosed, whole⟩ stop later
          exact absurd begins noGroup
    · rw [pathVariablesFrom, pathVariablesFrom_of_not_mem _ closed,
        pathVariablesFrom_of_not_mem _ closed]
  · rw [pathVariablesFrom, if_neg brace]

/-- Every text can be read. -/
theorem exists_readsAs (text : List Char) : ∃ pieces, ReadsAs text pieces := by
  induction length : text.length using Nat.strong_induction_on generalizing text with
  | _ n ih =>
      subst length
      by_cases begins : BeginsGroup text
      · obtain ⟨g, formed, rest, rfl⟩ := begins
        have shorter : rest.length < (g.text ++ rest).length := by
          simp only [BraceGroup.text, List.cons_append, List.length_cons, List.length_append]
          omega
        obtain ⟨pieces, reads⟩ := ih _ shorter rest rfl
        exact ⟨_, .group formed reads⟩
      · cases text with
        | nil => exact ⟨[], .nil⟩
        | cons c rest =>
            obtain ⟨pieces, reads⟩ := ih rest.length (Nat.lt_succ_self _) rest rfl
            exact ⟨_, .literal begins reads⟩

namespace ReadsAs

variable {pieces : List PathPiece}

/-- The pieces of a text make it up. -/
theorem pathText_eq (reads : ReadsAs text pieces) : pathText pieces = text := by
  induction reads with
  | nil => rfl
  | @group g rest pieces _ _ ih => exact congrArg (g.text ++ ·) ih
  | @literal c rest pieces _ _ ih => exact congrArg (c :: ·) ih

theorem wellFormed (reads : ReadsAs text pieces) : ∀ g ∈ pathGroups pieces, g.WellFormed := by
  induction reads with
  | nil => simp [pathGroups]
  | group formed _ ih => exact List.forall_mem_cons.mpr ⟨formed, ih⟩
  | literal _ _ ih => exact ih

/-- The variables of a text are the names of the groups that it is read as. -/
theorem pathVariablesFrom_eq (reads : ReadsAs text pieces) :
    pathVariablesFrom .outside text = (pathGroups pieces).map (·.name) := by
  induction reads with
  | nil => rfl
  | @group g rest pieces formed _ ih =>
      rw [pathVariablesFrom_group formed, ih]
      rfl
  | literal noGroup _ ih =>
      rw [pathVariablesFrom_cons noGroup, ih]
      rfl

end ReadsAs

/-- The variables of plain pieces are the names of the groups among them. -/
theorem pathVariablesFrom_pathText {pieces : List PathPiece} (plain : ∀ p ∈ pieces, p.IsPlain) :
    pathVariablesFrom .outside (pathText pieces) = (pathGroups pieces).map (·.name) := by
  induction pieces with
  | nil => rfl
  | cons piece pieces ih =>
      obtain ⟨first, rest⟩ := List.forall_mem_cons.mp plain
      change pathVariablesFrom .outside (piece.text ++ pathText pieces) = _
      cases piece with
      | literal text => exact (pathVariablesFrom_literal first _).trans (ih rest)
      | group g =>
          refine (pathVariablesFrom_group first _).trans ?_
          rw [ih rest]
          rfl

end Reading

/-- The variables of a path are the trimmed names of its groups. -/
theorem pathVariables_eq {path : String} {groups : List BraceGroup}
    (named : pathVariablesFrom .outside path.toList = groups.map (·.name)) :
    pathVariables path = groups.map (·.variableName) := by
  rw [pathVariables, named, List.map_map]
  rfl

/-- The name of a group holds neither an equals sign nor a closing brace. -/
theorem BraceGroup.WellFormed.variableName {g : BraceGroup} (formed : g.WellFormed) :
    '\x7d' ∉ g.variableName.toList ∧ '=' ∉ g.variableName.toList := by
  rw [BraceGroup.variableName, String.toList_ofList]
  exact ⟨fun member => formed.name.1 (trimChars_subset _ member),
    fun member => formed.name.2 (trimChars_subset _ member)⟩

namespace Catalog

variable {c : Catalog} {request : MessageEntry} {r : HttpRule} {b : HttpBinding}

/-- A rule that binds is linked if the variables of its path lead to fields. -/
theorem exists_linkRule (bound : r.binding = .ok b) (resolves : c.Resolves request b.path) :
    ∃ linked, c.linkRule request r = .ok linked := by
  have reports : ReportsFirst (c.linkParameters request b.path) (c.pathFaults request b.path) :=
    ReportsFirst.mapM fun name _ => (ReportsFirst.self _).map _
  obtain ⟨parameters, linked⟩ := reports.eq_ok_iff.mpr (pathFaults_eq_nil_iff.mpr resolves)
  refine ⟨⟨b.verb, b.path, b.body, b.responseBody, parameters⟩, ?_⟩
  exact bind_eq_ok.mpr ⟨b, bound, bind_eq_ok.mpr ⟨parameters, linked, rfl⟩⟩

/-- A linked rule has a parameter for each variable of its path. -/
theorem parameters_linkRule (bound : r.binding = .ok b) {linked : LinkedBinding}
    (success : c.linkRule request r = .ok linked) :
    List.Forall₂ (c.LinksVariable request) (pathVariables b.path) linked.parameters := by
  have links := linksRule_of_linkRule success
  have same := links.binding
  rw [bound, Except.ok.injEq] at same
  subst same
  exact links.parameters

/-- Where the path of a rule is made of plain pieces, and the trimmed name of each group among them
    leads to a field, the rule is linked, with these names for its parameters, in their order and
    as often as they occur.  Whatever the path is, it reads as pieces of which the groups are its
    variables, so that none is made up, moved or swallowed, and no variable holds an equals sign or
    a closing brace. -/
theorem linkRule_variables (c : Catalog) (request : MessageEntry) (r : HttpRule) (b : HttpBinding)
    (bound : r.binding = .ok b) :
    (∀ pieces, (∀ p ∈ pieces, p.IsPlain) → b.path.toList = pathText pieces →
      (∀ g ∈ pathGroups pieces, ∃ fields, c.fieldPath request g.variableName = .ok fields) →
      ∃ linked, c.linkRule request r = .ok linked ∧
        List.Forall₂ (c.LinksVariable request) ((pathGroups pieces).map (·.variableName))
          linked.parameters) ∧
    ∃ pieces, ReadsAs b.path.toList pieces ∧ pathText pieces = b.path.toList ∧
      pathVariables b.path = (pathGroups pieces).map (·.variableName) ∧
      (∀ name ∈ pathVariables b.path, '\x7d' ∉ name.toList ∧ '=' ∉ name.toList) ∧
      ∀ linked, c.linkRule request r = .ok linked →
        List.Forall₂ (c.LinksVariable request) (pathVariables b.path) linked.parameters := by
  constructor
  · intro pieces plain written leads
    have named : pathVariables b.path = (pathGroups pieces).map (·.variableName) :=
      pathVariables_eq (written ▸ pathVariablesFrom_pathText plain)
    have resolves : c.Resolves request b.path := by
      intro name member
      rw [named] at member
      obtain ⟨g, among, rfl⟩ := List.mem_map.mp member
      exact leads g among
    obtain ⟨linked, success⟩ := exists_linkRule bound resolves
    exact ⟨linked, success, named ▸ parameters_linkRule bound success⟩
  · obtain ⟨pieces, reads⟩ := exists_readsAs b.path.toList
    have named : pathVariables b.path = (pathGroups pieces).map (·.variableName) :=
      pathVariables_eq reads.pathVariablesFrom_eq
    refine ⟨pieces, reads, reads.pathText_eq, named, ?_, ?_⟩
    · intro name member
      rw [named] at member
      obtain ⟨g, among, rfl⟩ := List.mem_map.mp member
      exact (reads.wellFormed g among).variableName
    · exact fun linked success => parameters_linkRule bound success

/-- A path with a stray closing brace, a name between blanks, a pattern, and a variable that occurs
    twice. -/
theorem linkRule_variables_twice :
    let file : SourceFile :=
      ⟨⟨"a.proto", some "p", none, none, [], [], [], []⟩, ⟨"a_pb2", "p", none⟩⟩
    let message : MessageEntry := ⟨file, [],
      ⟨"M", [⟨"id", .int64, "", .optional⟩, ⟨"inner", .message, "M", .optional⟩], [], []⟩, 0⟩
    let c : Catalog := { empty "" [] with messages := [(".p.M", message)] }
    let r : HttpRule := ⟨some (.standard .get
      "/v\x7d=1/\x7b id \x7d/\x7binner.id=a/*\x7d:\x7bid\x7d"), "", "", []⟩
    ∃ linked, c.linkRule message r = .ok linked ∧
      linked.parameters.map (·.name) = ["id", "inner.id", "id"] := by
  intro file message c r
  let pieces : List PathPiece := [.literal "/v\x7d=1/".toList, .group ⟨" id ".toList, none⟩,
    .literal ['/'], .group ⟨"inner.id".toList, some "a/*".toList⟩, .literal [':'],
    .group ⟨"id".toList, none⟩]
  have groups : (pathGroups pieces).map (·.variableName) = ["id", "inner.id", "id"] := by
    decide +kernel
  have plain : ∀ p ∈ pieces, p.IsPlain := by decide +kernel
  have written : "/v\x7d=1/\x7b id \x7d/\x7binner.id=a/*\x7d:\x7bid\x7d".toList =
      pathText pieces := by decide +kernel
  have leads : ∀ g ∈ pathGroups pieces,
      ∃ fields, c.fieldPath message g.variableName = .ok fields := by
    have all : ∀ g ∈ pathGroups pieces, (c.fieldPath message g.variableName).isOk := by
      decide +kernel
    exact fun g among => exists_ok_of_isOk (all g among)
  obtain ⟨linked, success, parameters⟩ :=
    (linkRule_variables c message r _ rfl).1 pieces plain written leads
  have names := List.forall₂_map_right_iff.mpr (parameters.imp fun _ _ links => links.name.symm)
  rw [List.forall₂_eq_eq_eq] at names
  exact ⟨linked, success, names.symm.trans groups⟩

end Catalog

end HttpAdapter
