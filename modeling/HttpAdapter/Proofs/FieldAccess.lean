import HttpAdapter.Proofs.Grammar.Names
import HttpAdapter.Proofs.Rendering.Docstring

/-!
The expressions that take fields out of a value, as syntax: `Selection`.  Their reader goes from
left to right and counts the calls that are open, and it accepts exactly what they spell,
`read?_eq_some_iff`.  So the text that follows a path of fields from an expression is read as the
steps along the path in their order, each behind a dot or by its text, `access_selects`.
-/

namespace HttpAdapter

open Grammar Text

/-- A value, or a member of it, or a member of that: members are named behind a dot or by a text. -/
inductive Selection where
  | root (name : String)
  | dotted (whole : Selection) (name : String)
  | byText (whole : Selection) (name : String)
  deriving DecidableEq, Repr

namespace Selection

/-- How a selection is spelled. -/
def text : Selection → String
  | root name => name
  | dotted whole name => whole.text ++ "." ++ name
  | byText whole name => "getattr(" ++ whole.text ++ ", '" ++ name ++ "')"

/-- What stands by itself or behind a dot is a name, what is quoted any identifier. -/
def IsProper : Selection → Prop
  | root name => isName name = true
  | dotted whole name => whole.IsProper ∧ isName name = true
  | byText whole name => whole.IsProper ∧ isIdentifier name.toList = true

/-- The characters of names that a text begins with. -/
def wordOf (cs : List Char) : String := String.ofList (cs.takeWhile isNameChar)

/-- What stands behind them. -/
def behindWord (cs : List Char) : List Char := cs.dropWhile isNameChar

theorem length_behindWord_le (cs : List Char) : (behindWord cs).length ≤ cs.length :=
  (List.dropWhile_sublist isNameChar).length_le

/-- Reads what is selected from a selection inside so many calls that are still open. -/
def readOnward : Nat → Selection → List Char → Option Selection
  | 0, whole, [] => some whole
  | calls, whole, '.' :: cs =>
      if isName (wordOf cs) then readOnward calls (dotted whole (wordOf cs)) (behindWord cs)
      else none
  | calls + 1, whole, ',' :: ' ' :: '\'' :: cs =>
      match _ : behindWord cs with
      | '\'' :: ')' :: rest =>
          if isIdentifier (wordOf cs).toList then readOnward calls (byText whole (wordOf cs)) rest
          else none
      | _ => none
  | _, _, _ => none
termination_by _ _ cs => cs.length
decreasing_by
  · exact Nat.lt_succ_of_le (length_behindWord_le cs)
  · have shorter := length_behindWord_le cs
    simp only [‹behindWord cs = _›, List.length_cons] at shorter ⊢
    omega

/-- Reads a selection inside so many calls that are still open. -/
def readFrom (calls : Nat) (cs : List Char) : Option Selection :=
  match h : behindWord cs with
  | '(' :: rest => if wordOf cs = "getattr" then readFrom (calls + 1) rest else none
  | rest => if isName (wordOf cs) then readOnward calls (root (wordOf cs)) rest else none
termination_by cs.length
decreasing_by
  have shorter := length_behindWord_le cs
  simp only [h, List.length_cons] at shorter ⊢
  omega

/-- Reads a selection. -/
def read? (text : String) : Option Selection := readFrom 0 text.toList

theorem wordOf_append_behindWord (cs : List Char) : (wordOf cs).toList ++ behindWord cs = cs := by
  rw [wordOf, String.toList_ofList, behindWord, List.takeWhile_append_dropWhile]

/-- The calls that are open in front of a selection. -/
def openCalls : Nat → List Char
  | 0 => []
  | calls + 1 => openCalls calls ++ "getattr(".toList

/-- What has been read is spelled by what it was read from. -/
theorem readOnward_eq_some {calls : Nat} {whole x : Selection} {cs : List Char}
    (read : readOnward calls whole cs = some x) (proper : whole.IsProper) :
    x.IsProper ∧ x.text.toList = openCalls calls ++ whole.text.toList ++ cs := by
  fun_induction readOnward calls whole cs with
  | case1 whole =>
      cases read
      exact ⟨proper, by simp [openCalls]⟩
  | case2 calls whole cs named ih =>
      obtain ⟨shape, spelled⟩ := ih read ⟨proper, named⟩
      refine ⟨shape, ?_⟩
      -- only the text still to be read is taken apart: the name in the selection is of it, too
      conv_rhs => rw [← wordOf_append_behindWord cs]
      rw [spelled]
      simp [text]
  | case4 calls whole cs rest behind named ih =>
      obtain ⟨shape, spelled⟩ := ih read ⟨proper, named⟩
      refine ⟨shape, ?_⟩
      conv_rhs => rw [← wordOf_append_behindWord cs, behind]
      rw [spelled]
      simp [text, openCalls]
  | _ => exact nomatch read

theorem readFrom_eq_some {calls : Nat} {x : Selection} {cs : List Char}
    (read : readFrom calls cs = some x) :
    x.IsProper ∧ x.text.toList = openCalls calls ++ cs := by
  fun_induction readFrom calls cs with
  | case1 calls cs rest behind call ih =>
      obtain ⟨shape, spelled⟩ := ih read
      refine ⟨shape, ?_⟩
      rw [spelled, ← wordOf_append_behindWord cs, behind, call]
      simp [openCalls]
  | case3 calls cs named =>
      have onward := readOnward_eq_some read named
      rwa [text, List.append_assoc, wordOf_append_behindWord] at onward
  | _ => exact nomatch read

/-- The characters of a name end where one follows that stands in no name. -/
theorem word_append {name : String} (inner : ∀ c ∈ name.toList, isNameChar c = true)
    {cs : List Char} (ends : ∀ c ∈ cs.head?, isNameChar c = false) :
    wordOf (name.toList ++ cs) = name ∧ behindWord (name.toList ++ cs) = cs := by
  rw [wordOf, behindWord, List.takeWhile_append_of_pos inner, List.dropWhile_append_of_pos inner]
  cases cs with
  | nil => simp
  | cons c cs => simp [ends c rfl]

/-- Where a selection goes on, or an argument ends that it is, no name goes on. -/
def EndsName (cs : List Char) : Prop := ∀ c ∈ cs.head?, c = '.' ∨ c = ','

theorem EndsName.not_isNameChar {cs : List Char} (ends : EndsName cs) :
    ∀ c ∈ cs.head?, isNameChar c = false := by
  intro c first
  rcases ends c first with rfl | rfl <;> decide

theorem readFrom_root {name : String} (named : isName name = true) (calls : Nat) {cs : List Char}
    (ends : EndsName cs) :
    readFrom calls (name.toList ++ cs) = readOnward calls (root name) cs := by
  obtain ⟨word, behind⟩ := word_append (fun _ => isNameChar_of_isName named) ends.not_isNameChar
  rw [readFrom]
  split
  · next rest call =>
      rw [behind] at call
      exact absurd (ends '(' (by simp [call])) (by decide)
  · rw [word, behind, if_pos named]

theorem readFrom_call (calls : Nat) (cs : List Char) :
    readFrom calls ("getattr(".toList ++ cs) = readFrom (calls + 1) cs := by
  have letters : "getattr".toList.all isNameChar = true := by decide +kernel
  have paren : ∀ c ∈ ('(' :: cs).head?, isNameChar c = false := by
    rintro c ⟨⟩
    decide
  obtain ⟨word, behind⟩ := word_append (List.all_eq_true.mp letters) paren
  have call : "getattr(".toList ++ cs = "getattr".toList ++ '(' :: cs := by simp
  rw [call, readFrom]
  split
  · next rest opened =>
      rw [behind, List.cons.injEq] at opened
      rw [if_pos word, opened.2]
  · next unopened => exact absurd behind (unopened cs)

theorem readOnward_dotted {name : String} (named : isName name = true) (calls : Nat)
    (whole : Selection) {cs : List Char} (ends : EndsName cs) :
    readOnward calls whole ('.' :: (name.toList ++ cs)) =
      readOnward calls (dotted whole name) cs := by
  obtain ⟨word, behind⟩ := word_append (fun _ => isNameChar_of_isName named) ends.not_isNameChar
  rw [readOnward, word, behind, if_pos named]

theorem readOnward_byText {name : String} (named : isIdentifier name.toList = true) (calls : Nat)
    (whole : Selection) (cs : List Char) :
    readOnward (calls + 1) whole (", '".toList ++ (name.toList ++ ("')".toList ++ cs))) =
      readOnward calls (byText whole name) cs := by
  have quote : ∀ c ∈ ("')".toList ++ cs).head?, isNameChar c = false := by
    rintro c ⟨⟩
    decide
  obtain ⟨word, behind⟩ := word_append (fun _ => isNameChar_of_mem named) quote
  show readOnward (calls + 1) whole (',' :: ' ' :: '\'' :: (name.toList ++ ("')".toList ++ cs))) = _
  rw [readOnward]
  split
  · next rest closed =>
      have ended : ')' :: cs = ')' :: rest := List.cons.inj (behind.symm.trans closed) |>.2
      rw [word, if_pos named, (List.cons.inj ended).2]
  · next unclosed => exact absurd behind (unclosed cs)

/-- A selection is read from its spelling, whatever stands behind it. -/
theorem readFrom_text (x : Selection) (proper : x.IsProper) (calls : Nat) (cs : List Char)
    (ends : EndsName cs) : readFrom calls (x.text.toList ++ cs) = readOnward calls x cs := by
  induction x generalizing calls cs with
  | root name => exact readFrom_root proper calls ends
  | dotted whole name ih =>
      have dot : EndsName ('.' :: (name.toList ++ cs)) := by
        rintro c ⟨⟩
        exact .inl rfl
      rw [← readOnward_dotted proper.2 calls whole ends, ← ih proper.1 calls _ dot]
      simp [text]
  | byText whole name ih =>
      -- the selection in front of the comma stands inside one call more
      have comma : EndsName (", '".toList ++ (name.toList ++ ("')".toList ++ cs))) := by
        rintro c ⟨⟩
        exact .inr rfl
      rw [← readOnward_byText proper.2 calls whole cs, ← ih proper.1 (calls + 1) _ comma,
        ← readFrom_call]
      simp [text]

/-- A text is read as a selection exactly if it is the spelling of it. -/
theorem read?_eq_some_iff {t : String} {x : Selection} :
    read? t = some x ↔ x.IsProper ∧ x.text = t := by
  constructor
  · intro read
    exact (readFrom_eq_some read).imp id fun spelled => String.toList_inj.mp spelled
  · rintro ⟨proper, rfl⟩
    have read : readFrom 0 (x.text.toList ++ []) = readOnward 0 x [] :=
      readFrom_text x proper 0 [] (by simp [EndsName])
    rwa [List.append_nil, readOnward] at read

/-- One step from a value to a member of it: which one, and whether it is named by a text. -/
structure Step where
  name : String
  byText : Bool
  deriving DecidableEq, Repr

/-- The member that a step leads to. -/
def take (whole : Selection) (s : Step) : Selection :=
  if s.byText then byText whole s.name else dotted whole s.name

/-- What steps lead to in their order. -/
def along (whole : Selection) (steps : List Step) : Selection := steps.foldl take whole

/-- A step to an identifier that is named by a text, if it is a reserved word. -/
def Step.IsProper (s : Step) : Prop :=
  isIdentifier s.name.toList = true ∧ (s.byText = false → isKeyword s.name.toList = false)

theorem IsProper.take {whole : Selection} {s : Step} (proper : whole.IsProper)
    (step : s.IsProper) : (whole.take s).IsProper := by
  unfold Selection.take
  split
  · exact ⟨proper, step.1⟩
  · next dotted => exact ⟨proper, by simp [isName, step.1, step.2 (by simpa using dotted)]⟩

theorem IsProper.along {whole : Selection} {steps : List Step} (proper : whole.IsProper)
    (all : ∀ s ∈ steps, s.IsProper) : (whole.along steps).IsProper := by
  induction steps generalizing whole with
  | nil => exact proper
  | cons s steps ih =>
      rw [List.forall_mem_cons] at all
      exact ih (proper.take all.1) all.2

end Selection

/-- The step to a field, which is the last of its path or not. -/
def FieldEntry.step (f : FieldEntry) (isLast : Bool) : Selection.Step :=
  ⟨f.name, (!isLast && f.message.file.decl.isProto2) || isKeyword f.name.toList⟩

namespace FieldPath

/-- The steps along a path. -/
def steps : FieldPath → List Selection.Step
  | [] => []
  | [f] => [f.step true]
  | f :: g :: p => f.step false :: steps (g :: p)

theorem getElem?_steps (p : FieldPath) (i : Nat) :
    p.steps[i]? = p[i]?.map fun f => f.step (i + 1 = p.length) := by
  fun_induction steps p generalizing i with
  | case1 => rfl
  | case2 f => cases i <;> simp
  | case3 f g p ih =>
      cases i with
      | zero => simp
      | succ i => simp [ih]

end FieldPath

theorem attributeByText_text {name : String} (named : isIdentifier name.toList = true)
    (x : Selection) : attributeByText x.text name = (x.byText name).text := by
  apply String.toList_inj.mp
  simp [attributeByText, quoted_of_isIdentifier named, Selection.text]

section Steps

variable {f : FieldEntry} (named : isIdentifier f.name.toList = true)

include named

theorem isProper_step (isLast : Bool) : (f.step isLast).IsProper :=
  ⟨named, fun dotted => (Bool.or_eq_false_iff.mp dotted).2⟩

theorem access_text (x : Selection) : f.access x.text = (x.take (f.step true)).text := by
  unfold FieldEntry.access FieldEntry.step
  cases isKeyword f.name.toList with
  | true => exact attributeByText_text named x
  | false => rfl

theorem accessOnward_text (x : Selection) :
    f.accessOnward x.text = (x.take (f.step false)).text := by
  have last := access_text named x
  unfold FieldEntry.accessOnward FieldEntry.step at *
  cases f.message.file.decl.isProto2 with
  | true => exact attributeByText_text named x
  | false => exact last

end Steps

section Paths

variable {p : FieldPath} (named : ∀ f ∈ p, isIdentifier f.name.toList = true)

include named

theorem isProper_steps : ∀ s ∈ p.steps, s.IsProper := by
  fun_induction FieldPath.steps p with
  | case1 => exact List.forall_mem_nil _
  | case2 f => exact List.forall_mem_singleton.mpr (isProper_step (named f (by simp)) true)
  | case3 f g p ih =>
      rw [List.forall_mem_cons] at named ⊢
      exact ⟨isProper_step named.1 false, ih named.2⟩

/-- A path leads from a selection along its steps. -/
theorem pathAccess_text (x : Selection) : p.access x.text = (x.along p.steps).text := by
  fun_induction FieldPath.steps p generalizing x with
  | case1 => rfl
  | case2 f => exact access_text (named f (by simp)) x
  | case3 f g p ih =>
      rw [List.forall_mem_cons] at named
      rw [FieldPath.access, accessOnward_text named.1, ih named.2]
      rfl

end Paths

theorem isProto2_iff {f : FileDecl} :
    f.isProto2 = true ↔ f.edition = none ∨ f.edition = some "proto2" := by
  unfold FileDecl.isProto2
  cases f.edition <;> simp

/-- What follows a path of identifiers from a selection is the spelling of one selection only, which
    is what it is read as: the one that leads on from there along a step for each field, of the name
    of it.  A reserved word never stands behind a dot.  A step is named by a text exactly if its
    name is a reserved word, or if it is not the last and its field is of a file in the second
    version of the language, whatever the files of the other fields are written in. -/
theorem access_selects {p : FieldPath} (named : ∀ f ∈ p, isIdentifier f.name.toList = true)
    {x : Selection} (proper : x.IsProper) :
    ∃ steps : List Selection.Step,
      Selection.read? (p.access x.text) = some (x.along steps) ∧
      (∀ y : Selection, y.IsProper → y.text = p.access x.text → y = x.along steps) ∧
      steps.map (·.name) = p.map (·.name) ∧
      (∀ s ∈ steps, s.byText = false → isKeyword s.name.toList = false) ∧
      ∀ i s f, steps[i]? = some s → p[i]? = some f →
        (s.byText = true ↔ isKeyword f.name.toList = true ∨
          (i + 1 < p.length ∧ (f.message.file.decl.edition = none ∨
            f.message.file.decl.edition = some "proto2"))) := by
  have read : Selection.read? (p.access x.text) = some (x.along p.steps) :=
    Selection.read?_eq_some_iff.mpr
      ⟨proper.along (isProper_steps named), (pathAccess_text named x).symm⟩
  refine ⟨p.steps, read, ?_, ?_, fun s member => (isProper_steps named s member).2, ?_⟩
  · intro y shape spelled
    have again := Selection.read?_eq_some_iff.mpr ⟨shape, spelled⟩
    exact Option.some.inj (again.symm.trans read)
  · apply List.ext_getElem?
    intro i
    simp [FieldPath.getElem?_steps, FieldEntry.step, Function.comp_def]
  · intro i s f step field
    have inside : i < p.length := (List.getElem?_eq_some_iff.mp field).1
    rw [FieldPath.getElem?_steps, field, Option.map_some, Option.some.injEq] at step
    subst step
    have last : i + 1 ≠ p.length ↔ i + 1 < p.length := by omega
    simp [FieldEntry.step, ← isProto2_iff, last, or_comm]

/-- A path of three fields from a file that names no version into one in the third version. -/
theorem access_selects_across_versions :
    let older : SourceFile := ⟨⟨"a.proto", none, none, none, [], [], [], []⟩, ⟨"a_pb2", "a", none⟩⟩
    let newer : SourceFile :=
      ⟨⟨"b.proto", none, some "proto3", none, [], [], [], []⟩, ⟨"b_pb2", "b", none⟩⟩
    let p : FieldPath :=
      [⟨⟨older, [], ⟨"A", [], [], []⟩, 0⟩, ⟨"b", .message, ".B", .optional⟩⟩,
        ⟨⟨newer, [], ⟨"B", [], [], []⟩, 0⟩, ⟨"c", .message, ".C", .optional⟩⟩,
        ⟨⟨newer, [], ⟨"C", [], [], []⟩, 1⟩, ⟨"class", .string, "", .optional⟩⟩]
    let x : Selection := .root "arg"
    (∀ f ∈ p, isIdentifier f.name.toList = true) ∧ x.IsProper ∧
      p.access x.text = "getattr(getattr(arg, 'b').c, 'class')" ∧
      Selection.read? (p.access x.text) = some (((x.byText "b").dotted "c").byText "class") := by
  intro older newer p x
  have named : ∀ f ∈ p, isIdentifier f.name.toList = true := by decide +kernel
  have proper : x.IsProper := show isName "arg" = true by decide +kernel
  have shape : (((x.byText "b").dotted "c").byText "class").IsProper :=
    ⟨⟨⟨proper, by decide +kernel⟩, by decide +kernel⟩, by decide +kernel⟩
  have spelled : (((x.byText "b").dotted "c").byText "class").text = p.access x.text := by
    decide +kernel
  obtain ⟨steps, read, unique, -⟩ := access_selects named proper
  exact ⟨named, proper, by decide +kernel, by rw [read, unique _ shape spelled]⟩

end HttpAdapter
