import Mathlib.Data.List.Basic
import HttpAdapter.FieldPath
import HttpAdapter.Proofs.Grammar.LongLiteral
import HttpAdapter.Proofs.Text.LetterCase
import HttpAdapter.Rendering.Server

/-!
What the texts in a docstring do to a reader of it.  An escaped line never stops the reader, and
neither does a path through fields with proper names nor the expression for it.
-/

namespace HttpAdapter

open Grammar Text

/-- An escaped text never stops the reader, unless quotes in front of it complete a run. -/
theorem readLiteral_escapeDocstringChars [Interpreter] {cs : List Char} {run : Nat}
    (few : run = 0 ∨ run + (cs.takeWhile (· = '"')).length ≤ 2) :
    ∃ run', readLiteral ⟨.plain, run⟩ (escapeDocstringChars cs) = some ⟨.plain, run'⟩ := by
  fun_induction escapeDocstringChars cs generalizing run with
  | case1 => exact ⟨run, rfl⟩
  | case2 cs ih => exact ih (Or.inl rfl)
  | case3 cs ih => exact ih (Or.inl rfl)
  | case4 c cs notTriple plain ih =>
      by_cases quote : c = '"'
      · subst quote
        -- A quote that stays begins no run of three, so at most one more follows it.
        have room : run + 1 + (cs.takeWhile (· = '"')).length ≤ 2 := by
          rcases few with rfl | few
          · match cs with
            | [] => simp
            | d :: [] => by_cases first : d = '"' <;> simp [first]
            | d :: e :: ds =>
                by_cases first : d = '"' <;> by_cases second : e = '"' <;>
                  simp_all
          · simp at few
            omega
        have notFull : run ≠ 2 := by omega
        rw [readLiteral_cons]
        simpa [LiteralPart.step, notFull] using ih (Or.inr room)
      · have noBackslash : c ≠ '\\' := plain
        rw [readLiteral_cons]
        simpa [LiteralPart.step, quote, EscapePart.step, noBackslash] using ih (Or.inl rfl)

/-- Whether a text is a name of the interface language: an identifier within ASCII. -/
def isDeclaredName (name : String) : Bool :=
  isIdentifier name.toList && name.toList.all (·.toNat < 128)

/-- A text of one line that may stand in a docstring as it is. -/
def IsPlain (s : String) : Prop := ∀ c ∈ s.toList, c ∉ breaks

-- Goes through the characters of the text; a search may settle on going through all characters.
instance (s : String) : Decidable (IsPlain s) := List.decidableBAll (· ∉ breaks) s.toList

theorem IsPlain.ne {s : String} (plain : IsPlain s) : ∀ c ∈ s.toList, c ≠ '"' ∧ c ≠ '\\' := by
  intro c member
  have other := plain c member
  simp only [breaks, List.mem_cons, List.not_mem_nil, or_false, not_or] at other
  exact ⟨other.1, other.2.1⟩

theorem IsPlain.ne_lineEnd {s : String} (plain : IsPlain s) :
    ∀ c ∈ s.toList, c ≠ '\n' ∧ c ≠ '\r' := by
  intro c member
  have other := plain c member
  simp only [breaks, List.mem_cons, List.not_mem_nil, or_false, not_or] at other
  exact ⟨other.2.2.1, other.2.2.2.1⟩

theorem isPlain_append {s t : String} (left : IsPlain s) (right : IsPlain t) :
    IsPlain (s ++ t) := by
  intro c member
  rw [String.toList_append, List.mem_append] at member
  exact member.elim (left c) (right c)

theorem isIdentifier_of_isDeclaredName {name : String} (declared : isDeclaredName name = true) :
    isIdentifier name.toList = true := by
  rw [isDeclaredName, Bool.and_eq_true] at declared
  exact declared.1

/-- A character of a name stands for itself between single quotes. -/
theorem quoteChar_of_isNameChar {c : Char} (inner : isNameChar c = true) :
    quoteChar '\'' c = [c] := by
  have noQuote : c ≠ '\'' := ne_of_isNameChar inner (by decide)
  have noBackslash : c ≠ '\\' := ne_of_isNameChar inner (by decide)
  have noFeed : c ≠ '\n' := ne_of_isNameChar inner (by decide)
  have noReturn : c ≠ '\r' := ne_of_isNameChar inner (by decide)
  have noTab : c ≠ '\t' := ne_of_isNameChar inner (by decide)
  simp [quoteChar, noQuote, noBackslash, noFeed, noReturn, noTab, isPrintable_of_isNameChar inner]

theorem isPlain_of_isIdentifier {name : String} (named : isIdentifier name.toList = true) :
    IsPlain name := by
  intro c member
  exact not_mem_breaks_of_isNameChar (isNameChar_of_mem named member)

/-- An identifier stands between single quotes as it is. -/
theorem quoted_of_isIdentifier {name : String} (named : isIdentifier name.toList = true) :
    quoted name = "'" ++ name ++ "'" := by
  have single : chooseQuote name.toList = '\'' := by
    have absent : '\'' ∉ name.toList := by
      intro member
      exact absurd (isNameChar_of_mem named member) (by decide)
    simp [chooseQuote, absent]
  have letters : name.toList.flatMap (quoteChar '\'') = name.toList := by
    rw [List.flatMap_congr fun c member => quoteChar_of_isNameChar (isNameChar_of_mem named member),
      List.flatMap_singleton']
  apply String.toList_inj.mp
  simp [quoted, single, letters]

theorem isPlain_quoted {name : String} (named : isIdentifier name.toList = true) :
    IsPlain (quoted name) := by
  rw [quoted_of_isIdentifier named]
  exact isPlain_append (isPlain_append (by decide) (isPlain_of_isIdentifier named)) (by decide)

theorem isPlain_access {f : FieldEntry} {expr : String} (named : isIdentifier f.name.toList = true)
    (plain : IsPlain expr) : IsPlain (f.access expr) ∧ IsPlain (f.accessOnward expr) := by
  have byText : IsPlain (attributeByText expr f.name) :=
    isPlain_append (isPlain_append (isPlain_append (isPlain_append (by decide) plain) (by decide))
      (isPlain_quoted named)) (by decide)
  have byName : IsPlain (f.access expr) := by
    unfold FieldEntry.access
    split
    · exact byText
    · exact isPlain_append (isPlain_append plain (by decide)) (isPlain_of_isIdentifier named)
  refine ⟨byName, ?_⟩
  unfold FieldEntry.accessOnward
  split
  · exact byText
  · exact byName

theorem isPlain_pathAccess {p : FieldPath} {expr : String}
    (named : ∀ f ∈ p, isIdentifier f.name.toList = true) (plain : IsPlain expr) :
    IsPlain (p.access expr) := by
  fun_induction FieldPath.access p expr with
  | case1 => exact plain
  | case2 f expr => exact (isPlain_access (named f (by simp)) plain).1
  | case3 f g p expr ih =>
      rw [List.forall_mem_cons] at named
      exact ih named.2 (isPlain_access named.1 plain).2

theorem isPlain_join {parts : List String} (plain : ∀ s ∈ parts, IsPlain s) :
    IsPlain (join '.' parts) := by
  induction parts with
  | nil => decide
  | cons first parts ih =>
      rw [List.forall_mem_cons] at plain
      cases parts with
      | nil =>
          intro c member
          exact plain.1 c (by simpa using member)
      | cons second parts =>
          intro c member
          rw [toList_join, List.map_cons, List.map_cons, List.intercalate_cons_cons,
            List.mem_append, List.mem_append, ← List.map_cons, ← toList_join] at member
          rcases member with (inFirst | dot) | inRest
          · exact plain.1 c inFirst
          · rw [List.mem_singleton] at dot
            rw [dot]
            decide
          · exact ih plain.2 c inRest

theorem isPlain_render {p : FieldPath} (named : ∀ f ∈ p, isIdentifier f.name.toList = true) :
    IsPlain p.render := by
  apply isPlain_join
  intro name member
  obtain ⟨f, inPath, rfl⟩ := List.mem_map.mp member
  exact isPlain_of_isIdentifier (named f inPath)

variable [Interpreter]

/-- A line that leaves a reader of a docstring where it is. -/
def LeavesReader (line : String) : Prop :=
  readLiteral .start (line.toList ++ ['\n']) = some .start

theorem leavesReader_of_plain {line : String} (plain : IsPlain line) : LeavesReader line := by
  rw [LeavesReader, readLiteral_append, readLiteral_of_plain plain.ne]
  rfl

/-- A text without quotes and backslashes in front of a line makes no difference. -/
theorem leavesReader_append {text line : String}
    (apart : ∀ c ∈ text.toList, c ≠ '"' ∧ c ≠ '\\') :
    LeavesReader (text ++ line) ↔ LeavesReader line := by
  rw [LeavesReader, String.toList_append, List.append_assoc, readLiteral_append,
    readLiteral_of_plain apart]
  rfl

theorem leavesReader_escapeDocstring (line : String) : LeavesReader (escapeDocstring line) := by
  have escaped : ∃ run, readLiteral ⟨.plain, 0⟩ (escapeDocstringChars line.toList) =
      some ⟨.plain, run⟩ := readLiteral_escapeDocstringChars (Or.inl rfl)
  obtain ⟨run, read⟩ := escaped
  rw [LeavesReader, escapeDocstring, String.toList_ofList, readLiteral_append]
  change (readLiteral ⟨.plain, 0⟩ _).bind _ = _
  rw [read]
  rfl

/-- So the lines of a comment, escaped and indented, leave the reader where it is. -/
theorem leavesReader_comment {indent : String} (plain : IsPlain indent) (comment : List String) :
    ∀ line ∈ comment.map (fun text => indent ++ escapeDocstring text), LeavesReader line := by
  intro line member
  obtain ⟨text, -, rfl⟩ := List.mem_map.mp member
  rw [leavesReader_append plain.ne]
  exact leavesReader_escapeDocstring text

end HttpAdapter
