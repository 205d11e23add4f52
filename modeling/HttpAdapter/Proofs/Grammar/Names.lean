import HttpAdapter.Proofs.Grammar.Lexing
import HttpAdapter.Proofs.ModulePath

/-!
Names of the language made from others.  What is added to a name may be any characters of names, as
long as one of them is in no reserved word: a capital letter, a digit or an underscore will do.
-/

namespace HttpAdapter.Grammar

open HttpAdapter.Text

variable {name : String}

theorem isNameChar_of_isName (named : isName name = true) {c : Char} (member : c ∈ name.toList) :
    isNameChar c = true :=
  isNameChar_of_mem (isIdentifier_of_isName named) member

/-- A name holds none of the characters that stand in no name. -/
theorem not_mem_of_isName (named : isName name = true) {c : Char} (other : isNameChar c = false) :
    c ∉ name.toList :=
  fun member => ne_of_isNameChar (isNameChar_of_isName named member) other rfl

theorem ne_lineEnd_of_isName (named : isName name = true) :
    ∀ c ∈ name.toList, c ≠ '\n' ∧ c ≠ '\r' := by
  intro c member
  have inner := isNameChar_of_isName named member
  exact ⟨ne_of_isNameChar inner (by decide), ne_of_isNameChar inner (by decide)⟩

theorem ne_empty_of_isName (named : isName name = true) : name.toList ≠ [] := by
  obtain ⟨first, others, letters, -⟩ := exists_start_of_isName named
  rw [letters]
  exact List.cons_ne_nil first others

/-- A name ends in a visible character. -/
theorem trimEndChars_of_isName (named : isName name = true) :
    trimEndChars name.toList = name.toList := by
  rcases List.eq_nil_or_concat' name.toList with empty | ⟨front, last, letters⟩
  · exact absurd empty (ne_empty_of_isName named)
  · rw [letters]
    apply trimEndChars_append_singleton
    exact isBlank_of_isNameChar (isNameChar_of_isName named (by simp [letters]))

/-- An identifier with more characters of names behind it is a name, if one of them is foreign. -/
theorem isName_append {front back : String} (identifier : isIdentifier front.toList = true)
    (inner : ∀ c ∈ back.toList, isNameChar c = true) {c : Char} (foreign : isForeign c = true)
    (member : c ∈ (front ++ back).toList) : isName (front ++ back) = true := by
  have free := isKeyword_of_isForeign foreign member
  rw [String.toList_append] at free
  rw [isName, String.toList_append, isIdentifier_append identifier inner, free]
  rfl

/-- A name with a fixed text of such characters behind it. -/
theorem isName_append_fixed (named : isName name = true) {ending : String}
    (inner : ending.toList.all isNameChar = true) {c : Char} (foreign : isForeign c = true)
    (member : c ∈ ending.toList) : isName (name ++ ending) = true := by
  refine isName_append (isIdentifier_of_isName named) (List.all_eq_true.mp inner) foreign ?_
  rw [String.toList_append]
  exact List.mem_append_right _ member

/-- A name between two fixed texts of such characters. -/
theorem isName_enclosed (named : isName name = true) {front ending : String}
    (identifier : isIdentifier front.toList = true) (inner : ending.toList.all isNameChar = true)
    {c : Char} (foreign : isForeign c = true) (member : c ∈ front.toList) :
    isName (front ++ name ++ ending) = true := by
  rw [String.append_assoc]
  refine isName_append identifier ?_ foreign ?_
  · intro d inside
    rw [String.toList_append, List.mem_append] at inside
    rcases inside with inName | inEnding
    · exact isNameChar_of_isName named inName
    · exact List.all_eq_true.mp inner d inEnding
  · rw [String.toList_append]
    exact List.mem_append_left _ member

/-- Names with dots between them. -/
def IsDotted (text : String) : Prop :=
  ∃ first others, text = join '.' (first :: others) ∧ isName first = true ∧
    ∀ name ∈ others, isName name = true

theorem isDotted_join {names : List String} (some : names ≠ [])
    (named : ∀ name ∈ names, isName name = true) : IsDotted (join '.' names) := by
  obtain ⟨first, others, rfl⟩ := List.exists_cons_of_ne_nil some
  rw [List.forall_mem_cons] at named
  exact ⟨first, others, rfl, named.1, named.2⟩

theorem isDotted_iff {text : String} :
    IsDotted text ↔ ∀ name ∈ split '.' text, isName name = true := by
  constructor
  · rintro ⟨first, others, rfl, named, rest⟩
    have all : ∀ name ∈ first :: others, isName name = true :=
      List.forall_mem_cons.mpr ⟨named, rest⟩
    rw [split_join (List.cons_ne_nil first others) fun name member =>
      not_mem_of_isName (all name member) (by decide)]
    exact all
  · intro all
    rw [← @join_split '.' text]
    exact isDotted_join (by simp [split]) all

instance (text : String) : Decidable (IsDotted text) := decidable_of_iff _ isDotted_iff.symm

end HttpAdapter.Grammar
