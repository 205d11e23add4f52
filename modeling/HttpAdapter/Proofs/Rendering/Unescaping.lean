import HttpAdapter.Proofs.Rendering.Docstring

/-!
Reading back the text of a docstring, `escapeDocstring_reads_back`.  A reader that takes the
character behind each backslash for itself meets the text as it was, so different texts are escaped
differently; and it meets no three quotes in a row, so a line of escaped text leaves a docstring as
it is.
-/

namespace HttpAdapter

open Grammar Text

/-- A character of a literal as its reader meets it. -/
inductive LiteralChar where
  | bare (c : Char)
  /-- The character stands behind a backslash. -/
  | escaped (c : Char)
  deriving DecidableEq, Repr

/-- The character that stands in the text. -/
def LiteralChar.char : LiteralChar → Char
  | bare c | escaped c => c

/-- The characters of a literal from left to right, unless it ends behind a backslash. -/
def literalChars? : List Char → Option (List LiteralChar)
  | [] => some []
  | ['\\'] => none
  | '\\' :: c :: cs => (literalChars? cs).map (.escaped c :: ·)
  | c :: cs => (literalChars? cs).map (.bare c :: ·)

/-- The characters of a literal stand for a text.  Only backslashes and quotes are escaped, and no
    three quotes in a row are not. -/
structure StandFor (chars : List LiteralChar) (text : List Char) : Prop where
  apart : ¬ [.bare '"', .bare '"', .bare '"'] <:+: chars
  escapes : ∀ c, .escaped c ∈ chars → c = '\\' ∨ c = '"'
  text : chars.map (·.char) = text

/-- Replaces a text from left to right, after so many characters that are passed over. -/
def replaceFrom (old new : List Char) : Nat → List Char → List Char
  | _, [] => []
  | passed + 1, _ :: cs => replaceFrom old new passed cs
  | 0, c :: cs =>
      if old.isPrefixOf (c :: cs) then new ++ replaceFrom old new (old.length - 1) cs
      else c :: replaceFrom old new 0 cs

/-- One text in place of another, wherever that stands and does not overlap one that was replaced
    already. -/
def replaceAll (old new text : String) : String :=
  String.ofList (replaceFrom old.toList new.toList 0 text.toList)

namespace StandFor

variable {chars : List LiteralChar} {text : List Char} {c : Char}

theorem nil : StandFor [] [] := by
  refine ⟨by simp, ?_, rfl⟩
  intro c member
  cases member

theorem escaped (special : c = '\\' ∨ c = '"') (rest : StandFor chars text) :
    StandFor (.escaped c :: chars) (c :: text) := by
  refine ⟨?_, ?_, ?_⟩
  · rw [List.infix_cons_iff]
    rintro (first | later)
    · simp [List.cons_prefix_cons] at first
    · exact rest.apart later
  · intro d member
    rcases List.mem_cons.mp member with same | later
    · cases same
      exact special
    · exact rest.escapes d later
  · rw [List.map_cons, rest.text]
    rfl

/-- A quote may stand by itself if no two others follow. -/
theorem bare (few : c = '"' → ¬ ['"', '"'] <+: text) (rest : StandFor chars text) :
    StandFor (.bare c :: chars) (c :: text) := by
  refine ⟨?_, ?_, ?_⟩
  · rw [List.infix_cons_iff]
    rintro (first | later)
    · obtain ⟨same, others⟩ := List.cons_prefix_cons.mp first
      cases same
      have quotes := others.map LiteralChar.char
      rw [rest.text] at quotes
      exact few rfl quotes
    · exact rest.apart later
  · intro d member
    rcases List.mem_cons.mp member with same | later
    · cases same
    · exact rest.escapes d later
  · rw [List.map_cons, rest.text]
    rfl

end StandFor

theorem literalChars?_bare {c : Char} (plain : c ≠ '\\') (cs : List Char) :
    literalChars? (c :: cs) = (literalChars? cs).map (.bare c :: ·) := by
  cases cs with
  | nil => simp [literalChars?, plain]
  | cons d cs => simp [literalChars?, plain]

/-- A reader meets the text behind its escapes. -/
theorem exists_literalChars_escape (cs : List Char) :
    ∃ chars, literalChars? (escapeDocstringChars cs) = some chars ∧ StandFor chars cs := by
  fun_induction escapeDocstringChars cs with
  | case1 => exact ⟨[], rfl, .nil⟩
  | case2 cs ih =>
      obtain ⟨chars, read, rest⟩ := ih
      have quotes := ((rest.escaped (Or.inr rfl)).escaped (Or.inr rfl)).escaped (Or.inr rfl)
      exact ⟨_, by simp [literalChars?, read], quotes⟩
  | case3 cs ih =>
      obtain ⟨chars, read, rest⟩ := ih
      exact ⟨.escaped '\\' :: chars, by simp [literalChars?, read], rest.escaped (Or.inl rfl)⟩
  | case4 c cs notTriple plain ih =>
      obtain ⟨chars, read, rest⟩ := ih
      refine ⟨.bare c :: chars, by rw [literalChars?_bare plain, read]; rfl, rest.bare ?_⟩
      rintro rfl ⟨others, quotes⟩
      exact notTriple others rfl quotes.symm

/-- Different texts are escaped differently, since each of them can be read back. -/
theorem escapeDocstring_injective : Function.Injective escapeDocstring := by
  intro v w same
  have letters : escapeDocstringChars v.toList = escapeDocstringChars w.toList := by
    rw [escapeDocstring, escapeDocstring] at same
    simpa using congrArg String.toList same
  obtain ⟨chars, read, first⟩ := exists_literalChars_escape v.toList
  obtain ⟨others, read', second⟩ := exists_literalChars_escape w.toList
  rw [letters, read', Option.some.injEq] at read
  rw [← String.toList_inj, ← first.text, ← second.text, read]

section Replacing

/-- The characters with all backslashes doubled. -/
def doubleBackslashes (cs : List Char) : List Char :=
  cs.flatMap fun c => if c = '\\' then ['\\', '\\'] else [c]

theorem doubleBackslashes_cons {c : Char} (plain : c ≠ '\\') (cs : List Char) :
    doubleBackslashes (c :: cs) = c :: doubleBackslashes cs := by
  simp [doubleBackslashes, plain]

theorem replaceFrom_backslash (cs : List Char) :
    replaceFrom ['\\'] ['\\', '\\'] 0 cs = doubleBackslashes cs := by
  induction cs with
  | nil => rfl
  | cons c cs ih =>
      by_cases backslash : c = '\\'
      · simpa [replaceFrom, doubleBackslashes, backslash] using ih
      · simpa [replaceFrom, doubleBackslashes, backslash, Ne.symm backslash] using ih

/-- Doubling backslashes brings no quotes together. -/
theorem exists_of_quote_prefix {cs quotes : List Char}
    (begins : '"' :: quotes <+: doubleBackslashes cs) :
    ∃ rest, cs = '"' :: rest ∧ quotes <+: doubleBackslashes rest := by
  cases cs with
  | nil => simp [doubleBackslashes] at begins
  | cons c cs =>
      by_cases backslash : c = '\\'
      · simp [doubleBackslashes, backslash] at begins
      · rw [doubleBackslashes_cons backslash, List.cons_prefix_cons] at begins
        obtain ⟨rfl, begins⟩ := begins
        exact ⟨cs, rfl, begins⟩

/-- Escaping is to double the backslashes first, and then to escape the quotes of each run of
    three. -/
theorem escapeDocstringChars_eq (cs : List Char) :
    escapeDocstringChars cs =
      replaceFrom tripleQuote ['\\', '"', '\\', '"', '\\', '"'] 0 (doubleBackslashes cs) := by
  fun_induction escapeDocstringChars cs with
  | case1 => rfl
  | case2 cs ih =>
      rw [ih]
      rfl
  | case3 cs ih =>
      rw [ih]
      rfl
  | case4 c cs notTriple plain ih =>
      have apart : ¬ tripleQuote.isPrefixOf (c :: doubleBackslashes cs) = true := by
        rw [List.isPrefixOf_iff_prefix, tripleQuote, List.cons_prefix_cons]
        rintro ⟨rfl, two⟩
        obtain ⟨behind, rfl, one⟩ := exists_of_quote_prefix two
        obtain ⟨rest, rfl, -⟩ := exists_of_quote_prefix one
        exact notTriple rest rfl rfl
      rw [ih, doubleBackslashes_cons plain, replaceFrom, if_neg apart]

theorem escapeDocstring_eq (v : String) :
    escapeDocstring v =
      replaceAll "\"\"\"" "\\\"\\\"\\\"" (replaceAll "\\" "\\\\" v) := by
  simp only [escapeDocstring, escapeDocstringChars_eq, ← replaceFrom_backslash, replaceAll,
    String.toList_ofList]
  rfl

end Replacing

/-- Escaping doubles each backslash and then puts one in front of each quote of a run of three.
    Read from left to right, the escaped text has no three quotes in a row without backslashes, does
    not end behind a backslash, escapes backslashes and quotes only, and is the text that it was.
    So different texts are escaped differently, and in a literal with triple quotes a line of
    escaped text changes nothing about what follows it. -/
theorem escapeDocstring_reads_back [Interpreter] :
    (∀ v : String,
      escapeDocstring v =
        replaceAll "\"\"\"" "\\\"\\\"\\\"" (replaceAll "\\" "\\\\" v) ∧
      ∃ chars, literalChars? (escapeDocstring v).toList = some chars ∧ StandFor chars v.toList) ∧
    Function.Injective escapeDocstring ∧
    ∀ (v : String) (before after : List Char), ReadsAsLiteral before →
      (ReadsAsLiteral (before ++ (escapeDocstring v).toList ++ '\n' :: after) ↔
        ReadsAsLiteral after) := by
  refine ⟨?_, escapeDocstring_injective, ?_⟩
  · intro v
    refine ⟨escapeDocstring_eq v, ?_⟩
    rw [escapeDocstring, String.toList_ofList]
    exact exists_literalChars_escape v.toList
  · intro v before after reads
    have line := leavesReader_escapeDocstring v
    rw [LeavesReader] at line
    rw [readsAsLiteral_iff] at reads
    rw [readsAsLiteral_iff, readsAsLiteral_iff, ← List.singleton_append, ← List.append_assoc,
      List.append_assoc before, readLiteral_append, readLiteral_append, reads, Option.bind_some,
      line, Option.bind_some]

/-- Four quotes and a backslash at the end of a line, which is indented in front of another. -/
theorem escapeDocstring_reads_back_after_quotes :
    let _ : Interpreter := .bare
    escapeDocstring "\"\"\"\" \\" = "\\\"\\\"\\\"\" \\\\" ∧
      ReadsAsLiteral "\n    ".toList ∧
      ReadsAsLiteral ("\n    ".toList ++ (escapeDocstring "\"\"\"\" \\").toList ++
        '\n' :: "    ".toList) := by
  intro _
  have indent : ReadsAsLiteral "\n    ".toList := readsAsLiteral_iff.mpr rfl
  have behind : ReadsAsLiteral "    ".toList := readsAsLiteral_iff.mpr rfl
  refine ⟨by decide +kernel, indent, ?_⟩
  exact (escapeDocstring_reads_back.2.2 "\"\"\"\" \\" _ _ indent).mpr behind

end HttpAdapter
