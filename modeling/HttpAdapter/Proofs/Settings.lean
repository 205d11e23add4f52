import HttpAdapter.Proofs.Except
import HttpAdapter.Proofs.Text.Split
import HttpAdapter.Settings

/-!
Which parameters are settings, and what is said of the first piece that is none: a parameter is
read to its end if and only if each of its pieces that is not blank is `Accepted`.
-/

namespace HttpAdapter.Settings

open Text

/-- The flags. -/
def flagNames : List String := ["request_context", "allow_delete_body"]

/-- The pieces that are settings: the package of a file, the import prefix, and the flags, which
    are true or false in any letter case.  A key stands in front of the first equals sign. -/
inductive Accepted : String → Prop
  | package {file : String} (package : String) :
      '=' ∉ file.toList → Accepted ("M" ++ file ++ "=" ++ package)
  | noPrefix : Accepted "import_prefix"
  | importPrefix (importPrefix : String) : Accepted ("import_prefix" ++ "=" ++ importPrefix)
  | set {flag : String} : flag ∈ flagNames → Accepted flag
  | flag {flag value : String} :
      flag ∈ flagNames → lower value ∈ trueWords ++ falseWords → Accepted (flag ++ "=" ++ value)

/-- The pieces of a parameter that are not blank, trimmed. -/
def pieces (parameter : String) : List String :=
  ((split ',' parameter).map trim).filter (!·.isEmpty)

/-- Whether a key with a value puts a file into a package. -/
def IsMapping (key : String) (value : Option String) : Prop :=
  key.toList.head? = some 'M' ∧ value.isSome

instance (key : String) (value : Option String) : Decidable (IsMapping key value) :=
  inferInstanceAs (Decidable (_ ∧ _))

/-- What is said of a piece with this key and this value if it is no setting. -/
def refusalsOf (piece key : String) (value : Option String) : List Fault :=
  if IsMapping key value ∨ key = "import_prefix" then []
  else if key ∈ flagNames then faults (readFlag key value)
  else [.unknownSetting piece]

/-- What is said of a piece that is no setting. -/
def refusals (piece : String) : List Fault :=
  refusalsOf piece (keyValue piece).1 (keyValue piece).2

theorem keyValue_of_not_mem {piece : String} (absent : '=' ∉ piece.toList) :
    keyValue piece = (piece, none) := by
  rw [keyValue, cutFirst_of_not_mem absent]

theorem keyValue_append {key : String} (value : String) (absent : '=' ∉ key.toList) :
    keyValue (key ++ "=" ++ value) = (key, some value) := by
  have letters : (key ++ "=" ++ value).toList = key.toList ++ '=' :: value.toList := by simp
  rw [keyValue, letters, cutFirst_append_cons _ absent]
  simp

/-- A piece is a key, or a key with a value. -/
theorem eq_key_or_keyValue (piece : String) :
    '=' ∉ piece.toList ∨ ∃ key value, '=' ∉ key.toList ∧ piece = key ++ "=" ++ value := by
  by_cases member : '=' ∈ piece.toList
  · obtain ⟨before, after, letters, absent⟩ := List.eq_append_cons_of_mem member
    refine Or.inr ⟨String.ofList before, String.ofList after, by simpa using absent, ?_⟩
    rw [← String.toList_inj]
    simp [letters]
  · exact Or.inl member

theorem readFlag_of_word {flag : String} {word : Option String}
    (accepted : ∀ w ∈ word, lower w ∈ trueWords ++ falseWords) :
    readFlag flag word = .ok (word.all fun w => trueWords.contains (lower w)) := by
  cases word with
  | none => rfl
  | some w =>
      have either := accepted w rfl
      rw [readFlag, Option.all_some]
      split
      · rename_i truth
        rw [truth]
      · rename_i noTruth
        have falsehood : falseWords.contains (lower w) = true := by
          rw [List.contains_iff_mem] at noTruth ⊢
          exact (List.mem_append.mp either).resolve_left noTruth
        rw [if_pos falsehood, Bool.eq_false_iff.mpr noTruth]

theorem readFlag_of_no_word {flag value : String}
    (unknown : lower value ∉ trueWords ++ falseWords) :
    readFlag flag (some value) = .error (.invalidFlag flag value) := by
  obtain ⟨noTruth, noFalsehood⟩ := not_or.mp (mt List.mem_append.mpr unknown)
  rw [← List.contains_iff_mem] at noTruth noFalsehood
  rw [readFlag, if_neg noTruth, if_neg noFalsehood]

theorem readFlag_eq_ok_iff {flag : String} {value : Option String} :
    (∃ on, readFlag flag value = .ok on) ↔ ∀ v ∈ value, lower v ∈ trueWords ++ falseWords := by
  constructor
  · rintro ⟨on, read⟩ v rfl
    by_contra unknown
    rw [readFlag_of_no_word unknown] at read
    cases read
  · intro accepted
    exact ⟨_, readFlag_of_word accepted⟩

theorem not_mem_of_mem_flagNames {flag : String} (member : flag ∈ flagNames) :
    '=' ∉ flag.toList ∧ flag.toList.head? ≠ some 'M' ∧ flag ≠ "import_prefix" := by
  have all : ∀ flag ∈ flagNames,
      '=' ∉ flag.toList ∧ flag.toList.head? ≠ some 'M' ∧ flag ≠ "import_prefix" := by
    decide +kernel
  exact all flag member

theorem refusalsOf_flag {flag : String} (member : flag ∈ flagNames) (piece : String)
    (value : Option String) : refusalsOf piece flag value = faults (readFlag flag value) := by
  obtain ⟨-, small, other⟩ := not_mem_of_mem_flagNames member
  have own : ¬ (IsMapping flag value ∨ flag = "import_prefix") := by
    simp [IsMapping, other, small]
  rw [refusalsOf, if_neg own, if_pos member]

/-- Nothing is said against a mapping, the prefix, and a flag that has a value that is a word. -/
theorem refusalsOf_eq_nil_iff {piece key : String} {value : Option String} :
    refusalsOf piece key value = [] ↔ IsMapping key value ∨ key = "import_prefix" ∨
      key ∈ flagNames ∧ ∀ v ∈ value, lower v ∈ trueWords ++ falseWords := by
  by_cases flag : key ∈ flagNames
  · obtain ⟨-, small, other⟩ := not_mem_of_mem_flagNames flag
    rw [refusalsOf_flag flag, faults_eq_nil_iff, readFlag_eq_ok_iff]
    simp [IsMapping, small, other, flag]
  · rw [refusalsOf, if_neg flag]
    simp [flag, or_iff_not_imp_left]

/-- A piece is a setting if and only if nothing is said against it. -/
theorem refusals_eq_nil_iff {piece : String} : refusals piece = [] ↔ Accepted piece := by
  rw [refusals, refusalsOf_eq_nil_iff]
  constructor
  · rcases eq_key_or_keyValue piece with absent | ⟨key, value, absent, rfl⟩
    · rw [keyValue_of_not_mem absent]
      rintro (mapping | rfl | ⟨flag, -⟩)
      · cases mapping.2
      · exact .noPrefix
      · exact .set flag
    · rw [keyValue_append value absent]
      rintro (⟨capital, -⟩ | rfl | ⟨flag, word⟩)
      · obtain ⟨file, letters⟩ := List.head?_eq_some_iff.mp capital
        have split : key = "M" ++ String.ofList file := by
          rw [← String.toList_inj, letters]
          simp
        rw [split]
        refine .package value ?_
        rw [letters] at absent
        simpa using List.not_mem_of_not_mem_cons absent
      · exact .importPrefix value
      · exact .flag flag (word value rfl)
  · intro accepted
    cases accepted with
    | @package file package absent =>
        have whole : '=' ∉ ("M" ++ file).toList := by simpa using absent
        rw [keyValue_append package whole]
        exact Or.inl ⟨by simp, rfl⟩
    | noPrefix => decide +kernel
    | importPrefix value =>
        rw [keyValue_append value (by decide)]
        exact Or.inr (Or.inl rfl)
    | set flag =>
        rw [keyValue_of_not_mem (not_mem_of_mem_flagNames flag).1]
        exact Or.inr (Or.inr ⟨flag, by simp⟩)
    | @flag name value flag word =>
        rw [keyValue_append value (not_mem_of_mem_flagNames flag).1]
        exact Or.inr (Or.inr ⟨flag, by simpa using word⟩)

theorem reportsFirst_change (s : Settings) (piece : String) :
    ReportsFirst (s.change piece) (refusals piece) := by
  unfold change refusals
  obtain ⟨key, value⟩ := keyValue piece
  by_cases mapping : IsMapping key value
  · rw [refusalsOf, if_pos (Or.inl mapping)]
    obtain ⟨file, letters⟩ := List.head?_eq_some_iff.mp mapping.1
    obtain ⟨package, rfl⟩ := Option.isSome_iff_exists.mp mapping.2
    simp only [letters]
    rfl
  · dsimp only
    split
    · rename_i file package letters
      exact absurd ⟨by rw [letters]; rfl, rfl⟩ mapping
    · rename_i value _ _ _
      by_cases importPrefix : key = "import_prefix"
      · rw [refusalsOf, if_pos importPrefix, if_pos (Or.inr importPrefix)]
        rfl
      · rw [if_neg importPrefix]
        split
        · rename_i context
          rw [refusalsOf_flag (by simp [context, flagNames])]
          exact (ReportsFirst.self _).map _
        · rename_i noContext
          split
          · rename_i body
            rw [refusalsOf_flag (by simp [body, flagNames])]
            exact (ReportsFirst.self _).map _
          · rename_i noBody
            have other : key ∉ flagNames := by simp [flagNames, noContext, noBody]
            rw [refusalsOf, if_neg (by simp [mapping, importPrefix]), if_neg other]
            rfl

/-- A parameter is read piece by piece; blank pieces do not count. -/
theorem readAll_eq (s : Settings) (parameter : String) :
    s.readAll parameter = (pieces parameter).foldlM change s := by
  rw [readAll, pieces]
  generalize split ',' parameter = items
  induction items generalizing s with
  | nil => rw [List.map_nil, List.filter_nil, List.foldlM_nil, List.foldlM_nil]
  | cons item items ih =>
      rw [List.foldlM_cons, List.map_cons, List.filter_cons]
      cases blank : (trim item).isEmpty with
      | true =>
          have kept : s.read item = .ok s := by simp only [read, blank, if_true]
          rw [kept]
          exact ih s
      | false =>
          have changed : s.read item = s.change (trim item) := by
            simp only [read, blank, Bool.false_eq_true, if_false]
          rw [changed, Bool.not_false, if_pos rfl, List.foldlM_cons]
          cases s.change (trim item) with
          | error fault => simp only [bind, Except.bind]
          | ok t => exact ih t

/-- A parameter is read up to its first piece that is no setting. -/
theorem reportsFirst_ofParameter (parameter : String) :
    ReportsFirst (ofParameter parameter) ((pieces parameter).flatMap refusals) := by
  rw [ofParameter, readAll_eq]
  exact ReportsFirst.foldlM (fun s piece _ => reportsFirst_change s piece) default

section ImportPrefix

/-- A piece that sets the import prefix, with the prefix. -/
inductive SetsPrefix : String → String → Prop
  | bare : SetsPrefix "import_prefix" ""
  | value (importPrefix : String) : SetsPrefix ("import_prefix" ++ "=" ++ importPrefix) importPrefix

/-- Two parameters are the same but for the prefix in the last piece that sets one. -/
def SameButPrefix (parameter parameter' importPrefix importPrefix' : String) : Prop :=
  ∃ before piece piece' after, pieces parameter = before ++ piece :: after ∧
    pieces parameter' = before ++ piece' :: after ∧ SetsPrefix piece importPrefix ∧
    SetsPrefix piece' importPrefix' ∧ ∀ other ∈ after, ∀ value, ¬ SetsPrefix other value

/-- The settings with another prefix. -/
def withPrefix (importPrefix : String) (s : Settings) : Settings := { s with importPrefix }

theorem change_of_setsPrefix {piece importPrefix : String} (sets : SetsPrefix piece importPrefix)
    (s : Settings) : s.change piece = .ok (s.withPrefix importPrefix) := by
  cases sets with
  | bare =>
      rw [change, keyValue_of_not_mem (by decide)]
      rfl
  | value =>
      rw [change, keyValue_append importPrefix (by decide)]
      rfl

/-- What sets no prefix changes the same whatever the prefix is. -/
theorem change_withPrefix {piece : String} (other : ∀ value, ¬ SetsPrefix piece value)
    (importPrefix : String) (s : Settings) :
    (s.withPrefix importPrefix).change piece = (s.change piece).map (withPrefix importPrefix) := by
  have key : (keyValue piece).1 ≠ "import_prefix" := by
    rcases eq_key_or_keyValue piece with absent | ⟨key, value, absent, rfl⟩
    · rw [keyValue_of_not_mem absent]
      rintro rfl
      exact other "" .bare
    · rw [keyValue_append value absent]
      rintro rfl
      exact other value (.value value)
  unfold change
  generalize keyValue piece = parts at key
  obtain ⟨name, value⟩ := parts
  dsimp only at key ⊢
  split
  · rfl
  · rw [if_neg key, if_neg key]
    generalize readFlag name _ = flag
    split
    · cases flag <;> rfl
    · split
      · cases flag <;> rfl
      · rfl

theorem foldlM_withPrefix {others : List String}
    (other : ∀ piece ∈ others, ∀ value, ¬ SetsPrefix piece value) (importPrefix : String)
    (s : Settings) : others.foldlM change (s.withPrefix importPrefix) =
      (others.foldlM change s).map (withPrefix importPrefix) := by
  induction others generalizing s with
  | nil => rfl
  | cons piece others ih =>
      obtain ⟨first, rest⟩ := List.forall_mem_cons.mp other
      rw [List.foldlM_cons, List.foldlM_cons, change_withPrefix first]
      cases s.change piece with
      | error fault => rfl
      | ok changed => exact ih rest changed

/-- Parameters that are the same but for the prefix make settings that are. -/
theorem eq_withPrefix_of_sameButPrefix
    {parameter parameter' importPrefix importPrefix' : String}
    (same : SameButPrefix parameter parameter' importPrefix importPrefix') {s t : Settings}
    (read : ofParameter parameter = .ok s) (read' : ofParameter parameter' = .ok t) :
    ∃ common : Settings, s = common.withPrefix importPrefix ∧
      t = common.withPrefix importPrefix' := by
  obtain ⟨before, piece, piece', after, pieces, pieces', sets, sets', other⟩ := same
  rw [ofParameter, readAll_eq, pieces, List.foldlM_append] at read
  rw [ofParameter, readAll_eq, pieces', List.foldlM_append] at read'
  obtain ⟨first, front, read⟩ := bind_eq_ok.mp read
  obtain ⟨_, front', read'⟩ := bind_eq_ok.mp read'
  rw [front, Except.ok.injEq] at front'
  subst front'
  rw [List.foldlM_cons, change_of_setsPrefix sets] at read
  rw [List.foldlM_cons, change_of_setsPrefix sets'] at read'
  change after.foldlM change (first.withPrefix importPrefix) = .ok s at read
  change after.foldlM change (first.withPrefix importPrefix') = .ok t at read'
  rw [foldlM_withPrefix other] at read read'
  obtain ⟨common, back, rfl⟩ := map_eq_ok.mp read
  obtain ⟨_, back', rfl⟩ := map_eq_ok.mp read'
  rw [back, Except.ok.injEq] at back'
  subst back'
  exact ⟨common, rfl, rfl⟩

end ImportPrefix

end HttpAdapter.Settings
