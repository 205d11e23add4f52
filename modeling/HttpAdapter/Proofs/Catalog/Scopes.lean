import HttpAdapter.Catalog.Scope
import HttpAdapter.Proofs.Text.Split
import Mathlib.Data.List.DropRight
import Mathlib.Data.List.TakeWhile

/-!
What a name at a place stands for: the innermost declaration of that name in the scopes around the
place, `lookup_innermost`.  These scopes are the prefixes of the names that lead to the place, so
what is declared in one of them is found from there and from anywhere inside, unless a declaration
nearer to the place hides it.
-/

namespace HttpAdapter

open Text

/-- The name from the root of what is called `name` in a scope. -/
def nameBelow (scope : List String) (name : String) : String := join '.' ("" :: scope ++ [name])

/-- A name that may stand between dots. -/
def IsSegment (name : String) : Prop := name ≠ "" ∧ '.' ∉ name.toList

instance decidableIsSegment (name : String) : Decidable (IsSegment name) :=
  inferInstanceAs (Decidable (_ ∧ _))

section Places

/-- Characters without the dots around them. -/
def withoutDots (cs : List Char) : List Char :=
  (cs.dropWhile (· == '.')).rdropWhile (· == '.')

theorem scopeOf_eq (location : String) :
    scopeOf location =
      if (withoutDots location.toList).isEmpty then []
      else split '.' (String.ofList (withoutDots location.toList)) := by
  simp [scopeOf, withoutDots, List.rdropWhile]

/-- Dots around characters that go without them anyway make no difference. -/
theorem withoutDots_append {front back : List Char} (cs : List Char)
    (before : ∀ c ∈ front, c = '.') (behind : ∀ c ∈ back, c = '.') :
    withoutDots (front ++ cs ++ back) = withoutDots cs := by
  have dots : back.dropWhile (· == '.') = [] :=
    List.dropWhile_eq_nil_iff.mpr (by simpa using behind)
  have reversed : ∀ c ∈ back.reverse, (c == '.') = true := by simpa using behind
  rw [withoutDots, List.append_assoc, List.dropWhile_append_of_pos (by simpa using before),
    List.dropWhile_append, List.rdropWhile]
  split
  · rename_i nothing
    rw [dots, withoutDots, List.isEmpty_iff.mp nothing]
    rfl
  · rw [List.reverse_append, List.dropWhile_append_of_pos reversed]
    rfl

theorem withoutDots_of_ends {cs : List Char} (first : cs.head? ≠ some '.')
    (last : cs.getLast? ≠ some '.') : withoutDots cs = cs := by
  have start : cs.dropWhile (· == '.') = cs := by
    cases cs with
    | nil => rfl
    | cons c cs => exact List.dropWhile_cons_of_neg (by simpa using first)
  rw [withoutDots, start, List.rdropWhile_eq_self_iff]
  intro full
  rw [List.getLast?_eq_some_getLast full, ne_eq, Option.some_inj] at last
  simpa using last

/-- Dots around a place do not count. -/
theorem scopeOf_append {front location back : String} (before : ∀ c ∈ front.toList, c = '.')
    (behind : ∀ c ∈ back.toList, c = '.') :
    scopeOf (front ++ location ++ back) = scopeOf location := by
  rw [scopeOf_eq, scopeOf_eq, String.toList_append, String.toList_append,
    withoutDots_append _ before behind]

theorem IsSegment.exists_first {name : String} (segment : IsSegment name) :
    ∃ c cs, name.toList = c :: cs ∧ c ≠ '.' := by
  obtain ⟨full, absent⟩ := segment
  obtain ⟨c, cs, letters⟩ := List.exists_cons_of_ne_nil (by simpa using full : name.toList ≠ [])
  refine ⟨c, cs, letters, ?_⟩
  rintro rfl
  simp [letters] at absent

theorem IsSegment.relative {name : String} (segment : IsSegment name) :
    name.toList.head? ≠ some '.' := by
  obtain ⟨c, cs, letters, noDot⟩ := segment.exists_first
  simpa [letters] using noDot

theorem IsSegment.exists_last {name : String} (segment : IsSegment name) :
    ∃ cs c, name.toList = cs ++ [c] ∧ c ≠ '.' := by
  obtain ⟨full, absent⟩ := segment
  rcases List.eq_nil_or_concat' name.toList with empty | ⟨cs, c, letters⟩
  · exact absurd (by simpa using empty) full
  · refine ⟨cs, c, letters, ?_⟩
    rintro rfl
    simp [letters] at absent

/-- Names with dots between them lead to the place that they spell. -/
theorem scopeOf_join {names : List String} (segments : ∀ name ∈ names, IsSegment name) :
    scopeOf (join '.' names) = names := by
  rcases List.eq_nil_or_concat' names with rfl | ⟨others, last, rfl⟩
  · rfl
  · have full : others ++ [last] ≠ [] := by simp
    have ending : (join '.' (others ++ [last])).toList =
        (others.map String.toList).flatMap (· ++ ['.']) ++ last.toList := by
      rw [toList_join, List.map_append, intercalate_append _ (by simp)]
      simp [List.intercalate]
    obtain ⟨cs, c, letters, noDot⟩ := (segments last (by simp)).exists_last
    have own : withoutDots (join '.' (others ++ [last])).toList =
        (join '.' (others ++ [last])).toList := by
      apply withoutDots_of_ends
      · obtain ⟨first, rest, cons⟩ := List.exists_cons_of_ne_nil full
        obtain ⟨d, ds, start, noDot⟩ := (segments first (by simp [cons])).exists_first
        rw [cons, toList_join_cons, start]
        simpa using noDot
      · rw [ending, letters]
        simpa using noDot
    have visible : (join '.' (others ++ [last])).toList ≠ [] := by simp [ending, letters]
    rw [scopeOf_eq, own, if_neg (by simpa using visible), String.ofList_toList]
    exact split_join full fun name member => (segments name member).2

/-- The names that lead to where a file declares something inside the messages `outers`. -/
def SourceFile.scope (f : SourceFile) (outers : List String) : List String :=
  (if f.decl.packageName.isEmpty then [] else split '.' f.decl.packageName) ++ outers

/-- What a file declares in a scope has its name below that scope. -/
theorem SourceFile.qualify_eq (f : SourceFile) (outers : List String) (name : String) :
    f.qualify outers name = nameBelow (f.scope outers) name := by
  unfold qualify scope nameBelow
  split
  · rfl
  · have package : (split '.' f.decl.packageName).flatMap ('.' :: ·.toList) =
        '.' :: f.decl.packageName.toList := by
      conv_rhs => rw [← @join_split '.' f.decl.packageName]
      obtain ⟨first, rest, parts⟩ := List.exists_cons_of_ne_nil
        (show split '.' f.decl.packageName ≠ [] by simp [split])
      rw [parts, toList_join_cons]
      rfl
    rw [← String.toList_inj]
    simp only [List.cons_append, List.append_assoc, toList_join_cons, List.flatMap_cons,
      List.flatMap_append, List.nil_append, package]

/-- The name of a message from the root, as a place, is the scope inside the message. -/
theorem SourceFile.scopeOf_qualify {f : SourceFile} {outers : List String} {name : String}
    (segments : ∀ segment ∈ f.scope outers ++ [name], IsSegment segment) :
    scopeOf (f.qualify outers name) = f.scope outers ++ [name] := by
  have dotted : f.qualify outers name = "." ++ join '.' (f.scope outers ++ [name]) ++ "" := by
    obtain ⟨first, rest, cons⟩ :=
      List.exists_cons_of_ne_nil (show f.scope outers ++ [name] ≠ [] by simp)
    rw [f.qualify_eq, nameBelow, List.cons_append, cons, ← String.toList_inj]
    simp
  rw [dotted, scopeOf_append (by simp) (by simp), scopeOf_join segments]

end Places

section Enclosing

/-- The scopes around a place are those that a front of its names leads to. -/
theorem mem_enclosingScopes_iff {scope names : List String} :
    scope ∈ enclosingScopes names ↔ scope <+: names := by
  induction names generalizing scope with
  | nil => simp [enclosingScopes]
  | cons name names ih =>
      rw [enclosingScopes, List.mem_append, List.mem_map, List.mem_singleton, List.prefix_cons_iff]
      simp only [ih]
      constructor
      · rintro (⟨inner, front, rfl⟩ | rfl)
        · exact Or.inr ⟨inner, rfl, front⟩
        · exact Or.inl rfl
      · rintro (rfl | ⟨inner, rfl, front⟩)
        · exact Or.inr rfl
        · exact Or.inl ⟨inner, front, rfl⟩

/-- They go from the inside out. -/
theorem pairwise_enclosingScopes (names : List String) :
    (enclosingScopes names).Pairwise fun deeper scope => scope.length < deeper.length := by
  induction names with
  | nil => simp [enclosingScopes]
  | cons name names ih =>
      rw [enclosingScopes, List.pairwise_append, List.pairwise_map]
      refine ⟨ih.imp fun less => by simpa using less, List.pairwise_singleton _ _, ?_⟩
      intro deeper member root last
      obtain ⟨inner, -, rfl⟩ := List.mem_map.mp member
      rw [List.mem_singleton.mp last]
      simp

end Enclosing

namespace Table

variable {α : Type} {t : Table α} {location name : String}

theorem resolve?_of_rooted (rooted : name.toList.head? = some '.') :
    t.resolve? location name = t.get? name := by
  simp [resolve?, candidates, rooted]

theorem candidates_of_relative (relative : name.toList.head? ≠ some '.') :
    candidates location name = (enclosingScopes (scopeOf location)).map (nameBelow · name) := by
  rw [candidates, if_neg relative]
  rfl

/-- A name that does not count from the root stands for what the innermost scope calls so. -/
theorem resolve?_eq_some_iff (relative : name.toList.head? ≠ some '.') {a : α} :
    t.resolve? location name = some a ↔ ∃ scope, scope <+: scopeOf location ∧
      t.get? (nameBelow scope name) = some a ∧
      ∀ deeper, deeper <+: scopeOf location → scope.length < deeper.length →
        t.get? (nameBelow deeper name) = none := by
  rw [resolve?, candidates_of_relative relative, List.findSome?_map, List.findSome?_eq_some_iff]
  have order := pairwise_enclosingScopes (scopeOf location)
  constructor
  · rintro ⟨inner, scope, outer, scopes, found, hidden⟩
    have member : scope ∈ enclosingScopes (scopeOf location) := by simp [scopes]
    refine ⟨scope, mem_enclosingScopes_iff.mp member, found, ?_⟩
    intro deeper front longer
    rw [← mem_enclosingScopes_iff, scopes, List.mem_append, List.mem_cons] at front
    rw [scopes, List.pairwise_append, List.pairwise_cons] at order
    rcases front with nearer | rfl | farther
    · exact hidden deeper nearer
    · omega
    · have shorter := order.2.1.1 deeper farther
      omega
  · rintro ⟨scope, front, found, hidden⟩
    obtain ⟨inner, outer, scopes⟩ := List.append_of_mem (mem_enclosingScopes_iff.mpr front)
    refine ⟨inner, scope, outer, scopes, found, ?_⟩
    intro deeper nearer
    rw [scopes, List.pairwise_append] at order
    refine hidden deeper (mem_enclosingScopes_iff.mp ?_) (order.2.2 deeper nearer scope (by simp))
    simp [scopes, nearer]

theorem resolve?_isSome_iff (relative : name.toList.head? ≠ some '.') :
    (t.resolve? location name).isSome ↔
      ∃ scope, scope <+: scopeOf location ∧ (t.get? (nameBelow scope name)).isSome := by
  rw [resolve?, candidates_of_relative relative, List.findSome?_map, List.findSome?_isSome_iff]
  simp only [mem_enclosingScopes_iff, Function.comp_apply]

/-- What looking up names at places in a table comes to. -/
structure FindsInnermost (t : Table α) (find : String → String → Option α) : Prop where
  /-- A name with a dot in front counts from the root, wherever it stands. -/
  rooted : ∀ location name, name.toList.head? = some '.' → find location name = t.get? name
  /-- Any other is found exactly if a scope around the place has something of that name. -/
  found : ∀ location name, name.toList.head? ≠ some '.' →
    ((find location name).isSome ↔
      ∃ scope, scope <+: scopeOf location ∧ (t.get? (nameBelow scope name)).isSome)
  /-- What is found is in the innermost of these scopes. -/
  innermost : ∀ location name a, name.toList.head? ≠ some '.' →
    (find location name = some a ↔ ∃ scope, scope <+: scopeOf location ∧
      t.get? (nameBelow scope name) = some a ∧
      ∀ deeper, deeper <+: scopeOf location → scope.length < deeper.length →
        t.get? (nameBelow deeper name) = none)
  /-- Dots around a place do not count. -/
  dots : ∀ front location back name, (∀ c ∈ front.toList, c = '.') →
    (∀ c ∈ back.toList, c = '.') → find (front ++ location ++ back) name = find location name
  /-- What a file declares is found from its scope and from everywhere inside, unless a scope
      nearer to the place has something of the same name. -/
  own : ∀ (file : SourceFile) outers name a, t.get? (file.qualify outers name) = some a →
    IsSegment name → ∀ location inner, scopeOf location = file.scope outers ++ inner →
    (∀ deeper, deeper <+: inner → deeper ≠ [] →
      t.get? (nameBelow (file.scope outers ++ deeper) name) = none) →
    find location name = some a

theorem findsInnermost_resolve? (t : Table α) : t.FindsInnermost t.resolve? where
  rooted location name rooted := resolve?_of_rooted rooted
  found location name relative := resolve?_isSome_iff relative
  innermost location name a relative := resolve?_eq_some_iff relative
  dots front location back name before behind := by
    rw [resolve?, resolve?, candidates, candidates, scopeOf_append before behind]
  own file outers name a declared segment location inner scopes free := by
    rw [resolve?_eq_some_iff segment.relative, scopes]
    refine ⟨file.scope outers, List.prefix_append _ _, ?_, ?_⟩
    · rw [← SourceFile.qualify_eq]
      exact declared
    · intro deeper front longer
      obtain ⟨names, rfl⟩ :=
        List.prefix_of_prefix_length_le (List.prefix_append _ inner) front (Nat.le_of_lt longer)
      rw [List.prefix_append_right_inj] at front
      refine free names front ?_
      rintro rfl
      simp at longer

end Table

namespace Catalog

theorem toOption_message (c : Catalog) (location name : String) :
    (c.message location name).toOption = c.messages.resolve? location name := by
  unfold message
  split
  · rename_i found
    exact found.symm
  · rename_i missing
    exact missing.symm

theorem toOption_enum (c : Catalog) (location name : String) :
    (c.enum location name).toOption = c.enums.resolve? location name := by
  unfold enum
  split
  · rename_i found
    exact found.symm
  · rename_i missing
    exact missing.symm

/-- In every catalog a name with a dot in front stands for the message that has this name from the
    root; any other stands for the message of that name in the innermost of the scopes around the
    place that has one.  So a message is found by its own name from the scope that it is declared
    in and from everywhere inside, unless one nearer to the place hides it.  The same holds of
    enumerations.  Names with dots between them lead to the place that they spell, and so does the
    name of a message from the root, to the scope inside the message. -/
theorem lookup_innermost (c : Catalog) :
    c.messages.FindsInnermost (fun location name => (c.message location name).toOption) ∧
    c.enums.FindsInnermost (fun location name => (c.enum location name).toOption) ∧
    (∀ names, (∀ name ∈ names, IsSegment name) → scopeOf (join '.' names) = names) ∧
    ∀ (file : SourceFile) outers name,
      (∀ segment ∈ file.scope outers ++ [name], IsSegment segment) →
      scopeOf (file.qualify outers name) = file.scope outers ++ [name] := by
  refine ⟨?_, ?_, fun names => scopeOf_join, fun file outers name => SourceFile.scopeOf_qualify⟩
  · simp only [toOption_message]
    exact c.messages.findsInnermost_resolve?
  · simp only [toOption_enum]
    exact c.enums.findsInnermost_resolve?

/-- A message inside another one hides the outer message of its name from everywhere inside that
    one, but not from the package and not behind a dot. -/
theorem lookup_innermost_nested :
    let file : SourceFile :=
      ⟨⟨"a.proto", some "p.q", none, none, [], [], [], []⟩, ⟨"a_pb2", "p_q", none⟩⟩
    let outer : MessageEntry := ⟨file, [], ⟨"B", [], [], []⟩, 1⟩
    let inner : MessageEntry := ⟨file, ["A"], ⟨"B", [], [], []⟩, 0⟩
    let c : Catalog :=
      { empty "" [] with messages := [(".p.q.A.B", inner), (".p.q.B", outer)] }
    (c.message ".p.q.A.C" "B").toOption = some inner ∧
    (c.message "p.q" "B").toOption = some outer ∧
    (c.message "p.q.A" ".p.q.B").toOption = some outer := by
  intro file outer inner c
  obtain ⟨messages, -, places, -⟩ := lookup_innermost c
  refine ⟨?_, ?_, ?_⟩
  · have place : scopeOf ".p.q.A.C" = file.scope ["A"] ++ ["C"] := by decide +kernel
    refine messages.own file ["A"] "B" inner ?_ (by decide) ".p.q.A.C" ["C"] place ?_
    · rw [show file.qualify ["A"] "B" = ".p.q.A.B" by decide +kernel]
      rfl
    · intro deeper front full
      rcases List.prefix_cons_iff.mp front with rfl | ⟨names, rfl, rest⟩
      · exact absurd rfl full
      · rw [List.prefix_nil.mp rest]
        decide +kernel
  · have place : scopeOf "p.q" = file.scope [] ++ [] := by
      rw [show "p.q" = join '.' ["p", "q"] by decide +kernel, places ["p", "q"] (by decide)]
      decide +kernel
    refine messages.own file [] "B" outer ?_ (by decide) "p.q" [] place ?_
    · rw [show file.qualify [] "B" = ".p.q.B" by decide +kernel]
      rfl
    · intro deeper front full
      exact absurd (List.prefix_nil.mp front) full
  · exact messages.rooted "p.q.A" ".p.q.B" (by decide)

end Catalog

end HttpAdapter
