import HttpAdapter.Text.CaseRanges

/-!
The full case mappings of Unicode on text.  A character may map to several, and a capital sigma
at the end of a word has a lower-case form of its own.
-/

namespace HttpAdapter.Text

/-- The image of one code point: an expansion if it has one, else the end of its run. -/
def mapCase (expansions : List (Nat × List Nat)) (runs : List CaseRun) (n : Nat) : List Char :=
  match expansions.lookup n with
  | some image => image.map Char.ofNat
  | none => [Char.ofNat (shiftByRuns runs n)]

/-- The upper-case form of a character. -/
def upperChar (c : Char) : List Char :=
  if c.toNat < 128 then [c.toUpper] else mapCase upperExpansions upperRuns c.toNat

/-- The lower-case form of a character that stands alone. -/
def lowerChar (c : Char) : List Char :=
  if c.toNat < 128 then [c.toLower] else mapCase lowerExpansions lowerRuns c.toNat

/-- Whether the first character that is not Case_Ignorable exists and is Cased. -/
def nextIsCased (cs : List Char) : Bool :=
  match cs.dropWhile fun c => caseIgnorableRanges.contains c.toNat with
  | [] => false
  | c :: _ => casedRanges.contains c.toNat

/-- The lower-case form of a capital sigma between the characters before it, nearest first, and
    those after it: the final form where a word ends. -/
def lowerSigma (before after : List Char) : Char :=
  if nextIsCased before && !nextIsCased after then '\u03c2' else '\u03c3'

/-- The lower-case form of a text that follows `before`, nearest character first. -/
def lowerAfter (before : List Char) : List Char → List Char
  | [] => []
  | c :: after =>
      (if c = '\u03a3' then [lowerSigma before after] else lowerChar c) ++
        lowerAfter (c :: before) after

/-- The text in upper case. -/
def upper (s : String) : String := String.ofList (s.toList.flatMap upperChar)

/-- The text in lower case. -/
def lower (s : String) : String := String.ofList (lowerAfter [] s.toList)

@[simp] theorem toList_upper (s : String) : (upper s).toList = s.toList.flatMap upperChar := by
  simp [upper]

@[simp] theorem toList_lower (s : String) : (lower s).toList = lowerAfter [] s.toList := by
  simp [lower]

end HttpAdapter.Text
