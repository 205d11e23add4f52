import HttpAdapter.Proto
import HttpAdapter.Wire.Decoding

/-!
From the fields of a message to a request.  The last of several values counts, several occurrences
of a nested message are one, and of the fields that exclude each other the last counts.
-/

namespace HttpAdapter.Wire

/-- The text of bytes. -/
def textOfBytes (bytes : List UInt8) : String := (String.fromUTF8? ⟨bytes.toArray⟩).getD ""

namespace Fields

/-- All texts of a number. -/
def texts (fs : Fields) (number : Nat) : List String :=
  fs.filterMap fun
    | (n, .text bytes) => if n = number then some (textOfBytes bytes) else none
    | _ => none

/-- The last text of a number, if there is one. -/
def text? (fs : Fields) (number : Nat) : Option String := (fs.texts number).getLast?

/-- The last text of a number. -/
def text (fs : Fields) (number : Nat) : String := (fs.text? number).getD ""

/-- All numbers of a number. -/
def numbers (fs : Fields) (number : Nat) : List Nat :=
  fs.filterMap fun
    | (n, .number value) => if n = number then some value else none
    | _ => none

/-- Whether the last number of a number is not zero. -/
def flag (fs : Fields) (number : Nat) : Bool := (fs.numbers number).getLast?.any (· ≠ 0)

/-- All messages of a number. -/
def messages (fs : Fields) (number : Nat) : List Fields :=
  fs.filterMap fun
    | (n, .message fields) => if n = number then some fields else none
    | _ => none

/-- The messages of a number as one, if there is any. -/
def merged? (fs : Fields) (number : Nat) : Option Fields :=
  match fs.messages number with
  | [] => none
  | ms => some ms.flatten

/-- The messages of a number as one. -/
def merged (fs : Fields) (number : Nat) : Fields := (fs.messages number).flatten

end Fields

/-- A number of 32 bits with a sign. -/
def int32 (n : Nat) : Int :=
  let low : Nat := n % limit32
  if low < 0x80000000 then (low : Int) else (low : Int) - (limit32 : Int)

/-- The method and the path of a rule, where the fields for them exclude each other. -/
inductive PatternFields where
  | standard (verb : Verb) (path : List UInt8)
  | custom (fields : Fields)
  deriving Repr

/-- The method of a rule by the number of its field. -/
def verbOfField? : Nat → Option Verb
  | 2 => some .get
  | 3 => some .put
  | 4 => some .post
  | 5 => some .delete
  | 6 => some .patch
  | _ => none

/-- A later field of a rule replaces an earlier one, but goes on with a method spelled out. -/
def PatternFields.next (p : Option PatternFields) : Nat × Value → Option PatternFields
  | (8, .message fields) =>
      match p with
      | some (.custom earlier) => some (.custom (earlier ++ fields))
      | _ => some (.custom fields)
  | (number, .text path) =>
      match verbOfField? number with
      | some verb => some (.standard verb path)
      | none => p
  | _ => p

/-- The pattern of a rule. -/
def patternOfFields (fs : Fields) : Option HttpPattern :=
  (fs.foldl PatternFields.next none).map fun
    | .standard verb path => .standard verb (textOfBytes path)
    | .custom fields => .custom (fields.text 1) (fields.text 2)

/-- A rule with the rules nested in it up to a depth. -/
def ruleOfFields : Nat → Fields → HttpRule
  | 0, fs => ⟨patternOfFields fs, fs.text 7, fs.text 12, []⟩
  | depth + 1, fs =>
      ⟨patternOfFields fs, fs.text 7, fs.text 12, (fs.messages 11).map (ruleOfFields depth)⟩

/-- A field.  A type or label without meaning does not count. -/
def fieldOfFields (fs : Fields) : FieldDecl :=
  let types := (fs.numbers 5).filterMap fun n => FieldType.ofNumber? (n % limit32)
  let labels := (fs.numbers 4).filterMap fun n => FieldLabel.ofNumber? (n % limit32)
  ⟨fs.text 1, types.getLast?.getD .double, fs.text 6, labels.getLast?.getD .optional⟩

/-- An enumeration. -/
def enumOfFields (fs : Fields) : EnumDecl := ⟨fs.text 1⟩

/-- A message with the messages nested in it up to a depth. -/
def messageOfFields : Nat → Fields → MessageDecl
  | 0, fs => ⟨fs.text 1, (fs.messages 2).map fieldOfFields, [], (fs.messages 4).map enumOfFields⟩
  | depth + 1, fs =>
      ⟨fs.text 1, (fs.messages 2).map fieldOfFields, (fs.messages 3).map (messageOfFields depth),
       (fs.messages 4).map enumOfFields⟩

/-- A method. -/
def methodOfFields (fs : Fields) : MethodDecl :=
  ⟨fs.text 1, fs.text 2, fs.text 3, fs.flag 5, fs.flag 6,
   ((fs.merged 4).merged? httpRuleField).map (ruleOfFields maxDepth)⟩

/-- A service. -/
def serviceOfFields (fs : Fields) : ServiceDecl := ⟨fs.text 1, (fs.messages 2).map methodOfFields⟩

/-- A location. -/
def locationOfFields (fs : Fields) : SourceLocation :=
  ⟨(fs.numbers 1).map int32, fs.texts 6, fs.text 3, fs.text 4⟩

/-- A file. -/
def fileOfFields (fs : Fields) : FileDecl :=
  ⟨fs.text 1, fs.text? 2, fs.text? 12, (fs.merged 8).text? 11,
   (fs.messages 4).map (messageOfFields maxDepth), (fs.messages 5).map enumOfFields,
   (fs.messages 6).map serviceOfFields, ((fs.merged 9).messages 1).map locationOfFields⟩

/-- A request. -/
def requestOfFields (fs : Fields) : Request :=
  ⟨fs.text 2, fs.texts 1, (fs.messages 15).map fileOfFields⟩

/-- The request of bytes. -/
def decodeRequest (bs : List UInt8) : Except WireFault Request :=
  (decodeMessage .request bs).map requestOfFields

end HttpAdapter.Wire
