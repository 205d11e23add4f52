import HttpAdapter.Proofs.FirstFailure
import HttpAdapter.Proofs.Settings
import HttpAdapter.Proofs.Table
import HttpAdapter.Proofs.Text.LetterCase
import HttpAdapter.Proofs.Text.Trim

/-!
Settings as they may be written, in any order, with white space around them and blank pieces between
them: reading gives back what was written.  A parameter that goes on behind a comma is read on from
what its front gives, and the first piece that is no setting stops the reader with a message that
names it.
-/

namespace HttpAdapter.Settings

open Catalog Text

/-- The flags of the settings. -/
inductive Flag where
  | requestContext
  | allowDeleteBody
  deriving DecidableEq, Repr

/-- The key of a flag. -/
def Flag.key : Flag → String
  | .requestContext => "request_context"
  | .allowDeleteBody => "allow_delete_body"

/-- A setting with its spelling. -/
inductive Setting where
  /-- A key by itself makes the prefix empty. -/
  | importPrefix (value : Option String)
  /-- A key by itself sets the flag. -/
  | flag (flag : Flag) (word : Option String)
  /-- The package of a file. -/
  | mapping (file package : String)
  deriving DecidableEq, Repr

/-- A text that may stand behind the equals sign of a piece. -/
def IsValue (text : String) : Prop :=
  ',' ∉ text.toList ∧ ∀ c ∈ text.toList.getLast?, isBlank c = false

/-- A text of white space only. -/
def IsBlank (text : String) : Prop := ∀ c ∈ text.toList, isBlank c = true

instance (text : String) : Decidable (IsValue text) :=
  decidable_of_iff (',' ∉ text.toList ∧ text.toList.getLast?.all (!isBlank ·) = true)
    (by simp [IsValue, Option.all_eq_true])

instance (text : String) : Decidable (IsBlank text) :=
  decidable_of_iff (text.toList.all isBlank = true) List.all_eq_true

/-- A text that is a piece of a parameter by itself. -/
structure IsPiece (text : String) : Prop where
  whole : ',' ∉ text.toList
  trimmed : IsTrimmed text.toList
  full : text.toList ≠ []

namespace Setting

/-- The piece of a parameter that writes a setting. -/
def text : Setting → String
  | importPrefix none => "import_prefix"
  | importPrefix (some value) => "import_prefix" ++ "=" ++ value
  | flag f none => f.key
  | flag f (some word) => f.key ++ "=" ++ word
  | mapping file package => "M" ++ file ++ "=" ++ package

/-- A piece can hold the setting: a prefix and a package end visibly and hold no comma, a file holds
    neither commas nor equals signs, and a flag is true or false in any letter case. -/
inductive IsWritable : Setting → Prop
  | noPrefix : IsWritable (importPrefix none)
  | importPrefix {value : String} : IsValue value → IsWritable (importPrefix (some value))
  | set {f : Flag} : IsWritable (flag f none)
  | flag {f : Flag} {word : String} : lower word ∈ trueWords ++ falseWords →
      IsWritable (flag f (some word))
  | mapping {file package : String} : ',' ∉ file.toList → '=' ∉ file.toList → IsValue package →
      IsWritable (mapping file package)

/-- The import prefix that a setting sets. -/
def importPrefix? : Setting → Option String
  | importPrefix value => some (value.getD "")
  | _ => none

/-- The value that a setting gives a flag. -/
def flag? (f : Flag) : Setting → Option Bool
  | flag g word => if g = f then some (word.all fun w => trueWords.contains (lower w)) else none
  | _ => none

/-- The file that a setting puts into a package. -/
def mapping? : Setting → Option (String × String)
  | mapping file package => some (file, package)
  | _ => none

/-- The settings that a setting makes of others. -/
def applyTo (s : Settings) (x : Setting) : Settings where
  importPrefix := x.importPrefix?.getD s.importPrefix
  requestContext := (x.flag? .requestContext).getD s.requestContext
  allowDeleteBody := (x.flag? .allowDeleteBody).getD s.allowDeleteBody
  packageMap := x.mapping?.elim s.packageMap fun entry => s.packageMap.set entry.1 entry.2

end Setting

/-- The pieces of a parameter write settings, one each and in this order; the others are blank. -/
inductive Write : List String → List Setting → Prop
  | nil : Write [] []
  | blank {piece : String} {pieces : List String} {settings : List Setting} :
      IsBlank piece → Write pieces settings → Write (piece :: pieces) settings
  | setting {before after : String} {x : Setting} {pieces : List String}
      {settings : List Setting} :
      IsBlank before → IsBlank after → x.IsWritable → Write pieces settings →
      Write ((before ++ x.text ++ after) :: pieces) (x :: settings)

/-- What settings make of the defaults: the last prefix and the last value of each flag count, and
    each file stands where it was first put into a package, with the last of its packages. -/
structure MadeOf (settings : List Setting) (s : Settings) : Prop where
  importPrefix : s.importPrefix = (settings.filterMap Setting.importPrefix?).getLast?.getD ""
  requestContext :
    s.requestContext = (settings.filterMap (Setting.flag? .requestContext)).getLast?.getD false
  allowDeleteBody :
    s.allowDeleteBody = (settings.filterMap (Setting.flag? .allowDeleteBody)).getLast?.getD false
  files : s.packageMap.keys = ((settings.filterMap Setting.mapping?).map (·.1)).eraseDups
  packages : ∀ file, s.packageMap.get? file =
    (((settings.filterMap Setting.mapping?).filter (·.1 = file)).map (·.2)).getLast?

section Pieces

theorem Flag.key_mem (f : Flag) : f.key ∈ flagNames := by
  cases f <;> decide

/-- The words for truth and falsehood hold neither commas nor white space. -/
theorem isValue_of_word {word : String} (accepted : lower word ∈ trueWords ++ falseWords) :
    IsValue word := by
  have clean : ∀ w ∈ trueWords ++ falseWords,
      ',' ∉ w.toList ∧ w.toList.all (!isBlank ·) = true := by
    decide +kernel
  obtain ⟨noComma, visible⟩ := clean _ accepted
  rw [List.all_eq_true] at visible
  -- A comma or a blank is its own lower-case form, so one in the text would show in the word.
  constructor
  · intro comma
    exact noComma (mem_lower (by decide) (by decide) comma)
  · intro c last
    cases blank : isBlank c with
    | false => rfl
    | true =>
        have kept := visible c (mem_lower_of_isBlank blank (List.mem_of_getLast? last))
        simp [blank] at kept

/-- A key that begins visibly is a piece with any value. -/
theorem isPiece_keyValue {key value : String} {c : Char} {cs : List Char}
    (letters : key.toList = c :: cs) (visible : isBlank c = false) (whole : ',' ∉ key.toList)
    (behind : IsValue value) : IsPiece (key ++ "=" ++ value) := by
  have text : (key ++ "=" ++ value).toList = key.toList ++ '=' :: value.toList := by simp
  constructor
  · rw [text]
    simp [whole, behind.1]
  · rw [text]
    constructor
    · intro d first
      simp only [letters, List.cons_append, List.head?_cons, Option.mem_some_iff] at first
      exact first ▸ visible
    · intro d last
      rw [List.getLast?_append_of_ne_nil _ (List.cons_ne_nil _ _), List.getLast?_cons] at last
      cases ending : value.toList.getLast? with
      | none =>
          rw [ending, Option.getD_none, Option.mem_some_iff] at last
          exact last ▸ by decide
      | some e =>
          rw [ending, Option.getD_some, Option.mem_some_iff] at last
          exact last ▸ behind.2 e ending
  · rw [text, letters]
    simp

/-- What can be written is a piece. -/
theorem Setting.IsWritable.isPiece {x : Setting} (writable : x.IsWritable) : IsPiece x.text := by
  cases writable with
  | noPrefix => exact ⟨by decide, by decide +kernel, by decide⟩
  | importPrefix value => exact isPiece_keyValue rfl (by decide) (by decide) value
  | @set f => cases f <;> exact ⟨by decide, by decide +kernel, by decide⟩
  | @flag f word accepted =>
      have value := isValue_of_word accepted
      cases f <;> exact isPiece_keyValue rfl (by decide) (by decide) value
  | @mapping file package noComma _ value =>
      have letters : ("M" ++ file).toList = 'M' :: file.toList := by simp
      exact isPiece_keyValue letters (by decide) (by simp [noComma]) value

end Pieces

section Reading

variable {items : List String} {xs : List Setting} {x : Setting}

theorem trim_of_isBlank {text : String} (blank : IsBlank text) : trim text = "" := by
  rw [← String.toList_inj, toList_trim, trimChars_of_blank blank]
  rfl

theorem IsPiece.trim_around {before text after : String} (piece : IsPiece text)
    (front : IsBlank before) (back : IsBlank after) : trim (before ++ text ++ after) = text := by
  rw [← String.toList_inj, toList_trim, String.toList_append, String.toList_append]
  exact trimChars_append front piece.trimmed piece.full back

theorem not_mem_of_isBlank {text : String} (blank : IsBlank text) : ',' ∉ text.toList := by
  intro comma
  exact absurd (blank ',' comma) (by decide)

theorem Write.whole (written : Write items xs) : ∀ item ∈ items, ',' ∉ item.toList := by
  induction written with
  | nil => simp
  | blank blank _ ih => exact List.forall_mem_cons.mpr ⟨not_mem_of_isBlank blank, ih⟩
  | setting front back writable _ ih =>
      refine List.forall_mem_cons.mpr ⟨?_, ih⟩
      simp [not_mem_of_isBlank front, not_mem_of_isBlank back, writable.isPiece.whole]

theorem Write.isWritable (written : Write items xs) : ∀ x ∈ xs, x.IsWritable := by
  induction written with
  | nil => simp
  | blank _ _ ih => exact ih
  | setting _ _ writable _ ih => exact List.forall_mem_cons.mpr ⟨writable, ih⟩

theorem Write.filter_trim (written : Write items xs) :
    (items.map trim).filter (!·.isEmpty) = xs.map Setting.text := by
  induction written with
  | nil => rfl
  | blank blank _ ih =>
      rw [List.map_cons, trim_of_isBlank blank]
      exact ih
  | @setting _ _ x _ _ front back writable _ ih =>
      have full : (!x.text.isEmpty) = true := by
        simpa [← String.toList_eq_nil_iff] using writable.isPiece.full
      rw [List.map_cons, writable.isPiece.trim_around front back, List.filter_cons, if_pos full, ih,
        List.map_cons]

/-- The visible pieces of what is written are the settings. -/
theorem Write.pieces_join (written : Write items xs) :
    pieces (join ',' items) = xs.map Setting.text := by
  cases items with
  | nil =>
      cases written
      decide +kernel
  | cons item items =>
      rw [pieces, split_join (List.cons_ne_nil item items) written.whole, written.filter_trim]

theorem change_flag {f : Flag} {piece : String} {word : Option String}
    (parts : keyValue piece = (f.key, word))
    (accepted : ∀ w ∈ word, lower w ∈ trueWords ++ falseWords) (s : Settings) :
    s.change piece = .ok ((Setting.flag f word).applyTo s) := by
  rw [change, parts]
  -- Neither key begins with a capital M, so the value never makes it a mapping.
  cases f with
  | requestContext =>
      change (readFlag "request_context" word).map _ = _
      rw [readFlag_of_word accepted]
      rfl
  | allowDeleteBody =>
      change (readFlag "allow_delete_body" word).map _ = _
      rw [readFlag_of_word accepted]
      rfl

/-- A setting that is written is the setting that is read. -/
theorem change_text (writable : x.IsWritable) (s : Settings) :
    s.change x.text = .ok (x.applyTo s) := by
  cases writable with
  | noPrefix => exact change_of_setsPrefix .bare s
  | @importPrefix value _ => exact change_of_setsPrefix (.value value) s
  | @set f =>
      have noValue := (not_mem_of_mem_flagNames f.key_mem).1
      exact change_flag (keyValue_of_not_mem noValue) (by simp) s
  | @flag f word accepted =>
      have noValue := (not_mem_of_mem_flagNames f.key_mem).1
      exact change_flag (keyValue_append word noValue) (by simpa using accepted) s
  | @mapping file package _ noEquals _ =>
      have letters : ("M" ++ file).toList = 'M' :: file.toList := by simp
      have absent : '=' ∉ ("M" ++ file).toList := by simpa using noEquals
      rw [change, Setting.text, keyValue_append package absent]
      simp only [letters, String.ofList_toList]
      rfl

theorem foldlM_change_text (writable : ∀ x ∈ xs, x.IsWritable) (s : Settings) :
    (xs.map Setting.text).foldlM change s = .ok (xs.foldl (fun s x => x.applyTo s) s) := by
  induction xs generalizing s with
  | nil => rfl
  | cons x xs ih =>
      obtain ⟨first, rest⟩ := List.forall_mem_cons.mp writable
      rw [List.map_cons, List.foldlM_cons, change_text first]
      exact ih rest (x.applyTo s)

/-- Of a part of the settings that some settings set, the last one that sets it counts. -/
theorem foldl_applyTo {α : Type} (part : Settings → α) {sets : Setting → Option α}
    (each : ∀ s x, part (x.applyTo s) = (sets x).getD (part s)) (s : Settings) :
    part (xs.foldl (fun s x => x.applyTo s) s) =
      (xs.filterMap sets).getLast?.getD (part s) := by
  induction xs generalizing s with
  | nil => rfl
  | cons x xs ih =>
      rw [List.foldl_cons, ih, each]
      cases set : sets x with
      | none => simp [set]
      | some value => simp [set, List.getLast?_cons]

theorem packageMap_foldl_applyTo (s : Settings) :
    (xs.foldl (fun s x => x.applyTo s) s).packageMap =
      (xs.filterMap Setting.mapping?).foldl (fun t entry => t.set entry.1 entry.2)
        s.packageMap := by
  induction xs generalizing s with
  | nil => rfl
  | cons x xs ih =>
      rw [List.foldl_cons, ih]
      cases x <;> rfl

theorem madeOf_foldl_applyTo : MadeOf xs (xs.foldl (fun s x => x.applyTo s) default) := by
  have table : (xs.foldl (fun s x => x.applyTo s) default).packageMap =
      Table.ofList (xs.filterMap Setting.mapping?) := packageMap_foldl_applyTo default
  constructor
  · exact foldl_applyTo importPrefix (fun _ _ => rfl) default
  · exact foldl_applyTo requestContext (fun _ _ => rfl) default
  · exact foldl_applyTo allowDeleteBody (fun _ _ => rfl) default
  · rw [table, Table.keys_ofList]
  · intro file
    rw [table, Table.get?_ofList]

/-- Settings are made of others in one way. -/
theorem MadeOf.unique {s t : Settings} (distinct : s.packageMap.keys.Nodup) (first : MadeOf xs s)
    (second : MadeOf xs t) : s = t := by
  have packageMap : s.packageMap = t.packageMap := by
    refine Table.eq_of_get? distinct (first.files.trans second.files.symm) fun file => ?_
    rw [first.packages, second.packages]
  calc s = ⟨s.importPrefix, s.requestContext, s.allowDeleteBody, s.packageMap⟩ := rfl
    _ = ⟨t.importPrefix, t.requestContext, t.allowDeleteBody, t.packageMap⟩ := by
        rw [first.importPrefix, first.requestContext, first.allowDeleteBody, packageMap,
          second.importPrefix, second.requestContext, second.allowDeleteBody]
    _ = t := rfl

end Reading

section Refusing

variable {parameter piece : String} {fault : Fault}

/-- A piece that is no setting, with its fault: the value of a flag that is no word, or else the
    whole piece. -/
inductive Refused : String → Fault → Prop
  | value {flag value : String} : flag ∈ flagNames → lower value ∉ trueWords ++ falseWords →
      Refused (flag ++ "=" ++ value) (.invalidFlag flag value)
  | other {piece : String} : ¬ Accepted piece →
      (∀ flag ∈ flagNames, ∀ value, piece ≠ flag ++ "=" ++ value) →
      Refused piece (.unknownSetting piece)

theorem exists_refused (refused : ¬ Accepted piece) : ∃ fault, Refused piece fault := by
  by_cases valued : ∃ flag ∈ flagNames, ∃ value, piece = flag ++ "=" ++ value
  · obtain ⟨flag, member, value, rfl⟩ := valued
    exact ⟨_, .value member fun word => refused (.flag member word)⟩
  · refine ⟨_, .other refused fun flag member value whole => ?_⟩
    exact valued ⟨flag, member, value, whole⟩

theorem refusals_of_refused (refused : Refused piece fault) : refusals piece = [fault] := by
  cases refused with
  | value member unknown =>
      rw [refusals, keyValue_append _ (not_mem_of_mem_flagNames member).1, refusalsOf_flag member,
        readFlag_of_no_word unknown]
      rfl
  | other refused noFlag =>
      have some : refusals piece ≠ [] := mt refusals_eq_nil_iff.mp refused
      have noKey : (keyValue piece).1 ∉ flagNames := by
        intro member
        rcases eq_key_or_keyValue piece with absent | ⟨key, value, absent, rfl⟩
        · rw [keyValue_of_not_mem absent] at member
          exact refused (.set member)
        · rw [keyValue_append value absent] at member
          exact noFlag key member value rfl
      rw [refusals, refusalsOf] at some ⊢
      split at some
      · exact absurd rfl some
      · rename_i own
        rw [if_neg own, if_neg noKey]

theorem not_accepted_of_refused (refused : Refused piece fault) : ¬ Accepted piece := by
  rw [← refusals_eq_nil_iff, refusals_of_refused refused]
  exact List.cons_ne_nil fault []

theorem refused_iff : Refused piece fault ↔ (refusals piece).head? = some fault := by
  constructor
  · intro refused
    rw [refusals_of_refused refused, List.head?_cons]
  · intro first
    have noSetting : ¬ Accepted piece := by
      rintro accepted
      rw [refusals_eq_nil_iff.mpr accepted] at first
      cases first
    obtain ⟨other, refused⟩ := exists_refused noSetting
    rw [refusals_of_refused refused, List.head?_cons, Option.some.injEq] at first
    exact first ▸ refused

theorem ofParameter_eq_error_iff :
    ofParameter parameter = .error fault ↔ FirstFailure Refused (pieces parameter) fault := by
  have each : ∀ piece fault, Refused piece fault ↔ (refusals piece).head? = some fault :=
    fun _ _ => refused_iff
  rw [(reportsFirst_ofParameter parameter).eq_error_iff, firstFailure_iff each]

theorem exists_error_iff : (∃ fault, ofParameter parameter = .error fault) ↔
    ∃ piece ∈ pieces parameter, ¬ Accepted piece := by
  simp only [ofParameter_eq_error_iff, exists_firstFailure_iff]
  constructor
  · rintro ⟨piece, member, fault, refused⟩
    exact ⟨piece, member, not_accepted_of_refused refused⟩
  · rintro ⟨piece, member, noSetting⟩
    exact ⟨piece, member, exists_refused noSetting⟩

/-- The message names the piece, or the flag and the value that are in it. -/
theorem message_of_refused (refused : Refused piece fault) :
    fault.message = "cannot set flag " ++ piece ∨
      ∃ flag ∈ flagNames, ∃ value, piece = flag ++ "=" ++ value ∧
        fault.message = "invalid value for " ++ flag ++ ": " ++ value := by
  cases refused with
  | @value flag value member _ => exact Or.inr ⟨flag, member, value, rfl, rfl⟩
  | other => exact Or.inl rfl

end Refusing

theorem ofParameter_join {items : List String} {xs : List Setting} (written : Write items xs) :
    ∃ s, ofParameter (join ',' items) = .ok s ∧ ∀ t, MadeOf xs t ↔ t = s := by
  refine ⟨xs.foldl (fun s x => x.applyTo s) default, ?_, fun t => ⟨fun made => ?_, ?_⟩⟩
  · rw [ofParameter, readAll_eq, written.pieces_join, foldlM_change_text written.isWritable]
  · refine (MadeOf.unique ?_ madeOf_foldl_applyTo made).symm
    rw [packageMap_foldl_applyTo]
    exact Table.nodup_keys_ofList _
  · rintro rfl
    exact madeOf_foldl_applyTo

theorem ofParameter_append (first second : String) :
    ofParameter (first ++ "," ++ second) = ofParameter first >>= fun s => s.readAll second := by
  have letters : (first ++ "," ++ second).toList = first.toList ++ ',' :: second.toList := by simp
  rw [ofParameter, readAll, split, letters, List.splitOn_append_cons_self, List.map_append,
    List.foldlM_append]
  rfl

/-- Settings that are written are read: settings in any order, each with white space around it, and
    blank pieces between them give what they make of the defaults, and nothing else is that.  What
    follows a comma is read on from what stands in front of it.  A parameter is refused exactly if
    one of its visible pieces is no setting, and the first of these gives the message. -/
theorem ofParameter_reads_written :
    (∀ items xs, Write items xs →
      ∃ s, ofParameter (join ',' items) = .ok s ∧ ∀ t, MadeOf xs t ↔ t = s) ∧
    (∀ first second, ofParameter (first ++ "," ++ second) =
      ofParameter first >>= fun s => s.readAll second) ∧
    (∀ parameter, (∃ fault, ofParameter parameter = .error fault) ↔
      ∃ piece ∈ pieces parameter, ¬ Accepted piece) ∧
    (∀ parameter fault, ofParameter parameter = .error fault ↔
      FirstFailure Refused (pieces parameter) fault) ∧
    ∀ piece fault, Refused piece fault →
      fault.message = "cannot set flag " ++ piece ∨
      ∃ flag ∈ flagNames, ∃ value, piece = flag ++ "=" ++ value ∧
        fault.message = "invalid value for " ++ flag ++ ": " ++ value :=
  ⟨fun _ _ => ofParameter_join, ofParameter_append, fun _ => exists_error_iff,
    fun _ _ => ofParameter_eq_error_iff, fun _ _ => message_of_refused⟩

/-- A file named like a flag is put into two packages, with a blank piece and white space between;
    an unknown key stops the reader in front of a flag that is not a word. -/
theorem ofParameter_reads_repeated :
    ofParameter "\tMrequest_context=a=b, ,request_context=YeS ,M a b= c,Mrequest_context=d" =
      .ok ⟨"", true, false, [("request_context", "d"), (" a b", " c")]⟩ ∧
    ofParameter "Mf=p, unknown=1 ,request_context=maybe" = .error (.unknownSetting "unknown=1") ∧
    ∃ flag ∈ flagNames, ∃ value, "request_context=maybe" = flag ++ "=" ++ value ∧
      (Fault.invalidFlag "request_context" "maybe").message =
        "invalid value for " ++ flag ++ ": " ++ value := by
  refine ⟨?_, ?_, ?_⟩
  · have none : IsBlank "" := by decide
    have space : IsBlank " " := by decide
    have tab : IsBlank "\t" := by decide
    have word : (Setting.flag .requestContext (some "YeS")).IsWritable := .flag (by decide +kernel)
    have first : (Setting.mapping "request_context" "a=b").IsWritable :=
      .mapping (by decide) (by decide) (by decide)
    have spaced : (Setting.mapping " a b" " c").IsWritable :=
      .mapping (by decide) (by decide) (by decide)
    have again : (Setting.mapping "request_context" "d").IsWritable :=
      .mapping (by decide) (by decide) (by decide)
    have written := Write.setting tab none first <| .blank space <| .setting none space word <|
      .setting none none spaced <| .setting none none again .nil
    have made : MadeOf
        [.mapping "request_context" "a=b", .flag .requestContext (some "YeS"),
          .mapping " a b" " c", .mapping "request_context" "d"]
        ⟨"", true, false, [("request_context", "d"), (" a b", " c")]⟩ := by
      refine ⟨rfl, by decide +kernel, rfl, by decide, fun file => ?_⟩
      exact Table.get?_ofList [("request_context", "a=b"), (" a b", " c"), ("request_context", "d")]
        file
    obtain ⟨s, read, only⟩ := ofParameter_reads_written.1 _ _ written
    rw [(only _).mp made]
    exact read
  · have sound : ∀ fault, ¬ Refused "Mf=p" fault := by
      intro fault refused
      rw [refused_iff, show refusals "Mf=p" = [] by decide +kernel] at refused
      cases refused
    have refused : Refused "unknown=1" (.unknownSetting "unknown=1") :=
      refused_iff.mpr (by decide +kernel)
    refine (ofParameter_reads_written.2.2.2.1 _ _).mpr ?_
    exact ⟨["Mf=p"], "unknown=1", ["request_context=maybe"], by decide +kernel,
      by simpa using sound, refused⟩
  · have refused : Refused ("request_context" ++ "=" ++ "maybe")
        (.invalidFlag "request_context" "maybe") := .value (by decide) (by decide +kernel)
    exact (ofParameter_reads_written.2.2.2.2 _ _ refused).resolve_left (by decide)

end HttpAdapter.Settings
