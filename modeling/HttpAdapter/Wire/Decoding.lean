import HttpAdapter.Wire.Varint
import HttpAdapter.Wire.Schema

/-!
From bytes to the fields of a message.  Bytes are read once from front to back, so that of several
faults the first in the bytes counts.  Unknown fields, unknown groups and fields of another wire
type than their own are skipped.
-/

namespace HttpAdapter.Wire

/-- The content of a field. -/
inductive Value where
  | number (n : Nat)
  | text (bytes : List UInt8)
  | message (fields : List (Nat × Value))
  deriving Repr

/-- The fields of a message in the order of the bytes, by their numbers. -/
abbrev Fields := List (Nat × Value)

/-- How deep messages and groups may be nested. -/
def maxDepth : Nat := 100

/-- Whether bytes are UTF-8. -/
def isUtf8 (bytes : List UInt8) : Bool := (String.fromUTF8? ⟨bytes.toArray⟩).isSome

/-- What a message is read as: one of a type, or a group that is skipped up to its end. -/
inductive Frame where
  | known (type : MessageType)
  | skipped (group : Nat)
  deriving DecidableEq, Repr

/-- The shape of a field in a frame. -/
def Frame.shape? : Frame → Nat → Option FieldShape
  | .known type, number => type.shape? number
  | .skipped _, _ => none

/-- The value, or the fault that there is none. -/
def orCorrupt {α : Type} : Option α → Except WireFault α
  | some a => .ok a
  | none => .error .corrupt

/-- Drops bytes of which there have to be so many. -/
def dropExactly (n : Nat) (bs : List UInt8) : Except WireFault (List UInt8) :=
  if n ≤ bs.length then .ok (bs.drop n) else .error .corrupt

/-- Reads the fields of a frame, with the bytes that are left behind its end; `depth` frames may be
    nested in it.  Every field takes a byte at least, so that `fuel` beyond the number of bytes is
    never used up. -/
def decodeFields : Nat → Nat → Frame → List UInt8 → Except WireFault (Fields × List UInt8)
  | 0, _, _, _ => .error .corrupt
  | _ + 1, _, .known _, [] => .ok ([], [])
  | _ + 1, _, .skipped _, [] => .error .corrupt
  | fuel + 1, depth, frame, bs => do
      let (tag, bs) ← orCorrupt (decodeTag bs)
      let number := tag / 8
      if number = 0 then .error .corrupt
      else match tag % 8 with
        | 0 => do
            let (n, bs) ← orCorrupt (decodeNumber bs)
            let (fields, rest) ← decodeFields fuel depth frame bs
            match frame.shape? number with
            | some .number | some .numbers => .ok ((number, .number n) :: fields, rest)
            | _ => .ok (fields, rest)
        | 1 => do
            let bs ← dropExactly 8 bs
            decodeFields fuel depth frame bs
        | 2 => do
            let (content, bs) ← orCorrupt (decodeSized bs)
            let values ← match frame.shape? number with
              | some .text => Except.ok [Value.text content]
              | some .checkedText =>
                  if isUtf8 content then .ok [Value.text content] else .error .badText
              | some .numbers =>
                  (orCorrupt (decodePacked content.length content)).map (·.map Value.number)
              | some (.nested type) =>
                  if depth = 0 then .error .tooDeep
                  else (decodeFields fuel (depth - 1) (.known type) content).map fun (fields, _) =>
                    [Value.message fields]
              | _ => .ok []
            let (fields, rest) ← decodeFields fuel depth frame bs
            .ok (values.map ((number, ·)) ++ fields, rest)
        | 3 =>
            if depth = 0 then .error .tooDeep
            else do
              let (_, bs) ← decodeFields fuel (depth - 1) (.skipped number) bs
              decodeFields fuel depth frame bs
        | 4 => if frame = .skipped number then .ok ([], bs) else .error .corrupt
        | 5 => do
            let bs ← dropExactly 4 bs
            decodeFields fuel depth frame bs
        | _ => .error .corrupt

/-- The fields of the bytes of a message. -/
def decodeMessage (type : MessageType) (bs : List UInt8) : Except WireFault Fields :=
  (decodeFields (bs.length + 1) maxDepth (.known type) bs).map (·.1)

end HttpAdapter.Wire
