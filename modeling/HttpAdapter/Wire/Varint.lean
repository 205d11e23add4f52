/-!
Numbers of variable length: seven bits in a byte, the lowest first, and the eighth bit set in every
byte but the last.  Writing uses the fewest bytes; reading bounds their number.  And the causes for
which bytes are refused as a message.
-/

namespace HttpAdapter.Wire

/-- Why bytes are no message. -/
inductive WireFault where
  /-- They do not fall into fields. -/
  | corrupt
  /-- A text is not UTF-8. -/
  | badText
  /-- Messages are nested too deeply. -/
  | tooDeep
  deriving DecidableEq, Repr

/-- The message of a fault. -/
def WireFault.message : WireFault → String
  | .corrupt => "Wire format was corrupt"
  | .badText => "String field had bad UTF-8"
  | .tooDeep => "Exceeded upb_DecodeOptions_MaxDepth"

/-- The bytes of a number. -/
def encodeVarint (n : Nat) : List UInt8 :=
  if n < 128 then [UInt8.ofNat n] else UInt8.ofNat (n % 128 + 128) :: encodeVarint (n / 128)

/-- Takes a number of at most `limit` bytes off the front. -/
def decodeVarint : Nat → List UInt8 → Option (Nat × List UInt8)
  | 0, _ => none
  | _ + 1, [] => none
  | limit + 1, b :: bs =>
      if b.toNat < 128 then some (b.toNat, bs)
      else (decodeVarint limit bs).map fun (n, rest) => (b.toNat - 128 + 128 * n, rest)

/-- The first number beyond 32 bits. -/
def limit32 : Nat := 0x100000000

/-- The first number beyond 64 bits. -/
def limit64 : Nat := 0x10000000000000000

/-- Takes a number of 64 bits off the front; what goes beyond them is dropped. -/
def decodeNumber (bs : List UInt8) : Option (Nat × List UInt8) :=
  (decodeVarint 10 bs).map fun (n, rest) => (n % limit64, rest)

/-- Takes the tag of a field off the front, which has to fit into 32 bits. -/
def decodeTag (bs : List UInt8) : Option (Nat × List UInt8) :=
  match decodeVarint 5 bs with
  | some (n, rest) => if n < limit32 then some (n, rest) else none
  | none => none

/-- Takes a length and as many bytes as it says off the front. -/
def decodeSized (bs : List UInt8) : Option (List UInt8 × List UInt8) :=
  match decodeNumber bs with
  | some (size, rest) => if size ≤ rest.length then some (rest.take size, rest.drop size) else none
  | none => none

/-- The numbers that follow each other up to the end. -/
def decodePacked : Nat → List UInt8 → Option (List Nat)
  | _, [] => some []
  | 0, _ :: _ => none
  | limit + 1, bs => do
      let (n, rest) ← decodeNumber bs
      let others ← decodePacked limit rest
      return n :: others

end HttpAdapter.Wire
