/-!
Number literals, read one character at a time.  A `NumberPart` says how much of a number has been
read; `move` says what the next character does to it.
-/

namespace HttpAdapter.Grammar

/-- What has been read of a number literal. -/
inductive NumberPart where
  /-- A single zero. -/
  | zero
  /-- Several zeros. -/
  | zeros
  /-- An underscore after zeros. -/
  | zerosGap
  /-- Zeros and other digits: too many zeros for an integer. -/
  | padded
  | paddedGap
  /-- The letter that announces a base. -/
  | baseMark (base : Nat)
  | inBase (base : Nat)
  | inBaseGap (base : Nat)
  /-- Decimal digits, with their count. -/
  | decimal (digits : Nat)
  | decimalGap (digits : Nat)
  /-- The point, before the first digit of the fraction. -/
  | point
  | fraction
  | fractionGap
  /-- The letter of an exponent, which may turn out to begin a word. -/
  | exponentMark (letter : Char)
  | exponentSign
  | exponent
  | exponentGap
  /-- The letter of an imaginary number. -/
  | imaginary
  deriving DecidableEq, Repr

/-- What a character does to a number: it belongs to it, or the number ends in front of it, or it
    cannot follow. -/
inductive NumberMove where
  | more (part : NumberPart)
  | stop
  | reject
  deriving DecidableEq, Repr

/-- Whether the character is a digit in the given base. -/
def isDigitIn (base : Nat) (c : Char) : Bool :=
  if base = 16 then c.isDigit || ('a' ≤ c && c ≤ 'f') || ('A' ≤ c && c ≤ 'F')
  else '0' ≤ c && c.toNat < '0'.toNat + base

/-- The longest decimal integer that is read, in digits. -/
def maxDecimalDigits : Nat := 4300

/-- The part that a fraction point, an exponent letter or an imaginary letter begins. -/
def NumberPart.branch? (c : Char) : Option NumberPart :=
  if c = '.' then some .point
  else if c = 'e' || c = 'E' then some (.exponentMark c)
  else if c = 'j' || c = 'J' then some .imaginary
  else none

/-- The same for what stands after the point. -/
def NumberPart.tail? (c : Char) : Option NumberPart :=
  if c = '.' then none else branch? c

/-- An underscore must have a digit behind it. -/
def NumberPart.afterGap (part : NumberPart) (c : Char) : NumberMove :=
  if c.isDigit then .more part else .reject

/-- What the next character does to a number. -/
def NumberPart.move : NumberPart → Char → NumberMove
  | .zero, c =>
      if c = 'x' || c = 'X' then .more (.baseMark 16)
      else if c = 'o' || c = 'O' then .more (.baseMark 8)
      else if c = 'b' || c = 'B' then .more (.baseMark 2)
      else afterZeros c
  | .zeros, c => afterZeros c
  | .zerosGap, c => if c = '0' then .more .zeros else afterGap .padded c
  | .padded, c =>
      if c.isDigit then .more .padded
      else if c = '_' then .more .paddedGap
      else match branch? c with
        | some part => .more part
        | none => .reject
  | .paddedGap, c => afterGap .padded c
  | .baseMark base, c =>
      if c = '_' then .more (.inBaseGap base)
      else if isDigitIn base c then .more (.inBase base)
      else .reject
  | .inBase base, c =>
      if c = '_' then .more (.inBaseGap base)
      else if isDigitIn base c then .more (.inBase base)
      else .stop
  | .inBaseGap base, c => if isDigitIn base c then .more (.inBase base) else .reject
  | .decimal digits, c =>
      if c.isDigit then .more (.decimal (digits + 1))
      else if c = '_' then .more (.decimalGap digits)
      else match branch? c with
        | some part => .more part
        | none => if digits ≤ maxDecimalDigits then .stop else .reject
  | .decimalGap digits, c => afterGap (.decimal (digits + 1)) c
  | .point, c => if c.isDigit then .more .fraction else afterFraction c
  | .fraction, c =>
      if c.isDigit then .more .fraction
      else if c = '_' then .more .fractionGap
      else afterFraction c
  | .fractionGap, c => afterGap .fraction c
  | .exponentMark _, c =>
      if c = '+' || c = '-' then .more .exponentSign
      else if c.isDigit then .more .exponent
      else .stop
  | .exponentSign, c => afterGap .exponent c
  | .exponent, c =>
      if c.isDigit then .more .exponent
      else if c = '_' then .more .exponentGap
      else if c = 'j' || c = 'J' then .more .imaginary
      else .stop
  | .exponentGap, c => afterGap .exponent c
  | .imaginary, _ => .stop
where
  /-- What follows zeros. -/
  afterZeros (c : Char) : NumberMove :=
    if c = '0' then .more .zeros
    else if c = '_' then .more .zerosGap
    else if c.isDigit then .more .padded
    else match branch? c with
      | some part => .more part
      | none => .stop
  /-- What follows the digits behind the point. -/
  afterFraction (c : Char) : NumberMove :=
    match tail? c with
    | some part => .more part
    | none => .stop

end HttpAdapter.Grammar
