/-! The tokens of JSON text, read byte by byte. What the bytes of a number or a string mean is
asked only where the value is used. -/

namespace LapTimer.Json

inductive Token where
  | openBrace
  | closeBrace
  | openBracket
  | closeBracket
  | colon
  | comma
  | null
  | bool (value : Bool)
  | number (digits : List UInt8)
  | text (raw : List UInt8)
  deriving DecidableEq, Repr

def isDigit (b : UInt8) : Bool := 0x30 ≤ b && b ≤ 0x39

def isSpace (b : UInt8) : Bool := b == 0x20 || b == 0x0a || b == 0x0d || b == 0x09

def isHexDigit (b : UInt8) : Bool :=
  isDigit b || (0x61 ≤ b && b ≤ 0x66) || (0x41 ≤ b && b ≤ 0x46)

/-- How far a number has been read. -/
inductive NumberPart where
  | minus
  | zero
  | whole
  | point
  | fraction
  | exponent
  | exponentSign
  | exponentDigits
  deriving DecidableEq, Repr

namespace NumberPart

def isComplete : NumberPart → Bool
  | zero | whole | fraction | exponentDigits => true
  | _ => false

def start? (b : UInt8) : Option NumberPart :=
  if b == 0x2d then some minus
  else if b == 0x30 then some zero
  else if isDigit b then some whole
  else none

def isExponentMark (b : UInt8) : Bool := b == 0x65 || b == 0x45

/-- The part after one more byte; none where the number cannot go on with it. -/
def next? : NumberPart → UInt8 → Option NumberPart
  | minus, b => if b == 0x30 then some zero else if isDigit b then some whole else none
  | zero, b =>
      if b == 0x2e then some point else if isExponentMark b then some exponent else none
  | whole, b =>
      if isDigit b then some whole
      else if b == 0x2e then some point
      else if isExponentMark b then some exponent
      else none
  | point, b => if isDigit b then some fraction else none
  | fraction, b =>
      if isDigit b then some fraction
      else if isExponentMark b then some exponent
      else none
  | exponent, b =>
      if isDigit b then some exponentDigits
      else if b == 0x2b || b == 0x2d then some exponentSign
      else none
  | exponentSign, b => if isDigit b then some exponentDigits else none
  | exponentDigits, b => if isDigit b then some exponentDigits else none

end NumberPart

/-- What the reader is in the middle of. Bytes already seen are held last first. -/
inductive Lexing where
  | between
  | word (missing : List UInt8) (token : Token)
  | number (part : NumberPart) (seen : List UInt8)
  | text (seen : List UInt8)
  | escape (seen : List UInt8)
  | hex (missing : Nat) (seen : List UInt8)
  deriving DecidableEq, Repr

/-- The reader with the tokens read so far, last first. -/
structure Reader where
  lexing : Lexing := .between
  tokens : List Token := []

def nullWord : List UInt8 := [0x6e, 0x75, 0x6c, 0x6c]

def trueWord : List UInt8 := [0x74, 0x72, 0x75, 0x65]

def falseWord : List UInt8 := [0x66, 0x61, 0x6c, 0x73, 0x65]

def punctuation? (b : UInt8) : Option Token :=
  if b == 0x7b then some .openBrace
  else if b == 0x7d then some .closeBrace
  else if b == 0x5b then some .openBracket
  else if b == 0x5d then some .closeBracket
  else if b == 0x3a then some .colon
  else if b == 0x2c then some .comma
  else none

def isEscapeLetter (b : UInt8) : Bool :=
  b == 0x22 || b == 0x5c || b == 0x2f || b == 0x62 || b == 0x66 || b == 0x6e || b == 0x72 ||
    b == 0x74

/-- A byte where a token can begin. -/
def begin? (tokens : List Token) (b : UInt8) : Option Reader :=
  if isSpace b then some ⟨.between, tokens⟩
  else if b == 0x22 then some ⟨.text [], tokens⟩
  else if b == 0x6e then some ⟨.word nullWord.tail .null, tokens⟩
  else if b == 0x74 then some ⟨.word trueWord.tail (.bool true), tokens⟩
  else if b == 0x66 then some ⟨.word falseWord.tail (.bool false), tokens⟩
  else
    match punctuation? b, NumberPart.start? b with
    | some token, _ => some ⟨.between, token :: tokens⟩
    | none, some part => some ⟨.number part [b], tokens⟩
    | none, none => none

def Reader.feed? (reader : Reader) (b : UInt8) : Option Reader :=
  match reader.lexing with
  | .between => begin? reader.tokens b
  | .word missing token =>
      match missing with
      | [] => none
      | [last] => if b == last then some ⟨.between, token :: reader.tokens⟩ else none
      | c :: rest => if b == c then some ⟨.word rest token, reader.tokens⟩ else none
  | .number part seen =>
      match part.next? b with
      | some next => some ⟨.number next (b :: seen), reader.tokens⟩
      | none =>
          if part.isComplete then begin? (.number seen.reverse :: reader.tokens) b else none
  | .text seen =>
      if b == 0x22 then some ⟨.between, .text seen.reverse :: reader.tokens⟩
      else if b == 0x5c then some ⟨.escape (b :: seen), reader.tokens⟩
      else if b < 0x20 then none
      else some ⟨.text (b :: seen), reader.tokens⟩
  | .escape seen =>
      if isEscapeLetter b then some ⟨.text (b :: seen), reader.tokens⟩
      else if b == 0x75 then some ⟨.hex 4 (b :: seen), reader.tokens⟩
      else none
  | .hex missing seen =>
      if isHexDigit b then
        some ⟨if missing ≤ 1 then .text (b :: seen) else .hex (missing - 1) (b :: seen),
          reader.tokens⟩
      else none

/-- The tokens once no byte is left. -/
def Reader.finish? (reader : Reader) : Option (List Token) :=
  match reader.lexing with
  | .between => some reader.tokens.reverse
  | .number part seen =>
      if part.isComplete then some (.number seen.reverse :: reader.tokens).reverse else none
  | _ => none

def Reader.run? (reader : Reader) : List UInt8 → Option (List Token)
  | [] => reader.finish?
  | b :: rest =>
      match reader.feed? b with
      | some next => next.run? rest
      | none => none

def tokens? (bytes : List UInt8) : Option (List Token) := Reader.run? {} bytes

end LapTimer.Json
