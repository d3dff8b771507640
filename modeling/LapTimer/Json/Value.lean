import LapTimer.Json.Token
import LapTimer.Text.Bytes

/-! JSON values and their compact text. A value is built from tokens with a stack of the
brackets that are open, so nesting may go to any depth. -/

namespace LapTimer

/-- A member of an object pairs the bytes of its key with its value. -/
inductive Json where
  | null
  | bool (value : Bool)
  | number (digits : List UInt8)
  | text (raw : List UInt8)
  | array (items : List Json)
  | object (members : List (List UInt8 × Json))
  deriving Inhabited

namespace Json

/-- An open bracket with what stands in it so far, last first. An object may
have a key that waits for its value. -/
inductive Frame where
  | array (items : List Json)
  | object (members : List (List UInt8 × Json)) (key : Option (List UInt8))

inductive Expectation where
  | value
  | valueOrClose
  | key
  | keyOrClose
  | colon
  | commaOrClose
  | nothing (whole : Json)

structure Builder where
  frames : List Frame := []
  expects : Expectation := .value

/-- Puts a finished value where it belongs. -/
def Builder.place? (frames : List Frame) (value : Json) : Option Builder :=
  match frames with
  | [] => some ⟨[], .nothing value⟩
  | .array items :: rest => some ⟨.array (value :: items) :: rest, .commaOrClose⟩
  | .object members (some key) :: rest =>
      some ⟨.object ((key, value) :: members) none :: rest, .commaOrClose⟩
  | .object _ none :: _ => none

/-- A token where a value can begin. -/
def Builder.value? (frames : List Frame) : Token → Option Builder
  | .null => place? frames .null
  | .bool value => place? frames (.bool value)
  | .number digits => place? frames (.number digits)
  | .text raw => place? frames (.text raw)
  | .openBracket => some ⟨.array [] :: frames, .valueOrClose⟩
  | .openBrace => some ⟨.object [] none :: frames, .keyOrClose⟩
  | _ => none

def Builder.key? (frames : List Frame) : Token → Option Builder
  | .text raw =>
      match frames with
      | .object members none :: rest => some ⟨.object members (some raw) :: rest, .colon⟩
      | _ => none
  | _ => none

def Builder.close? (frames : List Frame) : Token → Option Builder
  | .closeBracket =>
      match frames with
      | .array items :: rest => place? rest (.array items.reverse)
      | _ => none
  | .closeBrace =>
      match frames with
      | .object members none :: rest => place? rest (.object members.reverse)
      | _ => none
  | _ => none

def Builder.feed? (builder : Builder) (token : Token) : Option Builder :=
  match builder.expects with
  | .value => value? builder.frames token
  | .valueOrClose =>
      if token = .closeBracket then close? builder.frames token
      else value? builder.frames token
  | .key => key? builder.frames token
  | .keyOrClose =>
      if token = .closeBrace then close? builder.frames token else key? builder.frames token
  | .colon => if token = .colon then some ⟨builder.frames, .value⟩ else none
  | .commaOrClose =>
      if token = .comma then
        match builder.frames with
        | .array _ :: _ => some ⟨builder.frames, .value⟩
        | .object _ _ :: _ => some ⟨builder.frames, .key⟩
        | [] => none
      else close? builder.frames token
  | .nothing _ => none

def Builder.run? (builder : Builder) : List Token → Option Json
  | [] =>
      match builder.expects with
      | .nothing whole => some whole
      | _ => none
  | token :: rest =>
      match builder.feed? token with
      | some next => next.run? rest
      | none => none

def parse? (bytes : List UInt8) : Option Json :=
  match tokens? bytes with
  | some tokens => Builder.run? {} tokens
  | none => none

def quote (raw : List UInt8) : List UInt8 := 0x22 :: raw ++ [0x22]

mutual

def bytes : Json → List UInt8
  | .null => nullWord
  | .bool true => trueWord
  | .bool false => falseWord
  | .number digits => digits
  | .text raw => quote raw
  | .array items => 0x5b :: itemsBytes items ++ [0x5d]
  | .object members => 0x7b :: membersBytes members ++ [0x7d]

def itemsBytes : List Json → List UInt8
  | [] => []
  | [item] => item.bytes
  | item :: next :: rest => item.bytes ++ 0x2c :: itemsBytes (next :: rest)

def membersBytes : List (List UInt8 × Json) → List UInt8
  | [] => []
  | [(key, value)] => quote key ++ 0x3a :: value.bytes
  | (key, value) :: next :: rest =>
      quote key ++ 0x3a :: value.bytes ++ 0x2c :: membersBytes (next :: rest)

end

def digitsOf (n : Nat) : List UInt8 :=
  if n < 10 then [0x30 + .ofNat n] else digitsOf (n / 10) ++ [0x30 + .ofNat (n % 10)]

def ofNat (n : Nat) : Json := .number (digitsOf n)

/-- The number that a token of digits alone writes. A sign, a fraction or an
exponent makes it another kind of number. -/
def natOf? (digits : List UInt8) : Option Nat :=
  if digits.all isDigit then some (digits.foldl (fun n b => n * 10 + (b - 0x30).toNat) 0)
  else none

def hexDigit (n : UInt8) : UInt8 := if n < 10 then 0x30 + n else 0x57 + n

def escapeByte (b : UInt8) : List UInt8 :=
  if b == 0x22 then [0x5c, 0x22]
  else if b == 0x5c then [0x5c, 0x5c]
  else if b == 0x08 then [0x5c, 0x62]
  else if b == 0x09 then [0x5c, 0x74]
  else if b == 0x0a then [0x5c, 0x6e]
  else if b == 0x0c then [0x5c, 0x66]
  else if b == 0x0d then [0x5c, 0x72]
  else if b < 0x20 then [0x5c, 0x75, 0x30, 0x30, hexDigit (b / 16), hexDigit (b % 16)]
  else [b]

def escape (s : String) : List UInt8 := (Text.utf8 s).flatMap escapeByte

def ofString (s : String) : Json := .text (escape s)

def hexValue (b : UInt8) : Nat :=
  if isDigit b then (b - 0x30).toNat
  else if 0x61 ≤ b then (b - 0x57).toNat
  else (b - 0x37).toNat

def hexUnit (a b c d : UInt8) : Nat :=
  ((hexValue a * 16 + hexValue b) * 16 + hexValue c) * 16 + hexValue d

def escapedLetter (b : UInt8) : UInt8 :=
  if b == 0x62 then 0x08
  else if b == 0x66 then 0x0c
  else if b == 0x6e then 0x0a
  else if b == 0x72 then 0x0d
  else if b == 0x74 then 0x09
  else b

def isHighSurrogate (unit : Nat) : Bool := 0xd800 ≤ unit && unit ≤ 0xdbff

def isLowSurrogate (unit : Nat) : Bool := 0xdc00 ≤ unit && unit ≤ 0xdfff

def codePointBytes (n : Nat) : List UInt8 := String.utf8EncodeChar (Char.ofNat n)

/-- The bytes that a string token stands for. Surrogates have to come in pairs. -/
def unescape? : List UInt8 → Option (List UInt8)
  | [] => some []
  | 0x5c :: 0x75 :: a :: b :: c :: d :: rest =>
      let unit := hexUnit a b c d
      if isHighSurrogate unit then
        match rest with
        | 0x5c :: 0x75 :: e :: f :: g :: h :: rest =>
            let low := hexUnit e f g h
            if isLowSurrogate low then
              (unescape? rest).map
                (codePointBytes (0x10000 + (unit - 0xd800) * 0x400 + (low - 0xdc00)) ++ ·)
            else none
        | _ => none
      else if isLowSurrogate unit then none
      else (unescape? rest).map (codePointBytes unit ++ ·)
  | 0x5c :: b :: rest => (unescape? rest).map (escapedLetter b :: ·)
  | b :: rest => (unescape? rest).map (b :: ·)

def textOf? (raw : List UInt8) : Option String := (unescape? raw).bind Text.ofUtf8?

end Json

end LapTimer
