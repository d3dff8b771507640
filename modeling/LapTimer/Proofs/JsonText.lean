import LapTimer.Json.Value

/-! Compact JSON text and its reading. The machine that makes tokens of bytes and the one that
makes values of tokens are each followed over the text of a value, with anything after it. -/

namespace LapTimer.Json

/-- What may stand between the quotes of a string. -/
inductive Spelled : List UInt8 → Prop
  | nil : Spelled []
  | plain {b : UInt8} {rest : List UInt8} (shown : ¬ b < 0x20) (unquoted : b ≠ 0x22)
      (unescaped : b ≠ 0x5c) (spelled : Spelled rest) : Spelled (b :: rest)
  | letter {b : UInt8} {rest : List UInt8} (letter : isEscapeLetter b = true)
      (spelled : Spelled rest) : Spelled (0x5c :: b :: rest)
  | unit {a b c d : UInt8} {rest : List UInt8} (first : isHexDigit a = true)
      (second : isHexDigit b = true) (third : isHexDigit c = true)
      (fourth : isHexDigit d = true) (spelled : Spelled rest) :
      Spelled (0x5c :: 0x75 :: a :: b :: c :: d :: rest)

/-- The bytes take a number from a part of it to where it may end. -/
inductive NumberPart.Completes : NumberPart → List UInt8 → Prop
  | done {part : NumberPart} (complete : part.isComplete = true) : Completes part []
  | more {part next : NumberPart} {b : UInt8} {rest : List UInt8}
      (goesOn : part.next? b = some next) (completes : Completes next rest) :
      Completes part (b :: rest)

inductive Numeral : List UInt8 → Prop
  | begun {part : NumberPart} {b : UInt8} {rest : List UInt8}
      (begins : NumberPart.start? b = some part) (completes : part.Completes rest) :
      Numeral (b :: rest)

/-- Bytes that end a number, whatever kind of number it is. -/
def Delimited (rest : List UInt8) : Prop :=
  ∀ b ∈ rest.head?, (punctuation? b).isSome = true

/-- Wherever a token can begin, the bytes are read as these tokens. -/
def Lexes (bytes : List UInt8) (tokens : List Token) : Prop :=
  ∀ (before : List Token) (rest : List UInt8), Delimited rest →
    Reader.run? ⟨.between, before⟩ (bytes ++ rest) =
      Reader.run? ⟨.between, tokens.reverse ++ before⟩ rest

theorem Reader.run?_fed {reader next : Reader} {b : UInt8} (fed : reader.feed? b = some next)
    (rest : List UInt8) : reader.run? (b :: rest) = next.run? rest := by
  rw [Reader.run?, fed]

theorem Reader.run?_begun {before : List Token} {next : Reader} {b : UInt8}
    (begun : begin? before b = some next) (rest : List UInt8) :
    Reader.run? ⟨.between, before⟩ (b :: rest) = next.run? rest := by
  have fed : Reader.feed? ⟨.between, before⟩ b = some next := begun
  exact Reader.run?_fed fed rest

theorem begin?_punctuation {b : UInt8} {token : Token} (mark : punctuation? b = some token)
    (before : List Token) : begin? before b = some ⟨.between, token :: before⟩ := by
  revert mark
  fun_cases punctuation? b <;> rintro ⟨⟩
  all_goals
    rename_i found
    obtain rfl := eq_of_beq found
    rfl

theorem begin?_number {b : UInt8} {part : NumberPart} (begins : NumberPart.start? b = some part)
    (before : List Token) : begin? before b = some ⟨.number part [b], before⟩ := by
  have sign : b = 0x2d ∨ (0x30 ≤ b ∧ b ≤ 0x39) := by
    unfold NumberPart.start? isDigit at begins
    grind
  have unmarked : punctuation? b = none := by
    unfold punctuation?
    grind
  unfold begin? isSpace
  grind

theorem Lexes.nil : Lexes [] [] := fun _ _ _ => rfl

theorem Lexes.punctuated {bytes later : List UInt8} {tokens following : List Token} {b : UInt8}
    {token : Token} (first : Lexes bytes tokens) (mark : punctuation? b = some token)
    (second : Lexes later following) :
    Lexes (bytes ++ b :: later) (tokens ++ token :: following) := by
  intro before rest ends
  have delimits : Delimited (b :: (later ++ rest)) := by
    rintro _ ⟨⟩
    rw [mark]
    rfl
  rw [List.append_assoc, List.cons_append, first before _ delimits,
    Reader.run?_begun (begin?_punctuation mark _), second _ rest ends]
  simp only [List.reverse_append, List.reverse_cons, List.append_assoc, List.cons_append,
    List.nil_append]

theorem Lexes.null : Lexes nullWord [.null] := fun _ _ _ => rfl

theorem Lexes.true : Lexes trueWord [.bool true] := fun _ _ _ => rfl

theorem Lexes.false : Lexes falseWord [.bool false] := fun _ _ _ => rfl

theorem Spelled.run? {raw : List UInt8} (spelled : Spelled raw) (seen : List UInt8)
    (before : List Token) (rest : List UInt8) :
    Reader.run? ⟨.text seen, before⟩ (raw ++ 0x22 :: rest) =
      Reader.run? ⟨.between, .text (seen.reverse ++ raw) :: before⟩ rest := by
  induction spelled generalizing seen with
  | nil =>
      rw [List.append_nil]
      rfl
  | @plain b raw shown unquoted unescaped _ ih =>
      have fed : Reader.feed? ⟨.text seen, before⟩ b = some ⟨.text (b :: seen), before⟩ := by
        simp [Reader.feed?, unquoted, unescaped, shown]
      rw [List.cons_append, Reader.run?_fed fed, ih]
      simp
  | @letter b raw letter _ ih =>
      have fed : Reader.feed? ⟨.escape (0x5c :: seen), before⟩ b =
          some ⟨.text (b :: 0x5c :: seen), before⟩ := by
        simp only [Reader.feed?, letter, ↓reduceIte]
      have begun : Reader.feed? ⟨.text seen, before⟩ 0x5c =
          some ⟨.escape (0x5c :: seen), before⟩ := rfl
      rw [List.cons_append, List.cons_append, Reader.run?_fed begun, Reader.run?_fed fed, ih]
      simp
  | @unit a b c d raw first second third fourth _ ih =>
      have fed : ∀ (missing : Nat) (digit : UInt8) (passed : List UInt8),
          isHexDigit digit = true → Reader.feed? ⟨.hex (missing + 2) passed, before⟩ digit =
            some ⟨.hex (missing + 1) (digit :: passed), before⟩ := by
        intro missing digit passed hex
        simp [Reader.feed?, hex]
      have last : ∀ (digit : UInt8) (passed : List UInt8),
          isHexDigit digit = true → Reader.feed? ⟨.hex 1 passed, before⟩ digit =
            some ⟨.text (digit :: passed), before⟩ := by
        intro digit passed hex
        simp [Reader.feed?, hex]
      have begun : Reader.feed? ⟨.text seen, before⟩ 0x5c =
          some ⟨.escape (0x5c :: seen), before⟩ := rfl
      have numbered : Reader.feed? ⟨.escape (0x5c :: seen), before⟩ 0x75 =
          some ⟨.hex 4 (0x75 :: 0x5c :: seen), before⟩ := rfl
      simp only [List.cons_append]
      rw [Reader.run?_fed begun, Reader.run?_fed numbered, Reader.run?_fed (fed 2 a _ first),
        Reader.run?_fed (fed 1 b _ second), Reader.run?_fed (fed 0 c _ third),
        Reader.run?_fed (last d _ fourth), ih]
      simp

theorem Lexes.text {raw : List UInt8} (spelled : Spelled raw) :
    Lexes (quote raw) [.text raw] := by
  intro before rest _
  have begun : begin? before 0x22 = some ⟨.text [], before⟩ := rfl
  simp only [quote, List.cons_append, List.append_assoc, List.nil_append]
  rw [Reader.run?_begun begun, spelled.run?]
  rfl

theorem NumberPart.next?_punctuation (part : NumberPart) {b : UInt8}
    (mark : (punctuation? b).isSome = true) : part.next? b = none := by
  obtain ⟨token, mark⟩ := Option.isSome_iff_exists.mp mark
  revert mark
  fun_cases punctuation? b <;> rintro ⟨⟩
  all_goals
    rename_i found
    obtain rfl := eq_of_beq found
    cases part <;> rfl

theorem NumberPart.Completes.run? {part : NumberPart} {digits : List UInt8}
    (completes : part.Completes digits) (seen : List UInt8) (before : List Token)
    (rest : List UInt8) (ends : Delimited rest) :
    Reader.run? ⟨.number part seen, before⟩ (digits ++ rest) =
      Reader.run? ⟨.between, .number (seen.reverse ++ digits) :: before⟩ rest := by
  induction completes generalizing seen with
  | @done part complete =>
      rw [List.append_nil, List.nil_append]
      cases rest with
      | nil => simp [Reader.run?, Reader.finish?, complete]
      | cons b rest =>
          have stops := part.next?_punctuation (ends b rfl)
          simp [Reader.run?, Reader.feed?, complete, stops]
  | @more part next b digits goesOn _ ih =>
      have fed : Reader.feed? ⟨.number part seen, before⟩ b =
          some ⟨.number next (b :: seen), before⟩ := by
        simp only [Reader.feed?, goesOn]
      rw [List.cons_append, Reader.run?_fed fed, ih]
      simp

theorem Lexes.number {digits : List UInt8} (numeral : Numeral digits) :
    Lexes digits [.number digits] := by
  intro before rest ends
  obtain ⟨begins, completes⟩ := numeral
  rw [List.cons_append, Reader.run?_begun (begin?_number begins before),
    completes.run? _ before rest ends]
  rfl

mutual

def tokens : Json → List Token
  | .null => [.null]
  | .bool value => [.bool value]
  | .number digits => [.number digits]
  | .text raw => [.text raw]
  | .array items => .openBracket :: itemsTokens items ++ [.closeBracket]
  | .object members => .openBrace :: membersTokens members ++ [.closeBrace]

def itemsTokens : List Json → List Token
  | [] => []
  | [item] => item.tokens
  | item :: next :: rest => item.tokens ++ .comma :: itemsTokens (next :: rest)

def membersTokens : List (List UInt8 × Json) → List Token
  | [] => []
  | [(key, value)] => .text key :: .colon :: value.tokens
  | (key, value) :: next :: rest =>
      .text key :: .colon :: value.tokens ++ .comma :: membersTokens (next :: rest)

end

/-- Every number and every string in the value is one that can be written. -/
inductive Written : Json → Prop
  | null : Written .null
  | bool (value : Bool) : Written (.bool value)
  | number {digits : List UInt8} (numeral : Numeral digits) : Written (.number digits)
  | text {raw : List UInt8} (spelled : Spelled raw) : Written (.text raw)
  | array {items : List Json} (each : ∀ item ∈ items, Written item) : Written (.array items)
  | object {members : List (List UInt8 × Json)} (keys : ∀ m ∈ members, Spelled m.1)
      (values : ∀ m ∈ members, Written m.2) : Written (.object members)

theorem lexes_items {items : List Json} (each : ∀ item ∈ items, Lexes item.bytes item.tokens) :
    Lexes (itemsBytes items) (itemsTokens items) := by
  induction items with
  | nil =>
      simp only [itemsBytes, itemsTokens]
      exact .nil
  | cons item rest ih =>
      have first := each item (List.mem_cons_self ..)
      have others := ih fun other inside => each other (List.mem_cons_of_mem _ inside)
      cases rest with
      | nil =>
          simp only [itemsBytes, itemsTokens]
          exact first
      | cons next rest =>
          simp only [itemsBytes, itemsTokens]
          exact first.punctuated rfl others

theorem lexes_members {members : List (List UInt8 × Json)} (keys : ∀ m ∈ members, Spelled m.1)
    (values : ∀ m ∈ members, Lexes m.2.bytes m.2.tokens) :
    Lexes (membersBytes members) (membersTokens members) := by
  induction members with
  | nil =>
      simp only [membersBytes, membersTokens]
      exact .nil
  | cons m rest ih =>
      obtain ⟨key, value⟩ := m
      have spelled : Spelled key := keys (key, value) (List.mem_cons_self ..)
      have first : Lexes (quote key ++ 0x3a :: value.bytes)
          ([.text key] ++ .colon :: value.tokens) :=
        (Lexes.text spelled).punctuated rfl (values (key, value) (List.mem_cons_self ..))
      have others := ih (fun other inside => keys other (List.mem_cons_of_mem _ inside))
        fun other inside => values other (List.mem_cons_of_mem _ inside)
      cases rest with
      | nil =>
          simp only [membersBytes, membersTokens]
          exact first
      | cons next rest =>
          simp only [membersBytes, membersTokens]
          exact first.punctuated rfl others

theorem Written.lexes {json : Json} (written : json.Written) :
    Lexes json.bytes json.tokens := by
  induction written with
  | null =>
      simp only [bytes, tokens]
      exact .null
  | bool value =>
      cases value with
      | false =>
          simp only [bytes, tokens]
          exact .false
      | true =>
          simp only [bytes, tokens]
          exact .true
  | number numeral =>
      simp only [bytes, tokens]
      exact .number numeral
  | text spelled =>
      simp only [bytes, tokens]
      exact .text spelled
  | array _ ih =>
      simp only [bytes, tokens]
      exact Lexes.nil.punctuated rfl ((lexes_items ih).punctuated rfl .nil)
  | object keys _ ih =>
      simp only [bytes, tokens]
      exact Lexes.nil.punctuated rfl ((lexes_members keys ih).punctuated rfl .nil)

/-- Wherever a value can begin, the tokens put this one there. -/
def Builds (json : Json) : Prop :=
  ∀ (frames : List Frame) (next : Builder) (rest : List Token),
    Builder.place? frames json = some next →
      Builder.run? ⟨frames, .value⟩ (json.tokens ++ rest) = next.run? rest

theorem Builder.run?_fed {builder next : Builder} {token : Token}
    (fed : builder.feed? token = some next) (rest : List Token) :
    builder.run? (token :: rest) = next.run? rest := by
  rw [Builder.run?, fed]

/-- A token that is a value of its own puts it in place. -/
theorem Builds.single {json : Json} {token : Token} (alone : json.tokens = [token])
    (value : ∀ frames, Builder.value? frames token = Builder.place? frames json) :
    Builds json := by
  intro frames next rest placed
  have fed : Builder.feed? ⟨frames, .value⟩ token = some next := (value frames).trans placed
  rw [alone, List.cons_append, List.nil_append, Builder.run?_fed fed]

theorem tokens_begin (json : Json) :
    ∃ first rest, json.tokens = first :: rest ∧ first ≠ .closeBracket := by
  cases json with
  | _ => exact ⟨_, _, by simp only [tokens, List.cons_append]; rfl, by rintro ⟨⟩⟩

/-- The first item of an array may be a close instead; the tokens of a value are none. -/
theorem Builder.run?_firstItem (item : Json) (items : List Json) (frames : List Frame)
    (rest : List Token) :
    Builder.run? ⟨frames, .valueOrClose⟩ (itemsTokens (item :: items) ++ rest) =
      Builder.run? ⟨frames, .value⟩ (itemsTokens (item :: items) ++ rest) := by
  obtain ⟨first, later, shape, opens⟩ := item.tokens_begin
  cases items with
  | nil =>
      simp only [itemsTokens, shape, List.cons_append, Builder.run?, Builder.feed?, if_neg opens]
  | cons next items =>
      simp only [itemsTokens, shape, List.cons_append, Builder.run?, Builder.feed?, if_neg opens]

theorem builds_items {item : Json} {items : List Json} (frames : List Frame)
    (each : ∀ other ∈ item :: items, Builds other) (before : List Json) (rest : List Token) :
    Builder.run? ⟨.array before :: frames, .value⟩ (itemsTokens (item :: items) ++ rest) =
      Builder.run? ⟨.array ((item :: items).reverse ++ before) :: frames, .commaOrClose⟩
        rest := by
  induction items generalizing item before with
  | nil =>
      have first := each item (List.mem_cons_self ..)
      simp only [itemsTokens]
      rw [first (.array before :: frames) _ rest rfl]
      rfl
  | cons next items ih =>
      have first := each item (List.mem_cons_self ..)
      have comma : Builder.feed? ⟨.array (item :: before) :: frames, .commaOrClose⟩ .comma =
          some ⟨.array (item :: before) :: frames, .value⟩ := rfl
      simp only [itemsTokens, List.append_assoc, List.cons_append]
      rw [first (.array before :: frames) _ _ rfl, Builder.run?_fed comma,
        ih (fun other inside => each other (List.mem_cons_of_mem _ inside)) (item :: before)]
      simp only [List.reverse_cons, List.append_assoc, List.cons_append, List.nil_append]

theorem builds_member {value : Json} (builds : Builds value) (key : List UInt8)
    (frames : List Frame) (before : List (List UInt8 × Json)) (rest : List Token) :
    Builder.run? ⟨.object before none :: frames, .key⟩
        (.text key :: .colon :: (value.tokens ++ rest)) =
      Builder.run? ⟨.object ((key, value) :: before) none :: frames, .commaOrClose⟩ rest := by
  have keyed : Builder.feed? ⟨.object before none :: frames, .key⟩ (.text key) =
      some ⟨.object before (some key) :: frames, .colon⟩ := rfl
  have colon : Builder.feed? ⟨.object before (some key) :: frames, .colon⟩ .colon =
      some ⟨.object before (some key) :: frames, .value⟩ := rfl
  rw [Builder.run?_fed keyed, Builder.run?_fed colon, builds _ _ rest rfl]

theorem builds_members {m : List UInt8 × Json} {members : List (List UInt8 × Json)}
    (frames : List Frame) (values : ∀ other ∈ m :: members, Builds other.2)
    (before : List (List UInt8 × Json)) (rest : List Token) :
    Builder.run? ⟨.object before none :: frames, .key⟩
        (membersTokens (m :: members) ++ rest) =
      Builder.run? ⟨.object ((m :: members).reverse ++ before) none :: frames, .commaOrClose⟩
        rest := by
  induction members generalizing m before with
  | nil =>
      have first := values m (List.mem_cons_self ..)
      simp only [membersTokens, List.cons_append]
      rw [builds_member first]
      rfl
  | cons next members ih =>
      have first := values m (List.mem_cons_self ..)
      have comma : Builder.feed? ⟨.object (m :: before) none :: frames, .commaOrClose⟩ .comma =
          some ⟨.object (m :: before) none :: frames, .key⟩ := rfl
      simp only [membersTokens, List.append_assoc, List.cons_append]
      rw [builds_member first, Builder.run?_fed comma,
        ih (fun other inside => values other (List.mem_cons_of_mem _ inside)) (m :: before)]
      simp only [List.reverse_cons, List.append_assoc, List.cons_append, List.nil_append]

/-- The first key of an object may be a close instead; a key is none. -/
theorem Builder.run?_firstKey (m : List UInt8 × Json) (members : List (List UInt8 × Json))
    (frames : List Frame) (rest : List Token) :
    Builder.run? ⟨frames, .keyOrClose⟩ (membersTokens (m :: members) ++ rest) =
      Builder.run? ⟨frames, .key⟩ (membersTokens (m :: members) ++ rest) := by
  cases members with
  | nil => simp [membersTokens, Builder.run?, Builder.feed?]
  | cons next members => simp [membersTokens, Builder.run?, Builder.feed?]

theorem Builds.array {items : List Json} (each : ∀ item ∈ items, Builds item) :
    Builds (.array items) := by
  intro frames next rest placed
  have opened : Builder.feed? ⟨frames, .value⟩ .openBracket =
      some ⟨.array [] :: frames, .valueOrClose⟩ := rfl
  have closed : ∀ expects, expects = .valueOrClose ∨ expects = .commaOrClose →
      Builder.feed? ⟨.array items.reverse :: frames, expects⟩ .closeBracket = some next := by
    rintro _ (rfl | rfl) <;> simp [Builder.feed?, Builder.close?, placed]
  simp only [tokens, List.cons_append, List.append_assoc, List.nil_append]
  rw [Builder.run?_fed opened]
  cases items with
  | nil =>
      simp only [itemsTokens, List.nil_append]
      exact Builder.run?_fed (closed _ (.inl rfl)) rest
  | cons item items =>
      rw [Builder.run?_firstItem, builds_items frames each, List.append_nil,
        Builder.run?_fed (closed _ (.inr rfl))]

theorem Builds.object {members : List (List UInt8 × Json)}
    (values : ∀ m ∈ members, Builds m.2) : Builds (.object members) := by
  intro frames next rest placed
  have opened : Builder.feed? ⟨frames, .value⟩ .openBrace =
      some ⟨.object [] none :: frames, .keyOrClose⟩ := rfl
  have closed : ∀ expects, expects = .keyOrClose ∨ expects = .commaOrClose →
      Builder.feed? ⟨.object members.reverse none :: frames, expects⟩ .closeBrace =
        some next := by
    rintro _ (rfl | rfl) <;> simp [Builder.feed?, Builder.close?, placed]
  simp only [tokens, List.cons_append, List.append_assoc, List.nil_append]
  rw [Builder.run?_fed opened]
  cases members with
  | nil =>
      simp only [membersTokens, List.nil_append]
      exact Builder.run?_fed (closed _ (.inl rfl)) rest
  | cons m members =>
      rw [Builder.run?_firstKey, builds_members frames values, List.append_nil,
        Builder.run?_fed (closed _ (.inr rfl))]

theorem Written.builds {json : Json} (written : json.Written) : Builds json := by
  induction written with
  | null => exact .single (by rw [tokens]) fun _ => rfl
  | bool value => exact .single (by rw [tokens]) fun _ => rfl
  | number _ => exact .single (by rw [tokens]) fun _ => rfl
  | text _ => exact .single (by rw [tokens]) fun _ => rfl
  | array _ ih => exact .array ih
  | object _ _ ih => exact .object ih

/-- What is written is read back, and as the value it was written for. -/
theorem Written.parse?_bytes {json : Json} (written : json.Written) :
    parse? json.bytes = some json := by
  have ended : Delimited [] := by
    rintro _ ⟨⟩
  have lexed : tokens? json.bytes = some json.tokens := by
    have read := written.lexes [] [] ended
    rw [List.append_nil, List.append_nil] at read
    rw [tokens?, read, Reader.run?, Reader.finish?, List.reverse_reverse]
  have built := written.builds [] ⟨[], .nothing json⟩ [] rfl
  rw [List.append_nil] at built
  rw [parse?, lexed]
  exact built

theorem Spelled.append {first second : List UInt8} (before : Spelled first)
    (after : Spelled second) : Spelled (first ++ second) := by
  induction before with
  | nil => exact after
  | plain shown unquoted unescaped _ ih => exact ih.plain shown unquoted unescaped
  | letter letter _ ih => exact ih.letter letter
  | unit first second third fourth _ ih => exact ih.unit first second third fourth

theorem hexDigit_reads {n : UInt8} (low : n < 16) :
    isHexDigit (hexDigit n) = true ∧ hexValue (hexDigit n) = n.toNat := by
  have each : ∀ k : Fin 16, isHexDigit (hexDigit (.ofNat k)) = true ∧
      hexValue (hexDigit (.ofNat k)) = k := by decide
  have held := each ⟨n.toNat, low⟩
  rwa [UInt8.ofNat_toNat] at held

theorem div_sixteen_lt (b : UInt8) : b / 16 < 16 := by
  have bound := b.toNat_lt
  rw [UInt8.lt_iff_toNat_lt, UInt8.toNat_div]
  exact Nat.div_lt_of_lt_mul bound

theorem mod_sixteen_lt (b : UInt8) : b % 16 < 16 := by
  rw [UInt8.lt_iff_toNat_lt, UInt8.toNat_mod]
  exact Nat.mod_lt _ (by decide)

theorem codePointBytes_control {b : UInt8} (control : b < 0x20) :
    codePointBytes b.toNat = [b] := by
  have each : ∀ k : Fin 32, codePointBytes k = [.ofNat k] := by decide
  have held := each ⟨b.toNat, control⟩
  rwa [UInt8.ofNat_toNat] at held

/-- The byte is written as itself, or by the letter that stands for it, or by its number. -/
inductive EscapedAs (b : UInt8) : List UInt8 → Prop
  | itself (shown : ¬ b < 0x20) (unquoted : b ≠ 0x22) (unescaped : b ≠ 0x5c) : EscapedAs b [b]
  | letter {letter : UInt8} (known : isEscapeLetter letter = true)
      (stands : escapedLetter letter = b) : EscapedAs b [0x5c, letter]
  | number (control : b < 0x20) :
      EscapedAs b [0x5c, 0x75, 0x30, 0x30, hexDigit (b / 16), hexDigit (b % 16)]

theorem escapeByte_escapedAs (b : UInt8) : EscapedAs b (escapeByte b) := by
  have letters : ∀ {byte letter : UInt8}, isEscapeLetter letter = true →
      escapedLetter letter = byte → (b == byte) = true → EscapedAs b [0x5c, letter] := by
    intro byte letter known stands same
    exact .letter known (stands.trans (eq_of_beq same).symm)
  fun_cases escapeByte b with
  | case1 same => exact letters rfl rfl same
  | case2 _ same => exact letters rfl rfl same
  | case3 _ _ same => exact letters rfl rfl same
  | case4 _ _ _ same => exact letters rfl rfl same
  | case5 _ _ _ _ same => exact letters rfl rfl same
  | case6 _ _ _ _ _ same => exact letters rfl rfl same
  | case7 _ _ _ _ _ _ same => exact letters rfl rfl same
  | case8 _ _ _ _ _ _ _ control => exact .number control
  | case9 unquoted unescaped _ _ _ _ _ shown =>
      exact .itself shown (mt beq_iff_eq.mpr unquoted) (mt beq_iff_eq.mpr unescaped)

theorem EscapedAs.spelled {b : UInt8} {written : List UInt8} (escaped : EscapedAs b written) :
    Spelled written := by
  cases escaped with
  | itself shown unquoted unescaped => exact .plain shown unquoted unescaped .nil
  | letter known _ => exact .letter known .nil
  | number control =>
      exact .unit rfl rfl (hexDigit_reads (div_sixteen_lt b)).1
        (hexDigit_reads (mod_sixteen_lt b)).1 .nil

theorem spelled_escape (s : String) : Spelled (escape s) := by
  unfold escape
  induction Text.utf8 s with
  | nil => exact .nil
  | cons b rest ih =>
      rw [List.flatMap_cons]
      exact (escapeByte_escapedAs b).spelled.append ih

-- A pair of surrogates is the one case in which the bytes after a number matter.
theorem unescape?_number (a b c d : UInt8) (rest : List UInt8)
    (high : isHighSurrogate (hexUnit a b c d) = false)
    (low : isLowSurrogate (hexUnit a b c d) = false) :
    unescape? (0x5c :: 0x75 :: a :: b :: c :: d :: rest) =
      (unescape? rest).map (codePointBytes (hexUnit a b c d) ++ ·) := by
  by_cases another : ∃ e f g h later, rest = 0x5c :: 0x75 :: e :: f :: g :: h :: later
  · obtain ⟨e, f, g, h, later, rfl⟩ := another
    rw [unescape?, high, low]
    rfl
  · rw [unescape?, high, low]
    · rfl
    · exact fun e f g h later same => another ⟨e, f, g, h, later, same⟩

theorem EscapedAs.unescape? {b : UInt8} {written : List UInt8} (escaped : EscapedAs b written)
    (rest : List UInt8) :
    unescape? (written ++ rest) = (unescape? rest).map (b :: ·) := by
  cases escaped with
  | itself _ _ unescaped =>
      rw [List.cons_append, List.nil_append, Json.unescape?]
      · exact fun _ _ _ _ _ same _ => unescaped same
      · exact fun _ _ same _ => unescaped same
  | @letter letter known stands =>
      rw [List.cons_append, List.cons_append, List.nil_append, Json.unescape?, stands]
      rintro _ _ _ _ _ rfl _
      exact nomatch known
  | number control =>
      have below : b.toNat < 32 := control
      have unit : hexUnit 0x30 0x30 (hexDigit (b / 16)) (hexDigit (b % 16)) = b.toNat := by
        have zero : hexValue 0x30 = 0 := rfl
        rw [hexUnit, zero, (hexDigit_reads (div_sixteen_lt b)).2,
          (hexDigit_reads (mod_sixteen_lt b)).2, UInt8.toNat_div, UInt8.toNat_mod]
        simp
        omega
      have noHigh : isHighSurrogate b.toNat = false := by
        simp [isHighSurrogate]
        omega
      have noLow : isLowSurrogate b.toNat = false := by
        simp [isLowSurrogate]
        omega
      simp only [List.cons_append, List.nil_append]
      rw [unescape?_number _ _ _ _ _ (unit ▸ noHigh) (unit ▸ noLow), unit,
        codePointBytes_control control]
      rfl

theorem textOf?_escape (s : String) : textOf? (escape s) = some s := by
  have read : ∀ bytes, unescape? (bytes.flatMap escapeByte) = some bytes := by
    intro bytes
    induction bytes with
    | nil => rfl
    | cons b rest ih =>
        rw [List.flatMap_cons, (escapeByte_escapedAs b).unescape?, ih]
        rfl
  rw [textOf?, escape, read]
  exact Text.ofUtf8?_utf8 s

end LapTimer.Json
