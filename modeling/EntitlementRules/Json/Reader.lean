import EntitlementRules.Json.Fault

/-! Reading JSON values from bytes. A reader takes at least one byte and leaves the rest, and stops at
the first fault. Loops over items and members are shared by all readers of arrays and objects. -/
namespace EntitlementRules.Json

/-- What a reader took from the start of a text, with the shorter text after it. -/
structure Read (α : Type) (text : Bytes) where
  value : α
  rest : Bytes
  shorter : rest.length < text.length

/-- A reader of values that start at the first byte of a text. -/
abbrev Reader (α : Type) := (text : Bytes) → Except Fault (Read α text)

/-- The same reading, seen as one from a longer text. -/
def Read.widen {α : Type} {text longer : Bytes} (read : Read α text)
    (shorter : text.length ≤ longer.length) : Read α longer :=
  ⟨read.value, read.rest, Nat.lt_of_lt_of_le read.shorter shorter⟩

/-- The same reading, seen as one from the text with a byte in front. -/
def Read.behind {α : Type} {text : Bytes} (read : Read α text) (b : UInt8) : Read α (b :: text) :=
  read.widen (Nat.le_succ _)

def Read.map {α β : Type} {text : Bytes} (f : α → β) (read : Read α text) : Read β text :=
  ⟨f read.value, read.rest, read.shorter⟩

/-- The blanks that may stand between the parts of a text. -/
def isBlank (b : UInt8) : Bool := b == 32 || b == 10 || b == 9 || b == 13

def skipBlanks (text : Bytes) : Bytes := text.dropWhile isBlank

theorem length_skipBlanks_le (text : Bytes) : (skipBlanks text).length ≤ text.length :=
  (List.dropWhile_sublist isBlank).length_le

/-- A reader that steps over blanks first. -/
def afterBlanks {α : Type} (reader : Reader α) : Reader α := fun text =>
  (reader (skipBlanks text)).map (·.widen (length_skipBlanks_le text))

/-! ## Words -/

def word : (expected : Bytes) → (text : Bytes) →
    Except Fault { rest : Bytes // rest.length ≤ text.length }
  | [], text => .ok ⟨text, Nat.le_refl _⟩
  | _ :: _, [] => .error (.before .endOfValue [])
  | e :: expected, b :: rest =>
    if b = e then do
      let ⟨after, shorter⟩ ← word expected rest
      return ⟨after, Nat.le_succ_of_le shorter⟩
    else .error (.before .noWord rest)

/-! ## Numbers -/

/-- The digits at the start of a text, as numbers, with the text after them. -/
def digits (text : Bytes) : List Nat × Bytes :=
  ((text.takeWhile Ascii.isDigit).map Ascii.digitValue, text.dropWhile Ascii.isDigit)

theorem length_digits_le (text : Bytes) : (digits text).2.length ≤ text.length :=
  (List.dropWhile_sublist Ascii.isDigit).length_le

/-- A number extended by as many of the digits as keep it at most `limit`, with how many digits were
used and how many are left. -/
def extend (limit : Nat) : (value : Nat) → List Nat → Nat × Nat × Nat
  | value, [] => (value, 0, 0)
  | value, digit :: rest =>
    if value * 10 + digit ≤ limit then
      let (extended, used, left) := extend limit (value * 10 + digit) rest
      (extended, used + 1, left)
    else (value, 0, rest.length + 1)

/-- The greatest significand. -/
def significandLimit : Nat := 18446744073709551615

/-- The greatest exponent that is computed with. -/
def exponentLimit : Nat := 2147483647

/-- The binary64 number `significand * 10 ^ exponent`, taken in rounded steps. -/
def scaled (negative : Bool) (significand : Nat) (exponent : Int) (rest : Bytes) :
    Except Fault Number :=
  match ((Binary64.ofRatio false significand 1).bind (·.scaleByTen? exponent)) with
  | some value => .ok (.float (if negative then value.neg else value))
  | none => .error (.before .outOfRange rest)

/-- The digits of an exponent, after its sign. An exponent out of all bounds leaves only zero or
nothing. -/
def exponentDigits (negative : Bool) (significand : Nat) (exponent : Int) (shrinks : Bool)
    (text : Bytes) : Except Fault (Number × Bytes) :=
  match text with
  | [] => .error (.before .endOfValue [])
  | b :: others =>
    if !Ascii.isDigit b then .error (.before .badNumber others)
    else
      let (power, _, left) := extend exponentLimit 0 (digits text).1
      let total := if shrinks then exponent - power else exponent + power
      if left = 0 then
        (scaled negative significand total (digits text).2).map (·, (digits text).2)
      else if significand ≠ 0 && !shrinks then
        .error ⟨.outOfRange, (digits text).2.length + (left - 1)⟩
      else .ok (.float ⟨negative, 0, Binary64.leastExponent⟩, (digits text).2)

/-- What follows the `e` of a number: a sign or none, and digits. -/
def exponentPart (negative : Bool) (significand : Nat) (exponent : Int) (text : Bytes) :
    Except Fault (Number × Bytes) :=
  match text with
  | [] => exponentDigits negative significand exponent false text
  | b :: rest =>
    if b = Ascii.plus then exponentDigits negative significand exponent false rest
    else if b = Ascii.minus then exponentDigits negative significand exponent true rest
    else exponentDigits negative significand exponent false text

/-- What follows the digits of a number that is no integer: an exponent, or nothing. -/
def scaledPart (negative : Bool) (significand : Nat) (exponent : Int) (text : Bytes) :
    Except Fault (Number × Bytes) :=
  match text with
  | b :: rest =>
    if b = Ascii.byte 'e' || b = Ascii.byte 'E' then exponentPart negative significand exponent rest
    else (scaled negative significand exponent text).map (·, text)
  | [] => (scaled negative significand exponent text).map (·, text)

/-- What follows the point of a number. Digits that no longer fit the significand are passed over. -/
def fractionPart (negative : Bool) (significand : Nat) (exponent : Int) (text : Bytes) :
    Except Fault (Number × Bytes) :=
  match (digits text).1 with
  | [] => .error (.on (if text.isEmpty then .endOfValue else .badNumber) text)
  | fraction =>
    let (extended, used, _) := extend significandLimit significand fraction
    scaledPart negative extended (exponent - used) (digits text).2

/-- The integer that digits without point and exponent write; a zero with a minus and what lies beyond
64 bits is a binary64 number. -/
def wholeNumber (negative : Bool) (significand : Nat) : Number :=
  if !negative then .integer significand
  else if significand = 0 || 9223372036854775808 < significand then
    .float ((Binary64.ofRatio true significand 1).getD Binary64.zero)
  else .integer (-significand)

/-- What follows the first digits of a number, of which `left` did not fit the significand. -/
def numberTail (negative : Bool) (significand left : Nat) (text : Bytes) :
    Except Fault (Number × Bytes) :=
  match text with
  | b :: rest =>
    if b = Ascii.point then fractionPart negative significand left rest
    else if left = 0 && b != Ascii.byte 'e' && b != Ascii.byte 'E' then
      .ok (wholeNumber negative significand, text)
    else scaledPart negative significand left text
  | [] =>
    if left = 0 then .ok (wholeNumber negative significand, text)
    else scaledPart negative significand left text

/-- A number without its sign. Only a zero that stands alone may be its first digit. -/
def unsignedNumber (negative : Bool) (text : Bytes) : Except Fault (Number × Bytes) :=
  match text with
  | [] => .error (.before .endOfValue [])
  | b :: others =>
    if !Ascii.isDigit b then .error (.before .badNumber others)
    else if b = Ascii.zero && others.head?.any Ascii.isDigit then .error (.on .badNumber others)
    else
      let (significand, _, left) := extend significandLimit 0 (digits text).1
      numberTail negative significand left (digits text).2

private theorem rest_of_map {text rest : Bytes} {number : Number} {read : Except Fault Number}
    (mapped : read.map (·, text) = .ok (number, rest)) : rest = text := by
  cases read with
  | error fault => cases mapped
  | ok value => cases mapped; rfl

theorem length_exponentDigits_le {negative shrinks : Bool} {significand : Nat} {exponent : Int}
    {text rest : Bytes} {number : Number}
    (read : exponentDigits negative significand exponent shrinks text = .ok (number, rest)) :
    rest.length ≤ text.length := by
  unfold exponentDigits at read
  split at read
  · cases read
  · split at read
    · cases read
    · simp only at read
      split at read
      · exact rest_of_map read ▸ length_digits_le _
      · split at read
        · cases read
        · cases read
          exact length_digits_le _

theorem length_exponentPart_le {negative : Bool} {significand : Nat} {exponent : Int}
    {text rest : Bytes} {number : Number}
    (read : exponentPart negative significand exponent text = .ok (number, rest)) :
    rest.length ≤ text.length := by
  unfold exponentPart at read
  split at read
  · exact length_exponentDigits_le read
  · split at read
    · exact Nat.le_succ_of_le (length_exponentDigits_le read)
    · split at read
      · exact Nat.le_succ_of_le (length_exponentDigits_le read)
      · exact length_exponentDigits_le read

theorem length_scaledPart_le {negative : Bool} {significand : Nat} {exponent : Int}
    {text rest : Bytes} {number : Number}
    (read : scaledPart negative significand exponent text = .ok (number, rest)) :
    rest.length ≤ text.length := by
  unfold scaledPart at read
  split at read
  · split at read
    · exact Nat.le_succ_of_le (length_exponentPart_le read)
    · exact rest_of_map read ▸ Nat.le_refl _
  · exact rest_of_map read ▸ Nat.le_refl _

theorem length_fractionPart_le {negative : Bool} {significand : Nat} {exponent : Int}
    {text rest : Bytes} {number : Number}
    (read : fractionPart negative significand exponent text = .ok (number, rest)) :
    rest.length ≤ text.length := by
  unfold fractionPart at read
  split at read
  · cases read
  · exact Nat.le_trans (length_scaledPart_le read) (length_digits_le text)

theorem length_numberTail_le {negative : Bool} {significand left : Nat} {text rest : Bytes}
    {number : Number} (read : numberTail negative significand left text = .ok (number, rest)) :
    rest.length ≤ text.length := by
  unfold numberTail at read
  split at read
  · split at read
    · exact Nat.le_succ_of_le (length_fractionPart_le read)
    · split at read
      · simp_all
      · exact length_scaledPart_le read
  · split at read
    · simp_all
    · exact length_scaledPart_le read

theorem length_unsignedNumber_lt {negative : Bool} {text rest : Bytes} {number : Number}
    (read : unsignedNumber negative text = .ok (number, rest)) : rest.length < text.length := by
  unfold unsignedNumber at read
  split at read
  · cases read
  · rename_i b others
    split at read
    · cases read
    · rename_i digit
      split at read
      · cases read
      · have isDigit : Ascii.isDigit b = true := by simpa using digit
        have shorter : (digits (b :: others)).2.length ≤ others.length := by
          simp only [digits, List.dropWhile_cons, isDigit, if_true]
          exact length_digits_le others
        exact Nat.lt_succ_of_le (Nat.le_trans (length_numberTail_le read) shorter)

/-! ## Strings -/

/-- The number of four hexadecimal digits. -/
def hexNumber (text : Bytes) : Except Fault (Read Nat text) :=
  match text with
  | a :: b :: c :: d :: rest =>
    match [a, b, c, d].mapM Ascii.hexValue? with
    | some values =>
      .ok ⟨values.foldl (· * 16 + ·) 0, rest, by simp only [List.length_cons]; omega⟩
    | none => .error (.before .badEscape rest)
  | _ => .error (.before .endOfString [])

/-- The bytes of the character with a code point. -/
def codePointBytes (codePoint : Nat) : Bytes := String.utf8EncodeChar (Char.ofNat codePoint)

/-- What follows the `u` of an escape. A leading surrogate must be followed by the escape of a trailing
one. -/
def unicodeEscape (text : Bytes) : Except Fault (Read Bytes text) := do
  let lead ← hexNumber text
  if 0xDC00 ≤ lead.value && lead.value ≤ 0xDFFF then .error (.before .loneSurrogate lead.rest)
  else if lead.value < 0xD800 || 0xDBFF < lead.value then
    return ⟨codePointBytes lead.value, lead.rest, lead.shorter⟩
  else
    match inspect : lead.rest with
    | [] => .error (.before .endOfString [])
    | [b] => .error (.before (if b = Ascii.backslash then .endOfString else .endOfEscape) [])
    | b :: c :: digits =>
      if b != Ascii.backslash then .error (.before .endOfEscape (c :: digits))
      else if c != Ascii.byte 'u' then .error (.before .endOfEscape digits)
      else do
        let trail ← hexNumber digits
        if trail.value < 0xDC00 || 0xDFFF < trail.value then
          .error (.before .loneSurrogate trail.rest)
        else
          return ⟨codePointBytes (0x10000 + (lead.value - 0xD800) * 0x400 + (trail.value - 0xDC00)),
            trail.rest, by
              have leadShorter := lead.shorter
              have trailShorter := trail.shorter
              simp only [inspect, List.length_cons] at leadShorter
              omega⟩

/-- The character that a letter after a backslash stands for. -/
def simpleEscape? (letter : UInt8) : Option UInt8 :=
  if letter = Ascii.quotation || letter = Ascii.backslash || letter = Ascii.byte '/' then some letter
  else if letter = Ascii.byte 'b' then some 8
  else if letter = Ascii.byte 'f' then some 12
  else if letter = Ascii.byte 'n' then some 10
  else if letter = Ascii.byte 'r' then some 13
  else if letter = Ascii.byte 't' then some 9
  else none

/-- What follows a backslash. -/
def escape (text : Bytes) : Except Fault (Read Bytes text) :=
  match text with
  | [] => .error (.before .endOfString [])
  | letter :: rest =>
    match simpleEscape? letter with
    | some b => .ok ⟨[b], rest, Nat.lt_succ_self _⟩
    | none =>
      if letter = Ascii.byte 'u' then
        (unicodeEscape rest).map (·.behind letter)
      else .error (.before .badEscape rest)

/-- The bytes of a string up to its closing quotation mark, with escapes resolved. -/
def stringBytes (text : Bytes) : Except Fault (Read Bytes text) :=
  match text with
  | [] => .error (.before .endOfString [])
  | b :: rest =>
    if b = Ascii.quotation then .ok ⟨[], rest, Nat.lt_succ_self _⟩
    else if b = Ascii.backslash then do
      let escaped ← escape rest
      have := escaped.shorter
      let more ← stringBytes escaped.rest
      return ⟨escaped.value ++ more.value, more.rest, by
        have := more.shorter; simp only [List.length_cons]; omega⟩
    else if b < 0x20 then .error (.before .control rest)
    else do
      let more ← stringBytes rest
      return ⟨b :: more.value, more.rest, Nat.lt_succ_of_lt more.shorter⟩
termination_by text.length

/-- What follows an opening quotation mark: the text of the string. Malformed UTF-8 is reported where it
starts, once the string has an end. -/
def stringBody : Reader String := fun text => do
  let read ← stringBytes text
  match Text.Utf8.decode? read.value with
  | some value => return ⟨value, read.rest, read.shorter⟩
  | none =>
    let valid := (Text.Utf8.validLength? text).getD 0
    .error (.on .badCodePoint (text.drop valid))

/-! ## Arrays and objects -/

/-- What follows an item of an array. -/
def moreItems {α : Type} (item : Reader α) (text : Bytes) : Except Fault (Read (List α) text) :=
  match inspect : skipBlanks text with
  | [] => .error (.on .endOfArray [])
  | b :: rest =>
    have atMost : rest.length + 1 ≤ text.length := by
      have := length_skipBlanks_le text; rw [inspect] at this; simpa using this
    if b = Ascii.closeBracket then .ok ⟨[], rest, atMost⟩
    else if b = Ascii.comma then
      match skipBlanks rest, length_skipBlanks_le rest with
      | [], _ => .error (.on .endOfValue [])
      | c :: others, restAtMost =>
        if c = Ascii.closeBracket then .error (.on .commaAtEnd (c :: others))
        else do
          let first ← item (c :: others)
          have firstShorter := first.shorter
          let more ← moreItems item first.rest
          return ⟨first.value :: more.value, more.rest, by have := more.shorter; omega⟩
    else .error (.on .noArrayEnd (b :: rest))
termination_by text.length
decreasing_by omega

/-- What follows the opening bracket of an array. -/
def items {α : Type} (item : Reader α) : Reader (List α) := fun text =>
  match inspect : skipBlanks text with
  | [] => .error (.on .endOfArray [])
  | b :: rest =>
    have atMost : rest.length + 1 ≤ text.length := by
      have := length_skipBlanks_le text; rw [inspect] at this; simpa using this
    if b = Ascii.closeBracket then .ok ⟨[], rest, atMost⟩
    else do
      let first ← item (b :: rest)
      let more ← moreItems item first.rest
      return ⟨first.value :: more.value, more.rest, by
        have := more.shorter
        have := first.shorter
        simp only [List.length_cons] at this
        omega⟩

/-- The text after the colon that follows a key. -/
def colon (text : Bytes) : Except Fault { rest : Bytes // rest.length < text.length } :=
  match inspect : skipBlanks text with
  | [] => .error (.on .endOfObject [])
  | b :: rest =>
    if b = Ascii.colon then .ok ⟨rest, by
      have := length_skipBlanks_le text; rw [inspect] at this; exact this⟩
    else .error (.on .noColon (b :: rest))

/-- What an object's reader does with a member: given what was gathered from the members before, and the
key, it reads on after the key. -/
abbrev MemberReader (σ : Type) := σ → (key : String) → Reader σ

/-- A member, at the quotation mark of its key or at what stands in its place. -/
def member {σ : Type} (step : MemberReader σ) (gathered : σ) (text : Bytes) :
    Except Fault (Read σ text) :=
  match text with
  | [] => .error (.on .endOfValue [])
  | b :: rest =>
    if b = Ascii.quotation then do
      let key ← stringBody rest
      let read ← step gathered key.value key.rest
      return ⟨read.value, read.rest, by
        have := key.shorter; have := read.shorter; simp only [List.length_cons]; omega⟩
    else .error (.on .noKey (b :: rest))

/-- What follows a member of an object. -/
def moreMembers {σ : Type} (step : MemberReader σ) (gathered : σ) (text : Bytes) :
    Except Fault (Read σ text) :=
  match inspect : skipBlanks text with
  | [] => .error (.on .endOfObject [])
  | b :: rest =>
    have atMost : rest.length + 1 ≤ text.length := by
      have := length_skipBlanks_le text; rw [inspect] at this; simpa using this
    if b = Ascii.closeBrace then .ok ⟨gathered, rest, atMost⟩
    else if b = Ascii.comma then do
      have restAtMost := length_skipBlanks_le rest
      if (skipBlanks rest).head? = some Ascii.closeBrace then
        .error (.on .commaAtEnd (skipBlanks rest))
      let read ← member step gathered (skipBlanks rest)
      have readShorter := read.shorter
      let more ← moreMembers step read.value read.rest
      return ⟨more.value, more.rest, by have := more.shorter; omega⟩
    else .error (.on .noObjectEnd (b :: rest))
termination_by text.length
decreasing_by omega

/-- What follows the opening brace of an object. -/
def members {σ : Type} (step : MemberReader σ) (gathered : σ) : Reader σ := fun text =>
  match inspect : skipBlanks text with
  | [] => .error (.on .endOfObject [])
  | b :: rest =>
    have atMost : rest.length + 1 ≤ text.length := by
      have := length_skipBlanks_le text; rw [inspect] at this; simpa using this
    if b = Ascii.closeBrace then .ok ⟨gathered, rest, atMost⟩
    else do
      let read ← member step gathered (b :: rest)
      let more ← moreMembers step read.value read.rest
      return ⟨more.value, more.rest, by
        have := more.shorter
        have := read.shorter
        simp only [List.length_cons] at this
        omega⟩

/-! ## Values -/

/-- How many arrays and objects may be open at once. -/
def depthLimit : Nat := 127

/-- A value that is neither array nor object. -/
def scalar : Reader Json := fun text =>
  match text with
  | [] => .error (.on .endOfValue [])
  | b :: rest =>
    let finish (value : Json) (after : { r : Bytes // r.length ≤ rest.length }) :
        Read Json (b :: rest) := ⟨value, after.1, Nat.lt_succ_of_le after.2⟩
    if b = Ascii.byte 'n' then do
      return finish .null (← word [117, 108, 108] rest)
    else if b = Ascii.byte 't' then do
      return finish (.bool true) (← word [114, 117, 101] rest)
    else if b = Ascii.byte 'f' then do
      return finish (.bool false) (← word [97, 108, 115, 101] rest)
    else if b = Ascii.minus then
      match inspect : unsignedNumber true rest with
      | .error fault => .error fault
      | .ok (value, after) =>
        .ok (finish (.number value) ⟨after, Nat.le_of_lt (length_unsignedNumber_lt inspect)⟩)
    else if Ascii.isDigit b then
      match inspect : unsignedNumber false (b :: rest) with
      | .error fault => .error fault
      | .ok (value, after) =>
        .ok (finish (.number value) ⟨after, Nat.le_of_lt_succ (length_unsignedNumber_lt inspect)⟩)
    else if b = Ascii.quotation then
      (stringBody rest).map fun read => (read.map Json.string).behind b
    else .error (.on .noValue (b :: rest))

/-- A member whose value is set among those gathered before. -/
def setMember (inner : Reader Json) : MemberReader Members := fun gathered key text => do
  let ⟨after, afterShorter⟩ ← colon text
  let read ← afterBlanks inner after
  return ⟨Members.insert key read.value gathered, read.rest, Nat.lt_trans read.shorter afterShorter⟩

/-- A value. What arrays and objects hold is left to another reader; without one none may open. -/
def valueOver (inner : Option (Reader Json)) : Reader Json := fun text =>
  match text with
  | [] => scalar []
  | b :: rest =>
    if b = Ascii.openBracket then
      match inner with
      | none => .error (.on .tooDeep (b :: rest))
      | some inner =>
        (items inner rest).map fun read => (read.map Json.array).behind b
    else if b = Ascii.openBrace then
      match inner with
      | none => .error (.on .tooDeep (b :: rest))
      | some inner =>
        (members (setMember inner) [] rest).map fun read => (read.map Json.object).behind b
    else scalar (b :: rest)

/-- A value in which at most `depth` arrays and objects are open at once. -/
def value : (depth : Nat) → Reader Json
  | 0 => valueOver none
  | depth + 1 => valueOver (some (value depth))

/-- A whole text: one value, with nothing but blanks around it. -/
def whole {α : Type} (reader : Reader α) (text : Bytes) : Except Fault α := do
  let read ← afterBlanks reader text
  match skipBlanks read.rest with
  | [] => return read.value
  | b :: rest => .error (.on .trailing (b :: rest))

def parse (text : Bytes) : Except Fault Json := whole (value depthLimit) text

def stringLiteral : Reader String := fun text =>
  match text with
  | [] => .error (.on .endOfValue [])
  | b :: rest =>
    if b = Ascii.quotation then (stringBody rest).map (·.behind b)
    else .error (.on .noValue (b :: rest))

end EntitlementRules.Json
