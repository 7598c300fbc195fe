import SceneLoad.Json.Basic
import SceneLoad.Json.Malformed

/-!
# Words, numbers and strings of JSON text

Text is read from the front: every function here takes the text that is left and gives back what
it read and what is left after it. Some text is only skipped; then its form is checked, but not
whether numbers are in range or surrogates are paired.
-/

namespace SceneLoad.Lexeme

/-- What was read, with the text after it. -/
abbrev Scanned (α : Type) := Except Malformed (α × List Char)

/-- The blanks of JSON. -/
def isBlank (c : Char) : Bool := c == ' ' || c == '\t' || c == '\n' || c == '\r'

def skipBlank (text : List Char) : List Char := text.dropWhile isBlank

/-- Reads the given characters. -/
def word : List Char → List Char → Except Malformed (List Char)
  | [], text => .ok text
  | _ :: _, [] => .error .endInValue
  | c :: cs, d :: text => if c = d then word cs text else .error .misspeltLiteral

/-! ## Numbers -/

/-- A number as it is written. -/
structure Literal where
  negative : Bool
  whole : List Char
  fraction : List Char
  exponent : Int
  /-- Written with neither fraction nor exponent. -/
  plain : Bool

/-- The natural that decimal digits denote. -/
def naturalOf (digits : List Char) : Nat :=
  digits.foldl (fun value c => 10 * value + (c.toNat - 48)) 0

namespace Literal

/-- The nearest double-precision number, unless it is out of range. Far beyond the range on either
side the exponent alone decides. -/
def toBinary64 (literal : Literal) : Except Malformed Binary64 :=
  let digits := naturalOf (literal.whole ++ literal.fraction)
  let exponent := literal.exponent - literal.fraction.length
  let top := exponent + (literal.whole.length + literal.fraction.length : Nat)
  if digits = 0 ∨ top < -400 then .ok (.ofRatio literal.negative 0 1)
  else if exponent > 400 then .error .numberRange
  else
    let value :=
      if 0 ≤ exponent then Binary64.ofRatio literal.negative (digits * pow10 exponent.toNat) 1
      else Binary64.ofRatio literal.negative digits (pow10 (-exponent).toNat)
    if value.isInfinite then .error .numberRange else .ok value

/-- An integer that fits in 64 bits is kept as one; negative zero is not an integer. -/
def toNumber (literal : Literal) : Except Malformed Number :=
  let magnitude := naturalOf literal.whole
  let isInteger :=
    literal.plain &&
      (if literal.negative then magnitude ≠ 0 && magnitude ≤ pow2 63 else magnitude < pow2 64)
  if isInteger then .ok (.int (if literal.negative then -(magnitude : Int) else magnitude))
  else
    match literal.toBinary64 with
    | .ok value => .ok (.float value)
    | .error reason => .error reason

end Literal

/-- The digits at the front and the text after them. -/
def digits (text : List Char) : List Char × List Char :=
  (text.takeWhile Char.isDigit, text.dropWhile Char.isDigit)

/-- At least one digit. `atEnd` is the fault of a text that ends instead. -/
def someDigits (atEnd : Malformed) (text : List Char) : Scanned (List Char) :=
  match digits text with
  | ([], []) => .error atEnd
  | ([], _) => .error .badNumber
  | found => .ok found

/-- The whole part, which has no leading zero unless it is zero. -/
def wholePart (atEnd : Malformed) (text : List Char) : Scanned (List Char) :=
  match someDigits atEnd text with
  | .error reason => .error reason
  | .ok ('0' :: _ :: _, _) => .error .badNumber
  | .ok found => .ok found

/-- The digits after a point, if there is one. -/
def fractionPart (atEnd : Malformed) : List Char → Scanned (Option (List Char))
  | '.' :: text =>
    match someDigits atEnd text with
    | .error reason => .error reason
    | .ok (found, rest) => .ok (some found, rest)
  | text => .ok (none, text)

/-- A sign, if there is one. -/
def signPart : List Char → Bool × List Char
  | '+' :: text => (false, text)
  | '-' :: text => (true, text)
  | text => (false, text)

/-- The exponent, if there is one. -/
def exponentPart (atEnd : Malformed) (text : List Char) : Scanned (Option Int) :=
  match text with
  | c :: rest =>
    if c = 'e' ∨ c = 'E' then
      let (negative, rest) := signPart rest
      match someDigits atEnd rest with
      | .error reason => .error reason
      | .ok (found, rest) =>
        let value : Int := naturalOf found
        .ok (some (if negative then -value else value), rest)
    else .ok (none, text)
  | [] => .ok (none, text)

/-- A number after its sign. -/
def literal (atEnd : Malformed) (negative : Bool) (text : List Char) : Scanned Literal :=
  match wholePart atEnd text with
  | .error reason => .error reason
  | .ok (whole, text) =>
    match fractionPart atEnd text with
    | .error reason => .error reason
    | .ok (fraction, text) =>
      match exponentPart atEnd text with
      | .error reason => .error reason
      | .ok (exponent, text) =>
        .ok ({ negative, whole,
               fraction := fraction.getD [],
               exponent := exponent.getD 0,
               plain := fraction.isNone && exponent.isNone }, text)

/-- Reads a number after its sign. -/
def number (negative : Bool) (text : List Char) : Scanned Number :=
  match literal .endInValue negative text with
  | .error reason => .error reason
  | .ok (found, rest) =>
    match found.toNumber with
    | .error reason => .error reason
    | .ok value => .ok (value, rest)

/-- Skips a number after its sign. -/
def skipNumber (text : List Char) : Except Malformed (List Char) :=
  match literal .badNumber false text with
  | .error reason => .error reason
  | .ok (_, rest) => .ok rest

/-! ## Strings -/

/-- The value of a hexadecimal digit. -/
def hexValue (c : Char) : Option Nat :=
  if c.isDigit then some (c.toNat - 48)
  else if 'a' ≤ c ∧ c ≤ 'f' then some (c.toNat - 87)
  else if 'A' ≤ c ∧ c ≤ 'F' then some (c.toNat - 55)
  else none

/-- Four hexadecimal digits. The text has to have four bytes left. -/
def hexUnit (text : List Char) : Scanned Nat :=
  let unit := text.take 4
  if unit.foldl (fun bytes c => bytes + c.utf8Size) 0 < 4 then .error .endInString
  else
    match unit.mapM hexValue with
    | some [a, b, c, d] => .ok (((a * 16 + b) * 16 + c) * 16 + d, text.drop 4)
    | _ => .error .badEscape

/-- The second half of a surrogate pair. -/
def trailingUnit : List Char → Scanned Nat
  | [] => .error .endInString
  | ['\\'] => .error .endInString
  | '\\' :: 'u' :: text =>
    match hexUnit text with
    | .error reason => .error reason
    | .ok (unit, rest) =>
      if 0xdc00 ≤ unit ∧ unit ≤ 0xdfff then .ok (unit, rest) else .error .loneSurrogate
  | _ => .error .cutSurrogate

/-- The character that four hexadecimal digits, or a pair of such escapes, stand for. -/
def unicodeEscape (text : List Char) : Scanned Char :=
  match hexUnit text with
  | .error reason => .error reason
  | .ok (unit, rest) =>
    if 0xdc00 ≤ unit ∧ unit ≤ 0xdfff then .error .loneSurrogate
    else if 0xd800 ≤ unit ∧ unit ≤ 0xdbff then
      match trailingUnit rest with
      | .error reason => .error reason
      | .ok (trailing, rest) =>
        .ok (Char.ofNat ((unit - 0xd800) * 0x400 + (trailing - 0xdc00) + 0x10000), rest)
    else .ok (Char.ofNat unit, rest)

/-- The character that a one-letter escape stands for. -/
def plainEscape (c : Char) : Option Char :=
  match c with
  | '"' => some '"'
  | '\\' => some '\\'
  | '/' => some '/'
  | 'b' => some (Char.ofNat 8)
  | 'f' => some (Char.ofNat 12)
  | 'n' => some '\n'
  | 'r' => some '\r'
  | 't' => some '\t'
  | _ => none

/-- The character after a backslash. -/
def escape : List Char → Scanned Char
  | [] => .error .endInString
  | 'u' :: text => unicodeEscape text
  | c :: text =>
    match plainEscape c with
    | some escaped => .ok (escaped, text)
    | none => .error .badEscape

/-- Skips what follows a backslash. -/
def skipEscape : List Char → Except Malformed (List Char)
  | [] => .error .endInString
  | 'u' :: text => (hexUnit text).map Prod.snd
  | c :: text => if (plainEscape c).isSome then .ok text else .error .badEscape

/-- Reads a string after its opening quote. Every step takes a character, so the length of the text
is enough fuel. -/
def stringLoop : (fuel : Nat) → (read : List Char) → List Char → Scanned String
  | 0, _, _ => .error .endInString
  | _ + 1, _, [] => .error .endInString
  | _ + 1, read, '"' :: text => .ok (String.ofList read.reverse, text)
  | fuel + 1, read, '\\' :: text =>
    match escape text with
    | .error reason => .error reason
    | .ok (c, text) => stringLoop fuel (c :: read) text
  | fuel + 1, read, c :: text =>
    if c.toNat < 0x20 then .error .controlCharacter else stringLoop fuel (c :: read) text

/-- Reads a string after its opening quote. -/
def string (text : List Char) : Scanned String := stringLoop (text.length + 1) [] text

/-- Skips a string after its opening quote, with the length of the text as fuel. -/
def skipStringLoop : (fuel : Nat) → List Char → Except Malformed (List Char)
  | 0, _ => .error .endInString
  | _ + 1, [] => .error .endInString
  | _ + 1, '"' :: text => .ok text
  | fuel + 1, '\\' :: text =>
    match skipEscape text with
    | .error reason => .error reason
    | .ok text => skipStringLoop fuel text
  | fuel + 1, c :: text =>
    if c.toNat < 0x20 then .error .controlCharacter else skipStringLoop fuel text

/-- Skips a string after its opening quote. -/
def skipString (text : List Char) : Except Malformed (List Char) :=
  skipStringLoop (text.length + 1) text

/-! ## Separators -/

/-- Whether a list goes on. The text left starts at the next item, or at the closing bracket. -/
def nextItem (first : Bool) (text : List Char) : Scanned Bool :=
  match skipBlank text with
  | [] => .error .endInList
  | c :: rest =>
    if c = ']' then .ok (false, c :: rest)
    else if first then .ok (true, c :: rest)
    else if c = ',' then
      match skipBlank rest with
      | [] => .error .endInValue
      | ']' :: _ => .error .trailingComma
      | text => .ok (true, text)
    else .error .noCommaOrBracket

/-- The closing bracket of a list that has to end. -/
def endItems (text : List Char) : Except Malformed (List Char) :=
  match skipBlank text with
  | [] => .error .endInList
  | ']' :: rest => .ok rest
  | ',' :: rest =>
    match skipBlank rest with
    | ']' :: _ => .error .trailingComma
    | _ => .error .trailingCharacters
  | _ => .error .trailingCharacters

/-- A key after its opening quote. -/
def key (text : List Char) : Scanned (Option String) :=
  match string text with
  | .error reason => .error reason
  | .ok (name, rest) => .ok (some name, rest)

/-- The next key of an object, or nothing after the closing brace. -/
def nextKey (first : Bool) (text : List Char) : Scanned (Option String) :=
  match skipBlank text with
  | [] => .error .endInObject
  | '\x7d' :: rest => .ok (none, rest)
  | '"' :: rest => if first then key rest else .error .noCommaOrBrace
  | ',' :: rest =>
    if first then .error .keyNotText
    else
      match skipBlank rest with
      | [] => .error .endInValue
      | '"' :: rest => key rest
      | '\x7d' :: _ => .error .trailingComma
      | _ => .error .keyNotText
  | _ => if first then .error .keyNotText else .error .noCommaOrBrace

/-- The colon after a key. -/
def colon (text : List Char) : Except Malformed (List Char) :=
  match skipBlank text with
  | [] => .error .endInObject
  | ':' :: rest => .ok rest
  | _ => .error .noColon

/-! ## Skipping values -/

/-- An array or object that is open around the text being skipped. -/
inductive Frame where
  | list
  | object
deriving DecidableEq

/-- Skips a key and its colon. -/
def skipKey (text : List Char) : Except Malformed (List Char) :=
  match skipBlank text with
  | [] => .error .endInObject
  | '"' :: rest =>
    match skipString rest with
    | .error reason => .error reason
    | .ok rest => colon rest
  | _ => .error .keyNotText

/-- What is left to do while skipping. -/
inductive SkipStep where
  /-- A value comes next, inside the open frames. -/
  | value (frames : List Frame)
  /-- A value has just ended, or, if `opened`, its frame has just been opened. -/
  | after (opened : Bool) (frames : List Frame)

/-- The step after a scalar. -/
def skipEnded (frames : List Frame) : Except Malformed (List Char) → Scanned SkipStep
  | .error reason => .error reason
  | .ok rest => .ok (.after false frames, rest)

/-- One value skipped up to its end or its first opening bracket. -/
def skipStart (frames : List Frame) (text : List Char) : Scanned SkipStep :=
  match skipBlank text with
  | [] => .error .endInValue
  | 'n' :: rest => skipEnded frames (word "ull".toList rest)
  | 't' :: rest => skipEnded frames (word "rue".toList rest)
  | 'f' :: rest => skipEnded frames (word "alse".toList rest)
  | '-' :: rest => skipEnded frames (skipNumber rest)
  | '"' :: rest => skipEnded frames (skipString rest)
  | '[' :: rest => .ok (.after true (.list :: frames), rest)
  | '\x7b' :: rest => .ok (.after true (.object :: frames), rest)
  | c :: rest =>
    if c.isDigit then skipEnded frames (skipNumber (c :: rest)) else .error .noValue

/-- The step before an item of the innermost frame. -/
def skipInto (frame : Frame) (frames : List Frame) (text : List Char) : Scanned SkipStep :=
  match frame with
  | .list => .ok (.value (.list :: frames), text)
  | .object =>
    match skipKey text with
    | .error reason => .error reason
    | .ok rest => .ok (.value (.object :: frames), rest)

/-- Goes on inside the innermost frame: to its next item or past its end. -/
def skipAfter (opened : Bool) (frame : Frame) (frames : List Frame) (text : List Char) :
    Scanned SkipStep :=
  match skipBlank text, frame with
  | [], .list => .error .endInList
  | [], .object => .error .endInObject
  | ']' :: rest, .list => .ok (.after false frames, rest)
  | '\x7d' :: rest, .object => .ok (.after false frames, rest)
  | ',' :: rest, frame => if opened then skipInto frame frames (',' :: rest)
    else skipInto frame frames rest
  | text, .list => if opened then skipInto .list frames text else .error .noCommaOrBracket
  | text, .object => if opened then skipInto .object frames text else .error .noCommaOrBrace

/-- Skips the rest of a value inside the open frames. No step but the last leaves the text as it
was twice in a row, so twice its length is enough fuel. -/
def skipLoop : (fuel : Nat) → SkipStep → List Char → Except Malformed (List Char)
  | 0, _, _ => .error .endInValue
  | _ + 1, .after _ [], text => .ok text
  | fuel + 1, .after opened (frame :: frames), text =>
    match skipAfter opened frame frames text with
    | .error reason => .error reason
    | .ok (step, rest) => skipLoop fuel step rest
  | fuel + 1, .value frames, text =>
    match skipStart frames text with
    | .error reason => .error reason
    | .ok (step, rest) => skipLoop fuel step rest

/-- Skips one value. -/
def skipValue (text : List Char) : Except Malformed (List Char) :=
  skipLoop (2 * text.length + 2) (.value []) text

end SceneLoad.Lexeme
