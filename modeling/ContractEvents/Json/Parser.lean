/-
Module: ContractEvents.Json.Parser
Purpose: JSON text to values, with the reason and the place of the first fault.
Main exports: Json.parse, Json.parseLoosely, Json.Fault, Json.Reason
-/
import ContractEvents.Json.Basic
import ContractEvents.Json.Form
import ContractEvents.Text.Utf8

namespace ContractEvents.Json

/-!
The reader works on the UTF-8 bytes of the text and looks one byte ahead.  A fault is placed behind
the byte that reveals it: behind the byte it looked at or took last, or at the end of the text.  It
is recorded as the bytes after that place, so no reader has to carry a position along; the line and
column are computed once, from the whole text.

At most 127 containers may be open at once.

Text may also be read loosely.  Then a value that has the right form but cannot be held is no fault;
it counts as unread, and so does an object with a member whose name cannot be held.
-/

/-- What is wrong with JSON text. -/
inductive Reason where
  | eofInArray
  | eofInObject
  | eofInString
  | eofInValue
  | expectedColon
  | expectedCommaOrBracket
  | expectedCommaOrBrace
  | expectedLiteral
  | expectedValue
  | invalidEscape
  | invalidNumber
  | numberOutOfRange
  | invalidCodePoint
  | controlCharacter
  | keyNotString
  | loneSurrogate
  | trailingComma
  | trailingCharacters
  | unfinishedSurrogatePair
  | tooDeep
deriving DecidableEq, Repr, Inhabited

/-- The reason in words. -/
def Reason.message : Reason → String
  | .eofInArray => "EOF while parsing a list"
  | .eofInObject => "EOF while parsing an object"
  | .eofInString => "EOF while parsing a string"
  | .eofInValue => "EOF while parsing a value"
  | .expectedColon => "expected `:`"
  | .expectedCommaOrBracket => "expected `,` or `]`"
  | .expectedCommaOrBrace => "expected `,` or `\x7d`"
  | .expectedLiteral => "expected ident"
  | .expectedValue => "expected value"
  | .invalidEscape => "invalid escape"
  | .invalidNumber => "invalid number"
  | .numberOutOfRange => "number out of range"
  | .invalidCodePoint => "invalid unicode code point"
  | .controlCharacter => "control character (\\u0000-\\u001F) found while parsing a string"
  | .keyNotString => "key must be a string"
  | .loneSurrogate => "lone leading surrogate in hex escape"
  | .trailingComma => "trailing comma"
  | .trailingCharacters => "trailing characters"
  | .unfinishedSurrogatePair => "unexpected end of hex escape"
  | .tooDeep => "recursion limit exceeded"

/-- Is it no fault of the form, so that the value may just be one that cannot be held? -/
def Reason.allowsForm : Reason → Bool
  | .numberOutOfRange => true
  | .loneSurrogate => true
  | .unfinishedSurrogatePair => true
  | .tooDeep => true
  | _ => false

/-- A fault and the bytes of the text behind it. -/
structure Stop where
  reason : Reason
  rest : Bytes
deriving DecidableEq, Repr, Inhabited

/-- A fault with its line, from one, and the bytes of that line in front of it. -/
structure Fault where
  reason : Reason
  line : Nat
  column : Nat
deriving DecidableEq, Repr, Inhabited

/-- The fault in words. -/
def Fault.message (fault : Fault) : String :=
  s!"{fault.reason.message} at line {fault.line} column {fault.column}"

/-- A reader takes bytes from the front and gives back the rest. -/
abbrev Step (α : Type) := Bytes → Except Stop (α × Bytes)

/-- The fault shown by the next byte, or by the end of the text. -/
def stopAtNext {α : Type} (reason : Reason) (rest : Bytes) : Except Stop α :=
  .error ⟨reason, rest.drop 1⟩

/-- The value of a decimal digit. -/
def digitValue (b : UInt8) : Nat := b.toNat - 48

/-- Takes the bytes of `word`. -/
def literal (value : Json) : Bytes → Step Json
  | [], rest => .ok (value, rest)
  | _ :: _, [] => .error ⟨.eofInValue, []⟩
  | expected :: word, b :: rest =>
      if b = expected then literal value word rest else .error ⟨.expectedLiteral, rest⟩

/-- Four bytes as hexadecimal digits. -/
def hexEscape : Step Nat
  | a :: b :: c :: d :: rest =>
      let digit (x : UInt8) := hexValue? (Char.ofNat x.toNat)
      match digit a, digit b, digit c, digit d with
      | some a, some b, some c, some d => .ok (a * 4096 + b * 256 + c * 16 + d, rest)
      | _, _, _, _ => .error ⟨.invalidEscape, rest⟩
  | _ => .error ⟨.eofInString, []⟩

/-- Takes one byte that has to follow a leading surrogate. -/
def surrogateLink (expected : UInt8) : Step Unit
  | [] => .error ⟨.eofInString, []⟩
  | b :: rest =>
      if b = expected then .ok ((), rest) else .error ⟨.unfinishedSurrogatePair, rest⟩

/-- The character of a code escape, behind its letter.  A leading surrogate needs a trailing one in
a second escape. -/
def codeEscape (bs : Bytes) : Except Stop (Char × Bytes) := do
  let (n, rest) ← hexEscape bs
  if 0xDC00 ≤ n && n ≤ 0xDFFF then throw ⟨.loneSurrogate, rest⟩
  if n < 0xD800 || 0xDBFF < n then return (Char.ofNat n, rest)
  let ((), rest) ← surrogateLink 0x5C rest
  let ((), rest) ← surrogateLink 0x75 rest
  let (low, rest) ← hexEscape rest
  if low < 0xDC00 || 0xDFFF < low then throw ⟨.loneSurrogate, rest⟩
  return (Char.ofNat ((n - 0xD800) * 1024 + (low - 0xDC00) + 0x10000), rest)

/-- The bytes of an escape, behind its backslash. -/
def escape : Step Bytes
  | [] => .error ⟨.eofInString, []⟩
  | 0x22 :: rest => .ok ([0x22], rest)
  | 0x5C :: rest => .ok ([0x5C], rest)
  | 0x2F :: rest => .ok ([0x2F], rest)
  | 0x62 :: rest => .ok ([0x08], rest)
  | 0x66 :: rest => .ok ([0x0C], rest)
  | 0x6E :: rest => .ok ([0x0A], rest)
  | 0x72 :: rest => .ok ([0x0D], rest)
  | 0x74 :: rest => .ok ([0x09], rest)
  | 0x75 :: rest => do
      let (c, rest) ← codeEscape rest
      return (Utf8.encodeChar c, rest)
  | _ :: rest => .error ⟨.invalidEscape, rest⟩

/-- The bytes of a string, behind its first quote.  Every turn takes a byte, so as much fuel as
there are bytes is enough. -/
def stringBytes : (fuel : Nat) → Step Bytes
  | _, [] => .error ⟨.eofInString, []⟩
  | 0, rest => .error ⟨.eofInString, rest⟩
  | fuel + 1, b :: rest =>
      if b = 0x22 then .ok ([], rest)
      else if b = 0x5C then do
        let (escaped, rest) ← escape rest
        let (others, rest) ← stringBytes fuel rest
        return (escaped ++ others, rest)
      else if b < 0x20 then .error ⟨.controlCharacter, rest⟩
      else do
        let (others, rest) ← stringBytes fuel rest
        return (b :: others, rest)

/-- A string, behind its first quote. -/
def stringBody (fuel : Nat) (bs : Bytes) : Except Stop (String × Bytes) := do
  let (bytes, rest) ← stringBytes fuel bs
  match Utf8.decode bytes with
  | .ok s => return (s, rest)
  | .error _ => throw ⟨.invalidCodePoint, rest⟩

/-- The largest integer that keeps all its digits. -/
def maxSignificand : Nat := 0xFFFFFFFFFFFFFFFF

/-- A number of the form significand times a power of ten. -/
def scientific (negative : Bool) (significand : Nat) (exponent : Int) (rest : Bytes) :
    Except Stop (JsonNumber × Bytes) :=
  match Double.ofScientific? negative significand exponent with
  | some x => .ok (.double x, rest)
  | none => .error ⟨.numberOutOfRange, rest⟩

/-- The digits of an exponent, as long as they stay within 31 bits; `none` beyond. -/
def exponentDigits (acc : Nat) : Bytes → Option Nat × Bytes
  | [] => (some acc, [])
  | b :: rest =>
      if isDigit b then
        let next := acc * 10 + digitValue b
        if 0x80000000 ≤ next then (none, rest) else exponentDigits next rest
      else (some acc, b :: rest)

/-- The exponent of a number, behind its sign; `shift` is the power of ten of the digits so far.  An
exponent beyond 31 bits leaves zero, unless the number would grow without bound. -/
def unsignedExponent (negative : Bool) (significand : Nat) (shift : Int) (down : Bool) (bs : Bytes) :
    Except Stop (JsonNumber × Bytes) :=
  match bs with
  | [] => .error ⟨.eofInValue, []⟩
  | b :: rest =>
      if !isDigit b then .error ⟨.invalidNumber, rest⟩
      else match exponentDigits (digitValue b) rest with
        | (some e, rest) =>
            scientific negative significand (if down then shift - e else shift + e) rest
        | (none, rest) =>
            if significand ≠ 0 && !down then .error ⟨.numberOutOfRange, rest⟩
            else .ok (.double ⟨negative, 0, -1074⟩, rest.dropWhile isDigit)

/-- The exponent of a number, behind its letter. -/
def exponentPart (negative : Bool) (significand : Nat) (shift : Int) (bs : Bytes) :
    Except Stop (JsonNumber × Bytes) :=
  match bs with
  | 0x2B :: rest => unsignedExponent negative significand shift false rest
  | 0x2D :: rest => unsignedExponent negative significand shift true rest
  | _ => unsignedExponent negative significand shift false bs

/-- What follows the digits of a number. -/
def afterFraction (negative : Bool) (significand : Nat) (shift : Int) (bs : Bytes) :
    Except Stop (JsonNumber × Bytes) :=
  match bs with
  | 0x65 :: rest => exponentPart negative significand shift rest
  | 0x45 :: rest => exponentPart negative significand shift rest
  | _ => scientific negative significand shift bs

/-- The digits behind the point.  Digits that no longer fit into the significand are dropped. -/
def fractionDigits (significand : Nat) (count : Nat) : Bytes → Nat × Nat × Bytes
  | [] => (significand, count, [])
  | b :: rest =>
      if isDigit b then
        let next := significand * 10 + digitValue b
        if maxSignificand < next then (significand, count, rest.dropWhile isDigit)
        else fractionDigits next (count + 1) rest
      else (significand, count, b :: rest)

/-- The fraction of a number, behind its point; at least one digit has to stand there. -/
def fractionPart (negative : Bool) (significand : Nat) (shift : Int) (bs : Bytes) :
    Except Stop (JsonNumber × Bytes) :=
  match bs with
  | [] => .error ⟨.eofInValue, []⟩
  | b :: _ =>
      if !isDigit b then stopAtNext .invalidNumber bs
      else
        let (significand, count, rest) := fractionDigits significand 0 bs
        afterFraction negative significand (shift - count) rest

/-- What follows the whole digits of a number.  Minus zero is a double. -/
def afterWhole (negative : Bool) (significand : Nat) (bs : Bytes) :
    Except Stop (JsonNumber × Bytes) :=
  match bs with
  | 0x2E :: rest => fractionPart negative significand 0 rest
  | 0x65 :: rest => exponentPart negative significand 0 rest
  | 0x45 :: rest => exponentPart negative significand 0 rest
  | _ =>
      if !negative then .ok (.int significand, bs)
      else if significand = 0 || 0x8000000000000000 < significand then
        scientific true significand 0 bs
      else .ok (.int (-significand), bs)

/-- What follows the whole digits of a number too long for the significand. -/
def afterLongWhole (negative : Bool) (significand : Nat) (bs : Bytes) :
    Except Stop (JsonNumber × Bytes) :=
  let dropped := bs.takeWhile isDigit
  let shift : Int := dropped.length
  match bs.dropWhile isDigit with
  | 0x2E :: rest => fractionPart negative significand shift rest
  | rest => afterFraction negative significand shift rest

/-- The whole digits of a number that does not start with zero. -/
def wholeDigits (negative : Bool) (significand : Nat) :
    Bytes → Except Stop (JsonNumber × Bytes)
  | [] => afterWhole negative significand []
  | b :: rest =>
      if isDigit b then
        let next := significand * 10 + digitValue b
        if maxSignificand < next then afterLongWhole negative significand (b :: rest)
        else wholeDigits negative next rest
      else afterWhole negative significand (b :: rest)

/-- A number, behind its sign.  Only a lone zero may start with the digit zero. -/
def numberBody (negative : Bool) : Bytes → Except Stop (JsonNumber × Bytes)
  | [] => .error ⟨.eofInValue, []⟩
  | b :: rest =>
      if b = 0x30 then
        match rest with
        | next :: _ =>
            if isDigit next then stopAtNext .invalidNumber rest else afterWhole negative 0 rest
        | [] => afterWhole negative 0 rest
      else if isDigit b then wholeDigits negative (digitValue b) rest
      else .error ⟨.invalidNumber, rest⟩

/-- What reading a value loosely gives: the value, or if it has the right form at least, an unread
one.  Checking the form takes no more fuel than there are bytes, and one turn to end. -/
def orUnread (loosely : Bool) (fuel : Nat) (bs : Bytes) (read : Except Stop (Json × Bytes)) :
    Except Stop (Json × Bytes) :=
  match read with
  | .ok found => .ok found
  | .error stop =>
      match if loosely && stop.reason.allowsForm then skipValue fuel bs else none with
      | some rest => .ok (.unread, rest)
      | none => .error stop

mutual

/-- A value, with at most `depth` containers to open.  Every container and every entry takes a byte,
so three times the length of the text is fuel enough. -/
def value (loosely : Bool) : (fuel depth : Nat) → Step Json
  | 0, _, rest => stopAtNext .eofInValue rest
  | fuel + 1, depth, bs =>
      match skipSpace bs with
      | [] => .error ⟨.eofInValue, []⟩
      | b :: rest =>
          orUnread loosely fuel (b :: rest) <|
          if b = 0x6E then literal .null [0x75, 0x6C, 0x6C] rest
          else if b = 0x74 then literal (.bool true) [0x72, 0x75, 0x65] rest
          else if b = 0x66 then literal (.bool false) [0x61, 0x6C, 0x73, 0x65] rest
          else if b = 0x2D then do
            let (n, rest) ← numberBody true rest
            return (.number n, rest)
          else if isDigit b then do
            let (n, rest) ← numberBody false (b :: rest)
            return (.number n, rest)
          else if b = 0x22 then do
            let (s, rest) ← stringBody fuel rest
            return (.string s, rest)
          else if b = 0x5B then
            match depth with
            | 0 => .error ⟨.tooDeep, rest⟩
            | depth + 1 => do
                let (items, rest) ← firstItem loosely fuel depth rest
                return (.array items, rest)
          else if b = 0x7B then
            match depth with
            | 0 => .error ⟨.tooDeep, rest⟩
            | depth + 1 => do
                let (members, rest) ← firstMember loosely fuel depth rest
                return (.object members, rest)
          else .error ⟨.expectedValue, rest⟩

/-- The items of an array, behind its bracket. -/
def firstItem (loosely : Bool) : (fuel depth : Nat) → Step (List Json)
  | 0, _, rest => stopAtNext .eofInArray rest
  | fuel + 1, depth, bs =>
      match skipSpace bs with
      | [] => .error ⟨.eofInArray, []⟩
      | 0x5D :: rest => .ok ([], rest)
      | rest => do
          let (item, rest) ← value loosely fuel depth rest
          let (items, rest) ← moreItems loosely fuel depth rest
          return (item :: items, rest)

/-- The items of an array behind an item. -/
def moreItems (loosely : Bool) : (fuel depth : Nat) → Step (List Json)
  | 0, _, rest => stopAtNext .eofInArray rest
  | fuel + 1, depth, bs =>
      match skipSpace bs with
      | [] => .error ⟨.eofInArray, []⟩
      | 0x5D :: rest => .ok ([], rest)
      | 0x2C :: rest =>
          match skipSpace rest with
          | [] => .error ⟨.eofInValue, []⟩
          | 0x5D :: rest => .error ⟨.trailingComma, rest⟩
          | rest => do
              let (item, rest) ← value loosely fuel depth rest
              let (items, rest) ← moreItems loosely fuel depth rest
              return (item :: items, rest)
      | rest => stopAtNext .expectedCommaOrBracket rest

/-- The members of an object, behind its brace. -/
def firstMember (loosely : Bool) : (fuel depth : Nat) → Step (List (String × Json))
  | 0, _, rest => stopAtNext .eofInObject rest
  | fuel + 1, depth, bs =>
      match skipSpace bs with
      | [] => .error ⟨.eofInObject, []⟩
      | 0x7D :: rest => .ok ([], rest)
      | 0x22 :: rest => do
          let (member, rest) ← memberBody loosely fuel depth rest
          let (members, rest) ← moreMembers loosely fuel depth rest
          return (member :: members, rest)
      | rest => stopAtNext .keyNotString rest

/-- The members of an object behind a member. -/
def moreMembers (loosely : Bool) : (fuel depth : Nat) → Step (List (String × Json))
  | 0, _, rest => stopAtNext .eofInObject rest
  | fuel + 1, depth, bs =>
      match skipSpace bs with
      | [] => .error ⟨.eofInObject, []⟩
      | 0x7D :: rest => .ok ([], rest)
      | 0x2C :: rest =>
          match skipSpace rest with
          | [] => .error ⟨.eofInValue, []⟩
          | 0x7D :: rest => .error ⟨.trailingComma, rest⟩
          | 0x22 :: rest => do
              let (member, rest) ← memberBody loosely fuel depth rest
              let (members, rest) ← moreMembers loosely fuel depth rest
              return (member :: members, rest)
          | rest => stopAtNext .keyNotString rest
      | rest => stopAtNext .expectedCommaOrBrace rest

/-- A member of an object, behind the first quote of its name. -/
def memberBody (loosely : Bool) : (fuel depth : Nat) → Step (String × Json)
  | 0, _, rest => stopAtNext .eofInObject rest
  | fuel + 1, depth, bs => do
      let (name, rest) ← stringBody fuel bs
      match skipSpace rest with
      | [] => throw ⟨.eofInObject, []⟩
      | 0x3A :: rest =>
          let (held, rest) ← value loosely fuel depth rest
          return ((name, held), rest)
      | rest => stopAtNext .expectedColon rest

end

/-- A text of one value and white space around it. -/
def document (loosely : Bool) (bs : Bytes) : Except Stop Json := do
  let (v, rest) ← value loosely (3 * bs.length + 3) 127 bs
  match skipSpace rest with
  | [] => return v
  | rest => stopAtNext .trailingCharacters rest

/-- The line and column behind a run of bytes. -/
def place (before : Bytes) : Nat × Nat :=
  (before.count 0x0A + 1, (before.reverse.takeWhile (· != 0x0A)).length)

/-- Reads JSON bytes. -/
def parseBytes (loosely : Bool) (bs : Bytes) : Except Fault Json :=
  match document loosely bs with
  | .ok v => .ok v
  | .error stop =>
      let (line, column) := place (bs.take (bs.length - stop.rest.length))
      .error ⟨stop.reason, line, column⟩

/-- Reads JSON text. -/
def parse (text : String) : Except Fault Json := parseBytes false (Utf8.encode text)

/-- Reads JSON text of which not every value has to be one that can be held. -/
def parseLoosely (text : String) : Except Fault Json := parseBytes true (Utf8.encode text)

end ContractEvents.Json
