/-
Module: ContractEvents.Xdr.Source
Purpose: Where binary data comes from: bytes at hand, or base64 text decoded as it is asked for.
Main exports: Xdr.Fault, Xdr.Source, Source.ofBytes, Source.ofText, Source.take
-/
import ContractEvents.Bytes.Base64
import ContractEvents.Text.Blank
import ContractEvents.Text.Utf8

namespace ContractEvents.Xdr

/-!
Base64 text is decoded only as far as bytes are asked for, so a fault of the data is reported before
a fault of the text behind it.  Symbols wait in a window, which is filled from the text when less
than a quad is left in it, up to 1024 symbols.  ASCII blanks are skipped wherever they stand, and
offsets count the symbols that remain; but a stretch that holds nothing but blanks counts as the end
of the text for the request that meets it.

One request for `n` bytes decodes as many whole quads of the window as fit into them, or one quad if
`n` is below three; what was decoded and not asked for stays ready.  The last quad of a stretch may
be padded, and symbols behind it are a fault of the stretch after it.
-/

/-- Why binary data cannot be read. -/
inductive Fault where
  /-- A discriminant without meaning, a flag other than zero or one, or bytes left over. -/
  | invalid
  /-- A length above its declared maximum. -/
  | tooLong
  /-- A fill byte that is not zero. -/
  | padding
  /-- The data ends too early. -/
  | short
  /-- Values nested deeper than allowed. -/
  | tooDeep
  /-- The text is not base64. -/
  | base64 (fault : Base64.Fault)
deriving DecidableEq, Repr, Inhabited

/-- The fault in words. -/
def Fault.message : Fault → String
  | .invalid => "xdr value invalid"
  | .tooLong => "xdr value max length exceeded"
  | .padding => "xdr padding contains non-zero bytes"
  | .short => "failed to fill whole buffer"
  | .tooDeep => "depth limit exceeded"
  | .base64 fault => fault.message

/-- Does the fault lie in getting the bytes, and not in what they say? -/
def Fault.isInput : Fault → Bool
  | .short => true
  | .base64 _ => true
  | _ => false

/-- Bytes ready to be taken, then the symbols of the window, then the text behind them.  `consumed`
symbols have been decoded, and `padAt` is the offset of the first pad among them. -/
structure Source where
  ready : Bytes
  window : Bytes
  beyond : Bytes
  consumed : Nat
  padAt : Option Nat
deriving DecidableEq, Repr, Inhabited

namespace Source

/-- Bytes at hand. -/
def ofBytes (bs : Bytes) : Source := ⟨bs, [], [], 0, none⟩

/-- Base64 text. -/
def ofText (text : String) : Source := ⟨[], [], Utf8.encode text, 0, none⟩

/-- No value read from the source is nested deeper than this. -/
def bound (s : Source) : Nat := s.ready.length + s.window.length + s.beyond.length + 1

/-- How many symbols the window holds at most. -/
def windowSize : Nat := 1024

/-- How many bytes of text a stretch has at most: as many as the window has room for. -/
def room (s : Source) : Nat := windowSize - s.window.length

/-- The symbols of the next stretch of text. -/
def stretch (s : Source) : Bytes := (s.beyond.take s.room).filter fun b => !Text.isAsciiBlank b

/-- The source with the next stretch of text in its window. -/
def advance (s : Source) : Source :=
  { s with window := s.window ++ s.stretch, beyond := s.beyond.drop s.room }

theorem length_beyond_advance_lt {s : Source} (hwindow : s.window.length < 4)
    (hbeyond : s.beyond ≠ []) : s.advance.beyond.length < s.beyond.length := by
  have := List.length_pos_iff.mpr hbeyond
  simp only [advance, room, windowSize, List.length_drop]
  omega

/-- Fills the window until it holds a quad, or a stretch of text brings no symbol. -/
def fill (s : Source) : Source :=
  if _h : s.window.length < 4 ∧ s.beyond ≠ [] then
    if s.stretch.isEmpty then s.advance else s.advance.fill
  else s
termination_by s.beyond.length
decreasing_by exact length_beyond_advance_lt _h.1 _h.2

/-- Decodes the next `count` symbols of the window.  Nothing may follow a pad, and then the first
pad is the offending symbol. -/
def decodeNext (count : Nat) (s : Source) : Except Base64.Fault (Bytes × Source) :=
  match Base64.decodeQuads s.consumed (s.window.take count) with
  | .error (.symbol byte offset) =>
      .error (.symbol byte (if byte = Base64.pad then s.padAt.getD offset else offset))
  | .error fault => .error fault
  | .ok decoded =>
      let rest : Source :=
        { ready := []
          window := s.window.drop count
          beyond := s.beyond
          consumed := s.consumed + count
          padAt := s.padAt <|> decoded.padAt }
      match s.padAt with
      | some first =>
          if decoded.bytes.isEmpty then .ok (decoded.bytes, rest)
          else .error (.symbol Base64.pad first)
      | none => .ok (decoded.bytes, rest)

/-- How many of at most `count` symbols are in the window. -/
def waiting (count : Nat) (s : Source) : Nat := (s.window.take count).length

/-- Decodes symbols of a filled window in answer to a request for `n` bytes. -/
def decodeFor (n : Nat) (s : Source) : Except Base64.Fault (Bytes × Source) :=
  if s.window.isEmpty then .ok ([], s)
  else if n < 3 then do
    let (decoded, rest) ← s.decodeNext (s.waiting 4)
    return (decoded.take n, { rest with ready := decoded.drop n })
  else
    let count := s.waiting (n / 3 * 4)
    s.decodeNext (if count < 4 then count else count / 4 * 4)

/-- Answers a request for `n` bytes with at most as many; no byte means the end. -/
def request (n : Nat) (s : Source) : Except Base64.Fault (Bytes × Source) :=
  if !s.ready.isEmpty then .ok (s.ready.take n, { s with ready := s.ready.drop n })
  else s.fill.decodeFor n

/-- Takes exactly `n` bytes, by as many requests as it needs. -/
def take (n : Nat) (s : Source) : Except Fault (Bytes × Source) :=
  if n = 0 then .ok ([], s)
  else
    match s.request n with
    | .error fault => .error (.base64 fault)
    | .ok (got, rest) =>
        if _h : got.length = 0 then .error .short
        else do
          let (more, rest) ← take (n - got.length) rest
          return (got ++ more, rest)
termination_by n

end Source

end ContractEvents.Xdr
