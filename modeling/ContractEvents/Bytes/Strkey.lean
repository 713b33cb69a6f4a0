/-
Module: ContractEvents.Bytes.Strkey
Purpose: The checked base32 text of account, contract and muxed account keys.
Main exports: Strkey.render, Strkey.Kind, base32, checksum
-/
import ContractEvents.Bytes.Basic

namespace ContractEvents.Strkey

/-!
A key is written as base32 over a version byte, the key bytes and a checksum of both.  The version
byte is chosen so that its five high bits spell the letter that opens the text: `G` for accounts,
`C` for contracts, `M` for muxed accounts.
-/

/-- The symbol of a number below 32. -/
def symbol (n : Nat) : Char :=
  if n < 26 then Char.ofNat (65 + n) else Char.ofNat (24 + n)

/-- Eight symbols for five bytes. -/
def symbolsOfFive (a b c d e : UInt8) : List Char :=
  let (a, b, c, d, e) := (a.toNat, b.toNat, c.toNat, d.toNat, e.toNat)
  [symbol (a / 8), symbol (a % 8 * 4 + b / 64), symbol (b / 2 % 32), symbol (b % 2 * 16 + c / 16),
    symbol (c % 16 * 2 + d / 128), symbol (d / 4 % 32), symbol (d % 4 * 8 + e / 32),
    symbol (e % 32)]

/-- Base32 without padding: a last stretch of one to four bytes takes two, four, five or seven
symbols. -/
def base32 : Bytes → List Char
  | [] => []
  | [a] => (symbolsOfFive a 0 0 0 0).take 2
  | [a, b] => (symbolsOfFive a b 0 0 0).take 4
  | [a, b, c] => (symbolsOfFive a b c 0 0).take 5
  | [a, b, c, d] => (symbolsOfFive a b c d 0).take 7
  | a :: b :: c :: d :: e :: rest => symbolsOfFive a b c d e ++ base32 rest

/-- One bit of the checksum: shift left, and fold a carried bit back in by the polynomial `1021`. -/
def checksumBit (crc : UInt16) : UInt16 :=
  if crc &&& 0x8000 = 0 then crc <<< 1 else (crc <<< 1) ^^^ 0x1021

/-- One byte of the checksum. -/
def checksumByte (crc : UInt16) (b : UInt8) : UInt16 :=
  (List.range 8).foldl (fun acc _ => checksumBit acc) (crc ^^^ (b.toUInt16 <<< 8))

/-- The 16-bit cyclic checksum of a byte sequence, from zero. -/
def checksum (bs : Bytes) : UInt16 := bs.foldl checksumByte 0

/-- What a key belongs to. -/
inductive Kind where
  | account
  | contract
  | muxed
deriving DecidableEq, Repr, Inhabited

/-- The version byte of a kind. -/
def Kind.version : Kind → UInt8
  | .account => 48
  | .contract => 16
  | .muxed => 96

/-- The text of a key; the checksum follows its low byte first. -/
def render (kind : Kind) (key : Bytes) : String :=
  let body := kind.version :: key
  let crc := (checksum body).toNat
  String.ofList (base32 (body ++ [UInt8.ofNat (crc % 256), UInt8.ofNat (crc / 256)]))

end ContractEvents.Strkey
