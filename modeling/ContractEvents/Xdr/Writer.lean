/-
Module: ContractEvents.Xdr.Writer
Purpose: The binary forms that the readers read.
Main exports: Xdr.blob, Xdr.list, Xdr.optional, Xdr.flag
-/
import ContractEvents.Bytes.Base64
import ContractEvents.Xdr.Reader

namespace ContractEvents.Xdr

/-- A truth value as the word one or zero. -/
def flag (b : Bool) : Bytes := Bytes.ofWord (if b then 1 else 0)

/-- A byte string: its length, its bytes and zeros up to a whole unit. -/
def blob (bs : Bytes) : Bytes :=
  Bytes.ofWord (UInt32.ofNat bs.length) ++ bs ++ List.replicate (Reader.fill bs.length) 0

/-- A list: its length and its values. -/
def list {α : Type} (write : α → Bytes) (items : List α) : Bytes :=
  Bytes.ofWord (UInt32.ofNat items.length) ++ items.flatMap write

/-- A value that may be absent. -/
def optional {α : Type} (write : α → Bytes) : Option α → Bytes
  | none => Bytes.ofWord 0
  | some a => Bytes.ofWord 1 ++ write a

end ContractEvents.Xdr
