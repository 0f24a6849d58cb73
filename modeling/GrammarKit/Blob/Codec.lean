/-!
# Blobs

A blob is a list of bytes. A codec writes a value as bytes and reads it back
from the front of a blob, leaving the rest; every written form tells where it
ends, so codecs combine by standing next to each other.

Numbers are written seven bits to a byte, lowest first, with the high bit set on
every byte but the last. Reading allows a limited number of bytes and a limited
last byte, which bounds the number; needless zero bits within the limit are
accepted.
-/
namespace GrammarKit

/-- Why bytes are not what a codec writes. -/
inductive BlobError where
  | unexpectedEnd
  | badVarint
  | badBool
  | badOption
  | badUtf8
  | unknownVariant
  deriving DecidableEq, Repr

def BlobError.message : BlobError → String
  | .unexpectedEnd => "Hit the end of buffer, expected more data"
  | .badVarint =>
    "Found a varint that didn't terminate. Is the usize too big for this platform?"
  | .badBool => "Found a bool that wasn't 0 or 1"
  | .badOption => "Found an Option discriminant that wasn't 0 or 1"
  | .badUtf8 => "Tried to parse invalid utf-8"
  | .unknownVariant => "Serde Deserialization Error"

/-- Takes a value off the front of a blob. -/
abbrev Reader (α : Type) := List UInt8 → Except BlobError (α × List UInt8)

namespace Reader

variable {α β : Type}

/-- Reads nothing. -/
def pure (a : α) : Reader α := fun bs => .ok (a, bs)

/-- Reads nothing and fails. -/
def fail (e : BlobError) : Reader α := fun _ => .error e

/-- Reads one value, then what depends on it. -/
def bind (r : Reader α) (f : α → Reader β) : Reader β := fun bs =>
  match r bs with
  | .ok (a, rest) => f a rest
  | .error e => .error e

def map (f : α → β) (r : Reader α) : Reader β := r.bind fun a => pure (f a)

/-- Reads one byte. -/
def byte : Reader UInt8
  | [] => .error .unexpectedEnd
  | b :: rest => .ok (b, rest)

/-- Reads `n` bytes. -/
def take (n : Nat) : Reader (List UInt8) := fun bs =>
  if n ≤ bs.length then .ok (bs.take n, bs.drop n) else .error .unexpectedEnd

/-- Reads `n` values. -/
def replicate (r : Reader α) : Nat → Reader (List α)
  | 0 => pure []
  | n + 1 => r.bind fun a => (r.replicate n).map (a :: ·)

/-- Reads a number of at most `bytes` bytes, of which the last possible one is
at most `last`. -/
def varint (last : Nat) : (bytes : Nat) → Reader Nat
  | 0 => fail .badVarint
  | n + 1 => byte.bind fun b =>
    if b.toNat < 128 then
      if n = 0 ∧ b.toNat > last then fail .badVarint else pure b.toNat
    else (varint last n).map fun m => b.toNat - 128 + 128 * m

end Reader

/-- The bytes of a number. -/
def varintBytes (n : Nat) : List UInt8 :=
  if n < 128 then [n.toUInt8] else (n % 128 + 128).toUInt8 :: varintBytes (n / 128)
termination_by n
decreasing_by omega

/-- A way to write values and to read them back. -/
structure Codec (α : Type) where
  write : α → List UInt8
  read : Reader α

namespace Codec

variable {α β : Type}

/-- Numbers below 2^32. -/
def word : Codec Nat := ⟨varintBytes, Reader.varint 0x0f 5⟩

/-- Lengths, below 2^64. -/
def length : Codec Nat := ⟨varintBytes, Reader.varint 0x01 10⟩

def bool : Codec Bool where
  write b := [if b then 1 else 0]
  read := Reader.byte.bind fun b =>
    if b = 0 then Reader.pure false else if b = 1 then Reader.pure true else Reader.fail .badBool

/-- A byte that says whether a value follows. -/
def option (c : Codec α) : Codec (Option α) where
  write
    | none => [0]
    | some a => 1 :: c.write a
  read := Reader.byte.bind fun b =>
    if b = 0 then Reader.pure none
    else if b = 1 then c.read.map some
    else Reader.fail .badOption

/-- A length and as many values. -/
def list (c : Codec α) : Codec (List α) where
  write as := length.write as.length ++ as.flatMap c.write
  read := length.read.bind c.read.replicate

/-- A length in bytes and the UTF-8 form. -/
def string : Codec String where
  write s := length.write s.utf8ByteSize ++ s.toUTF8.toList
  read := length.read.bind fun n => (Reader.take n).bind fun bs =>
    match String.fromUTF8? ⟨bs.toArray⟩ with
    | some s => Reader.pure s
    | none => Reader.fail .badUtf8

/-- One value after the other. -/
def pair (c : Codec α) (d : Codec β) : Codec (α × β) where
  write p := c.write p.1 ++ d.write p.2
  read := c.read.bind fun a => d.read.map fun b => (a, b)

/-- Values in the form of others. -/
def via (c : Codec β) (form : α → β) (value : β → α) : Codec α where
  write a := c.write (form a)
  read := c.read.map value

/-- A number that says which alternative follows, and its fields. -/
def tagged (tag : α → Nat) (fields : α → List UInt8) (alternative : Nat → Option (Reader α)) :
    Codec α where
  write a := word.write (tag a) ++ fields a
  read := word.read.bind fun t => (alternative t).getD (Reader.fail .unknownVariant)

end Codec
end GrammarKit
