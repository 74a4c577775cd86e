/-
# Courier.Text.Utf8 -- characters as bytes

A character is one to four bytes.  The first tells how many follow and which values
the second may have; all further ones lie between 80 and BF.  Bytes that do not read
this way are cut into pieces: a piece is the longest beginning of a character that
breaks off, or a single byte that begins none.

`decode` tells where the first such piece is; `decodeLossy` puts a replacement
character in the place of each.
-/

namespace Courier.Text.Utf8

set_option autoImplicit false

/-- The bytes of a text. -/
def encode (text : List Char) : List UInt8 := text.flatMap String.utf8EncodeChar

/-- Number of bytes of a text. -/
def byteLength (text : List Char) : Nat := text.foldr (fun c bytes => c.utf8Size + bytes) 0

/-- A character whose first bytes are read. -/
structure Pending where
  /-- What the bytes read so far say of its number. -/
  value : Nat
  /-- How many bytes were read. -/
  width : Nat
  /-- How many bytes are to come after the next one. -/
  further : Nat
  /-- The least value of the next byte. -/
  low : UInt8
  /-- The greatest value of the next byte. -/
  high : UInt8

/-- What bytes read as. -/
inductive Piece where
  | character (c : Char)
  /-- Bytes that are no character, this many. -/
  | broken (width : Nat)
  /-- The bytes end within a character. -/
  | cut

/-- The character that a byte begins; `none` when it begins none. -/
def lead? (b : UInt8) : Option Pending :=
  if 0xC2 ≤ b && b ≤ 0xDF then some ⟨b.toNat % 0x20, 1, 0, 0x80, 0xBF⟩
  else if 0xE0 ≤ b && b ≤ 0xEF then
    some ⟨b.toNat % 0x10, 1, 1, if b = 0xE0 then 0xA0 else 0x80, if b = 0xED then 0x9F else 0xBF⟩
  else if 0xF0 ≤ b && b ≤ 0xF4 then
    some ⟨b.toNat % 0x08, 1, 2, if b = 0xF0 then 0x90 else 0x80, if b = 0xF4 then 0x8F else 0xBF⟩
  else none

/-- What the pieces become when a byte is met between two characters. -/
def begin (b : UInt8) : List Piece × Option Pending :=
  if b < 0x80 then ([.character (Char.ofNat b.toNat)], none)
  else
    match lead? b with
    | some pending => ([], some pending)
    | none => ([.broken 1], none)

/-- The pieces that a byte completes, and the character that is under way after it. -/
def step (pending : Option Pending) (b : UInt8) : List Piece × Option Pending :=
  match pending with
  | none => begin b
  | some p =>
      if p.low ≤ b && b ≤ p.high then
        let value := p.value * 0x40 + b.toNat % 0x40
        match p.further with
        | 0 => ([.character (Char.ofNat value)], none)
        | further + 1 => ([], some ⟨value, p.width + 1, further, 0x80, 0xBF⟩)
      else
        let (pieces, pending) := begin b
        (.broken p.width :: pieces, pending)

/-- The pieces of bytes that follow the beginning of a character, or follow nothing. -/
def pieces (pending : Option Pending) : List UInt8 → List Piece
  | [] => if pending.isSome then [.cut] else []
  | b :: rest =>
      let (read, pending) := step pending b
      read ++ pieces pending rest

/-- Where bytes stop being text. -/
structure Fault where
  /-- How many bytes are text before it. -/
  index : Nat
  /-- How many bytes are wrong; `none` when bytes are missing. -/
  width : Option Nat
  deriving DecidableEq

def Fault.message (f : Fault) : String :=
  match f.width with
  | some width =>
      "invalid utf-8 sequence of " ++ toString width ++ " bytes from index " ++ toString f.index
  | none => "incomplete utf-8 byte sequence from index " ++ toString f.index

/-- The characters of pieces that begin at a byte. -/
def collect (index : Nat) : List Piece → Except Fault (List Char)
  | [] => .ok []
  | .character c :: rest => (collect (index + c.utf8Size) rest).map (c :: ·)
  | .broken width :: _ => .error ⟨index, some width⟩
  | .cut :: _ => .error ⟨index, none⟩

/-- The text that bytes are. -/
def decode (bytes : List UInt8) : Except Fault (List Char) := collect 0 (pieces none bytes)

/-- What a piece is shown as. -/
def Piece.shown : Piece → Char
  | .character c => c
  | _ => '\uFFFD'

/-- The text that bytes are, with a replacement character for each piece that is none. -/
def decodeLossy (bytes : List UInt8) : List Char := (pieces none bytes).map Piece.shown

end Courier.Text.Utf8
