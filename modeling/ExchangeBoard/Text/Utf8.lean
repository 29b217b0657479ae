import ExchangeBoard.Text.Quoted

/-!
# Reading bytes as UTF-8

The bytes of a file are read as UTF-8 and refused at the first sequence that is not well formed.  The
refusal names the bytes from the leading one up to the last that could still be part of a character,
and says whether the leading byte, one that follows, or the end of the bytes was wrong.
-/

namespace ExchangeBoard.Text.Utf8

/-! ### Refusals -/

/-- Why a sequence of bytes is not a character. -/
inductive Cause where
  /-- No character starts with this byte. -/
  | start
  /-- A following byte is not one of those that may stand there. -/
  | continuation
  /-- The bytes end inside a character. -/
  | ending

/-- A refused sequence: its leading byte, its position, the number of its bytes and the cause. -/
structure Fault where
  /-- The leading byte. -/
  lead : UInt8
  /-- The position of the leading byte. -/
  position : Nat
  /-- The number of bytes refused together. -/
  length : Nat
  /-- What is wrong. -/
  cause : Cause

/-- The words for a cause. -/
def Cause.message : Cause → String
  | .start => "invalid start byte"
  | .continuation => "invalid continuation byte"
  | .ending => "unexpected end of data"

/-- The words for a refusal. -/
def Fault.message (f : Fault) : String :=
  let place :=
    if f.length = 1 then
      "byte 0x" ++ String.ofList (hexDigits 2 f.lead.toNat) ++ " in position " ++ toString f.position
    else
      "bytes in position " ++ toString f.position ++ "-" ++ toString (f.position + f.length - 1)
  "'utf-8' codec can't decode " ++ place ++ ": " ++ f.cause.message

/-! ### Decoding -/

/-- What a leading byte announces: the bits it carries, and for each byte that must follow the least
and the greatest value it may have. -/
def announce (lead : Nat) : Option (Nat × List (Nat × Nat)) :=
  if lead < 0x80 then some (lead, [])
  else if lead < 0xc2 then none
  else if lead < 0xe0 then some (lead - 0xc0, [(0x80, 0xbf)])
  else if lead = 0xe0 then some (0, [(0xa0, 0xbf), (0x80, 0xbf)])
  else if lead = 0xed then some (0xd, [(0x80, 0x9f), (0x80, 0xbf)])
  else if lead < 0xf0 then some (lead - 0xe0, [(0x80, 0xbf), (0x80, 0xbf)])
  else if lead = 0xf0 then some (0, [(0x90, 0xbf), (0x80, 0xbf), (0x80, 0xbf)])
  else if lead < 0xf4 then some (lead - 0xf0, [(0x80, 0xbf), (0x80, 0xbf), (0x80, 0xbf)])
  else if lead = 0xf4 then some (4, [(0x80, 0x8f), (0x80, 0xbf), (0x80, 0xbf)])
  else none

/-- Reads the bytes that follow a leading byte: the code point, or the number of bytes that fitted
and the cause of the refusal. -/
def follow (value fitted : Nat) : List (Nat × Nat) → List UInt8 → Except (Nat × Cause) Nat
  | [], _ => .ok value
  | _ :: _, [] => .error (fitted, .ending)
  | (low, high) :: ranges, b :: bs =>
    if low ≤ b.toNat && b.toNat ≤ high then
      follow (value * 64 + b.toNat % 64) (fitted + 1) ranges bs
    else .error (fitted, .continuation)

/-- Reads bytes from a position on; `skip` bytes belong to the character read last. -/
def decodeFrom (position skip : Nat) : List UInt8 → Except Fault (List Char)
  | [] => .ok []
  | b :: bs =>
    if skip > 0 then decodeFrom (position + 1) (skip - 1) bs
    else
      match announce b.toNat with
      | none => .error ⟨b, position, 1, .start⟩
      | some (bits, ranges) =>
        match follow bits 1 ranges bs with
        | .error (fitted, cause) => .error ⟨b, position, fitted, cause⟩
        | .ok n => (decodeFrom (position + 1) ranges.length bs).map (Char.ofNat n :: ·)

/-- The text that the bytes spell, or the first sequence that spells none. -/
def decode (bytes : List UInt8) : Except Fault String :=
  (decodeFrom 0 0 bytes).map String.ofList

end ExchangeBoard.Text.Utf8
