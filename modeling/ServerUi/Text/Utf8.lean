/-! Reading UTF-8, one byte at a time. -/

namespace ServerUi

inductive Utf8Flaw where
  | start
  | continuation
  | truncated
  deriving DecidableEq

namespace Utf8

/-- What is expected after the first bytes of a character: how many more bytes, the bounds of
the next one, and the value so far. -/
structure Pending where
  owed : Nat
  low : Nat
  high : Nat
  value : Nat

/-- A character's first byte. The bounds keep out overlong forms, surrogates and values past
the last code point. -/
def first? (b : Nat) : Option Pending :=
  if b < 0x80 then some ⟨0, 0, 0, b⟩
  else if b < 0xc2 then none
  else if b < 0xe0 then some ⟨1, 0x80, 0xbf, b - 0xc0⟩
  else if b < 0xf0 then
    some ⟨2, if b = 0xe0 then 0xa0 else 0x80, if b = 0xed then 0x9f else 0xbf, b - 0xe0⟩
  else if b < 0xf5 then
    some ⟨3, if b = 0xf0 then 0x90 else 0x80, if b = 0xf4 then 0x8f else 0xbf, b - 0xf0⟩
  else none

def decodeFrom : Pending → List UInt8 → Except Utf8Flaw (List Char)
  | ⟨0, _, _, _⟩, [] => .ok []
  | ⟨_ + 1, _, _, _⟩, [] => .error .truncated
  | ⟨0, _, _, _⟩, b :: rest =>
    match first? b.toNat with
    | none => .error .start
    | some ⟨0, _, _, value⟩ => (Char.ofNat value :: ·) <$> decodeFrom ⟨0, 0, 0, 0⟩ rest
    | some pending => decodeFrom pending rest
  | ⟨owed + 1, low, high, value⟩, b :: rest =>
    if low ≤ b.toNat ∧ b.toNat ≤ high then
      let value := 64 * value + (b.toNat - 0x80)
      if owed = 0 then (Char.ofNat value :: ·) <$> decodeFrom ⟨0, 0, 0, 0⟩ rest
      else decodeFrom ⟨owed, 0x80, 0xbf, value⟩ rest
    else .error .continuation

def decode (bytes : List UInt8) : Except Utf8Flaw (List Char) :=
  decodeFrom ⟨0, 0, 0, 0⟩ bytes

end Utf8

def Utf8Flaw.message : Utf8Flaw → String
  | start => "invalid start byte"
  | continuation => "invalid continuation byte"
  | truncated => "unexpected end of data"

end ServerUi
