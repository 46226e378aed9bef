import ChainLint.Text.Hex

/-!
# UTF-8

Encoding of characters as bytes, and strict decoding. The decoder reads one byte at a time: between
characters it takes a lead byte, which fixes how many continuation bytes are owed and which values the
first of them may have; overlong forms, surrogates and values past the last code point are thus refused
at the earliest byte that rules them out. A refusal names the bytes of the character read so far.
-/

namespace ChainLint.Text.Utf8

/-! ## Encoding -/

/-- The bytes of one character. -/
def encodeChar (c : Char) : List UInt8 :=
  let v := c.toNat
  if v < 0x80 then [.ofNat v]
  else if v < 0x800 then [.ofNat (0xc0 + v / 0x40), .ofNat (0x80 + v % 0x40)]
  else if v < 0x10000 then
    [.ofNat (0xe0 + v / 0x1000), .ofNat (0x80 + v / 0x40 % 0x40), .ofNat (0x80 + v % 0x40)]
  else
    [.ofNat (0xf0 + v / 0x40000), .ofNat (0x80 + v / 0x1000 % 0x40),
      .ofNat (0x80 + v / 0x40 % 0x40), .ofNat (0x80 + v % 0x40)]

/-- The bytes of a text. -/
def encode (cs : List Char) : List UInt8 := cs.flatMap encodeChar

/-! ## Decoding -/

/-- What is wrong with a sequence of bytes. -/
inductive Fault where
  | startByte
  | continuationByte
  | unexpectedEnd
  deriving Repr, DecidableEq

def Fault.reason : Fault → String
  | .startByte => "invalid start byte"
  | .continuationByte => "invalid continuation byte"
  | .unexpectedEnd => "unexpected end of data"

/-- A refusal: the bytes from `start` up to `stop` begin a character with lead byte `lead` that cannot
be completed. -/
structure DecodeError where
  start : Nat
  stop : Nat
  lead : UInt8
  fault : Fault
  deriving Repr, DecidableEq

/-- The refusal in words: one offending byte is shown, several are located by their positions. -/
def DecodeError.message (e : DecodeError) : String :=
  let place :=
    if e.stop = e.start + 1 then
      "byte 0x" ++ hexPadded 2 e.lead.toNat ++ " in position " ++ toString e.start
    else "bytes in position " ++ toString e.start ++ "-" ++ toString (e.stop - 1)
  "'utf-8' codec can't decode " ++ place ++ ": " ++ e.fault.reason

/-- Where the decoder stands. -/
inductive State where
  | between
  /-- In a character that began at `start` with the byte `lead`: `owed` more bytes belong to it, the
  next one lies from `low` to `high`, and `value` holds the bits read so far. -/
  | inside (lead : UInt8) (start owed low high value : Nat)
  deriving Repr, DecidableEq

/-- What a lead byte promises: the continuation bytes it owes, the range of the first of them, and the
bits the lead byte itself holds. -/
def ofLead (b : Nat) : Option (Nat × Nat × Nat × Nat) :=
  if 0xc2 ≤ b ∧ b ≤ 0xdf then some (1, 0x80, 0xbf, b - 0xc0)
  else if b = 0xe0 then some (2, 0xa0, 0xbf, 0)
  else if b = 0xed then some (2, 0x80, 0x9f, 0xd)
  else if 0xe1 ≤ b ∧ b ≤ 0xef then some (2, 0x80, 0xbf, b - 0xe0)
  else if b = 0xf0 then some (3, 0x90, 0xbf, 0)
  else if 0xf1 ≤ b ∧ b ≤ 0xf3 then some (3, 0x80, 0xbf, b - 0xf0)
  else if b = 0xf4 then some (3, 0x80, 0x8f, 4)
  else none

/-- Decode the bytes from position `pos` on. -/
def decodeFrom : Nat → State → List UInt8 → Except DecodeError (List Char)
  | _, .between, [] => .ok []
  | pos, .inside lead start _ _ _ _, [] => .error ⟨start, pos, lead, .unexpectedEnd⟩
  | pos, .between, b :: rest =>
    if b.toNat < 0x80 then (Char.ofNat b.toNat :: ·) <$> decodeFrom (pos + 1) .between rest
    else
      match ofLead b.toNat with
      | some (owed, low, high, value) =>
        decodeFrom (pos + 1) (.inside b pos owed low high value) rest
      | none => .error ⟨pos, pos + 1, b, .startByte⟩
  | pos, .inside lead start owed low high value, b :: rest =>
    if low ≤ b.toNat ∧ b.toNat ≤ high then
      let value := value * 0x40 + (b.toNat - 0x80)
      if owed ≤ 1 then (Char.ofNat value :: ·) <$> decodeFrom (pos + 1) .between rest
      else decodeFrom (pos + 1) (.inside lead start (owed - 1) 0x80 0xbf value) rest
    else .error ⟨start, pos, lead, .continuationByte⟩

def decode (bytes : List UInt8) : Except DecodeError (List Char) := decodeFrom 0 .between bytes

end ChainLint.Text.Utf8
