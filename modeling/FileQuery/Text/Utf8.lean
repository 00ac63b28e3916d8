/-!
# Bytes that may be UTF-8

File names are bytes. They are shown as text by decoding UTF-8, where each longest beginning of a
character that cannot be completed is shown as one replacement character. The decoder runs over the
bytes with a state: between characters, or inside one with the bytes it still owes.

## Main definitions

* `FileQuery.Text.decodeLossy`, `FileQuery.Text.encode`.
-/

namespace FileQuery.Text

/-- Where decoding stands between two bytes. -/
inductive DecodeState where
  /-- Between characters. -/
  | start
  /-- Inside a character: the bytes owed, the range of the next one, the bits read so far. -/
  | inside (owed : Nat) (low high : Nat) (bits : Nat)

/-- What stands for bytes that are no character. -/
def replacement : Char := Char.ofNat 0xFFFD

/-- A byte between characters: the characters it completes and the state after it. -/
def decodeFirst (b : Nat) : List Char × DecodeState :=
  if b < 0x80 then ([Char.ofNat b], .start)
  else if b < 0xC2 then ([replacement], .start)
  else if b < 0xE0 then ([], .inside 1 0x80 0xBF (b - 0xC0))
  else if b < 0xF0 then
    ([], .inside 2 (if b = 0xE0 then 0xA0 else 0x80) (if b = 0xED then 0x9F else 0xBF) (b - 0xE0))
  else if b < 0xF5 then
    ([], .inside 3 (if b = 0xF0 then 0x90 else 0x80) (if b = 0xF4 then 0x8F else 0xBF) (b - 0xF0))
  else ([replacement], .start)

/-- A byte in any state. -/
def decodeByte : DecodeState → Nat → List Char × DecodeState
  | .start, b => decodeFirst b
  | .inside owed low high bits, b =>
    if low ≤ b ∧ b ≤ high then
      let bits := bits * 64 + (b - 0x80)
      if owed ≤ 1 then ([Char.ofNat bits], .start) else ([], .inside (owed - 1) 0x80 0xBF bits)
    else
      let (cs, s) := decodeFirst b
      (replacement :: cs, s)

/-- The characters of bytes read from a state on. -/
def decodeFrom : DecodeState → List UInt8 → List Char
  | .start, [] => []
  | .inside .., [] => [replacement]
  | s, b :: bs =>
    let (cs, s) := decodeByte s b.toNat
    cs ++ decodeFrom s bs

/-- The text that bytes show as. -/
def decodeLossy (bytes : List UInt8) : String := String.ofList (decodeFrom .start bytes)

/-- The bytes of a text. -/
def encode (s : String) : List UInt8 := s.toUTF8.toList

end FileQuery.Text
