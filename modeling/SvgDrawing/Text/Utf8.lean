import SvgDrawing.Failure
import SvgDrawing.Text.Pieces

/-!
# Bytes as text

Files are UTF-8.  Bytes that are not are reported by `decode` with the place of the
first fault: the bytes that could still begin a character, up to the one that cannot
follow.
-/

namespace SvgDrawing.Text

/-- The bytes that may follow a leading byte, one range for each; `none` if no character
begins with it. -/
def following (leading : UInt8) : Option (List (UInt8 × UInt8)) :=
  let any : UInt8 × UInt8 := (0x80, 0xBF)
  if leading < 0x80 then some []
  else if leading < 0xC2 then none
  else if leading < 0xE0 then some [any]
  else if leading = 0xE0 then some [(0xA0, 0xBF), any]
  else if leading = 0xED then some [(0x80, 0x9F), any]
  else if leading < 0xF0 then some [any, any]
  else if leading = 0xF0 then some [(0x90, 0xBF), any, any]
  else if leading < 0xF4 then some [any, any, any]
  else if leading = 0xF4 then some [(0x80, 0x8F), any, any]
  else none

/-- The fault in the bytes after a leading byte and the number of bytes up to it, of which
`taken` are before these; no fault if all ranges are met. -/
def faultAfter (taken : Nat) : List (UInt8 × UInt8) → List UInt8 → Option (DecodingFault × Nat)
  | [], _ => none
  | _ :: _, [] => some (.unexpectedEnd, taken)
  | (low, high) :: ranges, b :: rest =>
    if low ≤ b ∧ b ≤ high then faultAfter (taken + 1) ranges rest
    else some (.invalidContinuation, taken)

/-- The first fault in bytes that begin at a position.  `skip` bytes belong to a character
that is known to be complete. -/
def firstFault? (position skip : Nat) : List UInt8 → Option DecodingError
  | [] => none
  | b :: rest =>
    match skip with
    | skip + 1 => firstFault? (position + 1) skip rest
    | 0 =>
      match following b with
      | none => some ⟨b, position, 1, .invalidStart⟩
      | some ranges =>
        match faultAfter 1 ranges rest with
        | some (fault, count) => some ⟨b, position, count, fault⟩
        | none => firstFault? (position + 1) ranges.length rest

/-- Bytes as text, or their first fault. -/
def decode (bytes : ByteArray) : Except DecodingError String :=
  match firstFault? 0 0 bytes.toList with
  | some e => .error e
  | none => .ok ((String.fromUTF8? bytes).getD "")

/-- Bytes as text in which every kind of line end is a line feed. -/
def decodeLines (bytes : ByteArray) : Except DecodingError String :=
  (decode bytes).map fun s => String.ofList (normalizeLineEnds s.toList)

end SvgDrawing.Text
