/-!
# UTF-8

Decoding of bytes into characters, which tells where the first bad byte is.
-/

namespace Brickwork.Text

/-- Whether a byte goes on with a character that an earlier byte started. -/
def isContinuation (b : UInt8) : Bool :=
  0x80 ≤ b && b < 0xc0

/-- Six more bits of a code point. -/
def sixMore (code : Nat) (b : UInt8) : Nat :=
  code * 64 + (b.toNat - 0x80)

/-- Decodes bytes that start `offset` bytes into a text. The error is the offset of the first byte
of the first bad sequence: no overlong form, no surrogate and nothing above U+10FFFF is accepted. -/
def decodeFrom (offset : Nat) : List UInt8 → Except Nat (List Char)
  | [] => .ok []
  | a :: rest =>
    if a < 0x80 then (decodeFrom (offset + 1) rest).map (Char.ofNat a.toNat :: ·)
    else if a < 0xc2 then .error offset
    else if a < 0xe0 then
      match rest with
      | b :: rest =>
        if isContinuation b then
          (decodeFrom (offset + 2) rest).map (Char.ofNat (sixMore (a.toNat - 0xc0) b) :: ·)
        else .error offset
      | _ => .error offset
    else if a < 0xf0 then
      match rest with
      | b :: c :: rest =>
        let code := sixMore (sixMore (a.toNat - 0xe0) b) c
        if isContinuation b && isContinuation c && 0x800 ≤ code && (code < 0xd800 || 0xe000 ≤ code)
        then (decodeFrom (offset + 3) rest).map (Char.ofNat code :: ·)
        else .error offset
      | _ => .error offset
    else
      match rest with
      | b :: c :: d :: rest =>
        let code := sixMore (sixMore (sixMore (a.toNat - 0xf0) b) c) d
        if a < 0xf5 && isContinuation b && isContinuation c && isContinuation d
            && 0x10000 ≤ code && code < 0x110000
        then (decodeFrom (offset + 4) rest).map (Char.ofNat code :: ·)
        else .error offset
      | _ => .error offset

/-- The text that the bytes spell, or the offset of the first bad byte. -/
def decode (bytes : List UInt8) : Except Nat String :=
  (decodeFrom 0 bytes).map String.ofList

/-- The bytes that spell a text. -/
def encode (text : String) : List UInt8 :=
  text.toList.flatMap String.utf8EncodeChar

end Brickwork.Text
