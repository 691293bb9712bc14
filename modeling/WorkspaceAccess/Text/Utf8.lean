/-!
# Reading UTF-8

Bytes are read as characters, and where they are no UTF-8 one replacement character stands for as
many bytes as could still begin a character. So no sequence of bytes is refused, and every character
takes at least one byte.

The cases follow the encoding: one byte below 128, or a first byte that says how many bytes follow,
of which the second may be restricted further so that no character is written in two ways and no
half of a surrogate pair is written at all. A byte that cannot go on with a character is looked at
again as a first byte, after the replacement.
-/

namespace WorkspaceAccess.Text

/-- What stands for bytes that write no character. -/
def replacement : Char := '\ufffd'

/-- The byte continues a character. -/
def isContinuation (b : UInt8) : Bool := 0x80 ≤ b && b ≤ 0xBF

/-- The second byte may follow the first one of a character of three bytes. Not all may: some would
write a shorter character, others half of a surrogate pair. -/
def beginsThree (a b : UInt8) : Bool :=
  (a == 0xE0 && 0xA0 ≤ b && b ≤ 0xBF) || (0xE1 ≤ a && a ≤ 0xEC && isContinuation b) ||
    (a == 0xED && 0x80 ≤ b && b ≤ 0x9F) || (0xEE ≤ a && a ≤ 0xEF && isContinuation b)

/-- The second byte may follow the first one of a character of four bytes, without going beyond the
last character. -/
def beginsFour (a b : UInt8) : Bool :=
  (a == 0xF0 && 0x90 ≤ b && b ≤ 0xBF) || (0xF1 ≤ a && a ≤ 0xF3 && isContinuation b) ||
    (a == 0xF4 && 0x80 ≤ b && b ≤ 0x8F)

/-- The character whose bits are those of the first byte below `bound`, and six of each byte that
continues it. -/
def assemble (bound : Nat) (a : UInt8) (continuation : List UInt8) : Char :=
  Char.ofNat (continuation.foldl (fun n b => n * 64 + b.toNat % 64) (a.toNat % bound))

/-- The characters that bytes write, with a replacement for every stretch that writes none. -/
def charsOfBytes : List UInt8 → List Char
  | [] => []
  | a :: rest =>
    if a < 0x80 then Char.ofNat a.toNat :: charsOfBytes rest
    else match rest with
      | [] => [replacement]
      | b :: rest =>
        if 0xC2 ≤ a ∧ a ≤ 0xDF ∧ isContinuation b then assemble 32 a [b] :: charsOfBytes rest
        else if beginsThree a b then
          match rest with
          | [] => [replacement]
          | c :: rest =>
            if isContinuation c then assemble 16 a [b, c] :: charsOfBytes rest
            else replacement :: charsOfBytes (c :: rest)
        else if beginsFour a b then
          match rest with
          | [] => [replacement]
          | c :: rest =>
            if isContinuation c then
              match rest with
              | [] => [replacement]
              | d :: rest =>
                if isContinuation d then assemble 8 a [b, c, d] :: charsOfBytes rest
                else replacement :: charsOfBytes (d :: rest)
            else replacement :: charsOfBytes (c :: rest)
        else replacement :: charsOfBytes (b :: rest)
termination_by bytes => bytes.length

example : charsOfBytes [0x61, 0xE2, 0x82, 0xAC] = ['a', '€'] := by decide +kernel
example : charsOfBytes [0xED, 0xA0, 0x80] = [replacement, replacement, replacement] := by
  decide +kernel
example : charsOfBytes [0xF0, 0x9F, 0x98, 0x28] = [replacement, '('] := by decide +kernel

end WorkspaceAccess.Text
