/-!
# Code blocks

A transport block and its checksum are cut into equal code blocks that fit the turbo coder
(3GPP TS 36.212, 5.1.2). A block that fits is not cut, and then carries no checksum of its own.
-/

namespace LteReceiver

/-- The largest code block of the turbo coder, in bits. -/
def maxCodeBlock : Nat := 6144

/-- Bits of a checksum, of a transport block or of a code block. -/
def checksumBits : Nat := 24

/-- The quotient rounded up. -/
def ceilDiv (n d : Nat) : Nat :=
  (n + d - 1) / d

/-- The division of a transport block into code blocks. -/
structure CodeBlocks where
  /-- Transport block size in bits. -/
  tbs : Nat
  count : Nat
  /-- Bits of one code block, checksums included. -/
  size : Nat
deriving DecidableEq, Repr

namespace CodeBlocks

/-- No transport block. -/
def empty : CodeBlocks := ⟨0, 0, 0⟩

instance : Inhabited CodeBlocks := ⟨empty⟩

/-- The division of a transport block of a given size; there is none for size zero. -/
def ofTbs (tbs : Nat) : CodeBlocks :=
  if tbs = 0 then empty
  else
    let bits := tbs + checksumBits
    if bits ≤ maxCodeBlock then ⟨tbs, 1, bits⟩
    else
      let count := ceilDiv bits (maxCodeBlock - checksumBits)
      ⟨tbs, count, ceilDiv (bits + count * checksumBits) count⟩

/-- Soft bits kept for one code block: three coded streams with their tails. -/
def softBits (blocks : CodeBlocks) : Nat :=
  3 * blocks.size + 12

end CodeBlocks

end LteReceiver
