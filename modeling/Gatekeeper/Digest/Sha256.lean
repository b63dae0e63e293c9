/-
This file holds the SHA-256 digest of a list of bytes. The message schedule is never written out: a
round needs only the sixteen words before it, so the rounds slide a window of sixteen words along.
-/

namespace Gatekeeper

namespace Sha256

/-! ### Words -/

def rotateRight (word : UInt32) (amount : UInt32) : UInt32 :=
  (word >>> amount) ||| (word <<< (32 - amount))

/-- The word of four bytes, the first one highest; missing bytes are zero. -/
def wordOfBytes (bytes : List UInt8) : UInt32 :=
  bytes.foldl (fun word byte => word <<< 8 ||| byte.toUInt32) 0

/-- The four bytes of a word, the highest first. -/
def bytesOfWord (word : UInt32) : List UInt8 :=
  [(word >>> 24).toUInt8, (word >>> 16).toUInt8, (word >>> 8).toUInt8, word.toUInt8]

/-! ### Compression -/

/-- The eight words of the running state. -/
structure Registers where
  a : UInt32
  b : UInt32
  c : UInt32
  d : UInt32
  e : UInt32
  f : UInt32
  g : UInt32
  h : UInt32

/-- The fractional parts of the square roots of the first eight primes. -/
def initial : Registers where
  a := 0x6a09e667
  b := 0xbb67ae85
  c := 0x3c6ef372
  d := 0xa54ff53a
  e := 0x510e527f
  f := 0x9b05688c
  g := 0x1f83d9ab
  h := 0x5be0cd19

/-- The fractional parts of the cube roots of the first sixty-four primes, one for each round. -/
def roundConstants : List UInt32 :=
  [0x428a2f98, 0x71374491, 0xb5c0fbcf, 0xe9b5dba5, 0x3956c25b, 0x59f111f1, 0x923f82a4, 0xab1c5ed5,
    0xd807aa98, 0x12835b01, 0x243185be, 0x550c7dc3, 0x72be5d74, 0x80deb1fe, 0x9bdc06a7, 0xc19bf174,
    0xe49b69c1, 0xefbe4786, 0x0fc19dc6, 0x240ca1cc, 0x2de92c6f, 0x4a7484aa, 0x5cb0a9dc, 0x76f988da,
    0x983e5152, 0xa831c66d, 0xb00327c8, 0xbf597fc7, 0xc6e00bf3, 0xd5a79147, 0x06ca6351, 0x14292967,
    0x27b70a85, 0x2e1b2138, 0x4d2c6dfc, 0x53380d13, 0x650a7354, 0x766a0abb, 0x81c2c92e, 0x92722c85,
    0xa2bfe8a1, 0xa81a664b, 0xc24b8b70, 0xc76c51a3, 0xd192e819, 0xd6990624, 0xf40e3585, 0x106aa070,
    0x19a4c116, 0x1e376c08, 0x2748774c, 0x34b0bcb5, 0x391c0cb3, 0x4ed8aa4a, 0x5b9cca4f, 0x682e6ff3,
    0x748f82ee, 0x78a5636f, 0x84c87814, 0x8cc70208, 0x90befffa, 0xa4506ceb, 0xbef9a3f7, 0xc67178f2]

namespace Registers

/-- One round with its constant and its word of the schedule. -/
def round (registers : Registers) (constant word : UInt32) : Registers :=
  let ⟨a, b, c, d, e, f, g, h⟩ := registers
  let mixE := rotateRight e 6 ^^^ rotateRight e 11 ^^^ rotateRight e 25
  let choice := (e &&& f) ^^^ ((~~~e) &&& g)
  let first := h + mixE + choice + constant + word
  let mixA := rotateRight a 2 ^^^ rotateRight a 13 ^^^ rotateRight a 22
  let majority := (a &&& b) ^^^ (a &&& c) ^^^ (b &&& c)
  ⟨first + mixA + majority, a, b, c, d + first, e, f, g⟩

def add (first second : Registers) : Registers :=
  ⟨first.a + second.a, first.b + second.b, first.c + second.c, first.d + second.d,
    first.e + second.e, first.f + second.f, first.g + second.g, first.h + second.h⟩

def words (registers : Registers) : List UInt32 :=
  [registers.a, registers.b, registers.c, registers.d,
    registers.e, registers.f, registers.g, registers.h]

end Registers

/-- The word that enters the window when its first one leaves. -/
def nextWord (window : List UInt32) : UInt32 :=
  let early := window.getD 1 0
  let late := window.getD 14 0
  let mixEarly := rotateRight early 7 ^^^ rotateRight early 18 ^^^ (early >>> 3)
  let mixLate := rotateRight late 17 ^^^ rotateRight late 19 ^^^ (late >>> 10)
  window.headD 0 + mixEarly + window.getD 9 0 + mixLate

/-- The state after a block of sixteen words. -/
def compress (registers : Registers) (block : List UInt32) : Registers :=
  let step := fun (state : Registers × List UInt32) constant =>
    (state.1.round constant (state.2.headD 0), state.2.tail ++ [nextWord state.2])
  registers.add (roundConstants.foldl step (registers, block)).1

/-! ### Messages -/

/-- The first `count` groups of `width` elements. -/
def groups {α : Type} (width : Nat) : Nat → List α → List (List α)
  | 0, _ => []
  | count + 1, elements => elements.take width :: groups width count (elements.drop width)

/-- The message, a one bit, zeros up to eight bytes short of a whole block, and the length of the
message in bits. -/
def padded (message : List UInt8) : List UInt8 :=
  let length := message.length
  let zeros := (119 - length % 64) % 64
  let bits := length * 8
  message ++ 0x80 :: List.replicate zeros 0 ++
    bytesOfWord (UInt32.ofNat (bits / 0x100000000)) ++ bytesOfWord (UInt32.ofNat bits)

/-- The digest of a message: thirty-two bytes. -/
def digest (message : List UInt8) : List UInt8 :=
  let bytes := padded message
  let words := (groups 4 (bytes.length / 4) bytes).map wordOfBytes
  let blocks := groups 16 (words.length / 16) words
  (blocks.foldl compress initial).words.flatMap bytesOfWord

/-- A digest has thirty-two bytes. -/
theorem length_digest (message : List UInt8) : (digest message).length = 32 := rfl

end Sha256

end Gatekeeper
