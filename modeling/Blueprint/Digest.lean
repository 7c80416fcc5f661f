/-!
# Digests

The SHA-256 digest of a text, in lower-case hexadecimal.  The message is padded
to whole blocks of 64 bytes; each block is expanded to 64 words and mixed into a
state of eight words.
-/

namespace Blueprint.Digest

/-- The eight words that are mixed. -/
structure State where
  a : UInt32
  b : UInt32
  c : UInt32
  d : UInt32
  e : UInt32
  f : UInt32
  g : UInt32
  h : UInt32

/-- The state before the first block. -/
def initial : State :=
  ⟨0x6a09e667, 0xbb67ae85, 0x3c6ef372, 0xa54ff53a, 0x510e527f, 0x9b05688c, 0x1f83d9ab, 0x5be0cd19⟩

/-- The constants of the 64 rounds. -/
def roundConstants : List UInt32 :=
  [0x428a2f98, 0x71374491, 0xb5c0fbcf, 0xe9b5dba5, 0x3956c25b, 0x59f111f1, 0x923f82a4, 0xab1c5ed5,
   0xd807aa98, 0x12835b01, 0x243185be, 0x550c7dc3, 0x72be5d74, 0x80deb1fe, 0x9bdc06a7, 0xc19bf174,
   0xe49b69c1, 0xefbe4786, 0x0fc19dc6, 0x240ca1cc, 0x2de92c6f, 0x4a7484aa, 0x5cb0a9dc, 0x76f988da,
   0x983e5152, 0xa831c66d, 0xb00327c8, 0xbf597fc7, 0xc6e00bf3, 0xd5a79147, 0x06ca6351, 0x14292967,
   0x27b70a85, 0x2e1b2138, 0x4d2c6dfc, 0x53380d13, 0x650a7354, 0x766a0abb, 0x81c2c92e, 0x92722c85,
   0xa2bfe8a1, 0xa81a664b, 0xc24b8b70, 0xc76c51a3, 0xd192e819, 0xd6990624, 0xf40e3585, 0x106aa070,
   0x19a4c116, 0x1e376c08, 0x2748774c, 0x34b0bcb5, 0x391c0cb3, 0x4ed8aa4a, 0x5b9cca4f, 0x682e6ff3,
   0x748f82ee, 0x78a5636f, 0x84c87814, 0x8cc70208, 0x90befffa, 0xa4506ceb, 0xbef9a3f7, 0xc67178f2]

/-- Rotate a word to the right. -/
def rotate (word amount : UInt32) : UInt32 :=
  (word >>> amount) ||| (word <<< (32 - amount))

/-- A number as bytes, most significant first. -/
def bigEndian (count value : Nat) : List UInt8 :=
  (List.range count).map fun index => UInt8.ofNat (value / Nat.pow 256 (count - 1 - index))

/-- The message, a one bit, zeros and the length in bits, filling whole blocks. -/
def padded (message : List UInt8) : List UInt8 :=
  let zeros := (119 - message.length % 64) % 64
  message ++ 0x80 :: List.replicate zeros 0 ++ bigEndian 8 (8 * message.length)

/-- Big-endian words of four bytes; a rest of fewer bytes is dropped. -/
def words : List UInt8 → List UInt32
  | a :: b :: c :: d :: rest =>
      ((a.toUInt32 <<< 24) ||| (b.toUInt32 <<< 16) ||| (c.toUInt32 <<< 8) ||| d.toUInt32) ::
        words rest
  | _ => []

/-- Blocks of 16 words; a rest of fewer words is dropped.  There are at most
`limit` blocks. -/
def blocks : (limit : Nat) → List UInt32 → List (List UInt32)
  | 0, _ => []
  | limit + 1, stream =>
      if stream.length < 16 then [] else stream.take 16 :: blocks limit (stream.drop 16)

/-- The next word of a schedule, whose words so far are listed last first. -/
def scheduled (earlier : List UInt32) : UInt32 :=
  let back (distance : Nat) : UInt32 := earlier.getD (distance - 1) 0
  let near := back 2
  let far := back 15
  let mixNear := rotate near 17 ^^^ rotate near 19 ^^^ (near >>> 10)
  let mixFar := rotate far 7 ^^^ rotate far 18 ^^^ (far >>> 3)
  back 16 + mixFar + back 7 + mixNear

/-- The words of the 64 rounds of a block. -/
def schedule (block : List UInt32) : List UInt32 :=
  ((List.range 48).foldl (fun earlier _ => scheduled earlier :: earlier) block.reverse).reverse

/-- One round. -/
def mixRound (state : State) (round : UInt32 × UInt32) : State :=
  let choice := (state.e &&& state.f) ^^^ ((~~~state.e) &&& state.g)
  let majority := (state.a &&& state.b) ^^^ (state.a &&& state.c) ^^^ (state.b &&& state.c)
  let spreadE := rotate state.e 6 ^^^ rotate state.e 11 ^^^ rotate state.e 25
  let spreadA := rotate state.a 2 ^^^ rotate state.a 13 ^^^ rotate state.a 22
  let first := state.h + spreadE + choice + round.1 + round.2
  let second := spreadA + majority
  ⟨first + second, state.a, state.b, state.c, state.d + first, state.e, state.f, state.g⟩

/-- Mix a block into a state. -/
def mixBlock (state : State) (block : List UInt32) : State :=
  let mixed := (roundConstants.zip (schedule block)).foldl mixRound state
  ⟨state.a + mixed.a, state.b + mixed.b, state.c + mixed.c, state.d + mixed.d,
    state.e + mixed.e, state.f + mixed.f, state.g + mixed.g, state.h + mixed.h⟩

/-- A word as eight hexadecimal digits. -/
def hexWord (word : UInt32) : List Char :=
  (List.range 8).map fun index => Nat.digitChar (word.toNat / Nat.pow 16 (7 - index) % 16)

/-- The digest of a message. -/
def ofBytes (message : List UInt8) : String :=
  let stream := words (padded message)
  let state := (blocks stream.length stream).foldl mixBlock initial
  String.ofList
    ([state.a, state.b, state.c, state.d, state.e, state.f, state.g, state.h].flatMap hexWord)

/-- The digest of the UTF-8 form of a text. -/
def ofText (text : String) : String :=
  ofBytes text.toUTF8.toList

-- Of digests of all texts only that equal texts have equal ones is used; others are computed on
-- given texts.
attribute [irreducible] ofText

end Blueprint.Digest
