/-!
# SHA-256

The digest of a message of bytes: the message is padded to blocks of 64 bytes, and every block is
mixed into a state of eight words in 64 rounds. The digest is the last state, 32 bytes long.
-/

namespace QuizFeed.Digest

/-- The words that the rounds add, one for each round. -/
def roundWords : List UInt32 :=
  [0x428A2F98, 0x71374491, 0xB5C0FBCF, 0xE9B5DBA5, 0x3956C25B, 0x59F111F1, 0x923F82A4, 0xAB1C5ED5,
    0xD807AA98, 0x12835B01, 0x243185BE, 0x550C7DC3, 0x72BE5D74, 0x80DEB1FE, 0x9BDC06A7, 0xC19BF174,
    0xE49B69C1, 0xEFBE4786, 0x0FC19DC6, 0x240CA1CC, 0x2DE92C6F, 0x4A7484AA, 0x5CB0A9DC, 0x76F988DA,
    0x983E5152, 0xA831C66D, 0xB00327C8, 0xBF597FC7, 0xC6E00BF3, 0xD5A79147, 0x06CA6351, 0x14292967,
    0x27B70A85, 0x2E1B2138, 0x4D2C6DFC, 0x53380D13, 0x650A7354, 0x766A0ABB, 0x81C2C92E, 0x92722C85,
    0xA2BFE8A1, 0xA81A664B, 0xC24B8B70, 0xC76C51A3, 0xD192E819, 0xD6990624, 0xF40E3585, 0x106AA070,
    0x19A4C116, 0x1E376C08, 0x2748774C, 0x34B0BCB5, 0x391C0CB3, 0x4ED8AA4A, 0x5B9CCA4F, 0x682E6FF3,
    0x748F82EE, 0x78A5636F, 0x84C87814, 0x8CC70208, 0x90BEFFFA, 0xA4506CEB, 0xBEF9A3F7, 0xC67178F2]

/-- The eight words that blocks are mixed into. -/
structure State where
  a : UInt32
  b : UInt32
  c : UInt32
  d : UInt32
  e : UInt32
  f : UInt32
  g : UInt32
  h : UInt32

namespace State

/-- The state before the first block. -/
def initial : State :=
  ⟨0x6A09E667, 0xBB67AE85, 0x3C6EF372, 0xA54FF53A, 0x510E527F, 0x9B05688C, 0x1F83D9AB, 0x5BE0CD19⟩

/-- The words of a state. -/
def words (state : State) : List UInt32 :=
  [state.a, state.b, state.c, state.d, state.e, state.f, state.g, state.h]

/-- The sums of the words of two states. -/
def add (left right : State) : State :=
  ⟨left.a + right.a, left.b + right.b, left.c + right.c, left.d + right.d,
    left.e + right.e, left.f + right.f, left.g + right.g, left.h + right.h⟩

end State

/-- Turns the bits of a word to the right. -/
def turn (word : UInt32) (count : UInt32) : UInt32 :=
  (word >>> count) ||| (word <<< (32 - count))

/-- One round, with the word that it adds and the word of the message. -/
def round (state : State) (words : UInt32 × UInt32) : State :=
  let wide := turn state.e 6 ^^^ turn state.e 11 ^^^ turn state.e 25
  let choice := (state.e &&& state.f) ^^^ (~~~state.e &&& state.g)
  let first := state.h + wide + choice + words.1 + words.2
  let narrow := turn state.a 2 ^^^ turn state.a 13 ^^^ turn state.a 22
  let majority := (state.a &&& state.b) ^^^ (state.a &&& state.c) ^^^ (state.b &&& state.c)
  { a := first + narrow + majority
    b := state.a
    c := state.b
    d := state.c
    e := state.d + first
    f := state.e
    g := state.f
    h := state.g }

/-- Adds words to a schedule, which is kept in reverse: each is made of four earlier ones. -/
def extendSchedule : Nat → List UInt32 → List UInt32
  | 0, schedule => schedule
  | count + 1, schedule =>
    let word (back : Nat) := schedule.getD (back - 1) 0
    let left := turn (word 15) 7 ^^^ turn (word 15) 18 ^^^ (word 15 >>> 3)
    let right := turn (word 2) 17 ^^^ turn (word 2) 19 ^^^ (word 2 >>> 10)
    extendSchedule count ((word 16 + left + word 7 + right) :: schedule)

/-- The word of four bytes. -/
def wordOf : List UInt8 → UInt32 :=
  List.foldl (fun word byte => word <<< 8 ||| byte.toUInt32) 0

/-- The first `count` pieces of four bytes as words. -/
def wordsOf : Nat → List UInt8 → List UInt32
  | 0, _ => []
  | count + 1, bytes => wordOf (bytes.take 4) :: wordsOf count (bytes.drop 4)

/-- Mixes the block that a message starts with into a state. -/
def mixBlock (state : State) (message : List UInt8) : State :=
  let schedule := (extendSchedule 48 (wordsOf 16 message).reverse).reverse
  state.add ((roundWords.zip schedule).foldl round state)

/-- Mixes blocks of 64 bytes into a state. -/
def mixBlocks : Nat → State → List UInt8 → State
  | 0, state, _ => state
  | count + 1, state, message => mixBlocks count (mixBlock state message) (message.drop 64)

/-- The bytes of a number, the highest first. -/
def bytesOf (count number : Nat) : List UInt8 :=
  (List.range count).reverse.map fun place => UInt8.ofNat (number / Nat.pow 256 place)

/-- A message with a one bit, zeros, and its length in bits behind it. -/
def pad (message : List UInt8) : List UInt8 :=
  let zeros := (119 - message.length % 64) % 64
  message ++ 0x80 :: List.replicate zeros 0 ++ bytesOf 8 (8 * message.length)

/-- The digest of a message. -/
def sha256 (message : List UInt8) : List UInt8 :=
  let padded := pad message
  (mixBlocks (padded.length / 64) State.initial padded).words.flatMap
    fun word => bytesOf 4 word.toNat

end QuizFeed.Digest
