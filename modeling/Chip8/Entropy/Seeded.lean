import Chip8.Entropy

/-! Random bytes from a seed: a key is spread out of the seed, and the bytes are the low bytes of
the words of the ChaCha stream of that key, with twelve rounds. -/

namespace Chip8.Entropy

/-- Rotates to the right by the low five bits of an amount. -/
def rotateRight (w : UInt32) (amount : UInt32) : UInt32 := w >>> amount ||| w <<< (32 - amount)

/-- Rotates to the left. -/
def rotateLeft (w : UInt32) (amount : UInt32) : UInt32 := w <<< amount ||| w >>> (32 - amount)

/-! ### The key of a seed -/

/-- One step of the generator that spreads a seed. -/
def spreadStep (state : UInt64) : UInt64 := state * 6364136223846793005 + 11634580027462260723

/-- The word that a state gives: its high bits mixed, then turned by its top five bits. -/
def spreadWord (state : UInt64) : UInt32 :=
  rotateRight (((state >>> 18 ^^^ state) >>> 27).toUInt32) (state >>> 59).toUInt32

def spread : Nat → UInt64 → List UInt32
  | 0, _ => []
  | n + 1, state => spreadWord (spreadStep state) :: spread n (spreadStep state)

/-- Eight words. -/
def keyOfSeed (seed : UInt64) : List UInt32 := spread 8 seed

/-! ### The stream of a key -/

abbrev Block := Vector UInt32 16

def quarterRound (s : Block) (a b c d : Fin 16) : Block :=
  let s := s.set a (s[a] + s[b])
  let s := s.set d (rotateLeft (s[d] ^^^ s[a]) 16)
  let s := s.set c (s[c] + s[d])
  let s := s.set b (rotateLeft (s[b] ^^^ s[c]) 12)
  let s := s.set a (s[a] + s[b])
  let s := s.set d (rotateLeft (s[d] ^^^ s[a]) 8)
  let s := s.set c (s[c] + s[d])
  s.set b (rotateLeft (s[b] ^^^ s[c]) 7)

/-- The four columns, then the four diagonals. -/
def doubleRound (s : Block) : Block :=
  let s := quarterRound s 0 4 8 12
  let s := quarterRound s 1 5 9 13
  let s := quarterRound s 2 6 10 14
  let s := quarterRound s 3 7 11 15
  let s := quarterRound s 0 5 10 15
  let s := quarterRound s 1 6 11 12
  let s := quarterRound s 2 7 8 13
  quarterRound s 3 4 9 14

def rounds : Nat → Block → Block
  | 0, s => s
  | n + 1, s => rounds n (doubleRound s)

/-- Four constants, the key, the number of the block, and zeros. -/
def initialBlock (key : List UInt32) (number : UInt64) : Block :=
  let k (i : Nat) := key.getD i 0
  #v[0x61707865, 0x3320646e, 0x79622d32, 0x6b206574,
    k 0, k 1, k 2, k 3, k 4, k 5, k 6, k 7,
    number.toUInt32, (number >>> 32).toUInt32, 0, 0]

/-- A block of the stream: six double rounds, added to what they began with. -/
def streamBlock (key : List UInt32) (number : UInt64) : Block :=
  let start := initialBlock key number
  (rounds 6 start).zipWith (· + ·) start

/-- A byte is the low byte of a word of the stream. -/
def seeded (seed : UInt64) : Entropy :=
  let key := keyOfSeed seed
  ofBatches fun n => (streamBlock key (UInt64.ofNat n)).toList.map UInt32.toUInt8

end Chip8.Entropy
