import SoundChange.Random.Draws

/-!
The stream of random words that a seed determines: the key stream of ChaCha with twelve rounds,
under a key that is derived from the seed. Blocks are numbered from zero, and each has sixteen
words. The stream repeats after all block numbers of sixty-four bits, so it ends there.
-/
namespace SoundChange.Random

/-- Sixteen words. -/
abbrev Block : Type := Vector UInt32 16

namespace Block

/-- Rotates a word to the left. -/
def rotate (word : UInt32) (amount : UInt32) : UInt32 :=
  (word <<< amount) ||| (word >>> (32 - amount))

/-- One quarter round on four words of a block. -/
def quarterRound (s : Block) (a b c d : Fin 16) : Block :=
  let s := s.set a (s[a] + s[b])
  let s := s.set d (rotate (s[d] ^^^ s[a]) 16)
  let s := s.set c (s[c] + s[d])
  let s := s.set b (rotate (s[b] ^^^ s[c]) 12)
  let s := s.set a (s[a] + s[b])
  let s := s.set d (rotate (s[d] ^^^ s[a]) 8)
  let s := s.set c (s[c] + s[d])
  s.set b (rotate (s[b] ^^^ s[c]) 7)

/-- A round down the columns and a round along the diagonals. -/
def doubleRound (s : Block) : Block :=
  let s := s.quarterRound 0 4 8 12
  let s := s.quarterRound 1 5 9 13
  let s := s.quarterRound 2 6 10 14
  let s := s.quarterRound 3 7 11 15
  let s := s.quarterRound 0 5 10 15
  let s := s.quarterRound 1 6 11 12
  let s := s.quarterRound 2 7 8 13
  s.quarterRound 3 4 9 14

def doubleRounds : Nat → Block → Block
  | 0, s => s
  | n + 1, s => doubleRounds n s.doubleRound

/-- The block before any round: four constants, the key, the block number, and no nonce. -/
def initial (key : Vector UInt32 8) (number : UInt64) : Block :=
  #v[0x61707865, 0x3320646e, 0x79622d32, 0x6b206574,
    key[0], key[1], key[2], key[3], key[4], key[5], key[6], key[7],
    number.toUInt32, (number >>> 32).toUInt32, 0, 0]

end Block

/-- A block of the key stream. -/
def keyBlock (key : Vector UInt32 8) (number : Nat) : List UInt32 :=
  let start := Block.initial key number.toUInt64
  (start.zipWith (· + ·) (Block.doubleRounds 6 start)).toList

/-- The next state of the generator that spreads a seed over a key. -/
def spreadStep (state : UInt64) : UInt64 :=
  state * 6364136223846793005 + 11634580027462260723

/-- The word that the generator gives in a state. -/
def spreadWord (state : UInt64) : UInt32 :=
  let mixed := (((state >>> 18) ^^^ state) >>> 27).toUInt32
  let amount := (state >>> 59).toUInt32
  (mixed >>> amount) ||| (mixed <<< ((32 - amount) % 32))

/-- The key of a seed: eight words, the state moving on before each of them. -/
def keyOfSeed (seed : UInt64) : Vector UInt32 8 :=
  let a := spreadStep seed
  let b := spreadStep a
  let c := spreadStep b
  let d := spreadStep c
  let e := spreadStep d
  let f := spreadStep e
  let g := spreadStep f
  let h := spreadStep g
  #v[spreadWord a, spreadWord b, spreadWord c, spreadWord d, spreadWord e, spreadWord f,
    spreadWord g, spreadWord h]

/-- The number of blocks after which a key stream repeats. -/
def streamBlocks : Nat := Nat.pow 2 64

/-- The draws of a seed. -/
def Draws.ofSeed (seed : UInt64) : Draws :=
  ⟨keyBlock (keyOfSeed seed), 0, streamBlocks, []⟩

end SoundChange.Random
