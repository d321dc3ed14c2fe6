/-
  Realm.Random.ChaCha — the ChaCha keystream with eight rounds, as a stream of random words.

  A block mixes sixteen words: four constants, the key, a block counter of two words and two words that
  stay zero.  Mixing is four columns and then four diagonals at a time.
-/
namespace Realm.ChaCha

/-- Sixteen words on their way through the rounds. -/
abbrev Block : Type := Vector UInt32 16

/-- Bits moved to the left and around. -/
def rotate (w : UInt32) (n : UInt32) : UInt32 := (w <<< n) ||| (w >>> (32 - n))

/-- Mixes four words of a block. -/
def quarterRound (b : Block) (i j k l : Fin 16) : Block :=
  let half (b : Block) (x y z : Fin 16) (n : UInt32) : Block :=
    let b := b.set x (b[x] + b[y])
    b.set z (rotate (b[z] ^^^ b[x]) n)
  half (half (half (half b i j l 16) k l j 12) i j l 8) k l j 7

/-- A round over the columns and a round over the diagonals. -/
def doubleRound (b : Block) : Block :=
  let b := quarterRound b 0 4 8 12
  let b := quarterRound b 1 5 9 13
  let b := quarterRound b 2 6 10 14
  let b := quarterRound b 3 7 11 15
  let b := quarterRound b 0 5 10 15
  let b := quarterRound b 1 6 11 12
  let b := quarterRound b 2 7 8 13
  quarterRound b 3 4 9 14

/-- Eight words that a stream depends on. -/
abbrev Key : Type := Vector UInt32 8

/-- The block of a key with a number, before mixing. -/
def seedBlock (key : Key) (n : Nat) : Block :=
  let constants : Vector UInt32 4 := #v[0x61707865, 0x3320646e, 0x79622d32, 0x6b206574]
  let counter : Vector UInt32 4 := #v[UInt32.ofNat n, UInt32.ofNat (n / UInt32.size), 0, 0]
  constants ++ key ++ counter

/-- The block of a key with a number. -/
def block (key : Key) (n : Nat) : Block :=
  let b := seedBlock key n
  let mixed := doubleRound (doubleRound (doubleRound (doubleRound b)))
  Vector.zipWith (· + ·) mixed b

/-- The word of a key's stream with a number. -/
def word (key : Key) (n : Nat) : UInt32 :=
  (block key (n / 16)).get ⟨n % 16, Nat.mod_lt n (by decide)⟩

/-! ## Keys from seeds. -/

/-- The next state of the generator that stretches a seed. -/
def stretch (s : UInt64) : UInt64 := s * 6364136223846793005 + 11634580027462260723

/-- The word that a state of that generator gives. -/
def scramble (s : UInt64) : UInt32 :=
  let x := (((s >>> 18) ^^^ s) >>> 27).toUInt32
  let n := (s >>> 59).toUInt32
  (x >>> n) ||| (x <<< ((32 - n) % 32))

/-- The state after a number of steps. -/
def stretched (s : UInt64) : Nat → UInt64
  | 0 => s
  | n + 1 => stretch (stretched s n)

/-- The key that a seed stands for. -/
def keyOf (seed : UInt64) : Key := Vector.ofFn fun i : Fin 8 => scramble (stretched seed (i + 1))

end Realm.ChaCha
