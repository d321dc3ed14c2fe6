/-
  Realm.Random.Dice — dice whose throws depend on a seed and on how many words were drawn before.
-/
import Realm.Random.ChaCha

namespace Realm

/-- A stream of random words, and how many of them have been drawn. -/
structure Dice where
  key : ChaCha.Key
  drawn : Nat := 0
deriving Repr, DecidableEq

namespace Dice

def ofSeed (seed : UInt64) : Dice := { key := ChaCha.keyOf seed }

/-- Two words, the low one first. -/
def draw (d : Dice) : UInt64 × Dice :=
  let low := ChaCha.word d.key d.drawn
  let high := ChaCha.word d.key (d.drawn + 1)
  (low.toUInt64 ||| (high.toUInt64 <<< 32), { d with drawn := d.drawn + 2 })

/-- The gap between one and the next number. -/
def epsilon : Float := 1 / 4503599627370496

/-- A number from the gap up to below one, on a grid of `2 ^ -52`. -/
def positiveUnit (n : UInt64) : Float :=
  ((n >>> 12).toFloat / 4503599627370496) * (1 - epsilon) + epsilon

/-- A number from zero up to below one, on a grid of `2 ^ -53`. -/
def unit (n : UInt64) : Float := (n >>> 11).toFloat / 9007199254740992

/-- A value between two numbers. -/
def between (low high x : Float) : Float := if x < low then low else if high < x then high else x

/-- The circle constant. -/
def pi : Float := 3.14159265358979323846

/-- **The bell curve** over the unit interval, with its middle at a half, from two even draws. -/
def bell (u v : Float) : Float :=
  let z := Float.sqrt (-2 * Float.log u) * Float.cos (2 * pi * v)
  between 0 1 (0.5 + 0.25 * z)

/-- **Throws the dice** for a number between two others, most likely one in the middle.  Nothing is
    drawn when they are equal. -/
def roll (d : Dice) (min max : Int32) : Int32 × Dice :=
  let (low, high) := if min ≤ max then (min, max) else (max, min)
  if low = high then (low, d)
  else
    let (u, d) := d.draw
    let (v, d) := d.draw
    let (low, high) := (low.toFloat, high.toFloat)
    let value := low + ((high - low) * bell (positiveUnit u) (unit v)).round
    ((between low high value).toInt32, d)

end Dice

end Realm
