/-
  Realm.Yaml.Number — numbers as plain scalars write them.

  Whole numbers are decimal, or with a mark in front hexadecimal, octal or binary.  Decimal digits
  after a leading zero are a text and no number.
-/
namespace Realm.Yaml.Number

/-! ## §1. Digits. -/

/-- The value of a digit. -/
def digit? (c : Char) : Option Nat :=
  if c.isDigit then some (c.toNat - '0'.toNat)
  else if 'a' ≤ c ∧ c ≤ 'f' then some (c.toNat - 'a'.toNat + 10)
  else if 'A' ≤ c ∧ c ≤ 'F' then some (c.toNat - 'A'.toNat + 10)
  else none

/-- The number that digits write on top of a number. -/
def digitsOn? (base : Nat) : Nat → List Char → Option Nat
  | n, [] => some n
  | n, c :: cs => ((digit? c).filter (· < base)).bind fun d => digitsOn? base (n * base + d) cs

/-- The number that digits write; there must be one at least. -/
def digits? (base : Nat) (cs : List Char) : Option Nat :=
  if cs.isEmpty then none else digitsOn? base 0 cs

/-- Whether a text is decimal digits after a leading zero. -/
def isPadded (cs : List Char) : Bool :=
  match cs with
  | '0' :: rest => !rest.isEmpty && rest.all Char.isDigit
  | _ => false

/-- The number that a text without a sign writes. -/
def magnitude? (cs : List Char) : Option Nat :=
  match cs with
  | '0' :: 'x' :: rest => digits? 16 rest
  | '0' :: 'o' :: rest => digits? 8 rest
  | '0' :: 'b' :: rest => digits? 2 rest
  | _ => if isPadded cs then none else digits? 10 cs

/-! ## §2. Signs. -/

/-- A number without a sign, or with one that says nothing. -/
def nat? (cs : List Char) : Option Nat :=
  match cs with
  | '+' :: rest => magnitude? rest
  | _ => magnitude? cs

/-- A number with or without a sign. -/
def int? (cs : List Char) : Option Int :=
  match cs with
  | '-' :: rest => (magnitude? rest).map fun n => -(n : Int)
  | _ => (nat? cs).map fun n => (n : Int)

/-! ## §3. Fractions. -/

/-- Decimal digits with a point: the number without the point, and the digits after it. -/
def decimal? (cs : List Char) : Option (Nat × Nat) :=
  let whole := cs.takeWhile Char.isDigit
  let fraction := match cs.dropWhile Char.isDigit with
    | [] => some []
    | '.' :: rest => if rest.all Char.isDigit then some rest else none
    | _ => none
  fraction.bind fun f => (digits? 10 (whole ++ f)).map fun n => (n, f.length)

/-- The exponent after a mark; it may have a sign. -/
def exponent? (cs : List Char) : Option Int :=
  match cs with
  | [] => some 0
  | _ :: '-' :: rest => (digits? 10 rest).map fun n => -(n : Int)
  | _ :: '+' :: rest => (digits? 10 rest).map fun n => (n : Int)
  | _ :: rest => (digits? 10 rest).map fun n => (n : Int)

/-- Decimal places past which a number is too small or too large in any case. -/
def farPlaces : Nat := 5000

/-- The nearest number to some digits moved by decimal places. -/
def scaled (n : Nat) (places : Int) : Float :=
  if n = 0 then 0
  else if places < 0 then
    if (toString n).length + farPlaces < places.natAbs then 0
    else Float.ofScientific n true places.natAbs
  else Float.ofScientific n false (min places.natAbs farPlaces)

/-- A fraction without a sign. -/
def fraction? (cs : List Char) : Option Float := do
  let isMark (c : Char) : Bool := c == 'e' || c == 'E'
  let (n, places) ← decimal? (cs.takeWhile fun c => !isMark c)
  let e ← exponent? (cs.dropWhile fun c => !isMark c)
  let x := scaled n (e - places)
  if x.isFinite then pure x else none

def infinityNames : List String := [".inf", ".Inf", ".INF"]

def notANumberNames : List String := [".nan", ".NaN", ".NAN"]

/-- **A fraction,** or one of the words for what is not finite. -/
def float? (cs : List Char) : Option Float :=
  let infinity : Float := 1 / 0
  if notANumberNames.contains (String.ofList cs) then some (0 / 0)
  else
    match cs with
    | '-' :: rest =>
      if infinityNames.contains (String.ofList rest) then some (-infinity)
      else (fraction? rest).map fun x => -x
    | '+' :: rest =>
      if infinityNames.contains (String.ofList rest) then some infinity else fraction? rest
    | _ => if infinityNames.contains (String.ofList cs) then some infinity else fraction? cs

end Realm.Yaml.Number
