/-
  Realm.Text.Blank — the characters that count as white space, and texts without them at their ends.
-/
namespace Realm.Blank

/-- The code points of white space, as intervals with both ends. -/
def intervals : List (Nat × Nat) :=
  [(0x09, 0x0D), (0x20, 0x20), (0x85, 0x85), (0xA0, 0xA0), (0x1680, 0x1680), (0x2000, 0x200A),
    (0x2028, 0x2029), (0x202F, 0x202F), (0x205F, 0x205F), (0x3000, 0x3000)]

def isBlank (c : Char) : Bool := intervals.any fun i => i.1 ≤ c.toNat && c.toNat ≤ i.2

/-- White space goes from both ends. -/
def trimList (cs : List Char) : List Char :=
  ((cs.dropWhile isBlank).reverse.dropWhile isBlank).reverse

def trim (s : String) : String := .ofList (trimList s.toList)

end Realm.Blank
