/-!
# Ranges of code points

A property of characters is given as a list of inclusive ranges of code points, in order and apart
from each other. The tables of this folder follow version 16 of the standard, except those that say
otherwise.
-/
set_option autoImplicit false

namespace Lexing.Unicode

abbrev Ranges := List (Nat × Nat)

def Ranges.has : Ranges → Nat → Bool
  | [], _ => false
  | (lo, hi) :: rs, n => lo ≤ n && (n ≤ hi || Ranges.has rs n)

/-- The code points `first`, `first + stride`, … up to `last`, each paired with the code point
`shift` further on. -/
structure PairRun where
  first : Nat
  last : Nat
  stride : Nat
  shift : Int
deriving DecidableEq, Repr

namespace PairRun

def covers (r : PairRun) (n : Nat) : Bool :=
  r.first ≤ n && n ≤ r.last && (n - r.first) % r.stride == 0

def image (r : PairRun) (n : Nat) : Nat := (n + r.shift).toNat

def pairs (r : PairRun) : List (Nat × Nat) :=
  (List.range ((r.last - r.first) / r.stride + 1)).map fun i =>
    (r.first + i * r.stride, r.image (r.first + i * r.stride))

end PairRun

def blank : Ranges := [
  (0x9, 0xD), (0x20, 0x20), (0x85, 0x85), (0xA0, 0xA0), (0x1680, 0x1680), (0x2000, 0x200A),
  (0x2028, 0x2029), (0x202F, 0x202F), (0x205F, 0x205F), (0x3000, 0x3000)]

end Lexing.Unicode

namespace Lexing

def isBlank (c : Char) : Bool := Unicode.blank.has c.toNat

end Lexing
