import Lexing.Unicode.Folding

/-!
# Sets of characters

A set of characters is a list of ranges of code points, in order and apart from each other. The
operations keep that form, and `has` says what each of them holds.
-/
set_option autoImplicit false

namespace Lexing
open Unicode

structure CharSet where
  ranges : Ranges
deriving DecidableEq, Repr

namespace CharSet

def has (s : CharSet) (c : Char) : Bool := s.ranges.has c.toNat

/-- Adds a range and joins it with the ranges that it meets. -/
def insertRange (lo hi : Nat) : Ranges → Ranges
  | [] => [(lo, hi)]
  | (a, b) :: rs =>
    if hi + 1 < a then (lo, hi) :: (a, b) :: rs
    else if b + 1 < lo then (a, b) :: insertRange lo hi rs
    else insertRange (min lo a) (max hi b) rs

def empty : CharSet := ⟨[]⟩

def single (c : Char) : CharSet := ⟨[(c.toNat, c.toNat)]⟩

def single? (s : CharSet) : Option Char :=
  match s.ranges with
  | [(lo, hi)] => if lo = hi then some (Char.ofNat lo) else none
  | _ => none

def isAscii (s : CharSet) : Bool := s.ranges.all fun r => r.2 < 0x80

/-- The code points that are characters: all but the surrogates. -/
def all : CharSet := ⟨[(0, 0xD7FF), (0xE000, 0x10FFFF)]⟩

def union (s t : CharSet) : CharSet :=
  ⟨s.ranges.foldr (fun r acc => insertRange r.1 r.2 acc) t.ranges⟩

def clip (lo hi : Nat) (rs : Ranges) : Ranges :=
  rs.filterMap fun r =>
    if max lo r.1 ≤ min hi r.2 then some (max lo r.1, min hi r.2) else none

def inter (s t : CharSet) : CharSet := ⟨s.ranges.flatMap fun r => clip r.1 r.2 t.ranges⟩

def gaps (start : Nat) : Ranges → Ranges
  | [] => if start ≤ 0x10FFFF then [(start, 0x10FFFF)] else []
  | (lo, hi) :: rs => (if start < lo then [(start, lo - 1)] else []) ++ gaps (hi + 1) rs

def complement (s : CharSet) : CharSet := inter ⟨gaps 0 s.ranges⟩ all

def diff (s t : CharSet) : CharSet := inter s (complement t)

def unionOf (parts : List Ranges) : CharSet :=
  parts.foldr (fun part acc => union ⟨part⟩ acc) .empty

def unionWithout (parts others : List Ranges) : CharSet := (unionOf parts).diff (unionOf others)

def symmDiff (s t : CharSet) : CharSet := diff (union s t) (inter s t)

def closeCase (s : CharSet) : CharSet :=
  let partners := folding.flatMap fun run => run.pairs.flatMap fun p =>
    (if s.ranges.has p.1 then [(p.2, p.2)] else []) ++
      (if s.ranges.has p.2 then [(p.1, p.1)] else [])
  union ⟨partners⟩ s

def asciiUpper : CharSet := ⟨[(0x41, 0x5A)]⟩

def asciiLower : CharSet := ⟨[(0x61, 0x7A)]⟩

def closeAsciiCase (s : CharSet) : CharSet :=
  let raised := (inter s asciiLower).ranges.map fun r => (r.1 - 0x20, r.2 - 0x20)
  let lowered := (inter s asciiUpper).ranges.map fun r => (r.1 + 0x20, r.2 + 0x20)
  union ⟨raised⟩ (union ⟨lowered⟩ s)

def codeSize (n : Nat) : Nat :=
  if n < 0x80 then 1 else if n < 0x800 then 2 else if n < 0x10000 then 3 else 4

def minSize (s : CharSet) : Option Nat := s.ranges.head?.map fun r => codeSize r.1

def maxSize (s : CharSet) : Option Nat := s.ranges.getLast?.map fun r => codeSize r.2

end CharSet

end Lexing
