import Lexing.Unicode.Ranges

/-!
# Ranges of characters as ranges of bytes

The UTF-8 forms of the characters of a range are those of a few sequences of byte ranges: a form
belongs to a sequence if every byte lies in the range at its place. The sequences come in order.
-/
set_option autoImplicit false

namespace Lexing
open Unicode

abbrev ByteRange := Nat × Nat

namespace ByteRange

def bytesOf (n : Nat) : List Nat :=
  if n < 0x80 then [n]
  else if n < 0x800 then [0xC0 + n / 64, 0x80 + n % 64]
  else if n < 0x10000 then [0xE0 + n / 4096, 0x80 + n / 64 % 64, 0x80 + n % 64]
  else [0xF0 + n / 262144, 0x80 + n / 4096 % 64, 0x80 + n / 64 % 64, 0x80 + n % 64]

/-- Where a range has to be cut so that both parts come closer to a single sequence, given by the
end of the first part. Forms of one length stay together, and so do those that differ in their last
bytes only, provided that these run through all continuations. -/
def cut? (lo hi : Nat) : Option Nat :=
  let lengths := [0x7F, 0x7FF, 0xFFFF].find? fun last => lo ≤ last && last < hi
  let blocks := if hi < 0x80 then none else
    [64, 4096, 262144].findSome? fun size =>
      if lo / size = hi / size then none
      else if lo % size ≠ 0 then some (lo / size * size + size - 1)
      else if hi % size ≠ size - 1 then some (hi / size * size - 1)
      else none
  lengths <|> blocks

/-- The sequences of a range without surrogates; `fuel` bounds the number of cuts around a
character, of which there are two for every byte and one for every length at most. -/
def sequencesOf : Nat → Nat → Nat → List (List ByteRange)
  | 0, lo, hi => [(bytesOf lo).zip (bytesOf hi)]
  | fuel + 1, lo, hi =>
    match cut? lo hi with
    | some mid => sequencesOf fuel lo mid ++ sequencesOf fuel (mid + 1) hi
    | none => [(bytesOf lo).zip (bytesOf hi)]

def sequences (rs : Ranges) : List (List ByteRange) :=
  rs.flatMap fun r => sequencesOf 16 r.1 r.2

end ByteRange

end Lexing
