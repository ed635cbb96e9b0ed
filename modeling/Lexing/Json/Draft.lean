import Lexing.Text.Basic

/-!
# Reading JSON

A draft is what could be read of a text that should be JSON. Where the text stops being JSON the
draft holds `broken`, and nothing after that place is read, so a reader of the draft meets the
faults in the order of the text. Two kinds of values are JSON and still stand for nothing: a string
with half a surrogate pair, and a number beyond the greatest finite one.
-/
set_option autoImplicit false

namespace Lexing

/-- What is known of a number. Only integers of 64 bits, signed or unsigned, keep their value. -/
inductive JsonNumber
  | int (n : Int)
  | other
  | beyond
deriving DecidableEq, Repr

inductive Draft
  | null
  | bool (b : Bool)
  | num (n : JsonNumber)
  | str (t : Option Text)
  | arr (items : List Draft)
  | obj (members : List (Option Text × Draft))
  | broken

namespace Draft

def isBlank (c : Char) : Bool := c == ' ' || c == '\n' || c == '\t' || c == '\r'

def skipBlanks (t : Text) : Text := t.dropWhile isBlank

def hexDigit? (c : Char) : Option Nat :=
  if c.isDigit then some (c.toNat - '0'.toNat)
  else if 'a' ≤ c && c ≤ 'f' then some (c.toNat - 'a'.toNat + 10)
  else if 'A' ≤ c && c ≤ 'F' then some (c.toNat - 'A'.toNat + 10)
  else none

inductive StringUnit
  | char (c : Char)
  | code (n : Nat)

def readUnits : Nat → List StringUnit → Text → Option (List StringUnit × Text)
  | 0, _, _ => none
  | fuel + 1, us, t =>
    match t with
    | [] => none
    | '"' :: t => some (us.reverse, t)
    | '\\' :: 'u' :: a :: b :: c :: d :: t => do
      let n := (← hexDigit? a) * 4096 + (← hexDigit? b) * 256 + (← hexDigit? c) * 16 +
        (← hexDigit? d)
      readUnits fuel (.code n :: us) t
    | '\\' :: c :: t =>
      let plain := fun c => readUnits fuel (.char c :: us) t
      match c with
      | '"' => plain '"'
      | '\\' => plain '\\'
      | '/' => plain '/'
      | 'b' => plain '\x08'
      | 'f' => plain '\x0C'
      | 'n' => plain '\n'
      | 'r' => plain '\r'
      | 't' => plain '\t'
      | _ => none
    | c :: t => if c.toNat < 0x20 then none else readUnits fuel (.char c :: us) t

def isHighSurrogate (n : Nat) : Bool := 0xD800 ≤ n && n ≤ 0xDBFF

def isLowSurrogate (n : Nat) : Bool := 0xDC00 ≤ n && n ≤ 0xDFFF

/-- The characters, if every surrogate has its partner. -/
def joinUnits : List StringUnit → Option Text
  | [] => some []
  | .char c :: us => do return c :: (← joinUnits us)
  | .code n :: .code m :: us =>
    if isHighSurrogate n then
      if isLowSurrogate m then do
        return Char.ofNat (0x10000 + (n - 0xD800) * 0x400 + (m - 0xDC00)) :: (← joinUnits us)
      else none
    else if isLowSurrogate n then none
    else do return Char.ofNat n :: (← joinUnits (.code m :: us))
  | .code n :: us =>
    if isHighSurrogate n || isLowSurrogate n then none
    else do return Char.ofNat n :: (← joinUnits us)

def readString (t : Text) : Option (Option Text × Text) := do
  let (us, t) ← readUnits (t.length + 1) [] t
  return (joinUnits us, t)

def digitsOf (t : Text) : Text × Text := (t.takeWhile Char.isDigit, t.dropWhile Char.isDigit)

def natOf (ds : Text) : Nat := ds.foldl (fun n c => n * 10 + (c.toNat - '0'.toNat)) 0

def finiteBound : Nat := Nat.pow 2 1024 - Nat.pow 2 970

/-- The nearest number of 53 binary digits; between two of them, the even one. -/
def nearest (n : Nat) : Nat :=
  let unit := Nat.pow 2 (n.log2 - 52)
  let low := n / unit
  let twice := 2 * (n % unit)
  (if unit < twice ∨ (twice = unit ∧ low % 2 = 1) then low + 1 else low) * unit

/-- Appends digits to `n` while 64 bits hold the number, and returns those that are left. -/
def gather (n : Nat) : Text → Nat × Text
  | [] => (n, [])
  | c :: ds =>
    let next := n * 10 + (c.toNat - '0'.toNat)
    if next < Nat.pow 2 64 then gather next ds else (n, c :: ds)

/-- Whether a number with a point or a power of ten is beyond the greatest finite one. It is judged
by one product of floats, in which its first digits and the power are rounded apart: so
`1.7976931348623158e308` is beyond, although it would round to a finite number. -/
def isBeyond (whole fraction : Text) (power : Int) : Bool :=
  let (head, skipped) := gather 0 whole
  let (significand, unread) := gather head fraction
  let exponent := power + skipped.length + unread.length - fraction.length
  if significand = 0 ∨ exponent < 0 then false
  else if 308 < exponent then true
  else finiteBound ≤ nearest significand * nearest (Nat.pow 10 exponent.toNat)

def readFraction : Text → Option (Text × Text)
  | '.' :: t =>
    let (ds, t) := digitsOf t
    if ds.isEmpty then none else some (ds, t)
  | t => some ([], t)

def readExponent : Text → Option (Option (Bool × Text) × Text)
  | e :: t =>
    if e = 'e' ∨ e = 'E' then
      let (negative, t) := match t with
        | '+' :: t => (false, t)
        | '-' :: t => (true, t)
        | t => (false, t)
      let (ds, t) := digitsOf t
      if ds.isEmpty then none else some (some (negative, ds), t)
    else some (none, e :: t)
  | [] => some (none, [])

def readNumber (negative : Bool) (t : Text) : Option (JsonNumber × Text) := do
  let (whole, t) := digitsOf t
  if whole.isEmpty ∨ (whole.head? = some '0' ∧ whole ≠ ['0']) then none
  else
    let (fraction, t) ← readFraction t
    let (exponent, t) ← readExponent t
    let n := natOf whole
    let small : Bool := if negative then n ≠ 0 ∧ n ≤ Nat.pow 2 63 else n < Nat.pow 2 64
    if fraction.isEmpty ∧ exponent.isNone ∧ small then
      return (.int (if negative then -(n : Int) else n), t)
    else
      let power : Int := match exponent with
        | none => 0
        | some (true, ds) => -(natOf ds : Int)
        | some (false, ds) => natOf ds
      return (if isBeyond whole fraction power then .beyond else .other, t)

def dropWord (word t : Text) : Option Text :=
  if word.isPrefixOf t then some (t.drop word.length) else none

abbrev Reading := Draft × Option Text

def leaf (r : Option (Draft × Text)) : Reading :=
  match r with
  | some (d, t) => (d, some t)
  | none => (.broken, none)

mutual

def readValue : Nat → Text → Reading
  | 0, _ => (.broken, none)
  | fuel + 1, t =>
    match skipBlanks t with
    | '[' :: t =>
      match skipBlanks t with
      | ']' :: t => (.arr [], some t)
      | _ =>
        let (items, t) := readItems fuel t
        (.arr items, t)
    | '\x7b' :: t =>
      match skipBlanks t with
      | '\x7d' :: t => (.obj [], some t)
      | _ =>
        let (members, t) := readMembers fuel t
        (.obj members, t)
    | '"' :: t => leaf ((readString t).map fun p => (.str p.1, p.2))
    | '-' :: t => leaf ((readNumber true t).map fun p => (.num p.1, p.2))
    | c :: t =>
      if c.isDigit then leaf ((readNumber false (c :: t)).map fun p => (.num p.1, p.2))
      else if c = 't' then leaf ((dropWord "rue".toList t).map fun t => (.bool true, t))
      else if c = 'f' then leaf ((dropWord "alse".toList t).map fun t => (.bool false, t))
      else if c = 'n' then leaf ((dropWord "ull".toList t).map fun t => (.null, t))
      else (.broken, none)
    | [] => (.broken, none)

def readItems : Nat → Text → List Draft × Option Text
  | 0, _ => ([.broken], none)
  | fuel + 1, t =>
    match readValue fuel t with
    | (d, none) => ([d], none)
    | (d, some t) =>
      match skipBlanks t with
      | ']' :: t => ([d], some t)
      | ',' :: t =>
        let (ds, t) := readItems fuel t
        (d :: ds, t)
      | _ => ([d, .broken], none)

def readMembers : Nat → Text → List (Option Text × Draft) × Option Text
  | 0, _ => ([(none, .broken)], none)
  | fuel + 1, t =>
    match skipBlanks t with
    | '"' :: t =>
      match readString t with
      | none => ([(none, .broken)], none)
      | some (name, t) =>
        match skipBlanks t with
        | ':' :: t =>
          match readValue fuel t with
          | (d, none) => ([(name, d)], none)
          | (d, some t) =>
            match skipBlanks t with
            | '\x7d' :: t => ([(name, d)], some t)
            | ',' :: t =>
              let (ms, t) := readMembers fuel t
              ((name, d) :: ms, t)
            | _ => ([(name, d), (none, .broken)], none)
        | _ => ([(name, .broken)], none)
    | _ => ([(none, .broken)], none)

end

/-- The draft of a whole text, and whether nothing but blanks follows it. -/
def ofText (t : Text) : Draft × Bool :=
  match readValue (2 * t.length + 2) t with
  | (d, none) => (d, false)
  | (d, some t) => (d, (skipBlanks t).isEmpty)

mutual

def isWhole : Draft → Bool
  | .broken => false
  | .arr items => allWhole items
  | .obj members => allMembersWhole members
  | _ => true

def allWhole : List Draft → Bool
  | [] => true
  | d :: ds => d.isWhole && allWhole ds

def allMembersWhole : List (Option Text × Draft) → Bool
  | [] => true
  | (_, d) :: ms => d.isWhole && allMembersWhole ms

end

mutual

/-- Whether every part of the draft stands for a value, with at most `levels` arrays and objects
inside each other. -/
def isSound : Nat → Draft → Bool
  | _, .broken => false
  | _, .num .beyond => false
  | _, .str none => false
  | 0, .arr _ => false
  | 0, .obj _ => false
  | n + 1, .arr items => allSound n items
  | n + 1, .obj members => allMembersSound n members
  | _, _ => true

def allSound : Nat → List Draft → Bool
  | _, [] => true
  | n, d :: ds => isSound n d && allSound n ds

def allMembersSound : Nat → List (Option Text × Draft) → Bool
  | _, [] => true
  | _, (none, _) :: _ => false
  | n, (some _, d) :: ms => isSound n d && allMembersSound n ms

end

end Draft

end Lexing
