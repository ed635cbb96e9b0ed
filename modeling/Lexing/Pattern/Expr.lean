import Lexing.Pattern.Property

/-!
# Written patterns

The tree of a pattern as it is written, before its flags are applied. `depth` is the number of
nested constructs, which is bounded for every pattern.
-/
set_option autoImplicit false

namespace Lexing.Pattern

structure Flags where
  multiLine : Bool
  ignoreCase : Bool
  dotAll : Bool
  ignoreBlanks : Bool
  swapGreed : Bool
  unicode : Bool
  carriageReturn : Bool
deriving DecidableEq, Repr

inductive Flag
  | multiLine
  | ignoreCase
  | dotAll
  | ignoreBlanks
  | swapGreed
  | unicode
  | carriageReturn
deriving DecidableEq, Repr

namespace Flag

def ofChar? : Char → Option Flag
  | 'm' => some multiLine
  | 'i' => some ignoreCase
  | 's' => some dotAll
  | 'x' => some ignoreBlanks
  | 'U' => some swapGreed
  | 'u' => some unicode
  | 'R' => some carriageReturn
  | _ => none

end Flag

abbrev FlagChanges := List (Flag × Bool)

namespace Flags

def set (fs : Flags) : Flag → Bool → Flags
  | .multiLine, b => { fs with multiLine := b }
  | .ignoreCase, b => { fs with ignoreCase := b }
  | .dotAll, b => { fs with dotAll := b }
  | .ignoreBlanks, b => { fs with ignoreBlanks := b }
  | .swapGreed, b => { fs with swapGreed := b }
  | .unicode, b => { fs with unicode := b }
  | .carriageReturn, b => { fs with carriageReturn := b }

def change (fs : Flags) (cs : FlagChanges) : Flags := cs.foldl (fun fs c => fs.set c.1 c.2) fs

end Flags

/-- A character as written; `asByte` when it was given by exactly two hexadecimal digits. -/
structure Literal where
  char : Char
  asByte : Bool
deriving DecidableEq, Repr

inductive Anchor
  | lineStart
  | lineEnd
  | textStart
  | textEnd
  | wordBoundary
  | notWordBoundary
  | wordStart
  | wordEnd
  | wordStartHalf
  | wordEndHalf
deriving DecidableEq, Repr

inductive SetOp
  | intersection
  | difference
  | symmetricDifference
deriving DecidableEq, Repr

mutual

inductive SetItem
  | char (l : Literal)
  | range (lo hi : Literal)
  | ascii (negated : Bool) (c : AsciiClass)
  | short (negated : Bool) (c : ShortClass)
  | property (negated : Bool) (q : PropertyQuery)
  | bracket (negated : Bool) (body : SetExpr)

inductive SetExpr
  | items (is : List SetItem)
  | op (o : SetOp) (l r : SetExpr)

end

inductive GroupKind
  | capturing (index : Nat)
  | plain (changes : FlagChanges)
deriving DecidableEq, Repr

structure Count where
  least : Nat
  most : Option Nat
deriving DecidableEq, Repr

inductive Expr
  | empty
  | flags (changes : FlagChanges)
  | char (l : Literal)
  | dot
  | anchor (a : Anchor)
  | short (negated : Bool) (c : ShortClass)
  | property (negated : Bool) (q : PropertyQuery)
  | bracket (negated : Bool) (body : SetExpr)
  | repeated (count : Count) (greedy : Bool) (body : Expr)
  | group (kind : GroupKind) (body : Expr)
  | concat (es : List Expr)
  | alternatives (es : List Expr)

mutual

def SetItem.depth : SetItem → Nat
  | .bracket _ body => body.depth + 1
  | _ => 0

def SetExpr.depth : SetExpr → Nat
  | .items is => if is.length ≤ 1 then SetItem.listDepth is else SetItem.listDepth is + 1
  | .op _ l r => max l.depth r.depth + 1

def SetItem.listDepth : List SetItem → Nat
  | [] => 0
  | i :: is => max i.depth (SetItem.listDepth is)

end

namespace Expr

mutual

def depth : Expr → Nat
  | .bracket _ body => body.depth + 1
  | .repeated _ _ body => body.depth + 1
  | .group _ body => body.depth + 1
  | .concat es => listDepth es + 1
  | .alternatives es => listDepth es + 1
  | _ => 0

def listDepth : List Expr → Nat
  | [] => 0
  | e :: es => max e.depth (listDepth es)

end

def maxDepth : Nat := 250

def ofBranch : List Expr → Expr
  | [] => empty
  | [e] => e
  | es => concat es

def ofBranches : List Expr → Expr
  | [e] => e
  | es => alternatives es

end Expr

end Lexing.Pattern
