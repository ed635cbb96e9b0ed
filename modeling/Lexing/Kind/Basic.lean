/-!
# Kinds

A kind labels a token. Kinds form a tree: a kind is the path of names that leads to it from the
root, and `Comment.Single` is below `Comment`. A segment that is not empty and has no dot is
proper; `ofSegments` makes every path proper, and `ofDotted` reads the dotted form, in which
`Token` may lead and `String` and `Number` stand for kinds below `Literal`.
-/
set_option autoImplicit false

namespace Lexing

structure Kind where
  path : List String
deriving DecidableEq, Repr, Hashable

namespace Kind

def root : Kind := ⟨[]⟩
def text : Kind := ⟨["Text"]⟩
def whitespace : Kind := ⟨["Text", "Whitespace"]⟩
def error : Kind := ⟨["Error"]⟩
def other : Kind := ⟨["Other"]⟩

instance : Inhabited Kind := ⟨text⟩

def segments (s : String) : List String :=
  ((s.toList.splitOn '.').filter fun part => !part.isEmpty).map String.ofList

/-- Splits every given name at its dots and drops the empty parts. -/
def ofSegments (names : List String) : Kind := ⟨names.flatMap segments⟩

def dropTokenName : List String → List String
  | "Token" :: rest => rest
  | path => path

/-- `String` and `Number` stand below `Literal`. -/
def underLiteral : List String → List String
  | "String" :: rest => "Literal" :: "String" :: rest
  | "Number" :: rest => "Literal" :: "Number" :: rest
  | path => path

def ofDotted (s : String) : Kind := ⟨underLiteral (dropTokenName (segments s))⟩

def isRoot (k : Kind) : Bool := k.path.isEmpty

def depth (k : Kind) : Nat := k.path.length

def parent? (k : Kind) : Option Kind :=
  if k.isRoot then none else some ⟨k.path.dropLast⟩

def isBelow (k ancestor : Kind) : Bool := ancestor.path.isPrefixOf k.path

def ancestors (k : Kind) : List Kind :=
  (List.range (k.depth + 1)).map fun n => ⟨k.path.take n⟩

/-- The kind below `k` with the given name, or names when there are dots in it. -/
def child (k : Kind) (name : String) : Kind := ⟨k.path ++ segments name⟩

/-- Segment by segment, each compared by its characters. -/
def order (a b : Kind) : Ordering := List.compareLex compare a.path b.path

def dotted (k : Kind) : String := ".".intercalate k.path

def display (k : Kind) : String := ".".intercalate ("Token" :: k.path)

def shown (k : Kind) : String := if k.isRoot then "Token" else k.dotted

end Kind

end Lexing
