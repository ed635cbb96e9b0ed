/-!
# File names and file name patterns

The base name of a path is what follows its last separator, and the extension of a name begins at
its last dot, unless nothing stands before or after that dot. A pattern stands for the extensions
that its own extension lists: one for each character of a class in brackets, or itself when there is
no wildcard in it.
-/
set_option autoImplicit false

namespace Lexing.FileName

def isSeparator (c : Char) : Bool := c == '/' || c == '\\'

def splitLast? (p : Char → Bool) (t : List Char) : Option (List Char × List Char) :=
  match t.reverse.dropWhile (fun c => !p c) with
  | [] => none
  | _ :: before => some (before.reverse, (t.reverse.takeWhile fun c => !p c).reverse)

def baseName (path : List Char) : List Char :=
  match splitLast? isSeparator path with
  | some (_, base) => base
  | none => path

/-- With its dot. A name that only begins with a dot has no extension. -/
def extension? (path : List Char) : Option (List Char) :=
  match splitLast? (· == '.') (baseName path) with
  | some (stem, ext) => if stem.isEmpty || ext.isEmpty then none else some ('.' :: ext)
  | none => none

def isLiteral (pattern : List Char) : Bool := !pattern.any ['*', '?', '['].contains

/-- What is before the first bracket, what is in the brackets, and what is after the last one. -/
def bracket? (ext : List Char) : Option (List Char × List Char × List Char) :=
  match ext.dropWhile (· != '[') with
  | [] => none
  | _ :: inner =>
    match splitLast? (· == ']') inner with
    | some (members, tail) =>
      if members.isEmpty then none else some (ext.takeWhile (· != '['), members, tail)
    | none => none

def extensions (pattern : List Char) : List (List Char) :=
  match extension? pattern with
  | none => []
  | some ext =>
    match bracket? ext with
    | some (head, members, tail) => members.map fun c => head ++ c :: tail
    | none => if ext.any ['*', '?', '[', ']'].contains then [] else [ext]

end Lexing.FileName
