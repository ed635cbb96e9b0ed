import Lexing.Text.Quoted
import Lexing.Unicode.Ranges

/-!
# Options

What is done to a text before it is lexed: line ends become newlines, the text is stripped at both
ends, tabs are expanded, and a final newline is added. Options come as pairs of a name and a value;
the first pair that cannot be used is the one that is reported.
-/
set_option autoImplicit false

namespace Lexing

structure Options where
  stripNewlines : Bool
  stripBlanks : Bool
  ensureNewline : Bool
  tabSize : Nat
deriving DecidableEq, Repr

inductive OptionValue
  | bool (b : Bool)
  | int (n : Int)
  | word (w : String)
deriving DecidableEq, Repr

inductive OptionError
  | unknown (name : String)
  | notBool (name : String) (value : String)
  | notInt (name : String) (value : String)
deriving DecidableEq, Repr

namespace Options

def standard : Options := ⟨true, false, true, 0⟩

instance : Inhabited Options := ⟨standard⟩

def maxTabSize : Nat := 64

end Options

namespace OptionError

def message : OptionError → String
  | unknown name => "unknown lexer option `" ++ name ++ "`"
  | notBool name value => "lexer option `" ++ name ++ "` expects a boolean, got " ++ value
  | notInt name value =>
    "lexer option `" ++ name ++ "` expects an integer from 0 to " ++
      toString Options.maxTabSize ++ ", got " ++ value

end OptionError

namespace OptionValue

def shown : OptionValue → String
  | bool b => toString b
  | int n => toString n
  | word w => quotedString w

def boolOfWord? (w : String) : Option Bool :=
  match String.ofList (w.toList.map Char.toLower) with
  | "1" | "yes" | "true" | "on" => some true
  | "0" | "no" | "false" | "off" => some false
  | _ => none

/-- Every integer but 0 is true. -/
def toBool? : OptionValue → Option Bool
  | bool b => some b
  | int n => some (n != 0)
  | word w => boolOfWord? w

def trim (t : Text) : Text := ((t.dropWhile isBlank).reverse.dropWhile isBlank).reverse

/-- Decimal digits, which a plus sign may lead. -/
def natOfText? (t : Text) : Option Nat :=
  let digits := match t with
    | '+' :: t => t
    | t => t
  if digits.isEmpty ∨ digits.any (!·.isDigit) then none
  else some (digits.foldl (fun n c => n * 10 + (c.toNat - '0'.toNat)) 0)

def toNat? : OptionValue → Option Nat
  | bool _ => none
  | int n => if n < 0 then none else some n.toNat
  | word w => natOfText? (trim w.toList)

end OptionValue

namespace Options

def readBool (name : String) (v : OptionValue) : Except OptionError Bool :=
  match v.toBool? with
  | some b => .ok b
  | none => .error (.notBool name v.shown)

def readTabSize (name : String) (v : OptionValue) : Except OptionError Nat :=
  match v.toNat? with
  | some n => if n ≤ maxTabSize then .ok n else .error (.notInt name v.shown)
  | none => .error (.notInt name v.shown)

def set (o : Options) (name : String) (v : OptionValue) : Except OptionError Options :=
  match name with
  | "stripnl" => do return { o with stripNewlines := ← readBool name v }
  | "stripall" => do return { o with stripBlanks := ← readBool name v }
  | "ensurenl" => do return { o with ensureNewline := ← readBool name v }
  | "tabsize" => do return { o with tabSize := ← readTabSize name v }
  | _ => .error (.unknown name)

def setAll : Options → List (String × OptionValue) → Except OptionError Options
  | o, [] => .ok o
  | o, (name, v) :: pairs => do (← o.set name v).setAll pairs

def ofPairs (pairs : List (String × OptionValue)) : Except OptionError Options :=
  standard.setAll pairs

end Options

/-- A prepared text is a part of the given one, or it had to be built. -/
inductive Prepared
  | part (text : Text)
  | built (text : Text)
deriving DecidableEq, Repr

namespace Prepared

def text : Prepared → Text
  | part t => t
  | built t => t

def isPart : Prepared → Bool
  | part _ => true
  | built _ => false

end Prepared

namespace Options

def normalize : Text → Text
  | [] => []
  | '\r' :: '\n' :: t => '\n' :: normalize t
  | c :: t => (if c = '\r' then '\n' else c) :: normalize t

/-- Each tab becomes spaces up to the next multiple of `size`; `column` counts the characters since
the last newline. -/
def expandFrom (size column : Nat) : Text → Text
  | [] => []
  | c :: t =>
    if c = '\t' then
      let pad := size - column % size
      List.replicate pad ' ' ++ expandFrom size (column + pad) t
    else if c = '\n' then c :: expandFrom size 0 t
    else c :: expandFrom size (column + 1) t

def expandTabs (size : Nat) (t : Text) : Text := expandFrom size 0 t

def strips (o : Options) (c : Char) : Bool :=
  if o.stripBlanks then isBlank c else if o.stripNewlines then c == '\n' else false

/-- The text without what is stripped, but with the newline after it when one is wanted. -/
def strip (o : Options) (t : Text) : Text :=
  let head := t.dropWhile o.strips
  let kept := (head.reverse.dropWhile o.strips).reverse
  let wanted := o.ensureNewline && kept.getLast? != some '\n' &&
    (head.drop kept.length).head? == some '\n'
  if wanted then kept ++ ['\n'] else kept

def prepare (o : Options) (t : Text) : Prepared :=
  let stripped :=
    if t.contains '\r' then .built (o.strip (normalize t)) else .part (o.strip t)
  let expanded :=
    if 0 < o.tabSize ∧ stripped.text.contains '\t' then
      .built (expandTabs o.tabSize stripped.text)
    else stripped
  if o.ensureNewline ∧ expanded.text.getLast? ≠ some '\n' then .built (expanded.text ++ ['\n'])
  else expanded

end Options

end Lexing
