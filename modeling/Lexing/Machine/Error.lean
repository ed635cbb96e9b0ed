import Lexing.Pattern.Error

/-!
# Build errors

Why a grammar is no machine. A defect of one entry is reported with the state that the entry belongs
to and its index there.
-/
set_option autoImplicit false

namespace Lexing

inductive Defect
  | unknownState (target : String)
  | invalidPattern (error : Pattern.Error)
  | zeroWidth
  | zeroPop
  | emptyCombined
  | steering
deriving DecidableEq, Repr

inductive BuildFault
  | missingRoot
  | entry (state : String) (index : Nat) (defect : Defect)
  | includeCycle (chain : List String)
deriving DecidableEq, Repr

structure BuildError where
  grammar : String
  fault : BuildFault
deriving DecidableEq, Repr

namespace Defect

def heading : Defect → String
  | unknownState target => "refers to unknown state `" ++ target ++ "`"
  | invalidPattern _ => "has an invalid pattern: "
  | zeroWidth => "can only match the empty string and never changes state"
  | zeroPop => "pops zero states"
  | emptyCombined => "combines no states"
  | steering => "uses a context callback, which only the extended engine supports"

def detail : Defect → String
  | invalidPattern error => error.message
  | _ => ""

end Defect

namespace BuildError

/-- The message, up to the text of a pattern's own error. -/
def heading (e : BuildError) : String :=
  "grammar `" ++ e.grammar ++ "`" ++
    match e.fault with
    | .missingRoot => " has no `root` state"
    | .entry state index defect =>
      ": state `" ++ state ++ "` entry " ++ toString index ++ " " ++ defect.heading
    | .includeCycle chain => ": include cycle " ++ " -> ".intercalate chain

def message (e : BuildError) : String :=
  e.heading ++
    match e.fault with
    | .entry _ _ defect => defect.detail
    | _ => ""

end BuildError

end Lexing
