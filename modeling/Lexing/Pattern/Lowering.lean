import Lexing.Pattern.Error
import Lexing.Pattern.Expr
import Lexing.Pattern.Node

/-!
# Applying the flags of a pattern

`Expr.lower` turns a written pattern into a node. Flags given inside a pattern hold up to the end of
the group that they stand in, so the flags are handed on from left to right. Without the Unicode
flag a set holds bytes, and a byte that is no character by itself is refused.
-/
set_option autoImplicit false

namespace Lexing.Pattern

namespace Flags

def closeCase (fs : Flags) (s : CharSet) : CharSet :=
  if fs.ignoreCase then (if fs.unicode then s.closeCase else s.closeAsciiCase) else s

/-- The set as written, closed under case and then negated. -/
def finishSet (fs : Flags) (negated : Bool) (s : CharSet) : Except Error CharSet :=
  if !negated then .ok (fs.closeCase s)
  else if fs.unicode then .ok (fs.closeCase s).complement
  else .error .notText

def shortSet (fs : Flags) (negated : Bool) (c : ShortClass) : Except Error CharSet :=
  if fs.unicode then .ok (if negated then c.set.complement else c.set)
  else if negated then .error .notText
  else .ok c.asciiSet

def propertySet (fs : Flags) (negated : Bool) (q : PropertyQuery) : Except Error CharSet :=
  if !fs.unicode then .error .needsUnicode
  else
    match q.set? with
    | none => .error .propertyUnknown
    | some s => fs.finishSet negated s

def member (fs : Flags) (l : Literal) : Except Error Char :=
  if fs.unicode ∨ l.char.toNat < 0x80 then .ok l.char
  else .error (if l.asByte then .notText else .needsUnicode)

def dotSet (fs : Flags) : Except Error CharSet :=
  if !fs.unicode then .error .notText
  else if fs.dotAll then .ok .all
  else if fs.carriageReturn then .ok (CharSet.complement ⟨[(0x0A, 0x0A), (0x0D, 0x0D)]⟩)
  else .ok (CharSet.complement ⟨[(0x0A, 0x0A)]⟩)

def assertion (fs : Flags) : Anchor → Assertion
  | .lineStart =>
    if !fs.multiLine then .textStart
    else if fs.carriageReturn then .returnLineStart
    else .lineStart
  | .lineEnd =>
    if !fs.multiLine then .textEnd
    else if fs.carriageReturn then .returnLineEnd
    else .lineEnd
  | .textStart => .textStart
  | .textEnd => .textEnd
  | .wordBoundary => .boundary fs.unicode
  | .notWordBoundary => .notBoundary fs.unicode
  | .wordStart => .wordStart fs.unicode
  | .wordEnd => .wordEnd fs.unicode
  | .wordStartHalf => .wordStartHalf fs.unicode
  | .wordEndHalf => .wordEndHalf fs.unicode

def literal (fs : Flags) (l : Literal) : Except Error Node :=
  if !fs.unicode ∧ l.asByte ∧ 0x80 ≤ l.char.toNat then .error .notText
  else .ok (.ofSet (fs.closeCase (.single l.char)))

end Flags

def SetOp.apply : SetOp → CharSet → CharSet → CharSet
  | intersection => CharSet.inter
  | difference => CharSet.diff
  | symmetricDifference => CharSet.symmDiff

mutual

def SetItem.lower (fs : Flags) : SetItem → Except Error CharSet
  | .char l => do return .single (← fs.member l)
  | .range lo hi => do
    let lo ← fs.member lo
    let hi ← fs.member hi
    return CharSet.inter ⟨[(lo.toNat, hi.toNat)]⟩ .all
  | .ascii negated c => fs.finishSet negated c.set
  | .short negated c => fs.shortSet negated c
  | .property negated q => fs.propertySet negated q
  | .bracket negated body => do fs.finishSet negated (← body.lower fs)

def SetExpr.lower (fs : Flags) : SetExpr → Except Error CharSet
  | .items is => SetItem.lowerAll fs is
  | .op o l r => do
    let l ← l.lower fs
    let r ← r.lower fs
    return o.apply (fs.closeCase l) (fs.closeCase r)

def SetItem.lowerAll (fs : Flags) : List SetItem → Except Error CharSet
  | [] => .ok .empty
  | i :: is => do
    let s ← i.lower fs
    let t ← SetItem.lowerAll fs is
    return s.union t

end

namespace Expr

mutual

def lower (fs : Flags) : Expr → Except Error (Node × Flags)
  | .empty => .ok (.empty, fs)
  | .flags changes => .ok (.empty, fs.change changes)
  | .char l => do return (← fs.literal l, fs)
  | .dot => do return (.ofSet (← fs.dotSet), fs)
  | .anchor a => .ok (.look (fs.assertion a), fs)
  | .short negated c => do return (.ofSet (← fs.shortSet negated c), fs)
  | .property negated q => do return (.ofSet (← fs.propertySet negated q), fs)
  | .bracket negated body => do return (.ofSet (← fs.finishSet negated (← body.lower fs)), fs)
  | .repeated count greedy body => do
    let (n, fs) ← body.lower fs
    return (.repeated count.least count.most (greedy != fs.swapGreed) n, fs)
  | .group (.capturing index) body => do
    let (n, _) ← body.lower fs
    return (.group index n, fs)
  | .group (.plain changes) body => do
    let (n, _) ← body.lower (fs.change changes)
    return (n, fs)
  | .concat es => do
    let (ns, fs) ← lowerAll fs es
    return (.concat ns, fs)
  | .alternatives es => do
    let (ns, fs) ← lowerAll fs es
    return (.firstOf ns, fs)

def lowerAll (fs : Flags) : List Expr → Except Error (List Node × Flags)
  | [] => .ok ([], fs)
  | e :: es => do
    let (n, fs) ← e.lower fs
    let (ns, fs) ← lowerAll fs es
    return (n :: ns, fs)

end

end Expr

end Lexing.Pattern
