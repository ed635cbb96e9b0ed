import Lexing.Pattern.Error
import Lexing.Pattern.Expr
import Lexing.Text.Basic

/-!
# Reading patterns

`Expr.read` reads the whole of a text as a pattern. A reader holds what is left of the text; each
step takes at least one character from it, so its length bounds the number of steps.
-/
set_option autoImplicit false

namespace Lexing.Pattern

structure Reader where
  rest : Text
  ignoreBlanks : Bool
  groups : Nat
  names : List Text

def dropBlanks (inComment : Bool) : Text → Text
  | [] => []
  | c :: t =>
    if inComment then dropBlanks (c != '\n') t
    else if isBlank c then dropBlanks false t
    else if c = '#' then dropBlanks true t
    else c :: t

/-- The character that follows when blanks do not count; of a comment only its mark is passed. -/
def peekPast (inComment : Bool) : Text → Option Char
  | [] => none
  | c :: t =>
    if isBlank c then peekPast inComment t
    else if !inComment && c = '#' then peekPast true t
    else some c

namespace Reader

def skip (r : Reader) : Reader :=
  if r.ignoreBlanks then { r with rest := dropBlanks false r.rest } else r

def next (r : Reader) : Reader := { r with rest := r.rest.tail }.skip

def peekNext (r : Reader) : Option Char :=
  if r.ignoreBlanks then peekPast false r.rest.tail else r.rest.tail.head?

def takeWhile (p : Char → Bool) : Nat → Reader → Text × Reader
  | 0, r => ([], r)
  | fuel + 1, r =>
    match r.rest with
    | [] => ([], r)
    | c :: _ =>
      if p c then
        let (cs, r) := takeWhile p fuel r.next
        (c :: cs, r)
      else ([], r)

def collect (r : Reader) (p : Char → Bool) : Text × Reader := takeWhile p r.rest.length r

end Reader

inductive Primitive
  | literal (l : Literal)
  | short (negated : Bool) (c : ShortClass)
  | property (negated : Bool) (q : PropertyQuery)
  | anchor (a : Anchor)

namespace Primitive

def toExpr : Primitive → Expr
  | literal l => .char l
  | short n c => .short n c
  | property n q => .property n q
  | anchor a => .anchor a

def toItem : Primitive → Except Error SetItem
  | literal l => .ok (.char l)
  | short n c => .ok (.short n c)
  | property n q => .ok (.property n q)
  | anchor _ => .error .setMember

def toLiteral : Primitive → Except Error Literal
  | literal l => .ok l
  | _ => .error .setRange

end Primitive

def isHex (c : Char) : Bool :=
  c.isDigit || ('a' ≤ c && c ≤ 'f') || ('A' ≤ c && c ≤ 'F')

def hexValue (c : Char) : Nat :=
  if c.isDigit then c.toNat - '0'.toNat
  else if 'a' ≤ c then c.toNat - 'a'.toNat + 10
  else c.toNat - 'A'.toNat + 10

def numberOf (base : Nat) (digit : Char → Nat) (cs : Text) : Nat :=
  cs.foldl (fun n c => n * base + digit c) 0

def charOfHex (cs : Text) : Except Error Char :=
  let n := numberOf 16 hexValue cs
  if n.isValidChar then .ok (Char.ofNat n) else .error .hexInvalid

/-- The characters that mean something unless they are escaped. -/
def isMeta (c : Char) : Bool :=
  ['\\', '.', '+', '*', '?', '(', ')', '|', '[', ']', '\x7b', '\x7d', '^', '$', '#', '&', '-',
    '~'].contains c

/-- The characters that an escape leaves as they are. -/
def isEscapable (c : Char) : Bool :=
  isMeta c || (c.toNat < 0x80 && !c.isAlphanum && c != '<' && c != '>')

namespace Reader

def readHexDigits : Nat → Reader → Except Error (Text × Reader)
  | 0, r => .ok ([], r)
  | n + 1, r =>
    match r.rest with
    | [] => .error .escapeUnfinished
    | c :: _ => do
      if isHex c then
        let (cs, r) ← readHexDigits n r.next
        return (c :: cs, r)
      else .error .hexInvalid

def readHex (digits : Nat) (r : Reader) : Except Error (Primitive × Reader) :=
  match r.rest with
  | [] => .error .escapeUnfinished
  | '\x7b' :: _ => do
    let (cs, r) := r.next.collect isHex
    match r.rest with
    | '\x7d' :: _ =>
      if cs.isEmpty then .error .hexInvalid
      else return (.literal ⟨← charOfHex cs, false⟩, r.next)
    | _ => .error .hexInvalid
  | _ => do
    let (cs, r) ← readHexDigits digits r
    return (.literal ⟨← charOfHex cs, digits == 2⟩, r)

def breakAt (mark : Text) : Text → Option (Text × Text)
  | [] => none
  | c :: t =>
    if mark.isPrefixOf (c :: t) then some ([], (c :: t).drop mark.length)
    else (breakAt mark t).map fun p => (c :: p.1, p.2)

/-- A property name, or a property and its value. Of the marks between the two, `!=` is read as
`=` is: it negates nothing. -/
def propertyQuery (negated : Bool) (name : Text) : Primitive :=
  match (breakAt ['!', '='] name).or ((breakAt [':'] name).or (breakAt ['='] name)) with
  | some (property, value) =>
    .property negated (.valued (String.ofList property) (String.ofList value))
  | none => .property negated (.named (String.ofList name))

def readProperty (negated : Bool) (r : Reader) : Except Error (Primitive × Reader) :=
  match r.rest with
  | [] => .error .escapeUnfinished
  | '\x7b' :: _ =>
    let (name, r) := r.next.collect (· != '\x7d')
    match r.rest with
    | [] => .error .escapeUnfinished
    | _ :: t => .ok (propertyQuery negated name, { r with rest := t })
  | '\\' :: _ => .error .propertyUnknown
  | c :: _ => .ok (.property negated (.named (String.singleton c)), r.next)

def isBoundaryLetter (c : Char) : Bool := c.isAlpha || c == '-'

/-- After `b`: a name in braces makes a special boundary, and a count is left to be read. -/
def readBoundary (r : Reader) : Except Error (Primitive × Reader) :=
  match r.rest with
  | '\x7b' :: _ =>
    match r.next.rest with
    | [] => .error .boundaryUnknown
    | c :: _ =>
      if isBoundaryLetter c then
        let (name, r) := r.next.collect isBoundaryLetter
        match r.rest with
        | '\x7d' :: t =>
          let r := { r with rest := t }
          match String.ofList name with
          | "start" => .ok (.anchor .wordStart, r)
          | "end" => .ok (.anchor .wordEnd, r)
          | "start-half" => .ok (.anchor .wordStartHalf, r)
          | "end-half" => .ok (.anchor .wordEndHalf, r)
          | _ => .error .boundaryUnknown
        | _ => .error .boundaryUnknown
      else .ok (.anchor .wordBoundary, r)
  | _ => .ok (.anchor .wordBoundary, r)

def readEscape (r : Reader) : Except Error (Primitive × Reader) :=
  match r.rest with
  | [] => .error .escapeUnfinished
  | c :: t =>
    let plain (c : Char) : Except Error (Primitive × Reader) :=
      .ok (.literal ⟨c, false⟩, { r with rest := t })
    let place (a : Anchor) : Except Error (Primitive × Reader) :=
      .ok (.anchor a, { r with rest := t })
    let short (negated : Bool) (c : ShortClass) : Except Error (Primitive × Reader) :=
      .ok (.short negated c, { r with rest := t })
    if c.isDigit then .error .backReference
    else if isEscapable c then plain c
    else
      match c with
      | 'x' => readHex 2 r.next
      | 'u' => readHex 4 r.next
      | 'U' => readHex 8 r.next
      | 'p' => readProperty false r.next
      | 'P' => readProperty true r.next
      | 'd' => short false .digit
      | 's' => short false .space
      | 'w' => short false .word
      | 'D' => short true .digit
      | 'S' => short true .space
      | 'W' => short true .word
      | 'a' => plain '\x07'
      | 'f' => plain '\x0C'
      | 't' => plain '\t'
      | 'n' => plain '\n'
      | 'r' => plain '\r'
      | 'v' => plain '\x0B'
      | 'A' => place .textStart
      | 'z' => place .textEnd
      | 'B' => place .notWordBoundary
      | '<' => place .wordStart
      | '>' => place .wordEnd
      | 'b' => readBoundary { r with rest := t }
      | _ => .error .escapeUnknown

def asciiClass? (t : Text) : Option (SetItem × Text) := do
  match t with
  | ':' :: t =>
    let (negated, t) := match t with
      | '^' :: t => (true, t)
      | t => (false, t)
    let name := t.takeWhile (· != ':')
    match t.drop name.length with
    | ':' :: ']' :: t =>
      let c ← AsciiClass.ofName? (String.ofList name)
      return (.ascii negated c, t)
    | _ => none
  | _ => none

def readDashes : Nat → List SetItem → Reader → List SetItem × Reader
  | 0, is, r => (is, r)
  | fuel + 1, is, r =>
    match r.rest with
    | '-' :: _ => readDashes fuel (.char ⟨'-', false⟩ :: is) r.next
    | _ => (is, r)

/-- After the opening bracket: whether the set is negated, and the characters that stand for
themselves only here, last first. -/
def openSet (r : Reader) : Bool × List SetItem × Reader :=
  let r := r.skip
  let (negated, r) := match r.rest with
    | '^' :: _ => (true, r.next)
    | _ => (false, r)
  let (is, r) := readDashes r.rest.length [] r
  match is, r.rest with
  | [], ']' :: _ => (negated, [.char ⟨']', false⟩], r.next)
  | _, _ => (negated, is, r)

def readSetPrimitive (r : Reader) : Except Error (Primitive × Reader) :=
  match r.rest with
  | [] => .error .setUnclosed
  | '\\' :: t => readEscape { r with rest := t }
  | c :: t => .ok (.literal ⟨c, false⟩, { r with rest := t })

def readSetRange (r : Reader) : Except Error (SetItem × Reader) := do
  let (lo, r) ← readSetPrimitive r
  let r := r.skip
  match r.rest with
  | [] => .error .setUnclosed
  | '-' :: _ =>
    if r.peekNext = some ']' ∨ r.peekNext = some '-' then return (← lo.toItem, r)
    else
      let (hi, r) ← readSetPrimitive r.next
      let lo ← lo.toLiteral
      let hi ← hi.toLiteral
      if lo.char ≤ hi.char then return (.range lo hi, r) else .error .setRange
  | _ => return (← lo.toItem, r)

/-- The members read so far, last first, joined to the operation that waits for them. -/
def closeSet (waiting : Option (SetOp × SetExpr)) (is : List SetItem) : SetExpr :=
  match waiting with
  | none => .items is.reverse
  | some (o, l) => .op o l (.items is.reverse)

def readSet : Nat → Option (SetOp × SetExpr) → List SetItem → Reader →
    Except Error (SetExpr × Reader)
  | 0, _, _, _ => .error .setUnclosed
  | fuel + 1, waiting, is, r => do
    let r := r.skip
    match r.rest with
    | [] => .error .setUnclosed
    | ']' :: t => return (closeSet waiting is, { r with rest := t })
    | '[' :: t =>
      match asciiClass? t with
      | some (i, t) => readSet fuel waiting (i :: is) { r with rest := t }
      | none =>
        let (negated, inner, r) := openSet { r with rest := t }
        let (body, r) ← readSet fuel none inner r
        readSet fuel waiting (.bracket negated body :: is) r
    | '&' :: '&' :: t =>
      readSet fuel (some (.intersection, closeSet waiting is)) [] { r with rest := t }
    | '-' :: '-' :: t =>
      readSet fuel (some (.difference, closeSet waiting is)) [] { r with rest := t }
    | '~' :: '~' :: t =>
      readSet fuel (some (.symmetricDifference, closeSet waiting is)) [] { r with rest := t }
    | _ =>
      let (i, r) ← readSetRange r
      readSet fuel waiting (i :: is) r

/-- A count has at most 32 bits; blanks around it do not count. -/
def readCount (r : Reader) : Except Error (Nat × Reader) :=
  let r := { r with rest := r.rest.dropWhile isBlank }
  let (digits, r) := r.collect Char.isDigit
  let (_, r) := r.collect isBlank
  let n := numberOf 10 (fun c => c.toNat - '0'.toNat) digits
  if digits.isEmpty ∨ Nat.pow 2 32 ≤ n then .error .countInvalid else .ok (n, r)

def readCounts (r : Reader) : Except Error (Count × Reader) := do
  let (least, r) ← readCount r
  let (count, r) ← match r.rest with
    | ',' :: _ =>
      match r.next.rest with
      | '\x7d' :: _ => pure (Count.mk least none, r.next)
      | _ => do
        let (most, r) ← readCount r.next
        pure (Count.mk least (some most), r)
    | _ => pure (Count.mk least (some least), r)
  match r.rest with
  | '\x7d' :: _ =>
    if count.most.all (count.least ≤ ·) then return (count, r.next) else .error .countInvalid
  | _ => .error .countUnclosed

def repeatLast (count : Count) (greedy : Bool) : List Expr → Except Error (List Expr)
  | [] | .empty :: _ | .flags _ :: _ => .error .nothingToRepeat
  | e :: es => .ok (.repeated count greedy e :: es)

def readGreed (r : Reader) : Bool × Reader :=
  match r.rest with
  | '?' :: t => (false, { r with rest := t })
  | _ => (true, r)

def readFlags (on : Bool) : List (Option Flag) → FlagChanges → Text →
    Except Error (FlagChanges × Text)
  | _, _, [] => .error .flagUnknown
  | seen, changes, c :: t =>
    if c = ':' ∨ c = ')' then
      if seen.head? = some none then .error .flagDangling else .ok (changes.reverse, c :: t)
    else if c = '-' then
      if seen.contains none then .error .flagRepeated
      else readFlags false (none :: seen) changes t
    else
      match Flag.ofChar? c with
      | none => .error .flagUnknown
      | some f =>
        if seen.contains (some f) then .error .flagRepeated
        else readFlags on (some f :: seen) ((f, on) :: changes) t

def isAlphabetic (c : Char) : Bool :=
  if c.toNat < 0x80 then c.isAlpha
  else Unicode.alphabetic.has c.toNat || Unicode.newerLetters.has c.toNat

def isAlphanumeric (c : Char) : Bool :=
  isAlphabetic c || c.isDigit || Unicode.decimalNumber.has c.toNat ||
    Unicode.letterNumber.has c.toNat || Unicode.otherNumber.has c.toNat ||
    Unicode.newerNumbers.has c.toNat

def isGroupName : Text → Bool
  | [] => false
  | c :: t =>
    (c == '_' || isAlphabetic c) &&
      t.all fun c => ['_', '.', '[', ']'].contains c || isAlphanumeric c

inductive Opening
  | group (kind : GroupKind)
  | flags (changes : FlagChanges)

def readNamed (r : Reader) (t : Text) : Except Error (Opening × Reader) :=
  let name := t.takeWhile (· != '>')
  match t.drop name.length with
  | [] => .error .groupName
  | _ :: t =>
    if !isGroupName name then .error .groupName
    else if r.names.contains name then .error .groupNameRepeated
    else .ok (.group (.capturing (r.groups + 1)),
      { r with rest := t, groups := r.groups + 1, names := name :: r.names })

def readOpening (r : Reader) : Except Error (Opening × Reader) :=
  let r := r.skip
  match r.rest with
  | '?' :: '=' :: _ | '?' :: '!' :: _ | '?' :: '<' :: '=' :: _ | '?' :: '<' :: '!' :: _ =>
    .error .lookAround
  | '?' :: 'P' :: '<' :: t | '?' :: '<' :: t => readNamed r t
  | '?' :: t => do
    let (changes, t) ← readFlags true [] [] t
    match t with
    | ':' :: t => return (.group (.plain changes), { r with rest := t })
    | _ =>
      if changes.isEmpty then .error .nothingToRepeat
      else return (.flags changes, { r with rest := t.tail })
  | _ => .ok (.group (.capturing (r.groups + 1)), { r with groups := r.groups + 1 })

def blanksAfter (changes : FlagChanges) (old : Bool) : Bool :=
  match changes.find? fun c => c.1 = .ignoreBlanks with
  | some c => c.2
  | none => old

def groupChanges : GroupKind → FlagChanges
  | .capturing _ => []
  | .plain changes => changes

/-- The branches read so far, last first, and the constructs of the last one, last first. -/
def closeBranches (branches : List Expr) (es : List Expr) : Expr :=
  Expr.ofBranches (Expr.ofBranch es.reverse :: branches).reverse

def readBranches : Nat → List Expr → List Expr → Reader → Except Error (Expr × Reader)
  | 0, _, _, _ => .error .tooDeep
  | fuel + 1, branches, es, r => do
    let r := r.skip
    match r.rest with
    | [] | ')' :: _ => return (closeBranches branches es, r)
    | '|' :: t =>
      readBranches fuel (Expr.ofBranch es.reverse :: branches) [] { r with rest := t }
    | '(' :: t =>
      match ← readOpening { r with rest := t } with
      | (.flags changes, r) =>
        readBranches fuel branches (.flags changes :: es)
          { r with ignoreBlanks := blanksAfter changes r.ignoreBlanks }
      | (.group kind, inner) =>
        let (body, inner) ← readBranches fuel [] []
          { inner with ignoreBlanks := blanksAfter (groupChanges kind) r.ignoreBlanks }
        match inner.rest with
        | ')' :: t =>
          readBranches fuel branches (.group kind body :: es)
            { inner with rest := t, ignoreBlanks := r.ignoreBlanks }
        | _ => .error .groupUnclosed
    | '[' :: t =>
      let (negated, is, r) := openSet { r with rest := t }
      let (body, r) ← readSet r.rest.length none is r
      readBranches fuel branches (.bracket negated body :: es) r
    | '?' :: t =>
      let (greedy, r) := readGreed { r with rest := t }
      readBranches fuel branches (← repeatLast ⟨0, some 1⟩ greedy es) r
    | '*' :: t =>
      let (greedy, r) := readGreed { r with rest := t }
      readBranches fuel branches (← repeatLast ⟨0, none⟩ greedy es) r
    | '+' :: t =>
      let (greedy, r) := readGreed { r with rest := t }
      readBranches fuel branches (← repeatLast ⟨1, none⟩ greedy es) r
    | '\x7b' :: _ =>
      let (count, r) ← readCounts r.next
      let (greedy, r) := readGreed r
      readBranches fuel branches (← repeatLast count greedy es) r
    | '\\' :: t =>
      let (p, r) ← readEscape { r with rest := t }
      readBranches fuel branches (p.toExpr :: es) r
    | '.' :: t => readBranches fuel branches (.dot :: es) { r with rest := t }
    | '^' :: t => readBranches fuel branches (.anchor .lineStart :: es) { r with rest := t }
    | '$' :: t => readBranches fuel branches (.anchor .lineEnd :: es) { r with rest := t }
    | c :: t => readBranches fuel branches (.char ⟨c, false⟩ :: es) { r with rest := t }

end Reader

def Expr.read (ignoreBlanks : Bool) (t : Text) : Except Error Expr := do
  let (e, r) ← Reader.readBranches (t.length + 1) [] [] ⟨t, ignoreBlanks, 0, []⟩
  if r.rest.isEmpty then
    if e.depth ≤ Expr.maxDepth then return e else .error .tooDeep
  else .error .groupUnopened

end Lexing.Pattern
