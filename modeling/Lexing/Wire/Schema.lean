import Lexing.Json.Draft

/-!
# Records in JSON

A record is read from an object, whose members may stand in any order and may include unknown ones,
or from an array of the fields in order. The members are looked at in the order of the text, and the
first fault decides. A field that is not there keeps what the record has for it at the start, unless
the field is needed.
-/
set_option autoImplicit false

namespace Lexing

inductive DecodeError
  | malformed
  | missingField (name : String)
  | duplicateField (name : String)
  | unknownVariant (name : String) (known : List String)
  | noVariant (type : String)
deriving DecidableEq, Repr

namespace DecodeError

def message : DecodeError → String
  | malformed => "not the JSON that was expected"
  | missingField name => "missing field `" ++ name ++ "`"
  | duplicateField name => "duplicate field `" ++ name ++ "`"
  | unknownVariant name known =>
    "unknown variant `" ++ name ++ "`, expected one of " ++
      ", ".intercalate (known.map fun k => "`" ++ k ++ "`")
  | noVariant type => "data did not match any variant of untagged enum " ++ type

end DecodeError

abbrev Decoder (α : Type) := Draft → Except DecodeError α

inductive Need
  | never
  | inArray
  | always
deriving DecidableEq, Repr

structure Field (α : Type) where
  name : String
  need : Need
  read : α → Decoder α

structure Schema (α : Type) where
  start : α
  fields : List (Field α)

namespace Schema

variable {α : Type}

/-- Reads the members one after the other; `seen` are the names of the fields met so far. -/
def readMembers (fields : List (Field α)) (seen : List String) (record : α) :
    List (Option Text × Draft) → Except DecodeError (α × List String)
  | [] => .ok (record, seen)
  | (none, _) :: _ => .error .malformed
  | (some key, d) :: ms =>
    let name := String.ofList key
    match fields.find? fun f => f.name == name with
    | some f =>
      if seen.contains name then .error (.duplicateField name)
      else do readMembers fields (name :: seen) (← f.read record d) ms
    | none => if d.isWhole then readMembers fields seen record ms else .error .malformed

def ofMembers (s : Schema α) (ms : List (Option Text × Draft)) : Except DecodeError α := do
  let (record, seen) ← readMembers s.fields [] s.start ms
  match s.fields.find? fun f => f.need = .always && !seen.contains f.name with
  | some f => .error (.missingField f.name)
  | none => return record

/-- Reads one field after the other from the items of an array, all of which have to be used. -/
def readItems (record : α) : List (Field α) → List Draft → Except DecodeError α
  | [], [] => .ok record
  | [], _ :: _ => .error .malformed
  | f :: fs, [] => if f.need = .never then readItems record fs [] else .error .malformed
  | f :: fs, d :: ds => do readItems (← f.read record d) fs ds

def ofItems (s : Schema α) (ds : List Draft) : Except DecodeError α := readItems s.start s.fields ds

def decode (s : Schema α) : Decoder α
  | .obj ms => s.ofMembers ms
  | .arr ds => s.ofItems ds
  | _ => .error .malformed

end Schema

namespace Decoder

def text : Decoder Text
  | .str (some t) => .ok t
  | _ => .error .malformed

def string : Decoder String := fun d => String.ofList <$> text d

def bool : Decoder Bool
  | .bool b => .ok b
  | _ => .error .malformed

def nat : Decoder Nat
  | .num (.int n) => if 0 ≤ n ∧ n < Int.pow 2 64 then .ok n.toNat else .error .malformed
  | _ => .error .malformed

def list {α : Type} (item : Decoder α) : Decoder (List α)
  | .arr ds => ds.mapM item
  | _ => .error .malformed

def option {α : Type} (value : Decoder α) : Decoder (Option α)
  | .null => .ok none
  | d => some <$> value d

def ofText {α : Type} (decode : Decoder α) (t : Text) : Except DecodeError α :=
  let (d, clean) := Draft.ofText t
  match decode d with
  | .error e => .error e
  | .ok a => if clean then .ok a else .error .malformed

end Decoder

end Lexing
