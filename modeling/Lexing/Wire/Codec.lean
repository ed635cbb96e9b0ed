import Lexing.Catalogue.Basic
import Lexing.Json.Basic
import Lexing.Options
import Lexing.Wire.Schema

/-!
# Values in JSON

Each type that crosses the wire, with its writer and its reader. A kind is its dotted form, and a
token is an array of its offset, its kind and its text.
-/
set_option autoImplicit false

namespace Lexing

/-- The most arrays and objects inside each other in a value that is kept to be understood later. -/
def maxLevels : Nat := 127

namespace Kind

def encode (k : Kind) : Json := .ofString k.dotted

def decode : Decoder Kind := fun d => ofDotted <$> Decoder.string d

end Kind

namespace Token

def encode (t : Token) : Json := .arr [.int t.offset, t.kind.encode, .str t.text]

def decode : Decoder Token
  | .arr [offset, kind, text] => do
    let offset ← Decoder.nat offset
    let kind ← Kind.decode kind
    return ⟨offset, kind, ← Decoder.text text⟩
  | _ => .error .malformed

end Token

namespace OptionValue

def encode : OptionValue → Json
  | bool b => .bool b
  | int n => .int n
  | word w => .ofString w

def ofSound : Decoder OptionValue
  | .bool b => .ok (bool b)
  | .num (.int n) =>
    if -Int.pow 2 63 ≤ n ∧ n < Int.pow 2 63 then .ok (int n) else .error (.noVariant "OptionValue")
  | .str (some t) => .ok (word (String.ofList t))
  | _ => .error (.noVariant "OptionValue")

def decode : Decoder OptionValue := fun d =>
  if d.isSound maxLevels then ofSound d else .error .malformed

end OptionValue

namespace Options

def encode (o : Options) : Json :=
  .obj [("stripnl", .bool o.stripNewlines), ("stripall", .bool o.stripBlanks),
    ("ensurenl", .bool o.ensureNewline), ("tabsize", .int o.tabSize)]

def schema : Schema Options where
  start := .standard
  fields := [
    ⟨"stripnl", .never, fun o d => do return { o with stripNewlines := ← Decoder.bool d }⟩,
    ⟨"stripall", .never, fun o d => do return { o with stripBlanks := ← Decoder.bool d }⟩,
    ⟨"ensurenl", .never, fun o d => do return { o with ensureNewline := ← Decoder.bool d }⟩,
    ⟨"tabsize", .never, fun o d => do return { o with tabSize := ← Decoder.nat d }⟩]

def decode : Decoder Options := schema.decode

end Options

namespace LexerInfo

def encode (i : LexerInfo) : Json :=
  .obj [("name", .ofString i.name), ("aliases", .ofStrings i.aliases),
    ("filenames", .ofStrings i.filenames), ("mimetypes", .ofStrings i.mimetypes)]

def names : Decoder (List String) := Decoder.list Decoder.string

def schema : Schema LexerInfo where
  start := ⟨"", [], [], []⟩
  fields := [
    ⟨"name", .always, fun i d => do return { i with name := ← Decoder.string d }⟩,
    ⟨"aliases", .never, fun i d => do return { i with aliases := ← names d }⟩,
    ⟨"filenames", .never, fun i d => do return { i with filenames := ← names d }⟩,
    ⟨"mimetypes", .never, fun i d => do return { i with mimetypes := ← names d }⟩]

def decode : Decoder LexerInfo := schema.decode

end LexerInfo

namespace LexerQuery

def members (q : LexerQuery) : List (String × Json) :=
  [("lexer", .ofOption .ofString q.lexer), ("mimetype", .ofOption .ofString q.mimetype),
    ("filename", .ofOption .ofString q.filename)]

def encode (q : LexerQuery) : Json := .obj q.members

def key : Decoder (Option String) := Decoder.option Decoder.string

def fields {α : Type} (need : Need) (get : α → LexerQuery) (set : α → LexerQuery → α) :
    List (Field α) := [
  ⟨"lexer", need, fun a d => do return set a { get a with lexer := ← key d }⟩,
  ⟨"mimetype", need, fun a d => do return set a { get a with mimetype := ← key d }⟩,
  ⟨"filename", need, fun a d => do return set a { get a with filename := ← key d }⟩]

def schema : Schema LexerQuery := ⟨⟨none, none, none⟩, fields .never id fun _ q => q⟩

def decode : Decoder LexerQuery := schema.decode

end LexerQuery

end Lexing
