import Lexing.Wire.Codec

/-!
# Requests

A request asks for the tokens of a text, for the short name of a lexer, or for all lexers. In JSON
it is an object with the member `method`, or an array that begins with the method. All that stands
beside the method is kept until the whole request is read, and only then understood.
-/
set_option autoImplicit false

namespace Lexing

inductive Request
  | tokenize (query : LexerQuery) (options : List (String × OptionValue)) (text : Text)
  | lexerNameFor (query : LexerQuery)
  | getAllLexers
deriving DecidableEq, Repr

inductive Method
  | tokenize
  | lexerNameFor
  | getAllLexers
deriving DecidableEq, Repr

namespace Method

def name : Method → String
  | tokenize => "tokenize"
  | lexerNameFor => "lexer_name_for"
  | getAllLexers => "get_all_lexers"

def all : List Method := [tokenize, lexerNameFor, getAllLexers]

def decode : Decoder Method := fun d => do
  let word ← Decoder.string d
  match all.find? fun m => m.name == word with
  | some m => return m
  | none => throw (.unknownVariant word (all.map name))

end Method

def putKey {α : Type} (key : String) (value : α) : List (String × α) → List (String × α)
  | [] => [(key, value)]
  | (k, v) :: rest =>
    if key = k then (key, value) :: rest
    else if key < k then (key, value) :: (k, v) :: rest
    else (k, v) :: putKey key value rest

namespace Request

/-- The members of an object of options, of which the last one counts for each name. -/
def readOptions (options : List (String × OptionValue)) :
    List (Option Text × Draft) → Except DecodeError (List (String × OptionValue))
  | [] => .ok options
  | (none, _) :: _ => .error .malformed
  | (some key, d) :: ms => do
    readOptions (putKey (String.ofList key) (← OptionValue.ofSound d) options) ms

def decodeOptions : Decoder (List (String × OptionValue))
  | .obj ms => readOptions [] ms
  | _ => .error .malformed

structure Body where
  query : LexerQuery
  options : List (String × OptionValue)
  text : Text

namespace Body

def empty : Body := ⟨⟨none, none, none⟩, [], []⟩

def queryFields : List (Field Body) :=
  LexerQuery.fields .inArray Body.query fun b q => { b with query := q }

def tokenizeSchema : Schema Body where
  start := empty
  fields := queryFields ++ [
    ⟨"options", .never, fun b d => do return { b with options := ← decodeOptions d }⟩,
    ⟨"text", .always, fun b d => do return { b with text := ← Decoder.text d }⟩]

def nameSchema : Schema Body := ⟨empty, queryFields⟩

end Body

/-- Reads what stands beside the method; `read` is how a record is found in it. -/
def ofBody (m : Method) (read : Schema Body → Except DecodeError Body) :
    Except DecodeError Request :=
  match m with
  | .tokenize => do
    let b ← read Body.tokenizeSchema
    return .tokenize b.query b.options b.text
  | .lexerNameFor => do return .lexerNameFor (← read Body.nameSchema).query
  | .getAllLexers => .ok .getAllLexers

def splitMethod (method : Option Method) (others : List (Option Text × Draft)) :
    List (Option Text × Draft) →
      Except DecodeError (Option Method × List (Option Text × Draft))
  | [] => .ok (method, others.reverse)
  | (none, _) :: _ => .error .malformed
  | (some key, d) :: ms =>
    if String.ofList key = "method" then
      match method with
      | some _ => .error (.duplicateField "method")
      | none => do splitMethod (some (← Method.decode d)) others ms
    else if d.isSound (maxLevels - 1) then splitMethod method ((some key, d) :: others) ms
    else .error .malformed

def decode : Decoder Request
  | .obj ms => do
    match ← splitMethod none [] ms with
    | (none, _) => .error (.missingField "method")
    | (some m, others) => ofBody m fun s => s.ofMembers others
  | .arr [] => .error (.missingField "method")
  | .arr (first :: rest) => do
    let m ← Method.decode first
    if !Draft.allSound (maxLevels - 1) rest then .error .malformed
    else if m = .getAllLexers ∧ !rest.isEmpty then .error .malformed
    else ofBody m fun s => s.ofItems rest
  | _ => .error .malformed

def encodeOptions (options : List (String × OptionValue)) : Json :=
  .obj (options.map fun (k, v) => (k, v.encode))

def encode : Request → Json
  | tokenize q options text =>
    .obj (("method", .ofString Method.tokenize.name) :: q.members ++
      [("options", encodeOptions options), ("text", .str text)])
  | lexerNameFor q => .obj (("method", .ofString Method.lexerNameFor.name) :: q.members)
  | getAllLexers => .obj [("method", .ofString Method.getAllLexers.name)]

end Request

end Lexing
