import Lexing.Wire.Request

/-!
# Responses

What is answered to a request. Every failure is an answer too: an object with the member `error`.
-/
set_option autoImplicit false

namespace Lexing

inductive Response
  | tokens (tokens : List Token)
  | lexerName (name : String)
  | lexers (infos : List LexerInfo)
  | error (message : String)
deriving DecidableEq, Repr

inductive RequestError
  | malformed (error : DecodeError)
  | selection (error : SelectionError)
  | options (error : OptionError)
deriving DecidableEq, Repr

namespace RequestError

def message : RequestError → String
  | malformed e => "malformed request: " ++ e.message
  | selection e => e.message
  | options e => "bad options: " ++ e.message

end RequestError

namespace Response

def encode : Response → Json
  | tokens ts => .arr (ts.map Token.encode)
  | lexerName name => .ofString name
  | lexers infos => .arr (infos.map LexerInfo.encode)
  | error message => .obj [("error", .ofString message)]

end Response

namespace Catalogue

def selectFor (c : Catalogue) (q : LexerQuery) : Except RequestError CatalogueEntry :=
  (c.select q).mapError .selection

/-- First the lexer is selected, then the options are understood, then the text is lexed. -/
def handle (c : Catalogue) : Request → Except RequestError Response
  | .tokenize q options text => do
    let e ← c.selectFor q
    let o ← (Options.ofPairs options).mapError .options
    return .tokens (e.lexer.tokens (o.prepare text).text)
  | .lexerNameFor q => do return .lexerName (← c.selectFor q).info.shortName
  | .getAllLexers => return .lexers (c.entries.map CatalogueEntry.info)

def answer (c : Catalogue) (request : Text) : Response :=
  let answered : Except RequestError Response := do
    let r ← (Decoder.ofText Request.decode request).mapError .malformed
    c.handle r
  match answered with
  | .ok r => r
  | .error e => .error e.message

def respond (c : Catalogue) (request : String) : String := (c.answer request.toList).encode.render

end Catalogue

end Lexing
