import Lexing.Catalogue.FileName
import Lexing.Text.Lowercase
import Lexing.Text.Quoted
import Lexing.Token
import Std.Data.HashMap

/-!
# Catalogues of lexers

A catalogue holds lexers with their names, aliases, file name patterns and media types. For each way
of asking there is a table from keys to places in the list of entries, and the last entry with a key
is the one that is found. One table is asked without regard to case: an entry's own name counts
there before any alias or extension, and of those the first that was registered.
-/
set_option autoImplicit false

namespace Lexing

structure LexerInfo where
  name : String
  aliases : List String := []
  filenames : List String := []
  mimetypes : List String := []
deriving DecidableEq, Repr

namespace LexerInfo

def shortName (i : LexerInfo) : String := i.aliases.headD i.name

def extensions (i : LexerInfo) : List String :=
  i.filenames.flatMap fun p => (FileName.extensions p.toList).map String.ofList

def literalNames (i : LexerInfo) : List String :=
  i.filenames.filter fun p => FileName.isLiteral p.toList

def shown (i : LexerInfo) : String :=
  "LexerInfo \x7b name: " ++ quotedString i.name ++ ", aliases: " ++ quotedNames i.aliases ++
    ", filenames: " ++ quotedNames i.filenames ++ ", mimetypes: " ++ quotedNames i.mimetypes ++
    " \x7d"

end LexerInfo

structure CatalogueEntry where
  info : LexerInfo
  lexer : Lexer

namespace CatalogueEntry

def shown (e : CatalogueEntry) : String :=
  "RegisteredLexer \x7b info: " ++ e.info.shown ++ ", lexer: " ++ quotedString e.lexer.name ++
    " \x7d"

end CatalogueEntry

abbrev KeyTable := Std.HashMap String Nat

namespace KeyTable

/-- Every key leads to `slot`, also one that led elsewhere. -/
def putAll (t : KeyTable) (keys : List String) (slot : Nat) : KeyTable :=
  keys.foldl (fun t k => t.insert k slot) t

/-- Every key that led nowhere leads to `slot`. -/
def putNew (t : KeyTable) (keys : List String) (slot : Nat) : KeyTable :=
  keys.foldl (fun t k => t.insertIfNew k slot) t

end KeyTable

structure Catalogue where
  entries : List CatalogueEntry
  anyCase : KeyTable
  names : KeyTable
  aliases : KeyTable
  extensions : KeyTable
  filenames : KeyTable
  mimetypes : KeyTable

/-- What a lexer is asked for by. The first key that is given decides. -/
structure LexerQuery where
  lexer : Option String := none
  mimetype : Option String := none
  filename : Option String := none
deriving DecidableEq, Repr

inductive SelectionError
  | name (name : String)
  | mimetype (mimetype : String)
  | filename (filename : String)
  | emptyQuery
deriving DecidableEq, Repr

namespace SelectionError

def message : SelectionError → String
  | name n => "no lexer named `" ++ n ++ "`"
  | mimetype m => "no lexer for mimetype `" ++ m ++ "`"
  | filename f => "no lexer for filename `" ++ f ++ "`"
  | emptyQuery => "no lexer requested: give a lexer, mimetype or filename"

end SelectionError

namespace LexerInfo

/-- In lower case: the aliases, then the extensions without their dots. -/
def looseKeys (i : LexerInfo) : List String :=
  i.aliases.map lowercaseString ++
    i.extensions.map fun e => lowercaseString (String.ofList (e.toList.dropWhile (· == '.')))

end LexerInfo

namespace Catalogue

def empty : Catalogue := ⟨[], ∅, ∅, ∅, ∅, ∅, ∅⟩

instance : Inhabited Catalogue := ⟨empty⟩

def register (c : Catalogue) (e : CatalogueEntry) : Catalogue :=
  let slot := c.entries.length
  { entries := c.entries ++ [e]
    anyCase := KeyTable.putNew (c.anyCase.insert (lowercaseString e.info.name) slot)
      e.info.looseKeys slot
    names := c.names.insert e.info.name slot
    aliases := KeyTable.putAll c.aliases e.info.aliases slot
    extensions := KeyTable.putAll c.extensions e.info.extensions slot
    filenames := KeyTable.putAll c.filenames e.info.literalNames slot
    mimetypes := KeyTable.putAll c.mimetypes e.info.mimetypes slot }

def registerAll (c : Catalogue) (es : List CatalogueEntry) : Catalogue := es.foldl register c

def lookup (c : Catalogue) (t : KeyTable) (key : String) : Option CatalogueEntry := do
  c.entries[← t[key]?]?

/-- By name, alias or extension without its dot, in any case. -/
def find? (c : Catalogue) (key : String) : Option CatalogueEntry :=
  c.lookup c.anyCase (lowercaseString key)

def byName? (c : Catalogue) (name : String) : Option CatalogueEntry := c.lookup c.names name

def byAlias? (c : Catalogue) (name : String) : Option CatalogueEntry := c.lookup c.aliases name

/-- The extension is given with its dot. -/
def byExtension? (c : Catalogue) (ext : String) : Option CatalogueEntry :=
  c.lookup c.extensions ext

def byMimetype? (c : Catalogue) (mimetype : String) : Option CatalogueEntry :=
  c.lookup c.mimetypes mimetype

/-- By the base name of a path, and if that is not known, by its extension. -/
def byFilename? (c : Catalogue) (path : String) : Option CatalogueEntry :=
  match c.lookup c.filenames (String.ofList (FileName.baseName path.toList)) with
  | some e => some e
  | none => (FileName.extension? path.toList).bind fun ext => c.byExtension? (String.ofList ext)

def select (c : Catalogue) (q : LexerQuery) : Except SelectionError CatalogueEntry :=
  match q with
  | ⟨some name, _, _⟩ => (c.find? name).elim (.error (.name name)) .ok
  | ⟨none, some mimetype, _⟩ =>
    (c.byMimetype? mimetype).elim (.error (.mimetype mimetype)) .ok
  | ⟨none, none, some filename⟩ =>
    (c.byFilename? filename).elim (.error (.filename filename)) .ok
  | ⟨none, none, none⟩ => .error .emptyQuery

end Catalogue

end Lexing
