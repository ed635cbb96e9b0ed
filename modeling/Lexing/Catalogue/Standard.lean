import Lexing.Catalogue.Basic
import Lexing.Machine.Build
import Lexing.Run.Basic

/-!
# The standard lexers

The lexers that a catalogue begins with: plain text, settings in sections, and differences between
files.
-/
set_option autoImplicit false

namespace Lexing

namespace Entry

def token (pattern : String) (path : List String) : Entry := .rule pattern (.kind ⟨path⟩) .stay

end Entry

namespace Grammar

def plainText : Grammar :=
  (empty "text" .standard).define "root" [.token "(?s).+" ["Text"]]

def settings : Grammar :=
  (empty "ini" .standard).define "root" [
    .token "\\s+" ["Text", "Whitespace"],
    .token "[;#].*" ["Comment", "Single"],
    .token "\\[.*?\\]$" ["Keyword"],
    .rule "(.*?)([ \\t]*)(=)([ \\t]*)(.*(?:\\n[ \\t].+)*)"
      (.groups [.kind ⟨["Name", "Attribute"]⟩, .kind .whitespace, .kind ⟨["Operator"]⟩,
        .kind .whitespace, .kind ⟨["Literal", "String"]⟩])
      .stay]

/-- One token for each line, by what the line begins with. -/
def differences : Grammar :=
  (empty "diff" .standard).define "root" [
    .token " .*\\n" ["Text"],
    .token "\\+.*\\n" ["Generic", "Inserted"],
    .token "-.*\\n" ["Generic", "Deleted"],
    .token "!.*\\n" ["Generic", "Strong"],
    .token "@.*\\n" ["Generic", "Subheading"],
    .token "([Ii]ndex|diff).*\\n" ["Generic", "Heading"],
    .token "=.*\\n" ["Generic", "Heading"],
    .token ".*\\n" ["Text"]]

end Grammar

namespace Catalogue

def plainTextInfo : LexerInfo := ⟨"Text only", ["text"], ["*.txt"], ["text/plain"]⟩

def settingsInfo : LexerInfo :=
  ⟨"INI", ["ini", "cfg", "dosini"], ["*.ini", "*.cfg", "*.inf"], ["text/x-ini", "text/inf"]⟩

def differencesInfo : LexerInfo :=
  ⟨"Diff", ["diff", "udiff"], ["*.diff", "*.patch"], ["text/x-diff", "text/x-patch"]⟩

def addGrammar (c : Catalogue) (info : LexerInfo) (g : Grammar) : Except BuildError Catalogue := do
  return c.register ⟨info, (← g.build false).toLexer⟩

def standard : Except BuildError Catalogue := do
  let c ← empty.addGrammar plainTextInfo .plainText
  let c ← c.addGrammar settingsInfo .settings
  c.addGrammar differencesInfo .differences

end Catalogue

end Lexing
