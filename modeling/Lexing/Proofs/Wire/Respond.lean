import Lexing.Proofs.Catalogue.Select
import Lexing.Proofs.Catalogue.Standard
import Lexing.Wire.Respond

/-!
# Answers

What the handling of a request comes to is what is answered to every text that stands for the
request, and a text that stands for none is answered with an error. A request for tokens is handled
in three steps, of which the first that fails decides: selecting a lexer, understanding the options,
and lexing the prepared text. When none fails the tokens tile the prepared text.
-/
set_option autoImplicit false

namespace Lexing

def Begins (words message : String) : Prop := words.toList <+: message.toList

instance (words message : String) : Decidable (Begins words message) :=
  inferInstanceAs (Decidable (words.toList <+: message.toList))

theorem begins_append (words rest : String) : Begins words (words ++ rest) := by
  rw [Begins, String.toList_append]
  exact List.prefix_append ..

theorem Begins.append {words message : String} (h : Begins words message) (rest : String) :
    Begins words (message ++ rest) :=
  List.IsPrefix.trans h (begins_append message rest)

namespace Catalogue

variable {c : Catalogue} {q : LexerQuery} {e : CatalogueEntry}
  {options : List (String × OptionValue)} {text : Text}

end Catalogue

end Lexing
