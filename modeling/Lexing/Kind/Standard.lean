import Lexing.Kind.Basic

/-!
# The standard kinds

Every kind that a consumer can rely on, with the label it is listed under and the short name that
stands for it in style sheets. The order is the order of listing.
-/
set_option autoImplicit false

namespace Lexing

structure StandardKind where
  label : String
  kind : Kind
  short : String
deriving DecidableEq, Repr

namespace Kind

def standard : List StandardKind := [
  ⟨"ROOT", ⟨[]⟩, ""⟩,
  ⟨"TEXT", ⟨["Text"]⟩, ""⟩,
  ⟨"WHITESPACE", ⟨["Text", "Whitespace"]⟩, "w"⟩,
  ⟨"ESCAPE", ⟨["Escape"]⟩, "esc"⟩,
  ⟨"ERROR", ⟨["Error"]⟩, "err"⟩,
  ⟨"OTHER", ⟨["Other"]⟩, "x"⟩,
  ⟨"KEYWORD", ⟨["Keyword"]⟩, "k"⟩,
  ⟨"KEYWORD_CONSTANT", ⟨["Keyword", "Constant"]⟩, "kc"⟩,
  ⟨"KEYWORD_DECLARATION", ⟨["Keyword", "Declaration"]⟩, "kd"⟩,
  ⟨"KEYWORD_NAMESPACE", ⟨["Keyword", "Namespace"]⟩, "kn"⟩,
  ⟨"KEYWORD_PSEUDO", ⟨["Keyword", "Pseudo"]⟩, "kp"⟩,
  ⟨"KEYWORD_RESERVED", ⟨["Keyword", "Reserved"]⟩, "kr"⟩,
  ⟨"KEYWORD_TYPE", ⟨["Keyword", "Type"]⟩, "kt"⟩,
  ⟨"NAME", ⟨["Name"]⟩, "n"⟩,
  ⟨"NAME_ATTRIBUTE", ⟨["Name", "Attribute"]⟩, "na"⟩,
  ⟨"NAME_BUILTIN", ⟨["Name", "Builtin"]⟩, "nb"⟩,
  ⟨"NAME_BUILTIN_PSEUDO", ⟨["Name", "Builtin", "Pseudo"]⟩, "bp"⟩,
  ⟨"NAME_CLASS", ⟨["Name", "Class"]⟩, "nc"⟩,
  ⟨"NAME_CONSTANT", ⟨["Name", "Constant"]⟩, "no"⟩,
  ⟨"NAME_DECORATOR", ⟨["Name", "Decorator"]⟩, "nd"⟩,
  ⟨"NAME_ENTITY", ⟨["Name", "Entity"]⟩, "ni"⟩,
  ⟨"NAME_EXCEPTION", ⟨["Name", "Exception"]⟩, "ne"⟩,
  ⟨"NAME_FUNCTION", ⟨["Name", "Function"]⟩, "nf"⟩,
  ⟨"NAME_PROPERTY", ⟨["Name", "Property"]⟩, "py"⟩,
  ⟨"NAME_LABEL", ⟨["Name", "Label"]⟩, "nl"⟩,
  ⟨"NAME_NAMESPACE", ⟨["Name", "Namespace"]⟩, "nn"⟩,
  ⟨"NAME_OTHER", ⟨["Name", "Other"]⟩, "nx"⟩,
  ⟨"NAME_TAG", ⟨["Name", "Tag"]⟩, "nt"⟩,
  ⟨"NAME_VARIABLE", ⟨["Name", "Variable"]⟩, "nv"⟩,
  ⟨"NAME_VARIABLE_CLASS", ⟨["Name", "Variable", "Class"]⟩, "vc"⟩,
  ⟨"NAME_VARIABLE_GLOBAL", ⟨["Name", "Variable", "Global"]⟩, "vg"⟩,
  ⟨"NAME_VARIABLE_INSTANCE", ⟨["Name", "Variable", "Instance"]⟩, "vi"⟩,
  ⟨"LITERAL", ⟨["Literal"]⟩, "l"⟩,
  ⟨"LITERAL_DATE", ⟨["Literal", "Date"]⟩, "ld"⟩,
  ⟨"STRING", ⟨["Literal", "String"]⟩, "s"⟩,
  ⟨"STRING_BACKTICK", ⟨["Literal", "String", "Backtick"]⟩, "sb"⟩,
  ⟨"STRING_CHAR", ⟨["Literal", "String", "Char"]⟩, "sc"⟩,
  ⟨"STRING_DOC", ⟨["Literal", "String", "Doc"]⟩, "sd"⟩,
  ⟨"STRING_DOUBLE", ⟨["Literal", "String", "Double"]⟩, "s2"⟩,
  ⟨"STRING_ESCAPE", ⟨["Literal", "String", "Escape"]⟩, "se"⟩,
  ⟨"STRING_HEREDOC", ⟨["Literal", "String", "Heredoc"]⟩, "sh"⟩,
  ⟨"STRING_INTERPOL", ⟨["Literal", "String", "Interpol"]⟩, "si"⟩,
  ⟨"STRING_OTHER", ⟨["Literal", "String", "Other"]⟩, "sx"⟩,
  ⟨"STRING_REGEX", ⟨["Literal", "String", "Regex"]⟩, "sr"⟩,
  ⟨"STRING_SINGLE", ⟨["Literal", "String", "Single"]⟩, "s1"⟩,
  ⟨"STRING_SYMBOL", ⟨["Literal", "String", "Symbol"]⟩, "ss"⟩,
  ⟨"NUMBER", ⟨["Literal", "Number"]⟩, "m"⟩,
  ⟨"NUMBER_BIN", ⟨["Literal", "Number", "Bin"]⟩, "mb"⟩,
  ⟨"NUMBER_FLOAT", ⟨["Literal", "Number", "Float"]⟩, "mf"⟩,
  ⟨"NUMBER_HEX", ⟨["Literal", "Number", "Hex"]⟩, "mh"⟩,
  ⟨"NUMBER_INTEGER", ⟨["Literal", "Number", "Integer"]⟩, "mi"⟩,
  ⟨"NUMBER_INTEGER_LONG", ⟨["Literal", "Number", "Integer", "Long"]⟩, "il"⟩,
  ⟨"NUMBER_OCT", ⟨["Literal", "Number", "Oct"]⟩, "mo"⟩,
  ⟨"OPERATOR", ⟨["Operator"]⟩, "o"⟩,
  ⟨"OPERATOR_WORD", ⟨["Operator", "Word"]⟩, "ow"⟩,
  ⟨"PUNCTUATION", ⟨["Punctuation"]⟩, "p"⟩,
  ⟨"COMMENT", ⟨["Comment"]⟩, "c"⟩,
  ⟨"COMMENT_HASHBANG", ⟨["Comment", "Hashbang"]⟩, "ch"⟩,
  ⟨"COMMENT_MULTILINE", ⟨["Comment", "Multiline"]⟩, "cm"⟩,
  ⟨"COMMENT_PREPROC", ⟨["Comment", "Preproc"]⟩, "cp"⟩,
  ⟨"COMMENT_SINGLE", ⟨["Comment", "Single"]⟩, "c1"⟩,
  ⟨"COMMENT_SPECIAL", ⟨["Comment", "Special"]⟩, "cs"⟩,
  ⟨"GENERIC", ⟨["Generic"]⟩, "g"⟩,
  ⟨"GENERIC_DELETED", ⟨["Generic", "Deleted"]⟩, "gd"⟩,
  ⟨"GENERIC_EMPH", ⟨["Generic", "Emph"]⟩, "ge"⟩,
  ⟨"GENERIC_ERROR", ⟨["Generic", "Error"]⟩, "gr"⟩,
  ⟨"GENERIC_HEADING", ⟨["Generic", "Heading"]⟩, "gh"⟩,
  ⟨"GENERIC_INSERTED", ⟨["Generic", "Inserted"]⟩, "gi"⟩,
  ⟨"GENERIC_OUTPUT", ⟨["Generic", "Output"]⟩, "go"⟩,
  ⟨"GENERIC_PROMPT", ⟨["Generic", "Prompt"]⟩, "gp"⟩,
  ⟨"GENERIC_STRONG", ⟨["Generic", "Strong"]⟩, "gs"⟩,
  ⟨"GENERIC_SUBHEADING", ⟨["Generic", "Subheading"]⟩, "gu"⟩,
  ⟨"GENERIC_TRACEBACK", ⟨["Generic", "Traceback"]⟩, "gt"⟩]

def standardShort? (k : Kind) : Option String :=
  (standard.find? fun s => s.kind == k).map (·.short)

def isStandard (k : Kind) : Bool := k.standardShort?.isSome

/-- Goes up from the kind whose path is `above`, last segment first, to the nearest standard kind;
`tail` is the text for the segments already passed. -/
def shortFrom (above : List String) (tail : String) : String :=
  match standardShort? ⟨above.reverse⟩ with
  | some short => short ++ tail
  | none =>
    match above with
    | [] => tail
    | segment :: above => shortFrom above ("-" ++ segment ++ tail)

/-- The short name of the nearest standard ancestor, followed by each further segment with a dash
before it. -/
def short (k : Kind) : String := shortFrom k.path.reverse ""

end Kind

end Lexing
