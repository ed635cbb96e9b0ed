import Lexing.Pattern.Break
import Lexing.Unicode.Age
import Lexing.Unicode.Assigned
import Lexing.Unicode.CaseChange
import Lexing.Unicode.Category
import Lexing.Unicode.Letter
import Lexing.Unicode.Property
import Lexing.Unicode.Ranges
import Lexing.Unicode.Script
import Lexing.Unicode.ScriptExtension
import Lexing.Unicode.Word

/-!
# Named sets of characters

The classes with a letter of their own, the classes between `[:` and `:]`, and the properties that
a pattern asks for by name. Names of properties are compared loosely: case, blanks, dashes and
underscores do not count, nor does a leading `is`.
-/
set_option autoImplicit false

namespace Lexing
open Unicode CharSet

inductive ShortClass
  | digit
  | space
  | word
deriving DecidableEq, Repr

inductive AsciiClass
  | alnum
  | alpha
  | ascii
  | blank
  | cntrl
  | digit
  | graph
  | lower
  | print
  | punct
  | space
  | upper
  | word
  | xdigit
deriving DecidableEq, Repr

namespace CharSet

def digits : CharSet := ⟨decimalNumber⟩

def blanks : CharSet := ⟨blank⟩

def words : CharSet := ⟨word⟩

def asciiDigits : CharSet := ⟨[(0x30, 0x39)]⟩

def asciiBlanks : CharSet := ⟨[(0x09, 0x0D), (0x20, 0x20)]⟩

def asciiWords : CharSet := ⟨[(0x30, 0x39), (0x41, 0x5A), (0x5F, 0x5F), (0x61, 0x7A)]⟩

end CharSet

namespace ShortClass

def set : ShortClass → CharSet
  | digit => .digits
  | space => .blanks
  | word => .words

def asciiSet : ShortClass → CharSet
  | digit => .asciiDigits
  | space => .asciiBlanks
  | word => .asciiWords

end ShortClass

namespace AsciiClass

def set : AsciiClass → CharSet
  | alnum => ⟨[(0x30, 0x39), (0x41, 0x5A), (0x61, 0x7A)]⟩
  | alpha => ⟨[(0x41, 0x5A), (0x61, 0x7A)]⟩
  | ascii => ⟨[(0x00, 0x7F)]⟩
  | blank => ⟨[(0x09, 0x09), (0x20, 0x20)]⟩
  | cntrl => ⟨[(0x00, 0x1F), (0x7F, 0x7F)]⟩
  | digit => ⟨[(0x30, 0x39)]⟩
  | graph => ⟨[(0x21, 0x7E)]⟩
  | lower => ⟨[(0x61, 0x7A)]⟩
  | print => ⟨[(0x20, 0x7E)]⟩
  | punct => ⟨[(0x21, 0x2F), (0x3A, 0x40), (0x5B, 0x60), (0x7B, 0x7E)]⟩
  | space => ⟨[(0x09, 0x0D), (0x20, 0x20)]⟩
  | upper => ⟨[(0x41, 0x5A)]⟩
  | word => ⟨[(0x30, 0x39), (0x41, 0x5A), (0x5F, 0x5F), (0x61, 0x7A)]⟩
  | xdigit => ⟨[(0x30, 0x39), (0x41, 0x46), (0x61, 0x66)]⟩

def named : List (String × AsciiClass) := [
  ("alnum", alnum), ("alpha", alpha), ("ascii", ascii), ("blank", blank), ("cntrl", cntrl),
  ("digit", digit), ("graph", graph), ("lower", lower), ("print", print), ("punct", punct),
  ("space", space), ("upper", upper), ("word", word), ("xdigit", xdigit)]

def ofName? (name : String) : Option AsciiClass := named.lookup name

end AsciiClass

inductive PropertyQuery
  | named (name : String)
  | valued (property value : String)
deriving DecidableEq, Repr

namespace PropertyQuery

def loose (name : String) : String :=
  let cs := name.toList
  let (stripped, body) :=
    match cs with
    | i :: s :: rest => if i.toLower = 'i' ∧ s.toLower = 's' then (true, rest) else (false, cs)
    | _ => (false, cs)
  let kept := (body.filter fun c => c.toNat < 0x80 && c != ' ' && c != '_' && c != '-').map
    Char.toLower
  String.ofList (if stripped && kept == ['c'] then ['i', 's', 'c'] else kept)

def categories : List (List String × List Ranges) := [
  (["lu", "uppercaseletter"], [upperLetter]),
  (["ll", "lowercaseletter"], [lowerLetter]),
  (["lt", "titlecaseletter"], [titleLetter]),
  (["lc", "casedletter"], [upperLetter, lowerLetter, titleLetter]),
  (["lm", "modifierletter"], [modifierLetter]),
  (["lo", "otherletter"], [otherLetter]),
  (["l", "letter"], [upperLetter, lowerLetter, titleLetter, modifierLetter, otherLetter]),
  (["mn", "nonspacingmark"], [nonspacingMark]),
  (["mc", "spacingmark"], [spacingMark]),
  (["me", "enclosingmark"], [enclosingMark]),
  (["m", "mark", "combiningmark"], [nonspacingMark, spacingMark, enclosingMark]),
  (["nd", "decimalnumber", "digit"], [decimalNumber]),
  (["nl", "letternumber"], [letterNumber]),
  (["no", "othernumber"], [otherNumber]),
  (["n", "number"], [decimalNumber, letterNumber, otherNumber]),
  (["pc", "connectorpunctuation"], [connectorPunctuation]),
  (["pd", "dashpunctuation"], [dashPunctuation]),
  (["ps", "openpunctuation"], [openPunctuation]),
  (["pe", "closepunctuation"], [closePunctuation]),
  (["pi", "initialpunctuation"], [initialPunctuation]),
  (["pf", "finalpunctuation"], [finalPunctuation]),
  (["po", "otherpunctuation"], [otherPunctuation]),
  (["p", "punctuation", "punct"], [connectorPunctuation, dashPunctuation, openPunctuation,
    closePunctuation, initialPunctuation, finalPunctuation, otherPunctuation]),
  (["sm", "mathsymbol"], [mathSymbol]),
  (["sc", "currencysymbol"], [currencySymbol]),
  (["sk", "modifiersymbol"], [modifierSymbol]),
  (["so", "othersymbol"], [otherSymbol]),
  (["s", "symbol"], [mathSymbol, currencySymbol, modifierSymbol, otherSymbol]),
  (["zs", "spaceseparator"], [spaceSeparator]),
  (["zl", "lineseparator"], [lineSeparator]),
  (["zp", "paragraphseparator"], [paragraphSeparator]),
  (["z", "separator"], [spaceSeparator, lineSeparator, paragraphSeparator]),
  (["cc", "control", "cntrl"], [control]),
  (["cf", "format"], [format]),
  (["co", "privateuse"], [privateUse])]

def assignedSet : CharSet := CharSet.inter ⟨assigned⟩ .all

def category? (name : String) : Option CharSet :=
  match name with
  | "any" => some .all
  | "ascii" => some (AsciiClass.set .ascii)
  | "assigned" => some assignedSet
  | "cn" | "unassigned" => some assignedSet.complement
  | "c" | "other" => some (CharSet.union (unionOf [control, format, privateUse])
      assignedSet.complement)
  | _ => (categories.find? fun entry => entry.1.contains name).map fun entry => unionOf entry.2

def script? (name : String) : Option CharSet :=
  (Script.named.find? fun entry => entry.1.contains name).map fun entry => ⟨entry.2⟩

/-- The characters that a script uses: its own, unless they are listed with the scripts that use
them, and those that are listed with it. -/
def scriptUse? (name : String) : Option CharSet := do
  let (names, own) ← Script.named.find? fun entry => entry.1.contains name
  let listed := extensions.map fun e => (e.first, e.last)
  let shared := extensions.filter fun e => e.scripts.any names.contains
  return CharSet.union ⟨shared.map fun e => (e.first, e.last)⟩ (CharSet.diff ⟨own⟩ ⟨listed⟩)

def age? (name : String) : Option CharSet :=
  let before := Age.versions.takeWhile fun entry => !entry.1.contains name
  (Age.versions[before.length]?).map fun entry => unionOf (entry.2 :: before.map (·.2))

def letters : List Ranges := [upperLetter, lowerLetter, titleLetter, modifierLetter, otherLetter]

def idStart : List Ranges := letters ++ [letterNumber, otherIdStart]

def idContinue : List Ranges :=
  idStart ++ [nonspacingMark, spacingMark, decimalNumber, connectorPunctuation, otherIdContinue]

/-- Code points that begin no identifier when its compatibility form is taken. -/
def notXidContinue : Ranges := [
  (0x37A, 0x37A), (0x309B, 0x309C), (0xFC5E, 0xFC63), (0xFDFA, 0xFDFB), (0xFE70, 0xFE70),
  (0xFE72, 0xFE72), (0xFE74, 0xFE74), (0xFE76, 0xFE76), (0xFE78, 0xFE78), (0xFE7A, 0xFE7A),
  (0xFE7C, 0xFE7C), (0xFE7E, 0xFE7E)]

def notXidStart : Ranges := [(0xE33, 0xE33), (0xEB3, 0xEB3), (0xFF9E, 0xFF9F)]

def binary? (name : String) : Option CharSet :=
  let syntaxMarks := [patternSyntax, patternWhiteSpace]
  match name with
  | "ahex" | "asciihexdigit" => some ⟨asciiHexDigit⟩
  | "alpha" | "alphabetic" => some ⟨alphabetic⟩
  | "bidic" | "bidicontrol" => some ⟨bidiControl⟩
  | "cased" => some (unionOf [lowercase, uppercase, titleLetter])
  | "ci" | "caseignorable" => some (unionOf
      [nonspacingMark, enclosingMark, format, modifierLetter, modifierSymbol, wordMiddle])
  | "cwcf" | "changeswhencasefolded" => some (unionOf [rangesOf whenFolded])
  | "cwcm" | "changeswhencasemapped" => some (unionOf
      [rangesOf whenLowered, rangesOf whenRaised, rangesOf whenTitled])
  | "cwl" | "changeswhenlowercased" => some (unionOf [rangesOf whenLowered])
  | "cwt" | "changeswhentitlecased" => some (unionOf [rangesOf whenTitled])
  | "cwu" | "changeswhenuppercased" => some (unionOf [rangesOf whenRaised])
  | "dash" => some ⟨dash⟩
  | "dep" | "deprecated" => some ⟨deprecated⟩
  | "di" | "defaultignorablecodepoint" => some (unionWithout
      [otherDefaultIgnorable, variationSelector, format]
      [blank, [(0xFFF9, 0xFFFB), (0x13430, 0x13440)], prependedConcatenationMark])
  | "dia" | "diacritic" => some ⟨diacritic⟩
  | "emoji" => some ⟨emoji⟩
  | "ecomp" | "emojicomponent" => some ⟨emojiComponent⟩
  | "emod" | "emojimodifier" => some ⟨emojiModifier⟩
  | "ebase" | "emojimodifierbase" => some ⟨emojiModifierBase⟩
  | "epres" | "emojipresentation" => some ⟨emojiPresentation⟩
  | "extpict" | "extendedpictographic" => some ⟨extendedPictographic⟩
  | "ext" | "extender" => some ⟨extender⟩
  | "grbase" | "graphemebase" => some (assignedSet.diff (unionOf
      ([control, format, privateUse, lineSeparator, paragraphSeparator] ++ graphemeExtend)))
  | "grext" | "graphemeextend" => some (unionOf graphemeExtend)
  | "grlink" | "graphemelink" => some ⟨graphemeLink⟩
  | "hex" | "hexdigit" => some ⟨hexDigit⟩
  | "hyphen" => some ⟨hyphen⟩
  | "idsb" | "idsbinaryoperator" => some ⟨idsBinaryOperator⟩
  | "idst" | "idstrinaryoperator" => some ⟨idsTrinaryOperator⟩
  | "idsu" | "idsunaryoperator" => some ⟨idsUnaryOperator⟩
  | "idcompatmathstart" => some ⟨idCompatMathStart⟩
  | "idcompatmathcontinue" => some ⟨idCompatMathContinue⟩
  | "ids" | "idstart" => some (unionWithout idStart syntaxMarks)
  | "idc" | "idcontinue" => some (unionWithout idContinue syntaxMarks)
  | "ideo" | "ideographic" => some ⟨ideographic⟩
  | "joinc" | "joincontrol" => some ⟨joinControl⟩
  | "loe" | "logicalorderexception" => some ⟨logicalOrderException⟩
  | "lower" | "lowercase" => some ⟨lowercase⟩
  | "math" => some (unionOf [mathSymbol, otherMath])
  | "mcm" | "modifiercombiningmark" => some ⟨modifierCombiningMark⟩
  | "nchar" | "noncharactercodepoint" => some ⟨noncharacterCodePoint⟩
  | "oalpha" | "otheralphabetic" => some (unionWithout [alphabetic] (letterNumber :: letters))
  | "odi" | "otherdefaultignorablecodepoint" => some ⟨otherDefaultIgnorable⟩
  | "ogrext" | "othergraphemeextend" => some ⟨otherGraphemeExtend⟩
  | "oidc" | "otheridcontinue" => some ⟨otherIdContinue⟩
  | "oids" | "otheridstart" => some ⟨otherIdStart⟩
  | "olower" | "otherlowercase" => some (unionWithout [lowercase] [lowerLetter])
  | "omath" | "othermath" => some ⟨otherMath⟩
  | "oupper" | "otheruppercase" => some (unionWithout [uppercase] [upperLetter])
  | "patsyn" | "patternsyntax" => some ⟨patternSyntax⟩
  | "patws" | "patternwhitespace" => some ⟨patternWhiteSpace⟩
  | "pcm" | "prependedconcatenationmark" => some ⟨prependedConcatenationMark⟩
  | "qmark" | "quotationmark" => some ⟨quotationMark⟩
  | "radical" => some ⟨radical⟩
  | "ri" | "regionalindicator" => some ⟨regionalIndicator⟩
  | "sterm" | "sentenceterminal" => some ⟨sentenceTerminal⟩
  | "sd" | "softdotted" => some ⟨softDotted⟩
  | "term" | "terminalpunctuation" => some ⟨terminalPunctuation⟩
  | "uideo" | "unifiedideograph" => some ⟨unifiedIdeograph⟩
  | "upper" | "uppercase" => some ⟨uppercase⟩
  | "vs" | "variationselector" => some ⟨variationSelector⟩
  | "whitespace" | "wspace" | "space" => some ⟨blank⟩
  | "xids" | "xidstart" => some (unionWithout idStart
      (notXidContinue :: notXidStart :: syntaxMarks))
  | "xidc" | "xidcontinue" => some (unionWithout idContinue (notXidContinue :: syntaxMarks))
  | _ => none

def set? : PropertyQuery → Option CharSet
  | .named name =>
    let key := loose name
    (binary? key).orElse fun _ => (category? key).orElse fun _ => script? key
  | .valued property value =>
    let value := loose value
    match loose property with
    | "gc" | "generalcategory" => category? value
    | "sc" | "script" => script? value
    | "scx" | "scriptextensions" => scriptUse? value
    | "age" => age? value
    | "gcb" | "graphemeclusterbreak" => clusterBreak? value
    | "wb" | "wordbreak" => wordBreak? value
    | "sb" | "sentencebreak" => sentenceBreak? value
    | _ => none

end PropertyQuery

end Lexing
