import GemSurvey.Pattern.Basic
import GemSurvey.Text.Script

/-! Character properties by name. Names are read loosely: a leading `is`, case, spaces, underscores and
hyphens do not count, but a name that is `is` and one `c` keeps its `is`, since `c` alone is another
name. A name is that of a yes-or-no property, else of a category, else of a script. -/
namespace GemSurvey.Pattern

open Text (Category)

def dropIs : Text → Text
  | 'i' :: 's' :: rest => rest
  | t => t

def looseName (name : Text) : Text :=
  let lower := name.map Char.toLower
  let core := dropIs lower
  let plain := core.filter fun c => Text.isAscii c && c != ' ' && c != '_' && c != '-'
  if core.length < lower.length && plain = ['c'] then "isc" else plain

def categoryNames : List (List String × List Category) := [
  (["l", "letter"], Category.letters),
  (["lc", "casedletter"], Category.casedLetters),
  (["lu", "uppercaseletter"], [.uppercaseLetter]),
  (["ll", "lowercaseletter"], [.lowercaseLetter]),
  (["lt", "titlecaseletter"], [.titlecaseLetter]),
  (["lm", "modifierletter"], [.modifierLetter]),
  (["lo", "otherletter"], [.otherLetter]),
  (["m", "mark", "combiningmark"], Category.marks),
  (["mn", "nonspacingmark"], [.nonspacingMark]),
  (["mc", "spacingmark"], [.spacingMark]),
  (["me", "enclosingmark"], [.enclosingMark]),
  (["n", "number"], Category.numbers),
  (["nd", "decimalnumber", "digit"], [.decimalNumber]),
  (["nl", "letternumber"], [.letterNumber]),
  (["no", "othernumber"], [.otherNumber]),
  (["p", "punctuation", "punct"], Category.punctuation),
  (["pc", "connectorpunctuation"], [.connectorPunctuation]),
  (["pd", "dashpunctuation"], [.dashPunctuation]),
  (["ps", "openpunctuation"], [.openPunctuation]),
  (["pe", "closepunctuation"], [.closePunctuation]),
  (["pi", "initialpunctuation"], [.initialPunctuation]),
  (["pf", "finalpunctuation"], [.finalPunctuation]),
  (["po", "otherpunctuation"], [.otherPunctuation]),
  (["s", "symbol"], Category.symbols),
  (["sm", "mathsymbol"], [.mathSymbol]),
  (["sc", "currencysymbol"], [.currencySymbol]),
  (["sk", "modifiersymbol"], [.modifierSymbol]),
  (["so", "othersymbol"], [.otherSymbol]),
  (["z", "separator"], Category.separators),
  (["zs", "spaceseparator"], [.spaceSeparator]),
  (["zl", "lineseparator"], [.lineSeparator]),
  (["zp", "paragraphseparator"], [.paragraphSeparator]),
  (["cc", "control", "cntrl"], [.control]),
  (["cf", "format"], [.format]),
  (["cs", "surrogate"], [.surrogate]),
  (["co", "privateuse"], [.privateUse])]

def propertyNames : List (List String × CharSet) := [
  (["alpha", "alphabetic"], Text.isAlphabetic),
  (["lower", "lowercase"], Text.isLowercase),
  (["upper", "uppercase"], Text.isUppercase),
  (["cased"], Text.isCased),
  (["ci", "caseignorable"], Text.isCaseIgnorable),
  (["wspace", "whitespace", "space"], Text.isBlank),
  (["joinc", "joincontrol"], Text.isJoiner),
  (["grext", "graphemeextend"], Text.extendsGrapheme),
  (["ahex", "asciihexdigit"], fun c => Text.isAsciiDigit c || ('a' ≤ c.toLower && c.toLower ≤ 'f'))]

def named (entries : List (List String × α)) (name : Text) : Option α :=
  (entries.find? fun entry => entry.1.contains (String.ofList name)).map (·.2)

def category? (name : Text) : Option CharSet :=
  if name = "any" then some fun _ => true
  else if name = "assigned" then some Text.isAssigned
  else if name = "ascii" then some Text.isAscii
  else if name = "c" ∨ name = "other" then
    some fun c => !Text.isAssigned c || Text.inCategories Category.unseen c
  else if name = "cn" ∨ name = "unassigned" then some fun c => !Text.isAssigned c
  else (named categoryNames name).map Text.inCategories

def script? (name : Text) : Option CharSet :=
  ((Text.scripts.find? fun s => s.names.contains (String.ofList name)).map fun s =>
    Text.inSpans s.spans)

def property? (name : Text) : Option CharSet :=
  let name := looseName name
  (named propertyNames name).or ((category? name).or (script? name))

def propertyValue? (kind value : Text) : Option CharSet :=
  let kind := looseName kind
  let value := looseName value
  if kind = "gc" ∨ kind = "generalcategory" then category? value
  else if kind = "sc" ∨ kind = "script" ∨ kind = "scx" ∨ kind = "scriptextensions" then script? value
  else none

def asciiClass? (name : Text) : Option CharSet :=
  named [
    (["alnum"], fun c => Text.isAsciiLetter c || Text.isAsciiDigit c),
    (["alpha"], Text.isAsciiLetter),
    (["ascii"], Text.isAscii),
    (["blank"], fun c => c == '\t' || c == ' '),
    (["cntrl"], fun c => c.toNat < 32 || c.toNat == 127),
    (["digit"], Text.isAsciiDigit),
    (["graph"], CharSet.between '!' '~'),
    (["lower"], CharSet.between 'a' 'z'),
    (["print"], CharSet.between ' ' '~'),
    (["punct"], fun c => CharSet.between '!' '~' c && !Text.isAsciiLetter c && !Text.isAsciiDigit c),
    (["space"], fun c => c == ' ' || CharSet.between '\t' '\r' c),
    (["upper"], CharSet.between 'A' 'Z'),
    (["word"], Text.isAsciiWord),
    (["xdigit"], fun c => Text.isAsciiDigit c || ('a' ≤ c.toLower && c.toLower ≤ 'f'))] name

end GemSurvey.Pattern
