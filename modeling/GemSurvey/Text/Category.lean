import GemSurvey.Text.Category.Letter
import GemSurvey.Text.Category.Mark
import GemSurvey.Text.Category.Number
import GemSurvey.Text.Category.Punctuation
import GemSurvey.Text.Category.Symbol

/-! The general categories of characters. A character that no table holds is unassigned. -/
namespace GemSurvey.Text

inductive Category where
  | uppercaseLetter | lowercaseLetter | titlecaseLetter | modifierLetter | otherLetter
  | nonspacingMark | spacingMark | enclosingMark
  | decimalNumber | letterNumber | otherNumber
  | connectorPunctuation | dashPunctuation | openPunctuation | closePunctuation
  | initialPunctuation | finalPunctuation | otherPunctuation
  | mathSymbol | currencySymbol | modifierSymbol | otherSymbol
  | spaceSeparator | lineSeparator | paragraphSeparator
  | control | format | surrogate | privateUse
  deriving DecidableEq, Repr

namespace Category

def spans : Category → List Span
  | uppercaseLetter => uppercaseLetterSpans
  | lowercaseLetter => lowercaseLetterSpans
  | titlecaseLetter => titlecaseLetterSpans
  | modifierLetter => modifierLetterSpans
  | otherLetter => otherLetterSpans
  | nonspacingMark => nonspacingMarkSpans
  | spacingMark => spacingMarkSpans
  | enclosingMark => enclosingMarkSpans
  | decimalNumber => decimalNumberSpans
  | letterNumber => letterNumberSpans
  | otherNumber => otherNumberSpans
  | connectorPunctuation => connectorPunctuationSpans
  | dashPunctuation => dashPunctuationSpans
  | openPunctuation => openPunctuationSpans
  | closePunctuation => closePunctuationSpans
  | initialPunctuation => initialPunctuationSpans
  | finalPunctuation => finalPunctuationSpans
  | otherPunctuation => otherPunctuationSpans
  | mathSymbol => mathSymbolSpans
  | currencySymbol => currencySymbolSpans
  | modifierSymbol => modifierSymbolSpans
  | otherSymbol => otherSymbolSpans
  | spaceSeparator => spaceSeparatorSpans
  | lineSeparator => lineSeparatorSpans
  | paragraphSeparator => paragraphSeparatorSpans
  | control => controlSpans
  | format => formatSpans
  | surrogate => surrogateSpans
  | privateUse => privateUseSpans

def contains (k : Category) (c : Char) : Bool := inSpans k.spans c

def letters : List Category :=
  [uppercaseLetter, lowercaseLetter, titlecaseLetter, modifierLetter, otherLetter]

def casedLetters : List Category := [uppercaseLetter, lowercaseLetter, titlecaseLetter]

def marks : List Category := [nonspacingMark, spacingMark, enclosingMark]

def numbers : List Category := [decimalNumber, letterNumber, otherNumber]

def punctuation : List Category :=
  [connectorPunctuation, dashPunctuation, openPunctuation, closePunctuation,
    initialPunctuation, finalPunctuation, otherPunctuation]

def symbols : List Category := [mathSymbol, currencySymbol, modifierSymbol, otherSymbol]

def separators : List Category := [spaceSeparator, lineSeparator, paragraphSeparator]

def unseen : List Category := [control, format, surrogate, privateUse]

def all : List Category :=
  letters ++ marks ++ numbers ++ punctuation ++ symbols ++ separators ++ unseen

end Category

def inCategories (ks : List Category) (c : Char) : Bool := ks.any (·.contains c)

def isAssigned (c : Char) : Bool := inCategories Category.all c

end GemSurvey.Text
