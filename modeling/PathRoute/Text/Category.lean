import PathRoute.Text.Category.Ranges

/-!
# General categories

The general categories of characters, the groups of categories that have a name of their own,
and the names of both in loose form.
-/

namespace PathRoute

/-- A general category. Surrogates are no characters and have none. -/
inductive Category where
  | uppercaseLetter | lowercaseLetter | titlecaseLetter | modifierLetter | otherLetter
  | nonspacingMark | spacingMark | enclosingMark
  | decimalNumber | letterNumber | otherNumber
  | connectorPunctuation | dashPunctuation | openPunctuation | closePunctuation
  | initialPunctuation | finalPunctuation | otherPunctuation
  | mathSymbol | currencySymbol | modifierSymbol | otherSymbol
  | spaceSeparator | lineSeparator | paragraphSeparator
  | control | format | privateUse | unassigned
  deriving DecidableEq, Repr

namespace Category

/-- The characters of a category. -/
def ranges : Category → CodeRanges
  | .uppercaseLetter => Ranges.uppercaseLetter
  | .lowercaseLetter => Ranges.lowercaseLetter
  | .titlecaseLetter => Ranges.titlecaseLetter
  | .modifierLetter => Ranges.modifierLetter
  | .otherLetter => Ranges.otherLetter
  | .nonspacingMark => Ranges.nonspacingMark
  | .spacingMark => Ranges.spacingMark
  | .enclosingMark => Ranges.enclosingMark
  | .decimalNumber => Ranges.decimalNumber
  | .letterNumber => Ranges.letterNumber
  | .otherNumber => Ranges.otherNumber
  | .connectorPunctuation => Ranges.connectorPunctuation
  | .dashPunctuation => Ranges.dashPunctuation
  | .openPunctuation => Ranges.openPunctuation
  | .closePunctuation => Ranges.closePunctuation
  | .initialPunctuation => Ranges.initialPunctuation
  | .finalPunctuation => Ranges.finalPunctuation
  | .otherPunctuation => Ranges.otherPunctuation
  | .mathSymbol => Ranges.mathSymbol
  | .currencySymbol => Ranges.currencySymbol
  | .modifierSymbol => Ranges.modifierSymbol
  | .otherSymbol => Ranges.otherSymbol
  | .spaceSeparator => Ranges.spaceSeparator
  | .lineSeparator => Ranges.lineSeparator
  | .paragraphSeparator => Ranges.paragraphSeparator
  | .control => Ranges.control
  | .format => Ranges.format
  | .privateUse => Ranges.privateUse
  | .unassigned => Ranges.unassigned

def casedLetters : List Category := [.uppercaseLetter, .lowercaseLetter, .titlecaseLetter]
def letters : List Category := casedLetters ++ [.modifierLetter, .otherLetter]
def marks : List Category := [.nonspacingMark, .spacingMark, .enclosingMark]
def numbers : List Category := [.decimalNumber, .letterNumber, .otherNumber]
def punctuation : List Category :=
  [.connectorPunctuation, .dashPunctuation, .openPunctuation, .closePunctuation,
   .initialPunctuation, .finalPunctuation, .otherPunctuation]
def symbols : List Category := [.mathSymbol, .currencySymbol, .modifierSymbol, .otherSymbol]
def separators : List Category := [.spaceSeparator, .lineSeparator, .paragraphSeparator]
def others : List Category := [.control, .format, .privateUse, .unassigned]

/-- The names of categories and of their groups, in loose form. -/
def names : List (List String × List Category) := [
  (["l", "letter"], letters),
  (["lc", "casedletter"], casedLetters),
  (["lu", "uppercaseletter"], [.uppercaseLetter]),
  (["ll", "lowercaseletter"], [.lowercaseLetter]),
  (["lt", "titlecaseletter"], [.titlecaseLetter]),
  (["lm", "modifierletter"], [.modifierLetter]),
  (["lo", "otherletter"], [.otherLetter]),
  (["m", "mark", "combiningmark"], marks),
  (["mn", "nonspacingmark"], [.nonspacingMark]),
  (["mc", "spacingmark"], [.spacingMark]),
  (["me", "enclosingmark"], [.enclosingMark]),
  (["n", "number"], numbers),
  (["nd", "decimalnumber", "digit"], [.decimalNumber]),
  (["nl", "letternumber"], [.letterNumber]),
  (["no", "othernumber"], [.otherNumber]),
  (["p", "punctuation", "punct"], punctuation),
  (["pc", "connectorpunctuation"], [.connectorPunctuation]),
  (["pd", "dashpunctuation"], [.dashPunctuation]),
  (["ps", "openpunctuation"], [.openPunctuation]),
  (["pe", "closepunctuation"], [.closePunctuation]),
  (["pi", "initialpunctuation"], [.initialPunctuation]),
  (["pf", "finalpunctuation"], [.finalPunctuation]),
  (["po", "otherpunctuation"], [.otherPunctuation]),
  (["s", "symbol"], symbols),
  (["sm", "mathsymbol"], [.mathSymbol]),
  (["sc", "currencysymbol"], [.currencySymbol]),
  (["sk", "modifiersymbol"], [.modifierSymbol]),
  (["so", "othersymbol"], [.otherSymbol]),
  (["z", "separator"], separators),
  (["zs", "spaceseparator"], [.spaceSeparator]),
  (["zl", "lineseparator"], [.lineSeparator]),
  (["zp", "paragraphseparator"], [.paragraphSeparator]),
  (["c", "other"], others),
  (["cc", "control", "cntrl"], [.control]),
  (["cf", "format"], [.format]),
  (["co", "privateuse"], [.privateUse]),
  (["cn", "unassigned"], [.unassigned])]

/-- The characters of some categories together. -/
def rangesOf (cs : List Category) : CodeRanges := cs.flatMap ranges

/-- The categories of a name in loose form. -/
def named? (name : String) : Option (List Category) :=
  (names.find? fun e => e.1.contains name).map (·.2)

end Category

end PathRoute
