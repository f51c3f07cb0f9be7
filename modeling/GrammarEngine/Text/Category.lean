import GrammarEngine.Text.Word

/-!
# General categories

Each code point is in one general category. A category is called by two letters or by its long name,
and some names stand for a group of categories. Surrogates are no characters: their category is left
out, and its names with it.
-/

namespace GrammarEngine.Text

/-- A general category, by its two letters. -/
inductive Category
  | lu | ll | lt | lm | lo
  | mn | mc | me
  | nd | nl | no
  | pc | pd | ps | pe | pi | pf | po
  | sm | sc | sk | so
  | zs | zl | zp
  | cc | cf | co
  /-- The unassigned code points. -/
  | cn
deriving DecidableEq

namespace Category

/-- The ranges of the category. The unassigned code points are not listed. -/
def ranges : Category → List (Nat × Nat)
  | lu => uppercaseRanges
  | ll => lowercaseRanges
  | lt => titlecaseRanges
  | lm => modifierLetterRanges
  | lo => otherLetterRanges
  | mn => nonspacingMarkRanges
  | mc => spacingMarkRanges
  | me => enclosingMarkRanges
  | nd => digitRanges
  | nl => letterNumberRanges
  | no => numeralRanges
  | pc => connectorRanges
  | pd => dashRanges
  | ps => openingRanges
  | pe => closingRanges
  | pi => initialQuoteRanges
  | pf => finalQuoteRanges
  | po => otherPunctuationRanges
  | sm => mathSymbolRanges
  | sc => currencySymbolRanges
  | sk => modifierSymbolRanges
  | so => otherSymbolRanges
  | zs => spaceRanges
  | zl => lineSeparatorRanges
  | zp => paragraphSeparatorRanges
  | cc => controlRanges
  | cf => formatRanges
  | co => privateUseRanges
  | cn => []

def letters : List Category := [lu, ll, lt, lm, lo]

def marks : List Category := [mn, mc, me]

def numbers : List Category := [nd, nl, no]

def punctuation : List Category := [pc, pd, ps, pe, pi, pf, po]

def symbols : List Category := [sm, sc, sk, so]

def separators : List Category := [zs, zl, zp]

/-- All categories but that of the unassigned code points. -/
def assigned : List Category :=
  letters ++ marks ++ numbers ++ punctuation ++ symbols ++ separators ++ [cc, cf, co]

/-- Whether the character is in the category. What is in no other one is unassigned. -/
def has : Category → Char → Bool
  | cn, c => !assigned.any fun k => inRanges c.toNat k.ranges
  | k, c => inRanges c.toNat k.ranges

/-- The names of categories and groups, in lower case, each with what it stands for. -/
def names : List (List String × List Category) :=
  [(["l", "letter"], letters),
   (["lc", "casedletter"], [lu, ll, lt]),
   (["lu", "uppercaseletter"], [lu]),
   (["ll", "lowercaseletter"], [ll]),
   (["lt", "titlecaseletter"], [lt]),
   (["lm", "modifierletter"], [lm]),
   (["lo", "otherletter"], [lo]),
   (["m", "mark", "combiningmark"], marks),
   (["mn", "nonspacingmark"], [mn]),
   (["mc", "spacingmark"], [mc]),
   (["me", "enclosingmark"], [me]),
   (["n", "number"], numbers),
   (["nd", "decimalnumber", "digit"], [nd]),
   (["nl", "letternumber"], [nl]),
   (["no", "othernumber"], [no]),
   (["p", "punctuation", "punct"], punctuation),
   (["pc", "connectorpunctuation"], [pc]),
   (["pd", "dashpunctuation"], [pd]),
   (["ps", "openpunctuation"], [ps]),
   (["pe", "closepunctuation"], [pe]),
   (["pi", "initialpunctuation"], [pi]),
   (["pf", "finalpunctuation"], [pf]),
   (["po", "otherpunctuation"], [po]),
   (["s", "symbol"], symbols),
   (["sm", "mathsymbol"], [sm]),
   (["sc", "currencysymbol"], [sc]),
   (["sk", "modifiersymbol"], [sk]),
   (["so", "othersymbol"], [so]),
   (["z", "separator"], separators),
   (["zs", "spaceseparator"], [zs]),
   (["zl", "lineseparator"], [zl]),
   (["zp", "paragraphseparator"], [zp]),
   (["c", "other"], [cc, cf, co, cn]),
   (["cc", "control", "cntrl"], [cc]),
   (["cf", "format"], [cf]),
   (["co", "privateuse"], [co]),
   (["cn", "unassigned"], [cn])]

/-- The categories that the name stands for. -/
def called? (name : String) : Option (List Category) :=
  (names.find? (·.1.contains name)).map (·.2)

end Category

end GrammarEngine.Text
