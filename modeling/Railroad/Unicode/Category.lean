/-!
# General categories

The general category sorts every code point into one of thirty kinds, which form seven groups: letters,
marks, numbers, punctuation, symbols, separators and the rest.
-/

namespace Railroad.Unicode

/-- A general category, named by its usual two-letter code. -/
inductive Category where
  /-- An uppercase letter. -/
  | lu
  /-- A lowercase letter. -/
  | ll
  /-- A titlecase letter. -/
  | lt
  /-- A modifier letter. -/
  | lm
  /-- Any other letter. -/
  | lo
  /-- A mark without width. -/
  | mn
  /-- A mark with width. -/
  | mc
  /-- An enclosing mark. -/
  | me
  /-- A decimal digit. -/
  | nd
  /-- A number that is written as a letter. -/
  | nl
  /-- Any other number. -/
  | no
  /-- Punctuation that connects. -/
  | pc
  /-- A dash. -/
  | pd
  /-- Opening punctuation. -/
  | ps
  /-- Closing punctuation. -/
  | pe
  /-- An initial quotation mark. -/
  | pi
  /-- A final quotation mark. -/
  | pf
  /-- Any other punctuation. -/
  | po
  /-- A mathematical symbol. -/
  | sm
  /-- A currency symbol. -/
  | sc
  /-- A modifier symbol. -/
  | sk
  /-- Any other symbol. -/
  | so
  /-- A space. -/
  | zs
  /-- The line separator. -/
  | zl
  /-- The paragraph separator. -/
  | zp
  /-- A control character. -/
  | cc
  /-- A format character. -/
  | cf
  /-- A surrogate, which no text holds. -/
  | cs
  /-- A code point for private use. -/
  | co
  /-- A code point without a character. -/
  | cn
  deriving DecidableEq, Repr

namespace Category

/-- The letters. -/
def letters : List Category := [.lu, .ll, .lt, .lm, .lo]

/-- The marks. -/
def marks : List Category := [.mn, .mc, .me]

/-- The numbers. -/
def numbers : List Category := [.nd, .nl, .no]

/-- The punctuation. -/
def punctuation : List Category := [.pc, .pd, .ps, .pe, .pi, .pf, .po]

/-- The symbols. -/
def symbols : List Category := [.sm, .sc, .sk, .so]

/-- The separators. -/
def separators : List Category := [.zs, .zl, .zp]

/-- Controls, formats, private use and what is not assigned. -/
def others : List Category := [.cc, .cf, .cs, .co, .cn]

/-- The groups of categories by their loosely written names (small letters, nothing between the
words). -/
def named : List (List String × List Category) := [
  (["l", "letter"], letters),
  (["lc", "casedletter"], [.lu, .ll, .lt]),
  (["lu", "uppercaseletter"], [.lu]),
  (["ll", "lowercaseletter"], [.ll]),
  (["lt", "titlecaseletter"], [.lt]),
  (["lm", "modifierletter"], [.lm]),
  (["lo", "otherletter"], [.lo]),
  (["m", "mark", "combiningmark"], marks),
  (["mn", "nonspacingmark"], [.mn]),
  (["mc", "spacingmark"], [.mc]),
  (["me", "enclosingmark"], [.me]),
  (["n", "number"], numbers),
  (["nd", "decimalnumber", "digit"], [.nd]),
  (["nl", "letternumber"], [.nl]),
  (["no", "othernumber"], [.no]),
  (["p", "punctuation", "punct"], punctuation),
  (["pc", "connectorpunctuation"], [.pc]),
  (["pd", "dashpunctuation"], [.pd]),
  (["ps", "openpunctuation"], [.ps]),
  (["pe", "closepunctuation"], [.pe]),
  (["pi", "initialpunctuation"], [.pi]),
  (["pf", "finalpunctuation"], [.pf]),
  (["po", "otherpunctuation"], [.po]),
  (["s", "symbol"], symbols),
  (["sm", "mathsymbol"], [.sm]),
  (["sc", "currencysymbol"], [.sc]),
  (["sk", "modifiersymbol"], [.sk]),
  (["so", "othersymbol"], [.so]),
  (["z", "separator"], separators),
  (["zs", "spaceseparator"], [.zs]),
  (["zl", "lineseparator"], [.zl]),
  (["zp", "paragraphseparator"], [.zp]),
  (["c", "other"], others),
  (["cc", "control", "cntrl"], [.cc]),
  (["cf", "format"], [.cf]),
  (["co", "privateuse"], [.co]),
  (["cn", "unassigned"], [.cn])]

end Category

end Railroad.Unicode
