import Introspection.Yaml.Fault

/-!
# YAML tokens

The tokens of a YAML text. Indentation is already accounted for: the start and the end of a block
collection are tokens, and a key stands behind a token of its own wherever its colon was found.

## Main definitions

* `Yaml.Token`
* `Yaml.Tokens` — the tokens of a text that may break off
-/

namespace Introspection.Yaml

/-- A token of a YAML text. -/
inductive Token where
  /-- The version of a document. -/
  | version (major minor : Nat)
  /-- A handle for tags and what it stands for. -/
  | tagHandle (handle meaning : String)
  /-- A directive that means nothing here. -/
  | directive
  | documentStart
  | documentEnd
  | blockSequence
  | blockMapping
  | blockEnd
  | openBracket
  | closeBracket
  | openBrace
  | closeBrace
  | entry
  | comma
  | key
  | value
  | alias (name : String)
  | anchor (name : String)
  | tag (handle : Option String) (suffix : String)
  | scalar (text : String) (plain : Bool)
deriving DecidableEq, Inhabited, Repr

/-- The tokens of a text, and what stopped the splitting before the end of the text. -/
structure Tokens where
  tokens : List Token
  fault : Option Fault := none
deriving Inhabited, Repr

end Introspection.Yaml
