import SolanaWire.Text.ComposedForm
import SolanaWire.Text.NameCharacter

/-!
# Names of parameters

Parameters have names of letters, marks, digits and connectors that begin with a letter or an
underscore.  Some words are reserved.  Names that have the same composed form cannot be told apart,
so only composed names are of use.
-/
namespace SolanaWire.ParameterName

/-- The words that are no names. -/
def reserved : List String :=
  ["False", "None", "True", "and", "as", "assert", "async", "await", "break", "class", "continue",
    "def", "del", "elif", "else", "except", "finally", "for", "from", "global", "if", "import",
    "in", "is", "lambda", "nonlocal", "not", "or", "pass", "raise", "return", "try", "while",
    "with", "yield"]

/-- Whether a text consists of the characters of names, with one that can begin them in front. -/
def isWord (text : String) : Bool :=
  match text.toList with
  | [] => false
  | first :: rest => beginsNames first && rest.all standsInNames

/-- Whether a text can name a parameter. -/
def isValid (text : String) : Bool := isWord text && text ∉ reserved

/-- Whether a text is its own composed form. -/
def isComposed (text : String) : Bool := ComposedForm.ofText text == text

example : isValid "from_seed" = true ∧ isValid "from" = false ∧ isValid "2m" = false := by
  decide +kernel
example : isComposed "μ" = true ∧ isComposed "µ" = false := by decide +kernel

end SolanaWire.ParameterName
