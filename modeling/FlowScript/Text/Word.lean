import FlowScript.Text.Trait

/-!
# Words, digits and names

The classes of characters that words are made of: word characters are alphabetic characters,
marks, decimal digits, connector punctuation and join controls.
-/

namespace FlowScript.Text

/-- Decimal digits. -/
def digitSet : CharSet := Category.decimalNumber

/-- Word characters. -/
def wordSet : CharSet :=
  .unions [Trait.alphabetic, Category.mark, Category.decimalNumber, Category.connectorPunctuation,
    Trait.joinControl]

/-- White space. -/
def blankSet : CharSet := Trait.whiteSpace

/-- Whether a character is alphabetic. -/
def isAlphabetic (c : Char) : Bool := Trait.alphabetic.holds c

/-- Whether a character is a number of any kind. -/
def isNumeric (c : Char) : Bool := Category.number.holds c

end FlowScript.Text
