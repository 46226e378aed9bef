/-!
# The order of texts

Names are listed in the order of their code points, character by character, a beginning of a text before
the text itself; this is the order that strings have anyway.
-/

namespace ChainLint.Text

/-- Whether one text may stand before another in a sorted list. -/
def before (a b : String) : Bool := !(b < a)

/-- The texts in order; equal texts are kept. -/
def sorted (texts : List String) : List String := texts.mergeSort before

end ChainLint.Text
