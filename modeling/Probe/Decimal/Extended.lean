import Probe.Decimal.Layout
import Probe.Decimal.Literal

/-!
# Extended numbers

The finite 64-bit numbers, the two infinities, and what is not a number.
-/

namespace Probe.Decimal

/-- A 64-bit number that need not be finite. -/
inductive Extended where
  | finite (x : Binary64)
  | infinite (negative : Bool)
  | undefined
  deriving DecidableEq, Repr

/-- The text of an extended number in a layout. -/
def Layout.extendedText (layout : Layout) : Extended → String
  | .finite x => layout.text x
  | .infinite negative => if negative then "-inf" else "inf"
  | .undefined => "NaN"

end Probe.Decimal
