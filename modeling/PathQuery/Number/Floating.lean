import PathQuery.Number.Basic

/-! # Floating-point numbers

Doubles with the infinities and the number that is none.  Only the finite ones are
numbers of a document. -/
namespace PathQuery

/-- A floating-point number, finite or not. -/
inductive Floating where
  | finite (x : Double)
  | infinite (negative : Bool)
  | notANumber (negative : Bool)
  deriving DecidableEq, Repr

namespace Floating

/-- The text of a floating-point number. -/
def text : Floating → String
  | finite x => String.ofList (Number.double x).chars
  | infinite negative => if negative then "-inf" else "inf"
  | notANumber _ => "NaN"

end Floating

end PathQuery
