/-
  BorderEmpires.Trades.PhantomSuspension
  **DEALS LOST TO DEALS THAT NEVER HOLD.**

  Each pass drops the oldest agreement that falls short.  What it falls short
  of may be a network capacity that a newer agreement of the same pass has
  moved with its upkeep amounts, and that one may be dropped in a later pass.
-/
import BorderEmpires.Trades.Passes
import Mathlib.Data.String.Basic

namespace BorderEmpires.Trades

open TradableSupplyResource

/-! ## §1. Older commitments. -/

section Real

variable {localeCompare : String → String → Int} {capacityFor : ResourceSupplyCapacity}
  {rows : List ResourceSupplyAgreement}

end Real

end BorderEmpires.Trades
