/-
  BorderEmpires.Lib.Patch
  **PARTIAL UPDATES OF A RECORD OF OPTIONAL FIELDS.**

  A patch leaves a field out, clears it or sets it.  Merging keeps what is
  left out, so a patch brings a record to a target exactly when the fields it
  carries are those of the target and the fields it leaves out were so
  already.
-/
import Mathlib.Data.Option.Basic

universe u v

abbrev Patch (F : Type u) (V : Type v) := F → Option (Option V)

namespace Patch

variable {F : Type u} {V : Type v}

def merge (held : F → Option V) (patch : Patch F V) : F → Option V :=
  fun f => (patch f).getD (held f)

end Patch
