/-
  BorderEmpires.Combat.RestartTerritory
  **RECOVERED OWNERS OVER WHOLE RUNS.**

  Each handler tells what it changes, so a replay of the log stays with the
  live territory through every step but one: the lost fight whose launch
  tile has changed hands in the meantime.
-/
import BorderEmpires.Combat.RecoveredTerritory

namespace BorderEmpires.Combat

open CombatState

variable {W : WorldSize}

/-! ## §1. One fight. -/

variable (ctx : RuntimeLockResolutionContext W) (s : CombatState W)

/-- From one state to the other nothing changed hands without a delta. -/
def Tells (s t : CombatState W) : Prop := ∃ events, Reported s t events

namespace Tells

variable {s t u : CombatState W}

theorem trans (h : Tells s t) (h' : Tells t u) : Tells s u := by
  obtain ⟨events, hevents⟩ := h
  obtain ⟨events', hevents'⟩ := h'
  exact ⟨_, hevents.trans hevents'⟩

theorem still (hemitted : t.emitted = s.emitted) (htiles : t.tiles = s.tiles) : Tells s t :=
  ⟨_, .still hemitted htiles⟩

theorem rewrite {key : TileKey W} {tile tile' : DomainTileState W}
    (htile : s.tiles.get key = some tile)
    (hholder : cloneRecoveredTile tile' = cloneRecoveredTile tile)
    (hemitted : t.emitted = s.emitted) (htiles : t.tiles = s.tiles.set key tile') : Tells s t :=
  ⟨_, .rewrite htile hholder hemitted htiles⟩

theorem recovers {start : InsertionMap (TileKey W) (DomainTileState W)} (h : Tells s t)
    (hs : RecoversTerritory start s) : RecoversTerritory start t := by
  obtain ⟨events, hevents⟩ := h
  intro key
  unfold recoveredTerritory
  rw [hevents.emitted, List.foldl_append, foldl_recoverTerritory_quiet events _ hevents.quiet]
  refine (hevents.told.agree_iff (Overwritten.setAll _ (writesOf events)) key).mpr (Or.inr ?_)
  exact hs key

end Tells

end BorderEmpires.Combat
