import SurfaceCameras.Ov5693.System

/-!
# Whether the OV5693 driver lets the sensor be powered down

A device that is active and held by nobody is only suspended if an idle request
has been queued for it.  Dropping the last reference queues one, but the
failure path of `ov5693_s_stream` drops its reference without.  That does no
harm while the timer of an earlier request is still running.
-/

namespace SurfaceCameras
namespace Ov5693

open Kernel Device Prog Runs

/-- An active device that nobody holds has an idle request queued. -/
def Released (pm : RuntimePm) : Prop :=
  pm.usage = 0 → pm.active = true → pm.idleQueued = true

instance (pm : RuntimePm) : Decidable (Released pm) :=
  inferInstanceAs (Decidable (_ → _))

/-- A device that is held is active, and one that is not held is released. -/
structure Accounted (pm : RuntimePm) : Prop where
  held : pm.usage ≠ 0 → pm.active = true
  released : Released pm

namespace Accounted

variable {pm : RuntimePm} (h : Accounted pm)
include h

/-- A put queues the idle request that is needed. -/
theorem put : Accounted pm.put where
  held hne := h.held fun hzero => hne (by rw [RuntimePm.put, hzero])
  released := by
    intro hzero hactive
    have hzero : pm.usage - 1 = 0 := hzero
    change (pm.idleQueued || pm.usage == 1) = true
    rw [Bool.or_eq_true, beq_iff_eq]
    rcases Nat.eq_zero_or_pos pm.usage with hnone | hpos
    · exact Or.inl (h.released hnone hactive)
    · exact Or.inr (by omega)

theorem putNoidle (hreleased : Released pm.putNoidle) :
    Accounted pm.putNoidle where
  held hne := h.held fun hzero => hne (by rw [RuntimePm.putNoidle, hzero])
  released := hreleased

end Accounted

section Parameters

variable (binnedYOffset : ℤ)

/-- The part of a start that takes a reference. -/
def resumed : Prog System Fault Unit :=
  pmRuntimeResumeAndGet pmField.ofDev (sensorResume binnedYOffset)

end Parameters

end Ov5693
end SurfaceCameras
