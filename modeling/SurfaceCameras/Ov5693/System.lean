import SurfaceCameras.Ov5693.Frames
import SurfaceCameras.Support.Runs

/-!
# Runs of the OV5693 driver with failing transfers

The calls on the driver, each with its own outcomes of the transfers and
enables it makes.
-/

namespace SurfaceCameras
namespace Ov5693

open Kernel Device Prog

section Parameters

variable (binnedYOffset : ℤ)

/-- The system after a call, whatever the call returns. -/
def sysStep (s : System) : List Bool × Call → System
  | (outcomes, c) => step binnedYOffset (s.facing outcomes) c

/-! ## References -/

theorem pm_admits :
    Admits (Frame.fixing pmField.ofDev.get) everywhere everywhere where
  outcomes _ _ := rfl
  store _ _ _ _ := rfl
  hold := admitsHold_fixing pmField.ofDev
  ctrl _ id _ _ := by cases id <;> rfl

end Parameters

theorem resume_keeps_pm (binnedYOffset : ℤ) :
    Stays (Frame.fixing pmField.ofDev.get) (sensorResume binnedYOffset) :=
  sensorResume_stays pm_admits (fun _ _ => rfl) binnedYOffset

end Ov5693
end SurfaceCameras
