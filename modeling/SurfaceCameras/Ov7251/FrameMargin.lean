import SurfaceCameras.Ov7251.CleanRuns

/-!
# Exposure and frame length on the wire of the OV7251

The sensor must never hold an exposure that does not end before the frame.  A
write of the vertical blanking changes two registers one after the other, and
both the old frame and the new one have to have room for the exposure that is
in the registers at the time.  A mode change may leave a range that is too long
for the frame, so the law is one of runs of control writes, from a range that
is not.
-/

namespace SurfaceCameras
namespace Ov7251

open Kernel Device Prog Runs FrameTiming

/-- The exposure in the registers ends within the frame in the registers, with
the margin of the driver. -/
def FitsFrame (d : Device) : Prop :=
  (exposureRegister d : ℤ) ≤ vtsRegister d - integrationMargin

instance (d : Device) : Decidable (FitsFrame d) :=
  inferInstanceAs (Decidable (_ ≤ _))

/-- The registers hold what the controls say, and no exposure of the control
reaches beyond the frame. -/
abbrev InMargin (s : Device × Journal) : Prop :=
  (timing (EndsBefore integrationMargin)).Holds (Confined integrationMargin) s

theorem margin_fitting :
    Fitting (EndsBefore integrationMargin) (Confined integrationMargin) :=
  confined_fitting (by decide)

section Parameters

variable (par : Params)

theorem recordAdjust_confined :
    (timing (EndsBefore integrationMargin)).Adjusts
      (Confined integrationMargin) (recordAdjust par) := by
  apply recordAdjust_adjusts par margin_fitting
  intro n n' x dflt _ _ hm
  have hmargin := le_exposureMargin par
  apply (x.ranged_within hm dflt).mono
  simp only [integrationMargin]
  omega

variable (nearest : ℕ → ℕ → Fin 3)

/-- Control writes, none of which meets a failing transfer. -/
def writes (ws : List (CtrlId × ℤ)) : List (List Bool × SysCall) :=
  clean (ws.map fun w => .call (.write w.1 w.2))

theorem write_inMargin {s : Device × Journal} (hs : InMargin s) (i : CtrlId)
    (v : ℤ) : InMargin (recordStep par nearest s ([], .call (.write i v))) := by
  have hs' : InMargin (s.1.facing [], s.2) :=
    ⟨⟨rfl, hs.shows.registers, hs.shows.journal⟩, hs.good, hs.vblank⟩
  apply Triple.final ?_ hs'
  exact recordControl_holds par margin_fitting (recordAdjust_confined par) i v

theorem writes_inMargin {s : Device × Journal} (hs : InMargin s)
    (ws : List (CtrlId × ℤ)) :
    InMargin (run (recordStep par nearest) s (writes ws)) := by
  induction ws generalizing s with
  | nil => exact hs
  | cons w ws ih => exact ih (write_inMargin par nearest hs w.1 w.2)

/-- A run of control writes may start in every state in sync whose exposure
range does not reach beyond the frame. -/
theorem Synced.inMargin {d : Device} {g : Journal} (hs : Synced (d, g))
    (hmax : d.exposure.maximum ≤ d.height par + d.vblank.cur -
      integrationMargin) :
    InMargin (d, []) := by
  rw [Device.height_eq] at hmax
  refine ⟨⟨hs.shows.clean, hs.shows.registers, ?_⟩, ?_, hs.vblank⟩
  · exact fun _ hw => absurd hw List.not_mem_nil
  · exact hs.good.1.mono hmax

/-- Once the exposure range does not reach beyond the frame, control writes of
a streaming sensor never put an exposure in the registers that does not fit the
frame there. -/
theorem writes_fitFrame (board : Board) (calls : List SysCall) {d : Device}
    (hd : run (sysStep par nearest) (probe par nearest board) (clean calls) = d)
    (hmax : d.exposure.maximum ≤ d.height par + d.vblank.cur -
      integrationMargin) (ws : List (CtrlId × ℤ)) :
    ∀ w ∈ (run (recordStep par nearest) (d, []) (writes ws)).2,
      FitsFrame w.2 := by
  have hsynced := run_synced par nearest board calls
  have herase := run_recordStep_fst par nearest (probe par nearest board, [])
    (clean calls)
  rw [hd] at herase
  revert hsynced herase
  rcases run (recordStep par nearest) (probe par nearest board, [])
    (clean calls) with ⟨d', g⟩
  intro hsynced herase
  have herase : d' = d := herase
  subst herase
  exact (writes_inMargin par nearest (hsynced.inMargin par hmax)
    ws).shows.journal

end Parameters

end Ov7251
end SurfaceCameras
