import SurfaceCameras.Ov7251.Frames

/-!
# Ranges the OV7251 driver keeps

Whatever the transfers do, the exposure control keeps its minimum of one line,
and the vertical blanking keeps the default of the mode that is being selected.
-/

namespace SurfaceCameras
namespace Ov7251

open Kernel Device Prog

/-- The exposure starts at one line, and the vertical blanking has the default
`vblankDef`. -/
structure Ranged (vblankDef : ℤ) (d : Device) : Prop where
  exposure_minimum : d.exposure.minimum = 1
  vblank_default : d.vblank.defaultValue = vblankDef

variable {vblankDef : ℤ}

theorem Ranged.update {d : Device} (hd : Ranged vblankDef d) (i : CtrlId)
    {f : Ctrl → Ctrl} (hmin : ∀ c, (f c).minimum = c.minimum)
    (hdef : ∀ c, (f c).defaultValue = c.defaultValue) :
    Ranged vblankDef ((ctrlField i).update f d) := by
  obtain ⟨hm, hv⟩ := hd
  cases i with
  | exposure => exact ⟨(hmin d.exposure).trans hm, hv⟩
  | vblank => exact ⟨hm, (hdef d.vblank).trans hv⟩
  | hflip | vflip | analogueGain | testPattern => exact ⟨hm, hv⟩

theorem ranged_admits :
    AdmitsPower (Frame.invariant (Ranged vblankDef)) fun _ => True := by
  apply admitsPower_of_controls
  · intro d d' h hd
    exact ⟨(congrArg Ctrl.minimum (h .exposure)).trans hd.exposure_minimum,
      (congrArg Ctrl.defaultValue (h .vblank)).trans hd.vblank_default⟩
  · exact fun d i hd => hd.update i (fun _ => rfl) fun _ => rfl
  · exact fun d i hd => hd.update i (fun _ => rfl) fun _ => rfl
  · exact fun d i hd => hd.update i (fun _ => rfl) fun _ => rfl
  · exact fun d i _ _ hd => hd.update i (fun _ => rfl) fun _ => rfl
  · rintro d lo hi st dflt (rfl | rfl) hd
    · exact ⟨rfl, hd.vblank_default⟩
    · exact ⟨hd.exposure_minimum, hd.vblank_default⟩

section Parameters

variable (par : Params)

/-- Selecting a mode keeps the default of the vertical blanking if it is the
one of that mode. -/
theorem setFormat_ranged {nearest : ℕ → ℕ → Fin 3} {w h : ℕ}
    (hdef : (modeInfoData par (nearest w h)).vts - 480 = vblankDef) :
    Stays (Frame.invariant (Ranged vblankDef)) (setFormat par nearest .active w h) :=
  setFormat_stays ranged_admits.toAdmits (fun _ _ => trivial) par
    (fun _ _ hd => ⟨hd.exposure_minimum, hd.vblank_default⟩)
    (fun _ _ hd => ⟨hd.exposure_minimum, hd.vblank_default⟩)
    fun _ hd => ⟨hd.exposure_minimum, hdef⟩

theorem writeControl_ranged (i : CtrlId) (v : ℤ) :
    Stays (Frame.invariant (Ranged vblankDef)) (writeControl par i v) :=
  writeControl_stays ranged_admits.toAdmits (fun _ _ => trivial) par v
    fun _ _ hd => hd.update i (fun _ => rfl) fun _ => rfl

theorem autosuspend_ranged (lost : ℕ → BitVec 8) :
    Stays (Frame.invariant (Ranged vblankDef)) (autosuspend lost) :=
  autosuspend_stays ranged_admits.pm ranged_admits.power
    (fun _ _ hd => ⟨hd.exposure_minimum, hd.vblank_default⟩) lost

/-- Probe leaves the default of the first mode if that is the mode nearest to
640x480. -/
theorem probe_ranged {nearest : ℕ → ℕ → Fin 3} (hnear : nearest 640 480 = 0)
    (board : Board) :
    Ranged ((firstMode par).vts - 480) (probe par nearest board) := by
  have hdef : ((modeInfoData par (nearest 640 480)).vts : ℤ) - 480 =
      (firstMode par).vts - 480 := by
    rw [hnear, modeInfoData_zero]
  have hinit : Stays (Frame.invariant (Ranged ((firstMode par).vts - 480)))
      (initState par nearest) := by
    apply Keeps.tryCatch (S := fun _ => True)
    · exact (setFormat_ranged par hdef).bind fun _ => Keeps.pure ()
    · exact fun _ _ => Keeps.pure ()
  apply hinit.outcome
  refine ⟨rfl, ?_⟩
  rw [initCtrls, modeInfoData_height]
  rfl

end Parameters

end Ov7251
end SurfaceCameras
