import SurfaceCameras.Ov7251.CleanRuns

/-!
# What the stream calls of the OV7251 driver do to the frame

A start hands every control to the sensor again, the vertical blanking last of
all, and the range of the exposure follows the blanking in effect.  Stopping the
stream and suspending the sensor leave the controls alone.
-/

namespace SurfaceCameras
namespace Ov7251

open Kernel Device Prog

namespace Regular

variable {d d' : Device}

theorem of_steady (hd : Regular d) (h : Steady d.exposure d.vblank d') :
    Regular d' where
  clean := h.clean
  exposure_settled := h.exposure ▸ hd.exposure_settled
  exposure_minimum := h.exposure ▸ hd.exposure_minimum
  exposure_step := h.exposure ▸ hd.exposure_step
  vblank_settled := h.vblank ▸ hd.vblank_settled
  vblank_minimum := h.vblank ▸ hd.vblank_minimum
  vblank_maximum := h.vblank ▸ hd.vblank_maximum

theorem steady (hd : Regular d) : Steady d.exposure d.vblank d :=
  ⟨hd.clean, rfl, rfl⟩

end Regular

section Parameters

variable (par : Params)

/-! ## Setting up the controls -/

/-- The device once these controls have been handed to the driver again. -/
def ctrlsSetUp (ids : List CtrlId) (d : Device) : Device :=
  ids.foldl (fun d i => sCtrlEffect par i ((ctrlField i).update Ctrl.curToNew d))
    d

theorem Stable.ctrlsSetUp (ids : List CtrlId) : Stable (ctrlsSetUp par ids) := by
  induction ids with
  | nil => exact Stable.id
  | cons i ids ih =>
      exact ih.comp ((Stable.sCtrlEffect par i).comp (Stable.update i _))

theorem ctrlsSetUp_does (ids : List CtrlId) :
    Does (v4l2CtrlHandlerSetup (ids.map fun i => (ctrlField i, sCtrl par i)))
      (ctrlsSetUp par ids) := by
  induction ids with
  | nil => exact Does.pure
  | cons i ids ih =>
      have hone := Does.modify.seq (sCtrl_does par i)
        (Stable.update i Ctrl.curToNew) (Stable.sCtrlEffect par i)
      exact hone.seq ih ((Stable.sCtrlEffect par i).comp (Stable.update i _))
        (Stable.ctrlsSetUp par ids)

variable {x y : Ctrl}

theorem handlerSetup_steady :
    Triple (Steady x y) (handlerSetup par)
      (fun _ => Steady (followVblank par y.cur x.curToNew) y.curToNew)
      (fun _ _ => False) := by
  rintro d ⟨hclean, rfl, rfl⟩
  obtain ⟨d', hok, h'⟩ := ctrlsSetUp_does par writableCtrls d hclean
  rw [handlerSetup, hok]
  exact ⟨h'.clean ((Stable.ctrlsSetUp par writableCtrls).clean hclean), h'.exposure,
    h'.vblank⟩

/-! ## The stream -/

theorem streamOn_steady (hasLed : Bool) :
    Triple (Steady x y) (sStream par hasLed true)
      (fun _ => Steady (followVblank par y.cur x.curToNew) y.curToNew)
      (fun _ _ => False) := by
  have hctrl := controls_admitsBus
  apply Triple.bind (steady_of_stays resumeAndGet_flawless
    (resumeAndGet_stays hctrl controls_power controls_pm))
  intro _
  apply Triple.tryCatch (J := fun _ _ => False)
  · apply Triple.bind (steady_of_stays (pllConfigure_flawless par)
      (pllConfigure_stays hctrl par fun _ _ => trivial))
    intro _
    apply Triple.bind (Q := fun _ => Steady x y)
    · exact Triple.gets fun _ hs => hs
    intro mode
    apply Triple.bind (steady_of_stays (setRegisterArray_flawless _)
      (setRegisterArray_stays hctrl fun _ _ => trivial))
    intro _
    apply Triple.bind (handlerSetup_steady par)
    intro _
    apply Triple.bind (steady_of_stays (writeReg_flawless 0x0100 0x1)
      (writeReg_stays hctrl trivial 0x1))
    intro _
    exact steady_of_stays (irLedSet_flawless hasLed true)
      (irLedSet_stays hctrl trivial trivial hasLed true)
  · exact fun _ _ hfalse => hfalse.elim

theorem put_steady :
    Triple (Steady x y) (pmRuntimePut pmField) (fun _ => Steady x y)
      (fun _ _ => False) :=
  Triple.modify fun _ hs => ⟨hs.clean, hs.exposure, hs.vblank⟩

theorem streamOff_steady (hasLed : Bool) :
    Triple (Steady x y) (sStream par hasLed false) (fun _ => Steady x y)
      (fun _ _ => False) := by
  have hctrl := controls_admitsBus
  have hled := steady_of_stays (x := x) (y := y) (irLedSet_flawless hasLed false)
    (irLedSet_stays hctrl trivial trivial hasLed false)
  have hmode := steady_of_stays (x := x) (y := y) (writeReg_flawless 0x0100 0x0)
    (writeReg_stays hctrl trivial 0x0)
  apply Triple.bind (Q := fun _ => Steady x y)
  · exact hled.tryCatch fun _ _ hfalse => hfalse.elim
  intro _
  apply hmode.tryFinally
  · exact fun _ => put_steady
  · exact fun _ _ _ hfalse => hfalse.elim
  · exact fun _ _ _ hfalse => hfalse.elim

theorem autosuspend_flawless (lost : ℕ → BitVec 8) :
    Flawless (autosuspend lost) := by
  apply Flawless.bind (Flawless.gets _)
  intro pm
  apply Triple.ite
  · intro _
    apply Flawless.bind
    · exact (setPower_flawless _).bind fun _ => setPower_flawless _
    · exact fun _ => (Flawless.modify fun _ => rfl).bind fun _ =>
        Flawless.modify fun _ => rfl
  · exact fun _ => Flawless.modify fun _ => rfl

theorem autosuspend_steady (lost : ℕ → BitVec 8) :
    Triple (Steady x y) (autosuspend lost) (fun _ => Steady x y)
      (fun _ _ => False) :=
  steady_of_stays (autosuspend_flawless lost)
    (autosuspend_stays controls_pm controls_power
      (fun _ _ => funext fun i => by cases i <;> rfl) lost)

end Parameters

end Ov7251
end SurfaceCameras
