import SurfaceCameras.Ov5693.FrameMargin
import SurfaceCameras.Ov7251.FrameMargin

/-!
# The exposure on the wire

Both drivers let the exposure range follow the vertical blanking from inside the
callback that writes the frame length.  In between, the sensor has an exposure
and a frame length that belong to different settings; what it holds must end
before the frame all the same.
-/

namespace SurfaceCameras

open Kernel Runs

/-- While the active format stays as it is, control writes of a streaming sensor
never leave an exposure in the registers that reaches into the margin of the
frame there, not even between two writes of one call. -/
theorem streams_fitFrame :
    (∀ (binnedYOffset : ℤ) (regs : ℕ → BitVec 8) (before : List Ov5693.Call)
        (s : Ov5693.System),
      run (Ov5693.step binnedYOffset) (Ov5693.probe regs) before = s →
      ∀ (w h : BitVec 32) (fmt : MbusFramefmt) (s₀ : Ov5693.System),
        Ov5693.setFmt .active w h s = (.ok fmt, s₀) → 9 ≤ fmt.height →
        ∀ between : List Ov5693.Call,
          Throughout (Ov5693.step binnedYOffset)
            (fun t => t.dev.mode.format = fmt) s₀ between →
          ∀ s₁ : Ov5693.System,
            Ov5693.sStream binnedYOffset true
                (run (Ov5693.step binnedYOffset) s₀ between) = (.ok (), s₁) →
            ∀ ws : List (Ov5693.CtrlId × ℤ),
              ∀ x ∈ (run Ov5693.recordWrite (s₁, []) ws).2,
                Ov5693.FitsFrame x.2) ∧
      ∀ (par : Ov7251.Params) (nearest : ℕ → ℕ → Fin 3) (board : Ov7251.Board)
          (before : List Ov7251.SysCall) (d : Ov7251.Device),
        run (Ov7251.sysStep par nearest) (Ov7251.probe par nearest board)
          (Ov7251.clean before) = d →
        d.exposure.maximum ≤ d.height par + d.vblank.cur -
          Ov7251.integrationMargin →
        ∀ ws : List (Ov7251.CtrlId × ℤ),
          ∀ x ∈ (run (Ov7251.recordStep par nearest) (d, [])
              (Ov7251.writes ws)).2,
            Ov7251.FitsFrame x.2 := by
  constructor
  · intro binnedYOffset regs before s hs w h fmt s₀ hset hge between hkept s₁
      hstart ws
    exact Ov5693.writes_fitFrame binnedYOffset regs before hs hset hge hkept
      hstart ws
  · intro par nearest board before d hd hmax ws
    exact Ov7251.writes_fitFrame par nearest board before hd hmax ws

/-- A frame that shrinks and grows again around a long exposure. -/
theorem streams_fitFrame_resized :
    (∀ x ∈ (run Ov5693.recordWrite
        ((Ov5693.sStream 2 true (run (Ov5693.step 2)
          (Ov5693.setFmt .active 1296 972 (Ov5693.probe fun _ => 0)).2
          [.write .vflip 1])).2, [])
        [(.exposure, 2000), (.vblank, 134), (.vblank, 3000)]).2,
      Ov5693.FitsFrame x.2) ∧
    ∀ x ∈ (run (Ov7251.recordStep Ov7251.stockParams fun _ _ =>
        Ov7251.initialMode)
        (run (Ov7251.sysStep Ov7251.stockParams fun _ _ => Ov7251.initialMode)
          (Ov7251.probe Ov7251.stockParams (fun _ _ => Ov7251.initialMode)
            Ov7251.plainBoard) (Ov7251.clean [.stream false true]), [])
        (Ov7251.writes [(.exposure, 2000), (.vblank, 134),
          (.vblank, 3000)])).2,
      Ov7251.FitsFrame x.2 := by
  obtain ⟨h5693, h7251⟩ := streams_fitFrame
  constructor
  · have hset : (Ov5693.setFmt .active 1296 972 (Ov5693.probe fun _ => 0)).1 =
        .ok ⟨1296, 972, 0x3007, 0, 0, 0, 0, 0⟩ := by
      decide +kernel
    have hkept : Throughout (Ov5693.step 2)
        (fun t => t.dev.mode.format = ⟨1296, 972, 0x3007, 0, 0, 0, 0, 0⟩)
        (Ov5693.setFmt .active 1296 972 (Ov5693.probe fun _ => 0)).2
        [.write .vflip 1] := by
      constructor
      · decide +kernel
      · change _ = _
        decide +kernel
    have hstart : (Ov5693.sStream 2 true (run (Ov5693.step 2)
        (Ov5693.setFmt .active 1296 972 (Ov5693.probe fun _ => 0)).2
        [.write .vflip 1])).1 = .ok () := by
      decide +kernel
    exact h5693 2 (fun _ => 0) [] (Ov5693.probe fun _ => 0) rfl 1296 972 _ _
      (Prog.eq_ok hset) (by decide) _ hkept _ (Prog.eq_ok hstart) _
  · apply h7251 Ov7251.stockParams (fun _ _ => Ov7251.initialMode)
      Ov7251.plainBoard [.stream false true] _ rfl
    decide +kernel

end SurfaceCameras
