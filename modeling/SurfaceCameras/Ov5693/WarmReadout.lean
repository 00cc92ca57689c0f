import SurfaceCameras.Ov5693.HiddenMode
import SurfaceCameras.Ov5693.WarmStart
import SurfaceCameras.Ov5693.Window

/-!
# What a warm start of the OV5693 tells of the mode

The registers of the readout tell the mode they were programmed for: its
binning, its output size and, unbinned, its crop rectangle.  So once a mode has
been programmed, a start from a sensor that is still on refines a cold start
only if the current mode asks for the same readout.
-/

namespace SurfaceCameras
namespace Ov5693

open Kernel Device MaskedWrites Prog Runs

/-! ## The modes of a run -/

/-- A mode that calls can lead to: the crop rectangle lies in the array, the
output is no larger than that, and the rest follows from what was asked for. -/
structure Attained (m : Mode) : Prop where
  crop : InArray m.crop
  width : m.format.width ≤ nativeWidth
  height : m.format.height ≤ nativeHeight
  follows : ∃ h, Follows h m

theorem InArray.size_le {r : Rect} (h : InArray r) :
    r.width ≤ nativeWidth ∧ r.height ≤ nativeHeight := by
  have hleft := h.left_nonneg
  have htop := h.top_nonneg
  have hright := h.right_le
  have hbottom := h.bottom_le
  exact ⟨by omega, by omega⟩

theorem after_attained {m : Mode} (hm : Attained m) (c : Call) :
    Attained (m.after c) := by
  obtain ⟨h, hfollows⟩ := hm.follows
  have hnext := after_follows hfollows c
  have hcrop := after_inArray hm.crop c
  match c with
  | .setFmt .active w height =>
      obtain ⟨hw, hh⟩ := hm.crop.size_le
      refine ⟨hcrop, ?_, ?_, _, hnext⟩
      · rw [Mode.after]
        split
        · exact hm.width
        · exact (Nat.div_le_self _ _).trans hw
      · rw [Mode.after]
        split
        · exact hm.height
        · exact (Nat.div_le_self _ _).trans hh
  | .setSelection .active .crop r =>
      obtain ⟨hw, hh⟩ := (selectedRect_inArray r).size_le
      refine ⟨hcrop, ?_, ?_, _, hnext⟩
      · rw [Mode.after, Mode.cropped, storeCrop]
        split
        · exact hw
        · exact hm.width
      · rw [Mode.after, Mode.cropped, storeCrop]
        split
        · exact hh
        · exact hm.height
  | .setFmt (.try_ _) _ _ | .setSelection (.try_ _) _ _
  | .setSelection .active .cropBounds _ | .setSelection .active .cropDefault _
  | .setSelection .active .nativeSize _ | .setSelection .active .other _
  | .write _ _ | .sStream _ | .autosuspend _ => exact hm

theorem probe_attained (regs : ℕ → BitVec 8) :
    Attained (probe regs).dev.mode := by
  rw [probe_mode]
  exact ⟨defaultCrop_inArray, by decide, by decide, History.start, rfl, rfl, rfl,
    rfl, rfl⟩

section Parameters

variable (binnedYOffset : ℤ)

/-- The modes of a run state: the current one and the one last programmed. -/
structure ModesAttained (t : Tracked) : Prop where
  current : Attained t.system.dev.mode
  programmed : ∀ m, t.programmed = some m → Attained m

theorem step_mode_after {s : System} (hs : CropsInArray s) (c : Call) :
    (step binnedYOffset s c).dev.mode = s.dev.mode.after c := by
  have hclean : s.facing [] = s := by
    obtain ⟨dev, regs, faults⟩ := s
    obtain rfl : faults = [] := hs.clean
    rfl
  have hstep := sysStep_mode binnedYOffset (hs.inArray .active) ([], c)
  rwa [sysStep, hclean] at hstep

theorem trackedStep_attained {t : Tracked} (hs : CropsInArray t.system)
    (ht : ModesAttained t) (c : Call) :
    ModesAttained (trackedStep binnedYOffset t c) := by
  constructor
  · rw [trackedStep, step_mode_after binnedYOffset hs]
    exact after_attained ht.current c
  · intro m hm
    rw [trackedStep] at hm
    dsimp only at hm
    split at hm
    · obtain rfl := Option.some.inj hm
      exact ht.current
    · exact ht.programmed m hm

/-! ## Reading a mode back -/

/-- The registers of a window once the sensor has been programmed. -/
theorem init_window (m : Mode) (hflip vflip : ℤ) (r : Registers) {p : ℕ × ℤ}
    (hp : p ∈ windowPairs binnedYOffset m hflip) :
    (word (applyAll (initWrites binnedYOffset m hflip vflip) r) p.1 2 : ℤ) =
      p.2 % 256 ^ 2 := by
  have hreg : p.1 ∈ windowRegs := List.mem_map_of_mem hp
  have hapart : ∀ a ∈ windowRegs, ∀ k < 2,
      a + k ∉ (footprint (streamWrites false)).map Prod.fst := by decide
  have hword := window_word binnedYOffset m hflip vflip hp
    (applyAll (tableWrites globalRegs)
      (applyAll (bytesAt swResetReg (bigEndian 1 1)) r))
  rw [← hword, initWrites, applyAll_append, applyAll_append, applyAll_append]
  refine congrArg _ (word_congr fun k hk => ?_)
  exact applyAll_of_notMem (hapart _ hreg k hk) _

variable {binnedYOffset}

section Registers

variable {m m' : Mode} {hflip vflip hflip' vflip' : ℤ} {r r' : Registers}
  (hregs : ∀ a ∈ modeRegs,
    applyAll (initWrites binnedYOffset m hflip vflip) r a =
      applyAll (initWrites binnedYOffset m' hflip' vflip') r' a)

include hregs

/-- The same words of the window were written for the same values. -/
theorem windowValue_of_regs {a : ℕ} {v v' : ℤ}
    (hmode : ∀ k < 2, a + k ∈ modeRegs)
    (hv : (a, v) ∈ windowPairs binnedYOffset m hflip)
    (hv' : (a, v') ∈ windowPairs binnedYOffset m' hflip')
    (hfit : 0 ≤ v ∧ v < 65536) (hfit' : 0 ≤ v' ∧ v' < 65536) : v = v' := by
  have hread := init_window binnedYOffset m hflip vflip r hv
  have hread' := init_window binnedYOffset m' hflip' vflip' r' hv'
  rw [word_congr fun k hk => hregs _ (hmode k hk), hread'] at hread
  change v' % 65536 = v % 65536 at hread
  rwa [Int.emod_eq_of_lt hfit.1 hfit.2, Int.emod_eq_of_lt hfit'.1 hfit'.2,
    eq_comm] at hread

/-- The sub-increments tell the binning. -/
theorem asked_of_regs {h h' : History} (hfollows : Follows h m)
    (hfollows' : Follows h' m') : h.asked = h'.asked := by
  obtain ⟨hx, hy⟩ := initWrites_subInc binnedYOffset m hflip vflip r
  obtain ⟨hx', hy'⟩ := initWrites_subInc binnedYOffset m' hflip' vflip' r'
  rw [hregs _ (by decide), hx'] at hx
  rw [hregs _ (by decide), hy'] at hy
  exact follows_asked hfollows hfollows' hx.symm hy.symm

/-- The output size is written as it is. -/
theorem size_of_regs (hm : Attained m) (hm' : Attained m') :
    m.format.width = m'.format.width ∧ m.format.height = m'.format.height := by
  have hsize : ∀ {n : ℕ}, n ≤ 2624 → 0 ≤ (n : ℤ) ∧ (n : ℤ) < 65536 := by omega
  have hnative : nativeHeight ≤ 2624 := by decide
  have hwidth : (m.format.width : ℤ) = m'.format.width :=
    windowValue_of_regs hregs (a := outputSizeXReg) (by decide)
      (by simp [windowPairs]) (by simp [windowPairs]) (hsize hm.width)
      (hsize hm'.width)
  have hheight : (m.format.height : ℤ) = m'.format.height :=
    windowValue_of_regs hregs (a := outputSizeYReg) (by decide)
      (by simp [windowPairs]) (by simp [windowPairs])
      (hsize (hm.height.trans hnative)) (hsize (hm'.height.trans hnative))
  exact ⟨Int.ofNat.inj hwidth, Int.ofNat.inj hheight⟩

/-- Without binning the readout begins and ends with the crop rectangle. -/
theorem crop_of_regs (hm : Attained m) (hm' : Attained m')
    (hunbinned : m.binned = false) (hunbinned' : m'.binned = false) :
    m.crop = m'.crop := by
  have hright := hm.crop.right_le
  have hbottom := hm.crop.bottom_le
  have hright' := hm'.crop.right_le
  have hbottom' := hm'.crop.bottom_le
  have hleft := hm.crop.left_nonneg
  have htop := hm.crop.top_nonneg
  have hleft' := hm'.crop.left_nonneg
  have htop' := hm'.crop.top_nonneg
  simp only [nativeWidth, nativeHeight] at hright hbottom hright' hbottom'
  have hstartX : m.crop.left = m'.crop.left :=
    windowValue_of_regs hregs (a := cropStartXReg) (by decide)
      (by simp [windowPairs, readoutStart, hunbinned])
      (by simp [windowPairs, readoutStart, hunbinned']) (by omega) (by omega)
  have hstartY : m.crop.top = m'.crop.top :=
    windowValue_of_regs hregs (a := cropStartYReg) (by decide)
      (by simp [windowPairs, readoutStart, hunbinned])
      (by simp [windowPairs, readoutStart, hunbinned']) (by omega) (by omega)
  have hendX : m.crop.left + m.crop.width = m'.crop.left + m'.crop.width :=
    windowValue_of_regs hregs (a := cropEndXReg) (by decide)
      (by simp [windowPairs, readoutEnd, hunbinned])
      (by simp [windowPairs, readoutEnd, hunbinned']) (by omega) (by omega)
  have hendY : m.crop.top + m.crop.height = m'.crop.top + m'.crop.height :=
    windowValue_of_regs hregs (a := cropEndYReg) (by decide)
      (by simp [windowPairs, readoutEnd, hunbinned])
      (by simp [windowPairs, readoutEnd, hunbinned']) (by omega) (by omega)
  revert hstartX hstartY hendX hendY
  rcases m.crop with ⟨left, top, width, height⟩
  rcases m'.crop with ⟨left', top', width', height'⟩
  intro hstartX hstartY hendX hendY
  simp only [Rect.mk.injEq]
  dsimp only at hstartX hstartY hendX hendY
  omega

/-- Registers of the readout that are the same were programmed for the same
readout. -/
theorem sameReadout_of_regs (hm : Attained m) (hm' : Attained m') :
    SameReadout m m' := by
  obtain ⟨h, hfollows⟩ := hm.follows
  obtain ⟨h', hfollows'⟩ := hm'.follows
  have hasked := asked_of_regs hregs hfollows hfollows'
  have hbinningX : m.binningX = m'.binningX := by
    rw [hfollows.binningX, hfollows'.binningX, hasked]
  have hbinningY : m.binningY = m'.binningY := by
    rw [hfollows.binningY, hfollows'.binningY, hasked]
  obtain ⟨hwidth, hheight⟩ := size_of_regs hregs hm hm'
  refine
    { binningX := hbinningX
      binningY := hbinningY
      incXOdd := by rw [hfollows.incXOdd, hfollows'.incXOdd, hasked]
      incYOdd := by rw [hfollows.incYOdd, hfollows'.incYOdd, hasked]
      width := hwidth
      height := hheight
      crop := fun hunbinned => ?_ }
  have hunbinned' : m'.binned = false := by
    rw [← hunbinned, Mode.binned, Mode.binned, hbinningX, hbinningY]
  exact crop_of_regs hregs hm hm' hunbinned hunbinned'

end Registers

/-! ## Warm starts -/

/-- Where the sensor has been programmed, a start that refines a cold start
finds it programmed for the current mode. -/
theorem startsCurrent_of_refines {t : Tracked} (ht : Tracks binnedYOffset t)
    (hmodes : ModesAttained t)
    (hknown : t.system.dev.pm.active = true → t.programmed ≠ none)
    (h : RefinesColdStart binnedYOffset t.system) : StartsCurrent t := by
  cases hon : t.system.dev.pm.active with
  | false => exact Or.inl hon
  | true =>
      obtain ⟨m, hm⟩ := Option.ne_none_iff_exists'.mp (hknown hon)
      refine Or.inr ⟨m, hm, ?_⟩
      have hcold : (coldSystem (fun _ => 0) t.system).dev.pm.active = false :=
        rfl
      have hwarmRegs := sStream_agreeOn binnedYOffset ht.crops.clean
      have hcoldRegs := sStream_agreeOn binnedYOffset
        (s := coldSystem (fun _ => 0) t.system) ht.crops.clean
      rw [getEffect_of_active binnedYOffset hon] at hwarmRegs
      rw [getEffect_of_suspended binnedYOffset hcold] at hcoldRegs
      have hprogrammed := hwarmRegs.trans (ht.image hon m hm)
      have hregs : ∀ a ∈ modeRegs,
          applyAll (initWrites binnedYOffset m 0 0) (fun _ => 0) a =
            applyAll (initWrites binnedYOffset t.system.dev.mode
              t.system.dev.hflip.val t.system.dev.vflip.val) (fun _ => 0) a := by
        intro a ha
        have hbits : modeBits a = 0xff := if_pos ha
        have hstart : a ∈ startRegs :=
          List.mem_append_left _ (List.mem_append_left _ ha)
        exact ((hprogrammed.eq_of_allOnes hbits).symm.trans
          (h (fun _ => 0) a hstart)).trans (hcoldRegs.eq_of_allOnes hbits)
      exact sameReadout_of_regs hregs (hmodes.programmed m hm) hmodes.current

variable (binnedYOffset)

/-- In every run from probe, once a resume has programmed the sensor, a start of
streaming refines a cold start exactly if the sensor is suspended or programmed
for the readout of the current mode. -/
theorem refinesColdStart_iff (regs : ℕ → BitVec 8) (calls : List Call)
    (hknown : (run (trackedStep binnedYOffset) (tracked regs) calls).programmed ≠
      none) :
    RefinesColdStart binnedYOffset
        (run (trackedStep binnedYOffset) (tracked regs) calls).system ↔
      StartsCurrent (run (trackedStep binnedYOffset) (tracked regs) calls) := by
  have hinv : Tracks binnedYOffset
        (run (trackedStep binnedYOffset) (tracked regs) calls) ∧
      ModesAttained (run (trackedStep binnedYOffset) (tracked regs) calls) :=
    run_induction (I := fun t => Tracks binnedYOffset t ∧ ModesAttained t)
      (fun _ c ht => ⟨trackedStep_tracks binnedYOffset ht.1 c,
        trackedStep_attained binnedYOffset ht.1.crops ht.2 c⟩)
      ⟨tracked_tracks binnedYOffset regs, probe_attained regs,
        fun _ h => by cases h⟩ calls
  constructor
  · exact startsCurrent_of_refines hinv.1 hinv.2 fun _ => hknown
  · exact refinesColdStart_of_tracks binnedYOffset hinv.1

end Parameters

end Ov5693
end SurfaceCameras
