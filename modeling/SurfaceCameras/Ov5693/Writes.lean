import SurfaceCameras.Kernel.Emission
import SurfaceCameras.Ov5693.StreamEffects

/-!
# What the OV5693 driver writes when transfers fail

The functions that only talk to the sensor write the registers they write when
every transfer succeeds, or the first of them.  A control is applied, and the
sensor programmed on a resume, without catching an error on the way.
-/

namespace SurfaceCameras
namespace Ov5693

open Kernel Device Prog MaskedWrites

/-! ## Controls -/

theorem writeCtrl_emits (id : CtrlId) (val : ℤ) :
    Emits (writeCtrl id val) (fun d => ctrlWrites id d.mode val) := by
  cases id with
  | hblank => exact Emits.raise _
  | exposure | analogueGain | testPattern => exact cciWrite_emits _ _ _
  | digitalGain =>
      exact (cciWrite_emits _ _ _).seq
        ((cciWrite_emits _ _ _).seq (cciWrite_emits _ _ _))
  | hflip =>
      exact (cciUpdateBits_emits _ _ _).seq
        (Emits.gets Device.mode fun _ => cciWrite_emits _ _ _)
  | vflip => exact Emits.gets Device.mode fun _ => cciUpdateBits_emits _ _ _
  | vblank =>
      have hwrite : ∀ height : ℕ, Emits
          (cciWrite timingVtsReg 2 ((height : ℤ) + val) : Prog System Fault Unit)
          (fun _ => bytesAt timingVtsReg (bigEndian 2 ((height : ℤ) + val))) :=
        fun height => cciWrite_emits _ _ _
      exact Emits.gets (fun d : Device => d.mode.format.height) hwrite

/-- The reference taken for the register access is dropped either way, so a
device in use is left with what the switch writes. -/
theorem applyCtrl_at {i : CtrlId} {d : Device} {r : Registers}
    {Q E : Registers → Prop} (huse : d.pm.InUse)
    (hwrite : ∀ d' : Device, d'.mode = d.mode →
      Triple (At d' r) (writeCtrl i ((ctrlField i).get d).val)
        (fun _ s => s.dev = d' ∧ Q s.bus.regs)
        (fun _ s => s.dev = d' ∧ E s.bus.regs)) :
    Triple (At d r) (applyCtrl i) (fun _ s => s.dev = d ∧ Q s.bus.regs)
      (fun _ s => s.dev = d ∧ E s.bus.regs) := by
  rintro s ⟨rfl, rfl⟩
  have hput := get_put_of_inUse huse
  have hend := hwrite (pmField.update RuntimePm.get s.dev) rfl
    (pmField.ofDev.update RuntimePm.get s) ⟨rfl, rfl⟩
  rw [applyCtrl_of_inUse huse]
  unfold Prog.tryFinally
  revert hend
  rcases writeCtrl i ((ctrlField i).get s.dev).val
    (pmField.ofDev.update RuntimePm.get s) with ⟨_ | _, t⟩
  · rintro ⟨hdev, hregs⟩
    exact ⟨(congrArg (pmField.update RuntimePm.put) hdev).trans hput, hregs⟩
  · rintro ⟨hdev, hregs⟩
    exact ⟨(congrArg (pmField.update RuntimePm.put) hdev).trans hput, hregs⟩

theorem applyCtrl_emits (i : CtrlId) :
    Emits (applyCtrl i) (fun d => (applyCtrlEffect i d).2) := by
  intro d r
  dsimp only
  by_cases huse : d.pm.InUse
  · rw [applyCtrlEffect_of_inUse huse]
    apply (applyCtrl_at (Q := fun r' => r' = applyAll (ctrlWrites i d.mode
      ((ctrlField i).get d).val) r) (E := fun r' => ∃ vs,
        vs <+: ctrlWrites i d.mode ((ctrlField i).get d).val ∧
          r' = applyAll vs r) huse ?_).consequence (fun _ hs => hs)
            (fun _ _ hs => hs)
    · rintro _ s ⟨hdev, vs, hvs, hregs⟩
      exact ⟨vs, hvs, hdev, hregs⟩
    · intro d' hmode
      rw [← hmode]
      apply (writeCtrl_emits i _ d' r).consequence (fun _ hs => hs)
        (fun _ _ hs => hs)
      rintro _ s ⟨vs, hvs, hdev, hregs⟩
      exact ⟨hdev, vs, hvs, hregs⟩
  · rintro s ⟨rfl, rfl⟩
    rw [applyCtrl_of_not huse, applyCtrlEffect_of_not huse]
    exact ⟨rfl, rfl⟩

/-! ## Programming the mode -/

section Parameters

variable (binnedYOffset : ℤ)

theorem modeConfigure_emits :
    Emits (modeConfigure binnedYOffset)
      (fun d => modeWrites binnedYOffset d.mode d.hflip.val d.vflip.val) := by
  have hwrite : ∀ (reg n : ℕ) (val : ℤ), Emits
      (cciWrite reg n val : Prog System Fault Unit)
      (fun _ => bytesAt reg (bigEndian n val)) :=
    cciWrite_emits
  refine (Emits.gets Device.mode (w := fun m d =>
    modeWrites binnedYOffset m d.hflip.val d.vflip.val) fun m => ?_).congr
      fun _ => rfl
  refine (Emits.gets (fun d : Device => d.hflip.val)
    (w := fun h d => modeWrites binnedYOffset m h d.vflip.val)
      fun h => ?_).congr fun _ => rfl
  refine (Emits.gets (fun d : Device => d.vflip.val)
    (w := fun v _ => modeWrites binnedYOffset m h v) fun v => ?_).congr
      fun _ => rfl
  have hflip := (cciUpdateBits_emits (δ := Device) format1Reg flipVertMask
    (flipVertBits m)).when (c := v ≠ 0)
  refine Emits.congr ((hwrite _ _ _).seq ((hwrite _ _ _).seq
    ((hwrite _ _ _).seq ((hwrite _ _ _).seq ((hwrite _ _ _).seq
    ((hwrite _ _ _).seq ((hwrite _ _ _).seq ((hwrite _ _ _).seq
    ((hwrite _ _ _).seq ((hwrite _ _ _).seq ((hwrite _ _ _).seq
    ((cciUpdateBits_emits _ _ _).seq ((cciUpdateBits_emits _ _ _).seq
    (hflip.seq (cciMultiRegWrite_emits _))))))))))))))) fun d => ?_
  simp [modeWrites, vflipWrites, geometryWrites, cropStartWrites,
    offsetXWrites, modeTable]

theorem enableStreaming_emits (enable : Bool) :
    Emits (enableStreaming enable) (fun _ => streamWrites enable) := by
  have h := ((cciWrite_emits (δ := Device) mipiCtrl00Reg 1 0x2d).when
    (c := enable = true)).seq
      (cciWrite_emits swStreamReg 1 (if enable then 1 else 0))
  refine h.congr fun d => ?_
  cases enable <;> rfl

theorem sensorInit_emits :
    Emits (sensorInit binnedYOffset)
      (fun d => initWrites binnedYOffset d.mode d.hflip.val d.vflip.val) :=
  (cciWrite_emits swResetReg 1 1).seq
    ((cciMultiRegWrite_emits globalRegs).seq
      ((modeConfigure_emits binnedYOffset).seq (enableStreaming_emits false)))

/-! ## Power -/

theorem tryEnable_at (enable : Power → Power) (d : Device) (r : Registers) :
    Triple (At d r) (tryEnable enable)
      (fun _ => At (powerField.update enable d) r)
      (fun _ s => s.bus.regs = r) := by
  apply Triple.bind (Q := fun _ => At d r)
  · exact (transfer_at d r).consequence (fun _ hs => hs) (fun _ _ hs => hs)
      fun _ _ hs => hs.2
  · exact fun _ => Triple.modify fun _ hs => hs.update powerField enable

/-- A power-up writes no registers. -/
theorem sensorPowerup_at (d : Device) (r : Registers) :
    Triple (At d r) sensorPowerup
      (fun _ => At (powerField.update Power.up d) r)
      (fun _ s => s.bus.regs = r) := by
  apply Triple.bind (Triple.modify (Q := fun _ => At (powerField.update
    (fun p => { p with reset := true, powerdown := true }) d) r) ?_)
  · intro _
    apply Triple.bind
    · apply Triple.tryCatch (J := fun _ s => s.bus.regs = r)
      · exact (tryEnable_at _ _ r).bind fun _ => tryEnable_at _ _ r
      · intro e
        apply Triple.bind (Q := fun _ s => s.bus.regs = r)
        · exact Triple.modify fun _ hs => hs
        · exact fun _ => Triple.raise fun _ hs => hs
    · intro _
      exact Triple.modify fun _ hs => hs.update powerField fun p =>
        { p with powerdown := false, reset := false }
  · exact fun _ hs => hs.update powerField _

/-- A resume that succeeds has programmed the sensor; one that fails has
programmed some of it. -/
theorem sensorResume_at (d : Device) (r : Registers) :
    Triple (At d r) (sensorResume binnedYOffset)
      (fun _ => At (powerField.update Power.up d)
        (applyAll (initWrites binnedYOffset d.mode d.hflip.val d.vflip.val) r))
      (fun _ s => ∃ vs,
        vs <+: initWrites binnedYOffset d.mode d.hflip.val d.vflip.val ∧
          s.bus.regs = applyAll vs r) := by
  apply Triple.bind (Q := fun _ => At (powerField.update Power.up d) r)
  · apply (sensorPowerup_at d r).consequence (fun _ hs => hs)
      (fun _ _ hs => hs)
    exact fun _ _ hs => ⟨[], List.nil_prefix, hs⟩
  intro _
  apply Triple.tryCatch (sensorInit_emits binnedYOffset _ r)
  intro e
  apply Triple.bind (Q := fun _ s => ∃ vs,
    vs <+: initWrites binnedYOffset d.mode d.hflip.val d.vflip.val ∧
      s.bus.regs = applyAll vs r)
  · apply Triple.modify
    rintro s ⟨vs, hvs, -, hregs⟩
    exact ⟨vs, hvs, hregs⟩
  · exact fun _ => Triple.raise fun _ hs => hs

end Parameters

end Ov5693
end SurfaceCameras
