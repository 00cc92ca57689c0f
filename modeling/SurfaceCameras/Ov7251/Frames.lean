import SurfaceCameras.Kernel.Moves
import SurfaceCameras.Ov7251.Streaming

/-!
# What the operations of the OV7251 driver leave alone

Whatever the transfers do, an operation of the driver is made of a few moves:
a transfer, a register write, a step of setting a control, a new range, a
reference taken and dropped again.  A frame that admits the moves is kept by
the operation.  So each operation is looked at once, and an invariant or a
frame condition only has to be checked against the moves.
-/

namespace SurfaceCameras
namespace Ov7251

open Kernel Device Prog

/-- The frame allows the moves of a control operation: accesses to the sensor
that write registers in `A`, the steps of setting a control other than choosing
a value for the vertical blanking, and a new range of the exposure that starts
where the old one did or at one line. -/
structure Admits (F : Frame Device) (A : ℕ → Prop) : Prop
    extends AdmitsBus busField F A where
  preIsp00 : ∀ d v, F.Rel d { d with preIsp00 := v }
  timingFormat1 : ∀ d v, F.Rel d { d with timingFormat1 := v }
  timingFormat2 : ∀ d v, F.Rel d { d with timingFormat2 := v }
  hold : AdmitsHold pmField F
  validateNew : ∀ d i, F.Rel d ((ctrlField i).update Ctrl.validateNew d)
  newToCur : ∀ d i, F.Rel d ((ctrlField i).update Ctrl.newToCur d)
  curToNew : ∀ d i, F.Rel d ((ctrlField i).update Ctrl.curToNew d)
  setVal : ∀ d i (v : ℤ), i ≠ .vblank →
    F.Rel d ((ctrlField i).update (fun c => { c with val := v }) d)
  exposureRange : ∀ d (lo hi : ℤ) (st : ℕ) (dflt : ℤ),
    lo = 1 ∨ lo = d.exposure.minimum →
      F.Rel d (exposureField.update (fun c =>
        (c.withRange lo hi st dflt).curToNew) d)

/-- The frame also allows to change the power and the references. -/
structure AdmitsPower (F : Frame Device) (A : ℕ → Prop) : Prop
    extends Admits F A where
  pm : ∀ d f, F.Rel d (pmField.update f d)
  power : ∀ d f, F.Rel d (powerField.update f d)

/-- The registers of a control. -/
def ctrlAddrs : CtrlId → List ℕ
  | .hflip => [0x3821]
  | .vflip => [0x3820]
  | .exposure => [0x3500, 0x3501, 0x3502]
  | .analogueGain => [0x350a, 0x350b]
  | .testPattern => [0x5e00]
  | .vblank => [0x380e, 0x380f]

/-- The registers a control operation writes. -/
def ctrlRegisters : List ℕ :=
  [0x3500, 0x3501, 0x3502, 0x350a, 0x350b, 0x3820, 0x3821, 0x5e00, 0x380e,
   0x380f]

theorem ctrlAddrs_subset (i : CtrlId) : ∀ a ∈ ctrlAddrs i, a ∈ ctrlRegisters := by
  cases i <;> decide

theorem ctrlAddrs_disjoint {i j : CtrlId} (hij : i ≠ j) :
    ∀ a ∈ ctrlAddrs i, a ∉ ctrlAddrs j := by
  cases i <;> cases j <;> first | exact absurd rfl hij | decide

/-- The driver's copies of registers that change with a control. -/
def copyFields : CtrlId → List (Field Device (BitVec 8))
  | .hflip => [timingFormat2Field]
  | .vflip => [timingFormat1Field]
  | .testPattern => [preIsp00Field]
  | .exposure | .analogueGain | .vblank => []

theorem findModeByIval_stays {F : Frame Device} (par : Params)
    (mode : ModeInfo) (interval : Fract) :
    Stays F (findModeByIval par mode interval) := by
  intro d₀ d hd
  have hstate := findModeByIval_state par mode interval d
  revert hstate
  rcases findModeByIval par mode interval d with ⟨_ | n, d'⟩
  · rintro rfl
    exact ⟨hd, trivial⟩
  · rintro rfl
    exact hd

section Moves

variable {F : Frame Device} {A : ℕ → Prop}

/-! ## Accesses to the sensor -/

section Access

variable (hF : AdmitsBus busField F A)
include hF

theorem writeReg_stays {reg : ℕ} (hA : A reg) (val : BitVec 8) :
    Stays F (writeReg reg val) :=
  byteWrite_stays hF hA val

theorem setRegisterArray_stays {regs : List RegValue}
    (hA : ∀ r ∈ regs, A r.1) : Stays F (setRegisterArray regs) :=
  Keeps.forEach regs fun r hr => writeReg_stays hF (hA r hr) r.2

theorem writeSeqRegs_stays {reg : ℕ} {val : List (BitVec 8)}
    (hA : ∀ k < val.length, A (reg + k)) : Stays F (writeSeqRegs reg val) :=
  Keeps.ite (Keeps.raise trivial) (busWrite_stays hF hA)

theorem setCachedBit_stays {cache : Field Device (BitVec 8)} {reg : ℕ}
    (hA : A reg) (bit : BitVec 8) (value : ℤ)
    (hcache : ∀ d v, F.Rel d (cache.set d v)) :
    Stays F (setCachedBit cache reg bit value) := by
  refine (Keeps.gets _).bind fun old => ?_
  refine (writeReg_stays hF hA _).bind fun _ => ?_
  exact Keeps.modify fun d => hcache d _

/-- A control brought to the sensor, if the frame allows the driver's copy that
goes with it to change. -/
theorem writeCtrl_stays_of_copies (par : Params) {i : CtrlId}
    (hcopies : ∀ c ∈ copyFields i, ∀ d v, F.Rel d (c.set d v))
    (hA : ∀ a ∈ ctrlAddrs i, A a) (val : ℤ) : Stays F (writeCtrl par i val) := by
  cases i with
  | exposure =>
      simp only [writeCtrl, setExposure]
      have hregs : ∀ k < 3, 0x3500 + k ∈ ctrlAddrs .exposure := by decide
      exact writeSeqRegs_stays hF fun k hk => hA _ (hregs k hk)
  | analogueGain =>
      simp only [writeCtrl, setGain]
      have hregs : ∀ k < 2, 0x350a + k ∈ ctrlAddrs .analogueGain := by decide
      exact writeSeqRegs_stays hF fun k hk => hA _ (hregs k hk)
  | testPattern =>
      exact setCachedBit_stays hF (hA 0x5e00 (by decide)) _ _
        (hcopies _ List.mem_cons_self)
  | hflip =>
      exact setCachedBit_stays hF (hA 0x3821 (by decide)) _ _
        (hcopies _ List.mem_cons_self)
  | vflip =>
      exact setCachedBit_stays hF (hA 0x3820 (by decide)) _ _
        (hcopies _ List.mem_cons_self)
  | vblank =>
      have hregs : ∀ k < 2, 0x380e + k ∈ ctrlAddrs .vblank := by decide
      exact (Keeps.gets _).bind fun height =>
        writeSeqRegs_stays hF fun k hk => hA _ (hregs k hk)

/-- A control brought to the sensor, if the frame allows the driver's copies of
three registers to change. -/
theorem writeCtrl_stays (hpreIsp00 : ∀ d v, F.Rel d { d with preIsp00 := v })
    (hformat1 : ∀ d v, F.Rel d { d with timingFormat1 := v })
    (hformat2 : ∀ d v, F.Rel d { d with timingFormat2 := v })
    (par : Params) {i : CtrlId} (hA : ∀ a ∈ ctrlAddrs i, A a) (val : ℤ) :
    Stays F (writeCtrl par i val) := by
  apply writeCtrl_stays_of_copies hF par ?_ hA
  cases i with
  | hflip => exact List.forall_mem_singleton.mpr hformat2
  | vflip => exact List.forall_mem_singleton.mpr hformat1
  | testPattern => exact List.forall_mem_singleton.mpr hpreIsp00
  | exposure | analogueGain | vblank => exact fun c hc => by cases hc

theorem irLedSet_stays (hA : A 0x3005) (hA' : A 0x3b81) (hasLed on : Bool) :
    Stays F (irLedSet hasLed on) :=
  Keeps.when ((writeReg_stays hF hA _).bind fun _ => writeReg_stays hF hA' _)

theorem pllConfigure_stays (par : Params)
    (hA : ∀ a ∈ [0x30b4, 0x30b3, 0x30b1, 0x30b0, 0x30b5, 0x3098, 0x3099,
      0x309d, 0x309a, 0x309b], A a) : Stays F (pllConfigure par) := by
  refine (Keeps.gets _).bind fun rate => (Keeps.gets _).bind fun idx => ?_
  apply setRegisterArray_stays hF
  intro r hr
  apply hA
  have hmem := List.mem_map_of_mem (f := Prod.fst) hr
  exact hmem

end Access

section Parameters

variable (hF : Admits F A) (hctrl : ∀ a ∈ ctrlRegisters, A a) (par : Params)
include hF hctrl

theorem applyCtrl_stays (i : CtrlId) : Stays F (applyCtrl par i) :=
  held_stays hF.hold _ fun ctrl => writeCtrl_stays hF.toAdmitsBus hF.preIsp00
    hF.timingFormat1 hF.timingFormat2 par
      (fun a ha => hctrl a (ctrlAddrs_subset i a ha)) ctrl.val

/-! ## Controls -/

theorem adjustExposureRange_stays : Stays F (adjustExposureRange par) := by
  refine (Keeps.gets _).bind fun height => ?_
  refine (Keeps.gets _).bind fun vblank => ?_
  intro d₀
  apply Triple.bind (Q := fun c d => F.Rel d₀ d ∧ d.exposure = c)
  · exact Triple.gets fun d hd => ⟨hd, rfl⟩
  · intro c
    apply Triple.tryCatch (J := fun _ d => F.Rel d₀ d ∧ True)
    · apply v4l2CtrlModifyRange_stays
      · exact fun d => hF.validateNew d .exposure
      · exact fun d => hF.newToCur d .exposure
      · exact applyCtrl_stays hF hctrl par .exposure
      · rintro d rfl
        exact hF.exposureRange d _ _ _ _ (Or.inr rfl)
    · exact fun _ => Triple.pure fun d hd => hd.1

theorem sCtrl_stays (i : CtrlId) : Stays F (sCtrl par i) :=
  (Keeps.when (adjustExposureRange_stays hF hctrl par)).bind
    fun _ => applyCtrl_stays hF hctrl par i

theorem set_stays {i : CtrlId} {v : ℤ}
    (hset : ∀ d, F.Rel d
      ((ctrlField i).update (fun c => { c with val := v }) d)) :
    Stays F (v4l2CtrlSCtrl (ctrlField i) (sCtrl par i) v) :=
  v4l2CtrlSCtrl_stays (fun d => hF.validateNew d i) (fun d => hF.newToCur d i)
    (sCtrl_stays hF hctrl par i) hset

theorem writeControl_stays {i : CtrlId} (v : ℤ)
    (hset : ∀ w d, F.Rel d
      ((ctrlField i).update (fun c => { c with val := w }) d)) :
    Stays F (writeControl par i v) :=
  v4l2SCtrl_stays (fun d => hF.validateNew d i) (fun d => hF.newToCur d i)
    (sCtrl_stays hF hctrl par i) (ctrlType i) v hset

theorem handlerSetup_stays : Stays F (handlerSetup par) := by
  apply Keeps.forEach
  intro x hx
  obtain ⟨i, -, rfl⟩ := List.mem_map.mp hx
  exact (Keeps.modify fun d => hF.curToNew d i).bind
    fun _ => sCtrl_stays hF hctrl par i

/-! ## Formats and frame intervals -/

theorem modifyRange_stays {i : CtrlId} {lo hi : ℤ} {st : ℕ} {dflt : ℤ}
    (hrange : ∀ d, F.Rel d ((ctrlField i).update (fun c =>
      (c.withRange lo hi st dflt).curToNew) d)) :
    Stays F (v4l2CtrlModifyRange (ctrlField i) (sCtrl par i) lo hi st dflt) := by
  intro d₀
  apply (v4l2CtrlModifyRange_stays (P := fun _ => True)
    (fun d => hF.validateNew d i) (fun d => hF.newToCur d i)
    (sCtrl_stays hF hctrl par i) fun d _ => hrange d).strengthenPre
  exact fun _ hd => ⟨hd, trivial⟩

theorem resetExposure_stays (mode : ModeInfo) :
    Stays F (resetExposure par mode) := by
  have hexposure : Stays F (v4l2CtrlModifyRange (ctrlField .exposure)
      (sCtrl par .exposure) 1 mode.exposureMax 1 mode.exposureDef) :=
    modifyRange_stays hF hctrl par fun d =>
      hF.exposureRange d 1 mode.exposureMax 1 mode.exposureDef (Or.inl rfl)
  refine hexposure.bind fun _ => ?_
  refine (set_stays hF hctrl par (i := .exposure) fun d =>
    hF.setVal d .exposure _ (by decide)).bind fun _ => ?_
  exact set_stays hF hctrl par (i := .analogueGain) fun d =>
    hF.setVal d .analogueGain _ (by decide)

/-- Selecting a mode, if the frame allows another mode, another format and the
range the mode gives the vertical blanking. -/
theorem setFormat_stays {nearest : ℕ → ℕ → Fin 3} {w h : ℕ}
    (hmode : ∀ d n, F.Rel d { d with currentMode := n })
    (hpad : ∀ d p, F.Rel d { d with pad := p })
    (hrange : ∀ d, F.Rel d (vblankField.update (fun c =>
      (c.withRange timingMinVts (timingMaxVts - 480) 1
        ((modeInfoData par (nearest w h)).vts - 480)).curToNew) d)) :
    Stays F (setFormat par nearest .active w h) := by
  have hactive : Stays F (setActiveMode par (nearest w h)) := by
    refine (resetExposure_stays hF hctrl par _).bind fun _ => ?_
    refine Keeps.bind ?_ fun _ => Keeps.modify fun d => hmode d _
    rw [modeInfoData_height]
    exact modifyRange_stays hF hctrl par (i := .vblank) hrange
  refine (Keeps.modify fun d => hpad d _).bind fun _ => ?_
  refine hactive.bind fun _ => ?_
  exact (Keeps.modify fun d => hpad d _).bind fun _ => Keeps.gets _

theorem setFrameInterval_stays
    (hmode : ∀ d n, F.Rel d { d with currentMode := n }) (interval : Fract) :
    Stays F (setFrameInterval par .active interval) := by
  refine (Keeps.gets _).bind fun current => ?_
  refine (findModeByIval_stays par _ interval).bind fun n => ?_
  refine (Keeps.when ?_).bind fun _ => Keeps.gets _
  exact (resetExposure_stays hF hctrl par _).bind fun _ =>
    Keeps.modify fun d => hmode d _

end Parameters

end Moves

/-! ## Power and streaming -/

section Power

variable {F : Frame Device} {A : ℕ → Prop} (hF : AdmitsBus busField F A)
  (hpower : ∀ d f, F.Rel d (powerField.update f d))

include hpower in
theorem setPower_stays (f : Power → Power) : Stays F (setPower f) :=
  Keeps.modify fun d => hpower d f

include hpower in
theorem undo_stays (f : Power → Power) (e : Fault) :
    Stays F
      (setPower f >>= fun _ => Prog.raise e : Prog Device Fault Unit) :=
  (setPower_stays hpower f).bind fun _ => Keeps.raise trivial

include hF hpower

theorem tryEnable_stays (f : Power → Power) : Stays F (tryEnable f) :=
  (transfer_stays hF).bind fun _ => setPower_stays hpower f

theorem regulatorsEnable_stays : Stays F regulatorsEnable := by
  have henable := tryEnable_stays hF hpower
  refine (henable _).bind fun _ => ?_
  refine ((henable _).tryCatch fun e _ => undo_stays hpower _ e).bind
    fun _ => ?_
  exact (henable _).tryCatch fun e _ => undo_stays hpower _ e

theorem setPowerOn_stays (hA : ∀ r ∈ globalInitSetting, A r.1) :
    Stays F setPowerOn := by
  refine (regulatorsEnable_stays hF hpower).bind fun _ => ?_
  refine ((tryEnable_stays hF hpower _).tryCatch
    fun e _ => undo_stays hpower _ e).bind fun _ => ?_
  refine (setPower_stays hpower _).bind fun _ => ?_
  apply Keeps.tryCatch (S := fun _ => True)
  · exact setRegisterArray_stays hF hA
  · intro e _
    exact (setPower_stays hpower _).bind fun _ => undo_stays hpower _ e

end Power

section Powered

variable {F : Frame Device} (hF : AdmitsBus busField F fun _ => True)
  (hpower : ∀ d f, F.Rel d (powerField.update f d))
  (hpm : ∀ d f, F.Rel d (pmField.update f d))
include hpm

include hF hpower in
theorem resumeAndGet_stays :
    Stays F (pmRuntimeResumeAndGet pmField setPowerOn) :=
  pmRuntimeResumeAndGet_stays hpm
    (setPowerOn_stays hF hpower fun _ _ => trivial)

theorem dropReference_stays (e : Fault) :
    Stays F
      (pmRuntimePut pmField >>= fun _ => Prog.raise e :
        Prog Device Fault Unit) :=
  (Keeps.modify fun d => hpm d _).bind fun _ => Keeps.raise trivial

include hF in
theorem streamOff_stays (par : Params) (hasLed : Bool) :
    Stays F (sStream par hasLed false) := by
  refine Keeps.bind ?_ fun _ => ?_
  · exact (irLedSet_stays hF trivial trivial _ _).tryCatch
      fun _ _ => Keeps.pure ()
  · exact (writeReg_stays hF trivial _).tryFinally
      (Keeps.modify fun d => hpm d _)

theorem autosuspend_stays (hpower : ∀ d f, F.Rel d (powerField.update f d))
    (hlost : ∀ d (regs : ℕ → BitVec 8), F.Rel d
      (busField.update (fun b => { b with regs := regs }) d))
    (lost : ℕ → BitVec 8) : Stays F (autosuspend lost) := by
  refine (Keeps.gets _).bind fun pm =>
    Keeps.ite ?_ (Keeps.modify fun d => hpm d _)
  refine Keeps.bind ?_ fun _ => ?_
  · exact (setPower_stays hpower _).bind fun _ => setPower_stays hpower _
  · exact (Keeps.modify fun d => hlost d lost).bind
      fun _ => Keeps.modify fun d => hpm d _

end Powered

/-- Starting and stopping the stream. -/
theorem sStream_stays {F : Frame Device} (hF : AdmitsPower F fun _ => True)
    (par : Params) (hasLed enable : Bool) :
    Stays F (sStream par hasLed enable) := by
  have hA := hF.toAdmitsBus
  cases enable with
  | true =>
      refine (resumeAndGet_stays hA hF.power hF.pm).bind fun _ => ?_
      apply Keeps.tryCatch (S := fun _ => True)
      · refine (pllConfigure_stays hA par fun _ _ => trivial).bind fun _ => ?_
        refine (Keeps.gets _).bind fun mode => ?_
        refine (setRegisterArray_stays hA fun _ _ => trivial).bind fun _ => ?_
        refine (handlerSetup_stays hF.toAdmits (fun _ _ => trivial) par).bind
          fun _ => ?_
        exact (writeReg_stays hA trivial _).bind fun _ =>
          irLedSet_stays hA trivial trivial _ _
      · exact fun e _ => dropReference_stays hF.pm e
  | false => exact streamOff_stays hA hF.pm par hasLed

/-! ## Frames that admit the moves -/

theorem Admits.and {F G : Frame Device} {A : ℕ → Prop} (hF : Admits F A)
    (hG : Admits G A) : Admits (F.and G) A where
  outcomes d os := ⟨hF.outcomes d os, hG.outcomes d os⟩
  store d a bytes hA := ⟨hF.store d a bytes hA, hG.store d a bytes hA⟩
  preIsp00 d v := ⟨hF.preIsp00 d v, hG.preIsp00 d v⟩
  timingFormat1 d v := ⟨hF.timingFormat1 d v, hG.timingFormat1 d v⟩
  timingFormat2 d v := ⟨hF.timingFormat2 d v, hG.timingFormat2 d v⟩
  hold d d' huse h := ⟨hF.hold d d' huse h.1, hG.hold d d' huse h.2⟩
  validateNew d i := ⟨hF.validateNew d i, hG.validateNew d i⟩
  newToCur d i := ⟨hF.newToCur d i, hG.newToCur d i⟩
  curToNew d i := ⟨hF.curToNew d i, hG.curToNew d i⟩
  setVal d i v hi := ⟨hF.setVal d i v hi, hG.setVal d i v hi⟩
  exposureRange d lo hi st dflt h :=
    ⟨hF.exposureRange d lo hi st dflt h, hG.exposureRange d lo hi st dflt h⟩

theorem AdmitsPower.and {F G : Frame Device} {A : ℕ → Prop}
    (hF : AdmitsPower F A) (hG : AdmitsPower G A) :
    AdmitsPower (F.and G) A where
  toAdmits := hF.toAdmits.and hG.toAdmits
  pm d f := ⟨hF.pm d f, hG.pm d f⟩
  power d f := ⟨hF.power d f, hG.power d f⟩

theorem Admits.mono {F : Frame Device} {A B : ℕ → Prop} (hF : Admits F A)
    (hB : ∀ a, B a → A a) : Admits F B :=
  { hF with store := (hF.toAdmitsBus.mono hB).store }

theorem AdmitsPower.mono {F : Frame Device} {A B : ℕ → Prop}
    (hF : AdmitsPower F A) (hB : ∀ a, B a → A a) : AdmitsPower F B :=
  { hF with toAdmits := hF.toAdmits.mono hB }

/-- Power, references and the registers in `W` stay as they are. -/
structure Beside (W : List ℕ) (d d' : Device) : Prop where
  pm : d'.pm = d.pm
  power : d'.power = d.power
  regs : ∀ a ∈ W, d'.bus.regs a = d.bus.regs a

def beside (W : List ℕ) : Frame Device where
  Rel := Beside W
  refl _ := ⟨rfl, rfl, fun _ _ => rfl⟩
  trans h h' :=
    ⟨h'.pm.trans h.pm, h'.power.trans h.power,
      fun a ha => (h'.regs a ha).trans (h.regs a ha)⟩

theorem beside_admits (W : List ℕ) : Admits (beside W) (· ∉ W) where
  outcomes _ _ := ⟨rfl, rfl, fun _ _ => rfl⟩
  store d a bytes hA := by
    refine ⟨rfl, rfl, fun x hx => ?_⟩
    apply Bus.storeBytes_of_ne
    rintro k hk rfl
    exact hA k hk hx
  preIsp00 _ _ := ⟨rfl, rfl, fun _ _ => rfl⟩
  timingFormat1 _ _ := ⟨rfl, rfl, fun _ _ => rfl⟩
  timingFormat2 _ _ := ⟨rfl, rfl, fun _ _ => rfl⟩
  hold d d' huse h :=
    ⟨admitsHold_fixing pmField d d' huse h.pm, h.power, h.regs⟩
  validateNew _ i := by cases i <;> exact ⟨rfl, rfl, fun _ _ => rfl⟩
  newToCur _ i := by cases i <;> exact ⟨rfl, rfl, fun _ _ => rfl⟩
  curToNew _ i := by cases i <;> exact ⟨rfl, rfl, fun _ _ => rfl⟩
  setVal _ i _ _ := by cases i <;> exact ⟨rfl, rfl, fun _ _ => rfl⟩
  exposureRange _ _ _ _ _ _ := ⟨rfl, rfl, fun _ _ => rfl⟩

theorem registers_admits {τ : Type} {f : Device → τ} {W : List ℕ}
    (hf : ∀ (d : Device) (b : Bus), (∀ a ∈ W, b.regs a = d.bus.regs a) →
      f { d with bus := b } = f d) :
    AdmitsBus busField (Frame.fixing f) (· ∉ W) where
  outcomes d _ := hf d _ fun _ _ => rfl
  store d a bytes hA := by
    apply hf
    intro x hx
    apply Bus.storeBytes_of_ne
    rintro k hk rfl
    exact hA k hk hx

/-- One register stays as it is. -/
theorem register_admits (a : ℕ) :
    AdmitsPower (Frame.fixing fun d : Device => d.bus.regs a) (· ≠ a) where
  outcomes _ _ := rfl
  store d _ _ hA := Bus.storeBytes_of_ne hA d.bus.regs
  preIsp00 _ _ := rfl
  timingFormat1 _ _ := rfl
  timingFormat2 _ _ := rfl
  hold _ _ _ h := h
  validateNew _ i := by cases i <;> rfl
  newToCur _ i := by cases i <;> rfl
  curToNew _ i := by cases i <;> rfl
  setVal _ i _ _ := by cases i <;> rfl
  exposureRange _ _ _ _ _ _ := rfl
  pm _ _ := rfl
  power _ _ := rfl

theorem pm_admits : Admits (Frame.fixing Device.pm) fun _ => True where
  outcomes _ _ := rfl
  store _ _ _ _ := rfl
  preIsp00 _ _ := rfl
  timingFormat1 _ _ := rfl
  timingFormat2 _ _ := rfl
  hold := admitsHold_fixing pmField
  validateNew _ i := by cases i <;> rfl
  newToCur _ i := by cases i <;> rfl
  curToNew _ i := by cases i <;> rfl
  setVal _ i _ _ := by cases i <;> rfl
  exposureRange _ _ _ _ _ _ := rfl

/-- No move selects another mode. -/
theorem currentMode_admits :
    AdmitsPower (Frame.fixing Device.currentMode) fun _ => True where
  outcomes _ _ := rfl
  store _ _ _ _ := rfl
  preIsp00 _ _ := rfl
  timingFormat1 _ _ := rfl
  timingFormat2 _ _ := rfl
  hold _ _ _ h := h
  validateNew _ i := by cases i <;> rfl
  newToCur _ i := by cases i <;> rfl
  curToNew _ i := by cases i <;> rfl
  setVal _ i _ _ := by cases i <;> rfl
  exposureRange _ _ _ _ _ _ := rfl
  pm _ _ := rfl
  power _ _ := rfl

/-! ## Invariants -/

/-- An invariant that looks at the controls only. -/
theorem admitsPower_of_controls {P : Device → Prop}
    (hrest : ∀ d d', (∀ i, (ctrlField i).get d' = (ctrlField i).get d) →
      P d → P d')
    (hvalidate : ∀ d i, P d → P ((ctrlField i).update Ctrl.validateNew d))
    (hcur : ∀ d i, P d → P ((ctrlField i).update Ctrl.newToCur d))
    (hnew : ∀ d i, P d → P ((ctrlField i).update Ctrl.curToNew d))
    (hval : ∀ d i (v : ℤ), i ≠ .vblank → P d →
      P ((ctrlField i).update (fun c => { c with val := v }) d))
    (hrange : ∀ d (lo hi : ℤ) (st : ℕ) (dflt : ℤ),
      lo = 1 ∨ lo = d.exposure.minimum → P d →
        P (exposureField.update (fun c =>
          (c.withRange lo hi st dflt).curToNew) d)) :
    AdmitsPower (Frame.invariant P) fun _ => True where
  outcomes d _ := hrest d _ fun i => by cases i <;> rfl
  store d _ _ _ := hrest d _ fun i => by cases i <;> rfl
  preIsp00 d _ := hrest d _ fun i => by cases i <;> rfl
  timingFormat1 d _ := hrest d _ fun i => by cases i <;> rfl
  timingFormat2 d _ := hrest d _ fun i => by cases i <;> rfl
  hold d d' _ h hd := by
    have hget : P (pmField.update RuntimePm.get d) :=
      hrest d _ (fun i => by cases i <;> rfl) hd
    exact hrest d' _ (fun i => by cases i <;> rfl) (h hget)
  validateNew := hvalidate
  newToCur := hcur
  curToNew := hnew
  setVal := hval
  exposureRange := hrange
  pm d _ := hrest d _ fun i => by cases i <;> rfl
  power d _ := hrest d _ fun i => by cases i <;> rfl

end Ov7251
end SurfaceCameras
