import SurfaceCameras.Ov7251.FrameLength
import SurfaceCameras.Ov7251.Journal

/-!
# Control values in the registers of the OV7251

The functions that bring a control to the sensor cut its value up by shifts and
masks, and a value that does not fit loses its upper bits without notice.
Nothing is lost as long as every control keeps within the bounds its registers
have room for.  The bounds of the exposure are not fixed: a mode gives it a
range, and the vertical blanking another one.
-/

namespace SurfaceCameras
namespace Ov7251

open Kernel Device Prog Runs FixedWidth

/-! ## Reading the registers back -/

/-- The exposure in the registers, whose lowest four bits are a fraction of a
line. -/
def exposureRegister (d : Device) : ℕ :=
  ((d.bus.regs 0x3500).toNat <<< 16 ||| (d.bus.regs 0x3501).toNat <<< 8 |||
    (d.bus.regs 0x3502).toNat) >>> 4

/-- The gain in the registers. -/
def gainRegister (d : Device) : ℕ :=
  (d.bus.regs 0x350a).toNat <<< 8 ||| (d.bus.regs 0x350b).toNat

section Parameters

variable (par : Params)

/-- The registers of a control say that its value is `v`. -/
def Encodes (i : CtrlId) (v : ℤ) (d : Device) : Prop :=
  match i with
  | .exposure => (exposureRegister d : ℤ) = v
  | .analogueGain => (gainRegister d : ℤ) = v
  | .vblank => (vtsRegister d : ℤ) = d.height par + v
  | .hflip | .vflip | .testPattern => True

/-- Within these bounds the value of a control fits its registers. -/
def lowest : CtrlId → ℤ
  | .exposure => 1
  | .analogueGain => 16
  | .vblank => timingMinVts
  | .hflip | .vflip | .testPattern => 0

def highest : CtrlId → ℤ
  | .exposure => 65535
  | .analogueGain => 1023
  | .vblank => timingMaxVts - 480
  | .hflip | .vflip | .testPattern => 1

theorem toNat_ofInt {v : ℤ} (hlo : 0 ≤ v) (hhi : v < 65536) :
    ((BitVec.ofInt 32 v).toNat : ℤ) = v ∧ (BitVec.ofInt 32 v).toNat < 65536 := by
  rw [BitVec.toNat_ofInt]
  omega

theorem exposureBytes_toNat {x : BitVec 32} (h : x.toNat < 65536) :
    ((((x &&& 0xf000) >>> 12).setWidth 8 : BitVec 8).toNat <<< 16 |||
      (((x &&& 0x0ff0) >>> 4).setWidth 8 : BitVec 8).toNat <<< 8 |||
        (((x &&& 0x000f) <<< 4).setWidth 8 : BitVec 8).toNat) >>> 4 = x.toNat := by
  have hhigh := field_toNat x 0xf000 (k := 12) (n := 4) rfl
  have hmid := field_toNat x 0x0ff0 (k := 4) (n := 8) rfl
  have hlow := lowField_toNat x 0x000f (n := 4) rfl
  rw [threeBytes_toNat, BitVec.toNat_setWidth, BitVec.toNat_setWidth,
    BitVec.toNat_setWidth, BitVec.toNat_shiftLeft, hhigh, hmid, hlow,
    Nat.shiftLeft_eq, Nat.shiftRight_eq_div_pow]
  omega

theorem gainBytes_toNat {x : BitVec 32} (h : x.toNat < 1024) :
    (((x &&& 0x0300) >>> 8).setWidth 8 : BitVec 8).toNat <<< 8 |||
      ((x &&& 0xff).setWidth 8 : BitVec 8).toNat = x.toNat := by
  have hhigh := field_toNat x 0x0300 (k := 8) (n := 2) rfl
  have hlow := lowField_toNat x 0xff (n := 8) rfl
  rw [twoBytes_toNat, BitVec.toNat_setWidth, BitVec.toNat_setWidth, hhigh, hlow]
  omega

theorem writeSeqRegs_stored {reg : ℕ} {bytes : List (BitVec 8)}
    {Q : Device → Prop}
    (hQ : ∀ d : Device, Q (busField.update (fun b => b.store reg bytes) d)) :
    Triple (fun _ => True) (writeSeqRegs reg bytes) (fun _ => Q)
      (fun _ _ => True) := by
  apply Triple.ite
  · exact fun _ => Triple.raise fun _ _ => trivial
  · intro _
    apply Triple.bind (Triple.any _)
    exact fun _ => Triple.modify fun d _ => hQ d

/-- A value within the bounds is brought to the sensor as it is. -/
theorem writeCtrl_encodes {i : CtrlId} {v : ℤ} (hlo : lowest i ≤ v)
    (hhi : v ≤ highest i) :
    Triple (fun _ => True) (writeCtrl par i v) (fun _ => Encodes par i v)
      (fun _ _ => True) := by
  cases i with
  | exposure =>
      have hlo : 1 ≤ v := hlo
      have hhi : v ≤ 65535 := hhi
      obtain ⟨hval, hlt⟩ := toNat_ofInt (v := v) (by omega) (by omega)
      unfold writeCtrl setExposure
      apply writeSeqRegs_stored
      intro d
      have hbytes := exposureBytes_toNat hlt
      exact (congrArg Nat.cast hbytes).trans hval
  | analogueGain =>
      have hlo : 16 ≤ v := hlo
      have hhi : v ≤ 1023 := hhi
      obtain ⟨hval, -⟩ := toNat_ofInt (v := v) (by omega) (by omega)
      unfold writeCtrl setGain
      apply writeSeqRegs_stored
      intro d
      have hbytes := gainBytes_toNat (x := BitVec.ofInt 32 v) (by omega)
      exact (congrArg Nat.cast hbytes).trans hval
  | vblank =>
      have hlo : timingMinVts ≤ v := hlo
      have hhi : v ≤ timingMaxVts - 480 := hhi
      simp only [timingMinVts] at hlo
      simp only [timingMaxVts] at hhi
      obtain ⟨hval, hlt⟩ := toNat_ofInt (v := 480 + v) (by omega) (by omega)
      apply Triple.gets_bind
      intro height
      apply Triple.with_fact (c := height = 480)
      · rintro d ⟨-, rfl⟩
        exact Device.height_eq par d
      · rintro rfl
        refine (writeSeqRegs_stored ?_).strengthenPre fun _ _ => trivial
        intro d
        have hbytes := lowBytes_toNat hlt
        have hvts := (congrArg Nat.cast hbytes).trans hval
        exact hvts.trans (congrArg (· + v) (Device.height_eq par _).symm)
  | hflip | vflip | testPattern =>
      exact (Triple.any _).consequence (fun _ h => h) (fun _ _ _ => trivial)
        fun _ _ _ => trivial

/-! ## The invariant -/

/-- The controls of a device, one at each name. -/
def Device.controls (d : Device) (i : CtrlId) : Ctrl := (ctrlField i).get d

/-- Every control keeps within its bounds. -/
def Bounded (d : Device) : Prop :=
  ∀ i, (d.controls i).Within (lowest i) (highest i)

/-- The controls are bounded, and what the journal says was written can be read
back. -/
def Faithful (s : Device × Journal) : Prop :=
  Bounded s.1 ∧ ∀ w ∈ s.2, Encodes par w.1 (w.2.controls w.1).val w.2

theorem controls_update (i : CtrlId) (f : Ctrl → Ctrl) (d : Device) :
    ((ctrlField i).update f d).controls =
      Function.update d.controls i (f (d.controls i)) := by
  funext j
  cases i <;> cases j <;> rfl

theorem Bounded.of_controls {d d' : Device} (hd : Bounded d)
    (h : d'.controls = d.controls) : Bounded d' := by
  intro i
  rw [h]
  exact hd i

theorem Bounded.update {d : Device} (hd : Bounded d) {i : CtrlId}
    {f : Ctrl → Ctrl} (hf : (f (d.controls i)).Within (lowest i) (highest i)) :
    Bounded ((ctrlField i).update f d) := by
  intro j
  rw [controls_update]
  by_cases hj : j = i
  · subst hj
    rw [Function.update_self]
    exact hf
  · rw [Function.update_of_ne hj]
    exact hd j

theorem controls_admitsBus :
    AdmitsBus busField (Frame.fixing Device.controls) fun _ => True where
  outcomes _ _ := funext fun i => by cases i <;> rfl
  store _ _ _ _ := funext fun i => by cases i <;> rfl

theorem controls_pm (d : Device) (f : RuntimePm → RuntimePm) :
    (pmField.update f d).controls = d.controls :=
  funext fun i => by cases i <;> rfl

theorem controls_power (d : Device) (f : Power → Power) :
    (powerField.update f d).controls = d.controls :=
  funext fun i => by cases i <;> rfl

theorem beside_faithful {α : Type} {p : Prog Device Fault α}
    (hp : Stays (Frame.fixing Device.controls) p) :
    Triple (Faithful par) (Prog.beside p) (fun _ => Faithful par)
      (fun _ => Faithful par) := by
  have h := Triple.beside_keeps (P := Faithful par) hp ?_
  · exact h.consequence (fun _ hs => hs) (fun _ _ hs => hs) fun _ _ hs => hs.1
  · exact fun d d' g hctrl hs => ⟨hs.1.of_controls hctrl, hs.2⟩

theorem writeCtrl_controls (i : CtrlId) (v : ℤ) :
    Stays (Frame.fixing Device.controls) (writeCtrl par i v) := by
  apply writeCtrl_stays controls_admitsBus
  · exact fun _ _ => funext fun j => by cases j <;> rfl
  · exact fun _ _ => funext fun j => by cases j <;> rfl
  · exact fun _ _ => funext fun j => by cases j <;> rfl
  · exact fun _ _ => trivial

/-- A control is brought to the sensor with a value within its bounds. -/
theorem recordApply_faithful (i : CtrlId) :
    Triple (Faithful par) (recordApply par i) (fun _ => Faithful par)
      (fun _ => Faithful par) := by
  have hput := beside_faithful par (p := pmRuntimePut pmField)
    (Keeps.modify fun d => controls_pm d _)
  apply Triple.bind
  · apply beside_faithful par
    refine (Keeps.gets _).bind fun p => Keeps.ite ?_ (Keeps.pure _)
    exact (Keeps.modify fun d => controls_pm d _).bind fun _ => Keeps.pure _
  intro inUse
  apply Triple.ite
  · intro _
    apply Triple.gets_bind
    intro ctrl
    apply Triple.tryFinally (K := fun _ => Faithful par)
      (J := fun _ => Faithful par)
    · apply Triple.bind (Q := fun _ s => Faithful par s ∧
        Encodes par i (s.1.controls i).val s.1)
      · apply Triple.beside
        rintro g d ⟨⟨hd, hg⟩, hctrl⟩
        have hctrl : d.controls i = ctrl := hctrl
        have hkeep := writeCtrl_controls par i ctrl.val d d rfl
        have hencode := writeCtrl_encodes par (i := i) (v := ctrl.val)
          (hctrl ▸ (hd i).le_val) (hctrl ▸ (hd i).val_le) d trivial
        revert hkeep hencode
        rcases writeCtrl par i ctrl.val d with ⟨_ | _, d'⟩
        · exact fun hkeep _ => ⟨hd.of_controls hkeep.1, hg⟩
        · intro hkeep hencode
          have hkeep : d'.controls = d.controls := hkeep
          refine ⟨⟨hd.of_controls hkeep, hg⟩, ?_⟩
          rw [hkeep, hctrl]
          exact hencode
      · intro _
        apply Triple.record
        rintro d g ⟨⟨hd, hg⟩, hencode⟩
        exact ⟨hd, List.forall_mem_cons.mpr ⟨hencode, hg⟩⟩
    · exact fun _ => hput
    · exact fun _ _ => hput
    · exact fun _ _ h _ => absurd h (by decide)
  · exact fun _ => Triple.pure fun _ hs => hs

/-! ## Control operations -/

theorem Faithful.update {par : Params} {s : Device × Journal}
    (hs : Faithful par s) {i : CtrlId} {f : Ctrl → Ctrl}
    (hf : (f (s.1.controls i)).Within (lowest i) (highest i)) :
    Faithful par ((ctrlField i).aside.update f s) :=
  ⟨hs.1.update hf, hs.2⟩

/-- A change that is only within the bounds once the value is moved into the
range. -/
theorem Faithful.validateNew {par : Params} {s : Device × Journal}
    (hs : Faithful par s) {i : CtrlId} {f : Ctrl → Ctrl}
    (hf : (f (s.1.controls i)).validateNew.Within (lowest i) (highest i)) :
    Faithful par ((ctrlField i).aside.update Ctrl.validateNew
      ((ctrlField i).aside.update f s)) := by
  have h := hs.update (f := Ctrl.validateNew ∘ f) hf
  rw [Field.update_aside, ← update_update] at h
  exact h

section Callback

variable {i : CtrlId} {cb : JournalM Unit}
  (hcb : Triple (Faithful par) cb (fun _ => Faithful par)
    fun _ => Faithful par)
include hcb

theorem sCtrl_faithful (v : ℤ) :
    Triple (Faithful par) (v4l2CtrlSCtrl (ctrlField i).aside cb v)
      (fun _ => Faithful par) (fun _ => Faithful par) := by
  apply v4l2CtrlSCtrl_triple (S := Faithful par) (T := Faithful par)
  · exact fun s hs => hs.validateNew ((hs.1 i).choose v)
  · exact fun s hs _ => hs
  · exact hcb
  · exact fun s hs => hs.update (hs.1 i).newToCur

theorem modifyRange_faithful {m : ℤ} {dflt : ℤ} (hm : m ≤ highest i) :
    Triple (Faithful par)
      (v4l2CtrlModifyRange (ctrlField i).aside cb (lowest i) m 1 dflt)
      (fun _ => Faithful par) (fun _ => Faithful par) := by
  apply v4l2CtrlModifyRange_triple (S := Faithful par) (T := Faithful par)
  · exact fun hr s hs =>
      hs.validateNew ((hs.1 i).withRange hr.2.1 hm dflt)
  · exact fun _ s hs => hs
  · exact fun s hs _ => hs
  · exact hcb
  · exact fun s hs => hs.update (hs.1 i).newToCur

end Callback

theorem le_exposureMargin : 20 ≤ exposureMargin par := by
  unfold exposureMargin
  split <;> decide

/-- The exposure range that follows the vertical blanking ends within the
bounds. -/
theorem recordAdjust_faithful :
    Triple (Faithful par) (recordAdjust par) (fun _ => Faithful par)
      (fun _ => Faithful par) := by
  apply Triple.gets_bind
  intro height
  apply Triple.gets_bind
  intro vblank
  apply Triple.gets_bind
  intro exposure
  apply Triple.with_fact (c := height = 480 ∧ vblank.val ≤ highest .vblank ∧
    exposure.minimum = lowest .exposure ∧ exposure.step = 1)
  · rintro s ⟨⟨⟨hs, rfl⟩, rfl⟩, rfl⟩
    have hexp := hs.1 .exposure
    exact ⟨Device.height_eq par s.1, (hs.1 .vblank).val_le, hexp.minimum,
      hexp.step⟩
  · rintro ⟨rfl, hval, hmin, hstep⟩
    have hmargin := le_exposureMargin par
    have hmax : 480 + vblank.val - exposureMargin par ≤ highest .exposure := by
      simp only [highest, timingMaxVts] at hval ⊢
      omega
    rw [hmin, hstep]
    apply Triple.tryCatch (J := fun _ => Faithful par)
    · refine (modifyRange_faithful par (i := .exposure)
        (recordApply_faithful par .exposure) hmax).strengthenPre ?_
      exact fun _ hs => hs.1.1.1
    · exact fun _ => Triple.pure fun _ hs => hs

theorem recordSCtrl_faithful (i : CtrlId) :
    Triple (Faithful par) (recordSCtrl par i) (fun _ => Faithful par)
      (fun _ => Faithful par) := by
  apply Triple.bind (Triple.when (Q := fun _ => Faithful par) ?_ ?_)
  · exact fun _ => recordApply_faithful par i
  · exact fun _ => recordAdjust_faithful par
  · exact fun _ _ hs => hs

theorem exposureMax_le (n : Fin 3) :
    ((modeInfoData par n).exposureMax : ℤ) ≤ highest .exposure := by
  match n with
  | 0 =>
      rw [modeInfoData_zero, firstMode]
      split
      · decide
      · split
        · simp only [highest]
          omega
        · decide
  | 1 => exact (by decide : ((vga60fps.exposureMax : ℕ) : ℤ) ≤ 65535)
  | 2 => exact (by decide : ((vga90fps.exposureMax : ℕ) : ℤ) ≤ 65535)

theorem recordReset_faithful (n : Fin 3) :
    Triple (Faithful par) (recordReset par (modeInfoData par n))
      (fun _ => Faithful par) (fun _ => Faithful par) := by
  have hexposure := recordSCtrl_faithful par .exposure
  apply Triple.bind
  · exact modifyRange_faithful par (i := .exposure) hexposure
      (exposureMax_le par n)
  intro _
  apply Triple.bind (sCtrl_faithful par (i := .exposure) hexposure _)
  intro _
  exact sCtrl_faithful par (i := .analogueGain)
    (recordSCtrl_faithful par .analogueGain) 16

/-! ## Calls -/

theorem recordMode_faithful (n : Fin 3) :
    Triple (Faithful par) (recordMode par n) (fun _ => Faithful par)
      (fun _ => Faithful par) := by
  apply Triple.bind (recordReset_faithful par n)
  intro _
  apply Triple.bind (Q := fun _ => Faithful par)
  · rw [modeInfoData_height]
    exact modifyRange_faithful par (i := .vblank)
      (recordSCtrl_faithful par .vblank) le_rfl
  intro _
  apply beside_faithful par
  exact Keeps.modify fun _ => funext fun i => by cases i <;> rfl

theorem recordFormat_faithful (nearest : ℕ → ℕ → Fin 3) (w h : ℕ) :
    Triple (Faithful par) (recordFormat par nearest w h)
      (fun _ => Faithful par) (fun _ => Faithful par) := by
  have hpad : ∀ f, Triple (Faithful par)
      (Prog.beside (Prog.modify ((padState .active).update f)))
      (fun _ => Faithful par) (fun _ => Faithful par) := fun f =>
    beside_faithful par
      (Keeps.modify fun _ => funext fun i => by cases i <;> rfl)
  apply Triple.bind (hpad _)
  intro _
  apply Triple.bind (recordMode_faithful par (nearest w h))
  intro _
  apply Triple.bind (hpad _)
  exact fun _ => Triple.gets fun _ hs => hs

theorem recordInterval_faithful (t : Fract) :
    Triple (Faithful par) (recordInterval par t) (fun _ => Faithful par)
      (fun _ => Faithful par) := by
  apply Triple.bind (Q := fun _ => Faithful par)
  · exact Triple.gets fun _ hs => hs
  intro current
  apply Triple.bind (beside_faithful par (findModeByIval_stays par _ t))
  intro n
  apply Triple.bind (Q := fun _ => Faithful par)
  · apply Triple.when
    · intro _
      apply Triple.bind (recordReset_faithful par n)
      intro _
      apply beside_faithful par
      exact Keeps.modify fun _ => funext fun i => by cases i <;> rfl
    · exact fun _ _ hs => hs
  · exact fun _ => Triple.gets fun _ hs => hs

theorem recordSetup_faithful :
    Triple (Faithful par) (recordSetup par) (fun _ => Faithful par)
      (fun _ => Faithful par) :=
  v4l2CtrlHandlerSetup_triple (c := fun i => (ctrlField i).aside)
    (fun i _ hs => hs.update (hs.1 i).curToNew) (recordSCtrl_faithful par)
    writableCtrls

theorem recordStream_faithful (hasLed enable : Bool) :
    Triple (Faithful par) (recordStream par hasLed enable)
      (fun _ => Faithful par) (fun _ => Faithful par) := by
  have hF := controls_admitsBus
  cases enable with
  | true =>
      apply Triple.bind
      · exact beside_faithful par
          (resumeAndGet_stays hF controls_power controls_pm)
      intro _
      apply Triple.tryCatch (J := fun _ => Faithful par)
      · apply Triple.bind
        · exact beside_faithful par
            (pllConfigure_stays hF par fun _ _ => trivial)
        intro _
        apply Triple.bind (Q := fun _ => Faithful par)
        · exact Triple.gets fun _ hs => hs
        intro mode
        apply Triple.bind
        · exact beside_faithful par
            (setRegisterArray_stays hF fun _ _ => trivial)
        intro _
        apply Triple.bind (recordSetup_faithful par)
        intro _
        apply Triple.bind
        · exact beside_faithful par (writeReg_stays hF trivial _)
        intro _
        exact beside_faithful par (irLedSet_stays hF trivial trivial _ _)
      · exact fun e => beside_faithful par (dropReference_stays controls_pm e)
  | false =>
      exact beside_faithful par (streamOff_stays hF controls_pm par hasLed)

/-! ## Runs -/

theorem facing_controls (d : Device) (os : List Bool) :
    (d.facing os).controls = d.controls :=
  controls_admitsBus.outcomes d os

/-- Every call, whatever its transfers do. -/
theorem recordStep_faithful (nearest : ℕ → ℕ → Fin 3) {s : Device × Journal}
    (hs : Faithful par s) (x : List Bool × SysCall) :
    Faithful par (recordStep par nearest s x) := by
  obtain ⟨os, c⟩ := x
  have hs' : Faithful par (s.1.facing os, s.2) :=
    ⟨hs.1.of_controls (facing_controls s.1 os), hs.2⟩
  cases c with
  | call c =>
      cases c with
      | setFormat w h => exact (recordFormat_faithful par nearest w h).final hs'
      | setFrameInterval t => exact (recordInterval_faithful par t).final hs'
      | write i v =>
          have hwrite : Triple (Faithful par) (recordControl par i v)
              (fun _ => Faithful par) (fun _ => Faithful par) :=
            v4l2SCtrl_triple
              (fun w => sCtrl_faithful par (recordSCtrl_faithful par i) w)
              fun _ h => h
          exact hwrite.final hs'
  | stream hasLed enable =>
      exact (recordStream_faithful par hasLed enable).final hs'
  | autosuspend lost =>
      refine (beside_faithful par (autosuspend_stays controls_pm controls_power
        ?_ lost)).final hs'
      exact fun _ _ => funext fun i => by cases i <;> rfl

theorem initCtrls_bounded (board : Board) : Bounded (initCtrls par board) := by
  have hvblank := vblankRangeOk par initialMode
  intro i
  cases i with
  | vblank =>
      apply Ctrl.newStd_within hvblank
      rw [modeInfoData_height]
      exact le_rfl
  | exposure | analogueGain | hflip | vflip | testPattern =>
      exact Ctrl.newStd_within (by decide) (by decide)

theorem probe_eq (nearest : ℕ → ℕ → Fin 3) (board : Board) :
    probe par nearest board =
      (setFormat par nearest .active 640 480 (initCtrls par board)).2 := by
  unfold probe initState Prog.tryCatch
  rw [bind_apply]
  rcases setFormat par nearest .active 640 480 (initCtrls par board) with
    ⟨_ | _, d⟩
  · rfl
  · rfl

theorem probe_bounded (nearest : ℕ → ℕ → Fin 3) (board : Board) :
    Bounded (probe par nearest board) := by
  have hinit : Faithful par (initCtrls par board, []) :=
    ⟨initCtrls_bounded par board, fun _ hw => absurd hw List.not_mem_nil⟩
  have hformat := ((recordFormat_faithful par nearest 640 480).final hinit).1
  rw [(recordFormat_erases par nearest 640 480).outcome] at hformat
  rw [probe_eq]
  exact hformat

theorem run_faithful (nearest : ℕ → ℕ → Fin 3) (board : Board)
    (calls : List (List Bool × SysCall)) :
    Faithful par (run (recordStep par nearest) (probe par nearest board, [])
      calls) :=
  run_induction (I := Faithful par) (fun _ x hs => recordStep_faithful par nearest hs x)
    ⟨probe_bounded par nearest board, fun _ hw => absurd hw List.not_mem_nil⟩
    calls

theorem run_bounded (nearest : ℕ → ℕ → Fin 3) (board : Board)
    (calls : List (List Bool × SysCall)) :
    Bounded (run (sysStep par nearest) (probe par nearest board) calls) := by
  have h := (run_faithful par nearest board calls).1
  rwa [run_recordStep_fst] at h

/-- Every exposure, gain and frame length that reaches the sensor in a run is
read back from the registers as what the control asked for. -/
theorem journal_encodes (nearest : ℕ → ℕ → Fin 3) (board : Board)
    (calls : List (List Bool × SysCall)) :
    ∀ w ∈ journal par nearest board calls,
      Encodes par w.1 (w.2.controls w.1).val w.2 :=
  (run_faithful par nearest board calls).2

end Parameters

/-- A start right after probe brings the vertical blanking to the sensor, and
it is read back. -/
theorem journal_encodes_start :
    ∃ w ∈ journal stockParams (fun _ _ => initialMode) plainBoard
        [([], .stream false true)],
      w.1 = .vblank ∧ Encodes stockParams w.1 (w.2.controls w.1).val w.2 := by
  have hctrls : (journal stockParams (fun _ _ => initialMode) plainBoard
      [([], .stream false true)]).map Prod.fst = writableCtrls.reverse := by
    decide +kernel
  have hmem : .vblank ∈ writableCtrls.reverse := by decide
  rw [← hctrls] at hmem
  obtain ⟨w, hw, hvblank⟩ := List.mem_map.mp hmem
  exact ⟨w, hw, hvblank, journal_encodes stockParams (fun _ _ => initialMode)
    plainBoard [([], .stream false true)] w hw⟩

end Ov7251
end SurfaceCameras
