import SurfaceCameras.Kernel.Sensor
import SurfaceCameras.Ov7251.FlipCoherence
import SurfaceCameras.Ov7251.Probe
import SurfaceCameras.Ov7251.WordControls

/-!
# What a start of the OV7251 leaves in its registers

A start programs the clocks, a mode table and the controls, whether the sensor
was suspended before or has been left powered by an earlier stream.  What the
registers hold after it depends on the mode and on the controls, and not on the
calls that came before, on failed transfers among them, or on how often the
sensor has been powered down.

The mode tables set the same registers, but for one: the vendor driver's table
leaves out a register that the others set.
-/

namespace SurfaceCameras
namespace Ov7251

open Kernel Device Prog Runs MaskedWrites

/-! ## Whole tables -/

theorem footprint_tableWrites (table : List RegValue) :
    (footprint (tableWrites table)).map Prod.fst = table.map Prod.fst := by
  rw [footprint, tableWrites, List.map_map, List.map_map]
  rfl

theorem applyAll_table_head {x : RegValue} {table : List RegValue}
    (hout : x.1 ∉ table.map Prod.fst) (r : Registers) :
    applyAll (tableWrites (x :: table)) r x.1 = x.2 := by
  have hrest : x.1 ∉ (footprint (tableWrites table)).map Prod.fst := by
    rwa [footprint_tableWrites]
  have hself := Function.update_self x.1 x.2 r
  refine (applyAll_of_notMem hrest _).trans ?_
  exact (congrFun (byte_apply x.1 x.2 r) x.1).trans hself

theorem applyAll_table_eq {table : List RegValue} {a : ℕ}
    (ha : a ∈ table.map Prod.fst) (r r' : Registers) :
    applyAll (tableWrites table) r a = applyAll (tableWrites table) r' a := by
  induction table generalizing r r' with
  | nil => exact absurd ha List.not_mem_nil
  | cons x table ih =>
      by_cases hrest : a ∈ table.map Prod.fst
      · exact ih hrest _ _
      · obtain rfl : a = x.1 := (List.mem_cons.mp ha).resolve_right hrest
        rw [applyAll_table_head hrest, applyAll_table_head hrest]

theorem applyAll_table_mem {table : List RegValue} {x : RegValue}
    (honce : (table.map Prod.fst).Nodup) (hx : x ∈ table) (r : Registers) :
    applyAll (tableWrites table) r x.1 = x.2 := by
  induction table generalizing r with
  | nil => exact absurd hx List.not_mem_nil
  | cons y table ih =>
      obtain ⟨hout, honce⟩ := List.nodup_cons.mp honce
      rcases List.mem_cons.mp hx with rfl | hx
      · exact applyAll_table_head hout r
      · exact ih honce hx _

/-- Outside `C`, the registers hold `r`. -/
def HoldsOutside (C : List ℕ) (r : Registers) (d : Device) : Prop :=
  ∀ a, a ∉ C → d.bus.regs a = r a

theorem writeReg_outside (C : List ℕ) (r : Registers) (reg : ℕ) (val : BitVec 8) :
    Triple (HoldsOutside C r) (writeReg reg val)
      (fun _ => HoldsOutside C (Function.update r reg val)) (fun _ _ => True) := by
  have hbus : AdmitsBus busField
      (Frame.fixing fun d : Device => d.bus.regs) fun _ => False := by
    refine ⟨fun _ _ => rfl, fun d a bytes hA => ?_⟩
    cases bytes with
    | nil => rfl
    | cons v vs => exact (hA 0 (Nat.succ_pos _)).elim
  apply Triple.bind (Q := fun _ => HoldsOutside C r)
  · apply ((transfer_stays hbus).triple (P := HoldsOutside C r) ?_).consequence
      (fun _ h => h) (fun _ _ h => h) fun _ _ _ => trivial
    intro d d' hregs hd
    have hregs : d'.bus.regs = d.bus.regs := hregs
    rwa [HoldsOutside, hregs]
  · intro _
    apply Triple.modify
    intro d hd a ha
    have hd := hd a ha
    change Function.update d.bus.regs reg val a = Function.update r reg val a
    by_cases hreg : a = reg
    · rw [hreg, Function.update_self, Function.update_self]
    · rw [Function.update_of_ne hreg, Function.update_of_ne hreg, hd]

theorem setRegisterArray_outside (C : List ℕ) (r : Registers)
    (table : List RegValue) :
    Triple (HoldsOutside C r) (setRegisterArray table)
      (fun _ => HoldsOutside C (applyAll (tableWrites table) r))
      (fun _ _ => True) := by
  induction table generalizing r with
  | nil => exact Triple.pure fun _ h => h
  | cons x table ih =>
      have hx : applyAll (tableWrites (x :: table)) r =
          applyAll (tableWrites table) (Function.update r x.1 x.2) :=
        congrArg (applyAll (tableWrites table)) (byte_apply x.1 x.2 r)
      rw [hx]
      exact Triple.bind (writeReg_outside C r x.1 x.2) fun _ => ih _

/-! ## The registers the driver writes -/

/-- The registers that a start or a control writes. -/
def driverRegisters : List ℕ :=
  [0x30b4, 0x30b3, 0x30b1, 0x30b0, 0x30b5, 0x3098, 0x3099, 0x309d, 0x309a,
    0x309b] ++ settingVga30fps.map Prod.fst ++ 0x0100 :: ctrlRegisters

/-- Outside `C`, the registers stay as they are, and so do the clock, the link
and whether the sensor is resumed. -/
structure Confined (C : List ℕ) (d d' : Device) : Prop where
  xclkRate : d'.xclkRate = d.xclkRate
  linkFreqIdx : d'.linkFreqIdx = d.linkFreqIdx
  active : d'.pm.active = d.pm.active
  regs : ∀ a, a ∉ C → d'.bus.regs a = d.bus.regs a

def confined (C : List ℕ) : Frame Device where
  Rel := Confined C
  refl _ := ⟨rfl, rfl, rfl, fun _ _ => rfl⟩
  trans h h' :=
    ⟨h'.xclkRate.trans h.xclkRate, h'.linkFreqIdx.trans h.linkFreqIdx,
      h'.active.trans h.active, fun a ha => (h'.regs a ha).trans (h.regs a ha)⟩

theorem confined_admits (C : List ℕ) : Admits (confined C) (· ∈ C) where
  outcomes _ _ := ⟨rfl, rfl, rfl, fun _ _ => rfl⟩
  store d a bytes hA := by
    refine ⟨rfl, rfl, rfl, fun x hx => ?_⟩
    apply Bus.storeBytes_of_ne
    intro k hk heq
    exact hx (heq ▸ hA k hk)
  preIsp00 _ _ := ⟨rfl, rfl, rfl, fun _ _ => rfl⟩
  timingFormat1 _ _ := ⟨rfl, rfl, rfl, fun _ _ => rfl⟩
  timingFormat2 _ _ := ⟨rfl, rfl, rfl, fun _ _ => rfl⟩
  hold _ _ _ h := ⟨h.xclkRate, h.linkFreqIdx, h.active, h.regs⟩
  validateNew _ i := by cases i <;> exact ⟨rfl, rfl, rfl, fun _ _ => rfl⟩
  newToCur _ i := by cases i <;> exact ⟨rfl, rfl, rfl, fun _ _ => rfl⟩
  curToNew _ i := by cases i <;> exact ⟨rfl, rfl, rfl, fun _ _ => rfl⟩
  setVal _ i _ _ := by cases i <;> exact ⟨rfl, rfl, rfl, fun _ _ => rfl⟩
  exposureRange _ _ _ _ _ _ := ⟨rfl, rfl, rfl, fun _ _ => rfl⟩

/-! ## Power-on -/

/-- The registers that power-on writes. -/
def powerOnRegisters : List ℕ := globalInitSetting.map Prod.fst

theorem applyAll_globalInit (r : Registers) :
    applyAll (tableWrites globalInitSetting) r = initialized r := by
  simp [globalInitSetting, tableWrites, initialized]

theorem initialized_of_notMem {a : ℕ} (ha : a ∉ powerOnRegisters)
    (r : Registers) : initialized r a = r a := by
  rw [← applyAll_globalInit]
  apply applyAll_of_notMem
  rwa [footprint_tableWrites]

/-- What a register holds that neither a start nor a control writes, on a
sensor whose registers read `r` once it is powered. -/
structure FreshAt (r : Registers) (a : ℕ) (d : Device) : Prop where
  kept : a ∉ powerOnRegisters → d.bus.regs a = r a
  resumed : d.pm.active = true → d.bus.regs a = initialized r a

section PowerOn

variable {r : Registers} {a : ℕ}

theorem FreshAt.congr {d d' : Device} (h : FreshAt r a d)
    (hregs : d'.bus.regs a = d.bus.regs a)
    (hactive : d'.pm.active = d.pm.active) : FreshAt r a d' where
  kept ha := hregs.trans (h.kept ha)
  resumed hon := hregs.trans (h.resumed (hactive ▸ hon))

/-- A power-on that succeeds has written its table. -/
theorem setPowerOn_writes (ha : a ∈ powerOnRegisters) :
    Triple (fun _ => True) setPowerOn
      (fun _ d => d.bus.regs a = initialized r a) (fun _ _ => True) := by
  apply Triple.bind (Triple.any _)
  intro _
  apply Triple.bind (Triple.any _)
  intro _
  apply Triple.bind (Triple.any _)
  intro _
  apply Triple.tryCatch (J := fun _ _ => True)
  · intro d _
    apply (setRegisterArray_outside [] d.bus.regs globalInitSetting).consequence
      (fun _ h => h) ?_ (fun _ _ h => h) d (fun _ _ => rfl)
    intro _ d' hd'
    rw [hd' a List.not_mem_nil, applyAll_table_eq ha _ r, applyAll_globalInit]
  · intro e
    apply Triple.bind (Triple.any _)
    exact fun _ => Triple.rethrow _ e

theorem setPowerOn_fresh :
    Triple (fun d => (a ∉ powerOnRegisters → d.bus.regs a = r a) ∧
        d.pm.active = false) setPowerOn
      (fun _ d => d.bus.regs a = initialized r a)
      (fun _ => FreshAt r a) := by
  have hpm : Stays (Frame.fixing Device.pm) setPowerOn :=
    setPowerOn_stays pm_admits.toAdmitsBus (fun _ _ => rfl) fun _ _ => trivial
  have hoff : Triple (fun d => d.pm.active = false) setPowerOn
      (fun _ d => d.pm.active = false) (fun _ d => d.pm.active = false) := by
    apply (hpm.triple (P := fun d => d.pm.active = false) ?_).consequence
      (fun _ h => h) (fun _ _ h => h) fun _ _ h => h.1
    intro d d' hsame hd
    have hsame : d'.pm = d.pm := hsame
    rwa [hsame]
  by_cases ha : a ∈ powerOnRegisters
  · apply ((setPowerOn_writes ha (r := r)).and hoff).consequence
      (fun _ h => ⟨trivial, h.2⟩) (fun _ _ h => h.1)
    rintro _ d ⟨-, hd⟩
    exact ⟨fun hno => absurd ha hno, fun hon => by
      rw [hd] at hon
      cases hon⟩
  · have hreg : Stays (Frame.fixing fun d : Device => d.bus.regs a)
        setPowerOn := by
      apply setPowerOn_stays (register_admits a).toAdmitsBus (fun _ _ => rfl)
      intro x hx heq
      exact ha (heq ▸ List.mem_map_of_mem hx)
    have hkept : Triple (fun d => d.bus.regs a = r a) setPowerOn
        (fun _ d => d.bus.regs a = r a) (fun _ d => d.bus.regs a = r a) := by
      apply (hreg.triple (P := fun d => d.bus.regs a = r a) ?_).consequence
        (fun _ h => h) (fun _ _ h => h) fun _ _ h => h.1
      intro d d' hsame hd
      have hsame : d'.bus.regs a = d.bus.regs a := hsame
      rwa [hsame]
    apply (hkept.and hoff).consequence (fun _ h => ⟨h.1 ha, h.2⟩)
    · rintro _ d ⟨hd, -⟩
      rw [initialized_of_notMem ha, hd]
    · rintro _ d ⟨hd, hsuspended⟩
      exact ⟨fun _ => hd, fun hon => by
        rw [hsuspended] at hon
        cases hon⟩

/-- A resume, whether or not it has to power the sensor on. -/
theorem resume_fresh :
    Triple (FreshAt r a) (pmRuntimeResumeAndGet pmField setPowerOn)
      (fun _ d => FreshAt r a d ∧ d.pm.active = true)
      (fun _ => FreshAt r a) := by
  apply Triple.bind (Q := fun _ => FreshAt r a)
  · exact Triple.modify fun d hd => hd.congr rfl rfl
  intro _
  apply Triple.gets_bind
  intro p
  apply Triple.ite
  · intro hactive
    apply Triple.pure
    rintro d ⟨hd, rfl⟩
    exact ⟨hd, hactive⟩
  · intro hactive
    apply Triple.tryCatch (J := fun _ => FreshAt r a)
    · apply Triple.bind (Q := fun _ d => d.bus.regs a = initialized r a)
      · apply setPowerOn_fresh.strengthenPre
        rintro d ⟨hd, rfl⟩
        exact ⟨hd.kept, Bool.not_eq_true _ ▸ hactive⟩
      · intro _
        apply Triple.modify
        intro d hd
        refine ⟨⟨fun ha => ?_, fun _ => hd⟩, rfl⟩
        exact hd.trans (initialized_of_notMem ha r)
    · intro e
      apply Triple.bind (Q := fun _ => FreshAt r a)
      · exact Triple.modify fun d hd => hd.congr rfl rfl
      · exact fun _ => Triple.raise fun _ hd => hd

end PowerOn

/-! ## One start -/

/-- What a start does with a sensor that has been resumed. -/
def startResumed (par : Params) (hasLed : Bool) : Prog Device Fault Unit :=
  Prog.tryCatch
    (do
      pllConfigure par
      let mode ← Prog.gets Device.currentMode
      setRegisterArray (modeInfoData par mode).data
      handlerSetup par
      writeReg 0x0100 0x1
      irLedSet hasLed true)
    (fun e => do
      pmRuntimePut pmField
      Prog.raise e)

theorem sStream_true (par : Params) (hasLed : Bool) :
    sStream par hasLed true =
      (pmRuntimeResumeAndGet pmField setPowerOn >>= fun _ =>
        startResumed par hasLed) := rfl

/-- What a start writes beside the controls, in this order. -/
def startTable (par : Params) (hasLed : Bool) (rate : XclkRate) (idx : ℕ)
    (mode : Fin 3) : List RegValue :=
  pllRegs par rate idx ++ (modeInfoData par mode).data ++
    (0x0100, 0x1) :: if hasLed = true then [(0x3005, 0x08), (0x3b81, 0xff)]
      else []

theorem tableWrites_append (xs ys : List RegValue) (r : Registers) :
    applyAll (tableWrites (xs ++ ys)) r =
      applyAll (tableWrites ys) (applyAll (tableWrites xs) r) := by
  rw [tableWrites, List.map_append, applyAll_append]
  rfl

/-- The first mode has the vendor driver's table where its timing is asked
for. -/
theorem data_cases (par : Params) (mode : Fin 3) :
    (par.winTiming ≠ 0 ∧ mode = 0 ∧
        (modeInfoData par mode).data = settingVgaWin) ∨
      (modeInfoData par mode).data ∈
        [settingVga30fps, settingVga60fps, settingVga90fps] := by
  match mode with
  | 0 =>
      rw [modeInfoData_zero, firstMode]
      split
      · next hwin => exact Or.inl ⟨hwin, rfl, rfl⟩
      · right
        split
        · exact List.mem_cons_self
        · exact List.mem_cons_self
  | 1 => exact Or.inr (List.mem_cons_of_mem _ List.mem_cons_self)
  | 2 =>
      exact Or.inr (List.mem_cons_of_mem _
        (List.mem_cons_of_mem _ List.mem_cons_self))

theorem data_registers (par : Params) (mode : Fin 3) :
    ∀ x ∈ (modeInfoData par mode).data, x.1 ∈ driverRegisters := by
  have hall : ∀ table ∈ [settingVgaWin, settingVga30fps, settingVga60fps,
      settingVga90fps], ∀ a ∈ table.map Prod.fst,
        a ∈ settingVga30fps.map Prod.fst := by
    decide +kernel
  have htable : (modeInfoData par mode).data ∈
      [settingVgaWin, settingVga30fps, settingVga60fps, settingVga90fps] := by
    rcases data_cases par mode with ⟨-, -, hwin⟩ | hmem
    · rw [hwin]
      exact List.mem_cons_self
    · exact List.mem_cons_of_mem _ hmem
  intro x hx
  have hmem := hall _ htable x.1 (List.mem_map_of_mem hx)
  exact List.mem_append_left _ (List.mem_append_right _ hmem)

/-- The other way round, a table sets every register that some table sets, but
for one register that the vendor driver's table leaves out. -/
theorem registers_data {par : Params} {mode : Fin 3} {a : ℕ}
    (ha : a ∈ settingVga30fps.map Prod.fst)
    (hleft : a ≠ 0x4315 ∨ par.winTiming = 0 ∨ mode ≠ 0) :
    a ∈ (modeInfoData par mode).data.map Prod.fst := by
  have hall : ∀ table ∈ [settingVga30fps, settingVga60fps, settingVga90fps],
      ∀ a ∈ settingVga30fps.map Prod.fst, a ∈ table.map Prod.fst := by
    decide +kernel
  have hwin : ∀ a ∈ settingVga30fps.map Prod.fst,
      a ≠ 0x4315 → a ∈ settingVgaWin.map Prod.fst := by
    decide +kernel
  rcases data_cases par mode with ⟨htiming, hfirst, hdata⟩ | hmem
  · rw [hdata]
    apply hwin a ha
    rcases hleft with hne | hstock | hother
    · exact hne
    · exact absurd hstock htiming
    · exact absurd hfirst hother
  · exact hall _ hmem a ha

/-- A register that the driver writes and that is of no control is set by every
start, but for that one. -/
theorem startTable_registers {par : Params} {hasLed : Bool} {rate : XclkRate}
    {idx a : ℕ} {mode : Fin 3} (ha : a ∈ driverRegisters)
    (hctrl : a ∉ ctrlRegisters)
    (hleft : a ≠ 0x4315 ∨ par.winTiming = 0 ∨ mode ≠ 0) :
    a ∈ (startTable par hasLed rate idx mode).map Prod.fst := by
  rw [startTable, List.map_append, List.map_append, List.map_cons]
  rcases List.mem_append.mp ha with htables | hlast
  · apply List.mem_append_left
    rcases List.mem_append.mp htables with hpll | hdata
    · exact List.mem_append_left _ hpll
    · exact List.mem_append_right _ (registers_data hdata hleft)
  · rcases List.mem_cons.mp hlast with rfl | hmem
    · exact List.mem_append_right _ List.mem_cons_self
    · exact absurd hmem hctrl

/-- Every register a start sets beside the controls is the driver's. -/
theorem startTable_driver {par : Params} {hasLed : Bool} {rate : XclkRate}
    {idx a : ℕ} {mode : Fin 3}
    (ha : a ∈ (startTable par hasLed rate idx mode).map Prod.fst) :
    a ∈ driverRegisters := by
  have hled : ∀ a ∈ [0x3005, 0x3b81], a ∈ driverRegisters := by
    decide
  rw [startTable, List.map_append, List.map_append, List.map_cons] at ha
  rcases List.mem_append.mp ha with htables | hlast
  · rcases List.mem_append.mp htables with hpll | hdata
    · exact List.mem_append_left _ (List.mem_append_left _ hpll)
    · obtain ⟨x, hx, rfl⟩ := List.mem_map.mp hdata
      exact data_registers par mode x hx
  · rcases List.mem_cons.mp hlast with rfl | hmem
    · exact List.mem_append_right _ List.mem_cons_self
    · apply hled
      split at hmem
      · exact hmem
      · exact absurd hmem List.not_mem_nil

end Ov7251
end SurfaceCameras
