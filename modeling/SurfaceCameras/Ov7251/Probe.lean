import SurfaceCameras.Kernel.Lifetimes
import SurfaceCameras.Ov7251.Frames

/-!
# Probing the OV7251

`ov7251_probe` with everything it asks for on the way, the labels it unwinds
through when something is refused, and what a probe that fails leaves behind.
-/

namespace SurfaceCameras
namespace Ov7251

open Kernel Device Prog Attached

/-! ## The steps of probe -/

/-- What `ov7251_probe` asks the firmware and the kernel for, with the answers
it gets.  The clock comes with its rate, and `ctrls` is what
`ov7251_init_ctrls` returns: the error of the handler, read after the handler
has been freed. -/
structure Platform where
  memory : Bool
  endpoint : Endpoint
  xclk : Except Errno ℕ
  ioRegulator : Except Errno Unit
  coreRegulator : Except Errno Unit
  analogRegulator : Except Errno Unit
  enableGpio : Except Errno Unit
  ctrls : Except Errno Unit
  pads : Except Errno Unit
  subdev : Except Errno Unit

/-- What a probe sets up besides the device structure: runtime power
management, the mutex, the control handler and the media entity. -/
structure Held where
  pmEnabled : Bool
  mutex : Bool
  ctrls : Bool
  entity : Bool
  deriving DecidableEq, Repr

/-- Nothing is set up. -/
def Held.nothing : Held := ⟨false, false, false, false⟩

/-- The device, and what has been set up for it. -/
abbrev Probing : Type := Attached Device Held

def setDevice (f : Device → Device) : Prog Probing Fault Unit :=
  onDevice (Prog.modify f)

/-- `supported_xclk_rates[]`. -/
def supportedXclkRate (freq : ℕ) : Except Errno XclkRate :=
  if freq = 19200000 then
    .ok .mhz19_2
  else if freq = 24000000 then
    .ok .mhz24
  else
    .error .einval

/-- `ov7251_read_reg`, whose error the callers replace. -/
def readReg (reg : ℕ) : Prog Device Fault (BitVec 8) :=
  Prog.tryCatch (busRead busField reg) fun _ => Prog.raise (.errno .enodev)

/-- `ov7251_detect_chip`; the revision is only logged. -/
def detectChip : Prog Device Fault Unit := do
  let chipIdHigh ← readReg 0x300a
  Prog.when (chipIdHigh ≠ 0x77) (Prog.raise (.errno .enodev))
  let chipIdLow ← readReg 0x300b
  Prog.when (chipIdLow ≠ 0x50) (Prog.raise (.errno .enodev))
  let _ ← readReg 0x3029

/-- Read a register of which the driver keeps a copy. -/
def readCopy (cache : Field Device (BitVec 8)) (reg : ℕ) :
    Prog Device Fault Unit := do
  let val ← readReg reg
  Prog.modify fun d => cache.set d val

/-- The three reads after chip detection. -/
def readCopies : Prog Device Fault Unit := do
  readCopy preIsp00Field 0x5e00
  readCopy timingFormat1Field 0x3820
  readCopy timingFormat2Field 0x3821

/-- From chip detection on, runtime power management takes the sensor over. -/
def takeOver : Prog Probing Fault Unit := do
  onDevice detectChip
  setDevice (pmField.update fun p => { p.get with active := true })
  hold fun h => { h with pmEnabled := true }
  Prog.unwinding
    (do
      hold fun h => { h with pmEnabled := false }
      onDevice (pmRuntimePutNoidle pmField))
    (onDevice readCopies)

/-- From power-on to the last put before the registration. -/
def powerUp : Prog Probing Fault Unit := do
  onDevice setPowerOn
  Prog.unwinding (onDevice setPowerOff) takeOver
  onDevice (pmRuntimePut pmField)

section Parameters

variable (par : Params) (nearest : ℕ → ℕ → Fin 3)

/-- The controls `ov7251_init_ctrls` creates. -/
def newCtrls (d : Device) : Device :=
  let mode := modeInfoData par initialMode
  { d with
    hflip := Ctrl.newStd 0 1 1 0
    vflip := Ctrl.newStd 0 1 1 0
    exposure := Ctrl.newStd 1 32 1 32
    gain := Ctrl.newStd 16 1023 1 16
    testPattern := Ctrl.newStd 0 1 1 0
    hblank := Ctrl.newStd (fixedPpl - mode.width) (fixedPpl - mode.width) 1
      (fixedPpl - mode.width)
    vblank := Ctrl.newStd timingMinVts (timingMaxVts - mode.height) 1
      (mode.vts - mode.height) }

variable (pf : Platform)

/-- The steps of `ov7251_probe` whose failure needs no label. -/
def acquire : Prog Probing Fault Unit := do
  Prog.when (pf.memory = false) (Prog.raise (.errno .enomem))
  setDevice fun d =>
    { d with pad := PadState.zero, tries := fun _ => PadState.zero }
  let linkFreqIdx ← answer (checkHwcfg pf.endpoint)
  setDevice fun d =>
    { d with linkFreqIdx := if par.winTiming ≠ 0 then 1 else linkFreqIdx }
  let freq ← answer pf.xclk
  let rate ← answer (supportedXclkRate freq)
  setDevice fun d => { d with xclkRate := rate }
  answer pf.ioRegulator
  answer pf.coreRegulator
  answer pf.analogRegulator
  answer pf.enableGpio
  onDevice (setPower fun p => { p with enableGpio := false })

/-- The steps under the labels of `ov7251_probe`; each label undoes what
stands before the steps it is around. -/
def setUp : Prog Probing Fault Unit := do
  hold fun h => { h with mutex := true }
  Prog.unwinding (hold fun h => { h with mutex := false }) (do
    setDevice fun d => { d with currentMode := initialMode }
    answer pf.ctrls
    setDevice (newCtrls par)
    hold fun h => { h with ctrls := true }
    Prog.unwinding (hold fun h => { h with ctrls := false }) (do
      answer pf.pads
      hold fun h => { h with entity := true }
      Prog.unwinding (hold fun h => { h with entity := false }) (do
        powerUp
        answer pf.subdev)))

/-- `ov7251_probe`. -/
def probeDevice : Prog Probing Fault Unit := do
  acquire par pf
  setUp par pf
  onDevice (initState par nearest)

/-- A device that no driver is bound to: nothing is set up for it, nobody holds
it, and nobody drives its enable line.  The supplies and the clock may be in
use by others. -/
structure Unbound (s : Probing) : Prop where
  held : s.held = Held.nothing
  usage : s.dev.pm.usage = 0
  line : s.dev.power.enableGpio = false

end Parameters

/-! ## The transfers of a probe -/

/-- The sensor answers: the first twelve transfers succeed, and it is an
OV7251. -/
structure Answers (os : List Bool) (r : ℕ → BitVec 8) : Prop where
  transfers : true ∉ os.take 12
  idHigh : r 0x300a = 0x77
  idLow : r 0x300b = 0x50

/-- The device after `k` of these transfers, all of which have succeeded. -/
structure Spent (p : Power) (pm : RuntimePm) (r : ℕ → BitVec 8)
    (os : List Bool) (k : ℕ) (d : Device) : Prop where
  power : d.power = p
  pm : d.pm = pm
  regs : d.bus.regs = r
  faults : d.bus.faults = os.drop k
  succeeded : true ∉ os.take k

/-- The device when a step has failed for which the sensor does not answer. -/
structure Broken (p : Power) (pm : RuntimePm) (answers : Prop) (d : Device) :
    Prop where
  power : d.power = p
  pm : d.pm = pm
  silent : ¬ answers

section Transfers

variable {p : Power} {pm : RuntimePm} {r r₀ : ℕ → BitVec 8} {os : List Bool}
  {k : ℕ}

theorem not_answers_of_fault (hk : k < 12) (h : os[k]? = some true) :
    ¬ Answers os r₀ := by
  intro hans
  apply hans.transfers
  obtain ⟨hlt, hget⟩ := List.getElem?_eq_some_iff.mp h
  rw [← hget]
  exact List.mem_take_iff_getElem.mpr ⟨k, by omega, rfl⟩

theorem transfer_spent (hk : k < 12) :
    Triple (Spent p pm r os k) (transfer busField)
      (fun _ => Spent p pm r os (k + 1))
      (fun _ => Broken p pm (Answers os r₀)) := by
  intro d hd
  have hfaults : (busField.get d).faults = os.drop k := hd.faults
  have hsplit : os.take (k + 1) = os.take k ++ os[k]?.toList := List.take_add_one
  match hk' : os[k]? with
  | none =>
      have hnil : os.drop k = [] := by
        rw [List.drop_eq_nil_iff]
        exact List.getElem?_eq_none_iff.mp hk'
      rw [hnil] at hfaults
      rw [transfer_ok hfaults]
      refine ⟨hd.power, hd.pm, hd.regs, ?_, ?_⟩
      · rw [hd.faults, hnil, ← List.tail_drop, hnil]
        rfl
      · rw [hsplit, hk']
        simpa using hd.succeeded
  | some fails =>
      have hcons : os.drop k = fails :: os.drop (k + 1) := by
        rw [List.drop_eq_getElem?_toList_append, hk']
        rfl
      rw [hcons] at hfaults
      cases fails with
      | true =>
          rw [transfer_error hfaults]
          exact ⟨hd.power, hd.pm, not_answers_of_fault hk hk'⟩
      | false =>
          rw [transfer_next hfaults]
          refine ⟨hd.power, hd.pm, hd.regs, rfl, ?_⟩
          rw [hsplit, hk']
          simpa using hd.succeeded

theorem tryEnable_spent (hk : k < 12) (f : Power → Power) :
    Triple (Spent p pm r os k) (tryEnable f)
      (fun _ => Spent (f p) pm r os (k + 1))
      (fun _ => Broken p pm (Answers os r₀)) := by
  apply Triple.bind (transfer_spent hk)
  intro _
  apply Triple.modify
  intro d hd
  exact ⟨congrArg f hd.power, hd.pm, hd.regs, hd.faults, hd.succeeded⟩

theorem writeReg_spent (hk : k < 12) (reg : ℕ) (val : BitVec 8) :
    Triple (Spent p pm r os k) (writeReg reg val)
      (fun _ => Spent p pm (Function.update r reg val) os (k + 1))
      (fun _ => Broken p pm (Answers os r₀)) := by
  apply Triple.bind (transfer_spent hk)
  intro _
  apply Triple.modify
  rintro d ⟨hpower, hpm, rfl, hfaults, hok⟩
  exact ⟨hpower, hpm, rfl, hfaults, hok⟩

theorem readReg_spent (hk : k < 12) (reg : ℕ) :
    Triple (Spent p pm r os k) (readReg reg)
      (fun v d => Spent p pm r os (k + 1) d ∧ v = r reg)
      (fun _ => Broken p pm (Answers os r₀)) := by
  apply Triple.tryCatch (J := fun _ => Broken p pm (Answers os r₀))
  · apply Triple.bind (transfer_spent hk)
    intro _
    apply Triple.gets
    intro d hd
    exact ⟨hd, congrFun hd.regs reg⟩
  · exact fun _ => Triple.raise fun _ hd => hd

theorem setPower_broken {answers : Prop} (f : Power → Power) :
    Triple (Broken p pm answers) (setPower f)
      (fun _ => Broken (f p) pm answers) (fun _ _ => False) := by
  apply Triple.modify
  intro d hd
  exact ⟨congrArg f hd.power, hd.pm, hd.silent⟩

/-! ## Power -/

/-- Every supply and the clock enabled once more, and the sensor out of its
shutdown. -/
def Power.on (p : Power) : Power :=
  ⟨p.io + 1, p.analog + 1, p.core + 1, p.xclk + 1, true⟩

/-- The registers after `ov7251_global_init_setting`. -/
def initialized (r : ℕ → BitVec 8) : ℕ → BitVec 8 :=
  Function.update (Function.update r 0x0103 0x01) 0x303b 0x02

theorem undo_broken {answers : Prop} {q : Power} (f : Power → Power)
    (hf : f q = p) (e : Fault) :
    Triple (Broken q pm answers)
      (setPower f >>= fun _ => Prog.raise e : Prog Device Fault Unit)
      (fun _ _ => False) (fun _ => Broken p pm answers) := by
  apply Triple.bind (Q := fun _ => Broken p pm answers)
  · rw [← hf]
    exact (setPower_broken f).consequence (fun _ h => h) (fun _ _ h => h)
      fun _ _ h => h.elim
  · exact fun _ => Triple.raise fun _ h => h

theorem regulatorsEnable_spent :
    Triple (Spent p pm r os 0) regulatorsEnable
      (fun _ => Spent { p with
        io := p.io + 1, analog := p.analog + 1, core := p.core + 1 } pm r os 3)
      (fun _ => Broken p pm (Answers os r₀)) := by
  have hundo : ∀ {q : Power} (f : Power → Power), f q = p → ∀ e : Fault,
      Triple (Broken q pm (Answers os r₀))
        (setPower f >>= fun _ => Prog.raise e : Prog Device Fault Unit)
        (fun _ _ => False) (fun _ => Broken p pm (Answers os r₀)) :=
    fun f hf e => undo_broken f hf e
  apply Triple.bind (tryEnable_spent (by decide) _)
  intro _
  apply Triple.bind (Q := fun _ => Spent { p with
    io := p.io + 1, analog := p.analog + 1 } pm r os 2)
  · apply Triple.tryCatch (tryEnable_spent (by decide) _)
    intro e
    apply (hundo _ ?_ e).consequence (fun _ h => h) (fun _ _ h => h.elim)
      fun _ _ h => h
    simp only [Int.add_sub_cancel]
  · intro _
    apply Triple.tryCatch (tryEnable_spent (by decide) _)
    intro e
    apply (hundo _ ?_ e).consequence (fun _ h => h) (fun _ _ h => h.elim)
      fun _ _ h => h
    simp only [Int.add_sub_cancel]

variable (r₀) in
/-- Power-on is all or nothing. -/
theorem setPowerOn_spent (hline : p.enableGpio = false) :
    Triple (Spent p pm r os 0) setPowerOn
      (fun _ => Spent p.on pm (initialized r) os 6)
      (fun _ => Broken p pm (Answers os r₀)) := by
  apply Triple.bind regulatorsEnable_spent
  intro _
  apply Triple.bind (Q := fun _ => Spent { p with
    io := p.io + 1, analog := p.analog + 1, core := p.core + 1
    xclk := p.xclk + 1 } pm r os 4)
  · apply Triple.tryCatch (tryEnable_spent (by decide) _)
    intro e
    apply (undo_broken _ ?_ e).consequence (fun _ h => h)
      (fun _ _ h => h.elim) fun _ _ h => h
    simp only [Int.add_sub_cancel]
  intro _
  apply Triple.bind (Q := fun _ => Spent p.on pm r os 4)
  · apply Triple.modify
    intro d hd
    refine ⟨?_, hd.pm, hd.regs, hd.faults, hd.succeeded⟩
    exact congrArg (fun p : Power => { p with enableGpio := true }) hd.power
  intro _
  apply Triple.tryCatch (J := fun _ => Broken p.on pm (Answers os r₀))
  · apply Triple.bind (writeReg_spent (by decide) 0x0103 0x01)
    intro _
    apply Triple.bind (writeReg_spent (by decide) 0x303b 0x02)
    exact fun _ => Triple.pure fun _ hd => hd
  · intro e
    apply Triple.bind (Q := fun _ => Broken { p.on with
      enableGpio := false, xclk := p.xclk } pm (Answers os r₀))
    · apply (setPower_broken _).consequence (fun _ h => h) ?_
        fun _ _ h => h.elim
      intro _ d hd
      refine ⟨hd.power.trans ?_, hd.pm, hd.silent⟩
      simp only [Power.on, Int.add_sub_cancel]
    · intro _
      apply (undo_broken _ ?_ e).consequence (fun _ h => h)
        (fun _ _ h => h.elim) fun _ _ h => h
      rw [← hline]
      simp only [Power.on, Int.add_sub_cancel]

/-! ## Chip detection and the copies -/

theorem detectChip_spent (hr : r 0x300a = r₀ 0x300a)
    (hr' : r 0x300b = r₀ 0x300b) :
    Triple (Spent p pm r os 6) detectChip
      (fun _ d => Spent p pm r os 9 d ∧ r₀ 0x300a = 0x77 ∧ r₀ 0x300b = 0x50)
      (fun _ => Broken p pm (Answers os r₀)) := by
  apply Triple.bind (readReg_spent (by decide) 0x300a)
  intro high
  apply Triple.of_fact
  rintro rfl
  apply Triple.bind (Q := fun _ d => Spent p pm r os 7 d ∧ r₀ 0x300a = 0x77)
  · apply Triple.when
    · intro hne
      apply Triple.raise
      intro d hd
      refine ⟨hd.power, hd.pm, fun hans => hne ?_⟩
      rw [hr]
      exact hans.idHigh
    · intro heq d hd
      rw [← hr]
      exact ⟨hd, not_not.mp heq⟩
  intro _
  apply Triple.of_fact
  intro hhigh
  apply Triple.bind (readReg_spent (by decide) 0x300b)
  intro low
  apply Triple.of_fact
  rintro rfl
  apply Triple.bind (Q := fun _ d => Spent p pm r os 8 d ∧ r₀ 0x300b = 0x50)
  · apply Triple.when
    · intro hne
      apply Triple.raise
      intro d hd
      refine ⟨hd.power, hd.pm, fun hans => hne ?_⟩
      rw [hr']
      exact hans.idLow
    · intro heq d hd
      rw [← hr']
      exact ⟨hd, not_not.mp heq⟩
  intro _
  apply Triple.of_fact
  intro hlow
  apply Triple.bind (readReg_spent (by decide) 0x3029)
  exact fun _ => Triple.pure fun d hd => ⟨hd.1, hhigh, hlow⟩

theorem readCopy_spent (hk : k < 12) {cache : Field Device (BitVec 8)}
    (reg : ℕ) (hcache : ∀ d v, (cache.set d v).power = d.power ∧
      (cache.set d v).pm = d.pm ∧ (cache.set d v).bus = d.bus) :
    Triple (Spent p pm r os k) (readCopy cache reg)
      (fun _ => Spent p pm r os (k + 1))
      (fun _ => Broken p pm (Answers os r₀)) := by
  apply Triple.bind (readReg_spent hk reg)
  intro v
  apply Triple.modify
  rintro d ⟨hd, -⟩
  obtain ⟨hpower, hpm, hbus⟩ := hcache d v
  refine ⟨hpower.trans hd.power, hpm.trans hd.pm, ?_, ?_, hd.succeeded⟩
  · rw [hbus, hd.regs]
  · rw [hbus, hd.faults]

variable (r₀) in
theorem readCopies_spent :
    Triple (Spent p pm r os 9) readCopies (fun _ => Spent p pm r os 12)
      (fun _ => Broken p pm (Answers os r₀)) := by
  apply Triple.bind
  · exact readCopy_spent (by decide) _ fun _ _ => ⟨rfl, rfl, rfl⟩
  intro _
  apply Triple.bind
  · exact readCopy_spent (by decide) _ fun _ _ => ⟨rfl, rfl, rfl⟩
  intro _
  exact readCopy_spent (by decide) _ fun _ _ => ⟨rfl, rfl, rfl⟩

end Transfers

/-! ## From power-on to runtime power management -/

theorem setDevice_during {P Q : Device → Prop} {f : Device → Device}
    {h : Held} {E : Fault → Probing → Prop} (hf : ∀ d, P d → Q (f d)) :
    Triple (During P h) (setDevice f) (fun _ => During Q h) E := by
  rintro s ⟨hs, rfl⟩
  exact ⟨hf s.dev hs, rfl⟩

section PowerUp

variable {p : Power} {pm : RuntimePm} {r : ℕ → BitVec 8} {os : List Bool}

/-- The sensor runs, and only runtime power management has a say over it. -/
structure Running (p : Power) (usage : ℕ) (d : Device) : Prop where
  power : d.power = p.on
  usage : d.pm.usage = usage

/-- The sensor is as it was. -/
structure Off (p : Power) (usage : ℕ) (answers : Prop) (d : Device) :
    Prop where
  power : d.power = p
  usage : d.pm.usage = usage
  silent : ¬ answers

theorem setPowerOff_off {answers : Prop} (hline : p.enableGpio = false) :
    Triple (Off p.on pm.usage answers) setPowerOff
      (fun _ => Off p pm.usage answers) (fun _ _ => False) := by
  apply Triple.bind (Q := fun _ => Off { p.on with
    xclk := p.xclk, enableGpio := false } pm.usage answers)
  · apply Triple.modify
    intro d hd
    refine ⟨?_, hd.usage, hd.silent⟩
    refine Eq.trans (congrArg (fun p : Power => { p with
      xclk := p.xclk - 1, enableGpio := false }) hd.power) ?_
    simp only [Power.on, Int.add_sub_cancel]
  · intro _
    apply Triple.modify
    intro d hd
    refine ⟨?_, hd.usage, hd.silent⟩
    refine Eq.trans (congrArg (fun p : Power => { p with
      core := p.core - 1, analog := p.analog - 1, io := p.io - 1 })
        hd.power) ?_
    rw [← hline]
    simp only [Power.on, Int.add_sub_cancel]

/-- The device while runtime power management is enabled for it. -/
def enabledPm (pm : RuntimePm) : RuntimePm := { pm.get with active := true }

/-- What fails once runtime power management is enabled drops its reference. -/
theorem takeOver_during {h : Held} (hdisabled : h.pmEnabled = false) :
    Triple (During (Spent p.on pm (initialized r) os 6) h) takeOver
      (fun _ s => During (Spent p.on (enabledPm pm) (initialized r) os 12)
        { h with pmEnabled := true } s ∧ Answers os r)
      (fun _ => During (Off p.on pm.usage (Answers os r)) h) := by
  have hdrop : ({ h with pmEnabled := false } : Held) = h := by
    rw [← hdisabled]
  apply Triple.bind (Q := fun _ s => During (Spent p.on pm (initialized r)
    os 9) h s ∧ r 0x300a = 0x77 ∧ r 0x300b = 0x50)
  · have hdetect : Triple (Spent p.on pm (initialized r) os 6) detectChip
        (fun _ d => Spent p.on pm (initialized r) os 9 d ∧
          r 0x300a = 0x77 ∧ r 0x300b = 0x50)
        (fun _ => Broken p.on pm (Answers os r)) :=
      detectChip_spent rfl rfl
    apply (onDevice_during hdetect).consequence (fun _ hs => hs)
    · rintro _ s ⟨⟨hs, hid⟩, hheld⟩
      exact ⟨⟨hs, hheld⟩, hid⟩
    · rintro _ s ⟨hs, hheld⟩
      exact ⟨⟨hs.power, congrArg RuntimePm.usage hs.pm, hs.silent⟩, hheld⟩
  intro _
  apply Triple.of_fact
  rintro ⟨hhigh, hlow⟩
  apply Triple.bind (Q := fun _ =>
    During (Spent p.on (enabledPm pm) (initialized r) os 9) h)
  · apply setDevice_during
    intro d hd
    refine ⟨hd.power, ?_, hd.regs, hd.faults, hd.succeeded⟩
    exact congrArg enabledPm hd.pm
  intro _
  apply Triple.bind hold_during
  intro _
  apply Triple.unwinding (J := fun _ => During
    (Broken p.on (enabledPm pm) (Answers os r)) { h with pmEnabled := true })
  · apply (onDevice_during (readCopies_spent r)).consequence
      (fun _ hs => hs) ?_ fun _ _ hs => hs
    rintro _ s ⟨hs, hheld⟩
    exact ⟨⟨hs, hheld⟩, hs.succeeded, hhigh, hlow⟩
  · intro e
    apply Triple.bind hold_during
    intro _
    rintro s ⟨hs, hheld⟩
    refine ⟨⟨hs.power, ?_, hs.silent⟩, hheld.trans hdrop⟩
    exact congrArg (fun p : RuntimePm => p.putNoidle.usage) hs.pm

/-- Power-up is all or nothing, as far as power and references go. -/
theorem powerUp_during (hline : p.enableGpio = false) {h : Held}
    (hdisabled : h.pmEnabled = false) :
    Triple (During (Spent p pm r os 0) h) powerUp
      (fun _ s => During (Running p pm.usage) { h with pmEnabled := true } s ∧
        Answers os r)
      (fun _ => During (Off p pm.usage (Answers os r)) h) := by
  apply Triple.bind (Q := fun _ =>
    During (Spent p.on pm (initialized r) os 6) h)
  · apply (onDevice_during (setPowerOn_spent r hline)).consequence
      (fun _ hs => hs) (fun _ _ hs => hs)
    rintro _ s ⟨hs, hheld⟩
    exact ⟨⟨hs.power, congrArg RuntimePm.usage hs.pm, hs.silent⟩, hheld⟩
  intro _
  apply Triple.bind (Q := fun _ s => During (Spent p.on (enabledPm pm)
    (initialized r) os 12) { h with pmEnabled := true } s ∧ Answers os r)
  · apply Triple.unwinding (takeOver_during hdisabled)
    intro e
    apply (onDevice_during (setPowerOff_off hline)).consequence
      (fun _ hs => hs) (fun _ _ hs => hs)
    rintro _ s ⟨hs, -⟩
    exact hs
  · intro _
    rintro s ⟨⟨hs, hheld⟩, hans⟩
    refine ⟨⟨⟨hs.power, ?_⟩, hheld⟩, hans⟩
    exact congrArg (fun p : RuntimePm => p.put.usage) hs.pm

end PowerUp

/-! ## The whole probe -/

/-- The kernel and the firmware grant everything up to the registration. -/
structure Granted (pf : Platform) : Prop where
  memory : pf.memory = true
  endpoint : ∃ idx, checkHwcfg pf.endpoint = .ok idx
  xclk : ∃ freq rate, pf.xclk = .ok freq ∧ supportedXclkRate freq = .ok rate
  ioRegulator : pf.ioRegulator = .ok ()
  coreRegulator : pf.coreRegulator = .ok ()
  analogRegulator : pf.analogRegulator = .ok ()
  enableGpio : pf.enableGpio = .ok ()
  ctrls : pf.ctrls = .ok ()
  pads : pf.pads = .ok ()

/-- Every step before the registration succeeds. -/
def ReachesRegistration (pf : Platform) (s : Probing) : Prop :=
  Granted pf ∧ Answers s.dev.bus.faults s.dev.bus.regs

/-- The supplies, the clock and the enable line are as they were, and runtime
power management is disabled and not in use. -/
structure Restored (s s' : Probing) : Prop where
  power : s'.dev.power = s.dev.power
  disabled : s'.held.pmEnabled = false
  usage : s'.dev.pm.usage = 0

section Parameters

variable (par : Params) (nearest : ℕ → ℕ → Fin 3) (pf : Platform)

/-- What has been granted before the first label. -/
def Acquired : Prop :=
  pf.memory = true ∧ (∃ idx, checkHwcfg pf.endpoint = .ok idx) ∧
    (∃ freq rate, pf.xclk = .ok freq ∧ supportedXclkRate freq = .ok rate) ∧
      pf.ioRegulator = .ok () ∧ pf.coreRegulator = .ok () ∧
        pf.analogRegulator = .ok () ∧ pf.enableGpio = .ok ()

/-- How a failing probe leaves the device, seen from a label at which `h` is
set up: as it was, or running because it could not be registered. -/
def Left (p : Power) (usage : ℕ) (reaches : Prop) (h : Held)
    (s : Probing) : Prop :=
  During (Off p usage reaches) h s ∨
    During (Running p usage) { h with pmEnabled := true } s ∧
      reaches ∧ ∃ e, pf.subdev = .error e

variable {p : Power} {pm : RuntimePm} {r : ℕ → BitVec 8} {os : List Bool}
  {reaches : Prop}

theorem hold_left {usage : ℕ} {h : Held} {f : Held → Held}
    (hf : f { h with pmEnabled := true } = { f h with pmEnabled := true }) :
    Triple (Left pf p usage reaches h) (hold f)
      (fun _ => Left pf p usage reaches (f h)) (fun _ _ => False) := by
  apply Triple.modify
  rintro s (⟨hs, hheld⟩ | ⟨⟨hs, hheld⟩, hrest⟩)
  · exact Or.inl ⟨hs, congrArg f hheld⟩
  · exact Or.inr ⟨⟨hs, (congrArg f hheld).trans hf⟩, hrest⟩

theorem left_of_refused {h : Held} {s : Probing}
    (hs : During (Spent p pm r os 0) h s) (hno : ¬ reaches) :
    Left pf p pm.usage reaches h s :=
  Or.inl ⟨⟨hs.1.power, congrArg RuntimePm.usage hs.1.pm, hno⟩, hs.2⟩

theorem prepare_during {h : Held} {E : Fault → Probing → Prop}
    {f : Device → Device} (hf : ∀ d, (f d).power = d.power ∧ (f d).pm = d.pm ∧
      (f d).bus = d.bus) :
    Triple (During (Spent p pm r os 0) h) (setDevice f)
      (fun _ => During (Spent p pm r os 0) h) E := by
  apply setDevice_during
  intro d hd
  obtain ⟨hpower, hpm, hbus⟩ := hf d
  refine ⟨hpower.trans hd.power, hpm.trans hd.pm, ?_, ?_, hd.succeeded⟩
  · rw [hbus, hd.regs]
  · rw [hbus, hd.faults]

/-- The first steps leave the device off. -/
theorem acquire_during (hline : p.enableGpio = false) {h : Held} :
    Triple (During (Spent p pm r os 0) h) (acquire par pf)
      (fun _ s => During (Spent p pm r os 0) h s ∧ Acquired pf)
      (fun _ s => During (Spent p pm r os 0) h s ∧ ¬ Granted pf) := by
  have hrefused : ∀ {α : Type} {x : Except Errno α} {e : Errno},
      x = .error e → (Granted pf → ∃ a, x = .ok a) → ∀ s,
        During (Spent p pm r os 0) h s →
          During (Spent p pm r os 0) h s ∧ ¬ Granted pf := by
    intro α x e hx hgranted s hs
    refine ⟨hs, fun hg => ?_⟩
    obtain ⟨a, ha⟩ := hgranted hg
    rw [hx] at ha
    cases ha
  apply Triple.bind (Q := fun _ s =>
    During (Spent p pm r os 0) h s ∧ pf.memory = true)
  · apply Triple.when
    · intro hmemory
      apply Triple.raise
      intro s hs
      refine ⟨hs, fun hg => ?_⟩
      rw [hg.memory] at hmemory
      cases hmemory
    · exact fun hmemory s hs => ⟨hs, Bool.not_eq_false _ ▸ hmemory⟩
  intro _
  apply Triple.of_fact
  intro hmemory
  apply Triple.bind (Q := fun _ => During (Spent p pm r os 0) h)
  · exact prepare_during fun _ => ⟨rfl, rfl, rfl⟩
  intro _
  apply answer_bind ?_ fun e he => hrefused he Granted.endpoint
  intro idx hidx
  apply Triple.bind (Q := fun _ => During (Spent p pm r os 0) h)
  · exact prepare_during fun _ => ⟨rfl, rfl, rfl⟩
  intro _
  apply answer_bind ?_ fun e he =>
    hrefused he fun hg => hg.xclk.imp fun freq ⟨rate, hfreq, _⟩ => hfreq
  intro freq hfreq
  have hrate : Granted pf → ∃ rate, supportedXclkRate freq = .ok rate := by
    intro hg
    obtain ⟨freq', rate, hfreq', hrate⟩ := hg.xclk
    rw [hfreq] at hfreq'
    obtain rfl := Except.ok.inj hfreq'
    exact ⟨rate, hrate⟩
  apply answer_bind ?_ fun e he => hrefused he hrate
  intro rate hrate
  apply Triple.bind (Q := fun _ => During (Spent p pm r os 0) h)
  · exact prepare_during fun _ => ⟨rfl, rfl, rfl⟩
  intro _
  apply answer_bind ?_ fun e he => hrefused he fun hg => ⟨(), hg.ioRegulator⟩
  intro _ hio
  apply answer_bind ?_ fun e he => hrefused he fun hg => ⟨(), hg.coreRegulator⟩
  intro _ hcore
  apply answer_bind ?_ fun e he =>
    hrefused he fun hg => ⟨(), hg.analogRegulator⟩
  intro _ hanalog
  apply answer_bind ?_ fun e he => hrefused he fun hg => ⟨(), hg.enableGpio⟩
  intro _ hgpio
  have hline' : ∀ d : Device, d.power = p →
      (powerField.update (fun p => { p with enableGpio := false }) d).power =
        p := by
    rintro d rfl
    have hpower : (powerField.update (fun p =>
      { p with enableGpio := false }) d).power =
        { d.power with enableGpio := false } := rfl
    rw [hpower, ← hline]
  rintro s ⟨hs, hheld⟩
  refine ⟨⟨⟨hline' _ hs.power, hs.pm, hs.regs, hs.faults, hs.succeeded⟩,
    hheld⟩, hmemory, ⟨idx, hidx⟩, ⟨freq, rate, hfreq, hrate⟩, hio, hcore,
      hanalog, hgpio⟩

/-- What the power-up and the registration leave. -/
theorem register_left (hline : p.enableGpio = false) {h : Held}
    (hdisabled : h.pmEnabled = false) (hgranted : Granted pf) :
    Triple (During (Spent p pm r os 0) h)
      (powerUp >>= fun _ => answer pf.subdev)
      (fun _ _ => pf.subdev = .ok ())
      (fun _ => Left pf p pm.usage (Granted pf ∧ Answers os r) h) := by
  apply Triple.bind (Q := fun _ s =>
    During (Running p pm.usage) { h with pmEnabled := true } s ∧ Answers os r)
  · apply (powerUp_during hline hdisabled).consequence (fun _ hs => hs)
      (fun _ _ hs => hs)
    rintro _ s ⟨hs, hheld⟩
    exact Or.inl ⟨⟨hs.power, hs.usage, fun h => hs.silent h.2⟩, hheld⟩
  · rintro _ s ⟨hs, hans⟩
    cases hsubdev : pf.subdev with
    | ok u => exact rfl
    | error e => exact Or.inr ⟨hs, ⟨hgranted, hans⟩, e, hsubdev⟩

theorem initState_returns (d : Device) :
    initState par nearest d = (.ok (), (initState par nearest d).2) := by
  unfold initState Prog.tryCatch
  rcases (setFormat par nearest .active 640 480 >>= fun _ => pure () :
    Prog Device Fault Unit) d with ⟨_ | _, d'⟩
  · rfl
  · rfl

/-- Whichever step of the probe is refused, the labels undo what came before
it; only the registration comes after runtime power management. -/
theorem probe_left (hline : p.enableGpio = false) :
    Triple (During (Spent p pm r os 0) Held.nothing)
      (probeDevice par nearest pf) (fun _ _ => pf.subdev = .ok ())
      (fun _ => Left pf p pm.usage (Granted pf ∧ Answers os r)
        Held.nothing) := by
  have hrefused : ∀ {h : Held} {x : Except Errno Unit} {e : Errno},
      x = .error e → (Granted pf → x = .ok ()) → ∀ s,
        During (Spent p pm r os 0) h s →
          Left pf p pm.usage (Granted pf ∧ Answers os r) h s := by
    intro h x e hx hgranted s hs
    apply left_of_refused pf hs
    rintro ⟨hg, -⟩
    rw [hgranted hg] at hx
    cases hx
  apply Triple.bind (Q := fun _ s =>
    During (Spent p pm r os 0) Held.nothing s ∧ Acquired pf)
  · apply (acquire_during par pf hline).consequence (fun _ hs => hs)
      (fun _ _ hs => hs)
    rintro _ s ⟨hs, hno⟩
    exact left_of_refused pf hs fun h => hno h.1
  intro _
  apply Triple.of_fact
  rintro ⟨hmemory, hendpoint, hxclk, hio, hcore, hanalog, hgpio⟩
  apply Triple.bind (Q := fun _ _ => pf.subdev = .ok ())
  · apply Triple.bind hold_during
    intro _
    apply Triple.unwinding (J := fun _ => Left pf p pm.usage
      (Granted pf ∧ Answers os r) { Held.nothing with mutex := true })
    · apply Triple.bind (Q := fun _ => During (Spent p pm r os 0)
        { Held.nothing with mutex := true })
      · exact prepare_during fun _ => ⟨rfl, rfl, rfl⟩
      intro _
      apply answer_bind ?_ fun e he => hrefused he Granted.ctrls
      intro _ hctrls
      apply Triple.bind (Q := fun _ => During (Spent p pm r os 0)
        { Held.nothing with mutex := true })
      · exact prepare_during fun _ => ⟨rfl, rfl, rfl⟩
      intro _
      apply Triple.bind hold_during
      intro _
      apply Triple.unwinding (J := fun _ => Left pf p pm.usage
        (Granted pf ∧ Answers os r)
          { Held.nothing with mutex := true, ctrls := true })
      · apply answer_bind ?_ fun e he => hrefused he Granted.pads
        intro _ hpads
        have hgranted : Granted pf := ⟨hmemory, hendpoint, hxclk, hio, hcore,
          hanalog, hgpio, hctrls, hpads⟩
        apply Triple.bind hold_during
        intro _
        apply Triple.unwinding (register_left pf hline rfl hgranted)
        exact fun _ => hold_left pf rfl
      · exact fun _ => hold_left pf rfl
    · exact fun _ => hold_left pf rfl
  · intro _ s hs
    unfold onDevice
    rw [initState_returns]
    exact hs

theorem Unbound.during {s : Probing} (hs : Unbound s) :
    During (Spent s.dev.power s.dev.pm s.dev.bus.regs s.dev.bus.faults 0)
      Held.nothing s :=
  ⟨⟨rfl, rfl, rfl, rfl, List.not_mem_nil⟩, hs.held⟩

/-- A probe that fails restores power, clock and references exactly if it does
not get as far as a registration that is refused. -/
theorem probe_restores_iff {s : Probing} (hs : Unbound s) :
    (∀ e s', probeDevice par nearest pf s = (.error e, s') → Restored s s') ↔
      ¬ (ReachesRegistration pf s ∧ ∃ e, pf.subdev = .error e) := by
  have h := probe_left par nearest pf hs.line s hs.during
  rcases hrun : probeDevice par nearest pf s with ⟨e | ⟨⟩, t⟩
  · rw [hrun] at h
    have hone : (∀ e' s', ((.error e : Except Fault Unit), t) = (.error e', s') →
        Restored s s') ↔ Restored s t := by
      constructor
      · exact fun h => h e t rfl
      · rintro h e' s' heq
        obtain ⟨-, rfl⟩ := Prod.mk.inj heq
        exact h
    rw [hone]
    rcases h with ⟨⟨hpower, husage, hsilent⟩, hheld⟩ | ⟨⟨-, hheld⟩, hreaches⟩
    · refine iff_of_true ⟨hpower, ?_, husage.trans hs.usage⟩ fun h =>
        hsilent h.1
      rw [hheld]
      rfl
    · refine iff_of_false (fun hrest => ?_) fun h => h hreaches
      have hdisabled := hrest.disabled
      rw [hheld] at hdisabled
      cases hdisabled
  · rw [hrun] at h
    have hok : pf.subdev = .ok () := h
    refine iff_of_true (fun _ _ heq => ?_) ?_
    · cases heq
    · rintro ⟨-, e, he⟩
      rw [hok] at he
      cases he

end Parameters

/-! ## A registration that is refused -/

/-- A platform that grants everything but the registration, as far as
`subdev` says. -/
def plainPlatform (subdev : Except Errno Unit) : Platform where
  memory := true
  endpoint := .parsed [240000000]
  xclk := .ok 24000000
  ioRegulator := .ok ()
  coreRegulator := .ok ()
  analogRegulator := .ok ()
  enableGpio := .ok ()
  ctrls := .ok ()
  pads := .ok ()
  subdev := subdev

/-- A sensor with nothing but its chip id. -/
def plainRegs : ℕ → BitVec 8 := fun a =>
  if a = 0x300a then 0x77 else if a = 0x300b then 0x50 else 0

/-- A device that is off, before its driver is bound. -/
def plainDevice : Probing :=
  ⟨{ initCtrls ⟨0, 0⟩ ⟨.mhz24, 0, plainRegs, 0, 0, 0⟩ with
    pm := ⟨false, 0, false⟩, power := ⟨0, 0, 0, 0, false⟩ }, Held.nothing⟩

theorem probe_restores_plain :
    (∀ e s', probeDevice ⟨0, 0⟩ (fun _ _ => 0)
        (plainPlatform (.error .ebusy)) plainDevice = (.error e, s') →
          Restored plainDevice s') ↔
      ¬ (ReachesRegistration (plainPlatform (.error .ebusy)) plainDevice ∧
        ∃ e, (plainPlatform (.error .ebusy)).subdev = .error e) :=
  probe_restores_iff ⟨0, 0⟩ (fun _ _ => 0) (plainPlatform (.error .ebusy))
    ⟨rfl, rfl, rfl⟩

/-- A registration that is refused leaves the sensor powered under runtime
power management. -/
theorem probe_restores_fails :
    ¬ ∀ (par : Params) (nearest : ℕ → ℕ → Fin 3) (pf : Platform)
        (s : Probing), Unbound s → ∀ e s',
          probeDevice par nearest pf s = (.error e, s') → Restored s s' := by
  intro h
  have hrest := h ⟨0, 0⟩ (fun _ _ => 0) (plainPlatform (.error .ebusy))
    plainDevice ⟨rfl, rfl, rfl⟩ (.errno .ebusy) _ rfl
  have hdisabled := hrest.disabled
  revert hdisabled
  decide +kernel

/-! ## A probe in which nothing fails -/

theorem onDevice_ok {α : Type} {q : Prog Device Fault α} {s : Probing}
    {a : α} {d : Device} (hq : q s.dev = (.ok a, d)) :
    onDevice q s = (.ok a, ⟨d, s.held⟩) := by
  unfold onDevice
  rw [hq]

theorem setPowerOn_ok {d : Device} (hd : d.bus.faults = []) :
    setPowerOn d = (.ok (), { d with
      power := d.power.on, bus := ⟨initialized d.bus.regs, []⟩ }) := by
  obtain ⟨_, _, _, _, _, _, _, _, _, _, _, _, _, _, _, _, _, ⟨regs, faults⟩⟩ := d
  obtain rfl : faults = [] := hd
  rfl

theorem readReg_ok {d : Device} (hd : d.bus.faults = []) (reg : ℕ) :
    readReg reg d = (.ok (d.bus.regs reg), d) := by
  have hclean : (busField.get d).faults = [] := hd
  exact Prog.tryCatch_ok (busRead_ok hclean reg)

theorem detectChip_ok {d : Device} (hd : d.bus.faults = [])
    (hhigh : d.bus.regs 0x300a = 0x77) (hlow : d.bus.regs 0x300b = 0x50) :
    detectChip d = (.ok (), d) := by
  unfold detectChip
  rw [Prog.bind_ok (readReg_ok hd _), hhigh, Prog.when_neg (by decide),
    Prog.bind_ok (Prog.pure_apply _ _), Prog.bind_ok (readReg_ok hd _), hlow,
    Prog.when_neg (by decide), Prog.bind_ok (Prog.pure_apply _ _),
    Prog.bind_ok (readReg_ok hd _)]
  rfl

theorem readCopies_ok {d : Device} (hd : d.bus.faults = []) :
    readCopies d = (.ok (), { d with
      preIsp00 := d.bus.regs 0x5e00
      timingFormat1 := d.bus.regs 0x3820
      timingFormat2 := d.bus.regs 0x3821 }) := by
  obtain ⟨_, _, _, _, _, _, _, _, _, _, _, _, _, _, _, _, _, ⟨regs, faults⟩⟩ := d
  obtain rfl : faults = [] := hd
  rfl

theorem powerUp_ok {s : Probing} (hfaults : s.dev.bus.faults = [])
    (hhigh : s.dev.bus.regs 0x300a = 0x77)
    (hlow : s.dev.bus.regs 0x300b = 0x50) :
    powerUp s = (.ok (), ⟨{ s.dev with
      preIsp00 := initialized s.dev.bus.regs 0x5e00
      timingFormat1 := initialized s.dev.bus.regs 0x3820
      timingFormat2 := initialized s.dev.bus.regs 0x3821
      pm := (enabledPm s.dev.pm).put
      power := s.dev.power.on
      bus := ⟨initialized s.dev.bus.regs, []⟩ },
        { s.held with pmEnabled := true }⟩) := by
  have htake : ∀ t : Probing, t.dev.bus = ⟨initialized s.dev.bus.regs, []⟩ →
      takeOver t = (.ok (), ⟨{ t.dev with
        preIsp00 := t.dev.bus.regs 0x5e00
        timingFormat1 := t.dev.bus.regs 0x3820
        timingFormat2 := t.dev.bus.regs 0x3821
        pm := enabledPm t.dev.pm }, { t.held with pmEnabled := true }⟩) := by
    intro t ht
    have hclean : t.dev.bus.faults = [] := congrArg Bus.faults ht
    have hregs : t.dev.bus.regs = initialized s.dev.bus.regs :=
      congrArg Bus.regs ht
    have hdetect := onDevice_ok (detectChip_ok hclean
      ((congrFun hregs _).trans hhigh) ((congrFun hregs _).trans hlow))
    unfold takeOver setDevice hold
    rw [Prog.bind_ok hdetect, Prog.bind_ok (onDevice_ok (Prog.modify_apply _ _)),
      Prog.bind_ok (Prog.modify_apply _ _)]
    apply Prog.unwinding_ok
    have hclean' : (pmField.update (fun p => { p.get with active := true })
      t.dev).bus.faults = [] := hclean
    exact onDevice_ok (readCopies_ok hclean')
  unfold powerUp
  rw [Prog.bind_ok (onDevice_ok (setPowerOn_ok hfaults)),
    Prog.bind_ok (Prog.unwinding_ok (htake _ rfl))]
  rfl

section Parameters

variable (par : Params) (nearest : ℕ → ℕ → Fin 3) (pf : Platform)

theorem acquire_ok {idx freq : ℕ} {rate : XclkRate} (hgranted : Granted pf)
    (hidx : checkHwcfg pf.endpoint = .ok idx) (hfreq : pf.xclk = .ok freq)
    (hrate : supportedXclkRate freq = .ok rate) (s : Probing) :
    acquire par pf s = (.ok (), ⟨{ s.dev with
      pad := PadState.zero
      tries := fun _ => PadState.zero
      linkFreqIdx := if par.winTiming ≠ 0 then 1 else idx
      xclkRate := rate
      power := { s.dev.power with enableGpio := false } }, s.held⟩) := by
  unfold acquire
  rw [Prog.when_neg (by rw [hgranted.memory]; decide), hidx, hfreq]
  simp only [answer, hgranted.ioRegulator, hgranted.coreRegulator,
    hgranted.analogRegulator, hgranted.enableGpio, pure_bind, hrate]
  rfl

theorem setUp_ok (hgranted : Granted pf) (hsubdev : pf.subdev = .ok ())
    {s : Probing} (hfaults : s.dev.bus.faults = [])
    (hhigh : s.dev.bus.regs 0x300a = 0x77)
    (hlow : s.dev.bus.regs 0x300b = 0x50) :
    setUp par pf s = (.ok (), ⟨{ newCtrls par s.dev with
      currentMode := initialMode
      preIsp00 := initialized s.dev.bus.regs 0x5e00
      timingFormat1 := initialized s.dev.bus.regs 0x3820
      timingFormat2 := initialized s.dev.bus.regs 0x3821
      pm := (enabledPm s.dev.pm).put
      power := s.dev.power.on
      bus := ⟨initialized s.dev.bus.regs, []⟩ },
        ⟨true, true, true, true⟩⟩) := by
  unfold setUp setDevice hold
  rw [hgranted.ctrls, hgranted.pads, hsubdev]
  refine (Prog.bind_ok (Prog.modify_apply _ _)).trans (Prog.unwinding_ok ?_)
  refine (Prog.bind_ok (onDevice_ok (Prog.modify_apply _ _))).trans ?_
  refine (Prog.bind_ok (Prog.pure_apply () _)).trans ?_
  refine (Prog.bind_ok (onDevice_ok (Prog.modify_apply _ _))).trans ?_
  refine (Prog.bind_ok (Prog.modify_apply _ _)).trans (Prog.unwinding_ok ?_)
  refine (Prog.bind_ok (Prog.pure_apply () _)).trans ?_
  refine (Prog.bind_ok (Prog.modify_apply _ _)).trans (Prog.unwinding_ok ?_)
  exact Prog.bind_ok (powerUp_ok hfaults hhigh hlow)

/-- Where nothing is refused and no transfer fails, a probe leaves the device
that runs of the driver start from. -/
theorem probeDevice_ok {s : Probing} {idx freq : ℕ} {rate : XclkRate}
    (hgranted : Granted pf) (hidx : checkHwcfg pf.endpoint = .ok idx)
    (hfreq : pf.xclk = .ok freq) (hrate : supportedXclkRate freq = .ok rate)
    (hsubdev : pf.subdev = .ok ()) (hfaults : s.dev.bus.faults = [])
    (hhigh : s.dev.bus.regs 0x300a = 0x77)
    (hlow : s.dev.bus.regs 0x300b = 0x50)
    (hpm : s.dev.pm = ⟨false, 0, false⟩)
    (hpower : s.dev.power = ⟨0, 0, 0, 0, false⟩) :
    probeDevice par nearest pf s = (.ok (),
      ⟨probe par nearest ⟨rate, idx, initialized s.dev.bus.regs,
          initialized s.dev.bus.regs 0x5e00, initialized s.dev.bus.regs 0x3820,
          initialized s.dev.bus.regs 0x3821⟩,
        ⟨true, true, true, true⟩⟩) := by
  obtain ⟨⟨_, _, _, _, _, _, _, _, _, _, _, _, _, _, _, pm, power, bus⟩, h⟩ := s
  obtain rfl : pm = _ := hpm
  obtain rfl : power = _ := hpower
  unfold probeDevice
  rw [Prog.bind_ok (acquire_ok par pf hgranted hidx hfreq hrate _),
    Prog.bind_ok (setUp_ok par pf hgranted hsubdev (by exact hfaults)
      (by exact hhigh) (by exact hlow))]
  exact onDevice_ok (initState_returns par nearest _)

end Parameters

end Ov7251
end SurfaceCameras
