import SurfaceCameras.Kernel.Lifetimes
import SurfaceCameras.Ov5693.System

/-!
# Probing the OV5693

`ov5693_probe` with everything it asks for on the way and the labels it unwinds
through when something is refused, and `ov5693_remove`.
-/

namespace SurfaceCameras
namespace Ov5693

open Kernel Device Prog Attached

/-! ## What probe asks for -/

/-- What the firmware node gives for the endpoint of the sensor. -/
inductive Endpoint where
  | missing
  | unparsed (e : Errno)
  | parsed (dataLanes : ℕ) (linkFrequencies : List ℕ)

def linkFreq4192Mhz : ℕ := 419200000

/-- `ov5693_check_hwcfg`. -/
def checkHwcfg : Endpoint → Except Errno Unit
  | .missing => .error .eprobeDefer
  | .unparsed e => .error e
  | .parsed dataLanes freqs =>
      if dataLanes ≠ 2 then
        .error .einval
      else if freqs.length = 0 then
        .error .einval
      else if linkFreq4192Mhz ∉ freqs then
        .error .einval
      else
        .ok ()

/-- What `ov5693_probe` asks the firmware and the kernel for, with the answers
it gets.  The clock comes with its rate, which is only compared for a
warning. -/
structure Platform where
  memory : Bool
  regmap : Except Errno Unit
  endpoint : Endpoint
  xvclk : Except Errno ℕ
  resetGpio : Except Errno Unit
  powerdownGpio : Except Errno Unit
  regulators : Except Errno Unit
  handlerInit : Except Errno Unit
  handlerError : Except Errno Unit
  fwnodeParse : Except Errno Unit
  fwnodeProperties : Except Errno Unit
  pads : Except Errno Unit
  subdev : Except Errno Unit

/-- What a probe sets up besides the device structure. -/
structure Held where
  pmEnabled : Bool
  mutex : Bool
  ctrls : Bool
  entity : Bool
  deriving DecidableEq, Repr

/-- The driver with its sensor, and what has been set up for it. -/
abbrev Probing : Type := Attached System Held

def setDevice (f : Device → Device) : Prog Probing Fault Unit :=
  onDevice (Prog.modify fun s => { s with dev := f s.dev })

def setPower (f : Power → Power) : Prog Probing Fault Unit :=
  setDevice (powerField.update f)

/-! ## The steps of probe -/

/-- `cci_read` of a register of two bytes. -/
def cciRead16 (reg : ℕ) : Prog System Fault ℕ := do
  transfer Machine.busField
  Prog.gets fun s =>
    (s.bus.regs reg).toNat * 256 + (s.bus.regs (reg + 1)).toNat

/-- `ov5693_detect`. -/
def detect : Prog System Fault Unit := do
  let id ← cciRead16 regChipId
  Prog.when (id ≠ chipId) (Prog.raise (.errno .enodev))

section Parameters

variable (pf : Platform)

/-- `ov5693_configure_gpios`. -/
def configureGpios : Prog Probing Fault Unit := do
  answer pf.resetGpio
  setPower fun p => { p with reset := true }
  answer pf.powerdownGpio
  setPower fun p => { p with powerdown := true }

/-- The device structure as `devm_kzalloc` returns it. -/
def zeroed (d : Device) : Device :=
  { blank with
    mode := ⟨⟨0, 0, 0, 0⟩, ⟨0, 0, 0, 0, 0, 0, 0, 0⟩, false, false, 0, 0, 0⟩
    pm := d.pm
    power := d.power }

/-- The steps of `ov5693_probe` whose failure needs no label. -/
def acquire : Prog Probing Fault Unit := do
  Prog.when (pf.memory = false) (Prog.raise (.errno .enomem))
  setDevice zeroed
  answer pf.regmap
  answer (checkHwcfg pf.endpoint)
  hold fun h => { h with mutex := true }
  let _ ← answer pf.xvclk
  configureGpios pf
  answer pf.regulators
  setDevice (modeField.update fun m =>
    { m with crop := defaultCrop, format := defaultFmt })
  let vts ← onDevice (calcVts defaultFmt.height)
  setDevice (modeField.update fun m => { m with vts := vts })

/-- `ov5693_init_controls`, which frees the handler itself. -/
def newControls : Prog Probing Fault Unit := do
  answer pf.handlerInit
  hold fun h => { h with ctrls := true }
  Prog.unwinding (hold fun h => { h with ctrls := false }) (do
    setDevice initControls
    answer pf.handlerError
    answer pf.fwnodeParse
    answer pf.fwnodeProperties)

/-- From chip detection to the registration. -/
def takeOver : Prog Probing Fault Unit := do
  onDevice detect
  setDevice (pmField.update fun p => { p.get with active := true })
  hold fun h => { h with pmEnabled := true }
  Prog.unwinding
    (do
      hold fun h => { h with pmEnabled := false }
      onDevice (pmRuntimePutNoidle pmField.ofDev))
    (answer pf.subdev)

/-- The steps under the labels of `ov5693_probe`; each label undoes what
stands before the steps it is around. -/
def setUp : Prog Probing Fault Unit := do
  newControls pf
  Prog.unwinding (hold fun h => { h with ctrls := false }) (do
    answer pf.pads
    hold fun h => { h with entity := true }
    Prog.unwinding (hold fun h => { h with entity := false }) (do
      onDevice sensorPowerup
      Prog.unwinding (onDevice sensorPowerdown) (takeOver pf)))
  onDevice (pmRuntimePut pmField.ofDev)

/-- `ov5693_probe`. -/
def probeDevice : Prog Probing Fault Unit := do
  acquire pf
  setUp pf

end Parameters

/-- `ov5693_remove`. -/
def remove : Prog Probing Fault Unit := do
  hold fun h => { h with entity := false }
  hold fun h => { h with ctrls := false }
  hold fun h => { h with mutex := false }
  hold fun h => { h with pmEnabled := false }
  let pm ← Prog.gets fun s : Probing => s.dev.dev.pm
  Prog.when (pm.active = true) (onDevice sensorPowerdown)
  setDevice (pmField.update RuntimePm.suspend)

/-! ## A probe in which nothing fails -/

/-- Everything is granted up to the power-up. -/
structure Granted (pf : Platform) : Prop where
  memory : pf.memory = true
  regmap : pf.regmap = .ok ()
  endpoint : checkHwcfg pf.endpoint = .ok ()
  xvclk : ∃ rate, pf.xvclk = .ok rate
  resetGpio : pf.resetGpio = .ok ()
  powerdownGpio : pf.powerdownGpio = .ok ()
  regulators : pf.regulators = .ok ()
  handlerInit : pf.handlerInit = .ok ()
  handlerError : pf.handlerError = .ok ()
  fwnodeParse : pf.fwnodeParse = .ok ()
  fwnodeProperties : pf.fwnodeProperties = .ok ()
  pads : pf.pads = .ok ()

/-- What the steps before the first label have been granted. -/
structure Acquired (pf : Platform) : Prop where
  memory : pf.memory = true
  regmap : pf.regmap = .ok ()
  endpoint : checkHwcfg pf.endpoint = .ok ()
  xvclk : ∃ rate, pf.xvclk = .ok rate
  resetGpio : pf.resetGpio = .ok ()
  powerdownGpio : pf.powerdownGpio = .ok ()
  regulators : pf.regulators = .ok ()

theorem onDevice_ok {α : Type} {q : Prog System Fault α} {s : Probing}
    {a : α} {d : System} (hq : q s.dev = (.ok a, d)) :
    onDevice q s = (.ok a, ⟨d, s.held⟩) := by
  unfold onDevice
  rw [hq]

theorem acquire_ok {pf : Platform} (hacquired : Acquired pf) (s : Probing) :
    acquire pf s = (.ok (),
      ⟨⟨{ blank with
          mode := { blank.mode with vts := 2078 }
          pm := s.dev.dev.pm
          power := { s.dev.dev.power with reset := true, powerdown := true } },
        s.dev.bus⟩, { s.held with mutex := true }⟩) := by
  obtain ⟨rate, hrate⟩ := hacquired.xvclk
  unfold acquire configureGpios
  rw [hacquired.memory]
  simp only [answer, hacquired.regmap, hacquired.endpoint, hrate,
    hacquired.resetGpio, hacquired.powerdownGpio, hacquired.regulators,
    pure_bind]
  rfl

theorem detect_ok {s : System} (hfaults : s.bus.faults = [])
    (hhigh : s.bus.regs regChipId = 0x56) (hlow : s.bus.regs (regChipId + 1) = 0x90) :
    detect s = (.ok (), s) := by
  have hread : cciRead16 regChipId s = (.ok chipId, s) := by
    have hclean : (Machine.busField.get s).faults = [] := hfaults
    unfold cciRead16
    rw [Prog.bind_ok (transfer_ok hclean), Prog.gets_apply, hhigh, hlow]
    rfl
  unfold detect
  rw [Prog.bind_ok hread]
  rfl

/-- The device once its controls are set up and it is powered and resumed. -/
theorem setUp_ok {pf : Platform} (hgranted : Granted pf)
    (hsubdev : pf.subdev = .ok ()) {s : Probing}
    (hfaults : s.dev.bus.faults = []) (hhigh : s.dev.bus.regs regChipId = 0x56)
    (hlow : s.dev.bus.regs (regChipId + 1) = 0x90) :
    setUp pf s = (.ok (),
      ⟨⟨{ initControls s.dev.dev with
          pm := { s.dev.dev.pm.get with active := true }.put
          power := Power.up s.dev.dev.power },
        s.dev.bus⟩, { s.held with pmEnabled := true, ctrls := true, entity := true }⟩) := by
  have hup : ∀ t : System, t.bus.faults = [] → sensorPowerup t =
      (.ok (), powerField.ofDev.update Power.up t) := by
    rintro ⟨dev, ⟨regs, faults⟩⟩ hclean
    obtain rfl : faults = [] := hclean
    rfl
  have hcontrols : newControls pf s = (.ok (),
      ⟨⟨initControls s.dev.dev, s.dev.bus⟩, { s.held with ctrls := true }⟩) := by
    unfold newControls
    rw [hgranted.handlerInit, hgranted.handlerError, hgranted.fwnodeParse,
      hgranted.fwnodeProperties]
    rfl
  have htake : ∀ t : Probing, t.dev.bus = s.dev.bus → takeOver pf t = (.ok (),
      ⟨⟨{ t.dev.dev with pm := { t.dev.dev.pm.get with active := true } },
        t.dev.bus⟩, { t.held with pmEnabled := true }⟩) := by
    intro t ht
    have hdetect := onDevice_ok (s := t) (detect_ok (by rw [ht, hfaults])
      (by rw [ht, hhigh]) (by rw [ht, hlow]))
    unfold takeOver
    rw [Prog.bind_ok hdetect, hsubdev]
    rfl
  have hpower : ∀ t : Probing, t.dev.bus = s.dev.bus →
      (onDevice sensorPowerup >>= fun _ =>
        Prog.unwinding (onDevice sensorPowerdown) (takeOver pf)) t = (.ok (),
        ⟨⟨{ t.dev.dev with
            pm := { t.dev.dev.pm.get with active := true }
            power := Power.up t.dev.dev.power },
          t.dev.bus⟩, { t.held with pmEnabled := true }⟩) := by
    intro t ht
    have hclean : t.dev.bus.faults = [] := by rw [ht, hfaults]
    rw [Prog.bind_ok (onDevice_ok (hup t.dev hclean))]
    exact Prog.unwinding_ok (htake _ ht)
  have hlabels : ∀ t : Probing, t.dev.bus = s.dev.bus →
      (answer pf.pads >>= fun _ => hold (fun h => { h with entity := true }) >>=
        fun _ => Prog.unwinding (hold fun h => { h with entity := false })
          (onDevice sensorPowerup >>= fun _ =>
            Prog.unwinding (onDevice sensorPowerdown) (takeOver pf))) t =
      (.ok (), ⟨⟨{ t.dev.dev with
            pm := { t.dev.dev.pm.get with active := true }
            power := Power.up t.dev.dev.power },
          t.dev.bus⟩, { t.held with pmEnabled := true, entity := true }⟩) := by
    intro t ht
    rw [hgranted.pads]
    exact Prog.unwinding_ok (hpower _ ht)
  unfold setUp
  rw [Prog.bind_ok hcontrols]
  exact Prog.bind_ok (Prog.unwinding_ok (hlabels
    ⟨⟨initControls s.dev.dev, s.dev.bus⟩, { s.held with ctrls := true }⟩ rfl))

/-- Where nothing is refused and no transfer fails, a probe leaves the system
that runs of the driver start from. -/
theorem probeDevice_ok {pf : Platform} (hgranted : Granted pf)
    (hsubdev : pf.subdev = .ok ()) {s : Probing}
    (hfaults : s.dev.bus.faults = []) (hhigh : s.dev.bus.regs regChipId = 0x56)
    (hlow : s.dev.bus.regs (regChipId + 1) = 0x90)
    (hpm : s.dev.dev.pm = ⟨false, 0, false⟩)
    (hclk : s.dev.dev.power.xvclk = 0)
    (hsup : s.dev.dev.power.supplies = fun _ => 0) :
    probeDevice pf s =
      (.ok (), ⟨probe s.dev.bus.regs, ⟨true, true, true, true⟩⟩) := by
  have hacquired : Acquired pf := { hgranted with }
  refine (Prog.bind_ok (acquire_ok hacquired s)).trans ?_
  refine (setUp_ok hgranted hsubdev (by exact hfaults) (by exact hhigh)
    (by exact hlow)).trans ?_
  obtain ⟨⟨⟨_, _, _, _, _, _, _, _, _, _, pm, ⟨_, _, xvclk, supplies⟩⟩,
    ⟨regs, faults⟩⟩, _⟩ := s
  obtain rfl : faults = _ := hfaults
  obtain rfl : pm = _ := hpm
  obtain rfl : xvclk = _ := hclk
  obtain rfl : supplies = _ := hsup
  rfl

end Ov5693
end SurfaceCameras
