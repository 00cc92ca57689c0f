import SurfaceCameras.Int3472.Provision
import SurfaceCameras.Ov7251.Probe
import Mathlib.Data.List.Find

/-!
# From the firmware to a probe of the OV7251

The sensor driver asks for an enable line and a clock by the names of its own
binding, and the INT3472 driver registers them under the names it has for the
sensor.  Put together, what the firmware describes decides whether the sensor
can be probed.
-/

namespace SurfaceCameras

/-! ## What a consumer finds -/

namespace Int3472

/-- `gpiod_get`: the first line of this name in the table of the consumer. -/
def Inventory.findLine (v : Inventory) (dev conId : String) :
    Option GpiodLookup :=
  if v.consumer = some dev then
    v.lines.find? fun entry => entry.conId == conId
  else none

section Consumers

variable {H : Header} {F : Firmware}

theorem role_eq_sensor_iff (use : PinUse) :
    use.role H = some .sensor ↔ use.ForSensor := by
  unfold PinUse.role
  by_cases hsensor : use.ForSensor
  · rw [if_pos hsensor]
    exact iff_of_true rfl hsensor
  · rw [if_neg hsensor]
    refine iff_of_false ?_ hsensor
    split
    · exact fun h => by cases h
    split
    · exact fun h => by cases h
    split
    · exact fun h => by cases h
    · exact fun h => by cases h

theorem lookupOf_conId {m : Pin} {entry : GpiodLookup}
    (h : lookupOf F m = some entry) : entry.conId = m.2.conId := by
  unfold lookupOf at h
  split at h
  · obtain rfl := Option.some.inj h
    rfl
  · cases h

/-- Where no pin is missing, the first entry of a name is that of the first
pin. -/
theorem find_filterMap {pins : List Pin}
    (h : ∀ m ∈ pins, (lookupOf F m).isSome) (conId : String) :
    (pins.filterMap (lookupOf F)).find? (fun entry => entry.conId == conId) =
      (pins.find? fun m => m.2.conId == conId).bind (lookupOf F) := by
  induction pins with
  | nil => rfl
  | cons m pins ih =>
      obtain ⟨entry, hentry⟩ :=
        Option.isSome_iff_exists.mp (h m List.mem_cons_self)
      have hrest := ih fun x hx => h x (List.mem_cons_of_mem m hx)
      have hname := lookupOf_conId hentry
      rw [List.filterMap_cons, hentry, List.find?_cons, List.find?_cons, hname]
      cases m.2.conId == conId with
      | true => exact hentry.symm
      | false => exact hrest

/-- The sensor finds the line of the first pin it may use under that name. -/
theorem provision_findLine (hsupported : Supported H F) (conId : String) :
    (provision H F).findLine F.sensorName conId =
      ((described H F).find? fun m =>
        decide (m.2.ForSensor ∧ m.2.conId = conId)).bind (lookupOf F) := by
  have hlocated : ∀ m ∈ pinsOf H .sensor (described H F),
      (lookupOf F m).isSome := by
    intro m hm
    obtain ⟨hmem, hrole⟩ := List.mem_filter.mp hm
    refine hsupported.placeable.located m hmem ?_
    rw [of_decide_eq_true hrole]
    rfl
  have hconsumer : (provision H F).consumer = some F.sensorName := rfl
  have hlines : (provision H F).lines =
      (pinsOf H .sensor (described H F)).filterMap (lookupOf F) := rfl
  rw [Inventory.findLine, if_pos hconsumer, hlines, find_filterMap hlocated,
    pinsOf, List.find?_filter]
  congr 2
  funext m
  simp only [role_eq_sensor_iff, Bool.decide_and, beq_eq_decide,
    Bool.decide_eq_true]

/-- A line that is the first reset pin is found exactly if the firmware
describes a reset pin. -/
theorem resetLine_isSome_iff (hsupported : Supported H F) {conId : String}
    (hline : (provision H F).findLine F.sensorName conId =
      ((described H F).find? fun m => m.2.type = gpioTypeReset).bind
        (lookupOf F)) :
    ((provision H F).findLine F.sensorName conId).isSome ↔
      ∃ m ∈ described H F, m.2.type = gpioTypeReset := by
  have hlocated : ∀ m ∈ described H F, m.2.type = gpioTypeReset →
      (lookupOf F m).isSome := by
    intro m hm hreset
    refine hsupported.placeable.located m hm ?_
    rw [(role_eq_sensor_iff m.2).mpr (Or.inl hreset)]
    rfl
  rw [hline]
  cases hfind : (described H F).find? fun m =>
      decide (m.2.type = gpioTypeReset) with
  | none =>
      refine iff_of_false (fun h => by cases h) ?_
      rintro ⟨m, hm, hreset⟩
      exact List.find?_eq_none.mp hfind m hm (decide_eq_true hreset)
  | some m =>
      have hm := List.mem_of_find?_eq_some hfind
      have hpin := List.find?_some hfind
      have hreset : m.2.type = gpioTypeReset := of_decide_eq_true hpin
      exact iff_of_true (hlocated m hm hreset) ⟨m, hm, hreset⟩

/-- A described pin is what its `_DSM` function says. -/
theorem described_pinUse {m : Pin} (hm : m ∈ described H F) :
    ∃ value, m.2 = pinUse H F value := by
  have hfrom : ∀ (agpios : List AcpiGpio) (n : ℕ),
      m ∈ describedFrom H F n agpios → ∃ value, m.2 = pinUse H F value := by
    intro agpios
    induction agpios with
    | nil => exact fun n h => absurd h List.not_mem_nil
    | cons agpio rest ih =>
        intro n h
        unfold describedFrom at h
        split at h
        · exact absurd h List.not_mem_nil
        · next value _ =>
            obtain rfl | h := List.mem_cons.mp h
            · exact ⟨value, rfl⟩
            · exact ih (n + 1) h
  exact hfrom F.gpios 0 hm

theorem pinUse_eq (value : BitVec 64) :
    ∃ activeLow, pinUse H F value =
      { getConIdAndPolarity H F (dsmType value) with
        activeLow := activeLow } := by
  unfold pinUse
  split
  · exact ⟨_, rfl⟩
  · exact ⟨_, rfl⟩

/-- What the map of the driver holds for an OV7251. -/
theorem gpioMap_ov7251 (hhid : F.sensorHid = "INT347E") (type : BitVec 8) :
    (int3472GpioMap H).find?
        (fun m => type == m.typeFrom && F.sensorHid == m.hid) =
      if type = gpioTypeReset then
        some { hid := "INT347E"
               typeFrom := gpioTypeReset
               typeTo := gpioTypeReset
               conId := "enable" }
      else if type = gpioTypePowerEnable then
        some { hid := "INT347E"
               typeFrom := gpioTypePowerEnable
               typeTo := gpioTypePowerEnable
               conId := "vdda"
               enableTimeUs := H.gpioRegulatorEnableTime }
      else none := by
  have hmt : ("INT347E" == "INT33F0") = false := rfl
  have hself : ("INT347E" == "INT347E") = true := rfl
  have hov : ("INT347E" == "OVTI08F4") = false := rfl
  unfold int3472GpioMap
  simp only [List.find?_cons, List.find?_nil, hhid, hmt, hself, hov,
    Bool.and_false, Bool.and_true]
  by_cases hreset : type = gpioTypeReset
  · rw [if_pos hreset, beq_iff_eq.mpr hreset]
  rw [if_neg hreset, beq_eq_false_iff_ne.mpr hreset]
  by_cases hpower : type = gpioTypePowerEnable
  · rw [if_pos hpower, beq_iff_eq.mpr hpower]
  · rw [if_neg hpower, beq_eq_false_iff_ne.mpr hpower]

/-- On an OV7251 the enable line is a reset pin of the firmware, and no other
pin is. -/
theorem enable_iff (hhid : F.sensorHid = "INT347E") (value : BitVec 64) :
    (pinUse H F value).ForSensor ∧ (pinUse H F value).conId = "enable" ↔
      (pinUse H F value).type = gpioTypeReset := by
  obtain ⟨activeLow, huse⟩ := pinUse_eq (H := H) (F := F) value
  rw [huse]
  unfold getConIdAndPolarity
  rw [gpioMap_ov7251 hhid]
  generalize dsmType value = type
  by_cases hreset : type = gpioTypeReset
  · rw [if_pos hreset]
    exact iff_of_true ⟨Or.inl rfl, rfl⟩ rfl
  rw [if_neg hreset]
  by_cases hpower : type = gpioTypePowerEnable
  · have hname : ("vdda" : String) ≠ "enable" := by decide
    have htype : gpioTypePowerEnable ≠ gpioTypeReset := by decide
    rw [if_pos hpower]
    exact iff_of_false (fun h => hname h.2) htype
  -- None of the names the driver has for other pins is this one, and the name
  -- that can be set at load time is for a supply.
  rw [if_neg hpower]
  dsimp only
  rw [if_neg hreset]
  by_cases hpowerdown : type = gpioTypePowerdown
  · have hname : ("powerdown" : String) ≠ "enable" := by decide
    rw [if_pos hpowerdown]
    exact iff_of_false (fun h => hname h.2) hreset
  rw [if_neg hpowerdown]
  by_cases hclk : type = gpioTypeClkEnable
  · have hname : ("clk-enable" : String) ≠ "enable" := by decide
    rw [if_pos hclk]
    exact iff_of_false (fun h => hname h.2) hreset
  rw [if_neg hclk]
  by_cases hled : type = gpioTypePrivacyLed
  · have hname : ("privacy-led" : String) ≠ "enable" := by decide
    rw [if_pos hled]
    exact iff_of_false (fun h => hname h.2) hreset
  rw [if_neg hled]
  by_cases hhotplug : type = gpioTypeHotplugDetect
  · have hname : ("hpd" : String) ≠ "enable" := by decide
    rw [if_pos hhotplug]
    exact iff_of_false (fun h => hname h.2) hreset
  rw [if_neg hhotplug, if_neg hpower]
  have hsensor : ∀ use : PinUse, use.type = type → ¬ use.ForSensor := by
    rintro use rfl (h | h | h)
    · exact hreset h
    · exact hpowerdown h
    · exact hhotplug h
  split
  · exact iff_of_false (fun h => hsensor _ rfl h.1) hreset
  split
  · exact iff_of_false (fun h => hsensor _ rfl h.1) hreset
  · exact iff_of_false (fun h => hsensor _ rfl h.1) hreset

end Consumers

end Int3472

/-! ## The whole probe of the sensor -/

namespace Ov7251

open Kernel Prog Attached Int3472

section Parameters

variable (par : Params) (nearest : ℕ → ℕ → Fin 3)

/-- A probe that succeeds has been granted everything, and the sensor has
answered. -/
theorem probe_granted (pf : Platform) {p : Power} (hline : p.enableGpio = false)
    {pm : RuntimePm} {r : ℕ → BitVec 8} {os : List Bool} :
    Triple (During (Spent p pm r os 0) Held.nothing)
      (probeDevice par nearest pf)
      (fun _ _ => (Granted pf ∧ Answers os r) ∧ pf.subdev = .ok ())
      (fun _ _ => True) := by
  apply Triple.bind (Q := fun _ s =>
    During (Spent p pm r os 0) Held.nothing s ∧ Acquired pf)
  · exact (acquire_during par pf hline).consequence (fun _ hs => hs)
      (fun _ _ hs => hs) fun _ _ _ => trivial
  intro _
  apply Triple.of_fact
  rintro ⟨hmemory, hendpoint, hxclk, hio, hcore, hanalog, hgpio⟩
  apply Triple.bind (Q := fun _ _ =>
    (Granted pf ∧ Answers os r) ∧ pf.subdev = .ok ())
  · apply Triple.bind hold_during
    intro _
    apply Triple.unwinding_returns
    apply Triple.bind (Q := fun _ =>
      During (Spent p pm r os 0) { Held.nothing with mutex := true })
    · exact prepare_during fun _ => ⟨rfl, rfl, rfl⟩
    intro _
    apply answer_bind ?_ fun _ _ _ _ => trivial
    intro _ hctrls
    apply Triple.bind (Q := fun _ =>
      During (Spent p pm r os 0) { Held.nothing with mutex := true })
    · exact prepare_during fun _ => ⟨rfl, rfl, rfl⟩
    intro _
    apply Triple.bind hold_during
    intro _
    apply Triple.unwinding_returns
    apply answer_bind ?_ fun _ _ _ _ => trivial
    intro _ hpads
    apply Triple.bind hold_during
    intro _
    apply Triple.unwinding_returns
    apply Triple.bind ((powerUp_during hline rfl).consequence (fun _ hs => hs)
      (fun _ _ hs => hs) fun _ _ _ => trivial)
    rintro _ s ⟨-, hanswers⟩
    cases hsubdev : pf.subdev with
    | ok u => exact ⟨⟨⟨hmemory, hendpoint, hxclk, hio, hcore, hanalog, hgpio,
        hctrls, hpads⟩, hanswers⟩, rfl⟩
    | error e => trivial
  · intro _ s hs
    unfold onDevice
    rw [initState_returns]
    exact hs

/-- A probe of an unbound device succeeds exactly if it reaches its
registration and this is granted. -/
theorem probe_ok_iff (pf : Platform) {s : Probing} (hs : Unbound s) :
    (probeDevice par nearest pf s).1 = .ok () ↔
      ReachesRegistration pf s ∧ pf.subdev = .ok () := by
  have hgranted := probe_granted par nearest pf hs.line s hs.during
  have hleft := probe_left par nearest pf hs.line s hs.during
  rcases hrun : probeDevice par nearest pf s with ⟨e | ⟨⟩, t⟩
  · rw [hrun] at hleft
    refine iff_of_false (fun h => by cases h) ?_
    rintro ⟨hreaches, hsubdev⟩
    obtain ⟨⟨-, -, hsilent⟩, -⟩ | ⟨-, -, e, he⟩ := hleft
    · exact hsilent hreaches
    · rw [hsubdev] at he
      cases he
  · rw [hrun] at hgranted
    exact iff_of_true rfl hgranted

/-- The platform is what the kernel makes of this inventory: the line and the
clock are found if they are registered for the sensor, and a supply that nobody
has registered is replaced by a dummy. -/
structure Wired (v : Inventory) (dev : String) (pf : Platform) : Prop where
  line : pf.enableGpio = .ok () ↔ (v.findLine dev "enable").isSome
  clock : ∀ rate ∈ v.clock, pf.xclk = .ok rate
  ioRegulator : pf.ioRegulator = .ok ()
  coreRegulator : pf.coreRegulator = .ok ()
  analogRegulator : pf.analogRegulator = .ok ()

/-- What does not depend on the INT3472 driver is granted. -/
structure Offered (pf : Platform) : Prop where
  memory : pf.memory = true
  endpoint : ∃ idx, checkHwcfg pf.endpoint = .ok idx
  ctrls : pf.ctrls = .ok ()
  pads : pf.pads = .ok ()
  subdev : pf.subdev = .ok ()

theorem supportedXclkRate_ok_iff (freq : ℕ) :
    (∃ rate, supportedXclkRate freq = .ok rate) ↔
      freq = 19200000 ∨ freq = 24000000 := by
  unfold supportedXclkRate
  by_cases hslow : freq = 19200000
  · rw [if_pos hslow]
    exact iff_of_true ⟨_, rfl⟩ (Or.inl hslow)
  rw [if_neg hslow]
  by_cases hfast : freq = 24000000
  · rw [if_pos hfast]
    exact iff_of_true ⟨_, rfl⟩ (Or.inr hfast)
  · rw [if_neg hfast]
    refine iff_of_false ?_ fun h => h.elim hslow hfast
    rintro ⟨rate, h⟩
    cases h

/-- After a probe of the INT3472 device of an OV7251 with a clock, the enable
line of the sensor is the first reset pin of the firmware, and the sensor can be
probed exactly if there is one, its clock has a rate that the sensor driver
knows, everything from elsewhere is granted, and the sensor answers. -/
theorem probe_described_iff {H : Header} {F : Firmware}
    {outcomes : List (Option Int3472.Errno)} {w : World}
    (hprobe : Int3472.probe H F (World.initial outcomes) = (.ok (), w))
    (hhid : F.sensorHid = "INT347E")
    (hclock : pinsOf H .clock (described H F) ≠ [] ∨ F.clkDsm = true)
    {pf : Platform} (hwired : Wired (w.dev.inventory H) F.sensorName pf)
    {s : Probing} (hs : Unbound s) :
    (w.dev.inventory H).findLine F.sensorName "enable" =
        ((described H F).find? fun m => m.2.type = gpioTypeReset).bind
          (lookupOf F) ∧
      ((probeDevice par nearest pf s).1 = .ok () ↔
        (∃ m ∈ described H F, m.2.type = gpioTypeReset) ∧
          (F.mclkSpeed = 19200000 ∨ F.mclkSpeed = 24000000) ∧
            Offered pf ∧ Answers s.dev.bus.faults s.dev.bus.regs) := by
  have hinitial : Smoothly (fun _ => True) (World.initial outcomes) :=
    ⟨trivial, fun c hc => absurd hc List.not_mem_nil⟩
  have hprovides := probe_supported (H := H) (F := F) _ hinitial
  rw [hprobe] at hprovides
  obtain ⟨⟨hsupported, hinventory⟩, -⟩ := hprovides
  rw [hinventory] at hwired ⊢
  have hline : (provision H F).findLine F.sensorName "enable" =
      ((described H F).find? fun m => m.2.type = gpioTypeReset).bind
        (lookupOf F) := by
    rw [provision_findLine hsupported]
    congr 1
    apply List.find?_congr
    intro m hm
    obtain ⟨value, hvalue⟩ := described_pinUse hm
    rw [hvalue]
    exact decide_eq_decide.mpr (enable_iff hhid value)
  refine ⟨hline, ?_⟩
  have hfound := hwired.line.trans (resetLine_isSome_iff hsupported hline)
  have hclocked : (provision H F).clock = some F.mclkSpeed := by
    refine if_neg ?_
    rintro ⟨hnil, hdsm⟩
    obtain hpin | hclk := hclock
    · exact hpin hnil
    · rw [hclk] at hdsm
      cases hdsm
  have hxclk : pf.xclk = .ok F.mclkSpeed := hwired.clock _ hclocked
  rw [probe_ok_iff par nearest pf hs]
  constructor
  · rintro ⟨⟨hgranted, hanswers⟩, hsubdev⟩
    refine ⟨hfound.mp hgranted.enableGpio, ?_, ⟨hgranted.memory,
      hgranted.endpoint, hgranted.ctrls, hgranted.pads, hsubdev⟩, hanswers⟩
    obtain ⟨freq, rate, hfreq, hrate⟩ := hgranted.xclk
    rw [hxclk] at hfreq
    obtain rfl := Except.ok.inj hfreq
    exact (supportedXclkRate_ok_iff _).mp ⟨rate, hrate⟩
  · rintro ⟨hreset, hfreq, hoffered, hanswers⟩
    obtain ⟨rate, hrate⟩ := (supportedXclkRate_ok_iff _).mpr hfreq
    exact ⟨⟨⟨hoffered.memory, hoffered.endpoint, ⟨_, rate, hxclk, hrate⟩,
      hwired.ioRegulator, hwired.coreRegulator, hwired.analogRegulator,
      hfound.mpr hreset, hoffered.ctrls, hoffered.pads⟩, hanswers⟩,
      hoffered.subdev⟩

end Parameters

/-- An OV7251 with a reset and a power-enable pin. -/
def infraredCamera : Firmware :=
  { onePowerPin with
    resources := [.gpioIo ⟨"GPI0", 0x6c⟩, .gpioIo ⟨"GPI0", 0x6e⟩]
    gpioDsm := fun n =>
      if n = 2 then some 0x01006c00
      else if n = 3 then some 0x01006e0b else none }

/-- What the kernel makes of its inventory. -/
def infraredPlatform : Platform :=
  { plainPlatform (.ok ()) with xclk := .ok 19200000 }

theorem probe_described_infrared :
    let w := (Int3472.probe kernelHeader infraredCamera (World.initial [])).2
    (w.dev.inventory kernelHeader).findLine infraredCamera.sensorName
          "enable" =
        ((described kernelHeader infraredCamera).find? fun m =>
          m.2.type = gpioTypeReset).bind (lookupOf infraredCamera) ∧
      ((probeDevice ⟨0, 0⟩ (fun _ _ => 0) infraredPlatform
          plainDevice).1 = .ok () ↔
        (∃ m ∈ described kernelHeader infraredCamera,
            m.2.type = gpioTypeReset) ∧
          (infraredCamera.mclkSpeed = 19200000 ∨
            infraredCamera.mclkSpeed = 24000000) ∧
            Offered infraredPlatform ∧
              Answers plainDevice.dev.bus.faults plainDevice.dev.bus.regs) :=
  probe_described_iff ⟨0, 0⟩ (fun _ _ => 0) (eq_ok rfl) rfl (Or.inr rfl)
    ⟨iff_of_true rfl (by decide +kernel),
      fun rate hrate => by
        obtain rfl : (19200000 : ℕ) = rate := Option.some.inj hrate
        rfl, rfl, rfl, rfl⟩ ⟨rfl, rfl, rfl⟩

example : (probeDevice ⟨0, 0⟩ (fun _ _ => 0) infraredPlatform
    plainDevice).1.isOk = true := by
  decide +kernel

end Ov7251

end SurfaceCameras
