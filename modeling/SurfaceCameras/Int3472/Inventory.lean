import SurfaceCameras.Int3472.Tables

/-!
# What a sensor is provided with

The purpose of the driver is to hand the sensor the lines, the supplies, the
clock and the light that the firmware describes.  This is said here of the
firmware alone: which pins it describes, what each of them is for, when the
driver has room for all of them, and what the sensor then has.  The same
inventory is read off the record of the device.
-/

namespace SurfaceCameras
namespace Int3472

/-! ## Pins and what they are for -/

/-- A GPIO resource and what its `_DSM` function makes of it. -/
abbrev Pin : Type := AcpiGpio × PinUse

/-- What a pin is turned into. -/
inductive Role where
  | sensor
  | clock
  | led
  | supply
  deriving DecidableEq, Repr

/-- A pin of a type that the driver does not know has no role. -/
def PinUse.role (H : Header) (use : PinUse) : Option Role :=
  if use.ForSensor then
    some .sensor
  else if use.type = gpioTypeClkEnable then
    some .clock
  else if use.type = gpioTypePrivacyLed then
    some .led
  else if use.type = gpioTypePowerEnable ∨ use.type = gpioTypePower1 ∨
      use.type = H.gpioTypeHandshake then
    some .supply
  else
    none

/-- How many pins of a role the driver has room for. -/
def capacity (H : Header) : Role → ℕ
  | .sensor => H.maxSensorGpios
  | .clock => 1
  | .led => if H.manyLeds then H.maxLeds else 1
  | .supply => H.maxRegulators

def pinsOf (H : Header) (r : Role) (pins : List Pin) : List Pin :=
  pins.filter fun m => m.2.role H = some r

section Pins

variable {H : Header} {pins : List Pin} {m : Pin} {r : Role}

theorem pinsOf_concat (h : m.2.role H = some r) :
    pinsOf H r (pins ++ [m]) = pinsOf H r pins ++ [m] := by
  unfold pinsOf
  rw [List.filter_append, List.filter_cons_of_pos (by simpa using h),
    List.filter_nil]

theorem pinsOf_concat_of_ne (h : m.2.role H ≠ some r) :
    pinsOf H r (pins ++ [m]) = pinsOf H r pins := by
  unfold pinsOf
  rw [List.filter_append, List.filter_cons_of_neg (by simpa using h),
    List.filter_nil, List.append_nil]

end Pins

/-! ## The firmware -/

section Firmware

variable (H : Header) (F : Firmware)

/-- The pins described from the function `n + 2` on; without a function, a
resource and all that come after it stay undescribed. -/
def describedFrom : ℕ → List AcpiGpio → List Pin
  | _, [] => []
  | n, agpio :: rest =>
      match F.gpioDsm (n + 2) with
      | none => []
      | some value => (agpio, pinUse H F value) :: describedFrom (n + 1) rest

/-- The pins the firmware describes, in the order of its resources. -/
def described : List Pin := describedFrom H F 0 F.gpios

/-- The lookup entry of a pin, if its controller is there. -/
def lookupOf (m : Pin) : Option GpiodLookup :=
  match F.acpiDev m.1.path with
  | some (some chip) => some (lookupEntry chip m)
  | _ => none

/-- A second sensor only shares the supply of a power-enable pin. -/
def sharesWith (use : PinUse) : Option String :=
  if use.type = gpioTypePowerEnable then discreteQuirks F else none

/-- The driver can place all these pins. -/
structure Placeable (pins : List Pin) : Prop where
  located : ∀ m ∈ pins, (m.2.role H).isSome → (lookupOf F m).isSome
  room : ∀ r, (pinsOf H r pins).length ≤ capacity H r
  named : ∀ m ∈ pinsOf H .supply pins,
    m.2.conId.utf8ByteSize < H.gpioSupplyNameLength

/-- There is a device, it has discrete logic, and all its pins can be
placed. -/
structure Supported : Prop where
  companion : F.companion ≠ none
  discrete : F.controlLogicType = 1
  placeable : Placeable H F (described H F)

end Firmware

section Placeable

variable {H : Header} {F : Firmware} {pins rest : List Pin} {m : Pin} {r : Role}

theorem Placeable.initial (h : Placeable H F (pins ++ rest)) :
    Placeable H F pins := by
  constructor
  · exact fun m hm => h.located m (List.mem_append_left rest hm)
  · intro r
    have hroom := h.room r
    rw [pinsOf, List.filter_append, List.length_append] at hroom
    exact (Nat.le_add_right _ _).trans hroom
  · intro m hm
    refine h.named m ?_
    rw [pinsOf, List.filter_append]
    exact List.mem_append_left _ hm

/-- One pin more can be placed if its controller is there, if there is room for
its role, and if the name of a supply is short enough. -/
theorem Placeable.concat (h : Placeable H F pins) (hr : m.2.role H = some r)
    (hlocated : (lookupOf F m).isSome)
    (hroom : (pinsOf H r pins).length < capacity H r)
    (hnamed : r = .supply →
      m.2.conId.utf8ByteSize < H.gpioSupplyNameLength) :
    Placeable H F (pins ++ [m]) := by
  constructor
  · intro x hx hrole
    obtain hx | hx := List.mem_append.mp hx
    · exact h.located x hx hrole
    · rw [List.mem_singleton.mp hx]
      exact hlocated
  · intro q
    by_cases hq : m.2.role H = some q
    · obtain rfl : r = q := Option.some.inj (hr.symm.trans hq)
      rw [pinsOf_concat hr, List.length_append, List.length_singleton]
      exact hroom
    · rw [pinsOf_concat_of_ne hq]
      exact h.room q
  · intro x hx
    by_cases hq : m.2.role H = some .supply
    · rw [pinsOf_concat hq] at hx
      obtain hx | hx := List.mem_append.mp hx
      · exact h.named x hx
      · rw [List.mem_singleton.mp hx]
        exact hnamed (Option.some.inj (hr.symm.trans hq))
    · rw [pinsOf_concat_of_ne hq] at hx
      exact h.named x hx

/-- A pin without a role takes no place. -/
theorem Placeable.pass (h : Placeable H F pins) (hr : m.2.role H = none) :
    Placeable H F (pins ++ [m]) := by
  have hne : ∀ q, m.2.role H ≠ some q := by
    intro q hq
    rw [hr] at hq
    cases hq
  constructor
  · intro x hx hrole
    obtain hx | hx := List.mem_append.mp hx
    · exact h.located x hx hrole
    · rw [List.mem_singleton.mp hx, hr] at hrole
      cases hrole
  · intro q
    rw [pinsOf_concat_of_ne (hne q)]
    exact h.room q
  · rw [pinsOf_concat_of_ne (hne .supply)]
    exact h.named

theorem not_placeable_of_unlocated (hr : m.2.role H = some r)
    (h : lookupOf F m = none) : ¬ Placeable H F (pins ++ [m]) := by
  intro hplaceable
  have hlocated := hplaceable.located m (by simp) (by simp [hr])
  rw [h] at hlocated
  cases hlocated

theorem not_placeable_of_full (hr : m.2.role H = some r)
    (h : capacity H r ≤ (pinsOf H r pins).length) :
    ¬ Placeable H F (pins ++ [m]) := by
  intro hplaceable
  have hroom := hplaceable.room r
  rw [pinsOf_concat hr, List.length_append, List.length_singleton] at hroom
  omega

theorem not_placeable_of_long (hr : m.2.role H = some .supply)
    (h : H.gpioSupplyNameLength ≤ m.2.conId.utf8ByteSize) :
    ¬ Placeable H F (pins ++ [m]) := by
  intro hplaceable
  have hnamed := hplaceable.named m (by rw [pinsOf_concat hr]; simp)
  omega

end Placeable

/-! ## Inventories -/

/-- A regulator as its consumers see it. -/
structure Supply where
  supplyMap : List (String × String)
  enableTime : ℕ
  deriving DecidableEq, Repr

/-- What is registered for the sensor: its lines in the order of the lookup
table and who may look them up, its supplies, its lights, and a clock with its
frequency. -/
structure Inventory where
  lines : List GpiodLookup
  consumer : Option String
  supplies : List Supply
  lights : List (String × String)
  clock : Option ℕ
  deriving DecidableEq, Repr

/-- The inventory with what a pin of this role adds to it. -/
def Inventory.add (F : Firmware) (m : Pin) (v : Inventory) :
    Option Role → Inventory
  | some .sensor => { v with lines := v.lines ++ (lookupOf F m).toList }
  | some .clock => { v with clock := some F.mclkSpeed }
  | some .led => { v with lights := v.lights ++ [(F.sensorName, "privacy")] }
  | some .supply => { v with supplies := v.supplies ++
      [⟨supplyMap F m.2.conId (sharesWith F m.2), m.2.enableTime⟩] }
  | none => v

/-- The inventory that stands in the record of a device. -/
def Device.inventory (H : Header) (d : Device) : Inventory where
  lines := (List.range d.nSensorGpios).filterMap d.table
  consumer := d.lookupFor
  supplies := (List.range d.nRegulatorGpios).map fun i =>
    ⟨(d.regulators i).supplyMap, (d.regulators i).enableTime⟩
  lights :=
    if H.manyLeds then
      (List.range d.nLeds).filterMap fun i => (d.leds i).lookup
    else d.pled.lookup.toList
  clock := if d.clock.cl then some d.clock.frequency else none

section Spec

variable (H : Header) (F : Firmware)

/-- What these pins provide before the lookup table is registered. -/
def inventoryOf (pins : List Pin) : Inventory where
  lines := (pinsOf H .sensor pins).filterMap (lookupOf F)
  consumer := none
  supplies := (pinsOf H .supply pins).map fun m =>
    ⟨supplyMap F m.2.conId (sharesWith F m.2), m.2.enableTime⟩
  lights := (pinsOf H .led pins).map fun _ => (F.sensorName, "privacy")
  clock := if pinsOf H .clock pins = [] then none else some F.mclkSpeed

/-- What the sensor is provided with: a clock `_DSM` stands in for a clock
pin. -/
def provision : Inventory :=
  { inventoryOf H F (described H F) with
    consumer := some F.sensorName
    clock :=
      if pinsOf H .clock (described H F) = [] ∧ F.clkDsm = false then none
      else some F.mclkSpeed }

/-- One pin more adds what its role says. -/
theorem inventoryOf_concat (pins : List Pin) (m : Pin) :
    inventoryOf H F (pins ++ [m]) =
      (inventoryOf H F pins).add F m (m.2.role H) := by
  have hne : ∀ {r : Role}, m.2.role H ≠ some r →
      pinsOf H r (pins ++ [m]) = pinsOf H r pins :=
    fun h => pinsOf_concat_of_ne h
  cases hr : m.2.role H with
  | none =>
      rw [hr] at hne
      simp only [inventoryOf, Inventory.add, hne, ne_eq, reduceCtorEq,
        not_false_eq_true]
  | some r =>
      have heq : pinsOf H r (pins ++ [m]) = pinsOf H r pins ++ [m] :=
        pinsOf_concat hr
      rw [hr] at hne
      cases r with
      | sensor =>
          have hline : [m].filterMap (lookupOf F) = (lookupOf F m).toList := by
            rw [List.filterMap_cons]
            cases lookupOf F m <;> rfl
          simp only [inventoryOf, Inventory.add, heq, List.filterMap_append,
            hline, hne, ne_eq, Option.some.injEq, reduceCtorEq,
            not_false_eq_true]
      | clock => simp [inventoryOf, Inventory.add, hne, heq]
      | led => simp [inventoryOf, Inventory.add, hne, heq]
      | supply => simp [inventoryOf, Inventory.add, hne, heq]

end Spec

section Entries

variable (H : Header) (d : Device)

/-- The next line. -/
theorem Device.inventory_line (entry : GpiodLookup) :
    { d with
      table := Function.update d.table d.nSensorGpios (some entry)
      nSensorGpios := d.nSensorGpios + 1 }.inventory H =
      { d.inventory H with lines := (d.inventory H).lines ++ [entry] } := by
  have hold : (List.range d.nSensorGpios).filterMap
      (Function.update d.table d.nSensorGpios (some entry)) =
      (List.range d.nSensorGpios).filterMap d.table := by
    apply List.filterMap_congr
    intro i hi
    exact Function.update_of_ne (List.mem_range.mp hi).ne _ _
  simp only [Device.inventory, List.range_succ, List.filterMap_append, hold,
    List.filterMap_cons, List.filterMap_nil, Function.update_self]

/-- The next supply. -/
theorem Device.inventory_supply (r : GpioRegulator) :
    { d with
      regulators := Function.update d.regulators d.nRegulatorGpios r
      nRegulatorGpios := d.nRegulatorGpios + 1 }.inventory H =
      { d.inventory H with
        supplies := (d.inventory H).supplies ++
          [⟨r.supplyMap, r.enableTime⟩] } := by
  have hold : (List.range d.nRegulatorGpios).map (fun i =>
      (⟨(Function.update d.regulators d.nRegulatorGpios r i).supplyMap,
        (Function.update d.regulators d.nRegulatorGpios r i).enableTime⟩ :
          Supply)) =
      (List.range d.nRegulatorGpios).map fun i =>
        ⟨(d.regulators i).supplyMap, (d.regulators i).enableTime⟩ := by
    apply List.map_congr_left
    intro i hi
    rw [Function.update_of_ne (List.mem_range.mp hi).ne]
  simp only [Device.inventory, List.range_succ, List.map_append, hold,
    List.map_cons, List.map_nil, Function.update_self]

theorem Device.inventory_writeLed (l : Led) :
    { d with leds := Function.update d.leds d.nLeds l }.inventory H =
      d.inventory H := by
  have hold : (List.range d.nLeds).filterMap (fun i =>
      (Function.update d.leds d.nLeds l i).lookup) =
      (List.range d.nLeds).filterMap fun i => (d.leds i).lookup := by
    apply List.filterMap_congr
    intro i hi
    rw [Function.update_of_ne (List.mem_range.mp hi).ne]
  simp only [Device.inventory, hold]

theorem Device.inventory_countLed (hmany : H.manyLeds = true)
    {lookup : String × String} (h : (d.leds d.nLeds).lookup = some lookup) :
    { d with nLeds := d.nLeds + 1 }.inventory H =
      { d.inventory H with lights := (d.inventory H).lights ++ [lookup] } := by
  simp only [Device.inventory, hmany, if_true, List.range_succ,
    List.filterMap_append, List.filterMap_cons, h, List.filterMap_nil]

end Entries

end Int3472
end SurfaceCameras
