import SurfaceCameras.Int3472.Pairing

/-!
# The lookup table and the regulators

The driver fills two tables from the front and counts their entries.  A counter
only moves after the last step that can fail, so that what stands beyond it is
never taken for an entry.
-/

namespace SurfaceCameras
namespace Int3472

open Prog

/-- The entry that maps a pin of the controller `chip` to the sensor. -/
def lookupEntry (chip : String) (m : AcpiGpio × PinUse) : GpiodLookup :=
  ⟨chip, m.1.pin, m.2.conId, m.2.activeLow⟩

/-- The mapped resources are pins of the sensor as the `_DSM` describes them,
in the order of the resources. -/
structure Mapping (H : Header) (F : Firmware)
    (mapped : List (AcpiGpio × PinUse)) : Prop where
  forSensor : ∀ m ∈ mapped, m.2.ForSensor
  described : ∀ m ∈ mapped, ∃ n value,
    F.gpioDsm n = some value ∧ m.2 = pinUse H F value
  ordered : (mapped.map Prod.fst).Sublist F.gpios

/-- The lookup table holds the mapped resources, one after the other, and ends
there; the regulators registered so far stand in the first slots, and no other
slot holds one. -/
structure Point.WellFormed (H : Header) (F : Firmware) (p : Point) : Prop where
  mapping : Mapping H F p.mapped
  sensorCount : p.dev.nSensorGpios = p.mapped.length
  sensorBound : p.dev.nSensorGpios ≤ H.maxSensorGpios
  filled : ∀ i, ∀ m ∈ p.mapped[i]?, ∃ chip,
    F.acpiDev m.1.path = some (some chip) ∧
      p.dev.table i = some (lookupEntry chip m)
  terminated : ∀ i, p.dev.nSensorGpios ≤ i → p.dev.table i = none
  regulatorCount : p.dev.nRegulatorGpios = p.registered.length
  regulatorBound : p.dev.nRegulatorGpios ≤ H.maxRegulators
  holding : ∀ i, ∀ d ∈ p.registered[i]?, (p.dev.regulators i).rdev = .obj d
  vacant : ∀ i, p.dev.nRegulatorGpios ≤ i →
    ∀ d, (p.dev.regulators i).rdev ≠ .obj d

/-- The tables of `w`, where `mapped` has been mapped. -/
def pointOf (w : World) (mapped : List (AcpiGpio × PinUse)) : Point :=
  ⟨w.dev, mapped, registeredOf w.calls⟩

/-- The tables stay. -/
def tables : Frame World := Frame.fixing fun w =>
  (w.dev.table, w.dev.nSensorGpios, w.dev.regulators, w.dev.nRegulatorGpios,
    registeredOf w.calls)

theorem registeredOf_neutral {c : KernelCall} (hc : c.Neutral)
    (o : Option Errno) (calls : List (KernelCall × Option Errno)) :
    registeredOf ((c, o) :: calls) = registeredOf calls := by
  cases c with
  | regulatorRegister d => exact hc.elim
  | _ => rfl

theorem registeredOf_registered (d : Desc)
    (calls : List (KernelCall × Option Errno)) :
    registeredOf ((.regulatorRegister d, none) :: calls) =
      registeredOf calls ++ [d] :=
  List.reverse_cons

theorem tables_equips : Equips tables where
  call w c o hc := by
    change (_, _, _, _, registeredOf ((c, o) :: w.calls)) = _
    rw [registeredOf_neutral hc]
  got _ := rfl
  put _ _ := rfl
  clock _ _ := rfl
  pled _ _ := rfl
  leds _ _ _ := rfl

section Points

variable {H : Header} {F : Firmware} {w w' : World}
  {mapped : List (AcpiGpio × PinUse)}

/-- What leaves the tables alone leaves them well formed. -/
theorem Point.WellFormed.of_tables (h : (pointOf w mapped).WellFormed H F)
    (hw : tables.Rel w w') : (pointOf w' mapped).WellFormed H F := by
  simp only [tables, Frame.fixing, Prod.mk.injEq] at hw
  obtain ⟨htable, hsensors, hregulators, hcount, hregistered⟩ := hw
  constructor
  · exact h.mapping
  · exact hsensors.trans h.sensorCount
  · exact hsensors.le.trans h.sensorBound
  · intro i m hm
    obtain ⟨chip, hchip, hentry⟩ := h.filled i m hm
    exact ⟨chip, hchip, (congrFun htable i).trans hentry⟩
  · intro i hi
    exact (congrFun htable i).trans (h.terminated i (hsensors ▸ hi))
  · exact hcount.trans (h.regulatorCount.trans
      (congrArg List.length hregistered.symm))
  · exact hcount.le.trans h.regulatorBound
  · intro i d hd
    change d ∈ (registeredOf w'.calls)[i]? at hd
    rw [hregistered] at hd
    change (w'.dev.regulators i).rdev = _
    rw [hregulators]
    exact h.holding i d hd
  · intro i hi d
    change (w'.dev.regulators i).rdev ≠ _
    rw [hregulators]
    exact h.vacant i (hcount ▸ hi) d

/-- The next entry of the lookup table. -/
theorem Point.WellFormed.mapSensor (h : (pointOf w mapped).WellFormed H F)
    {m : AcpiGpio × PinUse} {chip : String}
    (hbound : w.dev.nSensorGpios < H.maxSensorGpios)
    (hchip : F.acpiDev m.1.path = some (some chip))
    (hmapping : Mapping H F (mapped ++ [m])) :
    (pointOf { w with dev := { w.dev with
        table := Function.update w.dev.table w.dev.nSensorGpios
          (some (lookupEntry chip m))
        nSensorGpios := w.dev.nSensorGpios + 1 } }
      (mapped ++ [m])).WellFormed H F := by
  have hcount : w.dev.nSensorGpios = mapped.length := h.sensorCount
  refine { h with mapping := hmapping, sensorCount := ?_, sensorBound := hbound,
                  filled := ?_, terminated := ?_ }
  · change w.dev.nSensorGpios + 1 = (mapped ++ [m]).length
    rw [hcount, List.length_append, List.length_singleton]
  · intro i x hx
    change x ∈ (mapped ++ [m])[i]? at hx
    change ∃ chip', _ ∧ Function.update w.dev.table _ _ i = _
    rcases Nat.lt_or_ge i mapped.length with hlt | hge
    · rw [List.getElem?_append_left hlt] at hx
      rw [Function.update_of_ne (by omega)]
      exact h.filled i x hx
    · rw [List.getElem?_append_right hge] at hx
      have hlen := (List.getElem?_eq_some_iff.mp hx).1
      rw [List.length_singleton] at hlen
      obtain rfl : i = w.dev.nSensorGpios := by omega
      rw [Function.update_self]
      rw [hcount, Nat.sub_self] at hx
      obtain rfl : m = x := Option.some.inj hx
      exact ⟨chip, hchip, rfl⟩
  · intro i hi
    have hi : w.dev.nSensorGpios + 1 ≤ i := hi
    change Function.update w.dev.table _ _ i = _
    rw [Function.update_of_ne (by omega)]
    exact h.terminated i (by exact Nat.le_of_succ_le hi)

/-- The next regulator. -/
theorem Point.WellFormed.register (h : (pointOf w mapped).WellFormed H F)
    {gpio : Desc} {r : GpioRegulator} (hr : r.rdev = .obj gpio)
    (hbound : w.dev.nRegulatorGpios < H.maxRegulators) :
    (pointOf { w with
        outcomes := w.outcomes.tail
        calls := (.regulatorRegister gpio, none) :: w.calls
        dev := { w.dev with
          regulators :=
            Function.update w.dev.regulators w.dev.nRegulatorGpios r
          nRegulatorGpios := w.dev.nRegulatorGpios + 1 } }
      mapped).WellFormed H F := by
  have hcount : w.dev.nRegulatorGpios = (registeredOf w.calls).length :=
    h.regulatorCount
  refine { h with regulatorCount := ?_, regulatorBound := hbound,
                  holding := ?_, vacant := ?_ }
  · change w.dev.nRegulatorGpios + 1 = (registeredOf (_ :: w.calls)).length
    rw [registeredOf_registered, hcount, List.length_append,
      List.length_singleton]
  · intro i d hd
    change d ∈ (registeredOf (_ :: w.calls))[i]? at hd
    rw [registeredOf_registered] at hd
    change (Function.update w.dev.regulators _ r i).rdev = _
    rcases Nat.lt_or_ge i (registeredOf w.calls).length with hlt | hge
    · rw [List.getElem?_append_left hlt] at hd
      rw [Function.update_of_ne (by omega)]
      exact h.holding i d hd
    · rw [List.getElem?_append_right hge] at hd
      have hlen := (List.getElem?_eq_some_iff.mp hd).1
      rw [List.length_singleton] at hlen
      obtain rfl : i = w.dev.nRegulatorGpios := by omega
      rw [Function.update_self, hr]
      rw [hcount, Nat.sub_self] at hd
      exact congrArg Ptr.obj (Option.some.inj hd)
  · intro i hi d
    have hi : w.dev.nRegulatorGpios + 1 ≤ i := hi
    change (Function.update w.dev.regulators _ r i).rdev ≠ _
    rw [Function.update_of_ne (by omega)]
    exact h.vacant i (Nat.le_of_succ_le hi) d

/-- A registration that fails leaves its error in a slot that does not
count. -/
theorem Point.WellFormed.fail (h : (pointOf w mapped).WellFormed H F)
    {gpio : Desc} {r : GpioRegulator} {e : Errno} (hr : r.rdev = .err e)
    (puts : List Desc) :
    (pointOf { w with
        outcomes := w.outcomes.tail
        calls := (.regulatorRegister gpio, some e) :: w.calls
        puts := puts
        dev := { w.dev with
          regulators :=
            Function.update w.dev.regulators w.dev.nRegulatorGpios r } }
      mapped).WellFormed H F := by
  have hcount : w.dev.nRegulatorGpios = (registeredOf w.calls).length :=
    h.regulatorCount
  refine { h with holding := ?_, vacant := ?_ }
  · intro i d hd
    have hlen := (List.getElem?_eq_some_iff.mp hd).1
    have hlen : i < (registeredOf w.calls).length := hlen
    change (Function.update w.dev.regulators _ r i).rdev = _
    rw [Function.update_of_ne (by omega)]
    exact h.holding i d hd
  · intro i hi d
    change (Function.update w.dev.regulators _ r i).rdev ≠ _
    rcases Nat.eq_or_lt_of_le hi with heq | hlt
    · have heq : w.dev.nRegulatorGpios = i := heq
      rw [← heq, Function.update_self, hr]
      exact fun h => by cases h
    · have hlt : w.dev.nRegulatorGpios < i := hlt
      rw [Function.update_of_ne (by omega)]
      exact h.vacant i hi d

end Points

/-! ## What the operations do to the tables -/

section Operations

variable {H : Header} {F : Firmware} {mapped : List (AcpiGpio × PinUse)}

/-- The tables are well formed. -/
def InOrder (H : Header) (F : Firmware) (mapped : List (AcpiGpio × PinUse))
    (w : World) : Prop :=
  (pointOf w mapped).WellFormed H F

theorem inOrder_of_framed {α : Type} {p : Kernel α} (hp : Framed tables p) :
    Triple (InOrder H F mapped) p (fun _ => InOrder H F mapped)
      (fun _ => InOrder H F mapped) :=
  (hp.triple fun _ _ hst h => h.of_tables hst).consequence (fun _ h => h)
    (fun _ _ h => h) fun _ _ h => h.1

theorem registerRegulator_inOrder (gpio : Desc) (enableTime : ℕ)
    (supplyName : String) (secondSensor : Option String) :
    Triple (InOrder H F mapped)
      (registerRegulator H F gpio enableTime supplyName secondSensor)
      (fun _ => InOrder H F mapped) (fun _ => InOrder H F mapped) := by
  apply Triple.gets_bind
  intro n
  apply Triple.bind (Q := fun _ w => (InOrder H F mapped w ∧
    w.dev.nRegulatorGpios = n) ∧ n < H.maxRegulators)
  · apply Triple.when
    · exact fun _ => Triple.raise fun w hw => hw.1
    · exact fun hn w hw => ⟨hw, not_le.mp hn⟩
  intro _
  apply Triple.bind (Q := fun _ w => (InOrder H F mapped w ∧
    w.dev.nRegulatorGpios = n) ∧ n < H.maxRegulators)
  · apply Triple.when
    · exact fun _ => Triple.raise fun w hw => hw.1.1
    · exact fun _ w hw => hw
  intro _
  rintro w ⟨⟨hw, rfl⟩, hbound⟩
  cases hout : w.outcomes.headD none with
  | none =>
      simp only [regulatorRegister, bind_apply, call, hout, pure_apply,
        setRegulator, setDev, modify_apply]
      exact hw.register rfl hbound
  | some e =>
      simp only [regulatorRegister, bind_apply, call, hout, gpiodPut,
        modify_apply, pure_apply, setRegulator, setDev, raise_apply]
      exact hw.fail rfl _

theorem registerGpio_inOrder (use : PinUse) (gpio : Desc) :
    Triple (InOrder H F mapped) (registerGpio H F use gpio)
      (fun _ => InOrder H F mapped) (fun _ => InOrder H F mapped) := by
  have hregulator : ∀ secondSensor, Triple (InOrder H F mapped)
      (registerRegulator H F gpio use.enableTime use.conId secondSensor)
      (fun _ => InOrder H F mapped) (fun _ => InOrder H F mapped) :=
    registerRegulator_inOrder gpio use.enableTime use.conId
  apply Triple.ite
  · exact fun _ => inOrder_of_framed
      (registerGpioClock_framed tables_equips F gpio)
  intro _
  apply Triple.ite
  · intro _
    apply Triple.ite
    · exact fun _ => inOrder_of_framed
        (registerLed_framed tables_equips H F gpio "privacy")
    · exact fun _ => inOrder_of_framed
        (registerPled_framed tables_equips F gpio)
  intro _
  apply Triple.ite
  · intro _
    apply Triple.gets_bind
    exact fun secondSensor =>
      (hregulator secondSensor).strengthenPre fun _ h => h.1
  · exact fun _ => hregulator none

theorem mapGpioToSensor_inOrder (m : AcpiGpio × PinUse)
    (hmapping : Mapping H F (mapped ++ [m])) :
    Triple (InOrder H F mapped)
      (mapGpioToSensor H F m.1 m.2.conId m.2.activeLow)
      (fun _ => InOrder H F (mapped ++ [m]))
      (fun _ => InOrder H F mapped) := by
  apply Triple.gets_bind
  intro n
  apply Triple.bind (Q := fun _ w => (InOrder H F mapped w ∧
    w.dev.nSensorGpios = n) ∧ n < H.maxSensorGpios)
  · apply Triple.when
    · exact fun _ => Triple.raise fun w hw => hw.1
    · exact fun hn w hw => ⟨hw, not_le.mp hn⟩
  intro _
  cases hdev : F.acpiDev m.1.path with
  | none =>
      simp only [fillGpiodLookup, hdev]
      exact Triple.bind (Triple.raise fun w hw => hw.1.1)
        fun _ => Triple.modify (P := fun _ => False) fun _ h => h.elim
  | some adev =>
      cases adev with
      | none =>
          simp only [fillGpiodLookup, hdev]
          exact Triple.bind (Triple.raise fun w hw => hw.1.1)
            fun _ => Triple.modify (P := fun _ => False) fun _ h => h.elim
      | some chip =>
          simp only [fillGpiodLookup, hdev]
          rintro w ⟨⟨hw, rfl⟩, hbound⟩
          exact hw.mapSensor hbound hdev hmapping

/-- The switch over the types: the resource is mapped, or the table stays. -/
theorem mapGpio_inOrder (m : AcpiGpio × PinUse)
    (hmapping : m.2.ForSensor → Mapping H F (mapped ++ [m])) :
    Triple (InOrder H F mapped) (mapGpio H F m.1 m.2)
      (fun _ => InOrder H F (if m.2.ForSensor then mapped ++ [m] else mapped))
      (fun _ => InOrder H F mapped) := by
  apply Triple.ite
  · intro (hsensor : m.2.ForSensor)
    rw [if_pos hsensor]
    exact mapGpioToSensor_inOrder m (hmapping hsensor)
  · intro (hsensor : ¬ m.2.ForSensor)
    rw [if_neg hsensor]
    apply Triple.ite
    · intro _
      apply Triple.bind (inOrder_of_framed
        (gpiodGetFromTempLookup_framed tables_equips.toCalls F m.1 _ _))
      intro gpio
      apply Triple.tryCatch (registerGpio_inOrder m.2 gpio)
      intro e
      apply Triple.bind (inOrder_of_framed
        (gpiodPut_framed tables_equips.toCalls (some gpio)))
      exact fun _ => Triple.raise fun _ h => h
    · exact fun _ => Triple.pure fun _ h => h

end Operations

/-! ## Along the walk -/

section Walk

variable {H : Header} {F : Firmware}

/-- The journal of a driver that has not cleaned up. -/
structure Parsing (H : Header) (F : Firmware) (s : World × Journal) : Prop where
  inOrder : InOrder H F s.2.mapped s.1
  points : ∀ p ∈ s.2.points, p.WellFormed H F
  unregistered : s.2.unregistered = []

/-- Before the rest of the resources, which come after all that were mapped. -/
structure Walking (H : Header) (F : Firmware) (rest : List AcpiResource)
    (s : World × Journal) : Prop extends Parsing H F s where
  behind : (s.2.mapped.map Prod.fst ++
    rest.filterMap AcpiResource.gpio).Sublist F.gpios

theorem Parsing.visit {w : World} {j : Journal} (h : Parsing H F (w, j)) :
    Parsing H F (w, j.visit w) := by
  refine ⟨h.inOrder, ?_, h.unregistered⟩
  intro p hp
  rcases List.mem_append.mp hp with hp | hp
  · exact h.points p hp
  · rw [List.mem_singleton.mp hp]
    exact h.inOrder

theorem Parsing.of_tables {w w' : World} {j : Journal}
    (h : Parsing H F (w, j)) (hw : tables.Rel w w') : Parsing H F (w', j) :=
  { h with inOrder := Point.WellFormed.of_tables h.inOrder hw }

theorem Walking.handle {w : World} {j : Journal} {rest : List AcpiResource}
    (h : Walking H F rest (w, j)) (agpio : AcpiGpio) (function : Option ℕ) :
    Walking H F rest (w, j.handle agpio function) :=
  ⟨⟨h.inOrder, h.points, h.unregistered⟩, h.behind⟩

theorem Walking.skip {ares : AcpiResource} {rest : List AcpiResource}
    {s : World × Journal} (h : Walking H F (ares :: rest) s) :
    Walking H F rest s := by
  refine { h with behind := List.Sublist.trans ?_ h.behind }
  apply List.Sublist.append_left
  exact (List.sublist_cons_self ares rest).filterMap _

/-- The next resource may be mapped, and the rest comes after it. -/
theorem Walking.mapping {agpio : AcpiGpio} {rest : List AcpiResource}
    {s : World × Journal} (h : Walking H F (.gpioIo agpio :: rest) s)
    {n : ℕ} {value : BitVec 64} (hvalue : F.gpioDsm n = some value)
    (hsensor : (pinUse H F value).ForSensor) :
    Mapping H F (s.2.mapped ++ [(agpio, pinUse H F value)]) ∧
      ((s.2.mapped ++ [(agpio, pinUse H F value)]).map Prod.fst ++
        rest.filterMap AcpiResource.gpio).Sublist F.gpios := by
  have hbehind : ((s.2.mapped ++ [(agpio, pinUse H F value)]).map Prod.fst ++
      rest.filterMap AcpiResource.gpio).Sublist F.gpios := by
    rw [List.map_append, List.append_assoc]
    exact h.behind
  have hmapping : Mapping H F s.2.mapped := h.inOrder.mapping
  refine ⟨⟨?_, ?_, (List.sublist_append_left _ _).trans hbehind⟩, hbehind⟩
  · intro m hm
    rcases List.mem_append.mp hm with hm | hm
    · exact hmapping.forSensor m hm
    · rw [List.mem_singleton.mp hm]
      exact hsensor
  · intro m hm
    rcases List.mem_append.mp hm with hm | hm
    · exact hmapping.described m hm
    · rw [List.mem_singleton.mp hm]
      exact ⟨n, value, hvalue, rfl⟩

/-- One pin. -/
theorem recordMapGpio_walking (agpio : AcpiGpio) (rest : List AcpiResource)
    {n : ℕ} {value : BitVec 64} (hvalue : F.gpioDsm n = some value) :
    Triple (Walking H F (.gpioIo agpio :: rest))
      (recordMapGpio H F agpio (pinUse H F value))
      (fun _ => Walking H F rest) (fun _ => Parsing H F) := by
  rintro ⟨w, j⟩ hw
  have hpin := mapGpio_inOrder (agpio, pinUse H F value)
    (fun hsensor => (hw.mapping hvalue hsensor).1) w hw.inOrder
  rw [recordMapGpio, bind_apply, beside]
  revert hpin
  rcases mapGpio H F agpio (pinUse H F value) w with ⟨e | u, w'⟩
  · exact fun hpin => ⟨hpin, hw.points, hw.unregistered⟩
  · intro hpin
    change Walking H F rest (w', if _ then _ else _)
    by_cases hsensor : (pinUse H F value).ForSensor
    · rw [if_pos hsensor] at hpin ⊢
      exact ⟨⟨hpin, hw.points, hw.unregistered⟩,
        (hw.mapping hvalue hsensor).2⟩
    · rw [if_neg hsensor] at hpin ⊢
      exact ⟨⟨hpin, hw.points, hw.unregistered⟩, hw.skip.behind⟩

/-- One resource. -/
theorem recordHandleGpioResources_walking (ares : AcpiResource)
    (rest : List AcpiResource) :
    Triple (Walking H F (ares :: rest)) (recordHandleGpioResources H F ares)
      (fun _ => Walking H F rest) (fun _ => Parsing H F) := by
  apply Triple.bind (Q := fun _ => Walking H F (ares :: rest))
  · exact Triple.record fun w j h => ⟨h.visit, h.behind⟩
  intro _
  cases ares with
  | other => exact Triple.pure fun _ h => h.skip
  | gpioIo agpio =>
      apply Triple.gets_bind
      intro n
      cases hdsm : F.gpioDsm (n + 2) with
      | none => exact Triple.record fun w j h => h.1.skip.handle agpio none
      | some value =>
          apply Triple.bind (Q := fun _ => Walking H F (.gpioIo agpio :: rest))
          · exact Triple.record fun w j h => h.1.handle agpio _
          intro _
          refine Triple.tryFinally (recordMapGpio_walking agpio rest hdsm)
            (fun _ => ?_) (fun _ _ => ?_) fun _ _ h => by cases h
          · exact fun s h => ⟨h.toParsing.of_tables rfl, h.behind⟩
          · exact fun s h => Parsing.of_tables h rfl

theorem beside_parsing {α : Type} {p : Kernel α} (hp : Framed tables p) :
    Triple (Parsing H F) (beside p) (fun _ => Parsing H F)
      (fun _ => Parsing H F) :=
  (Triple.beside_keeps hp fun _ _ _ hst h => h.of_tables hst).consequence
    (fun _ h => h) (fun _ _ h => h) fun _ _ h => h.1

theorem recordParseCrs_parsing :
    Triple (Walking H F F.resources) (recordParseCrs H F)
      (fun _ => Parsing H F) (fun _ => Parsing H F) := by
  have hattempt : ∀ {c : KernelCall}, c.Neutral →
      Framed tables (attempt c) :=
    fun hc => attempt_framed tables_equips.toCalls hc
  have hresources : Triple (Walking H F F.resources) (recordGetResources H F)
      (fun _ => Parsing H F) (fun _ => Parsing H F) := by
    apply Triple.bind (Q := fun _ => Walking H F F.resources)
    · refine (Triple.beside_keeps (hattempt (c := .evaluateCrs) trivial)
        ?_).consequence (fun _ h => h) (fun _ _ h => h) fun _ _ h =>
          h.1.toParsing
      exact fun s t g hst h => ⟨h.toParsing.of_tables hst, h.behind⟩
    intro _
    apply Triple.bind (Q := fun _ => Walking H F [])
    · exact Triple.forEach_rest recordHandleGpioResources_walking F.resources
    · exact fun _ => (beside_parsing (hattempt (c := .endOfCrs)
        trivial)).strengthenPre fun _ h => h.toParsing
  apply Triple.bind hresources
  intro _
  apply Triple.bind (beside_parsing (registerDsmClock_framed tables_equips F))
  intro _
  exact Triple.beside fun g => Triple.modify fun w h => h.of_tables rfl

end Walk

/-! ## Cleaning up -/

section Cleanup

variable {H : Header} {F : Firmware}

/-- A driver that is gone: all its tables were well formed, and it has
unregistered exactly the regulators that it had registered. -/
structure CleanedUp (H : Header) (F : Firmware) (s : World × Journal) :
    Prop where
  points : ∀ p ∈ s.2.points, p.WellFormed H F
  unregistered : s.2.unregistered = (registeredOf s.1.calls).map Ptr.obj

/-- The slots up to the counter hold what is registered, in order. -/
theorem Point.WellFormed.slots {w : World} {mapped : List (AcpiGpio × PinUse)}
    (h : (pointOf w mapped).WellFormed H F) :
    (List.range w.dev.nRegulatorGpios).map
        (fun i => (w.dev.regulators i).rdev) =
      (registeredOf w.calls).map Ptr.obj := by
  have hcount : w.dev.nRegulatorGpios = (registeredOf w.calls).length :=
    h.regulatorCount
  apply List.ext_getElem
  · rw [List.length_map, List.length_range, List.length_map, hcount]
  · intro i hi hi'
    rw [List.length_map] at hi'
    rw [List.getElem_map, List.getElem_range, List.getElem_map]
    exact h.holding i _ (List.getElem?_eq_getElem hi')

/-- Going through the slots of `d`: what was unregistered and what is still to
come. -/
theorem unregister_slots (d : Device) (is : List ℕ) (done : List (Ptr Desc))
    (registered : List Desc) {E : Errno → World × Journal → Prop} :
    Triple
      (fun s => registeredOf s.1.calls = registered ∧
        (∀ p ∈ s.2.points, p.WellFormed H F) ∧ s.2.unregistered = done)
      (forEach
        (fun i => do
          record fun _ j => j.unregister (d.regulators i).rdev
          beside (regulatorUnregister (d.regulators i).rdev)) is)
      (fun _ s => registeredOf s.1.calls = registered ∧
        (∀ p ∈ s.2.points, p.WellFormed H F) ∧
        s.2.unregistered = done ++ is.map fun i => (d.regulators i).rdev)
      E := by
  induction is generalizing done with
  | nil =>
      refine Triple.pure fun s h => ⟨h.1, h.2.1, ?_⟩
      rw [List.map_nil, List.append_nil]
      exact h.2.2
  | cons i is ih =>
      rintro ⟨w, j⟩ ⟨hregistered, hpoints, rfl⟩
      have hput : ∃ w', regulatorUnregister (d.regulators i).rdev w =
          (.ok (), w') ∧ registeredOf w'.calls = registered := by
        cases (d.regulators i).rdev with
        | obj gpio => exact ⟨_, rfl, hregistered⟩
        | null => exact ⟨_, rfl, hregistered⟩
        | err e => exact ⟨_, rfl, hregistered⟩
      obtain ⟨w', hrun, hregistered'⟩ := hput
      have hstep : (do
          record fun _ j => j.unregister (d.regulators i).rdev
          beside (regulatorUnregister (d.regulators i).rdev) :
            Recorded Unit) (w, j) =
          (.ok (), (w', j.unregister (d.regulators i).rdev)) :=
        beside_ok hrun _
      rw [forEach_cons, bind_ok hstep]
      have hrest := ih (j.unregistered ++ [(d.regulators i).rdev])
        (w', j.unregister (d.regulators i).rdev) ⟨hregistered', hpoints, rfl⟩
      simpa only [List.map_cons, List.append_assoc, List.singleton_append]
        using hrest

/-- Cleaning up finds the tables in order and unregisters what they hold; it
does not fail. -/
theorem recordCleanup_cleansUp {E : Errno → World × Journal → Prop} :
    Triple (Parsing H F) (recordCleanup H) (fun _ => CleanedUp H F) E := by
  have hbeside : ∀ {p : Kernel Unit}, Keeps tables (fun _ => False) p →
      Triple (Parsing H F) (beside p) (fun _ => Parsing H F) E :=
    fun hp => (Triple.beside_keeps hp fun _ _ _ hst h =>
      h.of_tables hst).consequence (fun _ h => h) (fun _ _ h => h)
        fun _ _ h => h.2.elim
  apply Triple.bind (Q := fun _ => Parsing H F)
  · exact Triple.record fun _ _ h => h.visit
  intro _
  apply Triple.bind (Q := fun _ => Parsing H F)
  · exact Triple.beside fun g => Triple.modify fun w h => h.of_tables rfl
  intro _
  apply Triple.bind (hbeside (unregisterClock_framed tables_equips.toCalls))
  intro _
  apply Triple.bind (hbeside (unregisterLeds_framed tables_equips.toCalls H))
  intro _
  apply Triple.gets_bind
  rintro d s ⟨hparsing, rfl⟩
  have hslots := unregister_slots (H := H) (F := F) s.1.dev
    (List.range s.1.dev.nRegulatorGpios) [] (registeredOf s.1.calls) (E := E) s
    ⟨rfl, hparsing.points, hparsing.unregistered⟩
  revert hslots
  rcases forEach _ _ s with ⟨e | u, t⟩
  · exact id
  · rintro ⟨hregistered, hpoints, hunregistered⟩
    refine ⟨hpoints, ?_⟩
    rw [hunregistered, List.nil_append, hregistered]
    exact Point.WellFormed.slots hparsing.inOrder

/-- Before the first regulator. -/
structure Untouched (s : World × Journal) : Prop where
  registered : registeredOf s.1.calls = []
  journal : s.2 = Journal.empty

theorem Untouched.cleanedUp {s : World × Journal} (h : Untouched s) :
    CleanedUp H F s := by
  refine ⟨?_, ?_⟩
  · rw [h.journal]
    exact fun p hp => absurd hp List.not_mem_nil
  · rw [h.journal, h.registered]
    rfl

/-- The device that `probe` allocates. -/
theorem Untouched.walking {w : World} {j : Journal} (h : Untouched (w, j))
    (index : ℕ) (quirk : Option String) :
    Walking H F F.resources ({ w with dev :=
      { clock := { imgclkIndex := index }, avddSecondSensor := quirk } }, j)
    := by
  obtain ⟨hregistered, rfl⟩ := h
  have hregistered : registeredOf w.calls = [] := hregistered
  refine ⟨⟨?_, fun p hp => absurd hp List.not_mem_nil, rfl⟩,
    List.Sublist.refl _⟩
  refine ⟨⟨?_, ?_, List.nil_sublist _⟩, rfl, Nat.zero_le _, ?_, fun _ _ => rfl,
    ?_, Nat.zero_le _, ?_, fun _ _ _ h => by cases h⟩
  · exact fun m hm => absurd hm List.not_mem_nil
  · exact fun m hm => absurd hm List.not_mem_nil
  · exact fun i m hm => by cases hm
  · exact (congrArg List.length hregistered).symm
  · intro i d hd
    change d ∈ (registeredOf w.calls)[i]? at hd
    rw [hregistered] at hd
    cases hd

theorem recordProbe_cleansUp :
    Triple Untouched (recordProbe H F) (fun _ => Parsing H F)
      (fun _ => CleanedUp H F) := by
  have hbeside : ∀ {p : Kernel Unit}, Framed tables p →
      Triple Untouched (beside p) (fun _ => Untouched)
        (fun _ => CleanedUp H F) := by
    intro p hp
    refine (Triple.beside_keeps hp fun s t g hst h => ?_).consequence
      (fun _ h => h) (fun _ _ h => h) fun _ _ h => h.1.cleanedUp
    simp only [tables, Frame.fixing, Prod.mk.injEq] at hst
    exact ⟨hst.2.2.2.2.trans h.registered, h.journal⟩
  have hcalls := tables_equips.toCalls
  apply Triple.bind (hbeside (Keeps.when (Keeps.raise trivial)))
  intro _
  apply Triple.bind (hbeside (attempt_framed hcalls (c := .fillCldb) trivial))
  intro _
  apply Triple.bind (hbeside (Keeps.when (Keeps.raise trivial)))
  intro _
  apply Triple.bind (hbeside (allocate_framed hcalls (c := .kzalloc) trivial))
  intro _
  apply Triple.bind (Q := fun _ s => Untouched s ∧ Walking H F F.resources s)
  · exact Triple.beside fun g => Triple.modify fun w h =>
      ⟨⟨h.registered, h.journal⟩, h.walking _ _⟩
  intro _
  apply Triple.bind (Q := fun _ => Walking H F F.resources)
  · refine (Triple.beside_keeps (attempt_framed hcalls (c := .sensorAdev)
      trivial) ?_).consequence (fun _ h => h) (fun _ _ h => h.2)
      fun _ _ h => h.1.1.cleanedUp
    rintro s t g hst ⟨huntouched, hwalking⟩
    refine ⟨?_, hwalking.toParsing.of_tables hst, hwalking.behind⟩
    simp only [tables, Frame.fixing, Prod.mk.injEq] at hst
    exact ⟨hst.2.2.2.2.trans huntouched.registered, huntouched.journal⟩
  intro _
  apply Triple.tryCatch recordParseCrs_parsing
  intro e
  apply Triple.bind recordCleanup_cleansUp
  exact fun _ => Triple.raise fun _ h => h

theorem recordLifetime_cleansUp :
    Triple Untouched (recordLifetime H F) (fun _ => CleanedUp H F)
      (fun _ => CleanedUp H F) :=
  Triple.bind recordProbe_cleansUp fun _ => recordCleanup_cleansUp

end Cleanup

/-- From probe to removal, whatever the firmware lists and whatever fails: at
every point between two resources, and when the driver cleans up, the lookup
table and the regulators are well formed; and cleaning up has unregistered
exactly the regulators that were registered, in their order. -/
theorem tables_wellFormed (H : Header) (F : Firmware)
    (outcomes : List (Option Errno)) :
    let outcome := recordLifetime H F (World.initial outcomes, Journal.empty)
    (outcome.1, outcome.2.1) = lifetime H F (World.initial outcomes) ∧
      (∀ p ∈ outcome.2.2.points, p.WellFormed H F) ∧
      outcome.2.2.unregistered =
        (registeredOf outcome.2.1.calls).map Ptr.obj := by
  have hcleaned : CleanedUp H F (recordLifetime H F
      (World.initial outcomes, Journal.empty)).2 :=
    Triple.final recordLifetime_cleansUp ⟨rfl, rfl⟩
  exact ⟨recordLifetime_erases (World.initial outcomes, Journal.empty),
    hcleaned.points, hcleaned.unregistered⟩

end Int3472
end SurfaceCameras
