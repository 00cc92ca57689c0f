import SurfaceCameras.Int3472.Inventory

/-!
# A probe provides what the firmware describes

The driver works through the resources one by one and gives up at the first that
it cannot place.  What it has placed is at every point the inventory of the pins
described so far, and when it gives up, either a kernel call has failed or the
pins of the firmware cannot be placed at all.
-/

namespace SurfaceCameras
namespace Int3472

open Prog

/-- No kernel call has failed. -/
def Smooth (w : World) : Prop := ∀ c ∈ w.calls, c.2 = none

/-- A call has failed, or it had to come to this. -/
def Excused (reason : Prop) (w : World) : Prop := ¬ Smooth w ∨ reason

/-- The device, as long as no call has failed. -/
def Smoothly (P : Device → Prop) (w : World) : Prop := P w.dev ∧ Smooth w

theorem not_smooth_of_failed {w : World} {c : KernelCall} {e : Errno}
    (h : (c, some e) ∈ w.calls) : ¬ Smooth w :=
  fun hs => by cases hs _ h

/-! ## Kernel calls -/

section Calls

variable {P Q : Device → Prop} {reason : Prop}

theorem call_smoothly (c : KernelCall) {E : Errno → World → Prop} :
    Triple (Smoothly P) (call c)
      (fun o w => o = none ∧ Smoothly P w ∨ o ≠ none ∧ ¬ Smooth w) E := by
  rintro w ⟨hdev, hsmooth⟩
  cases hout : w.outcomes.headD none with
  | none =>
      refine Or.inl ⟨hout, hdev, fun x hx => ?_⟩
      obtain rfl | hx := List.mem_cons.mp hx
      · exact hout
      · exact hsmooth x hx
  | some e =>
      have hfailed : w.outcomes.headD none ≠ none := by
        rw [hout]
        exact fun h => by cases h
      refine Or.inr ⟨hfailed, ?_⟩
      apply not_smooth_of_failed (c := c) (e := e)
      exact List.mem_cons.mpr (Or.inl (by rw [hout]))

/-- A step that goes on only if the call has succeeded. -/
theorem call_bind (c : KernelCall) {α : Type} {k : Option Errno → Kernel α}
    {R : α → World → Prop} {E : Errno → World → Prop}
    (hk : Triple (Smoothly P) (k none) R E)
    (hfail : ∀ e, Triple (fun w => ¬ Smooth w) (k (some e)) R E) :
    Triple (Smoothly P) (call c >>= k) R E := by
  apply Triple.bind (call_smoothly c)
  intro o
  cases o with
  | none =>
      refine hk.strengthenPre ?_
      rintro w (⟨-, h⟩ | ⟨h, -⟩)
      · exact h
      · exact absurd rfl h
  | some e =>
      refine (hfail e).strengthenPre ?_
      rintro w (⟨h, -⟩ | ⟨-, h⟩)
      · cases h
      · exact h

theorem excused_raise {α : Type} {R : α → World → Prop} (e : Errno) :
    Triple (fun w => ¬ Smooth w) (raise e : Kernel α) R
      (fun _ => Excused reason) :=
  Triple.raise fun _ h => Or.inl h

theorem attempt_smoothly (c : KernelCall) :
    Triple (Smoothly P) (attempt c) (fun _ => Smoothly P)
      (fun _ => Excused reason) := by
  apply call_bind
  · exact Triple.pure fun _ h => h
  · exact excused_raise

theorem allocate_smoothly (c : KernelCall) :
    Triple (Smoothly P) (allocate c) (fun _ => Smoothly P)
      (fun _ => Excused reason) := by
  apply call_bind
  · exact Triple.pure fun _ h => h
  · exact fun _ => excused_raise .enomem

theorem setDev_smoothly {f : Device → Device} (h : ∀ d, P d → Q (f d))
    {E : Errno → World → Prop} :
    Triple (Smoothly P) (setDev f) (fun _ => Smoothly Q) E :=
  Triple.modify fun w hw => ⟨h w.dev hw.1, hw.2⟩

theorem gets_smoothly {α β : Type} {f : Device → β} {k : β → Kernel α}
    {R : α → World → Prop} {E : Errno → World → Prop}
    (hk : ∀ b, Triple (Smoothly fun d => P d ∧ f d = b) (k b) R E) :
    Triple (Smoothly P) (gets (fun w : World => f w.dev) >>= k) R E :=
  fun w hw => hk (f w.dev) w ⟨⟨hw.1, rfl⟩, hw.2⟩

theorem check_smoothly {c : Prop} {_ : Decidable c} (e : Errno)
    (hc : c → ∀ d, P d → reason) (hok : ¬ c → ∀ d, P d → Q d) :
    Triple (Smoothly P) (when c (raise e : Kernel Unit))
      (fun _ => Smoothly Q) (fun _ => Excused reason) := by
  apply Triple.when
  · exact fun h => Triple.raise fun w hw => Or.inr (hc h w.dev hw.1)
  · exact fun h w hw => ⟨hok h w.dev hw.1, hw.2⟩

theorem gpiodPut_excused (d : Option Desc) {E : Errno → World → Prop} :
    Triple (Excused reason) (gpiodPut d) (fun _ => Excused reason) E :=
  Triple.modify fun _ h => h

end Calls

/-! ## What has been placed -/

/-- The device holds what these pins provide, and all of them could be
placed. -/
structure Stocked (H : Header) (F : Firmware) (pins : List Pin) (d : Device) :
    Prop where
  placeable : Placeable H F pins
  inventory : d.inventory H = inventoryOf H F pins
  lines : d.nSensorGpios = (pinsOf H .sensor pins).length
  lights : H.manyLeds = true → d.nLeds = (pinsOf H .led pins).length
  pled : H.manyLeds = false →
    (d.pled.classdev = .null ↔ pinsOf H .led pins = [])
  sharing : d.avddSecondSensor = discreteQuirks F

namespace Stocked

variable {H : Header} {F : Firmware} {pins : List Pin} {m : Pin} {d : Device}

theorem supplies (h : Stocked H F pins d) :
    d.nRegulatorGpios = (pinsOf H .supply pins).length := by
  have hlength := congrArg (fun v => v.supplies.length) h.inventory
  simpa only [Device.inventory, inventoryOf, List.length_map,
    List.length_range] using hlength

theorem clocked (h : Stocked H F pins d) :
    d.clock.cl = false ↔ pinsOf H .clock pins = [] := by
  have hclock := congrArg Inventory.clock h.inventory
  simp only [Device.inventory, inventoryOf] at hclock
  constructor
  · intro hcl
    rw [hcl, if_neg Bool.false_ne_true] at hclock
    by_contra hne
    rw [if_neg hne] at hclock
    cases hclock
  · intro hnil
    rw [if_pos hnil] at hclock
    cases hcl : d.clock.cl with
    | false => rfl
    | true =>
        rw [hcl, if_pos rfl] at hclock
        cases hclock

/-- A pin of a role is placed when the inventory grows by what it adds and the
counters go with it. -/
theorem next (h : Stocked H F pins d) {r : Role} (hr : m.2.role H = some r)
    (hplaceable : Placeable H F (pins ++ [m])) {d' : Device}
    (hinventory : d'.inventory H = (d.inventory H).add F m (some r))
    (hlines : d'.nSensorGpios = d.nSensorGpios + if r = .sensor then 1 else 0)
    (hlights : H.manyLeds = true →
      d'.nLeds = d.nLeds + if r = .led then 1 else 0)
    (hpled : H.manyLeds = false →
      (d'.pled.classdev = .null ↔ d.pled.classdev = .null ∧ r ≠ .led))
    (hsharing : d'.avddSecondSensor = d.avddSecondSensor) :
    Stocked H F (pins ++ [m]) d' := by
  have hpins : ∀ q, pinsOf H q (pins ++ [m]) =
      pinsOf H q pins ++ if r = q then [m] else [] := by
    intro q
    by_cases hq : r = q
    · rw [if_pos hq, pinsOf_concat (hr.trans (congrArg some hq))]
    · rw [if_neg hq, List.append_nil, pinsOf_concat_of_ne]
      exact fun h => hq (Option.some.inj (hr.symm.trans h))
  constructor
  · exact hplaceable
  · rw [hinventory, inventoryOf_concat, hr, h.inventory]
  · rw [hlines, h.lines, hpins, List.length_append]
    split <;> rfl
  · intro hmany
    rw [hlights hmany, h.lights hmany, hpins, List.length_append]
    split <;> rfl
  · intro hone
    rw [hpled hone, h.pled hone, hpins, List.append_eq_nil_iff]
    refine and_congr_right fun _ => ?_
    split
    · next hled => exact iff_of_false (not_not_intro hled) (by simp)
    · next hled => exact iff_of_true hled rfl
  · exact hsharing.trans h.sharing

/-- A pin without a role adds nothing. -/
theorem pass (h : Stocked H F pins d) (hr : m.2.role H = none) :
    Stocked H F (pins ++ [m]) d := by
  have hpins : ∀ q, pinsOf H q (pins ++ [m]) = pinsOf H q pins := by
    intro q
    apply pinsOf_concat_of_ne
    rw [hr]
    exact fun h => by cases h
  refine ⟨h.placeable.pass hr, ?_, ?_, ?_, ?_, h.sharing⟩
  · rw [inventoryOf_concat, hr]
    exact h.inventory
  · rw [hpins]
    exact h.lines
  · rw [hpins]
    exact h.lights
  · rw [hpins]
    exact h.pled

end Stocked

/-! ## Placing a pin -/

/-- The program places the pin after the others, or there is a reason why it
cannot. -/
def Places (H : Header) (F : Firmware) (pins : List Pin) (m : Pin)
    (p : Kernel Unit) : Prop :=
  Triple (Smoothly (Stocked H F pins)) p
    (fun _ => Smoothly (Stocked H F (pins ++ [m])))
    (fun _ => Excused (¬ Placeable H F (pins ++ [m])))

section Placing

variable {H : Header} {F : Firmware} {pins : List Pin} {m : Pin}
  {P Q : Device → Prop}

/-- The controller of a pin that has a role must be there. -/
theorem fillGpiodLookup_smoothly (hr : (m.2.role H).isSome) :
    Triple (Smoothly P) (fillGpiodLookup F m.1 m.2.conId m.2.activeLow)
      (fun entry w => Smoothly P w ∧ lookupOf F m = some entry)
      (fun _ => Excused (¬ Placeable H F (pins ++ [m]))) := by
  obtain ⟨r, hr⟩ := Option.isSome_iff_exists.mp hr
  have hmissing : lookupOf F m = none → ∀ e : Errno,
      Triple (Smoothly P) (raise e : Kernel GpiodLookup)
        (fun entry w => Smoothly P w ∧ lookupOf F m = some entry)
        (fun _ => Excused (¬ Placeable H F (pins ++ [m]))) :=
    fun h e => Triple.raise fun _ _ =>
      Or.inr (not_placeable_of_unlocated hr h)
  unfold fillGpiodLookup
  cases hdev : F.acpiDev m.1.path with
  | none => exact hmissing (by simp only [lookupOf, hdev]) .einval
  | some adev =>
      cases adev with
      | none => exact hmissing (by simp only [lookupOf, hdev]) .enodev
      | some chip =>
          refine Triple.pure fun w hw => ⟨hw, ?_⟩
          simp only [lookupOf, hdev]
          rfl

theorem gpiodGetFromTempLookup_smoothly (hr : (m.2.role H).isSome) :
    Triple (Smoothly P)
      (gpiodGetFromTempLookup F m.1 m.2.conId m.2.activeLow)
      (fun _ w => Smoothly P w ∧ (lookupOf F m).isSome)
      (fun _ => Excused (¬ Placeable H F (pins ++ [m]))) := by
  apply Triple.bind (allocate_smoothly .kzalloc)
  intro _
  apply Triple.bind (fillGpiodLookup_smoothly hr)
  intro entry
  apply Triple.of_fact
  intro hentry
  apply Triple.bind (attempt_smoothly (.gpiodGet entry))
  intro _
  apply Triple.gets_bind
  intro n
  apply Triple.bind (Q := fun _ => Smoothly P)
  · exact Triple.modify fun _ h => h.1
  · exact fun _ => Triple.pure fun _ h => ⟨h, by rw [hentry]; rfl⟩

theorem mapGpioToSensor_places (hr : m.2.role H = some .sensor) :
    Places H F pins m (mapGpioToSensor H F m.1 m.2.conId m.2.activeLow) := by
  apply gets_smoothly (f := fun d => d.nSensorGpios)
  intro n
  apply Triple.bind (Q := fun _ => Smoothly fun d =>
    Stocked H F pins d ∧ d.nSensorGpios = n ∧ n < H.maxSensorGpios)
  · apply check_smoothly
    · rintro hfull d ⟨hstocked, rfl⟩
      exact not_placeable_of_full hr (hstocked.lines ▸ hfull)
    · exact fun hroom d h => ⟨h.1, h.2, not_le.mp hroom⟩
  intro _
  apply Triple.bind (fillGpiodLookup_smoothly (by rw [hr]; rfl))
  intro entry
  apply Triple.of_fact
  intro hentry
  apply setDev_smoothly
  rintro d ⟨hstocked, rfl, hroom⟩
  apply hstocked.next hr
  · refine hstocked.placeable.concat hr (by rw [hentry]; rfl) ?_ ?_
    · rw [← hstocked.lines]
      exact hroom
    · exact fun h => by cases h
  · rw [Device.inventory_line]
    simp only [Inventory.add, hentry, Option.toList_some]
  · rfl
  · exact fun _ => rfl
  · exact fun _ => (and_iff_left (by decide)).symm
  · rfl

/-! ## Clocks -/

/-- The device as it was up to its clock, which has its frequency. -/
def Retimed (F : Firmware) (P : Device → Prop) (d : Device) : Prop :=
  ∃ d' c, P d' ∧ c.frequency = F.mclkSpeed ∧ d = { d' with clock := c }

theorem registerClock_smoothly {reason : Prop}
    (hQ : ∀ d c, P d → c.cl = true → c.frequency = F.mclkSpeed →
      Q { d with clock := c }) :
    Triple (Smoothly P) (registerClock F) (fun _ => Smoothly Q)
      (fun _ => Excused reason) := by
  have hfail : ∀ (f : Int3472Clock → Int3472Clock) (e : Errno),
      Triple (fun w => ¬ Smooth w)
        (setClock f >>= fun _ => (raise e : Kernel Unit)) (fun _ => Smoothly Q)
        (fun _ => Excused reason) :=
    fun f e => Triple.bind (Q := fun _ w => ¬ Smooth w)
      (Triple.modify fun _ h => h) fun _ => excused_raise e
  apply Triple.bind (allocate_smoothly .kasprintf)
  intro _
  apply Triple.bind (Q := fun _ => Smoothly (Retimed F P))
  · apply setDev_smoothly
    exact fun d hd => ⟨d, _, hd, rfl, rfl⟩
  intro _
  apply call_bind
  · apply Triple.bind (Q := fun _ => Smoothly (Retimed F P))
    · apply setDev_smoothly
      rintro _ ⟨d, c, hd, hfrequency, rfl⟩
      exact ⟨d, { c with clk := .obj () }, hd, hfrequency, rfl⟩
    intro _
    apply call_bind
    · apply setDev_smoothly
      rintro _ ⟨d, c, hd, hfrequency, rfl⟩
      exact hQ d _ hd rfl hfrequency
    · exact fun e => hfail _ .enomem
  · exact fun e => hfail _ e

/-- A registered clock is in the inventory. -/
theorem Stocked.clock {d : Device} (h : Stocked H F pins d)
    (hr : m.2.role H = some .clock) (hlocated : (lookupOf F m).isSome)
    (hfree : d.clock.cl = false) {c : Int3472Clock} (hcl : c.cl = true)
    (hfrequency : c.frequency = F.mclkSpeed) :
    Stocked H F (pins ++ [m]) { d with clock := c } := by
  apply h.next hr
  · refine h.placeable.concat hr hlocated ?_ fun h => by cases h
    rw [h.clocked.mp hfree]
    exact Nat.one_pos
  · simp only [Device.inventory, Inventory.add, hcl, hfrequency, if_true]
  · rfl
  · exact fun _ => rfl
  · exact fun _ => (and_iff_left (by decide)).symm
  · rfl

theorem registerGpioClock_places (hr : m.2.role H = some .clock)
    (hlocated : (lookupOf F m).isSome) (gpio : Desc) :
    Places H F pins m (registerGpioClock F gpio) := by
  apply gets_smoothly (f := fun d => d.clock.cl)
  intro cl
  apply Triple.bind (Q := fun _ => Smoothly fun d =>
    Stocked H F pins d ∧ d.clock.cl = false)
  · apply check_smoothly
    · rintro hcl d ⟨hstocked, rfl⟩
      refine not_placeable_of_full hr ?_
      have hne : pinsOf H .clock pins ≠ [] := by
        intro hnil
        rw [hstocked.clocked.mpr hnil] at hcl
        cases hcl
      exact List.length_pos_iff.mpr hne
    · rintro hcl d ⟨hstocked, rfl⟩
      exact ⟨hstocked, by simpa using hcl⟩
  intro _
  -- The enable descriptor changes nothing that is looked at.
  apply Triple.bind (Q := fun _ => Smoothly fun d =>
    ∃ d' c, (Stocked H F pins d' ∧ d'.clock.cl = false) ∧
      d = { d' with clock := c })
  · apply setDev_smoothly
    exact fun d hd => ⟨d, _, hd, rfl⟩
  intro _
  apply registerClock_smoothly
  rintro _ c ⟨d, _, ⟨hstocked, hfree⟩, rfl⟩ hcl hfrequency
  exact hstocked.clock hr hlocated hfree hcl hfrequency

/-! ## LEDs -/

theorem ledClassdevRegister_smoothly {E : Errno → World → Prop} :
    Triple (Smoothly P) ledClassdevRegister
      (fun r w => r = (.obj (), none) ∧ Smoothly P w ∨
        (∃ e, r.2 = some e) ∧ ¬ Smooth w) E := by
  apply call_bind
  · apply call_bind
    · exact Triple.pure fun w hw => Or.inl ⟨rfl, hw⟩
    · exact fun e => Triple.pure fun w hw => Or.inr ⟨⟨e, rfl⟩, hw⟩
  · exact fun e => Triple.pure fun w hw => Or.inr ⟨⟨e, rfl⟩, hw⟩

/-- What follows the registration of an LED. -/
theorem ledClassdevRegister_bind {reason : Prop}
    {k : Ptr Unit × Option Errno → Kernel Unit}
    (hk : Triple (Smoothly P) (k (.obj (), none)) (fun _ => Smoothly Q)
      (fun _ => Excused reason))
    (hfail : ∀ classdev e, Triple (fun w => ¬ Smooth w) (k (classdev, some e))
      (fun _ => Smoothly Q) (fun _ => Excused reason)) :
    Triple (Smoothly P) (ledClassdevRegister >>= k) (fun _ => Smoothly Q)
      (fun _ => Excused reason) := by
  apply Triple.bind ledClassdevRegister_smoothly
  rintro ⟨classdev, ret⟩ w (⟨hr, hw⟩ | ⟨⟨e, hret⟩, hw⟩)
  · cases hr
    exact hk w hw
  · obtain rfl : ret = some e := hret
    exact hfail classdev e w hw

theorem Stocked.writeLed {d : Device} (h : Stocked H F pins d) (l : Led) :
    Stocked H F pins { d with leds := Function.update d.leds d.nLeds l } := by
  refine ⟨h.placeable, ?_, h.lines, h.lights, h.pled, h.sharing⟩
  rw [Device.inventory_writeLed]
  exact h.inventory

theorem registerLed_places (hmany : H.manyLeds = true)
    (hr : m.2.role H = some .led) (hlocated : (lookupOf F m).isSome)
    (gpio : Desc) : Places H F pins m (registerLed H F gpio "privacy") := by
  apply gets_smoothly (f := fun d => d.nLeds)
  intro n
  have hcapacity : capacity H .led = H.maxLeds := by
    simp only [capacity, hmany, if_true]
  have hset : ∀ (f : Led → Led) {E : Errno → World → Prop},
      Triple (Smoothly fun d =>
          Stocked H F pins d ∧ d.nLeds = n ∧ n < H.maxLeds) (setLed n f)
        (fun _ => Smoothly fun d => (Stocked H F pins d ∧ d.nLeds = n ∧
          n < H.maxLeds) ∧ ∃ l, d.leds n = f l) E := by
    intro f E
    apply setDev_smoothly
    rintro d ⟨hstocked, rfl, hroom⟩
    exact ⟨⟨hstocked.writeLed _, rfl, hroom⟩, _, Function.update_self ..⟩
  apply Triple.bind (Q := fun _ => Smoothly fun d =>
    Stocked H F pins d ∧ d.nLeds = n ∧ n < H.maxLeds)
  · apply check_smoothly
    · rintro hfull d ⟨hstocked, rfl⟩
      refine not_placeable_of_full hr ?_
      rw [hcapacity, ← hstocked.lights hmany]
      exact hfull
    · exact fun hroom d h => ⟨h.1, h.2, not_le.mp hroom⟩
  intro _
  apply Triple.bind (hset _)
  intro _
  apply ledClassdevRegister_bind
  · apply Triple.bind ((hset _).strengthenPre fun _ h => ⟨h.1.1, h.2⟩)
    intro _
    apply Triple.bind ((hset _).strengthenPre fun _ h => ⟨h.1.1, h.2⟩)
    intro _
    apply setDev_smoothly
    rintro d ⟨⟨hstocked, rfl, hroom⟩, l, hl⟩
    apply hstocked.next hr
    · refine hstocked.placeable.concat hr hlocated ?_ fun h => by cases h
      rw [hcapacity, ← hstocked.lights hmany]
      exact hroom
    · rw [Device.inventory_countLed H d hmany (congrArg Led.lookup hl)]
      rfl
    · rfl
    · exact fun _ => rfl
    · exact fun hone => absurd (hmany.symm.trans hone) (by decide)
    · rfl
  · intro classdev e
    apply Triple.bind (Q := fun _ w => ¬ Smooth w)
    · exact Triple.modify fun _ h => h
    · exact fun _ => excused_raise e

theorem registerPled_places (hone : H.manyLeds = false)
    (hr : m.2.role H = some .led) (hlocated : (lookupOf F m).isSome)
    (gpio : Desc) : Places H F pins m (registerPled F gpio) := by
  apply gets_smoothly (f := fun d => d.pled)
  intro pled
  apply Triple.bind (Q := fun _ => Smoothly fun d =>
    Stocked H F pins d ∧ d.pled.classdev = .null)
  · apply check_smoothly
    · rintro htaken d ⟨hstocked, rfl⟩
      refine not_placeable_of_full hr ?_
      simp only [capacity, hone, Bool.false_eq_true, if_false]
      exact List.length_pos_iff.mpr fun hnil =>
        htaken ((hstocked.pled hone).mpr hnil)
    · rintro hfree d ⟨hstocked, rfl⟩
      exact ⟨hstocked, not_not.mp hfree⟩
  intro _
  have hset : ∀ (f : Led → Led) (R R' : Led → Prop) {E : Errno → World → Prop},
      (∀ l, R l → R' (f l)) →
      Triple (Smoothly fun d => ∃ d' l, (Stocked H F pins d' ∧
          d'.pled.classdev = .null) ∧ R l ∧ d = { d' with pled := l })
        (setPled f)
        (fun _ => Smoothly fun d => ∃ d' l, (Stocked H F pins d' ∧
          d'.pled.classdev = .null) ∧ R' l ∧ d = { d' with pled := l }) E := by
    intro f R R' E hf
    apply setDev_smoothly
    rintro _ ⟨d, l, hd, hl, rfl⟩
    exact ⟨d, f l, hd, hf l hl, rfl⟩
  apply Triple.bind ((hset _ (fun _ => True) (fun _ => True)
    fun _ _ => trivial).strengthenPre fun w h => ⟨⟨w.dev, w.dev.pled, h.1,
      trivial, rfl⟩, h.2⟩)
  intro _
  apply ledClassdevRegister_bind
  · apply Triple.bind (hset _ (fun _ => True) (fun l => l.classdev = .obj ())
      fun _ _ => rfl)
    intro _
    apply setDev_smoothly
    rintro _ ⟨d, l, ⟨hstocked, hfree⟩, hl, rfl⟩
    have hnone : pinsOf H .led pins = [] := (hstocked.pled hone).mp hfree
    have hdark : (d.inventory H).lights = [] := by
      rw [hstocked.inventory]
      simp only [inventoryOf, hnone, List.map_nil]
    apply hstocked.next hr
    · refine hstocked.placeable.concat hr hlocated ?_ fun h => by cases h
      rw [hnone]
      simp only [capacity, hone, Bool.false_eq_true, if_false]
      exact Nat.one_pos
    · simp only [Inventory.add, hdark]
      simp only [Device.inventory, hone, Bool.false_eq_true, if_false]
      rfl
    · rfl
    · exact fun hmany => absurd (hmany.symm.trans hone) (by decide)
    · intro _
      refine iff_of_false ?_ fun h => h.2 rfl
      change l.classdev ≠ .null
      rw [hl]
      exact fun h => by cases h
    · rfl
  · intro classdev e
    apply Triple.bind (Q := fun _ w => ¬ Smooth w)
    · exact Triple.modify fun _ h => h
    · exact fun _ => excused_raise e

/-! ## Supplies -/

theorem registerRegulator_places (hr : m.2.role H = some .supply)
    (hlocated : (lookupOf F m).isSome) (gpio : Desc) :
    Places H F pins m (registerRegulator H F gpio m.2.enableTime m.2.conId
      (sharesWith F m.2)) := by
  apply gets_smoothly (f := fun d => d.nRegulatorGpios)
  intro n
  apply Triple.bind (Q := fun _ => Smoothly fun d =>
    Stocked H F pins d ∧ d.nRegulatorGpios = n ∧ n < H.maxRegulators)
  · apply check_smoothly
    · rintro hfull d ⟨hstocked, rfl⟩
      exact not_placeable_of_full hr (hstocked.supplies ▸ hfull)
    · exact fun hroom d h => ⟨h.1, h.2, not_le.mp hroom⟩
  intro _
  apply Triple.bind (Q := fun _ => Smoothly fun d =>
    (Stocked H F pins d ∧ d.nRegulatorGpios = n ∧ n < H.maxRegulators) ∧
      m.2.conId.utf8ByteSize < H.gpioSupplyNameLength)
  · apply check_smoothly
    · exact fun hlong _ _ => not_placeable_of_long hr hlong
    · exact fun hshort d h => ⟨h, not_le.mp hshort⟩
  intro _
  refine Triple.bind (Q := fun rdev w => rdev = .obj gpio ∧ Smoothly (fun d =>
    (Stocked H F pins d ∧ d.nRegulatorGpios = n ∧ n < H.maxRegulators) ∧
      m.2.conId.utf8ByteSize < H.gpioSupplyNameLength) w ∨
    (∃ e, rdev = .err e) ∧ ¬ Smooth w) ?_ ?_
  · apply call_bind
    · exact Triple.pure fun w hw => Or.inl ⟨rfl, hw⟩
    · intro e
      apply Triple.bind (Q := fun _ w => ¬ Smooth w)
      · exact Triple.modify fun _ h => h
      · exact fun _ => Triple.pure fun w hw => Or.inr ⟨⟨e, rfl⟩, hw⟩
  rintro rdev w (⟨rfl, hw⟩ | ⟨⟨e, rfl⟩, hw⟩)
  · obtain ⟨⟨⟨hstocked, rfl, hroom⟩, hshort⟩, hsmooth⟩ := hw
    refine ⟨?_, hsmooth⟩
    apply hstocked.next hr
    · refine hstocked.placeable.concat hr hlocated ?_ fun _ => hshort
      rw [← hstocked.supplies]
      exact hroom
    · exact Device.inventory_supply H w.dev _
    · rfl
    · exact fun _ => rfl
    · exact fun _ => (and_iff_left (by decide)).symm
    · rfl
  · exact Or.inl hw

/-! ## The switch over the types -/

/-- A pin whose line the driver keeps to itself. -/
theorem registerGpio_places (hsensor : ¬ m.2.ForSensor)
    (hknown : m.2.type = gpioTypeClkEnable ∨ m.2.type = gpioTypePrivacyLed ∨
      m.2.type = gpioTypePowerEnable ∨ m.2.type = gpioTypePower1 ∨
      m.2.type = H.gpioTypeHandshake)
    (hlocated : (lookupOf F m).isSome) (gpio : Desc) :
    Places H F pins m (registerGpio H F m.2 gpio) := by
  apply Triple.ite
  · intro hclk
    refine registerGpioClock_places ?_ hlocated gpio
    rw [PinUse.role, if_neg hsensor, if_pos hclk]
  intro hclk
  apply Triple.ite
  · intro hled
    have hr : m.2.role H = some .led := by
      rw [PinUse.role, if_neg hsensor, if_neg hclk, if_pos hled]
    apply Triple.ite
    · exact fun hmany => registerLed_places hmany hr hlocated gpio
    · exact fun hone =>
        registerPled_places (by simpa using hone) hr hlocated gpio
  intro hled
  have hr : m.2.role H = some .supply := by
    rw [PinUse.role, if_neg hsensor, if_neg hclk, if_neg hled, if_pos]
    exact (hknown.resolve_left hclk).resolve_left hled
  have hregulator : ∀ second, second = sharesWith F m.2 →
      Places H F pins m (registerRegulator H F gpio m.2.enableTime m.2.conId
        second) := by
    rintro second rfl
    exact registerRegulator_places hr hlocated gpio
  apply Triple.ite
  · intro hpower
    apply gets_smoothly (f := fun d => d.avddSecondSensor)
    intro second
    apply Triple.with_fact (c := second = sharesWith F m.2)
    · rintro w ⟨⟨hstocked, rfl⟩, -⟩
      rw [sharesWith, if_pos hpower]
      exact hstocked.sharing
    · intro hsecond
      exact (hregulator second hsecond).strengthenPre
        fun _ h => ⟨h.1.1, h.2⟩
  · intro hpower
    exact hregulator none (by rw [sharesWith, if_neg hpower])

/-- Any pin. -/
theorem mapGpio_places : Places H F pins m (mapGpio H F m.1 m.2) := by
  apply Triple.ite
  · intro (hsensor : m.2.ForSensor)
    exact mapGpioToSensor_places (by rw [PinUse.role, if_pos hsensor])
  intro (hsensor : ¬ m.2.ForSensor)
  apply Triple.ite
  · intro hknown
    have hr : (m.2.role H).isSome := by
      rw [PinUse.role, if_neg hsensor]
      split
      · rfl
      split
      · rfl
      next hclk hled =>
        rw [if_pos ((hknown.resolve_left hclk).resolve_left hled)]
        rfl
    apply Triple.bind (gpiodGetFromTempLookup_smoothly hr)
    intro gpio
    apply Triple.of_fact
    intro hlocated
    apply Triple.tryCatch (registerGpio_places hsensor hknown hlocated gpio)
    intro e
    apply Triple.bind (gpiodPut_excused _)
    exact fun _ => Triple.raise fun _ h => h
  · intro hunknown
    refine Triple.pure fun w hw => ⟨hw.1.pass ?_, hw.2⟩
    rw [PinUse.role, if_neg hsensor, if_neg (hunknown ∘ Or.inl),
      if_neg (hunknown ∘ Or.inr ∘ Or.inl),
      if_neg (hunknown ∘ Or.inr ∘ Or.inr)]

end Placing

/-! ## The walk -/

section Walk

variable {H : Header} {F : Firmware}

/-- The pins before the rest of the resources have been placed. -/
def Underway (H : Header) (F : Firmware) (rest : List AcpiResource)
    (d : Device) : Prop :=
  ∃ pins, Stocked H F pins d ∧ described H F =
    pins ++ describedFrom H F d.ngpios (rest.filterMap AcpiResource.gpio)

theorem Stocked.count {pins : List Pin} {d : Device} (h : Stocked H F pins d)
    (n : ℕ) : Stocked H F pins { d with ngpios := n } :=
  ⟨h.placeable, h.inventory, h.lines, h.lights, h.pled, h.sharing⟩

theorem handleGpioResources_underway (ares : AcpiResource)
    (rest : List AcpiResource) :
    Triple (Smoothly (Underway H F (ares :: rest)))
      (handleGpioResources H F ares) (fun _ => Smoothly (Underway H F rest))
      (fun _ => Excused (¬ Placeable H F (described H F))) := by
  cases ares with
  | other => exact Triple.pure fun _ h => h
  | gpioIo agpio =>
      apply gets_smoothly (f := fun d => d.ngpios)
      intro n
      have hcons : (AcpiResource.gpioIo agpio :: rest).filterMap
          AcpiResource.gpio = agpio :: rest.filterMap AcpiResource.gpio := rfl
      cases hdsm : F.gpioDsm (n + 2) with
      | none =>
          apply Triple.pure
          rintro w ⟨⟨⟨pins, hstocked, hdescribed⟩, rfl⟩, hsmooth⟩
          refine ⟨⟨pins, hstocked, hdescribed.trans ?_⟩, hsmooth⟩
          -- Without this function there is none for the pins to come.
          rw [hcons]
          cases rest.filterMap AcpiResource.gpio with
          | nil => simp only [describedFrom, hdsm]
          | cons _ _ => simp only [describedFrom, hdsm]
      | some value =>
          rintro w ⟨⟨⟨pins, hstocked, hdescribed⟩, rfl⟩, hsmooth⟩
          let m : Pin := (agpio, pinUse H F value)
          have hnext : described H F = (pins ++ [m]) ++ describedFrom H F
              (w.dev.ngpios + 1) (rest.filterMap AcpiResource.gpio) := by
            rw [hdescribed, hcons]
            simp only [describedFrom, hdsm, m, List.append_assoc,
              List.singleton_append]
          have hplaced : Places H F pins m (mapGpio H F agpio m.2) :=
            mapGpio_places
          have hplaces := hplaced.and
            ((mapGpio_framed counter_maps H F agpio m.2).triple
              (P := fun v => v.dev.ngpios = w.dev.ngpios)
              fun _ _ hst h => hst.trans h)
          refine Triple.tryFinally hplaces (fun _ => ?_) (fun _ _ => ?_)
            (fun _ _ h => by cases h) w ⟨⟨hstocked, hsmooth⟩, rfl⟩
          · apply Triple.modify
            rintro v ⟨⟨hstocked, hsmooth⟩, hcount⟩
            refine ⟨⟨pins ++ [m], hstocked.count _, ?_⟩, hsmooth⟩
            rw [hnext, ← hcount]
          · apply Triple.modify
            rintro v ⟨hfailed | hunplaceable, -⟩
            · exact Or.inl hfailed
            · refine Or.inr fun hplaceable => hunplaceable ?_
              rw [hnext] at hplaceable
              exact hplaceable.initial

/-- All the pins have been placed, and there is the clock of a `_DSM` where no
pin gives one; nobody can look the lines up yet. -/
def Served (H : Header) (F : Firmware) (d : Device) : Prop :=
  Placeable H F (described H F) ∧
    d.inventory H = { provision H F with consumer := none }

/-- The clock `_DSM` stands in for a clock pin. -/
theorem registerDsmClock_served :
    Triple (Smoothly (Stocked H F (described H F))) (registerDsmClock F)
      (fun _ => Smoothly (Served H F))
      (fun _ => Excused (¬ Placeable H F (described H F))) := by
  apply gets_smoothly (f := fun d => d.clock.cl)
  intro cl
  apply Triple.when
  · rintro ⟨rfl, hdsm⟩
    apply registerClock_smoothly
    rintro d c ⟨hstocked, hfree⟩ hcl hfrequency
    refine ⟨hstocked.placeable, ?_⟩
    have hinventory : { d with clock := c }.inventory H =
        { d.inventory H with clock := some F.mclkSpeed } := by
      simp only [Device.inventory, hcl, hfrequency, if_true]
    rw [hinventory, hstocked.inventory]
    simp only [provision, inventoryOf, hdsm, Bool.true_eq_false, and_false,
      if_false]
  · rintro hkeep w ⟨⟨hstocked, rfl⟩, hsmooth⟩
    refine ⟨⟨hstocked.placeable, hstocked.inventory.trans ?_⟩, hsmooth⟩
    simp only [provision, inventoryOf]
    congr 1
    by_cases hnil : pinsOf H .clock (described H F) = []
    · have hdsm : F.clkDsm = false := by
        simpa using fun h => hkeep ⟨hstocked.clocked.mpr hnil, h⟩
      rw [if_pos hnil, if_pos ⟨hnil, hdsm⟩]
    · rw [if_neg hnil, if_neg fun h => hnil h.1]

theorem parseCrs_provides :
    Triple (Smoothly (Underway H F F.resources)) (parseCrs H F)
      (fun _ => Smoothly fun d => Placeable H F (described H F) ∧
        d.inventory H = provision H F)
      (fun _ => Excused (¬ Placeable H F (described H F))) := by
  have hresources : Triple (Smoothly (Underway H F F.resources))
      (getResources H F) (fun _ => Smoothly (Underway H F []))
      (fun _ => Excused (¬ Placeable H F (described H F))) := by
    apply Triple.bind (attempt_smoothly .evaluateCrs)
    intro _
    apply Triple.bind (Triple.forEach_rest
      (I := fun rest => Smoothly (Underway H F rest))
      handleGpioResources_underway F.resources)
    exact fun _ => attempt_smoothly .endOfCrs
  apply Triple.bind hresources
  intro _
  apply Triple.bind (registerDsmClock_served.strengthenPre ?_)
  · intro _
    apply setDev_smoothly
    rintro d ⟨hplaceable, hinventory⟩
    exact ⟨hplaceable, congrArg (fun v : Inventory =>
      { v with consumer := some F.sensorName }) hinventory⟩
  · rintro w ⟨⟨pins, hstocked, hdescribed⟩, hsmooth⟩
    rw [List.filterMap_nil, describedFrom, List.append_nil] at hdescribed
    rw [hdescribed]
    exact ⟨hstocked, hsmooth⟩

end Walk

/-! ## Probe -/

section Probe

variable {H : Header} {F : Firmware}

theorem excused_calls (reason : Prop) :
    Calls (Frame.invariant (Excused reason)) where
  call _ _ _ _ h := h.imp_left fun hfailed hsmooth =>
    hfailed fun x hx => hsmooth x (List.mem_cons_of_mem _ hx)
  got _ h := h
  put _ _ h := h

theorem remove_excused (reason : Prop) :
    Triple (Excused reason) (remove H) (fun _ => Excused reason)
      (fun _ _ => False) := by
  have hregulators : Keeps (Frame.invariant (Excused reason))
      (fun _ : Errno => False) unregisterRegulator := by
    refine (Keeps.gets _).bind fun d => Keeps.forEach _ fun i _ => ?_
    cases (d.regulators i).rdev with
    | obj gpio => exact gpiodPut_framed (excused_calls reason) _
    | null => exact Keeps.pure ()
    | err e => exact Keeps.pure ()
  have hremove : Keeps (Frame.invariant (Excused reason))
      (fun _ : Errno => False) (remove H) := by
    refine (Keeps.modify fun _ h => h).bind fun _ => ?_
    refine (unregisterClock_framed (excused_calls reason)).bind fun _ => ?_
    exact (unregisterLeds_framed (excused_calls reason) H).bind
      fun _ => hregulators
  exact (hremove.triple fun _ _ hst h => hst h).consequence (fun _ h => h)
    (fun _ _ h => h) fun _ _ h => h.2

theorem underway_allocated (index : ℕ) :
    Underway H F F.resources
      { clock := { imgclkIndex := index }
        avddSecondSensor := discreteQuirks F } := by
  refine ⟨[], ⟨⟨?_, fun _ => Nat.zero_le _, ?_⟩, ?_, rfl, fun _ => rfl, ?_,
    rfl⟩, rfl⟩
  · exact fun m hm => absurd hm List.not_mem_nil
  · exact fun m hm => absurd hm List.not_mem_nil
  · simp [Device.inventory, inventoryOf, pinsOf]
  · exact fun _ => iff_of_true rfl rfl

theorem probe_supported :
    Triple (Smoothly fun _ => True) (probe H F)
      (fun _ => Smoothly fun d => Supported H F ∧
        d.inventory H = provision H F)
      (fun _ => Excused (¬ Supported H F)) := by
  apply Triple.bind (Q := fun _ => Smoothly fun _ => F.companion ≠ none)
  · apply check_smoothly
    · exact fun hnone _ _ h => h.companion hnone
    · exact fun hsome _ _ => hsome
  intro _
  apply Triple.bind (attempt_smoothly .fillCldb)
  intro _
  apply Triple.bind (Q := fun _ => Smoothly fun _ =>
    F.companion ≠ none ∧ F.controlLogicType = 1)
  · apply check_smoothly
    · exact fun hother _ _ h => hother h.discrete
    · exact fun hdiscrete _ h => ⟨h, not_not.mp hdiscrete⟩
  intro _
  apply Triple.bind (allocate_smoothly .kzalloc)
  intro _
  apply Triple.bind (Q := fun _ => Smoothly fun d =>
    Underway H F F.resources d ∧ F.companion ≠ none ∧
      F.controlLogicType = 1)
  · apply setDev_smoothly
    exact fun _ h => ⟨underway_allocated _, h⟩
  intro _
  apply Triple.bind (attempt_smoothly .sensorAdev)
  intro _
  apply Triple.with_fact (c := F.companion ≠ none ∧ F.controlLogicType = 1)
    fun _ h => h.1.2
  rintro ⟨hcompanion, hdiscrete⟩
  apply Triple.unwinding (J := fun _ =>
    Excused (¬ Placeable H F (described H F)))
  · refine parseCrs_provides.consequence (fun w h => ⟨h.1.1, h.2⟩) ?_
      fun _ _ h => h
    rintro _ w ⟨⟨hplaceable, hinventory⟩, hsmooth⟩
    exact ⟨⟨⟨hcompanion, hdiscrete, hplaceable⟩, hinventory⟩, hsmooth⟩
  · intro e
    refine (remove_excused _).consequence (fun _ h => h) ?_ fun _ _ h => h
    exact fun _ w h => h.imp_right fun hunplaceable hsupported =>
      hunplaceable hsupported.placeable

end Probe

/-- A probe succeeds if no kernel call fails and the firmware describes a device
all of whose pins the driver can place, and under no other condition; the sensor
is then provided with what the firmware describes, no more and no less. -/
theorem probe_provides (H : Header) (F : Firmware)
    (outcomes : List (Option Errno)) :
    match probe H F (World.initial outcomes) with
    | (.ok (), w) =>
        Smooth w ∧ Supported H F ∧ w.dev.inventory H = provision H F
    | (.error _, w) => ¬ (Smooth w ∧ Supported H F) := by
  have hinitial : Smoothly (fun _ => True) (World.initial outcomes) :=
    ⟨trivial, fun c hc => absurd hc List.not_mem_nil⟩
  have hprobe := probe_supported (H := H) (F := F) _ hinitial
  revert hprobe
  rcases probe H F (World.initial outcomes) with ⟨e | u, w⟩
  · rintro (hfailed | hunsupported)
    · exact fun h => hfailed h.1
    · exact fun h => hunsupported h.2
  · rintro ⟨⟨hsupported, hinventory⟩, hsmooth⟩
    exact ⟨hsmooth, hsupported, hinventory⟩

end Int3472
end SurfaceCameras
