import SurfaceCameras.Int3472.Journal
import SurfaceCameras.Int3472.Frames

/-!
# Which `_DSM` function describes which pin

The functions of the GPIO `_DSM` are numbered like the GPIO resources, two
ahead.  The driver counts the resources as it goes, but not those whose function
returns nothing: it asks for the same function again at every later pin.
-/

namespace SurfaceCameras
namespace Int3472

open Prog

def AcpiResource.gpio : AcpiResource → Option AcpiGpio
  | .gpioIo agpio => some agpio
  | .other => none

def Firmware.gpios (F : Firmware) : List AcpiGpio :=
  F.resources.filterMap AcpiResource.gpio

/-- The `k`-th resource was configured from the function that describes it. -/
def OwnFunction (handled : List Handled) (k : ℕ) : Prop :=
  handled[k]?.bind Handled.function = some (k + 2)

instance (handled : List Handled) (k : ℕ) : Decidable (OwnFunction handled k) :=
  inferInstanceAs (Decidable (_ = _))

/-! ## The counter -/

/-- How the resources to come are configured when the counter stands at
`n`. -/
def pairing (dsm : ℕ → Option (BitVec 64)) :
    ℕ → List AcpiGpio → List Handled
  | _, [] => []
  | n, agpio :: rest =>
      match dsm (n + 2) with
      | none => ⟨agpio, none⟩ :: pairing dsm n rest
      | some _ => ⟨agpio, some (n + 2)⟩ :: pairing dsm (n + 1) rest

section Pairing

variable {dsm : ℕ → Option (BitVec 64)}

theorem pairing_none {n : ℕ} (h : dsm (n + 2) = none) (agpio : AcpiGpio)
    (rest : List AcpiGpio) :
    pairing dsm n (agpio :: rest) = ⟨agpio, none⟩ :: pairing dsm n rest := by
  simp only [pairing, h]

theorem pairing_some {n : ℕ} {value : BitVec 64} (h : dsm (n + 2) = some value)
    (agpio : AcpiGpio) (rest : List AcpiGpio) :
    pairing dsm n (agpio :: rest) =
      ⟨agpio, some (n + 2)⟩ :: pairing dsm (n + 1) rest := by
  simp only [pairing, h]

theorem pairing_agpio (n : ℕ) (agpios : List AcpiGpio) :
    (pairing dsm n agpios).map Handled.agpio = agpios := by
  induction agpios generalizing n with
  | nil => rfl
  | cons agpio rest ih =>
      cases h : dsm (n + 2) with
      | none => rw [pairing_none h, List.map_cons, ih]
      | some value => rw [pairing_some h, List.map_cons, ih]

theorem pairing_length (n : ℕ) (agpios : List AcpiGpio) :
    (pairing dsm n agpios).length = agpios.length := by
  have hmap : (pairing dsm n agpios).map Handled.agpio = agpios :=
    pairing_agpio n agpios
  rw [← List.length_map Handled.agpio, hmap]

theorem pairing_starves {n : ℕ} (h : dsm (n + 2) = none)
    (agpios : List AcpiGpio) :
    pairing dsm n agpios = agpios.map fun agpio => ⟨agpio, none⟩ := by
  induction agpios with
  | nil => rfl
  | cons agpio rest ih => rw [pairing_none h, ih, List.map_cons]

/-- A resource gets its own function exactly if its function and those of all
resources before it return integers. -/
theorem pairing_function_iff (n : ℕ) (agpios : List AcpiGpio) {k : ℕ}
    (hk : k < agpios.length) :
    (pairing dsm n agpios)[k]?.bind Handled.function = some (n + k + 2) ↔
      ∀ j ≤ k, (dsm (n + j + 2)).isSome := by
  induction agpios generalizing n k with
  | nil => exact absurd hk (Nat.not_lt_zero k)
  | cons agpio rest ih =>
      cases h : dsm (n + 2) with
      | none =>
          rw [pairing_starves h, List.getElem?_map]
          refine iff_of_false ?_ fun hall => ?_
          · cases (agpio :: rest)[k]? with
            | none => exact fun heq => by cases heq
            | some _ => exact fun heq => by cases heq
          · have hzero := hall 0 (Nat.zero_le k)
            rw [Nat.add_zero, h] at hzero
            cases hzero
      | some value =>
          rw [pairing_some h]
          cases k with
          | zero =>
              refine iff_of_true rfl fun j hj => ?_
              rw [Nat.le_zero.mp hj, Nat.add_zero, h]
              rfl
          | succ k =>
              have hshift : n + (k + 1) = n + 1 + k := by omega
              rw [List.getElem?_cons_succ, hshift,
                ih (n + 1) (Nat.lt_of_succ_lt_succ hk)]
              constructor
              · intro hall j hj
                cases j with
                | zero =>
                    rw [Nat.add_zero, h]
                    rfl
                | succ j =>
                    have hj' := hall j (Nat.le_of_succ_le_succ hj)
                    rwa [show n + 1 + j = n + (j + 1) by omega] at hj'
              · intro hall j hj
                rw [show n + 1 + j = n + (j + 1) by omega]
                exact hall (j + 1) (Nat.succ_le_succ hj)

end Pairing

/-! ## Along the walk -/

/-- The counter of the device stays. -/
def counter : Frame World := Frame.fixing fun w => w.dev.ngpios

theorem counter_maps : Maps counter where
  call _ _ _ _ := rfl
  got _ := rfl
  put _ _ := rfl
  clock _ _ := rfl
  pled _ _ := rfl
  leds _ _ _ := rfl
  register _ _ _ := rfl
  regulators _ _ _ := rfl
  table _ _ _ := rfl

section Walk

variable {H : Header} {F : Firmware}

/-- What has been handled, and what is to come, is everything. -/
def OnTrack (F : Firmware) (rest : List AcpiResource) (s : World × Journal) :
    Prop :=
  s.2.handled ++
      pairing F.gpioDsm s.1.dev.ngpios (rest.filterMap AcpiResource.gpio) =
    pairing F.gpioDsm 0 F.gpios

/-- What has been handled so far. -/
def SoFar (F : Firmware) (j : Journal) : Prop :=
  j.handled <+: pairing F.gpioDsm 0 F.gpios

/-- Everything has been handled. -/
def AllHandled (F : Firmware) (j : Journal) : Prop :=
  j.handled = pairing F.gpioDsm 0 F.gpios

theorem AllHandled.soFar {j : Journal} (h : AllHandled F j) : SoFar F j := by
  rw [SoFar, h]

theorem OnTrack.of_counter {rest : List AcpiResource} {w w' : World}
    {j : Journal} (hn : w'.dev.ngpios = w.dev.ngpios)
    (h : OnTrack F rest (w, j)) : OnTrack F rest (w', j) := by
  rw [OnTrack, hn]
  exact h

theorem OnTrack.soFar {rest : List AcpiResource} {s : World × Journal}
    (h : OnTrack F rest s) : SoFar F s.2 :=
  ⟨_, h⟩

theorem recordMapGpio_counts (agpio : AcpiGpio) (use : PinUse) (n : ℕ)
    (handled : List Handled) :
    Triple (fun s => s.1.dev.ngpios = n ∧ s.2.handled = handled)
      (recordMapGpio H F agpio use)
      (fun _ s => s.1.dev.ngpios = n ∧ s.2.handled = handled)
      fun _ s => s.1.dev.ngpios = n ∧ s.2.handled = handled := by
  apply Triple.bind
  · refine (Triple.beside_keeps (mapGpio_framed counter_maps H F agpio use)
      ?_).consequence (fun _ h => h) (fun _ _ h => h) fun _ _ h => h.1
    exact fun s t g hst h => ⟨hst.trans h.1, h.2⟩
  · intro _
    refine Triple.record fun w j h => ⟨h.1, ?_⟩
    split
    · exact h.2
    · exact h.2

/-- One resource: whatever becomes of it, the rest is as it was foreseen. -/
theorem recordHandleGpioResources_onTrack (ares : AcpiResource)
    (rest : List AcpiResource) :
    Triple (OnTrack F (ares :: rest)) (recordHandleGpioResources H F ares)
      (fun _ => OnTrack F rest) (fun _ => OnTrack F rest) := by
  apply Triple.bind (Q := fun _ => OnTrack F (ares :: rest))
  · exact Triple.record fun _ _ h => h
  intro _
  cases ares with
  | other => exact Triple.pure fun _ h => h
  | gpioIo agpio =>
      apply Triple.gets_bind
      intro n
      have hcons : (AcpiResource.gpioIo agpio :: rest).filterMap
          AcpiResource.gpio = agpio :: rest.filterMap AcpiResource.gpio := rfl
      cases hdsm : F.gpioDsm (n + 2) with
      | none =>
          apply Triple.record
          rintro w j ⟨htrack, rfl⟩
          rw [OnTrack, hcons, pairing_none hdsm] at htrack
          rw [OnTrack, Journal.handle, List.append_assoc]
          exact htrack
      | some value =>
          have hnext : ∀ (w : World) (j : Journal), w.dev.ngpios = n →
              OnTrack F (.gpioIo agpio :: rest) (w, j) →
              (j.handle agpio (some (n + 2))).handled ++ pairing F.gpioDsm
                  (n + 1) (rest.filterMap AcpiResource.gpio) =
                pairing F.gpioDsm 0 F.gpios := by
            rintro w j rfl htrack
            rw [OnTrack, hcons, pairing_some hdsm] at htrack
            rw [Journal.handle, List.append_assoc]
            exact htrack
          apply Triple.bind (Q := fun _ s => s.1.dev.ngpios = n ∧
            s.2.handled ++ pairing F.gpioDsm (n + 1)
                (rest.filterMap AcpiResource.gpio) =
              pairing F.gpioDsm 0 F.gpios)
          · exact Triple.record fun w j h => ⟨h.2, hnext w j h.2 h.1⟩
          intro _
          rintro s ⟨hn, htrack⟩
          have hcount : Triple
              (fun t : World × Journal =>
                t.1.dev.ngpios = n ∧ t.2.handled = s.2.handled)
              (beside (setDev fun d => { d with ngpios := d.ngpios + 1 }))
              (fun _ => OnTrack F rest) (fun _ => OnTrack F rest) := by
            intro t ht
            change _ ++ pairing _ (t.1.dev.ngpios + 1) _ = _
            rw [ht.1, ht.2]
            exact htrack
          exact Triple.tryFinally
            (recordMapGpio_counts agpio _ n s.2.handled)
            (fun _ => hcount) (fun _ _ => hcount) (fun _ _ h => by cases h)
            s ⟨hn, rfl⟩

/-- The whole walk. -/
theorem recordGetResources_handles :
    Triple (OnTrack F F.resources) (recordGetResources H F)
      (fun _ s => AllHandled F s.2) (fun _ s => SoFar F s.2) := by
  have hattempt : ∀ {c : KernelCall}, c.Neutral →
      Triple (OnTrack F F.resources) (beside (attempt c))
        (fun _ => OnTrack F F.resources) (fun _ s => SoFar F s.2) := by
    intro c hc
    refine (Triple.beside_keeps (attempt_framed counter_maps.toCalls hc)
      ?_).consequence (fun _ h => h) (fun _ _ h => h) fun _ _ h => h.1.soFar
    exact fun s t g hst htrack => htrack.of_counter hst
  apply Triple.bind (hattempt (c := .evaluateCrs) trivial)
  intro _
  apply Triple.bind (Q := fun _ => OnTrack F [])
  · refine Triple.forEach_rest (fun ares rest => ?_) F.resources
    exact (recordHandleGpioResources_onTrack ares rest).consequence
      (fun _ h => h) (fun _ _ h => h) fun _ _ h => h.soFar
  · intro _
    refine (Triple.beside_history (J := AllHandled F) _).consequence ?_
      (fun _ _ h => h) fun _ _ h => h.soFar
    intro s h
    simpa only [OnTrack, AllHandled, List.filterMap_nil, pairing,
      List.append_nil] using h

/-- The journal says what was handled, whatever cleaning up does. -/
theorem recordCleanup_handled {J : List Handled → Prop} :
    Triple (fun s => J s.2.handled) (recordCleanup H)
      (fun _ s => J s.2.handled) fun _ s => J s.2.handled := by
  have hbeside : ∀ {α : Type} (p : Kernel α),
      Triple (fun s : World × Journal => J s.2.handled) (beside p)
        (fun _ s => J s.2.handled) fun _ s => J s.2.handled :=
    fun p => Triple.beside_history (J := fun j : Journal => J j.handled) p
  apply Triple.bind (Q := fun _ s => J s.2.handled)
  · exact Triple.record fun _ _ h => h
  intro _
  apply Triple.bind (hbeside _)
  intro _
  apply Triple.bind (hbeside _)
  intro _
  apply Triple.bind (hbeside _)
  intro _
  apply Triple.gets_bind
  intro d
  refine (Triple.forEach _ fun i _ => ?_).strengthenPre fun _ h => h.1
  apply Triple.bind (Q := fun _ s => J s.2.handled)
  · exact Triple.record fun _ _ h => h
  · exact fun _ => hbeside _

theorem recordProbe_handles :
    Triple (fun s => s.2.handled = []) (recordProbe H F)
      (fun _ s => AllHandled F s.2) (fun _ s => SoFar F s.2) := by
  have hbefore : ∀ {α : Type} (p : Kernel α),
      Triple (fun s : World × Journal => s.2.handled = []) (beside p)
        (fun _ s => s.2.handled = []) fun _ s => SoFar F s.2 := by
    intro α p
    refine (Triple.beside_history (J := fun j : Journal => j.handled = [])
      p).consequence (fun _ h => h) (fun _ _ h => h) fun _ s h => ?_
    rw [SoFar, h]
    exact List.nil_prefix
  have hafter : ∀ {α : Type} (p : Kernel α),
      Triple (fun s => AllHandled F s.2) (beside p)
        (fun _ s => AllHandled F s.2) fun _ s => SoFar F s.2 :=
    fun p => (Triple.beside_history (J := AllHandled F) p).consequence
      (fun _ h => h) (fun _ _ h => h) fun _ _ h => h.soFar
  apply Triple.bind (hbefore _)
  intro _
  apply Triple.bind (hbefore _)
  intro _
  apply Triple.bind (hbefore _)
  intro _
  apply Triple.bind (hbefore _)
  intro _
  apply Triple.bind (Q := fun _ => OnTrack F F.resources)
  · rintro s hs
    change s.2.handled ++ _ = _
    rw [hs]
    rfl
  intro _
  apply Triple.bind (Q := fun _ => OnTrack F F.resources)
  · refine (Triple.beside_keeps (attempt_framed counter_maps.toCalls
      (c := .sensorAdev) trivial) ?_).consequence (fun _ h => h)
      (fun _ _ h => h) fun _ _ h => h.1.soFar
    exact fun s t g hst htrack => htrack.of_counter hst
  intro _
  apply Triple.tryCatch (J := fun _ s => SoFar F s.2)
  · apply Triple.bind recordGetResources_handles
    intro _
    apply Triple.bind (hafter _)
    exact fun _ => hafter _
  · intro e
    apply Triple.bind (recordCleanup_handled (J := fun l =>
      l <+: pairing F.gpioDsm 0 F.gpios))
    exact fun _ => Triple.raise fun _ h => h

end Walk

/-! ## Every pin its own function -/

/-- In every probe the GPIO resources are handled in order, all of them if the
probe succeeds.  A resource whose function returns an integer is configured
from it if and only if the functions of all resources before it return integers
too. -/
theorem probe_pairs_iff (H : Header) (F : Firmware) (w : World) :
    let outcome := recordProbe H F (w, Journal.empty)
    let handled := outcome.2.2.handled
    (outcome.1, outcome.2.1) = probe H F w ∧
      handled.map Handled.agpio <+: F.gpios ∧
      (outcome.1 = .ok () → handled.length = F.gpios.length) ∧
      ∀ k < handled.length,
        (((F.gpioDsm (k + 2)).isSome → OwnFunction handled k) ↔
          ((F.gpioDsm (k + 2)).isSome →
            ∀ j < k, (F.gpioDsm (j + 2)).isSome)) := by
  have herase := recordProbe_erases (H := H) (F := F) (w, Journal.empty)
  have hhandles := recordProbe_handles (H := H) (F := F) (w, Journal.empty) rfl
  rcases hout : recordProbe H F (w, Journal.empty) with ⟨r, w', j⟩
  rw [hout] at herase hhandles
  have hprefix : SoFar F j := by
    cases r with
    | error e => exact hhandles
    | ok a => exact AllHandled.soFar hhandles
  refine ⟨herase, ?_, ?_, ?_⟩
  · have hmap := hprefix.map Handled.agpio
    rwa [pairing_agpio] at hmap
  · rintro rfl
    have hall : j.handled = pairing F.gpioDsm 0 F.gpios := hhandles
    change j.handled.length = _
    rw [hall, pairing_length]
  · intro k hk
    have hk : k < j.handled.length := hk
    have hget : j.handled[k]? = (pairing F.gpioDsm 0 F.gpios)[k]? := by
      rw [List.prefix_iff_getElem?.mp hprefix k hk]
      exact List.getElem?_eq_getElem hk
    have hlen : k < F.gpios.length := by
      have hle := hprefix.length_le
      rw [pairing_length] at hle
      exact lt_of_lt_of_le hk hle
    have hfunction : (pairing F.gpioDsm 0 F.gpios)[k]?.bind
        Handled.function = some (k + 2) ↔
        ∀ j ≤ k, (F.gpioDsm (j + 2)).isSome := by
      simpa only [Nat.zero_add] using pairing_function_iff 0 F.gpios hlen
    change ((F.gpioDsm (k + 2)).isSome →
      j.handled[k]?.bind Handled.function = some (k + 2)) ↔ _
    rw [hget, hfunction]
    constructor
    · exact fun h hown j' hj' => h hown j' (Nat.le_of_lt hj')
    · intro h hown j' hj'
      rcases Nat.lt_or_eq_of_le hj' with hlt | rfl
      · exact h hown j' hlt
      · exact hown

/-- Three reset pins, of which the second has no `_DSM` function. -/
def pinGap : Firmware where
  companion := some "INT3472:00"
  sysVendor := ""
  productVersion := ""
  controlLogicType := 1
  clockSource := 0
  sensorHid := "INT33BE"
  sensorName := "i2c-INT33BE:00"
  mclkSpeed := 19200000
  resources := [.gpioIo ⟨"GPI0", 0x6c⟩, .gpioIo ⟨"GPI0", 0x6d⟩,
    .gpioIo ⟨"GPI0", 0x6e⟩]
  gpioDsm := fun n =>
    if n = 2 then some 0x01006c00
    else if n = 4 then some 0x01006e01 else none
  clkDsm := true
  acpiDev := fun _ => some (some "INT34C5:00")
  ov8865Pwr1ConId := "dvdd"

/-- The third pin has a function of its own and is left out. -/
theorem pinGap_not_paired :
    ¬ ∀ k < ((recordProbe kernelHeader pinGap
        (World.initial [], Journal.empty)).2.2.handled).length,
      (pinGap.gpioDsm (k + 2)).isSome →
        OwnFunction (recordProbe kernelHeader pinGap
          (World.initial [], Journal.empty)).2.2.handled k := by
  decide +kernel

end Int3472
end SurfaceCameras
