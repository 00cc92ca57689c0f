import SurfaceCameras.Ov7251.System
import SurfaceCameras.Ov7251.Usability

/-!
# The illuminator of the OV7251

A start that fails drops its reference and writes nothing more, and until the
sensor is suspended it goes on with what it has been told.  So a failed start
leaves the illuminator dark or not according to the write it failed at, and to
what an earlier stop left behind.
-/

namespace SurfaceCameras
namespace Ov7251

open Kernel Device Prog Runs

/-- The sensor is powered and streams, and its strobe drives the
illuminator. -/
def Illuminates (d : Device) : Prop :=
  d.pm.active = true ∧ d.bus.regs 0x0100 = 0x1 ∧ d.bus.regs 0x3005 = 0x08

section Parameters

variable (par : Params) (nearest : ℕ → ℕ → Fin 3)

/-- What a call may leave behind: no illuminator after a start that failed, and
none after a stop whose standby write, on which its result depends,
succeeded. -/
def LeavesDark (d : Device) : List Bool × SysCall → Prop
  | (outcomes, .stream hasLed true) =>
      ¬ Returns (sStream par hasLed true) (d.facing outcomes) →
        ¬ Illuminates (sStream par hasLed true (d.facing outcomes)).2
  | (outcomes, .stream hasLed false) =>
      Returns (sStream par hasLed false) (d.facing outcomes) →
        ¬ Illuminates (sStream par hasLed false (d.facing outcomes)).2
  | _ => True

/-! ## The writes of a start -/

/-- The value of `0x3005` in the table of a mode. -/
def padValue (n : Fin 3) : BitVec 8 :=
  if n.val = 0 ∧ par.winTiming ≠ 0 then 0x08 else 0x00

/-- A resumed start as far as the first register of the mode, the routing of
the strobe. -/
def startPads : Prog Device Fault (Fin 3) := do
  pllConfigure par
  let mode ← Prog.gets Device.currentMode
  setRegisterArray ((modeInfoData par mode).data.take 1)
  pure mode

/-- From there to the write that lets the sensor stream. -/
def startMode (mode : Fin 3) : Prog Device Fault Unit := do
  setRegisterArray ((modeInfoData par mode).data.drop 1)
  handlerSetup par
  writeReg 0x0100 0x1

/-- A resumed start as far as the write that lets the sensor stream. -/
def startSensor : Prog Device Fault Unit := startPads par >>= startMode par

/-- A part of a start, after the device has been resumed for it. -/
def resumedFor {α : Type} (p : Prog Device Fault α) : Prog Device Fault α := do
  pmRuntimeResumeAndGet pmField setPowerOn
  p

/-- The start does not fail where a failure leaves the illuminator on.  Before
the sensor streams, that is where an earlier stop could not stop it and the
strobe is routed to the illuminator, by what came before or by the table of the
mode.  Once it streams, it is the routing, if the table has done it already,
and the pattern that is written after it. -/
structure FailsDark (hasLed : Bool) (d : Device) : Prop where
  pads : Returns (resumedFor (pure ())) d →
    ¬ Returns (resumedFor (startPads par)) d →
      ¬ (d.bus.regs 0x0100 = 0x1 ∧ d.bus.regs 0x3005 = 0x08)
  mode : Returns (resumedFor (startPads par)) d →
    ¬ Returns (resumedFor (startSensor par)) d →
      ¬ (d.bus.regs 0x0100 = 0x1 ∧ padValue par d.currentMode = 0x08)
  routing : Returns (resumedFor (startSensor par)) d → hasLed = true →
    (resumedFor (startSensor par) d).2.bus.faults[0]? = some true →
      padValue par d.currentMode ≠ 0x08
  pattern : Returns (resumedFor (startSensor par)) d → hasLed = true →
    (resumedFor (startSensor par) d).2.bus.faults[0]? ≠ some true →
      (resumedFor (startSensor par) d).2.bus.faults[1]? ≠ some true

/-- Every start of the run fails dark, if it fails. -/
def StartsDark (d : Device) : List Bool × SysCall → Prop
  | (outcomes, .stream hasLed true) => FailsDark par hasLed (d.facing outcomes)
  | _ => True

/-- Only the first register of a table is one of the two that decide. -/
def RoutesFirst (v : BitVec 8) (regs : List RegValue) : Prop :=
  regs = (0x3005, v) :: regs.drop 1 ∧
    ∀ r ∈ regs.drop 1, r.1 ∉ [0x0100, 0x3005]

theorem data_routesFirst (n : Fin 3) :
    RoutesFirst (padValue par n) (modeInfoData par n).data := by
  have hwinTable : RoutesFirst 0x08 settingVgaWin := by
    constructor <;> decide +kernel
  have h30 : RoutesFirst 0x00 settingVga30fps := by
    constructor <;> decide +kernel
  match n with
  | 0 =>
      rw [modeInfoData_zero, firstMode, padValue]
      by_cases hwin : par.winTiming ≠ 0
      · rw [if_pos hwin, if_pos ⟨rfl, hwin⟩]
        exact hwinTable
      · rw [if_neg hwin, if_neg (fun h => hwin h.2)]
        split
        · exact h30
        · exact h30
  | 1 =>
      have h60 : RoutesFirst 0x00 settingVga60fps := by
        constructor <;> decide +kernel
      exact h60
  | 2 =>
      have h90 : RoutesFirst 0x00 settingVga90fps := by
        constructor <;> decide +kernel
      exact h90

/-- A resumed start is made of its parts. -/
theorem sStream_eq (hasLed : Bool) :
    sStream par hasLed true =
      resumedFor (Prog.tryCatch
        (startSensor par >>= fun _ => irLedSet hasLed true)
        fun e => do
          pmRuntimePut pmField
          Prog.raise e) := by
  have hbody : (startSensor par >>= fun _ => irLedSet hasLed true) = (do
      pllConfigure par
      let mode ← Prog.gets Device.currentMode
      setRegisterArray (modeInfoData par mode).data
      handlerSetup par
      writeReg 0x0100 0x1
      irLedSet hasLed true) := by
    simp only [startSensor, startPads, startMode, bind_assoc, pure_bind]
    congr 1
    funext _
    congr 1
    funext mode
    rw [(data_routesFirst par mode).1]
    simp only [List.take_succ_cons, List.take_zero, List.drop_succ_cons,
      List.drop_zero, setRegisterArray, Prog.forEach_cons, Prog.forEach_nil,
      bind_assoc, pure_bind]
  rw [hbody]
  rfl

/-! ## What the registers show -/

/-- The sensor is powered, reads `m` in `0x0100` and `p` in `0x3005`, and is to
stream in the mode `n`. -/
structure Showing (m p : BitVec 8) (n : Fin 3) (d : Device) : Prop where
  active : d.pm.active = true
  select : d.bus.regs 0x0100 = m
  pad : d.bus.regs 0x3005 = p
  mode : d.currentMode = n

/-- The two registers that decide, and the mode. -/
def shown : Frame Device :=
  ((Frame.fixing fun d => d.bus.regs 0x0100).and
    (Frame.fixing fun d => d.bus.regs 0x3005)).and
      (Frame.fixing Device.currentMode)

theorem shown_admits : AdmitsPower shown (· ∉ [0x0100, 0x3005]) := by
  have hne : ∀ a ∈ [0x0100, 0x3005], ∀ x ∉ [0x0100, 0x3005], x ≠ a := by
    rintro a ha x hx rfl
    exact hx ha
  have hselect := (register_admits 0x0100).mono (hne _ (by decide))
  have hpad := (register_admits 0x3005).mono (hne _ (by decide))
  have hmode := currentMode_admits.mono (B := (· ∉ [0x0100, 0x3005]))
    fun _ _ => trivial
  exact (hselect.and hpad).and hmode

theorem steady_admits :
    Admits (shown.and (Frame.fixing Device.pm)) (· ∉ [0x0100, 0x3005]) :=
  shown_admits.toAdmits.and (pm_admits.mono fun _ _ => trivial)

section

variable {m p : BitVec 8} {n : Fin 3}

theorem Showing.illuminates_iff {d : Device} (h : Showing m p n d) :
    Illuminates d ↔ m = 0x1 ∧ p = 0x08 := by
  unfold Illuminates
  rw [h.select, h.pad]
  exact and_iff_right h.active

omit par in
theorem showing_of_stays {q : Prog Device Fault Unit}
    (hq : Stays (shown.and (Frame.fixing Device.pm)) q) :
    Triple (Showing m p n) q (fun _ => Showing m p n)
      (fun _ => Showing m p n) := by
  apply (hq.triple (P := Showing m p n) ?_).consequence (fun _ h => h)
    (fun _ _ h => h) fun _ _ h => h.1
  rintro d d' ⟨⟨⟨hselect, hpad⟩, hmode⟩, hpm⟩ hd
  have hpm : d'.pm = d.pm := hpm
  exact ⟨hpm ▸ hd.active, Eq.trans hselect hd.select, Eq.trans hpad hd.pad,
    Eq.trans hmode hd.mode⟩

omit par in
theorem writeReg_shows {reg : ℕ} {v m' p' : BitVec 8}
    (hstore : ∀ d, Showing m p n d →
      Showing m' p' n (busField.update (fun b => b.store reg [v]) d)) :
    Triple (Showing m p n) (writeReg reg v) (fun _ => Showing m' p' n)
      (fun _ => Showing m p n) := by
  apply Triple.bind (Q := fun _ => Showing m p n)
  · exact showing_of_stays (transfer_stays steady_admits.toAdmitsBus)
  · exact fun _ => Triple.modify hstore

omit par in
theorem writePad_shows (v : BitVec 8) :
    Triple (Showing m p n) (writeReg 0x3005 v) (fun _ => Showing m v n)
      (fun _ => Showing m p n) := by
  apply writeReg_shows
  intro d hd
  have hregs : (busField.update (fun b => b.store 0x3005 [v]) d).bus.regs =
      Function.update d.bus.regs 0x3005 v := rfl
  refine ⟨hd.active, ?_, ?_, hd.mode⟩
  · rw [hregs, Function.update_of_ne (by decide)]
    exact hd.select
  · rw [hregs, Function.update_self]

omit par in
theorem writeSelect_shows :
    Triple (Showing m p n) (writeReg 0x0100 0x1) (fun _ => Showing 0x1 p n)
      (fun _ => Showing m p n) := by
  apply writeReg_shows
  intro d hd
  have hregs : (busField.update (fun b => b.store 0x0100 [0x1]) d).bus.regs =
      Function.update d.bus.regs 0x0100 0x1 := rfl
  refine ⟨hd.active, ?_, ?_, hd.mode⟩
  · rw [hregs, Function.update_self]
  · rw [hregs, Function.update_of_ne (by decide)]
    exact hd.pad

omit par in
/-- A resume keeps what the registers show; one that fails leaves the sensor
without power. -/
theorem resume_shows :
    Triple (fun d => d.bus.regs 0x0100 = m ∧ d.bus.regs 0x3005 = p ∧
        d.currentMode = n)
      (pmRuntimeResumeAndGet pmField setPowerOn)
      (fun _ => Showing m p n) (fun _ d => d.pm.active = false) := by
  have hpm : Stays (Frame.fixing pmField.get) setPowerOn :=
    setPowerOn_stays pm_admits.toAdmitsBus (fun _ _ => rfl) fun _ _ => trivial
  have hkeep := (pmRuntimeResumeAndGet_stays shown_admits.pm
    (setPowerOn_stays shown_admits.toAdmitsBus shown_admits.power
      (by decide))).triple (P := fun d => d.bus.regs 0x0100 = m ∧
        d.bus.regs 0x3005 = p ∧ d.currentMode = n) ?_
  · apply (hkeep.and (pmRuntimeResumeAndGet_active hpm)).consequence
    · exact fun _ hd => ⟨hd, trivial⟩
    · rintro _ d ⟨⟨hselect, hpad, hmode⟩, hactive⟩
      exact ⟨hactive, hselect, hpad, hmode⟩
    · exact fun _ _ hd => hd.2
  · rintro d d' ⟨⟨hselect, hpad⟩, hmode⟩ ⟨hm, hp, hn⟩
    exact ⟨Eq.trans hselect hm, Eq.trans hpad hp, Eq.trans hmode hn⟩

theorem startPads_shows :
    Triple (Showing m p n) (startPads par)
      (fun k d => Showing m (padValue par n) n d ∧ k = n)
      (fun _ => Showing m p n) := by
  apply Triple.bind (Q := fun _ => Showing m p n)
  · exact showing_of_stays (pllConfigure_stays steady_admits.toAdmitsBus par (by decide))
  intro _
  apply Triple.bind (Q := fun k d => Showing m p n d ∧ k = n)
  · exact Triple.gets fun d hd => ⟨hd, hd.mode⟩
  intro k
  apply Triple.of_fact
  rintro rfl
  have htable : (modeInfoData par k).data.take 1 =
      [(0x3005, padValue par k)] := by
    rw [(data_routesFirst par k).1]
    rfl
  rw [htable]
  apply Triple.bind (Q := fun _ => Showing m (padValue par k) k)
  · apply Triple.bind (writePad_shows _)
    exact fun _ => Triple.pure fun _ h => h
  · exact fun _ => Triple.pure fun _ h => ⟨h, rfl⟩

theorem startMode_shows :
    Triple (Showing m p n) (startMode par n) (fun _ => Showing 0x1 p n)
      (fun _ => Showing m p n) := by
  apply Triple.bind (Q := fun _ => Showing m p n)
  · apply showing_of_stays
    exact setRegisterArray_stays steady_admits.toAdmitsBus (data_routesFirst par n).2
  intro _
  apply Triple.bind (Q := fun _ => Showing m p n)
  · exact showing_of_stays (handlerSetup_stays steady_admits (by decide) par)
  · exact fun _ => writeSelect_shows

/-! ## The writes of the illuminator -/

omit par in
/-- A register write takes the next outcome. -/
theorem writeReg_apply (reg : ℕ) (val : BitVec 8) (d : Device) :
    writeReg reg val d =
      if d.bus.faults[0]? = some true then
        (.error (.errno .eio), d.facing d.bus.faults.tail)
      else
        (.ok (), busField.update (fun b => b.store reg [val])
          (d.facing d.bus.faults.tail)) := by
  match hfaults : d.bus.faults with
  | [] =>
      have hclean : (busField.get d).faults = [] := hfaults
      have hfacing : d.facing [] = d := by
        rw [← hfaults]
        rfl
      exact (busWrite_ok hclean reg [val]).trans (by rw [← hfacing]; rfl)
  | true :: rest => exact Prog.bind_error (transfer_error hfaults)
  | false :: rest => exact Prog.bind_ok (transfer_next hfaults)

/-- How the illuminator is switched on while the sensor streams. -/
theorem irLedSet_cases {d : Device} (hd : Showing m p n d) :
    (d.bus.faults[0]? = some true ∧
        ∃ e d', irLedSet true true d = (.error e, d') ∧ Showing m p n d') ∨
      (d.bus.faults[0]? ≠ some true ∧ d.bus.faults[1]? = some true ∧
        ∃ e d', irLedSet true true d = (.error e, d') ∧ Showing m 0x08 n d') ∨
      (d.bus.faults[0]? ≠ some true ∧ d.bus.faults[1]? ≠ some true ∧
        Returns (irLedSet true true) d) := by
  have hpad := writePad_shows (m := m) (p := p) (n := n) 0x08 d hd
  have hdef : irLedSet true true = (do
      writeReg 0x3005 0x08
      writeReg 0x3b81 0xff : Prog Device Fault Unit) := rfl
  rw [hdef]
  by_cases h₀ : d.bus.faults[0]? = some true
  · have hwrite := writeReg_apply 0x3005 0x08 d
    rw [if_pos h₀] at hwrite
    rw [hwrite] at hpad
    exact Or.inl ⟨h₀, _, _, Prog.bind_error hwrite, hpad⟩
  · have hwrite := writeReg_apply 0x3005 0x08 d
    rw [if_neg h₀] at hwrite
    rw [hwrite] at hpad
    have hbeside : (0x3b81 : ℕ) ∉ [0x0100, 0x3005] := by decide
    have hpattern := showing_of_stays
      (writeReg_stays steady_admits.toAdmitsBus hbeside 0xff) _ hpad
    have hwrite' := writeReg_apply 0x3b81 0xff (busField.update
      (fun b => b.store 0x3005 [0x08]) (d.facing d.bus.faults.tail))
    have hnext : (busField.update (fun b => b.store 0x3005 [0x08])
        (d.facing d.bus.faults.tail)).bus.faults[0]? = d.bus.faults[1]? :=
      List.getElem?_tail
    rw [hnext] at hwrite'
    by_cases h₁ : d.bus.faults[1]? = some true
    · rw [if_pos h₁] at hwrite'
      rw [hwrite'] at hpattern
      exact Or.inr (Or.inl ⟨h₀, h₁, _, _, (Prog.bind_ok hwrite).trans hwrite',
        hpattern⟩)
    · rw [if_neg h₁] at hwrite'
      refine Or.inr (Or.inr ⟨h₀, h₁, (), ?_⟩)
      rw [Prog.bind_ok hwrite, hwrite']

/-! ## Starts and stops -/

theorem Showing.put {d : Device} (hd : Showing m p n d) :
    Showing m p n (pmField.update RuntimePm.put d) :=
  ⟨hd.active, hd.select, hd.pad, hd.mode⟩

theorem resumedFor_ok {α : Type} (q : Prog Device Fault α) {d d₁ : Device}
    (h : pmRuntimeResumeAndGet pmField setPowerOn d = (.ok (), d₁)) :
    resumedFor q d = q d₁ :=
  Prog.bind_ok h

theorem resumedFor_error {α : Type} (q : Prog Device Fault α) {d d₁ : Device}
    {e : Fault}
    (h : pmRuntimeResumeAndGet pmField setPowerOn d = (.error e, d₁)) :
    resumedFor q d = (.error e, d₁) :=
  Prog.bind_error h

theorem not_returns {α : Type} {q : Prog Device Fault α} {d d' : Device}
    {e : Fault} (h : q d = (.error e, d')) : ¬ Returns q d := by
  rintro ⟨a, ha⟩
  rw [h] at ha
  cases ha

/-- A resumed start that fails in a state that shows its registers. -/
theorem failed_dark_iff {hasLed : Bool} {d d₁ d' : Device} {e : Fault}
    (hres : pmRuntimeResumeAndGet pmField setPowerOn d = (.ok (), d₁))
    (hbody : (startSensor par >>= fun _ => irLedSet hasLed true) d₁ =
      (.error e, d')) (hd' : Showing m p n d') :
    (¬ Returns (sStream par hasLed true) d →
        ¬ Illuminates (sStream par hasLed true d).2) ↔
      ¬ (m = 0x1 ∧ p = 0x08) := by
  have hrun : sStream par hasLed true d =
      (.error e, pmField.update RuntimePm.put d') := by
    rw [sStream_eq, resumedFor_ok _ hres, Prog.tryCatch_error hbody]
    rfl
  rw [hrun, hd'.put.illuminates_iff]
  exact ⟨fun h => h (not_returns hrun), fun h _ => h⟩

/-- Without power nothing is lit, and no part of the start returns. -/
theorem unpowered_dark (hasLed : Bool) {d d₁ : Device} {e : Fault}
    (hres : pmRuntimeResumeAndGet pmField setPowerOn d = (.error e, d₁))
    (hoff : d₁.pm.active = false) :
    ¬ Illuminates (sStream par hasLed true d).2 ∧ FailsDark par hasLed d := by
  have hfail : ∀ {α : Type} (q : Prog Device Fault α),
      ¬ Returns (resumedFor q) d :=
    fun q => not_returns (resumedFor_error q hres)
  constructor
  · rintro ⟨hactive, -⟩
    rw [sStream_eq, resumedFor_error _ hres, hoff] at hactive
    cases hactive
  · exact ⟨fun h => absurd h (hfail _), fun h => absurd h (hfail _),
      fun h => absurd h (hfail _), fun h => absurd h (hfail _)⟩

/-- Once the sensor streams, only the writes to the illuminator can fail. -/
theorem streaming_dark_iff (hasLed : Bool) {d d₁ d₃ : Device}
    (hres : pmRuntimeResumeAndGet pmField setPowerOn d = (.ok (), d₁))
    (hret : Returns (resumedFor (startPads par)) d)
    (hsensor : startSensor par d₁ = (.ok (), d₃))
    (hmode : Showing 0x1 (padValue par d.currentMode) d.currentMode d₃) :
    (¬ Returns (sStream par hasLed true) d →
        ¬ Illuminates (sStream par hasLed true d).2) ↔
      FailsDark par hasLed d := by
  have hfor : ∀ {α : Type} (q : Prog Device Fault α),
      resumedFor q d = q d₁ := fun q => resumedFor_ok q hres
  have hstate : (resumedFor (startSensor par) d).2 = d₃ :=
    congrArg Prod.snd ((hfor _).trans hsensor)
  have hret' : Returns (resumedFor (startSensor par)) d :=
    ⟨_, congrArg Prod.fst ((hfor _).trans hsensor)⟩
  have hled : ∀ {x : Except Fault Unit × Device},
      irLedSet hasLed true d₃ = x →
        (startSensor par >>= fun _ => irLedSet hasLed true) d₁ = x :=
    fun h => (Prog.bind_ok hsensor).trans h
  have hok : Returns (irLedSet hasLed true) d₃ →
      Returns (sStream par hasLed true) d := by
    rintro ⟨⟨⟩, hret⟩
    refine ⟨(), ?_⟩
    rw [sStream_eq, hfor]
    exact congrArg Prod.fst (Prog.tryCatch_ok (hled (Prod.ext hret rfl)))
  cases hasLed with
  | false =>
      refine iff_of_true (fun h => absurd (hok ⟨(), rfl⟩) h) ?_
      refine ⟨fun _ h => absurd hret h, fun _ h => absurd hret' h, ?_, ?_⟩
      · rintro - ⟨⟩
      · rintro - ⟨⟩
  | true =>
      rcases irLedSet_cases hmode with
        ⟨h₀, e, d', hrun, hd'⟩ | ⟨h₀, h₁, e, d', hrun, hd'⟩ | ⟨h₀, h₁, hrun⟩
      · rw [failed_dark_iff par hres (hled hrun) hd', and_iff_right rfl]
        constructor
        · intro h
          refine ⟨fun _ h => absurd hret h, fun _ h => absurd hret' h,
            fun _ _ _ => h, fun _ _ hne => ?_⟩
          rw [hstate] at hne
          exact absurd h₀ hne
        · intro h
          apply h.routing hret' rfl
          rw [hstate]
          exact h₀
      · rw [failed_dark_iff par hres (hled hrun) hd']
        refine iff_of_false (fun h => h ⟨rfl, rfl⟩) fun h => ?_
        have hpattern := h.pattern hret' rfl
        rw [hstate] at hpattern
        exact hpattern h₀ h₁
      · refine iff_of_true (fun h => absurd (hok hrun) h) ?_
        refine ⟨fun _ h => absurd hret h, fun _ h => absurd hret' h, ?_, ?_⟩
        · intro _ _ h
          rw [hstate] at h
          exact absurd h h₀
        · intro _ _ _
          rw [hstate]
          exact h₁

/-- A start leaves the illuminator dark, if it fails, exactly if it does not
fail at the writes that leave it on. -/
theorem start_dark_iff (hasLed : Bool) (d : Device) :
    (¬ Returns (sStream par hasLed true) d →
        ¬ Illuminates (sStream par hasLed true d).2) ↔
      FailsDark par hasLed d := by
  have hshow := resume_shows (m := d.bus.regs 0x0100) (p := d.bus.regs 0x3005)
    (n := d.currentMode) d ⟨rfl, rfl, rfl⟩
  rcases hres : pmRuntimeResumeAndGet pmField setPowerOn d with ⟨e | ⟨⟩, d₁⟩
  · rw [hres] at hshow
    have hdark := unpowered_dark par hasLed hres hshow
    exact iff_of_true (fun _ => hdark.1) hdark.2
  rw [hres] at hshow
  have hfor : ∀ {α : Type} (q : Prog Device Fault α),
      resumedFor q d = q d₁ := fun q => resumedFor_ok q hres
  have hpads := startPads_shows par d₁ hshow
  rcases hpads' : startPads par d₁ with ⟨e | k, d₂⟩
  · -- The failure comes before the routing.
    rw [hpads'] at hpads
    have hsensor := Prog.bind_error (f := startMode par) hpads'
    rw [failed_dark_iff par hres (Prog.bind_error hsensor) hpads]
    have hnot := not_returns ((hfor _).trans hpads')
    have hnot' := not_returns ((hfor _).trans hsensor)
    constructor
    · exact fun h => ⟨fun _ _ => h, fun h => absurd h hnot,
        fun h => absurd h hnot', fun h => absurd h hnot'⟩
    · exact fun h => h.pads ⟨(), congrArg Prod.fst (hfor _)⟩ hnot
  rw [hpads'] at hpads
  obtain ⟨hpads, rfl⟩ := hpads
  have hret : Returns (resumedFor (startPads par)) d :=
    ⟨_, congrArg Prod.fst ((hfor _).trans hpads')⟩
  have hmode := startMode_shows par d₂ hpads
  rcases hmode' : startMode par d.currentMode d₂ with ⟨e | ⟨⟩, d₃⟩
  · -- It comes before the sensor streams.
    rw [hmode'] at hmode
    have hsensor : startSensor par d₁ = (.error e, d₃) :=
      (Prog.bind_ok hpads').trans hmode'
    rw [failed_dark_iff par hres (Prog.bind_error hsensor) hmode]
    have hnot := not_returns ((hfor _).trans hsensor)
    constructor
    · exact fun h => ⟨fun _ h => absurd hret h, fun _ _ => h,
        fun h => absurd h hnot, fun h => absurd h hnot⟩
    · exact fun h => h.mode hret hnot
  -- It comes after, if at all.
  rw [hmode'] at hmode
  exact streaming_dark_iff par hasLed hres hret
    ((Prog.bind_ok hpads').trans hmode') hmode

/-- A stop whose standby write succeeds leaves a sensor that does not
stream. -/
theorem stop_dark (hasLed : Bool) (d : Device)
    (hret : Returns (sStream par hasLed false) d) :
    ¬ Illuminates (sStream par hasLed false d).2 := by
  have hstop : Triple (fun _ => True) (sStream par hasLed false)
      (fun _ d => d.bus.regs 0x0100 = 0x0) (fun _ _ => True) := by
    apply Triple.bind (Triple.any _)
    intro _
    apply Triple.tryFinally (K := fun _ d => d.bus.regs 0x0100 = 0x0)
      (J := fun _ _ => True)
    · apply Triple.bind (Triple.any _)
      intro _
      apply Triple.modify
      intro d _
      exact Function.update_self 0x0100 (0x0 : BitVec 8) d.bus.regs
    · exact fun _ => Triple.modify fun _ h => h
    · exact fun _ _ => Triple.any _
    · exact fun _ _ _ _ => trivial
  rintro ⟨-, hselect, -⟩
  obtain ⟨a, ha⟩ := hret
  have h := hstop d trivial
  rcases hrun : sStream par hasLed false d with ⟨e | _, d'⟩
  · rw [hrun] at ha
    cases ha
  · rw [hrun] at h hselect
    have h : d'.bus.regs 0x0100 = 0x0 := h
    rw [h] at hselect
    exact absurd hselect (by decide)

/-- A start that succeeds routes the strobe to the illuminator if that is
switched on, and otherwise as the table of the mode does. -/
theorem started_shows (hasLed : Bool) :
    Triple (fun d => d.bus.regs 0x0100 = m ∧ d.bus.regs 0x3005 = p ∧
        d.currentMode = n)
      (sStream par hasLed true)
      (fun _ => Showing 0x1 (if hasLed = true then 0x08 else padValue par n) n)
      (fun _ _ => True) := by
  have hloose : ∀ {q : Prog Device Fault Unit} {P : Device → Prop}
      {Q : Unit → Device → Prop} {m' p' : BitVec 8},
      Triple P q Q (fun _ => Showing m' p' n) →
        Triple P q Q (fun _ _ => True) := fun h =>
    h.consequence (fun _ h => h) (fun _ _ h => h) fun _ _ _ => trivial
  rw [sStream_eq]
  apply Triple.bind (Q := fun _ => Showing m p n)
  · exact resume_shows.consequence (fun _ h => h) (fun _ _ h => h)
      fun _ _ _ => trivial
  intro _
  apply Triple.tryCatch (J := fun _ _ => True)
  · apply Triple.bind (Q := fun _ => Showing 0x1 (padValue par n) n)
    · apply Triple.bind (Q := fun k d => Showing m (padValue par n) n d ∧ k = n)
      · exact (startPads_shows par).consequence (fun _ h => h) (fun _ _ h => h)
          fun _ _ _ => trivial
      intro k
      apply Triple.of_fact
      rintro rfl
      exact hloose (startMode_shows par)
    intro _
    cases hasLed with
    | false => exact Triple.pure fun _ h => h
    | true =>
        apply Triple.bind (hloose (writePad_shows 0x08))
        intro _
        exact hloose (showing_of_stays
          (writeReg_stays steady_admits.toAdmitsBus (by decide) 0xff))
  · intro e
    exact Triple.bind (Triple.any _) fun _ => Triple.raise fun _ _ => trivial

end

omit par in
theorem hasIrLed_iff (irLed : ℤ) (acpiMatch : Bool) :
    hasIrLed irLed acpiMatch = true ↔ 0 < irLed ∨ irLed < 0 ∧ acpiMatch = true := by
  unfold hasIrLed
  split
  case isTrue hparam =>
    rw [bne_iff_ne]
    omega
  case isFalse hparam =>
    have hneg : irLed < 0 := by omega
    simp [hneg, hneg.le]

/-- Unless the mode routes the strobe itself, a start that succeeds lights the
illuminator if the module parameter says so, or leaves it to a match of the ACPI
id. -/
theorem started_illuminates_iff (irLed : ℤ) (acpiMatch : Bool) (d : Device)
    (hret : Returns (sStream par (hasIrLed irLed acpiMatch) true) d) :
    Illuminates (sStream par (hasIrLed irLed acpiMatch) true d).2 ↔
      (0 < irLed ∨ irLed < 0 ∧ acpiMatch = true) ∨
        padValue par d.currentMode = 0x08 := by
  rw [← hasIrLed_iff]
  obtain ⟨⟨⟩, hok⟩ := hret
  have hshow := started_shows (m := d.bus.regs 0x0100) (p := d.bus.regs 0x3005)
    (n := d.currentMode) par (hasIrLed irLed acpiMatch) d ⟨rfl, rfl, rfl⟩
  revert hok hshow
  rcases sStream par (hasIrLed irLed acpiMatch) true d with ⟨_ | _, d'⟩
  · intro hok
    cases hok
  · intro _ hshow
    have hshow : Showing _ _ _ d' := hshow
    rw [hshow.illuminates_iff, and_iff_right rfl]
    cases hasIrLed irLed acpiMatch <;> simp

/-! ## Runs -/

/-- In every run, with any failing transfers and any changes of the module
parameter, the starts that fail and the stops that succeed leave the
illuminator dark exactly if every start that fails does so where it may. -/
theorem leavesDark_iff (d : Device) (calls : List (List Bool × SysCall)) :
    Along (sysStep par nearest) (LeavesDark par) d calls ↔
      Along (sysStep par nearest) (StartsDark par) d calls := by
  apply along_iff_along_of (I := fun _ => True) (A := fun _ _ => True)
    (fun _ _ _ _ _ => trivial) ?_ trivial
    (along_of_every (fun _ _ => trivial) _ _)
  rintro d ⟨outcomes, c⟩ - -
  cases c with
  | call c => exact Iff.rfl
  | autosuspend lost => exact Iff.rfl
  | stream hasLed enable =>
      cases enable with
      | true => exact start_dark_iff par hasLed (d.facing outcomes)
      | false =>
          exact iff_of_true (stop_dark par hasLed (d.facing outcomes)) trivial

end Parameters

/-- The outcomes of a start right after probe, with the sensor still on, whose
last write fails. -/
def patternFails : List Bool := List.replicate 143 false ++ [true]

/-- The write of the strobe pattern fails: the sensor streams on, with its
strobe at the illuminator. -/
theorem leavesDark_fails :
    ¬ ∀ (par : Params) (nearest : ℕ → ℕ → Fin 3) (board : Board)
        (calls : List (List Bool × SysCall)),
      Along (sysStep par nearest) (LeavesDark par) (probe par nearest board)
        calls := by
  intro h
  have halong := h stockParams (fun _ _ => initialMode) plainBoard
    [(patternFails, .stream true true)]
  have hlast : (sStream stockParams true true ((probe stockParams
      (fun _ _ => initialMode) plainBoard).facing patternFails)).1 ≠ .ok () →
        ¬ Illuminates (sStream stockParams true true ((probe stockParams
          (fun _ _ => initialMode) plainBoard).facing patternFails)).2 := by
    intro hne
    apply halong.1
    rintro ⟨⟨⟩, hret⟩
    exact hne hret
  unfold Illuminates at hlast
  revert hlast
  decide +kernel

end Ov7251
end SurfaceCameras
