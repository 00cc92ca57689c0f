import SurfaceCameras.Ov5693.ColdImage

/-!
# Vertical flip and binning in `FORMAT1`

With vertical binning, both vertical flip bits together corrupt the CSI-2
framing.  The driver picks the flip bits from its mode and the binning bit
lives in the sensor.  The two agree right after the mode has been programmed;
a format set later changes the mode alone, until the next resume.
-/

namespace SurfaceCameras
namespace Ov5693

open Kernel Device Prog MaskedWrites Runs

/-- Binning together with both flip bits. -/
def corruptingBits : BitVec 8 := format1VbinEn ||| flipVertMask

/-- `FORMAT1` does not have the combination that corrupts the framing. -/
def FramingSafe (r : Registers) : Prop :=
  r format1Reg &&& corruptingBits ≠ corruptingBits

/-- The sensor bins vertically. -/
def Binning (r : Registers) : Prop := r format1Reg &&& format1VbinEn ≠ 0

instance (r : Registers) : Decidable (FramingSafe r) :=
  inferInstanceAs (Decidable (_ ≠ _))

instance (r : Registers) : Decidable (Binning r) :=
  inferInstanceAs (Decidable (_ ≠ _))

/-! ## The writes to `FORMAT1` -/

theorem flip_safe_bits (x : BitVec 8) :
    (⟨format1Reg, flipVertMask, format1FlipVertSensorEn⟩ : MaskedWrite).onto x
        &&& corruptingBits ≠ corruptingBits ∧
      (⟨format1Reg, flipVertMask, 0⟩ : MaskedWrite).onto x &&& corruptingBits ≠
        corruptingBits ∧
      ((⟨format1Reg, flipVertMask,
          format1FlipVertIspEn ||| format1FlipVertSensorEn⟩ : MaskedWrite).onto x
            &&& corruptingBits ≠ corruptingBits ↔ x &&& format1VbinEn = 0) := by
  revert x
  decide +kernel

/-- Writing the flip is safe exactly if the mode knows of the binning. -/
theorem flip_safe_iff (m : Mode) (v : ℤ) (r : Registers) :
    FramingSafe (applyAll (ctrlWrites .vflip m v) r) ↔
      (v ≠ 0 → Binning r → m.binningY = true) := by
  obtain ⟨hsensor, hclear, hboth⟩ := flip_safe_bits (r format1Reg)
  unfold FramingSafe Binning
  rw [applyAll_at]
  change (⟨format1Reg, flipVertMask, if v != 0 then flipVertBits m else 0⟩ :
    MaskedWrite).onto (r format1Reg) &&& corruptingBits ≠ corruptingBits ↔ _
  unfold flipVertBits
  by_cases hv : v = 0
  · simp only [hv, bne_self_eq_false, Bool.false_eq_true, if_false]
    exact iff_of_true hclear fun h => absurd rfl h
  · simp only [hv, bne_iff_ne, ne_eq, not_false_eq_true, if_true]
    cases m.binningY with
    | true => exact iff_of_true hsensor fun _ _ => rfl
    | false =>
        refine hboth.trans ⟨fun h _ hbin => absurd h hbin, fun h => ?_⟩
        by_contra hbin
        exact absurd (h trivial hbin) (by decide)

theorem flip_safe_partway {m : Mode} {v : ℤ} {r : Registers}
    (hr : FramingSafe r) (hv : v ≠ 0 → Binning r → m.binningY = true)
    {vs : List MaskedWrite} (hvs : vs <+: ctrlWrites .vflip m v) :
    FramingSafe (applyAll vs r) := by
  rcases List.prefix_cons_iff.mp hvs with rfl | ⟨us, rfl, hus⟩
  · exact hr
  · obtain rfl := List.prefix_nil.mp hus
    exact (flip_safe_iff m v r).mpr hv

/-- While the sensor is programmed, and after. -/
theorem init_safe (binnedYOffset : ℤ) (m : Mode) (hflip vflip : ℤ)
    {r : Registers} (hr : FramingSafe r) {vs : List MaskedWrite}
    (hvs : vs <+: initWrites binnedYOffset m hflip vflip) :
    FramingSafe (applyAll vs r) := by
  have hprefix := writesTo_prefix format1Reg hvs
  rw [initWrites_format1] at hprefix
  unfold FramingSafe
  rw [applyAll_at]
  rcases List.prefix_cons_iff.mp hprefix with h | ⟨us, h, hus⟩
  · rw [h]
    exact hr
  rw [h, List.foldl_cons, byte_onto]
  rcases List.prefix_cons_iff.mp hus with rfl | ⟨flips, rfl, hflips⟩
  · decide
  rw [List.foldl_cons]
  unfold vflipWrites flipVertBits at hflips
  by_cases hv : vflip ≠ 0
  · rw [if_pos hv] at hflips
    rcases List.prefix_cons_iff.mp hflips with rfl | ⟨rest, rfl, hrest⟩
    · cases m.binningY <;> decide
    · obtain rfl := List.prefix_nil.mp hrest
      cases m.binningY <;> decide
  · rw [if_neg hv] at hflips
    obtain rfl := List.prefix_nil.mp hflips
    cases m.binningY <;> decide

/-- A sensor that has been programmed bins as the mode says. -/
theorem binningY_of_init {binnedYOffset : ℤ} {m : Mode} {hflip vflip : ℤ}
    {r : Registers}
    (h : Binning (applyAll (initWrites binnedYOffset m hflip vflip) r)) :
    m.binningY = true := by
  unfold Binning at h
  rw [init_format1] at h
  by_contra hm
  unfold flipVertBits at h
  rw [Bool.not_eq_true] at hm
  simp only [hm] at h
  by_cases hv : vflip ≠ 0
  · rw [if_pos hv] at h
    exact absurd h (by decide)
  · rw [if_neg hv] at h
    exact absurd h (by decide)

theorem FramingSafe.congr {r r' : Registers} (h : r format1Reg = r' format1Reg) :
    FramingSafe r ↔ FramingSafe r' := by
  unfold FramingSafe
  rw [h]

/-! ## Writing the flip control -/

/-- The value a write of the flip control sets: any value but zero turns the
flip on. -/
def newFlip (d : Device) (v : ℤ) : ℤ :=
  FixedWidth.clamp (if v = 0 then 0 else 1) d.vflip.minimum d.vflip.maximum

/-- The register writes of a write of the flip control. -/
def flipWrites (d : Device) (v : ℤ) : List MaskedWrite :=
  if d.pm.InUse ∧ newFlip d v ≠ d.vflip.cur then
    ctrlWrites .vflip d.mode (newFlip d v)
  else
    []

theorem writeVflip_at (d : Device) (r : Registers) (v : ℤ) :
    Triple (At d r) (writeControl .vflip v)
      (fun _ t => t.bus.regs = applyAll (flipWrites d v) r)
      (fun _ t => ∃ vs, vs <+: flipWrites d v ∧ t.bus.regs = applyAll vs r) := by
  let on : ℤ := if v = 0 then 0 else 1
  let d' := vflipField.update Ctrl.validateNew
    (vflipField.update (fun x => { x with val := on }) d)
  have hwrite : writeControl .vflip v =
      v4l2CtrlSCtrl vflipField.ofDev (sCtrl .vflip) on :=
    v4l2SCtrl_boolean _ _ v
  rw [hwrite, sCtrl_of_ne (by decide)]
  apply Triple.bind (Q := fun _ =>
    At (vflipField.update (fun x => { x with val := on }) d) r)
  · exact Triple.modify fun _ ht => ht.update vflipField _
  intro _
  apply Triple.bind (Q := fun _ => At d' r)
  · exact Triple.modify fun _ ht => ht.update vflipField _
  intro _
  apply Triple.bind (Q := fun c t => At d' r t ∧ c = vflipField.get d')
  · apply Triple.gets
    rintro t ⟨hdev, hregs⟩
    exact ⟨⟨hdev, hregs⟩, congrArg vflipField.get hdev⟩
  intro c
  apply Triple.of_fact
  rintro rfl
  apply Triple.ite
  · intro hsame
    have hwrites : flipWrites d v = [] := if_neg fun h => h.2 hsame
    rw [hwrites]
    exact Triple.pure fun _ ht => ht.2
  · intro hchange
    have hwrites : (applyCtrlEffect .vflip d').2 = flipWrites d v := by
      unfold flipWrites
      by_cases huse : d.pm.InUse
      · have huse' : d'.pm.InUse := huse
        rw [applyCtrlEffect_of_inUse huse', if_pos ⟨huse, hchange⟩]
        rfl
      · have huse' : ¬ d'.pm.InUse := huse
        rw [applyCtrlEffect_of_not huse', if_neg fun h => huse h.1]
    have happly := applyCtrl_emits .vflip d' r
    dsimp only at happly
    rw [hwrites] at happly
    apply Triple.bind (Q := fun _ t => t.bus.regs = applyAll (flipWrites d v) r)
    · apply happly.consequence (fun _ ht => ht) (fun _ _ ht => ht.2)
      rintro _ t ⟨vs, hvs, -, hregs⟩
      exact ⟨vs, hvs, hregs⟩
    · exact fun _ => Triple.modify fun _ ht => ht

/-! ## Starting the stream -/

section Start

variable {binnedYOffset : ℤ} {m : Mode} {v : ℤ} {r : Registers}

/-- Past the resume, a start writes the flip control to `FORMAT1`. -/
theorem start_flips {P : System → Prop} {E : Registers → Prop}
    (hresume : Triple P
      (pmRuntimeResumeAndGet pmField.ofDev (sensorResume binnedYOffset))
      (fun _ => Holding .vflip m v r) (fun _ t => E t.bus.regs)) :
    Triple P (sStream binnedYOffset true)
      (fun _ t => t.bus.regs format1Reg =
        applyAll (ctrlWrites .vflip m v) r format1Reg)
      (fun _ t => E t.bus.regs ∨ ∃ vs, vs <+: ctrlWrites .vflip m v ∧
        t.bus.regs format1Reg = applyAll vs r format1Reg) := by
  apply Triple.bind (Q := fun _ => Holding .vflip m v r)
  · exact hresume.consequence (fun _ ht => ht) (fun _ _ ht => ht)
      fun _ _ ht => Or.inl ht
  intro _
  apply Triple.tryCatch (J := fun _ t => ∃ vs, vs <+: ctrlWrites .vflip m v ∧
    t.bus.regs format1Reg = applyAll vs r format1Reg)
  · apply Triple.bind (Q := fun _ t => t.bus.regs format1Reg =
      applyAll (ctrlWrites .vflip m v) r format1Reg)
    · apply (handlerSetup_writes (i := .vflip) (by decide)
        (by decide)).consequence (fun _ ht => ht)
      · exact fun _ t ht => ht.regs _ (by decide)
      · rintro _ t ⟨vs, hvs, hregs⟩
        exact ⟨vs, hvs, hregs _ (by decide)⟩
    · intro _
      have hkeep := enableStreaming_stays (register_admits format1Reg).toAdmitsBus
        (by decide) (by decide) true
      apply (hkeep.triple (P := fun t : System => t.bus.regs format1Reg =
        applyAll (ctrlWrites .vflip m v) r format1Reg) ?_).consequence
          (fun _ ht => ht) (fun _ _ ht => ht)
      · exact fun _ t ht => ⟨_, List.prefix_rfl, ht.1⟩
      · intro t u h ht
        exact Eq.trans h ht
  · intro e
    apply Triple.bind (Q := fun _ t => ∃ vs, vs <+: ctrlWrites .vflip m v ∧
      t.bus.regs format1Reg = applyAll vs r format1Reg)
    · exact Triple.modify fun _ ht => ht
    · exact fun _ => Triple.raise fun _ ht => Or.inr ht

/-- A device that is active only gets another reference. -/
theorem resumeAndGet_active (binnedYOffset : ℤ) {d : Device} (hon : d.pm.active = true)
    (r : Registers) :
    Triple (At d r)
      (pmRuntimeResumeAndGet pmField.ofDev (sensorResume binnedYOffset))
      (fun _ => Holding .vflip d.mode d.vflip.cur r) (fun _ _ => False) := by
  apply pmRuntimeResumeAndGet_again
  · rintro t ⟨hdev, -⟩
    exact (congrArg (fun d : Device => d.pm.active) hdev).trans hon
  · intro t ht
    obtain ⟨hdev, hregs⟩ := ht.update pmField RuntimePm.getToResume
    constructor
    · rw [hdev]
      exact ⟨hon, Nat.succ_pos _⟩
    · rw [hdev]
      rfl
    · rw [hdev]
      rfl
    · exact fun a _ => congrFun hregs a

end Start

/-! ## One call -/

/-- The call writes the vertical flip to the sensor and does not program the
mode before it. -/
def FlipsAlone (d : Device) : Call → Prop
  | .write .vflip v =>
      d.pm.InUse ∧ newFlip d v ≠ d.vflip.cur ∧ newFlip d v ≠ 0
  | .sStream true => d.pm.active = true ∧ d.vflip.cur ≠ 0
  | _ => False

/-- Where the call flips alone, the mode knows of the binning of the sensor;
and what the registers read after a suspend is safe. -/
def KeepsFraming (s : System) (x : List Bool × Call) : Prop :=
  (FlipsAlone s.dev x.2 → Binning s.bus.regs → s.dev.mode.binningY = true) ∧
    ∀ lost, x.2 = .autosuspend lost → s.dev.pm.active = true →
      s.dev.pm.usage = 0 → FramingSafe lost

section Calls

variable (binnedYOffset : ℤ)

/-- The registers are safe at every moment of the call: wherever a transfer
fails, and all after it, the call leaves the registers of that moment. -/
def SafeAtEveryMoment (s : System) (x : List Bool × Call) : Prop :=
  ∀ outcomes, FramingSafe (sysStep binnedYOffset s (outcomes, x.2)).bus.regs

theorem stop_stays :
    Stays (Frame.fixing fun s : System => s.bus.regs format1Reg)
      (sStream binnedYOffset false) := by
  have hF := register_admits format1Reg
  have hdrop : Stays (Frame.fixing fun s : System => s.bus.regs format1Reg)
      (pmRuntimePut pmField.ofDev) :=
    Keeps.modify fun _ => rfl
  refine Keeps.bind ?_ fun _ => hdrop
  apply Keeps.tryCatch (S := fun _ => True)
  · exact enableStreaming_stays hF.toAdmitsBus (by decide) (by decide) _
  · exact fun e _ => (Keeps.modify fun _ => rfl).bind
      fun _ => Keeps.raise trivial

variable {binnedYOffset} {s : System} (hs : FramingSafe s.bus.regs)
include hs

theorem framingSafe_of_stays {α : Type} {p : Prog System Fault α}
    (hp : Stays (Frame.fixing fun s : System => s.bus.regs format1Reg) p)
    (outcomes : List Bool) :
    FramingSafe (p (s.facing outcomes)).2.bus.regs :=
  (FramingSafe.congr (hp.fixed (s.facing outcomes))).mpr hs

theorem writeVflip_safe_iff (v : ℤ) :
    (∀ os, FramingSafe (writeControl .vflip v (s.facing os)).2.bus.regs) ↔
      (FlipsAlone s.dev (.write .vflip v) → Binning s.bus.regs →
        s.dev.mode.binningY = true) := by
  have hwrite := fun os => writeVflip_at s.dev s.bus.regs v (s.facing os)
    ⟨rfl, rfl⟩
  constructor
  · rintro hsafe ⟨huse, hchange, hnew⟩
    have hid : CtrlId.vflip ≠ .hblank := by decide
    have hok : ∃ t, writeControl .vflip v (s.facing []) = (.ok (), t) :=
      ⟨_, v4l2CtrlSCtrl_performs (sCtrl_performs hid) _ (s.facing []) rfl⟩
    obtain ⟨t, hrun⟩ := hok
    have hregs := hwrite []
    have hend := hsafe []
    rw [hrun] at hregs hend
    have hwrites : flipWrites s.dev v =
        ctrlWrites .vflip s.dev.mode (newFlip s.dev v) :=
      if_pos ⟨huse, hchange⟩
    rw [hwrites] at hregs
    rw [hregs, flip_safe_iff] at hend
    exact hend hnew
  · intro hcond os
    have hpart : ∃ vs, vs <+: flipWrites s.dev v ∧
        (writeControl .vflip v (s.facing os)).2.bus.regs =
          applyAll vs s.bus.regs := by
      have hend := hwrite os
      revert hend
      rcases writeControl .vflip v (s.facing os) with ⟨_ | _, t⟩
      · exact id
      · exact fun hregs => ⟨_, List.prefix_rfl, hregs⟩
    obtain ⟨vs, hvs, hregs⟩ := hpart
    rw [hregs]
    unfold flipWrites at hvs
    split at hvs
    · next h =>
        apply flip_safe_partway hs ?_ hvs
        exact fun hnew => hcond ⟨h.1, h.2, hnew⟩
    · obtain rfl := List.prefix_nil.mp hvs
      exact hs

omit hs in
/-- Wherever a start stops, the flip has been written or not. -/
theorem start_safe {m : Mode} {v : ℤ} {r : Registers} (hr : FramingSafe r)
    (hv : v ≠ 0 → Binning r → m.binningY = true)
    (hresume : Triple (At s.dev s.bus.regs)
      (pmRuntimeResumeAndGet pmField.ofDev (sensorResume binnedYOffset))
      (fun _ => Holding .vflip m v r) (fun _ t => FramingSafe t.bus.regs))
    (os : List Bool) :
    FramingSafe (sStream binnedYOffset true (s.facing os)).2.bus.regs := by
  have hfull : FramingSafe (applyAll (ctrlWrites .vflip m v) r) :=
    (flip_safe_iff m v r).mpr hv
  have hstart : Triple (At s.dev s.bus.regs) (sStream binnedYOffset true)
      (fun _ t => FramingSafe t.bus.regs)
      (fun _ t => FramingSafe t.bus.regs) := by
    apply (start_flips hresume).consequence (fun _ ht => ht)
    · exact fun _ t ht => (FramingSafe.congr ht).mpr hfull
    · rintro _ t (ht | ⟨vs, hvs, ht⟩)
      · exact ht
      · exact (FramingSafe.congr ht).mpr (flip_safe_partway hr hv hvs)
  exact hstart.final ⟨rfl, rfl⟩

theorem start_safe_iff :
    (∀ os, FramingSafe (sStream binnedYOffset true (s.facing os)).2.bus.regs) ↔
      (FlipsAlone s.dev (.sStream true) → Binning s.bus.regs →
        s.dev.mode.binningY = true) := by
  cases hon : s.dev.pm.active with
  | true =>
      have hresume := (resumeAndGet_active binnedYOffset hon
        s.bus.regs).consequence (fun _ ht => ht) (fun _ _ ht => ht)
          (E := fun _ t => FramingSafe t.bus.regs) fun _ _ ht => ht.elim
      constructor
      · rintro hsafe ⟨-, hcur⟩
        have hregs := start_flips hresume (s.facing []) ⟨rfl, rfl⟩
        have hend := hsafe []
        rw [sStream_performs binnedYOffset true (s.facing []) rfl]
          at hregs hend
        rw [FramingSafe.congr hregs, flip_safe_iff] at hend
        exact hend hcur
      · intro hcond os
        apply start_safe hs ?_ hresume
        exact fun hcur => hcond ⟨hon, hcur⟩
  | false =>
      constructor
      · rintro - ⟨h, -⟩
        rw [hon] at h
        cases h
      · intro _
        have hinit : ∀ vs, vs <+: initWrites binnedYOffset s.dev.mode
            s.dev.hflip.val s.dev.vflip.val →
              FramingSafe (applyAll vs s.bus.regs) :=
          fun vs hvs => init_safe binnedYOffset _ _ _ hs hvs
        apply start_safe (hinit _ List.prefix_rfl)
          (fun _ h => binningY_of_init h)
        apply (resumeAndGet_programmed binnedYOffset hon).consequence
          (fun _ ht => ht)
        · intro _ t ht
          rw [← ht.regs]
          exact ht.holding .vflip
        · rintro _ t ⟨vs, hvs, hregs⟩
          rw [hregs]
          exact hinit vs hvs

theorem autosuspend_safe_iff (lost : ℕ → BitVec 8) :
    (∀ os, FramingSafe (autosuspend lost (s.facing os)).2.bus.regs) ↔
      (s.dev.pm.active = true → s.dev.pm.usage = 0 → FramingSafe lost) := by
  by_cases hidle : s.dev.pm.active = true ∧ s.dev.pm.usage = 0
  · have hregs : ∀ os, (autosuspend lost (s.facing os)).2.bus.regs = lost := by
      intro os
      have hidle' : (s.facing os).dev.pm.active = true ∧
          (s.facing os).dev.pm.usage = 0 := hidle
      rw [autosuspend_eq, if_pos hidle']
    simp only [hregs]
    exact ⟨fun h _ _ => h [], fun h _ => h hidle.1 hidle.2⟩
  · have hregs : ∀ os, (autosuspend lost (s.facing os)).2.bus.regs =
        s.bus.regs := by
      intro os
      have hidle' : ¬ ((s.facing os).dev.pm.active = true ∧
          (s.facing os).dev.pm.usage = 0) := hidle
      rw [autosuspend_eq, if_neg hidle']
      rfl
    simp only [hregs]
    exact iff_of_true (fun _ => hs) fun hon husage => absurd ⟨hon, husage⟩ hidle

omit hs in
theorem keepsFraming_of_other {x : List Bool × Call}
    (hflip : ¬ FlipsAlone s.dev x.2) (hsuspend : ∀ lost, x.2 ≠ .autosuspend lost) :
    KeepsFraming s x :=
  ⟨fun h => absurd h hflip, fun lost h => absurd h (hsuspend lost)⟩

/-- A call is safe at every moment exactly if it keeps the framing. -/
theorem call_safe_iff (x : List Bool × Call) :
    SafeAtEveryMoment binnedYOffset s x ↔ KeepsFraming s x := by
  have hF := register_admits format1Reg
  have hpad : ∀ (s : System) (which : Which) f,
      ((padState which).ofDev.update f s).bus.regs format1Reg =
        s.bus.regs format1Reg :=
    fun _ _ _ => rfl
  have hout : ∀ i, i ≠ .vflip → ∀ a ∈ ctrlAddrs i, a ≠ format1Reg := by
    rintro i hi _ ha rfl
    exact ctrlAddrs_disjoint hi _ ha (by decide)
  obtain ⟨outcomes, c⟩ := x
  cases c with
  | setFmt which w h =>
      refine iff_of_true ?_ (keepsFraming_of_other id fun _ h => by cases h)
      apply framingSafe_of_stays hs
      apply setFmt_stays hF ?_ (fun _ _ => rfl) hpad
      intro i hi
      refine ⟨trivial, hout i ?_⟩
      rintro rfl
      exact absurd hi (by decide)
  | setSelection which target r =>
      refine iff_of_true ?_ (keepsFraming_of_other id fun _ h => by cases h)
      exact framingSafe_of_stays hs (setSelection_stays hpad which target r)
  | write i v =>
      by_cases hi : i = .vflip
      · subst hi
        refine (writeVflip_safe_iff hs v).trans ⟨fun h => ⟨h, ?_⟩, fun h => h.1⟩
        intro lost h
        cases h
      · have hflip : ¬ FlipsAlone s.dev (.write i v) := by
          cases i <;> first | exact absurd rfl hi | exact id
        refine iff_of_true ?_ (keepsFraming_of_other hflip fun _ h => by cases h)
        exact framingSafe_of_stays hs (writeControl_stays hF trivial
          (hout .exposure (by decide)) trivial (hout i hi) v)
  | sStream enable =>
      cases enable with
      | true =>
          refine (start_safe_iff hs).trans ⟨fun h => ⟨h, ?_⟩, fun h => h.1⟩
          intro lost h
          cases h
      | false =>
          refine iff_of_true ?_ (keepsFraming_of_other id fun _ h => by cases h)
          exact framingSafe_of_stays hs (stop_stays binnedYOffset)
  | autosuspend lost =>
      refine (autosuspend_safe_iff hs lost).trans ⟨fun h => ⟨?_, ?_⟩, ?_⟩
      · exact fun h => h.elim
      · rintro _ ⟨⟩
        exact h
      · exact fun h => h.2 lost rfl

end Calls

/-! ## Runs -/

/-- In every run from probe, the registers are safe at every moment exactly if
no call flips alone a sensor that bins unknown to the mode.  What the
registers read after power-on has to be safe. -/
theorem framingSafe_iff (binnedYOffset : ℤ) (regs : Registers)
    (calls : List (List Bool × Call)) :
    FramingSafe regs ∧ Along (sysStep binnedYOffset)
        (SafeAtEveryMoment binnedYOffset) (probe regs) calls ↔
      FramingSafe regs ∧
        Along (sysStep binnedYOffset) KeepsFraming (probe regs) calls := by
  apply and_congr_right
  intro hregs
  have hprobe : FramingSafe (probe regs).bus.regs := by
    rw [probe_eq]
    exact hregs
  apply along_iff_along_of (I := fun s => FramingSafe s.bus.regs)
    (A := fun _ _ => True) ?_ ?_ hprobe (along_of_every (fun _ _ => trivial) _ _)
  · exact fun s x _ _ hsafe => hsafe x.1
  · exact fun s x hs _ => call_safe_iff hs x

/-- A binned start, a format without binning, and a flip while streaming. -/
def flipAfterFormat : List (List Bool × Call) :=
  [([], .autosuspend fun _ => 0), ([], .setFmt .active 1296 972),
    ([], .sStream true), ([], .setFmt .active 2592 1944), ([], .write .vflip 1)]

/-- The flip sets both bits of a sensor that still bins. -/
theorem framingSafe_fails :
    ¬ ∀ (binnedYOffset : ℤ) (regs : Registers) (calls : List (List Bool × Call)),
      FramingSafe regs →
      (∀ x ∈ calls, ∀ lost, x.2 = .autosuspend lost → FramingSafe lost) →
        Along (sysStep binnedYOffset) (SafeAtEveryMoment binnedYOffset)
          (probe regs) calls := by
  intro h
  have hlost : ∀ x ∈ flipAfterFormat, ∀ lost,
      x.2 = .autosuspend lost → FramingSafe lost := by
    intro x hx lost hx'
    simp only [flipAfterFormat, List.mem_cons, List.not_mem_nil, or_false] at hx
    rcases hx with rfl | rfl | rfl | rfl | rfl
    · obtain rfl : (fun _ => 0) = lost := by simpa using hx'
      decide
    · cases hx'
    · cases hx'
    · cases hx'
    · cases hx'
  have halong := h 2 (fun _ => 0) flipAfterFormat (by decide) hlost
  have hlast := (halong.2.2.2.2.1 : SafeAtEveryMoment 2 _ _) []
  revert hlast
  decide +kernel

end Ov5693
end SurfaceCameras
