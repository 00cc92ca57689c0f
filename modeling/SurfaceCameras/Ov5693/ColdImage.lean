import SurfaceCameras.Ov5693.HandlerImage
import SurfaceCameras.Ov5693.System

/-!
# The register image of a cold start

A resume programs the sensor from the mode, and the start of streaming that
follows hands it the controls.  Both write some of the same registers; what
they hold in the end depends on the mode and the controls only.
-/

namespace SurfaceCameras
namespace Ov5693

open Kernel Device Prog MaskedWrites

section Parameters

variable (binnedYOffset : ℤ)

/-! ## What the resume leaves -/

variable (m : Mode) (hflip vflip : ℤ) (r : Registers)

theorem initWrites_format1 :
    writesTo format1Reg (initWrites binnedYOffset m hflip vflip) =
      .byte format1Reg 0 ::
        ⟨format1Reg, format1VbinEn, if m.binningY then format1VbinEn else 0⟩ ::
          vflipWrites m vflip := by
  unfold initWrites modeWrites modeTable vflipWrites
  cases m.binned with
  | true => split <;> rfl
  | false => split <;> rfl

theorem init_format1 :
    applyAll (initWrites binnedYOffset m hflip vflip) r format1Reg =
      (if m.binningY then format1VbinEn else 0) |||
        (if vflip ≠ 0 then flipVertBits m else 0) := by
  rw [applyAll_at, initWrites_format1, vflipWrites, flipVertBits]
  by_cases hv : vflip ≠ 0
  · rw [if_pos hv, if_pos hv]
    cases m.binningY <;> simp [MaskedWrite.onto, MaskedWrite.byte] <;> decide
  · rw [if_neg hv, if_neg hv]
    cases m.binningY <;> simp [MaskedWrite.onto, MaskedWrite.byte]

theorem init_format2 :
    applyAll (initWrites binnedYOffset m hflip vflip) r format2Reg =
      if m.binningX then 0x1f else 0x1e := by
  have hwrites : writesTo format2Reg
      (initWrites binnedYOffset m hflip vflip) =
        [.byte format2Reg 0x1e, ⟨format2Reg, format2HbinEn,
          if m.binningX then format2HbinEn else 0⟩] := by
    unfold initWrites modeWrites modeTable vflipWrites
    cases m.binned with
    | true => split <;> rfl
    | false => split <;> rfl
  rw [applyAll_at, hwrites]
  cases m.binningX <;> simp [MaskedWrite.onto, MaskedWrite.byte] <;> decide

theorem init_offsetY :
    (word (applyAll (initWrites binnedYOffset m hflip vflip) r)
        offsetStartYReg 2 : ℤ) =
      (if m.binned then binnedYOffset else 0) % 2 ^ 16 := by
  have hwritten : ∀ k < 2,
      applyAll (initWrites binnedYOffset m hflip vflip) r
          (offsetStartYReg + k) =
        applyAll (bytesAt offsetStartYReg
          (bigEndian 2 (if m.binned then binnedYOffset else 0))) r
            (offsetStartYReg + k) := by
    intro k hk
    apply applyAll_at_congr
    have hflips : writesTo (offsetStartYReg + k) (vflipWrites m vflip) = [] := by
      obtain rfl | rfl : k = 0 ∨ k = 1 := by omega
      · unfold vflipWrites
        split <;> rfl
      · unfold vflipWrites
        split <;> rfl
    have htable : writesTo (offsetStartYReg + k)
        (tableWrites (modeTable m)) = [] := by
      unfold modeTable
      obtain rfl | rfl : k = 0 ∨ k = 1 := by omega
      · cases m.binned <;> rfl
      · cases m.binned <;> rfl
    simp only [initWrites, modeWrites, writesTo_append, hflips, htable]
    obtain rfl | rfl : k = 0 ∨ k = 1 := by omega
    · rfl
    · rfl
  exact word_written hwritten

theorem init_modeTable {x : ℕ × BitVec 8} (hx : x ∈ modeTable m) :
    applyAll (initWrites binnedYOffset m hflip vflip) r x.1 = x.2 := by
  have hlast : initWrites binnedYOffset m hflip vflip =
      (bytesAt swResetReg (bigEndian 1 1) ++ (tableWrites globalRegs ++
        (cropStartWrites m ++ (offsetXWrites m hflip ++
          (geometryWrites binnedYOffset m ++ vflipWrites m vflip))))) ++
        (tableWrites (modeTable m) ++ streamWrites false) := by
    simp only [initWrites, modeWrites, List.append_assoc]
  have honce : writesTo x.1 (tableWrites (modeTable m) ++ streamWrites false) =
      [.byte x.1 x.2] := by
    revert x
    unfold modeTable
    cases m.binned with
    | true => decide
    | false => decide
  rw [hlast, applyAll_append]
  exact applyAll_byte honce _

theorem init_analogue (hm : m.binned = false) :
    applyAll (initWrites binnedYOffset m hflip vflip) r 0x3600 = r 0x3600 := by
  have hwrites : writesTo 0x3600
      (initWrites binnedYOffset m hflip vflip) = [] := by
    unfold initWrites modeWrites modeTable vflipWrites
    rw [hm]
    split <;> rfl
  rw [applyAll_at, hwrites]
  rfl

end Parameters

/-! ## What the handler adds -/

theorem register_admits (a : ℕ) :
    Admits (Frame.fixing fun s : System => s.bus.regs a) (· ≠ a)
      everywhere where
  outcomes _ _ := rfl
  store s _ _ hA := Bus.storeBytes_of_ne hA s.bus.regs
  hold _ _ _ h := h
  ctrl _ i _ _ := by cases i <;> rfl

/-- A register that no control writes is left alone by the handler. -/
theorem handlerSetup_keeps {a : ℕ}
    (ha : a ∉ writableCtrls.flatMap ctrlAddrs) (v : BitVec 8) :
    Triple (fun s : System => s.bus.regs a = v) handlerSetup
      (fun _ s => s.bus.regs a = v) (fun _ _ => True) := by
  have hout : ∀ i ∈ writableCtrls, ∀ x ∈ ctrlAddrs i, x ≠ a := by
    rintro i hi x hx rfl
    exact ha (List.mem_flatMap.mpr ⟨i, hi, hx⟩)
  have hstays := handler_stays (register_admits a) trivial
    (hout .exposure (by decide)) fun i hi => ⟨trivial, hout i hi⟩
  apply (hstays.triple (P := fun s => s.bus.regs a = v) ?_).consequence
    (fun _ hs => hs) (fun _ _ hs => hs) fun _ _ _ => trivial
  intro s t h hs
  exact Eq.trans h hs

/-- The system right after a resume: what the mode and the controls had been
has been programmed, and only the references and the power have changed. -/
structure Programmed (binnedYOffset : ℤ) (s t : System) : Prop where
  inUse : t.dev.pm.InUse
  dev : t.dev = { s.dev with pm := t.dev.pm, power := t.dev.power }
  regs : t.bus.regs = applyAll
    (initWrites binnedYOffset s.dev.mode s.dev.hflip.val s.dev.vflip.val)
      s.bus.regs

/-- Some of the registers of the mode have been programmed. -/
def PartlyProgrammed (binnedYOffset : ℤ) (s t : System) : Prop :=
  ∃ vs, vs <+: initWrites binnedYOffset s.dev.mode s.dev.hflip.val
      s.dev.vflip.val ∧ t.bus.regs = applyAll vs s.bus.regs

/-- The registers after a cold start from `s`, which has led to `t`. -/
structure ColdImage (binnedYOffset : ℤ) (s t : System) : Prop where
  format1 : t.bus.regs format1Reg =
    (if s.dev.mode.binningY then format1VbinEn else 0) |||
      (if s.dev.vflip.cur ≠ 0 then flipVertBits s.dev.mode else 0)
  format2 : t.bus.regs format2Reg =
    0x18 ||| (if s.dev.hflip.cur = 0 then flipHorzMask else 0) |||
      (if s.dev.mode.binningX then format2HbinEn else 0)
  offsetX : (word t.bus.regs offsetStartXReg 2 : ℤ) =
    if s.dev.mode.binned then 8 else s.dev.hflip.cur
  offsetY : (word t.bus.regs offsetStartYReg 2 : ℤ) =
    (if s.dev.mode.binned then binnedYOffset else 0) % 2 ^ 16
  modeTable : ∀ x ∈ modeTable s.dev.mode, t.bus.regs x.1 = x.2
  analogue : s.dev.mode.binned = false →
    t.bus.regs 0x3600 = s.bus.regs 0x3600
  vts : (word t.bus.regs timingVtsReg 2 : ℤ) =
    (s.dev.mode.format.height + t.dev.vblank.cur) % 2 ^ 16
  exposure : word t.bus.regs exposureCtrlReg 3 =
    exposureBits t.dev.exposure.cur

section Start

variable {binnedYOffset : ℤ} {s : System}

theorem Programmed.holding {t : System} (ht : Programmed binnedYOffset s t)
    (i : CtrlId) :
    Holding i s.dev.mode ((ctrlField i).get s.dev).cur t.bus.regs t where
  inUse := ht.inUse
  mode := by rw [ht.dev]
  cur := by
    rw [ht.dev]
    cases i <;> rfl
  regs _ _ := rfl

theorem format1_bits (binningY flipped flip : Bool) :
    (⟨format1Reg, flipVertMask, if flip then (if binningY then
        format1FlipVertSensorEn else format1FlipVertIspEn |||
          format1FlipVertSensorEn) else 0⟩ : MaskedWrite).onto
      ((if binningY then format1VbinEn else 0) ||| (if flipped then
        (if binningY then format1FlipVertSensorEn else
          format1FlipVertIspEn ||| format1FlipVertSensorEn) else 0)) =
      (if binningY then format1VbinEn else 0) ||| (if flip then
        (if binningY then format1FlipVertSensorEn else
          format1FlipVertIspEn ||| format1FlipVertSensorEn) else 0) := by
  revert binningY flipped flip
  decide

theorem format1_image (m : Mode) (v w : ℤ) :
    (⟨format1Reg, flipVertMask, if w != 0 then flipVertBits m else 0⟩ :
        MaskedWrite).onto
      ((if m.binningY then format1VbinEn else 0) |||
        (if v ≠ 0 then flipVertBits m else 0)) =
      (if m.binningY then format1VbinEn else 0) |||
        (if w ≠ 0 then flipVertBits m else 0) := by
  have hbits := format1_bits m.binningY (v != 0) (w != 0)
  simp only [bne_iff_ne] at hbits ⊢
  exact hbits

theorem format2_image (m : Mode) {v : ℤ} (hv : v = 0 ∨ v = 1) :
    (⟨format2Reg, flipHorzMask, if v != 0 then 0 else flipHorzMask⟩ :
        MaskedWrite).onto (if m.binningX then 0x1f else 0x1e) =
      0x18 ||| (if v = 0 then flipHorzMask else 0) |||
        (if m.binningX then format2HbinEn else 0) := by
  rcases hv with rfl | rfl
  · cases m.binningX <;> decide
  · cases m.binningX <;> decide

theorem offsetStartX_image (m : Mode) {v : ℤ} (hv : v = 0 ∨ v = 1) :
    (offsetStartX m (v != 0) : ℤ) % 256 ^ 2 = if m.binned then 8 else v := by
  unfold offsetStartX
  rcases hv with rfl | rfl
  · cases m.binned <;> decide
  · cases m.binned <;> decide

/-- The image once the handler has run, before the stream bit is written. -/
theorem handlerSetup_image (hflip : s.dev.hflip.cur = 0 ∨ s.dev.hflip.cur = 1) :
    Triple (Programmed binnedYOffset s) handlerSetup
      (fun _ => ColdImage binnedYOffset s) (fun _ _ => True) := by
  intro t ht
  have hvflip := handlerSetup_writes (by decide) (by decide) t
    (ht.holding .vflip)
  have hhflip := handlerSetup_writes (by decide) (by decide) t
    (ht.holding .hflip)
  have hvblank := handlerSetup_writes (by decide) (by decide) t
    (ht.holding .vblank)
  have hexposed := handlerSetup_exposed t ht.inUse
  have hkeeps := fun a ha => handlerSetup_keeps (a := a) ha (t.bus.regs a) t rfl
  revert hvflip hhflip hvblank hexposed hkeeps
  rcases handlerSetup t with ⟨_ | _, u⟩
  · intros
    trivial
  intro hvflip hhflip hvblank hexposed hkeeps
  have hvflip : Holding .vflip _ _ _ u := hvflip
  have hhflip : Holding .hflip _ _ _ u := hhflip
  have hvblank : Holding .vblank _ _ _ u := hvblank
  have hkeeps : ∀ a ∉ writableCtrls.flatMap ctrlAddrs,
      u.bus.regs a = t.bus.regs a := hkeeps
  constructor
  · rw [hvflip.regs format1Reg (by decide), applyAll_at, ht.regs, init_format1]
    exact format1_image _ _ _
  · rw [hhflip.regs format2Reg (by decide), applyAll_at, ht.regs, init_format2]
    exact format2_image _ hflip
  · rw [← offsetStartX_image _ hflip]
    apply word_written (r := t.bus.regs)
    intro k hk
    have haddr : ∀ k < 2, offsetStartXReg + k ∈ ctrlAddrs .hflip := by decide
    rw [hhflip.regs _ (haddr k hk)]
    apply applyAll_at_congr
    obtain rfl | rfl : k = 0 ∨ k = 1 := by omega
    · rfl
    · rfl
  · have hout : ∀ k < 2,
        offsetStartYReg + k ∉ writableCtrls.flatMap ctrlAddrs := by decide
    rw [word_congr fun k hk => hkeeps _ (hout k hk), ht.regs]
    exact init_offsetY binnedYOffset _ _ _ _
  · intro x hx
    have hout : ∀ x ∈ modeTable s.dev.mode,
        x.1 ∉ writableCtrls.flatMap ctrlAddrs := by
      unfold modeTable
      cases s.dev.mode.binned <;> decide
    rw [hkeeps _ (hout x hx), ht.regs]
    exact init_modeTable binnedYOffset _ _ _ _ hx
  · intro hbinned
    rw [hkeeps 0x3600 (by decide), ht.regs]
    exact init_analogue binnedYOffset _ _ _ _ hbinned
  · have hcur : u.dev.vblank.cur = s.dev.vblank.cur := hvblank.cur
    rw [hcur]
    apply word_written (n := 2) (r := t.bus.regs)
    intro k hk
    have haddr : ∀ k < 2, timingVtsReg + k ∈ ctrlAddrs .vblank := by decide
    exact hvblank.regs _ (haddr k hk)
  · exact hexposed.2

/-- Writing the stream bit leaves the image. -/
theorem enableStreaming_image :
    Triple (ColdImage binnedYOffset s) (enableStreaming true)
      (fun _ => ColdImage binnedYOffset s) (fun _ _ => True) := by
  intro t ht
  have hwrites := enableStreaming_emits true t.dev t.bus.regs t ⟨rfl, rfl⟩
  revert hwrites
  rcases enableStreaming true t with ⟨_ | _, u⟩
  · intros
    trivial
  rintro ⟨hdev, hregs⟩
  have hdev : u.dev = t.dev := hdev
  have hsame : ∀ a, writesTo a (streamWrites true) = [] →
      u.bus.regs a = t.bus.regs a := by
    intro a ha
    rw [hregs, applyAll_at, ha]
    rfl
  have hword : ∀ a n, (∀ k < n, writesTo (a + k) (streamWrites true) = []) →
      word u.bus.regs a n = word t.bus.regs a n :=
    fun a n h => word_congr fun k hk => hsame _ (h k hk)
  have htable : ∀ x ∈ modeTable s.dev.mode,
      writesTo x.1 (streamWrites true) = [] := by
    unfold modeTable
    cases s.dev.mode.binned <;> decide
  exact
    { format1 := (hsame _ (by decide)).trans ht.format1
      format2 := (hsame _ (by decide)).trans ht.format2
      offsetX := by
        rw [hword _ 2 (by decide)]
        exact ht.offsetX
      offsetY := by
        rw [hword _ 2 (by decide)]
        exact ht.offsetY
      modeTable := fun x hx => (hsame _ (htable x hx)).trans (ht.modeTable x hx)
      analogue := fun hm => (hsame _ (by decide)).trans (ht.analogue hm)
      vts := by
        rw [hword _ 2 (by decide), hdev]
        exact ht.vts
      exposure := by
        rw [hword _ 3 (by decide), hdev]
        exact ht.exposure }

/-! ## Cold starts -/

/-- A resume of a suspended device programs it, or some of it if it fails. -/
theorem resumeAndGet_programmed (binnedYOffset : ℤ) {s : System}
    (hoff : s.dev.pm.active = false) :
    Triple (At s.dev s.bus.regs)
      (pmRuntimeResumeAndGet pmField.ofDev (sensorResume binnedYOffset))
      (fun _ => Programmed binnedYOffset s)
      (fun _ => PartlyProgrammed binnedYOffset s) := by
  apply Triple.bind (Q := fun _ =>
    At (pmField.update RuntimePm.getToResume s.dev) s.bus.regs)
  · exact Triple.modify fun _ ht => ht.update pmField _
  intro _
  apply Triple.bind (Q := fun p t =>
    At (pmField.update RuntimePm.getToResume s.dev) s.bus.regs t ∧
      p.active = false)
  · apply Triple.gets
    rintro t ⟨hdev, hregs⟩
    refine ⟨⟨hdev, hregs⟩, ?_⟩
    exact (congrArg (fun d : Device => d.pm.active) hdev).trans hoff
  intro p
  apply Triple.of_fact
  intro hp
  rw [if_neg (by rw [hp]; decide)]
  apply Triple.tryCatch (J := fun _ => PartlyProgrammed binnedYOffset s)
  · apply Triple.bind (sensorResume_at binnedYOffset _ s.bus.regs)
    intro _
    apply Triple.modify
    intro t ht
    obtain ⟨hdev, hregs⟩ := ht.update pmField fun p => { p with active := true }
    refine ⟨?_, ?_, hregs⟩
    · rw [hdev]
      exact ⟨rfl, Nat.succ_pos _⟩
    · rw [hdev]
      rfl
  · intro e
    apply Triple.bind (Q := fun _ => PartlyProgrammed binnedYOffset s)
    · exact Triple.modify fun _ ht => ht
    · exact fun _ => Triple.raise fun _ ht => ht

/-- A device that is resumed already only gets another reference. -/
theorem resumeAndGet_again :
    Triple (Programmed binnedYOffset s)
      (pmRuntimeResumeAndGet pmField.ofDev (sensorResume binnedYOffset))
      (fun _ => Programmed binnedYOffset s) (fun _ _ => True) := by
  have hagain : Triple (Programmed binnedYOffset s)
      (pmRuntimeResumeAndGet pmField.ofDev (sensorResume binnedYOffset))
      (fun _ => Programmed binnedYOffset s) (fun _ _ => False) := by
    apply pmRuntimeResumeAndGet_again
    · exact fun t ht => ht.inUse.1
    · intro t ht
      refine ⟨⟨ht.inUse.1, Nat.succ_pos _⟩, ?_, ht.regs⟩
      exact congrArg (pmField.update RuntimePm.getToResume) ht.dev
  exact Triple.consequence hagain (fun _ ht => ht) (fun _ _ ht => ht)
    fun _ _ h => h.elim

/-- Past the resume, a start leaves the image. -/
theorem start_image (hflip : s.dev.hflip.cur = 0 ∨ s.dev.hflip.cur = 1)
    {P : System → Prop} {E : Fault → System → Prop}
    (hresume : Triple P
      (pmRuntimeResumeAndGet pmField.ofDev (sensorResume binnedYOffset))
      (fun _ => Programmed binnedYOffset s) E) :
    Triple P (sStream binnedYOffset true)
      (fun _ => ColdImage binnedYOffset s) (fun _ _ => True) := by
  apply (hresume.consequence (fun _ ht => ht) (fun _ _ ht => ht)
    fun _ _ _ => trivial).bind
  intro _
  apply Triple.tryCatch (J := fun _ _ => True)
  · exact (handlerSetup_image hflip).bind fun _ => enableStreaming_image
  · exact fun e =>
      Triple.bind (Triple.any _) fun _ => Triple.raise fun _ _ => trivial

end Start

/-- A start that resumes the suspended device, or a resume and then a start,
leads from `s` to `t`; no call returns an error. -/
def ColdStart (binnedYOffset : ℤ) (s t : System) : Prop :=
  (∃ os, sStream binnedYOffset true (s.facing os) = (.ok (), t)) ∨
    ∃ os os' s₁,
      pmRuntimeResumeAndGet pmField.ofDev (sensorResume binnedYOffset)
          (s.facing os) = (.ok (), s₁) ∧
        sStream binnedYOffset true (s₁.facing os') = (.ok (), t)

/-- A resume from power-off and a start that both succeed leave the registers
of the mode and the controls, whatever the registers held. -/
theorem coldStart_image (binnedYOffset : ℤ) {s t : System}
    (hoff : s.dev.pm.active = false)
    (hflip : s.dev.hflip.cur = 0 ∨ s.dev.hflip.cur = 1)
    (ht : ColdStart binnedYOffset s t) : ColdImage binnedYOffset s t := by
  rcases ht with ⟨os, hstart⟩ | ⟨os, os', s₁, hresume, hstart⟩
  · have himage := start_image hflip
      (resumeAndGet_programmed binnedYOffset hoff) (s.facing os) ⟨rfl, rfl⟩
    rw [hstart] at himage
    exact himage
  · have hprogrammed := resumeAndGet_programmed binnedYOffset hoff
      (s.facing os) ⟨rfl, rfl⟩
    rw [hresume] at hprogrammed
    have hagain : Programmed binnedYOffset s (s₁.facing os') :=
      ⟨hprogrammed.inUse, hprogrammed.dev, hprogrammed.regs⟩
    have himage := start_image hflip resumeAndGet_again (s₁.facing os') hagain
    rw [hstart] at himage
    exact himage

/-- A suspended device whose registers are all set, in binned mode and with
both flips. -/
def coldBinned : System :=
  (Runs.run (sysStep 2) (probe fun _ => 0)
    [([], .write .vflip 1), ([], .write .hflip 1),
      ([], .setFmt .active 1296 972), ([], .autosuspend fun _ => 0xff)])

theorem coldStart_image_binned :
    ColdImage 2 coldBinned
      (sStream 2 true (coldBinned.facing [])).2 := by
  have hok : (sStream 2 true (coldBinned.facing [])).1 = .ok () := by
    decide +kernel
  have hstart : sStream 2 true (coldBinned.facing []) =
      (.ok (), (sStream 2 true (coldBinned.facing [])).2) := by
    rw [← hok]
  exact coldStart_image 2 (by decide +kernel) (Or.inr (by decide +kernel))
    (Or.inl ⟨[], hstart⟩)

end Ov5693
end SurfaceCameras
