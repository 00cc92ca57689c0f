import SurfaceCameras.Ov5693.ColdImage
import SurfaceCameras.Ov5693.ModeHistory

/-!
# What a cold start of the OV5693 depends on

`ov5693_mode_configure` programs the binning flags and the sub-increments of
the mode, which user space cannot read.  Two histories that look the same to
user space start the sensor alike exactly if they asked for the same binning:
the sub-increments are zero until the first format call, and a selection that
resets the output size leaves the binning as it was.
-/

namespace SurfaceCameras
namespace Ov5693

open Kernel Device Prog MaskedWrites Runs

section Parameters

variable (binnedYOffset : ℤ)

/-- The registers that `ov5693_mode_configure` writes. -/
def configuredRegs (s : System) : List ℕ :=
  (modeWrites binnedYOffset s.dev.mode s.dev.hflip.val s.dev.vflip.val).map
    MaskedWrite.addr

/-- User space sees no difference between the two systems: not in the active
format, not in the active crop rectangle, not in a control. -/
structure SeenAlike (s s' : System) : Prop where
  format : s.dev.mode.format = s'.dev.mode.format
  crop : s.dev.mode.crop = s'.dev.mode.crop
  ctrl : ∀ i, ((ctrlField i).get s.dev).cur = ((ctrlField i).get s'.dev).cur

/-- The two systems leave the same values in the registers that
`ov5693_mode_configure` writes. -/
def SameImage (s s' t t' : System) : Prop :=
  ∀ a, a ∈ configuredRegs binnedYOffset s ∨ a ∈ configuredRegs binnedYOffset s' →
    t.bus.regs a = t'.bus.regs a

/-! ## The registers after a start -/

/-- The registers right after the resume of a suspended device. -/
def resumedRegs (s : System) : Registers :=
  applyAll (initWrites binnedYOffset s.dev.mode s.dev.hflip.val
    s.dev.vflip.val) s.bus.regs

/-- The registers after a start from `s`, which has led to `t`: those no
control writes are as the resume left them, and the control handler has made
its writes to the others. -/
structure StartImage (s t : System) : Prop where
  mode : ∀ a, a ∉ writableCtrls.flatMap ctrlAddrs → a ≠ mipiCtrl00Reg →
    a ≠ swStreamReg → t.bus.regs a = resumedRegs binnedYOffset s a
  ctrl : ∀ i ∈ writableCtrls, i ≠ .exposure → ∀ a ∈ ctrlAddrs i,
    t.bus.regs a = applyAll (ctrlWrites i s.dev.mode
      ((ctrlField i).get s.dev).cur) (resumedRegs binnedYOffset s) a

variable {binnedYOffset}

theorem handlerSetup_startImage (s : System) :
    Triple (Programmed binnedYOffset s) handlerSetup
      (fun _ => StartImage binnedYOffset s) (fun _ _ => True) := by
  intro t ht
  have hwrites := fun i hmem (hi : i ≠ .exposure) =>
    handlerSetup_writes hi hmem t (ht.holding i)
  have hkeeps := fun a ha => handlerSetup_keeps (a := a) ha (t.bus.regs a) t rfl
  revert hwrites hkeeps
  rcases handlerSetup t with ⟨_ | _, u⟩
  · intros
    trivial
  intro hwrites hkeeps
  constructor
  · intro a ha _ _
    have hkeep : u.bus.regs a = t.bus.regs a := hkeeps a ha
    rw [hkeep, ht.regs]
    rfl
  · intro i hmem hi a ha
    have hhold : Holding i _ _ _ u := hwrites i hmem hi
    rw [hhold.regs a ha, ht.regs]
    rfl

/-- The registers of the stream are nobody else's. -/
theorem enableStreaming_startImage (s : System) :
    Triple (StartImage binnedYOffset s) (enableStreaming true)
      (fun _ => StartImage binnedYOffset s) (fun _ _ => True) := by
  intro t ht
  have hregs := enableStreaming_emits true t.dev t.bus.regs t ⟨rfl, rfl⟩
  revert hregs
  rcases enableStreaming true t with ⟨_ | _, u⟩
  · intros
    trivial
  rintro ⟨-, hregs⟩
  have hsame : ∀ a, a ≠ mipiCtrl00Reg → a ≠ swStreamReg →
      u.bus.regs a = t.bus.regs a := by
    intro a hmipi hsw
    have hnone : writesTo a (streamWrites true) = [] := by
      have hmipi' : ¬ mipiCtrl00Reg = a := fun h => hmipi h.symm
      have hsw' : ¬ swStreamReg = a := fun h => hsw h.symm
      simp [writesTo, streamWrites, bytesAt, bigEndian, MaskedWrite.byte,
        hmipi', hsw']
    rw [hregs, applyAll_at, hnone]
    rfl
  constructor
  · intro a ha hmipi hsw
    rw [hsame a hmipi hsw]
    exact ht.mode a ha hmipi hsw
  · intro i hmem hi a ha
    have hout : ∀ i, ∀ x ∈ ctrlAddrs i, x ≠ mipiCtrl00Reg ∧ x ≠ swStreamReg := by
      intro i
      cases i <;> decide
    rw [hsame a (hout i a ha).1 (hout i a ha).2]
    exact ht.ctrl i hmem hi a ha

/-- A start of a suspended device leaves its image. -/
theorem sStream_startImage {s t : System} (hoff : s.dev.pm.active = false)
    {os : List Bool}
    (hstart : sStream binnedYOffset true (s.facing os) = (.ok (), t)) :
    StartImage binnedYOffset s t := by
  have himage : Triple (At s.dev s.bus.regs) (sStream binnedYOffset true)
      (fun _ => StartImage binnedYOffset s) (fun _ _ => True) := by
    apply Triple.bind (Q := fun _ => Programmed binnedYOffset s)
    · exact (resumeAndGet_programmed binnedYOffset hoff).consequence
        (fun _ h => h) (fun _ _ h => h) fun _ _ _ => trivial
    intro _
    apply Triple.tryCatch (J := fun _ _ => True)
    · exact (handlerSetup_startImage s).bind
        fun _ => enableStreaming_startImage s
    · exact fun e =>
        Triple.bind (Triple.any _) fun _ => Triple.raise fun _ _ => trivial
  have hend := himage (s.facing os) ⟨rfl, rfl⟩
  rw [hstart] at hend
  exact hend

/-! ## Two starts -/

/-- What `ov5693_mode_configure` writes belongs to the mode alone or to a flip
control, or it is the register that only the binned table has. -/
theorem configuredRegs_cases {s : System} {a : ℕ}
    (ha : a ∈ configuredRegs binnedYOffset s) :
    a ∈ modeRegs ∨ (∃ i ∈ [CtrlId.hflip, .vflip], a ∈ ctrlAddrs i) ∨
      (s.dev.mode.binned = true ∧ a = 0x3600) := by
  have hother : ∀ x ∈ (cropStartWrites s.dev.mode ++
      (offsetXWrites s.dev.mode s.dev.hflip.val ++
        geometryWrites binnedYOffset s.dev.mode)).map MaskedWrite.addr,
      x ∈ modeRegs ∨ ∃ i ∈ [CtrlId.hflip, .vflip], x ∈ ctrlAddrs i := by
    have haddrs : (cropStartWrites s.dev.mode ++
        (offsetXWrites s.dev.mode s.dev.hflip.val ++
          geometryWrites binnedYOffset s.dev.mode)).map MaskedWrite.addr =
        (cropStartWrites blank.mode ++ (offsetXWrites blank.mode 0 ++
          geometryWrites 0 blank.mode)).map MaskedWrite.addr := rfl
    rw [haddrs]
    decide
  have hflip : ∀ x ∈ (vflipWrites s.dev.mode s.dev.vflip.val).map
      MaskedWrite.addr, x ∈ ctrlAddrs .vflip := by
    unfold vflipWrites
    split
    · exact fun x hx => hx
    · exact fun x hx => absurd hx List.not_mem_nil
  simp only [configuredRegs, modeWrites, List.map_append, List.mem_append] at ha
  simp only [List.map_append, List.mem_append] at hother
  rcases ha with h | h | h | h | h
  · exact (hother a (Or.inl h)).imp_right Or.inl
  · exact (hother a (Or.inr (Or.inl h))).imp_right Or.inl
  · exact (hother a (Or.inr (Or.inr h))).imp_right Or.inl
  · exact Or.inr (Or.inl ⟨.vflip, by decide, hflip a h⟩)
  · revert h
    unfold modeTable
    cases hb : s.dev.mode.binned with
    | true =>
        intro h
        have hall : ∀ x ∈ (tableWrites modeBinnedRegs).map MaskedWrite.addr,
            x ∈ modeRegs ∨ x = 0x3600 := by decide
        exact (hall a h).imp_right fun hx => Or.inr ⟨rfl, hx⟩
    | false =>
        intro h
        have hall : ∀ x ∈ (tableWrites modeFullRegs).map MaskedWrite.addr,
            x ∈ modeRegs := by decide
        exact Or.inl (hall a h)

/-- The two modes ask for the same readout and the flip controls have the same
values: the registers that the mode and the flips decide are the same. -/
theorem image_eq {s s' t t' : System} (ht : StartImage binnedYOffset s t)
    (ht' : StartImage binnedYOffset s' t')
    (hsame : SameReadout s.dev.mode s'.dev.mode) (hseen : SeenAlike s s')
    {a : ℕ} (ha : a ∈ configuredRegs binnedYOffset s) :
    t.bus.regs a = t'.bus.regs a := by
  have hagree : AgreeOn modeBits (resumedRegs binnedYOffset s)
      (resumedRegs binnedYOffset s') :=
    initWrites_agreeOn binnedYOffset hsame _ _ _ _ _ _
  rcases configuredRegs_cases ha with hmode | ⟨i, hi, hctrl⟩ | ⟨hb, rfl⟩
  · have hout : ∀ x ∈ modeRegs, x ∉ writableCtrls.flatMap ctrlAddrs ∧
        x ≠ mipiCtrl00Reg ∧ x ≠ swStreamReg := by decide
    obtain ⟨hnot, hmipi, hsw⟩ := hout a hmode
    rw [ht.mode a hnot hmipi hsw, ht'.mode a hnot hmipi hsw]
    apply hagree.eq_of_allOnes
    exact if_pos hmode
  · have hmem : ∀ j ∈ [CtrlId.hflip, .vflip], j ∈ writableCtrls ∧
        j ≠ .exposure ∧ ∀ x ∈ ctrlAddrs j,
          bitsOf (ctrlCells j) x ||| modeBits x = 0xff := by decide
    obtain ⟨hwritable, hne, hbits⟩ := hmem i hi
    have hwrites : ctrlWrites i s.dev.mode ((ctrlField i).get s.dev).cur =
        ctrlWrites i s'.dev.mode ((ctrlField i).get s'.dev).cur := by
      rw [hseen.ctrl i]
      simp only [List.mem_cons, List.not_mem_nil, or_false] at hi
      rcases hi with rfl | rfl
      · simp only [ctrlWrites, offsetStartX, hsame.binned]
      · simp only [ctrlWrites, flipVertBits, hsame.binningY]
    rw [ht.ctrl i hwritable hne a hctrl, ht'.ctrl i hwritable hne a hctrl,
      hwrites]
    apply (hagree.applyAll _).eq_of_allOnes
    rw [footprint_ctrlWrites]
    exact hbits a hctrl
  · have hb' : s'.dev.mode.binned = true := hsame.binned ▸ hb
    have hnot : 0x3600 ∉ writableCtrls.flatMap ctrlAddrs := by decide
    have hvalue : ∀ u : System, u.dev.mode.binned = true →
        resumedRegs binnedYOffset u 0x3600 = 0xbc := by
      intro u hu
      apply init_modeTable binnedYOffset (x := (0x3600, 0xbc))
      rw [modeTable, hu]
      decide
    rw [ht.mode _ hnot (by decide) (by decide),
      ht'.mode _ hnot (by decide) (by decide), hvalue s hb, hvalue s' hb']

/-! ## The sub-increments -/

/-- The value of a sub-increment register. -/
def subIncByte (inc : ℕ) : BitVec 8 := (BitVec.ofNat 8 inc <<< 4) ||| 1

theorem subIncByte_injective : ∀ o o' : Option Bool,
    subIncByte (subIncrement o) = subIncByte (subIncrement o') → o = o' := by
  rintro (_ | _ | _) (_ | _ | _) h <;>
    first
    | rfl
    | exact absurd h (by decide)

variable (binnedYOffset) in
theorem initWrites_subInc (m : Mode) (hflip vflip : ℤ) (r : Registers) :
    applyAll (initWrites binnedYOffset m hflip vflip) r subIncXReg =
        subIncByte m.incXOdd ∧
      applyAll (initWrites binnedYOffset m hflip vflip) r subIncYReg =
        subIncByte m.incYOdd := by
  have hbyte : ∀ x : BitVec 8, BitVec.ofInt 8 ((x.toNat : ℤ) / 256 ^ 0) = x := by
    decide
  have hwrites :
      writesTo subIncXReg (initWrites binnedYOffset m hflip vflip) =
          [.byte subIncXReg (BitVec.ofInt 8
            ((subIncByte m.incXOdd).toNat / 256 ^ 0))] ∧
        writesTo subIncYReg (initWrites binnedYOffset m hflip vflip) =
          [.byte subIncYReg (BitVec.ofInt 8
            ((subIncByte m.incYOdd).toNat / 256 ^ 0))] := by
    unfold initWrites modeWrites modeTable vflipWrites
    cases m.binned with
    | true => split <;> exact ⟨rfl, rfl⟩
    | false => split <;> exact ⟨rfl, rfl⟩
  obtain ⟨hx, hy⟩ := hwrites
  rw [hbyte] at hx hy
  exact ⟨applyAll_byte hx _, applyAll_byte hy _⟩

theorem resumedRegs_subInc (s : System) :
    resumedRegs binnedYOffset s subIncXReg = subIncByte s.dev.mode.incXOdd ∧
      resumedRegs binnedYOffset s subIncYReg =
        subIncByte s.dev.mode.incYOdd :=
  initWrites_subInc binnedYOffset s.dev.mode _ _ _

variable (binnedYOffset) in
theorem subIncRegs_configured (s : System) :
    subIncXReg ∈ configuredRegs binnedYOffset s ∧
      subIncYReg ∈ configuredRegs binnedYOffset s := by
  have haddrs : (geometryWrites binnedYOffset s.dev.mode).map
      MaskedWrite.addr = (geometryWrites 0 blank.mode).map MaskedWrite.addr :=
    rfl
  have hmem : ∀ a ∈ (geometryWrites 0 blank.mode).map MaskedWrite.addr,
      a ∈ configuredRegs binnedYOffset s := by
    intro a ha
    simp only [configuredRegs, modeWrites, List.map_append, List.mem_append]
    rw [haddrs]
    exact Or.inr (Or.inr (Or.inl ha))
  exact ⟨hmem _ (by decide), hmem _ (by decide)⟩

theorem follows_asked {h h' : History} {m m' : Mode} (hm : Follows h m)
    (hm' : Follows h' m')
    (hx : subIncByte m.incXOdd = subIncByte m'.incXOdd)
    (hy : subIncByte m.incYOdd = subIncByte m'.incYOdd) :
    h.asked = h'.asked := by
  rw [hm.incXOdd, hm'.incXOdd] at hx
  rw [hm.incYOdd, hm'.incYOdd] at hy
  have hfst := subIncByte_injective _ _ hx
  have hsnd := subIncByte_injective _ _ hy
  revert hfst hsnd
  rcases h.asked with _ | ⟨x, y⟩
  · cases h'.asked <;> simp
  · rcases h'.asked with _ | ⟨x', y'⟩
    · simp
    · intro hfst hsnd
      cases hfst
      cases hsnd
      rfl

theorem sameReadout_of_follows {h h' : History} {s s' : System}
    (hseen : SeenAlike s s') (hm : Follows h s.dev.mode)
    (hm' : Follows h' s'.dev.mode) (hasked : h.asked = h'.asked) :
    SameReadout s.dev.mode s'.dev.mode where
  binningX := by rw [hm.binningX, hm'.binningX, hasked]
  binningY := by rw [hm.binningY, hm'.binningY, hasked]
  incXOdd := by rw [hm.incXOdd, hm'.incXOdd, hasked]
  incYOdd := by rw [hm.incYOdd, hm'.incYOdd, hasked]
  width := by rw [hseen.format]
  height := by rw [hseen.format]
  crop _ := hseen.crop

/-! ## Cold starts after two runs -/

/-- After two runs from probe that user space cannot tell apart, starts of the
suspended sensor leave the same values in the registers of the mode exactly if
the last format calls of the runs asked for the same binning, or neither run
has one. -/
theorem sameImage_iff {regs regs' : ℕ → BitVec 8}
    {calls calls' : List (List Bool × Call)} {s s' t t' : System}
    (hs : s = run (sysStep binnedYOffset) (probe regs) calls)
    (hs' : s' = run (sysStep binnedYOffset) (probe regs') calls')
    (hoff : s.dev.pm.active = false) (hoff' : s'.dev.pm.active = false)
    (hseen : SeenAlike s s') {os os' : List Bool}
    (hstart : sStream binnedYOffset true (s.facing os) = (.ok (), t))
    (hstart' : sStream binnedYOffset true (s'.facing os') = (.ok (), t')) :
    SameImage binnedYOffset s s' t t' ↔
      askedBinning calls = askedBinning calls' := by
  have ht := sStream_startImage hoff hstart
  have ht' := sStream_startImage hoff' hstart'
  have hm := run_follows binnedYOffset regs calls
  have hm' := run_follows binnedYOffset regs' calls'
  rw [← hs] at hm
  rw [← hs'] at hm'
  constructor
  · intro hsame
    have hout : ∀ a ∈ [subIncXReg, subIncYReg],
        a ∉ writableCtrls.flatMap ctrlAddrs ∧ a ≠ mipiCtrl00Reg ∧
          a ≠ swStreamReg := by decide
    have hkept : ∀ a ∈ [subIncXReg, subIncYReg],
        a ∈ configuredRegs binnedYOffset s →
          resumedRegs binnedYOffset s a = resumedRegs binnedYOffset s' a := by
      intro a ha hconf
      obtain ⟨hnot, hmipi, hsw⟩ := hout a ha
      rw [← ht.mode a hnot hmipi hsw, ← ht'.mode a hnot hmipi hsw]
      exact hsame a (Or.inl hconf)
    obtain ⟨hconfX, hconfY⟩ := subIncRegs_configured binnedYOffset s
    have hx := hkept subIncXReg (by decide) hconfX
    have hy := hkept subIncYReg (by decide) hconfY
    rw [(resumedRegs_subInc s).1, (resumedRegs_subInc s').1] at hx
    rw [(resumedRegs_subInc s).2, (resumedRegs_subInc s').2] at hy
    exact follows_asked hm hm' hx hy
  · intro hasked
    have hread := sameReadout_of_follows hseen hm hm' hasked
    have hread' := sameReadout_of_follows
      ⟨hseen.format.symm, hseen.crop.symm, fun i => (hseen.ctrl i).symm⟩
        hm' hm hasked.symm
    rintro a (ha | ha)
    · exact image_eq ht ht' hread hseen ha
    · exact (image_eq ht' ht hread' ⟨hseen.format.symm, hseen.crop.symm,
        fun i => (hseen.ctrl i).symm⟩ ha).symm

end Parameters

/-- A run that sets the default format before the sensor is suspended, and one
that leaves the format of probe. -/
def formatSet : List (List Bool × Call) :=
  [([], .setFmt .active 2592 1944), ([], .autosuspend fun _ => 0)]

def formatOfProbe : List (List Bool × Call) := [([], .autosuspend fun _ => 0)]

def endOf (calls : List (List Bool × Call)) : System :=
  run (sysStep 2) (probe fun _ => 0) calls

theorem formats_seenAlike :
    SeenAlike (endOf formatSet) (endOf formatOfProbe) := by
  constructor
  · decide +kernel
  · decide +kernel
  · intro i
    cases i <;> decide +kernel

theorem start_ok (calls : List (List Bool × Call))
    (h : (sStream 2 true ((endOf calls).facing [])).1 = .ok ()) :
    sStream 2 true ((endOf calls).facing []) =
      (.ok (), (sStream 2 true ((endOf calls).facing [])).2) := by
  rw [← h]

/-- A binned format set twice gives the image of one set once. -/
theorem sameImage_again :
    SameImage 2
      (endOf [([], .setFmt .active 1296 972), ([], .autosuspend fun _ => 0)])
      (endOf [([], .setFmt .active 1296 972), ([], .setFmt .active 1200 900),
        ([], .autosuspend fun _ => 0xff)])
      (sStream 2 true ((endOf [([], .setFmt .active 1296 972),
        ([], .autosuspend fun _ => 0)]).facing [])).2
      (sStream 2 true ((endOf [([], .setFmt .active 1296 972),
        ([], .setFmt .active 1200 900),
        ([], .autosuspend fun _ => 0xff)]).facing [])).2 := by
  refine (sameImage_iff rfl rfl (by decide +kernel) (by decide +kernel) ?_
    (start_ok _ (by decide +kernel)) (start_ok _ (by decide +kernel))).mpr
      (by decide +kernel)
  constructor
  · decide +kernel
  · decide +kernel
  · intro i
    cases i <;> decide +kernel

/-- The sub-increments of probe are 0, those of the same format set by user
space are 1. -/
theorem sameImage_fails :
    ¬ ∀ (binnedYOffset : ℤ) (regs regs' : ℕ → BitVec 8)
      (calls calls' : List (List Bool × Call)) (s s' t t' : System)
      (os os' : List Bool),
      s = run (sysStep binnedYOffset) (probe regs) calls →
      s' = run (sysStep binnedYOffset) (probe regs') calls' →
      s.dev.pm.active = false → s'.dev.pm.active = false → SeenAlike s s' →
      sStream binnedYOffset true (s.facing os) = (.ok (), t) →
      sStream binnedYOffset true (s'.facing os') = (.ok (), t') →
        SameImage binnedYOffset s s' t t' := by
  intro h
  have hsame := h 2 (fun _ => 0) (fun _ => 0) formatSet formatOfProbe _ _ _ _
    [] [] rfl rfl (by decide +kernel) (by decide +kernel) formats_seenAlike
    (start_ok formatSet (by decide +kernel))
    (start_ok formatOfProbe (by decide +kernel))
  have hregs := hsame subIncXReg
    (Or.inl (subIncRegs_configured 2 _).1)
  revert hregs
  decide +kernel

end Ov5693
end SurfaceCameras
