import SurfaceCameras.Ov5693.Contexts

/-!
# Format negotiation of the OV5693 driver

`ov5693_set_fmt` answers on each axis with the crop size or half of it, from
two thirds of the crop size down with the half.  The answer does not change
when it is submitted again.  It grows with the request, except that the largest
request wraps round to zero in the alignment and is answered with the half.
The two axes are halved separately, but `ov5693_enum_frame_size` only lists the
sizes with both or none of them halved.
-/

namespace SurfaceCameras
namespace Ov5693

open Kernel Device FixedWidth Prog

/-! ## What a format call returns -/

theorem cciUpdateBits_untrapped (reg : ℕ) (mask val : BitVec 8) :
    Untrapped (cciUpdateBits reg mask val : Prog System Fault Unit) :=
  (Untrapped.busRead _ _).bind fun _ => Untrapped.busWrite _ _ _

theorem writeCtrl_untrapped (i : CtrlId) (val : ℤ) :
    Untrapped (writeCtrl i val) := by
  have hwrite : ∀ reg n v, Untrapped (cciWrite reg n v : Prog System Fault Unit) :=
    fun _ _ _ => Untrapped.busWrite _ _ _
  cases i with
  | exposure | analogueGain | testPattern => exact hwrite _ _ _
  | digitalGain =>
      exact (hwrite _ _ _).bind fun _ => (hwrite _ _ _).bind fun _ =>
        hwrite _ _ _
  | hflip =>
      refine (cciUpdateBits_untrapped _ _ _).bind fun _ => ?_
      exact (Keeps.gets _).bind fun mode => hwrite _ _ _
  | vflip =>
      exact (Keeps.gets _).bind fun mode => cciUpdateBits_untrapped _ _ _
  | vblank => exact (Keeps.gets _).bind fun height => hwrite _ _ _
  | hblank => exact Untrapped.errno _

theorem applyCtrl_untrapped (i : CtrlId) : Untrapped (applyCtrl i) :=
  Untrapped.held pmField.ofDev _ fun ctrl => writeCtrl_untrapped i ctrl.val

theorem limitExposure_total (exposureMax : ℤ) :
    Total (limitExposure exposureMax) :=
  Total.gets_bind fun _ => (Untrapped.v4l2CtrlModifyRange exposureField.ofDev
    (applyCtrl_untrapped .exposure) _ _ _ _).ignoreErrno

theorem sCtrl_untrapped (i : CtrlId) : Untrapped (sCtrl i) := by
  refine Keeps.bind (Keeps.when ?_) fun _ => applyCtrl_untrapped i
  exact (Total.gets_bind fun _ => limitExposure_total _).untrapped

/-- Past the divisions, the results of control operations are not looked
at. -/
theorem applyFormat_returns (hratio vratio width : ℕ) {height : ℕ}
    (hpos : 1 ≤ height) (hle : height ≤ 1956) (s : System) :
    ∃ s', applyFormat hratio vratio width height s = (.ok (), s') := by
  have hrange : ∀ (c : Field Device Ctrl) (i : CtrlId) lo hi st dflt,
      Total (ignoreErrno (v4l2CtrlModifyRange c.ofDev (sCtrl i) lo hi st dflt)) :=
    fun c i _ _ _ _ => (Untrapped.v4l2CtrlModifyRange c.ofDev
      (sCtrl_untrapped i) _ _ _ _).ignoreErrno
  have hset : ∀ (c : Field Device Ctrl) (i : CtrlId) v,
      Total (ignoreErrno (v4l2CtrlSCtrl c.ofDev (sCtrl i) v)) := fun c i _ =>
    (Untrapped.v4l2CtrlSCtrl c.ofDev (sCtrl_untrapped i) _).ignoreErrno
  unfold applyFormat
  rw [Prog.bind_ok (Prog.modify_apply _ s),
    Prog.bind_ok (calcVts_eq hpos hle _), Prog.bind_ok (Prog.modify_apply _ _)]
  refine Total.bind (hrange vblankField .vblank _ _ _ _) ?_ _
  refine Total.bind (hset vblankField .vblank _) ?_
  exact Total.bind (hrange hblankField .hblank _ _ _ _) (limitExposure_total _)

/-- The format that a context is given for a request. -/
def negotiated (width height : BitVec 32) (p : PadState) : MbusFramefmt :=
  MbusFramefmt.sized (outputSize p.crop.width width)
    (outputSize p.crop.height height) p.format

/-- A format call on a context with a crop rectangle returns what it stores,
whatever becomes of its transfers. -/
theorem setFmt_returns (which : Which) (width height : BitVec 32) {s : System}
    (hs : CropFits (pads s which).crop) :
    ∃ s', setFmt which width height s =
        (.ok (negotiated width height (pads s which)), s') ∧
      pads s' which =
        { pads s which with format := negotiated width height (pads s which) } := by
  have htall : nativeHeight ≤ 2624 := by decide
  have hx : (pads s which).crop.width /
      ratioOf (pads s which).crop.width minCropWidth width =
        outputSize (pads s which).crop.width width :=
    div_ratioOf hs.width_pos hs.width_le width
  have hy : (pads s which).crop.height /
      ratioOf (pads s which).crop.height minCropHeight height =
        outputSize (pads s which).crop.height height :=
    div_ratioOf hs.height_pos (hs.height_le.trans htall) height
  obtain ⟨hlo, hhi⟩ := outputSize_bounds hs.height_pos height
  have hempty : ¬ ((pads s which).crop.width = 0 ∨
      (pads s which).crop.height = 0) :=
    not_or.mpr ⟨hs.width_pos.ne', hs.height_pos.ne'⟩
  have hstored : pads (setFmt which width height s).2 which =
      { pads s which with
        format := negotiated width height (pads s which) } := by
    rw [setFmt_pads, Function.update_self, padAfter, if_neg hempty,
      formattedPad, hx, hy]
    rfl
  have happly : Total (Prog.when (which = .active)
      (applyFormat (ratioOf (pads s which).crop.width minCropWidth width)
        (ratioOf (pads s which).crop.height minCropHeight height)
        (outputSize (pads s which).crop.width width)
        (outputSize (pads s which).crop.height height))) := by
    intro t
    by_cases hactive : which = .active
    · rw [Prog.when_pos hactive]
      exact applyFormat_returns _ _ _ hlo (hhi.trans hs.height_le) t
    · rw [Prog.when_neg hactive]
      exact ⟨t, rfl⟩
  obtain ⟨t, ht⟩ := happly ((padState which).ofDev.update
    (formattedPad width height) s)
  have hrun : setFmt which width height s =
      (.ok (pads t which).format, t) := by
    rw [setFmt_of_pos which width height hs.width_pos hs.height_pos,
      Prog.bind_ok (Prog.modify_apply _ s)]
    rw [← hx, ← hy] at ht
    exact Prog.bind_ok ht
  rw [hrun] at hstored
  refine ⟨t, ?_, hstored⟩
  rw [hrun, hstored]

/-! ## One axis -/

section Axis

variable {cropSize : ℕ}

theorem align_ofNat {size : ℕ} (hle : size ≤ 2624) :
    (align (BitVec.ofNat 32 size) 2).toNat = (size + 1) / 2 * 2 := by
  rw [align_two_toNat, BitVec.toNat_ofNat]
  omega

/-- Submitting an output size chooses the ratio it was made with: an odd half is
aligned to one more, which is still at most two thirds. -/
theorem halves_again (heven : cropSize % 2 = 0) (hpos : 0 < cropSize)
    (hle : cropSize ≤ 2624) (requested : BitVec 32) :
    Halves cropSize (BitVec.ofNat 32 (outputSize cropSize requested)) ↔
      Halves cropSize requested := by
  have hbounds := outputSize_bounds hpos requested
  unfold Halves
  rw [align_ofNat (hbounds.2.trans hle)]
  unfold outputSize
  split
  · next h =>
      have hhalf : 3 * max (align requested 2).toNat 2 ≤ 2 * cropSize := h
      exact iff_of_true (by omega) hhalf
  · next h =>
      have hwhole : ¬ 3 * max (align requested 2).toNat 2 ≤ 2 * cropSize := h
      exact iff_of_false (by omega) hwhole

theorem outputSize_again (heven : cropSize % 2 = 0) (hpos : 0 < cropSize)
    (hle : cropSize ≤ 2624) (requested : BitVec 32) :
    outputSize cropSize (BitVec.ofNat 32 (outputSize cropSize requested)) =
      outputSize cropSize requested := by
  have hagain := halves_again heven hpos hle requested
  by_cases hhalves : Halves cropSize requested
  · exact (if_pos (hagain.mpr hhalves)).trans (if_pos hhalves).symm
  · exact (if_neg (mt hagain.mp hhalves)).trans (if_neg hhalves).symm

theorem outputSize_cases (requested : BitVec 32) :
    outputSize cropSize requested = cropSize ∨
      outputSize cropSize requested = cropSize / 2 := by
  unfold outputSize
  split
  · exact Or.inr rfl
  · exact Or.inl rfl

/-- The request is the largest there is, which the alignment wraps round to
zero, and there is something to halve. -/
def Wraps (cropSize : ℕ) (requested : BitVec 32) : Prop :=
  requested.toNat = 2 ^ 32 - 1 ∧ 3 ≤ cropSize

/-- The largest request asks for the smallest size. -/
theorem halves_of_wraps {requested : BitVec 32}
    (h : Wraps cropSize requested) : Halves cropSize requested := by
  obtain ⟨htop, hsize⟩ := h
  unfold Halves
  rw [align_two_toNat, htop]
  omega

theorem le_align {requested : BitVec 32}
    (h : requested.toNat ≠ 2 ^ 32 - 1) :
    (align requested 2).toNat = (requested.toNat + 1) / 2 * 2 := by
  have hlt := requested.isLt
  rw [align_two_toNat]
  omega

theorem not_halves {requested : BitVec 32} (hpos : 0 < cropSize)
    (hle : cropSize ≤ requested.toNat) (h : ¬ Wraps cropSize requested) :
    ¬ Halves cropSize requested := by
  unfold Halves
  by_cases htop : requested.toNat = 2 ^ 32 - 1
  · have hsmall : ¬ 3 ≤ cropSize := fun hsize => h ⟨htop, hsize⟩
    omega
  · rw [le_align htop]
    omega

/-- A request at least as large as the crop is answered with the crop size
exactly if it does not wrap. -/
theorem outputSize_eq_iff {requested : BitVec 32} (hpos : 0 < cropSize)
    (hle : cropSize ≤ requested.toNat) :
    outputSize cropSize requested = cropSize ↔ ¬ Wraps cropSize requested := by
  unfold outputSize
  constructor
  · intro hsize hwraps
    rw [if_pos (halves_of_wraps hwraps)] at hsize
    omega
  · intro hwraps
    rw [if_neg (not_halves hpos hle hwraps)]

/-- The larger of two requests is answered with the smaller size exactly if it
wraps and the other one asks for all of the crop. -/
theorem outputSize_le_iff {small large : BitVec 32} (hpos : 0 < cropSize)
    (hle : small.toNat ≤ large.toNat) :
    outputSize cropSize small ≤ outputSize cropSize large ↔
      (Wraps cropSize large → Halves cropSize small) := by
  unfold outputSize
  by_cases hlarge : Halves cropSize large
  · rw [if_pos hlarge]
    by_cases hsmall : Halves cropSize small
    · rw [if_pos hsmall]
      exact iff_of_true (le_refl _) fun _ => hsmall
    · rw [if_neg hsmall]
      have hwraps : Wraps cropSize large := by
        unfold Halves at hsmall hlarge
        by_contra hnot
        have htop : large.toNat ≠ 2 ^ 32 - 1 := by
          intro htop
          have hthree : 3 ≤ cropSize := by omega
          exact hnot ⟨htop, hthree⟩
        have hlt := large.isLt
        rw [le_align htop] at hlarge
        rw [le_align (by omega)] at hsmall
        omega
      exact iff_of_false (by omega) fun h => hsmall (h hwraps)
  · rw [if_neg hlarge]
    have hlarge' : Wraps cropSize large → Halves cropSize small :=
      fun h => absurd (halves_of_wraps h) hlarge
    refine iff_of_true ?_ hlarge'
    split
    · omega
    · exact le_refl _

end Axis

/-! ## Submitting an answer again -/

/-- The readout ratios that a format call chooses. -/
def chosenRatios (which : Which) (width height : BitVec 32) (s : System) :
    Except Fault ℕ × Except Fault ℕ :=
  ((ratio (pads s which).crop.width minCropWidth width s).1,
    (ratio (pads s which).crop.height minCropHeight height s).1)

theorem chosenRatios_eq (which : Which) (width height : BitVec 32) {s : System}
    (hs : CropFits (pads s which).crop) :
    chosenRatios which width height s =
      (.ok (binningRatio (decide (Halves (pads s which).crop.width width))),
        .ok (binningRatio
          (decide (Halves (pads s which).crop.height height)))) := by
  have htall : nativeHeight ≤ 2624 := by decide
  unfold chosenRatios
  rw [ratio_eq (by decide) hs.width_pos, ratio_eq (by decide) hs.height_pos]
  have hx := ratioOf_eq hs.width_pos hs.width_le width
  have hy := ratioOf_eq hs.height_pos (hs.height_le.trans htall) height
  exact congrArg₂ Prod.mk (congrArg Except.ok hx) (congrArg Except.ok hy)

/-- The binning that the driver has stored. -/
def storedBinning (s : System) : Bool × Bool :=
  (s.dev.mode.binningX, s.dev.mode.binningY)

/-- A format call on the active state stores the binning it asks for, one on a
file handle leaves it. -/
theorem setFmt_binning (which : Which) (width height : BitVec 32) {s : System}
    (hs : CropFits (pads s which).crop) :
    storedBinning (setFmt which width height s).2 =
      if which = .active then s.dev.mode.asked width height
      else storedBinning s := by
  cases which with
  | active =>
      have hmode := setFmt_formatted width height (s := s) hs
      unfold storedBinning
      rw [hmode]
      rfl
  | try_ i =>
      have hmode := setFmt_try_mode i width height s
      unfold storedBinning
      rw [hmode]
      rfl

theorem negotiated_again {p : PadState} (hp : CropFits p.crop)
    (hw : p.crop.width % 2 = 0) (hh : p.crop.height % 2 = 0)
    (width height : BitVec 32) :
    negotiated (BitVec.ofNat 32 (negotiated width height p).width)
        (BitVec.ofNat 32 (negotiated width height p).height)
        { p with format := negotiated width height p } =
      negotiated width height p := by
  have htall : nativeHeight ≤ 2624 := by decide
  have hx := outputSize_again hw hp.width_pos hp.width_le width
  have hy := outputSize_again hh hp.height_pos (hp.height_le.trans htall) height
  exact congrArg₂ (fun w h => MbusFramefmt.sized w h p.format) hx hy

/-- The binning that the answer asks for. -/
theorem asked_again {p : PadState} (hp : CropFits p.crop)
    (hw : p.crop.width % 2 = 0) (hh : p.crop.height % 2 = 0)
    (width height : BitVec 32) :
    decide (Halves p.crop.width
        (BitVec.ofNat 32 (negotiated width height p).width)) =
          decide (Halves p.crop.width width) ∧
      decide (Halves p.crop.height
        (BitVec.ofNat 32 (negotiated width height p).height)) =
          decide (Halves p.crop.height height) := by
  have htall : nativeHeight ≤ 2624 := by decide
  have hx := halves_again hw hp.width_pos hp.width_le width
  have hy := halves_again hh hp.height_pos (hp.height_le.trans htall) height
  exact ⟨decide_eq_decide.mpr hx, decide_eq_decide.mpr hy⟩

/-- Each dimension of an answer is the crop dimension or half of it, and the
answer, submitted again, is returned unchanged with the same binning. -/
theorem setFmt_idempotent (which : Which) (width height : BitVec 32)
    {s : System} (hweven : (pads s which).crop.width % 2 = 0)
    (hwlo : 2 ≤ (pads s which).crop.width)
    (hwhi : (pads s which).crop.width ≤ 2624)
    (hheven : (pads s which).crop.height % 2 = 0)
    (hhlo : 2 ≤ (pads s which).crop.height)
    (hhhi : (pads s which).crop.height ≤ 1956) :
    ∃ fmt s', setFmt which width height s = (.ok fmt, s') ∧
      (fmt.width = (pads s which).crop.width ∨
        fmt.width = (pads s which).crop.width / 2) ∧
      (fmt.height = (pads s which).crop.height ∨
        fmt.height = (pads s which).crop.height / 2) ∧
      ∀ outcomes, ∃ t,
        setFmt which (BitVec.ofNat 32 fmt.width) (BitVec.ofNat 32 fmt.height)
            (s'.facing outcomes) = (.ok fmt, t) ∧
          chosenRatios which (BitVec.ofNat 32 fmt.width)
              (BitVec.ofNat 32 fmt.height) (s'.facing outcomes) =
            chosenRatios which width height s ∧
          storedBinning t = storedBinning s' := by
  have hs : CropFits (pads s which).crop :=
    ⟨Nat.lt_of_lt_of_le Nat.two_pos hwlo, hwhi,
      Nat.lt_of_lt_of_le Nat.two_pos hhlo, hhhi⟩
  have hasked := asked_again hs hweven hheven width height
  obtain ⟨s', hrun, hpad⟩ := setFmt_returns which width height hs
  refine ⟨_, s', hrun, outputSize_cases width, outputSize_cases height, ?_⟩
  intro outcomes
  -- The second call finds what the first one stored.
  have hpad : pads (s'.facing outcomes) which =
      { pads s which with
        format := negotiated width height (pads s which) } := hpad
  have hcrop : (pads (s'.facing outcomes) which).crop =
      (pads s which).crop := by rw [hpad]
  have hs' : CropFits (pads (s'.facing outcomes) which).crop := by
    rw [hcrop]
    exact hs
  obtain ⟨t, hrun', -⟩ := setFmt_returns which
    (BitVec.ofNat 32 (negotiated width height (pads s which)).width)
    (BitVec.ofNat 32 (negotiated width height (pads s which)).height) hs'
  have hfirst := setFmt_binning which width height hs
  have hsecond := setFmt_binning which
    (BitVec.ofNat 32 (negotiated width height (pads s which)).width)
    (BitVec.ofNat 32 (negotiated width height (pads s which)).height) hs'
  rw [hrun] at hfirst
  rw [hrun'] at hsecond
  rw [hpad, negotiated_again hs hweven hheven width height] at hrun'
  refine ⟨t, hrun', ?_, ?_⟩
  · rw [chosenRatios_eq which _ _ hs', hcrop, hasked.1, hasked.2,
      chosenRatios_eq which width height hs]
  · rw [hsecond]
    by_cases hactive : which = .active
    · subst hactive
      rw [hfirst, if_pos rfl, if_pos rfl]
      have hmode : (s'.facing outcomes).dev.mode.crop = s.dev.mode.crop := hcrop
      unfold Mode.asked
      rw [hmode]
      exact congrArg₂ Prod.mk hasked.1 hasked.2
    · rw [if_neg hactive]
      rfl

/-- The default crop rectangle, asked for a size between the two. -/
theorem setFmt_idempotent_default :
    ∃ fmt s', setFmt .active 1280 960 (probe fun _ => 0) = (.ok fmt, s') ∧
      (fmt.width = (pads (probe fun _ => 0) .active).crop.width ∨
        fmt.width = (pads (probe fun _ => 0) .active).crop.width / 2) ∧
      (fmt.height = (pads (probe fun _ => 0) .active).crop.height ∨
        fmt.height = (pads (probe fun _ => 0) .active).crop.height / 2) ∧
      ∀ outcomes, ∃ t,
        setFmt .active (BitVec.ofNat 32 fmt.width) (BitVec.ofNat 32 fmt.height)
            (s'.facing outcomes) = (.ok fmt, t) ∧
          chosenRatios .active (BitVec.ofNat 32 fmt.width)
              (BitVec.ofNat 32 fmt.height) (s'.facing outcomes) =
            chosenRatios .active 1280 960 (probe fun _ => 0) ∧
          storedBinning t = storedBinning s' := by
  have hcrop : (pads (probe fun _ => 0) .active).crop =
      defaultCrop := congrArg PadState.crop (probe_pads _ .active)
  exact setFmt_idempotent .active 1280 960 (by rw [hcrop]; decide)
    (by rw [hcrop]; decide) (by rw [hcrop]; decide) (by rw [hcrop]; decide)
    (by rw [hcrop]; decide) (by rw [hcrop]; decide)

/-! ## Larger requests -/

/-- Of two requests for one crop rectangle, the larger one is answered with the
larger format, and with the unbinned readout if it is as large as the crop. -/
def Grows (which : Which) (w₁ h₁ w₂ h₂ : BitVec 32) (s₁ s₂ : System) : Prop :=
  ∃ fmt₁ fmt₂, (setFmt which w₁ h₁ s₁).1 = .ok fmt₁ ∧
    (setFmt which w₂ h₂ s₂).1 = .ok fmt₂ ∧
    fmt₁.width ≤ fmt₂.width ∧ fmt₁.height ≤ fmt₂.height ∧
    ((pads s₂ which).crop.width ≤ w₂.toNat →
      (pads s₂ which).crop.height ≤ h₂.toNat →
        fmt₂.width = (pads s₂ which).crop.width ∧
          fmt₂.height = (pads s₂ which).crop.height ∧
          chosenRatios which w₂ h₂ s₂ = (.ok 1, .ok 1))

/-- The unbinned readout is chosen exactly if neither request wraps. -/
theorem unbinned_iff (which : Which) {width height : BitVec 32} {s : System}
    (hs : CropFits (pads s which).crop)
    (hw : (pads s which).crop.width ≤ width.toNat)
    (hh : (pads s which).crop.height ≤ height.toNat) :
    outputSize (pads s which).crop.width width = (pads s which).crop.width ∧
        outputSize (pads s which).crop.height height =
          (pads s which).crop.height ∧
        chosenRatios which width height s = (.ok 1, .ok 1) ↔
      ¬ Wraps (pads s which).crop.width width ∧
        ¬ Wraps (pads s which).crop.height height := by
  rw [outputSize_eq_iff hs.width_pos hw, outputSize_eq_iff hs.height_pos hh]
  constructor
  · exact fun h => ⟨h.1, h.2.1⟩
  · rintro ⟨hx, hy⟩
    refine ⟨hx, hy, ?_⟩
    rw [chosenRatios_eq which width height hs,
      decide_eq_false (not_halves hs.width_pos hw hx),
      decide_eq_false (not_halves hs.height_pos hh hy)]
    rfl

/-- Exactly the largest request breaks this, where it is answered with half of
the crop: beside a request for more than two thirds, or for both dimensions of
the crop. -/
theorem grows_iff (which : Which) {w₁ h₁ w₂ h₂ : BitVec 32} {s₁ s₂ : System}
    (hsame : (pads s₁ which).crop = (pads s₂ which).crop)
    (hcrop : CropFits (pads s₂ which).crop) (hw : w₁.toNat ≤ w₂.toNat)
    (hh : h₁.toNat ≤ h₂.toNat) :
    Grows which w₁ h₁ w₂ h₂ s₁ s₂ ↔
      (Wraps (pads s₂ which).crop.width w₂ →
        Halves (pads s₂ which).crop.width w₁) ∧
      (Wraps (pads s₂ which).crop.height h₂ →
        Halves (pads s₂ which).crop.height h₁) ∧
      ((pads s₂ which).crop.width ≤ w₂.toNat →
        (pads s₂ which).crop.height ≤ h₂.toNat →
          ¬ Wraps (pads s₂ which).crop.width w₂ ∧
            ¬ Wraps (pads s₂ which).crop.height h₂) := by
  have hcrop₁ : CropFits (pads s₁ which).crop := by
    rw [hsame]
    exact hcrop
  obtain ⟨t₁, hrun₁, -⟩ := setFmt_returns which w₁ h₁ hcrop₁
  obtain ⟨t₂, hrun₂, -⟩ := setFmt_returns which w₂ h₂ hcrop
  have hfirst : (setFmt which w₁ h₁ s₁).1 = .ok (MbusFramefmt.sized
      (outputSize (pads s₂ which).crop.width w₁)
      (outputSize (pads s₂ which).crop.height h₁) (pads s₁ which).format) := by
    rw [hrun₁, ← hsame]
    rfl
  have hsecond : (setFmt which w₂ h₂ s₂).1 = .ok (MbusFramefmt.sized
      (outputSize (pads s₂ which).crop.width w₂)
      (outputSize (pads s₂ which).crop.height h₂) (pads s₂ which).format) := by
    rw [hrun₂]
    rfl
  rw [← outputSize_le_iff hcrop.width_pos hw,
    ← outputSize_le_iff hcrop.height_pos hh]
  unfold Grows
  rw [hfirst, hsecond]
  constructor
  · rintro ⟨fmt₁, fmt₂, hfmt₁, hfmt₂, hwidth, hheight, hwhole⟩
    obtain rfl := Except.ok.inj hfmt₁
    obtain rfl := Except.ok.inj hfmt₂
    refine ⟨hwidth, hheight, fun hwle hhle => ?_⟩
    exact (unbinned_iff which hcrop hwle hhle).mp (hwhole hwle hhle)
  · rintro ⟨hwidth, hheight, hwhole⟩
    refine ⟨_, _, rfl, rfl, hwidth, hheight, fun hwle hhle => ?_⟩
    exact (unbinned_iff which hcrop hwle hhle).mpr (hwhole hwle hhle)

theorem probe_fits (regs : ℕ → BitVec 8) :
    CropFits (pads (probe regs) .active).crop := by
  rw [probe_pads]
  exact defaultCrop_inArray.fits (by decide) (by decide)

/-- Requests that stay away from the top grow. -/
theorem grows_default :
    Grows .active 640 480 0xfffffffe 0xfffffffe (probe fun _ => 0)
      (probe fun _ => 0) := by
  have hw : ∀ n, ¬ Wraps n 0xfffffffe := fun n h => absurd h.1 (by decide)
  exact (grows_iff .active rfl (probe_fits _) (by decide) (by decide)).mpr
    ⟨fun h => absurd h (hw _), fun h => absurd h (hw _),
      fun _ _ => ⟨hw _, hw _⟩⟩

/-- A request for the largest size is answered with half of the crop. -/
theorem grows_fails :
    ¬ ∀ (which : Which) (w₁ h₁ w₂ h₂ : BitVec 32) (s₁ s₂ : System),
      (pads s₁ which).crop = (pads s₂ which).crop →
      CropFits (pads s₂ which).crop → w₁.toNat ≤ w₂.toNat →
      h₁.toNat ≤ h₂.toNat → Grows which w₁ h₁ w₂ h₂ s₁ s₂ := by
  intro h
  have hgrows := h .active 2592 1944 0xffffffff 0xffffffff (probe fun _ => 0)
    (probe fun _ => 0) rfl (probe_fits _) (by decide) (by decide)
  have hfits := probe_fits fun _ => 0
  obtain ⟨t₁, hrun₁, -⟩ := setFmt_returns .active 2592 1944 hfits
  obtain ⟨t₂, hrun₂, -⟩ := setFmt_returns .active 0xffffffff 0xffffffff hfits
  obtain ⟨fmt₁, fmt₂, hfmt₁, hfmt₂, hle, -⟩ := hgrows
  rw [hrun₁] at hfmt₁
  rw [hrun₂] at hfmt₂
  obtain rfl := Except.ok.inj hfmt₁
  obtain rfl := Except.ok.inj hfmt₂
  rw [probe_pads] at hle
  exact absurd hle (by decide)

/-! ## The sizes that are listed -/

/-- The sizes that a format call on a context can return. -/
def negotiableSizes (which : Which) (s : System) : Set (ℕ × ℕ) :=
  {size | ∃ width height fmt, (setFmt which width height s).1 = .ok fmt ∧
    size = (fmt.width, fmt.height)}

/-- The sizes that `ov5693_enum_frame_size` lists for a context. -/
def listedSizes (which : Which) (s : System) : Set (ℕ × ℕ) :=
  {size | ∃ index code sizes, (enumFrameSize which index code s).1 = .ok sizes ∧
    sizes.minWidth ≤ size.1 ∧ size.1 ≤ sizes.maxWidth ∧
    sizes.minHeight ≤ size.2 ∧ size.2 ≤ sizes.maxHeight}

/-- The sizes of an index, which halves both dimensions or none. -/
theorem listedSizes_eq (which : Which) (s : System) :
    listedSizes which s =
      {((pads s which).crop.width, (pads s which).crop.height),
        ((pads s which).crop.width / 2, (pads s which).crop.height / 2)} := by
  ext ⟨w, h⟩
  constructor
  · rintro ⟨index, code, sizes, hrun, hsize⟩
    unfold enumFrameSize at hrun
    split at hrun
    · cases hrun
    · next hindex =>
        obtain rfl := Except.ok.inj hrun
        have hw : w = (pads s which).crop.width / (index.toNat + 1) :=
          le_antisymm hsize.2.1 hsize.1
        have hh : h = (pads s which).crop.height / (index.toNat + 1) :=
          le_antisymm hsize.2.2.2 hsize.2.2.1
        have hcases : index.toNat = 0 ∨ index.toNat = 1 := by omega
        rcases hcases with hzero | hone
        · rw [hw, hh, hzero, Nat.div_one, Nat.div_one]
          exact Or.inl rfl
        · rw [hw, hh, hone]
          exact Or.inr rfl
  · rintro (hsize | hsize)
    · obtain ⟨rfl, rfl⟩ := Prod.mk.inj hsize
      refine ⟨0, 0x3007, _, rfl, ?_⟩
      simp [pads]
    · obtain ⟨rfl, rfl⟩ := Prod.mk.inj hsize
      refine ⟨1, 0x3007, _, rfl, ?_⟩
      simp [pads]

/-- Both sizes of an axis can be negotiated. -/
theorem exists_outputSize {cropSize : ℕ} (heven : cropSize % 2 = 0)
    (hlo : 4 ≤ cropSize) (hle : cropSize ≤ 2624) :
    (∃ r, outputSize cropSize r = cropSize) ∧
      ∃ r, outputSize cropSize r = cropSize / 2 := by
  have hwhole : ¬ Halves cropSize (BitVec.ofNat 32 cropSize) := by
    unfold Halves
    rw [align_ofNat hle]
    omega
  have hhalf : Halves cropSize (BitVec.ofNat 32 (cropSize / 2)) := by
    unfold Halves
    rw [align_ofNat (by omega)]
    omega
  exact ⟨⟨_, if_neg hwhole⟩, ⟨_, if_pos hhalf⟩⟩

/-- Each dimension is halved or not, whatever becomes of the other. -/
theorem negotiableSizes_eq (which : Which) {s : System}
    (hs : CropFits (pads s which).crop)
    (hweven : (pads s which).crop.width % 2 = 0)
    (hwlo : 4 ≤ (pads s which).crop.width)
    (hheven : (pads s which).crop.height % 2 = 0)
    (hhlo : 4 ≤ (pads s which).crop.height) :
    negotiableSizes which s =
      {size | (size.1 = (pads s which).crop.width ∨
          size.1 = (pads s which).crop.width / 2) ∧
        (size.2 = (pads s which).crop.height ∨
          size.2 = (pads s which).crop.height / 2)} := by
  have htall : nativeHeight ≤ 2624 := by decide
  obtain ⟨hwhole, hhalf⟩ := exists_outputSize hweven hwlo hs.width_le
  obtain ⟨hwhole', hhalf'⟩ :=
    exists_outputSize hheven hhlo (hs.height_le.trans htall)
  ext ⟨w, h⟩
  constructor
  · rintro ⟨width, height, fmt, hfmt, hsize⟩
    obtain ⟨t, hrun, -⟩ := setFmt_returns which width height hs
    rw [hrun] at hfmt
    obtain rfl := Except.ok.inj hfmt
    obtain ⟨rfl, rfl⟩ := Prod.mk.inj hsize
    exact ⟨outputSize_cases width, outputSize_cases height⟩
  · rintro ⟨hw, hh⟩
    have hw : ∃ r, outputSize (pads s which).crop.width r = w := by
      rcases hw with rfl | rfl
      · exact hwhole
      · exact hhalf
    have hh : ∃ r, outputSize (pads s which).crop.height r = h := by
      rcases hh with rfl | rfl
      · exact hwhole'
      · exact hhalf'
    obtain ⟨width, hwidth⟩ := hw
    obtain ⟨height, hheight⟩ := hh
    obtain ⟨t, hrun, -⟩ := setFmt_returns which width height hs
    refine ⟨width, height, _, congrArg Prod.fst hrun, ?_⟩
    rw [← hwidth, ← hheight]
    rfl

/-- A size with only the height halved can be negotiated and is not listed. -/
theorem negotiableSizes_ne (which : Which) {s : System}
    (hs : CropFits (pads s which).crop)
    (hweven : (pads s which).crop.width % 2 = 0)
    (hwlo : 4 ≤ (pads s which).crop.width)
    (hheven : (pads s which).crop.height % 2 = 0)
    (hhlo : 4 ≤ (pads s which).crop.height) :
    negotiableSizes which s ≠ listedSizes which s := by
  intro hsame
  have hmixed : ((pads s which).crop.width, (pads s which).crop.height / 2) ∈
      negotiableSizes which s := by
    rw [negotiableSizes_eq which hs hweven hwlo hheven hhlo]
    exact ⟨Or.inl rfl, Or.inr rfl⟩
  rw [hsame, listedSizes_eq] at hmixed
  rcases hmixed with h | h
  · have hheight := (Prod.mk.inj h).2
    omega
  · have hwidth := (Prod.mk.inj h).1
    omega

/-- The default crop rectangle. -/
theorem negotiableSizes_ne_default :
    negotiableSizes .active (probe fun _ => 0) ≠
      listedSizes .active (probe fun _ => 0) := by
  have hcrop : (pads (probe fun _ => 0) .active).crop = defaultCrop :=
    congrArg PadState.crop (probe_pads _ .active)
  exact negotiableSizes_ne .active (probe_fits _) (by rw [hcrop]; decide)
    (by rw [hcrop]; decide) (by rw [hcrop]; decide) (by rw [hcrop]; decide)

/-- The default crop rectangle can be halved vertically alone. -/
theorem negotiableSizes_unlisted :
    ¬ ∀ (which : Which) (s : System), CropFits (pads s which).crop →
      (pads s which).crop.width % 2 = 0 → 4 ≤ (pads s which).crop.width →
      (pads s which).crop.height % 2 = 0 → 4 ≤ (pads s which).crop.height →
        negotiableSizes which s = listedSizes which s := by
  intro h
  have hcrop : (pads (probe fun _ => 0) .active).crop = defaultCrop :=
    congrArg PadState.crop (probe_pads _ .active)
  have hsame := h .active (probe fun _ => 0) (probe_fits _)
    (by rw [hcrop]; decide) (by rw [hcrop]; decide) (by rw [hcrop]; decide)
    (by rw [hcrop]; decide)
  have hmixed : ((2592 : ℕ), (972 : ℕ)) ∈ listedSizes .active
      (probe fun _ => 0) := by
    rw [← hsame]
    obtain ⟨t, hrun, -⟩ := setFmt_returns .active 2592 972
      (probe_fits fun _ => 0)
    refine ⟨2592, 972, _, congrArg Prod.fst hrun, ?_⟩
    rw [probe_pads]
    decide
  rw [listedSizes_eq, hcrop] at hmixed
  rcases hmixed with hpair | hpair
  · exact absurd hpair (by decide)
  · exact absurd hpair (by decide)

end Ov5693
end SurfaceCameras
