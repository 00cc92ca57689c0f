import SurfaceCameras.Ov5693.Writes
import SurfaceCameras.Ov5693.ModeHistory
import SurfaceCameras.Kernel.Words

/-!
# The readout window of the OV5693 driver

`ov5693_mode_configure` programs four pairs of registers on each axis: the
first and the last line that are read, the offset of the window in what the
binning leaves of them, and its size.  The first and the last line come from
the crop rectangle, or span the whole array once an axis is binned; the offset
is a constant there and the size is the one of the format.
-/

namespace SurfaceCameras
namespace Ov5693

open Kernel Device MaskedWrites Prog

/-- What the registers describe lies in the pixel array, and the window in what
the binning of its axis leaves of the lines that are read. -/
structure WindowFits (m : Mode) (r : Registers) : Prop where
  end_x : word r cropEndXReg 2 ≤ nativeWidth - 1
  end_y : word r cropEndYReg 2 ≤ nativeHeight - 1
  window_x : word r offsetStartXReg 2 + word r outputSizeXReg 2 ≤
    (word r cropEndXReg 2 - word r cropStartXReg 2 + 1) /
      binningRatio m.binningX
  window_y : word r offsetStartYReg 2 + word r outputSizeYReg 2 ≤
    (word r cropEndYReg 2 - word r cropStartYReg 2 + 1) /
      binningRatio m.binningY

/-- The crop rectangle leaves room around the window: a line at the far edges
of an unbinned readout, the offset before the window of a binned one. -/
def LeavesRoom (binnedYOffset : ℤ) (crop : Rect) (w h : BitVec 32) : Prop :=
  let rx := binningRatio (decide (Halves crop.width w))
  let ry := binningRatio (decide (Halves crop.height h))
  if Halves crop.width w ∨ Halves crop.height h then
    crop.width + 8 * rx ≤ nativeWidth ∧
      crop.height + binnedYOffset * ry ≤ nativeHeight
  else
    crop.left + crop.width < nativeWidth ∧
      crop.top + crop.height < nativeHeight

/-! ## The values of the registers -/

section Words

variable (binnedYOffset : ℤ) (m : Mode) (hflip vflip : ℤ)

/-- The registers of the window and what the mode asks for in them. -/
def windowPairs : List (ℕ × ℤ) :=
  [(cropStartXReg, readoutStart m m.crop.left),
    (cropStartYReg, readoutStart m m.crop.top),
    (cropEndXReg, readoutEnd m m.crop.left m.crop.width nativeWidth),
    (cropEndYReg, readoutEnd m m.crop.top m.crop.height nativeHeight),
    (offsetStartXReg, offsetStartX m (hflip != 0)),
    (offsetStartYReg, if m.binned then binnedYOffset else 0),
    (outputSizeXReg, m.format.width), (outputSizeYReg, m.format.height)]

def windowRegs : List ℕ :=
  [cropStartXReg, cropStartYReg, cropEndXReg, cropEndYReg, offsetStartXReg,
    offsetStartYReg, outputSizeXReg, outputSizeYReg]

/-- Neither the vertical flip nor the mode table writes a register of the
window. -/
theorem writesTo_window {a : ℕ} (ha : a ∈ List.range' 0x3800 20) :
    writesTo a (modeWrites binnedYOffset m hflip vflip) =
      writesTo a (cropStartWrites m ++ (offsetXWrites m hflip ++
        geometryWrites binnedYOffset m)) := by
  have htable : writesTo a (tableWrites (modeTable m)) = [] := by
    revert a
    unfold modeTable
    cases m.binned with
    | true => decide
    | false => decide
  have hne : ¬ format1Reg = a := by
    rintro rfl
    exact absurd ha (by decide)
  have hflips : writesTo a (vflipWrites m vflip) = [] := by
    unfold vflipWrites
    split
    · simp [writesTo, hne]
    · rfl
  simp only [modeWrites, writesTo_append, htable, hflips, List.append_nil]

/-- A window register holds the two low bytes of its value. -/
theorem window_word {p : ℕ × ℤ} (hp : p ∈ windowPairs binnedYOffset m hflip)
    (r : Registers) :
    (word (applyAll (modeWrites binnedYOffset m hflip vflip) r) p.1 2 : ℤ) =
      p.2 % 256 ^ 2 := by
  apply word_written (r := r)
  intro k hk
  apply applyAll_at_congr
  have hreg : p.1 ∈ windowRegs := List.mem_map_of_mem hp
  have hrange : ∀ a ∈ windowRegs, ∀ j < 2, a + j ∈ List.range' 0x3800 20 := by
    decide
  rw [writesTo_window binnedYOffset m hflip vflip (hrange _ hreg k hk)]
  -- Split into one list for each value, the writes are found by computation.
  simp only [cropStartWrites, offsetXWrites, geometryWrites, writesTo_append]
  simp only [windowPairs, List.mem_cons, List.not_mem_nil, or_false] at hp
  obtain rfl | rfl : k = 0 ∨ k = 1 := by omega
  · rcases hp with rfl | rfl | rfl | rfl | rfl | rfl | rfl | rfl <;> rfl
  · rcases hp with rfl | rfl | rfl | rfl | rfl | rfl | rfl | rfl <;> rfl

theorem window_value (hfit : ∀ p ∈ windowPairs binnedYOffset m hflip,
      0 ≤ p.2 ∧ p.2 < 65536) (r : Registers)
    {p : ℕ × ℤ} (hp : p ∈ windowPairs binnedYOffset m hflip) :
    (word (applyAll (modeWrites binnedYOffset m hflip vflip) r) p.1 2 : ℤ) =
      p.2 := by
  rw [window_word binnedYOffset m hflip vflip hp r]
  exact Int.emod_eq_of_lt (hfit p hp).1 (hfit p hp).2

end Words

/-! ## When the window fits -/

section Fits

variable {binnedYOffset : ℤ}

/-- Registers that hold the window of a binned or unbinned readout of the crop
fit exactly if the crop leaves room around it. -/
theorem fits_of_values {m : Mode} (hm : InArray m.crop) (x y : Bool)
    {hflip : ℤ} {r : Registers}
    (hvalues : ∀ p ∈ windowPairs binnedYOffset (m.formatted x y) hflip,
      (word r p.1 2 : ℤ) = p.2) :
    WindowFits (m.formatted x y) r ↔
      if x || y then
        m.crop.width + 8 * binningRatio x ≤ nativeWidth ∧
          m.crop.height + binnedYOffset * binningRatio y ≤ nativeHeight
      else
        m.crop.left + m.crop.width < nativeWidth ∧
          m.crop.top + m.crop.height < nativeHeight := by
  simp only [windowPairs, List.forall_mem_cons, List.not_mem_nil,
    IsEmpty.forall_iff, implies_true, and_true] at hvalues
  obtain ⟨hstartX, hstartY, hendX, hendY, hoffX, hoffY, hsizeX, hsizeY⟩ :=
    hvalues
  have hfits : WindowFits (m.formatted x y) r ↔
      word r cropEndXReg 2 ≤ 2623 ∧ word r cropEndYReg 2 ≤ 1955 ∧
        word r offsetStartXReg 2 + word r outputSizeXReg 2 ≤
          (word r cropEndXReg 2 - word r cropStartXReg 2 + 1) /
            binningRatio x ∧
        word r offsetStartYReg 2 + word r outputSizeYReg 2 ≤
          (word r cropEndYReg 2 - word r cropStartYReg 2 + 1) /
            binningRatio y :=
    ⟨fun ⟨h1, h2, h3, h4⟩ => ⟨h1, h2, h3, h4⟩,
      fun ⟨h1, h2, h3, h4⟩ => ⟨h1, h2, h3, h4⟩⟩
  rw [hfits]
  revert hstartX hstartY hendX hendY hoffX hoffY hsizeX hsizeY
  have hweven := hm.width_even
  have hheven := hm.height_even
  have hleft := hm.left_nonneg
  have htop := hm.top_nonneg
  have hright := hm.right_le
  have hbottom := hm.bottom_le
  simp only [nativeWidth, nativeHeight] at hright hbottom ⊢
  -- Two of the four kinds of binning read the whole array on both axes.
  have hone : binningRatio false = 1 := rfl
  have htwo : binningRatio true = 2 := rfl
  cases x with
  | true =>
      cases y with
      | true =>
          simp only [readoutStart, readoutEnd, offsetStartX, Mode.binned,
            Mode.formatted, MbusFramefmt.sized, Bool.or_true, if_true, htwo]
          omega
      | false =>
          simp only [readoutStart, readoutEnd, offsetStartX, Mode.binned,
            Mode.formatted, MbusFramefmt.sized, Bool.or_false, if_true, hone,
            htwo]
          omega
  | false =>
      cases y with
      | true =>
          simp only [readoutStart, readoutEnd, offsetStartX, Mode.binned,
            Mode.formatted, MbusFramefmt.sized, Bool.or_true, if_true, hone,
            htwo]
          omega
      | false =>
          simp only [readoutStart, readoutEnd, offsetStartX, Mode.binned,
            Mode.formatted, MbusFramefmt.sized, Bool.or_false,
            Bool.false_eq_true, if_false, hone]
          have hflips : (if (hflip != 0) = true then 1 else 0 : ℕ) ≤ 1 := by
            split <;> decide
          omega

variable (hlo : 1 ≤ binnedYOffset) (hhi : binnedYOffset ≤ 3)
include hlo hhi

/-- The values of a window in the array fit 16 bits. -/
theorem windowPairs_fit {m : Mode} (hm : InArray m.crop) (x y : Bool)
    (hflip : ℤ) :
    ∀ p ∈ windowPairs binnedYOffset (m.formatted x y) hflip,
      0 ≤ p.2 ∧ p.2 < 65536 := by
  have hleft := hm.left_nonneg
  have htop := hm.top_nonneg
  have hright := hm.right_le
  have hbottom := hm.bottom_le
  simp only [nativeWidth, nativeHeight] at hright hbottom
  have hwidth : m.crop.width / binningRatio x ≤ m.crop.width :=
    Nat.div_le_self _ _
  have hheight : m.crop.height / binningRatio y ≤ m.crop.height :=
    Nat.div_le_self _ _
  have hoffset : offsetStartX (m.formatted x y) (hflip != 0) ≤ 8 := by
    unfold offsetStartX
    split
    · exact le_refl _
    · split <;> decide
  simp only [windowPairs, List.forall_mem_cons, List.not_mem_nil,
    IsEmpty.forall_iff, implies_true, and_true]
  generalize offsetStartX (m.formatted x y) (hflip != 0) = offset at hoffset
  simp only [readoutStart, readoutEnd, Mode.formatted, MbusFramefmt.sized,
    nativeWidth, nativeHeight]
  generalize m.crop.width / binningRatio x = outWidth at hwidth
  generalize m.crop.height / binningRatio y = outHeight at hheight
  refine ⟨?_, ?_, ?_, ?_, ?_, ?_, ?_, ?_⟩
  · split <;> omega
  · split <;> omega
  · split <;> omega
  · split <;> omega
  · omega
  · split <;> omega
  · omega
  · omega

/-- The window of a mode that a format call has stored. -/
theorem formatted_fits_iff {m : Mode} (hm : InArray m.crop)
    (hw : 0 < m.crop.width) (hh : 0 < m.crop.height) (w h : BitVec 32)
    (hflip vflip : ℤ) (r : Registers) :
    WindowFits (m.after (.setFmt .active w h))
        (applyAll (modeWrites binnedYOffset (m.after (.setFmt .active w h))
          hflip vflip) r) ↔
      LeavesRoom binnedYOffset m.crop w h := by
  have hmode : m.after (.setFmt .active w h) =
      m.formatted (decide (Halves m.crop.width w))
        (decide (Halves m.crop.height h)) :=
    if_neg (by omega)
  rw [hmode]
  have hroom := fits_of_values hm (decide (Halves m.crop.width w))
    (decide (Halves m.crop.height h))
    fun p hp => window_value binnedYOffset _ hflip vflip
      (windowPairs_fit hlo hhi hm _ _ hflip) r hp
  rw [hroom, LeavesRoom, ← Bool.decide_or]
  simp only [decide_eq_true_eq]

/-- After a selection of a rectangle that is not empty and a format call, the
window that `ov5693_mode_configure` programs fits exactly if the rectangle
leaves room around it, whatever the state before and the flip controls. -/
theorem windowFits_iff (s : System) (r : RectRequest)
    (hwidth : 0 < (selectedRect r).width)
    (hheight : 0 < (selectedRect r).height) (w h : BitVec 32) {t u : System}
    (ht : t.dev.mode = (setFmt .active w h
      (setSelection .active .crop r s).2).2.dev.mode)
    (hu : modeConfigure binnedYOffset t = (.ok (), u)) :
    WindowFits t.dev.mode u.bus.regs ↔
      LeavesRoom binnedYOffset (selectedRect r) w h := by
  have hcrop : (setSelection .active .crop r s).2.dev.mode.crop =
      selectedRect r :=
    congrArg Mode.crop (setSelection_mode r s)
  have harray := selectedRect_inArray r
  revert ht
  generalize (setSelection .active .crop r s).2 = s₁ at hcrop
  intro ht
  rw [← hcrop] at hwidth hheight harray ⊢
  rw [setFmt_mode w h harray] at ht
  have hwrites := modeConfigure_emits binnedYOffset t.dev t.bus.regs t ⟨rfl, rfl⟩
  rw [hu] at hwrites
  have hregs : u.bus.regs = applyAll (modeWrites binnedYOffset t.dev.mode
      t.dev.hflip.val t.dev.vflip.val) t.bus.regs :=
    hwrites.2
  rw [hregs, ht]
  exact formatted_fits_iff hlo hhi harray hwidth hheight w h _ _ _

end Fits

/-- A rectangle and a format selected in the state of probe, and the registers
of the mode right after. -/
def configured (r : RectRequest) (w h : BitVec 32) : System :=
  (modeConfigure 2 (setFmt .active w h
    (setSelection .active .crop r (probe fun _ => 0)).2).2).2

theorem configured_ok (r : RectRequest) (w h : BitVec 32)
    (hok : (modeConfigure 2 (setFmt .active w h
      (setSelection .active .crop r (probe fun _ => 0)).2).2).1 = .ok ()) :
    modeConfigure 2 (setFmt .active w h
        (setSelection .active .crop r (probe fun _ => 0)).2).2 =
      (.ok (), configured r w h) :=
  Prod.ext hok rfl

/-- The binned mode of the active area fits: the rectangle leaves room. -/
theorem windowFits_active :
    LeavesRoom 2 (selectedRect ⟨16, 6, 2592, 1944⟩) 1296 972 ∧
      WindowFits (setFmt .active 1296 972 (setSelection .active .crop
          ⟨16, 6, 2592, 1944⟩ (probe fun _ => 0)).2).2.dev.mode
        (configured ⟨16, 6, 2592, 1944⟩ 1296 972).bus.regs := by
  have hok := configured_ok ⟨16, 6, 2592, 1944⟩ 1296 972 (by decide +kernel)
  have hroom : LeavesRoom 2 (selectedRect ⟨16, 6, 2592, 1944⟩) 1296 972 := by
    unfold LeavesRoom
    decide +kernel
  refine ⟨hroom, ?_⟩
  exact (windowFits_iff (by decide) (by decide) _ _ (by decide) (by decide) 1296
    972 (by rfl) hok).mpr hroom

/-- With the whole array selected, the last column read is past its edge. -/
theorem windowFits_fails :
    ¬ ∀ (binnedYOffset : ℤ) (s : System) (r : RectRequest) (w h : BitVec 32)
      (t u : System), 1 ≤ binnedYOffset → binnedYOffset ≤ 3 →
      0 < (selectedRect r).width → 0 < (selectedRect r).height →
      t.dev.mode = (setFmt .active w h
        (setSelection .active .crop r s).2).2.dev.mode →
      modeConfigure binnedYOffset t = (.ok (), u) →
        WindowFits t.dev.mode u.bus.regs := by
  intro hall
  have hok := configured_ok ⟨0, 0, 2624, 1956⟩ 2624 1956 (by decide +kernel)
  have hend := (hall 2 (probe fun _ => 0) ⟨0, 0, 2624, 1956⟩ 2624 1956 _ _
    (by decide) (by decide) (by decide) (by decide) (by rfl) hok).end_x
  revert hend
  decide +kernel

end Ov5693
end SurfaceCameras
