import SurfaceCameras.Kernel.Traps
import SurfaceCameras.Ov7251.Usability
import Mathlib.Data.Nat.Dist

/-!
# The frame rate that an interval asks for

`ov7251_set_frame_interval` turns the interval into a rate, rounded to the
nearest integer, and selects the mode whose rate is nearest to it.  Both steps
are made in 32-bit arithmetic on numbers that user space chooses: the numerator
is divided by whether it is zero or not, the rounding can wrap round to rate 0,
and the distance of a very large rate is taken for that of a negative number.
-/

namespace SurfaceCameras
namespace Ov7251

open Kernel Device Prog

/-- The rate of an interval, rounded to the nearest integer. -/
def roundedRate (t : Fract) : ℕ :=
  (t.denominator + t.numerator / 2) / t.numerator

/-- What `avg_fps` computes for an interval that has a numerator. -/
def computedRate (t : Fract) : ℕ :=
  (t.denominator + t.numerator / 2) % 2 ^ 32 / t.numerator

theorem avgFps_eq {σ : Type} {t : Fract} (ht : t.numerator ≠ 0) (s : σ) :
    avgFps t s = (.ok (computedRate t), s) := by
  unfold avgFps divide
  rw [if_neg ht]
  rfl

theorem avgFps_zero {σ : Type} {t : Fract} (ht : t.numerator = 0) (s : σ) :
    avgFps t s = (.error .divideError, s) := by
  unfold avgFps divide
  rw [if_pos ht]
  rfl

theorem computedRate_of_lt {t : Fract}
    (h : t.denominator + t.numerator / 2 < 2 ^ 32) :
    computedRate t = roundedRate t := by
  unfold computedRate
  rw [Nat.mod_eq_of_lt h]
  rfl

theorem computedRate_of_le {t : Fract} (hn : t.numerator < 2 ^ 32)
    (hd : t.denominator < 2 ^ 32)
    (h : 2 ^ 32 ≤ t.denominator + t.numerator / 2) : computedRate t = 0 := by
  unfold computedRate
  exact Nat.div_eq_of_lt (by omega)

/-- `abs()` gives the distance of two rates as long as their difference is not
taken for a negative number. -/
theorem absDiff_eq {a b : ℕ} (ha : a < 2 ^ 32) (hb : b < 2 ^ 31) :
    absDiff a b = if a < b + 2 ^ 31 then Nat.dist a b else 2 ^ 32 + b - a := by
  have hsub : (BitVec.ofNat 32 a - BitVec.ofNat 32 b).toNat =
      (2 ^ 32 - b + a) % 2 ^ 32 := by
    rw [BitVec.toNat_sub, BitVec.toNat_ofNat, BitVec.toNat_ofNat]
    omega
  unfold absDiff Nat.dist
  rw [BitVec.toInt_eq_toNat_cond, hsub]
  split <;> split <;> omega

theorem absDiff_lt (a b : ℕ) : absDiff a b < 2 ^ 32 - 1 := by
  have hlo := BitVec.le_toInt (BitVec.ofNat 32 a - BitVec.ofNat 32 b)
  have hhi := BitVec.toInt_lt (x := BitVec.ofNat 32 a - BitVec.ofNat 32 b)
  unfold absDiff
  omega

section Parameters

variable (par : Params)

/-! ## The rates of the modes -/

/-- The nominal rate of a mode. -/
def nominalRate (n : Fin 3) : ℕ :=
  roundedRate (modeInfoData par n).timeperframe

theorem nominalRate_one : nominalRate par vga60Mode = 60 :=
  (by decide : roundedRate vga60fps.timeperframe = 60)

theorem nominalRate_two : nominalRate par vga90Mode = 90 :=
  (by decide : roundedRate vga90fps.timeperframe = 90)

/-- The first mode of the table has no rate that would wrap. -/
theorem timeperframe_bounds (n : Fin 3) :
    (modeInfoData par n).timeperframe.numerator = 100 ∧
      1 ≤ (modeInfoData par n).timeperframe.denominator ∧
      (modeInfoData par n).timeperframe.denominator ≤ 13179 := by
  match n with
  | 0 =>
      rw [modeInfoData_zero, firstMode]
      split
      · decide
      · split
        · next h =>
            obtain ⟨hlo, hhi⟩ := h
            have hmax : timingMaxVts = 65535 := rfl
            have hvts : 523 ≤ par.vtsBoost.toNat ∧
                par.vtsBoost.toNat ≤ 65535 := by omega
            have hle : 5172000 / par.vtsBoost.toNat ≤ 5172000 / 523 :=
              Nat.div_le_div_left hvts.1 (by decide)
            have hge : 5172000 / 65535 ≤ 5172000 / par.vtsBoost.toNat :=
              Nat.div_le_div_left hvts.2 (by omega)
            refine ⟨rfl, le_trans ?_ hge, le_trans hle ?_⟩
            · decide
            · decide
        · decide
  | 1 =>
      exact (by decide : vga60fps.timeperframe.numerator = 100 ∧
        1 ≤ vga60fps.timeperframe.denominator ∧
        vga60fps.timeperframe.denominator ≤ 13179)
  | 2 =>
      exact (by decide : vga90fps.timeperframe.numerator = 100 ∧
        1 ≤ vga90fps.timeperframe.denominator ∧
        vga90fps.timeperframe.denominator ≤ 13179)

theorem avgFps_mode {σ : Type} (n : Fin 3) (s : σ) :
    avgFps (modeInfoData par n).timeperframe s = (.ok (nominalRate par n), s) := by
  obtain ⟨hnum, -, hden⟩ := timeperframe_bounds par n
  rw [avgFps_eq (by omega), computedRate_of_lt (by omega)]
  rfl

theorem nominalRate_le (n : Fin 3) : nominalRate par n ≤ 132 := by
  obtain ⟨hnum, -, hden⟩ := timeperframe_bounds par n
  unfold nominalRate roundedRate
  rw [hnum]
  omega

/-! ## The mode that is found -/

/-- The distance of a mode from a rate, as the loop computes it. -/
def modeDistance (fps : ℕ) (n : Fin 3) : ℕ := absDiff fps (nominalRate par n)

/-- The first of the modes with the smallest distance. -/
def foundMode (fps : ℕ) : Fin 3 :=
  if modeDistance par fps vga60Mode < modeDistance par fps initialMode then
    if modeDistance par fps vga90Mode < modeDistance par fps vga60Mode then
      vga90Mode
    else vga60Mode
  else
    if modeDistance par fps vga90Mode < modeDistance par fps initialMode then
      vga90Mode
    else initialMode

/-- One round of the loop. -/
theorem nearestRate_cons {σ : Type} (m : Fin 3) (fps : ℕ) (i : Fin 3)
    (is : List (Fin 3)) (n : Fin 3) (dist : ℕ) (s : σ) :
    nearestRate par (modeInfoData par m) fps (i :: is) n dist s =
      if modeDistance par fps i < dist then
        nearestRate par (modeInfoData par m) fps is i (modeDistance par fps i) s
      else
        nearestRate par (modeInfoData par m) fps is n dist s := by
  have hsize : ¬ ((modeInfoData par m).width ≠ (modeInfoData par i).width ∨
      (modeInfoData par m).height ≠ (modeInfoData par i).height) := by
    simp
  rw [nearestRate, if_neg hsize, Prog.bind_ok (avgFps_mode par i s)]
  by_cases hcloser : modeDistance par fps i < dist
  · rw [if_pos hcloser]
    exact congrFun (if_pos hcloser) s
  · rw [if_neg hcloser]
    exact congrFun (if_neg hcloser) s

theorem findModeByIval_eq {σ : Type} (m : Fin 3) {t : Fract}
    (ht : t.numerator ≠ 0) (s : σ) :
    findModeByIval par (modeInfoData par m) t s =
      (.ok (foundMode par (computedRate t)), s) := by
  have hfirst : modeDistance par (computedRate t) initialMode < 2 ^ 32 - 1 :=
    absDiff_lt _ _
  unfold findModeByIval foundMode
  rw [Prog.bind_ok (avgFps_eq ht s), nearestRate_cons, if_pos hfirst,
    nearestRate_cons]
  split
  · rw [nearestRate_cons]
    split <;> rfl
  · rw [nearestRate_cons]
    split <;> rfl

/-- No mode has a rate nearer to `q` than the mode `n`. -/
def IsNearest (q : ℕ) (n : Fin 3) : Prop :=
  ∀ i, Nat.dist (nominalRate par n) q ≤ Nat.dist (nominalRate par i) q

theorem isNearest_iff (q : ℕ) (n : Fin 3) :
    IsNearest par q n ↔
      Nat.dist (nominalRate par n) q ≤ Nat.dist (nominalRate par initialMode) q ∧
        Nat.dist (nominalRate par n) q ≤ Nat.dist 60 q ∧
        Nat.dist (nominalRate par n) q ≤ Nat.dist 90 q := by
  rw [← nominalRate_one par, ← nominalRate_two par]
  constructor
  · exact fun h => ⟨h 0, h 1, h 2⟩
  · rintro ⟨h0, h1, h2⟩ i
    match i with
    | 0 => exact h0
    | 1 => exact h1
    | 2 => exact h2

/-- The lowest and the highest rate of the table. -/
def lowestRate : ℕ := min (nominalRate par initialMode) 60

def highestRate : ℕ := max (nominalRate par initialMode) 90

theorem modeDistance_eq {fps : ℕ} (hfps : fps < 2 ^ 32) (n : Fin 3) :
    modeDistance par fps n =
      if fps < nominalRate par n + 2 ^ 31 then
        Nat.dist fps (nominalRate par n)
      else 2 ^ 32 + nominalRate par n - fps :=
  absDiff_eq hfps (Nat.lt_of_le_of_lt (nominalRate_le par n) (by decide))

/-- The first mode is found if it is as near as the others. -/
theorem foundMode_cases (fps : ℕ) :
    foundMode par fps = initialMode ∧
        modeDistance par fps initialMode ≤ modeDistance par fps vga60Mode ∧
        modeDistance par fps initialMode ≤ modeDistance par fps vga90Mode ∨
      foundMode par fps = vga60Mode ∧
        modeDistance par fps vga60Mode < modeDistance par fps initialMode ∧
        modeDistance par fps vga60Mode ≤ modeDistance par fps vga90Mode ∨
      foundMode par fps = vga90Mode ∧
        modeDistance par fps vga90Mode < modeDistance par fps initialMode ∧
        modeDistance par fps vga90Mode < modeDistance par fps vga60Mode := by
  unfold foundMode
  split
  · split
    · exact Or.inr (Or.inr ⟨rfl, by omega, by omega⟩)
    · exact Or.inr (Or.inl ⟨rfl, by omega, by omega⟩)
  · split
    · exact Or.inr (Or.inr ⟨rfl, by omega, by omega⟩)
    · exact Or.inl ⟨rfl, by omega, by omega⟩

/-- For a rate that did not wrap, the mode found is the nearest one as long as
the highest rate of the table is not farther off than the lowest one is from
the other side. -/
theorem foundMode_nearest_iff {q : ℕ} (hq : q < 2 ^ 32) :
    IsNearest par q (foundMode par q) ↔
      2 * q < 2 ^ 32 + lowestRate par + highestRate par ∨
        2 * q = 2 ^ 32 + lowestRate par + highestRate par ∧
          90 ≤ nominalRate par initialMode := by
  have hcases := foundMode_cases par q
  rw [isNearest_iff]
  obtain hsmall | hlarge := Nat.lt_or_ge q (2 ^ 31)
  · -- No distance is taken for a negative number.
    have hdist : ∀ n, modeDistance par q n = Nat.dist (nominalRate par n) q := by
      intro n
      rw [modeDistance_eq par hq, if_pos (by omega), Nat.dist_comm]
    simp only [hdist, nominalRate_one, nominalRate_two] at hcases
    refine iff_of_true ?_ (Or.inl (by omega))
    obtain ⟨h, ha, hb⟩ | ⟨h, ha, hb⟩ | ⟨h, ha, hb⟩ := hcases
    · rw [h]
      exact ⟨le_rfl, ha, hb⟩
    · rw [h, nominalRate_one]
      exact ⟨ha.le, le_rfl, hb⟩
    · rw [h, nominalRate_two]
      exact ⟨ha.le, hb.le, le_rfl⟩
  · -- Beyond all rates, the nearest mode is the one with the highest rate.
    have hdist : ∀ r ≤ 132, Nat.dist r q = q - r := fun r hr =>
      Nat.dist_eq_sub_of_le (by omega)
    have hle := nominalRate_le par initialMode
    have h0 := modeDistance_eq par hq initialMode
    have h1 := modeDistance_eq par hq vga60Mode
    have h2 := modeDistance_eq par hq vga90Mode
    rw [Nat.dist_comm, hdist _ (nominalRate_le par _)] at h0 h1 h2
    rw [nominalRate_one] at h1
    rw [nominalRate_two] at h2
    rw [hdist _ (nominalRate_le par _), hdist _ hle, hdist 60 (by decide),
      hdist 90 (by decide)]
    unfold lowestRate highestRate
    obtain ⟨h, ha, hb⟩ | ⟨h, ha, hb⟩ | ⟨h, ha, hb⟩ := hcases
    · rw [h]
      generalize nominalRate par initialMode = r at *
      split at h0 <;> split at h1 <;> split at h2 <;> omega
    · rw [h, nominalRate_one]
      generalize nominalRate par initialMode = r at *
      split at h0 <;> split at h1 <;> split at h2 <;> omega
    · rw [h, nominalRate_two]
      generalize nominalRate par initialMode = r at *
      split at h0 <;> split at h1 <;> split at h2 <;> omega

/-- For a rate that wrapped to 0 the slowest mode is found. -/
theorem foundMode_zero :
    nominalRate par (foundMode par 0) = lowestRate par := by
  have hdist : ∀ n, modeDistance par 0 n = nominalRate par n := by
    intro n
    have hle := nominalRate_le par n
    rw [modeDistance_eq par (by decide), if_pos (by omega)]
    exact Nat.dist_zero_left _
  have hcases := foundMode_cases par 0
  rw [hdist, hdist, hdist, nominalRate_one, nominalRate_two] at hcases
  unfold lowestRate
  rcases hcases with ⟨h, ha, hb⟩ | ⟨h, ha, hb⟩ | ⟨h, ha, hb⟩
  · rw [h]
    omega
  · rw [h, nominalRate_one]
    omega
  · rw [h, nominalRate_two]
    omega

/-! ## The call -/

/-- The call does not divide by zero, and if it does not reject the interval it
leaves a mode current whose rate is nearest to the one asked for. -/
def HandlesInterval (t : Fract) (d : Device) : Prop :=
  (setFrameInterval par .active t d).1 ≠ .error .divideError ∧
    ∀ a, (setFrameInterval par .active t d).1 = .ok a →
      IsNearest par (roundedRate t)
        (setFrameInterval par .active t d).2.currentMode

/-- The interval has a numerator, and 32 bits are enough for its rate: the
rounding does not wrap and the rate is less than half way round from the table,
or the rounding wraps and the slowest mode is the nearest all the same. -/
def RateFits (t : Fract) : Prop :=
  t.numerator ≠ 0 ∧
    if t.denominator + t.numerator / 2 < 2 ^ 32 then
      2 * roundedRate t < 2 ^ 32 + lowestRate par + highestRate par ∨
        2 * roundedRate t = 2 ^ 32 + lowestRate par + highestRate par ∧
          90 ≤ nominalRate par initialMode
    else
      ∀ n, Nat.dist (lowestRate par) (roundedRate t) ≤
        Nat.dist (nominalRate par n) (roundedRate t)

/-- The mode that is found is the nearest one exactly for a rate that fits. -/
theorem rateFits_iff {t : Fract} (ht : t.numerator ≠ 0)
    (hn : t.numerator < 2 ^ 32) (hd : t.denominator < 2 ^ 32) :
    RateFits par t ↔
      IsNearest par (roundedRate t) (foundMode par (computedRate t)) := by
  unfold RateFits
  by_cases hwrap : t.denominator + t.numerator / 2 < 2 ^ 32
  · have hlt : roundedRate t < 2 ^ 32 :=
      Nat.lt_of_le_of_lt (Nat.div_le_self _ _) hwrap
    rw [if_pos hwrap, computedRate_of_lt hwrap, foundMode_nearest_iff par hlt]
    exact and_iff_right ht
  · rw [if_neg hwrap, computedRate_of_le hn hd (not_lt.mp hwrap)]
    unfold IsNearest
    rw [foundMode_zero]
    exact and_iff_right ht

/-- Without a numerator the call traps. -/
theorem setFrameInterval_traps {t : Fract} (ht : t.numerator = 0)
    (d : Device) :
    setFrameInterval par .active t d = (.error .divideError, d) := by
  have hfind : findModeByIval par (modeInfoData par d.currentMode) t d =
      (.error .divideError, d) := by
    unfold findModeByIval
    exact Prog.bind_error (avgFps_zero ht d)
  exact (Prog.bind_ok (Prog.gets_apply _ d)).trans (Prog.bind_error hfind)

theorem writeCtrl_untrapped (i : CtrlId) (val : ℤ) :
    Untrapped (writeCtrl par i val) := by
  have hseq : ∀ reg bytes, Untrapped (writeSeqRegs reg bytes) :=
    fun _ _ => Keeps.ite (Untrapped.errno _) (Untrapped.busWrite _ _ _)
  have hbit : ∀ cache reg bit v, Untrapped (setCachedBit cache reg bit v) :=
    fun _ _ _ _ => (Keeps.gets _).bind fun old =>
      (Untrapped.busWrite _ _ _).bind fun _ => Untrapped.modify _
  cases i with
  | exposure =>
      unfold writeCtrl setExposure
      exact hseq _ _
  | analogueGain =>
      unfold writeCtrl setGain
      exact hseq _ _
  | testPattern | hflip | vflip => exact hbit _ _ _ _
  | vblank => exact (Keeps.gets _).bind fun height => hseq _ _

theorem sCtrl_untrapped (i : CtrlId) : Untrapped (sCtrl par i) := by
  have happly : ∀ i, Untrapped (applyCtrl par i) := fun i =>
    Untrapped.held pmField _ fun ctrl => writeCtrl_untrapped par i ctrl.val
  refine Keeps.bind (Keeps.when ?_) fun _ => happly i
  refine (Keeps.gets _).bind fun height => (Keeps.gets _).bind fun vblank => ?_
  refine (Keeps.gets _).bind fun exposure => ?_
  exact Keeps.tryCatch (Untrapped.v4l2CtrlModifyRange _ (happly _) _ _ _ _)
    fun _ _ => Keeps.pure ()

theorem resetExposure_untrapped (mode : ModeInfo) :
    Untrapped (resetExposure par mode) := by
  refine (Untrapped.v4l2CtrlModifyRange _ (sCtrl_untrapped par _) _ _ _ _).bind
    fun _ => ?_
  exact (Untrapped.v4l2CtrlSCtrl _ (sCtrl_untrapped par _) _).bind
    fun _ => Untrapped.v4l2CtrlSCtrl _ (sCtrl_untrapped par _) _

/-- With a numerator the call does not trap, and if it returns, the mode that is
found is current. -/
theorem setFrameInterval_found {t : Fract} (ht : t.numerator ≠ 0) (d : Device) :
    (setFrameInterval par .active t d).1 ≠ .error .divideError ∧
      ∀ a, (setFrameInterval par .active t d).1 = .ok a →
        (setFrameInterval par .active t d).2.currentMode =
          foundMode par (computedRate t) := by
  let n := foundMode par (computedRate t)
  have hfind : findModeByIval par (modeInfoData par d.currentMode) t d =
      (.ok n, d) := findModeByIval_eq par d.currentMode ht d
  have hrun : setFrameInterval par .active t d =
      (Prog.when (n ≠ d.currentMode) (do
          resetExposure par (modeInfoData par n)
          Prog.modify fun d => { d with currentMode := n }) >>= fun _ =>
        Prog.gets fun d => (modeInfoData par d.currentMode).timeperframe) d :=
    (Prog.bind_ok (Prog.gets_apply _ d)).trans (Prog.bind_ok hfind)
  rw [hrun]
  by_cases hn : n = d.currentMode
  · rw [Prog.when_neg (not_not_intro hn)]
    exact ⟨fun h => (by cases h), fun _ _ => hn.symm⟩
  · rw [Prog.when_pos hn]
    have hreset := resetExposure_untrapped par (modeInfoData par n) d d id
    revert hreset
    rcases hout : resetExposure par (modeInfoData par n) d with ⟨e | u, d'⟩
    · rintro ⟨-, he⟩
      rw [Prog.bind_error (Prog.bind_error hout)]
      exact ⟨fun h => he (Except.error.inj h), fun _ h => (by cases h)⟩
    · intro _
      have hset := Prog.bind_ok (f := fun _ =>
        Prog.modify fun d : Device => { d with currentMode := n }) hout
      rw [Prog.bind_ok (hset.trans (Prog.modify_apply _ _))]
      exact ⟨fun h => (by cases h), fun _ _ => rfl⟩

theorem handlesInterval_of_fits {t : Fract} (hn : t.numerator < 2 ^ 32)
    (hd : t.denominator < 2 ^ 32) (h : RateFits par t) (d : Device) :
    HandlesInterval par t d := by
  obtain ⟨htrap, hfound⟩ := setFrameInterval_found par h.1 d
  refine ⟨htrap, fun a ha => ?_⟩
  rw [hfound a ha]
  exact (rateFits_iff par h.1 hn hd).mp h

theorem fits_of_handlesInterval {t : Fract} (hn : t.numerator < 2 ^ 32)
    (hd : t.denominator < 2 ^ 32) {d : Device}
    (hret : t.numerator ≠ 0 → Returns (setFrameInterval par .active t) d)
    (h : HandlesInterval par t d) : RateFits par t := by
  have ht : t.numerator ≠ 0 := by
    intro ht
    refine h.1 ?_
    rw [setFrameInterval_traps par ht]
  obtain ⟨a, ha⟩ := hret ht
  have hnearest := h.2 a ha
  rw [(setFrameInterval_found par ht d).2 a ha] at hnearest
  exact (rateFits_iff par ht hn hd).mpr hnearest

/-- An interval is handled in every state exactly if its rate fits; where no
transfer fails and the mode table is consistent, no state is an exception. -/
theorem handlesInterval_iff (numerator denominator : BitVec 32) :
    ((∀ d, HandlesInterval par ⟨numerator.toNat, denominator.toNat⟩ d) ↔
        RateFits par ⟨numerator.toNat, denominator.toNat⟩) ∧
      (par.Consistent → ∀ d, Clean d →
        (HandlesInterval par ⟨numerator.toNat, denominator.toNat⟩ d ↔
          RateFits par ⟨numerator.toNat, denominator.toNat⟩)) := by
  let t : Fract := ⟨numerator.toNat, denominator.toNat⟩
  have hn : t.numerator < 2 ^ 32 := numerator.isLt
  have hd : t.denominator < 2 ^ 32 := denominator.isLt
  have hfits := handlesInterval_of_fits par hn hd
  refine ⟨⟨fun h => ?_, hfits⟩, fun hpar d hclean => ⟨fun h => ?_, fun h =>
    hfits h d⟩⟩
  · -- In the mode that is found, the call has nothing to do.
    let d : Device := { initCtrls par plainBoard with
      currentMode := foundMode par (computedRate t) }
    refine fits_of_handlesInterval par hn hd (fun ht => ?_) (h d)
    have hfind : findModeByIval par (modeInfoData par d.currentMode) t d =
        (.ok d.currentMode, d) := findModeByIval_eq par d.currentMode ht d
    have hrun : setFrameInterval par .active t d =
        (Prog.when (d.currentMode ≠ d.currentMode) (do
            resetExposure par (modeInfoData par d.currentMode)
            Prog.modify fun e => { e with currentMode := d.currentMode }) >>=
          fun _ => Prog.gets fun d =>
            (modeInfoData par d.currentMode).timeperframe) d :=
      (Prog.bind_ok (Prog.gets_apply _ d)).trans (Prog.bind_ok hfind)
    rw [Prog.when_neg (not_not_intro rfl)] at hrun
    exact ⟨_, congrArg Prod.fst hrun⟩
  · exact fits_of_handlesInterval par hn hd
      (setFrameInterval_returns_iff hpar t hclean).mpr h

end Parameters

/-- The largest rate, right after probe. -/
theorem handlesInterval_stock :
    HandlesInterval stockParams ⟨(1 : BitVec 32).toNat,
        (0xffffffff : BitVec 32).toNat⟩ (initCtrls stockParams plainBoard) ↔
      RateFits stockParams ⟨(1 : BitVec 32).toNat,
        (0xffffffff : BitVec 32).toNat⟩ :=
  (handlesInterval_iff stockParams 1 0xffffffff).2
    ((consistent_iff stockParams).mpr (by decide)) _ rfl

/-- An interval of no time divides by zero. -/
theorem handlesInterval_fails :
    ¬ ∀ (par : Params) (numerator denominator : BitVec 32) (d : Device),
      HandlesInterval par ⟨numerator.toNat, denominator.toNat⟩ d := by
  intro h
  have hhandled := (h stockParams 0 30 (initCtrls stockParams plainBoard)).1
  rw [setFrameInterval_traps stockParams rfl] at hhandled
  exact hhandled rfl

end Ov7251
end SurfaceCameras
