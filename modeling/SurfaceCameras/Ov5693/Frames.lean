import SurfaceCameras.Kernel.Moves
import SurfaceCameras.Kernel.Words
import SurfaceCameras.Ov5693.RegisterImage

/-!
# What the operations of the OV5693 driver leave alone

Whatever the transfers do, a function of the driver keeps every frame that
allows the moves it is made of: register writes, changes of controls, and a
reference taken and dropped again around them.
-/

namespace SurfaceCameras
namespace Ov5693

open Kernel Device Prog

/-- The frame allows accesses to the sensor that write registers in `A`, any
change of a control in `C`, and what is done under a reference of its own. -/
structure Admits (F : Frame System) (A : ℕ → Prop) (C : CtrlId → Prop) : Prop
    extends AdmitsBus Machine.busField F A where
  hold : AdmitsHold pmField.ofDev F
  ctrl : ∀ s id f, C id → F.Rel s ((ctrlField id).ofDev.update f s)

/-- The registers that a control writes. -/
def ctrlAddrs (id : CtrlId) : List ℕ := (ctrlCells id).map Prod.fst

section Moves

variable {F : Frame System} {A : ℕ → Prop} {C : CtrlId → Prop}

/-! ## Accesses to the sensor -/

section Bus

variable (hF : AdmitsBus Machine.busField F A)
include hF

theorem cciWrite_stays {reg n : ℕ} (hA : ∀ k < n, A (reg + k)) (val : ℤ) :
    Stays F (cciWrite reg n val) := by
  apply busWrite_stays hF
  rw [bigEndian_length]
  exact hA

theorem cciUpdateBits_stays {reg : ℕ} (hA : A reg) (mask val : BitVec 8) :
    Stays F (cciUpdateBits reg mask val) :=
  (busRead_stays hF reg).bind fun _ => byteWrite_stays hF hA _

theorem cciMultiRegWrite_stays {table : List (ℕ × BitVec 8)}
    (hA : ∀ x ∈ table, A x.1) : Stays F (cciMultiRegWrite table) :=
  Keeps.forEach table fun x hx => byteWrite_stays hF (hA x hx) x.2

theorem writeCtrl_stays {i : CtrlId} (hA : ∀ a ∈ ctrlAddrs i, A a) (val : ℤ) :
    Stays F (writeCtrl i val) := by
  have hwrite : ∀ {reg n : ℕ}, (∀ k < n, reg + k ∈ ctrlAddrs i) →
      ∀ v, Stays F (cciWrite reg n v) :=
    fun h v => cciWrite_stays hF (fun k hk => hA _ (h k hk)) v
  cases i with
  | exposure => exact hwrite (n := 3) (by decide) _
  | analogueGain => exact hwrite (n := 2) (by decide) _
  | testPattern => exact hwrite (n := 1) (by decide) _
  | digitalGain =>
      refine (hwrite (n := 2) (by decide) _).bind fun _ => ?_
      refine (hwrite (n := 2) (by decide) _).bind fun _ => ?_
      exact hwrite (n := 2) (by decide) _
  | hflip =>
      refine (cciUpdateBits_stays hF (hA _ (by decide)) _ _).bind fun _ => ?_
      exact (Keeps.gets _).bind fun mode => hwrite (n := 2) (by decide) _
  | vflip =>
      exact (Keeps.gets _).bind fun mode =>
        cciUpdateBits_stays hF (hA _ (by decide)) _ _
  | vblank =>
      exact (Keeps.gets _).bind fun height => hwrite (n := 2) (by decide) _
  | hblank => exact Keeps.raise trivial

theorem enableStreaming_stays (hA : A mipiCtrl00Reg) (hA' : A swStreamReg)
    (enable : Bool) : Stays F (enableStreaming enable) := by
  have hone : ∀ {reg : ℕ}, A reg → ∀ v, Stays F (cciWrite reg 1 v) := by
    intro reg h v
    apply cciWrite_stays hF
    intro k hk
    rw [Nat.lt_one_iff.mp hk]
    exact h
  exact (Keeps.when (hone hA _)).bind fun _ => hone hA' _

end Bus

omit A C in
theorem ignoreErrno_stays {p : Prog System Fault Unit} (hp : Stays F p) :
    Stays F (ignoreErrno p) := by
  apply Keeps.tryCatch hp
  intro e _
  cases e with
  | errno => exact Keeps.pure ()
  | divideError => exact Keeps.raise trivial

/-! ## Controls -/

section Controls

variable (hF : Admits F A C)
include hF

theorem applyCtrl_stays {i : CtrlId} (hA : ∀ a ∈ ctrlAddrs i, A a) :
    Stays F (applyCtrl i) :=
  held_stays hF.hold _ fun ctrl => writeCtrl_stays hF.toAdmitsBus hA ctrl.val

theorem modifyRange_stays {i : CtrlId} (hC : C i)
    {cb : Prog System Fault Unit} (hcb : Stays F cb) (lo hi : ℤ) (st : ℕ)
    (dflt : ℤ) :
    Stays F (v4l2CtrlModifyRange (ctrlField i).ofDev cb lo hi st dflt) := by
  intro s₀
  apply (v4l2CtrlModifyRange_stays (P := fun _ => True)
    (fun s => hF.ctrl s i _ hC) (fun s => hF.ctrl s i _ hC) hcb
      fun s _ => hF.ctrl s i _ hC).strengthenPre
  exact fun _ hs => ⟨hs, trivial⟩

variable (hC : C .exposure) (hexp : ∀ a ∈ ctrlAddrs .exposure, A a)
include hC hexp

theorem limitExposure_stays (exposureMax : ℤ) :
    Stays F (limitExposure exposureMax) := by
  refine (Keeps.gets _).bind fun exposure => ?_
  exact ignoreErrno_stays (modifyRange_stays hF (i := .exposure) hC
    (applyCtrl_stays hF hexp) _ _ _ _)

theorem sCtrl_stays {i : CtrlId} (hA : ∀ a ∈ ctrlAddrs i, A a) :
    Stays F (sCtrl i) := by
  refine (Keeps.when ?_).bind fun _ => applyCtrl_stays hF hA
  exact (Keeps.gets _).bind fun _ => limitExposure_stays hF hC hexp _

theorem setup_stays {i : CtrlId} (hid : C i) (hA : ∀ a ∈ ctrlAddrs i, A a) :
    Stays F (Prog.modify ((ctrlField i).ofDev.update Ctrl.curToNew) >>=
      fun _ => sCtrl i) :=
  (Keeps.modify fun s => hF.ctrl s i _ hid).bind
    fun _ => sCtrl_stays hF hC hexp hA

theorem handler_stays
    (hall : ∀ i ∈ writableCtrls, C i ∧ ∀ a ∈ ctrlAddrs i, A a) :
    Stays F handlerSetup := by
  apply Keeps.forEach
  intro x hx
  obtain ⟨i, hi, rfl⟩ := List.mem_map.mp hx
  exact setup_stays hF hC hexp (hall i hi).1 (hall i hi).2

theorem writeControl_stays {i : CtrlId} (hid : C i)
    (hA : ∀ a ∈ ctrlAddrs i, A a) (v : ℤ) : Stays F (writeControl i v) := by
  apply Keeps.ite
  · exact Keeps.raise trivial
  · exact v4l2SCtrl_stays (fun s => hF.ctrl s i _ hid)
      (fun s => hF.ctrl s i _ hid) (sCtrl_stays hF hC hexp hA) (ctrlType i) v
        fun _ s => hF.ctrl s i _ hid

end Controls

/-! ## Formats -/

theorem divide_stays (x d : ℕ) : Stays F (divide x d) :=
  Keeps.ite (Keeps.raise trivial) (Keeps.pure _)

theorem ratio_stays (cropSize minSize : ℕ) (requested : BitVec 32) :
    Stays F (ratio cropSize minSize requested) :=
  (divide_stays _ _).bind fun _ => Keeps.pure _

/-- The controls whose range a format call changes. -/
def formatCtrls : List CtrlId := [.exposure, .vblank, .hblank]

/-- Setting a format, if the frame allows changes of the mode, of the pads and
of the controls that go with them. -/
theorem setFmt_stays (hF : Admits F A C)
    (hall : ∀ i ∈ formatCtrls, C i ∧ ∀ a ∈ ctrlAddrs i, A a)
    (hmode : ∀ s f, F.Rel s (modeField.ofDev.update f s))
    (hpad : ∀ s which f, F.Rel s ((padState which).ofDev.update f s))
    (which : Which) (w h : BitVec 32) : Stays F (setFmt which w h) := by
  obtain ⟨hexp, hexpA⟩ := hall .exposure (by decide)
  obtain ⟨hvb, hvbA⟩ := hall .vblank (by decide)
  obtain ⟨hhb, hhbA⟩ := hall .hblank (by decide)
  have hset : Stays F (sCtrl .vblank) := sCtrl_stays hF hexp hexpA hvbA
  have hline : Stays F (sCtrl .hblank) := sCtrl_stays hF hexp hexpA hhbA
  have happly : ∀ hratio vratio width height,
      Stays F (applyFormat hratio vratio width height) := by
    intro hratio vratio width height
    refine (Keeps.modify fun s => hmode s _).bind fun _ => ?_
    refine Keeps.bind ?_ fun vts => ?_
    · refine (divide_stays _ _).bind fun _ => ?_
      exact (divide_stays _ _).bind fun _ => Keeps.pure _
    refine (Keeps.modify fun s => hmode s _).bind fun _ => ?_
    refine (ignoreErrno_stays (modifyRange_stays hF (i := .vblank) hvb
      hset _ _ _ _)).bind fun _ => ?_
    refine (ignoreErrno_stays (v4l2CtrlSCtrl_stays
      (fun s => hF.ctrl s .vblank _ hvb)
      (fun s => hF.ctrl s .vblank _ hvb) hset
        fun s => hF.ctrl s .vblank _ hvb)).bind fun _ => ?_
    refine (ignoreErrno_stays (modifyRange_stays hF (i := .hblank) hhb
      hline _ _ _ _)).bind fun _ => ?_
    exact limitExposure_stays hF hexp hexpA _
  refine (Keeps.gets _).bind fun crop => ?_
  refine (ratio_stays _ _ _).bind fun hratio => ?_
  refine (ratio_stays _ _ _).bind fun vratio => ?_
  refine (Keeps.modify fun s => hpad s which _).bind fun _ => ?_
  exact (Keeps.when (happly _ _ _ _)).bind fun _ => Keeps.gets _

theorem setSelection_stays
    (hpad : ∀ s which f, F.Rel s ((padState which).ofDev.update f s))
    (which : Which) (target : SelTarget) (r : RectRequest) :
    Stays F (setSelection which target r) := by
  apply Keeps.ite
  · exact Keeps.raise trivial
  · exact (Keeps.modify fun s => hpad s which _).bind fun _ => Keeps.pure _

/-! ## Everything -/

/-- Any register and any control. -/
def everywhere {α : Type} (_ : α) : Prop := True

section Everywhere

variable (hF : Admits F everywhere everywhere)
include hF

theorem handlerSetup_stays : Stays F handlerSetup :=
  handler_stays hF trivial (fun _ _ => trivial) fun _ _ =>
    ⟨trivial, fun _ _ => trivial⟩

theorem modeConfigure_stays (binnedYOffset : ℤ) :
    Stays F (modeConfigure binnedYOffset) := by
  have hwrite : ∀ reg n v, Stays F (cciWrite reg n v) :=
    fun _ _ _ => cciWrite_stays hF.toAdmitsBus (fun _ _ => trivial) _
  have hupdate : ∀ reg mask val, Stays F (cciUpdateBits reg mask val) :=
    fun _ _ _ => cciUpdateBits_stays hF.toAdmitsBus trivial _ _
  have htable : ∀ table, Stays F (cciMultiRegWrite table) :=
    fun _ => cciMultiRegWrite_stays hF.toAdmitsBus fun _ _ => trivial
  refine (Keeps.gets _).bind fun mode => ?_
  refine (Keeps.gets _).bind fun hflip => (Keeps.gets _).bind fun vflip => ?_
  -- The eleven registers of the geometry.
  refine (hwrite _ _ _).bind fun _ => (hwrite _ _ _).bind fun _ => ?_
  refine (hwrite _ _ _).bind fun _ => (hwrite _ _ _).bind fun _ => ?_
  refine (hwrite _ _ _).bind fun _ => (hwrite _ _ _).bind fun _ => ?_
  refine (hwrite _ _ _).bind fun _ => (hwrite _ _ _).bind fun _ => ?_
  refine (hwrite _ _ _).bind fun _ => (hwrite _ _ _).bind fun _ => ?_
  refine (hwrite _ _ _).bind fun _ => ?_
  refine (hupdate _ _ _).bind fun _ => (hupdate _ _ _).bind fun _ => ?_
  exact (Keeps.when (hupdate _ _ _)).bind fun _ => htable _

theorem sensorInit_stays (binnedYOffset : ℤ) :
    Stays F (sensorInit binnedYOffset) := by
  refine (cciWrite_stays hF.toAdmitsBus (fun _ _ => trivial) _).bind
    fun _ => ?_
  refine (cciMultiRegWrite_stays hF.toAdmitsBus fun _ _ => trivial).bind
    fun _ => ?_
  exact (modeConfigure_stays hF binnedYOffset).bind
    fun _ => enableStreaming_stays hF.toAdmitsBus trivial trivial false

/-! ## Power -/

variable (hpower : ∀ s f, F.Rel s (powerField.ofDev.update f s))

include hpower in
omit hF in
theorem sensorPowerdown_stays : Stays F sensorPowerdown :=
  Keeps.modify fun s => hpower s _

include hpower

theorem sensorResume_stays (binnedYOffset : ℤ) :
    Stays F (sensorResume binnedYOffset) := by
  have hdown := sensorPowerdown_stays (F := F) hpower
  have henable : ∀ f, Stays F (tryEnable f) := fun _ =>
    (transfer_stays hF.toAdmitsBus).bind fun _ =>
      Keeps.modify fun s => hpower s _
  refine Keeps.bind ?_ fun _ => ?_
  · refine (Keeps.modify fun s => hpower s _).bind fun _ => ?_
    refine Keeps.bind ?_ fun _ => Keeps.modify fun s => hpower s _
    apply Keeps.tryCatch (S := fun _ => True)
    · exact (henable _).bind fun _ => henable _
    · exact fun _ _ => hdown.bind fun _ => Keeps.raise trivial
  · apply Keeps.tryCatch (S := fun _ => True)
    · exact sensorInit_stays hF binnedYOffset
    · exact fun _ _ => hdown.bind fun _ => Keeps.raise trivial

/-- Streaming, if the frame also allows any change of the references. -/
theorem sStream_stays (hpm : ∀ s f, F.Rel s (pmField.ofDev.update f s))
    (binnedYOffset : ℤ) (enable : Bool) :
    Stays F (sStream binnedYOffset enable) := by
  have hstream := enableStreaming_stays hF.toAdmitsBus trivial trivial
  have hdrop : ∀ e, Stays F (dropReference e) := fun _ =>
    (Keeps.modify fun s => hpm s _).bind fun _ => Keeps.raise trivial
  cases enable with
  | true =>
      refine (pmRuntimeResumeAndGet_stays hpm
        (sensorResume_stays hF hpower binnedYOffset)).bind fun _ => ?_
      apply Keeps.tryCatch (S := fun _ => True)
      · exact (handlerSetup_stays hF).bind fun _ => hstream true
      · exact fun e _ => hdrop e
  | false =>
      refine Keeps.bind ?_ fun _ => Keeps.modify fun s => hpm s _
      apply Keeps.tryCatch (S := fun _ => True)
      · exact hstream false
      · exact fun e _ => hdrop e

end Everywhere

end Moves

end Ov5693
end SurfaceCameras
