import SurfaceCameras.Ov5693.Frames
import SurfaceCameras.Ov5693.Writes
import Mathlib.Data.List.Nodup

/-!
# The registers after the control handler has run

A start of streaming hands every control to the sensor.  The registers of a
control hold what its own step made of them: the other steps write other
registers.  The exposure is the exception, since setting up the vertical
blanking limits it and may write it again.
-/

namespace SurfaceCameras
namespace Ov5693

open Kernel Device Prog MaskedWrites

/-! ## One control among the others -/

/-- The references, the mode, the control `i` and its registers are as they
were. -/
structure Apart (i : CtrlId) (s t : System) : Prop where
  pm : t.dev.pm = s.dev.pm
  mode : t.dev.mode = s.dev.mode
  ctrl : (ctrlField i).get t.dev = (ctrlField i).get s.dev
  regs : ∀ a ∈ ctrlAddrs i, t.bus.regs a = s.bus.regs a

def apart (i : CtrlId) : Frame System where
  Rel := Apart i
  refl _ := ⟨rfl, rfl, rfl, fun _ _ => rfl⟩
  trans h h' :=
    ⟨h'.pm.trans h.pm, h'.mode.trans h.mode, h'.ctrl.trans h.ctrl,
      fun a ha => (h'.regs a ha).trans (h.regs a ha)⟩

theorem apart_admits (i : CtrlId) :
    Admits (apart i) (· ∉ ctrlAddrs i) (· ≠ i) where
  outcomes _ _ := ⟨rfl, rfl, rfl, fun _ _ => rfl⟩
  store s a bytes hA := by
    refine ⟨rfl, rfl, rfl, fun x hx => ?_⟩
    apply Bus.storeBytes_of_ne
    rintro k hk rfl
    exact hA k hk hx
  hold s t huse h := by
    refine ⟨admitsHold_fixing pmField.ofDev s t huse h.pm, h.mode, ?_, h.regs⟩
    have hctrl := h.ctrl
    cases i <;> exact hctrl
  ctrl s j f hj := by
    cases j <;> cases i <;>
      first
      | exact absurd rfl hj
      | exact ⟨rfl, rfl, rfl, fun _ _ => rfl⟩

theorem ctrlAddrs_disjoint {i j : CtrlId} (hij : j ≠ i) :
    ∀ a ∈ ctrlAddrs j, a ∉ ctrlAddrs i := by
  cases i <;> cases j <;> first | exact absurd rfl hij | decide

/-- The device in use has the mode `m`, the control `i` the value `v`, and its
registers hold what they hold in `r`. -/
structure Holding (i : CtrlId) (m : Mode) (v : ℤ) (r : Registers)
    (s : System) : Prop where
  inUse : s.dev.pm.InUse
  mode : s.dev.mode = m
  cur : ((ctrlField i).get s.dev).cur = v
  regs : ∀ a ∈ ctrlAddrs i, s.bus.regs a = r a

/-- Some of the writes of the control have been made to its registers. -/
def PartlyWritten (i : CtrlId) (m : Mode) (v : ℤ) (r : Registers)
    (s : System) : Prop :=
  ∃ vs, vs <+: ctrlWrites i m v ∧
    ∀ a ∈ ctrlAddrs i, s.bus.regs a = applyAll vs r a

section Group

variable {i : CtrlId} {m : Mode} {v : ℤ} {r : Registers}

theorem Holding.partlyWritten {s : System} (hs : Holding i m v r s) :
    PartlyWritten i m v r s :=
  ⟨[], List.nil_prefix, hs.regs⟩

theorem Holding.of_apart {s t : System} (hs : Holding i m v r s)
    (h : Apart i s t) : Holding i m v r t where
  inUse := by
    rw [h.pm]
    exact hs.inUse
  mode := h.mode.trans hs.mode
  cur := (congrArg Ctrl.cur h.ctrl).trans hs.cur
  regs a ha := (h.regs a ha).trans (hs.regs a ha)

theorem holding_of_stays {α : Type} {p : Prog System Fault α}
    (hp : Stays (apart i) p) (r : Registers) :
    Triple (Holding i m v r) p (fun _ => Holding i m v r)
      (fun _ => Holding i m v r) := by
  apply (hp.triple (P := Holding i m v r) ?_).consequence (fun _ hs => hs)
    (fun _ _ hs => hs) fun _ _ hs => hs.1
  exact fun s t h hs => hs.of_apart h

variable (hi : i ≠ .exposure)
include hi

theorem setup_apart {j : CtrlId} (hj : j ≠ i) :
    Stays (apart i)
      (Prog.modify ((ctrlField j).ofDev.update Ctrl.curToNew) >>=
        fun _ => sCtrl j) :=
  setup_stays (apart_admits i) hi.symm (ctrlAddrs_disjoint hi.symm) hj
    (ctrlAddrs_disjoint hj)

omit hi in
/-- Applying the control makes its writes, or some of them. -/
theorem applyCtrl_writes :
    Triple (fun s => Holding i m v r s ∧ ((ctrlField i).get s.dev).val = v)
      (applyCtrl i)
      (fun _ => Holding i m v (applyAll (ctrlWrites i m v) r))
      (fun _ => PartlyWritten i m v r) := by
  rintro s ⟨hs, hval⟩
  have hwrite := applyCtrl_emits i s.dev s.bus.regs s ⟨rfl, rfl⟩
  dsimp only at hwrite
  rw [applyCtrlEffect_of_inUse hs.inUse, hval, hs.mode] at hwrite
  revert hwrite
  rcases applyCtrl i s with ⟨_ | _, t⟩
  · rintro ⟨vs, hvs, -, hregs⟩
    refine ⟨vs, hvs, fun a ha => ?_⟩
    have hreg : t.bus.regs a = applyAll vs s.bus.regs a := congrFun hregs a
    rw [hreg]
    exact applyAll_congr vs (hs.regs a ha)
  · rintro ⟨hdev, hregs⟩
    have hdev : t.dev = s.dev := hdev
    have hregs : t.bus.regs = applyAll (ctrlWrites i m v) s.bus.regs := hregs
    constructor
    · rw [hdev]
      exact hs.inUse
    · rw [hdev]
      exact hs.mode
    · rw [hdev]
      exact hs.cur
    · intro a ha
      rw [hregs]
      exact applyAll_congr _ (hs.regs a ha)

/-- Setting up the control writes its value. -/
theorem setup_writes :
    Triple (Holding i m v r)
      (Prog.modify ((ctrlField i).ofDev.update Ctrl.curToNew) >>=
        fun _ => sCtrl i)
      (fun _ => Holding i m v (applyAll (ctrlWrites i m v) r))
      (fun _ => PartlyWritten i m v r) := by
  apply Triple.bind (Q := fun _ s => Holding i m v r s ∧
    ((ctrlField i).get s.dev).val = v)
  · apply Triple.modify
    intro s hs
    have hget := (ctrlField i).ofDev.get_update Ctrl.curToNew s
    refine ⟨⟨?_, ?_, (congrArg Ctrl.cur hget).trans hs.cur, hs.regs⟩,
      (congrArg Ctrl.val hget).trans hs.cur⟩
    · have huse := hs.inUse
      cases i <;> exact huse
    · have hmode := hs.mode
      cases i <;> exact hmode
  intro _
  apply Triple.bind (Q := fun _ s => Holding i m v r s ∧
    ((ctrlField i).get s.dev).val = v)
  · have hlimit : Stays (apart i) (Prog.when (i = .vblank) (do
        let exposureMax ← Prog.gets fun s =>
          (s.dev.mode.format.height : ℤ) + s.dev.vblank.val -
            integrationTimeMargin
        limitExposure exposureMax)) :=
      Keeps.when ((Keeps.gets _).bind fun _ =>
        limitExposure_stays (apart_admits i) hi.symm
          (ctrlAddrs_disjoint hi.symm) _)
    apply (hlimit.triple (P := fun s => Holding i m v r s ∧
      ((ctrlField i).get s.dev).val = v) ?_).consequence (fun _ hs => hs)
        (fun _ _ hs => hs) fun _ _ hs => hs.1.1.partlyWritten
    rintro s t h ⟨hs, hval⟩
    exact ⟨hs.of_apart h, (congrArg Ctrl.val h.ctrl).trans hval⟩
  exact fun _ => applyCtrl_writes

/-- The handler writes the control once. -/
theorem handlerSetup_writes (hmem : i ∈ writableCtrls) :
    Triple (Holding i m v r) handlerSetup
      (fun _ => Holding i m v (applyAll (ctrlWrites i m v) r))
      (fun _ => PartlyWritten i m v r) := by
  obtain ⟨xs, ys, hsplit⟩ := List.append_of_mem hmem
  have hnodup : (i :: (xs ++ ys)).Nodup :=
    List.nodup_middle.mp (hsplit ▸ by decide)
  have hother : ∀ (r' : Registers), ∀ j ∈ xs ++ ys,
      Triple (Holding i m v r')
        (Prog.modify ((ctrlField j).ofDev.update Ctrl.curToNew) >>=
          fun _ => sCtrl j)
        (fun _ => Holding i m v r') (fun _ => Holding i m v r') := by
    intro r' j hj
    have hne : j ≠ i := by
      rintro rfl
      exact (List.nodup_cons.mp hnodup).1 hj
    exact holding_of_stays (setup_apart hi hne) r'
  unfold handlerSetup v4l2CtrlHandlerSetup
  rw [hsplit, List.map_append, List.map_cons]
  apply Triple.forEach_at
  · intro x hx
    obtain ⟨j, hj, rfl⟩ := List.mem_map.mp hx
    apply (hother r j (List.mem_append_left ys hj)).consequence
      (fun _ hs => hs) (fun _ _ hs => hs)
    exact fun _ _ hs => hs.partlyWritten
  · exact setup_writes hi
  · intro y hy
    obtain ⟨j, hj, rfl⟩ := List.mem_map.mp hy
    apply (hother _ j (List.mem_append_right xs hj)).consequence
      (fun _ hs => hs) (fun _ _ hs => hs)
    exact fun _ _ hs => ⟨_, List.prefix_rfl, hs.regs⟩

end Group

/-! ## The exposure -/

/-- The value of the exposure registers. -/
def exposureBits (exposure : ℤ) : ℕ :=
  ((BitVec.ofInt 32 exposure <<< 4) &&& 0xffff0#32).toNat

/-- The device is in use and exposes as its control says. -/
def Exposed (s : System) : Prop :=
  s.dev.pm.InUse ∧
    word s.bus.regs exposureCtrlReg 3 = exposureBits s.dev.exposure.cur

theorem exposureBits_lt (exposure : ℤ) : exposureBits exposure < 256 ^ 3 := by
  unfold exposureBits
  rw [BitVec.toNat_and]
  exact lt_of_le_of_lt Nat.and_le_right (by decide)

theorem word_exposure (r : Registers) (exposure : ℤ) :
    word (Bus.storeBytes r exposureCtrlReg (bigEndian 3 (exposureBits exposure)))
      exposureCtrlReg 3 = exposureBits exposure := by
  have hlt := exposureBits_lt exposure
  have hword := word_bigEndian r exposureCtrlReg 3 (exposureBits exposure)
  rw [storeBytes_eq_applyAll]
  omega

theorem Exposed.of_apart {s t : System} (hs : Exposed s)
    (h : Apart .exposure s t) : Exposed t := by
  obtain ⟨huse, hword⟩ := hs
  have hctrl : t.dev.exposure = s.dev.exposure := h.ctrl
  refine ⟨h.pm ▸ huse, ?_⟩
  rw [hctrl, ← hword]
  exact word_congr fun k hk => h.regs _ (by
    have hmem : ∀ k < 3, exposureCtrlReg + k ∈ ctrlAddrs .exposure := by decide
    exact hmem k hk)

theorem exposed_of_stays {α : Type} {p : Prog System Fault α}
    (hp : Stays (apart .exposure) p) :
    Triple Exposed p (fun _ => Exposed) (fun _ => Exposed) := by
  apply (hp.triple (P := Exposed) ?_).consequence (fun _ hs => hs)
    (fun _ _ hs => hs) fun _ _ hs => hs.1
  exact fun s t h hs => hs.of_apart h

/-- Applying the exposure stores the value being set; a transfer that fails
stores nothing. -/
theorem applyExposure_at {d : Device} (huse : d.pm.InUse) (r : Registers) :
    Triple (At d r) (applyCtrl .exposure)
      (fun _ s => s.dev = d ∧
        word s.bus.regs exposureCtrlReg 3 = exposureBits d.exposure.val)
      (fun _ s => s.dev = d ∧ s.bus.regs = r) := by
  apply applyCtrl_at (Q := fun r' =>
    word r' exposureCtrlReg 3 = exposureBits d.exposure.val)
      (E := fun r' => r' = r) huse
  intro d' _
  apply (busWrite_at exposureCtrlReg
    (bigEndian 3 (exposureBits d.exposure.val)) d' r).consequence
      (fun _ hs => hs) ?_ (fun _ _ hs => hs)
  rintro _ s ⟨hdev, hregs⟩
  refine ⟨hdev, ?_⟩
  rw [hregs]
  exact word_exposure r _

/-- The value being set becomes the applied one if it has been written. -/
theorem setExposure_exposed :
    Triple Exposed (setCtrl exposureField.ofDev (applyCtrl .exposure))
      (fun _ => Exposed) (fun _ => Exposed) := by
  apply Triple.bind (Q := fun _ => Exposed)
  · exact Triple.modify fun _ hs => hs
  intro _
  apply Triple.bind (Q := fun _ => Exposed)
  · exact Triple.gets fun _ hs => hs
  intro new
  apply Triple.ite
  · exact fun _ => Triple.pure fun _ hs => hs
  intro _
  apply Triple.bind (Q := fun _ s => s.dev.pm.InUse ∧
    word s.bus.regs exposureCtrlReg 3 = exposureBits s.dev.exposure.val)
  · rintro s ⟨huse, hword⟩
    have happly := applyExposure_at huse s.bus.regs s ⟨rfl, rfl⟩
    revert happly
    rcases applyCtrl .exposure s with ⟨_ | _, t⟩
    · rintro ⟨hdev, hregs⟩
      have hdev : t.dev = s.dev := hdev
      have hregs : t.bus.regs = s.bus.regs := hregs
      exact ⟨hdev ▸ huse, by rw [hregs, hdev]; exact hword⟩
    · rintro ⟨hdev, hregs⟩
      have hdev : t.dev = s.dev := hdev
      exact ⟨hdev ▸ huse, by rw [hdev]; exact hregs⟩
  · exact fun _ => Triple.modify fun _ hs => hs

/-- Limiting the exposure may write it again. -/
theorem limitExposure_exposed (exposureMax : ℤ) :
    Triple Exposed (limitExposure exposureMax) (fun _ => Exposed)
      (fun _ => Exposed) := by
  apply Triple.bind (Q := fun _ => Exposed)
  · exact Triple.gets fun _ hs => hs
  intro exposure
  apply Triple.tryCatch (J := fun _ => Exposed)
  · apply Triple.ite
    · intro _
      apply Triple.bind (Q := fun _ => Exposed)
      · exact Triple.modify fun _ hs => hs
      · exact fun _ => setExposure_exposed
    · exact fun _ => Triple.raise fun _ hs => hs
  · intro e
    cases e with
    | errno => exact Triple.pure fun _ hs => hs
    | divideError => exact Triple.raise fun _ hs => hs

theorem applyCtrl_exposed {i : CtrlId} (hi : i ≠ .exposure) :
    Triple Exposed (applyCtrl i) (fun _ => Exposed) (fun _ => Exposed) :=
  exposed_of_stays
    (applyCtrl_stays (apart_admits .exposure) (ctrlAddrs_disjoint hi))

/-- Setting up another control keeps the exposure. -/
theorem setup_exposed {i : CtrlId} (hi : i ≠ .exposure) :
    Triple Exposed
      (Prog.modify ((ctrlField i).ofDev.update Ctrl.curToNew) >>=
        fun _ => sCtrl i) (fun _ => Exposed) (fun _ => Exposed) := by
  have hnew : Stays (apart .exposure)
      (Prog.modify ((ctrlField i).ofDev.update Ctrl.curToNew)) :=
    Keeps.modify fun s => (apart_admits .exposure).ctrl s i _ hi
  apply (exposed_of_stays hnew).bind
  intro _
  apply Triple.bind (Q := fun _ => Exposed)
  · apply Triple.when
    · intro _
      apply Triple.bind (Q := fun _ => Exposed)
      · exact Triple.gets fun _ hs => hs
      · exact fun exposureMax => limitExposure_exposed exposureMax
    · exact fun _ _ hs => hs
  · exact fun _ => applyCtrl_exposed hi

/-- Once the controls are set up, the sensor exposes as its control says. -/
theorem handlerSetup_exposed :
    Triple (fun s => s.dev.pm.InUse) handlerSetup (fun _ => Exposed)
      (fun _ _ => True) := by
  apply Triple.bind (Q := fun _ => Exposed)
  · apply Triple.bind (Q := fun _ s => s.dev.pm.InUse ∧
      s.dev.exposure.val = s.dev.exposure.cur)
    · exact Triple.modify fun s hs => ⟨hs, rfl⟩
    intro _
    rw [sCtrl_of_ne (by decide)]
    rintro s ⟨huse, hval⟩
    have happly := applyExposure_at huse s.bus.regs s ⟨rfl, rfl⟩
    revert happly
    rcases applyCtrl .exposure s with ⟨_ | _, t⟩
    · exact fun _ => trivial
    · rintro ⟨hdev, hword⟩
      have hdev : t.dev = s.dev := hdev
      refine ⟨hdev ▸ huse, ?_⟩
      rw [hdev, ← hval]
      exact hword
  · intro _
    apply (Triple.forEach (P := Exposed) (E := fun _ => Exposed) _
      ?_).consequence (fun _ hs => hs) (fun _ _ hs => hs)
        fun _ _ _ => trivial
    intro x hx
    obtain ⟨i, hi, rfl⟩ := List.mem_map.mp hx
    apply setup_exposed
    rintro rfl
    exact absurd hi (by decide)

end Ov5693
end SurfaceCameras
