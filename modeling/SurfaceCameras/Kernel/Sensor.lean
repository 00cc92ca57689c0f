import SurfaceCameras.Kernel.Control
import SurfaceCameras.Support.MaskedWrites
import Mathlib.Algebra.Group.Int.Defs

/-!
# A driver and the registers of its sensor

The state of a driver next to the bus of its sensor, the register access
functions of `v4l2-cci.c`, and what a program does when every transfer
succeeds: it changes the driver's state and makes a sequence of register
writes, neither of which depends on what the registers hold.
-/

namespace SurfaceCameras
namespace Kernel

open MaskedWrites

/-- A driver's own state and the bus to its sensor. -/
structure Machine (δ : Type) where
  dev : δ
  bus : Bus

section Access

variable {δ : Type}

def Machine.busField : Field (Machine δ) Bus :=
  ⟨(·.bus), fun s b => { s with bus := b }, fun _ _ => rfl⟩

/-- A field of the driver's state, as one of the machine. -/
def Field.ofDev {τ : Type} (F : Field δ τ) : Field (Machine δ) τ :=
  ⟨fun s => F.get s.dev, fun s t => { s with dev := F.set s.dev t },
    fun s t => F.get_set s.dev t⟩

/-- The `n` low bytes of a value, most significant first. -/
def bigEndian : ℕ → ℤ → List (BitVec 8)
  | 0, _ => []
  | n + 1, v => BitVec.ofInt 8 (v / 256 ^ n) :: bigEndian n v

/-- `cci_write` of a register of `n` bytes. -/
def cciWrite (reg n : ℕ) (val : ℤ) : Prog (Machine δ) Fault Unit :=
  busWrite Machine.busField reg (bigEndian n val)

/-- `cci_update_bits` of a register of one byte. -/
def cciUpdateBits (reg : ℕ) (mask val : BitVec 8) :
    Prog (Machine δ) Fault Unit := do
  let readval ← busRead Machine.busField reg
  busWrite Machine.busField reg [(readval &&& ~~~mask) ||| (val &&& mask)]

/-- `cci_multi_reg_write` of registers of one byte. -/
def cciMultiRegWrite : List (ℕ × BitVec 8) → Prog (Machine δ) Fault Unit :=
  Prog.forEach fun (reg, val) => busWrite Machine.busField reg [val]

/-- Call a function and drop the error code it returns. -/
def ignoreErrno (p : Prog (Machine δ) Fault Unit) :
    Prog (Machine δ) Fault Unit :=
  Prog.tryCatch p fun e =>
    match e with
    | .errno _ => pure ()
    | .divideError => Prog.raise .divideError

end Access

/-! ## Programs when every transfer succeeds -/

/-- A change of the driver's state and the register writes made on the way. -/
abbrev Effect (δ : Type) : Type := δ → δ × List MaskedWrite

namespace Effect

variable {δ : Type}

/-- A change that makes no register writes. -/
def silent (f : δ → δ) : Effect δ := fun d => (f d, [])

/-- Register writes that change nothing in the driver. -/
def emit (ws : δ → List MaskedWrite) : Effect δ := fun d => (d, ws d)

/-- One effect after the other. -/
def seq (e₁ e₂ : Effect δ) : Effect δ :=
  fun d => ((e₂ (e₁ d).1).1, (e₁ d).2 ++ (e₂ (e₁ d).1).2)

@[simp] theorem silent_fst (f : δ → δ) (d : δ) : (silent f d).1 = f d := rfl

@[simp] theorem silent_snd (f : δ → δ) (d : δ) : (silent f d).2 = [] := rfl

@[simp] theorem emit_fst (ws : δ → List MaskedWrite) (d : δ) :
    (emit ws d).1 = d := rfl

@[simp] theorem emit_snd (ws : δ → List MaskedWrite) (d : δ) :
    (emit ws d).2 = ws d := rfl

@[simp] theorem seq_fst (e₁ e₂ : Effect δ) (d : δ) :
    (e₁.seq e₂ d).1 = (e₂ (e₁ d).1).1 := rfl

@[simp] theorem seq_snd (e₁ e₂ : Effect δ) (d : δ) :
    (e₁.seq e₂ d).2 = (e₁ d).2 ++ (e₂ (e₁ d).1).2 := rfl

end Effect

namespace Machine

variable {δ : Type}

/-- The machine before a call whose transfers have these outcomes. -/
def facing (s : Machine δ) (outcomes : List Bool) : Machine δ :=
  { s with bus := { s.bus with faults := outcomes } }

@[simp] theorem facing_dev (s : Machine δ) (os : List Bool) :
    (s.facing os).dev = s.dev := rfl

@[simp] theorem facing_regs (s : Machine δ) (os : List Bool) :
    (s.facing os).bus.regs = s.bus.regs := rfl

@[simp] theorem facing_faults (s : Machine δ) (os : List Bool) :
    (s.facing os).bus.faults = os := rfl

/-- Every transfer to come succeeds. -/
def Clean (s : Machine δ) : Prop := s.bus.faults = []

/-- The machine after a change of the driver and some register writes. -/
def after (s : Machine δ) (x : δ × List MaskedWrite) : Machine δ :=
  ⟨x.1, { s.bus with regs := applyAll x.2 s.bus.regs }⟩

@[simp] theorem after_dev (s : Machine δ) (x : δ × List MaskedWrite) :
    (s.after x).dev = x.1 := rfl

@[simp] theorem after_regs (s : Machine δ) (x : δ × List MaskedWrite) :
    (s.after x).bus.regs = applyAll x.2 s.bus.regs := rfl

@[simp] theorem clean_after (s : Machine δ) (x : δ × List MaskedWrite) :
    (s.after x).Clean ↔ s.Clean := Iff.rfl

theorem after_after (s : Machine δ) (e₁ e₂ : Effect δ) :
    (s.after (e₁ s.dev)).after (e₂ (e₁ s.dev).1) =
      s.after (e₁.seq e₂ s.dev) := by
  simp only [after, Effect.seq, applyAll_append]

end Machine

section Performs

variable {δ : Type}

/-- With every transfer succeeding, `p` returns and has the effect `e`. -/
def Performs (p : Prog (Machine δ) Fault Unit) (e : Effect δ) : Prop :=
  ∀ s, s.Clean → p s = (.ok (), s.after (e s.dev))

namespace Performs

variable {p q : Prog (Machine δ) Fault Unit} {e e' : Effect δ}

theorem pure : Performs (Pure.pure () : Prog (Machine δ) Fault Unit)
    (Effect.silent id) :=
  fun _ _ => rfl

theorem modify (F : δ → δ) :
    Performs (Prog.modify fun s => { s with dev := F s.dev })
      (Effect.silent F) :=
  fun _ _ => rfl

theorem update {τ : Type} (F : Field δ τ) (f : τ → τ) :
    Performs (Prog.modify (F.ofDev.update f)) (Effect.silent (F.update f)) :=
  fun _ _ => rfl

theorem congr (hp : Performs p e) (he : ∀ d, e d = e' d) : Performs p e' := by
  intro s hs
  rw [← he]
  exact hp s hs

theorem seq (hp : Performs p e) (hq : Performs q e') :
    Performs (p >>= fun _ => q) (e.seq e') := by
  intro s hs
  rw [Prog.bind_ok (hp s hs), hq _ ((Machine.clean_after s _).mpr hs),
    Machine.after_dev, Machine.after_after]

theorem gets {α : Type} (g : δ → α)
    {p : α → Prog (Machine δ) Fault Unit} {e : α → Effect δ}
    (hp : ∀ a, Performs (p a) (e a)) :
    Performs (Prog.gets (fun s => g s.dev) >>= p) (fun d => e (g d) d) :=
  fun s hs => hp (g s.dev) s hs

theorem ite {c : Prop} [Decidable c] (hp : Performs p e)
    (hq : Performs q e') :
    Performs (if c then p else q) (fun d => if c then e d else e' d) := by
  split
  · exact hp
  · exact hq

theorem when {c : Prop} [Decidable c] (hp : Performs p e) :
    Performs (Prog.when c p) (fun d => if c then e d else (d, [])) :=
  hp.ite Performs.pure

theorem tryCatch (hp : Performs p e)
    (handler : Fault → Prog (Machine δ) Fault Unit) :
    Performs (Prog.tryCatch p handler) e :=
  fun s hs => Prog.tryCatch_ok (hp s hs)

theorem ignoreErrno (hp : Performs p e) :
    Performs (Kernel.ignoreErrno p) e :=
  hp.tryCatch _

end Performs

/-! ## Register accesses -/

theorem storeBytes_eq_applyAll (r : Registers) (a : ℕ)
    (bytes : List (BitVec 8)) :
    Bus.storeBytes r a bytes = applyAll (bytesAt a bytes) r := by
  induction bytes generalizing a r with
  | nil => rfl
  | cons v vs ih =>
      rw [Bus.storeBytes, ih, bytesAt, applyAll_cons, byte_apply]

theorem busWrite_performs (a : ℕ) (bytes : List (BitVec 8)) :
    Performs (δ := δ) (busWrite Machine.busField a bytes)
      (Effect.emit fun _ => bytesAt a bytes) := by
  intro s hs
  have hclean : (Machine.busField.get s).faults = [] := hs
  rw [busWrite_ok hclean]
  simp only [Machine.after, Effect.emit, ← storeBytes_eq_applyAll]
  rfl

theorem cciWrite_performs (reg n : ℕ) (val : ℤ) :
    Performs (δ := δ) (cciWrite reg n val)
      (Effect.emit fun _ => bytesAt reg (bigEndian n val)) :=
  busWrite_performs reg (bigEndian n val)

theorem cciUpdateBits_performs (reg : ℕ) (mask val : BitVec 8) :
    Performs (δ := δ) (cciUpdateBits reg mask val)
      (Effect.emit fun _ => [⟨reg, mask, val⟩]) := by
  intro s hs
  have hclean : (Machine.busField.get s).faults = [] := hs
  unfold cciUpdateBits
  rw [Prog.bind_ok (busRead_ok hclean reg), busWrite_ok hclean]
  rfl

/-- The writes of a register table. -/
def tableWrites (table : List (ℕ × BitVec 8)) : List MaskedWrite :=
  table.map fun x => .byte x.1 x.2

theorem cciMultiRegWrite_performs (table : List (ℕ × BitVec 8)) :
    Performs (δ := δ) (cciMultiRegWrite table)
      (Effect.emit fun _ => tableWrites table) := by
  induction table with
  | nil => exact Performs.pure
  | cons x table ih =>
      refine ((busWrite_performs x.1 [x.2]).seq ih).congr fun d => ?_
      rfl

end Performs

/-! ## Power management and the control handler -/

section Management

variable {δ : Type} {pm : Field δ RuntimePm}
  {resume : Prog (Machine δ) Fault Unit} {e : Effect δ}

theorem transfer_performs :
    Performs (δ := δ) (transfer Machine.busField) (Effect.silent id) :=
  fun _ hs => transfer_ok hs

theorem pmRuntimePut_performs :
    Performs (pmRuntimePut pm.ofDev) (Effect.silent (pm.update RuntimePm.put)) :=
  Performs.update pm RuntimePm.put

/-- The effect of `pm_runtime_resume_and_get`, given the effect of the resume
callback. -/
def resumeAndGetEffect (pm : Field δ RuntimePm) (e : Effect δ) : Effect δ :=
  (Effect.silent (pm.update RuntimePm.getToResume)).seq
    fun d =>
      if (pm.get d).active then
        (d, [])
      else
        e.seq (Effect.silent (pm.update fun p => { p with active := true })) d

theorem pmRuntimeResumeAndGet_performs (hr : Performs resume e) :
    Performs (pmRuntimeResumeAndGet pm.ofDev resume)
      (resumeAndGetEffect pm e) := by
  refine (Performs.update pm _).seq ?_
  have h := Performs.gets pm.get fun p : RuntimePm =>
    (Performs.pure (δ := δ)).ite (c := p.active = true)
      ((hr.seq (Performs.update pm fun p => { p with active := true })).tryCatch
        fun e => do
          pmRuntimePutNoidle pm.ofDev
          Prog.raise e)
  exact h

/-- The effect of one step of `__v4l2_ctrl_handler_setup`. -/
def setupEffect (x : Field δ Ctrl × Effect δ) : Effect δ :=
  (Effect.silent (x.1.update Ctrl.curToNew)).seq x.2

/-- The effect of `__v4l2_ctrl_handler_setup`. -/
def handlerSetupEffect : List (Field δ Ctrl × Effect δ) → Effect δ
  | [] => Effect.silent id
  | x :: xs => (setupEffect x).seq (handlerSetupEffect xs)

theorem v4l2CtrlHandlerSetup_performs {ι : Type} (ids : List ι)
    {c : ι → Field δ Ctrl} {cb : ι → Prog (Machine δ) Fault Unit}
    {e : ι → Effect δ} (hcb : ∀ i ∈ ids, Performs (cb i) (e i)) :
    Performs (v4l2CtrlHandlerSetup (ids.map fun i => ((c i).ofDev, cb i)))
      (handlerSetupEffect (ids.map fun i => (c i, e i))) := by
  induction ids with
  | nil => exact Performs.pure
  | cons i ids ih =>
      refine ((Performs.update (c i) Ctrl.curToNew).seq
        (hcb i (by simp))).seq (ih fun j hj => ?_)
      exact hcb j (List.mem_cons_of_mem i hj)

end Management

/-! ## Controls -/

section Controls

variable {δ : Type} (c : Field δ Ctrl)

/-- The effect of `set_ctrl`, given the effect of the callback. -/
def setCtrlEffect (e : Effect δ) : Effect δ := fun d =>
  if (c.get d).validateNew.val = (c.get d).cur then
    (c.update Ctrl.validateNew d, [])
  else
    let x := e (c.update Ctrl.validateNew d)
    (c.update Ctrl.newToCur x.1, x.2)

variable {c} {cb : Prog (Machine δ) Fault Unit} {e : Effect δ}

theorem setCtrl_performs (hcb : Performs cb e) :
    Performs (setCtrl c.ofDev cb) (setCtrlEffect c e) := by
  intro s hs
  unfold setCtrlEffect
  by_cases hsame : (c.get s.dev).validateNew.val = (c.get s.dev).cur
  · rw [if_pos hsame]
    exact setCtrl_unchanged (c := c.ofDev) hsame
  · rw [if_neg hsame]
    have hs' : (c.ofDev.update Ctrl.validateNew s).Clean := hs
    exact setCtrl_changed (c := c.ofDev) hsame (hcb _ hs')

theorem v4l2CtrlSCtrl_performs (hcb : Performs cb e) (v : ℤ) :
    Performs (v4l2CtrlSCtrl c.ofDev cb v)
      ((Effect.silent (c.update fun x => { x with val := v })).seq
        (setCtrlEffect c e)) :=
  (Performs.update c _).seq (setCtrl_performs hcb)

/-- The effect of a write from user space: none if the value is refused. -/
def writeCtrlEffect (c : Field δ Ctrl) (e : Effect δ) (type : CtrlType)
    (v : ℤ) : Effect δ := fun d =>
  match (c.get d).stdValidate v type with
  | some w => setCtrlEffect c e (c.update (fun x => { x with val := w }) d)
  | none => (d, [])

theorem writeCtrlEffect_of_some {type : CtrlType} {v w : ℤ} {d : δ}
    (h : (c.get d).stdValidate v type = some w) :
    writeCtrlEffect c e type v d =
      setCtrlEffect c e (c.update (fun x => { x with val := w }) d) := by
  rw [writeCtrlEffect, h]

theorem writeCtrlEffect_of_none {type : CtrlType} {v : ℤ} {d : δ}
    (h : (c.get d).stdValidate v type = none) :
    writeCtrlEffect c e type v d = (d, []) := by
  rw [writeCtrlEffect, h]

/-- What a write leaves behind, whether it was refused or not. -/
theorem v4l2SCtrl_after (hcb : Performs cb e) (type : CtrlType) (v : ℤ)
    {s : Machine δ} (hs : s.Clean) :
    (v4l2SCtrl c.ofDev cb type v s).2 =
      s.after (writeCtrlEffect c e type v s.dev) := by
  cases h : (c.get s.dev).stdValidate v type with
  | some w =>
      have hw : (c.ofDev.get s).stdValidate v type = some w := h
      rw [v4l2SCtrl_of_some hw, v4l2CtrlSCtrl_performs hcb w s hs,
        writeCtrlEffect_of_some h]
      rfl
  | none =>
      have hnone : (c.ofDev.get s).stdValidate v type = none := h
      rw [v4l2SCtrl_of_none hnone, writeCtrlEffect_of_none h]
      rfl

/-- The effect of `__v4l2_ctrl_modify_range` whose result is not looked at. -/
def modifyRangeEffect (c : Field δ Ctrl) (e : Effect δ) (lo hi : ℤ) (st : ℕ)
    (dflt : ℤ) : Effect δ := fun d =>
  if Ctrl.RangeOk lo hi st dflt then
    setCtrlEffect c e
      (c.update (fun x => (x.withRange lo hi st dflt).curToNew) d)
  else
    (d, [])

theorem modifyRangeEffect_of_ok {lo hi : ℤ} {st : ℕ} {dflt : ℤ}
    (hr : Ctrl.RangeOk lo hi st dflt) (d : δ) :
    modifyRangeEffect c e lo hi st dflt d = setCtrlEffect c e
      (c.update (fun x => (x.withRange lo hi st dflt).curToNew) d) :=
  if_pos hr

theorem ignoreErrno_modifyRange_of_not {cb : Prog (Machine δ) Fault Unit}
    {lo hi : ℤ} {st : ℕ} {dflt : ℤ}
    (hr : ¬ Ctrl.RangeOk lo hi st dflt) (s : Machine δ) :
    ignoreErrno (v4l2CtrlModifyRange c.ofDev cb lo hi st dflt) s =
      (.ok (), s) := by
  unfold v4l2CtrlModifyRange ignoreErrno
  rw [if_neg hr]
  rfl

theorem v4l2CtrlModifyRange_performs (hcb : Performs cb e) (lo hi : ℤ)
    (st : ℕ) (dflt : ℤ) :
    Performs (ignoreErrno (v4l2CtrlModifyRange c.ofDev cb lo hi st dflt))
      (modifyRangeEffect c e lo hi st dflt) := by
  by_cases hr : Ctrl.RangeOk lo hi st dflt
  · have h := ((Performs.update c fun x =>
      (x.withRange lo hi st dflt).curToNew).seq
        (setCtrl_performs (c := c) hcb)).ignoreErrno
    unfold v4l2CtrlModifyRange
    rw [if_pos hr]
    refine h.congr fun d => ?_
    rw [modifyRangeEffect_of_ok hr]
    rfl
  · intro s _
    rw [ignoreErrno_modifyRange_of_not hr, modifyRangeEffect, if_neg hr]
    rfl

end Controls

/-! ## What an effect leaves alone -/

/-- The part `f` of the driver's state is the same after the effect. -/
def Fixes {δ τ : Type} (f : δ → τ) (e : Effect δ) : Prop :=
  ∀ d, f (e d).1 = f d

namespace Fixes

variable {δ τ : Type} {f : δ → τ} {e e' : Effect δ}

theorem silent {g : δ → δ} (h : ∀ d, f (g d) = f d) :
    Fixes f (Effect.silent g) := h

theorem emit (ws : δ → List MaskedWrite) : Fixes f (Effect.emit ws) :=
  fun _ => rfl

theorem seq (h : Fixes f e) (h' : Fixes f e') : Fixes f (e.seq e') :=
  fun d => (h' _).trans (h d)

theorem map {ρ : Type} (h : Fixes f e) (g : τ → ρ) :
    Fixes (fun d => g (f d)) e :=
  fun d => congrArg g (h d)

theorem setCtrl {c : Field δ Ctrl} (hc : ∀ g d, f (c.update g d) = f d)
    (he : Fixes f e) : Fixes f (setCtrlEffect c e) := by
  intro d
  unfold setCtrlEffect
  split
  · exact hc _ d
  · exact (hc _ _).trans ((he _).trans (hc _ d))

theorem writeCtrl {c : Field δ Ctrl} (hc : ∀ g d, f (c.update g d) = f d)
    (he : Fixes f e) (type : CtrlType) (v : ℤ) :
    Fixes f (writeCtrlEffect c e type v) := by
  intro d
  unfold writeCtrlEffect
  split
  · exact (setCtrl hc he _).trans (hc _ d)
  · rfl

theorem modifyRange {c : Field δ Ctrl} (hc : ∀ g d, f (c.update g d) = f d)
    (he : Fixes f e) (lo hi : ℤ) (st : ℕ) (dflt : ℤ) :
    Fixes f (modifyRangeEffect c e lo hi st dflt) := by
  intro d
  unfold modifyRangeEffect
  split
  · exact (setCtrl hc he _).trans (hc _ d)
  · rfl

theorem resumeAndGet {pm : Field δ RuntimePm}
    (hpm : ∀ g d, f (pm.update g d) = f d) (he : Fixes f e) :
    Fixes f (resumeAndGetEffect pm e) := by
  refine (silent (hpm _)).seq ?_
  intro d
  dsimp only
  split
  · rfl
  · exact he.seq (silent (hpm _)) d

theorem handlerSetup {xs : List (Field δ Ctrl × Effect δ)}
    (h : ∀ x ∈ xs, Fixes f (setupEffect x)) :
    Fixes f (handlerSetupEffect xs) := by
  induction xs with
  | nil => exact fun _ => rfl
  | cons x xs ih =>
      refine (h x (by simp)).seq (ih fun y hy => ?_)
      exact h y (List.mem_cons_of_mem x hy)

end Fixes

/-- The effect keeps the property `P` of the driver's state. -/
def Maintains {δ : Type} (P : δ → Prop) (e : Effect δ) : Prop :=
  ∀ d, P d → P (e d).1

namespace Maintains

variable {δ : Type} {P : δ → Prop} {e e' : Effect δ}

theorem silent {f : δ → δ} (h : ∀ d, P d → P (f d)) :
    Maintains P (Effect.silent f) := h

theorem emit (ws : δ → List MaskedWrite) : Maintains P (Effect.emit ws) :=
  fun _ h => h

theorem seq (h : Maintains P e) (h' : Maintains P e') :
    Maintains P (e.seq e') :=
  fun d hd => h' _ (h d hd)

theorem resumeAndGet {pm : Field δ RuntimePm}
    (hpm : ∀ g d, P d → P (pm.update g d)) (he : Maintains P e) :
    Maintains P (resumeAndGetEffect pm e) := by
  refine (silent (hpm _)).seq ?_
  intro d hd
  dsimp only
  split
  · exact hd
  · exact he.seq (silent (hpm _)) d hd

theorem handlerSetup {xs : List (Field δ Ctrl × Effect δ)}
    (h : ∀ x ∈ xs, Maintains P (setupEffect x)) :
    Maintains P (handlerSetupEffect xs) := by
  induction xs with
  | nil => exact fun _ hd => hd
  | cons x xs ih =>
      refine (h x (by simp)).seq (ih fun y hy => ?_)
      exact h y (List.mem_cons_of_mem x hy)

end Maintains

/-- The register writes of the effect touch no bit of `k`. -/
def Spares {δ : Type} (k : ℕ → BitVec 8) (e : Effect δ) : Prop :=
  ∀ d, Outside k (footprint (e d).2)

namespace Spares

variable {δ : Type} {k : ℕ → BitVec 8} {e e' : Effect δ}

theorem silent (f : δ → δ) : Spares k (Effect.silent f) :=
  fun _ _ hx => absurd hx List.not_mem_nil

theorem emit {ws : δ → List MaskedWrite}
    (h : ∀ d, Outside k (footprint (ws d))) : Spares k (Effect.emit ws) := h

theorem seq (h : Spares k e) (h' : Spares k e') : Spares k (e.seq e') := by
  intro d
  rw [Effect.seq_snd, footprint_append]
  exact (h d).append (h' _)

theorem setCtrl (c : Field δ Ctrl) (he : Spares k e) :
    Spares k (setCtrlEffect c e) := by
  intro d
  unfold setCtrlEffect
  split
  · exact silent id d
  · exact he _

theorem writeCtrl (c : Field δ Ctrl) (he : Spares k e) (type : CtrlType)
    (v : ℤ) : Spares k (writeCtrlEffect c e type v) := by
  intro d
  unfold writeCtrlEffect
  split
  · exact setCtrl c he _
  · exact silent id d

theorem modifyRange (c : Field δ Ctrl) (he : Spares k e) (lo hi : ℤ) (st : ℕ)
    (dflt : ℤ) : Spares k (modifyRangeEffect c e lo hi st dflt) := by
  intro d
  unfold modifyRangeEffect
  split
  · exact setCtrl c he _
  · exact silent id d

theorem handlerSetup {xs : List (Field δ Ctrl × Effect δ)}
    (h : ∀ x ∈ xs, Spares k x.2) : Spares k (handlerSetupEffect xs) := by
  induction xs with
  | nil => exact silent id
  | cons x xs ih =>
      refine Spares.seq ((silent _).seq (h x (by simp))) (ih fun y hy => ?_)
      exact h y (List.mem_cons_of_mem x hy)

theorem agreeOn (h : Spares k e) (s : Machine δ) :
    AgreeOn k (s.after (e s.dev)).bus.regs s.bus.regs :=
  agreeOn_applyAll_self (h s.dev) _

end Spares

/-- Related states are related after the effect, which makes the same register
writes on both. -/
def Respects {δ : Type} (R : δ → δ → Prop) (e : Effect δ) : Prop :=
  ∀ d d', R d d' → R (e d).1 (e d').1 ∧ (e d).2 = (e d').2

namespace Respects

variable {δ : Type} {R : δ → δ → Prop} {e e' : Effect δ}

theorem silent {f : δ → δ} (h : ∀ d d', R d d' → R (f d) (f d')) :
    Respects R (Effect.silent f) :=
  fun d d' hR => ⟨h d d' hR, rfl⟩

theorem seq (h : Respects R e) (h' : Respects R e') :
    Respects R (e.seq e') := by
  intro d d' hR
  obtain ⟨hR₁, hws₁⟩ := h d d' hR
  obtain ⟨hR₂, hws₂⟩ := h' _ _ hR₁
  refine ⟨hR₂, ?_⟩
  rw [Effect.seq_snd, Effect.seq_snd, hws₁, hws₂]

variable {c : Field δ Ctrl}

theorem setCtrl (hget : ∀ d d', R d d' → c.get d = c.get d')
    (hupd : ∀ g d d', R d d' → R (c.update g d) (c.update g d'))
    (he : Respects R e) : Respects R (setCtrlEffect c e) := by
  intro d d' hR
  unfold setCtrlEffect
  rw [hget d d' hR]
  split
  · exact ⟨hupd _ _ _ hR, rfl⟩
  · obtain ⟨hR', hws⟩ := he _ _ (hupd Ctrl.validateNew d d' hR)
    exact ⟨hupd _ _ _ hR', hws⟩

theorem modifyRange (hget : ∀ d d', R d d' → c.get d = c.get d')
    (hupd : ∀ g d d', R d d' → R (c.update g d) (c.update g d'))
    (he : Respects R e) (lo hi : ℤ) (st : ℕ) (dflt : ℤ) :
    Respects R (modifyRangeEffect c e lo hi st dflt) := by
  intro d d' hR
  unfold modifyRangeEffect
  split
  · exact setCtrl hget hupd he _ _ (hupd _ _ _ hR)
  · exact ⟨hR, rfl⟩

theorem handlerSetup {xs : List (Field δ Ctrl × Effect δ)}
    (hupd : ∀ x ∈ xs, ∀ g d d', R d d' → R (x.1.update g d) (x.1.update g d'))
    (he : ∀ x ∈ xs, Respects R x.2) : Respects R (handlerSetupEffect xs) := by
  induction xs with
  | nil => exact silent fun _ _ h => h
  | cons x xs ih =>
      have hx := hupd x (by simp)
      refine Respects.seq ((silent (hx _)).seq (he x (by simp))) (ih ?_ ?_)
      · exact fun y hy => hupd y (List.mem_cons_of_mem x hy)
      · exact fun y hy => he y (List.mem_cons_of_mem x hy)

end Respects

section

variable {δ : Type} {c : Field δ Ctrl} {e : Effect δ}

theorem get_setCtrlEffect (he : Fixes c.get e) (d : δ) :
    c.get (setCtrlEffect c e d).1 = (c.get d).applied (c.get d).val := by
  unfold setCtrlEffect
  split
  · next hsame =>
      rw [Field.get_update]
      exact (Ctrl.applied_of_unchanged hsame).symm
  · dsimp only
    rw [Field.get_update, he, Field.get_update]
    rfl

theorem get_modifyRangeEffect (he : Fixes c.get e) {lo hi : ℤ} {st : ℕ}
    {dflt : ℤ} (hr : Ctrl.RangeOk lo hi st dflt) (d : δ) :
    c.get (modifyRangeEffect c e lo hi st dflt d).1 =
      ((c.get d).withRange lo hi st dflt).applied (c.get d).cur := by
  rw [modifyRangeEffect_of_ok hr, get_setCtrlEffect he, Field.get_update]
  rfl

end

end Kernel
end SurfaceCameras
