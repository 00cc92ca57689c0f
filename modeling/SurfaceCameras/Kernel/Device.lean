import SurfaceCameras.Support.Program
import Mathlib.Logic.Function.Basic
import Mathlib.Algebra.Group.Nat.Defs

/-!
# What a sensor driver uses of the kernel

Error codes, fields of a device structure, the runtime power management
counter and the register bus.  Each operation acts on one field of a larger
device state, so that every driver can use it on its own structure.

A transfer on the bus can fail, and so can enabling a clock or a supply.  The
outcomes of what can fail are part of the bus: a list that a failing run spells
out, and past whose end everything succeeds.
-/

namespace SurfaceCameras
namespace Kernel

/-- The error codes the drivers return or pass on. -/
inductive Errno where
  | eio
  | enodev
  | enomem
  | ebusy
  | einval
  | erange
  | eprobeDefer
  | eacces
  deriving DecidableEq, Repr

/-- How kernel code fails: by an error code, or by a division that traps. -/
inductive Fault where
  | errno (e : Errno)
  | divideError
  deriving DecidableEq, Repr

/-- Go on with what a kernel function returns, or pass its error on. -/
def answer {σ α : Type} : Except Errno α → Prog σ Fault α
  | .ok a => pure a
  | .error e => Prog.raise (.errno e)

theorem answer_bind {σ α β : Type} {x : Except Errno α}
    {f : α → Prog σ Fault β} {P : σ → Prop} {Q : β → σ → Prop}
    {E : Fault → σ → Prop} (hok : ∀ a, x = .ok a → Prog.Triple P (f a) Q E)
    (herr : ∀ e, x = .error e → ∀ s, P s → E (.errno e) s) :
    Prog.Triple P (answer x >>= f) Q E := by
  cases x with
  | ok a => exact hok a rfl
  | error e => exact fun s hs => herr e rfl s hs

/-- Unsigned division; a zero divisor traps. -/
def divide {σ : Type} (x d : ℕ) : Prog σ Fault ℕ :=
  if d = 0 then Prog.raise .divideError else pure (x / d)

/-- `DIV_ROUND_CLOSEST` of unsigned 32-bit operands. -/
def divRoundClosest {σ : Type} (x d : ℕ) : Prog σ Fault ℕ :=
  divide ((x + d / 2) % 2 ^ 32) d

/-- One field of a device structure. -/
structure Field (σ τ : Type) where
  get : σ → τ
  set : σ → τ → σ
  get_set : ∀ s t, get (set s t) = t

namespace Field

variable {σ τ : Type} (F : Field σ τ)

def update (f : τ → τ) (s : σ) : σ := F.set s (f (F.get s))

@[simp] theorem get_update (f : τ → τ) (s : σ) :
    F.get (F.update f s) = f (F.get s) :=
  F.get_set _ _

theorem update_congr {f g : τ → τ} {s : σ} (h : f (F.get s) = g (F.get s)) :
    F.update f s = F.update g s :=
  congrArg (F.set s) h

end Field

section Programs

variable {σ : Type}

/-! ## Runtime power management -/

/-- The part of runtime power management a driver sees: whether the device is
resumed, how many users hold it, and whether an idle request is queued or the
autosuspend timer, which is what becomes of one, is running. -/
structure RuntimePm where
  active : Bool
  usage : ℕ
  idleQueued : Bool
  deriving DecidableEq, Repr

namespace RuntimePm

/-- The device is resumed and somebody holds it. -/
def InUse (pm : RuntimePm) : Prop := pm.active = true ∧ 0 < pm.usage

instance (pm : RuntimePm) : Decidable pm.InUse :=
  inferInstanceAs (Decidable (_ ∧ _))

def get (pm : RuntimePm) : RuntimePm := { pm with usage := pm.usage + 1 }

/-- Drop a reference; the last one queues an idle request. -/
def put (pm : RuntimePm) : RuntimePm :=
  { pm with
    usage := pm.usage - 1
    idleQueued := pm.idleQueued || pm.usage == 1 }

/-- Drop a reference and queue nothing. -/
def putNoidle (pm : RuntimePm) : RuntimePm :=
  { pm with usage := pm.usage - 1 }

/-- Take a reference before a resume, which cancels what is queued for a
suspended device and leaves the timer of an active one running. -/
def getToResume (pm : RuntimePm) : RuntimePm :=
  { pm.get with idleQueued := pm.active && pm.idleQueued }

/-- The autosuspend timer goes off in a device that stays resumed. -/
def expire (pm : RuntimePm) : RuntimePm := { pm with idleQueued := false }

/-- The device once it is suspended. -/
def suspend (pm : RuntimePm) : RuntimePm :=
  { pm with active := false, idleQueued := false }

theorem eq_mk {pm : RuntimePm} {active : Bool} {usage : ℕ} {idleQueued : Bool}
    (hactive : pm.active = active) (husage : pm.usage = usage)
    (hqueued : pm.idleQueued = idleQueued) :
    pm = ⟨active, usage, idleQueued⟩ := by
  rw [← hactive, ← husage, ← hqueued]

theorem put_get_of_inUse {pm : RuntimePm} (h : pm.InUse) :
    pm.get.put = pm := by
  obtain ⟨active, usage, idleQueued⟩ := pm
  have hne : usage ≠ 0 := Nat.pos_iff_ne_zero.mp h.2
  simp [get, put, hne]

end RuntimePm

variable (pm : Field σ RuntimePm)

/-- `pm_runtime_get_if_in_use`: take a reference only if the device is resumed
and already held. -/
def pmRuntimeGetIfInUse : Prog σ Fault Bool := do
  let p ← Prog.gets pm.get
  if p.InUse then do
    Prog.modify (pm.update RuntimePm.get)
    pure true
  else
    pure false

/-- `pm_runtime_put`. -/
def pmRuntimePut : Prog σ Fault Unit := Prog.modify (pm.update RuntimePm.put)

/-- `pm_runtime_put_noidle`. -/
def pmRuntimePutNoidle : Prog σ Fault Unit :=
  Prog.modify (pm.update RuntimePm.putNoidle)

/-- `pm_runtime_resume_and_get`: take a reference and resume the device if it
is suspended.  A failed resume drops the reference again. -/
def pmRuntimeResumeAndGet (resume : Prog σ Fault Unit) : Prog σ Fault Unit := do
  Prog.modify (pm.update RuntimePm.getToResume)
  let p ← Prog.gets pm.get
  if p.active then
    pure ()
  else
    Prog.tryCatch
      (do
        resume
        Prog.modify (pm.update fun p => { p with active := true }))
      (fun e => do
        pmRuntimePutNoidle pm
        Prog.raise e)

/-! ## The register bus -/

/-- Sensor registers, one byte at each address, and the outcomes of the
transfers to come: `true` for a transfer that fails. -/
structure Bus where
  regs : ℕ → BitVec 8
  faults : List Bool

namespace Bus

/-- Store bytes at consecutive addresses. -/
def storeBytes (regs : ℕ → BitVec 8) : ℕ → List (BitVec 8) → ℕ → BitVec 8
  | _, [] => regs
  | a, v :: vs => storeBytes (Function.update regs a v) (a + 1) vs

def store (b : Bus) (a : ℕ) (bytes : List (BitVec 8)) : Bus :=
  { b with regs := storeBytes b.regs a bytes }

@[simp] theorem store_faults (b : Bus) (a : ℕ) (bytes : List (BitVec 8)) :
    (b.store a bytes).faults = b.faults := rfl

theorem storeBytes_of_not_mem {a x : ℕ} {bytes : List (BitVec 8)}
    (h : x < a ∨ a + bytes.length ≤ x) (regs : ℕ → BitVec 8) :
    storeBytes regs a bytes x = regs x := by
  induction bytes generalizing a regs with
  | nil => rfl
  | cons v vs ih =>
      rw [List.length_cons] at h
      have hx : x ≠ a := by omega
      rw [storeBytes, ih (by omega), Function.update_of_ne hx]

theorem storeBytes_of_ne {a x : ℕ} {bytes : List (BitVec 8)}
    (h : ∀ k < bytes.length, a + k ≠ x) (regs : ℕ → BitVec 8) :
    storeBytes regs a bytes x = regs x := by
  apply storeBytes_of_not_mem
  by_contra hin
  exact h (x - a) (by omega) (by omega)

end Bus

variable (bus : Field σ Bus)

/-- One transfer: it takes the next outcome and fails if that says so. -/
def transfer : Prog σ Fault Unit := do
  let b ← Prog.gets bus.get
  match b.faults with
  | [] => pure ()
  | fails :: rest => do
      Prog.modify (bus.update fun b => { b with faults := rest })
      if fails then Prog.raise (.errno .eio) else pure ()

/-- Write bytes at consecutive registers in one transfer.  A transfer that
fails leaves the registers as they were. -/
def busWrite (a : ℕ) (bytes : List (BitVec 8)) : Prog σ Fault Unit := do
  transfer bus
  Prog.modify (bus.update fun b => b.store a bytes)

/-- Read one register. -/
def busRead (a : ℕ) : Prog σ Fault (BitVec 8) := do
  transfer bus
  Prog.gets fun s => (bus.get s).regs a

variable {bus}

theorem transfer_ok {s : σ} (h : (bus.get s).faults = []) :
    transfer bus s = (.ok (), s) := by
  unfold transfer
  rw [Prog.bind_ok (Prog.gets_apply bus.get s), h]
  rfl

theorem transfer_error {s : σ} {rest : List Bool}
    (h : (bus.get s).faults = true :: rest) :
    transfer bus s = (.error (.errno .eio),
      bus.update (fun b => { b with faults := rest }) s) := by
  unfold transfer
  rw [Prog.bind_ok (Prog.gets_apply bus.get s), h]
  rfl

theorem transfer_next {s : σ} {rest : List Bool}
    (h : (bus.get s).faults = false :: rest) :
    transfer bus s =
      (.ok (), bus.update (fun b => { b with faults := rest }) s) := by
  unfold transfer
  rw [Prog.bind_ok (Prog.gets_apply bus.get s), h]
  rfl

theorem busWrite_ok {s : σ} (h : (bus.get s).faults = []) (a : ℕ)
    (bytes : List (BitVec 8)) :
    busWrite bus a bytes s =
      (.ok (), bus.set s ((bus.get s).store a bytes)) := by
  unfold busWrite
  rw [Prog.bind_ok (transfer_ok h)]
  rfl

theorem pmRuntimeGetIfInUse_of_inUse (pm : Field σ RuntimePm) {s : σ}
    (h : (pm.get s).InUse) :
    pmRuntimeGetIfInUse pm s = (.ok true, pm.update RuntimePm.get s) := by
  unfold pmRuntimeGetIfInUse
  rw [Prog.bind_ok (Prog.gets_apply _ s), if_pos h]
  rfl

theorem pmRuntimeGetIfInUse_of_not (pm : Field σ RuntimePm) {s : σ}
    (h : ¬ (pm.get s).InUse) : pmRuntimeGetIfInUse pm s = (.ok false, s) := by
  unfold pmRuntimeGetIfInUse
  rw [Prog.bind_ok (Prog.gets_apply _ s), if_neg h]
  rfl

theorem busRead_ok {s : σ} (h : (bus.get s).faults = []) (a : ℕ) :
    busRead bus a s = (.ok ((bus.get s).regs a), s) := by
  unfold busRead
  rw [Prog.bind_ok (transfer_ok h)]
  rfl

end Programs

end Kernel
end SurfaceCameras
