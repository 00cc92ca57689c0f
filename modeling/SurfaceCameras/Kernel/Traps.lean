import SurfaceCameras.Kernel.Moves
import SurfaceCameras.Kernel.Sensor

/-!
# Operations that do not trap

The kernel operations divide by nothing.  Whatever the transfers do, they fail
by an error code, and a caller that drops error codes goes on after them.
-/

namespace SurfaceCameras
namespace Kernel

open Prog

variable {σ : Type}

/-- The program does not divide by zero. -/
abbrev Untrapped {α : Type} (p : Prog σ Fault α) : Prop :=
  Keeps (Frame.invariant fun _ => True) (fun e => e ≠ .divideError) p

namespace Untrapped

theorem modify (f : σ → σ) : Untrapped (Prog.modify f : Prog σ Fault Unit) :=
  Keeps.modify fun _ => id

theorem errno {α : Type} (e : Errno) :
    Untrapped (Prog.raise (.errno e) : Prog σ Fault α) :=
  Keeps.raise (by simp)

theorem transfer (bus : Field σ Bus) : Untrapped (Kernel.transfer bus) := by
  refine (Keeps.gets _).bind fun b => ?_
  split
  · exact Keeps.pure ()
  · exact (modify _).bind fun _ => Keeps.ite (errno _) (Keeps.pure ())

theorem busWrite (bus : Field σ Bus) (a : ℕ) (bytes : List (BitVec 8)) :
    Untrapped (Kernel.busWrite bus a bytes) :=
  (transfer bus).bind fun _ => modify _

theorem busRead (bus : Field σ Bus) (a : ℕ) :
    Untrapped (Kernel.busRead bus a) :=
  (transfer bus).bind fun _ => Keeps.gets _

section Controls

variable (c : Field σ Ctrl) {cb : Prog σ Fault Unit} (hcb : Untrapped cb)
include hcb

theorem setCtrl : Untrapped (Kernel.setCtrl c cb) := by
  refine (modify _).bind fun _ => (Keeps.gets _).bind fun new => ?_
  exact Keeps.ite (Keeps.pure ()) (hcb.bind fun _ => modify _)

theorem v4l2CtrlSCtrl (v : ℤ) : Untrapped (Kernel.v4l2CtrlSCtrl c cb v) :=
  (modify _).bind fun _ => setCtrl c hcb

theorem v4l2CtrlModifyRange (lo hi : ℤ) (st : ℕ) (dflt : ℤ) :
    Untrapped (Kernel.v4l2CtrlModifyRange c cb lo hi st dflt) :=
  Keeps.ite ((modify _).bind fun _ => setCtrl c hcb) (errno _)

end Controls

/-- What is done under a reference of its own, if the device is in use. -/
theorem held (pm : Field σ RuntimePm) {τ : Type} (g : σ → τ)
    {w : τ → Prog σ Fault Unit} (hw : ∀ x, Untrapped (w x)) :
    Untrapped (do
      let inUse ← pmRuntimeGetIfInUse pm
      if inUse then do
        let x ← Prog.gets g
        Prog.tryFinally (fun _ => false) (w x) (pmRuntimePut pm)
      else
        pure ()) := by
  refine Keeps.bind ?_ fun inUse => ?_
  · refine (Keeps.gets _).bind fun p => ?_
    exact Keeps.ite ((modify _).bind fun _ => Keeps.pure _) (Keeps.pure _)
  · refine Keeps.ite ((Keeps.gets _).bind fun x => ?_) (Keeps.pure ())
    exact (hw x).tryFinally (modify _)

end Untrapped

/-- The program returns from every state. -/
def Total (p : Prog σ Fault Unit) : Prop := ∀ s, ∃ s', p s = (.ok (), s')

theorem Total.bind {p : Prog σ Fault Unit} {f : Unit → Prog σ Fault Unit}
    (hp : Total p) (hf : Total (f ())) : Total (p >>= f) := by
  intro s
  obtain ⟨s₁, hrun⟩ := hp s
  rw [bind_ok hrun]
  exact hf s₁

theorem Total.gets_bind {τ : Type} {g : σ → τ} {f : τ → Prog σ Fault Unit}
    (hf : ∀ x, Total (f x)) : Total (Prog.gets g >>= f) :=
  fun s => hf (g s) s

theorem Total.untrapped {p : Prog σ Fault Unit} (hp : Total p) :
    Untrapped p := by
  intro s₀ s _
  obtain ⟨s', hrun⟩ := hp s
  rw [hrun]
  exact fun _ => trivial

theorem Untrapped.ignoreErrno {δ : Type} {p : Prog (Machine δ) Fault Unit}
    (hp : Untrapped p) : Total (Kernel.ignoreErrno p) := by
  intro s
  have h := hp s s id
  unfold Kernel.ignoreErrno Prog.tryCatch
  revert h
  rcases p s with ⟨e | u, s'⟩
  · intro h
    cases e with
    | errno => exact ⟨s', rfl⟩
    | divideError => exact absurd rfl h.2
  · exact fun _ => ⟨s', rfl⟩

end Kernel
end SurfaceCameras
