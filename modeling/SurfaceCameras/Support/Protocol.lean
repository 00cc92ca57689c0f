import Mathlib.Tactic.Common
import Mathlib.Data.Nat.Notation

/-!
# Trails through a protocol

A protocol is a relation between phases, labelled with what is seen of a step.
A program that leaves marks follows it if the marks it has left lead from the
first phase to the one it has come to; every property of trails then holds of
the marks of the program.
-/

namespace SurfaceCameras
namespace Protocol

variable {φ μ : Type}

/-- The marks on a way from `start` to a phase, latest first. -/
inductive Trail (step : φ → μ → φ → Prop) (start : φ) : List μ → φ → Prop
  | here : Trail step start [] start
  | next {marks : List μ} {p p' : φ} {x : μ} :
      Trail step start marks p → step p x p' → Trail step start (x :: marks) p'

variable {step : φ → μ → φ → Prop} {start p p' : φ} {marks : List μ}

/-- An invariant of the steps holds along every trail.  A step may use what is
known already of the trail before it. -/
theorem Trail.invariant {I : List μ → φ → Prop} (hstart : I [] start)
    (hstep : ∀ marks p x p', Trail step start marks p → I marks p →
      step p x p' → I (x :: marks) p')
    (h : Trail step start marks p) : I marks p := by
  induction h with
  | here => exact hstart
  | next htrail hx ih => exact hstep _ _ _ _ htrail ih hx

/-- A mark on a trail was left by a step. -/
theorem Trail.split {newer older : List μ} {x : μ}
    (h : Trail step start (newer ++ x :: older) p) :
    ∃ q q', Trail step start older q ∧ step q x q' := by
  induction newer generalizing p with
  | nil =>
      cases h with
      | next htrail hstep => exact ⟨_, _, htrail, hstep⟩
  | cons y newer ih =>
      cases h with
      | next htrail _ => exact ih htrail

end Protocol
end SurfaceCameras
