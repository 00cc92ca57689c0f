import Mathlib.Tactic.Common
import Mathlib.Data.Nat.Notation

/-!
# Runs of a deterministic transition function

A run is a list of calls made one after the other; the nondeterminism of an
environment is in the choice of the list.  The file names the two ways a
property is read along a run, of every state and of every call in the state
it is made in, and gives the induction that leads from one step to the run.
-/

namespace SurfaceCameras
namespace Runs

variable {σ α : Type} (step : σ → α → σ)

/-- The state after a list of calls. -/
def run (s : σ) (calls : List α) : σ := calls.foldl step s

/-- `P` holds of every call of the run, in the state in which it is made. -/
def Along (P : σ → α → Prop) : σ → List α → Prop
  | _, [] => True
  | s, c :: cs => P s c ∧ Along P (step s c) cs

/-- `P` holds of every state of the run, the first and the last included. -/
def Throughout (P : σ → Prop) : σ → List α → Prop
  | s, [] => P s
  | s, c :: cs => P s ∧ Throughout P (step s c) cs

variable {step}

@[simp] theorem run_nil (s : σ) : run step s [] = s := rfl

@[simp] theorem run_cons (s : σ) (c : α) (cs : List α) :
    run step s (c :: cs) = run step (step s c) cs := rfl

/-- A property of every state of a run is one of its first state. -/
theorem Throughout.first {P : σ → Prop} {s : σ} {cs : List α}
    (h : Throughout step P s cs) : P s := by
  cases cs with
  | nil => exact h
  | cons c cs => exact h.1

/-- A property of every state of a run is one of its last state. -/
theorem Throughout.last {P : σ → Prop} {s : σ} {cs : List α}
    (h : Throughout step P s cs) : P (run step s cs) := by
  induction cs generalizing s with
  | nil => exact h
  | cons c cs ih => exact ih h.2

theorem Throughout.mono {P Q : σ → Prop} {s : σ} {cs : List α}
    (h : Throughout step P s cs) (hPQ : ∀ s, P s → Q s) :
    Throughout step Q s cs := by
  induction cs generalizing s with
  | nil => exact hPQ s h
  | cons c cs ih => exact ⟨hPQ s h.1, ih h.2⟩

/-- An invariant of the admitted calls holds in the last state of a run. -/
theorem run_invariant {I : σ → Prop} {cond : σ → α → Prop}
    (hstep : ∀ s c, I s → cond s c → I (step s c))
    {s : σ} {cs : List α} (hs : I s) (hc : Along step cond s cs) :
    I (run step s cs) := by
  induction cs generalizing s with
  | nil => exact hs
  | cons c cs ih => exact ih (hstep s c hs hc.1) hc.2

/-- An invariant of the admitted calls holds in every state of a run. -/
theorem throughout_invariant {I : σ → Prop} {cond : σ → α → Prop}
    (hstep : ∀ s c, I s → cond s c → I (step s c))
    {s : σ} {cs : List α} (hs : I s) (hc : Along step cond s cs) :
    Throughout step I s cs := by
  induction cs generalizing s with
  | nil => exact hs
  | cons c cs ih => exact ⟨hs, ih (hstep s c hs hc.1) hc.2⟩

/-- An invariant of every call holds in the last state of every run. -/
theorem run_induction {I : σ → Prop}
    (hstep : ∀ s c, I s → I (step s c)) {s : σ} (hs : I s)
    (cs : List α) : I (run step s cs) := by
  induction cs generalizing s with
  | nil => exact hs
  | cons c cs ih => exact ih (hstep s c hs)

/-- An invariant of the steps that stay in `P` holds in the last state of a run
that stays there. -/
theorem Throughout.invariant {I P : σ → Prop}
    (hstep : ∀ s c, I s → P s → P (step s c) → I (step s c)) {s : σ}
    {cs : List α} (hs : I s) (h : Throughout step P s cs) :
    I (run step s cs) := by
  induction cs generalizing s with
  | nil => exact hs
  | cons c cs ih => exact ih (hstep s c hs h.1 h.2.first) h.2

/-- A view of the states that follows every step follows the run. -/
theorem run_map {τ : Type} {step' : τ → α → τ} {f : τ → σ}
    (h : ∀ t c, f (step' t c) = step (f t) c) (t : τ) (cs : List α) :
    f (run step' t cs) = run step (f t) cs := by
  induction cs generalizing t with
  | nil => rfl
  | cons c cs ih => rw [run_cons, run_cons, ih, h]

/-- Where `cond` says exactly when one of the admitted calls keeps `P`, it says
exactly when a run of admitted calls keeps it. -/
theorem throughout_iff_along_of {I P : σ → Prop} {A cond : σ → α → Prop}
    (hinv : ∀ s c, I s → P s → A s c → I (step s c))
    (hstep : ∀ s c, I s → P s → A s c → (P (step s c) ↔ cond s c))
    {s : σ} {cs : List α} (hi : I s) (hp : P s)
    (hadm : Along step A s cs) :
    Throughout step P s cs ↔ Along step cond s cs := by
  induction cs generalizing s with
  | nil => simp [Throughout, Along, hp]
  | cons c cs ih =>
      have hone := hstep s c hi hp hadm.1
      have hi' := hinv s c hi hp hadm.1
      constructor
      · rintro ⟨_, hrest⟩
        have hp' : P (step s c) := hrest.first
        exact ⟨hone.mp hp', (ih hi' hp' hadm.2).mp hrest⟩
      · rintro ⟨hc, hrest⟩
        have hp' := hone.mpr hc
        exact ⟨hp, (ih hi' hp' hadm.2).mpr hrest⟩

/-- A property of calls alone holds along a run exactly if it holds of each
call of the list. -/
theorem along_forall_iff {P : α → Prop} (s : σ) (cs : List α) :
    Along step (fun _ c => P c) s cs ↔ ∀ c ∈ cs, P c := by
  induction cs generalizing s with
  | nil => simp [Along]
  | cons c cs ih => simp only [Along, List.forall_mem_cons, ih]

/-- A property of every call of the list holds along the run. -/
theorem along_of_forall {P : α → Prop} {cs : List α} (h : ∀ c ∈ cs, P c)
    (s : σ) : Along step (fun _ c => P c) s cs :=
  (along_forall_iff s cs).mpr h

/-- What holds of every call in every state holds along every run. -/
theorem along_of_every {P : σ → α → Prop} (h : ∀ s c, P s c) (s : σ)
    (cs : List α) : Along step P s cs := by
  induction cs generalizing s with
  | nil => trivial
  | cons c cs ih => exact ⟨h s c, ih (step s c)⟩

/-- Under an invariant that the calls with `P` keep, where `cond` says exactly
when one of the admitted calls has `P`, it says exactly when all calls of an
admitted run have it. -/
theorem along_iff_along_of {I : σ → Prop} {A P cond : σ → α → Prop}
    (hinv : ∀ s c, I s → A s c → P s c → I (step s c))
    (hP : ∀ s c, I s → A s c → (P s c ↔ cond s c))
    {s : σ} {cs : List α} (hs : I s) (hadm : Along step A s cs) :
    Along step P s cs ↔ Along step cond s cs := by
  induction cs generalizing s with
  | nil => exact Iff.rfl
  | cons c cs ih =>
      have hone := hP s c hs hadm.1
      constructor
      · rintro ⟨hp, hrest⟩
        have hs' := hinv s c hs hadm.1 hp
        exact ⟨hone.mp hp, (ih hs' hadm.2).mp hrest⟩
      · rintro ⟨hc, hrest⟩
        have hs' := hinv s c hs hadm.1 (hone.mpr hc)
        exact ⟨hone.mpr hc, (ih hs' hadm.2).mpr hrest⟩

/-- Where `cond` says exactly when one call keeps `P`, it says exactly when a
run keeps it. -/
theorem throughout_iff_along {I P : σ → Prop} {cond : σ → α → Prop}
    (hinv : ∀ s c, I s → P s → I (step s c))
    (hstep : ∀ s c, I s → P s → (P (step s c) ↔ cond s c))
    {s : σ} {cs : List α} (hi : I s) (hp : P s) :
    Throughout step P s cs ↔ Along step cond s cs :=
  throughout_iff_along_of (fun s c hi hp _ => hinv s c hi hp)
    (fun s c hi hp _ => hstep s c hi hp) hi hp
    (along_of_forall (P := fun _ => True) (fun _ _ => trivial) s)

end Runs
end SurfaceCameras
