import SurfaceCameras.Kernel.Moves
import SurfaceCameras.Support.Runs

/-!
# Stream calls and the references they hold

The V4L2 core starts a sub-device that is stopped and stops one that is
started, and takes a stop for done even when it fails.  A driver balances its
references if a start that succeeds takes one, a stop drops it, and no other
call changes them; the usage count then says whether the device streams.
-/

namespace SurfaceCameras
namespace Kernel

open Prog Runs

/-! ## The references of a program -/

section Usage

variable {σ α : Type} {pm : Field σ RuntimePm}

theorem usage_of_stays {p : Prog σ Fault α}
    (hp : Stays (Frame.fixing pm.get) p) (u : ℕ) :
    Triple (fun s => (pm.get s).usage = u) p
      (fun _ s => (pm.get s).usage = u) (fun _ s => (pm.get s).usage = u) := by
  apply (hp.triple (P := fun s => (pm.get s).usage = u) ?_).consequence
    (fun _ hs => hs) (fun _ _ hs => hs) fun _ _ hs => hs.1
  intro s t hpm hs
  have hpm : pm.get t = pm.get s := hpm
  rw [hpm]
  exact hs

theorem pmRuntimePut_usage (u : ℕ) :
    Triple (fun s => (pm.get s).usage = u) (pmRuntimePut pm)
      (fun _ s => (pm.get s).usage = u - 1) (fun _ _ => False) := by
  apply Triple.modify
  intro s hs
  rw [Field.get_update, ← hs]
  rfl

theorem pmRuntimePutNoidle_usage (u : ℕ) :
    Triple (fun s => (pm.get s).usage = u) (pmRuntimePutNoidle pm)
      (fun _ s => (pm.get s).usage = u - 1) (fun _ _ => False) := by
  apply Triple.modify
  intro s hs
  rw [Field.get_update, ← hs]
  rfl

theorem usage_of_start {p : Prog σ Fault α}
    (hp : ∀ u, Triple (fun s => (pm.get s).usage = u) p
      (fun _ s => (pm.get s).usage = u + 1) (fun _ s => (pm.get s).usage = u))
    (s : σ) :
    (pm.get (p s).2).usage =
      (pm.get s).usage + if (p s).1.isOk then 1 else 0 := by
  have h := hp (pm.get s).usage s rfl
  revert h
  rcases p s with ⟨_ | _, t⟩
  · exact id
  · exact id

theorem usage_of_both {p : Prog σ Fault α} {f : ℕ → ℕ}
    (hp : ∀ u, Triple (fun s => (pm.get s).usage = u) p
      (fun _ s => (pm.get s).usage = f u) (fun _ s => (pm.get s).usage = f u))
    (s : σ) : (pm.get (p s).2).usage = f (pm.get s).usage :=
  (hp (pm.get s).usage).final rfl

end Usage

/-! ## Sessions -/

/-- A driver as the V4L2 core sees it: its calls, which of them are
`s_stream`, and whether a call returns no error. -/
structure StreamDriver (σ κ : Type) where
  step : σ → κ → σ
  stream : κ → Option Bool
  succeeds : σ → κ → Bool
  pm : Field σ RuntimePm

namespace StreamDriver

variable {σ κ : Type} (D : StreamDriver σ κ)

/-- The usage count of the device. -/
def usage (s : σ) : ℕ := (D.pm.get s).usage

/-- A state of the driver, and whether the core holds it to be streaming. -/
abbrev Session (_ : StreamDriver σ κ) : Type := σ × Bool

/-- What the core notes after a call. -/
def streaming (x : D.Session) (c : κ) : Bool :=
  match D.stream c with
  | some true => D.succeeds x.1 c
  | some false => false
  | none => x.2

/-- A call and what the core notes after it. -/
def sessionStep (x : D.Session) (c : κ) : D.Session :=
  (D.step x.1 c, D.streaming x c)

/-- A start is made of a stopped device, a stop of a streaming one. -/
def Alternates (x : D.Session) (c : κ) : Prop :=
  ∀ enable, D.stream c = some enable → enable = !x.2

/-- The references a call takes and drops. -/
structure Balances : Prop where
  start : ∀ s c, D.stream c = some true →
    D.usage (D.step s c) = D.usage s + if D.succeeds s c then 1 else 0
  stop : ∀ s c, D.stream c = some false →
    D.usage (D.step s c) = D.usage s - 1
  other : ∀ s c, D.stream c = none → D.usage (D.step s c) = D.usage s

/-- The usage count is `base`, and one more while the device streams. -/
def Holds (base : ℕ) (x : D.Session) : Prop :=
  D.usage x.1 = base + if x.2 then 1 else 0

/-- A call that is not `s_stream` leaves the count as it is. -/
def LeavesUsage (x : D.Session) (c : κ) : Prop :=
  D.stream c = none → D.usage (D.step x.1 c) = D.usage x.1

/-- From a stopped device on, every state of the run has the count it started
with, one more while the device streams, and the other calls leave it. -/
def CountsStreams (s : σ) (calls : List κ) : Prop :=
  Throughout D.sessionStep (D.Holds (D.usage s)) (s, false) calls ∧
    Along D.sessionStep D.LeavesUsage (s, false) calls

variable {D}

/-- One call keeps the count. -/
theorem Balances.step_holds (hD : D.Balances) {base : ℕ} {x : D.Session}
    {c : κ} (hx : D.Holds base x) (hc : D.Alternates x c) :
    D.Holds base (D.sessionStep x c) := by
  obtain ⟨s, on⟩ := x
  have hx : D.usage s = base + if on then 1 else 0 := hx
  change D.usage (D.step s c) = base + if D.streaming (s, on) c then 1 else 0
  unfold streaming
  match hstream : D.stream c with
  | some true =>
      have hon : on = false := by
        have halt : true = !on := hc true hstream
        simpa using halt
      rw [hD.start s c hstream, hx, hon]
      rfl
  | some false =>
      have hon : on = true := by
        have halt : false = !on := hc false hstream
        simpa using halt
      rw [hD.stop s c hstream, hx, hon]
      rfl
  | none =>
      rw [hD.other s c hstream, hx]

/-- In a run whose starts and stops alternate, the device is held once while it
streams and not otherwise, and no other call changes the count. -/
theorem Balances.countsStreams (hD : D.Balances) {s : σ} {calls : List κ}
    (hcalls : Along D.sessionStep D.Alternates (s, false) calls) :
    D.CountsStreams s calls := by
  constructor
  · have hstart : D.Holds (D.usage s) (s, false) := rfl
    exact throughout_invariant (fun x c hx hc => hD.step_holds hx hc) hstart
      hcalls
  · apply along_of_every
    exact fun x c hc => hD.other x.1 c hc

end StreamDriver

end Kernel
end SurfaceCameras
