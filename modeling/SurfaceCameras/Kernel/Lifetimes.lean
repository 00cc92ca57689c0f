import SurfaceCameras.Kernel.Device
import SurfaceCameras.Support.Runs

/-!
# Lives of a driver

The driver core binds a driver to a device by its probe and unbinds it by its
remove, as often as it likes, and calls it only in between.  What a probe that
fails or a remove leaves behind is what the next probe starts from; so a leak
that no single life shows adds up over several.
-/

namespace SurfaceCameras
namespace Kernel

open Runs

/-- A driver as the driver core sees it: how it is bound, with the answers
that it gets then, its calls, and how it is unbound. -/
structure BoundDriver (σ π κ : Type) where
  probe : σ → π → Except Fault Unit × σ
  call : σ → κ → σ
  remove : σ → σ

/-- What happens to a device. -/
inductive LifeCall (π κ : Type) where
  | probe (p : π)
  | call (c : κ)
  | remove

namespace BoundDriver

variable {σ π κ : Type} (D : BoundDriver σ π κ)

/-- The state of a device, and whether the driver is bound to it. -/
abbrev Life (_ : BoundDriver σ π κ) : Type := σ × Bool

/-- The driver core probes a device to which no driver is bound; it calls the
driver and removes it where it is bound. -/
def lifeStep (x : D.Life) : LifeCall π κ → D.Life
  | .probe p =>
      if x.2 then x else ((D.probe x.1 p).2, (D.probe x.1 p).1.isOk)
  | .call c => if x.2 then (D.call x.1 c, true) else x
  | .remove => if x.2 then (D.remove x.1, false) else x

/-- The device is in order: `Bound` while a driver is bound to it, and `Idle`
while none is. -/
def InOrder (Idle Bound : σ → Prop) (x : D.Life) : Prop :=
  if x.2 then Bound x.1 else Idle x.1

/-- A probe or a call of the run that is made meets its condition. -/
def Admitted (probes : σ → π → Prop) (calls : σ → κ → Prop) (x : D.Life) :
    LifeCall π κ → Prop
  | .probe p => x.2 = false → probes x.1 p
  | .call c => x.2 = true → calls x.1 c
  | .remove => True

variable {D} {Idle Bound : σ → Prop} {probes : σ → π → Prop}
  {calls : σ → κ → Prop}

/-- A probe leaves the device in order. -/
def ProbeInOrder (Idle Bound : σ → Prop) : Except Fault Unit × σ → Prop
  | (.ok _, t) => Bound t
  | (.error _, t) => Idle t

theorem inOrder_probe (r : Except Fault Unit × σ) :
    D.InOrder Idle Bound (r.2, r.1.isOk) ↔ ProbeInOrder Idle Bound r := by
  rcases r with ⟨_ | _, t⟩
  · exact Iff.rfl
  · exact Iff.rfl

/-- One event, given when a probe and a call leave the device in order and that
a remove does. -/
theorem inOrder_step
    (hprobe : ∀ s p, Idle s →
      (ProbeInOrder Idle Bound (D.probe s p) ↔ probes s p))
    (hcall : ∀ s c, Bound s → (Bound (D.call s c) ↔ calls s c))
    (hremove : ∀ s, Bound s → Idle (D.remove s)) {x : D.Life}
    (hx : D.InOrder Idle Bound x) (c : LifeCall π κ) :
    D.InOrder Idle Bound (D.lifeStep x c) ↔ D.Admitted probes calls x c := by
  obtain ⟨s, bound⟩ := x
  cases c with
  | probe p =>
      cases bound with
      | true => exact iff_of_true hx fun hno => by cases hno
      | false =>
          refine (inOrder_probe (D.probe s p)).trans ?_
          exact (hprobe s p hx).trans ⟨fun h _ => h, fun h => h rfl⟩
  | call c =>
      cases bound with
      | true => exact (hcall s c hx).trans ⟨fun h _ => h, fun h => h rfl⟩
      | false => exact iff_of_true hx fun hno => by cases hno
  | remove =>
      cases bound with
      | true => exact iff_of_true (hremove s hx) trivial
      | false => exact iff_of_true hx trivial

/-- Over any number of lives, the device is in order throughout exactly if
every probe and every call leaves it so. -/
theorem inOrder_iff
    (hprobe : ∀ s p, Idle s →
      (ProbeInOrder Idle Bound (D.probe s p) ↔ probes s p))
    (hcall : ∀ s c, Bound s → (Bound (D.call s c) ↔ calls s c))
    (hremove : ∀ s, Bound s → Idle (D.remove s)) {s : σ} (hs : Idle s)
    (events : List (LifeCall π κ)) :
    Throughout D.lifeStep (D.InOrder Idle Bound) (s, false) events ↔
      Along D.lifeStep (D.Admitted probes calls) (s, false) events := by
  apply throughout_iff_along (I := fun _ => True)
  · exact fun _ _ _ _ => trivial
  · exact fun x c _ hx => inOrder_step hprobe hcall hremove hx c
  · trivial
  · exact hs

end BoundDriver

/-! ## A device and what is set up for it -/

/-- A device, and what a probe has set up beside it. -/
structure Attached (σ η : Type) where
  dev : σ
  held : η

namespace Attached

open Prog

variable {σ η α : Type}

/-- A step on the device. -/
def onDevice (p : Prog σ Fault α) : Prog (Attached σ η) Fault α :=
  fun s => ((p s.dev).1, { s with dev := (p s.dev).2 })

/-- Set something up or take it down. -/
def hold (f : η → η) : Prog (Attached σ η) Fault Unit :=
  Prog.modify fun s => { s with held := f s.held }

/-- What is known of the device and what is set up. -/
def During (P : σ → Prop) (h : η) (s : Attached σ η) : Prop :=
  P s.dev ∧ s.held = h

variable {h : η}

theorem onDevice_during {P : σ → Prop} {p : Prog σ Fault α}
    {Q : α → σ → Prop} {E : Fault → σ → Prop} (hp : Triple P p Q E) :
    Triple (During P h) (onDevice p) (fun a => During (Q a) h)
      (fun e => During (E e) h) := by
  rintro s ⟨hs, rfl⟩
  have hrun := hp s.dev hs
  unfold onDevice
  revert hrun
  rcases p s.dev with ⟨_ | _, d⟩
  · exact fun hrun => ⟨hrun, rfl⟩
  · exact fun hrun => ⟨hrun, rfl⟩

theorem onDevice_keeps {P : σ → Prop} {p : Prog σ Fault α}
    (hp : Triple P p (fun _ => P) (fun _ => P)) :
    Triple (During P h) (onDevice p) (fun _ => During P h)
      (fun _ => During P h) :=
  onDevice_during hp

theorem hold_during {P : σ → Prop} {f : η → η}
    {E : Fault → Attached σ η → Prop} :
    Triple (During P h) (hold f) (fun _ => During P (f h)) E := by
  rintro s ⟨hs, rfl⟩
  exact ⟨hs, rfl⟩

end Attached

end Kernel
end SurfaceCameras
