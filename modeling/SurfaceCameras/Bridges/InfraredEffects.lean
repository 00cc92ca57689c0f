import SurfaceCameras.Bridges.Infrared

/-!
# What the operations of the infrared bridge leave alone

Most operations neither open nor close a capture, write nothing and leave no
mark; they only tune the sensor or their own buffers.  What a session does
besides leaves marks of its own, but none about the waiting of the daemon.
-/

namespace SurfaceCameras
namespace Bridges
namespace Infrared

open Prog

/-- Every exception but the one that `start_capture` never raises. -/
def Expected (e : Exc Failure) : Prop := e ≠ .own .typeError

theorem expected_of_foreign (e : Exc Failure) (he : e.Foreign) :
    Expected e := by
  rintro rfl
  exact he

/-- What tuning the sensor keeps of the plant. -/
def Plant.kept (d : Plant) : ℕ × List ℕ × List Yuyv :=
  (d.opened, d.openCaps, d.loopback)

/-- The frame allows to tune the sensor. -/
structure Tunes (F : Frame State) : Prop extends Idles F where
  tune : ∀ (w : State) (f : Plant → Plant),
    (∀ d, (f d).kept = d.kept) → F.Rel w { w with dev := f w.dev }

/-- A mark of a session. -/
def Mark.OfSession : Mark → Prop
  | .blocked _ | .ended _ _ _ => False
  | _ => True

/-- The frame allows everything that a session does, other than to poll the
clients. -/
structure Works (F : Frame State) : Prop extends Idles F where
  plant : ∀ (w : State) (f : Plant → Plant), F.Rel w { w with dev := f w.dev }
  mark : ∀ (w : State) (x : Mark), x.OfSession → F.Rel w (w.mark x)

theorem Works.tunes {F : Frame State} (hF : Works F) : Tunes F :=
  ⟨hF.toIdles, fun w f _ => hF.plant w f⟩

section Tuning

variable {α : Type} {F : Frame State} {R : Exc Failure → Prop}
  (hR : ∀ e, Expected e → R e)
include hR

theorem foreign_of_expected (e : Exc Failure) (he : e.Foreign) : R e :=
  hR e (expected_of_foreign e he)

theorem call_keeps (hF : Idles F) {f : Moment Happening → BridgeM α}
    (hf : ∀ m, Keeps F R (f m)) : Keeps F R (syscall f) :=
  syscall_keeps (foreign_of_expected hR) hF hf

theorem report_keeps (hF : Idles F) : Keeps F R (log : BridgeM Unit) :=
  log_keeps (foreign_of_expected hR) hF

theorem clock_keeps (hF : Idles F) :
    Keeps F R (monotonic : BridgeM Instant) :=
  monotonic_keeps (foreign_of_expected hR) hF

theorem required_keeps (hF : Idles F) (e : Failure) (he : e ≠ .typeError)
    (a : Option α) : Keeps F R (required e a) := by
  cases a with
  | none =>
      apply raiseMarked_keeps hF
      apply hR
      rintro ⟨⟩
      exact he rfl
  | some a => exact Keeps.pure a

theorem setupGraph_keeps (hF : Idles F) : Keeps F R setupGraph := by
  have hctl : Keeps F R mediaCtl := call_keeps hR hF fun _ => Keeps.pure ()
  apply (call_keeps hR hF fun _ => Keeps.pure _).bind
  intro graph
  apply (required_keeps hR hF _ (by decide) _).bind
  intro _
  apply (required_keeps hR hF _ (by decide) _).bind
  intro _
  apply (call_keeps hR hF fun _ => Keeps.pure _).bind
  intro found
  apply (required_keeps hR hF _ (by decide) _).bind
  intro node
  apply hctl.bind
  intro _
  apply hctl.bind
  intro _
  apply hctl.bind
  intro _
  exact hctl.bind fun _ => Keeps.pure node

theorem closeMap_keeps (hF : Idles F) (cap index : ℕ) :
    Keeps F R (closeMap cap index) := by
  apply atMoment_keeps (foreign_of_expected hR) hF
  intro _
  apply (Keeps.gets _).bind
  intro exported
  apply Keeps.when
  apply raiseMarked_keeps hF
  apply hR
  rintro ⟨⟩

theorem noteCount_keeps (hF : Idles F) (goneSince : Option Instant)
    (count : Option (BitVec 32)) :
    Keeps F R (noteCount goneSince count) := by
  cases count with
  | none => exact Keeps.pure _
  | some count =>
      exact Keeps.ite (Keeps.pure _)
        ((clock_keeps hR hF).bind fun now => Keeps.pure _)

theorem graceOver_keeps (hF : Idles F) (goneSince : Option Instant) :
    Keeps F R (graceOver goneSince) := by
  cases goneSince with
  | none => exact Keeps.pure _
  | some since => exact (clock_keeps hR hF).bind fun now => Keeps.pure _

omit hR in
theorem onPlant_keeps (hF : Tunes F) {f : Plant → Plant}
    (hf : ∀ d, (f d).kept = d.kept) : Keeps F R (onPlant f) :=
  Keeps.modify fun w => hF.tune w f hf

theorem setVblank_keeps (hF : Tunes F) (vblank : ℤ) :
    Keeps F R (setVblank vblank) :=
  call_keeps hR hF.toIdles fun _ => onPlant_keeps hF fun _ => rfl

theorem setCtrls_keeps (hF : Tunes F) (debug : Bool) (exposure gain : ℤ) :
    Keeps F R (setCtrls debug exposure gain) := by
  apply Keeps.bind
  · exact call_keeps hR hF.toIdles fun _ => onPlant_keeps hF fun _ => rfl
  · exact fun _ => Keeps.when (report_keeps hR hF.toIdles)

theorem setupCapture_keeps (hF : Tunes F) : Keeps F R setupCapture := by
  have hnone : Keeps F R (syscall fun _ => pure () : BridgeM Unit) :=
    call_keeps hR hF.toIdles fun _ => Keeps.pure ()
  have hbuffer : ∀ i, Keeps F R (mapBuffer i) := by
    intro i
    apply hnone.bind
    intro _
    apply Keeps.bind
    · exact call_keeps hR hF.toIdles fun _ => onPlant_keeps hF fun _ => rfl
    · exact fun _ => hnone
  apply hnone.bind
  intro _
  apply (call_keeps hR hF.toIdles fun _ => Keeps.pure _).bind
  intro count
  exact (Keeps.forEach _ fun i _ => hbuffer i).bind fun _ => hnone

theorem adjustExposure_keeps (hF : Tunes F) (t : SensorTiming) (debug : Bool)
    (exposureMax : ℤ) (img : Image) (ae : Ae) :
    Keeps F R (adjustExposure t debug exposureMax img ae) := by
  apply (clock_keeps hR hF.toIdles).bind
  intro now
  apply Keeps.bind
  · apply Keeps.when
    apply (Keeps.when (report_keeps hR hF.toIdles)).bind
    exact fun _ => Keeps.when (setCtrls_keeps hR hF debug _ _)
  · exact fun _ => Keeps.pure _

end Tuning

/-! ## Captures and sessions -/

section Working

variable {F : Frame State} {R : Exc Failure → Prop}
  (hR : ∀ e, Expected e → R e) (hF : Works F)
include hF

theorem mark_keeps {x : Mark} (hx : x.OfSession) : Keeps F R (mark x) :=
  Keeps.modify fun w => hF.mark w x hx

theorem plant_keeps (f : Plant → Plant) : Keeps F R (onPlant f) :=
  Keeps.modify fun w => hF.plant w f

theorem uncovered_keeps {α : Type} (cap : ℕ) {p : BridgeM α}
    (hp : Keeps F R p) : Keeps F R (uncovered cap p) := by
  apply Keeps.tryCatch hp
  intro e he
  apply (Keeps.when (mark_keeps hF (by trivial))).bind
  exact fun _ => Keeps.raise he

include hR

theorem openNode_keeps : Keeps F R openNode := by
  apply call_keeps hR hF.toIdles
  intro _
  apply (Keeps.gets _).bind
  intro cap
  apply (plant_keeps hF _).bind
  intro _
  exact (mark_keeps hF (by trivial)).bind fun _ => Keeps.pure cap

theorem close_keeps (cap : ℕ) : Keeps F R (close cap) := by
  have hoff : Keeps F R (streamOff cap) :=
    tryCall_keeps (foreign_of_expected hR) hF.toIdles
      (fun _ => mark_keeps hF (by trivial)) fun _ => mark_keeps hF (by trivial)
  have hclose : Keeps F R (closeNode cap) := by
    apply call_keeps hR hF.toIdles
    intro _
    exact (plant_keeps hF _).bind fun _ => mark_keeps hF (by trivial)
  apply (Keeps.gets _).bind
  intro isOpen
  apply Keeps.when
  apply uncovered_keeps hF
  apply hoff.bind
  intro _
  apply (Keeps.gets _).bind
  intro maps
  apply (Keeps.forEach _ fun i _ => closeMap_keeps hR hF.toIdles cap i).bind
  intro _
  exact (plant_keeps hF _).bind fun _ => hclose

theorem newCapture_keeps : Keeps F R newCapture := by
  apply (openNode_keeps hR hF).bind
  intro cap
  apply Keeps.bind
  · apply uncovered_keeps hF
    exact atMoment_keeps (foreign_of_expected hR) hF.toIdles fun _ =>
      plant_keeps hF _
  intro _
  apply Keeps.bind
  · apply Keeps.tryCatch (setupCapture_keeps hR hF.tunes)
    intro e he
    exact (close_keeps hR hF cap).bind fun _ => Keeps.raise he
  · exact fun _ => Keeps.pure cap

theorem frame_keeps (cap : ℕ) : Keeps F R (frame cap) := by
  have hdequeue : Keeps F R (dequeue cap) := by
    apply call_keeps hR hF.toIdles
    intro m
    apply (plant_keeps hF _).bind
    intro _
    exact (mark_keeps hF (by trivial)).bind fun _ => Keeps.pure _
  apply (call_keeps hR hF.toIdles fun _ => Keeps.pure _).bind
  intro ready
  apply Keeps.ite
  · apply hdequeue.bind
    intro shot
    apply (call_keeps hR hF.toIdles fun _ => plant_keeps hF _).bind
    exact fun _ => Keeps.pure _
  · exact (mark_keeps hF (by trivial)).bind fun _ => Keeps.pure none

theorem probeFrames_keeps (cap n : ℕ) : Keeps F R (probeFrames cap n) := by
  induction n with
  | zero => exact Keeps.pure []
  | succ n ih =>
      apply (frame_keeps hR hF cap).bind
      intro shot
      cases shot with
      | none => exact Keeps.pure []
      | some s => exact ih.bind fun _ => Keeps.pure _

theorem startFrom_keeps (hlast : R (.own .typeError)) (t : SensorTiming)
    (debug : Bool) (exposure gain : ℤ) (todo : List (ℤ × ℤ)) (restarts : ℕ) :
    Keeps F R (startFrom t debug exposure gain todo restarts) := by
  have hidle := hF.toIdles
  have hreport : ∀ cap, Keeps F R (uncovered cap log : BridgeM Unit) :=
    fun cap => uncovered_keeps hF cap (report_keeps hR hidle)
  induction todo generalizing restarts with
  | nil => exact Keeps.raise hlast
  | cons attempt rest ih =>
      apply (mark_keeps hF (by trivial)).bind
      intro _
      apply (setupGraph_keeps hR hidle).bind
      intro _
      apply (setVblank_keeps hR hF.tunes _).bind
      intro _
      apply (setCtrls_keeps hR hF.tunes debug _ gain).bind
      intro _
      apply (newCapture_keeps hR hF).bind
      intro cap
      apply Keeps.ite
      · apply (hreport cap).bind
        intro _
        exact (mark_keeps hF (by trivial)).bind fun _ => Keeps.pure _
      apply Keeps.bind
      · apply uncovered_keeps hF
        exact (probeFrames_keeps hR hF cap _).bind fun _ => Keeps.pure _
      intro probed
      apply Keeps.ite
      · apply (Keeps.when (hreport cap)).bind
        intro _
        exact (mark_keeps hF (by trivial)).bind fun _ => Keeps.pure _
      · apply (hreport cap).bind
        intro _
        apply (close_keeps hR hF cap).bind
        intro _
        apply (sleep_keeps (foreign_of_expected hR) hidle _).bind
        exact fun _ => ih (restarts + 1)

theorem nextImage_keeps (cap : ℕ) (pending : List Image) :
    Keeps F R (nextImage cap pending) := by
  cases pending with
  | cons img rest => exact Keeps.pure _
  | nil => exact (frame_keeps hR hF cap).bind fun _ => Keeps.pure _

theorem relayImage_keeps (digital : ℚ) (img : Image) :
    Keeps F R (relayImage digital img) := by
  apply tryCall_keeps (foreign_of_expected hR) hF.toIdles
  · intro e
    apply Keeps.ite (Keeps.pure false)
    exact raiseMarked_keeps hF.toIdles
      (foreign_of_expected hR (.osError e) trivial)
  · intro _
    apply (plant_keeps hF _).bind
    intro _
    exact (mark_keeps hF (by trivial)).bind fun _ => Keeps.pure true

end Working

end Infrared
end Bridges
end SurfaceCameras
