import SurfaceCameras.Support.Program
import Mathlib.Data.Rat.Floor
import Mathlib.Data.NNRat.Defs

/-!
# Daemons that talk to the operating system

A daemon runs against a script: one moment for each operation it performs,
saying what its surroundings do there.  A moment can deliver a signal, make the
operation fail, let time pass, queue client-usage events on the loopback, and
act on the devices and processes.  A run sees a finite script and is stopped
where it ends, so what holds for every script holds at every point of every
run.

A signal raises `KeyboardInterrupt` before the operation it arrives at; what a
daemon does between two operations, no one else can see.
-/

namespace SurfaceCameras
namespace Bridges

/-- A reading of `time.monotonic()`, which is never zero. -/
abbrev Instant : Type := { t : ℚ // 0 < t }

/-- The instant `d` seconds later. -/
def Instant.after (t : Instant) (d : ℚ≥0) : Instant :=
  ⟨t + d, add_pos_of_pos_of_nonneg t.2 d.2⟩

theorem Instant.le_after (t : Instant) (d : ℚ≥0) : t ≤ t.after d :=
  le_add_of_nonneg_right d.2

inductive Signal where
  | sigterm
  | sigint
  deriving DecidableEq, Repr

/-- The subclasses of `OSError` that a bridge tells apart. -/
inductive OsError where
  | blockingIo
  | brokenPipe
  | processLookup
  | other
  deriving DecidableEq, Repr

/-- The exceptions of a daemon; `own` are the ones it defines or raises
itself, and `stopped` ends a run whose script has ended. -/
inductive Exc (ρ : Type) where
  | stopped
  | keyboardInterrupt
  | systemExit
  | osError (e : OsError)
  | own (r : ρ)
  deriving DecidableEq, Repr

/-- The exception is not one the daemon raises itself. -/
def Exc.Foreign {ρ : Type} : Exc ρ → Prop
  | .own _ => False
  | _ => True

/-- A V4L2 event as the loopback queues it. -/
structure Event where
  type : BitVec 32
  count : BitVec 32
  deriving DecidableEq, Repr

/-- `V4L2_EVENT_PRI_CLIENT_USAGE`, signalled when the number of capturing
clients changes. -/
def clientUsage : BitVec 32 := 0x08000000 + 0x08E00000 + 1

/-- What the surroundings do at one operation. -/
structure Moment (π : Type) where
  outside : π
  signal : Option Signal := none
  fault : Option OsError := none
  elapsed : ℚ≥0 := 0
  events : List Event := []

/-- A run of a daemon: the script to come, the clock, the queued events, the
newest client count taken from the queue, the signals set to be ignored, the
devices and processes `δ`, and the trace, latest mark first. -/
structure World (π δ μ : Type) where
  script : List (Moment π)
  now : Instant
  events : List Event
  newest : Option (BitVec 32)
  ignored : List Signal
  dev : δ
  trace : List μ

/-- How the surroundings act on devices and processes, and what is marked in
the trace where an operation raises an exception. -/
class Surroundings (π δ : Type) (μ : outParam Type) where
  act : π → δ → δ
  raised : δ → List μ

/-- A program of a daemon. -/
abbrev Daemon (π δ μ ρ α : Type) : Type := Prog (World π δ μ) (Exc ρ) α

variable {π δ μ ρ α β : Type} [Surroundings π δ μ]

/-! ## Operations -/

/-- The world once `m` has happened, with `rest` still to come. -/
def World.advance (w : World π δ μ) (m : Moment π) (rest : List (Moment π)) :
    World π δ μ :=
  { w with
    script := rest
    now := w.now.after m.elapsed
    events := w.events ++ m.events
    dev := Surroundings.act m.outside w.dev }

/-- Mark that an exception is raised here. -/
def World.noteRaised (w : World π δ μ) : World π δ μ :=
  { w with trace := Surroundings.raised (π := π) w.dev ++ w.trace }

/-- Put a mark into the trace. -/
def World.mark (w : World π δ μ) (x : μ) : World π δ μ :=
  { w with trace := x :: w.trace }

/-- The signal of a moment interrupts the daemon. -/
def Moment.Interrupts (m : Moment π) (w : World π δ μ) : Prop :=
  ∃ s ∈ m.signal, s ∉ w.ignored

instance (m : Moment π) (w : World π δ μ) : Decidable (m.Interrupts w) :=
  inferInstanceAs (Decidable (∃ s ∈ m.signal, s ∉ w.ignored))

/-- Raise an exception, marking it. -/
def raiseMarked (e : Exc ρ) : Daemon π δ μ ρ α := do
  Prog.modify World.noteRaised
  Prog.raise e

/-- One operation: it takes the next moment, at which a signal may interrupt
it. -/
def atMoment (f : Moment π → Daemon π δ μ ρ α) : Daemon π δ μ ρ α := fun w =>
  match w.script with
  | [] => (.error .stopped, w)
  | m :: rest =>
      if m.Interrupts w then
        raiseMarked .keyboardInterrupt (w.advance m rest)
      else
        f m (w.advance m rest)

/-- An operation with the `except OSError` clause that stands around it. -/
def tryCall (handler : OsError → Daemon π δ μ ρ α)
    (f : Moment π → Daemon π δ μ ρ α) : Daemon π δ μ ρ α :=
  atMoment fun m =>
    match m.fault with
    | some e => handler e
    | none => f m

/-- An operation that can fail with an `OSError`. -/
def syscall (f : Moment π → Daemon π δ μ ρ α) : Daemon π δ μ ρ α :=
  tryCall (fun e => raiseMarked (.osError e)) f

/-- `while True`, left by the body with a result.  An iteration that goes on
has performed an operation, so the script ends before the fuel does. -/
def whileTrue (body : β → Daemon π δ μ ρ (β ⊕ α)) (b : β) :
    Daemon π δ μ ρ α :=
  fun w => Prog.iterate .stopped body (w.script.length + 1) b w

/-- `time.monotonic()`. -/
def monotonic : Daemon π δ μ ρ Instant := atMoment fun _ => Prog.gets World.now

/-- `time.sleep(d)`: at least `d` seconds pass. -/
def sleep (d : ℚ≥0) : Daemon π δ μ ρ Unit :=
  atMoment fun _ => Prog.modify fun w => { w with now := w.now.after d }

/-- A line on the standard output, which is a pipe or a file. -/
def log : Daemon π δ μ ρ Unit := syscall fun _ => pure ()

/-! ## The event queue of the loopback -/

/-- `select` on the exceptional set with timeout 0: an event is queued. -/
def selectPending : Daemon π δ μ ρ Bool :=
  syscall fun _ => Prog.gets fun w => !w.events.isEmpty

/-- `VIDIOC_DQEVENT`: take the oldest event off the queue, or nothing if the
call fails. -/
def dqEvent : Daemon π δ μ ρ (Option Event) :=
  tryCall (fun _ => pure none) fun _ => do
    let events ← Prog.gets World.events
    match events with
    | [] => pure none
    | ev :: rest => do
        Prog.modify fun w => { w with events := rest }
        pure (some ev)

/-- Remember the newest client count. -/
def World.dequeued (w : World π δ μ) (count : BitVec 32) : World π δ μ :=
  { w with newest := some count }

/-- The body of the loop in `poll_client_count`. -/
def pollStep (count : Option (BitVec 32)) :
    Daemon π δ μ ρ (Option (BitVec 32) ⊕ Option (BitVec 32)) := do
  let x ← selectPending
  if x then do
    let ev ← dqEvent
    match ev with
    | none => pure (.inr count)
    | some ev =>
        if ev.type = clientUsage then do
          Prog.modify (World.dequeued · ev.count)
          pure (.inl (some ev.count))
        else
          pure (.inl count)
  else
    pure (.inr count)

/-- `poll_client_count`: the newest client count, or none if unchanged. -/
def pollClientCount : Daemon π δ μ ρ (Option (BitVec 32)) :=
  whileTrue pollStep none

/-- `select` on the exceptional set without a timeout; `blocked` is noted each
time the daemon is seen waiting with nothing queued. -/
def selectEvent (blocked : World π δ μ → World π δ μ) :
    Daemon π δ μ ρ Unit :=
  whileTrue
    (fun _ : Unit => do
      let idle ← Prog.gets fun w : World π δ μ => w.events.isEmpty
      Prog.when (idle = true) (Prog.modify blocked)
      let ready ← selectPending
      if ready then pure (.inr ()) else pure (.inl ()))
    ()

/-! ## Rules -/

section Rules

variable {P : World π δ μ → Prop} {Q : α → World π δ μ → Prop}
  {E : Exc ρ → World π δ μ → Prop}

theorem triple_raiseMarked {e : Exc ρ} (h : ∀ w, P w → E e w.noteRaised) :
    Prog.Triple P (raiseMarked e) Q E :=
  Prog.Triple.bind (Q := fun _ w => E e w) (Prog.Triple.modify h)
    fun _ => Prog.Triple.raise fun _ he => he

/-- One operation, by what it finds at its moment. -/
theorem triple_atMoment_next {f : Moment π → Daemon π δ μ ρ α}
    (hstopped : ∀ w, P w → E .stopped w)
    (hinterrupt : ∀ w m rest, P w → w.script = m :: rest → m.Interrupts w →
      E .keyboardInterrupt (w.advance m rest).noteRaised)
    (hf : ∀ w m rest, P w → w.script = m :: rest → ¬ m.Interrupts w →
      Prog.Post Q E (f m (w.advance m rest))) :
    Prog.Triple P (atMoment f) Q E := by
  intro w hw
  unfold atMoment
  cases hscript : w.script with
  | nil => exact hstopped w hw
  | cons m rest =>
      dsimp only
      split
      · exact hinterrupt w m rest hw hscript ‹_›
      · exact hf w m rest hw hscript ‹_›

theorem triple_atMoment {f : Moment π → Daemon π δ μ ρ α}
    (hadvance : ∀ w m rest, P w → P (w.advance m rest))
    (hstopped : ∀ w, P w → E .stopped w)
    (hinterrupt : ∀ w, P w → E .keyboardInterrupt w.noteRaised)
    (hf : ∀ m, Prog.Triple P (f m) Q E) :
    Prog.Triple P (atMoment f) Q E := by
  apply triple_atMoment_next hstopped
  · exact fun w m rest hw _ _ => hinterrupt _ (hadvance w m rest hw)
  · exact fun w m rest hw _ _ => hf m _ (hadvance w m rest hw)

theorem triple_tryCall {handler : OsError → Daemon π δ μ ρ α}
    {f : Moment π → Daemon π δ μ ρ α}
    (hadvance : ∀ w m rest, P w → P (w.advance m rest))
    (hstopped : ∀ w, P w → E .stopped w)
    (hinterrupt : ∀ w, P w → E .keyboardInterrupt w.noteRaised)
    (hhandler : ∀ e, Prog.Triple P (handler e) Q E)
    (hf : ∀ m, Prog.Triple P (f m) Q E) :
    Prog.Triple P (tryCall handler f) Q E := by
  refine triple_atMoment hadvance hstopped hinterrupt fun m => ?_
  cases m.fault with
  | some e => exact hhandler e
  | none => exact hf m

omit [Surroundings π δ μ] in
theorem triple_whileTrue {body : β → Daemon π δ μ ρ (β ⊕ α)}
    {I : β → World π δ μ → Prop}
    (hbody : ∀ b, Prog.Triple (I b) (body b)
      (fun r s => Sum.elim (fun b' => I b' s) (fun a => Q a s) r) E)
    (hstopped : ∀ b w, I b w → E .stopped w) (b : β) :
    Prog.Triple (I b) (whileTrue body b) Q E :=
  fun w hw => Prog.Triple.iterate hbody hstopped _ b w hw

end Rules

/-! ## Without disturbance -/

/-- Both signals are ignored, and no operation to come fails. -/
structure World.Undisturbed (w : World π δ μ) : Prop where
  ignored : ∀ s, s ∈ w.ignored
  fault : ∀ m ∈ w.script, m.fault = none

section Undisturbed

variable {P : World π δ μ → Prop} {Q : α → World π δ μ → Prop}
  {E : Exc ρ → World π δ μ → Prop}

theorem World.Undisturbed.advance {w : World π δ μ} (hw : w.Undisturbed)
    {m : Moment π} {rest : List (Moment π)} (hscript : w.script = m :: rest) :
    (w.advance m rest).Undisturbed := by
  refine ⟨hw.ignored, fun m' hm' => hw.fault m' ?_⟩
  rw [hscript]
  exact List.mem_cons_of_mem m hm'

/-- An undisturbed operation is neither interrupted nor does it fail; only the
script can end before it. -/
theorem triple_atMoment_undisturbed {f : Moment π → Daemon π δ μ ρ α}
    (hP : ∀ w, P w → w.Undisturbed)
    (hadvance : ∀ w m rest, w.script = m :: rest → P w →
      P (w.advance m rest))
    (hstopped : ∀ w, P w → E .stopped w)
    (hf : ∀ m, m.fault = none → Prog.Triple P (f m) Q E) :
    Prog.Triple P (atMoment f) Q E := by
  apply triple_atMoment_next hstopped
  · rintro w m rest hw _ ⟨s, -, hs⟩
    exact absurd ((hP w hw).ignored s) hs
  · intro w m rest hw hscript _
    have hfault : m.fault = none := by
      apply (hP w hw).fault m
      rw [hscript]
      exact List.mem_cons_self
    exact hf m hfault _ (hadvance w m rest hscript hw)

theorem triple_tryCall_undisturbed {handler : OsError → Daemon π δ μ ρ α}
    {f : Moment π → Daemon π δ μ ρ α} (hP : ∀ w, P w → w.Undisturbed)
    (hadvance : ∀ w m rest, w.script = m :: rest → P w →
      P (w.advance m rest))
    (hstopped : ∀ w, P w → E .stopped w)
    (hf : ∀ m, Prog.Triple P (f m) Q E) :
    Prog.Triple P (tryCall handler f) Q E := by
  refine triple_atMoment_undisturbed hP hadvance hstopped fun m hm => ?_
  rw [hm]
  exact hf m

end Undisturbed

/-- The frame allows what happens by itself: moments and time pass, and
exceptions are marked. -/
structure Idles (F : Prog.Frame (World π δ μ)) : Prop where
  advance : ∀ w m rest, F.Rel w (w.advance m rest)
  noteRaised : ∀ w, F.Rel w w.noteRaised
  later : ∀ w d, F.Rel w { w with now := w.now.after d }

/-- The frame also allows to take events off the queue. -/
structure Polls (F : Prog.Frame (World π δ μ)) : Prop extends Idles F where
  dropEvent : ∀ w events, F.Rel w { w with events := events }
  dequeued : ∀ w count, F.Rel w (w.dequeued count)

section Frames

variable {F : Prog.Frame (World π δ μ)} {R : Exc ρ → Prop}
  (hR : ∀ e, e.Foreign → R e)

theorem raiseMarked_keeps (hF : Idles F) {e : Exc ρ} (he : R e) :
    Prog.Keeps F R (raiseMarked e : Daemon π δ μ ρ α) :=
  (Prog.Keeps.modify hF.noteRaised).bind fun _ => Prog.Keeps.raise he

include hR

theorem atMoment_keeps (hF : Idles F) {f : Moment π → Daemon π δ μ ρ α}
    (hf : ∀ m, Prog.Keeps F R (f m)) : Prog.Keeps F R (atMoment f) :=
  fun w₀ => triple_atMoment (fun w m rest h => F.trans h (hF.advance w m rest))
    (fun _ h => ⟨h, hR _ trivial⟩)
    (fun w h => ⟨F.trans h (hF.noteRaised w), hR _ trivial⟩)
    (fun m => hf m w₀)

theorem tryCall_keeps (hF : Idles F) {handler : OsError → Daemon π δ μ ρ α}
    {f : Moment π → Daemon π δ μ ρ α}
    (hhandler : ∀ e, Prog.Keeps F R (handler e))
    (hf : ∀ m, Prog.Keeps F R (f m)) : Prog.Keeps F R (tryCall handler f) := by
  refine atMoment_keeps hR hF fun m => ?_
  cases m.fault with
  | some e => exact hhandler e
  | none => exact hf m

theorem syscall_keeps (hF : Idles F) {f : Moment π → Daemon π δ μ ρ α}
    (hf : ∀ m, Prog.Keeps F R (f m)) : Prog.Keeps F R (syscall f) :=
  tryCall_keeps hR hF (fun _ => raiseMarked_keeps hF (hR _ trivial)) hf

omit [Surroundings π δ μ] in
theorem whileTrue_keeps {body : β → Daemon π δ μ ρ (β ⊕ α)}
    (hbody : ∀ b, Prog.Keeps F R (body b)) (b : β) :
    Prog.Keeps F R (whileTrue body b) :=
  fun w₀ w hw => Prog.Keeps.iterate (hR .stopped trivial) hbody _ b w₀ w hw

theorem monotonic_keeps (hF : Idles F) :
    Prog.Keeps F R (monotonic : Daemon π δ μ ρ Instant) :=
  atMoment_keeps hR hF fun _ => Prog.Keeps.gets _

theorem sleep_keeps (hF : Idles F) (d : ℚ≥0) :
    Prog.Keeps F R (sleep d : Daemon π δ μ ρ Unit) :=
  atMoment_keeps hR hF fun _ => Prog.Keeps.modify fun w => hF.later w d

theorem log_keeps (hF : Idles F) :
    Prog.Keeps F R (log : Daemon π δ μ ρ Unit) :=
  syscall_keeps hR hF fun _ => Prog.Keeps.pure ()

theorem selectPending_keeps (hF : Idles F) :
    Prog.Keeps F R (selectPending : Daemon π δ μ ρ Bool) :=
  syscall_keeps hR hF fun _ => Prog.Keeps.gets _

theorem dqEvent_keeps (hF : Polls F) :
    Prog.Keeps F R (dqEvent : Daemon π δ μ ρ (Option Event)) := by
  refine tryCall_keeps hR hF.toIdles (fun _ => Prog.Keeps.pure none) fun _ => ?_
  refine (Prog.Keeps.gets _).bind fun events => ?_
  cases events with
  | nil => exact Prog.Keeps.pure none
  | cons ev rest =>
      refine (Prog.Keeps.modify fun w => hF.dropEvent w rest).bind fun _ => ?_
      exact Prog.Keeps.pure (some ev)

theorem pollClientCount_keeps (hF : Polls F) :
    Prog.Keeps F R (pollClientCount :
      Daemon π δ μ ρ (Option (BitVec 32))) := by
  refine whileTrue_keeps hR (fun count => ?_) none
  refine (selectPending_keeps hR hF.toIdles).bind fun x => Prog.Keeps.ite ?_
    (Prog.Keeps.pure _)
  refine (dqEvent_keeps hR hF).bind fun ev => ?_
  cases ev with
  | none => exact Prog.Keeps.pure _
  | some ev =>
      refine Prog.Keeps.ite ?_ (Prog.Keeps.pure _)
      refine (Prog.Keeps.modify fun w => hF.dequeued w ev.count).bind fun _ => ?_
      exact Prog.Keeps.pure _

theorem selectEvent_keeps (hF : Idles F)
    {blocked : World π δ μ → World π δ μ} (hb : ∀ w, F.Rel w (blocked w)) :
    Prog.Keeps F R (selectEvent blocked : Daemon π δ μ ρ Unit) := by
  refine whileTrue_keeps hR (fun _ => ?_) ()
  refine (Prog.Keeps.gets _).bind fun idle => ?_
  refine (Prog.Keeps.when (Prog.Keeps.modify hb)).bind fun _ => ?_
  refine (selectPending_keeps hR hF).bind fun ready => ?_
  exact Prog.Keeps.ite (Prog.Keeps.pure _) (Prog.Keeps.pure _)

end Frames

/-- What leaves the newest client count as it is. -/
def newestFrame : Prog.Frame (World π δ μ) where
  Rel w w' := w'.newest = w.newest
  refl _ := rfl
  trans h h' := h'.trans h

theorem newestFrame_idles : Idles (newestFrame : Prog.Frame (World π δ μ)) :=
  ⟨fun _ _ _ => rfl, fun _ => rfl, fun _ _ => rfl⟩

/-- `poll_client_count` returns the newest count if it has dequeued one, and
otherwise the count stays what it was. -/
theorem pollClientCount_newest (n : Option (BitVec 32)) :
    Prog.Triple (fun w => w.newest = n)
      (pollClientCount : Daemon π δ μ ρ (Option (BitVec 32)))
      (fun r w => w.newest = r.or n) (fun _ _ => True) := by
  have hpending := (selectPending_keeps (F := newestFrame (π := π) (δ := δ))
    (R := fun _ : Exc ρ => True) (fun _ _ => trivial) newestFrame_idles)
  refine triple_whileTrue (E := fun _ _ => True)
    (I := fun count w => w.newest = count.or n) (fun count => ?_) (fun _ _ _ => trivial) none
  refine Prog.Triple.bind (Q := fun _ w => w.newest = count.or n) ?_ fun x => ?_
  · refine (hpending.triple fun s t hst hs => ?_).consequence (fun _ h => h)
      (fun _ _ h => h) (fun _ _ _ => trivial)
    exact hst.trans hs
  · refine Prog.Triple.ite (fun _ => ?_) fun _ => Prog.Triple.pure fun _ h => h
    refine Prog.Triple.bind (Q := fun _ w => w.newest = count.or n) ?_
      fun ev => ?_
    · refine triple_tryCall (fun _ _ _ h => h) (fun _ _ => trivial)
        (fun _ _ => trivial) (fun _ => Prog.Triple.pure fun _ h => h)
        fun _ => ?_
      refine Prog.Triple.bind (Q := fun _ w => w.newest = count.or n)
        (Prog.Triple.gets fun _ h => h) fun events => ?_
      cases events with
      | nil => exact Prog.Triple.pure fun _ h => h
      | cons ev rest =>
          exact Prog.Triple.bind (Prog.Triple.modify fun _ h => h)
            fun _ => Prog.Triple.pure fun _ h => h
    · cases ev with
      | none => exact Prog.Triple.pure fun _ h => h
      | some ev =>
          refine Prog.Triple.ite (fun _ => ?_)
            fun _ => Prog.Triple.pure fun _ h => h
          refine Prog.Triple.bind (Q := fun _ w => w.newest = some ev.count)
            (Prog.Triple.modify fun _ _ => rfl) fun _ => ?_
          exact Prog.Triple.pure fun _ h => h

end Bridges
end SurfaceCameras
