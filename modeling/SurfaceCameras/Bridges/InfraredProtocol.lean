import SurfaceCameras.Bridges.InfraredEffects
import SurfaceCameras.Support.Protocol

/-!
# Sessions of the infrared bridge as a protocol

A session makes attempts one after the other.  Each opens a capture, probes it
unless it is the last attempt, and either closes it again or hands it over to
the relay loop, which writes what was dequeued and closes it in the end.  An
exception at a step that no handler covers loses the capture.

The protocol says this of the marks that a session leaves, and a session
follows the protocol whatever happens around it.
-/

namespace SurfaceCameras
namespace Bridges
namespace Infrared

open Prog Protocol

/-! ## The protocol -/

/-- Where a session stands.  The frames of a probe are the latest first; a
capture that is served has images to write, in order, and images written,
latest first. -/
inductive Phase where
  | ready (next tried : ℕ)
  | trying (next tried : ℕ) (vblank : ℤ)
  | probing (cap tried : ℕ) (vblank : ℤ) (shots : List Shot) (waited : Bool)
  | serving (cap : ℕ) (unwritten written : List Image)
  | stopping (cap : ℕ) (after : Phase)
  | ended
  | lost

/-- The capture that is open. -/
def Phase.held : Phase → Option ℕ
  | .probing cap _ _ _ _ | .serving cap _ _ | .stopping cap _ => some cap
  | .ready _ _ | .trying _ _ _ | .ended | .lost => none

/-- The number of the next capture, while there can be one. -/
def Phase.next : Phase → Option ℕ
  | .ready n _ | .trying n _ _ => some n
  | .probing cap _ _ _ _ => some (cap + 1)
  | .stopping _ after => after.next
  | .serving _ _ _ | .ended | .lost => none

/-- The steps of a session and the marks they leave. -/
inductive Step (t : SensorTiming) : Phase → Mark → Phase → Prop
  | attempt {n tried : ℕ} {vblank : ℤ} (h : tried < (attempts t).length) :
      Step t (.ready n tried) (.attempt vblank) (.trying n tried vblank)
  | opened {n tried : ℕ} {vblank : ℤ} :
      Step t (.trying n tried vblank) (.opened n)
        (.probing n tried vblank [] false)
  | probed {cap tried : ℕ} {vblank : ℤ} {shots : List Shot} {s : Shot} :
      Step t (.probing cap tried vblank shots false) (.dequeued cap s)
        (.probing cap tried vblank (s :: shots) false)
  | waited {cap tried : ℕ} {vblank : ℤ} {shots : List Shot}
      (h : shots.length < wedgeProbeFrames) :
      Step t (.probing cap tried vblank shots false) (.timedOut cap)
        (.probing cap tried vblank shots true)
  | accepted {cap tried : ℕ} {vblank : ℤ} {shots : List Shot} {waited : Bool}
      (hseen : waited = false → shots.length = wedgeProbeFrames)
      (hverdict : wedgeVerdict (t.nominalDt vblank) shots.reverse = none) :
      Step t (.probing cap tried vblank shots waited)
        (.returned cap (some vblank))
        (.serving cap (shots.reverse.map Shot.image) [])
  | asIs {cap tried : ℕ} {vblank : ℤ} :
      Step t (.probing cap tried vblank [] false) (.returned cap none)
        (.serving cap [] [])
  | discarded {cap tried : ℕ} {vblank : ℤ} {shots : List Shot} {waited : Bool}
      (hverdict : wedgeVerdict (t.nominalDt vblank) shots.reverse ≠ none) :
      Step t (.probing cap tried vblank shots waited) (.streamOff cap)
        (.stopping cap (.ready (cap + 1) (tried + 1)))
  | abandoned {cap tried : ℕ} {vblank : ℤ} :
      Step t (.probing cap tried vblank [] false) (.streamOff cap)
        (.stopping cap .ended)
  | dequeued {cap : ℕ} {written : List Image} {s : Shot} :
      Step t (.serving cap [] written) (.dequeued cap s)
        (.serving cap [s.image] written)
  | timedOut {cap : ℕ} {written : List Image} :
      Step t (.serving cap [] written) (.timedOut cap) (.serving cap [] written)
  | wrote {cap : ℕ} {img : Image} {unwritten written : List Image}
      {digital : ℚ} :
      Step t (.serving cap (img :: unwritten) written) (.wrote img digital)
        (.serving cap unwritten (img :: written))
  | finished {cap : ℕ} {unwritten written : List Image} :
      Step t (.serving cap unwritten written) (.streamOff cap)
        (.stopping cap .ended)
  | closed {cap : ℕ} {after : Phase} :
      Step t (.stopping cap after) (.closed cap) after
  | uncovered {cap : ℕ} {p : Phase} (h : p.held = some cap) :
      Step t p (.uncovered cap) .lost

/-- The images written with their digital gain, latest first. -/
def writes (marks : List Mark) : List (Image × ℚ) :=
  marks.filterMap fun x =>
    match x with
    | .wrote img digital => some (img, digital)
    | _ => none

/-! ## Following the protocol -/

variable {t : SensorTiming} {w₀ w w' : State} {p p' : Phase}

/-- The session that began in `w₀` has come to this phase: its marks lead
there, the loopback has been given what they say was written, and the captures
are numbered and open as the phase has it. -/
structure At (t : SensorTiming) (w₀ : State) (p : Phase) (w : State) :
    Prop where
  trail : ∃ marks, w.trace = marks ++ w₀.trace ∧
    Trail (Step t) (.ready w₀.dev.opened 0) marks p ∧
    w.dev.loopback =
      (writes marks).map (fun x => packed x.2 x.1) ++ w₀.dev.loopback
  next : ∀ n ∈ p.next, w.dev.opened = n
  held : ∀ cap ∈ p.held, cap ∈ w.dev.openCaps

theorem At.start : At t w₀ (.ready w₀.dev.opened 0) w₀ := by
  refine ⟨⟨[], rfl, .here, rfl⟩, ?_, ?_⟩
  · rintro n ⟨⟩
    rfl
  · rintro cap ⟨⟩

/-- A mark that says nothing about writing takes a step, when the captures
agree with the new phase. -/
theorem At.step {x : Mark} (h : At t w₀ p w) (hstep : Step t p x p')
    (hx : writes [x] = []) (hloop : w'.dev.loopback = w.dev.loopback)
    (htrace : w'.trace = x :: w.trace)
    (hnext : ∀ n ∈ p'.next, w'.dev.opened = n)
    (hheld : ∀ cap ∈ p'.held, cap ∈ w'.dev.openCaps) : At t w₀ p' w' := by
  obtain ⟨marks, hmarks, htrail, hwritten⟩ := h.trail
  refine ⟨⟨x :: marks, ?_, htrail.next hstep, ?_⟩, hnext, hheld⟩
  · rw [htrace, hmarks, List.cons_append]
  · have hwrites : writes (x :: marks) = writes marks := by
      change writes ([x] ++ marks) = _
      rw [writes, List.filterMap_append]
      exact congrArg (· ++ writes marks) hx
    rw [hloop, hwritten, hwrites]

theorem At.mark {x : Mark} (h : At t w₀ p w) (hstep : Step t p x p')
    (hx : writes [x] = []) (hnext : ∀ n ∈ p'.next, n ∈ p.next)
    (hheld : ∀ cap ∈ p'.held, cap ∈ p.held) : At t w₀ p' (w.mark x) :=
  h.step hstep hx rfl rfl (fun n hn => h.next n (hnext n hn))
    fun cap hcap => h.held cap (hheld cap hcap)

theorem At.wrote {cap : ℕ} {img : Image} {unwritten written : List Image}
    (h : At t w₀ (.serving cap (img :: unwritten) written) w) (digital : ℚ) :
    At t w₀ (.serving cap unwritten (img :: written))
      ({ w with dev := { w.dev with
        loopback := packed digital img :: w.dev.loopback } }.mark
        (.wrote img digital)) := by
  obtain ⟨marks, hmarks, htrail, hwritten⟩ := h.trail
  refine ⟨⟨.wrote img digital :: marks, ?_, htrail.next .wrote, ?_⟩, ?_, h.held⟩
  · exact congrArg (Mark.wrote img digital :: ·) hmarks
  · exact congrArg (packed digital img :: ·) hwritten
  · rintro n ⟨⟩

/-! ## What takes no step -/

/-- Nothing is marked, written, opened or closed. -/
def still : Frame State := Frame.fixing fun w =>
  (w.trace, w.dev.opened, w.dev.openCaps, w.dev.loopback)

theorem still_polls : Polls still where
  advance _ _ _ := rfl
  noteRaised _ := rfl
  later _ _ := rfl
  dropEvent _ _ := rfl
  dequeued _ _ := rfl

theorem still_tunes : Tunes still := by
  refine ⟨still_polls.toIdles, fun w f hf => ?_⟩
  have h := hf w.dev
  simp only [Plant.kept, Prod.mk.injEq] at h
  simp only [still, Frame.fixing, h]

theorem At.of_still (h : still.Rel w w') (hw : At t w₀ p w) : At t w₀ p w' := by
  simp only [still, Frame.fixing, Prod.mk.injEq] at h
  obtain ⟨htrace, hopened, hopen, hloop⟩ := h
  obtain ⟨hmarks, hnext, hheld⟩ := hw
  refine ⟨?_, ?_, ?_⟩
  · rwa [htrace, hloop]
  · rwa [hopened]
  · rwa [hopen]

section Still

variable {α : Type} {prog : BridgeM α}

theorem at_of_still {R : Exc Failure → Prop} (hp : Keeps still R prog) :
    Triple (At t w₀ p) prog (fun _ => At t w₀ p)
      fun e w => At t w₀ p w ∧ R e :=
  hp.triple fun _ _ => At.of_still

theorem expected_refl (e : Exc Failure) (he : Expected e) : Expected e := he

theorem call_still {f : Moment Happening → BridgeM α}
    (hf : ∀ m, Keeps still Expected (f m)) :
    Keeps still Expected (syscall f) :=
  call_keeps expected_refl still_polls.toIdles hf

theorem log_still : Keeps still Expected (log : BridgeM Unit) :=
  report_keeps expected_refl still_polls.toIdles

end Still

end Infrared
end Bridges
end SurfaceCameras
