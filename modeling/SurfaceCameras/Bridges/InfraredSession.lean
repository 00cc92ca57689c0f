import SurfaceCameras.Bridges.InfraredProtocol

/-!
# Sessions of the infrared bridge follow the protocol

Whatever happens around a session, the marks it leaves lead through the
protocol: one lemma for each operation on a capture, then the attempts by
induction over those still to come, and the relay loop by its invariant.  An
exception comes out of a session with no capture open, unless it was raised
where no handler covers it.
-/

namespace SurfaceCameras
namespace Bridges
namespace Infrared

open Prog Protocol

variable {t : SensorTiming} {w₀ w w' : State} {p p' : Phase}

/-! ## Captures -/

/-- An exception has come out with no capture open that could still be closed,
unless it only ends the run. -/
def Out (t : SensorTiming) (w₀ : State) (e : Exc Failure) (w : State) : Prop :=
  (∃ p, At t w₀ p w ∧ (e ≠ .stopped → p.held = none)) ∧ Expected e

/-- An exception comes out while this capture is open. -/
def Holding (t : SensorTiming) (w₀ : State) (cap : ℕ) (e : Exc Failure)
    (w : State) : Prop :=
  (∃ p, At t w₀ p w ∧ p.held = some cap) ∧ Expected e

/-- `E` holds of every expected exception that comes out in phase `p`. -/
def Covers (t : SensorTiming) (w₀ : State) (p : Phase)
    (E : Exc Failure → State → Prop) : Prop :=
  ∀ e w, Expected e → At t w₀ p w → E e w

theorem covers_out (hheld : p.held = none) : Covers t w₀ p (Out t w₀) :=
  fun _ _ he hw => ⟨⟨p, hw, fun _ => hheld⟩, he⟩

theorem covers_holding {cap : ℕ} (hheld : p.held = some cap) :
    Covers t w₀ p (Holding t w₀ cap) :=
  fun _ _ he hw => ⟨⟨p, hw, hheld⟩, he⟩

section Operations

variable {α : Type} {E : Exc Failure → State → Prop}
  (hE : Covers t w₀ p E)
include hE

theorem still_at {prog : BridgeM α} (hp : Keeps still Expected prog) :
    Triple (At t w₀ p) prog (fun _ => At t w₀ p) E := by
  apply (at_of_still hp).consequence (fun _ hw => hw) (fun _ _ hw => hw)
  exact fun e w hw => hE e w hw.2 hw.1

theorem tryCall_at {handler : OsError → BridgeM α}
    {f : Moment Happening → BridgeM α} {Q : α → State → Prop}
    (hhandler : ∀ e, Triple (At t w₀ p) (handler e) Q E)
    (hf : ∀ m, Triple (At t w₀ p) (f m) Q E) :
    Triple (At t w₀ p) (tryCall handler f) Q E := by
  apply triple_tryCall
  · exact fun w m rest hw => hw.of_still (still_polls.advance w m rest)
  · exact fun w hw => hE _ w (expected_of_foreign _ trivial) hw
  · exact fun w hw => hE _ _ (expected_of_foreign _ trivial)
      (hw.of_still (still_polls.noteRaised w))
  · exact hhandler
  · exact hf

theorem raise_at {e : Exc Failure} (he : Expected e)
    {Q : α → State → Prop} :
    Triple (At t w₀ p) (raiseMarked e) Q E :=
  triple_raiseMarked fun w hw =>
    hE e _ he (hw.of_still (still_polls.noteRaised w))

theorem call_at {f : Moment Happening → BridgeM α} {Q : α → State → Prop}
    (hf : ∀ m, Triple (At t w₀ p) (f m) Q E) :
    Triple (At t w₀ p) (syscall f) Q E :=
  tryCall_at hE
    (fun e => raise_at hE (expected_of_foreign (.osError e) trivial)) hf

end Operations

/-- An uncovered step loses the capture if it raises an exception. -/
theorem uncovered_out {α : Type} {prog : BridgeM α} {cap : ℕ}
    {P : State → Prop} {Q : α → State → Prop}
    (hp : Triple P prog Q (Holding t w₀ cap)) :
    Triple P (uncovered cap prog) Q (Out t w₀) := by
  apply Triple.tryCatch hp
  intro e
  by_cases he : e = .stopped
  · subst he
    rw [when_neg (fun h => h rfl)]
    apply Triple.bind (Q := fun _ => Holding t w₀ cap .stopped)
    · exact Triple.pure fun _ hw => hw
    · intro _
      apply Triple.raise
      rintro w ⟨⟨p, hw, -⟩, hexp⟩
      exact ⟨⟨p, hw, fun h => absurd rfl h⟩, hexp⟩
  · rw [when_pos he]
    apply Triple.bind (Q := fun _ => Out t w₀ e)
    · apply Triple.modify
      rintro w ⟨⟨p, hw, hheld⟩, hexp⟩
      refine ⟨⟨.lost, ?_, fun _ => rfl⟩, hexp⟩
      apply hw.mark (.uncovered hheld) rfl
      · rintro n ⟨⟩
      · rintro c ⟨⟩
    · exact fun _ => Triple.raise fun _ hw => hw

theorem streamOff_at {cap : ℕ} {after : Phase}
    (hstep : Step t p (.streamOff cap) (.stopping cap after))
    (hheld : p.held = some cap) (hnext : ∀ n ∈ after.next, n ∈ p.next) :
    Triple (At t w₀ p) (streamOff cap)
      (fun _ => At t w₀ (.stopping cap after)) (Holding t w₀ cap) := by
  have hmark : Triple (At t w₀ p) (mark (.streamOff cap))
      (fun _ => At t w₀ (.stopping cap after)) (Holding t w₀ cap) := by
    apply Triple.modify
    intro w hw
    refine hw.mark hstep rfl hnext ?_
    rintro c ⟨⟩
    exact hheld
  exact tryCall_at (covers_holding hheld) (fun _ => hmark) fun _ => hmark

theorem closeNode_at {cap : ℕ} {after : Phase} (hafter : after.held = none) :
    Triple (At t w₀ (.stopping cap after)) (closeNode cap)
      (fun _ => At t w₀ after) (Holding t w₀ cap) := by
  apply call_at (covers_holding rfl)
  intro _
  apply Triple.bind (Q := fun _ w' => ∃ w, At t w₀ (.stopping cap after) w ∧
    w' = { w with dev := { w.dev with
      openCaps := w.dev.openCaps.erase cap } })
  · exact Triple.modify fun w hw => ⟨w, hw, rfl⟩
  · intro _
    apply Triple.modify
    rintro _ ⟨w, hw, rfl⟩
    refine hw.step .closed rfl rfl rfl hw.next ?_
    rw [hafter]
    rintro c ⟨⟩

/-- `close` ends with the capture closed, or the capture is lost. -/
theorem close_at {cap : ℕ} {after : Phase}
    (hstep : Step t p (.streamOff cap) (.stopping cap after))
    (hheld : p.held = some cap) (hnext : ∀ n ∈ after.next, n ∈ p.next)
    (hafter : after.held = none) :
    Triple (At t w₀ p) (close cap) (fun _ => At t w₀ after) (Out t w₀) := by
  apply Triple.gets_bind
  intro isOpen
  have hopen : ∀ w, At t w₀ p w ∧ decide (cap ∈ w.dev.openCaps) = isOpen →
      At t w₀ p w ∧ isOpen = true := by
    rintro w ⟨hw, rfl⟩
    exact ⟨hw, decide_eq_true (hw.held cap hheld)⟩
  apply Triple.strengthenPre _ hopen
  apply Triple.of_fact
  intro hisOpen
  rw [when_pos hisOpen]
  apply uncovered_out
  apply Triple.bind (streamOff_at hstep hheld hnext)
  intro _
  have hcovers : Covers t w₀ (.stopping cap after) (Holding t w₀ cap) :=
    covers_holding rfl
  apply Triple.bind (still_at hcovers (Keeps.gets _))
  intro maps
  apply Triple.bind (still_at hcovers
    (Keeps.forEach _ fun i _ => closeMap_keeps expected_refl still_polls.toIdles cap i))
  intro _
  apply Triple.bind (Q := fun _ => At t w₀ (.stopping cap after))
  · exact still_at hcovers (onPlant_keeps still_tunes fun _ => rfl)
  · exact fun _ => closeNode_at hafter

theorem openNode_at {n tried : ℕ} {vblank : ℤ} :
    Triple (At t w₀ (.trying n tried vblank)) openNode
      (fun cap => At t w₀ (.probing cap tried vblank [] false))
      (Out t w₀) := by
  apply call_at (covers_out rfl)
  intro _
  apply Triple.gets_bind
  intro cap
  apply Triple.bind (Q := fun _ w' => ∃ w,
    At t w₀ (.trying n tried vblank) w ∧ w.dev.opened = cap ∧
      w' = { w with dev := { w.dev with
        opened := w.dev.opened + 1, openCaps := cap :: w.dev.openCaps } })
  · exact Triple.modify fun w hw => ⟨w, hw.1, hw.2, rfl⟩
  intro _
  apply Triple.bind
    (Q := fun _ => At t w₀ (.probing cap tried vblank [] false))
  · apply Triple.modify
    rintro _ ⟨w, hw, hcap, rfl⟩
    obtain rfl : cap = n := hcap.symm.trans (hw.next n rfl)
    refine hw.step .opened rfl rfl rfl ?_ ?_
    · rintro k ⟨⟩
      exact congrArg (· + 1) hcap
    · rintro c ⟨⟩
      exact List.mem_cons_self
  · exact fun _ => Triple.pure fun _ hw => hw

/-- A capture is set up, or closed again, or lost. -/
theorem newCapture_at {n tried : ℕ} {vblank : ℤ} :
    Triple (At t w₀ (.trying n tried vblank)) newCapture
      (fun cap => At t w₀ (.probing cap tried vblank [] false))
      (Out t w₀) := by
  apply Triple.bind openNode_at
  intro cap
  apply Triple.bind
    (Q := fun _ => At t w₀ (.probing cap tried vblank [] false))
  · apply uncovered_out
    apply still_at (covers_holding rfl)
    exact atMoment_keeps expected_of_foreign still_polls.toIdles fun _ =>
      onPlant_keeps still_tunes fun _ => rfl
  intro _
  apply Triple.bind
    (Q := fun _ => At t w₀ (.probing cap tried vblank [] false))
  · apply Triple.tryCatch (at_of_still (setupCapture_keeps expected_refl still_tunes))
    intro e
    apply Triple.of_fact
    intro he
    apply Triple.bind (Q := fun _ => At t w₀ .ended)
    · apply close_at .abandoned rfl _ rfl
      rintro k ⟨⟩
    · exact fun _ => Triple.raise fun w hw => ⟨⟨.ended, hw, fun _ => rfl⟩, he⟩
  · exact fun _ => Triple.pure fun _ hw => hw

/-- A frame is dequeued or times out, as the protocol has it. -/
theorem frame_at {cap : ℕ} {waiting : Phase} {arrived : Shot → Phase}
    {E : Exc Failure → State → Prop}
    (hwait : Step t p (.timedOut cap) waiting)
    (harrive : ∀ s, Step t p (.dequeued cap s) (arrived s))
    (hheld : waiting.held = p.held) (hheld' : ∀ s, (arrived s).held = p.held)
    (hnext : waiting.next = p.next) (hnext' : ∀ s, (arrived s).next = p.next)
    (hE : Covers t w₀ p E) (hE' : ∀ s, Covers t w₀ (arrived s) E) :
    Triple (At t w₀ p) (frame cap)
      (fun r => At t w₀ (r.elim waiting arrived)) E := by
  apply Triple.bind (still_at hE (call_still fun _ => Keeps.pure _))
  intro ready
  apply Triple.ite
  · intro _
    apply Triple.bind (Q := fun s => At t w₀ (arrived s))
    · apply call_at hE
      intro m
      apply Triple.bind (Q := fun _ => At t w₀ p)
      · exact still_at hE (onPlant_keeps still_tunes fun _ => rfl)
      intro _
      apply Triple.bind (Q := fun _ =>
        At t w₀ (arrived ⟨m.outside.image, m.outside.stamp⟩))
      · apply Triple.modify
        intro w hw
        refine hw.mark (harrive _) rfl ?_ ?_
        · rw [hnext']
          exact fun _ hn => hn
        · rw [hheld']
          exact fun _ hc => hc
      · exact fun _ => Triple.pure fun _ hw => hw
    intro s
    apply Triple.bind (Q := fun _ => At t w₀ (arrived s))
    · exact still_at (hE' s) (call_still fun _ => onPlant_keeps still_tunes fun _ => rfl)
    · exact fun _ => Triple.pure fun _ hw => hw
  · intro _
    apply Triple.bind (Q := fun _ => At t w₀ waiting)
    · apply Triple.modify
      intro w hw
      refine hw.mark hwait rfl ?_ ?_
      · rw [hnext]
        exact fun _ hn => hn
      · rw [hheld]
        exact fun _ hc => hc
    · exact fun _ => Triple.pure fun _ hw => hw

/-! ## Attempts -/

/-- A probe that has come this far takes the frames that are missing, or one
of them times out. -/
theorem probeFrames_at {cap tried : ℕ} {vblank : ℤ} {n : ℕ}
    {seen : List Shot} (hn : seen.length + n = wedgeProbeFrames) :
    Triple (At t w₀ (.probing cap tried vblank seen false))
      (probeFrames cap n)
      (fun shots w => ∃ waited : Bool,
        (waited = false → shots.length = n) ∧
          At t w₀ (.probing cap tried vblank (shots.reverse ++ seen) waited) w)
      (Holding t w₀ cap) := by
  induction n generalizing seen with
  | zero => exact Triple.pure fun w hw => ⟨false, fun _ => rfl, hw⟩
  | succ n ih =>
      have hlen : seen.length < wedgeProbeFrames := by omega
      apply Triple.bind (frame_at (.waited hlen) (fun _ => .probed) rfl
        (fun _ => rfl) rfl (fun _ => rfl) (covers_holding rfl)
        fun _ => covers_holding rfl)
      intro shot
      cases shot with
      | none =>
          apply Triple.pure
          intro w hw
          refine ⟨true, ?_, hw⟩
          rintro ⟨⟩
      | some s =>
          have hn' : (s :: seen).length + n = wedgeProbeFrames := by
            rw [List.length_cons]
            omega
          apply Triple.bind (ih hn')
          intro shots
          apply Triple.pure
          rintro w ⟨waited, hshots, hw⟩
          refine ⟨waited, fun h => congrArg (· + 1) (hshots h), ?_⟩
          rwa [List.reverse_cons, List.append_assoc]

/-- A probe is over: it has taken all its frames unless one timed out, and the
verdict is about those it took. -/
def Probed (t : SensorTiming) (w₀ : State) (cap tried : ℕ) (vblank : ℤ)
    (nominal : ℚ) (shots : List Shot) (verdict : Option Wedge) (w : State) :
    Prop :=
  ∃ waited : Bool, verdict = wedgeVerdict nominal shots ∧
    (waited = false → shots.length = wedgeProbeFrames) ∧
      At t w₀ (.probing cap tried vblank shots.reverse waited) w

theorem probed_at {α : Type} {cap tried : ℕ} {vblank : ℤ} {nominal : ℚ}
    {shots : List Shot} {verdict : Option Wedge} {prog : BridgeM α}
    {Q : α → State → Prop} {E : Exc Failure → State → Prop}
    (h : ∀ waited, verdict = wedgeVerdict nominal shots →
      (waited = false → shots.length = wedgeProbeFrames) →
      Triple (At t w₀ (.probing cap tried vblank shots.reverse waited)) prog
        Q E) :
    Triple (Probed t w₀ cap tried vblank nominal shots verdict) prog Q E := by
  rintro w ⟨waited, hverdict, hseen, hw⟩
  exact h waited hverdict hseen w hw

theorem wedgeProbe_at {cap tried : ℕ} {vblank : ℤ} (nominal : ℚ) :
    Triple (At t w₀ (.probing cap tried vblank [] false))
      (wedgeProbe cap nominal)
      (fun probed => Probed t w₀ cap tried vblank nominal probed.1 probed.2)
      (Holding t w₀ cap) := by
  apply Triple.bind (probeFrames_at rfl)
  intro shots
  apply Triple.pure
  rintro w ⟨waited, hshots, hw⟩
  rw [List.append_nil] at hw
  exact ⟨waited, rfl, hshots, hw⟩

/-- The capture is handed over with the frames that were probed. -/
theorem accept_at {cap tried : ℕ} {vblank : ℤ} {shots : List Shot}
    {waited : Bool} {emax : ℤ} (restarts : ℕ)
    (hseen : waited = false → shots.length = wedgeProbeFrames)
    (hverdict : wedgeVerdict (t.nominalDt vblank) shots = none) :
    Triple (At t w₀ (.probing cap tried vblank shots.reverse waited))
      (do
        Prog.when (0 < restarts) (uncovered cap log)
        mark (.returned cap (some vblank))
        pure (⟨cap, shots.map Shot.image, emax⟩ : Started))
      (fun s => At t w₀ (.serving s.cap s.pending [])) (Out t w₀) := by
  have hlog : Triple (At t w₀ (.probing cap tried vblank shots.reverse waited))
      (Prog.when (0 < restarts) (uncovered cap log))
      (fun _ => At t w₀ (.probing cap tried vblank shots.reverse waited))
      (Out t w₀) := by
    apply Triple.when
    · exact fun _ => uncovered_out (still_at (covers_holding rfl) log_still)
    · exact fun _ _ hw => hw
  apply Triple.bind hlog
  intro _
  apply Triple.bind
    (Q := fun _ => At t w₀ (.serving cap (shots.map Shot.image) []))
  · apply Triple.modify
    intro w hw
    have hstep : Step t (.probing cap tried vblank shots.reverse waited)
        (.returned cap (some vblank))
        (.serving cap (shots.reverse.reverse.map Shot.image) []) := by
      apply Step.accepted
      · rwa [List.length_reverse]
      · rwa [List.reverse_reverse]
    rw [List.reverse_reverse] at hstep
    refine hw.mark hstep rfl ?_ fun c hc => hc
    rintro n ⟨⟩
  · exact fun _ => Triple.pure fun _ hw => hw

/-- Every attempt but the last one either hands its capture over or closes it
and is followed by the next; the last one hands its capture over. -/
theorem startFrom_at (debug : Bool) (exposure gain : ℤ)
    (todo : List (ℤ × ℤ)) {n tried : ℕ} (hne : todo ≠ [])
    (htodo : tried + todo.length = (attempts t).length) :
    Triple (At t w₀ (.ready n tried))
      (startFrom t debug exposure gain todo tried)
      (fun s => At t w₀ (.serving s.cap s.pending [])) (Out t w₀) := by
  induction todo generalizing n tried with
  | nil => exact absurd rfl hne
  | cons attempt rest ih =>
      obtain ⟨vblank, emax⟩ := attempt
      rw [List.length_cons] at htodo
      apply Triple.bind (Q := fun _ => At t w₀ (.trying n tried vblank))
      · apply Triple.modify
        intro w hw
        have htried : tried < (attempts t).length := by omega
        exact hw.mark (.attempt htried) rfl (fun _ hk => hk) fun _ hc => hc
      intro _
      apply Triple.bind (still_at (covers_out rfl)
        (setupGraph_keeps expected_refl still_polls.toIdles))
      intro _
      apply Triple.bind (still_at (covers_out rfl)
        (setVblank_keeps expected_refl still_tunes vblank))
      intro _
      apply Triple.bind (still_at (covers_out rfl)
        (setCtrls_keeps expected_refl still_tunes debug _ gain))
      intro _
      apply Triple.bind newCapture_at
      intro cap
      apply Triple.ite
      · intro _
        apply Triple.bind
          (uncovered_out (still_at (covers_holding rfl) log_still))
        intro _
        apply Triple.bind (Q := fun _ => At t w₀ (.serving cap [] []))
        · apply Triple.modify
          intro w hw
          refine hw.mark .asIs rfl ?_ fun c hc => hc
          rintro k ⟨⟩
        · exact fun _ => Triple.pure fun _ hw => hw
      intro hrest
      apply Triple.bind (uncovered_out (wedgeProbe_at (t.nominalDt vblank)))
      rintro ⟨shots, verdict⟩
      apply probed_at
      intro waited hv hseen
      obtain rfl : verdict = wedgeVerdict (t.nominalDt vblank) shots := hv
      apply Triple.ite
      · exact fun hverdict => accept_at tried hseen hverdict
      · intro hverdict
        apply Triple.bind
          (uncovered_out (still_at (covers_holding rfl) log_still))
        intro _
        apply Triple.bind (Q := fun _ => At t w₀ (.ready (cap + 1) (tried + 1)))
        · apply close_at (.discarded _) rfl (fun _ hk => hk) rfl
          rwa [List.reverse_reverse]
        intro _
        apply Triple.bind (still_at (covers_out rfl)
          (sleep_keeps expected_of_foreign still_polls.toIdles _))
        intro _
        apply ih hrest
        omega

theorem startCapture_at (debug : Bool) (exposure gain : ℤ) {n : ℕ} :
    Triple (At t w₀ (.ready n 0)) (startCapture t debug exposure gain)
      (fun s => At t w₀ (.serving s.cap s.pending [])) (Out t w₀) := by
  apply startFrom_at
  · intro h
    have hlen := congrArg List.length h
    rw [attempts, List.length_append, List.length_replicate] at hlen
    simp [wedgeRetries] at hlen
  · exact Nat.zero_add _

/-! ## The relay loop -/

/-- A capture is served, with these images still to be written. -/
def Serves (t : SensorTiming) (w₀ : State) (cap : ℕ) (unwritten : List Image)
    (w : State) : Prop :=
  ∃ written, At t w₀ (.serving cap unwritten written) w

/-- An exception comes out of the relay loop. -/
def Broken (t : SensorTiming) (w₀ : State) (cap : ℕ) (e : Exc Failure)
    (w : State) : Prop :=
  (∃ unwritten, Serves t w₀ cap unwritten w) ∧ Expected e

section Loop

variable {cap : ℕ} {unwritten : List Image}

theorem serves_of_still {α : Type} {prog : BridgeM α}
    (hp : Keeps still Expected prog) :
    Triple (Serves t w₀ cap unwritten) prog
      (fun _ => Serves t w₀ cap unwritten) (Broken t w₀ cap) := by
  have hkept : ∀ w w', still.Rel w w' → Serves t w₀ cap unwritten w →
      Serves t w₀ cap unwritten w' := by
    rintro w w' h ⟨written, hw⟩
    exact ⟨written, hw.of_still h⟩
  apply (hp.triple hkept).consequence (fun _ hw => hw) (fun _ _ hw => hw)
  exact fun _ _ hw => ⟨⟨unwritten, hw.1⟩, hw.2⟩

theorem afterFrame_serves (debug : Bool) (exposureMax : ℤ) (img : Image)
    (v : Vars) :
    Triple (Serves t w₀ cap v.pending) (afterFrame t debug exposureMax img v)
      (fun r w => Sum.elim (fun v' : Vars => Serves t w₀ cap v'.pending w)
        (fun _ => ∃ unwritten, Serves t w₀ cap unwritten w) r)
      (Broken t w₀ cap) := by
  apply Triple.bind (serves_of_still (adjustExposure_keeps expected_refl still_tunes t
    debug exposureMax img v.ae))
  intro ae
  apply Triple.bind (serves_of_still
    (pollClientCount_keeps expected_of_foreign still_polls))
  intro count
  apply Triple.bind (serves_of_still
    (noteCount_keeps expected_refl still_polls.toIdles v.goneSince count))
  intro goneSince
  apply Triple.bind (serves_of_still
    (graceOver_keeps expected_refl still_polls.toIdles goneSince))
  intro expired
  apply Triple.ite
  · exact fun _ => Triple.pure fun w hw => ⟨v.pending, hw⟩
  · exact fun _ => Triple.pure fun w hw => hw

theorem covers_broken {written : List Image} :
    Covers t w₀ (.serving cap unwritten written) (Broken t w₀ cap) :=
  fun _ _ he hw => ⟨⟨unwritten, written, hw⟩, he⟩

theorem serves_of_at {α : Type} {prog : BridgeM α} {Q : α → State → Prop}
    {E : Exc Failure → State → Prop}
    (h : ∀ written, Triple (At t w₀ (.serving cap unwritten written)) prog Q
      E) : Triple (Serves t w₀ cap unwritten) prog Q E := by
  rintro w ⟨written, hw⟩
  exact h written w hw

/-- The next image is the first of those still to be written. -/
theorem nextImage_serves :
    Triple (Serves t w₀ cap unwritten) (nextImage cap unwritten)
      (fun r => Serves t w₀ cap (r.1.toList ++ r.2)) (Broken t w₀ cap) := by
  cases unwritten with
  | cons img rest => exact Triple.pure fun _ hw => hw
  | nil =>
      apply Triple.bind (Q := fun shot =>
        Serves t w₀ cap ((shot.map Shot.image).toList))
      · apply serves_of_at
        intro written
        have hwait : Step t (.serving cap [] written) (.timedOut cap)
            (.serving cap [] written) := .timedOut
        have hframe := frame_at (E := Broken t w₀ cap) hwait
          (fun _ => .dequeued) rfl (fun _ => rfl) rfl (fun _ => rfl)
          covers_broken fun _ => covers_broken
        apply hframe.consequence (fun _ hw => hw) _ fun _ _ hw => hw
        intro shot w hw
        cases shot with
        | none => exact ⟨written, hw⟩
        | some s => exact ⟨written, hw⟩
      · intro shot
        apply Triple.pure
        intro w hw
        rwa [List.append_nil]

/-- An image is written, unless nobody reads the loopback. -/
theorem relayImage_serves {img : Image} {rest : List Image} (digital : ℚ) :
    Triple (Serves t w₀ cap (img :: rest)) (relayImage digital img)
      (fun written w => ∃ unwritten, Serves t w₀ cap unwritten w ∧
        (written = true → unwritten = rest)) (Broken t w₀ cap) := by
  apply serves_of_at
  intro written
  apply tryCall_at covers_broken
  · intro e
    apply Triple.ite
    · intro _
      apply Triple.pure
      intro w hw
      exact ⟨img :: rest, ⟨written, hw⟩, fun h => by cases h⟩
    · intro _
      exact raise_at covers_broken (expected_of_foreign (.osError e) trivial)
  · intro _
    apply Triple.bind (Q := fun _ w' => ∃ w,
      At t w₀ (.serving cap (img :: rest) written) w ∧
        w' = { w with dev := { w.dev with
          loopback := packed digital img :: w.dev.loopback } })
    · exact Triple.modify fun w hw => ⟨w, hw, rfl⟩
    intro _
    apply Triple.bind (Q := fun _ => Serves t w₀ cap rest)
    · apply Triple.modify
      rintro _ ⟨w, hw, rfl⟩
      exact ⟨img :: written, hw.wrote digital⟩
    · exact fun _ => Triple.pure fun w hw => ⟨rest, hw, fun _ => rfl⟩

theorem sessionStep_serves (debug : Bool) (exposureMax : ℤ) (v : Vars) :
    Triple (Serves t w₀ cap v.pending) (sessionStep t debug cap exposureMax v)
      (fun r w => Sum.elim (fun v' : Vars => Serves t w₀ cap v'.pending w)
        (fun _ => ∃ unwritten, Serves t w₀ cap unwritten w) r)
      (Broken t w₀ cap) := by
  apply Triple.bind nextImage_serves
  rintro ⟨img, rest⟩
  cases img with
  | none => exact Triple.pure fun w hw => ⟨rest, hw⟩
  | some img =>
      apply Triple.bind (relayImage_serves v.ae.knobs.digital)
      intro written
      apply Triple.ite
      · intro hwritten
        have hpending : ∀ w, (∃ unwritten, Serves t w₀ cap unwritten w ∧
            (written = true → unwritten = rest)) → Serves t w₀ cap rest w := by
          rintro w ⟨unwritten, hw, hrest⟩
          rwa [← hrest hwritten]
        apply Triple.strengthenPre _ hpending
        exact afterFrame_serves debug exposureMax img ⟨rest, v.ae, v.goneSince⟩
      · intro _
        apply Triple.pure
        rintro w ⟨unwritten, hw, -⟩
        exact ⟨unwritten, hw⟩

end Loop

/-! ## Whole sessions -/

/-- A session that returns has closed its capture. -/
theorem runSession_at (debug : Bool) {n : ℕ} :
    Triple (At t w₀ (.ready n 0)) (runSession t debug)
      (fun _ => At t w₀ .ended) (Out t w₀) := by
  apply Triple.bind (startCapture_at debug 800 256)
  rintro ⟨cap, pending, exposureMax⟩
  apply Triple.bind
    (Q := fun _ => At t w₀ (.serving cap pending []))
  · apply uncovered_out
    apply still_at (covers_holding rfl)
    exact atMoment_keeps expected_of_foreign still_polls.toIdles fun _ =>
      Keeps.pure ()
  intro _
  have hclose : ∀ e : Exc Failure, Expected e →
      Triple (fun w => ∃ unwritten, Serves t w₀ cap unwritten w) (close cap)
        (fun _ => At t w₀ .ended) (Out t w₀) := by
    rintro e he w ⟨unwritten, written, hw⟩
    refine close_at .finished rfl ?_ rfl w hw
    rintro k ⟨⟩
  apply Triple.tryFinally
    (K := fun _ w => ∃ unwritten, Serves t w₀ cap unwritten w)
    (J := Broken t w₀ cap)
  · let serves (v : Vars) : State → Prop := Serves t w₀ cap v.pending
    have hloop := triple_whileTrue (I := serves)
      (sessionStep_serves debug exposureMax)
      (fun v w hw => ⟨⟨v.pending, hw⟩, expected_of_foreign _ trivial⟩)
      (Vars.start ⟨cap, pending, exposureMax⟩)
    exact hloop.strengthenPre fun w hw => ⟨[], hw⟩
  · exact fun _ => hclose .stopped (expected_of_foreign _ trivial)
  · intro e _
    apply Triple.of_fact
    intro he
    apply (hclose e he).consequence (fun _ hw => hw) _ fun _ _ hw => hw
    exact fun _ w hw => ⟨⟨.ended, hw, fun _ => rfl⟩, he⟩
  · intro e w hskip hw
    obtain ⟨⟨unwritten, written, hw⟩, he⟩ := hw
    exact ⟨⟨_, hw, fun hne => absurd (of_decide_eq_true hskip) hne⟩, he⟩

/-- Where a session has come to when control leaves it: no capture is open
there that could still be closed, and it has not run out of attempts. -/
theorem runSession_reaches (t : SensorTiming) (debug : Bool) (w : State) :
    ∃ p, At t w p (runSession t debug w).2 ∧
      ((runSession t debug w).1 ≠ .error .stopped → p.held = none) ∧
      (runSession t debug w).1 ≠ .error (.own .typeError) := by
  have hstart : At t w (.ready w.dev.opened 0) w := At.start
  have hrun := runSession_at debug w hstart
  revert hrun
  rcases runSession t debug w with ⟨e | how, w'⟩
  · rintro ⟨⟨p, hp, hheld⟩, he⟩
    refine ⟨p, hp, fun hne => hheld ?_, fun heq => he (Except.error.inj heq)⟩
    exact fun heq => hne (congrArg Except.error heq)
  · exact fun hp => ⟨.ended, hp, fun _ => rfl, by simp⟩

end Infrared
end Bridges
end SurfaceCameras
