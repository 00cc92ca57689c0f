import SurfaceCameras.Bridges.ProducerFrames
import Mathlib.Tactic.Linarith

/-!
# The teardown of a producer bridge

When a bridge ends with a producer alive, its teardown should have tried to
stop that producer for the whole of `STOP_BUDGET`.  The teardown knows the
producer from `CURRENT_PROC`, and it can itself be cut short: by a signal that
arrives before it ignores signals, and by a log or a `SIGINT` that fails.

A producer that is alive when serving ends is the recorded one, unless a signal
arrived between the two steps that spawn and record it.
-/

namespace SurfaceCameras
namespace Bridges
namespace Producer

open Prog

/-! ## What a teardown owes -/

/-- The body of `main` without its `finally`. -/
def beforeTeardown (b : Bridge) (debug : Bool) : BridgeM Unit := do
  setup b
  Prog.tryCatch (serve b debug) fun e =>
    match e with
    | .keyboardInterrupt => log
    | e => Prog.raise e

/-- `main` as far as its first exception. -/
def serving (b : Bridge) (debug : Bool) : BridgeM Unit := do
  setup b
  serve b debug

/-- The `finally` of `main`, as far as the stop of the producer it has found
recorded: whether that one is gone already. -/
def beforeStop (proc : ℕ) : BridgeM Bool := do
  ignoreSignal .sigterm
  ignoreSignal .sigint
  let gone ← exited proc
  Prog.when (gone = false) log
  pure gone

/-- The teardown that starts here runs `stop_gst` on this producer, which goes
on for the whole budget. -/
def StoppedFor (w : State) (proc : ℕ) : Prop :=
  w.dev.currentProc = some proc ∧
    ∃ w₂ w₃, beforeStop proc w = (.ok false, w₂) ∧
      stopGst proc w₂ = (.ok false, w₃) ∧
      (w₂.now : ℚ) + stopBudget ≤ w₃.now

/-- If a producer is still alive when `main` exits, the teardown has tried to
stop it for the whole budget. -/
def NoOrphan (b : Bridge) (debug : Bool) (t : Instant)
    (script : List (Moment Happening)) : Prop :=
  ∀ r w', main b debug (boot t script) = (r, w') → r ≠ .error .stopped →
    ∀ proc ∈ w'.dev.alive,
      StoppedFor (beforeTeardown b debug (boot t script)).2 proc

/-- A producer that is alive is the recorded one. -/
def Recorded (w : State) : Prop :=
  ∀ proc ∈ w.dev.alive, w.dev.currentProc = some proc

/-- A teardown that starts here is not cut short: no signal arrives before it
ignores that signal, and none of its operations fails from the log on. -/
structure Uncut (w : State) : Prop where
  sigterm : ∀ m ∈ w.script[0]?, m.signal = none
  sigint : ∀ m ∈ w.script[1]?, m.signal ≠ some .sigint
  fault : ∀ m ∈ w.script.drop 3, m.fault = none

/-! ## Children -/

/-- No producer is started or recorded. -/
structure Crew (w w' : State) : Prop where
  currentProc : w'.dev.currentProc = w.dev.currentProc
  alive : ∀ p ∈ w'.dev.alive, p ∈ w.dev.alive

def crew : Frame State where
  Rel := Crew
  refl _ := ⟨rfl, fun _ h => h⟩
  trans h h' := ⟨h'.currentProc.trans h.currentProc,
    fun p hp => h.alive p (h'.alive p hp)⟩

theorem crew_polls : Polls crew where
  advance w m rest := ⟨rfl, (calm_advance w m rest).alive⟩
  noteRaised _ := ⟨rfl, fun _ h => h⟩
  later _ _ := ⟨rfl, fun _ h => h⟩
  dropEvent _ _ := ⟨rfl, fun _ h => h⟩
  dequeued _ _ := ⟨rfl, fun _ h => h⟩

theorem crew_marks : Marks crew :=
  ⟨crew_polls, fun _ _ => ⟨rfl, fun _ h => h⟩⟩

theorem crew_relays : Relays crew :=
  ⟨crew_polls.toIdles, fun _ _ => ⟨rfl, fun _ h => h⟩⟩

/-- Between two producers. -/
def Vacant (w : State) : Prop := w.dev.alive = []

/-- No producer but `proc` can be alive. -/
def Only (proc : ℕ) (w : State) : Prop := ∀ p ∈ w.dev.alive, p = proc

/-- Besides, `proc` is recorded. -/
structure Staffed (proc : ℕ) (w : State) : Prop where
  only : Only proc w
  currentProc : w.dev.currentProc = some proc

/-- How serving is left by an exception: only a signal can leave a producer
unrecorded. -/
def Left (e : Exc SessionOver) (w : State) : Prop :=
  e ≠ .stopped → e ≠ .keyboardInterrupt → Recorded w

section Children

variable {proc : ℕ} {w w' : State}

theorem Recorded.of_crew (h : Crew w w') (hw : Recorded w) : Recorded w' := by
  intro p hp
  rw [h.currentProc]
  exact hw p (h.alive p hp)

theorem Vacant.of_crew (h : Crew w w') (hw : Vacant w) : Vacant w' := by
  apply List.eq_nil_iff_forall_not_mem.mpr
  intro p hp
  have hold := h.alive p hp
  rw [hw] at hold
  exact List.not_mem_nil hold

theorem Only.of_crew (h : Crew w w') (hw : Only proc w) : Only proc w' :=
  fun p hp => hw p (h.alive p hp)

theorem Staffed.of_crew (h : Crew w w') (hw : Staffed proc w) :
    Staffed proc w' :=
  ⟨hw.only.of_crew h, h.currentProc.trans hw.currentProc⟩

theorem Vacant.recorded (hw : Vacant w) : Recorded w := by
  intro p hp
  rw [hw] at hp
  cases hp

theorem Staffed.recorded (hw : Staffed proc w) : Recorded w := by
  intro p hp
  rw [hw.only p hp]
  exact hw.currentProc

theorem Vacant.left (hw : Vacant w) (e : Exc SessionOver) : Left e w :=
  fun _ _ => hw.recorded

theorem Staffed.left (hw : Staffed proc w) (e : Exc SessionOver) : Left e w :=
  fun _ _ => hw.recorded

theorem Staffed.vacant (hw : Staffed proc w) (hgone : Gone proc w) :
    Vacant w := by
  apply List.eq_nil_iff_forall_not_mem.mpr
  intro p hp
  have hp' : p = proc := hw.only p hp
  exact hgone (hp' ▸ hp)

end Children

/-! ## Serving -/

section Serving

variable {b : Bridge} {proc : ℕ}

theorem vacant_of_crew {α : Type} {p : BridgeM α} {R : Exc SessionOver → Prop}
    (hp : Keeps crew R p) : Triple Vacant p (fun _ => Vacant) Left :=
  (hp.triple fun _ _ h => Vacant.of_crew h).consequence
    (fun _ h => h) (fun _ _ h => h) (fun e _ h => h.1.left e)

theorem staffed_of_crew {α : Type} {p : BridgeM α}
    {R : Exc SessionOver → Prop} (hp : Keeps crew R p) :
    Triple (Staffed proc) p (fun _ => Staffed proc) Left :=
  (hp.triple fun _ _ h => Staffed.of_crew h).consequence
    (fun _ h => h) (fun _ _ h => h) (fun e _ h => h.1.left e)

/-- A producer is spawned where none is alive; it is not recorded yet. -/
theorem popen_only : Triple Vacant popen (fun proc => Only proc) Left := by
  apply triple_tryCall
  · exact fun w m rest hw => hw.of_crew (crew_polls.advance w m rest)
  · exact fun w hw => hw.left _
  · exact fun w hw => (hw.of_crew (crew_polls.noteRaised w)).left _
  · intro e
    exact triple_raiseMarked fun w hw =>
      (hw.of_crew (crew_polls.noteRaised w)).left _
  intro m
  apply Triple.bind (Q := fun proc w => Vacant w ∧ proc = w.dev.spawned)
  · exact Triple.gets fun w hw => ⟨hw, rfl⟩
  intro proc
  apply Triple.bind (Q := fun _ w => Vacant w ∧ proc = w.dev.spawned)
  · exact Triple.modify fun _ hw => hw
  intro _
  apply Triple.bind (Q := fun _ => Only proc)
  · apply Triple.modify
    rintro w ⟨hw, rfl⟩ p hp
    have halive : w.dev.alive = [] := hw
    rw [State.spawn, halive] at hp
    exact List.mem_singleton.mp hp
  · exact fun _ => Triple.pure fun _ h => h

/-- Only a signal, or the end of the script, comes between a producer and its
recording. -/
theorem setCurrentProc_staffed :
    Triple (Only proc) (setCurrentProc proc) (fun _ => Staffed proc) Left := by
  apply triple_atMoment
  · exact fun w m rest hw => hw.of_crew (crew_polls.advance w m rest)
  · exact fun _ _ h => absurd rfl h
  · exact fun _ _ _ h => absurd rfl h
  · exact fun m => Triple.modify fun w hw => ⟨hw, rfl⟩

theorem stopGst_staffed :
    Triple (Staffed proc) (stopGst proc)
      (fun r w => Staffed proc w ∧ (r = true → Vacant w)) Left := by
  have hstop := stopGst_keeps foreign crew_polls.toIdles proc
  refine ((staffed_of_crew hstop).and (stopGst_gone proc)).consequence
    (fun _ h => ⟨h, trivial⟩) ?_ (fun _ _ h => h.1)
  exact fun r w h => ⟨h.1, fun hr => h.1.vacant (h.2 hr)⟩

theorem exit_left {α : Type} {Q : α → State → Prop} :
    Triple (Staffed proc)
      (log >>= fun _ => Prog.raise .systemExit : BridgeM α) Q Left := by
  have hlog := log_keeps (ρ := SessionOver) foreign crew_polls.toIdles
  apply Triple.bind (staffed_of_crew hlog)
  exact fun _ => Triple.raise fun _ h => h.left _

theorem endSession_vacant (so : SessionOver) :
    Triple (Staffed proc) (endSession b proc so) (fun _ => Vacant) Left := by
  have hlog := log_keeps (ρ := SessionOver) foreign crew_polls.toIdles
  have hmono := monotonic_keeps (ρ := SessionOver) foreign crew_polls.toIdles
  apply Triple.bind
    (staffed_of_crew (Keeps.when (hmono.bind fun _ => Keeps.pure ())))
  intro _
  apply Triple.bind (staffed_of_crew hlog)
  intro _
  apply Triple.bind stopGst_staffed
  intro stopped
  apply Triple.ite
  · intro hs
    have hvacant : ∀ again : Bool, Triple
        (fun w => Staffed proc w ∧ (stopped = true → Vacant w))
        (pure again : BridgeM Bool) (fun _ => Vacant) Left :=
      fun _ => Triple.pure fun _ h => h.2 hs
    apply Triple.ite
    · intro _
      apply Triple.bind
        ((vacant_of_crew (Keeps.when hlog)).strengthenPre fun _ h => h.2 hs)
      intro _
      apply Triple.bind
        (vacant_of_crew (sleep_keeps foreign crew_polls.toIdles 1))
      exact fun _ => Triple.pure fun _ h => h
    · exact fun _ => hvacant false
  · exact fun _ => exit_left.strengthenPre fun _ h => h.1

theorem failedStart_vacant (attempt : ℕ) :
    Triple (Staffed proc) (failedStart b proc attempt) (fun _ => Vacant)
      Left := by
  apply Triple.bind stopGst_staffed
  intro stopped
  apply Triple.ite
  · intro hs
    have hretry : Triple Vacant (Prog.when (attempt < maxAttempts) (do
        beforeRetry b
        mark fun w => .retry w.newest)) (fun _ => Vacant) Left :=
      vacant_of_crew (retry_keeps crew_marks foreign b attempt)
    exact hretry.strengthenPre fun _ h => h.2 hs
  · exact fun _ => exit_left.strengthenPre fun _ h => h.1

theorem runAttempt_vacant (debug : Bool) (attempt : ℕ) :
    Triple Vacant (runAttempt b debug attempt) (fun _ => Vacant) Left := by
  have hidle := crew_polls.toIdles
  apply Triple.bind (vacant_of_crew (log_keeps foreign hidle))
  intro _
  apply Triple.bind popen_only
  intro proc
  apply Triple.bind setCurrentProc_staffed
  intro _
  apply Triple.bind
    (staffed_of_crew (syscall_keeps foreign hidle fun _ => Keeps.pure ()))
  intro _
  apply Triple.bind (staffed_of_crew (tryCall_keeps foreign hidle
    (fun _ => Keeps.pure ()) fun _ => Keeps.pure ()))
  intro _
  apply Triple.bind (staffed_of_crew (monotonic_keeps foreign hidle))
  intro spawnT
  apply Triple.bind (staffed_of_crew
    (relay_keeps crew_marks crew_relays foreign b debug proc spawnT))
  intro so
  cases so with
  | some so =>
      exact Triple.bind (endSession_vacant so) fun _ =>
        Triple.pure fun _ h => h
  | none =>
      exact Triple.bind (failedStart_vacant attempt) fun _ =>
        Triple.pure fun _ h => h

theorem runAttempts_vacant (debug : Bool) (left : ℕ) :
    Triple Vacant (runAttempts b debug left) (fun _ => Vacant) Left := by
  induction left with
  | zero =>
      have hidle := crew_polls.toIdles
      have hgive := (log_keeps foreign hidle).bind fun _ =>
        (sleep_keeps foreign hidle 2).bind fun _ =>
          Keeps.pure (R := Exc.Foreign) false
      exact vacant_of_crew hgive
  | succ left ih =>
      apply Triple.bind (runAttempt_vacant debug (maxAttempts - left))
      intro r
      cases r with
      | some again => exact Triple.pure fun _ h => h
      | none => exact ih

theorem runSession_vacant (debug : Bool) :
    Triple Vacant (runSession b debug) (fun _ => Vacant) Left := by
  have hidle := crew_polls.toIdles
  apply Triple.bind (vacant_of_crew (otherProducers_keeps foreign hidle b))
  intro others
  apply Triple.ite
  · intro _
    have hrefuse := (log_keeps foreign hidle).bind fun _ =>
      (sleep_keeps foreign hidle 5).bind fun _ =>
        (pollClientCount_keeps foreign crew_polls).bind fun count =>
          Keeps.pure (R := Exc.Foreign) (count.all (0 < ·))
    exact vacant_of_crew hrefuse
  · exact fun _ => runAttempts_vacant debug maxAttempts

theorem demand_vacant (debug : Bool) :
    Triple Vacant (demand b debug) (fun _ => Vacant) Left := by
  have hidle := crew_polls.toIdles
  have hmono := monotonic_keeps (ρ := SessionOver) foreign hidle
  have hstopped : ∀ w, Vacant w → Left .stopped w := fun _ h => h.left _
  cases b with
  | psys =>
      change Triple _ (frontDemand debug) _ _
      apply triple_whileTrue (I := fun _ => Vacant) _ fun _ => hstopped
      intro _
      apply Triple.bind (runSession_vacant debug)
      intro again
      apply Triple.ite
      · exact fun _ => Triple.bind (vacant_of_crew hmono) fun _ =>
          Triple.pure fun _ h => h
      · exact fun _ => Triple.pure fun _ h => h
  | rear =>
      change Triple _ (whileTrue (restartStep debug) []) _ _
      apply triple_whileTrue (I := fun _ => Vacant) _ fun _ => hstopped
      intro restarts
      apply Triple.bind (runSession_vacant debug)
      intro again
      apply Triple.ite
      · intro _
        apply Triple.bind (vacant_of_crew hmono)
        intro now
        apply Triple.ite
        · intro _
          apply Triple.bind (vacant_of_crew (log_keeps foreign hidle))
          intro _
          apply Triple.bind (vacant_of_crew (sleep_keeps foreign hidle 10))
          exact fun _ => Triple.pure fun _ h => h
        · exact fun _ => Triple.pure fun _ h => h
      · exact fun _ => Triple.pure fun _ h => h

theorem serve_left (debug : Bool) :
    Triple Vacant (serve b debug) (fun _ => Vacant) Left := by
  have hidle := crew_polls.toIdles
  have hlog := log_keeps (ρ := SessionOver) foreign hidle
  apply triple_whileTrue (I := fun _ => Vacant) _ fun _ _ h => h.left _
  intro _
  apply Triple.bind
    (vacant_of_crew (selectEvent_keeps foreign hidle fun w => crew.refl w))
  intro _
  apply Triple.bind (Q := fun _ => Vacant)
  · exact Triple.modify fun _ hw => hw
  intro _
  apply Triple.bind (vacant_of_crew (pollClientCount_keeps foreign crew_polls))
  intro count
  apply Triple.bind (Q := fun _ => Vacant)
  · apply Triple.when
    · intro _
      apply Triple.bind (vacant_of_crew (monotonic_keeps foreign hidle))
      intro _
      apply Triple.bind (vacant_of_crew hlog)
      intro _
      exact Triple.bind (demand_vacant debug) fun _ => vacant_of_crew hlog
    · exact fun _ _ h => h
  · exact fun _ => Triple.pure fun _ h => h

end Serving

/-! ## The budget of a stop -/

/-- Nothing disturbs the bridge any more, and it is `t` or later. -/
structure Since (t : Instant) (w : State) : Prop where
  undisturbed : w.Undisturbed
  now : t ≤ w.now

/-- Nothing but the end of the script. -/
def Halted (e : Exc SessionOver) (_ : State) : Prop := e = .stopped

section Budget

variable {t : Instant} {proc : ℕ} {α : Type} {Q : α → State → Prop}

theorem Since.mono {t' : Instant} {w : State} (hw : Since t w) (h : t' ≤ t) :
    Since t' w :=
  ⟨hw.undisturbed, h.trans hw.now⟩

theorem Since.advance {w : State} {m : Moment Happening}
    {rest : List (Moment Happening)} (hscript : w.script = m :: rest)
    (hw : Since t w) : Since t (w.advance m rest) :=
  ⟨hw.undisturbed.advance hscript, hw.now.trans (Instant.le_after _ _)⟩

theorem atMoment_since {f : Moment Happening → BridgeM α}
    (hf : ∀ m, Triple (Since t) (f m) Q Halted) :
    Triple (Since t) (atMoment f) Q Halted :=
  triple_atMoment_undisturbed (fun _ hw => hw.undisturbed)
    (fun _ _ _ hscript hw => hw.advance hscript) (fun _ _ => rfl)
    fun m _ => hf m

theorem tryCall_since {handler : OsError → BridgeM α}
    {f : Moment Happening → BridgeM α}
    (hf : ∀ m, Triple (Since t) (f m) Q Halted) :
    Triple (Since t) (tryCall handler f) Q Halted :=
  triple_tryCall_undisturbed (fun _ hw => hw.undisturbed)
    (fun _ _ _ hscript hw => hw.advance hscript) (fun _ _ => rfl) hf

theorem monotonic_since :
    Triple (Since t) (monotonic : BridgeM Instant)
      (fun now w => Since now w ∧ t ≤ now) Halted :=
  atMoment_since fun _ => Triple.gets fun _ hw =>
    ⟨⟨hw.undisturbed, le_refl _⟩, hw.now⟩

theorem exited_since :
    Triple (Since t) (exited proc) (fun _ => Since t) Halted :=
  atMoment_since fun _ => Triple.gets fun _ hw => hw

theorem sendSigint_since :
    Triple (Since t) (sendSigint proc) (fun _ => Since t) Halted :=
  tryCall_since fun _ => Triple.pure fun _ hw => hw

theorem waitMore_since (nextInt : ℚ) :
    Triple (Since t) (waitMore nextInt)
      (fun r w => Sum.elim (fun _ => Since t w) (fun gone => gone = true) r)
      Halted := by
  apply Triple.bind (Q := fun _ => Since t)
  · apply atMoment_since
    exact fun _ => Triple.modify fun w hw =>
      ⟨⟨hw.undisturbed.ignored, hw.undisturbed.fault⟩,
        hw.now.trans (Instant.le_after _ _)⟩
  · exact fun _ => Triple.pure fun _ hw => hw

theorem sigintAgain_since :
    Triple (Since t) (sigintAgain proc) (fun _ => Since t) Halted := by
  apply Triple.tryCatch (J := Halted)
  · exact Triple.bind sendSigint_since fun _ => Triple.pure fun _ hw => hw
  · intro e
    split
    · exact fun _ hw => by cases hw
    · exact Triple.raise fun _ hw => hw

/-- An iteration within the budget ends the loop only with the producer
gone. -/
theorem stopStep_since (nextInt : ℚ) :
    Triple (Since t) (stopStep proc nextInt)
      (fun r w => Sum.elim (fun _ => Since t w) (fun gone => gone = true) r)
      Halted := by
  apply Triple.bind exited_since
  intro gone
  apply Triple.ite
  · exact fun _ => Triple.pure fun _ _ => rfl
  intro _
  apply Triple.bind monotonic_since
  intro now
  apply Triple.of_fact
  intro hnow
  have hwait : ∀ n, Triple (Since now) (waitMore n)
      (fun r w => Sum.elim (fun _ => Since t w) (fun gone => gone = true) r)
      Halted := by
    intro n
    refine (waitMore_since n).consequence (fun _ hw => hw) ?_ fun _ _ h => h
    rintro (n' | gone) w hw
    · exact hw.mono hnow
    · exact hw
  apply Triple.ite
  · intro _
    apply Triple.bind sigintAgain_since
    intro lost
    apply Triple.ite
    · exact fun _ => Triple.pure fun _ _ => rfl
    · intro _
      apply Triple.bind monotonic_since
      intro t'
      apply Triple.of_fact
      exact fun ht' => (hwait _).strengthenPre fun _ hw => hw.mono ht'
  · exact fun _ => hwait nextInt

/-- An undisturbed `stop_gst` gives up only once the budget has passed. -/
theorem stopGst_budget :
    Triple (Since t) (stopGst proc)
      (fun stopped w => stopped = false → (t : ℚ) + stopBudget ≤ w.now)
      Halted := by
  apply Triple.bind exited_since
  intro gone
  apply Triple.ite
  · exact fun _ => Triple.pure fun _ _ h => by cases h
  intro _
  apply Triple.bind monotonic_since
  intro t₁
  apply Triple.of_fact
  intro ht₁
  apply Triple.bind sendSigint_since
  intro _
  apply Triple.bind monotonic_since
  intro t₂
  apply Triple.of_fact
  intro ht₂
  have hloop : ∀ n, Triple (Since t₁)
      (whileTrue (fun nextInt => do
        let now ← monotonic
        if (now : ℚ) < t₁ + stopBudget then
          stopStep proc nextInt
        else do
          let gone ← exited proc
          pure (.inr gone)) n : BridgeM Bool)
      (fun stopped w => stopped = false → (t : ℚ) + stopBudget ≤ w.now)
      Halted := by
    apply triple_whileTrue (I := fun _ => Since t₁) _ fun _ _ _ => rfl
    intro nextInt
    apply Triple.bind monotonic_since
    intro now
    apply Triple.of_fact
    intro hnow
    apply Triple.ite
    · intro _
      refine (stopStep_since nextInt).consequence (fun _ hw => hw) ?_
        fun _ _ h => h
      rintro (n' | gone) w hw
      · exact hw.mono hnow
      · intro hgone
        rw [hw] at hgone
        cases hgone
    · intro hlate
      apply Triple.bind exited_since
      refine fun gone => Triple.pure fun w hw _ => ?_
      have hstart : (t : ℚ) ≤ t₁ := ht₁
      have hend : (now : ℚ) ≤ w.now := hw.now
      linarith
  exact (hloop _).strengthenPre fun _ hw => hw.mono ht₂

end Budget

/-! ## The teardown -/

section Teardown

variable {proc : ℕ} {w w' : State}

/-- Ignoring the first signal. -/
theorem ignoreSigterm_uncut :
    Triple Uncut (ignoreSignal .sigterm)
      (fun _ w => .sigterm ∈ w.ignored ∧
        (∀ m ∈ w.script[0]?, m.signal ≠ some .sigint) ∧
        ∀ m ∈ w.script.drop 2, m.fault = none) Halted := by
  apply triple_atMoment_next fun _ _ => rfl
  · rintro w m rest hw hscript ⟨s, hs, -⟩
    have hnone : m.signal = none := hw.sigterm m (by rw [hscript]; rfl)
    rw [hnone] at hs
    cases hs
  · intro w m rest hw hscript _
    have hsigint := hw.sigint
    have hfault := hw.fault
    rw [hscript] at hsigint hfault
    exact ⟨List.mem_cons_self, hsigint, hfault⟩

/-- Ignoring the second one; from here on there are none. -/
theorem ignoreSigint_uncut :
    Triple
      (fun w : State => .sigterm ∈ w.ignored ∧
        (∀ m ∈ w.script[0]?, m.signal ≠ some .sigint) ∧
        ∀ m ∈ w.script.drop 2, m.fault = none)
      (ignoreSignal .sigint)
      (fun _ w => (∀ s, s ∈ w.ignored) ∧
        ∀ m ∈ w.script.drop 1, m.fault = none) Halted := by
  apply triple_atMoment_next fun _ _ => rfl
  · rintro w m rest ⟨hterm, hsigint, -⟩ hscript ⟨s, hs, hnot⟩
    have hne : m.signal ≠ some .sigint := hsigint m (by rw [hscript]; rfl)
    cases s with
    | sigterm => exact absurd hterm hnot
    | sigint => exact absurd hs hne
  · rintro w m rest ⟨hterm, -, hfault⟩ hscript _
    rw [hscript] at hfault
    refine ⟨?_, hfault⟩
    rintro (_ | _)
    · exact List.mem_cons_of_mem _ hterm
    · exact List.mem_cons_self

/-- An uncut teardown reaches the stop of its producer undisturbed. -/
theorem beforeStop_uncut :
    Triple Uncut (beforeStop proc) (fun _ w => w.Undisturbed) Halted := by
  apply Triple.bind ignoreSigterm_uncut
  intro _
  apply Triple.bind ignoreSigint_uncut
  intro _
  apply Triple.bind (Q := fun _ w => w.Undisturbed)
  · apply triple_atMoment_next fun _ _ => rfl
    · rintro w m rest hw _ ⟨s, -, hs⟩
      exact absurd (hw.1 s) hs
    · intro w m rest hw hscript _
      have hfault := hw.2
      rw [hscript] at hfault
      exact ⟨hw.1, hfault⟩
  · intro gone
    apply Triple.bind (Q := fun _ w => w.Undisturbed)
    · apply Triple.when
      · intro _
        exact triple_tryCall_undisturbed (fun _ hw => hw)
          (fun _ _ _ hscript hw => hw.advance hscript) (fun _ _ => rfl)
          fun _ => Triple.pure fun _ hw => hw
      · exact fun _ _ hw => hw
    · exact fun _ => Triple.pure fun _ hw => hw

/-- A producer that the teardown finds gone is gone. -/
theorem beforeStop_gone :
    Triple (fun _ => True) (beforeStop proc)
      (fun gone w => gone = true → Gone proc w) (fun _ _ => True) := by
  apply Triple.bind (Triple.any _)
  intro _
  apply Triple.bind (Triple.any _)
  intro _
  apply Triple.bind (exited_gone proc)
  intro gone
  apply Triple.bind (Q := fun _ w => gone = true → Gone proc w)
  · apply Triple.when
    · rintro rfl
      exact (Triple.any _).consequence (fun _ _ => trivial)
        (fun _ _ _ h => by cases h) fun _ _ _ => trivial
    · exact fun _ _ h => h
  · exact fun _ => Triple.pure fun _ h => h

theorem ignoreSignal_currentProc (s : Signal) :
    Keeps (Frame.fixing fun w : State => w.dev.currentProc)
      (fun _ => True) (ignoreSignal s) :=
  atMoment_keeps (fun _ _ => trivial)
    ⟨fun _ _ _ => rfl, fun _ => rfl, fun _ _ => rfl⟩
    fun _ => Keeps.modify fun _ => rfl

/-- The teardown of a recorded producer. -/
theorem shutdown_of_recorded (hw : w.dev.currentProc = some proc) :
    shutdown w =
      (beforeStop proc >>= fun gone => Prog.when (gone = false) (do
        let stopped ← stopGst proc
        Prog.when (stopped = false) log)) w := by
  have hkeep := fun s => ignoreSignal_currentProc s
  rcases h₁ : ignoreSignal .sigterm w with ⟨e | u, w₁⟩
  · rw [shutdown, bind_error h₁, beforeStop, bind_assoc, bind_error h₁]
  · rw [shutdown, bind_ok h₁, beforeStop, bind_assoc, bind_ok h₁]
    have hw₁ := hkeep .sigterm w w rfl
    rw [h₁] at hw₁
    rcases h₂ : ignoreSignal .sigint w₁ with ⟨e | u, w₂⟩
    · rw [bind_error h₂, bind_assoc, bind_error h₂]
    · rw [bind_ok h₂, bind_assoc, bind_ok h₂]
      have hw₂ := hkeep .sigint w₁ w₁ rfl
      rw [h₂] at hw₂
      have hproc : w₂.dev.currentProc = some proc :=
        (Eq.trans hw₂ hw₁).trans hw
      have hgets : (Prog.gets fun w : State => w.dev.currentProc :
          BridgeM (Option ℕ)) w₂ = (.ok (some proc), w₂) := by
        rw [gets_apply, hproc]
      rw [bind_ok hgets, bind_assoc]
      refine congrFun (congrArg (fun f : Bool → BridgeM Unit =>
        exited proc >>= f) (funext fun gone => ?_)) w₂
      cases gone with
      | true => rfl
      | false => rw [bind_assoc]; rfl

/-- A signal that arrives before the teardown has ignored the first one ends
it, and no producer is stopped. -/
theorem shutdown_interrupted {m : Moment Happening}
    {rest : List (Moment Happening)} (hscript : w.script = m :: rest)
    (hsignal : m.Interrupts w) :
    shutdown w = (.error .keyboardInterrupt, (w.advance m rest).noteRaised) := by
  have hignore : ignoreSignal .sigterm w =
      (.error .keyboardInterrupt, (w.advance m rest).noteRaised) := by
    unfold ignoreSignal atMoment
    rw [hscript]
    exact if_pos hsignal
  exact bind_error hignore

/-- An uncut teardown leaves a producer alive only after it has tried to stop
it for the whole budget. -/
theorem shutdown_stops (hrecorded : Recorded w) (hcut : Uncut w)
    {r : Except (Exc SessionOver) Unit} (hshutdown : shutdown w = (r, w'))
    (hr : r ≠ .error .stopped) : ∀ p ∈ w'.dev.alive, StoppedFor w p := by
  intro p hp
  have hcalm := shutdown_calm.outcome w
  rw [hshutdown] at hcalm
  have hcurrent := hrecorded p (hcalm.alive p hp)
  rw [shutdown_of_recorded hcurrent] at hshutdown
  have hbefore : Post (fun _ w => w.Undisturbed) Halted (beforeStop p w) :=
    beforeStop_uncut w hcut
  have hfound : Post (fun gone w => gone = true → Gone p w) (fun _ _ => True)
      (beforeStop p w) :=
    beforeStop_gone w trivial
  rcases hb : beforeStop p w with ⟨e | gone, w₂⟩
  · rw [hb] at hbefore
    rw [bind_error hb, Prod.mk.injEq] at hshutdown
    have he : e = .stopped := hbefore
    exact absurd hshutdown.1.symm (he ▸ hr)
  rw [hb] at hbefore hfound
  rw [bind_ok hb] at hshutdown
  cases gone with
  | true =>
      have hw' : w₂ = w' := congrArg Prod.snd hshutdown
      exact absurd hp (hw' ▸ hfound rfl)
  | false =>
      rw [when_pos rfl] at hshutdown
      have hbudget : Post (fun stopped w => stopped = false →
          (w₂.now : ℚ) + stopBudget ≤ w.now) Halted (stopGst p w₂) :=
        stopGst_budget w₂ ⟨hbefore, le_refl _⟩
      have hlost := stopGst_gone p w₂ trivial
      rcases hs : stopGst p w₂ with ⟨e | stopped, w₃⟩
      · rw [hs] at hbudget
        rw [bind_error hs, Prod.mk.injEq] at hshutdown
        have he : e = .stopped := hbudget
        exact absurd hshutdown.1.symm (he ▸ hr)
      rw [hs] at hbudget hlost
      rw [bind_ok hs] at hshutdown
      cases stopped with
      | true =>
          have hw' : w₃ = w' := congrArg Prod.snd hshutdown
          exact absurd hp (hw' ▸ hlost rfl)
      | false => exact ⟨hcurrent, w₂, w₃, hb, hs, hbudget rfl⟩

end Teardown

/-! ## Every run -/

section Runs

variable {b : Bridge} {debug : Bool} {w w' : State}

theorem serving_left :
    Triple Vacant (serving b debug) (fun _ => Vacant) Left := by
  apply Triple.bind (vacant_of_crew (setup_keeps foreign crew_relays b))
  exact fun _ => serve_left debug

/-- A producer that is alive when the teardown starts is recorded, unless the
signal that ended serving has come between. -/
theorem beforeTeardown_recorded (hw : Vacant w)
    (hsignal : (serving b debug w).1 = .error .keyboardInterrupt →
      Recorded (serving b debug w).2)
    (hend : (beforeTeardown b debug w).1 ≠ .error .stopped) :
    Recorded (beforeTeardown b debug w).2 := by
  have hleft : Post (fun _ => Vacant) Left (serving b debug w) :=
    serving_left w hw
  have hlog := log_keeps (ρ := SessionOver) foreign crew_polls.toIdles
  rcases hsetup : setup b w with ⟨e | u, w₁⟩
  · rw [serving, bind_error hsetup] at hleft hsignal
    rw [beforeTeardown, bind_error hsetup] at hend ⊢
    by_cases he : e = .keyboardInterrupt
    · exact hsignal (congrArg _ he)
    · exact hleft (fun hs => hend (congrArg _ hs)) he
  rw [serving, bind_ok hsetup] at hleft hsignal
  rw [beforeTeardown, bind_ok hsetup] at hend ⊢
  rcases hserve : serve b debug w₁ with ⟨e | u', w₂⟩
  · rw [hserve] at hleft hsignal
    rw [tryCatch_error hserve] at hend ⊢
    cases e with
    | keyboardInterrupt => exact (hsignal rfl).of_crew (hlog.outcome w₂)
    | stopped => exact absurd rfl hend
    | systemExit | osError | own => exact hleft nofun nofun
  · rw [hserve] at hleft
    rw [tryCatch_ok hserve]
    exact hleft.recorded

/-- `main` ends in its setup or in its teardown. -/
theorem main_ends {r : Except (Exc SessionOver) Unit}
    (hmain : main b debug w = (r, w')) (hr : r ≠ .error .stopped) :
    (∃ e, setup b w = (.error e, w')) ∨
      (beforeTeardown b debug w).1 ≠ .error .stopped ∧
        ∃ y, shutdown (beforeTeardown b debug w).2 = (y, w') ∧
          y ≠ .error .stopped := by
  rcases hsetup : setup b w with ⟨e | u, w₁⟩
  · rw [main, bind_error hsetup, Prod.mk.injEq] at hmain
    exact .inl ⟨e, by rw [hmain.2]⟩
  right
  rw [main, bind_ok hsetup] at hmain
  rw [beforeTeardown, bind_ok hsetup]
  generalize hbody : Prog.tryCatch (serve b debug) _ = body at hmain ⊢
  rcases hx : body w₁ with ⟨x, w₂⟩
  have hend : x ≠ .error .stopped := by
    rintro rfl
    simp only [Prog.tryFinally, hx] at hmain
    exact hr (congrArg Prod.fst hmain).symm
  obtain ⟨y, hy, hfinal⟩ := tryFinally_ends hx (by
    rintro e rfl
    cases e with
    | stopped => exact absurd rfl hend
    | keyboardInterrupt | systemExit | osError | own => rfl) hmain
  exact ⟨hend, y, hy, fun hstopped => hr (hfinal _ hstopped)⟩

end Runs

/-- In a run whose signals leave no producer unrecorded and whose teardown, if
it starts with a producer alive, is not cut short, no producer is orphaned. -/
theorem noOrphan_of_uncut (b : Bridge) (debug : Bool) (t : Instant)
    (script : List (Moment Happening))
    (hsignal : (serving b debug (boot t script)).1 = .error .keyboardInterrupt →
      Recorded (serving b debug (boot t script)).2)
    (hcut : (beforeTeardown b debug (boot t script)).2.dev.alive ≠ [] →
      Uncut (beforeTeardown b debug (boot t script)).2) :
    NoOrphan b debug t script := by
  intro r w' hmain hr p hp
  have hboot : Vacant (boot t script) := rfl
  obtain ⟨e, hsetup⟩ | ⟨hend, y, hshutdown, hy⟩ := main_ends hmain hr
  · have hcrew := (setup_keeps foreign crew_relays b).outcome (boot t script)
    rw [hsetup] at hcrew
    have hvacant : w'.dev.alive = [] := hboot.of_crew hcrew
    rw [hvacant] at hp
    cases hp
  · have hcalm := shutdown_calm.outcome
      (beforeTeardown b debug (boot t script)).2
    rw [hshutdown] at hcalm
    have halive := List.ne_nil_of_mem (hcalm.alive p hp)
    exact shutdown_stops (beforeTeardown_recorded hboot hsignal hend)
      (hcut halive) hshutdown hy p hp

/-- A client opens; the producer is recorded, and a signal ends the relay loop.
The producer ignores every `SIGINT` for the whole budget. -/
def stoppedInVain : List (Moment Happening) :=
  List.replicate 8 quietMoment ++
    [{ outside := {}, events := [⟨clientUsage, 1⟩] }] ++
    List.replicate 12 quietMoment ++
    [{ outside := {}, signal := some .sigterm }] ++
    List.replicate 9 quietMoment ++
    [{ outside := {}, elapsed := 21 }, quietMoment, quietMoment]

/-- The producer of that run is still alive at its end. -/
theorem noOrphan_stoppedInVain :
    NoOrphan .psys false ⟨1, one_pos⟩ stoppedInVain ∧
      (main .psys false (boot ⟨1, one_pos⟩ stoppedInVain)).2.dev.alive =
        [0] := by
  refine ⟨noOrphan_of_uncut .psys false ⟨1, one_pos⟩ stoppedInVain ?_ ?_, ?_⟩
  · intro _
    have hrecorded : ∀ p ∈ (serving .psys false
        (boot ⟨1, one_pos⟩ stoppedInVain)).2.dev.alive,
        (serving .psys false
          (boot ⟨1, one_pos⟩ stoppedInVain)).2.dev.currentProc = some p := by
      decide +kernel
    exact hrecorded
  · intro _
    constructor <;> decide +kernel
  · decide +kernel

/-- A client opens, and a signal arrives between the spawn of the producer and
its recording. -/
def signalledAtSpawn : List (Moment Happening) :=
  List.replicate 8 quietMoment ++
    [{ outside := {}, events := [⟨clientUsage, 1⟩] }] ++
    List.replicate 8 quietMoment ++
    [{ outside := {}, signal := some .sigterm }] ++
    List.replicate 3 quietMoment

/-- The teardown knows of no producer, and one outlives `main`. -/
theorem signalledAtSpawn_orphan (b : Bridge) :
    ¬ NoOrphan b false ⟨1, one_pos⟩ signalledAtSpawn := by
  intro h
  have hend : (main b false (boot ⟨1, one_pos⟩ signalledAtSpawn)).1 =
      .ok () := by
    cases b <;> rfl
  have halive : 0 ∈
      (main b false (boot ⟨1, one_pos⟩ signalledAtSpawn)).2.dev.alive := by
    cases b <;> decide +kernel
  have hunknown : (beforeTeardown b false
      (boot ⟨1, one_pos⟩ signalledAtSpawn)).2.dev.currentProc = none := by
    cases b <;> decide +kernel
  have hstopped := h _ _ (Prod.ext hend rfl) nofun 0 halive
  have hcurrent := hstopped.1
  rw [hunknown] at hcurrent
  cases hcurrent

theorem producer_orphaned :
    ¬ ∀ (b : Bridge) (debug : Bool) (t : Instant)
        (script : List (Moment Happening)), NoOrphan b debug t script := by
  intro h
  exact signalledAtSpawn_orphan .psys (h .psys false ⟨1, one_pos⟩ _)

end Producer
end Bridges
end SurfaceCameras
