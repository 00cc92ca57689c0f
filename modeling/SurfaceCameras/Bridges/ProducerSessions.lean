import SurfaceCameras.Bridges.ProducerFrames

/-!
# Sessions of a producer bridge

Two properties of every run: a producer is spawned, and the sensor driver
unloaded, only while no other producer is alive; and the relay loop never goes
round with the newest client count at zero and no grace timer set.

The timer is a local of one attempt while the events are reported once, so the
second property needs that no failed attempt is retried with the newest count
at zero.  An invariant over the trace and the loop variables carries both.
-/

namespace SurfaceCameras
namespace Bridges
namespace Producer

open Prog

/-! ## What a trace should say -/

/-- No producer is alive at a spawn or an unloading of the driver. -/
def Mark.Exclusive : Mark → Prop
  | .spawn alive => alive = []
  | .unload alive => alive = []
  | _ => True

/-- With the newest count at zero the grace timer is set, and an iteration that
goes on finds that the grace period has not passed. -/
def Mark.Armed (b : Bridge) : Mark → Prop
  | .top newest goneSince => newest = some 0 → goneSince.isSome = true
  | .checked newest goneSince now =>
      newest = some 0 →
        ∃ t ∈ goneSince, (now : ℚ) - t ≤ b.clientGrace
  | _ => True

/-- A failed attempt is not retried with the newest count at zero. -/
def Mark.Wanted : Mark → Prop
  | .retry newest => newest ≠ some 0
  | _ => True

instance : DecidablePred Mark.Wanted
  | .retry newest => inferInstanceAs (Decidable (newest ≠ some 0))
  | .spawn _ | .unload _ | .top _ _ | .checked _ _ _ =>
      inferInstanceAs (Decidable True)

/-- No failed attempt is retried with the newest count at zero. -/
def RetriesWanted (trace : List Mark) : Prop := ∀ x ∈ trace, x.Wanted

instance (trace : List Mark) : Decidable (RetriesWanted trace) :=
  inferInstanceAs (Decidable (∀ x ∈ trace, x.Wanted))

/-- No producer of the run has met another one. -/
def ProducersExclusive (trace : List Mark) : Prop := ∀ x ∈ trace, x.Exclusive

/-- The grace timer has run whenever no client was left. -/
def GraceArmed (b : Bridge) (trace : List Mark) : Prop :=
  ∀ x ∈ trace, x.Armed b

theorem RetriesWanted.tail {x : Mark} {trace : List Mark}
    (h : RetriesWanted (x :: trace)) : RetriesWanted trace :=
  fun y hy => h y (List.mem_cons_of_mem x hy)

section Bridge

variable {b : Bridge}

variable (b) in
/-- What the trace says so far. -/
structure Sound (w : State) : Prop where
  exclusive : ProducersExclusive w.trace
  armed : RetriesWanted w.trace → GraceArmed b w.trace

/-- A client may still be there: the newest count is not zero. -/
def Wanted (w : State) : Prop :=
  RetriesWanted w.trace → w.newest ≠ some 0

variable (b) in
/-- Between two producers. -/
structure Free (w : State) : Prop extends Sound b w where
  alive : w.dev.alive = []

variable (b) in
/-- No producer but `proc` can be alive. -/
structure Held (proc : ℕ) (w : State) : Prop extends Sound b w where
  only : ∀ p ∈ w.dev.alive, p = proc

variable (b) in
/-- In the relay loop of `proc`: the timer is set if no client is left. -/
structure Tended (proc : ℕ) (goneSince : Option Instant) (w : State) :
    Prop extends Held b proc w where
  timer : RetriesWanted w.trace → w.newest = some 0 → goneSince.isSome = true

variable (b) in
/-- How the relay loop is left by an exception. -/
structure Raised (proc : ℕ) (e : Exc SessionOver) (w : State) :
    Prop extends Held b proc w where
  timer : ∀ so, e = .own so → Tended b proc so.goneSince w

variable {proc : ℕ} {goneSince : Option Instant} {w w' : State}

theorem Sound.mark (hw : Sound b w) {x : Mark} (hx : x.Exclusive)
    (ha : RetriesWanted w.trace → x.Armed b) : Sound b (w.mark x) where
  exclusive := by
    rintro y (_ | ⟨_, hy⟩)
    · exact hx
    · exact hw.exclusive y hy
  armed := by
    intro hr
    rintro y (_ | ⟨_, hy⟩)
    · exact ha hr.tail
    · exact hw.armed hr.tail y hy

theorem Sound.of_calm (h : Calm w w') (hw : Sound b w) : Sound b w' := by
  obtain ⟨hexcl, harmed⟩ := hw
  rw [← h.trace] at hexcl harmed
  exact ⟨hexcl, harmed⟩

theorem Free.of_calm (h : Calm w w') (hw : Free b w) : Free b w' := by
  refine ⟨hw.toSound.of_calm h, List.eq_nil_iff_forall_not_mem.mpr ?_⟩
  intro p hp
  have hold := h.alive p hp
  rw [hw.alive] at hold
  exact List.not_mem_nil hold

theorem Held.of_calm (h : Calm w w') (hw : Held b proc w) : Held b proc w' :=
  ⟨hw.toSound.of_calm h, fun p hp => hw.only p (h.alive p hp)⟩

theorem Tended.of_quiet (h : Quiet w w') (hw : Tended b proc goneSince w) :
    Tended b proc goneSince w' := by
  refine ⟨hw.toHeld.of_calm h.toCalm, ?_⟩
  rw [h.trace, h.newest]
  exact hw.timer

theorem Wanted.of_quiet (h : Quiet w w') (hw : Wanted w) : Wanted w' := by
  unfold Wanted
  rw [h.trace, h.newest]
  exact hw

theorem Held.free (hw : Held b proc w) (hgone : Gone proc w) : Free b w := by
  refine ⟨hw.toSound, List.eq_nil_iff_forall_not_mem.mpr fun p hp => ?_⟩
  have hp' : p = proc := hw.only p hp
  exact hgone (hp' ▸ hp)

/-! ## Rules -/

theorem tended_of_quiet {α : Type} {p : BridgeM α}
    (hp : IsQuiet (ReportsGone goneSince) p) :
    Triple (Tended b proc goneSince) p (fun _ => Tended b proc goneSince)
      (Raised b proc) := by
  refine (hp.triple fun _ _ h => Tended.of_quiet h).consequence
    (fun _ h => h) (fun _ _ h => h) ?_
  rintro e w ⟨hw, he⟩
  refine ⟨hw.toHeld, fun so hso => ?_⟩
  rw [he so hso]
  exact hw

theorem held_of_calm {α : Type} {p : BridgeM α} (hp : Keeps calm Exc.Foreign p) :
    Triple (Held b proc) p (fun _ => Held b proc) (Raised b proc) := by
  refine (hp.triple fun _ _ h => Held.of_calm h).consequence
    (fun _ h => h) (fun _ _ h => h) ?_
  rintro e w ⟨hw, he⟩
  refine ⟨hw, ?_⟩
  rintro so rfl
  exact he.elim

theorem free_of_calm {α : Type} {p : BridgeM α} (hp : Keeps calm Exc.Foreign p) :
    Triple (Free b) p (fun _ => Free b) (fun _ => Sound b) :=
  (hp.triple fun _ _ h => Free.of_calm h).consequence
    (fun _ h => h) (fun _ _ h => h) (fun _ _ h => h.1.toSound)

theorem sound_of_calm {α : Type} {p : BridgeM α} {R : Exc SessionOver → Prop}
    (hp : Keeps calm R p) :
    Triple (Sound b) p (fun _ => Sound b) (fun _ => Sound b) :=
  (hp.triple fun _ _ h => Sound.of_calm h).consequence
    (fun _ h => h) (fun _ _ h => h) (fun _ _ h => h.1)

theorem wanted_of_quiet {α : Type} {p : BridgeM α} (hp : IsQuiet Exc.Foreign p) :
    Triple (fun w => Free b w ∧ Wanted w) p (fun _ w => Free b w ∧ Wanted w)
      (fun _ => Sound b) := by
  refine (hp.triple (P := fun w => Free b w ∧ Wanted w) fun _ _ h hw => ?_).consequence
    (fun _ h => h) (fun _ _ h => h) (fun _ _ h => h.1.1.toSound)
  exact ⟨hw.1.of_calm h.toCalm, hw.2.of_quiet h⟩

/-! ## The relay loop -/

/-- Polling either leaves the count or has set it to what it returns. -/
theorem pollClientCount_tended :
    Triple (Tended b proc goneSince) pollClientCount
      (fun r w => r.elim (Tended b proc goneSince w)
        fun count => Held b proc w ∧ w.newest = some count)
      (Raised b proc) := by
  intro w hw
  have hcalm := pollClientCount_keeps foreign calm_polls w w (calm.refl w)
  have hpost : Post (fun _ => Held b proc) (Raised b proc)
      (pollClientCount w) :=
    held_of_calm (pollClientCount_keeps foreign calm_polls) w hw.toHeld
  have hnewest := pollClientCount_newest (ρ := SessionOver) w.newest w rfl
  revert hcalm hpost hnewest
  rcases pollClientCount w with ⟨e | r, w'⟩
  · exact fun _ hraised _ => hraised
  · intro hcalm hheld hnewest
    cases r with
    | none => exact hw.of_quiet ⟨hcalm, hnewest⟩
    | some count => exact ⟨hheld, hnewest⟩

/-- `gone_since` follows a new count. -/
theorem noteCount_tended (debug : Bool) (r : Option (BitVec 32)) :
    Triple
      (fun w => r.elim (Tended b proc goneSince w)
        fun count => Held b proc w ∧ w.newest = some count)
      (noteCount b debug goneSince r) (fun g => Tended b proc g)
      (Raised b proc) := by
  cases r with
  | none => exact Triple.pure fun _ h => h
  | some count =>
      have hquiet : ∀ {α : Type} {p : BridgeM α}, IsQuiet Exc.Foreign p →
          Triple (fun w => Held b proc w ∧ w.newest = some count) p
            (fun _ w => Held b proc w ∧ w.newest = some count)
            (Raised b proc) := by
        intro α p hp
        refine (hp.triple (P := fun w =>
          Held b proc w ∧ w.newest = some count) ?_).consequence
            (fun _ h => h) (fun _ _ h => h) ?_
        · exact fun _ _ h hw => ⟨hw.1.of_calm h.toCalm, h.newest.trans hw.2⟩
        · rintro e w ⟨⟨hw, -⟩, he⟩
          refine ⟨hw, ?_⟩
          rintro so rfl
          exact he.elim
      have hlog := log_keeps (ρ := SessionOver) foreign quiet_idles
      refine Triple.bind (hquiet (Keeps.when hlog)) fun _ => ?_
      refine Triple.bind (Q := fun g => Tended b proc g) ?_ fun g => ?_
      · refine Triple.ite (fun hne => Triple.pure fun w hw => ?_) fun _ => ?_
        · refine ⟨hw.1, fun _ hzero => ?_⟩
          rw [hw.2, Option.some.injEq] at hzero
          exact absurd hzero hne
        · refine Triple.bind
            (hquiet (monotonic_keeps foreign quiet_idles)) fun t => ?_
          exact Triple.pure fun w hw => ⟨hw.1, fun _ _ => rfl⟩
      · refine Triple.bind (tended_of_quiet (Keeps.when ?_)) fun _ =>
          Triple.pure fun _ h => h
        exact log_keeps (fun e => reportsGone_of_foreign g) quiet_idles

/-- The session goes on only within the grace period. -/
theorem checkGrace_tended :
    Triple (Tended b proc goneSince) (checkGrace b goneSince)
      (fun _ w => Tended b proc goneSince w ∧
        ∀ t ∈ goneSince, (w.now : ℚ) - t ≤ b.clientGrace)
      (Raised b proc) := by
  cases goneSince with
  | none => exact Triple.pure fun _ h => ⟨h, fun _ ht => by cases ht⟩
  | some t =>
      refine Triple.bind
        (Q := fun now w => Tended b proc (some t) w ∧ now = w.now) ?_
        fun now => Triple.when (fun _ => ?_) fun hle w hw => ?_
      · refine triple_atMoment (fun w m rest hw => ?_) (fun w hw => ?_)
          (fun w hw => ?_) fun m => Triple.gets fun w hw => ⟨hw, rfl⟩
        · exact hw.of_quiet (quiet_idles.advance w m rest)
        · exact ⟨hw.toHeld, fun _ h => by cases h⟩
        · exact ⟨hw.toHeld.of_calm (calm_polls.noteRaised w),
            fun _ h => by cases h⟩
      · refine Triple.raise fun w hw => ⟨hw.1.toHeld, ?_⟩
        rintro so ⟨⟩
        exact hw.1
      · refine ⟨hw.1, ?_⟩
        rintro t' ⟨⟩
        rw [← hw.2]
        exact not_lt.mp hle

theorem pollClients_tended (debug : Bool) :
    Triple (Tended b proc goneSince) (pollClients b debug goneSince)
      (fun g => Tended b proc g) (Raised b proc) := by
  refine Triple.bind pollClientCount_tended fun count => ?_
  refine Triple.bind (noteCount_tended debug count) fun g => ?_
  refine Triple.bind checkGrace_tended fun _ => ?_
  refine Triple.bind (Q := fun _ => Tended b proc g)
    (Triple.modify fun w hw => ?_) fun _ => Triple.pure fun _ h => h
  obtain ⟨hw, hgrace⟩ := hw
  have harmed : RetriesWanted w.trace →
      (Mark.checked w.newest g w.now).Armed b := by
    intro hr hzero
    obtain ⟨t, ht⟩ := Option.isSome_iff_exists.mp (hw.timer hr hzero)
    exact ⟨t, ht, hgrace t ht⟩
  exact ⟨⟨hw.toSound.mark trivial harmed, hw.only⟩,
    fun hr => hw.timer hr.tail⟩

theorem relayStep_tended (debug : Bool) (spawnT : Instant) (l : Relay) :
    Triple (Tended b proc goneSince)
      (relayStep b debug proc spawnT (l, goneSince))
      (fun r w => Sum.elim (fun l' => Tended b proc l'.2 w)
        (fun _ => Held b proc w) r)
      (Raised b proc) := by
  have hR := fun e => reportsGone_of_foreign (e := e) goneSince
  refine Triple.bind (Q := fun _ => Tended b proc goneSince)
    (Triple.modify fun w hw => ?_) fun _ => ?_
  · have harmed : RetriesWanted w.trace →
        (Mark.top w.newest goneSince).Armed b := hw.timer
    exact ⟨⟨hw.toSound.mark trivial harmed, hw.only⟩,
      fun hr => hw.timer hr.tail⟩
  refine Triple.bind (tended_of_quiet (monotonic_keeps hR quiet_idles))
    fun now => Triple.ite (fun _ => ?_) fun _ => ?_
  · exact Triple.bind (tended_of_quiet (log_keeps hR quiet_idles)) fun _ =>
      Triple.pure fun _ h => h.toHeld
  refine Triple.bind (tended_of_quiet (splash_keeps hR quiet_relays now l)) fun l => ?_
  refine Triple.bind (tended_of_quiet (relayPipe_keeps quiet_relays goneSince proc l))
    fun r => ?_
  cases r with
  | none => exact Triple.pure fun _ h => h.toHeld
  | some l =>
      exact Triple.bind (pollClients_tended debug) fun g =>
        Triple.pure fun _ h => h

/-- The relay loop ends with the producer still held, and its `SessionOver`
reports a timer that is set if no client is left. -/
theorem relay_held (debug : Bool) (spawnT : Instant) :
    Triple (Tended b proc none) (relay b debug proc spawnT)
      (fun r w => r.elim (Held b proc w)
        fun so => Tended b proc so.goneSince w)
      (fun _ => Sound b) := by
  refine Triple.tryCatch (J := Raised b proc) ?_ fun e => ?_
  · refine Triple.bind (Q := fun _ => Held b proc) ?_ fun _ =>
      Triple.pure fun _ h => h
    refine triple_whileTrue (I := fun l => Tended b proc l.2)
      (fun l => relayStep_tended debug spawnT l.1) ?_ (Relay.start, none)
    exact fun l w hw => ⟨hw.toHeld, fun _ h => by cases h⟩
  · split
    · exact Triple.pure fun w hw => hw.timer _ rfl
    · exact Triple.raise fun w hw => hw.toSound

/-! ## Attempts and sessions -/

theorem stopGst_held :
    Triple (Held b proc) (stopGst proc)
      (fun r w => Held b proc w ∧ (r = true → Free b w)) (fun _ => Sound b) := by
  refine ((held_of_calm (b := b) (stopGst_keeps foreign calm_polls.toIdles proc)).and
    (stopGst_gone proc)).consequence (fun _ h => ⟨h, trivial⟩) ?_ ?_
  · exact fun r w h => ⟨h.1, fun hr => h.1.free (h.2 hr)⟩
  · exact fun e w h => h.1.toSound

/-- A producer is spawned where none is alive and a client may be there. -/
theorem popen_tended :
    Triple (fun w => Free b w ∧ Wanted w) popen
      (fun proc => Tended b proc none) (fun _ => Sound b) := by
  refine triple_tryCall ?_ (fun w hw => hw.1.toSound)
    (fun w hw => hw.1.toSound.of_calm (calm_polls.noteRaised w))
    (fun e => triple_raiseMarked fun w hw =>
      hw.1.toSound.of_calm (calm_polls.noteRaised w)) fun m => ?_
  · intro w m rest hw
    have hadv := quiet_idles.advance w m rest
    exact ⟨hw.1.of_calm hadv.toCalm, hw.2.of_quiet hadv⟩
  refine Triple.bind
    (Q := fun proc w => (Free b w ∧ Wanted w) ∧ proc = w.dev.spawned)
    (Triple.gets fun w hw => ⟨hw, rfl⟩) fun proc => ?_
  refine Triple.bind
    (Q := fun _ w => (Free b w ∧ Wanted w) ∧ proc = w.dev.spawned)
    (Triple.modify fun w hw => ?_) fun _ => ?_
  · obtain ⟨⟨hfree, hwanted⟩, hproc⟩ := hw
    have hspawn : (Mark.spawn w.dev.alive).Exclusive := hfree.alive
    exact ⟨⟨⟨hfree.toSound.mark hspawn fun _ => trivial, hfree.alive⟩,
      fun hr => hwanted hr.tail⟩, hproc⟩
  refine Triple.bind (Q := fun _ w => Tended b proc none w)
    (Triple.modify fun w hw => ?_) fun _ => Triple.pure fun _ h => h
  obtain ⟨⟨hfree, hwanted⟩, hproc⟩ := hw
  refine ⟨⟨⟨hfree.exclusive, hfree.armed⟩, ?_⟩,
    fun hr hzero => absurd hzero (hwanted hr)⟩
  intro p hp
  rw [State.spawn, hfree.alive] at hp
  rw [hproc]
  exact List.mem_singleton.mp hp

theorem exit_sound {α : Type} {Q : α → State → Prop} :
    Triple (Sound b) (log >>= fun _ => Prog.raise .systemExit : BridgeM α) Q
      (fun _ => Sound b) :=
  Triple.bind (sound_of_calm (log_keeps foreign calm_polls.toIdles))
    fun _ => Triple.raise fun _ h => h

/-- A session that ends by the producer's exit with no timer set ends while a
client may still be there. -/
theorem endSession_free (so : SessionOver) :
    Triple (Tended b proc so.goneSince) (endSession b proc so)
      (fun again w => Free b w ∧ (again = true → Wanted w))
      (fun _ => Sound b) := by
  have hR := fun e => reportsGone_of_foreign (e := e) so.goneSince
  have hquiet : ∀ {α : Type} {p : BridgeM α},
      IsQuiet (ReportsGone so.goneSince) p →
        Triple (Tended b proc so.goneSince) p
          (fun _ => Tended b proc so.goneSince) (fun _ => Sound b) :=
    fun hp => (tended_of_quiet hp).consequence (fun _ h => h)
      (fun _ _ h => h) (fun _ _ h => h.toSound)
  have hlog := log_keeps (ρ := SessionOver) foreign quiet_idles
  refine Triple.bind (hquiet (Keeps.when
    ((monotonic_keeps hR quiet_idles).bind fun _ => Keeps.pure ()))) fun _ => ?_
  refine Triple.bind (hquiet (log_keeps hR quiet_idles)) fun _ => ?_
  refine Triple.bind (Q := fun r w =>
    Tended b proc so.goneSince w ∧ (r = true → Free b w)) ?_ fun stopped => ?_
  · refine ((hquiet (stopGst_keeps hR quiet_idles proc)).and (stopGst_gone proc)).consequence
      (fun _ h => ⟨h, trivial⟩) ?_ (fun _ _ h => h.1)
    exact fun r w h => ⟨h.1, fun hr => h.1.free (h.2 hr)⟩
  refine Triple.ite (fun hstopped => Triple.ite (fun hso => ?_) fun _ => ?_)
    fun _ => exit_sound.strengthenPre fun _ h => h.1.toSound
  · refine Triple.bind (Q := fun _ w => Free b w ∧ Wanted w) ?_ fun _ => ?_
    · refine (wanted_of_quiet (Keeps.when hlog)).strengthenPre fun w hw => ?_
      refine ⟨hw.2 hstopped, fun hr hzero => ?_⟩
      have htimer := hw.1.timer hr hzero
      rw [hso.2] at htimer
      cases htimer
    · exact Triple.bind (wanted_of_quiet (sleep_keeps foreign quiet_idles 1))
        fun _ => Triple.pure fun _ h => ⟨h.1, fun _ => h.2⟩
  · exact Triple.pure fun w h => ⟨h.2 hstopped, fun hf => by cases hf⟩

theorem beforeRetry_free (b : Bridge) :
    Triple (Free b) (beforeRetry b) (fun _ => Free b) (fun _ => Sound b) := by
  have hlog := log_keeps (ρ := SessionOver) foreign calm_polls.toIdles
  have hsleep := sleep_keeps (ρ := SessionOver) foreign calm_polls.toIdles 1
  cases b with
  | rear => exact free_of_calm hsleep
  | psys =>
      refine Triple.bind (free_of_calm hlog) fun _ => ?_
      refine Triple.bind (Q := fun _ => Free .psys) ?_ fun _ => ?_
      · refine triple_tryCall (fun w m rest hw =>
          hw.of_calm (calm_polls.advance w m rest)) (fun w hw => hw.toSound)
          (fun w hw => hw.toSound.of_calm (calm_polls.noteRaised w))
          (fun e => triple_raiseMarked fun w hw =>
            hw.toSound.of_calm (calm_polls.noteRaised w))
          fun m => Triple.modify fun w hw => ?_
        have hunload : (Mark.unload w.dev.alive).Exclusive := hw.alive
        exact ⟨hw.toSound.mark hunload fun _ => trivial, hw.alive⟩
      · refine Triple.bind (free_of_calm (syscall_keeps foreign
          calm_polls.toIdles fun _ => Keeps.pure ())) fun _ => ?_
        exact free_of_calm hsleep

/-- A failed start that is retried is retried for a client that may still be
there. -/
theorem failedStart_free (attempt : ℕ) :
    Triple (Held b proc) (failedStart b proc attempt)
      (fun _ w => Free b w ∧ (attempt < maxAttempts → Wanted w))
      (fun _ => Sound b) := by
  refine Triple.bind stopGst_held fun stopped => Triple.ite (fun hs => ?_)
    fun _ => exit_sound.strengthenPre fun _ h => h.1.toSound
  refine Triple.when (fun hlt => ?_) fun hle w hw =>
    ⟨hw.2 hs, fun hlt => absurd hlt hle⟩
  refine Triple.bind ((beforeRetry_free b).strengthenPre fun w hw => hw.2 hs)
    fun _ => Triple.modify fun w hw => ?_
  refine ⟨⟨hw.toSound.mark trivial fun _ => trivial, hw.alive⟩, ?_⟩
  intro _ hr
  exact hr (.retry w.newest) List.mem_cons_self

theorem runAttempt_free (debug : Bool) (attempt : ℕ) :
    Triple (fun w => Free b w ∧ Wanted w) (runAttempt b debug attempt)
      (fun r w => Free b w ∧ (r = some true → Wanted w) ∧
        (r = none → attempt < maxAttempts → Wanted w))
      (fun _ => Sound b) := by
  have hquiet : ∀ {α : Type} {proc : ℕ} {p : BridgeM α},
      IsQuiet (ReportsGone none) p → Triple (Tended b proc none) p
        (fun _ => Tended b proc none) (fun _ => Sound b) :=
    fun hp => (tended_of_quiet hp).consequence (fun _ h => h)
      (fun _ _ h => h) (fun _ _ h => h.toSound)
  have hR := fun e => reportsGone_of_foreign (e := e) none
  refine Triple.bind (wanted_of_quiet (log_keeps foreign quiet_idles))
    fun _ => Triple.bind popen_tended fun proc => ?_
  refine Triple.bind (hquiet (setCurrentProc_quiet hR proc)) fun _ => ?_
  refine Triple.bind (hquiet (syscall_keeps hR quiet_idles
    fun _ => Keeps.pure ())) fun _ => ?_
  refine Triple.bind (hquiet (tryCall_keeps hR quiet_idles
    (fun _ => Keeps.pure ()) fun _ => Keeps.pure ())) fun _ => ?_
  refine Triple.bind (hquiet (monotonic_keeps hR quiet_idles)) fun spawnT => ?_
  refine Triple.bind (relay_held debug spawnT) fun r => ?_
  cases r with
  | some so =>
      refine Triple.bind (endSession_free so) fun again =>
        Triple.pure fun w hw => ⟨hw.1, fun h => ?_, (fun h => by cases h)⟩
      exact hw.2 (Option.some.inj h)
  | none =>
      refine Triple.bind (failedStart_free attempt) fun _ =>
        Triple.pure fun w hw => ⟨hw.1, (fun h => by cases h), fun _ => hw.2⟩

/-- The attempts of a session; the last one is not retried. -/
theorem runAttempts_free (debug : Bool) : ∀ left : ℕ,
    Triple (fun w => Free b w ∧ (left ≠ 0 → Wanted w))
      (runAttempts b debug left)
      (fun again w => Free b w ∧ (again = true → Wanted w)) (fun _ => Sound b)
  | 0 => by
      have hlog := log_keeps (ρ := SessionOver) foreign calm_polls.toIdles
      refine Triple.bind ((free_of_calm hlog).strengthenPre fun _ h => h.1)
        fun _ => ?_
      refine Triple.bind (free_of_calm (sleep_keeps foreign
        calm_polls.toIdles 2)) fun _ => ?_
      exact Triple.pure fun w hw => ⟨hw, fun h => by cases h⟩
  | left + 1 => by
      refine Triple.bind ((runAttempt_free debug (maxAttempts - left)).strengthenPre
        fun w hw => ⟨hw.1, hw.2 (Nat.succ_ne_zero left)⟩) fun r => ?_
      cases r with
      | some again =>
          exact Triple.pure fun w hw => ⟨hw.1, fun h => hw.2.1 (h ▸ rfl)⟩
      | none =>
          refine (runAttempts_free debug left).strengthenPre fun w hw => ?_
          refine ⟨hw.1, fun hleft => hw.2.2 rfl ?_⟩
          simp only [maxAttempts]
          omega

/-- A count that is not zero is of a client that may still be there. -/
theorem pollClientCount_wanted :
    Triple (fun w => Free b w ∧ Wanted w)
      (pollClientCount : BridgeM (Option (BitVec 32)))
      (fun r w => Free b w ∧ (r.all (0 < ·) = true → Wanted w))
      (fun _ => Sound b) := by
  rintro w ⟨hfree, hwanted⟩
  have hcalm := pollClientCount_keeps foreign calm_polls w w (calm.refl w)
  have hfree' := free_of_calm (b := b)
    (pollClientCount_keeps foreign calm_polls) w hfree
  have hnewest := pollClientCount_newest (ρ := SessionOver) w.newest w rfl
  revert hcalm hfree' hnewest
  rcases pollClientCount w with ⟨e | r, w'⟩
  · exact fun _ hsound _ => hsound
  · intro hcalm hfree' hnewest
    refine ⟨hfree', fun hall => ?_⟩
    cases r with
    | none => exact hwanted.of_quiet ⟨hcalm, hnewest⟩
    | some count =>
        have hpos : 0 < count := of_decide_eq_true hall
        have hnew : w'.newest = some count := hnewest
        intro _ hzero
        rw [hnew, Option.some.injEq] at hzero
        rw [hzero] at hpos
        exact absurd hpos (lt_irrefl 0)

/-- A session starts for a client, leaves no producer, and asks for another
session only while a client may still be there. -/
theorem runSession_free (debug : Bool) :
    Triple (fun w => Free b w ∧ Wanted w) (runSession b debug)
      (fun again w => Free b w ∧ (again = true → Wanted w))
      (fun _ => Sound b) := by
  refine Triple.bind (wanted_of_quiet (otherProducers_keeps foreign quiet_idles b))
    fun others => Triple.ite (fun _ => ?_) fun _ => ?_
  · refine Triple.bind (wanted_of_quiet (log_keeps foreign quiet_idles))
      fun _ => ?_
    refine Triple.bind (wanted_of_quiet (sleep_keeps foreign quiet_idles 5))
      fun _ => ?_
    exact Triple.bind pollClientCount_wanted fun count =>
      Triple.pure fun _ h => h
  · exact (runAttempts_free debug maxAttempts).strengthenPre fun w hw =>
      ⟨hw.1, fun _ => hw.2⟩

/-! ## The daemon -/

/-- The sessions of one demand leave no producer. -/
theorem demand_free (debug : Bool) :
    Triple (fun w => Free b w ∧ Wanted w) (demand b debug) (fun _ => Free b)
      (fun _ => Sound b) := by
  have hmono := monotonic_keeps (ρ := SessionOver) foreign quiet_idles
  have hagain : ∀ {b : Bridge} {again : Bool}, again = true →
      Triple (fun w => Free b w ∧ (again = true → Wanted w))
        (monotonic : BridgeM Instant) (fun _ w => Free b w ∧ Wanted w)
        (fun _ => Sound b) :=
    fun ha => (wanted_of_quiet hmono).strengthenPre fun w hw => ⟨hw.1, hw.2 ha⟩
  cases b with
  | psys =>
      change Triple _ (frontDemand debug) _ _
      refine triple_whileTrue (E := fun _ => Sound .psys)
        (I := fun _ w => Free .psys w ∧ Wanted w) (fun _ => ?_)
        (fun _ _ h => h.1.toSound) ()
      refine Triple.bind (runSession_free debug) fun again => Triple.ite
        (fun ha => ?_) fun _ => Triple.pure fun _ h => h.1
      exact Triple.bind (hagain ha) fun _ => Triple.pure fun _ h => h
  | rear =>
      change Triple _ (whileTrue (restartStep debug) []) _ _
      refine triple_whileTrue (E := fun _ => Sound .rear)
        (I := fun _ w => Free .rear w ∧ Wanted w) (fun restarts => ?_)
        (fun _ _ h => h.1.toSound) []
      refine Triple.bind (runSession_free debug) fun again => Triple.ite
        (fun ha => ?_) fun _ => Triple.pure fun _ h => h.1
      refine Triple.bind (hagain ha) fun now => Triple.ite (fun _ => ?_)
        fun _ => Triple.pure fun _ h => h
      refine Triple.bind (wanted_of_quiet (log_keeps foreign quiet_idles))
        fun _ => ?_
      exact Triple.bind (wanted_of_quiet (sleep_keeps foreign quiet_idles 10))
        fun _ => Triple.pure fun _ h => h.1

theorem serve_free (debug : Bool) :
    Triple (Free b) (serve b debug) (fun _ => Free b) (fun _ => Sound b) := by
  have hidle := calm_polls.toIdles
  refine triple_whileTrue (I := fun _ => Free b) (fun _ => ?_)
    (fun _ _ h => h.toSound) ()
  refine Triple.bind (free_of_calm (selectEvent_keeps foreign hidle
    fun w => calm.refl w)) fun _ => ?_
  refine Triple.bind (Q := fun _ w => Free b w ∧ Wanted w)
    (Triple.modify fun w hw => ?_) fun _ => ?_
  · exact ⟨⟨⟨hw.exclusive, hw.armed⟩, hw.alive⟩, fun _ h => by cases h⟩
  refine Triple.bind pollClientCount_wanted fun count => ?_
  refine Triple.bind (Q := fun _ => Free b) ?_ fun _ => Triple.pure fun _ h => h
  refine Triple.when (fun hany => ?_) fun _ _ h => h.1
  have hwanted : ∀ w, Free b w ∧ (count.all (0 < ·) = true → Wanted w) →
      Free b w ∧ Wanted w := by
    rintro w ⟨hfree, hall⟩
    refine ⟨hfree, hall ?_⟩
    cases count with
    | none => cases hany
    | some c =>
        have hne : c ≠ 0 := of_decide_eq_true hany
        have hpos : 0 < c := by bv_omega
        exact decide_eq_true hpos
  refine Triple.bind ((wanted_of_quiet (monotonic_keeps foreign
    quiet_idles)).strengthenPre hwanted) fun _ => ?_
  refine Triple.bind (wanted_of_quiet (log_keeps foreign quiet_idles))
    fun _ => ?_
  refine Triple.bind (demand_free debug) fun _ => ?_
  exact free_of_calm (log_keeps foreign hidle)

theorem main_sound (debug : Bool) :
    Triple (Free b) (main b debug) (fun _ => Sound b) (fun _ => Sound b) := by
  have hshut := sound_of_calm (b := b) shutdown_calm
  refine Triple.bind (free_of_calm (setup_keeps foreign calm_relays b)) fun _ => ?_
  refine Triple.tryFinally (K := fun _ => Sound b) (J := fun _ => Sound b)
    ?_ (fun _ => hshut) (fun _ _ => hshut) (fun _ _ _ h => h)
  refine Triple.tryCatch (J := fun _ => Sound b) ?_ fun e => ?_
  · exact (serve_free debug).consequence (fun _ h => h)
      (fun _ _ h => h.toSound) (fun _ _ h => h)
  · split
    · exact sound_of_calm (log_keeps foreign calm_polls.toIdles)
    · exact Triple.raise fun _ h => h

theorem traceOf_sound (b : Bridge) (debug : Bool) (t : Instant)
    (script : List (Moment Happening)) :
    Sound b (main b debug (boot t script)).2 := by
  have hboot : Free b (boot t script) :=
    ⟨⟨fun _ h => absurd h List.not_mem_nil,
      fun _ _ h => absurd h List.not_mem_nil⟩, rfl⟩
  have h := main_sound debug (boot t script) hboot
  revert h
  rcases main b debug (boot t script) with ⟨_ | _, w⟩
  · exact id
  · exact id

end Bridge

/-! ## Every run -/

/-- One producer at a time: at every spawn, and whenever the front bridge
unloads the sensor driver, every earlier producer has exited. -/
theorem producers_exclusive (b : Bridge) (debug : Bool) (t : Instant)
    (script : List (Moment Happening)) :
    ProducersExclusive (traceOf b debug t script) :=
  (traceOf_sound b debug t script).exclusive

/-- In a run that retries no failed attempt with the newest client count at
zero, the relay loop never goes round with that count at zero and no timer set,
nor past the grace period of a timer. -/
theorem grace_armed (b : Bridge) (debug : Bool) (t : Instant)
    (script : List (Moment Happening))
    (h : RetriesWanted (traceOf b debug t script)) :
    GraceArmed b (traceOf b debug t script) :=
  (traceOf_sound b debug t script).armed h

/-- A client opens; the producer delivers nothing within the timeout and is
replaced; then the client leaves. -/
def retriedThenLeft : List (Moment Happening) :=
  List.replicate 8 quietMoment ++
    [{ outside := {}, events := [⟨clientUsage, 1⟩] }] ++
    List.replicate 16 quietMoment ++
    [{ outside := {}, elapsed := 11 }, quietMoment,
      { outside := { exits := [0] } }] ++
    List.replicate 12 quietMoment ++
    [{ outside := {}, events := [⟨clientUsage, 0⟩] }] ++
    List.replicate 6 quietMoment

theorem grace_armed_retriedThenLeft :
    GraceArmed .psys (traceOf .psys false ⟨1, one_pos⟩ retriedThenLeft) :=
  grace_armed .psys false ⟨1, one_pos⟩ retriedThenLeft (by decide +kernel)

/-- A client opens and leaves just before the first-frame timeout. -/
def leftThenRetried : List (Moment Happening) :=
  List.replicate 8 quietMoment ++
    [{ outside := {}, events := [⟨clientUsage, 1⟩] }] ++
    List.replicate 14 quietMoment ++
    [{ outside := {}, elapsed := 19.5, events := [⟨clientUsage, 0⟩] }] ++
    List.replicate 5 quietMoment ++
    [{ outside := {}, elapsed := 1 }, quietMoment,
      { outside := { exits := [0] } }] ++
    List.replicate 10 quietMoment

theorem leftThenRetried_top (b : Bridge) :
    Mark.top (some 0) none ∈
      traceOf b false ⟨1, one_pos⟩ leftThenRetried := by
  cases b <;> decide +kernel

/-- The timer does not survive a retry. -/
theorem grace_not_armed :
    ¬ ∀ (b : Bridge) (debug : Bool) (t : Instant)
        (script : List (Moment Happening)),
      GraceArmed b (traceOf b debug t script) := by
  intro h
  have harmed := h .psys false ⟨1, one_pos⟩ leftThenRetried _
    (leftThenRetried_top .psys)
  cases harmed rfl

end Producer
end Bridges
end SurfaceCameras
