import SurfaceCameras.Bridges.InfraredEffects

/-!
# The demand that an infrared bridge knows of

Client counts are reported once, when they change, and a session takes them off
the queue.  When the daemon waits for the next event it should not know of a
client: nothing will wake it for one that is already there.

A session that ends because every client has gone has seen the count reach
zero.  One that ends in another way may leave a client behind, and then only
an event that is still queued brings the daemon back.
-/

namespace SurfaceCameras
namespace Bridges
namespace Infrared

open Prog

/-! ## What is asked of the marks -/

/-- No client is known. -/
def NoneKnown (newest : Option (BitVec 32)) : Prop := ∀ c ∈ newest, c = 0

/-- A client count is queued. -/
def Queued (events : List Event) : Prop :=
  ∃ ev ∈ events, ev.type = clientUsage

/-- The daemon waits only while it knows of no client. -/
def Mark.Satisfied : Mark → Prop
  | .blocked newest => NoneKnown newest
  | _ => True

/-- A session that did not end because every client was gone leaves none
behind, unless a client count is still queued. -/
def Mark.Reconciled : Mark → Prop
  | .ended how newest events =>
      how = .clientsGone ∨ NoneKnown newest ∨ Queued events
  | _ => True

/-- No demand is lost. -/
def DemandMet (trace : List Mark) : Prop := ∀ x ∈ trace, x.Satisfied

/-- Every session leaves the daemon with the clients it has. -/
def SessionsReconciled (trace : List Mark) : Prop := ∀ x ∈ trace, x.Reconciled

variable {w w' : State}

/-- As far as the sessions were reconciled, no demand is lost. -/
def Sound (w : State) : Prop := SessionsReconciled w.trace → DemandMet w.trace

/-- Besides, no client is known, or a count is queued. -/
structure Idle (w : State) : Prop where
  sound : Sound w
  aware : SessionsReconciled w.trace → NoneKnown w.newest ∨ Queued w.events

/-- The daemon has polled: without a new count it is as aware as before. -/
structure Polled (count : Option (BitVec 32)) (w : State) : Prop where
  sound : Sound w
  none : count = none → SessionsReconciled w.trace →
    NoneKnown w.newest ∨ Queued w.events
  some : ∀ c ∈ count, w.newest = some c

/-- A session has ended: if every client was gone, the newest count is zero. -/
structure Ended (how : Ending) (w : State) : Prop where
  sound : Sound w
  gone : how = .clientsGone → w.newest = some 0

/-- A session goes on: while the grace timer runs, the newest count is zero. -/
structure Running (goneSince : Option Instant) (w : State) : Prop where
  sound : Sound w
  timer : goneSince.isSome = true → w.newest = some 0

/-! ## What is left alone -/

/-- Nothing is marked or taken off the queue. -/
structure Patient (w w' : State) : Prop where
  trace : w'.trace = w.trace
  newest : w'.newest = w.newest
  events : ∃ more, w'.events = w.events ++ more

def patient : Frame State where
  Rel := Patient
  refl _ := ⟨rfl, rfl, [], (List.append_nil _).symm⟩
  trans := by
    rintro w w' w'' ⟨htrace, hnewest, more, hevents⟩
      ⟨htrace', hnewest', more', hevents'⟩
    refine ⟨htrace'.trans htrace, hnewest'.trans hnewest, more ++ more', ?_⟩
    rw [hevents', hevents, List.append_assoc]

theorem patient_idles : Idles patient where
  advance _ m _ := ⟨rfl, rfl, m.events, rfl⟩
  noteRaised _ := ⟨rfl, rfl, [], (List.append_nil _).symm⟩
  later _ _ := ⟨rfl, rfl, [], (List.append_nil _).symm⟩

/-- The marks about the waiting of the daemon stay. -/
structure Unhindered (w w' : State) : Prop where
  reconciled : SessionsReconciled w'.trace → SessionsReconciled w.trace
  met : DemandMet w.trace → DemandMet w'.trace

def unhindered : Frame State where
  Rel := Unhindered
  refl _ := ⟨id, id⟩
  trans h h' := ⟨h.reconciled ∘ h'.reconciled, h'.met ∘ h.met⟩

theorem unhindered_polls : Polls unhindered where
  advance _ _ _ := ⟨id, id⟩
  noteRaised _ := ⟨id, id⟩
  later _ _ := ⟨id, id⟩
  dropEvent _ _ := ⟨id, id⟩
  dequeued _ _ := ⟨id, id⟩

theorem unhindered_mark {x : Mark} (hx : x.OfSession) :
    Unhindered w (w.mark x) := by
  refine ⟨fun h y hy => h y (List.mem_cons_of_mem x hy), fun h y hy => ?_⟩
  rcases List.mem_cons.mp hy with rfl | hy
  · cases y with
    | blocked | ended => exact hx.elim
    | attempt | opened | dequeued | timedOut | returned | wrote | streamOff
    | closed | uncovered => trivial
  · exact h y hy

/-- Besides, the newest count stays. -/
def unpolled : Frame State := unhindered.and (Frame.fixing World.newest)

theorem unpolled_works : Works unpolled where
  advance _ _ _ := ⟨⟨id, id⟩, rfl⟩
  noteRaised _ := ⟨⟨id, id⟩, rfl⟩
  later _ _ := ⟨⟨id, id⟩, rfl⟩
  plant _ _ := ⟨⟨id, id⟩, rfl⟩
  mark _ _ hx := ⟨unhindered_mark hx, rfl⟩

theorem Sound.of_unhindered (h : Unhindered w w') (hw : Sound w) : Sound w' :=
  h.met ∘ hw ∘ h.reconciled

theorem Queued.append {events more : List Event} (h : Queued events) :
    Queued (events ++ more) := by
  obtain ⟨ev, hev, htype⟩ := h
  exact ⟨ev, List.mem_append_left more hev, htype⟩

theorem Polled.of_patient {count : Option (BitVec 32)} (h : Patient w w')
    (hw : Polled count w) : Polled count w' := by
  obtain ⟨htrace, hnewest, more, hevents⟩ := h
  refine ⟨?_, fun hc hrec => ?_, fun c hc => ?_⟩
  · rw [Sound, htrace]
    exact hw.sound
  · rw [htrace] at hrec
    rw [hnewest, hevents]
    exact (hw.none hc hrec).imp id Queued.append
  · rw [hnewest]
    exact hw.some c hc

theorem Idle.polled (h : Idle w) : Polled none w :=
  ⟨h.sound, fun _ => h.aware, fun _ hc => by cases hc⟩

theorem Polled.idle {count : Option (BitVec 32)} (h : Polled count w)
    (hcount : ∀ c ∈ count, c = 0) : Idle w := by
  refine ⟨h.sound, fun hrec => ?_⟩
  cases count with
  | none => exact h.none rfl hrec
  | some c =>
      left
      rw [NoneKnown, h.some c rfl]
      exact hcount

section Operations

variable {α : Type} {prog : BridgeM α} {R : Exc Failure → Prop}

theorem any_of_expected (e : Exc Failure) (_ : Expected e) : True := trivial

theorem polled_of_patient {count : Option (BitVec 32)}
    (hp : Keeps patient R prog) :
    Triple (Polled count) prog (fun _ => Polled count) (fun _ => Sound) := by
  apply (hp.triple fun _ _ => Polled.of_patient).consequence (fun _ hw => hw)
    (fun _ _ hw => hw)
  exact fun _ _ hw => hw.1.sound

theorem idle_of_patient (hp : Keeps patient R prog) :
    Triple Idle prog (fun _ => Idle) (fun _ => Sound) := by
  have hpolled : Triple (Polled none) prog (fun _ => Polled none)
      (fun _ => Sound) := polled_of_patient hp
  apply hpolled.consequence (fun _ hw => hw.polled) _ (fun _ _ hw => hw)
  exact fun _ _ hw => hw.idle fun _ hc => by cases hc

theorem sound_of_unpolled (hp : Keeps unpolled R prog) :
    Triple Sound prog (fun _ => Sound) (fun _ => Sound) := by
  have hkept : ∀ w w', unpolled.Rel w w' → Sound w → Sound w' :=
    fun _ _ h hw => hw.of_unhindered h.1
  exact (hp.triple hkept).consequence (fun _ hw => hw) (fun _ _ hw => hw)
    fun _ _ hw => hw.1

theorem running_of_unpolled {goneSince : Option Instant}
    (hp : Keeps unpolled R prog) :
    Triple (Running goneSince) prog (fun _ => Running goneSince)
      (fun _ => Sound) := by
  have hkept : ∀ w w', unpolled.Rel w w' → Running goneSince w →
      Running goneSince w' := by
    rintro w w' ⟨hmarks, hnewest⟩ hw
    exact ⟨hw.sound.of_unhindered hmarks,
      fun hsome => Eq.trans hnewest (hw.timer hsome)⟩
  exact (hp.triple hkept).consequence (fun _ hw => hw) (fun _ _ hw => hw)
    fun _ _ hw => hw.1.sound

end Operations

/-! ## Polling -/

/-- Taking an event off the queue keeps the daemon as aware as before, unless
it is a client count. -/
theorem dqEvent_polled (count : Option (BitVec 32)) :
    Triple (Polled count) (dqEvent : BridgeM (Option Event))
      (fun ev w => match ev with
        | none => Polled count w
        | some ev => (ev.type ≠ clientUsage → Polled count w) ∧ Sound w)
      (fun _ => Sound) := by
  apply triple_tryCall
  · exact fun w m rest hw => hw.of_patient (patient_idles.advance w m rest)
  · exact fun _ hw => hw.sound
  · exact fun _ hw => hw.sound
  · exact fun _ => Triple.pure fun _ hw => hw
  intro _
  apply Triple.gets_bind
  intro events
  cases events with
  | nil => exact Triple.pure fun _ hw => hw.1
  | cons ev rest =>
      apply Triple.bind (Q := fun _ w =>
        (ev.type ≠ clientUsage → Polled count w) ∧ Sound w)
      · apply Triple.modify
        rintro w ⟨hw, hevents⟩
        refine ⟨fun htype => ⟨hw.sound, fun hc hrec => ?_, hw.some⟩, hw.sound⟩
        refine (hw.none hc hrec).imp id ?_
        rintro ⟨ev', hev', htype'⟩
        rw [hevents] at hev'
        rcases List.mem_cons.mp hev' with rfl | hrest
        · exact absurd htype' htype
        · exact ⟨ev', hrest, htype'⟩
      · exact fun _ => Triple.pure fun _ hw => hw

theorem pollStep_polled (count : Option (BitVec 32)) :
    Triple (Polled count)
      (pollStep count : BridgeM (Option (BitVec 32) ⊕ Option (BitVec 32)))
      (fun r w => Sum.elim (fun c => Polled c w) (fun c => Polled c w) r)
      (fun _ => Sound) := by
  have hpending := selectPending_keeps (foreign_of_expected any_of_expected)
    patient_idles
  apply Triple.bind (polled_of_patient hpending)
  intro pending
  apply Triple.ite
  · intro _
    apply Triple.bind (dqEvent_polled count)
    intro ev
    cases ev with
    | none => exact Triple.pure fun _ hw => hw
    | some ev =>
        apply Triple.ite
        · intro _
          apply Triple.bind (Q := fun _ => Polled (some ev.count))
          · apply Triple.modify
            intro w hw
            refine ⟨hw.2, ?_, ?_⟩
            · rintro ⟨⟩
            · rintro c ⟨⟩
              rfl
          · exact fun _ => Triple.pure fun _ hw => hw
        · exact fun htype => Triple.pure fun _ hw => hw.1 htype
  · exact fun _ => Triple.pure fun _ hw => hw

theorem pollClientCount_polled :
    Triple (Polled none) (pollClientCount : BridgeM (Option (BitVec 32)))
      Polled (fun _ => Sound) :=
  triple_whileTrue pollStep_polled (fun _ _ hw => hw.sound) none

/-! ## Sessions -/

/-- What a poll and its count make of the grace timer. -/
theorem pollClientCount_running {goneSince : Option Instant} :
    Triple (Running goneSince) (pollClientCount : BridgeM (Option (BitVec 32)))
      (fun count w => Sound w ∧ (∀ c ∈ count, w.newest = some c) ∧
        (count = none → Running goneSince w)) (fun _ => Sound) := by
  have hkept : ∀ w w', unhindered.Rel w w' → Sound w → Sound w' :=
    fun _ _ h hw => hw.of_unhindered h
  have hsound := (pollClientCount_keeps (ρ := Failure)
    (foreign_of_expected any_of_expected) unhindered_polls).triple hkept
  intro w hw
  have hpoll := hsound.and (pollClientCount_newest (ρ := Failure) w.newest) w
    ⟨hw.sound, rfl⟩
  revert hpoll
  rcases (pollClientCount : BridgeM (Option (BitVec 32))) w with ⟨e | count, w'⟩
  · exact fun h => h.1.1
  rintro ⟨hsound', hnewest⟩
  refine ⟨hsound', ?_, ?_⟩
  · rintro c hc
    rw [hnewest, hc]
    rfl
  · rintro rfl
    exact ⟨hsound', fun hsome => hnewest.trans (hw.timer hsome)⟩

theorem noteCount_running {goneSince : Option Instant}
    (count : Option (BitVec 32)) :
    Triple
      (fun w => Sound w ∧ (∀ c ∈ count, w.newest = some c) ∧
        (count = none → Running goneSince w))
      (noteCount goneSince count) Running (fun _ => Sound) := by
  cases count with
  | none => exact Triple.pure fun _ hw => hw.2.2 rfl
  | some c =>
      apply Triple.ite
      · intro _
        apply Triple.pure
        intro w hw
        exact ⟨hw.1, fun h => by cases h⟩
      · intro hc
        have hzero : c = 0 := not_not.mp hc
        let now : Instant := ⟨1, one_pos⟩
        apply Triple.bind (Q := fun _ => Running (some now))
        · have hclock : Triple (Running (some now)) (monotonic : BridgeM Instant)
              (fun _ => Running (some now)) (fun _ => Sound) :=
            running_of_unpolled
              (clock_keeps any_of_expected unpolled_works.toIdles)
          apply hclock.strengthenPre
          intro w hw
          refine ⟨hw.1, fun _ => ?_⟩
          rw [hw.2.1 c rfl, hzero]
        · intro t
          apply Triple.pure
          intro w hw
          exact ⟨hw.sound, fun _ => hw.timer rfl⟩

theorem afterFrame_running (t : SensorTiming) (debug : Bool) (exposureMax : ℤ)
    (img : Image) (v : Vars) :
    Triple (Running v.goneSince) (afterFrame t debug exposureMax img v)
      (fun r w => Sum.elim (fun v' : Vars => Running v'.goneSince w)
        (fun how => Ended how w) r) (fun _ => Sound) := by
  apply Triple.bind (running_of_unpolled
    (adjustExposure_keeps any_of_expected unpolled_works.tunes t debug
      exposureMax img v.ae))
  intro ae
  apply Triple.bind pollClientCount_running
  intro count
  apply Triple.bind (noteCount_running count)
  intro goneSince
  apply Triple.bind (Q := fun expired w => Running goneSince w ∧
    (expired = true → goneSince.isSome = true))
  · cases goneSince with
    | none => exact Triple.pure fun _ hw => ⟨hw, fun h => by cases h⟩
    | some since =>
        apply Triple.bind (running_of_unpolled
          (clock_keeps any_of_expected unpolled_works.toIdles))
        exact fun now => Triple.pure fun _ hw => ⟨hw, fun _ => rfl⟩
  intro expired
  apply Triple.ite
  · intro hexpired
    apply Triple.pure
    rintro w ⟨hw, hsome⟩
    exact ⟨hw.sound, fun _ => hw.timer (hsome hexpired)⟩
  · exact fun _ => Triple.pure fun _ hw => hw.1

theorem sessionStep_running (t : SensorTiming) (debug : Bool) (cap : ℕ)
    (exposureMax : ℤ) (v : Vars) :
    Triple (Running v.goneSince) (sessionStep t debug cap exposureMax v)
      (fun r w => Sum.elim (fun v' : Vars => Running v'.goneSince w)
        (fun how => Ended how w) r) (fun _ => Sound) := by
  apply Triple.bind (running_of_unpolled
    (nextImage_keeps any_of_expected unpolled_works cap v.pending))
  rintro ⟨img, pending⟩
  cases img with
  | none =>
      apply Triple.pure
      intro w hw
      refine ⟨hw.sound, ?_⟩
      rintro ⟨⟩
  | some img =>
      apply Triple.bind (running_of_unpolled
        (relayImage_keeps any_of_expected unpolled_works _ img))
      intro written
      apply Triple.ite
      · intro _
        exact afterFrame_running t debug exposureMax img { v with pending }
      · intro _
        apply Triple.pure
        intro w hw
        refine ⟨hw.sound, ?_⟩
        rintro ⟨⟩

/-- A session that ends because every client has gone has seen the count reach
zero. -/
theorem runSession_ended (t : SensorTiming) (debug : Bool) :
    Triple Sound (runSession t debug) Ended (fun _ => Sound) := by
  apply Triple.bind (sound_of_unpolled
    (startFrom_keeps any_of_expected unpolled_works trivial t debug 800 256
      (attempts t) 0))
  rintro ⟨cap, pending, exposureMax⟩
  apply Triple.bind (sound_of_unpolled (uncovered_keeps unpolled_works cap
    (atMoment_keeps (foreign_of_expected any_of_expected)
      unpolled_works.toIdles fun _ => Keeps.pure ())))
  intro _
  have hclose := close_keeps any_of_expected unpolled_works cap
  apply Triple.tryFinally (K := Ended) (J := fun _ => Sound)
  · have hloop := triple_whileTrue
      (I := fun v : Vars => Running v.goneSince)
      (sessionStep_running t debug cap exposureMax) (fun _ _ hw => hw.sound)
      (Vars.start ⟨cap, pending, exposureMax⟩)
    apply hloop.strengthenPre
    exact fun w hw => ⟨hw, fun h => by cases h⟩
  · intro how
    have hkept : ∀ w w', unpolled.Rel w w' → Ended how w → Ended how w' := by
      rintro w w' ⟨hmarks, hnewest⟩ hw
      exact ⟨hw.sound.of_unhindered hmarks,
        fun h => Eq.trans hnewest (hw.gone h)⟩
    exact (hclose.triple hkept).consequence (fun _ hw => hw)
      (fun _ _ hw => hw) fun _ _ hw => hw.1.sound
  · exact fun _ _ => sound_of_unpolled hclose
  · exact fun _ _ _ hw => hw

theorem guardedSession_ended (t : SensorTiming) (debug : Bool) :
    Triple Sound (guardedSession t debug) Ended (fun _ => Sound) := by
  have hidle := unpolled_works.toIdles
  apply Triple.tryCatch (runSession_ended t debug)
  intro e
  apply Triple.ite
  · intro _
    have hreport := report_keeps any_of_expected hidle
    apply Triple.bind (sound_of_unpolled (Keeps.when hreport))
    intro _
    apply Triple.bind (sound_of_unpolled hreport)
    intro _
    apply Triple.bind (sound_of_unpolled
      (sleep_keeps (foreign_of_expected any_of_expected) hidle 2))
    intro _
    apply Triple.bind (sound_of_unpolled (R := fun _ => True)
      (plant_keeps unpolled_works _))
    intro _
    apply Triple.pure
    intro w hw
    refine ⟨hw, ?_⟩
    rintro ⟨⟩
  · exact fun _ => Triple.raise fun _ hw => hw

/-- After a session that was reconciled the daemon is idle again. -/
theorem serveSession_idle (t : SensorTiming) (debug : Bool) :
    Triple Sound (serveSession t debug) (fun _ => Idle) (fun _ => Sound) := by
  apply Triple.bind (sound_of_unpolled
    (report_keeps any_of_expected unpolled_works.toIdles))
  intro _
  apply Triple.bind (guardedSession_ended t debug)
  intro how
  apply Triple.bind (Q := fun _ => Idle)
  · apply Triple.modify
    intro w hw
    have hearlier : SessionsReconciled
        (w.mark (.ended how w.newest w.events)).trace →
        SessionsReconciled w.trace :=
      fun h x hx => h x (List.mem_cons_of_mem _ hx)
    refine ⟨fun hrec x hx => ?_, fun hrec => ?_⟩
    · rcases List.mem_cons.mp hx with rfl | hx
      · trivial
      · exact hw.sound (hearlier hrec) x hx
    · rcases hrec _ List.mem_cons_self with hgone | hknown
      · left
        intro c hc
        rw [show (w.mark _).newest = w.newest from rfl, hw.gone hgone] at hc
        cases hc
        rfl
      · exact hknown
  · intro _
    exact idle_of_patient (report_keeps any_of_expected patient_idles)

/-! ## The daemon -/

/-- While it is idle the daemon waits without knowing of a client. -/
theorem selectEvent_idle :
    Triple Idle
      (selectEvent fun w => w.mark (.blocked w.newest) : BridgeM Unit)
      (fun _ => Idle) (fun _ => Sound) := by
  apply triple_whileTrue (I := fun _ => Idle) _ (fun _ _ hw => hw.sound)
  intro _
  apply Triple.gets_bind
  intro empty
  apply Triple.bind (Q := fun _ => Idle)
  · apply Triple.when
    · rintro hempty
      apply Triple.modify
      rintro w ⟨hw, hevents⟩
      have hnone : w.events = [] := by
        rw [← List.isEmpty_iff, hevents, hempty]
      have hearlier : SessionsReconciled (w.mark (.blocked w.newest)).trace →
          SessionsReconciled w.trace :=
        fun h x hx => h x (List.mem_cons_of_mem _ hx)
      refine ⟨fun hrec x hx => ?_, fun hrec => hw.aware (hearlier hrec)⟩
      rcases List.mem_cons.mp hx with rfl | hx
      · rcases hw.aware (hearlier hrec) with hknown | ⟨ev, hev, -⟩
        · exact hknown
        · rw [hnone] at hev
          cases hev
      · exact hw.sound (hearlier hrec) x hx
    · exact fun _ _ hw => hw.1
  intro _
  apply Triple.bind (idle_of_patient (selectPending_keeps
    (foreign_of_expected any_of_expected) patient_idles))
  intro ready
  apply Triple.ite
  · exact fun _ => Triple.pure fun _ hw => hw
  · exact fun _ => Triple.pure fun _ hw => hw

theorem serve_sound (t : SensorTiming) (debug : Bool) :
    Triple Idle (serve t debug) (fun _ => Idle) (fun _ => Sound) := by
  apply triple_whileTrue (I := fun _ => Idle) _ (fun _ _ hw => hw.sound)
  intro _
  apply Triple.bind selectEvent_idle
  intro _
  apply Triple.bind (pollClientCount_polled.strengthenPre
    fun _ hw => hw.polled)
  intro count
  apply Triple.bind (Q := fun _ => Idle)
  · apply Triple.when
    · exact fun _ => (serveSession_idle t debug).strengthenPre
        fun _ hw => hw.sound
    · intro hnone w hw
      apply hw.idle
      rintro c rfl
      simpa using hnone
  · exact fun _ => Triple.pure fun _ hw => hw

theorem setup_keeps {F : Frame State} (hF : Tunes F)
    (hwrite : ∀ (w : State) (frame : Yuyv), F.Rel w { w with dev :=
      { w.dev with loopback := frame :: w.dev.loopback } }) :
    Keeps F (fun _ => True) setup := by
  have hidle := hF.toIdles
  have hnone : Keeps F (fun _ => True)
      (syscall fun _ => pure () : BridgeM Unit) :=
    call_keeps any_of_expected hidle fun _ => Keeps.pure ()
  have hnode : Keeps F (fun _ => True) requireNode := by
    apply (call_keeps any_of_expected hidle fun _ => Keeps.pure _).bind
    exact fun _ => Keeps.when (Keeps.raise trivial)
  apply hnode.bind
  intro _
  apply hnode.bind
  intro _
  apply (call_keeps any_of_expected hidle fun _ => Keeps.pure _).bind
  intro t
  apply (setupGraph_keeps any_of_expected hidle).bind
  intro _
  apply (report_keeps any_of_expected hidle).bind
  intro _
  apply hnone.bind
  intro _
  apply hnone.bind
  intro _
  apply Keeps.bind
  · exact call_keeps any_of_expected hidle fun _ =>
      Keeps.modify fun w => hwrite w _
  intro _
  exact hnone.bind fun _ => Keeps.pure t

theorem main_sound (debug : Bool) :
    Triple Idle (main debug) (fun _ => Sound) (fun _ => Sound) := by
  have htunes : Tunes patient :=
    ⟨patient_idles, fun _ _ _ => ⟨rfl, rfl, [], (List.append_nil _).symm⟩⟩
  have hsetup := setup_keeps htunes
    fun _ _ => ⟨rfl, rfl, [], (List.append_nil _).symm⟩
  apply Triple.bind (idle_of_patient hsetup)
  intro t
  apply Triple.tryCatch ((serve_sound t debug).consequence (fun _ hw => hw)
    (fun _ _ hw => hw.sound) fun _ _ hw => hw)
  intro e
  cases e with
  | keyboardInterrupt =>
      exact sound_of_unpolled
        (report_keeps any_of_expected unpolled_works.toIdles)
  | stopped | systemExit | osError | own =>
      exact Triple.raise fun _ hw => hw

/-- In every run whose sessions end with every client gone, with the newest
count at zero or with a count still queued, the daemon never waits while it
knows of a client. -/
theorem demand_met (debug : Bool) (now : Instant)
    (script : List (Moment Happening))
    (h : SessionsReconciled (main debug (boot now script)).2.trace) :
    DemandMet (main debug (boot now script)).2.trace := by
  have hboot : Idle (boot now script) := by
    refine ⟨?_, fun _ => .inl ?_⟩
    · rintro - x ⟨⟩
    · rintro c ⟨⟩
  have hsound : Triple Idle (main debug) (fun _ => Sound) (fun _ => Sound) :=
    main_sound debug
  exact hsound.final hboot h

/-- The bridge starts, a client opens the loopback, and the session fails since
the media graph has no receiver linked to the sensor.  While the failure is
waited out, these events arrive. -/
def failedSession (events : List Event) : List (Moment Happening) :=
  let linked : Topology := ⟨some "csi", some "cap", some "/dev/video8"⟩
  let graph : Moment Happening := { outside := { topology := linked } }
  let quiet : Moment Happening := { outside := {} }
  List.replicate 3 quiet ++ List.replicate 2 graph ++ List.replicate 9 quiet ++
    { outside := {}, events := [⟨clientUsage, 1⟩] } ::
      List.replicate 6 quiet ++ [{ outside := {}, events }, quiet]

/-- The client leaves while the failure is waited out, and its count is the
newest when the daemon waits again. -/
theorem demand_met_clientLeaves :
    SessionsReconciled (main false (boot ⟨1, one_pos⟩
      (failedSession [⟨clientUsage, 0⟩]))).2.trace ∧
    DemandMet (main false (boot ⟨1, one_pos⟩
      (failedSession [⟨clientUsage, 0⟩]))).2.trace := by
  have htrace : (main false (boot ⟨1, one_pos⟩
      (failedSession [⟨clientUsage, 0⟩]))).2.trace =
      [.ended .failed (some 1) [⟨clientUsage, 0⟩], .attempt 1244,
        .blocked none] := rfl
  have hrec : SessionsReconciled (main false (boot ⟨1, one_pos⟩
      (failedSession [⟨clientUsage, 0⟩]))).2.trace := by
    rw [htrace]
    intro x hx
    simp only [List.mem_cons, List.not_mem_nil, or_false] at hx
    rcases hx with rfl | rfl | rfl
    · exact .inr (.inr ⟨_, List.mem_cons_self, rfl⟩)
    · trivial
    · trivial
  exact ⟨hrec, demand_met false ⟨1, one_pos⟩ _ hrec⟩

/-- The client stays, and the daemon waits for the next event. -/
theorem demand_lost :
    ¬ DemandMet (main false (boot ⟨1, one_pos⟩ (failedSession []))).2.trace := by
  have htrace : (main false (boot ⟨1, one_pos⟩ (failedSession []))).2.trace =
      [.blocked (some 1), .ended .failed (some 1) [], .attempt 1244,
        .blocked none] := rfl
  intro h
  rw [htrace] at h
  have hzero := h (.blocked (some 1)) List.mem_cons_self 1 rfl
  exact absurd hzero (by decide)

end Infrared
end Bridges
end SurfaceCameras
