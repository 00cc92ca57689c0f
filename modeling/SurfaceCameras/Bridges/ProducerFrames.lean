import SurfaceCameras.Bridges.Producer

/-!
# What the operations of a producer bridge leave alone

Most of what a bridge does puts no mark into the trace and starts no producer;
a producer can only exit meanwhile.  What also leaves the newest client count
is quiet; polling the clients is only calm.
-/

namespace SurfaceCameras
namespace Bridges
namespace Producer

open Prog

/-- No mark is added and no producer started. -/
structure Calm (w w' : State) : Prop where
  trace : w'.trace = w.trace
  alive : ∀ p ∈ w'.dev.alive, p ∈ w.dev.alive

/-- Besides, the newest client count stays. -/
structure Quiet (w w' : State) : Prop extends Calm w w' where
  newest : w'.newest = w.newest

theorem Calm.refl (w : State) : Calm w w := ⟨rfl, fun _ h => h⟩

theorem Calm.trans {w w' w'' : State} (h : Calm w w') (h' : Calm w' w'') :
    Calm w w'' :=
  ⟨h'.trace.trans h.trace, fun p hp => h.alive p (h'.alive p hp)⟩

def calm : Frame State where
  Rel := Calm
  refl := Calm.refl
  trans := Calm.trans

def quiet : Frame State where
  Rel := Quiet
  refl w := ⟨Calm.refl w, rfl⟩
  trans h h' := ⟨h.toCalm.trans h'.toCalm, h'.newest.trans h.newest⟩

theorem calm_advance (w : State) (m : Moment Happening)
    (rest : List (Moment Happening)) : Calm w (w.advance m rest) :=
  ⟨rfl, fun _ hp => (List.mem_filter.mp hp).1⟩

theorem quiet_of_eq {w w' : State} (htrace : w'.trace = w.trace)
    (hnewest : w'.newest = w.newest) (halive : w'.dev.alive = w.dev.alive) :
    Quiet w w' :=
  ⟨⟨htrace, fun _ h => halive ▸ h⟩, hnewest⟩

theorem calm_polls : Polls calm where
  advance := calm_advance
  noteRaised _ := ⟨rfl, fun _ h => h⟩
  later _ _ := ⟨rfl, fun _ h => h⟩
  dropEvent _ _ := ⟨rfl, fun _ h => h⟩
  dequeued _ _ := ⟨rfl, fun _ h => h⟩

theorem quiet_idles : Idles quiet where
  advance w m rest := ⟨calm_advance w m rest, rfl⟩
  noteRaised _ := quiet_of_eq rfl rfl rfl
  later _ _ := quiet_of_eq rfl rfl rfl

/-- A quiet program of a bridge, whose exceptions satisfy `R`. -/
abbrev IsQuiet {α : Type} (R : Exc SessionOver → Prop) (p : BridgeM α) :
    Prop :=
  Keeps quiet R p

theorem IsQuiet.calm {α : Type} {R : Exc SessionOver → Prop}
    {p : BridgeM α} (hp : IsQuiet R p) : Keeps calm R p :=
  hp.mono (fun _ _ h => h.toCalm) fun _ h => h

theorem foreign : ∀ e : Exc SessionOver, e.Foreign → e.Foreign :=
  fun _ h => h

/-- An exception that ends the session reports this `gone_since`. -/
def ReportsGone (goneSince : Option Instant) (e : Exc SessionOver) : Prop :=
  ∀ so, e = .own so → so.goneSince = goneSince

theorem reportsGone_of_foreign (goneSince : Option Instant)
    {e : Exc SessionOver} (he : e.Foreign) : ReportsGone goneSince e := by
  rintro so rfl
  exact he.elim

/-- The frame also allows to write to the loopback. -/
structure Relays (F : Frame State) : Prop extends Idles F where
  write : ∀ (w : State) (frame : List (BitVec 8)), F.Rel w
    { w with dev := { w.dev with loopback := frame :: w.dev.loopback } }

theorem quiet_relays : Relays quiet :=
  ⟨quiet_idles, fun _ _ => quiet_of_eq rfl rfl rfl⟩

theorem calm_relays : Relays calm :=
  ⟨calm_polls.toIdles, fun _ _ => ⟨rfl, fun _ h => h⟩⟩

section Operations

variable {F : Frame State} {R : Exc SessionOver → Prop}

theorem writeLoopback_keeps (hF : Relays F) (frame : List (BitVec 8)) :
    Keeps F R (writeLoopback frame) :=
  Keeps.modify fun w => hF.write w frame

variable (hR : ∀ e, e.Foreign → R e)
include hR

theorem setCurrentProc_quiet (proc : ℕ) : IsQuiet R (setCurrentProc proc) :=
  atMoment_keeps hR quiet_idles fun _ => Keeps.modify fun _ => quiet_of_eq rfl rfl rfl

theorem ignoreSignal_quiet (s : Signal) : IsQuiet R (ignoreSignal s) :=
  atMoment_keeps hR quiet_idles fun _ => Keeps.modify fun _ => quiet_of_eq rfl rfl rfl

section Idle

variable (hF : Idles F)
include hF

theorem exited_keeps (proc : ℕ) : Keeps F R (exited proc) :=
  atMoment_keeps hR hF fun _ => Keeps.gets _

theorem sendSigint_keeps (proc : ℕ) : Keeps F R (sendSigint proc) := by
  have hraise : ∀ k, Keeps F R (raiseMarked (.osError k) : BridgeM Unit) :=
    fun _ => raiseMarked_keeps hF (hR _ trivial)
  refine tryCall_keeps hR hF (fun e => ?_) fun _ => Keeps.pure ()
  exact (Keeps.gets _).bind fun _ => Keeps.ite (hraise _) (hraise _)

theorem otherProducers_keeps (b : Bridge) : Keeps F R (otherProducers b) :=
  syscall_keeps hR hF fun _ => Keeps.pure _

/-! ## Stopping a producer -/

theorem waitMore_keeps (nextInt : ℚ) : Keeps F R (waitMore nextInt) :=
  (sleep_keeps hR hF _).bind fun _ => Keeps.pure _

theorem sigintAgain_keeps (proc : ℕ) : Keeps F R (sigintAgain proc) := by
  refine Keeps.tryCatch (S := Exc.Foreign) ?_ fun e he => ?_
  · exact (sendSigint_keeps (fun _ h => h) hF proc).bind fun _ => Keeps.pure _
  · split
    · exact Keeps.pure true
    · exact Keeps.raise (hR _ he)

theorem stopStep_keeps (proc : ℕ) (nextInt : ℚ) :
    Keeps F R (stopStep proc nextInt) := by
  have hmono := monotonic_keeps (ρ := SessionOver) hR hF
  have hwait := waitMore_keeps hR hF
  refine (exited_keeps hR hF proc).bind fun gone => Keeps.ite (Keeps.pure _) ?_
  refine hmono.bind fun now => Keeps.ite ?_ (hwait nextInt)
  refine (sigintAgain_keeps hR hF proc).bind fun lost => ?_
  exact Keeps.ite (Keeps.pure _) (hmono.bind fun t => hwait _)

theorem stopGst_keeps (proc : ℕ) : Keeps F R (stopGst proc) := by
  have hmono := monotonic_keeps (ρ := SessionOver) hR hF
  refine (exited_keeps hR hF proc).bind fun gone => Keeps.ite (Keeps.pure _) ?_
  refine hmono.bind fun t => (sendSigint_keeps hR hF proc).bind fun _ => ?_
  refine hmono.bind fun t' => whileTrue_keeps hR (fun nextInt => ?_) _
  refine hmono.bind fun now =>
    Keeps.ite (stopStep_keeps hR hF proc nextInt) ?_
  exact (exited_keeps hR hF proc).bind fun _ => Keeps.pure _

/-! ## Relaying -/

theorem readChunk_keeps : Keeps F R readChunk :=
  tryCall_keeps hR hF
    (fun _ => Keeps.ite (Keeps.pure _) (raiseMarked_keeps hF (hR _ trivial)))
    fun _ => Keeps.pure _

theorem noteFirstFrame_keeps (l : Relay) : Keeps F R (noteFirstFrame l) := by
  refine Keeps.ite ?_ (Keeps.pure l)
  refine (monotonic_keeps hR hF).bind fun t => ?_
  exact (log_keeps hR hF).bind fun _ => Keeps.pure _

end Idle

theorem splash_keeps (hF : Relays F) (now : Instant) (l : Relay) :
    Keeps F R (splash now l) := by
  refine Keeps.ite ?_ (Keeps.pure l)
  refine (tryCall_keeps hR hF.toIdles (fun _ => Keeps.pure ()) fun _ => ?_).bind
    fun _ => Keeps.pure _
  exact writeLoopback_keeps hF blackFrame

theorem setup_keeps (hF : Relays F) (b : Bridge) : Keeps F R (setup b) := by
  have hcall : ∀ {α : Type} (f : Moment Happening → BridgeM α),
      (∀ m, Keeps F R (f m)) → Keeps F R (syscall f) :=
    fun f hf => syscall_keeps hR hF.toIdles hf
  have hlog := log_keeps (ρ := SessionOver) hR hF.toIdles
  have hnode : Keeps F R requireNode :=
    (hcall _ fun _ => Keeps.pure _).bind fun _ =>
      Keeps.when (Keeps.raise (hR _ trivial))
  refine hnode.bind fun _ => (Keeps.when hnode).bind fun _ => ?_
  refine (hcall _ fun _ => Keeps.pure ()).bind fun _ => ?_
  refine (hcall _ fun _ => Keeps.pure ()).bind fun _ => ?_
  refine (tryCall_keeps hR hF.toIdles (fun _ => hlog)
    fun _ => Keeps.pure ()).bind fun _ => ?_
  refine (hcall _ fun _ => writeLoopback_keeps hF blackFrame).bind fun _ => ?_
  exact (hcall _ fun _ => Keeps.pure ()).bind fun _ => hlog

end Operations

section Relaying

variable {F : Frame State} (hF : Relays F) (goneSince : Option Instant)
include hF

theorem relayFrame_keeps (l : Relay) :
    Keeps F (ReportsGone goneSince) (relayFrame goneSince l) := by
  have hR := fun e => reportsGone_of_foreign (e := e) goneSince
  have hso : ReportsGone goneSince
      (.own ⟨.loopbackWriteFailed, goneSince⟩) := by
    rintro so ⟨⟩
    rfl
  refine Keeps.ite ?_ (Keeps.pure _)
  refine (noteFirstFrame_keeps hR hF.toIdles _).bind fun l' => ?_
  refine (tryCall_keeps hR hF.toIdles (fun _ => Keeps.raise hso)
    fun _ => ?_).bind fun _ => Keeps.pure _
  exact writeLoopback_keeps hF _

theorem relayChunk_keeps (proc : ℕ) (l : Relay) (chunk : List (BitVec 8)) :
    Keeps F (ReportsGone goneSince) (relayChunk proc goneSince l chunk) := by
  have hR := fun e => reportsGone_of_foreign (e := e) goneSince
  have hso : ReportsGone goneSince (.own ⟨.producerExited, goneSince⟩) := by
    rintro so ⟨⟩
    rfl
  have hended : Keeps F (ReportsGone goneSince) (pipeEnded proc chunk) :=
    Keeps.ite (exited_keeps hR hF.toIdles proc) (Keeps.pure false)
  refine hended.bind fun ended => Keeps.ite (Keeps.ite ?_ ?_) ?_
  · exact (log_keeps hR hF.toIdles).bind fun _ => Keeps.pure none
  · exact Keeps.raise hso
  · exact (whileTrue_keeps hR (relayFrame_keeps hF goneSince) _).bind
      fun _ => Keeps.pure _

theorem relayPipe_keeps (proc : ℕ) (l : Relay) :
    Keeps F (ReportsGone goneSince) (relayPipe proc goneSince l) := by
  have hR := fun e => reportsGone_of_foreign (e := e) goneSince
  refine (syscall_keeps hR hF.toIdles fun _ => Keeps.pure _).bind
    fun readable => Keeps.ite ?_ (Keeps.pure _)
  exact (readChunk_keeps hR hF.toIdles).bind fun chunk =>
    relayChunk_keeps hF goneSince proc l chunk

end Relaying

section Polling

/-- The frame allows to poll the clients and to mark the trace. -/
structure Marks (F : Frame State) : Prop extends Polls F where
  mark : ∀ (w : State) (x : Mark), F.Rel w (w.mark x)

variable {F : Frame State} {R : Exc SessionOver → Prop} (hF : Marks F)
include hF

theorem mark_keeps (x : State → Mark) : Keeps F R (mark x) :=
  Keeps.modify fun w => hF.mark w (x w)

theorem pollClients_keeps (b : Bridge) (debug : Bool)
    (goneSince : Option Instant) :
    Keeps F (fun _ => True) (pollClients b debug goneSince) := by
  have hR : ∀ e : Exc SessionOver, e.Foreign → True := fun _ _ => trivial
  have hmono := monotonic_keeps (ρ := SessionOver) hR hF.toIdles
  have hlog := log_keeps (ρ := SessionOver) hR hF.toIdles
  apply (pollClientCount_keeps hR hF.toPolls).bind
  intro count
  have hnote : Keeps F (fun _ => True)
      (noteCount b debug goneSince count) := by
    cases count with
    | none => exact Keeps.pure _
    | some count =>
        apply (Keeps.when hlog).bind
        intro _
        have hgone : Keeps F (fun _ => True) (goneSinceOf count) :=
          Keeps.ite (Keeps.pure _) (hmono.bind fun _ => Keeps.pure _)
        exact hgone.bind fun _ => (Keeps.when hlog).bind fun _ => Keeps.pure _
  apply hnote.bind
  intro g
  have hgrace : Keeps F (fun _ => True) (checkGrace b g) := by
    cases g with
    | none => exact Keeps.pure ()
    | some t => exact hmono.bind fun _ => Keeps.when (Keeps.raise trivial)
  exact hgrace.bind fun _ => (mark_keeps hF _).bind fun _ => Keeps.pure _

theorem relayStep_keeps (hW : Relays F) (b : Bridge) (debug : Bool) (proc : ℕ)
    (spawnT : Instant) (x : Relay × Option Instant) :
    Keeps F (fun _ => True) (relayStep b debug proc spawnT x) := by
  have hR : ∀ e : Exc SessionOver, e.Foreign → True := fun _ _ => trivial
  have hidle := hF.toIdles
  obtain ⟨l, goneSince⟩ := x
  refine (mark_keeps hF _).bind fun _ => ?_
  refine (monotonic_keeps hR hidle).bind fun now => Keeps.ite ?_ ?_
  · exact (log_keeps hR hidle).bind fun _ => Keeps.pure _
  refine (splash_keeps hR hW now l).bind fun l => ?_
  have hpipe : Keeps F (fun _ => True) (relayPipe proc goneSince l) :=
    (relayPipe_keeps hW goneSince proc l).mono (fun _ _ h => h)
      fun _ _ => trivial
  refine hpipe.bind fun r => ?_
  cases r with
  | none => exact Keeps.pure _
  | some l =>
      exact (pollClients_keeps hF b debug goneSince).bind
        fun _ => Keeps.pure _

theorem relay_keeps (hW : Relays F) (hR : ∀ e, e.Foreign → R e)
    (b : Bridge) (debug : Bool) (proc : ℕ) (spawnT : Instant) :
    Keeps F R (relay b debug proc spawnT) := by
  apply Keeps.tryCatch (S := fun _ => True)
  · have hloop := whileTrue_keeps (R := fun _ : Exc SessionOver => True)
      (fun _ _ => trivial) (relayStep_keeps hF hW b debug proc spawnT)
      (Relay.start, none)
    exact hloop.bind fun _ => Keeps.pure none
  · intro e _
    split
    · exact Keeps.pure _
    · next hown =>
        apply Keeps.raise
        apply hR
        cases e with
        | own so => exact absurd rfl (hown so)
        | stopped | keyboardInterrupt | systemExit | osError => exact trivial

variable (hR : ∀ e, e.Foreign → R e)
include hR

theorem beforeRetry_keeps (b : Bridge) : Keeps F R (beforeRetry b) := by
  have hidle := hF.toIdles
  have hcall : ∀ x, Keeps F R (syscall fun _ => mark x : BridgeM Unit) :=
    fun x => syscall_keeps hR hidle fun _ => mark_keeps hF x
  cases b with
  | rear => exact sleep_keeps hR hidle 1
  | psys =>
      apply (log_keeps hR hidle).bind
      intro _
      apply (hcall _).bind
      intro _
      apply (syscall_keeps hR hidle fun _ => Keeps.pure ()).bind
      exact fun _ => sleep_keeps hR hidle 1

theorem retry_keeps (b : Bridge) (attempt : ℕ) :
    Keeps F R (Prog.when (attempt < maxAttempts) (do
      beforeRetry b
      mark fun w => .retry w.newest)) :=
  Keeps.when ((beforeRetry_keeps hF hR b).bind fun _ => mark_keeps hF _)

end Polling

theorem shutdown_calm : Keeps calm Exc.Foreign shutdown := by
  have hlog := log_keeps (ρ := SessionOver) foreign calm_polls.toIdles
  have hignore := fun s => (ignoreSignal_quiet foreign s).calm
  refine (hignore .sigterm).bind fun _ => (hignore .sigint).bind fun _ => ?_
  refine (Keeps.gets _).bind fun proc => ?_
  cases proc with
  | none => exact Keeps.pure ()
  | some proc =>
      refine (exited_keeps foreign calm_polls.toIdles proc).bind fun gone => Keeps.when ?_
      refine hlog.bind fun _ => ?_
      exact (stopGst_keeps foreign calm_polls.toIdles proc).bind fun _ => Keeps.when hlog

/-! ## A stopped producer -/

/-- The producer is gone. -/
def Gone (proc : ℕ) (w : State) : Prop := proc ∉ w.dev.alive

theorem exited_gone (proc : ℕ) :
    Triple (fun _ => True) (exited proc) (fun r w => r = true → Gone proc w)
      (fun _ _ => True) := by
  refine triple_atMoment (fun _ _ _ h => h) (fun _ h => h) (fun _ h => h)
    fun _ => Triple.gets fun w _ hr => ?_
  have hgone : proc ∉ w.dev.alive := of_decide_eq_true hr
  exact hgone

/-- A `SIGINT` finds no process only if the producer is gone. -/
theorem sigintAgain_gone (proc : ℕ) :
    Triple (fun _ => True) (sigintAgain proc)
      (fun r w => r = true → Gone proc w) (fun _ _ => True) := by
  refine Triple.tryCatch
    (J := fun e w => e = .osError .processLookup → Gone proc w) ?_
    fun e => ?_
  · refine Triple.bind (Q := fun _ _ => True) ?_
      fun _ => Triple.pure fun _ _ h => by cases h
    refine triple_tryCall (fun _ _ _ h => h) (fun _ _ h => by cases h)
      (fun _ _ h => by cases h) (fun k => ?_) fun _ => Triple.pure fun _ h => h
    refine Triple.bind
      (Q := fun alive w => alive = false → Gone proc w) ?_ fun alive => ?_
    · refine Triple.gets fun w _ hr => ?_
      have hgone : ¬ proc ∈ w.dev.alive := of_decide_eq_false hr
      exact hgone
    · refine Triple.ite (fun hc => ?_) fun _ => ?_
      · refine Triple.bind (Q := fun _ w => Gone proc w)
          (Triple.modify fun _ h => h hc.1) fun _ => ?_
        exact Triple.raise fun _ h _ => h
      · refine Triple.bind (Q := fun _ _ => True) (Triple.modify fun _ _ => trivial)
          fun _ => Triple.raise fun _ _ h => by cases h
  · split
    · exact Triple.pure fun _ h _ => h rfl
    · exact Triple.raise fun _ _ => trivial

theorem stopStep_gone (proc : ℕ) (nextInt : ℚ) :
    Triple (fun _ => True) (stopStep proc nextInt)
      (fun r w => Sum.elim (fun _ => True) (fun a => a = true → Gone proc w) r)
      (fun _ _ => True) := by
  have hwait : ∀ t, Triple (fun _ => True) (waitMore t)
      (fun r w => Sum.elim (fun _ => True)
        (fun a => a = true → Gone proc w) r) (fun _ _ => True) :=
    fun t => Triple.bind (Triple.any _) fun _ => Triple.pure fun _ _ => trivial
  refine Triple.bind (exited_gone proc) fun gone => Triple.ite
    (fun hg => Triple.pure fun _ h _ => h hg) fun _ => ?_
  refine Triple.bind (Triple.any _) fun now => ?_
  refine Triple.ite (fun _ => ?_) fun _ => hwait nextInt
  refine Triple.bind (sigintAgain_gone proc) fun lost => Triple.ite
    (fun hl => Triple.pure fun _ h _ => h hl) fun _ => ?_
  exact Triple.bind (Triple.any _) fun t => hwait _

/-- `stop_gst` answers true only for a producer that is gone. -/
theorem stopGst_gone (proc : ℕ) :
    Triple (fun _ => True) (stopGst proc) (fun r w => r = true → Gone proc w)
      (fun _ _ => True) := by
  refine Triple.bind (exited_gone proc) fun gone => Triple.ite
    (fun hg => Triple.pure fun _ h _ => h hg) fun _ => ?_
  refine Triple.bind (Triple.any _) fun t => ?_
  refine Triple.bind (Triple.any _) fun _ => ?_
  refine Triple.bind (Triple.any _) fun t' => ?_
  refine triple_whileTrue (I := fun _ _ => True) (E := fun _ _ => True)
    (fun nextInt => ?_) (fun _ _ h => h) _
  refine Triple.bind (Triple.any _) fun now => ?_
  refine Triple.ite (fun _ => stopStep_gone proc nextInt) fun _ => ?_
  exact Triple.bind (exited_gone proc) fun gone => Triple.pure fun _ h => h

end Producer
end Bridges
end SurfaceCameras
