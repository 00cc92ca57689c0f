import SurfaceCameras.Bridges.ProducerFrames
import SurfaceCameras.Support.Blocks
import SurfaceCameras.Support.History

/-!
# The frames that a producer bridge relays

Within one attempt the loopback is given some black frames and then the whole
frames of the producer's byte stream, whichever way the reads of the pipe cut
that stream up.  What has been read is gone from the state once it is written,
so an attempt is run here beside a record of its traffic: the bytes it has
read, and what they and the loopback were at each top of the relay loop and at
its end.  The record is never read, and erasing it gives the attempt back.
-/

namespace SurfaceCameras
namespace Bridges
namespace Producer

open Prog Blocks

/-- The bytes read from the pipe so far, the points of the relay loop passed
so far with what had been read and what the loopback had been given there, and
whether a frame could not be written. -/
structure Traffic where
  read : List (BitVec 8)
  points : List (List (BitVec 8) × List (List (BitVec 8)))
  writeFailed : Bool

def Traffic.start : Traffic := ⟨[], [], false⟩

def Traffic.receive (chunk : List (BitVec 8)) (t : Traffic) : Traffic :=
  { t with read := t.read ++ chunk }

def Traffic.point (w : State) (t : Traffic) : Traffic :=
  { t with points := (t.read, w.dev.loopback) :: t.points }

/-- How the relay loop was left: a frame that could not be written is not yet
followed by anything, and every other way is a point of the loop. -/
def Traffic.leave (so : SessionOver) (w : State) (t : Traffic) : Traffic :=
  if so.reason = .loopbackWriteFailed then
    { t with writeFailed := true }
  else
    t.point w

/-- A program of a bridge beside the record of its traffic. -/
abbrev TrafficM (α : Type) : Type :=
  Prog (State × Traffic) (Exc SessionOver) α

/-! ## Recording -/

/-- `while True` beside the record. -/
def recordWhile {α β : Type} (body : β → TrafficM (β ⊕ α)) (b : β) :
    TrafficM α :=
  fun s => Prog.iterate .stopped body (s.1.script.length + 1) b s

def recordPipe (proc : ℕ) (goneSince : Option Instant) (l : Relay) :
    TrafficM (Option Relay) := do
  let readable ← beside (syscall fun m => pure m.outside.readable)
  if readable then do
    let chunk ← beside readChunk
    record fun _ t => t.receive chunk
    beside (relayChunk proc goneSince l chunk)
  else
    pure (some l)

def recordStep (b : Bridge) (debug : Bool) (proc : ℕ) (spawnT : Instant) :
    Relay × Option Instant → TrafficM (Relay × Option Instant ⊕ Unit)
  | (l, goneSince) => do
      record Traffic.point
      beside (mark fun w => .top w.newest goneSince)
      let now ← beside monotonic
      if l.firstFrame.isNone ∧ b.firstFrameTimeout < now - spawnT then do
        beside log
        pure (.inr ())
      else do
        let l ← beside (splash now l)
        let r ← recordPipe proc goneSince l
        match r with
        | none => pure (.inr ())
        | some l => do
            let goneSince ← beside (pollClients b debug goneSince)
            pure (.inl (l, goneSince))

def recordRelay (b : Bridge) (debug : Bool) (proc : ℕ) (spawnT : Instant) :
    TrafficM (Option SessionOver) :=
  Prog.tryCatch
    (do
      recordWhile (recordStep b debug proc spawnT) (Relay.start, none)
      record Traffic.point
      pure none)
    fun e =>
      match e with
      | .own so => do
          record (Traffic.leave so)
          pure (some so)
      | e => Prog.raise e

/-- `runAttempt` beside the record. -/
def recordAttempt (b : Bridge) (debug : Bool) (attempt : ℕ) :
    TrafficM (Option Bool) := do
  beside log
  let proc ← beside popen
  beside (setCurrentProc proc)
  beside (syscall fun _ => pure ())
  beside (tryCall (fun _ => pure ()) fun _ => pure ())
  let spawnT ← beside monotonic
  let so ← recordRelay b debug proc spawnT
  match so with
  | some so => do
      let again ← beside (endSession b proc so)
      pure (some again)
  | none => do
      beside (failedStart b proc attempt)
      pure none

section Erasing

variable (b : Bridge) (debug : Bool) (proc : ℕ)

theorem recordWhile_erases {α β : Type} {k : β → TrafficM (β ⊕ α)}
    {body : β → BridgeM (β ⊕ α)} (hbody : ∀ x, Erases (k x) (body x)) (x : β) :
    Erases (recordWhile k x) (whileTrue body x) :=
  fun s => Erases.iterate hbody _ x s

theorem recordPipe_erases (goneSince : Option Instant) (l : Relay) :
    Erases (recordPipe proc goneSince l) (relayPipe proc goneSince l) := by
  apply Erases.bind (Erases.beside _)
  intro readable
  apply Erases.ite
  · apply Erases.bind (Erases.beside readChunk)
    intro chunk
    exact Erases.record_bind (Erases.beside _)
  · exact Erases.pure (some l)

theorem recordStep_erases (spawnT : Instant) (x : Relay × Option Instant) :
    Erases (recordStep b debug proc spawnT x)
      (relayStep b debug proc spawnT x) := by
  obtain ⟨l, goneSince⟩ := x
  apply Erases.record_bind
  apply Erases.bind (Erases.beside _)
  intro _
  apply Erases.bind (Erases.beside monotonic)
  intro now
  apply Erases.ite
  · exact Erases.bind (Erases.beside log) fun _ => Erases.pure _
  apply Erases.bind (Erases.beside (splash now l))
  intro l
  apply Erases.bind (recordPipe_erases proc goneSince l)
  intro r
  cases r with
  | none => exact Erases.pure _
  | some l => exact Erases.bind (Erases.beside _) fun _ => Erases.pure _

theorem recordRelay_erases (spawnT : Instant) :
    Erases (recordRelay b debug proc spawnT) (relay b debug proc spawnT) := by
  apply Erases.tryCatch
  · apply Erases.bind
      (recordWhile_erases (recordStep_erases b debug proc spawnT) _)
    intro _
    exact Erases.record_bind (Erases.pure none)
  · intro e
    cases e with
    | own so => exact Erases.record_bind (Erases.pure (some so))
    | stopped | keyboardInterrupt | systemExit | osError =>
        exact Erases.raise _

/-- Without its record, the recorded attempt is the attempt. -/
theorem recordAttempt_erases (attempt : ℕ) :
    Erases (recordAttempt b debug attempt) (runAttempt b debug attempt) := by
  apply Erases.bind (Erases.beside log)
  intro _
  apply Erases.bind (Erases.beside popen)
  intro proc
  apply Erases.bind (Erases.beside (setCurrentProc proc))
  intro _
  apply Erases.bind (Erases.beside _)
  intro _
  apply Erases.bind (Erases.beside _)
  intro _
  apply Erases.bind (Erases.beside monotonic)
  intro spawnT
  apply Erases.bind (recordRelay_erases b debug proc spawnT)
  intro so
  cases so with
  | some so =>
      exact Erases.bind (Erases.beside (endSession b proc so)) fun _ =>
        Erases.pure _
  | none =>
      exact Erases.bind (Erases.beside (failedStart b proc attempt)) fun _ =>
        Erases.pure none

end Erasing

/-! ## What the loopback is given -/

/-- Beyond what was there `before`, the loopback has been given black frames
and then the first `m` frames of the bytes read. -/
def Written (before : List (List (BitVec 8))) (m : ℕ) (read : List (BitVec 8))
    (loopback : List (List (BitVec 8))) : Prop :=
  frameSize * m ≤ read.length ∧
    ∃ k, loopback =
      (List.replicate k blackFrame ++ firstBlocks frameSize m read).reverse ++
        before

/-- It has been given every whole frame of the bytes read. -/
def WholeFrames (before : List (List (BitVec 8))) (read : List (BitVec 8))
    (loopback : List (List (BitVec 8))) : Prop :=
  ∃ k, loopback =
    (List.replicate k blackFrame ++ blocks frameSize read).reverse ++ before

/-- The relay loop has written `m` frames: the buffer holds what was read
since, and nothing has been written while no first frame is noted. -/
structure Flow (before : List (List (BitVec 8))) (read : List (BitVec 8))
    (m : ℕ) (l : Relay) (loopback : List (List (BitVec 8))) : Prop where
  written : Written before m read loopback
  buf : l.buf = read.drop (frameSize * m)
  waiting : l.firstFrame = none → m = 0

section Flow

variable {before loopback : List (List (BitVec 8))} {read : List (BitVec 8)}
  {m : ℕ} {l : Relay}

theorem Flow.start : Flow before [] 0 Relay.start before :=
  ⟨⟨Nat.zero_le _, 0, rfl⟩, rfl, fun _ => rfl⟩

theorem Flow.whole (h : Flow before read m l loopback)
    (hshort : l.buf.length < frameSize) : WholeFrames before read loopback := by
  obtain ⟨hfits, k, hk⟩ := h.written
  rw [h.buf] at hshort
  rw [firstBlocks_eq_blocks hfits hshort] at hk
  exact ⟨k, hk⟩

theorem Written.append (h : Written before m read loopback)
    (chunk : List (BitVec 8)) : Written before m (read ++ chunk) loopback := by
  obtain ⟨hfits, k, hk⟩ := h
  refine ⟨?_, k, ?_⟩
  · rw [List.length_append]
    exact hfits.trans (Nat.le_add_right _ _)
  · rw [hk, firstBlocks_append hfits]

theorem Flow.append (h : Flow before read m l loopback)
    (chunk : List (BitVec 8)) :
    Flow before (read ++ chunk) m { l with buf := l.buf ++ chunk } loopback := by
  refine ⟨h.written.append chunk, ?_, h.waiting⟩
  change l.buf ++ chunk = _
  rw [h.buf, List.drop_append_of_le_length h.written.1]

theorem Flow.black (h : Flow before read m l loopback)
    (hfirst : l.firstFrame = none) (t : ℚ) :
    Flow before read m { l with nextSplash := t } (blackFrame :: loopback) := by
  obtain ⟨hfits, k, hk⟩ := h.written
  obtain rfl : m = 0 := h.waiting hfirst
  refine ⟨⟨hfits, k + 1, ?_⟩, h.buf, h.waiting⟩
  rw [hk, List.replicate_succ']
  simp

theorem Flow.notBlack (h : Flow before read m l loopback) (t : ℚ) :
    Flow before read m { l with nextSplash := t } loopback :=
  ⟨h.written, h.buf, h.waiting⟩

/-- The frame taken from the buffer is the next one of the stream. -/
theorem Flow.frame (h : Flow before read m l loopback)
    (hlen : frameSize ≤ l.buf.length) {l' : Relay}
    (hbuf : l'.buf = l.buf.drop frameSize) (hfirst : l'.firstFrame ≠ none) :
    Flow before read (m + 1) l' (l.buf.take frameSize :: loopback) := by
  obtain ⟨hfits, k, hk⟩ := h.written
  have hmul : frameSize * (m + 1) = frameSize * m + frameSize :=
    Nat.mul_succ frameSize m
  have hnext : l.buf.take frameSize = blockAt frameSize read m := by
    rw [h.buf, blockAt]
  refine ⟨⟨?_, k, ?_⟩, ?_, fun hn => absurd hn hfirst⟩
  · rw [h.buf, List.length_drop] at hlen
    omega
  · rw [hk, hnext, firstBlocks_succ]
    simp
  · rw [hbuf, h.buf, List.drop_drop, hmul]

end Flow

/-! ## Operations that leave the loopback alone -/

def loopbackFrame : Frame State := Frame.fixing fun w => w.dev.loopback

theorem loopbackFrame_marks : Marks loopbackFrame where
  advance _ _ _ := rfl
  noteRaised _ := rfl
  later _ _ := rfl
  dropEvent _ _ := rfl
  dequeued _ _ := rfl
  mark _ _ := rfl

section Unwritten

variable {α : Type} {R : Exc SessionOver → Prop} {p : BridgeM α}

theorem loopback_kept (hp : Keeps loopbackFrame R p)
    (I : List (List (BitVec 8)) → Prop) :
    Triple (fun w => I w.dev.loopback) p (fun _ w => I w.dev.loopback)
      fun e w => I w.dev.loopback ∧ R e := by
  apply hp.triple
  intro w w' h
  have heq : w'.dev.loopback = w.dev.loopback := h
  rw [heq]
  exact id

end Unwritten

theorem popen_unwritten : Keeps loopbackFrame Exc.Foreign popen := by
  apply syscall_keeps foreign loopbackFrame_marks.toIdles
  intro _
  apply (Keeps.gets _).bind
  intro proc
  apply (mark_keeps loopbackFrame_marks _).bind
  intro _
  exact (Keeps.modify fun _ => rfl).bind fun _ => Keeps.pure proc

theorem setCurrentProc_unwritten (proc : ℕ) :
    Keeps loopbackFrame Exc.Foreign (setCurrentProc proc) :=
  atMoment_keeps foreign loopbackFrame_marks.toIdles fun _ =>
    Keeps.modify fun _ => rfl

theorem endSession_unwritten (b : Bridge) (proc : ℕ) (so : SessionOver) :
    Keeps loopbackFrame Exc.Foreign (endSession b proc so) := by
  have hidle := loopbackFrame_marks.toIdles
  have hlog := log_keeps (ρ := SessionOver) foreign hidle
  have hmono := monotonic_keeps (ρ := SessionOver) foreign hidle
  apply (Keeps.when (hmono.bind fun _ => Keeps.pure ())).bind
  intro _
  apply hlog.bind
  intro _
  apply (stopGst_keeps foreign hidle proc).bind
  intro stopped
  apply Keeps.ite
  · apply Keeps.ite _ (Keeps.pure false)
    apply (Keeps.when hlog).bind
    intro _
    exact (sleep_keeps foreign hidle 1).bind fun _ => Keeps.pure true
  · exact hlog.bind fun _ => Keeps.raise trivial

theorem failedStart_unwritten (b : Bridge) (proc attempt : ℕ) :
    Keeps loopbackFrame Exc.Foreign (failedStart b proc attempt) := by
  have hidle := loopbackFrame_marks.toIdles
  apply (stopGst_keeps foreign hidle proc).bind
  intro stopped
  apply Keeps.ite
  · exact retry_keeps loopbackFrame_marks foreign b attempt
  · exact (log_keeps foreign hidle).bind fun _ => Keeps.raise trivial

/-! ## One iteration -/

section Step

variable {before : List (List (BitVec 8))}

/-- The relay loop stands with this buffer, and no whole frame in it. -/
def Drained (before : List (List (BitVec 8))) (read : List (BitVec 8))
    (l : Relay) (loopback : List (List (BitVec 8))) : Prop :=
  (∃ m, Flow before read m l loopback) ∧ l.buf.length < frameSize

/-- How the relay loop is left by an exception: a part of the frames has been
written, and all of them if the session is over for another reason than a
failed write. -/
def Broken (before : List (List (BitVec 8))) (read : List (BitVec 8))
    (e : Exc SessionOver) (loopback : List (List (BitVec 8))) : Prop :=
  (∃ m, Written before m read loopback) ∧
    ∀ so, e = .own so → so.reason ≠ .loopbackWriteFailed →
      WholeFrames before read loopback

/-- What a look at the pipe leaves: the loop goes on, or is left with every
whole frame written. -/
def AfterPipe (before : List (List (BitVec 8))) :
    Option Relay → List (BitVec 8) → List (List (BitVec 8)) → Prop
  | none => WholeFrames before
  | some l => fun read => Drained before read l

variable {read : List (BitVec 8)} {loopback : List (List (BitVec 8))}
  {l : Relay} {m : ℕ} {e : Exc SessionOver}

theorem Flow.broken (h : Flow before read m l loopback) (he : e.Foreign) :
    Broken before read e loopback := by
  refine ⟨⟨m, h.written⟩, ?_⟩
  rintro so rfl
  exact he.elim

theorem Drained.whole (h : Drained before read l loopback) :
    WholeFrames before read loopback := by
  obtain ⟨⟨m, hflow⟩, hshort⟩ := h
  exact hflow.whole hshort

theorem Drained.broken (h : Drained before read l loopback) :
    Broken before read e loopback := by
  have hwhole := h.whole
  obtain ⟨⟨m, hflow⟩, -⟩ := h
  exact ⟨⟨m, hflow.written⟩, fun _ _ _ => hwhole⟩

theorem Drained.reading (h : Drained before read l loopback)
    (chunk : List (BitVec 8)) (he : e.Foreign) :
    Broken before (read ++ chunk) e loopback := by
  obtain ⟨⟨m, hflow⟩, -⟩ := h
  exact (hflow.append chunk).broken he

/-- The first frame is noted once, and the buffer stays. -/
theorem noteFirstFrame_noted (I : List (List (BitVec 8)) → Prop) :
    Triple (fun w => I w.dev.loopback) (noteFirstFrame l)
      (fun l' w => I w.dev.loopback ∧ l'.buf = l.buf ∧ l'.firstFrame ≠ none)
      fun e w => I w.dev.loopback ∧ e.Foreign := by
  have hidle := loopbackFrame_marks.toIdles
  apply Triple.ite
  · intro _
    apply Triple.bind (loopback_kept (monotonic_keeps foreign hidle) I)
    intro t
    apply Triple.bind (loopback_kept (log_keeps foreign hidle) I)
    intro _
    apply Triple.pure
    intro w hw
    exact ⟨hw, rfl, Option.some_ne_none t⟩
  · intro hfirst
    apply Triple.pure
    intro w hw
    refine ⟨hw, rfl, fun hnone => hfirst ?_⟩
    rw [hnone]
    rfl

theorem relayFrame_flow (goneSince : Option Instant) :
    Triple (fun w => ∃ m, Flow before read m l w.dev.loopback)
      (relayFrame goneSince l)
      (fun r w => Sum.elim
        (fun l' => ∃ m, Flow before read m l' w.dev.loopback)
        (fun l' => Drained before read l' w.dev.loopback) r)
      fun e w => Broken before read e w.dev.loopback := by
  apply Triple.ite
  · intro hlen
    apply Triple.bind (Q := fun l' w =>
      (∃ m, Flow before read m l w.dev.loopback) ∧
        l'.buf = l.buf.drop frameSize ∧ l'.firstFrame ≠ none)
    · have hnoted := noteFirstFrame_noted (l := { l with
        buf := l.buf.drop frameSize })
        fun loopback => ∃ m, Flow before read m l loopback
      apply hnoted.consequence (fun _ hw => hw) (fun _ _ hw => hw)
      rintro e w ⟨⟨m, hw⟩, he⟩
      exact hw.broken he
    intro l'
    apply Triple.bind
      (Q := fun _ w => ∃ m, Flow before read m l' w.dev.loopback)
    · apply triple_tryCall
      · exact fun _ _ _ hw => hw
      · rintro w ⟨⟨m, hw⟩, -⟩
        exact hw.broken trivial
      · rintro w ⟨⟨m, hw⟩, -⟩
        exact hw.broken trivial
      · intro _
        apply Triple.raise
        rintro w ⟨⟨m, hw⟩, -⟩
        refine ⟨⟨m, hw.written⟩, ?_⟩
        rintro so ⟨⟩ hne
        exact absurd rfl hne
      · intro _
        apply Triple.modify
        rintro w ⟨⟨m, hw⟩, hbuf, hfirst⟩
        exact ⟨m + 1, hw.frame hlen hbuf hfirst⟩
    · exact fun _ => Triple.pure fun _ hw => hw
  · intro hshort
    apply Triple.pure
    intro w hw
    exact ⟨hw, not_le.mp hshort⟩

/-- The end of the pipe is only looked for after an empty read. -/
theorem pipeEnded_empty (proc : ℕ) (chunk : List (BitVec 8))
    (I : List (List (BitVec 8)) → Prop) :
    Triple (fun w => I w.dev.loopback) (pipeEnded proc chunk)
      (fun ended w => I w.dev.loopback ∧ (ended = true → chunk = []))
      fun e w => I w.dev.loopback ∧ e.Foreign := by
  have hidle := loopbackFrame_marks.toIdles
  apply Triple.ite
  · intro hempty
    apply (loopback_kept (exited_keeps foreign hidle proc) I).consequence
      (fun _ hw => hw) _ (fun _ _ hw => hw)
    exact fun _ _ hw => ⟨hw, fun _ => hempty⟩
  · intro _
    apply Triple.pure
    exact fun w hw => ⟨hw, fun h => by cases h⟩

/-- What a read leads to, when the bytes read include the chunk. -/
theorem relayChunk_flow (proc : ℕ) (goneSince : Option Instant)
    (chunk : List (BitVec 8)) :
    Triple (fun w => Drained before read l w.dev.loopback)
      (relayChunk proc goneSince l chunk)
      (fun r w => AfterPipe before r (read ++ chunk) w.dev.loopback)
      fun e w => Broken before (read ++ chunk) e w.dev.loopback := by
  have hidle := loopbackFrame_marks.toIdles
  apply Triple.bind (Q := fun ended w =>
    Drained before read l w.dev.loopback ∧ (ended = true → chunk = []))
  · apply (pipeEnded_empty proc chunk (Drained before read l)).consequence
      (fun _ hw => hw) (fun _ _ hw => hw)
    rintro e w ⟨hw, he⟩
    exact hw.reading chunk he
  intro ended
  apply Triple.ite
  · intro hended
    have hchunk : ∀ w : State, Drained before read l w.dev.loopback ∧
        (ended = true → chunk = []) →
        Drained before (read ++ chunk) l w.dev.loopback := by
      rintro w ⟨hw, hempty⟩
      rw [hempty hended, List.append_nil]
      exact hw
    apply Triple.strengthenPre _ hchunk
    apply Triple.ite
    · intro _
      apply Triple.bind
        (Q := fun _ w => Drained before (read ++ chunk) l w.dev.loopback)
      · apply (loopback_kept (log_keeps foreign hidle) _).consequence
          (fun _ hw => hw) (fun _ _ hw => hw)
        exact fun _ _ hw => hw.1.broken
      · exact fun _ => Triple.pure fun _ hw => hw.whole
    · exact fun _ => Triple.raise fun _ hw => hw.broken
  · intro _
    apply Triple.bind
      (Q := fun l' w => Drained before (read ++ chunk) l' w.dev.loopback)
    · have hloop := triple_whileTrue
        (I := fun l' (w : State) =>
          ∃ m, Flow before (read ++ chunk) m l' w.dev.loopback)
        (Q := fun l' w => Drained before (read ++ chunk) l' w.dev.loopback)
        (E := fun e w => Broken before (read ++ chunk) e w.dev.loopback)
        (fun _ => relayFrame_flow goneSince)
        (fun _ _ ⟨m, hw⟩ => hw.broken trivial)
        { l with buf := l.buf ++ chunk }
      apply hloop.strengthenPre
      rintro w ⟨⟨⟨m, hw⟩, -⟩, -⟩
      exact ⟨m, hw.append chunk⟩
    · exact fun _ => Triple.pure fun _ hw => hw

theorem splash_drained (now : Instant) :
    Triple (fun w => Drained before read l w.dev.loopback) (splash now l)
      (fun l' w => Drained before read l' w.dev.loopback)
      fun e w => Broken before read e w.dev.loopback := by
  apply Triple.ite
  · rintro ⟨hnone, -⟩
    have hfirst : l.firstFrame = none := Option.isNone_iff_eq_none.mp hnone
    apply Triple.bind (Q := fun _ w =>
      Drained before read { l with nextSplash := now + 1 / fps }
        w.dev.loopback)
    · apply triple_tryCall
      · exact fun _ _ _ hw => hw
      · exact fun _ hw => hw.broken
      · exact fun _ hw => hw.broken
      · intro _
        apply Triple.pure
        rintro w ⟨⟨m, hw⟩, hshort⟩
        exact ⟨⟨m, hw.notBlack _⟩, hshort⟩
      · intro _
        apply Triple.modify
        rintro w ⟨⟨m, hw⟩, hshort⟩
        exact ⟨⟨m, hw.black hfirst _⟩, hshort⟩
    · exact fun _ => Triple.pure fun _ hw => hw
  · exact fun _ => Triple.pure fun _ hw => hw

end Step

/-! ## Beside the record -/

section OnRecord

variable {before : List (List (BitVec 8))}

/-- `I` holds of what has been read and of the loopback, every point passed
was one of whole frames, and no frame failed. -/
structure OnRecord (before : List (List (BitVec 8)))
    (I : List (BitVec 8) → List (List (BitVec 8)) → Prop)
    (s : State × Traffic) : Prop where
  here : I s.2.read s.1.dev.loopback
  points : ∀ p ∈ s.2.points, WholeFrames before p.1 p.2
  writing : s.2.writeFailed = false

variable {α : Type} {l : Relay} {s : State × Traffic}
  {I : List (BitVec 8) → List (List (BitVec 8)) → Prop}
  {J : α → List (BitVec 8) → List (List (BitVec 8)) → Prop}

/-- What holds of an operation for any bytes read holds beside the record. -/
theorem recorded_beside {p : BridgeM α}
    (hp : ∀ read, Triple (fun w => I read w.dev.loopback) p
      (fun a w => J a read w.dev.loopback)
      fun e w => Broken before read e w.dev.loopback) :
    Triple (OnRecord before I) (beside p) (fun a => OnRecord before (J a))
      fun e => OnRecord before fun read => Broken before read e := by
  apply Triple.beside
  intro t w hw
  have h := hp t.read w hw.here
  revert h
  rcases p w with ⟨_ | _, w'⟩
  · exact fun h => ⟨h, hw.points, hw.writing⟩
  · exact fun h => ⟨h, hw.points, hw.writing⟩

theorem recorded_idle {p : BridgeM α} {R : Exc SessionOver → Prop}
    (hp : Keeps loopbackFrame R p) :
    Triple (OnRecord before fun read => Drained before read l) (beside p)
      (fun _ => OnRecord before fun read => Drained before read l)
      fun e => OnRecord before fun read => Broken before read e := by
  apply recorded_beside (J := fun _ read => Drained before read l)
  intro read
  apply (loopback_kept hp (Drained before read l)).consequence
    (fun _ hw => hw) (fun _ _ hw => hw)
  exact fun _ _ hw => hw.1.broken

theorem OnRecord.point (h : OnRecord before I s)
    (hwhole : WholeFrames before s.2.read s.1.dev.loopback) :
    OnRecord before I (s.1, s.2.point s.1) := by
  refine ⟨h.here, ?_, h.writing⟩
  intro p hp
  rcases List.mem_cons.mp hp with rfl | hp
  · exact hwhole
  · exact h.points p hp

theorem recordPipe_recorded (proc : ℕ) (goneSince : Option Instant) :
    Triple (OnRecord before fun read => Drained before read l)
      (recordPipe proc goneSince l)
      (fun r => OnRecord before (AfterPipe before r))
      fun e => OnRecord before fun read => Broken before read e := by
  have hidle := loopbackFrame_marks.toIdles
  have hready : Keeps loopbackFrame Exc.Foreign
      (syscall fun m => pure m.outside.readable : BridgeM Bool) :=
    syscall_keeps foreign hidle fun _ => Keeps.pure _
  apply Triple.bind (recorded_idle hready)
  intro readable
  apply Triple.ite
  · intro _
    apply Triple.bind (recorded_idle (readChunk_keeps foreign hidle))
    intro chunk
    apply Triple.bind (Q := fun _ => OnRecord before fun read loopback =>
      ∃ read', read = read' ++ chunk ∧ Drained before read' l loopback)
    · apply Triple.record
      intro w t hw
      exact ⟨⟨t.read, rfl, hw.here⟩, hw.points, hw.writing⟩
    intro _
    apply recorded_beside
    rintro _ w ⟨read', rfl, hw⟩
    exact relayChunk_flow proc goneSince chunk w hw
  · exact fun _ => Triple.pure fun _ hw => hw

theorem recordStep_recorded (b : Bridge) (debug : Bool) (proc : ℕ)
    (spawnT : Instant) (x : Relay × Option Instant) :
    Triple (OnRecord before fun read => Drained before read x.1)
      (recordStep b debug proc spawnT x)
      (fun r s => Sum.elim
        (fun y : Relay × Option Instant =>
          OnRecord before (fun read => Drained before read y.1) s)
        (fun _ => OnRecord before (WholeFrames before) s) r)
      fun e => OnRecord before fun read => Broken before read e := by
  obtain ⟨l, goneSince⟩ := x
  have hidle := loopbackFrame_marks.toIdles
  have hleave : ∀ s, OnRecord before (fun read => Drained before read l) s →
      OnRecord before (WholeFrames before) s :=
    fun s hs => ⟨hs.here.whole, hs.points, hs.writing⟩
  apply Triple.bind
    (Q := fun _ => OnRecord before fun read => Drained before read l)
  · exact Triple.record fun w t hw => hw.point hw.here.whole
  intro _
  apply Triple.bind (recorded_idle
    (mark_keeps (R := Exc.Foreign) loopbackFrame_marks _))
  intro _
  apply Triple.bind (recorded_idle (monotonic_keeps foreign hidle))
  intro now
  apply Triple.ite
  · intro _
    apply Triple.bind (recorded_idle (log_keeps foreign hidle))
    exact fun _ => Triple.pure hleave
  intro _
  apply Triple.bind (recorded_beside
    (J := fun l' read => Drained before read l') fun _ => splash_drained now)
  intro l
  apply Triple.bind (recordPipe_recorded proc goneSince)
  intro r
  cases r with
  | none => exact Triple.pure fun _ hw => hw
  | some l =>
      apply Triple.bind (recorded_idle
        (pollClients_keeps loopbackFrame_marks b debug goneSince))
      exact fun _ => Triple.pure fun _ hw => hw

/-! ## Whole attempts -/

/-- The frames of an attempt that has come this far: only whole frames of what
was read have been written, in order and after any black frame, and all of
them at every point of the relay loop. -/
structure Relayed (before : List (List (BitVec 8))) (s : State × Traffic) :
    Prop where
  written : ∃ m, Written before m s.2.read s.1.dev.loopback
  points : ∀ p ∈ s.2.points, WholeFrames before p.1 p.2

/-- The relay loop is over: all of them have been written, unless a write
failed. -/
structure RelayedAll (before : List (List (BitVec 8)))
    (s : State × Traffic) : Prop extends Relayed before s where
  whole : s.2.writeFailed = false →
    WholeFrames before s.2.read s.1.dev.loopback

theorem WholeFrames.written {read : List (BitVec 8)}
    {loopback : List (List (BitVec 8))}
    (h : WholeFrames before read loopback) :
    Written before (read.length / frameSize) read loopback :=
  ⟨Nat.mul_div_le read.length frameSize, h⟩

theorem recordRelay_relayed (b : Bridge) (debug : Bool) (proc : ℕ)
    (spawnT : Instant) :
    Triple (OnRecord before fun read => Drained before read Relay.start)
      (recordRelay b debug proc spawnT) (fun _ => RelayedAll before)
      fun _ => Relayed before := by
  apply Triple.tryCatch
    (J := fun e => OnRecord before fun read => Broken before read e)
  · apply Triple.bind (Q := fun _ => OnRecord before (WholeFrames before))
    · intro s hs
      exact Triple.iterate
        (I := fun x => OnRecord before fun read => Drained before read x.1)
        (recordStep_recorded b debug proc spawnT)
        (fun _ _ ht => ⟨ht.here.broken, ht.points, ht.writing⟩) _
        (Relay.start, none) s hs
    intro _
    apply Triple.bind (Q := fun _ => RelayedAll before)
    · apply Triple.record
      intro w t hw
      have hpoint := hw.point hw.here
      exact ⟨⟨⟨_, hw.here.written⟩, hpoint.points⟩, fun _ => hw.here⟩
    · exact fun _ => Triple.pure fun _ hs => hs
  · intro e
    cases e with
    | own so =>
        apply Triple.bind (Q := fun _ => RelayedAll before)
        · apply Triple.record
          intro w t hw
          have hwritten := hw.here.1
          simp only [Traffic.leave]
          split
          · exact ⟨⟨hwritten, hw.points⟩, fun h => by cases h⟩
          · next hreason =>
              have hwhole := hw.here.2 so rfl hreason
              exact ⟨⟨hwritten, (hw.point hwhole).points⟩, fun _ => hwhole⟩
        · exact fun _ => Triple.pure fun _ hs => hs
    | stopped | keyboardInterrupt | systemExit | osError =>
        exact Triple.raise fun s hs => ⟨hs.here.1, hs.points⟩

/-- What an operation that leaves the loopback alone leaves of an attempt. -/
theorem relayed_idle {p : BridgeM α} {R : Exc SessionOver → Prop}
    (hp : Keeps loopbackFrame R p) :
    Triple (RelayedAll before) (beside p) (fun _ => RelayedAll before)
      fun _ => Relayed before := by
  have hkept : ∀ w w' t, loopbackFrame.Rel w w' →
      RelayedAll before (w, t) → RelayedAll before (w', t) := by
    rintro w w' t h ⟨⟨hwritten, hpoints⟩, hwhole⟩
    have heq : w'.dev.loopback = w.dev.loopback := h
    refine ⟨⟨?_, hpoints⟩, ?_⟩
    · rwa [heq]
    · rwa [heq]
  apply (Triple.beside_keeps hp hkept).consequence (fun _ hs => hs)
    (fun _ _ hs => hs)
  exact fun _ _ hs => hs.1.toRelayed

/-- At the start of an attempt nothing has been read or written. -/
def Fresh (before : List (List (BitVec 8))) (s : State × Traffic) : Prop :=
  s.1.dev.loopback = before ∧ s.2 = Traffic.start

theorem Fresh.recorded (h : Fresh before s) :
    OnRecord before (fun read => Drained before read Relay.start) s := by
  obtain ⟨w, t⟩ := s
  obtain ⟨rfl, rfl⟩ := h
  refine ⟨⟨⟨0, Flow.start⟩, ?_⟩, fun p hp => ?_, rfl⟩
  · exact Nat.mul_pos (Nat.mul_pos (by decide) (by decide)) (by decide)
  · cases hp

theorem Fresh.relayed (h : Fresh before s) : Relayed before s := by
  obtain ⟨⟨⟨m, hflow⟩, -⟩, hpoints, -⟩ := h.recorded
  exact ⟨⟨m, hflow.written⟩, hpoints⟩

theorem fresh_idle {p : BridgeM α} {R : Exc SessionOver → Prop}
    (hp : Keeps loopbackFrame R p) :
    Triple (Fresh before) (beside p) (fun _ => Fresh before)
      fun _ => Relayed before := by
  have hkept : ∀ w w' t, loopbackFrame.Rel w w' →
      Fresh before (w, t) → Fresh before (w', t) :=
    fun w w' t h hs => ⟨Eq.trans h hs.1, hs.2⟩
  apply (Triple.beside_keeps hp hkept).consequence (fun _ hs => hs)
    (fun _ _ hs => hs)
  exact fun _ _ hs => hs.1.relayed

theorem recordAttempt_relayed (b : Bridge) (debug : Bool) (attempt : ℕ) :
    Triple (Fresh before) (recordAttempt b debug attempt)
      (fun _ => RelayedAll before) fun _ => Relayed before := by
  have hidle := loopbackFrame_marks.toIdles
  apply Triple.bind (fresh_idle (log_keeps foreign hidle))
  intro _
  apply Triple.bind (fresh_idle popen_unwritten)
  intro proc
  apply Triple.bind (fresh_idle (setCurrentProc_unwritten proc))
  intro _
  apply Triple.bind
    (fresh_idle (syscall_keeps foreign hidle fun _ => Keeps.pure ()))
  intro _
  apply Triple.bind (fresh_idle
    (tryCall_keeps foreign hidle (fun _ => Keeps.pure ()) fun _ => Keeps.pure ()))
  intro _
  apply Triple.bind (fresh_idle (monotonic_keeps foreign hidle))
  intro spawnT
  apply Triple.bind ((recordRelay_relayed b debug proc spawnT).strengthenPre
    fun _ hs => hs.recorded)
  intro so
  cases so with
  | some so =>
      apply Triple.bind (relayed_idle (endSession_unwritten b proc so))
      exact fun _ => Triple.pure fun _ hs => hs
  | none =>
      apply Triple.bind (relayed_idle (failedStart_unwritten b proc attempt))
      exact fun _ => Triple.pure fun _ hs => hs

end OnRecord

/-- Whatever an attempt reads from the pipe and in whatever pieces, what it
has written to the loopback is some black frames followed by whole frames of
the bytes read, in order and each once.  At every top of the relay loop, and
when the attempt is over without a failed write, these are all the whole
frames that were read. -/
theorem runAttempt_relaysFrames (b : Bridge) (debug : Bool) (attempt : ℕ)
    (w : State) :
    ∃ t : Traffic,
      recordAttempt b debug attempt (w, Traffic.start) =
        ((runAttempt b debug attempt w).1,
          ((runAttempt b debug attempt w).2, t)) ∧
      Relayed w.dev.loopback ((runAttempt b debug attempt w).2, t) ∧
      ∀ r, (runAttempt b debug attempt w).1 = .ok r →
        RelayedAll w.dev.loopback ((runAttempt b debug attempt w).2, t) := by
  have herase := recordAttempt_erases b debug attempt (w, Traffic.start)
  have hfresh : Fresh w.dev.loopback (w, Traffic.start) := ⟨rfl, rfl⟩
  have hrelayed := recordAttempt_relayed b debug attempt _ hfresh
  revert herase hrelayed
  rcases recordAttempt b debug attempt (w, Traffic.start) with ⟨x, w', t⟩
  intro herase hrelayed
  have hrun : runAttempt b debug attempt w = (x, w') := herase.symm
  rw [hrun]
  refine ⟨t, rfl, ?_⟩
  cases x with
  | error e => exact ⟨hrelayed, fun r hr => by cases hr⟩
  | ok a => exact ⟨hrelayed.toRelayed, fun _ _ => hrelayed⟩

end Producer
end Bridges
end SurfaceCameras
