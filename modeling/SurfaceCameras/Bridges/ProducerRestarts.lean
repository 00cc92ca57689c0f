import SurfaceCameras.Bridges.ProducerFrames
import SurfaceCameras.Support.History
import SurfaceCameras.Support.RateLimit
import Mathlib.Data.Rat.Cast.Order

/-!
# The restarts of the rear bridge

While a client waits, the rear bridge starts one session after the other, and
each one that asks for a new one is a restart.  The bridge keeps the instants
of the last minute's restarts and gives up when there are too many of them.  A
demand is run here beside the history of all its sessions and restarts, which
the bridge itself forgets.
-/

namespace SurfaceCameras
namespace Bridges
namespace Producer

open Prog

/-! ## The clock -/

/-- The frame also allows to start and record a producer. -/
structure Serves (F : Frame State) : Prop extends Marks F, Relays F where
  spawn : ∀ w : State, F.Rel w w.spawn
  currentProc : ∀ (w : State) (proc : ℕ),
    F.Rel w { w with dev := { w.dev with currentProc := some proc } }

section Sessions

variable {F : Frame State} {R : Exc SessionOver → Prop} (hF : Serves F)
  (hR : ∀ e, e.Foreign → R e)
include hF hR

theorem endSession_keeps (b : Bridge) (proc : ℕ) (so : SessionOver) :
    Keeps F R (endSession b proc so) := by
  have hidle := hF.toIdles
  have hlog := log_keeps (ρ := SessionOver) hR hidle
  have hmono := (monotonic_keeps hR hidle).bind fun _ => Keeps.pure (R := R) ()
  refine (Keeps.when hmono).bind fun _ => hlog.bind fun _ => ?_
  refine (stopGst_keeps hR hidle proc).bind fun stopped => Keeps.ite ?_ ?_
  · refine Keeps.ite ?_ (Keeps.pure false)
    refine (Keeps.when hlog).bind fun _ => ?_
    exact (sleep_keeps hR hidle 1).bind fun _ => Keeps.pure true
  · exact hlog.bind fun _ => Keeps.raise (hR _ trivial)

theorem failedStart_keeps (b : Bridge) (proc attempt : ℕ) :
    Keeps F R (failedStart b proc attempt) := by
  have hidle := hF.toIdles
  refine (stopGst_keeps hR hidle proc).bind fun stopped => Keeps.ite ?_ ?_
  · exact retry_keeps hF.toMarks hR b attempt
  · exact (log_keeps hR hidle).bind fun _ => Keeps.raise (hR _ trivial)

theorem runAttempt_keeps (b : Bridge) (debug : Bool) (attempt : ℕ) :
    Keeps F R (runAttempt b debug attempt) := by
  have hidle := hF.toIdles
  have hpopen : Keeps F R popen := syscall_keeps hR hidle fun _ =>
    (Keeps.gets _).bind fun _ => (mark_keeps hF.toMarks _).bind fun _ =>
      (Keeps.modify hF.spawn).bind fun _ => Keeps.pure _
  have hset : ∀ proc, Keeps F R (setCurrentProc proc) := fun proc =>
    atMoment_keeps hR hidle fun _ =>
      Keeps.modify fun w => hF.currentProc w proc
  refine (log_keeps hR hidle).bind fun _ => hpopen.bind fun proc => ?_
  refine (hset proc).bind fun _ => ?_
  refine (syscall_keeps hR hidle fun _ => Keeps.pure ()).bind fun _ => ?_
  refine (tryCall_keeps hR hidle (fun _ => Keeps.pure ())
    fun _ => Keeps.pure ()).bind fun _ => ?_
  refine (monotonic_keeps hR hidle).bind fun spawnT => ?_
  refine (relay_keeps hF.toMarks hF.toRelays hR b debug proc spawnT).bind fun so => ?_
  cases so with
  | some so =>
      exact (endSession_keeps hF hR b proc so).bind fun _ => Keeps.pure _
  | none =>
      exact (failedStart_keeps hF hR b proc attempt).bind fun _ => Keeps.pure _

theorem runAttempts_keeps (b : Bridge) (debug : Bool) (left : ℕ) :
    Keeps F R (runAttempts b debug left) := by
  induction left with
  | zero =>
      refine (log_keeps hR hF.toIdles).bind fun _ => ?_
      exact (sleep_keeps hR hF.toIdles 2).bind fun _ => Keeps.pure false
  | succ left ih =>
      refine (runAttempt_keeps hF hR b debug (maxAttempts - left)).bind
        fun r => ?_
      cases r with
      | some again => exact Keeps.pure again
      | none => exact ih

theorem runSession_keeps (b : Bridge) (debug : Bool) :
    Keeps F R (runSession b debug) := by
  have hidle := hF.toIdles
  refine (otherProducers_keeps hR hidle b).bind fun others => Keeps.ite ?_ ?_
  · refine (log_keeps hR hidle).bind fun _ => ?_
    refine (sleep_keeps hR hidle 5).bind fun _ => ?_
    exact (pollClientCount_keeps hR hF.toPolls).bind fun _ => Keeps.pure _
  · exact runAttempts_keeps hF hR b debug maxAttempts

end Sessions

/-- The clock does not go back. -/
def clock : Frame State where
  Rel w w' := w.now ≤ w'.now
  refl _ := le_rfl
  trans h h' := h.trans h'

theorem clock_serves : Serves clock where
  advance w m _ := Instant.le_after w.now m.elapsed
  noteRaised _ := le_rfl
  later w d := Instant.le_after w.now d
  dropEvent _ _ := le_rfl
  dequeued _ _ := le_rfl
  mark _ _ := le_rfl
  write _ _ := le_rfl
  spawn _ := le_rfl
  currentProc _ _ := le_rfl

/-! ## A demand beside its history -/

/-- How many sessions a demand has begun, and the instants at which a session
asked for another one, oldest first. -/
structure RestartLog where
  sessions : ℕ
  restarts : List Instant

namespace RestartLog

def empty : RestartLog := ⟨0, []⟩

def began (log : RestartLog) : RestartLog :=
  { log with sessions := log.sessions + 1 }

def restarted (now : Instant) (log : RestartLog) : RestartLog :=
  { log with restarts := log.restarts ++ [now] }

/-- Another session follows the `i`-th restart. -/
def GoesOn (log : RestartLog) (i : ℕ) : Prop := i + 1 < log.sessions

/-- The restarts of the minute that ends with the `i`-th one, which is one of
them. -/
def lastMinute (log : RestartLog) (i : ℕ) : List Instant :=
  match log.restarts[i]? with
  | none => []
  | some now => (log.restarts.take (i + 1)).filter
      fun r : Instant => (now : ℚ) - r < 60

/-- The `i`-th restart is within the limit. -/
def Within (log : RestartLog) (i : ℕ) : Prop :=
  (log.lastMinute i).length ≤ maxRestartsPerMin

/-- The `i`-th restart and the ones before it, as many as the limit, span a
minute. -/
def Spans (log : RestartLog) (i : ℕ) : Prop :=
  maxRestartsPerMin ≤ i → ∀ now ∈ log.restarts[i]?,
    ∀ r ∈ log.restarts[i - maxRestartsPerMin]?, 60 ≤ (now : ℚ) - r

end RestartLog

/-- A restart beside the history. -/
def recordRestartStep (debug : Bool) (restarts : List Instant) :
    Prog (State × RestartLog) (Exc SessionOver) (List Instant ⊕ Unit) := do
  Prog.record fun _ log => log.began
  let again ← Prog.beside (runSession .rear debug)
  if again then do
    let now ← Prog.beside monotonic
    Prog.record fun _ log => log.restarted now
    let recent := restarts.filter (fun r : Instant => (now : ℚ) - r < 60) ++
      [now]
    if maxRestartsPerMin < recent.length then do
      Prog.beside log
      Prog.beside (sleep (10 : ℕ))
      pure (.inr ())
    else
      pure (.inl recent)
  else
    pure (.inr ())

/-- The sessions of one demand beside the history. -/
def recordDemand (debug : Bool) :
    Prog (State × RestartLog) (Exc SessionOver) Unit := fun s =>
  Prog.iterate .stopped (recordRestartStep debug) (s.1.script.length + 1) [] s

theorem recordRestartStep_erases (debug : Bool) (restarts : List Instant) :
    Erases (recordRestartStep debug restarts) (restartStep debug restarts) := by
  apply Erases.record_bind
  apply Erases.bind (Erases.beside _)
  intro again
  apply Erases.ite
  · apply Erases.bind (Erases.beside _)
    intro now
    apply Erases.record_bind
    apply Erases.ite
    · apply Erases.bind (Erases.beside _)
      intro _
      apply Erases.bind (Erases.beside _)
      exact fun _ => Erases.pure _
    · exact Erases.pure _
  · exact Erases.pure _

theorem recordDemand_erases (debug : Bool) :
    Erases (recordDemand debug) (demand .rear debug) :=
  fun s => Erases.iterate (recordRestartStep_erases debug) _ [] s

/-! ## The limit -/

/-- The window of the limiter. -/
abbrev minute (now : Instant) (restarts : List Instant) : List Instant :=
  RateLimit.recent (fun r : Instant => (r : ℚ)) 60 (now : ℚ) restarts

section Log

variable {log : RestartLog} {now : Instant} {i : ℕ}

theorem RestartLog.lastMinute_of_get (h : log.restarts[i]? = some now) :
    log.lastMinute i = minute now (log.restarts.take (i + 1)) := by
  rw [lastMinute, h]
  rfl

/-- The limit read as a distance in time. -/
theorem RestartLog.within_iff_spans
    (hsorted : log.restarts.Pairwise (· ≤ ·)) (hi : i < log.restarts.length) :
    log.Within i ↔ log.Spans i := by
  have hget := List.getElem?_eq_getElem hi
  set now := log.restarts[i]
  have hlen : (log.restarts.take (i + 1)).length = i + 1 := by
    rw [List.length_take]
    omega
  have hsorted' : (log.restarts.take (i + 1)).Pairwise (· ≤ ·) :=
    hsorted.sublist (List.take_sublist _ _)
  have hcount : maxRestartsPerMin <
      (minute now (log.restarts.take (i + 1))).length ↔
      ∃ r ∈ (log.restarts.take (i + 1)).reverse[maxRestartsPerMin]?,
        (now : ℚ) - r < 60 :=
    RateLimit.lt_length_recent_iff hsorted'
  rw [Within, lastMinute_of_get hget, ← not_lt, hcount, Spans, hget]
  by_cases hk : maxRestartsPerMin ≤ i
  · have hback : (log.restarts.take (i + 1)).reverse[maxRestartsPerMin]? =
        log.restarts[i - maxRestartsPerMin]? := by
      rw [List.getElem?_reverse (by omega), hlen, List.getElem?_take_of_lt
        (by omega)]
      congr 1
    rw [hback]
    constructor
    · rintro hnone - _ ⟨⟩ r hr
      exact le_of_not_gt fun hlt => hnone ⟨r, hr, hlt⟩
    · rintro hspan ⟨r, hr, hlt⟩
      exact absurd hlt (not_lt.mpr (hspan hk now rfl r hr))
  · refine iff_of_true ?_ fun h => absurd h hk
    rintro ⟨r, hr, -⟩
    have hlt := (List.getElem?_eq_some_iff.mp hr).1
    rw [List.length_reverse] at hlt
    omega

theorem RestartLog.within_restarted_of_lt (hi : i < log.restarts.length) :
    (log.restarted now).Within i ↔ log.Within i := by
  have hget : (log.restarts ++ [now])[i]? = log.restarts[i]? :=
    List.getElem?_append_left hi
  have htake : (log.restarts ++ [now]).take (i + 1) =
      log.restarts.take (i + 1) :=
    List.take_append_of_le_length hi
  rw [Within, Within, lastMinute, lastMinute, restarted, hget, htake]

theorem RestartLog.lastMinute_restarted :
    (log.restarted now).lastMinute log.restarts.length =
      minute now (log.restarts ++ [now]) := by
  have hget : (log.restarted now).restarts[log.restarts.length]? = some now :=
    List.getElem?_concat_length
  rw [lastMinute_of_get hget, restarted, List.take_of_length_le (by simp)]

end Log

/-- What the limiter maintains of the history, whatever breaks a demand off. -/
structure RateLimited (log : RestartLog) : Prop where
  ordered : log.restarts.Pairwise (· ≤ ·)
  counted : log.restarts.length ≤ log.sessions
  goesOn : ∀ i, log.GoesOn i → log.Within i

/-- The limiter between two restarts, with `n` sessions begun since the last
one: its list is as good as the history. -/
structure Limiting (n : ℕ) (restarts : List Instant) (s : State × RestartLog) :
    Prop where
  ordered : s.2.restarts.Pairwise (· ≤ ·)
  past : ∀ r ∈ s.2.restarts, r ≤ s.1.now
  counted : s.2.sessions = s.2.restarts.length + n
  within : ∀ i < s.2.restarts.length, s.2.Within i
  enough : RateLimit.Suffices (fun r : Instant => (r : ℚ)) 60 restarts
    s.2.restarts

/-- The limiter at a restart that it has counted: its list is the last minute
of the history. -/
structure Restarted (recent : List Instant) (s : State × RestartLog) :
    Prop where
  ordered : s.2.restarts.Pairwise (· ≤ ·)
  past : ∀ r ∈ s.2.restarts, r ≤ s.1.now
  counted : s.2.sessions = s.2.restarts.length
  within : ∀ i, i + 1 < s.2.restarts.length → s.2.Within i
  newest : ∀ i, i + 1 = s.2.restarts.length → s.2.lastMinute i = recent
  enough : RateLimit.Suffices (fun r : Instant => (r : ℚ)) 60 recent
    s.2.restarts

section Limiter

variable {n : ℕ} {restarts recent : List Instant} {w w' : State}
  {log : RestartLog} {now : Instant}

theorem Limiting.later (h : Limiting n restarts (w, log)) (hle : w.now ≤ w'.now) :
    Limiting n restarts (w', log) :=
  { h with past := fun r hr => (h.past r hr).trans hle }

theorem Restarted.later (h : Restarted recent (w, log)) (hle : w.now ≤ w'.now) :
    Restarted recent (w', log) :=
  { h with past := fun r hr => (h.past r hr).trans hle }

theorem Limiting.began (h : Limiting 0 restarts (w, log)) :
    Limiting 1 restarts (w, log.began) :=
  { h with counted := congrArg (· + 1) h.counted }

theorem Limiting.rateLimited {s : State × RestartLog}
    (h : Limiting n restarts s) (hn : n ≤ 1) : RateLimited s.2 where
  ordered := h.ordered
  counted := by
    rw [h.counted]
    exact Nat.le_add_right _ _
  goesOn i hi := by
    apply h.within
    have hlt : i + 1 < s.2.sessions := hi
    rw [h.counted] at hlt
    omega

theorem Restarted.rateLimited {s : State × RestartLog}
    (h : Restarted recent s) : RateLimited s.2 where
  ordered := h.ordered
  counted := h.counted.ge
  goesOn i hi := by
    apply h.within
    rw [← h.counted]
    exact hi

/-- One restart: the list is pruned and the new instant appended. -/
theorem Limiting.restarted (h : Limiting 1 restarts (w, log))
    (hnow : now = w.now) :
    Restarted (minute now restarts ++ [now]) (w, log.restarted now) := by
  have hpast : ∀ r ∈ log.restarts, (r : ℚ) ≤ now := by
    intro r hr
    rw [hnow]
    exact h.past r hr
  have hlen : (log.restarted now).restarts.length = log.restarts.length + 1 :=
    List.length_append
  refine ⟨?_, ?_, ?_, ?_, ?_, h.enough.admit hpast⟩
  · refine List.pairwise_append.mpr ⟨h.ordered, List.pairwise_singleton _ _, ?_⟩
    rintro r hr x hx
    rw [List.mem_singleton.mp hx]
    exact hpast r hr
  · intro r hr
    rcases List.mem_append.mp hr with hr | hr
    · exact h.past r hr
    · rw [List.mem_singleton.mp hr, hnow]
  · rw [hlen]
    exact h.counted
  · intro i hi
    rw [hlen] at hi
    have hi : i < log.restarts.length := by omega
    exact (RestartLog.within_restarted_of_lt hi).mpr (h.within i hi)
  · intro i hi
    rw [hlen] at hi
    obtain rfl : i = log.restarts.length := by omega
    rw [RestartLog.lastMinute_restarted]
    exact (h.enough.admitted (by norm_num) hpast).symm

theorem Restarted.goOn {s : State × RestartLog} (h : Restarted recent s)
    (hlimit : recent.length ≤ maxRestartsPerMin) : Limiting 0 recent s where
  ordered := h.ordered
  past := h.past
  counted := h.counted
  within i hi := by
    by_cases hlast : i + 1 = s.2.restarts.length
    · rw [RestartLog.Within, h.newest i hlast]
      exact hlimit
    · exact h.within i (by omega)
  enough := h.enough

theorem Restarted.goesOn_of_within {s : State × RestartLog}
    (h : Restarted recent s) (hlimit : maxRestartsPerMin < recent.length)
    {i : ℕ} (hi : i < s.2.restarts.length) (hw : s.2.Within i) :
    s.2.GoesOn i := by
  by_cases hlast : i + 1 = s.2.restarts.length
  · rw [RestartLog.Within, h.newest i hlast] at hw
    exact absurd hlimit (not_lt.mpr hw)
  · rw [RestartLog.GoesOn, h.counted]
    omega

end Limiter

theorem monotonic_now {P : State → Prop}
    (hP : ∀ w w' : State, w.now ≤ w'.now → P w → P w') :
    Triple P (monotonic : BridgeM Instant) (fun now w => P w ∧ now = w.now)
      (fun _ => P) := by
  apply triple_atMoment
  · exact fun w m rest => hP w _ (clock_serves.advance w m rest)
  · exact fun _ hw => hw
  · exact fun w => hP w _ (clock_serves.noteRaised w)
  · exact fun _ => Triple.gets fun w hw => ⟨hw, rfl⟩

/-- A demand that returns has gone on exactly after the restarts within the
limit. -/
def Settled (log : RestartLog) : Prop :=
  RateLimited log ∧ ∀ i < log.restarts.length, log.Within i → log.GoesOn i

/-- One session and the restart that it may ask for. -/
theorem recordRestartStep_limits (debug : Bool) (restarts : List Instant) :
    Triple (Limiting 0 restarts) (recordRestartStep debug restarts)
      (fun r s => Sum.elim (fun recent => Limiting 0 recent s)
        (fun _ => Settled s.2) r)
      (fun _ s => RateLimited s.2) := by
  have hbeside : ∀ {α : Type} {p : BridgeM α} {P : State × RestartLog → Prop},
      (∀ s, P s → RateLimited s.2) → Keeps clock Exc.Foreign p →
      (∀ s t g, clock.Rel s t → P (s, g) → P (t, g)) →
      Triple P (Prog.beside p) (fun _ => P) fun _ s => RateLimited s.2 :=
    fun herr hp hP => (Triple.beside_keeps hp hP).consequence (fun _ h => h)
      (fun _ _ h => h) fun _ s h => herr s h.1
  have hidle := clock_serves.toIdles
  apply Triple.bind (Q := fun _ => Limiting 1 restarts)
  · exact Triple.record fun s g hs => hs.began
  intro _
  apply Triple.bind (hbeside (fun _ h => h.rateLimited le_rfl)
    (runSession_keeps clock_serves foreign .rear debug)
    fun _ _ _ hle h => h.later hle)
  intro again
  apply Triple.ite
  · intro _
    apply Triple.bind
      (Q := fun now s => Limiting 1 restarts s ∧ now = s.1.now)
    · refine Triple.beside fun g => ?_
      refine (monotonic_now fun w w' hle h => h.later hle).consequence
        (fun _ h => h) (fun _ _ h => h) ?_
      exact fun _ w h => h.rateLimited le_rfl
    intro now
    apply Triple.bind
      (Q := fun _ => Restarted (minute now restarts ++ [now]))
    · exact Triple.record fun w g h => h.1.restarted h.2
    intro _
    apply Triple.ite
    · intro hlimit
      have hkeep : ∀ {p : BridgeM Unit}, Keeps clock Exc.Foreign p →
          Triple (Restarted (minute now restarts ++ [now])) (Prog.beside p)
            (fun _ => Restarted (minute now restarts ++ [now]))
            fun _ s => RateLimited s.2 :=
        fun hp => hbeside (fun _ h => h.rateLimited) hp
          fun _ _ _ hle h => h.later hle
      apply Triple.bind (hkeep (log_keeps foreign hidle))
      intro _
      apply Triple.bind (hkeep (sleep_keeps foreign hidle 10))
      intro _
      exact Triple.pure fun s h =>
        ⟨h.rateLimited, fun i hi => h.goesOn_of_within hlimit hi⟩
    · intro hlimit
      exact Triple.pure fun s h => h.goOn (not_lt.mp hlimit)
  · intro _
    refine Triple.pure fun s h => ⟨h.rateLimited le_rfl, fun i hi _ => ?_⟩
    rw [RestartLog.GoesOn, h.counted]
    omega

theorem recordDemand_limits (debug : Bool) :
    Triple (Limiting 0 []) (recordDemand debug) (fun _ s => Settled s.2)
      (fun _ s => RateLimited s.2) := by
  intro s hs
  refine Triple.iterate (recordRestartStep_limits debug) ?_ _ [] s hs
  exact fun _ s h => h.rateLimited (Nat.zero_le 1)

theorem limiting_start (w : State) : Limiting 0 [] (w, RestartLog.empty) where
  ordered := List.Pairwise.nil
  past _ hr := absurd hr List.not_mem_nil
  counted := rfl
  within _ hi := absurd hi (Nat.not_lt_zero _)
  enough := RateLimit.suffices_nil

/-- In every demand on the rear bridge the restarts come in order of time; the
bridge goes on to another session only after a restart within the limit, which
is to say that the restart and as many before it as the limit span a minute;
a restart beyond the limit is the last one, and unless the demand is broken off
by an exception, that is the only way in which it ends on a restart. -/
theorem demand_limits_restarts (debug : Bool) (w : State) :
    let outcome := recordDemand debug (w, RestartLog.empty)
    let log := outcome.2.2
    (outcome.1, outcome.2.1) = demand .rear debug w ∧
      log.restarts.Pairwise (· ≤ ·) ∧
      (∀ i < log.restarts.length, log.Within i ↔ log.Spans i) ∧
      (∀ i < log.restarts.length, log.GoesOn i → log.Within i) ∧
      (∀ i < log.restarts.length, ¬ log.Within i →
        i + 1 = log.restarts.length ∧ log.sessions = log.restarts.length) ∧
      (outcome.1 = .ok () →
        ∀ i < log.restarts.length, log.GoesOn i ↔ log.Within i) := by
  have herase := recordDemand_erases debug (w, RestartLog.empty)
  have hlimits := recordDemand_limits debug _ (limiting_start w)
  rcases hout : recordDemand debug (w, RestartLog.empty) with ⟨r, w', log⟩
  rw [hout] at herase hlimits
  have hrate : RateLimited log := by
    cases r with
    | error e => exact hlimits
    | ok a => exact hlimits.1
  refine ⟨herase, hrate.ordered,
    fun i hi => RestartLog.within_iff_spans hrate.ordered hi,
    fun i _ => hrate.goesOn i, ?_, ?_⟩
  · intro i hi hbeyond
    have hi : i < log.restarts.length := hi
    have hstop : ¬ i + 1 < log.sessions := fun h => hbeyond (hrate.goesOn i h)
    have hcounted : log.restarts.length ≤ log.sessions := hrate.counted
    constructor
    · change i + 1 = log.restarts.length
      omega
    · change log.sessions = log.restarts.length
      omega
  · rintro rfl i hi
    exact ⟨hrate.goesOn i, hlimits.2 i hi⟩

end Producer
end Bridges
end SurfaceCameras
