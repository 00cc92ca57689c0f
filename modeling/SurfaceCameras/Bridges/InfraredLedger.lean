import SurfaceCameras.Bridges.InfraredSession

/-!
# The captures of an infrared session

Every capture that a session has opened should be closed again when the session
is over, however it ended: the sensor, and with it the illuminator, streams
until then, and the next session cannot open the node.  `run_session` covers
its loop with a `finally` and `Capture` its own set-up, but between these the
capture is only a local variable.

A ledger of the captures holds along every trail of the protocol: at most one
of them is open, and it is lost exactly if an exception is raised where nothing
covers it.
-/

namespace SurfaceCameras
namespace Bridges
namespace Infrared

open Prog Protocol

/-! ## The ledger -/

/-- The capture that a mark is about. -/
def Mark.cap : Mark → Option ℕ
  | .opened c | .dequeued c _ | .timedOut c | .returned c _ | .streamOff c
  | .closed c | .uncovered c => some c
  | .attempt _ | .wrote _ _ | .blocked _ | .ended _ _ _ => none

/-- The mark neither opens, closes nor loses a capture. -/
def Mark.Working : Mark → Prop
  | .opened _ | .closed _ | .uncovered _ => False
  | _ => True

/-- When a capture is opened, every earlier one has been closed. -/
def ClosedFirst (marks : List Mark) : Prop :=
  ∀ newer older c, marks = newer ++ .opened c :: older →
    ∀ c', .opened c' ∈ older → .closed c' ∈ older

/-- What the marks of a session say about its captures in each phase. -/
structure Ledger (marks : List Mark) (p : Phase) : Prop where
  settled : ∀ c, .opened c ∈ marks →
    p.held = some c ∨ p = .lost ∨ (.streamOff c ∈ marks ∧ .closed c ∈ marks)
  fresh : ∀ n ∈ p.next, ∀ x ∈ marks, ∀ c ∈ x.cap, c < n
  heldOpen : ∀ c ∈ p.held, .opened c ∈ marks ∧ .closed c ∉ marks
  stopping : ∀ c after, p = .stopping c after →
    .streamOff c ∈ marks ∧ after.held = none ∧ after ≠ .lost
  lost : p = .lost →
    ∃ c, .uncovered c ∈ marks ∧ .opened c ∈ marks ∧ .closed c ∉ marks
  covered : p ≠ .lost → ∀ c, .uncovered c ∉ marks
  closedFirst : ClosedFirst marks

variable {t : SensorTiming} {w₀ : State} {p p' : Phase} {x : Mark}
  {marks : List Mark}

/-- What a step can do to the captures. -/
theorem Step.captures (h : Step t p x p') :
    (p.held = none ∧ p'.held = none ∧ p'.next = p.next ∧ x.cap = none ∧
      x.Working ∧ p ≠ .lost ∧ p' ≠ .lost) ∨
    (∃ n, x = .opened n ∧ p.next = some n ∧ p.held = none ∧ p ≠ .lost ∧
      p'.held = some n ∧ p'.next = some (n + 1) ∧
      ∀ c after, p' ≠ .stopping c after) ∨
    (∃ c, p.held = some c ∧ p'.held = some c ∧
      (∀ n ∈ p'.next, n ∈ p.next) ∧ (∀ c' ∈ x.cap, c' = c) ∧ x.Working ∧
      ∀ c' after, p' = .stopping c' after →
        x = .streamOff c' ∧ after.held = none ∧ after ≠ .lost) ∨
    (∃ c, x = .closed c ∧ p = .stopping c p') ∨
    (∃ c, x = .uncovered c ∧ p.held = some c ∧ p' = .lost) := by
  cases h with
  | attempt => left; simp [Phase.held, Phase.next, Mark.cap, Mark.Working]
  | opened => right; left; exact ⟨_, rfl, rfl, rfl, by simp, rfl, rfl, by simp⟩
  | closed => right; right; right; left; exact ⟨_, rfl, rfl⟩
  | uncovered hheld => right; right; right; right; exact ⟨_, rfl, hheld, rfl⟩
  | probed | waited | accepted | asIs | discarded | abandoned | dequeued
  | timedOut | wrote | finished =>
      right; right; left
      exact ⟨_, rfl, rfl, by simp [Phase.next], by simp [Mark.cap], trivial,
        by simp [Phase.held]⟩

theorem Phase.lost_ne_of_held {c : ℕ} (h : p.held = some c) : p ≠ .lost := by
  rintro rfl
  cases h

theorem ClosedFirst.cons (h : ClosedFirst marks) (hx : ∀ c, x ≠ .opened c) :
    ClosedFirst (x :: marks) := by
  intro newer older c heq
  cases newer with
  | nil =>
      rw [List.nil_append, List.cons.injEq] at heq
      exact absurd heq.1 (hx c)
  | cons y newer =>
      rw [List.cons_append, List.cons.injEq] at heq
      exact h newer older c heq.2

theorem ClosedFirst.opened (h : ClosedFirst marks) {n : ℕ}
    (hclosed : ∀ c, .opened c ∈ marks → .closed c ∈ marks) :
    ClosedFirst (.opened n :: marks) := by
  intro newer older c heq
  cases newer with
  | nil =>
      rw [List.nil_append, List.cons.injEq] at heq
      rw [← heq.2]
      exact hclosed
  | cons y newer =>
      rw [List.cons_append, List.cons.injEq] at heq
      exact h newer older c heq.2

theorem Ledger.allClosed (h : Ledger marks p) (hheld : p.held = none)
    (hlost : p ≠ .lost) {c : ℕ} (hc : .opened c ∈ marks) :
    .streamOff c ∈ marks ∧ .closed c ∈ marks := by
  rcases h.settled c hc with hh | hl | hclosed
  · rw [hheld] at hh
    cases hh
  · exact absurd hl hlost
  · exact hclosed

/-- A mark about the open capture, or about none, that leaves it open. -/
theorem Ledger.working (h : Ledger marks p) (hw : x.Working)
    (hheld : p'.held = p.held) (hnext : ∀ n ∈ p'.next, n ∈ p.next)
    (hcap : ∀ c ∈ x.cap, p.held = some c) (hlost : p ≠ .lost)
    (hlost' : p' ≠ .lost)
    (hstop : ∀ c after, p' = .stopping c after →
      x = .streamOff c ∧ after.held = none ∧ after ≠ .lost) :
    Ledger (x :: marks) p' := by
  have hopened : ∀ c, x ≠ .opened c := by
    rintro c rfl
    exact hw
  have hclosed : ∀ c, x ≠ .closed c := by
    rintro c rfl
    exact hw
  have huncovered : ∀ c, x ≠ .uncovered c := by
    rintro c rfl
    exact hw
  refine ⟨fun c hc => ?_, fun n hn y hy c hc => ?_, fun c hc => ?_,
    fun c after heq => ?_, fun heq => absurd heq hlost', fun _ c hc => ?_,
    h.closedFirst.cons hopened⟩
  · rcases List.mem_cons.mp hc with heq | hc
    · exact absurd heq.symm (hopened c)
    rcases h.settled c hc with hh | hl | ⟨hoff, hcl⟩
    · exact .inl (hheld.trans hh)
    · exact absurd hl hlost
    · exact .inr (.inr ⟨List.mem_cons_of_mem x hoff, List.mem_cons_of_mem x hcl⟩)
  · rcases List.mem_cons.mp hy with rfl | hy
    · exact h.fresh n (hnext n hn) _ (h.heldOpen c (hcap c hc)).1 c rfl
    · exact h.fresh n (hnext n hn) y hy c hc
  · rw [hheld] at hc
    obtain ⟨hopen, hnot⟩ := h.heldOpen c hc
    refine ⟨List.mem_cons_of_mem x hopen, fun hmem => ?_⟩
    rcases List.mem_cons.mp hmem with heq | hmem
    · exact hclosed c heq.symm
    · exact hnot hmem
  · obtain ⟨rfl, hafter⟩ := hstop c after heq
    exact ⟨List.mem_cons_self, hafter⟩
  · rcases List.mem_cons.mp hc with heq | hc
    · exact huncovered c heq.symm
    · exact h.covered hlost c hc

theorem Ledger.opened {n : ℕ} (h : Ledger marks p) (hnext : p.next = some n)
    (hheld : p.held = none) (hlost : p ≠ .lost) (hheld' : p'.held = some n)
    (hnext' : p'.next = some (n + 1))
    (hstop : ∀ c after, p' ≠ .stopping c after) :
    Ledger (.opened n :: marks) p' := by
  have hall := fun c => h.allClosed (c := c) hheld hlost
  have hlost' := Phase.lost_ne_of_held hheld'
  refine ⟨fun c hc => ?_, fun k hk y hy c hc => ?_, fun c hc => ?_,
    fun c after heq => absurd heq (hstop c after),
    fun heq => absurd heq hlost', fun _ c hc => ?_,
    h.closedFirst.opened fun c hc => (hall c hc).2⟩
  · rcases List.mem_cons.mp hc with heq | hc
    · cases heq
      exact .inl hheld'
    · obtain ⟨hoff, hcl⟩ := hall c hc
      exact .inr (.inr ⟨List.mem_cons_of_mem _ hoff, List.mem_cons_of_mem _ hcl⟩)
  · rw [hnext'] at hk
    cases hk
    rcases List.mem_cons.mp hy with rfl | hy
    · cases hc
      exact Nat.lt_succ_self n
    · exact Nat.lt_succ_of_lt (h.fresh n hnext y hy c hc)
  · rw [hheld'] at hc
    cases hc
    refine ⟨List.mem_cons_self, fun hmem => ?_⟩
    rcases List.mem_cons.mp hmem with heq | hmem
    · cases heq
    · exact Nat.lt_irrefl n (h.fresh n hnext _ hmem n rfl)
  · rcases List.mem_cons.mp hc with heq | hc
    · cases heq
    · exact h.covered hlost c hc

theorem Ledger.closed {c : ℕ} (h : Ledger marks (.stopping c p)) :
    Ledger (.closed c :: marks) p := by
  obtain ⟨hoff, hheld, hlost⟩ := h.stopping c p rfl
  obtain ⟨hopen, -⟩ := h.heldOpen c rfl
  refine ⟨fun c' hc' => ?_, fun n hn y hy k hk => ?_, fun c' hc' => ?_,
    fun c' after heq => ?_, fun heq => absurd heq hlost, fun _ c' hc' => ?_,
    h.closedFirst.cons fun _ => by simp⟩
  · rcases List.mem_cons.mp hc' with heq | hc'
    · cases heq
    rcases h.settled c' hc' with hh | hl | ⟨hoff', hcl'⟩
    · cases hh
      exact .inr (.inr ⟨List.mem_cons_of_mem _ hoff, List.mem_cons_self⟩)
    · cases hl
    · exact .inr (.inr
        ⟨List.mem_cons_of_mem _ hoff', List.mem_cons_of_mem _ hcl'⟩)
  · rcases List.mem_cons.mp hy with rfl | hy
    · cases hk
      exact h.fresh n hn _ hopen c rfl
    · exact h.fresh n hn y hy k hk
  · rw [hheld] at hc'
    cases hc'
  · rw [heq] at hheld
    cases hheld
  · rcases List.mem_cons.mp hc' with heq | hc'
    · cases heq
    · refine h.covered ?_ c' hc'
      rintro ⟨⟩

theorem Ledger.uncovered {c : ℕ} (h : Ledger marks p)
    (hheld : p.held = some c) : Ledger (.uncovered c :: marks) .lost := by
  obtain ⟨hopen, hnot⟩ := h.heldOpen c hheld
  refine ⟨fun c' _ => .inr (.inl rfl), ?_, ?_, ?_,
    fun _ => ⟨c, List.mem_cons_self, List.mem_cons_of_mem _ hopen, ?_⟩,
    fun hne => absurd rfl hne, h.closedFirst.cons fun _ => by simp⟩
  · rintro n ⟨⟩
  · rintro c' ⟨⟩
  · rintro c' after ⟨⟩
  · intro hmem
    rcases List.mem_cons.mp hmem with heq | hmem
    · cases heq
    · exact hnot hmem

theorem Ledger.step (h : Ledger marks p) (hstep : Step t p x p') :
    Ledger (x :: marks) p' := by
  rcases hstep.captures with
    ⟨hheld, hheld', hnext, hcap, hw, hlost, hlost'⟩ |
    ⟨n, rfl, hnext, hheld, hlost, hheld', hnext', hstop⟩ |
    ⟨c, hheld, hheld', hnext, hcap, hw, hstop⟩ | ⟨c, rfl, rfl⟩ |
    ⟨c, rfl, hheld, rfl⟩
  · refine h.working hw (hheld'.trans hheld.symm) ?_ ?_ hlost hlost' ?_
    · rw [hnext]
      exact fun _ hn => hn
    · rw [hcap]
      rintro c ⟨⟩
    · rintro c after rfl
      cases hheld'
  · exact h.opened hnext hheld hlost hheld' hnext' hstop
  · refine h.working hw (hheld'.trans hheld.symm) hnext ?_
      (Phase.lost_ne_of_held hheld) (Phase.lost_ne_of_held hheld') hstop
    intro c' hc'
    rw [hcap c' hc']
    exact hheld
  · exact h.closed
  · exact h.uncovered hheld

/-- The ledger holds along every trail. -/
theorem ledger_of_trail {n : ℕ} (h : Trail (Step t) (.ready n 0) marks p) :
    Ledger marks p := by
  apply h.invariant (I := Ledger)
  · refine ⟨?_, ?_, ?_, ?_, ?_, ?_, ?_⟩
    · rintro c ⟨⟩
    · rintro n - x ⟨⟩
    · rintro c ⟨⟩
    · rintro c after ⟨⟩
    · rintro ⟨⟩
    · rintro - c ⟨⟩
    · intro newer older c heq
      exact absurd heq.symm (by simp)
  · exact fun _ _ _ _ _ h hstep => h.step hstep

/-! ## What a session leaves open -/

/-- Every capture opened has had its STREAMOFF and has been closed. -/
def AllClosed (marks : List Mark) : Prop :=
  ∀ c, .opened c ∈ marks → .streamOff c ∈ marks ∧ .closed c ∈ marks

/-- No exception was raised where nothing covers the open capture. -/
def Covered (marks : List Mark) : Prop := ∀ c, .uncovered c ∉ marks

/-- Once control has left a session, all its captures are closed exactly if no
exception was raised in the probe, in the reports of `start_capture`, on the
way to the loop, or in `close` itself. -/
theorem runSession_allClosed_iff (t : SensorTiming) (debug : Bool)
    (w : State) :
    ∃ marks, (runSession t debug w).2.trace = marks ++ w.trace ∧
      ((runSession t debug w).1 ≠ .error .stopped →
        (AllClosed marks ↔ Covered marks)) := by
  obtain ⟨p, hp, hheld, -⟩ := runSession_reaches t debug w
  obtain ⟨marks, htrace, htrail, -⟩ := hp.trail
  refine ⟨marks, htrace, fun hne => ?_⟩
  have hledger := ledger_of_trail htrail
  constructor
  · intro hall
    apply hledger.covered
    intro hlost
    obtain ⟨c, -, hopen, hnot⟩ := hledger.lost hlost
    exact hnot (hall c hopen).2
  · intro hcovered c hc
    apply hledger.allClosed (hheld hne) _ hc
    intro hlost
    obtain ⟨c', hc', -⟩ := hledger.lost hlost
    exact hcovered c' hc'

/-- Nothing happens. -/
def quietMoment : Moment Happening := { outside := {} }

/-- The sensor is linked to a capture node. -/
def linked : Topology :=
  ⟨some "Intel IPU6 CSI2 1", some "Intel IPU6 ISYS Capture 8",
    some "/dev/video8"⟩

/-- A session up to its first probe: the graph is looked up and set, the
controls are sent, and the node is opened, granted its six buffers and
started. -/
def untilProbe : List (Moment Happening) :=
  let graph : Moment Happening := { outside := { topology := linked } }
  let granted : Moment Happening := { outside := { buffers := 6 } }
  graph :: graph :: List.replicate 9 quietMoment ++
    granted :: List.replicate 19 quietMoment

/-- A session that reaches its first probe and `last` there. -/
def firstProbe (last : Moment Happening) : State :=
  boot ⟨1, one_pos⟩ (untilProbe ++ [last])

/-- The `select` of the first probe fails. -/
def probeFails : State :=
  firstProbe { outside := {}, fault := some .other }

/-- The capture is still open when `serve` handles the exception. -/
theorem runSession_leaks :
    (runSession .fallback false probeFails).1 = .error (.osError .other) ∧
      ¬ AllClosed (runSession .fallback false probeFails).2.trace := by
  have hrun : runSession .fallback false probeFails =
      (.error (.osError .other),
        { (runSession .fallback false probeFails).2 with
          trace := [.uncovered 0, .opened 0, .attempt 1244] }) := rfl
  refine ⟨congrArg Prod.fst hrun, fun hall => ?_⟩
  rw [hrun] at hall
  have hclosed := (hall 0 (by simp)).2
  simp at hclosed

end Infrared
end Bridges
end SurfaceCameras
