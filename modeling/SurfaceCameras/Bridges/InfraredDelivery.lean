import SurfaceCameras.Bridges.InfraredLedger

/-!
# The frames that an infrared session delivers

Frames are dequeued in the probe and in the relay loop, and handed over in a
list of pending ones.  What is written to the loopback is, in order and each
once, a prefix of what was dequeued from the one capture that `start_capture`
returned; the frames of a session that was restarted are dropped with it.

Marks are kept with the latest first, so prefixes in time are suffixes here.
-/

namespace SurfaceCameras
namespace Bridges
namespace Infrared

open Prog Protocol

/-! ## Reading the marks -/

/-- The frames dequeued from a capture, latest first. -/
def shotsOf (c : ℕ) (marks : List Mark) : List Shot :=
  marks.filterMap fun x =>
    match x with
    | .dequeued c' s => if c' = c then some s else none
    | _ => none

def imagesOf (c : ℕ) (marks : List Mark) : List Image :=
  (shotsOf c marks).map Shot.image

/-- The images that were written, latest first. -/
def writtenImages (marks : List Mark) : List Image :=
  (writes marks).map Prod.fst

/-- The captures that `start_capture` returned. -/
def returns (marks : List Mark) : List ℕ :=
  marks.filterMap fun x =>
    match x with
    | .returned c _ => some c
    | _ => none

def Mark.isAttempt : Mark → Bool
  | .attempt _ => true
  | _ => false

/-- How many attempts were begun. -/
def tries (marks : List Mark) : ℕ := marks.countP Mark.isAttempt

/-- What a session delivers and how it starts. -/
structure Delivers (marks : List Mark) : Prop where
  /-- What is written was dequeued from the capture that was returned. -/
  relayed : ∀ c ∈ returns marks, writtenImages marks <:+ imagesOf c marks
  /-- Nothing is written before a capture was returned. -/
  unreturned : returns marks = [] → writtenImages marks = []
  /-- At most one capture is returned. -/
  single : (returns marks).length ≤ 1
  /-- Every capture is closed before the next one is opened. -/
  closedFirst : ClosedFirst marks
  /-- The attempts are bounded. -/
  bounded : tries marks ≤ wedgeRetries + fallbackRetries

variable {t : SensorTiming} {w₀ : State} {p p' : Phase} {x : Mark}
  {marks : List Mark}

/-! ## Attempts -/

/-- The number of attempts begun, against the number there are. -/
def Phase.Tries (n most : ℕ) : Phase → Prop
  | .ready _ tried => n = tried ∧ tried ≤ most
  | .trying _ tried _ | .probing _ tried _ _ _ => n = tried + 1 ∧ tried < most
  | .stopping _ after => after.Tries n most
  | .serving _ _ _ | .ended | .lost => n ≤ most

theorem Phase.Tries.le {n most : ℕ} (h : p.Tries n most) : n ≤ most := by
  induction p with
  | ready => exact h.1.le.trans h.2
  | trying | probing => exact h.1.le.trans h.2
  | stopping cap after ih => exact ih h
  | serving | ended | lost => exact h

/-- Only an attempt adds to their number. -/
theorem tries_cons (hx : x.isAttempt = false) :
    tries (x :: marks) = tries marks := by
  simp [tries, hx]

theorem tries_step (hstep : Step t p x p')
    (h : p.Tries (tries marks) (attempts t).length) :
    p'.Tries (tries (x :: marks)) (attempts t).length := by
  cases hstep with
  | attempt htried =>
      refine ⟨?_, htried⟩
      rw [← h.1]
      exact List.countP_cons_of_pos rfl
  | opened | probed | waited | dequeued | timedOut | wrote | finished
  | closed | discarded =>
      rw [tries_cons rfl]
      exact h
  | accepted | asIs | abandoned | uncovered =>
      rw [tries_cons rfl]
      exact h.le

theorem length_attempts_le (t : SensorTiming) :
    (attempts t).length ≤ wedgeRetries + fallbackRetries := by
  rw [attempts, List.length_append, List.length_replicate]
  split
  · rw [List.length_replicate]
  · exact Nat.add_le_add_left (Nat.zero_le _) _

theorem tries_le {n : ℕ} (h : Trail (Step t) (.ready n 0) marks p) :
    tries marks ≤ wedgeRetries + fallbackRetries := by
  have htries : p.Tries (tries marks) (attempts t).length := by
    apply h.invariant
      (I := fun marks p => p.Tries (tries marks) (attempts t).length)
    · exact ⟨rfl, Nat.zero_le _⟩
    · exact fun _ _ _ _ _ h hstep => tries_step hstep h
  exact htries.le.trans (length_attempts_le t)

/-! ## Frames -/

/-- The capture that was returned, if any, has delivered all that was
written. -/
def Relays (marks : List Mark) : Prop :=
  (returns marks = [] ∧ writtenImages marks = []) ∨
    ∃ c, returns marks = [c] ∧ writtenImages marks <:+ imagesOf c marks

/-- What has been dequeued, returned and written in each phase. -/
def Phase.Delivered (marks : List Mark) : Phase → Prop
  | .ready _ _ | .trying _ _ _ =>
      returns marks = [] ∧ writtenImages marks = []
  | .probing c _ _ shots _ =>
      returns marks = [] ∧ writtenImages marks = [] ∧ shotsOf c marks = shots
  | .serving c unwritten written =>
      returns marks = [c] ∧ writtenImages marks = written ∧
        imagesOf c marks = unwritten.reverse ++ written
  | .stopping _ after => after.Delivered marks
  | .ended | .lost => Relays marks

theorem Phase.Delivered.relays (h : p.Delivered marks) : Relays marks := by
  induction p with
  | ready | trying => exact .inl h
  | probing => exact .inl ⟨h.1, h.2.1⟩
  | serving c unwritten written =>
      obtain ⟨hreturns, hwritten, himages⟩ := h
      refine .inr ⟨c, hreturns, ?_⟩
      rw [hwritten, himages]
      exact List.suffix_append _ _
  | stopping c after ih => exact ih h
  | ended | lost => exact h

/-- A mark that neither dequeues, returns nor writes. -/
structure Mark.Idle (x : Mark) : Prop where
  shots : ∀ c, shotsOf c [x] = []
  returned : returns [x] = []
  written : writes [x] = []

theorem Mark.Idle.shotsOf (hx : x.Idle) (c : ℕ) :
    shotsOf c (x :: marks) = shotsOf c marks := by
  change Infrared.shotsOf c ([x] ++ marks) = _
  rw [Infrared.shotsOf, List.filterMap_append]
  exact congrArg (· ++ Infrared.shotsOf c marks) (hx.shots c)

theorem Mark.Idle.returns (hx : x.Idle) :
    returns (x :: marks) = returns marks := by
  change Infrared.returns ([x] ++ marks) = _
  rw [Infrared.returns, List.filterMap_append]
  exact congrArg (· ++ Infrared.returns marks) hx.returned

theorem Mark.Idle.writtenImages (hx : x.Idle) :
    writtenImages (x :: marks) = writtenImages marks := by
  change ((writes ([x] ++ marks)).map Prod.fst) = _
  rw [writes, List.filterMap_append]
  exact congrArg (fun l => (l ++ writes marks).map Prod.fst) hx.written

theorem Relays.idle (hx : x.Idle) (h : Relays marks) : Relays (x :: marks) := by
  rcases h with ⟨hreturns, hwritten⟩ | ⟨c, hreturns, hsuffix⟩
  · left
    rw [hx.returns, hx.writtenImages]
    exact ⟨hreturns, hwritten⟩
  · right
    refine ⟨c, ?_, ?_⟩
    · rw [hx.returns, hreturns]
    · rw [hx.writtenImages, imagesOf, hx.shotsOf]
      exact hsuffix

/-- An idle mark changes nothing in any phase. -/
theorem Phase.Delivered.idle (hx : x.Idle) (h : p.Delivered marks) :
    p.Delivered (x :: marks) := by
  induction p with
  | ready | trying =>
      refine ⟨?_, ?_⟩
      · rw [hx.returns, h.1]
      · rw [hx.writtenImages, h.2]
  | probing c =>
      refine ⟨?_, ?_, ?_⟩
      · rw [hx.returns, h.1]
      · rw [hx.writtenImages, h.2.1]
      · rw [hx.shotsOf, h.2.2]
  | serving c =>
      refine ⟨?_, ?_, ?_⟩
      · rw [hx.returns, h.1]
      · rw [hx.writtenImages, h.2.1]
      · rw [imagesOf, hx.shotsOf]
        exact h.2.2
  | stopping c after ih => exact ih h
  | ended | lost => exact Relays.idle hx h

theorem delivered_returned {c : ℕ} {probed : Option ℤ} {shots : List Shot}
    (hreturns : returns marks = []) (hwritten : writtenImages marks = [])
    (hshots : shotsOf c marks = shots) :
    (Phase.serving c (shots.reverse.map Shot.image) []).Delivered
      (.returned c probed :: marks) := by
  refine ⟨congrArg (c :: ·) hreturns, hwritten, ?_⟩
  rw [List.map_reverse, List.reverse_reverse, List.append_nil]
  exact congrArg (List.map Shot.image) hshots

theorem shotsOf_dequeued (c : ℕ) (s : Shot) :
    shotsOf c (.dequeued c s :: marks) = s :: shotsOf c marks := by
  simp [shotsOf]

theorem shotsOf_fresh {n : ℕ} (hfresh : ∀ x ∈ marks, ∀ c ∈ x.cap, c < n) :
    shotsOf n marks = [] := by
  apply List.filterMap_eq_nil_iff.mpr
  intro x hx
  cases x with
  | dequeued c s =>
      have hne : c ≠ n := (hfresh _ hx c rfl).ne
      exact if_neg hne
  | attempt | opened | timedOut | returned | wrote | streamOff | closed
  | uncovered | blocked | ended => rfl

theorem delivered_step (hledger : Ledger marks p) (hstep : Step t p x p')
    (h : p.Delivered marks) : p'.Delivered (x :: marks) := by
  cases hstep with
  | attempt | timedOut | closed => exact h.idle ⟨fun _ => rfl, rfl, rfl⟩
  | waited => exact h.idle ⟨fun _ => rfl, rfl, rfl⟩
  | discarded => exact And.intro h.1 h.2.1
  | abandoned | finished | uncovered =>
      exact h.relays.idle ⟨fun _ => rfl, rfl, rfl⟩
  | @opened n =>
      obtain ⟨hreturns, hwritten⟩ := h
      have hnone : shotsOf n marks = [] := shotsOf_fresh (hledger.fresh n rfl)
      exact ⟨hreturns, hwritten, hnone⟩
  | probed =>
      obtain ⟨hreturns, hwritten, hshots⟩ := h
      refine ⟨hreturns, hwritten, ?_⟩
      rw [shotsOf_dequeued, hshots]
  | accepted | asIs =>
      obtain ⟨hreturns, hwritten, hshots⟩ := h
      exact delivered_returned hreturns hwritten hshots
  | @dequeued c written s =>
      obtain ⟨hreturns, hwritten, himages⟩ := h
      refine ⟨hreturns, hwritten, ?_⟩
      rw [imagesOf, shotsOf_dequeued, List.map_cons]
      exact congrArg (s.image :: ·) himages
  | @wrote c img unwritten written digital =>
      obtain ⟨hreturns, hwritten, himages⟩ := h
      refine ⟨hreturns, congrArg (img :: ·) hwritten, ?_⟩
      rw [List.reverse_cons, List.append_assoc] at himages
      exact himages

theorem delivered_of_trail {n : ℕ} (h : Trail (Step t) (.ready n 0) marks p) :
    p.Delivered marks := by
  apply h.invariant (I := fun marks p => p.Delivered marks)
  · exact ⟨rfl, rfl⟩
  · exact fun _ _ _ _ htrail h hstep =>
      delivered_step (ledger_of_trail htrail) hstep h

/-- Every trail of the protocol delivers. -/
theorem delivers_of_trail {n : ℕ} (h : Trail (Step t) (.ready n 0) marks p) :
    Delivers marks := by
  have hrelays := (delivered_of_trail h).relays
  refine ⟨fun c hc => ?_, fun hnone => ?_, ?_, (ledger_of_trail h).closedFirst,
    tries_le h⟩
  · rcases hrelays with ⟨hreturns, -⟩ | ⟨c', hreturns, hsuffix⟩
    · rw [hreturns] at hc
      cases hc
    · rw [hreturns] at hc
      rw [List.mem_singleton.mp hc]
      exact hsuffix
  · rcases hrelays with ⟨-, hwritten⟩ | ⟨c, hreturns, -⟩
    · exact hwritten
    · rw [hreturns] at hnone
      cases hnone
  · rcases hrelays with ⟨hreturns, -⟩ | ⟨c, hreturns, -⟩
    · rw [hreturns]
      exact Nat.zero_le 1
    · rw [hreturns]
      exact le_refl 1

/-- Whatever happens to a session, what it has written to the loopback is the
converted images of a prefix of what was dequeued from the capture that
`start_capture` returned.  The captures before that one were closed before it
was opened, and `start_capture` has begun a bounded number of attempts and
never runs out of them. -/
theorem runSession_delivers (t : SensorTiming) (debug : Bool) (w : State) :
    ∃ marks, (runSession t debug w).2.trace = marks ++ w.trace ∧
      (runSession t debug w).2.dev.loopback =
        (writes marks).map (fun x => packed x.2 x.1) ++ w.dev.loopback ∧
      Delivers marks ∧
      (runSession t debug w).1 ≠ .error (.own .typeError) := by
  obtain ⟨p, hp, -, hattempts⟩ := runSession_reaches t debug w
  obtain ⟨marks, htrace, htrail, hloop⟩ := hp.trail
  exact ⟨marks, htrace, hloop, delivers_of_trail htrail, hattempts⟩

end Infrared
end Bridges
end SurfaceCameras
