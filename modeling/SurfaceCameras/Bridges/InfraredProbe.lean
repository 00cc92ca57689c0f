import SurfaceCameras.Bridges.InfraredDelivery

/-!
# What the wedge check has seen

A start should only be accepted when all its probe frames have been looked at.
The verdict is computed from the frames that arrived, and none counts as a
clean bill: a start whose frames time out is accepted, unless the frames it did
deliver are both pinned.
-/

namespace SurfaceCameras
namespace Bridges
namespace Infrared

open Prog Protocol

/-- All probe frames were seen, fewer than two of them pinned, and not all gaps
between them are far below the frame period. -/
def Inspected (nominal : ℚ) (shots : List Shot) : Prop :=
  shots.length = wedgeProbeFrames ∧ pinnedShots shots < 2 ∧
    ¬ ∀ dt ∈ gaps (shots.map Shot.stamp), dt < nominal * wedgeFastDt

/-- Every start that was accepted before the last attempt had been inspected
when it was. -/
def AcceptsInspected (t : SensorTiming) (marks : List Mark) : Prop :=
  ∀ newer older c vblank,
    marks = newer ++ .returned c (some vblank) :: older →
      Inspected (t.nominalDt vblank) (shotsOf c older).reverse

/-- The capture was closed, and another attempt begun after it. -/
def Restarted (c : ℕ) (marks : List Mark) : Prop :=
  .closed c ∈ marks ∧ ∃ newer older vblank,
    marks = newer ++ .attempt vblank :: older ∧ .opened c ∈ older

/-- When a capture is returned, every other one has been restarted. -/
def RestartsOthers (marks : List Mark) : Prop :=
  ∀ newer older c probed, marks = newer ++ .returned c probed :: older →
    ∀ c', .opened c' ∈ older → c' = c ∨ Restarted c' older

/-- When a capture was returned, no start had had a frame time out unless two
of its frames were pinned. -/
def ProbesArrive (marks : List Mark) : Prop :=
  ∀ newer older c probed, marks = newer ++ .returned c probed :: older →
    ∀ c', .timedOut c' ∈ older → 2 ≤ pinnedShots (shotsOf c' older)

/-! ## Verdicts on whole probes -/

/-- With all frames there, no verdict means that the start was inspected. -/
theorem inspected_iff {nominal : ℚ} {shots : List Shot}
    (hlen : shots.length = wedgeProbeFrames) :
    wedgeVerdict nominal shots = none ↔ Inspected nominal shots := by
  have hgaps : (gaps (shots.map Shot.stamp)).length = 2 := by
    rw [length_gaps, List.length_map, hlen, wedgeProbeFrames]
  have hfast : fastGaps nominal shots < 2 ↔
      ¬ ∀ dt ∈ gaps (shots.map Shot.stamp), dt < nominal * wedgeFastDt := by
    have hall := List.countP_eq_length
      (p := fun dt => decide (dt < nominal * wedgeFastDt))
      (l := gaps (shots.map Shot.stamp))
    have hle := fastGaps_le nominal shots
    rw [hlen, wedgeProbeFrames] at hle
    simp only [decide_eq_true_eq] at hall
    rw [← hall, hgaps, fastGaps] at *
    omega
  rw [wedgeVerdict_eq_none_iff, hfast, Inspected]
  exact ⟨fun h => ⟨hlen, h⟩, fun h => h.2⟩

theorem pinnedShots_reverse (shots : List Shot) :
    pinnedShots shots.reverse = pinnedShots shots :=
  List.countP_reverse

/-! ## Frames that time out -/

variable {t : SensorTiming} {p p' : Phase} {x : Mark} {marks : List Mark}

/-- A frame of this capture may have timed out only if two were pinned. -/
def Excused (marks : List Mark) (c : ℕ) : Prop :=
  .timedOut c ∈ marks → 2 ≤ pinnedShots (shotsOf c marks)

/-- Until a capture is returned, the starts that were discarded are excused;
the one that is probed knows whether a frame timed out. -/
def Phase.Waited (marks : List Mark) : Phase → Prop
  | .ready _ _ | .trying _ _ _ => ∀ c, Excused marks c
  | .probing c _ _ shots waited =>
      (∀ c', c' ≠ c → Excused marks c') ∧
        (.timedOut c ∈ marks ↔ waited = true) ∧
        (waited = true → shots.length < wedgeProbeFrames)
  | .stopping _ after => after.Waited marks
  | .serving _ _ _ | .ended | .lost => True

theorem Excused.cons {c : ℕ} (h : Excused marks c) (hx : x ≠ .timedOut c)
    (hshots : shotsOf c (x :: marks) = shotsOf c marks) :
    Excused (x :: marks) c := by
  intro hmem
  rw [hshots]
  rcases List.mem_cons.mp hmem with heq | hmem
  · exact absurd heq.symm hx
  · exact h hmem

theorem Phase.Waited.idle (hx : x.Idle) (hwait : ∀ c, x ≠ .timedOut c)
    (h : p.Waited marks) : p.Waited (x :: marks) := by
  have hcons : ∀ c, Excused marks c → Excused (x :: marks) c :=
    fun c hc => hc.cons (hwait c) (hx.shotsOf c)
  induction p with
  | ready | trying => exact fun c => hcons c (h c)
  | probing c tried vblank shots waited =>
      obtain ⟨hothers, hiff, hlen⟩ := h
      refine ⟨fun c' hne => hcons c' (hothers c' hne), ?_, hlen⟩
      rw [← hiff, List.mem_cons]
      have hne := (hwait c).symm
      exact ⟨fun hmem => hmem.resolve_left hne, .inr⟩
  | stopping c after ih => exact ih h
  | serving | ended | lost => trivial

theorem shotsOf_other {c c' : ℕ} (hne : c' ≠ c) (s : Shot) :
    shotsOf c' (.dequeued c s :: marks) = shotsOf c' marks := by
  have hne' : c ≠ c' := hne.symm
  simp [shotsOf, hne']

theorem waited_step (hledger : Ledger marks p) (hdelivered : p.Delivered marks)
    (hstep : Step t p x p') (h : p.Waited marks) : p'.Waited (x :: marks) := by
  cases hstep with
  | attempt | closed => exact h.idle ⟨fun _ => rfl, rfl, rfl⟩ fun _ => by simp
  | accepted | asIs | abandoned | dequeued | timedOut | wrote | finished
  | uncovered => trivial
  | @opened n =>
      have hnone : .timedOut n ∉ marks :=
        fun hmem => (hledger.fresh n rfl _ hmem n rfl).ne rfl
      refine ⟨fun c _ => (h c).cons (by simp) rfl, ?_, fun hf => by cases hf⟩
      simp [hnone]
  | @probed c tried vblank shots s =>
      obtain ⟨hothers, hiff, -⟩ := h
      refine ⟨fun c' hne => ?_, ?_, fun hf => by cases hf⟩
      · exact (hothers c' hne).cons (by simp) (shotsOf_other hne s)
      · simpa using hiff
  | @waited c tried vblank shots hlen =>
      obtain ⟨hothers, -, -⟩ := h
      refine ⟨fun c' hne => ?_, ?_, fun _ => hlen⟩
      · refine (hothers c' hne).cons ?_ rfl
        rintro ⟨⟩
        exact hne rfl
      · simp
  | @discarded c tried vblank shots waited hverdict =>
      obtain ⟨hothers, hiff, hlen⟩ := h
      obtain ⟨-, -, hshots⟩ := hdelivered
      intro c'
      have hexcused : Excused marks c' := by
        by_cases heq : c' = c
        · subst heq
          intro hmem
          have hshort := hlen (hiff.mp hmem)
          rw [← List.length_reverse] at hshort
          have hpinned := (wedgeVerdict_ne_none_short hshort).mp hverdict
          rwa [hshots, ← pinnedShots_reverse]
        · exact hothers c' heq
      exact hexcused.cons (by simp) rfl

theorem waited_of_trail {n : ℕ} (h : Trail (Step t) (.ready n 0) marks p) :
    p.Waited marks := by
  apply h.invariant (I := fun marks p => p.Waited marks)
  · rintro c ⟨⟩
  · exact fun _ _ _ _ htrail h hstep =>
      waited_step (ledger_of_trail htrail) (delivered_of_trail htrail) hstep h

/-! ## Accepted starts -/

/-- Only a capture that is being probed is returned. -/
theorem returned_cases {c : ℕ} {probed : Option ℤ}
    (h : Step t p (.returned c probed) p') :
    ∃ tried vblank shots waited, p = .probing c tried vblank shots waited ∧
      (probed = none → waited = false) ∧
      ∀ v ∈ probed, vblank = v ∧
        (waited = false → shots.length = wedgeProbeFrames) ∧
        wedgeVerdict (t.nominalDt v) shots.reverse = none := by
  cases h with
  | accepted hseen hverdict =>
      refine ⟨_, _, _, _, rfl, ?_, ?_⟩
      · rintro ⟨⟩
      · rintro v ⟨⟩
        exact ⟨rfl, hseen, hverdict⟩
  | asIs =>
      refine ⟨_, _, _, _, rfl, fun _ => rfl, ?_⟩
      rintro v ⟨⟩

/-- Along a trail the accepted starts were inspected exactly if no frame of a
start timed out that was not excused. -/
theorem acceptsInspected_iff {n : ℕ}
    (h : Trail (Step t) (.ready n 0) marks p) :
    AcceptsInspected t marks ↔ ProbesArrive marks := by
  constructor
  · intro haccepts newer older c probed heq c' hmem
    rw [heq] at h
    obtain ⟨q, q', htrail, hstep⟩ := h.split
    obtain ⟨tried, vblank, shots, waited, rfl, hlast, hprobed⟩ :=
      returned_cases hstep
    obtain ⟨hothers, hiff, hlen⟩ := waited_of_trail htrail
    obtain ⟨-, -, hshots⟩ := delivered_of_trail htrail
    by_cases hne : c' = c
    · subst hne
      have hwaited := hiff.mp hmem
      cases probed with
      | none => exact absurd hwaited (by simp [hlast rfl])
      | some v =>
          have hseen := (haccepts newer older c' v heq).1
          rw [hshots, List.length_reverse] at hseen
          exact absurd hseen (hlen hwaited).ne
    · exact hothers c' hne hmem
  · intro harrive newer older c v heq
    have hexcused := harrive newer older c (some v) heq c
    rw [heq] at h
    obtain ⟨q, q', htrail, hstep⟩ := h.split
    obtain ⟨tried, vblank, shots, waited, rfl, -, hprobed⟩ :=
      returned_cases hstep
    obtain ⟨rfl, hseen, hverdict⟩ := hprobed v rfl
    obtain ⟨-, hiff, -⟩ := waited_of_trail htrail
    obtain ⟨-, -, hshots⟩ := delivered_of_trail htrail
    rw [hshots] at hexcused ⊢
    have hpinned := (wedgeVerdict_eq_none_iff.mp hverdict).1
    rw [pinnedShots_reverse] at hpinned
    have hwaited : waited = false := by
      rw [← Bool.not_eq_true]
      intro hw
      exact absurd (hexcused (hiff.mpr hw)) (not_le.mpr hpinned)
    have hlen : shots.reverse.length = wedgeProbeFrames := by
      rw [List.length_reverse]
      exact hseen hwaited
    exact (inspected_iff hlen).mp hverdict

/-! ## Restarts -/

theorem Restarted.cons {c : ℕ} (h : Restarted c marks) :
    Restarted c (x :: marks) := by
  obtain ⟨hclosed, newer, older, vblank, heq, hopened⟩ := h
  refine ⟨List.mem_cons_of_mem x hclosed, x :: newer, older, vblank, ?_, hopened⟩
  rw [heq, List.cons_append]

/-- From an attempt on, the captures before it have been restarted. -/
def Phase.Anew (marks : List Mark) : Phase → Prop
  | .trying _ _ _ => ∀ c, .opened c ∈ marks → Restarted c marks
  | .probing c _ _ _ _ =>
      ∀ c', .opened c' ∈ marks → c' = c ∨ Restarted c' marks
  | .stopping _ after => after.Anew marks
  | .ready _ _ | .serving _ _ _ | .ended | .lost => True

theorem Phase.Anew.cons (hx : ∀ c, x ≠ .opened c) (h : p.Anew marks) :
    p.Anew (x :: marks) := by
  have hopened : ∀ c, .opened c ∈ x :: marks → .opened c ∈ marks :=
    fun c hc => (List.mem_cons.mp hc).resolve_left (hx c).symm
  induction p with
  | trying => exact fun c hc => (h c (hopened c hc)).cons
  | probing =>
      exact fun c' hc' => (h c' (hopened c' hc')).imp_right Restarted.cons
  | stopping c after ih => exact ih h
  | ready | serving | ended | lost => trivial

theorem anew_step (hledger : Ledger marks p) (hstep : Step t p x p')
    (h : p.Anew marks) : p'.Anew (x :: marks) := by
  cases hstep with
  | @attempt n tried vblank =>
      intro c hc
      have hopened : .opened c ∈ marks := by simpa using hc
      have hclosed := (hledger.allClosed rfl (by simp) hopened).2
      exact ⟨List.mem_cons_of_mem _ hclosed, [], marks, vblank, rfl, hopened⟩
  | opened =>
      intro c hc
      rcases List.mem_cons.mp hc with heq | hc
      · cases heq
        exact .inl rfl
      · exact .inr (h c hc).cons
  | probed | waited => exact Phase.Anew.cons (fun _ => by simp) h
  | closed => exact Phase.Anew.cons (fun _ => by simp) h
  | accepted | asIs | discarded | abandoned | dequeued | timedOut | wrote
  | finished | uncovered => trivial

theorem restartsOthers_of_trail {n : ℕ}
    (h : Trail (Step t) (.ready n 0) marks p) : RestartsOthers marks := by
  intro newer older c probed heq
  rw [heq] at h
  obtain ⟨q, q', htrail, hstep⟩ := h.split
  obtain ⟨tried, vblank, shots, waited, rfl, -⟩ := returned_cases hstep
  exact htrail.invariant (I := fun marks p => p.Anew marks) trivial
    fun _ _ _ _ htrail h hstep => anew_step (ledger_of_trail htrail) hstep h

/-- In every session the starts accepted before the last attempt have been
inspected, and the others restarted, exactly if no frame of a start timed out,
other than in a start with two pinned frames. -/
theorem runSession_acceptsInspected_iff (t : SensorTiming) (debug : Bool)
    (w : State) :
    ∃ marks, (runSession t debug w).2.trace = marks ++ w.trace ∧
      (AcceptsInspected t marks ∧ RestartsOthers marks ↔
        ProbesArrive marks) := by
  obtain ⟨p, hp, -⟩ := runSession_reaches t debug w
  obtain ⟨marks, htrace, htrail, -⟩ := hp.trail
  refine ⟨marks, htrace, ?_⟩
  rw [and_iff_left (restartsOthers_of_trail htrail)]
  exact acceptsInspected_iff htrail

/-- The first frame of the first start times out. -/
def probeTimesOut : State := firstProbe quietMoment

/-- A start that has delivered no frame at all is accepted. -/
theorem runSession_acceptsUnseen :
    ¬ AcceptsInspected .fallback
      (runSession .fallback false probeTimesOut).2.trace := by
  have htrace : (runSession .fallback false probeTimesOut).2.trace =
      [] ++ .returned 0 (some 1244) ::
        [.timedOut 0, .opened 0, .attempt 1244] := rfl
  intro haccepts
  have hseen := (haccepts _ _ 0 1244 htrace).1
  simp [shotsOf, wedgeProbeFrames] at hseen

end Infrared
end Bridges
end SurfaceCameras
