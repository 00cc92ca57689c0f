import SurfaceCameras.Pe.ExtractTables
import SurfaceCameras.Support.Scan

/-!
# Runs of entries

An entry does not begin inside another one, unless in its last word.  So two
runs overlap only where the last value of the first one, which is then zero, is
the flag of the first entry of the second one.  Scanning jumps over such a run
if it has found the one before it, and only then.
-/

namespace SurfaceCameras
namespace Pe

/-- Entries between `lo` and `hi` of which none begins in the second or third
word of another one. -/
structure Spaced (e : ℤ → Option Entry) (lo hi : ℤ) : Prop where
  inside : ∀ {p}, (e p).isSome → lo ≤ p ∧ p + 16 ≤ hi
  four : ∀ {p}, (e p).isSome → e (p + 4) = none
  eight : ∀ {p}, (e p).isSome → e (p + 8) = none

section Runs

variable {e : ℤ → Option Entry} {lo hi p q s : ℤ} {n : ℕ}
  {regs regs' : List Entry}

/-- There is an entry at `p`, and none right before it. -/
def IsStart (e : ℤ → Option Entry) (p : ℤ) : Prop :=
  (e p).isSome ∧ e (p - 16) = none

instance (e : ℤ → Option Entry) (p : ℤ) : Decidable (IsStart e p) :=
  inferInstanceAs (Decidable (_ ∧ _))

/-- These are the entries from `p` on, and there is none right before or after
them. -/
structure MaximalRun (e : ℤ → Option Entry) (p : ℤ) (regs : List Entry) :
    Prop where
  entries : ∀ i < regs.length, e (p + 16 * i) = regs[i]?
  before : e (p - 16) = none
  after : e (p + 16 * regs.length) = none

/-- The entries from `q` on, at most `n` of them. -/
def regsAt (e : ℤ → Option Entry) : ℕ → ℤ → List Entry
  | 0, _ => []
  | n + 1, q =>
      match e q with
      | none => []
      | some r => r :: regsAt e n (q + 16)

theorem regsAt_entries (n : ℕ) (q : ℤ) :
    ∀ i < (regsAt e n q).length, e (q + 16 * i) = (regsAt e n q)[i]? := by
  induction n generalizing q with
  | zero => exact fun i hi => absurd hi (Nat.not_lt_zero i)
  | succ n ih =>
      intro i hi
      rw [regsAt] at hi ⊢
      cases hq : e q with
      | none =>
          rw [hq] at hi
          exact absurd hi (Nat.not_lt_zero i)
      | some r =>
          rw [hq] at hi
          cases i with
          | zero => simpa using hq
          | succ i =>
              have hrest := ih (q + 16) i (Nat.lt_of_succ_lt_succ hi)
              rw [List.getElem?_cons_succ, ← hrest]
              congr 1
              omega

/-- After the entries of a list there is none, if they can be all. -/
theorem regsAt_after (he : Spaced e lo hi) (n : ℕ) (q : ℤ) (hn : hi < q + 16 * n) :
    e (q + 16 * (regsAt e n q).length) = none := by
  induction n generalizing q with
  | zero =>
      have hout : ¬ (e q).isSome := fun h => by
        have hle := (he.inside h).2
        omega
      simpa [regsAt] using hout
  | succ n ih =>
      rw [regsAt]
      cases hq : e q with
      | none => simpa using hq
      | some r =>
          have hrest := ih (q + 16) (by omega)
          rw [← hrest]
          congr 1
          rw [List.length_cons]
          omega

theorem MaximalRun.unique (h : MaximalRun e p regs) (h' : MaximalRun e p regs') :
    regs = regs' := by
  have hlen : ∀ {xs ys : List Entry}, MaximalRun e p xs → MaximalRun e p ys →
      ¬ xs.length < ys.length := by
    intro xs ys hx hy hlt
    have hsome := hy.entries xs.length hlt
    rw [hx.after, List.getElem?_eq_getElem hlt] at hsome
    cases hsome
  have hsame : regs.length = regs'.length :=
    le_antisymm (not_lt.mp (hlen h' h)) (not_lt.mp (hlen h h'))
  refine List.ext_getElem? fun i => ?_
  by_cases hi : i < regs.length
  · rw [← h.entries i hi, ← h'.entries i (hsame ▸ hi)]
  · rw [List.getElem?_eq_none (not_lt.mp hi),
      List.getElem?_eq_none (hsame ▸ not_lt.mp hi)]

theorem IsStart.maximalRun (he : Spaced e lo hi) (h : IsStart e p)
    (hn : hi < p + 16 * n) : MaximalRun e p (regsAt e n p) :=
  ⟨regsAt_entries n p, h.2, regsAt_after he n p hn⟩

theorem MaximalRun.isSome (h : MaximalRun e p regs) {i : ℕ}
    (hi : i < regs.length) : (e (p + 16 * i)).isSome := by
  rw [h.entries i hi, List.getElem?_eq_getElem hi]
  rfl

theorem MaximalRun.isStart (h : MaximalRun e p regs) (hpos : 0 < regs.length) :
    IsStart e p := by
  have hfirst := h.isSome hpos
  rw [Nat.cast_zero, mul_zero, add_zero] at hfirst
  exact ⟨hfirst, h.before⟩

theorem MaximalRun.pos (h : MaximalRun e p regs) (hp : (e p).isSome) :
    0 < regs.length := by
  by_contra hzero
  have hafter := h.after
  rw [Nat.eq_zero_of_not_pos hzero, Nat.cast_zero, mul_zero, add_zero] at hafter
  rw [hafter] at hp
  cases hp

/-- The first entry of the run that an entry belongs to. -/
theorem exists_start (he : Spaced e lo hi) (hp : (e p).isSome) :
    ∃ (s : ℤ) (j : ℕ), p = s + 16 * j ∧ IsStart e s ∧
      ∀ i ≤ j, (e (s + 16 * i)).isSome := by
  obtain ⟨k, hk⟩ : ∃ k : ℕ, p < lo + 16 * k := ⟨(p - lo).toNat + 1, by omega⟩
  induction k generalizing p with
  | zero =>
      have hlo := (he.inside hp).1
      omega
  | succ k ih =>
      by_cases hbefore : (e (p - 16)).isSome
      · obtain ⟨s, j, hs, hstart, hall⟩ := ih hbefore (by omega)
        refine ⟨s, j + 1, by omega, hstart, fun i hi => ?_⟩
        obtain hi | rfl := Nat.le_succ_iff.mp hi
        · exact hall i hi
        · rwa [show s + 16 * ((j + 1 : ℕ) : ℤ) = p by omega]
      · refine ⟨p, 0, by omega, ⟨hp, by simpa using hbefore⟩, fun i hi => ?_⟩
        rwa [Nat.le_zero.mp hi, Nat.cast_zero, mul_zero, add_zero]

/-- A run that begins inside another one does so in the last word of its last
entry. -/
theorem MaximalRun.overlap (he : Spaced e lo hi) (h : MaximalRun e s regs)
    (hp : IsStart e p) (halign : 4 ∣ p - s) (hlt : s < p)
    (hinside : p < s + 16 * regs.length) : p = s + 16 * regs.length - 4 := by
  obtain ⟨i, hi, hi'⟩ : ∃ i : ℕ, 16 * (i : ℤ) ≤ p - s ∧ p - s < 16 * i + 16 :=
    ⟨((p - s) / 16).toNat, by omega, by omega⟩
  have hentry := h.isSome (show i < regs.length by omega)
  have hword : p = s + 16 * i ∨ p = s + 16 * i + 4 ∨ p = s + 16 * i + 8 ∨
      p = s + 16 * i + 12 := by omega
  obtain hword | hword | hword | hword := hword
  · have hbefore := h.isSome (show i - 1 < regs.length by omega)
    rw [show s + 16 * ((i - 1 : ℕ) : ℤ) = p - 16 by omega, hp.2] at hbefore
    cases hbefore
  · have hnone := he.four hentry
    rw [← hword] at hnone
    exact absurd hnone (Option.isSome_iff_ne_none.mp hp.1)
  · have hnone := he.eight hentry
    rw [← hword] at hnone
    exact absurd hnone (Option.isSome_iff_ne_none.mp hp.1)
  · by_contra hlast
    have hnext := h.isSome (show i + 1 < regs.length by omega)
    rw [show s + 16 * ((i + 1 : ℕ) : ℤ) = p + 4 by omega, he.four hp.1] at hnext
    cases hnext

/-- Runs with the same end have the same start. -/
theorem MaximalRun.start_unique {s' : ℤ} (h : MaximalRun e s regs)
    (h' : MaximalRun e s' regs')
    (hend : s + 16 * regs.length = s' + 16 * regs'.length) : s = s' := by
  have hnot : ∀ {s s' : ℤ} {xs ys : List Entry}, MaximalRun e s xs →
      MaximalRun e s' ys → s + 16 * (xs.length : ℤ) = s' + 16 * (ys.length : ℤ) →
      ¬ xs.length < ys.length := by
    intro s s' xs ys hx hy hend hlt
    have hsome := hy.isSome (show ys.length - xs.length - 1 < ys.length by omega)
    rw [show s' + 16 * ((ys.length - xs.length - 1 : ℕ) : ℤ) = s - 16 by omega,
      hx.before] at hsome
    cases hsome
  have hlt := hnot h h' hend
  have hlt' := hnot h' h hend.symm
  omega

end Runs

/-! ## Chains of runs -/

/-- The runs of a chain, each of which begins in the last word of the one
before it; `true` for the first run, the third, and so on. -/
inductive Chained (e : ℤ → Option Entry) : Bool → ℤ → Prop
  | first {p : ℤ} : IsStart e p → e (p - 12) = none → Chained e true p
  | next {b : Bool} {s p : ℤ} {regs : List Entry} : Chained e b s →
      MaximalRun e s regs → p = s + 16 * regs.length - 4 → (e p).isSome →
      Chained e (!b) p

section Chains

variable {e : ℤ → Option Entry} {lo hi p s : ℤ} {n : ℕ} {b : Bool}
  {regs : List Entry}

theorem Chained.isStart (he : Spaced e lo hi) (h : Chained e b p) :
    IsStart e p := by
  induction h with
  | first hp _ => exact hp
  | @next b s p regs _ hrun hp hsome ih =>
      refine ⟨hsome, ?_⟩
      have hpos := hrun.pos ih.1
      have hlast := hrun.isSome (show regs.length - 1 < regs.length by omega)
      by_contra hbefore
      have hnone := he.four (Option.ne_none_iff_isSome.mp hbefore)
      rw [show p - 16 + 4 = s + 16 * ((regs.length - 1 : ℕ) : ℤ) by omega] at hnone
      rw [hnone] at hlast
      cases hlast

/-- Where the scan goes on after `p`. -/
def nextAt (e : ℤ → Option Entry) (n : ℕ) (p : ℤ) : ℤ :=
  if IsStart e p then p + 16 * (regsAt e n p).length else p + 4

theorem lt_nextAt (hn : 0 < n) (p : ℤ) : p < nextAt e n p := by
  rw [nextAt]
  by_cases hp : IsStart e p
  · obtain ⟨m, rfl⟩ := Nat.exists_eq_add_of_lt hn
    obtain ⟨r, hr⟩ := Option.isSome_iff_exists.mp hp.1
    rw [if_pos hp, regsAt, hr, List.length_cons]
    omega
  · rw [if_neg hp]
    omega

theorem dvd_of_scans (h : Scans (nextAt e n) (hi - 15) lo p) : 4 ∣ p - lo := by
  refine Scans.invariant (P := fun p => 4 ∣ p - lo) (by simp) (fun p hp => ?_) h
  rw [nextAt]
  by_cases hstart : IsStart e p
  · rw [if_pos hstart]
    omega
  · rw [if_neg hstart]
    omega

/-- A run that the scan jumps over begins in the last word of one it has
found. -/
theorem jumped_iff (he : Spaced e lo hi) (hn : hi < lo + 16 * n)
    (hpos : 0 < n) (hp : IsStart e p) (halign : 4 ∣ p - lo) :
    ¬ Scans (nextAt e n) (hi - 15) lo p ↔
      ∃ s regs, Scans (nextAt e n) (hi - 15) lo s ∧ MaximalRun e s regs ∧
        0 < regs.length ∧ p = s + 16 * regs.length - 4 := by
  obtain ⟨hlo, hhi⟩ := he.inside hp.1
  rw [Scans.not_iff (lt_nextAt hpos) hlo (by omega)]
  constructor
  · rintro ⟨s, hs, hlt, hjump⟩
    have hdvd := dvd_of_scans hs
    by_cases hstart : IsStart e s
    · have hrun := hstart.maximalRun he (n := n) (by
        have hle := (he.inside hstart.1).1
        omega)
      rw [nextAt, if_pos hstart] at hjump
      exact ⟨s, _, hs, hrun, hrun.pos hstart.1,
        hrun.overlap he hp (by omega) hlt hjump⟩
    · rw [nextAt, if_neg hstart] at hjump
      omega
  · rintro ⟨s, regs, hs, hrun, hpos, hp⟩
    have hstart := hrun.isStart hpos
    have hrun' := hstart.maximalRun he (n := n) (by
      have hle := (he.inside hstart.1).1
      omega)
    refine ⟨s, hs, by omega, ?_⟩
    rw [nextAt, if_pos hstart, ← hrun.unique hrun']
    omega

/-- The run that ends in the first word of another one. -/
theorem exists_before (he : Spaced e lo hi) (hp : (e p).isSome)
    (hbefore : (e (p - 12)).isSome) (halign : 4 ∣ p - lo) :
    ∃ s regs, MaximalRun e s regs ∧ 0 < regs.length ∧ s < p ∧ 4 ∣ s - lo ∧
      p = s + 16 * regs.length - 4 := by
  obtain ⟨s, j, hs, hstart, hall⟩ := exists_start he hbefore
  have hlo := (he.inside hstart.1).1
  obtain ⟨n, hn⟩ : ∃ n : ℕ, hi < s + 16 * n := ⟨(hi - s).toNat + 1, by omega⟩
  have hrun := hstart.maximalRun he hn
  have hafter : e (s + 16 * ((j + 1 : ℕ) : ℤ)) = none := by
    rw [show s + 16 * ((j + 1 : ℕ) : ℤ) = p + 4 by omega]
    exact he.four hp
  have hlen : (regsAt e n s).length = j + 1 := by
    refine le_antisymm (not_lt.mp fun hlt => ?_) (not_lt.mp fun hlt => ?_)
    · have hsome := hrun.isSome hlt
      rw [hafter] at hsome
      cases hsome
    · have hsome := hall _ (Nat.lt_succ_iff.mp hlt)
      rw [hrun.after] at hsome
      cases hsome
  exact ⟨s, _, hrun, by omega, by omega, by omega, by rw [hlen]; omega⟩

theorem MaximalRun.last (h : MaximalRun e s regs) (hpos : 0 < regs.length)
    (hend : p = s + 16 * regs.length - 4) : (e (p - 12)).isSome := by
  have hlast := h.isSome (show regs.length - 1 < regs.length by omega)
  rwa [show s + 16 * ((regs.length - 1 : ℕ) : ℤ) = p - 12 by omega] at hlast

theorem chained_iff_of_first (he : Spaced e lo hi) (hp : IsStart e p)
    (hbefore : e (p - 12) = none) : Chained e b p ↔ b = true := by
  constructor
  · intro h
    cases h with
    | first => rfl
    | next hs hrun hend _ =>
        have hlast := hrun.last (hrun.pos (hs.isStart he).1) hend
        rw [hbefore] at hlast
        cases hlast
  · rintro rfl
    exact .first hp hbefore

theorem chained_iff_of_run (hp : (e p).isSome) (hrun : MaximalRun e s regs)
    (hpos : 0 < regs.length) (hend : p = s + 16 * regs.length - 4) :
    Chained e b p ↔ Chained e (!b) s := by
  constructor
  · intro h
    cases h with
    | first _ hbefore =>
        have hlast := hrun.last hpos hend
        rw [hbefore] at hlast
        cases hlast
    | next hs hrun' hend' _ =>
        obtain rfl := hrun.start_unique hrun' (by omega)
        rwa [Bool.not_not]
  · intro h
    rw [← Bool.not_not b]
    exact .next h hrun hend hp

/-- Of a chain, the scan finds the first run, the third, and so on. -/
theorem chained_iff (he : Spaced e lo hi) (hn : hi < lo + 16 * n) (hpos : 0 < n)
    (hp : IsStart e p) (halign : 4 ∣ p - lo) :
    (Chained e true p ↔ Scans (nextAt e n) (hi - 15) lo p) ∧
      (Chained e false p ↔ ¬ Scans (nextAt e n) (hi - 15) lo p) := by
  obtain ⟨k, hk⟩ : ∃ k : ℕ, p < lo + k := ⟨(p - lo).toNat + 1, by
    have hlo := (he.inside hp.1).1
    omega⟩
  induction k generalizing p with
  | zero =>
      have hlo := (he.inside hp.1).1
      omega
  | succ k ih =>
      have hjumped := jumped_iff he hn hpos hp halign
      by_cases hbefore : (e (p - 12)).isSome
      · obtain ⟨s, regs, hrun, hregs, hlt, hdvd, hend⟩ :=
          exists_before he hp.1 hbefore halign
        obtain ⟨htrue, hfalse⟩ := ih (hrun.isStart hregs) hdvd (by omega)
        -- The chain and the scan both come to `p` from the start of this run.
        have hscan : ¬ Scans (nextAt e n) (hi - 15) lo p ↔
            Scans (nextAt e n) (hi - 15) lo s := by
          rw [hjumped]
          constructor
          · rintro ⟨s', regs', hs', hrun', -, hend'⟩
            obtain rfl := hrun.start_unique hrun' (by omega)
            exact hs'
          · exact fun hs => ⟨s, regs, hs, hrun, hregs, hend⟩
        rw [chained_iff_of_run hp.1 hrun hregs hend,
          chained_iff_of_run hp.1 hrun hregs hend, hscan]
        exact ⟨hfalse.trans (not_iff_comm.mp hscan), htrue⟩
      · have hnone : e (p - 12) = none := by simpa using hbefore
        have hscan : Scans (nextAt e n) (hi - 15) lo p := by
          by_contra hnot
          obtain ⟨s, regs, -, hrun, hregs, hend⟩ := hjumped.mp hnot
          exact hbefore (hrun.last hregs hend)
        rw [chained_iff_of_first he hp hnone, chained_iff_of_first he hp hnone]
        exact ⟨iff_of_true rfl hscan, iff_of_false Bool.false_ne_true
          (not_not.mpr hscan)⟩

end Chains

end Pe
end SurfaceCameras
