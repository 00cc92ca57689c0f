import SurfaceCameras.Kernel.Control

/-!
# What kernel operations leave alone

Whatever the transfers do, a kernel operation is made of a few moves on the
device structure: an outcome taken, a register written, a step of setting a
control, a reference taken and dropped.  An operation keeps every frame that
allows its moves.  Each driver checks a frame against the moves once, and its
functions keep the frame because of what they are built from.
-/

namespace SurfaceCameras
namespace Kernel

open Prog

variable {σ : Type}

/-- However the program ends, its change is one the frame allows. -/
abbrev Stays {α : Type} (F : Frame σ) (p : Prog σ Fault α) : Prop :=
  Keeps F (fun _ => True) p

/-- The frame allows accesses to the bus that write registers in `A`. -/
structure AdmitsBus (bus : Field σ Bus) (F : Frame σ) (A : ℕ → Prop) :
    Prop where
  outcomes : ∀ s (os : List Bool),
    F.Rel s (bus.update (fun b => { b with faults := os }) s)
  store : ∀ s a bytes, (∀ k < List.length bytes, A (a + k)) →
    F.Rel s (bus.update (fun b => b.store a bytes) s)

/-- A change made while the device in use is held once more is one the frame
allows. -/
def AdmitsHold (pm : Field σ RuntimePm) (F : Frame σ) : Prop :=
  ∀ s s', (pm.get s).InUse → F.Rel (pm.update RuntimePm.get s) s' →
    F.Rel s (pm.update RuntimePm.put s')

variable {F : Frame σ}

theorem Stays.outcome {α : Type} {P : σ → Prop} {p : Prog σ Fault α}
    (hp : Stays (Frame.invariant P) p) {s : σ} (hs : P s) : P (p s).2 := by
  have h := hp s s id
  revert h
  rcases p s with ⟨_ | _, s'⟩
  · exact fun h => h.1 hs
  · exact fun h => h hs

theorem Stays.fixed {α τ : Type} {f : σ → τ} {p : Prog σ Fault α}
    (hp : Stays (Frame.fixing f) p) (s : σ) : f (p s).2 = f s := by
  have h := hp s s rfl
  revert h
  rcases p s with ⟨_ | _, s'⟩
  · exact fun h => h.1
  · exact fun h => h

/-! ## The bus -/

section Bus

variable {bus : Field σ Bus} {A : ℕ → Prop} (hF : AdmitsBus bus F A)
include hF

theorem AdmitsBus.mono {B : ℕ → Prop} (hB : ∀ a, B a → A a) :
    AdmitsBus bus F B where
  outcomes := hF.outcomes
  store s a bytes h := hF.store s a bytes fun k hk => hB _ (h k hk)

theorem transfer_stays : Stays F (transfer bus) := by
  refine (Keeps.gets _).bind fun b => ?_
  split
  · exact Keeps.pure ()
  · refine (Keeps.modify fun s => ?_).bind fun _ => ?_
    · exact hF.outcomes s _
    · exact Keeps.ite (Keeps.raise trivial) (Keeps.pure ())

theorem busWrite_stays {a : ℕ} {bytes : List (BitVec 8)}
    (hA : ∀ k < bytes.length, A (a + k)) : Stays F (busWrite bus a bytes) :=
  (transfer_stays hF).bind fun _ => Keeps.modify fun s => hF.store s a bytes hA

theorem byteWrite_stays {reg : ℕ} (hA : A reg) (val : BitVec 8) :
    Stays F (busWrite bus reg [val]) := by
  apply busWrite_stays hF
  intro k hk
  have hzero : k = 0 := Nat.lt_one_iff.mp hk
  rw [hzero]
  exact hA

theorem busRead_stays (a : ℕ) : Stays F (busRead bus a) :=
  (transfer_stays hF).bind fun _ => Keeps.gets _

end Bus

/-! ## Controls -/

section Controls

variable {c : Field σ Ctrl} {cb : Prog σ Fault Unit}
  (hvalidate : ∀ s, F.Rel s (c.update Ctrl.validateNew s))
  (hcur : ∀ s, F.Rel s (c.update Ctrl.newToCur s)) (hcb : Stays F cb)
include hvalidate hcur hcb

theorem setCtrl_stays : Stays F (setCtrl c cb) := by
  refine (Keeps.modify hvalidate).bind fun _ => ?_
  refine (Keeps.gets _).bind fun new => Keeps.ite (Keeps.pure ()) ?_
  exact hcb.bind fun _ => Keeps.modify hcur

theorem v4l2CtrlSCtrl_stays {v : ℤ}
    (hset : ∀ s, F.Rel s (c.update (fun x => { x with val := v }) s)) :
    Stays F (v4l2CtrlSCtrl c cb v) :=
  (Keeps.modify hset).bind fun _ => setCtrl_stays hvalidate hcur hcb

theorem v4l2SCtrl_stays (type : CtrlType) (v : ℤ)
    (hset : ∀ w s, F.Rel s (c.update (fun x => { x with val := w }) s)) :
    Stays F (v4l2SCtrl c cb type v) := by
  refine (Keeps.gets _).bind fun x => ?_
  split
  · next w _ =>
      exact v4l2CtrlSCtrl_stays hvalidate hcur hcb (hset w)
  · exact Keeps.raise trivial

/-- A new range that the frame allows in the states of `P`. -/
theorem v4l2CtrlModifyRange_stays {s₀ : σ} {P : σ → Prop} {lo hi : ℤ} {st : ℕ}
    {dflt : ℤ}
    (hrange : ∀ s, P s → F.Rel s (c.update (fun x =>
      (x.withRange lo hi st dflt).curToNew) s)) :
    Triple (fun s => F.Rel s₀ s ∧ P s)
      (v4l2CtrlModifyRange c cb lo hi st dflt)
      (fun _ => F.Rel s₀) (fun _ s => F.Rel s₀ s ∧ True) := by
  apply Triple.ite
  · intro _
    apply Triple.bind (Q := fun _ => F.Rel s₀)
    · exact Triple.modify fun s hs => F.trans hs.1 (hrange s hs.2)
    · exact fun _ => setCtrl_stays hvalidate hcur hcb s₀
  · intro _
    exact Triple.raise fun s hs => ⟨hs.1, trivial⟩

end Controls

/-! ## References -/

section References

variable {pm : Field σ RuntimePm}

theorem admitsHold_fixing (pm : Field σ RuntimePm) :
    AdmitsHold pm (Frame.fixing pm.get) := by
  intro s s' huse h
  have hget : pm.get s' = (pm.get s).get :=
    h.trans (pm.get_update RuntimePm.get s)
  have hput : pm.get (pm.update RuntimePm.put s') = pm.get s := by
    rw [Field.get_update, hget, RuntimePm.put_get_of_inUse huse]
  exact hput

/-- What is done to a device in use under a reference of its own. -/
theorem held_stays (hhold : AdmitsHold pm F) {τ : Type} (g : σ → τ)
    {w : τ → Prog σ Fault Unit} (hw : ∀ x, Stays F (w x)) :
    Stays F (do
      let inUse ← pmRuntimeGetIfInUse pm
      if inUse then do
        let x ← Prog.gets g
        Prog.tryFinally (fun _ => false) (w x) (pmRuntimePut pm)
      else
        pure ()) := by
  intro s₀ s hs
  by_cases huse : (pm.get s).InUse
  · rw [Prog.bind_ok (pmRuntimeGetIfInUse_of_inUse pm huse), if_pos rfl,
      Prog.bind_ok (Prog.gets_apply _ _)]
    have hwrite := hw (g (pm.update RuntimePm.get s)) _ _
      (F.refl (pm.update RuntimePm.get s))
    revert hwrite
    unfold Prog.tryFinally
    rcases w (g (pm.update RuntimePm.get s)) (pm.update RuntimePm.get s) with
      ⟨_ | _, s'⟩
    · intro hwrite
      exact ⟨F.trans hs (hhold s s' huse hwrite.1), trivial⟩
    · intro hwrite
      exact F.trans hs (hhold s s' huse hwrite)
  · rw [Prog.bind_ok (pmRuntimeGetIfInUse_of_not pm huse)]
    exact hs

theorem pmRuntimeResumeAndGet_stays (hpm : ∀ s f, F.Rel s (pm.update f s))
    {resume : Prog σ Fault Unit} (hresume : Stays F resume) :
    Stays F (pmRuntimeResumeAndGet pm resume) := by
  refine (Keeps.modify fun s => hpm s _).bind fun _ => ?_
  refine (Keeps.gets _).bind fun p => Keeps.ite (Keeps.pure ()) ?_
  apply Keeps.tryCatch (S := fun _ => True)
  · exact hresume.bind fun _ => Keeps.modify fun s => hpm s _
  · intro e _
    exact (Keeps.modify fun s => hpm s _).bind fun _ => Keeps.raise trivial

/-- A device that is active only gets another reference. -/
theorem pmRuntimeResumeAndGet_again {resume : Prog σ Fault Unit}
    {P Q : σ → Prop} (hactive : ∀ s, P s → (pm.get s).active = true)
    (hget : ∀ s, P s → Q (pm.update RuntimePm.getToResume s)) :
    Triple P (pmRuntimeResumeAndGet pm resume) (fun _ => Q)
      (fun _ _ => False) := by
  apply Triple.bind (Q := fun _ s => Q s ∧ (pm.get s).active = true)
  · apply Triple.modify
    intro s hs
    refine ⟨hget s hs, ?_⟩
    rw [Field.get_update]
    exact hactive s hs
  intro _
  apply Triple.bind (Q := fun p s => Q s ∧ p.active = true)
  · exact Triple.gets fun _ hs => hs
  intro p
  apply Triple.of_fact
  intro hp
  rw [if_pos hp]
  exact Triple.pure fun _ hs => hs

/-- A resume that leaves the references alone ends with one more and the device
active; or with an error, no reference more and the device suspended as it
was. -/
theorem pmRuntimeResumeAndGet_pm {resume : Prog σ Fault Unit}
    (hresume : Stays (Frame.fixing pm.get) resume) (p : RuntimePm) :
    Triple (fun s => pm.get s = p) (pmRuntimeResumeAndGet pm resume)
      (fun _ s => pm.get s = { p.getToResume with active := true })
      (fun _ s => p.active = false ∧ pm.get s = ⟨false, p.usage, false⟩) := by
  cases hactive : p.active with
  | true =>
      apply (pmRuntimeResumeAndGet_again ?_ ?_).consequence
        (fun _ hs => hs) (fun _ _ hs => hs) fun _ _ hs => hs.elim
      · intro s hs
        rw [hs, hactive]
      · intro s hs
        rw [Field.get_update, hs]
        exact RuntimePm.eq_mk hactive rfl rfl
  | false =>
      have hget : p.getToResume = ⟨false, p.usage + 1, false⟩ := by
        unfold RuntimePm.getToResume RuntimePm.get
        rw [hactive]
        rfl
      rw [hget]
      apply Triple.bind (Q := fun _ s => pm.get s = ⟨false, p.usage + 1, false⟩)
      · apply Triple.modify
        intro s hs
        rw [Field.get_update, hs, hget]
      intro _
      apply Triple.bind (Q := fun q s => pm.get s = ⟨false, p.usage + 1, false⟩ ∧
        q.active = false)
      · apply Triple.gets
        intro s hs
        refine ⟨hs, ?_⟩
        rw [hs]
      intro q
      apply Triple.of_fact
      intro hq
      rw [if_neg (Bool.eq_false_iff.mp hq)]
      apply Triple.tryCatch (J := fun _ s =>
        pm.get s = ⟨false, p.usage + 1, false⟩)
      · apply Triple.bind (Q := fun _ s => pm.get s = ⟨false, p.usage + 1, false⟩)
        · apply (hresume.triple (P := fun s => pm.get s =
            ⟨false, p.usage + 1, false⟩) ?_).consequence (fun _ hs => hs)
              (fun _ _ hs => hs) fun _ _ hs => hs.1
          intro s t hpm hs
          have hpm : pm.get t = pm.get s := hpm
          rw [hpm]
          exact hs
        · intro _
          apply Triple.modify
          intro s hs
          rw [Field.get_update, hs]
      · intro e
        apply Triple.bind (Q := fun _ s => pm.get s = ⟨false, p.usage, false⟩)
        · apply Triple.modify
          intro s hs
          rw [Field.get_update, hs]
          rfl
        · exact fun _ => Triple.raise fun _ hs => ⟨rfl, hs⟩

theorem pmRuntimeResumeAndGet_usage {resume : Prog σ Fault Unit}
    (hresume : Stays (Frame.fixing pm.get) resume) (u : ℕ) :
    Triple (fun s => (pm.get s).usage = u) (pmRuntimeResumeAndGet pm resume)
      (fun _ s => (pm.get s).active = true ∧ (pm.get s).usage = u + 1)
      (fun _ s => (pm.get s).usage = u) := by
  rintro s rfl
  refine ((pmRuntimeResumeAndGet_pm hresume (pm.get s)).consequence
    (fun _ ht => ht) (fun _ t ht => ?_) fun _ t ht => ?_) s rfl
  · rw [ht]
    exact ⟨rfl, rfl⟩
  · rw [ht.2]

theorem pmRuntimeResumeAndGet_active {resume : Prog σ Fault Unit}
    (hresume : Stays (Frame.fixing pm.get) resume) :
    Triple (fun _ => True) (pmRuntimeResumeAndGet pm resume)
      (fun _ s => (pm.get s).active = true)
      (fun _ s => (pm.get s).active = false) := by
  intro s _
  refine ((pmRuntimeResumeAndGet_pm hresume (pm.get s)).consequence
    (fun _ ht => ht) (fun _ t ht => ?_) fun _ t ht => ?_) s rfl
  · rw [ht]
  · rw [ht.2]

end References

end Kernel
end SurfaceCameras
