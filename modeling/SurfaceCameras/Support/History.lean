import SurfaceCameras.Support.Program

/-!
# Programs that keep a history

A property may speak about what a program has done so far and no longer keeps
in its state.  A recording program carries a history beside the state and adds
to it between the steps of the program.  The history is never read, so erasing
it gives back the program itself.
-/

namespace SurfaceCameras
namespace Prog

variable {σ γ ε α β : Type}

/-- Run `p` beside a history that it does not touch. -/
def beside (p : Prog σ ε α) : Prog (σ × γ) ε α := fun s =>
  ((p s.1).1, ((p s.1).2, s.2))

theorem beside_ok {p : Prog σ ε α} {s s' : σ} {a : α} (h : p s = (.ok a, s'))
    (g : γ) : beside p (s, g) = (.ok a, (s', g)) := by
  simp only [beside, h]

/-- Add to the history what the state shows. -/
def record (f : σ → γ → γ) : Prog (σ × γ) ε Unit :=
  modify fun s => (s.1, f s.1 s.2)

/-! ## Erasure -/

/-- Without its history, `q` is `p`. -/
def Erases (q : Prog (σ × γ) ε α) (p : Prog σ ε α) : Prop :=
  ∀ s, Prod.map id Prod.fst (q s) = p s.1

namespace Erases

theorem beside (p : Prog σ ε α) :
    Erases (Prog.beside p : Prog (σ × γ) ε α) p :=
  fun _ => rfl

theorem pure (a : α) :
    Erases (Pure.pure a : Prog (σ × γ) ε α) (Pure.pure a : Prog σ ε α) :=
  fun _ => rfl

theorem raise (e : ε) :
    Erases (Prog.raise e : Prog (σ × γ) ε α) (Prog.raise e : Prog σ ε α) :=
  fun _ => rfl

theorem gets (f : σ → α) :
    Erases (Prog.gets fun s => f s.1 : Prog (σ × γ) ε α) (Prog.gets f) :=
  fun _ => rfl

theorem modify {f : σ × γ → σ × γ} {g : σ → σ} (h : ∀ s, (f s).1 = g s.1) :
    Erases (Prog.modify f : Prog (σ × γ) ε Unit) (Prog.modify g) :=
  fun s => congrArg (Prod.mk (Except.ok ())) (h s)

/-- The state after a recording program is the one after the program. -/
theorem outcome {q : Prog (σ × γ) ε α} {p : Prog σ ε α} (h : Erases q p)
    (s : σ × γ) : (q s).2.1 = (p s.1).2 :=
  congrArg Prod.snd (h s)

theorem bind {q : Prog (σ × γ) ε α} {p : Prog σ ε α}
    {k : α → Prog (σ × γ) ε β} {f : α → Prog σ ε β} (hp : Erases q p)
    (hf : ∀ a, Erases (k a) (f a)) : Erases (q >>= k) (p >>= f) := by
  intro s
  have h := hp s
  rw [bind_apply, bind_apply, ← h]
  rcases q s with ⟨_ | a, s'⟩
  · rfl
  · exact hf a s'

/-- What is recorded first is erased. -/
theorem record_bind {f : σ → γ → γ} {k : Unit → Prog (σ × γ) ε α}
    {p : Prog σ ε α} (hk : Erases (k ()) p) :
    Erases (Prog.record f >>= k) p :=
  fun s => hk (s.1, f s.1 s.2)

/-- What is recorded last is erased. -/
theorem bind_record {f : σ → γ → γ} {q : Prog (σ × γ) ε Unit}
    {p : Prog σ ε Unit} (hp : Erases q p) :
    Erases (q >>= fun _ => Prog.record f) p := by
  intro s
  have h := hp s
  rw [bind_apply, ← h]
  rcases q s with ⟨_ | _, s'⟩
  · rfl
  · rfl

theorem ite {c : Prop} {_ : Decidable c} {q q' : Prog (σ × γ) ε α}
    {p p' : Prog σ ε α} (h : Erases q p) (h' : Erases q' p') :
    Erases (if c then q else q') (if c then p else p') := by
  split
  · exact h
  · exact h'

theorem tryCatch {q : Prog (σ × γ) ε α} {p : Prog σ ε α}
    {k : ε → Prog (σ × γ) ε α} {f : ε → Prog σ ε α} (hp : Erases q p)
    (hf : ∀ e, Erases (k e) (f e)) :
    Erases (Prog.tryCatch q k) (Prog.tryCatch p f) := by
  intro s
  have h := hp s
  simp only [Prog.tryCatch]
  rw [← h]
  rcases q s with ⟨e | _, s'⟩
  · exact hf e s'
  · rfl

theorem when {c : Prop} {_ : Decidable c} {q : Prog (σ × γ) ε Unit}
    {p : Prog σ ε Unit} (h : Erases q p) :
    Erases (Prog.when c q) (Prog.when c p) :=
  Erases.ite h (Erases.pure ())

theorem tryFinally {skips : ε → Bool} {q : Prog (σ × γ) ε α}
    {p : Prog σ ε α} {k : Prog (σ × γ) ε Unit} {f : Prog σ ε Unit}
    (hp : Erases q p) (hf : Erases k f) :
    Erases (Prog.tryFinally skips q k) (Prog.tryFinally skips p f) := by
  intro s
  have h := hp s
  simp only [Prog.tryFinally]
  rw [← h]
  rcases q s with ⟨e | a, s'⟩
  · dsimp only [Prod.map, id]
    split
    · rfl
    · exact Erases.bind hf (fun _ => Erases.raise e) s'
  · exact Erases.bind hf (fun _ => Erases.pure a) s'

theorem iterate {out : ε} {k : β → Prog (σ × γ) ε (β ⊕ α)}
    {f : β → Prog σ ε (β ⊕ α)} (hbody : ∀ b, Erases (k b) (f b)) (n : ℕ)
    (b : β) : Erases (Prog.iterate out k n b) (Prog.iterate out f n b) := by
  induction n generalizing b with
  | zero => exact Erases.raise out
  | succ n ih =>
      apply Erases.bind (hbody b)
      rintro (b' | a)
      · exact ih b'
      · exact Erases.pure a

theorem unwinding {undo : Prog (σ × γ) ε Unit} {undo' : Prog σ ε Unit}
    {q : Prog (σ × γ) ε α} {p : Prog σ ε α} (hundo : Erases undo undo')
    (hp : Erases q p) : Erases (Prog.unwinding undo q) (Prog.unwinding undo' p) :=
  Erases.tryCatch hp fun e => Erases.bind hundo fun _ => Erases.raise e

theorem forEach {k : β → Prog (σ × γ) ε Unit} {f : β → Prog σ ε Unit}
    (h : ∀ b, Erases (k b) (f b)) (bs : List β) :
    Erases (Prog.forEach k bs) (Prog.forEach f bs) := by
  induction bs with
  | nil => exact Erases.pure ()
  | cons b bs ih => exact Erases.bind (h b) fun _ => ih

end Erases

/-! ## Triples -/

namespace Triple

variable {P : σ × γ → Prop} {Q : α → σ × γ → Prop} {E : ε → σ × γ → Prop}

/-- A program beside a history is proved for each history. -/
theorem beside {p : Prog σ ε α}
    (h : ∀ g, Triple (fun s => P (s, g)) p (fun a s => Q a (s, g))
      fun e s => E e (s, g)) : Triple P (Prog.beside p) Q E := by
  rintro ⟨s, g⟩ hs
  have h := h g s hs
  revert h
  simp only [Prog.beside]
  rcases p s with ⟨_ | _, s'⟩
  · exact id
  · exact id

theorem record {f : σ → γ → γ} {Q : Unit → σ × γ → Prop}
    (h : ∀ s g, P (s, g) → Q () (s, f s g)) :
    Triple P (Prog.record f) Q E :=
  Triple.modify fun s hs => h s.1 s.2 hs

/-- What is said of the history alone, a program beside it keeps. -/
theorem beside_history {J : γ → Prop} (p : Prog σ ε α) :
    Triple (fun s => J s.2) (Prog.beside p) (fun _ s => J s.2)
      fun _ s => J s.2 := by
  rintro ⟨s, g⟩ hs
  simp only [Prog.beside]
  rcases p s with ⟨_ | _, s'⟩
  · exact hs
  · exact hs

/-- What `p` keeps beside a history, whatever that history says. -/
theorem beside_keeps {F : Frame σ} {R : ε → Prop} {p : Prog σ ε α}
    (hp : Keeps F R p) (hP : ∀ s t g, F.Rel s t → P (s, g) → P (t, g)) :
    Triple P (Prog.beside p) (fun _ => P) fun e s => P s ∧ R e :=
  Triple.beside fun g => hp.triple fun s t hst => hP s t g hst

end Triple

end Prog
end SurfaceCameras
