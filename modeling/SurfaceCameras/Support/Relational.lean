import SurfaceCameras.Support.Program

/-!
# Two runs of one program

Runs from related states are compared: they end the same way, with the same
value, in related states.  With a relation that says where two states agree,
this is how one shows that a program only looks at a part of its state.
-/

namespace SurfaceCameras
namespace Prog

variable {σ ε α β : Type}

/-- From states in `R`, `p` ends the same way, in states in `R`, and what it
returns satisfies `Q`. -/
def Relates (R : σ → σ → Prop) (Q : α → Prop) (p : Prog σ ε α) : Prop :=
  ∀ s t, R s t →
    (p s).1 = (p t).1 ∧ R (p s).2 (p t).2 ∧ ∀ a, (p s).1 = .ok a → Q a

namespace Relates

variable {R : σ → σ → Prop} {Q : α → Prop} {Q' : β → Prop}

theorem pure {a : α} (ha : Q a) : Relates R Q (Pure.pure a : Prog σ ε α) := by
  refine fun s t h => ⟨rfl, h, ?_⟩
  rintro _ ⟨⟩
  exact ha

theorem raise (e : ε) : Relates R Q (Prog.raise e : Prog σ ε α) :=
  fun _ _ h => ⟨rfl, h, fun _ ha => by cases ha⟩

theorem bind {p : Prog σ ε α} {f : α → Prog σ ε β} (hp : Relates R Q p)
    (hf : ∀ a, Q a → Relates R Q' (f a)) : Relates R Q' (p >>= f) := by
  intro s t h
  obtain ⟨hout, hstate, hvalue⟩ := hp s t h
  rw [bind_apply, bind_apply]
  rcases hs : p s with ⟨e | a, s'⟩
  · rcases ht : p t with ⟨e' | a', t'⟩
    · rw [hs, ht] at hout hstate
      obtain rfl : e = e' := by simpa using hout
      exact ⟨rfl, hstate, fun _ hb => by cases hb⟩
    · rw [hs, ht] at hout
      cases hout
  · rcases ht : p t with ⟨e' | a', t'⟩
    · rw [hs, ht] at hout
      cases hout
    · rw [hs, ht] at hout hstate
      obtain rfl : a = a' := by simpa using hout
      exact hf a (hvalue a (by rw [hs])) s' t' hstate

theorem ite {c : Prop} {_ : Decidable c} {p q : Prog σ ε α}
    (hp : c → Relates R Q p) (hq : ¬ c → Relates R Q q) :
    Relates R Q (if c then p else q) := by
  split
  · exact hp ‹_›
  · exact hq ‹_›

theorem when {c : Prop} {_ : Decidable c} {p : Prog σ ε Unit}
    {Q : Unit → Prop} (hp : c → Relates R Q p) (hskip : ¬ c → Q ()) :
    Relates R Q (Prog.when c p) :=
  Relates.ite hp fun hc => Relates.pure (hskip hc)

/-- The loop rule: `I` holds of the loop variables. -/
theorem iterate {out : ε} {body : β → Prog σ ε (β ⊕ α)} {I : β → Prop}
    (hbody : ∀ b, I b → Relates R (Sum.elim I Q) (body b)) :
    ∀ (fuel : ℕ) (b : β), I b → Relates R Q (Prog.iterate out body fuel b)
  | 0, _, _ => Relates.raise out
  | n + 1, b, hb => by
      refine Relates.bind (hbody b hb) ?_
      rintro (b' | a) h
      · exact iterate hbody n b' h
      · exact Relates.pure h

theorem forEach {p : β → Prog σ ε Unit} (bs : List β)
    (hp : ∀ b ∈ bs, Relates R (fun _ => True) (p b)) :
    Relates R (fun _ => True) (Prog.forEach p bs) := by
  induction bs with
  | nil => exact Relates.pure trivial
  | cons b bs ih =>
      refine Relates.bind (hp b List.mem_cons_self) fun _ _ => ?_
      exact ih fun b' hb' => hp b' (List.mem_cons_of_mem b hb')

end Relates

end Prog
end SurfaceCameras
