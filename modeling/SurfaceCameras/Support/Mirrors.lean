import SurfaceCameras.Support.Program

/-!
# Two programs that only read

A program that only reads is given two states, or two such programs a state
each.  They end alike if they raise the same exception or return values that
are related.  Loops whose variables stay related end alike, so that what a
reader shows of one state is found from what it shows of another.

Nothing here refers to a particular state or program.
-/

namespace SurfaceCameras
namespace Prog

variable {σ τ ε α β : Type}

/-- The same exception, or values in `V`. -/
inductive Alike (V : α → β → Prop) : Except ε α → Except ε β → Prop
  | error (e : ε) : Alike V (.error e) (.error e)
  | ok {a : α} {b : β} : V a b → Alike V (.ok a) (.ok b)

/-- `p` from `s` and `q` from `t` end alike, and neither changes its state. -/
structure Mirrors (s : σ) (t : τ) (V : α → β → Prop) (p : Prog σ ε α)
    (q : Prog τ ε β) : Prop where
  left : (p s).2 = s
  right : (q t).2 = t
  alike : Alike V (p s).1 (q t).1

namespace Mirrors

variable {γ δ : Type} {s : σ} {t : τ} {V V' : α → β → Prop}
  {W : γ → δ → Prop} {p : Prog σ ε α} {q : Prog τ ε β}

/-- The two ways to end. -/
theorem cases (h : Mirrors s t V p q) :
    (∃ e, p s = (.error e, s) ∧ q t = (.error e, t)) ∨
      ∃ a b, V a b ∧ p s = (.ok a, s) ∧ q t = (.ok b, t) := by
  obtain ⟨hleft, hright, halike⟩ := h
  rcases hp : p s with ⟨a, s'⟩
  rcases hq : q t with ⟨b, t'⟩
  rw [hp] at hleft
  rw [hq] at hright
  rw [hp, hq] at halike
  obtain rfl : s' = s := hleft
  obtain rfl : t' = t := hright
  cases halike with
  | error e => exact .inl ⟨e, rfl, rfl⟩
  | @ok a b hV => exact .inr ⟨a, b, hV, rfl, rfl⟩

theorem of_error {e : ε} (hp : p s = (.error e, s)) (hq : q t = (.error e, t)) :
    Mirrors s t V p q :=
  ⟨congrArg Prod.snd hp, congrArg Prod.snd hq, by
    rw [hp, hq]
    exact .error e⟩

theorem of_ok {a : α} {b : β} (hV : V a b) (hp : p s = (.ok a, s))
    (hq : q t = (.ok b, t)) : Mirrors s t V p q :=
  ⟨congrArg Prod.snd hp, congrArg Prod.snd hq, by
    rw [hp, hq]
    exact .ok hV⟩

/-- Programs that only read and return the same. -/
theorem of_eq {p q : Prog σ ε α} {s t : σ} (hp : (p s).2 = s) (hq : (q t).2 = t)
    (h : (p s).1 = (q t).1) : Mirrors s t Eq p q := by
  refine ⟨hp, hq, ?_⟩
  rw [h]
  rcases (q t).1 with e | a
  · exact .error e
  · exact .ok rfl

theorem pure {a : α} {b : β} (hV : V a b) :
    Mirrors s t V (Pure.pure a : Prog σ ε α) (Pure.pure b) :=
  of_ok hV rfl rfl

theorem raise (e : ε) :
    Mirrors s t V (Prog.raise e : Prog σ ε α) (Prog.raise e) :=
  of_error rfl rfl

theorem gets {f : σ → α} {g : τ → β} (hV : V (f s) (g t)) :
    Mirrors s t V (Prog.gets f : Prog σ ε α) (Prog.gets g) :=
  of_ok hV rfl rfl

theorem mono (h : Mirrors s t V p q) (hV : ∀ a b, V a b → V' a b) :
    Mirrors s t V' p q := by
  obtain ⟨e, hp, hq⟩ | ⟨a, b, hab, hp, hq⟩ := h.cases
  · exact of_error hp hq
  · exact of_ok (hV a b hab) hp hq

theorem bind {f : α → Prog σ ε γ} {g : β → Prog τ ε δ}
    (h : Mirrors s t V p q)
    (hf : ∀ a b, V a b → Mirrors s t W (f a) (g b)) :
    Mirrors s t W (p >>= f) (q >>= g) := by
  obtain ⟨e, hp, hq⟩ | ⟨a, b, hab, hp, hq⟩ := h.cases
  · exact of_error (bind_error hp) (bind_error hq)
  · obtain ⟨hleft, hright, halike⟩ := hf a b hab
    have hp' := bind_ok (f := f) hp
    have hq' := bind_ok (f := g) hq
    exact ⟨by rw [hp', hleft], by rw [hq', hright], by rwa [hp', hq']⟩

theorem ite {c c' : Prop} {_ : Decidable c} {_ : Decidable c'}
    {p' : Prog σ ε α} {q' : Prog τ ε β} (hc : c ↔ c')
    (h : c → Mirrors s t V p q) (h' : ¬ c → Mirrors s t V p' q') :
    Mirrors s t V (if c then p else p') (if c' then q else q') := by
  by_cases htrue : c
  · rw [if_pos htrue, if_pos (hc.mp htrue)]
    exact h htrue
  · rw [if_neg htrue, if_neg fun h => htrue (hc.mpr h)]
    exact h' htrue

/-- The loop rule: `I` relates the loop variables. -/
theorem iterate {out : ε} {body : γ → Prog σ ε (γ ⊕ α)}
    {body' : δ → Prog τ ε (δ ⊕ β)} {I : γ → δ → Prop}
    (hbody : ∀ c c', I c c' →
      Mirrors s t (Sum.LiftRel I V) (body c) (body' c')) :
    ∀ (fuel : ℕ) (c : γ) (c' : δ), I c c' →
      Mirrors s t V (Prog.iterate out body fuel c)
        (Prog.iterate out body' fuel c')
  | 0, _, _, _ => raise out
  | n + 1, c, c', hc => by
      refine bind (hbody c c' hc) fun r r' hr => ?_
      cases hr with
      | inl hnext => exact iterate hbody n _ _ hnext
      | inr hV => exact pure hV

/-- What is returned is the same. -/
theorem eq {p q : Prog σ ε α} {s t : σ} (h : Mirrors s t Eq p q) :
    (p s).1 = (q t).1 := by
  obtain ⟨e, hp, hq⟩ | ⟨a, b, rfl, hp, hq⟩ := h.cases
  · rw [hp, hq]
  · rw [hp, hq]

end Mirrors

end Prog
end SurfaceCameras
