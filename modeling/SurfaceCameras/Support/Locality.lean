import SurfaceCameras.Support.Bytes
import SurfaceCameras.Support.Program

/-!
# Programs that work on a part of a byte string

A program may look at, and change, the bytes at some positions only.  When it
finishes is then a condition on these bytes, and what it has done a relation
between them before and after.  Two such programs at different positions do
both what they do, in whatever order their results are read, and so does a loop
whose iterations are all at different positions.

Nothing here refers to a particular format.
-/

namespace SurfaceCameras

open Prog

namespace Bytes

/-- `p` works on the bytes at the positions in `S` alone.  It finishes exactly
if `pre` holds of them, and `effect` relates them before and after. -/
structure Local {ε : Type} (S : Set ℕ) (p : Prog Bytes ε Unit)
    (pre : Bytes → Prop) (effect : Bytes → Bytes → Prop) : Prop where
  pre_congr : ∀ {d d'}, AgreeOn S d d' → pre d → pre d'
  effect_congr : ∀ {d₁ d₂ d d'}, AgreeOn S d₁ d → AgreeOn S d₂ d' →
    effect d₁ d₂ → effect d d'
  runs : ∀ {d}, pre d →
    ∃ d', p d = (.ok (), d') ∧ AgreeOn Sᶜ d d' ∧ effect d d'
  needs : ∀ {d d'}, p d = (.ok (), d') → pre d

namespace Local

variable {ε β : Type} {S T : Set ℕ} {p q : Prog Bytes ε Unit}
  {pre pre' : Bytes → Prop} {effect effect' : Bytes → Bytes → Prop}
  {d d' : Bytes}

/-- What a run that has finished has done. -/
theorem outcome (hp : Local S p pre effect) (h : p d = (.ok (), d')) :
    pre d ∧ AgreeOn Sᶜ d d' ∧ effect d d' := by
  have hpre := hp.needs h
  obtain ⟨d₁, hrun, hkeep, heffect⟩ := hp.runs hpre
  obtain rfl : d₁ = d' := (Prod.mk.inj (hrun.symm.trans h)).2
  exact ⟨hpre, hkeep, heffect⟩

/-- One after the other, at different positions. -/
theorem seq (hp : Local S p pre effect) (hq : Local T q pre' effect')
    (hST : ∀ i ∈ S, i ∉ T) :
    Local (S ∪ T) (p >>= fun _ => q) (fun d => pre d ∧ pre' d)
      (fun d d' => effect d d' ∧ effect' d d') where
  pre_congr h hpre :=
    ⟨hp.pre_congr (h.mono fun _ => .inl) hpre.1,
      hq.pre_congr (h.mono fun _ => .inr) hpre.2⟩
  effect_congr h h' heffect :=
    ⟨hp.effect_congr (h.mono fun _ => .inl) (h'.mono fun _ => .inl) heffect.1,
      hq.effect_congr (h.mono fun _ => .inr) (h'.mono fun _ => .inr) heffect.2⟩
  runs {d} := by
    rintro ⟨hpre, hpre'⟩
    obtain ⟨d₁, hrun, hkeep, heffect⟩ := hp.runs hpre
    have hkeepT : AgreeOn T d d₁ := hkeep.mono fun i hi hiS => hST i hiS hi
    obtain ⟨d₂, hrun', hkeep', heffect'⟩ :=
      hq.runs (hq.pre_congr hkeepT hpre')
    have hkeepS : AgreeOn S d₁ d₂ := hkeep'.mono fun i hi => hST i hi
    have houtside : AgreeOn (S ∪ T)ᶜ d d₁ :=
      hkeep.mono fun i hi hiS => hi (.inl hiS)
    have houtside' : AgreeOn (S ∪ T)ᶜ d₁ d₂ :=
      hkeep'.mono fun i hi hiT => hi (.inr hiT)
    refine ⟨d₂, (bind_ok hrun).trans hrun', houtside.trans houtside', ?_, ?_⟩
    · exact hp.effect_congr (AgreeOn.refl S d) hkeepS heffect
    · exact hq.effect_congr hkeepT.symm (AgreeOn.refl T d₂) heffect'
  needs {d d'} h := by
    obtain ⟨⟨⟩, d₁, hrun, hrun'⟩ := bind_eq_ok h
    obtain ⟨hpre, hkeep, -⟩ := hp.outcome hrun
    have hkeepT : AgreeOn T d d₁ := hkeep.mono fun i hi hiS => hST i hiS hi
    exact ⟨hpre, hq.pre_congr hkeepT.symm (hq.needs hrun')⟩

/-- The same conditions, said in another way. -/
theorem congr (hp : Local S p pre effect) (hS : S = T)
    (hpre : ∀ d, pre d ↔ pre' d) (heffect : ∀ d d', effect d d' ↔ effect' d d') :
    Local T p pre' effect' := by
  obtain rfl := hS
  obtain rfl : pre = pre' := funext fun d => propext (hpre d)
  obtain rfl : effect = effect' :=
    funext fun d => funext fun d' => propext (heffect d d')
  exact hp

theorem nil : Local ∅ (Pure.pure () : Prog Bytes ε Unit) (fun _ => True)
    (fun _ _ => True) where
  pre_congr _ h := h
  effect_congr _ _ h := h
  runs {d} _ := ⟨d, rfl, AgreeOn.refl _ d, trivial⟩
  needs _ := trivial

/-- A loop whose iterations are at different positions. -/
theorem forEach {P : β → Set ℕ} {f : β → Prog Bytes ε Unit}
    {pre : β → Bytes → Prop} {effect : β → Bytes → Bytes → Prop} (bs : List β)
    (hf : ∀ b ∈ bs, Local (P b) (f b) (pre b) (effect b))
    (hP : bs.Pairwise fun b b' => ∀ i ∈ P b, i ∉ P b') :
    Local {i | ∃ b ∈ bs, i ∈ P b} (Prog.forEach f bs)
      (fun d => ∀ b ∈ bs, pre b d) (fun d d' => ∀ b ∈ bs, effect b d d') := by
  induction bs with
  | nil => exact nil.congr (by simp) (by simp) (by simp)
  | cons b bs ih =>
      obtain ⟨hb, hbs⟩ := List.pairwise_cons.mp hP
      have hrest := ih (fun b' hb' => hf b' (List.mem_cons_of_mem b hb')) hbs
      have hseq := (hf b List.mem_cons_self).seq hrest fun i hi => by
        rintro ⟨b', hb', hi'⟩
        exact hb b' hb' i hi hi'
      refine hseq.congr ?_ (fun d => ?_) fun d d' => ?_
      · ext i
        simp
      · rw [List.forall_mem_cons]
      · rw [List.forall_mem_cons]

/-- A loop over the first `n` numbers. -/
theorem forRange {P : ℕ → Set ℕ} {f : ℕ → Prog Bytes ε Unit}
    {pre : ℕ → Bytes → Prop} {effect : ℕ → Bytes → Bytes → Prop} (n : ℕ)
    (hf : ∀ k, Local (P k) (f k) (pre k) (effect k))
    (hP : ∀ j k, j < k → ∀ i ∈ P j, i ∉ P k) :
    Local {i | ∃ k < n, i ∈ P k} (Prog.forEach f (List.range n))
      (fun d => ∀ k < n, pre k d) (fun d d' => ∀ k < n, effect k d d') := by
  have hall := forEach (List.range n) (fun k _ => hf k)
    (List.pairwise_lt_range.imp fun {j k} hjk => hP j k hjk)
  refine hall.congr ?_ (fun d => ?_) fun d d' => ?_
  · ext i
    simp
  · simp
  · simp

end Local

end Bytes

end SurfaceCameras
