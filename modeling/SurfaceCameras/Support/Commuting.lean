import SurfaceCameras.Support.Bytes
import SurfaceCameras.Support.Relational

/-!
# Patches that commute

A patch looks at the bytes at some positions and writes at some of these.  Two
patches of which neither writes where the other one looks can be applied in
either order.  This is so even if both end by sealing the string, that is by
writing at positions that neither looks at something that depends on all the
other bytes.

Nothing here refers to a particular format.
-/

namespace SurfaceCameras

open Prog

namespace Bytes

variable {ε : Type}

/-- `p` patches `d` to `d'`: it looks at the positions in `S` alone and writes at
those in `W`. -/
def Patches (S W : Set ℕ) (p : Prog Bytes ε Unit) (d d' : Bytes) : Prop :=
  ∀ e, AgreeOn S d e →
    ∃ e', p e = (.ok (), e') ∧ AgreeOn S d' e' ∧ AgreeOn Wᶜ e e'

/-- `f` seals strings of this length: it writes at the positions in `C` what the
other bytes determine. -/
def Seals (C : Set ℕ) (len : ℕ) (f : Prog Bytes ε Unit) : Prop :=
  ∀ d e, d.length = len → AgreeOn Cᶜ d e →
    ∃ out, f d = (.ok (), out) ∧ f e = (.ok (), out) ∧ AgreeOn Cᶜ d out

/-! ## Commuting -/

section Commuting

variable {S T V W C : Set ℕ} {p q f : Prog Bytes ε Unit}
  {d d₁ d₂ out₁ out₂ : Bytes}

theorem Patches.runs (h : Patches S W p d d₁) :
    ∃ d', p d = (.ok (), d') ∧ AgreeOn S d₁ d' ∧ AgreeOn Wᶜ d d' :=
  h d (AgreeOn.refl S d)

/-- After another patch, and after sealing, a patch does what it would have
done. -/
theorem Patches.after (hp : Patches S W p d d₁) (hq : Patches T V q d d₂)
    (hW : ∀ i ∈ T, i ∉ W) (hC : ∀ i ∈ T, i ∉ C) {e : Bytes}
    (hrun : p d = (.ok (), e)) (hseal : AgreeOn Cᶜ e out₁) :
    ∃ e', q out₁ = (.ok (), e') ∧ AgreeOn T d₂ e' ∧ AgreeOn Vᶜ out₁ e' := by
  obtain ⟨e', hrun', -, hkeep⟩ := hp.runs
  obtain rfl : e' = e := (Prod.mk.inj (hrun'.symm.trans hrun)).2
  refine hq out₁ ((hkeep.mono fun i hi => hW i hi).trans ?_)
  exact hseal.mono fun i hi => hC i hi

/-- Two sealed patches, of which neither writes where the other one looks, give
the same string in either order. -/
theorem Patches.comm (hp : Patches S W p d d₁) (hq : Patches T V q d d₂)
    (hf : Seals C d.length f) (hWS : ∀ i ∈ W, i ∈ S) (hVT : ∀ i ∈ V, i ∈ T)
    (hSV : ∀ i ∈ S, i ∉ V) (hTW : ∀ i ∈ T, i ∉ W) (hSC : ∀ i ∈ S, i ∉ C)
    (hTC : ∀ i ∈ T, i ∉ C) :
    ∃ out₁ out₂ out, (p >>= fun _ => f) d = (.ok (), out₁) ∧
      (q >>= fun _ => f) d = (.ok (), out₂) ∧
      (q >>= fun _ => f) out₁ = (.ok (), out) ∧
      (p >>= fun _ => f) out₂ = (.ok (), out) := by
  obtain ⟨d', hrun, hsame, hkeep⟩ := hp.runs
  obtain ⟨d'', hrun', hsame', hkeep'⟩ := hq.runs
  obtain ⟨out₁, hseal, -, hout₁⟩ :=
    hf d' d' hkeep.length.symm (AgreeOn.refl _ d')
  obtain ⟨out₂, hseal', -, hout₂⟩ :=
    hf d'' d'' hkeep'.length.symm (AgreeOn.refl _ d'')
  obtain ⟨e, hnext, heT, heV⟩ := hp.after hq hTW hTC hrun hout₁
  obtain ⟨e', hnext', heS, heW⟩ := hq.after hp hSV hSC hrun' hout₂
  -- At each position that is not sealed, at most one of the patches has written.
  have hsealed : AgreeOn Cᶜ e e' := by
    have hlen : e.length = e'.length := by
      rw [← heV.length, ← heW.length, ← hout₁.length, ← hout₂.length,
        ← hkeep.length, ← hkeep'.length]
    refine ⟨hlen, fun i hi => ?_⟩
    by_cases hV : i ∈ V
    · have hT := hVT i hV
      rw [← heT.get i hT, hsame'.get i hT, hout₂.get i hi]
      exact heW.get i (hTW i hT)
    · rw [← heV.get i hV, ← hout₁.get i hi]
      by_cases hW : i ∈ W
      · have hS := hWS i hW
        rw [← hsame.get i hS]
        exact heS.get i hS
      · rw [← hkeep.get i hW, hkeep'.get i hV, hout₂.get i hi]
        exact heW.get i hW
  have hlen : e.length = d.length := by
    rw [← heV.length, ← hout₁.length, ← hkeep.length]
  obtain ⟨out, hfirst, hsecond, -⟩ := hf e e' hlen hsealed
  exact ⟨out₁, out₂, out, (bind_ok hrun).trans hseal,
    (bind_ok hrun').trans hseal', (bind_ok hnext).trans hfirst,
    (bind_ok hnext').trans hsecond⟩

end Commuting

/-! ## Two runs of a patch -/

/-- Two runs have come from `d` to `d₁` and from `e` to `e₁`: they have written
at the positions in `W`, the same where `S` is. -/
structure Paired (S W : Set ℕ) (d e d₁ e₁ : Bytes) : Prop where
  same : AgreeOn S d₁ e₁
  left : AgreeOn Wᶜ d d₁
  right : AgreeOn Wᶜ e e₁

section Paired

variable {S W : Set ℕ} {d e d₁ e₁ d' : Bytes} {α : Type}

theorem Paired.start (h : AgreeOn S d e) : Paired S W d e d e :=
  ⟨h, AgreeOn.refl _ d, AgreeOn.refl _ e⟩

/-- Both runs write the same. -/
theorem Paired.write {p : ℕ} {bs : Bytes} (h : Paired S W d e d₁ e₁)
    (hin : p + bs.length ≤ d₁.length)
    (hW : ∀ i, p ≤ i → i < p + bs.length → i ∈ W) :
    Paired S W d e (Bytes.write d₁ p bs) (Bytes.write e₁ p bs) where
  same := h.same.write_both hin
  left := h.left.write hin fun i hi hspan => hi (hW i hspan.1 hspan.2)
  right := h.right.write (h.same.length ▸ hin) fun i hi hspan =>
    hi (hW i hspan.1 hspan.2)

/-- What is related in all pairs of runs is a patch. -/
theorem Patches.of_relates {p : Prog Bytes ε Unit}
    (hp : ∀ e, Relates (Paired S W d e) (fun _ => True) p)
    (h : p d = (.ok (), d')) : Patches S W p d d' := by
  intro e he
  obtain ⟨hout, hpair, -⟩ := hp e d e (Paired.start he)
  rw [h] at hout hpair
  exact ⟨(p e).2, Prod.ext hout.symm rfl, hpair.same, hpair.right⟩

end Paired

end Bytes

end SurfaceCameras
