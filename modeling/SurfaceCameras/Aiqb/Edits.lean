import SurfaceCameras.Aiqb.Records

/-!
# Edits inside elements

A loop goes over elements that stand one after the other, and changes each of
them without looking at, or changing, what precedes it.  When it is over, every
element is as if it alone had been edited, and nothing else has changed.
-/

namespace SurfaceCameras
namespace Aiqb

open Bytes

/-- What is edited of a file: the bytes that the edit of the element at a
position may change, and the file after this edit alone. -/
structure Edit where
  span : ℕ → Set ℕ
  edited : ℕ → Bytes

namespace Layout

variable {η : Type} (L : Layout η) (known : η → Bool) (limit : ℕ) (d : Bytes)
  (start : ℕ)

/-- The walk comes to the element at `p`. -/
def On (p : ℕ) : Prop :=
  L.Reaches known limit d start p ∧ L.Goes known limit d p

/-- Where the element at `p` ends. -/
def after (p : ℕ) : ℕ := p + L.size (L.elem d p)

/-- The edits stay inside the elements. -/
def EditsInside (E : Edit) : Prop :=
  ∀ p, L.On known limit d start p → ∀ i ∈ E.span p, p ≤ i ∧ i < L.after d p

/-- What has been edited when the loop comes to `q`. -/
structure EditedTo (E : Edit) (q : ℕ) (d₁ : Bytes) : Prop where
  kept : AgreeOn {i | ∀ p, L.On known limit d start p → L.after d p ≤ q →
    i ∉ E.span p} d d₁
  done : ∀ p, L.On known limit d start p → L.after d p ≤ q →
    AgreeOn (Set.Ico p (L.after d p)) (E.edited p) d₁

/-- Every element was edited, and nothing else. -/
structure AllEdited (E : Edit) (d' : Bytes) : Prop where
  kept : AgreeOn {i | ∀ p, L.On known limit d start p → i ∉ E.span p} d d'
  done : ∀ p, L.On known limit d start p →
    AgreeOn (Set.Ico p (L.after d p)) (E.edited p) d'

variable {L known limit d start} {E : Edit} {p q : ℕ} {d₁ d₂ : Bytes}

theorem On.advances (h : L.On known limit d start p) : p < L.after d p :=
  h.2.advances

theorem On.le_limit (h : L.On known limit d start p) : L.after d p ≤ limit :=
  h.2.taken.2.1

theorem On.start_le (h : L.On known limit d start p) : start ≤ p := h.1.le

theorem On.trichotomy (hp : L.On known limit d start p)
    (hq : L.On known limit d start q) :
    p = q ∨ L.after d p ≤ q ∨ L.after d q ≤ p := by
  obtain hle | hend := hp.1.apart hp.2 hq.1
  · obtain hle' | hend := hq.1.apart hq.2 hp.1
    · exact .inl (le_antisymm hle' hle)
    · exact .inr (.inr hend)
  · exact .inr (.inl hend)

theorem On.after_le (hp : L.On known limit d start p)
    (hq : L.Reaches known limit d start q)
    (hend : ¬ L.Goes known limit d q) : L.after d p ≤ q := by
  obtain hle | hafter := hp.1.apart hp.2 hq
  · obtain hpq | hqp := hp.1.total hq
    · obtain rfl | ⟨-, hrest⟩ := hpq.head
      · exact absurd hp.2 hend
      · exact hrest.le
    · obtain rfl | ⟨hgo, -⟩ := hqp.head
      · exact absurd hp.2 hend
      · exact absurd hgo hend
  · exact hafter

namespace EditedTo

theorem refl : L.EditedTo known limit d start E start d where
  kept := AgreeOn.refl _ d
  done p hp hle := by
    have hstart := hp.start_le
    have hadvances := hp.advances
    omega

theorem ahead (hE : L.EditsInside known limit d start E)
    (h : L.EditedTo known limit d start E q d₁) : AgreeOn (Set.Ici q) d d₁ := by
  refine h.kept.mono fun i hi p hp hle hspan => ?_
  have hlo : q ≤ i := hi
  have hlt := (hE p hp i hspan).2
  omega

/-- The step rule: the element at `q` is edited. -/
theorem next (hE : L.EditsInside known limit d start E)
    (hq : L.On known limit d start q)
    (h : L.EditedTo known limit d start E q d₁)
    (hkeep : AgreeOn (E.span q)ᶜ d₁ d₂)
    (hdone : AgreeOn (Set.Ico q (L.after d q)) (E.edited q) d₂) :
    L.EditedTo known limit d start E (L.after d q) d₂ := by
  have hcases : ∀ p, L.On known limit d start p → L.after d p ≤ L.after d q →
      p = q ∨ L.after d p ≤ q := by
    intro p hp hle
    obtain hsame | hbefore | hafter := hp.trichotomy hq
    · exact .inl hsame
    · exact .inr hbefore
    · have hadvances := hp.advances
      omega
  constructor
  · have hkeep' : AgreeOn {i | ∀ p, L.On known limit d start p →
        L.after d p ≤ L.after d q → i ∉ E.span p} d₁ d₂ :=
      hkeep.mono fun i hi => hi q hq le_rfl
    refine AgreeOn.trans (h.kept.mono fun i hi p hp hle => ?_) hkeep'
    exact hi p hp (hle.trans hq.advances.le)
  · intro p hp hle
    obtain rfl | hbefore := hcases p hp hle
    · exact hdone
    · refine (h.done p hp hbefore).trans (hkeep.mono fun i hi hspan => ?_)
      have hlo := (hE q hq i hspan).1
      have hhi : i < L.after d p := hi.2
      omega

theorem all (h : L.EditedTo known limit d start E q d₁)
    (hq : L.Reaches known limit d start q)
    (hend : ¬ L.Goes known limit d q) : L.AllEdited known limit d start E d₁ where
  kept := h.kept.mono fun _ hi p hp _ => hi p hp
  done p hp := h.done p hp (hp.after_le hq hend)

end EditedTo

namespace AllEdited

/-- Nothing has changed outside the walk. -/
theorem outside (hE : L.EditsInside known limit d start E)
    (h : L.AllEdited known limit d start E d₁) {S : Set ℕ}
    (hS : ∀ i ∈ S, i < start ∨ limit ≤ i) : AgreeOn S d d₁ := by
  refine h.kept.mono fun i hi p hp hspan => ?_
  obtain ⟨hlo, hhi⟩ := hE p hp i hspan
  have hstart := hp.start_le
  have hlimit := hp.le_limit
  have hoff := hS i hi
  omega

theorem inside (hE : L.EditsInside known limit d start E)
    (h : L.AllEdited known limit d start E d₁)
    (hq : L.On known limit d start q) {S : Set ℕ}
    (hS : ∀ i ∈ S, q ≤ i ∧ i < L.after d q ∧ i ∉ E.span q) :
    AgreeOn S d d₁ := by
  refine h.kept.mono fun i hi p hp hspan => ?_
  obtain ⟨hlo, hhi, hnot⟩ := hS i hi
  have hinside := hE p hp i hspan
  obtain rfl | hbefore | hafter := hp.trichotomy hq
  · exact hnot hspan
  · omega
  · omega

end AllEdited

end Layout

end Aiqb
end SurfaceCameras
