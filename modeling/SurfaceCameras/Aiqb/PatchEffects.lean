import SurfaceCameras.Aiqb.NoisePatch
import SurfaceCameras.Support.Relational

/-!
# What rescaling reads and writes

Rescaling a record chain looks at nothing before the chain and writes nothing
outside it.  The loop over the sections therefore finds the sections of the
original file although the file changes on the way, and each section is
rescaled as if it were the only one.
-/

namespace SurfaceCameras
namespace Aiqb

open Bytes Prog

/-! ## Packing and unpacking -/

section Packing

variable {α : Type} {p n : ℕ} {bs d d₀ : Bytes} {S : Set ℕ}

theorem unpackFrom_ok (fields : Bytes → α) (h : p + n ≤ d.length) :
    unpackFrom p n fields d = (.ok (fields (slice d p n)), d) := by
  simp only [unpackFrom, bind_apply, gets_apply, Prog.when,
    if_neg (Nat.not_lt.mpr h), pure_apply]

theorem unpackFrom_error (fields : Bytes → α) (h : d.length < p + n) :
    unpackFrom p n fields d = (.error .structError, d) := by
  simp only [unpackFrom, bind_apply, gets_apply, Prog.when, if_pos h,
    raise_apply]

theorem unpackFrom_eq_ok {fields : Bytes → α} {a : α} {d' : Bytes}
    (h : unpackFrom p n fields d = (.ok a, d')) :
    p + n ≤ d.length ∧ a = fields (slice d p n) ∧ d = d' := by
  by_cases hin : p + n ≤ d.length
  · rw [unpackFrom_ok fields hin] at h
    obtain ⟨ha, hd⟩ := Prod.mk.inj h
    exact ⟨hin, (Except.ok.inj ha).symm, hd⟩
  · rw [unpackFrom_error fields (Nat.lt_of_not_le hin)] at h
    cases h

theorem packInto_ok (h : p + bs.length ≤ d.length) :
    packInto p bs d = (.ok (), write d p bs) := by
  simp only [packInto, bind_apply, gets_apply, Prog.when,
    if_neg (Nat.not_lt.mpr h), pure_apply, modify_apply]

theorem packInto_error (h : d.length < p + bs.length) :
    packInto p bs d = (.error .structError, d) := by
  simp only [packInto, bind_apply, gets_apply, Prog.when, if_pos h,
    raise_apply]

theorem unpackFrom_relates {fields : Bytes → α}
    (hS : ∀ i, p ≤ i → i < p + n → i ∈ S) :
    Relates (AgreeOn S) (fun _ => True) (unpackFrom p n fields) := by
  intro d d' h
  by_cases hin : p + n ≤ d.length
  · rw [unpackFrom_ok fields hin, unpackFrom_ok fields (h.length ▸ hin),
      h.slice_eq hS]
    exact ⟨rfl, h, fun _ _ => trivial⟩
  · have hout := Nat.lt_of_not_le hin
    rw [unpackFrom_error fields hout, unpackFrom_error fields (h.length ▸ hout)]
    exact ⟨rfl, h, fun _ _ => trivial⟩

theorem packInto_relates :
    Relates (AgreeOn S) (fun _ => True) (packInto p bs) := by
  intro d d' h
  by_cases hin : p + bs.length ≤ d.length
  · rw [packInto_ok hin, packInto_ok (h.length ▸ hin)]
    exact ⟨rfl, h.write_both hin, fun _ _ => trivial⟩
  · have hout := Nat.lt_of_not_le hin
    rw [packInto_error hout, packInto_error (h.length ▸ hout)]
    exact ⟨rfl, h, fun _ _ => trivial⟩

theorem unpackFrom_spec {fields : Bytes → α} {P : Bytes → Prop} :
    Triple P (unpackFrom p n fields)
      (fun a d => P d ∧ ∃ bs, a = fields bs) (fun _ => P) := by
  intro d hd
  by_cases hin : p + n ≤ d.length
  · rw [unpackFrom_ok fields hin]
    exact ⟨hd, _, rfl⟩
  · rw [unpackFrom_error fields (Nat.lt_of_not_le hin)]
    exact hd

theorem packInto_spec (hS : ∀ i ∈ S, ¬ (p ≤ i ∧ i < p + bs.length)) :
    Triple (AgreeOn S d₀) (packInto p bs) (fun _ => AgreeOn S d₀)
      (fun _ => AgreeOn S d₀) := by
  intro d hd
  by_cases hin : p + bs.length ≤ d.length
  · rw [packInto_ok hin]
    exact hd.write hin hS
  · rw [packInto_error (Nat.lt_of_not_le hin)]
    exact hd

end Packing

/-! ## Rescaling -/

section Rescaling

variable {F : Floats} {d₀ : Bytes} {S : Set ℕ}

theorem length_rescale {vals new : List ℤ} {ax : List ℕ}
    (h : rescale F vals ax = some new) : new.length ≤ vals.length := by
  induction vals generalizing ax new with
  | nil =>
      obtain rfl : [] = new := by simpa [rescale] using h
      exact Nat.le_refl 0
  | cons v vals ih =>
      cases ax with
      | nil =>
          obtain rfl : [] = new := by simpa [rescale] using h
          exact Nat.zero_le _
      | cons x ax =>
          simp only [rescale, Option.bind_eq_some_iff, Option.map_eq_some_iff]
            at h
          obtain ⟨v', -, rest, hrest, rfl⟩ := h
          exact Nat.succ_le_succ (ih hrest)

theorem length_packSigned (vs : List ℤ) :
    (packSigned vs).length = 4 * vs.length := by
  induction vs with
  | nil => rfl
  | cons v vs ih =>
      simp only [packSigned, List.flatMap_cons, List.length_append,
        length_toLe] at ih ⊢
      rw [ih, List.length_cons]
      omega

theorem packValues_relates {vo : ℕ} {new : List ℤ} :
    Relates (AgreeOn S) (fun _ => True) (packValues vo new) := by
  apply Relates.bind (Q := fun _ => True)
  · exact Relates.when (fun _ => Relates.raise _) fun _ => trivial
  · exact fun _ _ => packInto_relates

theorem packValues_spec {vo : ℕ} {new : List ℤ}
    (hS : ∀ i ∈ S, ¬ (vo ≤ i ∧ i < vo + 4 * new.length)) :
    Triple (AgreeOn S d₀) (packValues vo new) (fun _ => AgreeOn S d₀)
      (fun _ => AgreeOn S d₀) := by
  apply Triple.bind (Q := fun _ => AgreeOn S d₀)
  · exact Triple.when (fun _ => Triple.raise fun _ h => h) fun _ _ h => h
  · intro _
    apply packInto_spec
    rwa [length_packSigned]

theorem patchParam_relates {p ssz n1 n2 : ℕ} (hS : ∀ i, p ≤ i → i ∈ S) :
    Relates (AgreeOn S) (fun _ => True) (patchParam F p ssz n1 n2) := by
  apply Relates.bind
  · exact unpackFrom_relates fun i hi _ => hS i (by omega)
  intro ax _
  refine Relates.ite (fun _ => ?_) fun _ => Relates.pure trivial
  apply Relates.bind
  · exact unpackFrom_relates fun i hi _ => hS i (by omega)
  intro vals _
  refine Relates.ite (fun _ => ?_) fun _ => Relates.pure trivial
  cases rescale F vals ax with
  | none => exact Relates.raise _
  | some new =>
      apply Relates.bind packValues_relates
      exact fun _ _ => Relates.pure trivial

/-- A parameter is rescaled inside its sub-record. -/
theorem patchParam_spec {p ssz n1 n2 : ℕ}
    (hS : ∀ i ∈ S, ¬ (p ≤ i ∧ i < p + ssz)) :
    Triple (AgreeOn S d₀) (patchParam F p ssz n1 n2) (fun _ => AgreeOn S d₀)
      (fun _ => AgreeOn S d₀) := by
  apply Triple.bind (Q := fun _ => AgreeOn S d₀)
  · exact unpackFrom_spec.consequence (fun _ h => h) (fun _ _ h => h.1)
      fun _ _ h => h
  intro ax
  refine Triple.ite (fun hroom => ?_) fun _ => Triple.pure fun _ h => h
  apply Triple.bind unpackFrom_spec
  intro vals
  apply Triple.of_fact
  rintro ⟨bs, rfl⟩
  refine Triple.ite (fun _ => ?_) fun _ => Triple.pure fun _ h => h
  cases hnew : rescale F ((words n1 bs).map toSigned) ax with
  | none => exact Triple.raise fun _ h => h
  | some new =>
      have hlen : new.length ≤ n1 := by
        simpa [words] using length_rescale hnew
      apply Triple.bind (Q := fun _ => AgreeOn S d₀)
      · apply packValues_spec
        intro i hi hin
        refine hS i hi ⟨by omega, ?_⟩
        have := hroom.2.2
        omega
      · exact fun _ => Triple.pure fun _ h => h

theorem patchRecord_relates {n p stop : ℕ} (hS : ∀ i, p ≤ i → i ∈ S) :
    Relates (AgreeOn S) (fun _ => True) (patchRecord F n p stop) := by
  refine Relates.iterate (I := fun v => p ≤ v.1) ?_ n _ le_rfl
  rintro ⟨q, acc⟩ hq
  have hSq : ∀ i, q ≤ i → i ∈ S := fun i hi => hS i (hq.trans hi)
  refine Relates.ite (fun _ => ?_) fun _ => Relates.pure trivial
  apply Relates.bind
  · exact unpackFrom_relates fun i hi _ => hSq i hi
  rintro ⟨ssz, uuid⟩ _
  refine Relates.ite (fun _ => Relates.pure trivial) fun _ => ?_
  apply Relates.bind
  · exact unpackFrom_relates fun i hi _ => hSq i (by omega)
  rintro ⟨n1, n2, npts⟩ _
  apply Relates.bind (Q := fun _ => True)
  · exact Relates.ite (fun _ => patchParam_relates hSq)
      fun _ => Relates.pure trivial
  · intro new _
    exact Relates.pure (hq.trans (Nat.le_add_right q ssz))

/-- A record is rescaled inside its bounds. -/
theorem patchRecord_spec {n p stop : ℕ}
    (hS : ∀ i ∈ S, ¬ (p ≤ i ∧ i < stop)) :
    Triple (AgreeOn S d₀) (patchRecord F n p stop) (fun _ => AgreeOn S d₀)
      (fun _ => AgreeOn S d₀) := by
  let I : ℕ × List Patched → Bytes → Prop := fun v d =>
    AgreeOn S d₀ d ∧ p ≤ v.1
  suffices hloop : Triple (I (p, [])) (patchRecord F n p stop)
      (fun _ => AgreeOn S d₀) (fun _ => AgreeOn S d₀) from
    hloop.strengthenPre fun d hd => ⟨hd, Nat.le_refl p⟩
  refine Triple.iterate (I := I) ?_ ?_ n _
  swap
  · exact fun _ _ h => h.1
  rintro ⟨q, acc⟩
  apply Triple.of_fact
  intro hq
  refine Triple.ite (fun _ => ?_) fun _ => Triple.pure fun _ h => h
  apply Triple.bind (Q := fun _ => AgreeOn S d₀)
  · exact unpackFrom_spec.consequence (fun _ h => h) (fun _ _ h => h.1)
      fun _ _ h => h
  rintro ⟨ssz, uuid⟩
  refine Triple.ite (fun _ => Triple.pure fun _ h => h) fun hsize => ?_
  apply Triple.bind (Q := fun _ => AgreeOn S d₀)
  · exact unpackFrom_spec.consequence (fun _ h => h) (fun _ _ h => h.1)
      fun _ _ h => h
  rintro ⟨n1, n2, npts⟩
  apply Triple.bind (Q := fun _ => AgreeOn S d₀)
  · refine Triple.ite (fun _ => ?_) fun _ => Triple.pure fun _ h => h
    apply patchParam_spec
    intro i hi hin
    refine hS i hi ⟨hq.trans hin.1, ?_⟩
    simp only [not_or, not_lt] at hsize
    exact lt_of_lt_of_le hin.2 hsize.2
  · exact fun new => Triple.pure fun _ h =>
      ⟨h, hq.trans (Nat.le_add_right q ssz)⟩

theorem patchChain_relates {n start stop : ℕ} (hS : ∀ i, start ≤ i → i ∈ S) :
    Relates (AgreeOn S) (fun _ => True) (patchChain F n start stop) := by
  refine Relates.iterate (I := fun v => start ≤ v.1) ?_ n _ le_rfl
  rintro ⟨off, acc⟩ hoff
  have hSoff : ∀ i, off ≤ i → i ∈ S := fun i hi => hS i (hoff.trans hi)
  refine Relates.ite (fun _ => ?_) fun _ => Relates.pure trivial
  apply Relates.bind
  · exact unpackFrom_relates fun i hi _ => hSoff i hi
  rintro ⟨rsize, nid⟩ _
  refine Relates.ite (fun _ => Relates.pure trivial) fun _ => ?_
  apply Relates.bind (Q := fun _ => True)
  · exact Relates.ite
      (fun _ => patchRecord_relates fun i hi => hSoff i (by omega))
      fun _ => Relates.pure trivial
  · intro new _
    exact Relates.pure (hoff.trans (Nat.le_add_right off rsize))

/-- A chain is rescaled inside its bounds. -/
theorem patchChain_spec {n start stop : ℕ}
    (hS : ∀ i ∈ S, ¬ (start ≤ i ∧ i < stop)) :
    Triple (AgreeOn S d₀) (patchChain F n start stop) (fun _ => AgreeOn S d₀)
      (fun _ => AgreeOn S d₀) := by
  let I : ℕ × List Patched → Bytes → Prop := fun v d =>
    AgreeOn S d₀ d ∧ start ≤ v.1
  suffices hloop : Triple (I (start, [])) (patchChain F n start stop)
      (fun _ => AgreeOn S d₀) (fun _ => AgreeOn S d₀) from
    hloop.strengthenPre fun d hd => ⟨hd, Nat.le_refl start⟩
  refine Triple.iterate (I := I) ?_ ?_ n _
  swap
  · exact fun _ _ h => h.1
  rintro ⟨off, acc⟩
  apply Triple.of_fact
  intro hoff
  refine Triple.ite (fun _ => ?_) fun _ => Triple.pure fun _ h => h
  apply Triple.bind (Q := fun _ => AgreeOn S d₀)
  · exact unpackFrom_spec.consequence (fun _ h => h) (fun _ _ h => h.1)
      fun _ _ h => h
  rintro ⟨rsize, nid⟩
  refine Triple.ite (fun _ => Triple.pure fun _ h => h) fun hsize => ?_
  apply Triple.bind (Q := fun _ => AgreeOn S d₀)
  · refine Triple.ite (fun _ => ?_) fun _ => Triple.pure fun _ h => h
    apply patchRecord_spec
    intro i hi hin
    refine hS i hi ⟨by omega, ?_⟩
    simp only [not_or, not_lt] at hsize
    exact lt_of_lt_of_le hin.2 hsize.2
  · exact fun new => Triple.pure fun _ h =>
      ⟨h, hoff.trans (Nat.le_add_right off rsize)⟩

theorem patchSection_relates {n : ℕ} {s : Section}
    (hS : ∀ i, s.hdr ≤ i → i ∈ S) :
    Relates (AgreeOn S) (fun _ => True) (patchSection F n s) := by
  refine Relates.ite (fun _ => Relates.pure trivial) fun _ => ?_
  apply patchChain_relates
  intro i hi
  exact hS i ((Nat.le_add_right s.hdr 0x18).trans hi)

theorem patchSection_spec {n : ℕ} {s : Section}
    (hS : ∀ i ∈ S, ¬ (s.start ≤ i ∧ i < s.stop)) :
    Triple (AgreeOn S d₀) (patchSection F n s) (fun _ => AgreeOn S d₀)
      (fun _ => AgreeOn S d₀) :=
  Triple.ite (fun _ => Triple.pure fun _ h => h) fun _ => patchChain_spec hS

theorem patchSection_runt {n : ℕ} {s : Section} (h : s.stop ≤ s.start)
    (d : Bytes) : (patchSection F n s d).2 = d := by
  have hall : AgreeOn Set.univ d (patchSection F n s d).2 :=
    Triple.final (patchSection_spec fun i _ hi => by omega) (AgreeOn.refl _ d)
  exact List.ext_getElem? fun i => (hall.get i trivial).symm

end Rescaling

/-! ## All sections -/

section Sections

variable {F : Floats} {n : ℕ} {d d₀ d' : Bytes} {s : Section}
  {ss xs ys : List Section}

/-- The sections are rescaled one after the other. -/
inductive Edited (F : Floats) (n : ℕ) : List Section → Bytes → Bytes → Prop
  | nil (d : Bytes) : Edited F n [] d d
  | cons {s : Section} {ss : List Section} {d d₁ d' : Bytes}
      {new : List Patched} : patchSection F n s d = (.ok new, d₁) →
      Edited F n ss d₁ d' → Edited F n (s :: ss) d d'

/-- The last section whose path is the one looked for. -/
def lastLisp (lisp : Option Section) (ss : List Section) : Option Section :=
  ss.foldl (fun l s => lispHdr s l) lisp

/-- The loop finds the sections of the file as it was. -/
theorem patchSections_finds (m : ℕ) (v : Walk × Option Section × List Patched)
    {r : Option Section × List Patched}
    (hagree : AgreeOn (Set.Ici v.1.p) d₀ d)
    (h : iterate .endless (patchStep F n) m v d = (.ok r, d')) :
    ∃ ss w', Visits nrSectionTags d₀ v.1 ss w' ∧
      walkStep nrSectionTags d₀ w' = .done ∧
      walkFrom nrSectionTags d₀ m v.1 = some ss ∧ Edited F n ss d d' ∧
      r.1 = lastLisp v.2.1 ss := by
  induction m generalizing v d with
  | zero => cases h
  | succ m ih =>
      obtain ⟨w, lisp, acc⟩ := v
      have hstep : walkStep nrSectionTags d w = walkStep nrSectionTags d₀ w :=
        (walkStep_congr hagree).symm
      simp only [iterate, patchStep, bind_apply, gets_apply, id, hstep] at h
      cases hmove : walkStep nrSectionTags d₀ w with
      | done =>
          simp only [hmove, pure_apply, Prod.mk.injEq, Except.ok.injEq] at h
          obtain ⟨rfl, rfl⟩ := h
          exact ⟨[], w, .refl w, hmove, by simp [walkFrom, hmove], .nil d, rfl⟩
      | enter next =>
          simp only [hmove, pure_apply] at h
          have hp := walkStep_enter hmove
          obtain ⟨ss, w', hvisits, hdone, hfuel, hedited, hlast⟩ :=
            ih (next, lisp, acc)
              (hagree.mono fun i (hi : next.p ≤ i) => by
                show w.p ≤ i
                omega) h
          exact ⟨ss, w', .enter hmove hvisits, hdone,
            by simpa only [walkFrom, hmove] using hfuel, hedited, hlast⟩
      | found s next =>
          obtain ⟨-, hhdr, hstop, rfl⟩ := walkStep_found hmove
          simp only [hmove, bind_apply] at h
          cases hpatch : patchSection F n s d with
          | mk out d₁ =>
              rw [hpatch] at h
              cases out with
              | error e => cases h
              | ok new =>
                  have hafter : AgreeOn (Set.Ici s.stop) d d₁ := by
                    have hkeep := Triple.final (patchSection_spec (F := F)
                      (n := n) (S := Set.Ici s.stop) (s := s)
                      fun i (hi : s.stop ≤ i) hin => by omega)
                      (AgreeOn.refl _ d)
                    rwa [hpatch] at hkeep
                  have hbefore : AgreeOn (Set.Ici s.stop) d₀ d :=
                    hagree.mono fun i (hi : s.stop ≤ i) => by
                      show w.p ≤ i
                      omega
                  obtain ⟨ss, w', hvisits, hdone, hfuel, hedited, hlast⟩ :=
                    ih (⟨s.stop, openAt w.p w.path⟩, lispHdr s lisp, acc ++ new)
                      (hbefore.trans hafter) h
                  refine ⟨s :: ss, w', .found hmove hvisits, hdone, ?_,
                    .cons hpatch hedited, hlast⟩
                  simp only [walkFrom, hmove, hfuel, Option.map_some]

theorem Edited.append_iff :
    Edited F n (xs ++ ys) d d' ↔
      ∃ d₁, Edited F n xs d d₁ ∧ Edited F n ys d₁ d' := by
  induction xs generalizing d with
  | nil =>
      constructor
      · exact fun h => ⟨d, .nil d, h⟩
      · rintro ⟨_, ⟨⟩, h⟩
        exact h
  | cons x xs ih =>
      constructor
      · rintro (_ | ⟨hx, hrest⟩)
        obtain ⟨d₁, hxs, hys⟩ := ih.mp hrest
        exact ⟨d₁, .cons hx hxs, hys⟩
      · rintro ⟨d₁, _ | ⟨hx, hxs⟩, hys⟩
        exact .cons hx (ih.mpr ⟨d₁, hxs, hys⟩)

theorem Edited.outside {S : Set ℕ} (h : Edited F n ss d d')
    (hS : ∀ i ∈ S, ∀ s ∈ ss, ¬ (s.start ≤ i ∧ i < s.stop)) :
    AgreeOn S d d' := by
  induction h with
  | nil d => exact AgreeOn.refl S d
  | @cons s ss d d₁ d' new hpatch _ ih =>
      have hfirst := Triple.final (patchSection_spec (F := F) (n := n)
        fun i hi => hS i hi s (by simp)) (AgreeOn.refl S d)
      rw [hpatch] at hfirst
      exact hfirst.trans (ih fun i hi t ht => hS i hi t (by simp [ht]))

/-- A section, rescaled in the file as it was. -/
def rescaled (F : Floats) (n : ℕ) (d : Bytes) (s : Section) : Bytes :=
  (patchSection F n s d).2

/-- Among sections that do not overlap, each is rescaled as if it were the only
one. -/
theorem Edited.at (h : Edited F n (xs ++ s :: ys) d d')
    (hxs : ∀ x ∈ xs, x.stop ≤ s.hdr) (hys : ∀ y ∈ ys, s.stop ≤ y.hdr) :
    AgreeOn (Set.Ico s.hdr (s.stop + 0x18)) (rescaled F n d s) d' := by
  obtain ⟨d₁, hbefore, _ | ⟨hpatch, hafter⟩⟩ := append_iff.mp h
  have hfirst : AgreeOn (Set.Ici s.hdr) d d₁ :=
    hbefore.outside fun i (hi : s.hdr ≤ i) x hx hin => by
      have := hxs x hx
      omega
  have hsame := (patchSection_relates (F := F) (n := n) (s := s)
    (S := Set.Ici s.hdr) fun i hi => hi) d d₁ hfirst
  have hlast := hafter.outside (S := Set.Iio (s.stop + 0x18))
    fun i (hi : i < s.stop + 0x18) y hy hin => by
      have := hys y hy
      simp only [Section.start] at hin
      omega
  rw [hpatch] at hsame
  exact (hsame.2.1.mono fun i hi => hi.1).trans (hlast.mono fun i hi => hi.2)

end Sections

end Aiqb
end SurfaceCameras
