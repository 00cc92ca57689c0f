import SurfaceCameras.Aiqb.DecodedPatch
import Mathlib.Algebra.BigOperators.Group.List.Basic

/-!
# Rescaling a rescaled file

A rescaled file is walked like the original, and its tables are where they
were.  Its black levels are too small for the patch, which checks each one
before it divides it: a second run stops at the first of them, and raises before
anything is written to a file.
-/

namespace SurfaceCameras
namespace Aiqb

open Bytes Prog

/-! ## Walks with an invariant -/

namespace Layout

variable {η α : Type} {L : Layout η} {known : η → Bool} {limit start : ℕ}
  {f : ℕ → η → Script α} {d : Bytes} {I : ℕ → List α → Bytes → Prop}
  {E : Stop → Bytes → Prop}

/-- The rule for a walk whose steps leave the headers to come as they are in
`d`, and none of whose headers is outside the file. -/
theorem forEach_triple (L : Layout η) (known : η → Bool) (limit start : ℕ)
    (f : ℕ → η → Script α)
    (hread : ∀ {p acc d₁}, L.Reaches known limit d start p → I p acc d₁ →
      AgreeOn (Set.Ico p (p + L.len)) d d₁)
    (hinside : ∀ {p}, L.Reaches known limit d start p → ¬ L.Escapes limit d p)
    (hf : ∀ {p acc}, L.Reaches known limit d start p →
      L.Goes known limit d p → Triple (I p acc) (f p (L.elem d p))
        (fun a => I (p + L.size (L.elem d p)) (acc ++ [a])) E) :
    Triple (I start []) (L.forEach known limit f start)
      (fun as d' => ∃ p, L.Reaches known limit d start p ∧
        L.Stops known limit d p ∧ I p as d')
      (fun e d' => e = .endless ∨ E e d') := by
  let J : ℕ × List α → Bytes → Prop := fun v d₁ =>
    L.Reaches known limit d start v.1 ∧ I v.1 v.2 d₁
  have hloop : Triple (J (start, [])) (L.forEach known limit f start)
      (fun as d' => ∃ p, L.Reaches known limit d start p ∧
        L.Stops known limit d p ∧ I p as d')
      (fun e d' => e = .endless ∨ E e d') := by
    refine Triple.iterate (I := J) ?_ (fun _ _ _ => .inl rfl) _ _
    rintro ⟨p, acc⟩ d₁ ⟨hp, hI⟩
    obtain ⟨helem, hgoes, hstops⟩ : _ ∧
      (L.Goes known limit d p ↔ L.Goes known limit d₁ p) ∧ _ :=
      L.goes_congr (hread hp hI)
    obtain hstop | hescape | hgo := stops_or_escapes_or_goes L known limit d₁ p
    · rw [round_stops hstop]
      exact ⟨p, hp, hstops.mpr hstop, hI⟩
    · have hlen := (hread hp hI).length
      exact absurd ⟨hescape.1, hlen ▸ hescape.2⟩ (hinside hp)
    · have hgo' := hgoes.mpr hgo
      have hstep := hf hp hgo' d₁ hI
      rw [helem] at hstep
      rcases hfp : f p (L.elem d₁ p) d₁ with ⟨e | a, d₂⟩
      · rw [hfp] at hstep
        rw [round_goes_error hgo hfp]
        exact .inr hstep
      · rw [hfp] at hstep
        rw [round_goes_ok hgo hfp]
        exact ⟨helem ▸ hp.next hgo', hstep⟩
  exact hloop.strengthenPre fun d₁ hI => ⟨.start, hI⟩

end Layout

/-! ## Records that were rescaled -/

section Records

variable {d d₁ : Bytes} {p q : ℕ}

theorem walk_inside : ¬ recordLayout.Escapes d.length d p := fun h =>
  absurd h.1 (Nat.not_le_of_lt h.2)

/-- What rescaling a record needs and counts, when it comes to the record. -/
theorem rescaleRecord_needs {ns : ℕ × ℕ} (h : AgreeOn (Set.Ici q) d d₁)
    (hspan : ∀ i ∈ recordSpan d q, q ≤ i) {d₂ : Bytes}
    (hrun : rescaleRecord (recordLayout.elem d q) d₁ = (.ok ns, d₂)) :
    (nidAt d q = 3 ∨ nidAt d q = 31 → q + 12 ≤ d.length) ∧
      (nidAt d q = 3 → LevelsFit (q + 8) (numAt d q) d) ∧
      (ns.1 ≠ 0 → nidAt d q = 3 ∧ numAt d q ≠ 0) := by
  obtain ⟨n3, d₃, h3, hrest⟩ := bind_eq_ok hrun
  obtain ⟨n31, d₄, h31, hend⟩ := bind_eq_ok hrest
  obtain ⟨hns, -⟩ := Prod.mk.inj hend
  obtain rfl := Except.ok.inj hns
  by_cases hlevel : nidAt d q = 3
  · have hlevel' : (recordLayout.elem d q).nid = 3 := hlevel
    rw [if_pos hlevel'] at h3
    obtain ⟨num, d', hread, hloop⟩ := bind_eq_ok h3
    obtain ⟨⟨⟩, d'', hrescale, hcount⟩ := bind_eq_ok hloop
    obtain ⟨hroom, rfl, rfl⟩ := unpackFrom_eq_ok hread
    have hnum : word (slice d₁ (q + 8) 4) 0 = numAt d q := by
      have hsame : numAt d q = word d₁ (q + 8) :=
        h.uint_eq fun i hi _ => (Nat.le_add_right q 8).trans hi
      rw [hsame]
      exact uint_slice d₁ (q + 8) (by decide)
    have hoff : (recordLayout.elem d q).off + 8 = q + 8 := rfl
    rw [hoff] at hrescale hcount
    rw [hnum] at hrescale hcount
    have hfit := (levels_local (q + 8) (numAt d q)).needs hrescale
    refine ⟨fun _ => h.length ▸ hroom, fun _ => ?_,
      fun hne => ⟨hlevel, fun hzero => hne ?_⟩⟩
    · refine (levels_local _ _).pre_congr (h.symm.mono fun i hi => ?_) hfit
      exact hspan i (.inl ⟨hlevel, hi⟩)
    · obtain ⟨hn3, -⟩ := Prod.mk.inj hcount
      rw [← Except.ok.inj hn3, hzero]
  · have hlevel' : ¬ (recordLayout.elem d q).nid = 3 := hlevel
    rw [if_neg hlevel'] at h3
    obtain ⟨hn3, rfl⟩ := Prod.mk.inj h3
    refine ⟨fun hnid => ?_, fun h3 => absurd h3 hlevel,
      fun hne => absurd (Except.ok.inj hn3).symm hne⟩
    have hglobal : (recordLayout.elem d q).nid = 31 := hnid.resolve_left hlevel
    rw [if_pos hglobal] at h31
    obtain ⟨num, d', hread, -⟩ := bind_eq_ok h31
    exact h.length ▸ (unpackFrom_eq_ok hread).1

/-- A run that comes to its end has rescaled every black level, each of which it
could rescale, and counted only those. -/
theorem rescaleRecords_needs {counts : List (ℕ × ℕ)} (hin : LutsInside d)
    (h : rescaleRecords d.length d = (.ok counts, d₁)) :
    (∀ q, Walked d q →
        (nidAt d q = 3 ∨ nidAt d q = 31 → q + 12 ≤ d.length) ∧
          (nidAt d q = 3 → LevelsFit (q + 8) (numAt d q) d)) ∧
      ((∃ ns ∈ counts, ns.1 ≠ 0) →
        ∃ q, Walked d q ∧ nidAt d q = 3 ∧ numAt d q ≠ 0) := by
  let I : ℕ → List (ℕ × ℕ) → Bytes → Prop := fun p acc d₁ =>
    Rescaled d p d₁ ∧
      (∀ q, Walked d q → q + sizeAt d q ≤ p →
        (nidAt d q = 3 ∨ nidAt d q = 31 → q + 12 ≤ d.length) ∧
          (nidAt d q = 3 → LevelsFit (q + 8) (numAt d q) d)) ∧
      ((∃ ns ∈ acc, ns.1 ≠ 0) →
        ∃ q, Walked d q ∧ nidAt d q = 3 ∧ numAt d q ≠ 0)
  have hwalk := Layout.forEach_triple recordLayout knownName d.length 0x50
    (fun _ => rescaleRecord) (d := d) (I := I) (E := fun _ _ => True)
    (fun _ hI => (hI.1.ahead hin).mono fun i hi => hi.1)
    (fun _ => walk_inside) fun {p acc} hp hgo d₁ hI => by
      obtain ⟨hdone, hfits, hcounted⟩ := hI
      rcases hrun : rescaleRecord (recordLayout.elem d p) d₁ with ⟨e | ns, d₂⟩
      · trivial
      have hahead := hdone.ahead hin
      obtain ⟨hkeep, hscaled⟩ := rescaleRecord_ahead hahead hrun
      obtain ⟨hroom, hneeds, hcount⟩ := rescaleRecord_needs hahead
        (fun i hi => (Nat.le_add_right p 20).trans (recordSpan_late hi)) hrun
      refine ⟨hdone.next hin ⟨hp, hgo⟩ hkeep hscaled, fun q hq hle => ?_, ?_⟩
      · obtain hle' | hend := hq.1.apart hq.2 hp
        · obtain hpq | hend' := hp.apart hgo hq.1
          · obtain rfl := le_antisymm hpq hle'
            exact ⟨hroom, hneeds⟩
          · have hadvances := hq.2.advances
            change q < q + sizeAt d q at hadvances
            change p + sizeAt d p ≤ q at hend'
            change q + sizeAt d q ≤ p + sizeAt d p at hle
            omega
        · exact hfits q hq hend
      · rintro ⟨ns', hmem, hne⟩
        obtain hmem | hmem := List.mem_append.mp hmem
        · exact hcounted ⟨ns', hmem, hne⟩
        · obtain rfl := List.mem_singleton.mp hmem
          exact ⟨p, ⟨hp, hgo⟩, hcount hne⟩
  have hstart : Rescaled d 0x50 d := Rescaled.start d fun q hq =>
    Nat.lt_of_le_of_lt hq.1.le hq.2.advances
  have hend := hwalk d ⟨hstart,
    fun q hq hle => absurd (Nat.lt_of_le_of_lt hq.1.le hq.2.advances)
      (Nat.not_lt_of_le hle),
    fun ⟨_, hmem, _⟩ => absurd hmem List.not_mem_nil⟩
  have hrun : recordLayout.forEach knownName d.length (fun _ => rescaleRecord)
      0x50 d = (.ok counts, d₁) := h
  rw [hrun] at hend
  obtain ⟨p, hp, hstop, -, hfits, hcounted⟩ := hend
  exact ⟨fun q hq => hfits q hq (hq.1.le_stop hq.2 hp hstop), hcounted⟩

end Records

/-! ## Black levels that are too small -/

section Refused

variable {d : Bytes} {F : Field} {p body num : ℕ} {S : Set ℕ}

/-- A field in the file is rescaled, or refused. -/
theorem rescaleField_triple (hroom : p + F.width ≤ d.length)
    (hS : ∀ i ∈ S, ¬ (p ≤ i ∧ i < p + F.width)) :
    Triple (AgreeOn S d) (rescaleField F p) (fun _ => AgreeOn S d)
      (fun e _ => e = .assertion) := by
  intro d₁ h
  have hroom' : p + F.width ≤ d₁.length := h.length ▸ hroom
  rcases hrun : rescaleField F p d₁ with ⟨e | ⟨⟩, d₂⟩
  · rw [rescaleField, bind_ok (unpackFrom_ok _ hroom')] at hrun
    by_cases hfits : F.fits (uint (slice d₁ p F.width) 0 F.width) = false
    · rw [when_pos hfits] at hrun
      exact (Except.error.inj (Prod.mk.inj hrun).1).symm
    · rw [when_neg hfits, bind_ok (pure_apply _ d₁)] at hrun
      rw [packInto_ok (by rwa [length_toLe])] at hrun
      cases hrun
  · obtain ⟨-, hkeep, -⟩ := (rescaleField_local F p).outcome hrun
    exact h.trans (hkeep.mono fun i hi hin => hS i hi hin)

theorem checkGlobalLut_triple (hroom : p + 8 ≤ d.length) :
    Triple (AgreeOn S d) (checkGlobalLut p) (fun _ => AgreeOn S d)
      (fun e _ => e = .assertion) := by
  intro d₁ h
  have hlen := h.length
  rw [checkGlobalLut, bind_ok (unpackFrom_ok _ (by omega)),
    bind_ok (unpackFrom_ok _ (by omega))]
  by_cases hfits : globalLutFits (word (slice d₁ p 4) 0)
      (word (slice d₁ (p + 4) 4) 0) = false
  · rw [when_pos hfits]
    rfl
  · rw [when_neg hfits]
    exact h

/-- The tables of a global black level are rescaled, or one of them is
refused. -/
theorem rescaleGlobals_triple (body num : ℕ)
    (hroom : ∀ i < num, globalLutAt body i + 72 ≤ d.length)
    (hS : ∀ i ∈ S, i ∉ globalSpan body num) :
    Triple (AgreeOn S d) (rescaleGlobals body num) (fun _ => AgreeOn S d)
      (fun e _ => e = .assertion) := by
  refine Triple.forEach _ fun i hi => ?_
  have hi := List.mem_range.mp hi
  have hlut := hroom i hi
  refine Triple.bind (checkGlobalLut_triple (by omega)) fun _ => ?_
  refine Triple.forEach _ fun c hc => ?_
  have hc := List.mem_range.mp hc
  have hwidth : floatField.width = 4 := rfl
  refine rescaleField_triple (by omega) fun k hk hspan => hS k hk ⟨i, hi, ?_⟩
  exact ⟨by omega, by omega⟩

theorem forEach_range_error {f : ℕ → Script Unit} {e : Stop} (hnum : num ≠ 0)
    (hf : f 0 d = (.error e, d)) : forEach f (List.range num) d = (.error e, d) := by
  obtain ⟨num, rfl⟩ := Nat.exists_eq_succ_of_ne_zero hnum
  rw [Nat.succ_eq_add_one, List.range_succ_eq_map, forEach_cons]
  exact bind_error hf

/-- A level that is too small is refused. -/
theorem rescaleLevels_refuses (hnum : num ≠ 0)
    (hroom : levelAt body 0 0 + 2 ≤ d.length)
    (hsmall : uint d (levelAt body 0 0) 2 ≤ 12000) :
    rescaleLevels body num d = (.error .assertion, d) := by
  have hread : uint (slice d (levelAt body 0 0) 2) 0 2 =
      uint d (levelAt body 0 0) 2 := uint_slice d _ (by decide)
  have hfits : levelField.fits (uint d (levelAt body 0 0) 2) = false :=
    decide_eq_false fun h => Nat.not_lt_of_le hsmall h.1
  have hfield : rescaleField levelField (levelAt body 0 0) d =
      (.error .assertion, d) := by
    have hwidth : levelField.width = 2 := rfl
    rw [rescaleField, hwidth, bind_ok (unpackFrom_ok _ hroom), hread,
      when_pos hfits]
    rfl
  have htable : forEach (fun c => rescaleField levelField (levelAt body 0 c))
      (List.range 4) d = (.error .assertion, d) :=
    forEach_range_error (by decide) hfield
  exact forEach_range_error hnum htable

theorem quarter_le {v : ℕ} (hv : levelField.fits v = true) :
    quarter v ≤ 12000 := by
  have hv : 12000 < v ∧ v < 20000 := of_decide_eq_true hv
  rw [quarter]
  split <;> omega

end Refused

/-! ## The second run -/

section Twice

variable {d out d₁ : Bytes} {p q : ℕ}

section Same

variable (hpatch : patchBlc d = (.ok (), out)) (hin : LutsInside d)

include hpatch hin

theorem patchBlc_walked : Walked out q ↔ Walked d q := by
  have hkept := patchBlc_kept hpatch hin
  have hreach : recordLayout.Reaches knownName out.length out 0x50 q ↔
      recordLayout.Reaches knownName d.length d 0x50 q := by
    rw [← hkept.length]
    exact (Layout.reaches_iff fun p hp => patchBlc_head hpatch hin hp).symm
  constructor
  · rintro ⟨hq, hgo⟩
    have hq' := hreach.mp hq
    rw [← hkept.length] at hgo
    obtain ⟨-, hgoes⟩ := Layout.goes_iff (L := recordLayout) knownName d.length
      (patchBlc_head hpatch hin hq')
    exact ⟨hq', hgoes.mpr hgo⟩
  · rintro ⟨hq, hgo⟩
    obtain ⟨-, hgoes⟩ := Layout.goes_iff (L := recordLayout) knownName d.length
      (patchBlc_head hpatch hin hq)
    refine ⟨hreach.mpr hq, ?_⟩
    rw [← hkept.length]
    exact hgoes.mp hgo

theorem patchBlc_record (hq : Walked d q) :
    recordLayout.elem out q = recordLayout.elem d q ∧
      numAt out q = numAt d q := by
  have hhead := patchBlc_header hpatch hin hq
  constructor
  · exact (congrArg (recordLayout.read q)
      (hhead.slice_eq fun i hi hi' => ⟨hi, hi'.trans (by
        change q + 8 < q + 12
        omega)⟩)).symm
  · exact (hhead.uint_eq fun i hi hi' => ⟨by omega, by omega⟩).symm

theorem patchBlc_lutsInside : LutsInside out := by
  intro q hq
  have hq' := (patchBlc_walked hpatch hin).mp hq
  obtain ⟨helem, hnum⟩ := patchBlc_record hpatch hin hq'
  rw [nidAt, sizeAt, helem, hnum]
  exact hin q hq'

/-- Every black level of the rescaled file is too small. -/
theorem patchBlc_small (hq : Walked d q) (hnid : nidAt d q = 3)
    (hnum : numAt d q ≠ 0) :
    levelAt (q + 8) 0 0 + 2 ≤ out.length ∧
      uint out (levelAt (q + 8) 0 0) 2 ≤ 12000 := by
  obtain ⟨counts, d₁, d₂, hrun⟩ := patchBlc_run hpatch
  obtain ⟨hfits, -⟩ := rescaleRecords_needs hin hrun.records
  obtain ⟨-, hscaled⟩ := rescaleRecords_ok hin hrun.records
  have hpos := Nat.pos_of_ne_zero hnum
  have hfit : FieldFits levelField (levelAt (q + 8) 0 0) d :=
    (hfits q hq).2 hnid 0 hpos 0 (by decide)
  have hlevel : FieldScaled levelField (levelAt (q + 8) 0 0) d d₁ :=
    hscaled q hq hnid 0 hpos 0 (by decide)
  have hstart : 0x50 ≤ q := hq.1.le
  have hsame : uint d₁ (levelAt (q + 8) 0 0) 2 =
      uint out (levelAt (q + 8) 0 0) 2 :=
    hrun.kept.uint_eq fun i hi hi' => by
      rw [levelAt] at hi
      exact ⟨by omega, by omega⟩
  rw [← (patchBlc_kept hpatch hin).length, ← hsame]
  exact ⟨hfit.1, hlevel.trans_le (quarter_le hfit.2)⟩

end Same

theorem countedLuts_num (k : ℕ) (loop : ℕ → Script Unit) {body num : ℕ} {d : Bytes}
    (hroom : body + 4 ≤ d.length) (hnum : word d body = num) :
    countedLuts k loop body d =
      (loop num >>= fun _ => pure (k * num) : Script ℕ) d := by
  have hread : word (slice d body 4) 0 = num :=
    (uint_slice d body (by decide)).trans hnum
  rw [countedLuts, bind_ok (unpackFrom_ok _ hroom), hread]

/-- What is done to a record of a file whose black levels are too small. -/
theorem rescaleRecord_again (hin : LutsInside out) (hq : Walked out q)
    (hroom : nidAt out q = 3 ∨ nidAt out q = 31 → q + 12 ≤ out.length)
    (hsmall : nidAt out q = 3 → numAt out q ≠ 0 →
      levelAt (q + 8) 0 0 + 2 ≤ out.length ∧
        uint out (levelAt (q + 8) 0 0) 2 ≤ 12000) :
    Triple (AgreeOn (Set.Ici q) out) (rescaleRecord (recordLayout.elem out q))
      (fun _ d => AgreeOn (Set.Ici (q + sizeAt out q)) out d ∧
        (nidAt out q = 3 → numAt out q = 0))
      (fun e _ => e = .assertion) := by
  intro d h
  have hlater : AgreeOn (Set.Ici (q + sizeAt out q)) out d :=
    h.mono fun i hi => (Nat.le_add_right q _).trans hi
  have hnum : word d (q + 8) = numAt out q :=
    (h.uint_eq fun i hi _ => (Nat.le_add_right q 8).trans hi).symm
  rw [h.length] at hroom
  by_cases hlevel : nidAt out q = 3
  · have hlevel' : (recordLayout.elem out q).nid = 3 := hlevel
    have hcount := countedLuts_num 4 (rescaleLevels (q + 8))
      (hroom (.inl hlevel)) hnum
    by_cases hzero : numAt out q = 0
    · have hnone : cmcBlackLevel ((recordLayout.elem out q).off + 8) d =
          (.ok 0, d) := by
        rw [hzero] at hcount
        exact hcount
      rw [rescaleRecord_levels hlevel' hnone]
      exact ⟨hlater, fun _ => hzero⟩
    · obtain ⟨hinside, hlow⟩ := hsmall hlevel hzero
      have hread : uint out (levelAt (q + 8) 0 0) 2 =
          uint d (levelAt (q + 8) 0 0) 2 := h.uint_eq fun i hi _ => by
        change q ≤ i
        rw [levelAt] at hi
        omega
      rw [h.length] at hinside
      rw [hread] at hlow
      have herror : cmcBlackLevel ((recordLayout.elem out q).off + 8) d =
          (.error .assertion, d) :=
        hcount.trans (bind_error (rescaleLevels_refuses hzero hinside hlow))
      rw [rescaleRecord, if_pos hlevel', bind_error herror]
      rfl
  · have hlevel' : (recordLayout.elem out q).nid ≠ 3 := hlevel
    by_cases hglobal : nidAt out q = 31
    · have hglobal' : (recordLayout.elem out q).nid = 31 := hglobal
      have hcount := countedLuts_num 16 (rescaleGlobals (q + 8))
        (hroom (.inr hglobal)) hnum
      have hend : q + sizeAt out q ≤ out.length := hq.2.taken.2.1
      have hinside := (hin q hq).2 hglobal
      have hloop := rescaleGlobals_triple (d := out)
        (S := Set.Ici (q + sizeAt out q)) (q + 8) (numAt out q)
        (fun i hi => by
          rw [globalLutAt]
          omega)
        (fun i (hi : q + sizeAt out q ≤ i) hspan => by
          have hlast := (hin.span hq (.inr ⟨hglobal, hspan⟩)).2
          omega) d hlater
      rcases hrun : rescaleGlobals (q + 8) (numAt out q) d with ⟨e | ⟨⟩, d₁⟩
      · rw [hrun] at hloop
        have herror : cmcBlackLevelGlobal ((recordLayout.elem out q).off + 8) d =
            (.error e, d₁) := hcount.trans (bind_error hrun)
        rw [rescaleRecord, if_neg hlevel', bind_ok (pure_apply _ d),
          if_pos hglobal', bind_error herror]
        exact hloop
      · rw [hrun] at hloop
        have hdone : cmcBlackLevelGlobal ((recordLayout.elem out q).off + 8) d =
            (.ok (16 * numAt out q), d₁) := hcount.trans (bind_ok hrun)
        rw [rescaleRecord_globals hglobal' hdone]
        exact ⟨hloop, fun h3 => absurd h3 hlevel⟩
    · have hglobal' : (recordLayout.elem out q).nid ≠ 31 := hglobal
      rw [rescaleRecord_other hlevel' hglobal']
      exact ⟨hlater, fun h3 => absurd h3 hlevel⟩

/-- Rescaling a record has no loop without a bound. -/
theorem rescaleRecord_ne_endless (r : Record) (d : Bytes) :
    (rescaleRecord r d).1 ≠ .error .endless := by
  have hread : ∀ {α : Type} (p n : ℕ) (fields : Bytes → α),
      Keeps (Frame.fixing fun _ : Bytes => ()) (· ≠ .endless)
        (unpackFrom p n fields) := by
    intro α p n fields
    refine (unpackFrom_reads p n fields).mono (fun _ _ _ => rfl) ?_
    rintro e rfl
    decide
  have hfield : ∀ F p, Keeps (Frame.fixing fun _ : Bytes => ()) (· ≠ .endless)
      (rescaleField F p) := by
    intro F p
    refine Keeps.bind (hread _ _ _) fun v =>
      Keeps.bind (Keeps.when (Keeps.raise (by decide))) fun _ => ?_
    exact Keeps.bind (Keeps.gets _) fun _ =>
      Keeps.bind (Keeps.when (Keeps.raise (by decide))) fun _ =>
        Keeps.modify fun _ => rfl
  have hcounted : ∀ k loop body, (∀ num, Keeps (Frame.fixing fun _ : Bytes => ())
      (· ≠ .endless) (loop num)) → Keeps (Frame.fixing fun _ : Bytes => ())
        (· ≠ .endless) (countedLuts k loop body) :=
    fun k loop body hloop => Keeps.bind (hread _ _ _) fun num =>
      Keeps.bind (hloop num) fun _ => Keeps.pure _
  have hlevels : ∀ body num, Keeps (Frame.fixing fun _ : Bytes => ())
      (· ≠ .endless) (rescaleLevels body num) := fun body num =>
    Keeps.forEach _ fun i _ => Keeps.forEach _ fun c _ => hfield _ _
  have hglobals : ∀ body num, Keeps (Frame.fixing fun _ : Bytes => ())
      (· ≠ .endless) (rescaleGlobals body num) := fun body num =>
    Keeps.forEach _ fun i _ => Keeps.bind
      (Keeps.bind (hread _ _ _) fun e => Keeps.bind (hread _ _ _) fun g =>
        Keeps.when (Keeps.raise (by decide)))
      fun _ => Keeps.forEach _ fun c _ => hfield _ _
  have hall : Keeps (Frame.fixing fun _ : Bytes => ()) (· ≠ .endless)
      (rescaleRecord r) :=
    Keeps.bind (Keeps.ite (hcounted _ _ _ (hlevels _)) (Keeps.pure _))
      fun n3 => Keeps.bind (Keeps.ite (hcounted _ _ _ (hglobals _))
        (Keeps.pure _)) fun n31 => Keeps.pure _
  exact fun herror => hall.error (Prod.ext herror rfl) rfl

/-- The loop over the records of a rescaled file is left at a black level. -/
theorem rescaleRecords_again (hpatch : patchBlc d = (.ok (), out))
    (hin : LutsInside d) :
    (rescaleRecords out.length out).1 = .error .assertion := by
  have hin' := patchBlc_lutsInside hpatch hin
  have hlen := (patchBlc_kept hpatch hin).length
  obtain ⟨counts, d₁, d₂, hrun⟩ := patchBlc_run hpatch
  obtain ⟨hneeds, hcounted⟩ := rescaleRecords_needs hin hrun.records
  -- One of the hundred levels belongs to a record with a table.
  obtain ⟨q, hq, hnid, hnum⟩ : ∃ q, Walked d q ∧ nidAt d q = 3 ∧
      numAt d q ≠ 0 := by
    refine hcounted ?_
    by_contra hnone
    have hzero : (counts.map Prod.fst).sum = 0 := by
      refine List.sum_eq_zero fun n hn => ?_
      obtain ⟨ns, hns, rfl⟩ := List.mem_map.mp hn
      exact not_not.mp fun hne => hnone ⟨ns, hns, hne⟩
    rw [hrun.levels] at hzero
    cases hzero
  let I : ℕ → List (ℕ × ℕ) → Bytes → Prop := fun p _ d =>
    AgreeOn (Set.Ici p) out d ∧ ∀ q, Walked out q → q + sizeAt out q ≤ p →
      nidAt out q = 3 → numAt out q = 0
  have hwalk := Layout.forEach_triple recordLayout knownName out.length 0x50
    (fun _ => rescaleRecord) (d := out) (I := I) (E := fun e _ => e = .assertion)
    (fun _ hI => hI.1.mono fun i hi => hi.1)
    (fun _ => walk_inside) fun {p acc} hp hgo => by
      have hp' := (patchBlc_walked hpatch hin).mp ⟨hp, hgo⟩
      obtain ⟨helem, hsame⟩ := patchBlc_record hpatch hin hp'
      have hstep := rescaleRecord_again hin' ⟨hp, hgo⟩
        (by
          rw [nidAt, helem, ← hlen]
          exact (hneeds p hp').1)
        (by
          rw [nidAt, helem, hsame]
          exact patchBlc_small hpatch hin hp')
      intro d' hI
      have hout := hstep d' hI.1
      rcases hrecord : rescaleRecord (recordLayout.elem out p) d' with
        ⟨e | ns, d''⟩
      · rw [hrecord] at hout
        exact hout
      · rw [hrecord] at hout
        refine ⟨hout.1, fun q hq hle hnid => ?_⟩
        obtain hle' | hend := hq.1.apart hq.2 hp
        · obtain hpq | hend' := hp.apart hgo hq.1
          · obtain rfl := le_antisymm hpq hle'
            exact hout.2 hnid
          · have hadvances := hq.2.advances
            change q < q + sizeAt out q at hadvances
            change p + sizeAt out p ≤ q at hend'
            change q + sizeAt out q ≤ p + sizeAt out p at hle
            omega
        · exact hI.2 q hq hend hnid
  have hend := hwalk out ⟨AgreeOn.refl _ out, fun q hq hle =>
    absurd (Nat.lt_of_le_of_lt hq.1.le hq.2.advances) (Nat.not_lt_of_le hle)⟩
  have hends : (rescaleRecords out.length out).1 ≠ .error .endless :=
    Layout.forEach_ends (fun _ r => rescaleRecord_ne_endless r) 0x50 out
  rw [rescaleRecords] at hends ⊢
  rcases hagain : recordLayout.forEach knownName out.length
    (fun _ => rescaleRecord) 0x50 out with ⟨e | counts', d'⟩
  · rw [hagain] at hend hends
    obtain rfl | he := hend
    · exact absurd rfl hends
    · exact congrArg Except.error he
  · rw [hagain] at hend
    obtain ⟨p, hp, hstop, -, hnone⟩ := hend
    have hq' := (patchBlc_walked hpatch hin).mpr hq
    obtain ⟨helem, hsame⟩ := patchBlc_record hpatch hin hq
    have hzero := hnone q hq' (hq'.1.le_stop hq'.2 hp hstop)
      (by rw [nidAt, helem]; exact hnid)
    exact absurd (hsame.symm.trans hzero) hnum

/-- A rescaled file has its tables where they were, and is not rescaled
again. -/
theorem patchBlc_refuses (d out : Bytes) (hpatch : patchBlc d = (.ok (), out))
    (hin : LutsInside d) :
    LutsInside out ∧ (patchBlc out).1 = .error .assertion := by
  refine ⟨patchBlc_lutsInside hpatch hin, ?_⟩
  obtain ⟨counts, d₁, d₂, hrun⟩ := patchBlc_run hpatch
  have hmagic : slice out 0 4 = ascii "CPFF" := by
    rw [← hrun.magic]
    refine ((patchBlc_kept hpatch hin).slice_eq fun i _ hi => ?_).symm
    refine ⟨⟨by omega, by omega⟩, fun q hq hspan => ?_⟩
    have hstart : 0x50 ≤ q := hq.1.le
    have hlate := recordSpan_late hspan
    omega
  have hrecords := rescaleRecords_again hpatch hin
  rw [patchBlc, bind_ok (gets_apply _ out), when_neg (not_not.mpr hmagic),
    bind_ok (pure_apply _ out), bind_ok (gets_apply _ out),
    bind_error (Prod.ext hrecords rfl)]

/-- A second run over the file with a record of each kind is refused. -/
theorem patchBlc_refuses_tuningFile :
    ∃ out, patchBlc (tuningFile 412) = (.ok (), out) ∧
      LutsInside out ∧ (patchBlc out).1 = .error .assertion := by
  obtain ⟨out, hout⟩ := tuningFile_whole
  exact ⟨out, hout,
    patchBlc_refuses (tuningFile 412) out hout tuningFile_lutsInside⟩

end Twice

end Aiqb
end SurfaceCameras
