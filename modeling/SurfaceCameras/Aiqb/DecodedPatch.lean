import SurfaceCameras.Aiqb.BlackLevelPatch
import SurfaceCameras.Aiqb.SameRecords

/-!
# Decoding a rescaled file

In a tuning file whose first section is filled with records, and whose tables
are inside their records, `patch_aiqb_blc` leaves every byte that the decoder
looks at as it was, but for the black levels.  Every mode of the decoder then
shows of the rescaled file what it showed of the original, with a quarter of
each black level.
-/

namespace SurfaceCameras
namespace Aiqb

open Bytes Prog

/-! ## What the patch leaves -/

section Kept

variable {d out : Bytes} {p q n i : ℕ}

theorem patchBlc_kept (h : patchBlc d = (.ok (), out)) (hin : LutsInside d) :
    AgreeOn {i | (¬ (0x14 ≤ i ∧ i < 0x18) ∧ ¬ (0x4c ≤ i ∧ i < 0x50)) ∧
      ∀ q, Walked d q → i ∉ recordSpan d q} d out := by
  obtain ⟨counts, d₁, d₂, hrun⟩ := patchBlc_run h
  obtain ⟨hrecords, -⟩ := rescaleRecords_ok hin hrun.records
  exact (hrecords.mono fun i hi => hi.2).trans (hrun.kept.mono fun i hi => hi.1)

theorem recordSpan_late (hi : i ∈ recordSpan d q) : q + 20 ≤ i := by
  obtain ⟨-, k, -, c, -, hlo, -⟩ | ⟨-, k, -, hlo, -⟩ := hi
  · rw [levelAt] at hlo
    omega
  · rw [globalLutAt] at hlo
    omega

/-- Of a record that is no black level nothing may change, nor of what follows
it, as far as the header of the next record and the number of its tables. -/
theorem LutsInside.other (hin : LutsInside d) (hq : Walked d q)
    (hnid : nidAt d q ≠ 3 ∧ nidAt d q ≠ 31) (hlo : q ≤ i)
    (hhi : i < q + sizeAt d q + 20) {q' : ℕ} (hq' : Walked d q') :
    i ∉ recordSpan d q' := by
  intro hi
  have hlate := recordSpan_late hi
  obtain hle | hend := hq'.1.apart hq'.2 hq.1
  · obtain hle' | hend' := hq.1.apart hq.2 hq'.1
    · obtain rfl := le_antisymm hle' hle
      obtain ⟨h3, -⟩ | ⟨h31, -⟩ := hi
      · exact hnid.1 h3
      · exact hnid.2 h31
    · change q + sizeAt d q ≤ q' at hend'
      omega
  · have hspan := (hin.span hq' hi).2
    change q' + sizeAt d q' ≤ q at hend
    omega

variable (hpatch : patchBlc d = (.ok (), out)) (hin : LutsInside d)

include hpatch hin

/-- The header of a record, and the number of its tables, are as they were. -/
theorem patchBlc_header (hq : Walked d q) :
    AgreeOn (Set.Ico q (q + 12)) d out := by
  refine (patchBlc_kept hpatch hin).mono fun i hi => ?_
  have hstart : 0x50 ≤ q := hq.1.le
  have hlo : q ≤ i := hi.1
  exact ⟨⟨by omega, by omega⟩, fun q' hq' => hin.header hq hq' hlo hi.2⟩

theorem patchBlc_other (hq : Walked d q)
    (hnid : nidAt d q ≠ 3 ∧ nidAt d q ≠ 31) :
    AgreeOn (Set.Ico q (q + sizeAt d q + 20)) d out := by
  refine (patchBlc_kept hpatch hin).mono fun i hi => ?_
  have hstart : 0x50 ≤ q := hq.1.le
  have hlo : q ≤ i := hi.1
  exact ⟨⟨by omega, by omega⟩, fun q' hq' => hin.other hq hnid hlo hi.2 hq'⟩

/-- Wherever the walk without a limit leads, it finds the header as it was. -/
theorem patchBlc_head (hp : recordLayout.Reaches knownName d.length d 0x50 p) :
    AgreeOn (Set.Ico p (p + 8)) d out := by
  by_cases hgo : recordLayout.Goes knownName d.length d p
  · refine (patchBlc_header hpatch hin ⟨hp, hgo⟩).mono fun i hi => ⟨hi.1, ?_⟩
    exact hi.2.trans (Nat.add_lt_add_left (by decide) p)
  · -- The walk is over at `p`, so that every record lies before it.
    refine (patchBlc_kept hpatch hin).mono fun i hi => ?_
    have hstart : 0x50 ≤ p := hp.le
    have hlo : p ≤ i := hi.1
    refine ⟨⟨by omega, by omega⟩, fun q hq hspan => ?_⟩
    have hlast := (hin.span hq hspan).2
    obtain hle | hend := hq.1.apart hq.2 hp
    · obtain hpq | hqp := hp.total hq.1
      · obtain rfl | ⟨hgo', -⟩ := hpq.head
        · exact hgo hq.2
        · exact hgo hgo'
      · obtain rfl := le_antisymm hle hqp.le
        exact hgo hq.2
    · change q + sizeAt d q ≤ p at hend
      omega

variable (hfirst : FirstFilled d)

include hfirst

theorem patchBlc_after : AgreeOn (Set.Ici (0x38 + word d 0x3c)) d out := by
  refine (patchBlc_kept hpatch hin).mono fun i (hi : 0x38 + word d 0x3c ≤ i) => ?_
  have hstart := hfirst.start_le
  refine ⟨⟨by omega, by omega⟩, fun q hq hspan => ?_⟩
  have hend := hfirst.walked_le hq
  have hlast := (hin.span hq hspan).2
  omega

/-- The rescaled file is listed like the original. -/
theorem patchBlc_sameListing : SameListing d out := by
  have hafter := patchBlc_after hpatch hin hfirst
  have hstart := hfirst.start_le
  refine ⟨⟨hafter.length, ?_, ?_⟩, ?_⟩
  · intro ss w hvisits
    -- The headers before the first record stand apart from both checksums.
    have hfront : AgreeOn (Set.Ico 0x18 0x4c) d out := by
      refine (patchBlc_kept hpatch hin).mono fun i hi => ?_
      have hlo : 0x18 ≤ i := hi.1
      have hhi : i < 0x4c := hi.2
      refine ⟨⟨by omega, by omega⟩, fun q hq hspan => ?_⟩
      have hq' : 0x50 ≤ q := hq.1.le
      have hlate := recordSpan_late hspan
      omega
    obtain hw | hw | ⟨hw, -⟩ | hw := hfirst.visits_cases (List.Subset.refl _) hvisits
    · exact hfront.slice_eq fun i hi hi' => ⟨by omega, by omega⟩
    · exact hfront.slice_eq fun i hi hi' => ⟨by omega, by omega⟩
    · exact hfront.slice_eq fun i hi hi' => ⟨by omega, by omega⟩
    · exact hafter.slice_eq fun i hi _ => hw.trans hi
  · intro s hs p hp _
    obtain ⟨hhdr, hstop, -⟩ | ⟨hlate, -⟩ := hfirst.finds_cases (List.Subset.refl _) hs
    · rw [Section.start, hhdr, hstop] at hp
      obtain rfl | ⟨hwalked, -⟩ := hfirst.chain hp
      · exact hafter.slice_eq fun i hi _ => hi
      · exact (patchBlc_head hpatch hin hwalked.1).slice_eq
          fun i hi hi' => ⟨hi, hi'⟩
    · have hle := hp.le
      rw [Section.start] at hle
      exact hafter.slice_eq fun i hi _ => by
        change 0x38 + word d 0x3c ≤ i
        omega
  · intro s hs hlisp p hp q hq _
    obtain ⟨-, -, hpath⟩ | ⟨hlate, -⟩ := hfirst.finds_cases (List.Subset.refl _) hs
    · have hnone : ∀ path ∈ ["LCMC/DFLT", "LCMC", "DFLT", ""],
          path.startsWith "LISP" = false := by decide +kernel
      rw [hnone _ hpath] at hlisp
      cases hlisp
    · have hle := hp.start_le
      have hle' := hq.le
      rw [Section.start] at hle
      have hsame : ∀ {k m}, q ≤ k → slice d k m = slice out k m := fun hk =>
        hafter.slice_eq fun i hi _ => by
          change 0x38 + word d 0x3c ≤ i
          omega
      exact ⟨hsame le_rfl, fun _ => ⟨hsame (by omega), hsame (by omega)⟩⟩

end Kept
/-! ## What is decoded -/

section Decoded

variable {d out : Bytes} {q n : ℕ}

section Files

variable (hpatch : patchBlc d = (.ok (), out)) (hin : TablesInside d)

include hpatch hin

theorem patchBlc_sameRecords : SameRecords d out where
  length := (patchBlc_kept hpatch hin.luts).length
  heads p hp _ := (patchBlc_head hpatch hin.luts hp).slice_eq
    fun i hi hi' => ⟨hi, hi'⟩
  others q hq hnid := by
    have hsame := patchBlc_other hpatch hin.luts hq hnid
    rwa [Nat.add_assoc] at hsame

/-- Black levels are decoded to a quarter. -/
theorem decodeBlackLevel_patchBlc {γ : Type} (again level : ℕ → γ)
    (hq : Walked d q) (hnid : nidAt d q = 3) :
    Mirrors d out Eq (decodeBlackLevel again (level ∘ quarter) q)
      (decodeBlackLevel again level q) := by
  obtain ⟨counts, d₁, d₂, hrun⟩ := patchBlc_run hpatch
  obtain ⟨-, hscaled⟩ := rescaleRecords_ok hin.luts hrun.records
  have hlevels : LevelsScaled (q + 8) (numAt d q) d out := by
    refine (levels_local _ _).effect_congr (AgreeOn.refl _ d) ?_
      (hscaled q hq hnid)
    refine hrun.kept.mono fun i hi => ?_
    have hlate := recordSpan_late (.inl ⟨hnid, hi⟩)
    have hstart : 0x50 ≤ q := hq.1.le
    exact ⟨by omega, by omega⟩
  have hhead := patchBlc_header hpatch hin.luts hq
  have hnum : word out (q + 8) = word d (q + 8) :=
    (hhead.uint_eq fun i hi hi' => ⟨by omega, by omega⟩).symm
  have hgains : ∀ i < numAt d q,
      slice out (q + 12 + 16 * i) 8 = slice d (q + 12 + 16 * i) 8 := by
    intro k hk
    refine ((patchBlc_kept hpatch hin.luts).slice_eq fun i hi hi' => ?_).symm
    have hstart : 0x50 ≤ q := hq.1.le
    exact ⟨⟨by omega, by omega⟩, fun q' hq' =>
      hin.luts.gain hq hnid hk hq' hi hi'⟩
  have hsame := decodeBlackLevel_scaled again level hhead.length hnum hgains
    hlevels
  exact Mirrors.of_eq ((decodeBlackLevel_reads again _ q).outcome d)
    ((decodeBlackLevel_reads again _ q).outcome out) hsame.symm
end Files

/-- Whatever mode it runs in, the decoder shows of the rescaled file what it
showed of the original, with a quarter of each black level.  The modes that walk
over the sections need to know where the first one ends. -/
theorem decodeFile_patchBlc {γ : Type} (again level : ℕ → γ) (shown : Shown γ)
    (d out : Bytes) (hpatch : patchBlc d = (.ok (), out))
    (hin : TablesInside d) (n : ℕ) (command : Command)
    (hfirst : command ∈ [.records, .isp] → FirstFilled d) :
    (decodeFile again level shown n command out).1 =
      (decodeFile again (level ∘ quarter) shown n command d).1 := by
  have halike : DecodedAlike again (level ∘ quarter) level command d out :=
    { head := by
        refine (patchBlc_kept hpatch hin.luts).slice_eq fun i _ hi => ?_
        refine ⟨⟨by omega, by omega⟩, fun q hq hspan => ?_⟩
        have hstart : 0x50 ≤ q := hq.1.le
        have hlate := recordSpan_late hspan
        omega
      chains := fun hmode =>
        (patchBlc_sameListing hpatch hin.luts
          (hfirst (by rw [hmode]; decide))).toSameChains
      listing := fun hmode =>
        patchBlc_sameListing hpatch hin.luts (hfirst (by rw [hmode]; decide))
      records := fun _ => ⟨patchBlc_sameRecords hpatch hin, hin⟩
      levels := fun _ q hq hnid =>
        decodeBlackLevel_patchBlc hpatch hin again level hq hnid }
  exact (halike.decodeFile shown n).eq.symm

end Decoded

/-! ### The file with a record of each kind -/

section Files

theorem tuningFile_firstRecord :
    recordLayout.elem (tuningFile 412) 0x50 = ⟨0x50, 412, 0, 0, 3⟩ := by
  obtain ⟨-, hhead, -⟩ := tuningFile_at 412
  rw [elem_at hhead (by decide)]
  decide

/-- The records of the file fill its only section. -/
theorem tuningFile_firstFilled : FirstFilled (tuningFile 412) := by
  obtain ⟨hhead, -⟩ := tuningFile_at 412
  have hlen := length_tuningFile 412
  have hinside : ∀ {q n}, q + n ≤ fileHead.length →
      slice (tuningFile 412) q n = slice fileHead q n := by
    intro q n hq
    have hslice := hhead.slice_inside hq
    rwa [Nat.zero_add] at hslice
  have hsize : word (tuningFile 412) 0x3c = 2260 := by
    rw [word, uint, hinside (by decide)]
    decide
  have hgo := goes_at hlen tuningFile_firstRecord (by decide) (by decide)
  have hgo' := goes_at hlen (tuningFile_lastRecord 412) (by decide) (by decide)
  have hlast : Filled (tuningFile 412) 2316 0x1ec := by
    refine .record hgo' ?_
    rw [tuningFile_lastRecord 412]
    exact .full
  have hfilled : Filled (tuningFile 412) 2316 0x50 := by
    refine .record hgo ?_
    rw [tuningFile_firstRecord]
    exact hlast
  exact
    { magic := (hinside (by decide)).trans (by decide)
      short := by rw [hlen]; decide
      lcmc := (hinside (by decide)).trans (by decide)
      dflt := (hinside (by decide)).trans (by decide)
      aiqb := (hinside (by decide)).trans (by decide)
      filled := by rw [hsize]; exact hfilled
      followed := .inl (by rw [hsize, hlen]) }

theorem tuningFile_nid {q : ℕ} (hq : Walked (tuningFile 412) q) :
    nidAt (tuningFile 412) q = 3 ∨ nidAt (tuningFile 412) q = 31 := by
  have hfirst : nidAt (tuningFile 412) 0x50 = 3 :=
    congrArg Record.nid tuningFile_firstRecord
  have hlast : nidAt (tuningFile 412) 0x1ec = 31 :=
    congrArg Record.nid (tuningFile_lastRecord 412)
  obtain rfl | ⟨-, hrest⟩ := hq.1.head
  · exact .inl hfirst
  have hnext : 0x50 + recordLayout.size (recordLayout.elem (tuningFile 412) 0x50) =
      0x1ec := by
    rw [tuningFile_firstRecord]
    decide
  rw [hnext] at hrest
  obtain rfl | ⟨-, hrest⟩ := hrest.head
  · exact .inr hlast
  have hend : 0x1ec + recordLayout.size (recordLayout.elem (tuningFile 412) 0x1ec) =
      2316 := by
    rw [tuningFile_lastRecord 412]
    decide
  have hlate := hrest.le
  have hroom : q + 8 ≤ (tuningFile 412).length := hq.2.room
  rw [length_tuningFile] at hroom
  omega

/-- Numbers are shown as they are. -/
def plain : Shown ℕ := ⟨fun _ _ => some 0, id, some⟩

/-- Whatever is shown of the file, a quarter of its black levels is shown of
the rescaled one. -/
theorem decodeFile_patchBlc_tuningFile :
    ∃ out, patchBlc (tuningFile 412) = (.ok (), out) ∧
      ∀ command, (decodeFile id id plain 4 command out).1 =
        (decodeFile id (id ∘ quarter) plain 4 command (tuningFile 412)).1 := by
  obtain ⟨out, hout⟩ := tuningFile_whole
  have hother : ∀ {q nid}, Walked (tuningFile 412) q → nid ≠ 3 ∧ nid ≠ 31 →
      nidAt (tuningFile 412) q ≠ nid := by
    intro q nid hq hnid hname
    obtain h3 | h31 := tuningFile_nid hq
    · exact hnid.1 (hname.symm.trans h3)
    · exact hnid.2 (hname.symm.trans h31)
  have htables : TablesInside (tuningFile 412) :=
    { luts := tuningFile_lutsInside
      segments := fun q hq hnid => absurd hnid (hother hq (by decide))
      lights := fun q hq hnid => absurd hnid (hother hq (by decide)) }
  refine ⟨out, hout, fun command => ?_⟩
  exact decodeFile_patchBlc id id plain (tuningFile 412) out hout htables 4
    command fun _ => tuningFile_firstFilled

end Files

end Aiqb
end SurfaceCameras
