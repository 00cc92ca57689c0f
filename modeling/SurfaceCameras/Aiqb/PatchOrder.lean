import SurfaceCameras.Aiqb.PatchFootprints

/-!
# The order of the patches

`patch_aiqb_nr` is meant for a file that `patch_aiqb_blc` has rescaled.  In a
file whose first section is filled with records, neither looks at what the other
one writes, except that both end by writing the checksum of the file.  Either
can be applied first, and the bytes are the same.
-/

namespace SurfaceCameras
namespace Aiqb

open Bytes Prog

/-! ## Both patches -/

/-- On a file that both patches finish on, either can be applied first: the
other one finishes too, and the bytes are the same. -/
theorem patches_commute (F : Floats) (n : ℕ) (d blc nr : Bytes)
    (hblc : patchBlc d = (.ok (), blc)) (hnr : patch F n d = (.ok (), nr))
    (hfirst : FirstFilled d) (hin : LutsInside d) :
    ∃ out, patch F n blc = (.ok (), out) ∧ patchBlc nr = (.ok (), out) := by
  rw [patchBlc_eq] at hblc
  rw [patch_eq] at hnr
  obtain ⟨⟨⟩, d₁, hbody, hseal⟩ := bind_eq_ok hblc
  obtain ⟨⟨⟩, d₂, hbody', -⟩ := bind_eq_ok hnr
  have hp := Patches.of_relates (fun e => blcBody_paired hfirst hin) hbody
  have hq := Patches.of_relates (fun e => noiseBody_paired hfirst) hbody'
  have hlen : d₁.length = d.length := by
    obtain ⟨d', hrun, hsame, hkeep⟩ := hp.runs
    rw [hsame.length, hkeep.length]
  have hf := sealFile_seals hseal
  rw [hlen] at hf
  have hstart := hfirst.start_le
  -- The one works before the end of the first section, the other one after it.
  have hVT : ∀ i ∈ afterFirst d, i ∈ noiseView d := by
    intro i (hi : 0x38 + word d 0x3c + 0x14 ≤ i)
    exact ⟨.inr (by omega), .inr (by omega)⟩
  have hSV : ∀ i ∈ blcView d, i ∉ afterFirst d := by
    intro i ⟨_, hhi⟩ (hi : 0x38 + word d 0x3c + 0x14 ≤ i)
    omega
  have hTW : ∀ i ∈ noiseView d, i ∉ blcSpan d := by
    intro i ⟨_, hoff⟩ hspan
    obtain ⟨hlo, hhi⟩ := blcSpan_inside hfirst hin hspan
    omega
  have hSC : ∀ i ∈ blcView d, i ∉ fileSumSpan := by
    intro i ⟨hoff, _⟩ ⟨hlo, hhi⟩
    omega
  have hTC : ∀ i ∈ noiseView d, i ∉ fileSumSpan := by
    intro i ⟨hoff, _⟩ ⟨hlo, hhi⟩
    omega
  obtain ⟨out₁, out₂, out, hone, hother, hthen, hthen'⟩ := hp.comm hq hf
    (fun i hi => blcSpan_view hfirst hin hi) hVT hSV hTW hSC hTC
  obtain rfl : out₁ = blc := (Prod.mk.inj (hone.symm.trans hblc)).2
  obtain rfl : out₂ = nr := (Prod.mk.inj (hother.symm.trans hnr)).2
  exact ⟨out, by rw [patch_eq]; exact hthen, by rw [patchBlc_eq]; exact hthen'⟩

/-! ### A file that both patches finish on -/

section Appended

variable {d d' t : Bytes} {p n : ℕ} {α β : Type}

theorem write_append {bs : Bytes} (h : p + bs.length ≤ d.length) :
    write (d ++ t) p bs = write d p bs ++ t := by
  rw [write, write, List.take_append_of_le_length (by omega),
    List.drop_append_of_le_length h, List.append_assoc, List.append_assoc,
    List.append_assoc]

/-- What `q` does to a file it does to one that goes on after it. -/
def Extends (t : Bytes) (q : Script α) : Prop :=
  ∀ d a d', q d = (.ok a, d') → q (d ++ t) = (.ok a, d' ++ t)

namespace Extends

variable {q : Script α}

theorem pure (a : α) : Extends t (Pure.pure a : Script α) := by
  rintro d _ _ ⟨⟩
  rfl

theorem raise (e : Stop) : Extends t (Prog.raise e : Script α) := by
  rintro d a d' ⟨⟩

theorem bind {f : α → Script β} (hq : Extends t q) (hf : ∀ a, Extends t (f a)) :
    Extends t (q >>= f) := by
  intro d b d' h
  obtain ⟨a, d₁, hrun, hrest⟩ := bind_eq_ok h
  exact (bind_ok (hq d a d₁ hrun)).trans (hf a d₁ b d' hrest)

theorem ite {c : Prop} {_ : Decidable c} {q' : Script α} (hq : Extends t q)
    (hq' : Extends t q') : Extends t (if c then q else q') := by
  split
  · exact hq
  · exact hq'

theorem unpackFrom (p n : ℕ) (fields : Bytes → α) :
    Extends t (Aiqb.unpackFrom p n fields) := by
  intro d a d' h
  obtain ⟨hin, rfl, rfl⟩ := unpackFrom_eq_ok h
  rw [unpackFrom_ok fields (by rw [List.length_append]; omega),
    slice_append t hin]

theorem packInto (p : ℕ) (bs : Bytes) : Extends t (Aiqb.packInto p bs) := by
  intro d a d' h
  by_cases hin : p + bs.length ≤ d.length
  · rw [packInto_ok hin] at h
    obtain ⟨-, rfl⟩ := Prod.mk.inj h
    rw [packInto_ok (by rw [List.length_append]; omega), write_append hin]
  · rw [packInto_error (Nat.lt_of_not_le hin)] at h
    cases h

theorem forEach {f : β → Script Unit} (hf : ∀ b, Extends t (f b)) (bs : List β) :
    Extends t (Prog.forEach f bs) := by
  induction bs with
  | nil => exact Extends.pure ()
  | cons b bs ih => exact (hf b).bind fun _ => ih

theorem rescaleField (F : Field) (p : ℕ) : Extends t (Aiqb.rescaleField F p) :=
  (unpackFrom p _ _).bind fun _ =>
    (ite (raise _) (pure ())).bind fun _ => packInto p _

theorem countedLuts {k body : ℕ} {loop : ℕ → Script Unit}
    (hloop : ∀ num, Extends t (loop num)) :
    Extends t (Aiqb.countedLuts k loop body) :=
  (unpackFrom body _ _).bind fun num => (hloop num).bind fun _ => pure _

theorem rescaleRecord (r : Record) : Extends t (Aiqb.rescaleRecord r) := by
  refine (ite (countedLuts fun num => forEach (fun i => forEach (fun c =>
    rescaleField _ _) _) _) (pure 0)).bind fun n3 => ?_
  refine (ite (countedLuts fun num => forEach (fun i => ?_) _)
    (pure 0)).bind fun n31 => pure _
  refine bind ?_ fun _ => forEach (fun c => rescaleField _ _) _
  exact (unpackFrom _ _ _).bind fun e => (unpackFrom _ _ _).bind fun g =>
    ite (raise _) (pure ())

end Extends

end Appended

section Files

/-- What the rescaling does to the records of the shorter file it does to those
of this one. -/
theorem patchBlc_fullFile : ∃ out, patchBlc fullFile = (.ok (), out) := by
  have hlen := length_tuningFile 412
  obtain ⟨d₁, hlevels, hkeep, -⟩ := tuningFile_levels 412
  obtain ⟨d₂, hglobals, hkeep'⟩ :=
    tuningFile_globals (hkeep.mono fun i hi => .inr hi)
  have hlen₁ : d₁.length = 2316 := hkeep.length ▸ hlen
  have hlen₂ : d₂.length = 2316 := hkeep'.length ▸ hlen₁
  have hlast : recordLayout.elem d₁ 0x1ec = ⟨0x1ec, 1824, 0, 0, 31⟩ := by
    have hsame : recordLayout.elem (tuningFile 412) 0x1ec =
        recordLayout.elem d₁ 0x1ec :=
      congrArg (recordLayout.read _) (hkeep.slice_eq fun i hi _ => .inr hi)
    rw [← hsame, tuningFile_lastRecord 412]
  have hgoes : ∀ {c : Bytes} {p r}, c.length = 2316 → recordLayout.elem c p = r →
      p + 8 ≤ 2316 → recordLayout.Taken knownName 2444 p r →
        recordLayout.Goes knownName 2444 (c ++ pipeSection) p := by
    intro c p r hc helem hroom htaken
    refine ⟨hroom.trans (by decide), ?_, ?_⟩
    · rw [List.length_append, hc]
      exact hroom.trans (Nat.le_add_right _ _)
    · rw [elem_append _ (by rwa [hc]), helem]
      exact htaken
  have hrun := (Extends.rescaleRecord (t := pipeSection) ⟨0x50, 412, 0, 0, 3⟩) _ _ _
    (rescaleRecord_levels rfl hlevels)
  have hrun' := (Extends.rescaleRecord (t := pipeSection)
    ⟨0x1ec, 1824, 0, 0, 31⟩) _ _ _ (rescaleRecord_globals rfl hglobals)
  have hfirst : recordLayout.elem (tuningFile 412 ++ pipeSection) 0x50 =
      ⟨0x50, 412, 0, 0, 3⟩ := by
    rw [elem_append _ (by rw [hlen]; decide), tuningFile_firstRecord]
  have hsecond : recordLayout.elem (d₁ ++ pipeSection) 0x1ec =
      ⟨0x1ec, 1824, 0, 0, 31⟩ := by
    rw [elem_append _ (by rw [hlen₁]; decide), hlast]
  have hnext : 0x50 + recordLayout.size ⟨0x50, 412, 0, 0, 3⟩ = 0x1ec := by decide
  have hend : 0x1ec + recordLayout.size ⟨0x1ec, 1824, 0, 0, 31⟩ = 2316 := by
    decide
  have hlastRun : recordLayout.Runs knownName 2444 (fun _ => rescaleRecord)
      (d₁ ++ pipeSection) 0x1ec [(0, 400)] (d₂ ++ pipeSection) := by
    refine .next (hgoes hlen₁ hlast (by decide) (by decide)) (hsecond ▸ hrun') ?_
    rw [hsecond, hend]
    exact .stop (stops_pipeSection hlen₂)
  have hruns : recordLayout.Runs knownName 2444 (fun _ => rescaleRecord) fullFile
      0x50 [(100, 0), (0, 400)] (d₂ ++ pipeSection) := by
    refine .next (hgoes hlen tuningFile_firstRecord (by decide) (by decide))
      (hfirst ▸ hrun) ?_
    rw [fullFile, hfirst, hnext]
    exact hlastRun
  -- The checksums are over whole words.
  have hlen₃ : (d₂ ++ pipeSection).length = 2444 := by
    rw [List.length_append, hlen₂, length_pipeSection]
  have hsize : word (d₂ ++ pipeSection) 0x3c = 2260 := by
    have hword : word (d₂ ++ pipeSection) 0x3c = word d₂ 0x3c :=
      uint_append _ (by rw [hlen₂]; decide)
    have hsame : word (tuningFile 412) 0x3c = word d₂ 0x3c :=
      (tuningFile_head hkeep hkeep').uint_eq fun i _ hi => by
        change i < 0x50
        omega
    obtain ⟨hhead, -⟩ := tuningFile_at 412
    rw [hword, ← hsame]
    exact hhead.uint_inside (q := 0x3c) (by decide)
  have hin : ∀ {c : Bytes} (lo hi : ℕ), c.length = 2444 → lo % 4 = 0 → hi % 4 = 0 →
      hi ≤ 2444 → ∀ o ∈ offsets lo hi, o + 4 ≤ c.length := by
    intro c lo hi hc hlo hhi hle o ho
    obtain ⟨-, hlt, i, rfl⟩ := mem_offsets ho
    omega
  obtain ⟨d₃, hsection, hlen₄⟩ := writeSum_runs 0x4c
    (hin 0x38 2316 hlen₃ (by decide) (by decide) (by decide))
    (by rw [hlen₃]; decide)
  have hlen₄ : d₃.length = 2444 := hlen₄.trans hlen₃
  obtain ⟨out, hfile, -⟩ := writeSum_runs 0x14
    (hin 0 2444 hlen₄ (by decide) (by decide) (by decide))
    (by rw [hlen₄]; decide)
  have hmagic : slice fullFile 0 4 = ascii "CPFF" := fullFile_firstFilled.magic
  have hblc : BlcRun fullFile [(100, 0), (0, 400)] (d₂ ++ pipeSection) d₃ out :=
    { magic := hmagic
      records := by
        rw [length_fullFile]
        exact hruns.forEach
      levels := rfl
      globals := rfl
      header := by rw [hlen₃]; decide
      sectionSum := hsize.symm ▸ hsection
      fileSum := hlen₄.symm ▸ hfile }
  exact ⟨out, hblc.finishes⟩

/-- Both patches finish on that file, in either order. -/
theorem patches_commute_fullFile :
    ∃ blc nr, patchBlc fullFile = (.ok (), blc) ∧
      patch exactFloats 8 fullFile = (.ok (), nr) ∧
      ∃ out, patch exactFloats 8 blc = (.ok (), out) ∧
        patchBlc nr = (.ok (), out) := by
  obtain ⟨blc, hblc⟩ := patchBlc_fullFile
  have hnr : patch exactFloats 8 fullFile = (.ok (), _) :=
    patch_finishes (by decide +kernel)
  exact ⟨blc, _, hblc, hnr, patches_commute exactFloats 8 fullFile blc _ hblc hnr
    fullFile_firstFilled fullFile_lutsInside⟩

end Files

end Aiqb
end SurfaceCameras
