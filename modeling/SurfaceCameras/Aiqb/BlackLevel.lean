import SurfaceCameras.Aiqb.Checksums
import SurfaceCameras.Aiqb.Decode
import SurfaceCameras.Support.Locality

/-!
# Rescaling the black level

`patch_aiqb_blc` divides the black levels of a tuning file by four in place:
those of the records with name 3, which are 8.8 fixed-point numbers, and those
of the records with name 31, which are 32-bit floats.  It then writes the
checksum of the first section and that of the file.

A float is given by its bits.  The floats that are rescaled lie between 50 and
80, or are zero, so that dividing them by four is exact.
-/

namespace SurfaceCameras
namespace Aiqb

open Bytes Prog

/-! ## Fields -/

/-- A field that is rescaled: how many bytes it has, the values it may have,
and what becomes of them. -/
structure Field where
  width : ℕ
  fits : ℕ → Bool
  scale : ℕ → ℕ
  scale_lt : ∀ v, fits v → scale v < 256 ^ width

/-- `round(v / 4)`, to the even neighbour. -/
def quarter (v : ℕ) : ℕ :=
  if v % 4 = 3 ∨ v % 4 = 2 ∧ v / 4 % 2 = 1 then v / 4 + 1 else v / 4

/-- `v / 4.0` of the bits of a float that is zero or not too small. -/
def quarterFloat (w : ℕ) : ℕ := if w % 2 ^ 31 = 0 then w else w - 2 ^ 24

/-- `12000 < v < 20000` -/
def levelField : Field where
  width := 2
  fits v := decide (12000 < v ∧ v < 20000)
  scale := quarter
  scale_lt v h := by
    have hv : 12000 < v ∧ v < 20000 := of_decide_eq_true h
    rw [quarter]
    split <;> omega

/-- `v == 0 or 50 < v < 80`, of the bits of `v`. -/
def floatField : Field where
  width := 4
  fits w := decide (w = 0 ∨ w = 2 ^ 31 ∨ 0x42480000 < w ∧ w < 0x42a00000)
  scale := quarterFloat
  scale_lt w h := by
    have hw : w = 0 ∨ w = 2 ^ 31 ∨ 0x42480000 < w ∧ w < 0x42a00000 :=
      of_decide_eq_true h
    rw [quarterFloat]
    split <;> omega

/-- Rescale the field at `p`. -/
def rescaleField (F : Field) (p : ℕ) : Script Unit := do
  let v ← unpackFrom p F.width fun bs => uint bs 0 F.width
  when (F.fits v = false) (raise .assertion)
  packInto p (toLe F.width (F.scale v))

/-! ## Records -/

/-- A loop over as many tables as the record says, each with `k` fields; how
many fields there are. -/
def countedLuts (k : ℕ) (loop : ℕ → Script Unit) (body : ℕ) : Script ℕ := do
  let num ← unpackFrom body 4 fun bs => word bs 0
  loop num
  pure (k * num)

/-- Where channel `c` of table `i` is. -/
def levelAt (body i c : ℕ) : ℕ := body + 4 + 16 * i + 8 + 2 * c

/-- The loop over the tables of a black level, each with four channels. -/
def rescaleLevels (body num : ℕ) : Script Unit :=
  forEach (fun i =>
    forEach (fun c => rescaleField levelField (levelAt body i c))
      (List.range 4)) (List.range num)

/-- `cmc_black_level` -/
def cmcBlackLevel (body : ℕ) : Script ℕ :=
  countedLuts 4 (rescaleLevels body) body

/-- `0 < e < 200000 and 0 < g < 200`, where `g` is given by its bits. -/
def globalLutFits (e g : ℕ) : Bool :=
  decide ((0 < e ∧ e < 200000) ∧ 0 < g ∧ g < 0x43480000)

/-- The exposure and the gain of a table are checked. -/
def checkGlobalLut (p : ℕ) : Script Unit := do
  let e ← unpackFrom p 4 fun bs => word bs 0
  let g ← unpackFrom (p + 4) 4 fun bs => word bs 0
  when (globalLutFits e g = false) (raise .assertion)

/-- Where table `i` of a global black level is. -/
def globalLutAt (body i : ℕ) : ℕ := body + 16 + 72 * i

/-- A table is checked, and its sixteen channels are rescaled. -/
def rescaleGlobalLut (p : ℕ) : Script Unit := do
  checkGlobalLut p
  forEach (fun c => rescaleField floatField (p + 8 + 4 * c)) (List.range 16)

/-- The loop over the tables of a global black level. -/
def rescaleGlobals (body num : ℕ) : Script Unit :=
  forEach (fun i => rescaleGlobalLut (globalLutAt body i)) (List.range num)

/-- `cmc_black_level_global` -/
def cmcBlackLevelGlobal (body : ℕ) : Script ℕ :=
  countedLuts 16 (rescaleGlobals body) body

/-- What is done to a record, and how many fields of each kind it has. -/
def rescaleRecord (r : Record) : Script (ℕ × ℕ) := do
  let n3 ← (if r.nid = 3 then cmcBlackLevel (r.off + 8) else pure 0)
  let n31 ← (if r.nid = 31 then cmcBlackLevelGlobal (r.off + 8) else pure 0)
  pure (n3, n31)

/-- The loop over the records. -/
def rescaleRecords (len : ℕ) : Script (List (ℕ × ℕ)) :=
  recordLayout.forEach knownName len (fun _ => rescaleRecord) 0x50

/-- `patch` of `patch_aiqb_blc`, from the bytes read to the bytes written. -/
def patchBlc : Script Unit := do
  let head ← gets fun d => slice d 0 4
  when (head ≠ ascii "CPFF") (raise .assertion)
  let len ← gets List.length
  let counts ← rescaleRecords len
  when (¬ ((counts.map Prod.fst).sum = 100 ∧ (counts.map Prod.snd).sum = 400))
    (raise .assertion)
  let size ← unpackFrom 0x3c 4 fun bs => word bs 0
  writeSum 0x38 (0x38 + size) 0x4c
  let len ← gets List.length
  writeSum 0 len 0x14

/-! ## Fields and tables -/

section Tables

variable {d d' : Bytes} {p body n num : ℕ}

/-- The field at `p` is in the file and has a value it may have. -/
def FieldFits (F : Field) (p : ℕ) (d : Bytes) : Prop :=
  p + F.width ≤ d.length ∧ F.fits (uint d p F.width) = true

/-- The field at `p` was rescaled. -/
def FieldScaled (F : Field) (p : ℕ) (d d' : Bytes) : Prop :=
  uint d' p F.width = F.scale (uint d p F.width)

theorem rescaleField_local (F : Field) (p : ℕ) :
    Local (Set.Ico p (p + F.width)) (rescaleField F p) (FieldFits F p)
      (FieldScaled F p) where
  pre_congr h hpre := by
    have hsame := h.uint_eq fun i hi hi' => ⟨hi, hi'⟩
    exact ⟨h.length ▸ hpre.1, hsame ▸ hpre.2⟩
  effect_congr h h' heffect := by
    have hsame := h.uint_eq fun i hi hi' => ⟨hi, hi'⟩
    have hsame' := h'.uint_eq fun i hi hi' => ⟨hi, hi'⟩
    rw [FieldScaled, ← hsame, ← hsame']
    exact heffect
  runs {d} := by
    rintro ⟨hroom, hfits⟩
    have hread : uint (slice d p F.width) 0 F.width = uint d p F.width :=
      uint_slice d p (by rw [Nat.zero_add])
    have hwidth : p + (toLe F.width (F.scale (uint d p F.width))).length ≤
        d.length := by rwa [length_toLe]
    refine ⟨write d p (toLe F.width (F.scale (uint d p F.width))), ?_, ?_, ?_⟩
    · rw [rescaleField, bind_ok (unpackFrom_ok _ hroom), hread,
        when_neg (by rw [hfits]; decide), bind_ok (pure_apply _ d),
        packInto_ok hwidth]
    · refine (AgreeOn.refl _ d).write hwidth fun i hi hin => hi ?_
      rwa [length_toLe] at hin
    · have hslice := slice_write hwidth
      rw [length_toLe] at hslice
      rw [FieldScaled, uint, hslice, ofLe_toLe_of_lt (F.scale_lt _ hfits)]
  needs {d d'} h := by
    by_cases hroom : p + F.width ≤ d.length
    · have hread : uint (slice d p F.width) 0 F.width = uint d p F.width :=
        uint_slice d p (by rw [Nat.zero_add])
      rw [rescaleField, bind_ok (unpackFrom_ok _ hroom), hread] at h
      obtain ⟨⟨⟩, d₁, hcheck, -⟩ := bind_eq_ok h
      exact ⟨hroom, by simpa using (when_raise_ok hcheck).1⟩
    · rw [rescaleField,
        bind_error (unpackFrom_error _ (Nat.lt_of_not_le hroom))] at h
      cases h

/-- The bytes of the channels of `num` tables. -/
def levelSpan (body num : ℕ) : Set ℕ :=
  {k | ∃ i < num, ∃ c < 4, k ∈ Set.Ico (levelAt body i c) (levelAt body i c + 2)}

/-- The tables of a black level may be rescaled. -/
def LevelsFit (body num : ℕ) (d : Bytes) : Prop :=
  ∀ i < num, ∀ c < 4, FieldFits levelField (levelAt body i c) d

/-- The tables of a black level were rescaled. -/
def LevelsScaled (body num : ℕ) (d d' : Bytes) : Prop :=
  ∀ i < num, ∀ c < 4, FieldScaled levelField (levelAt body i c) d d'

theorem levels_local (body num : ℕ) :
    Local (levelSpan body num) (rescaleLevels body num) (LevelsFit body num)
      (LevelsScaled body num) := by
  refine Local.forRange num (fun i => Local.forRange 4
    (fun c => rescaleField_local levelField (levelAt body i c)) ?_) ?_
  · rintro c c' hc k ⟨-, hk⟩ ⟨hk', -⟩
    change k < levelAt body i c + 2 at hk
    rw [levelAt] at hk hk'
    omega
  · rintro i i' hi k ⟨c, hc, -, hk⟩ ⟨c', hc', hk', -⟩
    change k < levelAt body i c + 2 at hk
    rw [levelAt] at hk hk'
    omega

/-- The exposure and the gain at `p` are in the file and in their ranges. -/
def GlobalLutFits (p : ℕ) (d : Bytes) : Prop :=
  p + 8 ≤ d.length ∧ globalLutFits (word d p) (word d (p + 4)) = true

theorem checkGlobalLut_local (p : ℕ) :
    Local (Set.Ico p (p + 8)) (checkGlobalLut p) (GlobalLutFits p)
      (fun _ _ => True) where
  pre_congr h hpre := by
    have he : word _ p = word _ p :=
      h.uint_eq fun i hi hi' => ⟨hi, by omega⟩
    have hg : word _ (p + 4) = word _ (p + 4) :=
      h.uint_eq fun i hi hi' => ⟨by omega, by omega⟩
    rw [GlobalLutFits, ← h.length, ← he, ← hg]
    exact hpre
  effect_congr _ _ h := h
  runs {d} := by
    rintro ⟨hroom, hfits⟩
    have he : word (slice d p 4) 0 = word d p := uint_slice d p (by decide)
    have hg : word (slice d (p + 4) 4) 0 = word d (p + 4) :=
      uint_slice d _ (by decide)
    refine ⟨d, ?_, AgreeOn.refl _ d, trivial⟩
    rw [checkGlobalLut, bind_ok (unpackFrom_ok _ (by omega)), he,
      bind_ok (unpackFrom_ok _ (by omega)), hg,
      when_neg (by rw [hfits]; decide)]
    rfl
  needs {d d'} h := by
    obtain ⟨e, d₁, he, h⟩ := bind_eq_ok h
    obtain ⟨g, d₂, hg, hcheck⟩ := bind_eq_ok h
    obtain ⟨-, rfl, rfl⟩ := unpackFrom_eq_ok he
    obtain ⟨hroom, rfl, rfl⟩ := unpackFrom_eq_ok hg
    have hfits := (when_raise_ok hcheck).1
    have he : word (slice d p 4) 0 = word d p := uint_slice d p (by decide)
    have hg : word (slice d (p + 4) 4) 0 = word d (p + 4) :=
      uint_slice d _ (by decide)
    rw [he, hg] at hfits
    exact ⟨hroom, by simpa using hfits⟩

/-- The bytes of `num` tables of a global black level. -/
def globalSpan (body num : ℕ) : Set ℕ :=
  {k | ∃ i < num, k ∈ Set.Ico (globalLutAt body i) (globalLutAt body i + 72)}

/-- The tables of a global black level may be rescaled. -/
def GlobalsFit (body num : ℕ) (d : Bytes) : Prop :=
  ∀ i < num, GlobalLutFits (globalLutAt body i) d ∧
    ∀ c < 16, FieldFits floatField (globalLutAt body i + 8 + 4 * c) d

theorem rescaleGlobalLut_local (p : ℕ) :
    Local (Set.Ico p (p + 72)) (rescaleGlobalLut p)
      (fun d => GlobalLutFits p d ∧
        ∀ c < 16, FieldFits floatField (p + 8 + 4 * c) d)
      (fun d d' => ∀ c < 16, FieldScaled floatField (p + 8 + 4 * c) d d') := by
  have hfields := Local.forRange 16
    (fun c => rescaleField_local floatField (p + 8 + 4 * c)) (by
      rintro c c' hc k ⟨-, hk⟩ ⟨hk', -⟩
      change k < p + 8 + 4 * c + 4 at hk
      omega)
  refine ((checkGlobalLut_local p).seq hfields ?_).congr ?_ (fun _ => Iff.rfl)
    fun _ _ => and_iff_right trivial
  · rintro k ⟨-, hk⟩ ⟨c, hc, hk', -⟩
    omega
  · ext k
    constructor
    · rintro (⟨hk, hk'⟩ | ⟨c, hc, hk, hk'⟩)
      · exact ⟨hk, by omega⟩
      · change k < p + 8 + 4 * c + 4 at hk'
        exact ⟨by omega, by omega⟩
    · rintro ⟨hk, hk'⟩
      by_cases hfirst : k < p + 8
      · exact .inl ⟨hk, hfirst⟩
      · refine .inr ⟨(k - p - 8) / 4, by omega, by omega, ?_⟩
        change k < p + 8 + 4 * ((k - p - 8) / 4) + 4
        omega

theorem globals_local (body num : ℕ) :
    Local (globalSpan body num) (rescaleGlobals body num) (GlobalsFit body num)
      (fun d d' => ∀ i < num, ∀ c < 16,
        FieldScaled floatField (globalLutAt body i + 8 + 4 * c) d d') := by
  refine Local.forRange num
    (fun i => rescaleGlobalLut_local (globalLutAt body i)) ?_
  rintro i i' hi k ⟨-, hk⟩ ⟨hk', -⟩
  rw [globalLutAt] at hk hk'
  omega

/-! ### Loops over tables -/

variable {loop : ℕ → Script Unit} {span : ℕ → Set ℕ}
  {pre : ℕ → Bytes → Prop} {effect : ℕ → Bytes → Bytes → Prop} {k : ℕ}

theorem countedLuts_runs
    (hloop : ∀ num, Local (span num) (loop num) (pre num) (effect num))
    (hroom : body + 4 ≤ d.length) (hpre : pre (word d body) d) :
    ∃ d', countedLuts k loop body d = (.ok (k * word d body), d') ∧
      AgreeOn (span (word d body))ᶜ d d' ∧ effect (word d body) d d' := by
  obtain ⟨d', hrun, hkeep, heffect⟩ := (hloop _).runs hpre
  have hnum : word (slice d body 4) 0 = word d body :=
    uint_slice d body (by decide)
  refine ⟨d', ?_, hkeep, heffect⟩
  rw [countedLuts, bind_ok (unpackFrom_ok _ hroom), hnum, bind_ok hrun]
  rfl

theorem countedLuts_ok
    (hloop : ∀ num, Local (span num) (loop num) (pre num) (effect num))
    (h : countedLuts k loop body d = (.ok n, d')) :
    AgreeOn (span (word d body))ᶜ d d' ∧ effect (word d body) d d' := by
  obtain ⟨num, d₁, hread, hrest⟩ := bind_eq_ok h
  obtain ⟨⟨⟩, d₂, hrun, hend⟩ := bind_eq_ok hrest
  obtain ⟨hroom, rfl, rfl⟩ := unpackFrom_eq_ok hread
  obtain ⟨-, rfl⟩ := Prod.mk.inj hend
  have hnum : word (slice d body 4) 0 = word d body :=
    uint_slice d body (by decide)
  rw [hnum] at hrun
  exact ((hloop _).outcome hrun).2

end Tables

/-! ## Runs -/

section Runs

variable {d out : Bytes}

/-- The parts of a run of the patch that finishes. -/
structure BlcRun (d : Bytes) (counts : List (ℕ × ℕ)) (d₁ d₂ out : Bytes) :
    Prop where
  magic : slice d 0 4 = ascii "CPFF"
  records : rescaleRecords d.length d = (.ok counts, d₁)
  levels : (counts.map Prod.fst).sum = 100
  globals : (counts.map Prod.snd).sum = 400
  header : 0x3c + 4 ≤ d₁.length
  sectionSum : writeSum 0x38 (0x38 + word d₁ 0x3c) 0x4c d₁ = (.ok (), d₂)
  fileSum : writeSum 0 d₂.length 0x14 d₂ = (.ok (), out)

theorem BlcRun.finishes {counts : List (ℕ × ℕ)} {d₁ d₂ : Bytes}
    (h : BlcRun d counts d₁ d₂ out) : patchBlc d = (.ok (), out) := by
  have hsize : word (slice d₁ 0x3c 4) 0 = word d₁ 0x3c :=
    uint_slice d₁ _ (by decide)
  have hsection := h.sectionSum
  rw [← hsize] at hsection
  rw [patchBlc, bind_ok (gets_apply _ d), when_neg (not_not.mpr h.magic),
    bind_ok (pure_apply _ d), bind_ok (gets_apply _ d), bind_ok h.records,
    when_neg (not_not.mpr ⟨h.levels, h.globals⟩), bind_ok (pure_apply _ d₁),
    bind_ok (unpackFrom_ok _ h.header), bind_ok hsection,
    bind_ok (gets_apply _ d₂)]
  exact h.fileSum

theorem patchBlc_run (h : patchBlc d = (.ok (), out)) :
    ∃ counts d₁ d₂, BlcRun d counts d₁ d₂ out := by
  obtain ⟨head, d', hhead, h⟩ := bind_eq_ok h
  obtain ⟨hslice, rfl⟩ := Prod.mk.inj hhead
  obtain ⟨⟨⟩, d', hmagic, h⟩ := bind_eq_ok h
  obtain ⟨hcpff, rfl⟩ := when_raise_ok hmagic
  obtain ⟨len, d', hlen, h⟩ := bind_eq_ok h
  obtain ⟨hlength, rfl⟩ := Prod.mk.inj hlen
  obtain ⟨counts, d₁, hrecords, h⟩ := bind_eq_ok h
  obtain ⟨⟨⟩, d', hcounts, h⟩ := bind_eq_ok h
  obtain ⟨hsums, rfl⟩ := when_raise_ok hcounts
  obtain ⟨size, d', hsize, h⟩ := bind_eq_ok h
  obtain ⟨⟨⟩, d₂, hsection, h⟩ := bind_eq_ok h
  obtain ⟨len', d'', hlen', hfile⟩ := bind_eq_ok h
  obtain ⟨hlength', rfl⟩ := Prod.mk.inj hlen'
  obtain ⟨hlevels, hglobals⟩ := not_not.mp hsums
  obtain rfl := Except.ok.inj hslice
  obtain rfl := Except.ok.inj hlength
  obtain rfl := Except.ok.inj hlength'
  obtain ⟨hin, rfl, rfl⟩ := unpackFrom_eq_ok hsize
  have hword : word (slice d₁ 0x3c 4) 0 = word d₁ 0x3c :=
    uint_slice d₁ _ (by decide)
  rw [hword] at hsection
  exact ⟨counts, d₁, d₂, not_not.mp hcpff, hrecords, hlevels, hglobals, hin,
    hsection, hfile⟩

end Runs

end Aiqb
end SurfaceCameras
