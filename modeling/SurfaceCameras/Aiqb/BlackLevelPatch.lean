import SurfaceCameras.Aiqb.BlackLevelEffects

/-!
# The rescaled file

What `patch_aiqb_blc` leaves has right checksums, whatever the records are.  It
differs from the file it was made from in nothing but checksums and black
levels if the tables of a record are inside the record, and what is decoded of
a black level is then a quarter of what it was.

The patch does not check where the tables end.
-/

namespace SurfaceCameras
namespace Aiqb

open Bytes Prog

/-! ## The checksums -/

/-- The words from `lo` to `hi`, without the one at `pos`, are in the file and
add up to what is stored at `pos`. -/
structure SumStored (d : Bytes) (lo hi pos : ℕ) : Prop where
  stored : pos + 4 ≤ d.length
  inside : ∀ o ∈ offsets lo hi, o ≠ pos → o + 4 ≤ d.length
  sum : word d pos =
    (((offsets lo hi).filter fun o => decide (o ≠ pos)).map (word d)).sum
      % 2 ^ 32

section Sums

variable {d d' out : Bytes} {lo hi pos t r : ℕ}

/-- What `addWords` adds up. -/
theorem addWords_sum {os : List ℕ} (ht : t < 2 ^ 32)
    (h : (addWords pos os t d).1 = .ok r) :
    (∀ o ∈ os, o ≠ pos → o + 4 ≤ d.length) ∧
      r = (t + ((os.filter fun o => decide (o ≠ pos)).map (word d)).sum)
        % 2 ^ 32 := by
  induction os generalizing t with
  | nil =>
      obtain rfl : t = r := Except.ok.inj h
      exact ⟨fun _ ho => (List.not_mem_nil ho).elim, (Nat.mod_eq_of_lt ht).symm⟩
  | cons o os ih =>
      simp only [addWords] at h
      by_cases hne : o ≠ pos
      · rw [if_pos hne] at h
        by_cases hin : o + 4 ≤ d.length
        · have hword : word (slice d o 4) 0 = word d o :=
            uint_slice d o (by decide)
          rw [bind_ok (unpackFrom_ok _ hin), hword] at h
          obtain ⟨hinside, hr⟩ := ih (Nat.mod_lt _ (Nat.two_pow_pos 32)) h
          refine ⟨fun o' ho' hne' => ?_, ?_⟩
          · obtain rfl | ho' := List.mem_cons.mp ho'
            · exact hin
            · exact hinside o' ho' hne'
          · rw [hr, Nat.mod_add_mod, List.filter_cons_of_pos (by simpa using hne),
              List.map_cons, List.sum_cons, Nat.add_assoc]
        · rw [bind_error (unpackFrom_error _ (Nat.lt_of_not_le hin))] at h
          cases h
      · rw [if_neg hne] at h
        obtain ⟨hinside, hr⟩ := ih ht h
        refine ⟨fun o' ho' hne' => ?_, ?_⟩
        · obtain rfl | ho' := List.mem_cons.mp ho'
          · exact absurd hne' hne
          · exact hinside o' ho' hne'
        · rw [hr, List.filter_cons_of_neg (by simpa using hne)]

theorem addWords_runs {os : List ℕ} (h : ∀ o ∈ os, o + 4 ≤ d.length)
    (pos t : ℕ) : ∃ r, addWords pos os t d = (.ok r, d) := by
  induction os generalizing t with
  | nil => exact ⟨t, rfl⟩
  | cons o os ih =>
      obtain ⟨hin, hrest⟩ := List.forall_mem_cons.mp h
      simp only [addWords]
      by_cases hne : o ≠ pos
      · rw [if_pos hne, bind_ok (unpackFrom_ok _ hin)]
        exact ih hrest _
      · rw [if_neg hne]
        exact ih hrest t

theorem writeSum_runs (pos : ℕ) (h : ∀ o ∈ offsets lo hi, o + 4 ≤ d.length)
    (hpos : pos + 4 ≤ d.length) :
    ∃ d', writeSum lo hi pos d = (.ok (), d') ∧ d'.length = d.length := by
  obtain ⟨t, ht⟩ := addWords_runs h pos 0
  have hwidth : pos + (toLe 4 t).length ≤ d.length := by rwa [length_toLe]
  exact ⟨write d pos (toLe 4 t), (bind_ok ht).trans (packInto_ok hwidth),
    length_write hwidth⟩

theorem ChecksumAt.sumStored (h : ChecksumAt d lo hi pos) :
    SumStored d lo hi pos := by
  obtain ⟨hstored, hsum⟩ := h
  obtain ⟨hinside, hword⟩ := addWords_sum (Nat.two_pow_pos 32) hsum
  rw [Nat.zero_add] at hword
  exact ⟨hstored, hinside, hword⟩

theorem ChecksumAt.congr (h : ChecksumAt d lo hi pos)
    (hagree : AgreeOn (Set.Ici lo) d d') (hpos : lo ≤ pos) :
    ChecksumAt d' lo hi pos := by
  obtain ⟨hstored, hsum⟩ := h
  have hword : word d pos = word d' pos :=
    hagree.uint_eq fun i hi _ => hpos.trans hi
  have hsame : (selfsum lo hi pos d).1 = (selfsum lo hi pos d').1 :=
    selfsum_congr pos (hagree.mono fun i hi => hi.1)
  refine ⟨hagree.length ▸ hstored, ?_⟩
  rw [← hsame, ← hword, hsum]

/-- The patch leaves right checksums. -/
theorem patchBlc_sums (d out : Bytes) (h : patchBlc d = (.ok (), out)) :
    SumStored out 0x38 (0x38 + word out 0x3c) 0x4c ∧
      SumStored out 0 out.length 0x14 := by
  obtain ⟨counts, d₁, d₂, hrun⟩ := patchBlc_run h
  obtain ⟨t, -, hin, hd₂, hsection⟩ := writeSum_ok (j := 5) hrun.sectionSum
  obtain ⟨t', -, hin', hout, hfile⟩ := writeSum_ok (j := 5) hrun.fileSum
  -- Each checksum is written outside the words that are read for the other.
  have hsize : AgreeOn (Set.Iio 0x4c) d₁ d₂ := by
    rw [hd₂]
    refine (AgreeOn.refl _ d₁).write (by rwa [length_toLe]) fun i hi hi' => ?_
    exact absurd hi (Nat.not_lt_of_le hi'.1)
  have hkeep : AgreeOn (Set.Ici 0x38) d₂ out := by
    rw [hout]
    refine (AgreeOn.refl _ d₂).write (by rwa [length_toLe]) fun i hi hi' => ?_
    have hi : 0x38 ≤ i := hi
    have hlate : i < 0 + 4 * 5 + 4 := by simpa using hi'.2
    omega
  have hword : word d₁ 0x3c = word out 0x3c :=
    (hsize.uint_eq fun i _ hi => by
      change i < 0x4c
      omega).trans
    (hkeep.uint_eq fun i hi _ => by
      change 0x38 ≤ i
      omega)
  rw [hword] at hsection
  rw [hkeep.length] at hfile
  exact ⟨(hsection.congr hkeep (by decide)).sumStored, hfile.sumStored⟩

end Sums

/-! ## The whole patch -/

/-- The patch has changed nothing but checksums and black levels, and has
divided the latter by four. -/
structure OnlyBlackLevels (d out : Bytes) : Prop where
  changed : ∀ i, d[i]? ≠ out[i]? →
    0x14 ≤ i ∧ i < 0x18 ∨ 0x4c ≤ i ∧ i < 0x50 ∨
      ∃ q, Walked d q ∧ (nidAt d q = 3 ∨ nidAt d q = 31) ∧
        q + 8 ≤ i ∧ i < q + sizeAt d q
  headers : ∀ q, Walked d q → slice out q 8 = slice d q 8
  bodies : ∀ q, Walked d q → nidAt d q ≠ 3 → nidAt d q ≠ 31 →
    slice out q (sizeAt d q) = slice d q (sizeAt d q)
  decoded : ∀ q, Walked d q → nidAt d q = 3 →
    ∀ {γ : Type} (again level : ℕ → γ),
      (decodeBlackLevel again level q out).1 =
        (decodeBlackLevel again (level ∘ quarter) q d).1

section Decoding

variable {d out : Bytes} {p num : ℕ} {γ : Type} (again level : ℕ → γ)

/-- What is shown of the table at `p`. -/
def lutAt (d : Bytes) (p : ℕ) : BlackLevel γ :=
  ⟨word d p, again (word d (p + 4)),
    (List.range 4).map fun c => level (uint d (p + 8 + 2 * c) 2)⟩

theorem decodeLuts_inside (h : p + 16 ≤ d.length) :
    (decodeLuts again level (num + 1) p d).1 =
      (decodeLuts again level num (p + 16) d).1.map
        (lutAt again level d p :: ·) := by
  have he : word (slice d p 8) 0 = word d p := uint_slice d p (by decide)
  have hg : word (slice d p 8) 4 = word d (p + 4) := uint_slice d p (by decide)
  have hcc : ((List.range 4).map fun c => uint (slice d (p + 8) 8) (2 * c) 2).map
      level = (List.range 4).map fun c => level (uint d (p + 8 + 2 * c) 2) := by
    rw [List.map_map]
    refine List.map_congr_left fun c hc => congrArg level ?_
    have hc := List.mem_range.mp hc
    exact uint_slice d _ (by omega)
  rw [decodeLuts, bind_ok (unpackFrom_ok _ (by omega))]
  dsimp only
  rw [bind_ok (unpackFrom_ok _ (by omega)), bind_pure_fst, he, hg, hcc]
  rfl

theorem decodeLuts_outside (h : ¬ p + 16 ≤ d.length) :
    (decodeLuts again level (num + 1) p d).1 = .error .structError := by
  rw [decodeLuts]
  by_cases hroom : p + 8 ≤ d.length
  · rw [bind_ok (unpackFrom_ok _ hroom)]
    dsimp only
    rw [bind_error (unpackFrom_error _ (by omega))]
  · rw [bind_error (unpackFrom_error _ (Nat.lt_of_not_le hroom))]

theorem lutAt_scaled (hhead : slice out p 8 = slice d p 8)
    (hlevel : ∀ c < 4, FieldScaled levelField (p + 8 + 2 * c) d out) :
    lutAt again level out p = lutAt again (level ∘ quarter) d p := by
  have hword : ∀ k, k + 4 ≤ 8 → word out (p + k) = word d (p + k) := by
    intro k hk
    rw [word, ← uint_slice out p hk, hhead, uint_slice d p hk]
  have hcc : ((List.range 4).map fun c => level (uint out (p + 8 + 2 * c) 2)) =
      (List.range 4).map fun c => (level ∘ quarter) (uint d (p + 8 + 2 * c) 2) :=
    List.map_congr_left fun c hc =>
      congrArg level (hlevel c (List.mem_range.mp hc))
  rw [lutAt, lutAt, hcc, hword 4 (by decide)]
  exact congrArg (BlackLevel.mk · _ _) (hword 0 (by decide))

theorem decodeLuts_scaled (hlen : d.length = out.length)
    (hhead : ∀ i < num, slice out (p + 16 * i) 8 = slice d (p + 16 * i) 8)
    (hlevel : ∀ i < num, ∀ c < 4,
      FieldScaled levelField (p + 16 * i + 8 + 2 * c) d out) :
    (decodeLuts again level num p out).1 =
      (decodeLuts again (level ∘ quarter) num p d).1 := by
  induction num generalizing p with
  | zero => rfl
  | succ num ih =>
      by_cases hroom : p + 16 ≤ d.length
      · have hshift : ∀ i, p + 16 + 16 * i = p + 16 * (i + 1) := fun i => by omega
        have hrest := ih (p := p + 16)
          (fun i hi => by
            rw [hshift]
            exact hhead (i + 1) (by omega))
          (fun i hi => by
            rw [hshift]
            exact hlevel (i + 1) (by omega))
        have hlut : lutAt again level out p = lutAt again (level ∘ quarter) d p :=
          lutAt_scaled again level (hhead 0 (Nat.zero_lt_succ num))
            (hlevel 0 (Nat.zero_lt_succ num))
        rw [decodeLuts_inside _ _ hroom,
          decodeLuts_inside _ _ (hlen ▸ hroom), hrest, hlut]
      · rw [decodeLuts_outside _ _ hroom,
          decodeLuts_outside _ _ (hlen ▸ hroom)]

/-- A record whose channels were divided by four, while the rest of its tables
stayed as it was. -/
theorem decodeBlackLevel_scaled {q : ℕ} (hlen : d.length = out.length)
    (hnum : word out (q + 8) = word d (q + 8))
    (hhead : ∀ i < numAt d q,
      slice out (q + 12 + 16 * i) 8 = slice d (q + 12 + 16 * i) 8)
    (hlevel : LevelsScaled (q + 8) (numAt d q) d out) :
    (decodeBlackLevel again level q out).1 =
      (decodeBlackLevel again (level ∘ quarter) q d).1 := by
  by_cases hroom : q + 8 + 4 ≤ d.length
  · have hread : ∀ d : Bytes, word (slice d (q + 8) 4) 0 = word d (q + 8) :=
      fun d => uint_slice d _ (by decide)
    rw [decodeBlackLevel, decodeBlackLevel,
      bind_ok (unpackFrom_ok _ (hlen ▸ hroom)), bind_ok (unpackFrom_ok _ hroom),
      hread, hread, hnum]
    exact decodeLuts_scaled again level hlen hhead hlevel
  · have hout := Nat.lt_of_not_le hroom
    rw [decodeBlackLevel, decodeBlackLevel,
      bind_error (unpackFrom_error _ (hlen ▸ hout)),
      bind_error (unpackFrom_error _ hout)]

end Decoding

section Effects

variable {d d₁ d₂ out : Bytes} {counts : List (ℕ × ℕ)} {q : ℕ}

theorem BlcRun.kept (h : BlcRun d counts d₁ d₂ out) :
    AgreeOn {i | ¬ (0x14 ≤ i ∧ i < 0x18) ∧ ¬ (0x4c ≤ i ∧ i < 0x50)} d₁ out := by
  obtain ⟨t, -, hin, hd₂, -⟩ := writeSum_ok (j := 5) h.sectionSum
  obtain ⟨t', -, hin', hout, -⟩ := writeSum_ok (j := 5) h.fileSum
  rw [hout]
  refine AgreeOn.write ?_ (by rwa [length_toLe]) fun i hi hspan => hi.1 ?_
  · rw [hd₂]
    refine (AgreeOn.refl _ d₁).write (by rwa [length_toLe]) fun i hi hspan =>
      hi.2 ?_
    rwa [length_toLe] at hspan
  · rwa [length_toLe] at hspan

/-- The patch changes only black levels if the tables are inside their
records. -/
theorem patchBlc_onlyBlackLevels (d out : Bytes)
    (h : patchBlc d = (.ok (), out)) (hin : LutsInside d) :
    OnlyBlackLevels d out := by
  obtain ⟨counts, d₁, d₂, hrun⟩ := patchBlc_run h
  obtain ⟨hrecords, hscaled⟩ := rescaleRecords_ok hin hrun.records
  have hsums := hrun.kept
  have hlen : d.length = out.length := hrecords.length.trans hsums.length
  have hlate : ∀ {i}, 0x50 ≤ i →
      ¬ (0x14 ≤ i ∧ i < 0x18) ∧ ¬ (0x4c ≤ i ∧ i < 0x50) :=
    fun hi => ⟨by omega, by omega⟩
  -- Beyond the headers of the file, bytes outside the tables are as they were.
  have hkept : AgreeOn {i | 0x50 ≤ i ∧ ∀ q, Walked d q → i ∉ recordSpan d q}
      d out :=
    (hrecords.mono fun i hi => hi.2).trans (hsums.mono fun i hi => hlate hi.1)
  constructor
  · intro i hne
    by_contra hnone
    obtain ⟨hfile, hnone⟩ := not_or.mp hnone
    obtain ⟨hsection, hbody⟩ := not_or.mp hnone
    refine hne ((hrecords.get i fun q hq hi => hbody ⟨q, hq, ?_, ?_⟩).trans
      (hsums.get i ⟨hfile, hsection⟩))
    · exact hi.imp And.left And.left
    · have hspan := hin.span hq hi
      exact ⟨by omega, hspan.2⟩
  · intro q hq
    have hfirst := hq.1.le
    refine (hkept.slice_eq fun i hlo hhi => ⟨by omega, fun q' hq' => ?_⟩).symm
    exact hin.header hq hq' hlo (by omega)
  · intro q hq h3 h31
    have hfirst := hq.1.le
    refine (hkept.slice_eq fun i hlo hhi => ⟨by omega, fun q' hq' hi => ?_⟩).symm
    obtain rfl | hbeyond := hin.owner hq hq' hi hlo
    · obtain ⟨hnid, -⟩ | ⟨hnid, -⟩ := hi
      · exact h3 hnid
      · exact h31 hnid
    · omega
  · intro q hq hnid γ again level
    have hfirst := hq.1.le
    have hnum : word out (q + 8) = word d (q + 8) :=
      (hkept.uint_eq fun i hlo hhi => ⟨by omega, fun q' hq' =>
        hin.header hq hq' (by omega) (by omega)⟩).symm
    refine decodeBlackLevel_scaled again level hlen hnum (fun k hk => ?_) ?_
    · exact (hkept.slice_eq fun i hlo hhi => ⟨by omega, fun q' hq' =>
        hin.gain hq hnid hk hq' hlo hhi⟩).symm
    · have hsame : AgreeOn (levelSpan (q + 8) (numAt d q)) d₁ out :=
        hsums.mono fun i hi => hlate (by
          have hafter := (hin.span hq (.inl ⟨hnid, hi⟩)).1
          omega)
      exact (levels_local _ _).effect_congr (AgreeOn.refl _ d) hsame
        (hscaled q hq hnid)

end Effects

/-! ## Two files -/

/-- The table of one exposure, with four black levels. -/
def levelLut : Bytes :=
  toLe 4 400 ++ [0, 0, 1, 0] ++ (List.replicate 4 (toLe 2 16600)).flatten

/-- The table of one exposure, with sixteen black levels of 65.0. -/
def globalLut : Bytes :=
  toLe 4 400 ++ toLe 4 0x3f800000 ++
    (List.replicate 16 (toLe 4 0x42820000)).flatten

/-- The headers of a file and of its first section. -/
def fileHead : Bytes :=
  ascii "CPFF" ++ List.replicate 20 0 ++
    (ascii "LCMC" ++ toLe 4 2292 ++ List.replicate 8 0) ++
    (ascii "DFLT" ++ toLe 4 2276 ++ List.replicate 8 0) ++
    (ascii "AIQB" ++ toLe 4 2260 ++ List.replicate 16 0)

/-- The header of a black level that says it has `size` bytes, and the number of
its tables. -/
def levelHead (size : ℕ) : Bytes := toLe 4 size ++ [0, 0, 3, 0] ++ toLe 4 25

def globalHead : Bytes :=
  toLe 4 1824 ++ [0, 0, 31, 0] ++ toLe 4 25 ++ List.replicate 12 0

/-- A file with one record of each kind.  The first one has 412 bytes, whatever
it says. -/
def tuningFile (size : ℕ) : Bytes :=
  fileHead ++ levelHead size ++ (List.replicate 25 levelLut).flatten ++
    globalHead ++ (List.replicate 25 globalLut).flatten

section Files

variable {d d' : Bytes} {p q n size i : ℕ} {bs : Bytes}

theorem length_levelHead (size : ℕ) : (levelHead size).length = 12 := by
  simp [levelHead]

theorem length_tuningFile (size : ℕ) : (tuningFile size).length = 2316 := by
  rw [tuningFile, List.length_append, List.length_append, List.length_append,
    List.length_append, length_flatten_replicate, length_flatten_replicate,
    length_levelHead]
  decide

/-- The parts of a file. -/
theorem tuningFile_at (size : ℕ) :
    At (tuningFile size) 0 fileHead ∧
      At (tuningFile size) 0x50 (levelHead size) ∧
      (∀ i < 25, At (tuningFile size) (0x5c + 16 * i) levelLut) ∧
      At (tuningFile size) 0x1ec globalHead ∧
      ∀ i < 25, At (tuningFile size) (0x204 + 72 * i) globalLut := by
  have hall : At (tuningFile size) 0 (tuningFile size) := by
    rw [At, slice, List.drop_zero, List.take_length]
  obtain ⟨hrest, hglobals⟩ := at_append_iff.mp hall
  obtain ⟨hrest, hglobalHead⟩ := at_append_iff.mp hrest
  obtain ⟨hrest, hlevels⟩ := at_append_iff.mp hrest
  obtain ⟨hfile, hlevelHead⟩ := at_append_iff.mp hrest
  rw [List.length_append, List.length_append, List.length_append,
    length_flatten_replicate, length_levelHead] at hglobals
  rw [List.length_append, List.length_append, length_flatten_replicate,
    length_levelHead] at hglobalHead
  rw [List.length_append, length_levelHead] at hlevels
  exact ⟨hfile, hlevelHead, fun i hi => hlevels.replicate hi, hglobalHead,
    fun i hi => hglobals.replicate hi⟩

/-! ### What is done to the records -/

theorem rescaleRecord_levels {r : Record} {n : ℕ} (hnid : r.nid = 3)
    (h : cmcBlackLevel (r.off + 8) d = (.ok n, d')) :
    rescaleRecord r d = (.ok (n, 0), d') := by
  rw [rescaleRecord, if_pos hnid, bind_ok h, if_neg (by rw [hnid]; decide)]
  rfl

theorem rescaleRecord_globals {r : Record} {n : ℕ} (hnid : r.nid = 31)
    (h : cmcBlackLevelGlobal (r.off + 8) d = (.ok n, d')) :
    rescaleRecord r d = (.ok (0, n), d') := by
  rw [rescaleRecord, if_neg (by rw [hnid]; decide), bind_ok (pure_apply _ d),
    if_pos hnid, bind_ok h]
  rfl

theorem rescaleRecord_other {r : Record} (hlevel : r.nid ≠ 3)
    (hglobal : r.nid ≠ 31) : rescaleRecord r d = (.ok (0, 0), d) := by
  rw [rescaleRecord, if_neg hlevel, bind_ok (pure_apply _ d), if_neg hglobal]
  rfl

/-- The levels of the file are divided, whatever size the record has. -/
theorem tuningFile_levels (size : ℕ) :
    ∃ d₁, cmcBlackLevel 0x58 (tuningFile size) = (.ok 100, d₁) ∧
      AgreeOn {i | i < 0x64 ∨ 0x1ec ≤ i} (tuningFile size) d₁ ∧
      uint d₁ 0x64 2 = 4150 := by
  obtain ⟨-, hhead, hluts, -, -⟩ := tuningFile_at size
  have hlen := length_tuningFile size
  have hnum : word (tuningFile size) 0x58 = 25 :=
    hhead.uint_inside (q := 8) (by rw [length_levelHead])
  have hfield : ∀ i < 25, ∀ c < 4,
      uint (tuningFile size) (levelAt 0x58 i c) 2 = 16600 := by
    intro i hi c hc
    have hall : ∀ c < 4, uint levelLut (8 + 2 * c) 2 = 16600 := by decide
    have hroom : 8 + 2 * c + 2 ≤ levelLut.length := by
      change 8 + 2 * c + 2 ≤ 16
      omega
    have hpos : levelAt 0x58 i c = 0x5c + 16 * i + (8 + 2 * c) := by
      rw [levelAt]
      omega
    rw [hpos, (hluts i hi).uint_inside hroom, hall c hc]
  have hfits : LevelsFit 0x58 25 (tuningFile size) := by
    intro i hi c hc
    refine ⟨?_, ?_⟩
    · change levelAt 0x58 i c + 2 ≤ _
      rw [hlen, levelAt]
      omega
    · change levelField.fits (uint _ _ 2) = true
      rw [hfield i hi c hc]
      decide
  have hpre : LevelsFit 0x58 (word (tuningFile size) 0x58) (tuningFile size) := by
    rwa [hnum]
  obtain ⟨d₁, hrun, hkeep, hscaled⟩ := countedLuts_runs (k := 4)
    (levels_local 0x58) (by omega) hpre
  rw [hnum] at hrun hkeep hscaled
  refine ⟨d₁, hrun, hkeep.mono ?_, ?_⟩
  · rintro i hi ⟨j, hj, c, hc, hlo, hhi⟩
    have hi : i < 0x64 ∨ 0x1ec ≤ i := hi
    rw [levelAt] at hlo hhi
    omega
  · have hfirst : uint d₁ 0x64 2 = quarter (uint (tuningFile size) 0x64 2) :=
      hscaled 0 (by decide) 0 (by decide)
    rw [hfirst, show uint (tuningFile size) 0x64 2 = 16600 from
      hfield 0 (by decide) 0 (by decide)]
    decide

/-- So are the global levels, as long as they still stand there. -/
theorem tuningFile_globals (h : AgreeOn (Set.Ici 0x1ec) (tuningFile size) d) :
    ∃ d₂, cmcBlackLevelGlobal 0x1f4 d = (.ok 400, d₂) ∧
      AgreeOn (Set.Iio 0x204) d d₂ := by
  obtain ⟨-, -, -, hhead, hluts⟩ := tuningFile_at size
  have hlen := length_tuningFile size
  have hnum : word (tuningFile size) 0x1f4 = 25 :=
    hhead.uint_inside (q := 8) (by decide)
  have hsame : word (tuningFile size) 0x1f4 = word d 0x1f4 :=
    h.uint_eq fun i hi _ => le_trans (by decide) hi
  rw [hsame] at hnum
  have hfits : GlobalsFit 0x1f4 25 (tuningFile size) := by
    intro i hi
    have hpos : globalLutAt 0x1f4 i = 0x204 + 72 * i := rfl
    have hlut := hluts i hi
    refine ⟨⟨?_, ?_⟩, fun c hc => ⟨?_, ?_⟩⟩
    · rw [hlen, hpos]
      omega
    · have he : word (tuningFile size) (0x204 + 72 * i) = 400 :=
        hlut.uint_inside (q := 0) (by decide)
      have hg : word (tuningFile size) (0x204 + 72 * i + 4) = 0x3f800000 :=
        hlut.uint_inside (by decide)
      rw [hpos, he, hg]
      decide
    · change globalLutAt 0x1f4 i + 8 + 4 * c + 4 ≤ _
      rw [hlen, hpos]
      omega
    · have hall : ∀ c < 16, floatField.fits (word globalLut (8 + 4 * c)) = true := by
        decide
      have hroom : 8 + 4 * c + 4 ≤ globalLut.length := by
        change 8 + 4 * c + 4 ≤ 72
        omega
      have hword : word (tuningFile size) (0x204 + 72 * i + (8 + 4 * c)) =
          word globalLut (8 + 4 * c) := hlut.uint_inside hroom
      change floatField.fits (word _ _) = true
      rw [hpos, Nat.add_assoc, hword, hall c hc]
  have hspan : AgreeOn (globalSpan 0x1f4 25) (tuningFile size) d :=
    h.mono fun i ⟨j, hj, hlo, hhi⟩ => by
      rw [globalLutAt] at hlo
      change 0x1ec ≤ i
      omega
  have hpre : GlobalsFit 0x1f4 (word d 0x1f4) d := by
    rw [hnum]
    exact (globals_local 0x1f4 25).pre_congr hspan hfits
  obtain ⟨d₂, hrun, hkeep, -⟩ := countedLuts_runs (k := 16)
    (globals_local 0x1f4) (by rw [← h.length, hlen]; decide) hpre
  rw [hnum] at hrun hkeep
  refine ⟨d₂, hrun, hkeep.mono ?_⟩
  rintro i hi ⟨j, hj, hlo, hhi⟩
  have hi : i < 0x204 := hi
  rw [globalLutAt] at hlo
  omega

theorem elem_at (h : At d p bs) (hlen : 8 ≤ bs.length) :
    recordLayout.elem d p = recordLayout.read p (slice bs 0 8) :=
  congrArg (recordLayout.read p)
    (h.slice_inside (show 0 + 8 ≤ bs.length by omega))

theorem goes_at {r : Record} (hlen : d.length = 2316)
    (helem : recordLayout.elem d p = r) (hroom : p + 8 ≤ 2316)
    (htaken : recordLayout.Taken knownName 2316 p r) :
    recordLayout.Goes knownName 2316 d p :=
  ⟨hroom, hlen ▸ hroom, helem ▸ htaken⟩

theorem stops_at_end (d : Bytes) : recordLayout.Stops knownName 2316 d 2316 :=
  fun hroom => absurd hroom (by decide)

theorem runs_at {r : Record} {c : ℕ × ℕ} {cs : List (ℕ × ℕ)} {d₁ d₂ : Bytes}
    (hgo : recordLayout.Goes knownName 2316 d p)
    (helem : recordLayout.elem d p = r)
    (hdone : rescaleRecord r d = (.ok c, d₁))
    (hrest : recordLayout.Runs knownName 2316 (fun _ => rescaleRecord) d₁
      (p + r.size) cs d₂) :
    recordLayout.Runs knownName 2316 (fun _ => rescaleRecord) d p (c :: cs)
      d₂ := by
  subst helem
  exact .next hgo hdone hrest

theorem tuningFile_lastRecord (size : ℕ) :
    recordLayout.elem (tuningFile size) 0x1ec = ⟨0x1ec, 1824, 0, 0, 31⟩ := by
  obtain ⟨-, -, -, hhead, -⟩ := tuningFile_at size
  rw [elem_at hhead (by decide)]
  decide

theorem tuningFile_last (h : AgreeOn (Set.Ici 0x1ec) (tuningFile size) d) :
    ∃ d₂, recordLayout.Runs knownName 2316 (fun _ => rescaleRecord) d 0x1ec
        [(0, 400)] d₂ ∧ AgreeOn (Set.Iio 0x204) d d₂ := by
  obtain ⟨d₂, hrun, hkeep⟩ := tuningFile_globals h
  have hlen : d.length = 2316 := h.length ▸ length_tuningFile size
  have hsame : recordLayout.elem (tuningFile size) 0x1ec =
      recordLayout.elem d 0x1ec :=
    congrArg (recordLayout.read _) (h.slice_eq fun i hi _ => hi)
  have helem := hsame.symm.trans (tuningFile_lastRecord size)
  have hgo := goes_at hlen helem (by decide) (by decide)
  exact ⟨d₂, runs_at hgo helem (rescaleRecord_globals rfl hrun)
    (.stop (stops_at_end d₂)), hkeep⟩

theorem tuningFile_head {d₁ d₂ : Bytes}
    (hlevels : AgreeOn {i | i < 0x64 ∨ 0x1ec ≤ i} (tuningFile size) d₁)
    (hglobals : AgreeOn (Set.Iio 0x204) d₁ d₂) :
    AgreeOn (Set.Iio 0x50) (tuningFile size) d₂ := by
  have hlow : AgreeOn (Set.Iio 0x50) (tuningFile size) d₁ :=
    hlevels.mono fun i (hi : i < 0x50) => .inl (by omega)
  exact hlow.trans (hglobals.mono fun i (hi : i < 0x50) => by
    change i < 0x204
    omega)

/-- The patch finishes on a file once its records are rescaled. -/
theorem tuningFile_finishes {counts : List (ℕ × ℕ)}
    (hrun : recordLayout.Runs knownName 2316 (fun _ => rescaleRecord)
      (tuningFile size) 0x50 counts d)
    (hlevels : (counts.map Prod.fst).sum = 100)
    (hglobals : (counts.map Prod.snd).sum = 400)
    (hkeep : AgreeOn (Set.Iio 0x50) (tuningFile size) d) :
    ∃ d₂ out, BlcRun (tuningFile size) counts d d₂ out := by
  obtain ⟨hhead, -⟩ := tuningFile_at size
  have hlen := length_tuningFile size
  have hsize : word d 0x3c = 2260 := by
    have hsame : word (tuningFile size) 0x3c = word d 0x3c :=
      hkeep.uint_eq fun i _ hi => lt_trans hi (by decide)
    rw [← hsame]
    exact hhead.uint_inside (q := 0x3c) (by decide)
  have hin : ∀ d : Bytes, d.length = 2316 → ∀ lo, lo % 4 = 0 →
      ∀ o ∈ offsets lo 2316, o + 4 ≤ d.length := by
    intro d hlen lo hlo o ho
    obtain ⟨-, hhi, i, rfl⟩ := mem_offsets ho
    omega
  have hlen₁ : d.length = 2316 := hkeep.length ▸ hlen
  obtain ⟨d₂, hsection, hlen₂⟩ := writeSum_runs 0x4c
    (hin d hlen₁ 0x38 (by decide)) (by rw [hlen₁]; decide)
  have hlen₂ : d₂.length = 2316 := hlen₂.trans hlen₁
  obtain ⟨out, hfile, -⟩ := writeSum_runs 0x14
    (hin d₂ hlen₂ 0 (by decide)) (by rw [hlen₂]; decide)
  refine ⟨d₂, out, ?_⟩
  exact
    { magic := (hhead.slice_inside (q := 0) (by decide)).trans (by decide)
      records := by
        rw [hlen]
        exact hrun.forEach
      levels := hlevels
      globals := hglobals
      header := by rw [hlen₁]; decide
      sectionSum := hsize.symm ▸ hsection
      fileSum := hlen₂.symm ▸ hfile }

/-- With the right size, the file has two records. -/
theorem tuningFile_whole : ∃ out, patchBlc (tuningFile 412) = (.ok (), out) := by
  obtain ⟨-, hhead, -⟩ := tuningFile_at 412
  obtain ⟨d₁, hlevels, hkeep, -⟩ := tuningFile_levels 412
  obtain ⟨d₂, hlast, hkeep'⟩ := tuningFile_last (hkeep.mono fun i hi => .inr hi)
  have helem : recordLayout.elem (tuningFile 412) 0x50 = ⟨0x50, 412, 0, 0, 3⟩ := by
    rw [elem_at hhead (by decide)]
    decide
  have hgo := goes_at (length_tuningFile 412) helem (by decide) (by decide)
  have hrun := runs_at hgo helem (rescaleRecord_levels rfl hlevels) hlast
  obtain ⟨d₃, out, hblc⟩ :=
    tuningFile_finishes hrun rfl rfl (tuningFile_head hkeep hkeep')
  exact ⟨out, hblc.finishes⟩

/-- What the patch leaves of that file has right checksums. -/
theorem patchBlc_sums_tuningFile :
    ∃ out, patchBlc (tuningFile 412) = (.ok (), out) ∧
      SumStored out 0x38 (0x38 + word out 0x3c) 0x4c ∧
      SumStored out 0 out.length 0x14 := by
  obtain ⟨out, hout⟩ := tuningFile_whole
  exact ⟨out, hout, patchBlc_sums (tuningFile 412) out hout⟩

/-- Its tables are inside their records. -/
theorem tuningFile_lutsInside : LutsInside (tuningFile 412) := by
  obtain ⟨-, hhead, -, hhead', -⟩ := tuningFile_at 412
  have hlen := length_tuningFile 412
  have hlevels : recordLayout.elem (tuningFile 412) 0x50 =
      ⟨0x50, 412, 0, 0, 3⟩ := by
    rw [elem_at hhead (by decide)]
    decide
  have hglobals := tuningFile_lastRecord 412
  have hnum : numAt (tuningFile 412) 0x50 = 25 :=
    (hhead.uint_inside (q := 8) (n := 4) (by decide)).trans (by decide)
  have hnum' : word (tuningFile 412) (0x1ec + 8) = 25 :=
    hhead'.uint_inside (by decide)
  have hnid : nidAt (tuningFile 412) 0x50 = 3 := congrArg Record.nid hlevels
  have hnid' : nidAt (tuningFile 412) 0x1ec = 31 :=
    congrArg Record.nid hglobals
  have hsize : sizeAt (tuningFile 412) 0x50 = 412 :=
    congrArg Record.size hlevels
  have hsize' : sizeAt (tuningFile 412) 0x1ec = 1824 :=
    congrArg Record.size hglobals
  rintro q ⟨hq, hgo⟩
  obtain rfl | ⟨-, hq⟩ := hq.head
  · have hfits : 12 + 16 * numAt (tuningFile 412) 0x50 ≤
        sizeAt (tuningFile 412) 0x50 := by
      rw [hnum, hsize]
    exact ⟨fun _ => .inr hfits, fun h => absurd (hnid.symm.trans h) (by decide)⟩
  · have hnext : 0x50 + recordLayout.size (recordLayout.elem (tuningFile 412) 0x50) =
        0x1ec := by
      rw [hlevels]
      decide
    rw [hnext] at hq
    obtain rfl | ⟨-, hq⟩ := hq.head
    · have hfits : 24 + 72 * numAt (tuningFile 412) 0x1ec ≤
          sizeAt (tuningFile 412) 0x1ec := by
        rw [numAt, hnum', hsize']
      exact ⟨fun h => absurd (hnid'.symm.trans h) (by decide),
        fun _ => .inr hfits⟩
    · have hlast : recordLayout.size (recordLayout.elem (tuningFile 412) 0x1ec) =
          1824 := by
        rw [hglobals]
        decide
      have hlate := hq.le
      have hroom := hgo.room
      rw [hlast] at hlate
      rw [hlen] at hroom
      change q + 8 ≤ 2316 at hroom
      omega

/-- With a size that leaves the tables to another record, they are divided all
the same. -/
theorem tuningFile_overrun :
    ∃ out, patchBlc (tuningFile 12) = (.ok (), out) ∧
      Walked (tuningFile 12) 0x5c ∧ nidAt (tuningFile 12) 0x5c = 1 ∧
      sizeAt (tuningFile 12) 0x5c = 400 ∧ uint out 0x64 2 = 4150 := by
  obtain ⟨-, hhead, hluts, -, -⟩ := tuningFile_at 12
  have hlen := length_tuningFile 12
  obtain ⟨d₁, hlevels, hkeep, hlevel⟩ := tuningFile_levels 12
  have hlen₁ : d₁.length = 2316 := hkeep.length ▸ hlen
  obtain ⟨d₂, hlast, hkeep'⟩ := tuningFile_last (hkeep.mono fun i hi => .inr hi)
  have helem : recordLayout.elem (tuningFile 12) 0x50 = ⟨0x50, 12, 0, 0, 3⟩ := by
    rw [elem_at hhead (by decide)]
    decide
  have helem' : recordLayout.elem (tuningFile 12) 0x5c = ⟨0x5c, 400, 0, 0, 1⟩ := by
    rw [elem_at (hluts 0 (by decide)) (by decide)]
    decide
  have hgo := goes_at hlen helem (by decide) (by decide)
  have hgo' := goes_at hlen helem' (by decide) (by decide)
  have helem₁ : recordLayout.elem d₁ 0x5c = ⟨0x5c, 400, 0, 0, 1⟩ := by
    have hsame : recordLayout.elem (tuningFile 12) 0x5c =
        recordLayout.elem d₁ 0x5c :=
      congrArg (recordLayout.read _) (hkeep.slice_eq fun i _ hi => .inl hi)
    rw [← hsame, helem']
  have hgo₁ := goes_at hlen₁ helem₁ (by decide) (by decide)
  have hrest := runs_at hgo₁ helem₁
    (rescaleRecord_other (by decide) (by decide)) hlast
  have hrun := runs_at hgo helem (rescaleRecord_levels rfl hlevels) hrest
  obtain ⟨d₃, out, hblc⟩ :=
    tuningFile_finishes hrun rfl rfl (tuningFile_head hkeep hkeep')
  have hreach := Layout.Reaches.next .start hgo
  rw [helem] at hreach
  have hwalked : Walked (tuningFile 12) 0x5c := by
    rw [Walked, hlen]
    exact ⟨hreach, hgo'⟩
  have hafter : uint d₁ 0x64 2 = uint d₂ 0x64 2 :=
    hkeep'.uint_eq fun i _ (hi : i < 0x66) => by
      change i < 0x204
      omega
  have hafter' : uint d₂ 0x64 2 = uint out 0x64 2 :=
    hblc.kept.uint_eq fun i (hi : 0x64 ≤ i) _ => ⟨by omega, by omega⟩
  exact ⟨out, hblc.finishes, hwalked, congrArg Record.nid helem',
    congrArg Record.size helem', by rw [← hafter', ← hafter, hlevel]⟩

/-- The patch changes a record that is no black level. -/
theorem patchBlc_otherRecord :
    ¬ ∀ d out, patchBlc d = (.ok (), out) → OnlyBlackLevels d out := by
  intro hall
  obtain ⟨out, hout, hwalked, hnid, hsize, hlevel⟩ := tuningFile_overrun
  obtain ⟨-, -, hluts, -, -⟩ := tuningFile_at 12
  have hbody := (hall _ _ hout).bodies 0x5c hwalked (by rw [hnid]; decide)
    (by rw [hnid]; decide)
  rw [hsize] at hbody
  have hsame : uint out 0x64 2 = uint (tuningFile 12) 0x64 2 := by
    have hin := uint_slice out 0x5c (show 8 + 2 ≤ 400 by decide)
    have hin' := uint_slice (tuningFile 12) 0x5c (show 8 + 2 ≤ 400 by decide)
    rw [hbody, hin'] at hin
    exact hin.symm
  have hbefore : uint (tuningFile 12) 0x64 2 = 16600 :=
    (hluts 0 (by decide)).uint_inside (q := 8) (by decide)
  rw [hlevel, hbefore] at hsame
  cases hsame

/-- The patch changes only black levels of the file with the right size. -/
theorem patchBlc_onlyBlackLevels_tuningFile :
    ∃ out, patchBlc (tuningFile 412) = (.ok (), out) ∧
      OnlyBlackLevels (tuningFile 412) out := by
  obtain ⟨out, hout⟩ := tuningFile_whole
  exact ⟨out, hout, patchBlc_onlyBlackLevels (tuningFile 412) out hout
    tuningFile_lutsInside⟩

end Files

end Aiqb
end SurfaceCameras
