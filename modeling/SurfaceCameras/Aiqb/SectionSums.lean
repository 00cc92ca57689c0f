import SurfaceCameras.Aiqb.NoiseSections
import SurfaceCameras.Support.WordSums

/-!
# Sections whose sums change

The patch writes a new checksum in the last section that it has rescaled, and
in no other.  The sections before it keep a right checksum only if what changed
in them adds up to nothing: the values that were written against those that
were there, each with what it counts in the words of its section.

A last section too short for its own checksum has it written into what follows,
and there the checksums have to be right with it.
-/

namespace SurfaceCameras
namespace Aiqb

open Bytes Prog

/-! ## Words of two files -/

section Sums

variable {d d' : Bytes} {lo hi pos : ℕ}

/-- Two sums differ as their words do, but for multiples of `2 ^ 32`. -/
theorem addWords_change (hlen : d.length = d'.length)
    (hpos : word d pos = word d' pos) {os : List ℕ} {t r : ℕ} (t' : ℕ)
    (h : (addWords pos os t d).1 = .ok r) :
    ∃ (r' : ℕ) (k : ℤ), (addWords pos os t' d').1 = .ok r' ∧
      (r' : ℤ) - r = t' - t +
        (os.map fun o => (word d' o : ℤ) - word d o).sum + 2 ^ 32 * k := by
  induction os generalizing t t' with
  | nil =>
      obtain rfl : t = r := by simpa [addWords] using h
      exact ⟨t', 0, rfl, by simp⟩
  | cons o os ih =>
      simp only [addWords, List.map_cons, List.sum_cons] at h ⊢
      by_cases ho : o = pos
      · subst ho
        rw [if_neg (not_not.mpr rfl)] at h
        obtain ⟨r', k, hr', hsum⟩ := ih t' h
        refine ⟨r', k, ?_, ?_⟩
        · rw [if_neg (not_not.mpr rfl)]
          exact hr'
        · rw [hpos, hsum]
          omega
      · rw [if_pos ho] at h
        by_cases hin : o + 4 ≤ d.length
        · rw [bind_ok (unpackFrom_ok _ hin)] at h
          obtain ⟨r', k, hr', hsum⟩ := ih ((t' + word d' o) % 2 ^ 32) h
          have hread : ∀ e : Bytes, word (slice e o 4) 0 = word e o :=
            fun e => uint_slice e o (by decide)
          refine ⟨r', k + (t + word d o : ℕ) / 2 ^ 32 -
            (t' + word d' o : ℕ) / 2 ^ 32, ?_, ?_⟩
          · rw [if_pos ho, bind_ok (unpackFrom_ok _ (hlen ▸ hin)), hread]
            exact hr'
          · rw [hread] at hsum
            omega
        · rw [bind_error (unpackFrom_error _ (Nat.lt_of_not_le hin))] at h
          cases h

/-- A sum that is right is the same if the changes of its words add up to
nothing. -/
theorem selfsum_eq_iff (hlen : d.length = d'.length)
    (hpos : word d pos = word d' pos) {r : ℕ}
    (h : (selfsum lo hi pos d).1 = .ok r) :
    (selfsum lo hi pos d').1 = (selfsum lo hi pos d).1 ↔
      (2 ^ 32 : ℤ) ∣ ∑ j ∈ Finset.range ((hi - lo + 3) / 4),
        ((word d' (lo + 4 * j) : ℤ) - word d (lo + 4 * j)) := by
  obtain ⟨r', k, hr', hsum⟩ := addWords_change hlen hpos 0 h
  have hlist : ((offsets lo hi).map fun o => (word d' o : ℤ) - word d o).sum =
      ∑ j ∈ Finset.range ((hi - lo + 3) / 4),
        ((word d' (lo + 4 * j) : ℤ) - word d (lo + 4 * j)) := by
    rw [offsets, List.map_map]
    rfl
  have hlt : r < 2 ^ 32 := addWords_lt (Nat.two_pow_pos 32) h
  have hlt' : r' < 2 ^ 32 := addWords_lt (Nat.two_pow_pos 32) hr'
  rw [hlist] at hsum
  rw [h, selfsum, hr', Except.ok.injEq]
  omega

end Sums

/-! ## What rescaling changes -/

/-- What a value counts that begins `r` bytes into a word: its bytes count where
they stand, the highest `r` of them at the bottom of the next word. -/
def counted (r : ℕ) (v : ℤ) : ℤ := rotate r (ofSigned v)

/-- By how much rescaling a parameter changes the sum of its section: what the
values count that are written, against those that were there. -/
def sumChange (F : Floats) (d : Bytes) (s : Section) (e : Subparam) : ℤ :=
  let r := (e.vo - s.hdr) % 4
  (((newValues F d e).zip (valuesOf d e)).map fun v =>
    counted r v.1 - counted r v.2).sum

/-- At `p`, the section has a parameter that is rescaled. -/
def RescaledIn (F : Floats) (d : Bytes) (s : Section) (p : ℕ) : Prop :=
  (∃ off, recordLayout.On (fun _ => true) s.stop d s.start off ∧
    ParamOf d off p) ∧ Rescales F d (paramLayout.elem d p)

open Classical in
/-- Where the parameters are that are rescaled. -/
noncomputable def rescaledParams (F : Floats) (d : Bytes) (s : Section) :
    Finset ℕ :=
  (Finset.range d.length).filter (RescaledIn F d s)

section Params

variable {F : Floats} {d d' : Bytes} {s : Section} {off p q : ℕ}

theorem mem_rescaledParams :
    p ∈ rescaledParams F d s ↔ RescaledIn F d s p := by
  classical
  unfold rescaledParams
  rw [Finset.mem_filter, Finset.mem_range]
  refine and_iff_right_of_imp fun h => ?_
  obtain ⟨⟨off, -, hp⟩, -⟩ := h
  have hin : p + 28 ≤ d.length := hp.2.2.inside
  omega

/-- The bytes of the values of the parameter at `p`. -/
def valueSpan (d : Bytes) (p : ℕ) : Finset ℕ :=
  Finset.Ico (paramLayout.elem d p).vo
    ((paramLayout.elem d p).vo + 4 * (paramLayout.elem d p).n1)

theorem RescaledIn.inside (h : RescaledIn F d s p) :
    s.start ≤ p ∧ p ≤ (paramLayout.elem d p).vo ∧
      (paramLayout.elem d p).vo + 4 * (paramLayout.elem d p).n1 ≤
        paramLayout.after d p ∧ paramLayout.after d p ≤ s.stop := by
  obtain ⟨⟨off, hoff, hp⟩, hrescales⟩ := h
  obtain ⟨hvo, -, hroom⟩ := hrescales.inside
  obtain ⟨hstart, hend⟩ := hp.inside
  have hfirst := hoff.start_le
  have hlast := hoff.le_limit
  exact ⟨by omega, by omega, hroom, by omega⟩

/-- Two parameters have their values apart. -/
theorem valueSpan_disjoint (hp : RescaledIn F d s p) (hq : RescaledIn F d s q)
    (hne : p ≠ q) : Disjoint (valueSpan d p) (valueSpan d q) := by
  have hapart : paramLayout.after d p ≤ q ∨ paramLayout.after d q ≤ p := by
    obtain ⟨⟨off, hoff, hparam⟩, -⟩ := hp
    obtain ⟨⟨off', hoff', hparam'⟩, -⟩ := hq
    obtain ⟨hlo, hhi⟩ := hparam.inside
    obtain ⟨hlo', hhi'⟩ := hparam'.inside
    obtain rfl | hbefore | hafter := hoff.trichotomy hoff'
    · obtain rfl | hapart := hparam.2.trichotomy hparam'.2
      · exact absurd rfl hne
      · exact hapart
    · exact .inl (by omega)
    · exact .inr (by omega)
  obtain ⟨-, hlo, hhi, -⟩ := hp.inside
  obtain ⟨-, hlo', hhi', -⟩ := hq.inside
  rw [Finset.disjoint_left]
  intro i hi hi'
  have hi := Finset.mem_Ico.mp hi
  have hi' := Finset.mem_Ico.mp hi'
  omega

/-! ### The values of one parameter -/

theorem ofSigned_toSigned {w : ℕ} (hw : w < 256 ^ 4) :
    ofSigned (toSigned w) = w := by
  simp only [ofSigned, toSigned]
  split <;> omega

/-- What the values from `vo` on weigh. -/
theorem weigh_values {lo vo n : ℕ} (hvo : lo ≤ vo) (d : Bytes) :
    (weigh lo (Finset.Ico vo (vo + 4 * n)) d : ℤ) =
      (((words n (slice d vo (4 * n))).map toSigned).map
        (counted ((vo - lo) % 4))).sum := by
  have hword : ∀ j ∈ List.range n,
      counted ((vo - lo) % 4) (toSigned (word (slice d vo (4 * n)) (4 * j))) =
        (rotate ((vo - lo) % 4) (word d (vo + 4 * j)) : ℤ) := by
    intro j hj
    have hj := List.mem_range.mp hj
    have hread : word (slice d vo (4 * n)) (4 * j) = word d (vo + 4 * j) :=
      uint_slice d vo (by omega)
    rw [counted, hread, ofSigned_toSigned (word_lt d _)]
  rw [weigh_words d hvo, words, List.map_map, List.map_map, Nat.cast_sum]
  exact (congrArg List.sum (List.map_congr_left hword)).symm

/-- Values that were written are counted as they are. -/
theorem counted_written {vo n r : ℕ} {vs : List ℤ}
    (hroom : vo + 4 * vs.length ≤ d.length) (hn : vs.length = n) :
    (((words n (slice (write d vo (packSigned vs)) vo (4 * n))).map
        toSigned).map (counted r)).sum = (vs.map (counted r)).sum := by
  subst hn
  congr 1
  refine List.ext_getElem? fun i => ?_
  rw [List.getElem?_map, List.getElem?_map, List.getElem?_map]
  by_cases hi : i < vs.length
  · have hofSigned : ofSigned (toSigned (ofSigned vs[i])) = ofSigned vs[i] :=
      ofSigned_toSigned (ofSigned_lt _)
    rw [getElem?_words hi, word_write_packSigned hroom hi,
      List.getElem?_eq_getElem hi]
    simp only [Option.map_some, counted, hofSigned]
  · have hout := Nat.le_of_not_lt hi
    rw [List.getElem?_eq_none hout,
      List.getElem?_eq_none (by rw [length_words]; exact hout)]
    rfl

/-- Where the values begin words, they change the sum by what they add up to,
but for multiples of `2 ^ 32`. -/
theorem sumChange_aligned {e : Subparam} (h : (e.vo - s.hdr) % 4 = 0) :
    (2 ^ 32 : ℤ) ∣ sumChange F d s e -
      (((newValues F d e).zip (valuesOf d e)).map fun v => v.1 - v.2).sum := by
  rw [sumChange, h]
  induction (newValues F d e).zip (valuesOf d e) with
  | nil => exact dvd_zero _
  | cons v vs ih =>
      have hcounted : ∀ x : ℤ, counted 0 x = x % 2 ^ 32 := by
        intro x
        rw [counted, rotate_zero (ofSigned_lt x), ofSigned]
        exact Int.toNat_of_nonneg (Int.emod_nonneg x (by decide))
      rw [List.map_cons, List.sum_cons, List.map_cons, List.sum_cons,
        hcounted, hcounted]
      omega

/-- The difference of two sums, value by value. -/
theorem sum_zip_sub {α : Type} (f : α → ℤ) {xs ys : List α}
    (h : xs.length = ys.length) :
    ((xs.zip ys).map fun v => f v.1 - f v.2).sum =
      (xs.map f).sum - (ys.map f).sum := by
  induction xs generalizing ys with
  | nil =>
      obtain rfl : ys = [] := List.eq_nil_of_length_eq_zero h.symm
      rfl
  | cons x xs ih =>
      cases ys with
      | nil => cases h
      | cons y ys =>
          have hlen : xs.length = ys.length := Nat.succ.inj h
          simp only [List.zip_cons_cons, List.map_cons, List.sum_cons, ih hlen]
          omega

/-- What rescaling a parameter changes in the sum. -/
theorem weigh_rescaled (hp : RescaledIn F d s p) (hlen : d.length = d'.length)
    (hdone : AgreeOn (Set.Ico p (paramLayout.after d p))
      ((paramEdit F d).edited p) d') :
    (weigh s.hdr (valueSpan d p) d' : ℤ) - weigh s.hdr (valueSpan d p) d =
      sumChange F d s (paramLayout.elem d p) := by
  obtain ⟨hstart, hlo, hhi, -⟩ := hp.inside
  have hvo : s.hdr ≤ (paramLayout.elem d p).vo := by
    rw [Section.start] at hstart
    omega
  have hedited : (paramEdit F d).edited p = write d (paramLayout.elem d p).vo
      (packSigned (newValues F d (paramLayout.elem d p))) := if_pos hp.2
  have hspan : weigh s.hdr (valueSpan d p) d' =
      weigh s.hdr (valueSpan d p) ((paramEdit F d).edited p) := by
    apply weigh_congr
    refine hdone.symm.mono fun i hi => ?_
    have hi := Finset.mem_Ico.mp hi
    exact ⟨by omega, by omega⟩
  rw [hspan, hedited, sumChange]
  cases hnew : rescale F (valuesOf d (paramLayout.elem d p))
      (axisOf d (paramLayout.elem d p)) with
  | none =>
      have hnone : newValues F d (paramLayout.elem d p) = [] := by
        rw [newValues, hnew]
        rfl
      have hsame : write d (paramLayout.elem d p).vo (packSigned []) = d := by
        simp [write, packSigned]
      rw [hnone, hsame, sub_self]
      rfl
  | some new =>
      have hsome : newValues F d (paramLayout.elem d p) = new := by
        rw [newValues, hnew]
        rfl
      have hcount : new.length = (paramLayout.elem d p).n1 := by
        rw [length_rescale_eq hnew, length_axisOf, length_valuesOf, min_self]
      have hroom : (paramLayout.elem d p).vo + 4 * new.length ≤ d.length := by
        have hfour := hp.2.inside.2.1
        have hwritten := hdone.length.trans hlen.symm
        rw [hedited, hsome, write, List.length_append, List.length_append,
          length_packSigned, List.length_take, List.length_drop] at hwritten
        omega
      rw [hsome, valueSpan, weigh_values hvo, weigh_values hvo,
        counted_written hroom hcount, sum_zip_sub _ (by
          rw [hcount, length_valuesOf])]
      rfl

end Params

/-! ## The sum of a section -/

section SectionSum

variable {F : Floats} {n : ℕ} {d d' : Bytes} {s : Section}

/-- The words of a section change by what its rescaled parameters change. -/
theorem words_change (h : ChainEdited F d s.start s.stop d') :
    ∑ j ∈ Finset.range ((s.stop - s.hdr + 3) / 4),
        ((word d' (s.hdr + 4 * j) : ℤ) - word d (s.hdr + 4 * j)) =
      ∑ p ∈ rescaledParams F d s, sumChange F d s (paramLayout.elem d p) := by
  let S := Finset.Ico s.hdr (s.hdr + 4 * ((s.stop - s.hdr + 3) / 4))
  let T := (rescaledParams F d s).biUnion (valueSpan d)
  have hsub : T ⊆ S := by
    intro i hi
    obtain ⟨p, hp, hi⟩ := Finset.mem_biUnion.mp hi
    obtain ⟨hstart, hlo, hhi, hstop⟩ := (mem_rescaledParams.mp hp).inside
    have hi := Finset.mem_Ico.mp hi
    rw [Section.start] at hstart
    exact Finset.mem_Ico.mpr ⟨by omega, by omega⟩
  have hkept : AgreeOn {i | i ∈ S ∧ i ∉ T} d d' := by
    refine h.kept.mono fun i hi off hoff p hp hspan => hi.2 ?_
    obtain ⟨hrescales, hlo, hhi⟩ := hspan
    exact Finset.mem_biUnion.mpr ⟨p, mem_rescaledParams.mpr
      ⟨⟨off, hoff, hp⟩, hrescales⟩, Finset.mem_Ico.mpr ⟨hlo, hhi⟩⟩
  have hparams : ∀ e : Bytes, weigh s.hdr T e =
      ∑ p ∈ rescaledParams F d s, weigh s.hdr (valueSpan d p) e := by
    refine fun e => Finset.sum_biUnion fun p hp q hq hne => ?_
    exact valueSpan_disjoint (mem_rescaledParams.mp hp)
      (mem_rescaledParams.mp hq) hne
  have hone : ∀ p ∈ rescaledParams F d s,
      (weigh s.hdr (valueSpan d p) d' : ℤ) - weigh s.hdr (valueSpan d p) d =
        sumChange F d s (paramLayout.elem d p) := by
    intro p hp
    obtain ⟨⟨off, hoff, hparam⟩, -⟩ := mem_rescaledParams.mp hp
    exact weigh_rescaled (mem_rescaledParams.mp hp) h.kept.length
      (h.done off hoff p hparam)
  calc
    _ = (weigh s.hdr S d' : ℤ) - weigh s.hdr S d := by
        rw [Finset.sum_sub_distrib, ← sum_words, ← sum_words, Nat.cast_sum,
          Nat.cast_sum]
    _ = (weigh s.hdr T d' : ℤ) - weigh s.hdr T d := weigh_change hsub hkept
    _ = ∑ p ∈ rescaledParams F d s, ((weigh s.hdr (valueSpan d p) d' : ℤ) -
          weigh s.hdr (valueSpan d p) d) := by
        rw [hparams, hparams, Nat.cast_sum, Nat.cast_sum,
          Finset.sum_sub_distrib]
    _ = _ := Finset.sum_congr rfl hone

/-- A section before the last one whose checksum was right has a right one
afterwards if what changed in it adds up to nothing. -/
theorem sectionOk_rescaled_iff (hok : SectionOk d s)
    (h : ChainEdited F d s.start s.stop (rescaled F n d s)) :
    SectionOk (rescaled F n d s) s ↔
      (2 ^ 32 : ℤ) ∣ ∑ p ∈ rescaledParams F d s,
        sumChange F d s (paramLayout.elem d p) := by
  have hword : word d (s.hdr + 0x14) =
      word (rescaled F n d s) (s.hdr + 0x14) := by
    refine h.kept.uint_eq fun i hlo hhi off hoff p hp hspan => ?_
    obtain ⟨hstart, hvo, -⟩ := RescaledIn.inside
      (F := F) (d := d) (s := s) (p := p) ⟨⟨off, hoff, hp⟩, hspan.1⟩
    have hbegin := hspan.2.1
    rw [Section.start] at hstart
    omega
  rw [sectionOk_rescaled hok, selfsum_eq_iff h.kept.length hword hok.2,
    words_change h]

end SectionSum

/-! ## The whole patch -/

/-- Checksums that were right are right, and so is that of the file. -/
def KeepsChecksums (d out : Bytes) (ss : List Section) : Prop :=
  (∀ s ∈ ss, SectionOk d s → SectionOk out s) ∧ FileOk out

/-- In the sections rescaled before the last one, what the values count that
are written, against those that were there, adds up to nothing. -/
def EarlierSumsKept (F : Floats) (d : Bytes) (xs : List Section) : Prop :=
  ∀ s ∈ xs, s.path = "LISP/DFLT" → SectionOk d s →
    (2 ^ 32 : ℤ) ∣ ∑ p ∈ rescaledParams F d s,
      sumChange F d s (paramLayout.elem d p)

/-- If the last section is too short for its own checksum, the sections after
it have right checksums with that checksum written into them. -/
def LaterSpared (d : Bytes) (L : Section) (ys : List Section) : Prop :=
  L.stop < L.start → ∀ t, sectionSum d L = .ok t → ∀ s ∈ ys, SectionOk d s →
    SectionOk (write d (L.hdr + 0x14) (toLe 4 t)) s

theorem PatchRun.chainEdited {F : Floats} {n t : ℕ} {d out d₁ : Bytes}
    {xs ys : List Section} {L s : Section} (h : PatchRun F n d out xs L ys d₁ t)
    (hs : s ∈ xs) (hpath : s.path = "LISP/DFLT") :
    ChainEdited F d s.start s.stop (rescaled F n d s) := by
  obtain ⟨as, bs, rfl⟩ := List.mem_iff_append.mp hs
  have hedited := h.edited
  have hordered := h.ordered
  rw [List.append_assoc, List.cons_append] at hedited hordered
  obtain ⟨-, -, hearlier⟩ := List.pairwise_append.mp hordered
  obtain ⟨new, hok⟩ := hedited.alone_ok fun x hx =>
    (hearlier x hx s List.mem_cons_self).1
  exact patchSection_edits hpath hok

/-- On every file the patch finishes on: the checksums that were right are all
right afterwards if and only if the sections rescaled before the last one still
add up, and the last one, if it is too short for its own checksum, spares the
sections it runs into. -/
theorem patch_keepsChecksums_iff (F : Floats) (n : ℕ) (d out : Bytes)
    (h : patch F n d = (.ok (), out)) :
    ∃ xs L ys, walkFrom nrSectionTags d n .start = some (xs ++ L :: ys) ∧
      LastTarget L ys ∧
      (KeepsChecksums d out (xs ++ L :: ys) ↔
        EarlierSumsKept F d xs ∧ LaterSpared d L ys) := by
  obtain ⟨xs, L, ys, d₁, t, hrun⟩ := patch_run h
  refine ⟨xs, L, ys, hrun.found, hrun.target, ?_⟩
  constructor
  · rintro ⟨hkeeps, -⟩
    constructor
    · intro s hs hpath hok
      rw [← sectionOk_rescaled_iff hok (hrun.chainEdited hs hpath),
        ← hrun.sectionOk_before hs]
      exact hkeeps s (by simp [hs]) hok
    · intro hrunt t' ht' s hs hok
      obtain rfl : t = t' := by
        have := (hrun.sum_of_runt hrunt).symm.trans ht'
        simpa using this
      rw [← hrun.sectionOk_after hs]
      exact hkeeps s (by simp [hs]) hok
  · rintro ⟨hearlier, hlater⟩
    refine ⟨fun s hs hok => ?_, hrun.file⟩
    obtain hbefore | hs := List.mem_append.mp hs
    · rw [hrun.sectionOk_before hbefore]
      by_cases hpath : s.path = "LISP/DFLT"
      · exact (sectionOk_rescaled_iff hok (hrun.chainEdited hbefore hpath)).mpr
          (hearlier s hbefore hpath hok)
      · rwa [rescaled_of_ne hpath]
    · obtain rfl | hafter := List.mem_cons.mp hs
      · exact hrun.sectionOk_last
      · by_cases hroom : L.start ≤ L.stop
        · exact (hrun.sectionOk_after_of_room hroom hafter).mpr hok
        · have hrunt := Nat.lt_of_not_le hroom
          exact (hrun.sectionOk_after hafter).mpr
            (hlater hrunt t (hrun.sum_of_runt hrunt) s hafter hok)

/-- Both sections are rescaled, and only the second one gets a new checksum. -/
theorem patch_staleChecksum :
    let s : Section := ⟨"LISP/DFLT", 0x38, 0x98⟩
    (patch exactFloats 8 twoSections).1 = .ok () ∧
      (walkFrom nrSectionTags twoSections 8 .start).any (s ∈ ·) ∧
      SectionOk twoSections s ∧
      ¬ SectionOk (patch exactFloats 8 twoSections).2 s := by
  decide +kernel

/-- A section of another algorithm, with a right checksum. -/
def otherSection : Bytes :=
  ascii "AIQB" ++ [96, 1, 0, 0, 0xedb2bc97].flatMap (toLe 4) ++
    (toLe 4 72 ++ toLe 2 0 ++ toLe 2 60001) ++
    (toLe 4 64 ++ toLe 2 0x64 ++ toLe 2 0x8000) ++
    [28867, 0, 4, 1, 1, 0x3f800000, 0x40000000, 0x40800000, 0x41800000,
      0x3f800000, 64, 64, 64, 128].flatMap (toLe 4)

/-- A file in which only the second of two sections is rescaled. -/
def oneRescaled : Bytes :=
  ascii "CPFF" ++ List.replicate 0x14 0 ++
    (ascii "LISP" ++ [224, 1, 0].flatMap (toLe 4)) ++
    (ascii "DFLT" ++ [208, 1, 0].flatMap (toLe 4)) ++ otherSection ++ nrSection

/-- There the checksums that were right are right, and the condition holds. -/
theorem patch_keepsChecksums_oneRescaled :
    ∃ xs L ys, walkFrom nrSectionTags oneRescaled 8 .start =
        some (xs ++ L :: ys) ∧ LastTarget L ys ∧ xs ≠ [] ∧
      (∀ s ∈ xs ++ L :: ys, SectionOk oneRescaled s) ∧
      KeepsChecksums oneRescaled (patch exactFloats 8 oneRescaled).2
        (xs ++ L :: ys) ∧
      EarlierSumsKept exactFloats oneRescaled xs ∧
      LaterSpared oneRescaled L ys := by
  have hpatch : (patch exactFloats 8 oneRescaled).1 = .ok () := by
    decide +kernel
  obtain ⟨xs, L, ys, hfound, hlast, hiff⟩ :=
    patch_keepsChecksums_iff exactFloats 8 oneRescaled _ (patch_finishes hpatch)
  have hwalk : walkFrom nrSectionTags oneRescaled 8 .start =
      some [⟨"LISP/DFLT", 0x38, 0x98⟩, ⟨"LISP/DFLT", 0x98, 0xf8⟩] := by
    decide +kernel
  have hall : xs ++ L :: ys =
      [⟨"LISP/DFLT", 0x38, 0x98⟩, ⟨"LISP/DFLT", 0x98, 0xf8⟩] :=
    Option.some.inj (hfound.symm.trans hwalk)
  have hkeeps : KeepsChecksums oneRescaled (patch exactFloats 8 oneRescaled).2
      (xs ++ L :: ys) := by
    rw [hall]
    unfold KeepsChecksums FileOk
    decide +kernel
  refine ⟨xs, L, ys, hfound, hlast, ?_, ?_, hkeeps, hiff.mp hkeeps⟩
  · rintro rfl
    obtain ⟨-, rfl⟩ := List.cons.inj hall
    exact hlast.later _ List.mem_cons_self rfl
  · rw [hall]
    decide +kernel

end Aiqb
end SurfaceCameras
