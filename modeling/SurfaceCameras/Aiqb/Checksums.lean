import SurfaceCameras.Aiqb.PatchEffects
import Mathlib.Data.Rat.Defs

/-!
# Checksums after rescaling

A section has a checksum over its own words, and the file has one over all of
its words; each leaves out the word it is stored in.  The patch writes the
checksum of the last section it has rescaled, and then that of the file.  So a
section before the last one has the checksum that it had, and a section after it
is as it was, but for the checksum of a last section too short for its own.
-/

namespace SurfaceCameras
namespace Aiqb

open Bytes Prog

/-! ## Sums of words -/

/-- The checksum of `lo` to `hi` is stored at `pos`. -/
def ChecksumAt (d : Bytes) (lo hi pos : ℕ) : Prop :=
  pos + 4 ≤ d.length ∧ (selfsum lo hi pos d).1 = .ok (word d pos)

/-- The checksum of a section is right. -/
def SectionOk (d : Bytes) (s : Section) : Prop :=
  ChecksumAt d s.hdr s.stop (s.hdr + 0x14)

/-- The checksum of the file is right. -/
def FileOk (d : Bytes) : Prop := ChecksumAt d 0 d.length 0x14

section Sums

variable {d d' : Bytes} {lo hi pos t : ℕ} {os : List ℕ}

theorem addWords_state : (addWords pos os t d).2 = d := by
  induction os generalizing t with
  | nil => rfl
  | cons o os ih =>
      simp only [addWords]
      split
      · by_cases hin : o + 4 ≤ d.length
        · rw [bind_ok (unpackFrom_ok _ hin)]
          exact ih
        · rw [bind_error (unpackFrom_error _ (Nat.lt_of_not_le hin))]
      · exact ih

/-- A sum depends on the words it adds. -/
theorem addWords_congr (hlen : d.length = d'.length)
    (hos : ∀ o ∈ os, o ≠ pos → slice d o 4 = slice d' o 4) :
    (addWords pos os t d).1 = (addWords pos os t d').1 := by
  induction os generalizing t with
  | nil => rfl
  | cons o os ih =>
      have hrest : ∀ t, (addWords pos os t d).1 = (addWords pos os t d').1 :=
        fun t => ih fun o' ho' => hos o' (List.mem_cons_of_mem o ho')
      simp only [addWords]
      split
      next hne =>
        by_cases hin : o + 4 ≤ d.length
        · rw [bind_ok (unpackFrom_ok _ hin),
            bind_ok (unpackFrom_ok _ (hlen ▸ hin)), hos o (by simp) hne]
          exact hrest _
        · have hout := Nat.lt_of_not_le hin
          rw [bind_error (unpackFrom_error _ hout),
            bind_error (unpackFrom_error _ (hlen ▸ hout))]
      next => exact hrest t

theorem addWords_lt {r : ℕ} (ht : t < 2 ^ 32)
    (h : (addWords pos os t d).1 = .ok r) : r < 2 ^ 32 := by
  induction os generalizing t with
  | nil =>
      obtain rfl : t = r := by simpa [addWords] using h
      exact ht
  | cons o os ih =>
      simp only [addWords] at h
      split at h
      · by_cases hin : o + 4 ≤ d.length
        · rw [bind_ok (unpackFrom_ok _ hin)] at h
          exact ih (Nat.mod_lt _ (Nat.two_pow_pos 32)) h
        · rw [bind_error (unpackFrom_error _ (Nat.lt_of_not_le hin))] at h
          cases h
      · exact ih ht h

theorem mem_offsets {o : ℕ} (h : o ∈ offsets lo hi) :
    lo ≤ o ∧ o < hi ∧ ∃ i, o = lo + 4 * i := by
  simp only [offsets, List.mem_map, List.mem_range] at h
  obtain ⟨i, hi, rfl⟩ := h
  exact ⟨by omega, by omega, i, rfl⟩

theorem selfsum_congr (pos : ℕ) (h : AgreeOn (Set.Ico lo (hi + 3)) d d') :
    (selfsum lo hi pos d).1 = (selfsum lo hi pos d').1 := by
  apply addWords_congr h.length
  intro o ho _
  obtain ⟨hlo, hhi, -⟩ := mem_offsets ho
  exact h.slice_eq fun i hi hi' => ⟨hlo.trans hi, by omega⟩

/-- Where a checksum is stored does not count. -/
theorem selfsum_write {j : ℕ} {bs : Bytes} (hbs : bs.length = 4)
    (hin : lo + 4 * j + 4 ≤ d.length) :
    (selfsum lo hi (lo + 4 * j) (write d (lo + 4 * j) bs)).1 =
      (selfsum lo hi (lo + 4 * j) d).1 := by
  have hroom : lo + 4 * j + bs.length ≤ d.length := by omega
  apply addWords_congr (length_write hroom)
  intro o ho hne
  obtain ⟨-, -, i, rfl⟩ := mem_offsets ho
  have hagree := (AgreeOn.refl (Set.Ico (lo + 4 * i) (lo + 4 * i + 4)) d).write
    hroom fun k hk hin => by
      obtain ⟨hk1, hk2⟩ := hk
      omega
  exact (hagree.slice_eq fun k hk hk' => ⟨hk, hk'⟩).symm

/-- What `writeSum` leaves when it finishes. -/
theorem writeSum_ok {j : ℕ} (h : writeSum lo hi (lo + 4 * j) d = (.ok (), d')) :
    ∃ t, (selfsum lo hi (lo + 4 * j) d).1 = .ok t ∧
      lo + 4 * j + 4 ≤ d.length ∧ d' = write d (lo + 4 * j) (toLe 4 t) ∧
      ChecksumAt d' lo hi (lo + 4 * j) := by
  have hstate : (selfsum lo hi (lo + 4 * j) d).2 = d := addWords_state
  simp only [writeSum] at h
  rcases hsum : selfsum lo hi (lo + 4 * j) d with ⟨e | t, d₁⟩
  · rw [bind_error hsum] at h
    cases h
  · obtain rfl : d₁ = d := by rwa [hsum] at hstate
    rw [bind_ok hsum] at h
    by_cases hin : lo + 4 * j + (toLe 4 t).length ≤ d₁.length
    · rw [packInto_ok hin] at h
      obtain rfl : write d₁ (lo + 4 * j) (toLe 4 t) = d' := by simpa using h
      have hroom : lo + 4 * j + 4 ≤ d₁.length := by simpa using hin
      have hlt : t < 2 ^ 32 :=
        addWords_lt (Nat.two_pow_pos 32) (congrArg Prod.fst hsum)
      have hread : word (write d₁ (lo + 4 * j) (toLe 4 t)) (lo + 4 * j) = t := by
        have hslice := slice_write hin
        rw [length_toLe] at hslice
        rw [word, uint, hslice, ofLe_toLe_of_lt hlt]
      refine ⟨t, rfl, hroom, rfl, ?_, ?_⟩
      · rwa [length_write hin]
      · rw [selfsum_write (length_toLe 4 t) hroom, hread, hsum]
    · rw [packInto_error (Nat.lt_of_not_le hin)] at h
      cases h

end Sums

/-! ## One section -/

section OneSection

variable {F : Floats} {n : ℕ} {d d' : Bytes} {s : Section}

/-- The bytes that decide about the checksum of a section: its words, of which
the last can reach beyond its end, and the stored sum. -/
def Section.span (s : Section) : Set ℕ :=
  {i | s.hdr ≤ i ∧ (i < s.stop + 3 ∨ i < s.hdr + 0x18)}

theorem sectionOk_congr (h : AgreeOn s.span d d') :
    SectionOk d s ↔ SectionOk d' s := by
  have hsum := selfsum_congr (s.hdr + 0x14)
    (h.mono (T := Set.Ico s.hdr (s.stop + 3)) fun i hi => ⟨hi.1, .inl hi.2⟩)
  have hword : word d (s.hdr + 0x14) = word d' (s.hdr + 0x14) :=
    congrArg ofLe (h.slice_eq fun i hi hi' => ⟨by omega, .inr (by omega)⟩)
  simp only [SectionOk, ChecksumAt, h.length, hsum, hword]

/-- The sum of the words of a section, without the stored one. -/
abbrev sectionSum (d : Bytes) (s : Section) : Except Stop ℕ :=
  (selfsum s.hdr s.stop (s.hdr + 0x14) d).1

/-- After rescaling, a right checksum is right if the sum is still the same. -/
theorem sectionOk_rescaled (h : SectionOk d s) :
    SectionOk (rescaled F n d s) s ↔
      sectionSum (rescaled F n d s) s = sectionSum d s := by
  have hkeep : AgreeOn (Set.Iio s.start) d (rescaled F n d s) :=
    Triple.final (patchSection_spec fun i (hi : i < s.start) hin => by omega)
      (AgreeOn.refl _ d)
  have hword : word d (s.hdr + 0x14) =
      word (rescaled F n d s) (s.hdr + 0x14) :=
    congrArg ofLe (hkeep.slice_eq fun i _ hi => by
      show i < s.hdr + 0x18
      omega)
  have hlen := hkeep.length
  obtain ⟨hin, hsum⟩ := h
  simp only [SectionOk, ChecksumAt, ← hlen, ← hword, hin, true_and]
  rw [sectionSum, sectionSum, hsum]

theorem rescaled_of_ne (h : s.path ≠ "LISP/DFLT") : rescaled F n d s = d := by
  simp only [rescaled, patchSection, if_pos h, pure_apply]

end OneSection

/-! ## The whole patch -/

/-- `L` is the section that the patch writes the checksum of: none after it has
its path. -/
structure LastTarget (L : Section) (ys : List Section) : Prop where
  path : L.path = "LISP/DFLT"
  later : ∀ y ∈ ys, y.path ≠ "LISP/DFLT"

theorem lastLisp_some {ss : List Section} {L : Section}
    (h : lastLisp none ss = some L) :
    ∃ xs ys, ss = xs ++ L :: ys ∧ LastTarget L ys := by
  induction ss using List.reverseRecOn with
  | nil => cases h
  | append_singleton ss s ih =>
      simp only [lastLisp, List.foldl_append, List.foldl_cons, List.foldl_nil]
        at h
      by_cases hs : s.path = "LISP/DFLT"
      · simp only [lispHdr, hs, ne_eq, not_true_eq_false, if_false,
          Option.some.injEq] at h
        subst h
        exact ⟨ss, [], rfl, hs, by simp⟩
      · simp only [lispHdr, if_pos hs] at h
        obtain ⟨xs, ys, rfl, hlast⟩ := ih h
        refine ⟨xs, ys ++ [s], by simp, hlast.path, ?_⟩
        intro y hy
        rcases List.mem_append.mp hy with hy | hy
        · exact hlast.later y hy
        · rw [List.mem_singleton.mp hy]
          exact hs

/-- What a patch that finishes has done: it rescaled the sections of the file
into `d₁`, stored the sum `t` of the last one, and wrote the first bytes. -/
structure PatchRun (F : Floats) (n : ℕ) (d out : Bytes) (xs : List Section)
    (L : Section) (ys : List Section) (d₁ : Bytes) (t : ℕ) : Prop where
  found : walkFrom nrSectionTags d n .start = some (xs ++ L :: ys)
  target : LastTarget L ys
  ahead : ∀ s ∈ xs ++ L :: ys, 0x18 ≤ s.hdr ∧ s.hdr ≤ s.stop
  ordered : (xs ++ L :: ys).Pairwise fun s u =>
    s.stop ≤ u.hdr ∧ s.hdr + 4 ≤ u.hdr
  edited : Edited F n (xs ++ L :: ys) d d₁
  sum : sectionSum d₁ L = .ok t
  room : L.hdr + 0x18 ≤ d₁.length
  stored : SectionOk (write d₁ (L.hdr + 0x14) (toLe 4 t)) L
  rest : AgreeOn (Set.Ici 0x18) (write d₁ (L.hdr + 0x14) (toLe 4 t)) out
  file : FileOk out

theorem nrSectionTags_spread : Spread nrSectionTags := by decide

theorem patch_run {F : Floats} {n : ℕ} {d out : Bytes}
    (h : patch F n d = (.ok (), out)) :
    ∃ xs L ys d₁ t, PatchRun F n d out xs L ys d₁ t := by
  obtain ⟨head, _, ⟨⟩, hrest⟩ := bind_eq_ok h
  obtain ⟨_, _, hhead, hrest'⟩ := bind_eq_ok hrest
  obtain ⟨-, rfl⟩ := when_raise_ok hhead
  obtain ⟨⟨lisp, patched⟩, d₁, hloop, hend⟩ := bind_eq_ok hrest'
  obtain ⟨_, _, hsome, hend'⟩ := bind_eq_ok hend
  obtain ⟨-, rfl⟩ := when_raise_ok hsome
  obtain ⟨ss, w', hvisits, hdone, hfound, hedited, hlast⟩ :=
    patchSections_finds n (.start, none, []) (AgreeOn.refl _ d) hloop
  cases lisp with
  | none => cases hend'
  | some L =>
      obtain ⟨xs, ys, rfl, htarget⟩ := lastLisp_some hlast.symm
      obtain ⟨_, d₂, hwrite, hfinal⟩ := bind_eq_ok hend'
      obtain ⟨len, _, ⟨⟩, hfinal'⟩ := bind_eq_ok hfinal
      obtain ⟨t, hsum, hroom, rfl, hstored⟩ := writeSum_ok (j := 5) hwrite
      obtain ⟨t', -, hroom', rfl, hfile⟩ := writeSum_ok (j := 5) hfinal'
      have hin : 0 + 4 * 5 + (toLe 4 t').length ≤
          (write d₁ (L.hdr + 4 * 5) (toLe 4 t)).length := by
        simpa using hroom'
      refine ⟨xs, L, ys, d₁, t, hfound, htarget, hvisits.ahead,
        hvisits.ordered nrSectionTags_spread hdone, hedited, hsum, by omega,
        hstored, ?_, ?_⟩
      · refine (AgreeOn.refl _ _).write hin fun i hi hin' => ?_
        have hlow : 0x18 ≤ i := hi
        rw [length_toLe] at hin'
        omega
      · rw [FileOk, length_write hin]
        exact hfile

namespace PatchRun

variable {F : Floats} {n : ℕ} {d out d₁ : Bytes} {xs ys : List Section}
  {L s : Section} {t : ℕ} (h : PatchRun F n d out xs L ys d₁ t)

include h

theorem before (hs : s ∈ xs) : s.stop ≤ L.hdr ∧ s.hdr + 4 ≤ L.hdr :=
  (List.pairwise_append.mp h.ordered).2.2 s hs L (by simp)

theorem after (hs : s ∈ ys) : L.stop ≤ s.hdr ∧ L.hdr + 4 ≤ s.hdr :=
  List.rel_of_pairwise_cons (List.pairwise_append.mp h.ordered).2.1 hs

/-- Before the checksums are written, each section is as if it were the only
one that is rescaled. -/
theorem alone (hs : s ∈ xs ++ L :: ys) :
    AgreeOn s.span (rescaled F n d s) d₁ := by
  obtain ⟨as, bs, hsplit⟩ := List.mem_iff_append.mp hs
  have hedited := h.edited
  have hordered := h.ordered
  rw [hsplit] at hedited hordered
  obtain ⟨-, hlater, hearlier⟩ := List.pairwise_append.mp hordered
  refine (hedited.at (fun x hx => (hearlier x hx s (by simp)).1)
    fun y hy => (List.rel_of_pairwise_cons hlater hy).1).mono ?_
  have hle := (h.ahead s hs).2
  rintro i ⟨hi, hi'⟩
  exact ⟨hi, by omega⟩

theorem span_rest (hs : s ∈ xs ++ L :: ys) :
    AgreeOn s.span (write d₁ (L.hdr + 0x14) (toLe 4 t)) out :=
  h.rest.mono fun _ hi => (h.ahead s hs).1.trans hi.1

theorem room' : L.hdr + 0x14 + (toLe 4 t).length ≤ d₁.length := by
  have := h.room
  rw [length_toLe]
  omega

theorem sectionOk_before (hs : s ∈ xs) :
    SectionOk out s ↔ SectionOk (rescaled F n d s) s := by
  have hmem : s ∈ xs ++ L :: ys := by simp [hs]
  obtain ⟨hstop, hfour⟩ := h.before hs
  have hwrite := (h.alone hmem).write h.room' fun i hi hin => by
    obtain ⟨-, hi⟩ := hi
    rw [length_toLe] at hin
    omega
  exact (sectionOk_congr (hwrite.trans (h.span_rest hmem))).symm

theorem sectionOk_last : SectionOk out L :=
  (sectionOk_congr (h.span_rest (by simp))).mp h.stored

theorem sectionOk_after (hs : s ∈ ys) :
    SectionOk out s ↔
      SectionOk (write d (L.hdr + 0x14) (toLe 4 t)) s := by
  have hmem : s ∈ xs ++ L :: ys := by simp [hs]
  have halone := h.alone hmem
  rw [rescaled_of_ne (h.target.later s hs)] at halone
  have hboth := halone.write_both (halone.length ▸ h.room')
  exact (sectionOk_congr (hboth.trans (h.span_rest hmem))).symm

theorem sectionOk_after_of_room (hL : L.start ≤ L.stop) (hs : s ∈ ys) :
    SectionOk out s ↔ SectionOk d s := by
  have hmem : s ∈ xs ++ L :: ys := by simp [hs]
  have halone := h.alone hmem
  rw [rescaled_of_ne (h.target.later s hs)] at halone
  have hstop := (h.after hs).1
  have hroom : L.hdr + 0x18 ≤ L.stop := hL
  have hwrite := halone.write h.room' fun i hi hin => by
    have hlow := hi.1
    rw [length_toLe] at hin
    omega
  exact (sectionOk_congr (hwrite.trans (h.span_rest hmem))).symm

theorem sum_of_runt (hL : L.stop < L.start) : sectionSum d L = .ok t := by
  have halone := h.alone (s := L) (by simp)
  rw [show rescaled F n d L = d from patchSection_runt hL.le d] at halone
  rw [← h.sum]
  exact selfsum_congr _ (halone.mono fun i hi => ⟨hi.1, .inl hi.2⟩)

end PatchRun

/-! ## Two sections to rescale -/

instance (d : Bytes) (lo hi pos : ℕ) : Decidable (ChecksumAt d lo hi pos) :=
  inferInstanceAs (Decidable (_ ∧ _))

instance (d : Bytes) (s : Section) : Decidable (SectionOk d s) :=
  inferInstanceAs (Decidable (ChecksumAt d s.hdr s.stop (s.hdr + 0x14)))

/-- The number that the bits of a positive normal 32-bit float stand for. -/
def ofFloat32 (w : ℕ) : ℚ :=
  mkRat ((2 ^ 23 + w % 2 ^ 23 : ℕ) * 2 ^ (w / 2 ^ 23 % 2 ^ 8)) (2 ^ 150)

/-- Exact arithmetic with the factor 1.5, rounding to the even neighbour. -/
def exactFloats : Floats where
  nearOne w := -1 / 100 < ofFloat32 w - 1 ∧ ofFloat32 w - 1 < 1 / 100
  aboveTen w := 10 < ofFloat32 w
  onAxis v w := -1 ≤ v - ofFloat32 w ∧ v - ofFloat32 w ≤ 1
  highGain w := 4 ≤ ofFloat32 w
  scale v :=
    let half := v * 3 / 2
    some (if v % 2 = 0 ∨ half % 2 = 0 then half else half + 1)

/-- A section with one parameter: thresholds 64, 64, 64, 128 at the gains
1, 2, 4, 16.  Its checksum is right. -/
def nrSection : Bytes :=
  ascii "AIQB" ++ [96, 1, 0, 0, 0xedb2bc96].flatMap (toLe 4) ++
    (toLe 4 72 ++ toLe 2 0 ++ toLe 2 60001) ++
    (toLe 4 64 ++ toLe 2 0x64 ++ toLe 2 0x8000) ++
    [28866, 0, 4, 1, 1, 0x3f800000, 0x40000000, 0x40800000, 0x41800000,
      0x3f800000, 64, 64, 64, 128].flatMap (toLe 4)

/-- A file with two such sections in one `LISP/DFLT`. -/
def twoSections : Bytes :=
  ascii "CPFF" ++ List.replicate 0x14 0 ++
    (ascii "LISP" ++ [224, 1, 0].flatMap (toLe 4)) ++
    (ascii "DFLT" ++ [208, 1, 0].flatMap (toLe 4)) ++ nrSection ++ nrSection

theorem patch_finishes {F : Floats} {n : ℕ} {d : Bytes}
    (h : (patch F n d).1 = .ok ()) : patch F n d = (.ok (), (patch F n d).2) :=
  Prod.ext h rfl

theorem patch_twoSections : (patch exactFloats 8 twoSections).1 = .ok () := by
  decide +kernel

end Aiqb
end SurfaceCameras
