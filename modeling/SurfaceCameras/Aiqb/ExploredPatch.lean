import SurfaceCameras.Aiqb.Explore
import SurfaceCameras.Aiqb.NoiseSections

/-!
# Exploring a patched file

`lisp_explore` and `patch_aiqb_nr` go over the same parameters.  Of the file
that the patcher has finished, the explorer lists the parameters that it listed
of the original, in the same order, each with the values that the patcher
means to give it: the eligible ones rescaled, and the others as they were.
-/

namespace SurfaceCameras
namespace Aiqb

open Bytes Prog

/-! ## Words that are written -/

section Words

variable {d : Bytes} {p n : ℕ} {vs : List ℤ}

/-- Words of which some in the middle were written. -/
theorem words_write {q : ℕ} (hq : q = p + 4)
    (hroom : q + 4 * vs.length ≤ d.length) (hn : 1 + vs.length ≤ n) :
    words n (slice (write d q (packSigned vs)) p (4 * n)) =
      (words n (slice d p (4 * n))).take 1 ++ vs.map ofSigned ++
        (words n (slice d p (4 * n))).drop (1 + vs.length) := by
  subst hq
  have hlen : p + 4 + (packSigned vs).length ≤ d.length := by
    rwa [length_packSigned]
  have hother : ∀ i, (i = 0 ∨ 1 + vs.length ≤ i) →
      word (write d (p + 4) (packSigned vs)) (p + 4 * i) =
        word d (p + 4 * i) := by
    intro i hi
    refine ((AgreeOn.refl (Set.Ico (p + 4 * i) (p + 4 * i + 4)) d).write hlen
      fun k hk hin => ?_).symm.uint_eq fun k hk hk' => ⟨hk, hk'⟩
    obtain ⟨hlo, hhi⟩ := hk
    rw [length_packSigned] at hin
    omega
  refine List.ext_getElem? fun i => ?_
  by_cases hi : i < n
  · rw [getElem?_words hi, List.getElem?_append, List.length_append,
      List.length_take, length_words, List.length_map,
      Nat.min_eq_left (by omega)]
    by_cases hmid : i < 1 + vs.length
    · rw [if_pos hmid, List.getElem?_append, List.length_take, length_words,
        Nat.min_eq_left (by omega)]
      by_cases hzero : i < 1
      · rw [if_pos hzero, List.getElem?_take, if_pos hzero, getElem?_words hi,
          hother i (.inl (by omega))]
      · obtain ⟨k, rfl⟩ := Nat.exists_eq_add_of_le (Nat.le_of_not_lt hzero)
        have hk : k < vs.length := by omega
        rw [if_neg hzero, List.getElem?_map, Nat.add_sub_cancel_left,
          List.getElem?_eq_getElem hk, Option.map_some,
          ← word_write_packSigned hroom hk]
        congr 2
        omega
    · rw [if_neg hmid, List.getElem?_drop,
        Nat.add_sub_cancel' (Nat.le_of_not_lt hmid), getElem?_words hi,
        hother i (.inr (Nat.le_of_not_lt hmid))]
  · have hout : ∀ d' : Bytes, (words n (slice d' p (4 * n))).length ≤ i := by
      intro d'
      rw [length_words]
      exact Nat.le_of_not_lt hi
    rw [List.getElem?_eq_none (hout _), List.getElem?_eq_none]
    rw [List.length_append, List.length_append, List.length_take,
      List.length_drop, length_words, List.length_map]
    omega

end Words

/-! ## Parameters -/

/-- A listed parameter with the values that the patch gives it.  The first value
that is listed is the node of the second axis, which stays. -/
def rescaledParam (F : Floats) (d : Bytes) (e : GainParam) : GainParam :=
  let sub := paramLayout.elem d (e.po - 28 - 4 * e.axes.length)
  if Rescales F d sub then
    { e with
      vals := e.vals.take 1 ++ (newValues F d sub).map ofSigned ++
        e.vals.drop (1 + (newValues F d sub).length) }
  else e

/-- A listed parameter has its axis and its values from its sub-record: as many
values as there is room for. -/
structure Sized (d : Bytes) (e : GainParam) : Prop where
  axes : (paramLayout.elem d (e.po - 28 - 4 * e.axes.length)).n1 =
    e.axes.length
  vals : e.vals.length =
    ((paramLayout.elem d (e.po - 28 - 4 * e.axes.length)).ssz -
      (28 + 4 * e.axes.length)) / 4

/-- What is listed of the patched file against what is listed of `d`. -/
structure ListedRescaled (F : Floats) (d : Bytes) (es es' : List GainParam) :
    Prop where
  params : es' = es.map (rescaledParam F d)
  sized : ∀ e ∈ es, Sized d e

section Params

variable {F : Floats} {n : ℕ} {d out : Bytes} {q stop uuid idx : ℕ}

theorem length_newValues_le (d : Bytes) (e : Subparam) :
    (newValues F d e).length ≤ e.n1 := by
  rw [newValues]
  cases hnew : rescale F (valuesOf d e) (axisOf d e) with
  | none => exact Nat.zero_le _
  | some new =>
      have hle := length_rescale hnew
      rw [length_valuesOf] at hle
      exact hle

theorem listedRescaled_nil : ListedRescaled F d [] [] :=
  ⟨rfl, fun _ he => absurd he List.not_mem_nil⟩

theorem ListedRescaled.append {es es' fs fs' : List GainParam}
    (h : ListedRescaled F d es es') (h' : ListedRescaled F d fs fs') :
    ListedRescaled F d (es ++ fs) (es' ++ fs') := by
  constructor
  · rw [List.map_append, h.params, h'.params]
  · intro e he
    exact (List.mem_append.mp he).elim (h.sized e) (h'.sized e)

theorem listedRescaled_flatten {ess ess' : List (List GainParam)}
    (h : List.Forall₂ (ListedRescaled F d) ess ess') :
    ListedRescaled F d ess.flatten ess'.flatten := by
  induction h with
  | nil => exact listedRescaled_nil
  | cons hes _ ih => exact hes.append ih

/-- The sub-record at `q` is listed like the edited one. -/
theorem exploreParam_mirrors
    (hedited : AgreeOn (Set.Ico q (paramLayout.after d q))
      ((paramEdit F d).edited q) out)
    (hlen : d.length = out.length) {nn ssz : ℕ}
    (hsub : (paramLayout.elem d q).n1 = nn ∧ (paramLayout.elem d q).ssz = ssz)
    (haxis : slice d (q + 28) (4 * nn) = slice out (q + 28) (4 * nn))
    (hinside : 28 + 4 * nn ≤ ssz) :
    Mirrors d out (ListedRescaled F d)
      (exploreParam F q ssz nn uuid idx) (exploreParam F q ssz nn uuid idx) := by
  obtain ⟨hnn, hssz⟩ := hsub
  have hafter : paramLayout.after d q = q + ssz := by
    rw [Layout.after, ← hssz]
    rfl
  refine (unpackFrom_known hlen haxis).bind fun axes axes' haxes => ?_
  obtain ⟨rfl, haxes, -⟩ := haxes
  have hcount : axes.length = nn := by rw [haxes, length_words]
  refine Mirrors.ite Iff.rfl (fun _ => ?_) fun _ =>
    Mirrors.pure listedRescaled_nil
  dsimp only
  generalize hpo : q + 28 + 4 * nn = po
  generalize hnv : (ssz - (28 + 4 * nn)) / 4 = nv
  by_cases hin : po + 4 * nv ≤ d.length
  · have hq : po - 28 - 4 * axes.length = q := by omega
    have hsized : Sized d
        ⟨po, uuid, idx, axes, words nv (slice d po (4 * nv))⟩ := by
      constructor
      · dsimp only
        rw [hq, hnn, hcount]
      · dsimp only
        rw [hq, length_words, hssz, hcount, hnv]
    refine Mirrors.of_ok ⟨?_, fun e he => List.mem_singleton.mp he ▸ hsized⟩
      (bind_ok (unpackFrom_ok _ hin)) (bind_ok (unpackFrom_ok _ (hlen ▸ hin)))
    have hread' : words nv (slice out po (4 * nv)) =
        words nv (slice ((paramEdit F d).edited q) po (4 * nv)) := by
      refine congrArg (words nv) (hedited.slice_eq fun i hi hi' => ?_).symm
      rw [hafter]
      exact ⟨by omega, by omega⟩
    rw [List.map_singleton, rescaledParam]
    dsimp only
    rw [hq, hread']
    by_cases hrescales : Rescales F d (paramLayout.elem d q)
    · obtain ⟨hvo, -, hroom⟩ := hrescales.inside
      have hcount := length_newValues_le (F := F) d (paramLayout.elem d q)
      have hvalues : (paramEdit F d).edited q = write d (paramLayout.elem d q).vo
          (packSigned (newValues F d (paramLayout.elem d q))) :=
        if_pos hrescales
      rw [hafter] at hroom
      rw [if_pos hrescales, hvalues,
        words_write (by omega) (by omega) (by omega)]
    · have hvalues : (paramEdit F d).edited q = d := if_neg hrescales
      rw [if_neg hrescales, hvalues]
  · have hout := Nat.lt_of_not_le hin
    exact Mirrors.of_error (bind_error (unpackFrom_error _ hout))
      (bind_error (unpackFrom_error _ (hlen ▸ hout)))

end Params

/-! ## Records and sections -/

/-- The sub-records of two files that were listed so far, when the loop comes to
the sub-record at a position of the record at `off`. -/
structure ListedAlike (F : Floats) (d : Bytes) (off : ℕ)
    (v v' : ℕ × ℕ × List GainParam) : Prop where
  p : v.1 = v'.1
  idx : v.2.1 = v'.2.1
  reaches : paramLayout.Reaches (fun _ => true) (recordLayout.after d off) d
    (off + 8) v.1
  listed : ListedRescaled F d v.2.2 v'.2.2

namespace PatchRun

variable {F : Floats} {n : ℕ} {d out d₁ : Bytes} {xs ys : List Section}
  {L s : Section} {t off q : ℕ} (h : PatchRun F n d out xs L ys d₁ t)
  (hroom : L.start ≤ L.stop)

include h hroom

/-- The header of a sub-record and its axis are as they were. -/
theorem subrecord_kept (hs : s ∈ xs ++ L :: ys)
    (hoff : recordLayout.On (fun _ => true) s.stop d s.start off)
    (hq : subrecordLayout.Reaches (fun _ => true) (recordLayout.after d off) d
      (off + 8) q) (hin : q + 16 ≤ recordLayout.after d off) :
    AgreeOn {i | q ≤ i ∧ i < q + 32 + 4 * min (word d (q + 16)) 8 ∧
      i < s.stop + 0x14} d out := by
  refine (h.chain_kept hroom hs).mono fun i hi => ?_
  obtain ⟨hlo, hhi, hend⟩ := hi
  have hfirst := hoff.start_le
  have hnext := hq.le
  refine ⟨⟨by omega, hend⟩, fun hspan => ?_⟩
  obtain hbefore | hafter := noiseSpan_subrecord hoff hq hin hspan
  · omega
  · omega

theorem record_kept (hs : s ∈ xs ++ L :: ys)
    (hp : recordLayout.Reaches (fun _ => true) s.stop d s.start q)
    (hin : q + 8 ≤ s.stop) : slice d q 8 = slice out q 8 := by
  have hfirst := hp.le
  refine (h.chain_kept hroom hs).slice_eq fun i hi hi' => ?_
  refine ⟨⟨by omega, by omega⟩, fun hspan => ?_⟩
  obtain hbefore | hafter := noiseSpan_record hp hspan
  · omega
  · omega

/-- One round over the sub-records. -/
theorem exploreRound_mirrors (hs : s ∈ xs ++ L :: ys)
    (hpath : s.path = "LISP/DFLT")
    (hoff : recordLayout.On (fun _ => true) s.stop d s.start off)
    (hstream : (recordLayout.elem d off).nid = stream)
    (v v' : ℕ × ℕ × List GainParam) (hv : ListedAlike F d off v v') :
    Mirrors d out (Sum.LiftRel (ListedAlike F d off) (ListedRescaled F d))
      (exploreRound F (recordLayout.after d off) v)
      (exploreRound F (recordLayout.after d off) v') := by
  obtain ⟨q, idx, acc⟩ := v
  obtain ⟨q', idx', acc'⟩ := v'
  obtain ⟨rfl, rfl, hq, hlisted⟩ := hv
  have hlen : d.length = out.length := (h.kept hroom).length
  refine Mirrors.ite Iff.rfl (fun hin => ?_) fun _ =>
    Mirrors.pure (.inr hlisted)
  have hkept := h.subrecord_kept hroom hs hoff hq.subrecord (by omega)
  have hend := hoff.le_limit
  have hslice : ∀ k m, k + m ≤ 28 → slice d (q + k) m = slice out (q + k) m :=
    fun k m hk => hkept.slice_eq fun i hi hi' => ⟨by omega, by omega, by omega⟩
  refine (unpackFrom_known hlen (hslice 0 16 (by decide))).bind ?_
  rintro ⟨ssz, uuid⟩ _ ⟨rfl, hhead, -⟩
  refine Mirrors.ite Iff.rfl (fun _ => Mirrors.pure (.inr hlisted))
    fun hsize => ?_
  refine (unpackFrom_known hlen (hslice 16 12 (by decide))).bind ?_
  rintro nn _ ⟨rfl, hnn, hinside⟩
  have hssz : (paramLayout.elem d q).ssz = ssz := by
    rw [elem_words, (Prod.mk.inj hhead).1]
    exact (uint_slice d q (q := 0) (m := 4) (n := 16) (by decide)).symm
  have hn1 : word d (q + 16) = nn := by
    rw [hnn]
    exact (uint_slice d (q + 16) (q := 0) (m := 4) (n := 12) (by decide)).symm
  obtain ⟨hleast, hlimit⟩ := not_or.mp hsize
  have hgo : paramLayout.Goes (fun _ => true) (recordLayout.after d off) d q := by
    refine ⟨hin, ?_, ?_, ?_, rfl⟩
    · exact hinside
    · change 16 ≤ (paramLayout.elem d q).ssz
      omega
    · change q + (paramLayout.elem d q).ssz ≤ _
      omega
  have hparam : ParamOf d off q := ⟨hstream, hq, hgo⟩
  have hnew : Mirrors d out (ListedRescaled F d)
      (if 2 ≤ nn ∧ nn ≤ 8 ∧ 28 + 4 * nn ≤ ssz then
        exploreParam F q ssz nn uuid idx else pure [])
      (if 2 ≤ nn ∧ nn ≤ 8 ∧ 28 + 4 * nn ≤ ssz then
        exploreParam F q ssz nn uuid idx else pure []) := by
    refine Mirrors.ite Iff.rfl (fun hnodes => ?_) fun _ =>
      Mirrors.pure listedRescaled_nil
    refine exploreParam_mirrors (h.param_done hroom hs hpath hoff hparam) hlen
      ⟨by rw [elem_words]; exact hn1, hssz⟩ ?_ hnodes.2.2
    refine hkept.slice_eq fun i hi hi' => ⟨by omega, ?_, ?_⟩
    · rw [hn1]
      omega
    · omega
  refine hnew.bind fun new new' hadded =>
    Mirrors.pure (.inl ⟨rfl, rfl, ?_, hlisted.append hadded⟩)
  have hnext := hq.next hgo
  change paramLayout.Reaches _ _ _ _ (q + (paramLayout.elem d q).ssz) at hnext
  rwa [hssz] at hnext

/-- The parameters of a record are listed like the edited ones. -/
theorem exploreRecord_mirrors (hs : s ∈ xs ++ L :: ys)
    (hpath : s.path = "LISP/DFLT")
    (hoff : recordLayout.On (fun _ => true) s.stop d s.start off) :
    Mirrors d out (ListedRescaled F d)
      (exploreRecord F (recordLayout.elem d off))
      (exploreRecord F (recordLayout.elem d off)) := by
  refine Mirrors.ite Iff.rfl (fun _ => Mirrors.pure listedRescaled_nil)
    fun hstream => ?_
  exact Mirrors.iterate
    (h.exploreRound_mirrors hroom hs hpath hoff (not_not.mp hstream)) _ _ _
    ⟨rfl, rfl, .start, listedRescaled_nil⟩

theorem exploreSection_mirrors (hs : s ∈ xs ++ L :: ys) :
    Mirrors d out (ListedRescaled F d)
      (exploreSection F s) (exploreSection F s) := by
  refine Mirrors.ite Iff.rfl (fun _ => Mirrors.pure listedRescaled_nil)
    fun hpath => ?_
  have hwalk := Layout.forEach_mirrors (h.kept hroom).length
    (fun p hp hin => h.record_kept hroom hs hp hin) fun p hp hgo =>
      h.exploreRecord_mirrors hroom hs (not_not.mp hpath) ⟨hp, hgo⟩
  exact hwalk.bind fun ess ess' hess => Mirrors.pure (listedRescaled_flatten hess)

end PatchRun

/-! ## The whole file -/

/-- The sections that are rescaled have room for their headers. -/
def HeadersFit (d : Bytes) : Prop :=
  ∀ s, Finds nrSectionTags d s → s.path = "LISP/DFLT" → s.start ≤ s.stop

theorem PatchRun.room_of_headersFit {F : Floats} {n t : ℕ} {d out d₁ : Bytes}
    {xs ys : List Section} {L : Section} (h : PatchRun F n d out xs L ys d₁ t)
    (hfit : HeadersFit d) : L.start ≤ L.stop := by
  obtain ⟨w', hvisits⟩ := walkFrom_visits h.found
  exact hfit L (Visits.finds_mem (.refl _) hvisits (by simp)) h.target.path

/-- Of a file that the patcher has finished, the parameters of the original are
listed. -/
theorem gainParams_mirrors (F : Floats) (n m : ℕ) (d out : Bytes)
    (hpatch : patch F n d = (.ok (), out)) (hfit : HeadersFit d) :
    Mirrors d out (ListedRescaled F d) (gainParams F m) (gainParams F m) := by
  obtain ⟨xs, L, ys, d₁, t, hrun⟩ := patch_run hpatch
  have hroom := hrun.room_of_headersFit hfit
  have hsections : Mirrors d out (List.Forall₂ (ListedRescaled F d))
      (forSections exploreSectionTags (exploreSection F) m)
      (forSections exploreSectionTags (exploreSection F) m) :=
    forSections_mirrors
      (fun ss w hw => walkStep_same (hrun.kept hroom).length
        ((hrun.header_kept hroom hw).slice_eq fun i hi hi' => ⟨hi, by omega⟩))
      (fun s hs => hrun.exploreSection_mirrors hroom (hs.mem hrun.found)) m
  exact hsections.bind fun ess ess' hess =>
    Mirrors.pure (listedRescaled_flatten hess)

/-- What the explorer lists of a file that the patcher has finished: the
parameters of the original, each with the values that the patch gives it. -/
theorem gainParams_patch (F : Floats) (n m : ℕ) (d out : Bytes)
    (hpatch : patch F n d = (.ok (), out)) (hfit : HeadersFit d) :
    (gainParams F m out).1 =
      (gainParams F m d).1.map (List.map (rescaledParam F d)) := by
  obtain ⟨e, hleft, hright⟩ | ⟨es, es', hes, hleft, hright⟩ :=
    (gainParams_mirrors F n m d out hpatch hfit).cases
  · rw [hleft, hright]
    rfl
  · rw [hleft, hright, hes.params]
    rfl

/-- A parameter keeps as many values as it has.  A rescaled one has one for each
node and the node of the second axis besides. -/
theorem Sized.rescaled {F : Floats} {d : Bytes} {e : GainParam}
    (h : Sized d e) :
    (rescaledParam F d e).axes = e.axes ∧
      (rescaledParam F d e).vals.length = e.vals.length ∧
      (rescaledParam F d e ≠ e → e.axes.length < e.vals.length) := by
  obtain ⟨haxes, hvals⟩ := h
  rw [rescaledParam]
  split
  next hrescales =>
    obtain ⟨hvo, -, hroom⟩ := hrescales.inside
    have hle := length_newValues_le (F := F) d
      (paramLayout.elem d (e.po - 28 - 4 * e.axes.length))
    rw [hvo, Layout.after] at hroom
    change _ ≤ _ + (paramLayout.elem d (e.po - 28 - 4 * e.axes.length)).ssz
      at hroom
    rw [haxes] at hle hroom
    have hmore : e.axes.length < e.vals.length := by omega
    refine ⟨rfl, ?_, fun _ => hmore⟩
    rw [List.length_append, List.length_append, List.length_take,
      List.length_map, List.length_drop]
    omega
  next => exact ⟨rfl, rfl, fun hne => absurd rfl hne⟩

/-- The line of a rescaled parameter says the same but for the values. -/
theorem Sized.line {F : Floats} (O : FloatOrder) {d : Bytes} {e : GainParam}
    (h : Sized d e) :
    perNode (rescaledParam F d e) = perNode e ∧
      trend O (rescaledParam F d e) = trend O e := by
  obtain ⟨haxes, hvals, hmore⟩ := h.rescaled (F := F)
  have hper : perNode (rescaledParam F d e) = perNode e := by
    rw [perNode, perNode, haxes, hvals]
  refine ⟨hper, ?_⟩
  by_cases hsame : rescaledParam F d e = e
  · rw [hsame]
  · have hne : perNode e ≠ 1 := by
      have hlt := hmore hsame
      rw [perNode]
      split
      next hdiv =>
        intro hone
        have heq := Nat.eq_mul_of_div_eq_right
          (Nat.dvd_of_mod_eq_zero hdiv.2) hone
        omega
      next => decide
    rw [trend, trend, hper, if_neg hne, if_neg hne]

/-- The lines that are printed of a patched file are those of the original, with
the values that the patch gives.  A parameter that is rescaled has more values
than nodes, so that nothing is said of how they grow. -/
theorem exploreMain_patch (F : Floats) (O : FloatOrder) (n m : ℕ)
    (d out : Bytes) (hpatch : patch F n d = (.ok (), out))
    (hfit : HeadersFit d) :
    (exploreMain F O m out).1 =
      (exploreMain F O m d).1.map
        (List.map fun line => (rescaledParam F d line.1, line.2)) := by
  obtain ⟨e, hleft, hright⟩ | ⟨es, es', hes, hleft, hright⟩ :=
    (gainParams_mirrors F n m d out hpatch hfit).cases
  · rw [exploreMain, bind_error hleft, bind_error hright]
    rfl
  · rw [exploreMain, bind_ok hleft, bind_ok hright, hes.params]
    dsimp only [pure_apply, Except.map]
    rw [List.map_map, List.map_map]
    refine congrArg Except.ok (List.map_congr_left fun e he => ?_)
    obtain ⟨hper, htrend⟩ := (hes.sized e he).line (F := F) O
    dsimp only [Function.comp_apply]
    rw [hper, htrend]

theorem headersFit_of_found {d : Bytes} {n : ℕ} {ss : List Section}
    (hfound : walkFrom nrSectionTags d n .start = some ss)
    (hall : ∀ s ∈ ss, s.start ≤ s.stop) : HeadersFit d :=
  fun s hs _ => hall s (hs.mem hfound)

theorem gainParams_patch_twoSections :
    ∃ out, patch exactFloats 8 twoSections = (.ok (), out) ∧
      (gainParams exactFloats 8 out).1 =
        (gainParams exactFloats 8 twoSections).1.map
          (List.map (rescaledParam exactFloats twoSections)) := by
  have hfound : walkFrom nrSectionTags twoSections 8 .start =
      some [⟨"LISP/DFLT", 0x38, 0x98⟩, ⟨"LISP/DFLT", 0x98, 0xf8⟩] := by
    decide +kernel
  have hfit : HeadersFit twoSections :=
    headersFit_of_found hfound (by decide)
  have hpatch := patch_finishes patch_twoSections
  exact ⟨_, hpatch, gainParams_patch exactFloats 8 8 twoSections _ hpatch hfit⟩

end Aiqb
end SurfaceCameras
