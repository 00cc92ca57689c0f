import SurfaceCameras.Aiqb.DecodedPatch
import SurfaceCameras.Aiqb.NoiseEdits

/-!
# The file with more noise reduction

Of a file that `patch_aiqb_nr` has finished, everything is as it was but two
checksums and the values of the eligible parameters in `LISP/DFLT`: so are the
headers of the sections, and every section with its records, as far as the next
checksum that is written.
-/

namespace SurfaceCameras
namespace Aiqb

open Bytes Prog

/-! ## The sections of a walk -/

section Walks

variable {tags : List Bytes} {d : Bytes} {w w' : Walk} {s : Section}
  {ss vs : List Section} {n : ℕ}

/-- What a walk finds, it finds on its way. -/
theorem walkFrom_visits (h : walkFrom tags d n w = some ss) :
    ∃ w', Visits tags d w ss w' := by
  induction n generalizing w ss with
  | zero => cases h
  | succ n ih =>
      rw [walkFrom] at h
      cases hstep : walkStep tags d w with
      | done =>
          rw [hstep] at h
          obtain rfl : [] = ss := Option.some.inj h
          exact ⟨w, .refl w⟩
      | enter next =>
          rw [hstep] at h
          obtain ⟨w', hvisits⟩ := ih h
          exact ⟨w', .enter hstep hvisits⟩
      | found s next =>
          rw [hstep] at h
          obtain ⟨rest, hrest, rfl⟩ := Option.map_eq_some_iff.mp h
          obtain ⟨w', hvisits⟩ := ih hrest
          exact ⟨w', .found hstep hvisits⟩

theorem Visits.stop_le (h : Visits tags d w ss w') :
    ∀ s ∈ ss, s.stop ≤ w'.p := by
  induction h with
  | refl => exact fun s hs => absurd hs List.not_mem_nil
  | found hstep hrest ih =>
      obtain ⟨-, -, -, hnext⟩ := walkStep_found hstep
      have hle := hrest.le
      rw [hnext] at hle
      exact List.forall_mem_cons.mpr ⟨hle, ih⟩
  | enter _ _ ih => exact ih

/-- On its way, a walk has found some of its sections, and the others are still
ahead. -/
theorem Visits.split (hall : Aiqb.walkFrom tags d n .start = some ss)
    (h : Visits tags d .start vs w) :
    ∃ rest, ss = vs ++ rest ∧ (∀ s ∈ vs, s.stop ≤ w.p) ∧
      ∀ s ∈ rest, w.p ≤ s.hdr := by
  obtain ⟨k, hk⟩ := h.walkFrom
  have hmore := walkFrom_add hall k
  rw [hk n] at hmore
  obtain ⟨rest, hrest, rfl⟩ := Option.map_eq_some_iff.mp hmore
  obtain ⟨w', hvisits⟩ := walkFrom_visits hrest
  exact ⟨rest, rfl, h.stop_le, fun s hs => (hvisits.ahead s hs).1⟩

theorem Visits.finds_mem (hbefore : Visits tags d .start vs w)
    (h : Visits tags d w ss w') (hs : s ∈ ss) : Finds tags d s := by
  induction h generalizing vs with
  | refl => exact absurd hs List.not_mem_nil
  | @found w next _ t ss hstep _ ih =>
      obtain rfl | hlater := List.mem_cons.mp hs
      · exact ⟨vs, w, next, hbefore, hstep⟩
      · exact ih (hbefore.trans (.found hstep (.refl next))) hlater
  | @enter w next _ ss hstep _ ih =>
      exact ih (hbefore.trans (.enter hstep (.refl next))) hs

theorem Finds.mem (hall : walkFrom tags d n .start = some ss)
    (h : Finds tags d s) : s ∈ ss := by
  obtain ⟨vs, w, next, hvisits, hstep⟩ := h
  have hnext := hvisits.trans (.found hstep (.refl next))
  obtain ⟨rest, rfl, -⟩ := Visits.split hall hnext
  exact List.mem_append_left rest
    (List.mem_append_right vs (List.mem_singleton.mpr rfl))

end Walks

/-! ## What the patch leaves -/

/-- The bytes of the values that the patch writes in a section. -/
def noiseSpan (F : Floats) (d : Bytes) (s : Section) : Set ℕ :=
  {i | s.path = "LISP/DFLT" ∧
    ∃ off, recordLayout.On (fun _ => true) s.stop d s.start off ∧
      ∃ p, ParamOf d off p ∧ i ∈ (paramEdit F d).span p}

section Sections

variable {F : Floats} {n : ℕ} {d d' : Bytes} {s : Section}
  {xs ys : List Section} {i off p : ℕ}

theorem noiseSpan_inside (h : i ∈ noiseSpan F d s) :
    s.start ≤ i ∧ i < s.stop := by
  obtain ⟨-, off, hoff, p, hp, hspan⟩ := h
  obtain ⟨hlo, hhi⟩ := paramEdit_inside (F := F) _ p hp.2 i hspan
  obtain ⟨hstart, hend⟩ := hp.inside
  have hfirst := hoff.start_le
  have hlast := hoff.le_limit
  exact ⟨by omega, by omega⟩

theorem noiseSpan_record (hp : recordLayout.Reaches (fun _ => true) s.stop d
    s.start p) (hi : i ∈ noiseSpan F d s) : i < p ∨ p + 8 ≤ i := by
  obtain ⟨-, off, hoff, q, hq, hspan⟩ := hi
  obtain ⟨hlo, hhi⟩ := paramEdit_inside (F := F) _ q hq.2 i hspan
  obtain ⟨hstart, hend⟩ := hq.inside
  obtain hle | hafter := hoff.1.apart hoff.2 hp
  · exact .inr (by omega)
  · exact .inl (hhi.trans_le (hend.trans hafter))

theorem after_subrecord (d : Bytes) (p : ℕ) :
    subrecordLayout.after d p = paramLayout.after d p := by
  have hleft : word (slice d p 16) 0 = word d p := uint_slice d p (by decide)
  have hright : word (slice d p 28) 0 = word d p := uint_slice d p (by decide)
  exact congrArg (p + ·) (hleft.trans hright.symm)

theorem Layout.Goes.subrecord {stop : ℕ}
    (h : paramLayout.Goes (fun _ => true) stop d p) :
    subrecordLayout.Goes (fun _ => true) stop d p := by
  have hsize := Nat.add_left_cancel (after_subrecord d p)
  obtain ⟨hroom, hin, hleast, hlimit, -⟩ := h
  change p + 28 ≤ stop at hroom
  change p + 28 ≤ d.length at hin
  refine ⟨?_, ?_, ?_, ?_, rfl⟩
  · change p + 16 ≤ stop
    omega
  · change p + 16 ≤ d.length
    omega
  · rw [hsize]
    exact hleast
  · rwa [hsize]

theorem Layout.Reaches.subrecord {start stop : ℕ}
    (h : paramLayout.Reaches (fun _ => true) stop d start p) :
    subrecordLayout.Reaches (fun _ => true) stop d start p := by
  induction h with
  | start => exact .start
  | @next q _ hgo ih =>
      have hnext := ih.next hgo.subrecord
      rwa [Nat.add_left_cancel (after_subrecord d q)] at hnext

/-- No value is in the header of a sub-record, nor in its axis. -/
theorem noiseSpan_subrecord
    (hoff : recordLayout.On (fun _ => true) s.stop d s.start off)
    (hp : subrecordLayout.Reaches (fun _ => true) (recordLayout.after d off) d
      (off + 8) p) (hroom : p + 16 ≤ recordLayout.after d off)
    (hi : i ∈ noiseSpan F d s) :
    i < p ∨ p + 32 + 4 * min (word d (p + 16)) 8 ≤ i := by
  obtain ⟨-, off', hoff', q, hq, hspan⟩ := hi
  obtain ⟨hlo, hhi⟩ := paramEdit_inside (F := F) _ q hq.2 i hspan
  obtain ⟨hstart, hend⟩ := hq.inside
  obtain ⟨hrescales, hvo, -⟩ := hspan
  obtain ⟨hvalues, hfour, -⟩ := hrescales.inside
  obtain rfl | hbefore | hafter := hoff.trichotomy hoff'
  · have hsub := hq.2.1.subrecord
    obtain hle | hpast := hsub.apart hq.2.2.subrecord hp
    · obtain hpq | hqp := hp.total hsub
      · obtain rfl | ⟨hgo, hrest⟩ := hpq.head
        · rw [elem_words] at hvalues hvo
          dsimp only at hvalues
          exact .inr (by omega)
        · -- A later parameter has its values behind at least four nodes.
          have hleast : 16 ≤ subrecordLayout.size (subrecordLayout.elem d p) :=
            hgo.taken.1
          have hlater := hrest.le
          exact .inr (by omega)
      · obtain rfl : p = q := le_antisymm hle hqp.le
        rw [elem_words] at hvalues hvo
        dsimp only at hvalues
        exact .inr (by omega)
    · change subrecordLayout.after d q ≤ p at hpast
      rw [after_subrecord] at hpast
      exact .inl (hhi.trans_le hpast)
  · exact .inr (by omega)
  · have hfirst := hp.le
    exact .inl (by omega)

/-- A section is patched without an exception in the file as it was. -/
theorem Edited.alone_ok (h : Edited F n (xs ++ s :: ys) d d')
    (hxs : ∀ x ∈ xs, x.stop ≤ s.hdr) :
    ∃ new, patchSection F n s d = (.ok new, rescaled F n d s) := by
  obtain ⟨d₁, hbefore, _ | ⟨hpatch, -⟩⟩ := append_iff.mp h
  have hfirst : AgreeOn (Set.Ici s.hdr) d d₁ :=
    hbefore.outside fun i hi x hx hin => by
      have hstop := hxs x hx
      have hlo : s.hdr ≤ i := hi
      omega
  have hsame := (patchSection_relates (F := F) (n := n) (s := s)
    (S := Set.Ici s.hdr) fun i hi => hi) d d₁ hfirst
  rw [hpatch] at hsame
  exact ⟨_, eq_ok hsame.1⟩

theorem patchSection_edits {new : List Patched} (hpath : s.path = "LISP/DFLT")
    (h : patchSection F n s d = (.ok new, d')) :
    ChainEdited F d s.start s.stop d' := by
  have hchain := patchChain_edits F n d s.start s.stop d rfl
  rw [patchSection, if_neg (not_not.mpr hpath)] at h
  rw [h] at hchain
  exact hchain

end Sections

namespace PatchRun

variable {F : Floats} {n : ℕ} {d out d₁ : Bytes} {xs ys : List Section}
  {L s : Section} {t : ℕ} (h : PatchRun F n d out xs L ys d₁ t)
  (hroom : L.start ≤ L.stop)

include h

/-- A section in the file as it was. -/
theorem rescaled_kept (hs : s ∈ xs ++ L :: ys) :
    AgreeOn {i | i ∉ noiseSpan F d s} d (rescaled F n d s) := by
  by_cases hpath : s.path = "LISP/DFLT"
  · obtain ⟨as, bs, hsplit⟩ := List.mem_iff_append.mp hs
    have hedited := h.edited
    have hordered := h.ordered
    rw [hsplit] at hedited hordered
    obtain ⟨-, -, hearlier⟩ := List.pairwise_append.mp hordered
    obtain ⟨new, hok⟩ := hedited.alone_ok fun x hx =>
      (hearlier x hx s List.mem_cons_self).1
    exact (patchSection_edits hpath hok).kept.mono fun i hi off hoff p hp hspan =>
      hi ⟨hpath, off, hoff, p, hp, hspan⟩
  · rw [rescaled_of_ne hpath]
    exact AgreeOn.refl _ d

theorem apart {u : Section} (hs : s ∈ xs ++ L :: ys) (hu : u ∈ xs ++ L :: ys) :
    s = u ∨ s.stop ≤ u.hdr ∨ u.stop ≤ s.hdr := by
  obtain ⟨as, bs, hsplit⟩ := List.mem_iff_append.mp hs
  have hordered := h.ordered
  rw [hsplit] at hordered hu
  obtain ⟨-, hlater, hearlier⟩ := List.pairwise_append.mp hordered
  obtain hbefore | hrest := List.mem_append.mp hu
  · exact .inr (.inr (hearlier u hbefore s List.mem_cons_self).1)
  · obtain rfl | hafter := List.mem_cons.mp hrest
    · exact .inl rfl
    · exact .inr (.inl (List.rel_of_pairwise_cons hlater hafter).1)

include hroom

theorem sum_outside (hs : s ∈ xs ++ L :: ys)
    (hi : L.hdr + 0x14 ≤ i ∧ i < L.hdr + 0x18) :
    i < s.start ∨ s.stop + 0x14 ≤ i := by
  have hL : L.hdr + 0x18 ≤ L.stop := hroom
  rw [Section.start]
  obtain rfl | hlater | hearlier := h.apart hs (u := L) (by simp)
  · exact .inl hi.2
  · exact .inr (by omega)
  · exact .inl (by omega)

/-- A section of the finished file, but for its checksum. -/
theorem section_kept (hs : s ∈ xs ++ L :: ys) :
    AgreeOn (Set.Ico s.start s.stop) (rescaled F n d s) out := by
  have halone := (h.alone hs).mono (T := Set.Ico s.start s.stop) fun i hi => by
    obtain ⟨hlo, hhi⟩ := hi
    rw [Section.start] at hlo
    exact ⟨by omega, .inl (by omega)⟩
  have hwrite := halone.write h.room' fun i hi hin => by
    rw [length_toLe] at hin
    obtain hbefore | hafter := h.sum_outside hroom hs hin
    · exact absurd hi.1 (Nat.not_le_of_lt hbefore)
    · have hhi := hi.2
      omega
  refine hwrite.trans (h.rest.mono fun i hi => ?_)
  have hfirst := (h.ahead s hs).1
  have hlo := hi.1
  rw [Section.start] at hlo
  show 0x18 ≤ i
  omega

/-- Nothing else changes in the file. -/
theorem kept :
    AgreeOn {i | 0x18 ≤ i ∧ ¬ (L.hdr + 0x14 ≤ i ∧ i < L.hdr + 0x18) ∧
      ∀ s ∈ xs ++ L :: ys, i ∉ noiseSpan F d s} d out := by
  have houtside : AgreeOn {i | (0x18 ≤ i ∧
      ¬ (L.hdr + 0x14 ≤ i ∧ i < L.hdr + 0x18)) ∧
        ∀ s ∈ xs ++ L :: ys, ¬ (s.start ≤ i ∧ i < s.stop)} d out := by
    refine AgreeOn.trans ((h.edited.outside fun i hi => hi.2).write h.room'
      fun i hi hin => hi.1.2 ?_) (h.rest.mono fun i hi => hi.1.1)
    rwa [length_toLe] at hin
  refine ⟨houtside.length, fun i hi => ?_⟩
  obtain ⟨hlo, hsum, hspan⟩ := hi
  by_cases hin : ∃ s ∈ xs ++ L :: ys, s.start ≤ i ∧ i < s.stop
  · obtain ⟨s, hs, hinside⟩ := hin
    exact ((h.rescaled_kept hs).get i (hspan s hs)).trans
      ((h.section_kept hroom hs).get i hinside)
  · exact houtside.get i ⟨⟨hlo, hsum⟩, fun s hs hinside => hin ⟨s, hs, hinside⟩⟩

/-- The header of every section and container, but for a checksum. -/
theorem header_kept {vs : List Section} {w : Walk}
    (hvisits : Visits nrSectionTags d .start vs w) :
    AgreeOn (Set.Ico w.p (w.p + 0x14)) d out := by
  obtain ⟨rest, hsplit, hbefore, hahead⟩ := Visits.split h.found hvisits
  have hstart : 0x18 ≤ w.p := hvisits.le
  have hL : L ∈ vs ++ rest := hsplit ▸ by simp
  have hroom' : L.hdr + 0x18 ≤ L.stop := hroom
  refine (h.kept hroom).mono fun i hi => ?_
  obtain ⟨hlo, hhi⟩ := hi
  refine ⟨hstart.trans hlo, fun hsum => ?_, fun s hs hspan => ?_⟩
  · obtain hpast | hlater := List.mem_append.mp hL
    · have hle := hbefore L hpast
      omega
    · have hle := hahead L hlater
      omega
  · obtain ⟨hfirst, hlast⟩ := noiseSpan_inside hspan
    rw [Section.start] at hfirst
    obtain hpast | hlater := List.mem_append.mp (hsplit ▸ hs)
    · have hle := hbefore s hpast
      omega
    · have hle := hahead s hlater
      omega

/-- A section is as it was but for the values, and so are the first bytes after
it. -/
theorem chain_kept (hs : s ∈ xs ++ L :: ys) :
    AgreeOn {i | (s.start ≤ i ∧ i < s.stop + 0x14) ∧ i ∉ noiseSpan F d s}
      d out := by
  have hfirst := (h.ahead s hs).1
  refine (h.kept hroom).mono fun i hi => ?_
  obtain ⟨⟨hlo, hhi⟩, hnot⟩ := hi
  refine ⟨?_, fun hsum => ?_, fun u hu hspan => ?_⟩
  · rw [Section.start] at hlo
    omega
  · obtain hbefore | hafter := h.sum_outside hroom hs hsum
    · omega
    · omega
  · obtain ⟨hstart, hstop⟩ := noiseSpan_inside hspan
    rw [Section.start] at hstart hlo
    obtain rfl | hlater | hearlier := h.apart hs hu
    · exact hnot hspan
    · omega
    · omega

/-- A parameter is as its own edit leaves it. -/
theorem param_done (hs : s ∈ xs ++ L :: ys) (hpath : s.path = "LISP/DFLT")
    (hoff : recordLayout.On (fun _ => true) s.stop d s.start off)
    (hp : ParamOf d off p) :
    AgreeOn (Set.Ico p (paramLayout.after d p)) ((paramEdit F d).edited p)
      out := by
  obtain ⟨as, bs, hsplit⟩ := List.mem_iff_append.mp hs
  have hedited := h.edited
  have hordered := h.ordered
  rw [hsplit] at hedited hordered
  obtain ⟨-, -, hearlier⟩ := List.pairwise_append.mp hordered
  obtain ⟨new, hok⟩ := hedited.alone_ok fun x hx =>
    (hearlier x hx s List.mem_cons_self).1
  refine ((patchSection_edits hpath hok).done off hoff p hp).trans ?_
  refine (h.section_kept hroom hs).mono fun i hi => ?_
  obtain ⟨hstart, hend⟩ := hp.inside
  have hfirst := hoff.start_le
  have hlast := hoff.le_limit
  exact ⟨by have hlo := hi.1; omega, hi.2.trans_le (hend.trans hlast)⟩

end PatchRun

end Aiqb
end SurfaceCameras
