import SurfaceCameras.Aiqb.Calibration
import SurfaceCameras.Aiqb.DecodeBounds
import SurfaceCameras.Aiqb.Edits
import SurfaceCameras.Support.Mirrors

/-!
# Files that are listed alike

What the decoder lists of a file is found from some of its bytes: the headers
of the sections, those of the records and of the sub-records that its walks
lead to, and the axes.  A file that has the same bytes there is listed alike,
however the two differ elsewhere.
-/

namespace SurfaceCameras
namespace Aiqb

open Bytes Prog

/-! ## Reading the same bytes -/

section Reading

variable {α β : Type} {d d' : Bytes} {p n : ℕ}

theorem unpackFrom_known {fields : Bytes → α} (hlen : d.length = d'.length)
    (hslice : slice d p n = slice d' p n) :
    Mirrors d d' (fun a a' =>
        a = a' ∧ a = fields (slice d p n) ∧ p + n ≤ d.length)
      (unpackFrom p n fields) (unpackFrom p n fields) := by
  by_cases hin : p + n ≤ d.length
  · refine Mirrors.of_ok ⟨congrArg fields hslice, rfl, hin⟩
      (unpackFrom_ok fields hin) ?_
    exact unpackFrom_ok fields (hlen ▸ hin)
  · have hout := Nat.lt_of_not_le hin
    refine Mirrors.of_error (unpackFrom_error fields hout) ?_
    exact unpackFrom_error fields (hlen ▸ hout)

theorem unpackFrom_mirrors {fields : Bytes → α} (hlen : d.length = d'.length)
    (hslice : slice d p n = slice d' p n) :
    Mirrors d d' Eq (unpackFrom p n fields) (unpackFrom p n fields) :=
  (unpackFrom_known hlen hslice).mono fun _ _ h => h.1

theorem lift_ok {q : Script α} {a : α} (h : q d = (.ok a, d')) :
    lift q d = (.ok a, d') := by
  rw [lift, h]

theorem lift_error {q : Script α} {e : Stop} (h : q d = (.error e, d')) :
    lift q d = (.error (.script e), d') := by
  rw [lift, h]

theorem lift_mirrors {V : α → β → Prop} {q : Script α} {q' : Script β}
    (h : Mirrors d d' V q q') : Mirrors d d' V (lift q) (lift q') := by
  obtain ⟨e, hq, hq'⟩ | ⟨a, b, hV, hq, hq'⟩ := h.cases
  · exact Mirrors.of_error (lift_error hq) (lift_error hq')
  · exact Mirrors.of_ok hV (lift_ok hq) (lift_ok hq')

theorem unpack_mirrors {fields : Bytes → α} (hlen : d.length = d'.length)
    (hslice : slice d p n = slice d' p n) :
    Mirrors d d' Eq (lift (unpackFrom p n fields))
      (lift (unpackFrom p n fields)) :=
  lift_mirrors (unpackFrom_mirrors hlen hslice)

theorem byteAt_mirrors (h : d[p]? = d'[p]?) :
    Mirrors d d' Eq (byteAt p) (byteAt p) := by
  refine Mirrors.bind (Mirrors.gets h) fun byte byte' hbyte => ?_
  subst hbyte
  cases byte with
  | none => exact Mirrors.raise _
  | some b => exact Mirrors.pure rfl

theorem computed_mirrors (a : Option α) :
    Mirrors d d' Eq (computed a) (computed a) := by
  cases a with
  | none => exact Mirrors.raise _
  | some a => exact Mirrors.pure rfl

theorem decodeAt_mirrors {decode decode' : ℕ → Decoder α} {off : Option ℕ}
    (h : ∀ p, off = some p → Mirrors d d' Eq (decode p) (decode' p)) :
    Mirrors d d' Eq (decodeAt decode off) (decodeAt decode' off) := by
  cases off with
  | none => exact Mirrors.pure rfl
  | some p =>
      refine Mirrors.bind (h p rfl) fun a b hab => ?_
      exact Mirrors.pure (congrArg some hab)

theorem decodeMany_mirrors {decode : ℕ → Decoder α} {stride num : ℕ}
    (h : ∀ i < num, Mirrors d d' Eq (decode (p + stride * i))
      (decode (p + stride * i))) :
    Mirrors d d' Eq (decodeMany decode stride num p)
      (decodeMany decode stride num p) := by
  induction num generalizing p with
  | zero => exact Mirrors.pure rfl
  | succ num ih =>
      have hrest : ∀ i < num, Mirrors d d' Eq (decode (p + stride + stride * i))
          (decode (p + stride + stride * i)) := by
        intro i hi
        rw [show p + stride + stride * i = p + stride * (i + 1) by ring]
        exact h (i + 1) (Nat.succ_lt_succ hi)
      refine Mirrors.bind (h 0 (Nat.zero_lt_succ num)) fun a b hab => ?_
      refine Mirrors.bind (ih hrest) fun as bs hrest => ?_
      subst hab hrest
      exact Mirrors.pure rfl

end Reading

/-! ## Walks over the same headers -/

namespace Layout

variable {η α β : Type} {L : Layout η} {known : η → Bool} {limit start : ℕ}
  {d d' : Bytes} {V : α → β → Prop}

/-- Two walks over the same headers end alike if what they do with each element
does. -/
theorem forEach_mirrors {f : ℕ → η → Script α} {f' : ℕ → η → Script β}
    (hlen : d.length = d'.length)
    (hhead : ∀ p, L.Reaches known limit d start p → p + L.len ≤ limit →
      slice d p L.len = slice d' p L.len)
    (hf : ∀ p, L.Reaches known limit d start p → L.Goes known limit d p →
      Mirrors d d' V (f p (L.elem d p)) (f' p (L.elem d p))) :
    Mirrors d d' (List.Forall₂ V) (L.forEach known limit f start)
      (L.forEach known limit f' start) := by
  let I : ℕ × List α → ℕ × List β → Prop := fun v v' =>
    v.1 = v'.1 ∧ L.Reaches known limit d start v.1 ∧ List.Forall₂ V v.2 v'.2
  refine Mirrors.iterate (I := I) ?_ _ _ _ ⟨rfl, .start, .nil⟩
  rintro ⟨p, acc⟩ ⟨p', acc'⟩ ⟨hp, hreach, hacc⟩
  obtain rfl : p = p' := hp
  refine Mirrors.ite Iff.rfl (fun hroom => ?_) fun _ => Mirrors.pure (.inr hacc)
  have hsame := hhead p hreach hroom
  refine (unpackFrom_known hlen hsame).bind fun h h' hh => ?_
  obtain ⟨rfl, rfl, hin⟩ := hh
  refine Mirrors.ite Iff.rfl (fun htaken => ?_)
    fun _ => Mirrors.pure (.inr hacc)
  have hgo : L.Goes known limit d p := ⟨hroom, hin, htaken⟩
  refine (hf p hreach hgo).bind fun a b hab => Mirrors.pure (.inl ?_)
  exact ⟨rfl, hreach.next hgo, List.rel_append hacc (.cons hab .nil)⟩

end Layout

/-! ## Sections -/

section Sections

variable {α β : Type} {tags : List Bytes} {d d' : Bytes} {w : Walk}
  {V : α → β → Prop}

/-- A step of the walk over the sections looks at one header. -/
theorem walkStep_same (hlen : d.length = d'.length)
    (hhead : slice d w.p 16 = slice d' w.p 16) :
    walkStep tags d w = walkStep tags d' w := by
  have hinside : ∀ {q m}, q + m ≤ 16 → slice d (w.p + q) m =
      slice d' (w.p + q) m := by
    intro q m hq
    rw [← slice_slice d w.p hq, hhead, slice_slice d' w.p hq]
  have htag : slice d w.p 4 = slice d' w.p 4 := hinside (q := 0) (by decide)
  have hsize : word d (w.p + 4) = word d' (w.p + 4) :=
    congrArg ofLe (hinside (by decide))
  have hver : word d (w.p + 8) = word d' (w.p + 8) :=
    congrArg ofLe (hinside (by decide))
  simp only [walkStep, hlen, htag, hsize, hver]

theorem forSections_mirrors {f : Section → Script α} {f' : Section → Script β}
    (hwalk : ∀ ss w, Visits tags d .start ss w →
      walkStep tags d w = walkStep tags d' w)
    (hf : ∀ s, Finds tags d s → Mirrors d d' V (f s) (f' s)) (n : ℕ) :
    Mirrors d d' (List.Forall₂ V) (forSections tags f n)
      (forSections tags f' n) := by
  let I : Walk × List α → Walk × List β → Prop := fun v v' =>
    v.1 = v'.1 ∧ (∃ ss, Visits tags d .start ss v.1) ∧ List.Forall₂ V v.2 v'.2
  refine Mirrors.iterate (I := I) ?_ _ _ _ ⟨rfl, ⟨[], .refl _⟩, .nil⟩
  rintro ⟨w, acc⟩ ⟨w', acc'⟩ ⟨hw, ⟨ss, hvisits⟩, hacc⟩
  obtain rfl : w = w' := hw
  have hsame := hwalk ss w hvisits
  cases hstep : walkStep tags d w with
  | done =>
      rw [hstep] at hsame
      refine Mirrors.of_ok (.inr hacc) (sectionRound_done hstep acc) ?_
      exact sectionRound_done hsame.symm acc'
  | enter next =>
      rw [hstep] at hsame
      have hnext := hvisits.trans (.enter hstep (.refl next))
      exact Mirrors.of_ok (.inl (show I (next, acc) (next, acc') from
          ⟨rfl, ⟨_, hnext⟩, hacc⟩))
        (sectionRound_enter hstep acc) (sectionRound_enter hsame.symm acc')
  | found s next =>
      rw [hstep] at hsame
      have hnext := hvisits.trans (.found hstep (.refl next))
      have hround := (hf s ⟨ss, w, next, hvisits, hstep⟩).bind
        (f := fun a => (pure (.inl (next, acc ++ [a])) :
          Script (Walk × List α ⊕ List α)))
        (g := fun b => (pure (.inl (next, acc' ++ [b])) :
          Script (Walk × List β ⊕ List β))) (W := Sum.LiftRel I (List.Forall₂ V))
        fun a b hab => Mirrors.pure
          (.inl ⟨rfl, ⟨_, hnext⟩, List.rel_append hacc (.cons hab .nil)⟩)
      obtain ⟨hleft, hright, halike⟩ := hround
      have hl := sectionRound_found (f := f) hstep acc
      have hr := sectionRound_found (f := f') hsame.symm acc'
      exact ⟨by rw [hl, hleft], by rw [hr, hright], by rwa [hl, hr]⟩

end Sections

/-! ## Listings -/

/-- The axis of the sub-record at `p`, and its nodes. -/
def SameAxis (d d' : Bytes) (p : ℕ) : Prop :=
  slice d (p + 16) 4 = slice d' (p + 16) 4 ∧
    slice d (p + 28) (4 * min (word d (p + 16)) 8) =
      slice d' (p + 28) (4 * min (word d (p + 16)) 8)

/-- The files have the same bytes wherever the walks over the sections and the
records of the first one look. -/
structure SameChains (d d' : Bytes) : Prop where
  length : d.length = d'.length
  sections : ∀ ss w, Visits sectionTags d .start ss w →
    slice d w.p 16 = slice d' w.p 16
  records : ∀ s, Finds sectionTags d s → ∀ p,
    recordLayout.Reaches (fun _ => true) s.stop d s.start p →
      p + 8 ≤ s.stop → slice d p 8 = slice d' p 8

/-- And wherever those over the sub-records do. -/
structure SameListing (d d' : Bytes) : Prop extends SameChains d d' where
  subrecords : ∀ s, Finds sectionTags d s → s.path.startsWith "LISP" → ∀ p,
    recordLayout.On (fun _ => true) s.stop d s.start p → ∀ q,
      subrecordLayout.Reaches (fun _ => true) (recordLayout.after d p) d
          (p + 8) q →
        q + 16 ≤ recordLayout.after d p → slice d q 16 = slice d' q 16 ∧
          (subrecordLayout.Goes (fun _ => true) (recordLayout.after d p) d q →
            SameAxis d d' q)

section Alike

variable {d d' : Bytes}

theorem unpackAxis_mirrors {p : ℕ} (hlen : d.length = d'.length)
    (haxis : SameAxis d d' p) :
    Mirrors d d' Eq (unpackAxis p) (unpackAxis p) := by
  obtain ⟨hcount, hnodes⟩ := haxis
  refine (unpackFrom_known hlen hcount).bind fun nn nn' hnn => ?_
  obtain ⟨rfl, hnn, -⟩ := hnn
  rw [show nn = word d (p + 16) from
    hnn.trans (uint_slice d _ (q := 0) (by decide))]
  exact unpackFrom_mirrors hlen hnodes

/-- Both files are listed alike with `--records`. -/
theorem SameChains.cmdRecords (h : SameChains d d') (n : ℕ) :
    Mirrors d d' Eq (Aiqb.cmdRecords n) (Aiqb.cmdRecords n) := by
  have hlist : ∀ s, Finds sectionTags d s →
      Mirrors d d' Eq (listSection s) (listSection s) := by
    intro s hs
    have hwalk : Mirrors d d' (List.Forall₂ Eq) (walkChain s.start s.stop)
        (walkChain s.start s.stop) :=
      Layout.forEach_mirrors h.length (h.records s hs)
        fun _ _ _ => Mirrors.pure rfl
    refine hwalk.bind fun rs rs' hrs => ?_
    obtain rfl := List.forall₂_eq_eq_eq ▸ hrs
    exact Mirrors.pure rfl
  refine (forSections_mirrors (fun ss w hw => ?_) hlist n).mono fun _ _ hsame =>
    List.forall₂_eq_eq_eq ▸ hsame
  exact walkStep_same h.length (h.sections ss w hw)

/-- And with `--isp`. -/
theorem SameListing.cmdIsp (h : SameListing d d') (n : ℕ) :
    Mirrors d d' Eq (Aiqb.cmdIsp n) (Aiqb.cmdIsp n) := by
  have hreport : ∀ s, Finds sectionTags d s →
      Mirrors d d' Eq (reportSection s) (reportSection s) := by
    intro s hs
    refine Mirrors.ite Iff.rfl (fun hlisp => ?_) fun _ => Mirrors.pure rfl
    refine (Layout.forEach_mirrors h.length (h.records s hs)
      fun p hp hgo => ?_).mono fun _ _ hsame => List.forall₂_eq_eq_eq ▸ hsame
    have hsubs : Mirrors d d' (List.Forall₂ Eq)
        (forSubrecords (recordLayout.elem d p))
        (forSubrecords (recordLayout.elem d p)) := by
      refine Layout.forEach_mirrors h.length (fun q hq hroom => ?_)
        fun q hq hgo' => ?_
      · exact (h.subrecords s hs hlisp p ⟨hp, hgo⟩ q hq hroom).1
      · have haxis :=
          (h.subrecords s hs hlisp p ⟨hp, hgo⟩ q hq hgo'.room).2 hgo'
        refine (unpackAxis_mirrors h.length haxis).bind fun axis axis' heq => ?_
        exact Mirrors.pure (congrArg _ heq)
    refine hsubs.bind fun subs subs' hsubs => ?_
    obtain rfl := List.forall₂_eq_eq_eq ▸ hsubs
    exact Mirrors.pure rfl
  refine (forSections_mirrors (fun ss w hw => ?_) hreport n).mono
    fun _ _ hsame => List.forall₂_eq_eq_eq ▸ hsame
  exact walkStep_same h.length (h.sections ss w hw)

end Alike

end Aiqb
end SurfaceCameras
