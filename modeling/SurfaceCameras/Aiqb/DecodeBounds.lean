import SurfaceCameras.Aiqb.Decode

/-!
# Where the walks end

Every loop of `decode_aiqb` advances by a size it has read from the file.  The
loops over records and sub-records check that this size is not too small.  The
loop over the sections does not: a section of size zero is found for ever.

The loops read as far as the sections claim to reach, which is further than the
file if it was cut off.
-/

namespace SurfaceCameras
namespace Aiqb

open Bytes Prog

/-! ## The loop over the sections -/

/-- The walk over the sections finds `s`. -/
def Finds (tags : List Bytes) (d : Bytes) (s : Section) : Prop :=
  ∃ ss w next, Visits tags d .start ss w ∧ walkStep tags d w = .found s next

/-- Every section that the walk finds has a size. -/
def SectionsSized (tags : List Bytes) (d : Bytes) : Prop :=
  ∀ s, Finds tags d s → word d (s.hdr + 4) ≠ 0

section Sections

variable {α : Type} {tags : List Bytes} {d : Bytes} {w w' next : Walk}
  {s : Section} {ss : List Section} {f : Section → Script α}

theorem walkStep_room (h : walkStep tags d w ≠ .done) :
    w.p + 16 ≤ d.length := by
  by_contra hroom
  refine h ?_
  rw [walkStep, if_neg fun hin => hroom hin.1]

theorem walkStep_empty (h : walkStep tags d w = .found s next)
    (hzero : word d (w.p + 4) = 0) : walkStep tags d next = .found s next := by
  obtain ⟨-, -, hstop, hnext⟩ := walkStep_found h
  have hsame : s.stop = w.p := by omega
  rw [hsame] at hnext
  rw [hnext, walkStep_openAt, h, hnext]

theorem walkFrom_empty (h : walkStep tags d w = .found s w) (n : ℕ) :
    walkFrom tags d n w = none := by
  induction n with
  | zero => rfl
  | succ n ih =>
      rw [walkFrom, h]
      simp only [ih, Option.map_none]

/-- More iterations change nothing for a walk that has ended. -/
theorem walkFrom_add {n : ℕ} (h : walkFrom tags d n w = some ss) (k : ℕ) :
    walkFrom tags d (n + k) w = some ss := by
  induction n generalizing w ss with
  | zero => cases h
  | succ n ih =>
      rw [Nat.add_right_comm, walkFrom]
      rw [walkFrom] at h
      cases hstep : walkStep tags d w with
      | done =>
          rw [hstep] at h
          exact h
      | enter next =>
          rw [hstep] at h
          exact ih h
      | found s next =>
          rw [hstep] at h
          obtain ⟨rest, hrest, hss⟩ := Option.map_eq_some_iff.mp h
          exact Option.map_eq_some_iff.mpr ⟨rest, ih hrest, hss⟩

/-- A walk that finds only sections with a size comes to its end. -/
theorem walkFrom_ends (hsized : SectionsSized tags d)
    (hvisits : Visits tags d .start ss w) (n : ℕ) (hn : d.length - w.p < n) :
    (walkFrom tags d n w).isSome := by
  induction n generalizing ss w with
  | zero => exact absurd hn (Nat.not_lt_zero _)
  | succ n ih =>
      rw [walkFrom]
      cases hstep : walkStep tags d w with
      | done => rfl
      | enter next =>
          have hroom : w.p + 16 ≤ d.length :=
            walkStep_room fun h => Move.noConfusion (hstep.symm.trans h)
          have hp := walkStep_enter hstep
          have hnext := hvisits.trans (.enter hstep (.refl next))
          exact ih hnext (by omega)
      | found s next =>
          have hroom : w.p + 16 ≤ d.length :=
            walkStep_room fun h => Move.noConfusion (hstep.symm.trans h)
          obtain ⟨-, hhdr, hstop, hnext⟩ := walkStep_found hstep
          have hsize := hsized s ⟨ss, w, next, hvisits, hstep⟩
          have hp : next.p = s.stop := by rw [hnext]
          rw [hhdr] at hsize
          have hvisits' := hvisits.trans (.found hstep (.refl next))
          have hrest := ih hvisits' (by omega)
          exact Option.isSome_map.trans hrest

/-- The walk over the sections comes to its end if and only if every section
it finds has a size. -/
theorem walkFrom_ends_iff :
    (∃ n, (walkFrom tags d n .start).isSome) ↔ SectionsSized tags d := by
  constructor
  · rintro ⟨n, hn⟩ s ⟨ss, w, next, hvisits, hstep⟩ hzero
    obtain ⟨-, hhdr, -, -⟩ := walkStep_found hstep
    rw [hhdr] at hzero
    have hagain := walkStep_empty hstep hzero
    obtain ⟨k, hk⟩ := (hvisits.trans (.found hstep (.refl next))).walkFrom
    obtain ⟨ss', hended⟩ := Option.isSome_iff_exists.mp hn
    have hmore := walkFrom_add hended k
    rw [hk n, walkFrom_empty hagain, Option.map_none] at hmore
    cases hmore
  · exact fun hsized => ⟨_, walkFrom_ends hsized (.refl _) _ (Nat.lt_succ_self _)⟩

end Sections

/-! ## Coming to the end -/

/-- Every loop over the bytes `d` comes to its end: the one over the sections,
under either table of tags, the one over a chain of records, and the one over
the sub-records of a record. -/
structure Terminates (d : Bytes) : Prop where
  sections : ∃ n, (walkFrom sectionTags d n .start).isSome
  nrSections : ∃ n, (walkFrom nrSectionTags d n .start).isSome
  chain : ∀ start stop, (walkChain start stop d).1 ≠ .error .endless
  subrecords : ∀ r, (forSubrecords r d).1 ≠ .error .endless

theorem unpackAxis_reads (p : ℕ) : Reads (unpackAxis p) :=
  Keeps.bind (unpackFrom_reads _ _ _) fun _ => unpackFrom_reads _ _ _

theorem forSubrecords_reads (r : Record) : Reads (forSubrecords r) :=
  Layout.forEach_reads (fun p _ => Keeps.bind (unpackAxis_reads p) fun _ =>
    Keeps.pure _) _

theorem forChain_reads {α : Type} {f : Record → Script α}
    (hf : ∀ r, Reads (f r)) (start stop : ℕ) : Reads (forChain f start stop) :=
  Layout.forEach_reads (fun _ => hf) start

/-- Every loop comes to its end if and only if no section that the loop over
them finds has size zero. -/
theorem terminates_iff (d : Bytes) :
    Terminates d ↔
      SectionsSized sectionTags d ∧ SectionsSized nrSectionTags d := by
  constructor
  · intro h
    exact ⟨walkFrom_ends_iff.mp h.sections, walkFrom_ends_iff.mp h.nrSections⟩
  · rintro ⟨hsized, hnrSized⟩
    exact
      { sections := walkFrom_ends_iff.mpr hsized
        nrSections := walkFrom_ends_iff.mpr hnrSized
        chain := fun start stop =>
          (forChain_reads (fun _ => Keeps.pure _) start stop).ne_endless d
        subrecords := fun r => (forSubrecords_reads r).ne_endless d }

/-- A file of one `AIQB` header with size zero. -/
def emptySection : Bytes :=
  ascii "CPFF" ++ List.replicate 20 0 ++ ascii "AIQB" ++ List.replicate 12 0

/-- The walk over the sections of that file does not end. -/
theorem emptySection_endless : ¬ Terminates emptySection := by
  intro h
  obtain ⟨n, hn⟩ := h.sections
  have hstep : walkStep sectionTags emptySection .start =
      .found ⟨"", 0x18, 0x18⟩ .start := by decide
  rw [walkFrom_empty hstep] at hn
  cases hn

/-! ## Staying inside -/

section Inside

variable {α : Type} {tags : List Bytes} {d : Bytes} {w w' next : Walk}
  {s : Section} {ss : List Section} {f : Section → Script α}

theorem sectionRound_done (h : walkStep tags d w = .done) (acc : List α) :
    sectionRound tags f (w, acc) d = (.ok (.inr acc), d) := by
  simp only [sectionRound, bind_apply, gets_apply, id, h, pure_apply]

theorem sectionRound_enter (h : walkStep tags d w = .enter next)
    (acc : List α) :
    sectionRound tags f (w, acc) d = (.ok (.inl (next, acc)), d) := by
  simp only [sectionRound, bind_apply, gets_apply, id, h, pure_apply]

theorem sectionRound_found (h : walkStep tags d w = .found s next)
    (acc : List α) :
    sectionRound tags f (w, acc) d =
      (f s >>= fun a => pure (.inl (next, acc ++ [a]))) d := by
  simp only [sectionRound, bind_apply, gets_apply, id, h]

/-- A walk that never reads too far comes to every section on its way. -/
theorem Visits.comes (hf : ∀ s, Reads (f s)) (h : Visits tags d w ss w')
    (acc : List α)
    (hin : ∀ n, (iterate .endless (sectionRound tags f) n (w, acc) d).1 ≠
      .error .structError) :
    ∃ acc', ∀ n, (iterate .endless (sectionRound tags f) n (w', acc') d).1 ≠
      .error .structError := by
  induction h generalizing acc with
  | refl w => exact ⟨acc, hin⟩
  | @found w next w' s ss hstep _ ih =>
      have hround := sectionRound_found (f := f) hstep acc
      have hfs : (f s d).1 ≠ .error .structError := by
        intro herror
        rw [bind_error (Prod.ext herror rfl)] at hround
        exact hin 1 (congrArg Prod.fst (iterate_error hround 0))
      obtain ⟨a, ha⟩ := (hf s).ok hfs
      rw [bind_ok ha] at hround
      refine ih (acc ++ [a]) fun n => ?_
      rw [← iterate_next hround]
      exact hin (n + 1)
  | @enter w next w' ss hstep _ ih =>
      refine ih acc fun n => ?_
      rw [← iterate_next (sectionRound_enter hstep acc)]
      exact hin (n + 1)

/-- The loop over the sections stays inside the file if and only if it does so
in every section. -/
theorem forSections_inside_iff (hf : ∀ s, Reads (f s)) :
    (∀ n, (forSections tags f n d).1 ≠ .error .structError) ↔
      ∀ s, Finds tags d s → (f s d).1 ≠ .error .structError := by
  constructor
  · rintro hin s ⟨ss, w, next, hvisits, hstep⟩ herror
    obtain ⟨acc, hrest⟩ := hvisits.comes hf [] hin
    have hround := sectionRound_found (f := f) hstep acc
    rw [bind_error (Prod.ext herror rfl)] at hround
    exact hrest 1 (congrArg Prod.fst (iterate_error hround 0))
  · intro hall n
    suffices hrest : ∀ ss w acc, Visits tags d .start ss w →
        (iterate .endless (sectionRound tags f) n (w, acc) d).1 ≠
          .error .structError from hrest _ _ _ (.refl _)
    induction n with
    | zero => exact fun _ _ _ _ h => nomatch h
    | succ n ih =>
        intro ss w acc hvisits
        cases hstep : walkStep tags d w with
        | done =>
            rw [iterate_done (sectionRound_done hstep acc)]
            exact fun h => nomatch h
        | enter next =>
            rw [iterate_next (sectionRound_enter hstep acc)]
            exact ih _ _ _ (hvisits.trans (.enter hstep (.refl next)))
        | found s next =>
            have hround := sectionRound_found (f := f) hstep acc
            obtain ⟨a, ha⟩ := (hf s).ok (hall s ⟨ss, w, next, hvisits, hstep⟩)
            rw [bind_ok ha] at hround
            rw [iterate_next hround]
            exact ih _ _ _ (hvisits.trans (.found hstep (.refl next)))

end Inside

/-! ### Records and sub-records -/

/-- What is read of the axis at `p` is in the file. -/
def AxisInside (d : Bytes) (p : ℕ) : Prop :=
  p + 20 ≤ d.length ∧ p + 28 + 4 * min (word d (p + 16)) 8 ≤ d.length

/-- The sub-records of a record are in the file, wherever their sizes lead. -/
def SubrecordsInside (d : Bytes) (r : Record) : Prop :=
  ∀ p, subrecordLayout.Reaches (fun _ => true) (r.off + r.size) d (r.off + 8) p →
    ¬ subrecordLayout.Escapes (r.off + r.size) d p ∧
      (subrecordLayout.Goes (fun _ => true) (r.off + r.size) d p →
        AxisInside d p)

/-- The records of a section are in the file, wherever their sizes lead, and so
are those of their sub-records that are read. -/
def RecordsInside (d : Bytes) (s : Section) : Prop :=
  ∀ p, recordLayout.Reaches (fun _ => true) s.stop d s.start p →
    ¬ recordLayout.Escapes s.stop d p ∧
      (recordLayout.Goes (fun _ => true) s.stop d p →
        s.path.startsWith "LISP" → SubrecordsInside d (recordLayout.elem d p))

section Records

variable {d : Bytes}

theorem unpackFrom_inside_iff {α : Type} {p n : ℕ} {fields : Bytes → α} :
    (unpackFrom p n fields d).1 ≠ .error .structError ↔ p + n ≤ d.length := by
  obtain hout | hin := Nat.lt_or_ge d.length (p + n)
  · rw [unpackFrom_error fields hout]
    exact iff_of_false (fun h => h rfl) (Nat.not_le_of_lt hout)
  · rw [unpackFrom_ok fields hin]
    exact iff_of_true (fun h => nomatch h) hin

theorem bind_pure_error_iff {α β : Type} {q : Script α} {g : α → β} {e : Stop} :
    ((q >>= fun a => pure (g a)) d).1 = .error e ↔ (q d).1 = .error e := by
  rw [bind_pure_fst]
  rcases (q d).1 with e' | a
  · exact ⟨fun h => congrArg Except.error (Except.error.inj h),
      fun h => congrArg Except.error (Except.error.inj h)⟩
  · exact iff_of_false (fun h => nomatch h) fun h => nomatch h

theorem unpackAxis_inside_iff {p : ℕ} :
    (unpackAxis p d).1 ≠ .error .structError ↔ AxisInside d p := by
  by_cases hin : p + 16 + 4 ≤ d.length
  · have hnodes : word (slice d (p + 16) 4) 0 = word d (p + 16) :=
      uint_slice d _ (by decide)
    rw [unpackAxis, bind_ok (unpackFrom_ok _ hin), unpackFrom_inside_iff,
      hnodes]
    exact ⟨fun h => ⟨hin, h⟩, fun h => h.2⟩
  · rw [unpackAxis, bind_error (unpackFrom_error _ (Nat.lt_of_not_le hin))]
    exact iff_of_false (fun h => h rfl) fun h => hin h.1

theorem forSubrecords_inside_iff {r : Record} :
    (forSubrecords r d).1 ≠ .error .structError ↔ SubrecordsInside d r := by
  rw [forSubrecords, Layout.forEach_inside_iff fun p _ =>
    Keeps.bind (unpackAxis_reads p) fun _ => Keeps.pure _]
  simp only [ne_eq, bind_pure_error_iff, SubrecordsInside,
    ← unpackAxis_inside_iff]

theorem reportStream_reads (path : String) (r : Record) :
    Reads (reportStream path r) :=
  Keeps.bind (forSubrecords_reads r) fun _ => Keeps.pure _

theorem listSection_reads (s : Section) : Reads (listSection s) :=
  Keeps.bind (forChain_reads (fun _ => Keeps.pure _) _ _) fun _ => Keeps.pure _

theorem reportSection_reads (s : Section) : Reads (reportSection s) :=
  Keeps.ite (forChain_reads (reportStream_reads _) _ _) (Keeps.pure _)

theorem listSection_inside_iff {s : Section} :
    (listSection s d).1 ≠ .error .structError ↔
      ∀ p, recordLayout.Reaches (fun _ => true) s.stop d s.start p →
        ¬ recordLayout.Escapes s.stop d p := by
  have hwalk : (walkChain s.start s.stop d).1 ≠ .error .structError ↔ _ :=
    Layout.forEach_inside_iff (fun _ _ => Keeps.pure _) _
  rw [listSection, ne_eq, bind_pure_error_iff, ← ne_eq, hwalk]
  exact forall₂_congr fun p _ => and_iff_left fun _ h => nomatch h

theorem reportSection_inside_iff {s : Section} (hs : s.path.startsWith "LISP") :
    (reportSection s d).1 ≠ .error .structError ↔
      ∀ p, recordLayout.Reaches (fun _ => true) s.stop d s.start p →
        ¬ recordLayout.Escapes s.stop d p ∧
          (recordLayout.Goes (fun _ => true) s.stop d p →
            SubrecordsInside d (recordLayout.elem d p)) := by
  rw [reportSection, if_pos hs, forChain,
    Layout.forEach_inside_iff fun _ => reportStream_reads _]
  simp only [reportStream, ne_eq, bind_pure_error_iff,
    ← forSubrecords_inside_iff]

theorem recordsInside_iff {s : Section} :
    RecordsInside d s ↔ (listSection s d).1 ≠ .error .structError ∧
      (reportSection s d).1 ≠ .error .structError := by
  rw [listSection_inside_iff]
  by_cases hs : s.path.startsWith "LISP"
  · rw [reportSection_inside_iff hs]
    refine ⟨fun h => ⟨fun p hp => (h p hp).1, fun p hp => ?_⟩, fun h p hp => ?_⟩
    · exact ⟨(h p hp).1, fun hgo => (h p hp).2 hgo hs⟩
    · exact ⟨h.1 p hp, fun hgo _ => (h.2 p hp).2 hgo⟩
  · rw [reportSection, if_neg hs]
    refine ⟨fun h => ⟨fun p hp => (h p hp).1, fun h => nomatch h⟩, fun h p hp => ?_⟩
    exact ⟨h.1 p hp, fun _ hlisp => absurd hlisp hs⟩

/-- A section that ends inside the file, and whose sub-records are not looked
at, is read inside the file. -/
theorem recordsInside_of_stop_le {s : Section} (hstop : s.stop ≤ d.length)
    (hs : ¬ s.path.startsWith "LISP") : RecordsInside d s := fun _ _ =>
  ⟨fun hescape => Nat.not_le_of_lt hescape.2 (hescape.1.trans hstop),
    fun _ hlisp => absurd hlisp hs⟩

/-- Neither mode reads beyond the file, however long it goes on, if and only if
the records are inside the file in every section that is found. -/
theorem decodeMain_inside_iff (d : Bytes) (hd : slice d 0 4 = ascii "CPFF") :
    (∀ n mode, (decodeMain n mode d).1 ≠ .error .structError) ↔
      ∀ s, Finds sectionTags d s → RecordsInside d s := by
  have hrecords : ∀ n, (decodeMain n .records d).1 ≠ .error .structError ↔
      (cmdRecords n d).1 ≠ .error .structError := fun n => by
    rw [decodeMain, bind_ok (gets_apply _ d), when_neg (not_not.mpr hd),
      bind_ok (pure_apply _ d), ne_eq, bind_pure_error_iff]
  have hisp : ∀ n, (decodeMain n .isp d).1 ≠ .error .structError ↔
      (cmdIsp n d).1 ≠ .error .structError := fun n => by
    rw [decodeMain, bind_ok (gets_apply _ d), when_neg (not_not.mpr hd),
      bind_ok (pure_apply _ d), ne_eq, bind_pure_error_iff]
  have hlist : (∀ n, (cmdRecords n d).1 ≠ .error .structError) ↔ _ :=
    forSections_inside_iff listSection_reads
  have hreport : (∀ n, (cmdIsp n d).1 ≠ .error .structError) ↔ _ :=
    forSections_inside_iff reportSection_reads
  constructor
  · intro h s hs
    exact recordsInside_iff.mpr
      ⟨hlist.mp (fun n => (hrecords n).mp (h n .records)) s hs,
        hreport.mp (fun n => (hisp n).mp (h n .isp)) s hs⟩
  · intro h n mode
    cases mode with
    | records =>
        exact (hrecords n).mpr
          (hlist.mpr (fun s hs => (recordsInside_iff.mp (h s hs)).1) n)
    | isp =>
        exact (hisp n).mpr
          (hreport.mpr (fun s hs => (recordsInside_iff.mp (h s hs)).2) n)

/-- The start of a file that was cut off inside its first section. -/
def cutOff : Bytes :=
  ascii "CPFF" ++ List.replicate 20 0 ++
    (ascii "AIQB" ++ toLe 4 64 ++ toLe 4 0 ++ toLe 4 0)

/-- Both modes read beyond that file. -/
theorem cutOff_outside : ¬ ∀ n mode,
    (decodeMain n mode cutOff).1 ≠ .error .structError := by
  intro h
  exact h 1 .records (by decide)

/-- A file of one section with one record. -/
def wholeFile : Bytes :=
  ascii "CPFF" ++ List.replicate 20 0 ++
    (ascii "AIQB" ++ toLe 4 32 ++ List.replicate 16 0) ++
    (toLe 4 8 ++ List.replicate 4 0)

/-- Neither mode reads beyond that file. -/
theorem wholeFile_inside :
    ¬ ∃ n mode, (decodeMain n mode wholeFile).1 = .error .structError := by
  rintro ⟨n, mode, herror⟩
  refine (decodeMain_inside_iff wholeFile (by decide)).mpr ?_ n mode herror
  rintro s ⟨ss, w, next, hvisits, hstep⟩
  have hfirst : walkStep sectionTags wholeFile .start =
      .found ⟨"", 0x18, 0x38⟩ ⟨0x38, []⟩ := by decide
  have hlast : walkStep sectionTags wholeFile ⟨0x38, []⟩ = .done := by decide
  cases hvisits with
  | refl =>
      obtain ⟨rfl, -⟩ := Move.found.inj (hfirst.symm.trans hstep)
      exact recordsInside_of_stop_le (by decide) (by decide)
  | found hstep' hrest =>
      obtain ⟨-, rfl⟩ := Move.found.inj (hfirst.symm.trans hstep')
      cases hrest with
      | refl => exact nomatch hlast.symm.trans hstep
      | found h _ => exact nomatch hlast.symm.trans h
      | enter h _ => exact nomatch hlast.symm.trans h
  | enter h _ => exact nomatch hfirst.symm.trans h

end Records

end Aiqb
end SurfaceCameras
