import SurfaceCameras.Aiqb.BlackLevelEffects
import SurfaceCameras.Aiqb.RecordWalks
import SurfaceCameras.Aiqb.SameListing
import SurfaceCameras.Aiqb.SectionWalkers

/-!
# Files with the same records

The modes of the decoder that show the calibration go over the first records of
a file without a limit, and read tables whose length the records give.  If the
tables are inside the records, a file with the same records is decoded alike;
the black levels are a question of their own.
-/

namespace SurfaceCameras
namespace Aiqb

open Bytes Prog

/-! ## Walks over the same records -/

namespace Layout

variable {η : Type} {L : Layout η} {known : η → Bool} {limit start q : ℕ}
  {d d' : Bytes}

theorem goes_iff {p : ℕ} (known : η → Bool) (limit : ℕ)
    (h : AgreeOn (Set.Ico p (p + L.len)) d d') :
    L.elem d p = L.elem d' p ∧
      (L.Goes known limit d p ↔ L.Goes known limit d' p) := by
  obtain ⟨helem, hgoes, -⟩ :
    _ ∧ (L.Goes known limit d p ↔ L.Goes known limit d' p) ∧ _ := L.goes_congr h
  exact ⟨helem, hgoes⟩

/-- Where the headers that a walk leads to are the same, it leads to the same
positions. -/
theorem reaches_iff
    (hread : ∀ p, L.Reaches known limit d start p →
      AgreeOn (Set.Ico p (p + L.len)) d d') :
    L.Reaches known limit d start q ↔ L.Reaches known limit d' start q := by
  constructor
  · intro h
    induction h with
    | start => exact .start
    | @next p hp hgo ih =>
        obtain ⟨helem, hgoes⟩ := goes_iff known limit (hread p hp)
        rw [helem]
        exact ih.next (hgoes.mp hgo)
  · intro h
    induction h with
    | start => exact .start
    | @next p _ hgo ih =>
        obtain ⟨helem, hgoes⟩ := goes_iff known limit (hread p ih)
        rw [← helem]
        exact ih.next (hgoes.mpr hgo)

end Layout

/-! ## Steps of the walk over the sections -/

section Steps

variable {tags : List Bytes} {d : Bytes} {w w' next : Walk} {s : Section}
  {ss : List Section}

theorem Visits.enter_head (h : Visits tags d w ss w')
    (hstep : walkStep tags d w = .enter next) :
    w' = w ∨ Visits tags d next ss w' := by
  cases h with
  | refl => exact .inl rfl
  | found hfound _ => exact Move.noConfusion (hstep.symm.trans hfound)
  | enter hstep' hrest =>
      obtain rfl := Move.enter.inj (hstep.symm.trans hstep')
      exact .inr hrest

theorem Visits.found_head (h : Visits tags d w ss w')
    (hstep : walkStep tags d w = .found s next) :
    w' = w ∨ ∃ ss', ss = s :: ss' ∧ Visits tags d next ss' w' := by
  cases h with
  | refl => exact .inl rfl
  | found hstep' hrest =>
      obtain ⟨rfl, rfl⟩ := Move.found.inj (hstep.symm.trans hstep')
      exact .inr ⟨_, rfl, hrest⟩
  | enter henter _ => exact Move.noConfusion (hstep.symm.trans henter)

theorem Visits.le (h : Visits tags d w ss w') : w.p ≤ w'.p := by
  induction h with
  | refl => exact le_rfl
  | found hstep _ ih =>
      obtain ⟨-, -, hstop, hnext⟩ := walkStep_found hstep
      rw [hnext] at ih
      exact (hstop ▸ Nat.le_add_right _ _).trans ih
  | enter hstep _ ih =>
      exact ((walkStep_enter hstep).symm ▸ Nat.le_add_right _ _).trans ih

theorem walkStep_more {tags' : List Bytes} (hsub : tags ⊆ tags')
    (h : walkStep tags d w ≠ .done) : walkStep tags' d w = walkStep tags d w := by
  have hhere : HeaderAt tags d w.p := by
    by_contra hend
    exact h (walkStep_end hend)
  exact (walkStep_eq hhere (hhere.mono hsub)).symm

theorem walkStep_container_at {p : ℕ} {tag : Bytes} {path : List (String × ℕ)}
    (hmem : tag ∈ sectionTags) (hother : tag ≠ ascii "AIQB" ∧ tag ≠ ascii "LMOD")
    (htag : slice d p 4 = tag) (hroom : p + 16 ≤ d.length) :
    walkStep sectionTags d ⟨p, path⟩ =
      .enter ⟨p + 16, (decode tag, p + word d (p + 4)) :: openAt p path⟩ := by
  have hname : ∀ ver, containerName tag ver = decode tag := by
    intro ver
    rw [containerName, if_neg hother.2]
    exact String.append_empty
  simp only [walkStep, htag, hroom, hmem, hother.1, hname, and_self, if_true,
    if_false]

end Steps

/-! ## Files with their tables inside the records -/

/-- The tables of every record that the decoder shows are inside the record. -/
structure TablesInside (d : Bytes) : Prop where
  luts : LutsInside d
  segments : ∀ q, Walked d q → nidAt d q = 19 →
    uint d (q + 12) 2 = 0 ∨ 16 + 28 * uint d (q + 12) 2 ≤ sizeAt d q
  lights : ∀ q, Walked d q → nidAt d q = 25 → uint d (q + 8) 2 = 0 ∨
    12 + 4 * uint d (q + 10) 2 +
      (56 + 36 * uint d (q + 10) 2) * uint d (q + 8) 2 ≤ sizeAt d q

section Filled

variable {d : Bytes} {p q stop : ℕ} {known : Record → Bool} {limit : ℕ}

/-- A walk over a chain that records fill leads to these records, and to the
end of the chain. -/
theorem Filled.reaches (h : Filled d stop p) (hstop : stop ≤ d.length)
    (hend : recordLayout.Stops known limit d stop)
    (hp : recordLayout.Reaches knownName d.length d 0x50 p)
    (hq : recordLayout.Reaches known limit d p q) :
    q = stop ∨ Walked d q ∧ q + sizeAt d q ≤ stop := by
  induction h with
  | full =>
      obtain rfl | ⟨hgo, -⟩ := hq.head
      · exact .inl rfl
      · exact absurd hend hgo.not_stops
  | @record p hgo _ ih =>
      obtain ⟨hleast, hfits, hknown⟩ := hgo.taken
      have hgo' : recordLayout.Goes knownName d.length d p :=
        ⟨hgo.inside, hgo.inside, hleast, hfits.trans hstop, hknown⟩
      obtain rfl | ⟨-, hrest⟩ := hq.head
      · exact .inr ⟨⟨hp, hgo'⟩, hfits⟩
      · exact ih (hp.next hgo') hrest

namespace FirstFilled

variable (h : FirstFilled d)

include h

theorem chain (hq : recordLayout.Reaches (fun _ => true) (0x38 + word d 0x3c) d
    0x50 q) :
    q = 0x38 + word d 0x3c ∨
      Walked d q ∧ q + sizeAt d q ≤ 0x38 + word d 0x3c := by
  refine h.filled.reaches h.stop_le (fun hroom => ?_) .start hq
  exact absurd hroom (Nat.not_le_of_lt (Nat.lt_add_of_pos_right (by decide)))

theorem walked_le (hq : Walked d q) :
    q + sizeAt d q ≤ 0x38 + word d 0x3c := by
  have hend := stops_after h.short h.followed
  obtain rfl | ⟨-, hle⟩ := h.filled.reaches h.stop_le hend .start hq.1
  · exact absurd (stops_after h.short h.followed) hq.2.not_stops
  · exact hle

theorem start_le : 0x50 ≤ 0x38 + word d 0x3c := h.filled.le

/-- The walk over the sections goes into two containers, and then over the
first section. -/
theorem visits_cases {tags : List Bytes} (htags : sectionTags ⊆ tags)
    {ss : List Section} {w : Walk} (hvisits : Visits tags d .start ss w) :
    w.p = 0x18 ∨ w.p = 0x28 ∨
      w.p = 0x38 ∧ w.path.map Prod.fst ∈ [["DFLT", "LCMC"], ["DFLT"]] ∨
      0x38 + word d 0x3c ≤ w.p := by
  have hroom : 0x50 ≤ d.length := h.start_le.trans h.stop_le
  obtain ⟨e, hlcmc⟩ : ∃ e, walkStep sectionTags d .start =
      .enter ⟨0x28, [("LCMC", e)]⟩ :=
    ⟨_, walkStep_container_at (by decide) (by decide) h.lcmc
      (show 0x18 + 16 ≤ d.length by omega)⟩
  obtain ⟨e', hdflt⟩ : ∃ e', walkStep sectionTags d ⟨0x28, [("LCMC", e)]⟩ =
      .enter ⟨0x38, ("DFLT", e') :: openAt 0x28 [("LCMC", e)]⟩ :=
    ⟨_, walkStep_container_at (by decide) (by decide) h.dflt
      (show 0x28 + 16 ≤ d.length by omega)⟩
  have hmem : ascii "AIQB" ∈ sectionTags := by decide
  obtain ⟨s, next, hfound, -, hstop⟩ := walkStep_finds
    (("DFLT", e') :: openAt 0x28 [("LCMC", e)])
    (show 0x38 + 16 ≤ d.length by omega) (h.aiqb ▸ hmem) h.aiqb
  rw [← walkStep_more htags (hlcmc ▸ Move.noConfusion)] at hlcmc
  rw [← walkStep_more htags (hdflt ▸ Move.noConfusion)] at hdflt
  rw [← walkStep_more htags (hfound ▸ Move.noConfusion)] at hfound
  obtain rfl | hvisits := hvisits.enter_head hlcmc
  · exact .inl rfl
  obtain rfl | hvisits := hvisits.enter_head hdflt
  · exact .inr (.inl rfl)
  obtain rfl | ⟨ss', -, hvisits⟩ := hvisits.found_head hfound
  · refine .inr (.inr (.inl ⟨rfl, ?_⟩))
    rw [List.map_cons, openAt, List.dropWhile_cons]
    split
    · exact List.mem_cons_of_mem _ (List.mem_singleton.mpr rfl)
    · exact List.mem_cons_self
  · obtain ⟨-, -, -, hnext⟩ := walkStep_found hfound
    have hle := hvisits.le
    rw [hnext] at hle
    exact .inr (.inr (.inr (hstop ▸ hle)))

/-- The first section is none of the image processor. -/
theorem finds_cases {tags : List Bytes} (htags : sectionTags ⊆ tags)
    {s : Section} (hs : Finds tags d s) :
    s.hdr = 0x38 ∧ s.stop = 0x38 + word d 0x3c ∧
        s.path ∈ ["LCMC/DFLT", "LCMC", "DFLT", ""] ∨
      0x38 + word d 0x3c ≤ s.hdr ∧ s.hdr ≤ s.stop := by
  obtain ⟨ss, w, next, hvisits, hstep⟩ := hs
  obtain ⟨htag, hhdr, hstop, -⟩ := walkStep_found hstep
  have hother : ascii "LCMC" ≠ ascii "AIQB" ∧ ascii "DFLT" ≠ ascii "AIQB" := by
    decide
  obtain hw | hw | ⟨hw, hpath⟩ | hw := h.visits_cases htags hvisits
  · rw [hw, h.lcmc] at htag
    exact absurd htag hother.1
  · rw [hw, h.dflt] at htag
    exact absurd htag hother.2
  · refine .inl ⟨by rw [hhdr, hw], by rw [hstop, hw], ?_⟩
    have hs : s.path = joinNames ((openAt w.p w.path).map Prod.fst) := by
      have haiqb : slice d w.p 4 ∈ tags := by
        rw [htag]
        exact htags (by decide)
      have hroom : w.p + 16 ≤ d.length :=
        walkStep_room fun hdone => Move.noConfusion (hstep.symm.trans hdone)
      rw [walkStep, if_pos ⟨hroom, haiqb⟩] at hstep
      simp only [if_pos htag] at hstep
      obtain ⟨rfl, -⟩ := Move.found.inj hstep
      rfl
    have hsuffix : (openAt w.p w.path).map Prod.fst <:+ w.path.map Prod.fst :=
      (List.dropWhile_suffix _).map _
    rw [hs]
    have hall : ∀ names ∈ [["DFLT", "LCMC"], ["DFLT"]], ∀ open' ∈ names.tails,
        joinNames open' ∈ ["LCMC/DFLT", "LCMC", "DFLT", ""] := by
      decide
    exact hall _ hpath _ ((List.mem_tails _ _).mpr hsuffix)
  · exact .inr ⟨by rw [hhdr]; exact hw, by omega⟩

end FirstFilled

end Filled

/-! ## What is decoded -/

section Decoded

variable {d out : Bytes} {rs rs' : List Record} {q n : ℕ} {α : Type}

/-- The offset of a name is that of a record with the name. -/
theorem offOf_mem {nid off : ℕ} (h : offOf nid rs = some off) :
    ∃ r ∈ rs, r.nid = nid ∧ r.off = off := by
  suffices hall : ∀ (rs : List Record) (o : Option ℕ),
      rs.foldl (fun off r => if r.nid = nid then some r.off else off) o =
        some off → o = some off ∨ ∃ r ∈ rs, r.nid = nid ∧ r.off = off by
    obtain hnone | hmem := hall rs none h
    · cases hnone
    · exact hmem
  intro rs
  induction rs with
  | nil => exact fun o h => .inl h
  | cons r rs ih =>
      intro o h
      obtain hhere | ⟨r', hr', hfound⟩ := ih _ h
      · dsimp only at hhere
        by_cases hnid : r.nid = nid
        · rw [if_pos hnid] at hhere
          exact .inr ⟨r, List.mem_cons_self, hnid, Option.some.inj hhere⟩
        · rw [if_neg hnid] at hhere
          exact .inl hhere
      · exact .inr ⟨r', List.mem_cons_of_mem r hr', hfound⟩

/-- A record that the walk without a limit yields. -/
def IsRecord (d : Bytes) (r : Record) : Prop :=
  Walked d r.off ∧ r = recordLayout.elem d r.off

theorem IsRecord.nid_eq {r : Record} (h : IsRecord d r) :
    r.nid = nidAt d r.off := congrArg Record.nid h.2

theorem unpack_other {fields : Bytes → α} {k m : ℕ}
    (hsame : AgreeOn (Set.Ico q (q + n)) d out) (hk : k + m ≤ n) :
    Mirrors d out Eq (lift (unpackFrom (q + k) m fields))
      (lift (unpackFrom (q + k) m fields)) :=
  unpack_mirrors hsame.length (hsame.slice_eq fun i hi hi' =>
    ⟨by omega, by omega⟩)

theorem decodeLuts_reads {γ : Type} (again level : ℕ → γ) (num p : ℕ) :
    Reads (decodeLuts again level num p) := by
  induction num generalizing p with
  | zero => exact Keeps.pure _
  | succ num ih =>
      refine Keeps.bind (unpackFrom_reads _ _ _) fun head => ?_
      refine Keeps.bind (unpackFrom_reads _ _ _) fun cc => ?_
      exact Keeps.bind (ih _) fun out => Keeps.pure _

theorem decodeBlackLevel_reads {γ : Type} (again level : ℕ → γ) (off : ℕ) :
    Reads (decodeBlackLevel again level off) :=
  Keeps.bind (unpackFrom_reads _ _ _) fun num =>
    decodeLuts_reads again level num _

section Kinds

variable (hsame : AgreeOn (Set.Ico q (q + n)) d out)

include hsame

theorem decodeGeneral_mirrors (hn : 18 ≤ n) :
    Mirrors d out Eq (decodeGeneral q) (decodeGeneral q) :=
  unpack_other hsame (by omega)

theorem decodeBaseIso_mirrors (hn : 10 ≤ n) :
    Mirrors d out Eq (decodeBaseIso q) (decodeBaseIso q) :=
  unpack_other hsame (by omega)

theorem decodeNoiseModel_mirrors (hn : 28 ≤ n) :
    Mirrors d out Eq (decodeNoiseModel q) (decodeNoiseModel q) :=
  unpack_other hsame (by omega)

theorem decodeDigital_mirrors (hn : 14 ≤ n) :
    Mirrors d out Eq (decodeDigital q) (decodeDigital q) := by
  have hbyte : ∀ k, k < n → d[q + k]? = out[q + k]? := fun k hk =>
    hsame.get _ ⟨by omega, by omega⟩
  refine (unpack_other hsame (by omega)).bind fun codes codes' hcodes => ?_
  refine (byteAt_mirrors (hbyte 12 (by omega))).bind fun step step' hstep => ?_
  refine (byteAt_mirrors (hbyte 13 (by omega))).bind fun frac frac' hfrac => ?_
  subst hcodes hstep hfrac
  exact Mirrors.pure rfl

theorem decodeSegment_mirrors {k : ℕ} (hk : k + 28 ≤ n) :
    Mirrors d out Eq (decodeSegment (q + k)) (decodeSegment (q + k)) := by
  refine (unpack_other hsame (by omega)).bind fun codes codes' hcodes => ?_
  subst hcodes
  rw [Nat.add_assoc]
  refine (unpack_other hsame (by omega)).bind fun ms ms' hms => ?_
  exact Mirrors.pure (by rw [hms])

theorem unpack_count {fields : Bytes → α} {k m : ℕ} (hk : k + m ≤ n) :
    Mirrors d out (fun a a' => a = a' ∧ a = fields (slice d (q + k) m))
      (lift (unpackFrom (q + k) m fields))
      (lift (unpackFrom (q + k) m fields)) := by
  have hslice : slice d (q + k) m = slice out (q + k) m :=
    hsame.slice_eq fun i hi hi' => ⟨by omega, by omega⟩
  exact (lift_mirrors (unpackFrom_known hsame.length hslice)).mono
    fun a a' h => ⟨h.1, h.2.1⟩

theorem decodeAnalog_mirrors (hn : 16 ≤ n)
    (hsegments : uint d (q + 12) 2 = 0 ∨ 16 + 28 * uint d (q + 12) 2 ≤ n) :
    Mirrors d out Eq (decodeAnalog q) (decodeAnalog q) := by
  refine (unpack_count hsame (by omega)).bind fun head head' hhead => ?_
  obtain ⟨rfl, hhead⟩ := hhead
  have hnum : head.2 = uint d (q + 12) 2 := by
    rw [hhead]
    exact uint_slice d (q + 8) (q := 4) (by decide)
  have hall : ∀ i < head.2, Mirrors d out Eq
      (decodeSegment (q + 16 + 28 * i)) (decodeSegment (q + 16 + 28 * i)) := by
    intro i hi
    rw [Nat.add_assoc]
    exact decodeSegment_mirrors hsame (by omega)
  refine (decodeMany_mirrors hall).bind fun segs segs' hsegs => ?_
  exact Mirrors.pure (by rw [hsegs])

theorem decodeLight_mirrors {γ : Type} (shown : Shown γ) {k : ℕ}
    (hk : k + 56 ≤ n) :
    Mirrors d out Eq (decodeLight shown (q + k)) (decodeLight shown (q + k)) := by
  refine (unpack_other hsame (by omega)).bind fun src src' hsrc => ?_
  rw [Nat.add_assoc, Nat.add_assoc]
  refine (unpack_other hsame (by omega)).bind fun point point' hpoint => ?_
  refine (unpack_other hsame (by omega)).bind fun trad trad' htrad => ?_
  subst hsrc hpoint htrad
  refine (computed_mirrors _).bind fun cct cct' hcct => ?_
  refine (computed_mirrors _).bind fun rgain rgain' hrgain => ?_
  refine (computed_mirrors _).bind fun bgain bgain' hbgain => ?_
  subst hcct hrgain hbgain
  exact Mirrors.pure rfl

theorem decodeAdvancedCcm_mirrors {γ : Type} (shown : Shown γ) (hn : 12 ≤ n)
    (hlights : uint d (q + 8) 2 = 0 ∨ 12 + 4 * uint d (q + 10) 2 +
      (56 + 36 * uint d (q + 10) 2) * uint d (q + 8) 2 ≤ n) :
    Mirrors d out Eq (decodeAdvancedCcm shown q)
      (decodeAdvancedCcm shown q) := by
  refine (unpack_count hsame (by omega)).bind fun head head' hhead => ?_
  obtain ⟨rfl, hhead⟩ := hhead
  have hnls : head.1 = uint d (q + 8) 2 := by
    rw [hhead]
    exact uint_slice d (q + 8) (q := 0) (by decide)
  have hnsec : head.2 = uint d (q + 10) 2 := by
    rw [hhead]
    exact uint_slice d (q + 8) (q := 2) (by decide)
  have hall : ∀ i < head.1, Mirrors d out Eq
      (decodeLight shown (q + 12 + 4 * head.2 + (56 + 36 * head.2) * i))
      (decodeLight shown (q + 12 + 4 * head.2 + (56 + 36 * head.2) * i)) := by
    intro i hi
    rw [← hnls, ← hnsec] at hlights
    have hlast : (56 + 36 * head.2) * i + (56 + 36 * head.2) ≤
        (56 + 36 * head.2) * head.1 := Nat.mul_le_mul_left _ hi
    rw [Nat.add_assoc, Nat.add_assoc]
    exact decodeLight_mirrors hsame shown (by omega)
  refine (decodeMany_mirrors hall).bind fun lights lights' hlights' => ?_
  exact Mirrors.pure (by rw [hlights'])

end Kinds

/-! ## The same records -/

/-- The walk without a limit goes over the same records, and those that are no
black levels are the same. -/
structure SameRecords (d out : Bytes) : Prop where
  length : d.length = out.length
  heads : ∀ p, recordLayout.Reaches knownName d.length d 0x50 p →
    p + 8 ≤ d.length → slice d p 8 = slice out p 8
  others : ∀ q, Walked d q → nidAt d q ≠ 3 ∧ nidAt d q ≠ 31 →
    AgreeOn (Set.Ico q (q + (sizeAt d q + 20))) d out

theorem sizeAt_least (hq : Walked d q) : 8 ≤ sizeAt d q := hq.2.taken.1

namespace SameRecords

variable (h : SameRecords d out)

include h

/-- The walk without a limit yields the same records. -/
theorem walkRecords :
    Mirrors d out (fun rs rs' => rs = rs' ∧ ∀ r ∈ rs, IsRecord d r)
      (Aiqb.walkRecords 0x50) (Aiqb.walkRecords 0x50) := by
  refine Mirrors.bind (V := fun len len' => len = d.length ∧ len' = d.length)
    (Mirrors.gets ⟨rfl, h.length.symm⟩) fun len len' hlens => ?_
  obtain ⟨rfl, rfl⟩ := hlens
  have hwalk : Mirrors d out
      (List.Forall₂ fun r r' => r = r' ∧ IsRecord d r)
      (recordLayout.forEach knownName d.length (fun _ => pure) 0x50)
      (recordLayout.forEach knownName d.length (fun _ => pure) 0x50) :=
    Layout.forEach_mirrors h.length h.heads fun p hp hgo =>
      Mirrors.pure ⟨rfl, ⟨hp, hgo⟩, rfl⟩
  refine hwalk.mono fun rs rs' hrs => ?_
  induction hrs with
  | nil => exact ⟨rfl, fun r hr => absurd hr List.not_mem_nil⟩
  | cons hr _ ih =>
      obtain ⟨rfl, hrecord⟩ := hr
      obtain ⟨rfl, hrest⟩ := ih
      exact ⟨rfl, List.forall_mem_cons.mpr ⟨hrecord, hrest⟩⟩

theorem decodeAt {decode : ℕ → Decoder α} {nid : ℕ} {off : Option ℕ}
    (hoff : ∀ p, off = some p → Walked d p ∧ nidAt d p = nid)
    (hnid : nid ≠ 3 ∧ nid ≠ 31)
    (hdecode : ∀ q, Walked d q → nidAt d q = nid →
      AgreeOn (Set.Ico q (q + (sizeAt d q + 20))) d out →
        Mirrors d out Eq (decode q) (decode q)) :
    Mirrors d out Eq (Aiqb.decodeAt decode off) (Aiqb.decodeAt decode off) := by
  refine decodeAt_mirrors fun q hq => ?_
  obtain ⟨hwalked, hname⟩ := hoff q hq
  exact hdecode q hwalked hname (h.others q hwalked (by rwa [hname]))

/-- With `--noise`, only the black levels can differ. -/
theorem cmdNoise {γ : Type} {again level level' : ℕ → γ} (hin : TablesInside d)
    (hlevels : ∀ q, Walked d q → nidAt d q = 3 → Mirrors d out Eq
      (decodeBlackLevel again level q) (decodeBlackLevel again level' q)) :
    Mirrors d out Eq (Aiqb.cmdNoise again level)
      (Aiqb.cmdNoise again level') := by
  refine (lift_mirrors h.walkRecords).bind fun rs rs' hrs => ?_
  obtain ⟨rfl, hall⟩ := hrs
  have hoff : ∀ nid q, offOf nid rs = some q → Walked d q ∧ nidAt d q = nid := by
    intro nid q hq
    obtain ⟨r, hr, hname, rfl⟩ := offOf_mem hq
    exact ⟨(hall r hr).1, (hall r hr).nid_eq.symm.trans hname⟩
  have hoff' : ∀ nid q, truthy (offOf nid rs) = some q →
      Walked d q ∧ nidAt d q = nid := fun nid q hq =>
    hoff nid q (Option.filter_eq_some_iff.mp hq).1
  refine (h.decodeAt (hoff 2) (by decide)
    fun q hq _ hsame => decodeGeneral_mirrors hsame ?_).bind fun a a' ha => ?_
  · have hleast := sizeAt_least hq
    omega
  refine (h.decodeAt (hoff 7) (by decide)
    fun q hq _ hsame => decodeBaseIso_mirrors hsame ?_).bind fun b b' hb => ?_
  · omega
  refine (h.decodeAt (hoff 9) (by decide)
    fun q hq _ hsame => decodeNoiseModel_mirrors hsame ?_).bind fun c c' hc => ?_
  · have hleast := sizeAt_least hq
    omega
  have hblack : Mirrors d out Eq
      (Aiqb.decodeAt (fun q => lift (decodeBlackLevel again level q)) (offOf 3 rs))
      (Aiqb.decodeAt (fun q => lift (decodeBlackLevel again level' q))
        (offOf 3 rs)) :=
    decodeAt_mirrors fun q hq =>
      lift_mirrors (hlevels q (hoff 3 q hq).1 (hoff 3 q hq).2)
  refine hblack.bind fun bl bl' hbl => ?_
  refine (h.decodeAt (hoff' 19) (by decide)
    fun q hq hnid hsame => decodeAnalog_mirrors hsame ?_ ?_).bind fun e e' he => ?_
  · omega
  · exact (hin.segments q hq hnid).imp id fun hle => hle.trans (by omega)
  refine (h.decodeAt (hoff' 20) (by decide)
    fun q hq _ hsame => decodeDigital_mirrors hsame ?_).bind fun f f' hf => ?_
  · omega
  subst ha hb hc hbl he hf
  exact Mirrors.pure rfl

/-- The colour matrices are decoded alike. -/
theorem cmdColours {γ : Type} (shown : Shown γ) (hin : TablesInside d) :
    Mirrors d out Eq (Aiqb.cmdColours shown) (Aiqb.cmdColours shown) := by
  refine (lift_mirrors h.walkRecords).bind fun rs rs' hrs => ?_
  obtain ⟨rfl, hall⟩ := hrs
  have hoff : ∀ q, (rs.find? fun r => decide (r.nid = 25)).map Record.off =
      some q → Walked d q ∧ nidAt d q = 25 := by
    intro q hq
    obtain ⟨r, hfind, rfl⟩ := Option.map_eq_some_iff.mp hq
    have hrecord := hall r (List.mem_of_find?_eq_some hfind)
    have hname := List.find?_some hfind
    exact ⟨hrecord.1, hrecord.nid_eq.symm.trans (of_decide_eq_true hname)⟩
  refine h.decodeAt hoff (by decide)
    fun q hq hnid hsame => decodeAdvancedCcm_mirrors hsame shown ?_ ?_
  · omega
  · exact (hin.lights q hq hnid).imp id fun hle => hle.trans (by omega)

end SameRecords

/-! ## The same output -/

/-- Which modes of the decoder need what of two files. -/
structure DecodedAlike {γ : Type} (again level level' : ℕ → γ)
    (command : Command) (d out : Bytes) : Prop where
  head : slice d 0 4 = slice out 0 4
  chains : command = .records → SameChains d out
  listing : command = .isp → SameListing d out
  records : command ∈ [.noise, .colours] → SameRecords d out ∧ TablesInside d
  levels : command = .noise → ∀ q, Walked d q → nidAt d q = 3 →
    Mirrors d out Eq (decodeBlackLevel again level q)
      (decodeBlackLevel again level' q)

/-- Files that are decoded alike show the same in this mode. -/
theorem DecodedAlike.decodeFile {γ : Type} {again level level' : ℕ → γ}
    {command : Command} (h : DecodedAlike again level level' command d out)
    (shown : Shown γ) (n : ℕ) :
    Mirrors d out Eq (Aiqb.decodeFile again level shown n command)
      (Aiqb.decodeFile again level' shown n command) := by
  refine Mirrors.bind (Mirrors.gets h.head) fun head head' heq => ?_
  subst heq
  refine Mirrors.bind (V := Eq) (Mirrors.ite Iff.rfl
    (fun _ => Mirrors.raise _) fun _ => Mirrors.pure rfl) fun _ _ _ => ?_
  cases command with
  | records =>
      have hsame := h.chains rfl
      exact (lift_mirrors (hsame.cmdRecords n)).bind fun out out' h =>
        Mirrors.pure (congrArg Report.records h)
  | isp =>
      have hsame := h.listing rfl
      exact (lift_mirrors (hsame.cmdIsp n)).bind fun out out' h =>
        Mirrors.pure (congrArg Report.isp h)
  | noise =>
      obtain ⟨hsame, hin⟩ := h.records (by decide)
      exact (hsame.cmdNoise hin (h.levels rfl)).bind fun out out' h =>
        Mirrors.pure (congrArg Report.noise h)
  | colours =>
      obtain ⟨hsame, hin⟩ := h.records (by decide)
      exact (hsame.cmdColours shown hin).bind fun out out' h =>
        Mirrors.pure (congrArg Report.colours h)

end Decoded

end Aiqb
end SurfaceCameras
