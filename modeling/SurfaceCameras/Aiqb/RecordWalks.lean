import SurfaceCameras.Aiqb.Decode

/-!
# The walk without a limit

`walk_records` does not know where the first section ends.  It goes on until
the bytes are no header of a record it knows.  When the section is filled with
records, it stops there all the same: at the end of the file, or because the
tag of the next container, read as a size, is larger than the file.
-/

namespace SurfaceCameras
namespace Aiqb

open Bytes Prog

/-- Records of known names fill the bytes from `p` to `stop`. -/
inductive Filled (d : Bytes) (stop : ℕ) : ℕ → Prop
  | full : Filled d stop stop
  | record {p : ℕ} : recordLayout.Goes knownName stop d p →
      Filled d stop (p + (recordLayout.elem d p).size) → Filled d stop p

/-- A tuning file whose first section is filled with records, and followed by
nothing or by another container. -/
structure FirstFilled (d : Bytes) : Prop where
  magic : slice d 0 4 = ascii "CPFF"
  short : d.length < 0x33000000
  lcmc : slice d 0x18 4 = ascii "LCMC"
  dflt : slice d 0x28 4 = ascii "DFLT"
  aiqb : slice d 0x38 4 = ascii "AIQB"
  filled : Filled d (0x38 + word d 0x3c) 0x50
  followed : 0x38 + word d 0x3c = d.length ∨
    slice d (0x38 + word d 0x3c) 4 ∈ sectionTags

/-- The first section that the walk over the sections finds. -/
def FindsFirst (d : Bytes) (s : Section) : Prop :=
  ∃ w next, Visits sectionTags d .start [] w ∧
    walkStep sectionTags d w = .found s next

section Walks

variable {d : Bytes} {p stop : ℕ}

theorem le_word_of_tag (h : slice d p 4 ∈ sectionTags) :
    0x33000000 ≤ word d p := by
  have hall : ∀ tag ∈ sectionTags, 0x33000000 ≤ ofLe tag := by decide
  exact hall _ h

theorem size_elem (d : Bytes) (p : ℕ) :
    (recordLayout.elem d p).size = word d p :=
  uint_slice d p (by decide)

theorem Filled.le (h : Filled d stop p) : p ≤ stop := by
  induction h with
  | full => exact le_rfl
  | record hgo _ ih => exact (Nat.le_add_right _ _).trans ih

theorem stops_after (hshort : d.length < 0x33000000)
    (hend : stop = d.length ∨ slice d stop 4 ∈ sectionTags) :
    recordLayout.Stops knownName d.length d stop := by
  intro hroom
  refine ⟨hroom, fun htaken => ?_⟩
  have hfits : stop + (recordLayout.elem d stop).size ≤ d.length := htaken.2.1
  have hleast : 8 ≤ (recordLayout.elem d stop).size := htaken.1
  rw [size_elem] at hfits hleast
  obtain rfl | htag := hend
  · omega
  · have hlarge := le_word_of_tag htag
    omega

/-- Both walks go over the records that fill the section. -/
theorem Filled.yields (h : Filled d stop p) (hstop : stop ≤ d.length)
    (hafter : recordLayout.Stops knownName d.length d stop) :
    ∃ rs, recordLayout.Yields knownName d.length d p rs ∧
      recordLayout.Yields (fun _ => true) stop d p rs ∧
      ∀ r ∈ rs, r.off + r.size ≤ stop := by
  induction h with
  | full =>
      have hfull : recordLayout.Stops (fun _ => true) stop d stop := by
        intro hroom
        exact absurd hroom (Nat.not_le_of_lt (Nat.lt_add_of_pos_right (by decide)))
      exact ⟨[], .stop hafter, .stop hfull, fun _ hr => nomatch hr⟩
  | @record p hgo hrest ih =>
      obtain ⟨rs, hrecords, hchain, hinside⟩ := ih
      obtain ⟨hleast, hfits, hknown⟩ := hgo.taken
      have hrecords' : recordLayout.Goes knownName d.length d p :=
        ⟨hgo.inside, hgo.inside, hleast, hfits.trans hstop, hknown⟩
      have hchain' : recordLayout.Goes (fun _ => true) stop d p :=
        ⟨hgo.room, hgo.inside, hleast, hfits, rfl⟩
      refine ⟨_ :: rs, .next hrecords' hrecords, .next hchain' hchain, ?_⟩
      intro r hr
      obtain rfl | hr := List.mem_cons.mp hr
      · exact hfits
      · exact hinside r hr

theorem walkStep_enters (path : List (String × ℕ))
    (hroom : p + 16 ≤ d.length) (htag : slice d p 4 ∈ sectionTags)
    (hne : slice d p 4 ≠ ascii "AIQB") :
    ∃ path', walkStep sectionTags d ⟨p, path⟩ = .enter ⟨p + 16, path'⟩ := by
  simp only [walkStep, if_pos (And.intro hroom htag), if_neg hne]
  exact ⟨_, rfl⟩

theorem walkStep_finds (path : List (String × ℕ))
    (hroom : p + 16 ≤ d.length) (htag : slice d p 4 ∈ sectionTags)
    (haiqb : slice d p 4 = ascii "AIQB") :
    ∃ s next, walkStep sectionTags d ⟨p, path⟩ = .found s next ∧
      s.hdr = p ∧ s.stop = p + word d (p + 4) := by
  simp only [walkStep, if_pos (And.intro hroom htag), if_pos haiqb]
  exact ⟨_, _, rfl, rfl, rfl⟩

end Walks

namespace FirstFilled

variable {d : Bytes} (h : FirstFilled d)

include h

theorem stop_le : 0x38 + word d 0x3c ≤ d.length := by
  obtain hend | htag := h.followed
  · exact hend.le
  · have hlen : ∀ tag ∈ sectionTags, tag.length = 4 := by decide
    have hslice := hlen _ htag
    rw [length_slice] at hslice
    omega

/-- The first section is where its containers say. -/
theorem findsFirst :
    ∃ s, FindsFirst d s ∧ s.hdr = 0x38 ∧ s.stop = 0x38 + word d 0x3c := by
  have hroom : 0x50 ≤ d.length := h.filled.le.trans h.stop_le
  have hlcmc : slice d 0x18 4 ∈ sectionTags ∧ slice d 0x18 4 ≠ ascii "AIQB" := by
    rw [h.lcmc]
    decide
  have hdflt : slice d 0x28 4 ∈ sectionTags ∧ slice d 0x28 4 ≠ ascii "AIQB" := by
    rw [h.dflt]
    decide
  have haiqb : slice d 0x38 4 ∈ sectionTags := by
    rw [h.aiqb]
    decide
  obtain ⟨path, hlcmc⟩ :=
    walkStep_enters (d := d) [] (by omega) hlcmc.1 hlcmc.2
  obtain ⟨path', hdflt⟩ :=
    walkStep_enters (d := d) path (by omega) hdflt.1 hdflt.2
  obtain ⟨s, next, hfound, hhdr, hstop⟩ :=
    walkStep_finds path' (by omega) haiqb h.aiqb
  exact ⟨s, ⟨_, next, .enter hlcmc (.enter hdflt (.refl _)), hfound⟩, hhdr, hstop⟩

end FirstFilled

/-- The walk without a limit goes over exactly the records that the walk over
the first section goes over, and none of them lies beyond it. -/
theorem walkRecords_eq_walkChain (d : Bytes) (h : FirstFilled d) :
    ∃ s rs, FindsFirst d s ∧ s.start = 0x50 ∧
      walkRecords 0x50 d = (.ok rs, d) ∧
      walkChain s.start s.stop d = (.ok rs, d) ∧
      ∀ r ∈ rs, r.off + r.size ≤ s.stop := by
  obtain ⟨s, hfirst, hhdr, hstop⟩ := h.findsFirst
  have hstart : s.start = 0x50 := by rw [Section.start, hhdr]
  obtain ⟨rs, hrecords, hchain, hinside⟩ :=
    h.filled.yields h.stop_le (stops_after h.short h.followed)
  rw [← hstop] at hchain hinside
  refine ⟨s, rs, hfirst, hstart, ?_, ?_, hinside⟩
  · exact Layout.forEach_yields hrecords
  · rw [hstart]
    exact Layout.forEach_yields hchain

/-- A file of two sections, with two records in the first one. -/
def shortChain : Bytes :=
  ascii "CPFF" ++ List.replicate 20 0 ++
    (ascii "LCMC" ++ toLe 4 76 ++ List.replicate 8 0) ++
    (ascii "DFLT" ++ toLe 4 60 ++ List.replicate 8 0) ++
    (ascii "AIQB" ++ toLe 4 44 ++ List.replicate 16 0) ++
    (toLe 4 8 ++ [0, 0, 2, 0]) ++ (toLe 4 12 ++ [0, 0, 3, 0] ++ toLe 4 0) ++
    (ascii "LAIQ" ++ toLe 4 16 ++ List.replicate 8 0)

theorem walkRecords_shortChain :
    ∃ s rs, FindsFirst shortChain s ∧ s.start = 0x50 ∧
      walkRecords 0x50 shortChain = (.ok rs, shortChain) ∧
      walkChain s.start s.stop shortChain = (.ok rs, shortChain) ∧
      ∀ r ∈ rs, r.off + r.size ≤ s.stop :=
  walkRecords_eq_walkChain shortChain
    { magic := by decide
      short := by decide
      lcmc := by decide
      dflt := by decide
      aiqb := by decide
      filled := .record ⟨by decide, by decide, by decide⟩
        (.record ⟨by decide, by decide, by decide⟩ .full)
      followed := .inr (by decide) }

end Aiqb
end SurfaceCameras
