import SurfaceCameras.Aiqb.Checksums
import SurfaceCameras.Aiqb.DecodeBounds

/-!
# Three walkers over one format

`decode_aiqb`, `lisp_explore` and `patch_aiqb_nr` each have their own copy of
`walk_sections` and of its table of tags.  The copies of the code differ only in
what they yield.  The tables differ in one entry: that of `decode_aiqb` lacks
`CPFF`, and where the others enter such a container, its walk is over.
-/

namespace SurfaceCameras
namespace Aiqb

open Bytes Prog

/-! ## The other copies -/

/-- `SECTION_TAGS` of `lisp_explore`. -/
def exploreSectionTags : List Bytes :=
  ["CPFF", "LCMC", "LAIQ", "LISP", "LTHR", "DFLT", "ULL3", "LMOD",
    "AIQB"].map ascii

/-- The path of a section, and where its record chain starts and ends. -/
def Section.chain (s : Section) : String × ℕ × ℕ := (s.path, s.start, s.stop)

/-- The same, with the position of the header. -/
def Section.headedChain (s : Section) : String × ℕ × ℕ × ℕ :=
  (s.path, s.hdr, s.start, s.stop)

/-- `lisp_explore.walk_sections`. -/
def exploreWalkSections (n : ℕ) (d : Bytes) :
    Option (List (String × ℕ × ℕ)) :=
  (walkFrom exploreSectionTags d n .start).map (·.map Section.chain)

/-- `patch_aiqb_nr.walk_sections`. -/
def nrWalkSections (n : ℕ) (d : Bytes) :
    Option (List (String × ℕ × ℕ × ℕ)) :=
  (walkFrom nrSectionTags d n .start).map (·.map Section.headedChain)

/-- The walkers come to their ends. -/
structure WalkersEnd (d : Bytes) : Prop where
  decode : ∃ n, (walkSections n d).isSome
  explore : ∃ n, (exploreWalkSections n d).isSome
  patch : ∃ n, (nrWalkSections n d).isSome

/-- The walkers visit the sections `ss`, and these are the sections that the
patcher edits, whose walk goes on while the file changes. -/
structure Visited (d : Bytes) (ss : List Section) : Prop where
  decode : ∃ n, walkSections n d = some (ss.map Section.chain)
  explore : ∃ n, exploreWalkSections n d = some (ss.map Section.chain)
  patch : ∃ n, nrWalkSections n d = some (ss.map Section.headedChain)
  edited : ∀ F n r d', patchSections F n d = (.ok r, d') → Edited F n ss d d'

/-- The walkers visit the same sections. -/
def WalkersAgree (d : Bytes) : Prop := ∃ ss, Visited d ss

/-! ## Headers -/

section Headers

variable (tags : List Bytes) (d : Bytes)

/-- There is room for a header at `p`, and its tag is in the table. -/
def HeaderAt (p : ℕ) : Prop := p + 16 ≤ d.length ∧ slice d p 4 ∈ tags

instance (p : ℕ) : Decidable (HeaderAt tags d p) :=
  inferInstanceAs (Decidable (_ ∧ _))

/-- Where the next header is: after an `AIQB` section, or in a container. -/
def nextHeader (p : ℕ) : ℕ :=
  p + if slice d p 4 = ascii "AIQB" then word d (p + 4) else 16

/-- From header to header, a position with property `P` comes at `p` or
later. -/
inductive Leads (P : ℕ → Prop) : ℕ → Prop
  | here {p : ℕ} : P p → Leads P p
  | next {p : ℕ} : HeaderAt tags d p → Leads P (nextHeader d p) → Leads P p

end Headers

/-- After a `CPFF` header there comes an `AIQB` header. -/
def HidesSection (d : Bytes) : Prop :=
  Leads nrSectionTags d (fun p => HeaderAt [ascii "CPFF"] d p ∧
    Leads nrSectionTags d (HeaderAt [ascii "AIQB"] d) p) Walk.start.p

section Steps

variable {tags tags' : List Bytes} {d : Bytes} {w next : Walk} {s : Section}
  {P : ℕ → Prop} {p : ℕ}

theorem leads_next (hhere : HeaderAt tags d p) (hp : ¬ P p) :
    Leads tags d P p ↔ Leads tags d P (nextHeader d p) := by
  constructor
  · intro h
    cases h with
    | here h => exact absurd h hp
    | next _ h => exact h
  · exact fun h => .next hhere h

theorem leads_end (hend : ¬ HeaderAt tags d p) :
    Leads tags d P p ↔ P p := by
  constructor
  · intro h
    cases h with
    | here h => exact h
    | next hhere _ => exact absurd hhere hend
  · exact fun h => .here h

theorem Leads.trans {P' : ℕ → Prop} (h : Leads tags d P p)
    (hlater : ∀ p, P p → Leads tags d P' p) : Leads tags d P' p := by
  induction h with
  | here hp => exact hlater _ hp
  | next hhere _ ih => exact .next hhere ih

theorem not_leads_of_closed {S : List ℕ} (hS : ∀ p ∈ S, ¬ P p)
    (hnext : ∀ p ∈ S, HeaderAt tags d p → nextHeader d p ∈ S) (hp : p ∈ S) :
    ¬ Leads tags d P p := by
  intro h
  induction h with
  | here h => exact hS _ hp h
  | next hhere _ ih => exact ih (hnext _ hp hhere)

theorem HeaderAt.mono (hsub : tags ⊆ tags') (h : HeaderAt tags d p) :
    HeaderAt tags' d p :=
  ⟨h.1, hsub h.2⟩

theorem walkStep_end (hend : ¬ HeaderAt tags d w.p) :
    walkStep tags d w = .done := by
  rw [walkStep]
  exact if_neg hend

theorem walkStep_eq (h : HeaderAt tags d w.p) (h' : HeaderAt tags' d w.p) :
    walkStep tags d w = walkStep tags' d w := by
  simp only [walkStep]
  exact (if_pos h).trans (if_pos h').symm

/-- A walk at a header finds a section there or enters a container. -/
theorem walkStep_cases (h : HeaderAt tags d w.p) :
    (∃ s next, walkStep tags d w = .found s next ∧
        HeaderAt [ascii "AIQB"] d w.p ∧ next.p = nextHeader d w.p) ∨
      ∃ next, walkStep tags d w = .enter next ∧
        ¬ HeaderAt [ascii "AIQB"] d w.p ∧ next.p = nextHeader d w.p := by
  have hstep := (rfl : walkStep tags d w = _).trans (if_pos h)
  by_cases htag : slice d w.p 4 = ascii "AIQB"
  · refine Or.inl ⟨_, _, hstep.trans (if_pos htag), ?_, ?_⟩
    · exact ⟨h.1, List.mem_singleton.mpr htag⟩
    · simp only [nextHeader, if_pos htag]
  · refine Or.inr ⟨_, hstep.trans (if_neg htag), fun haiqb => ?_, ?_⟩
    · exact htag (List.mem_singleton.mp haiqb.2)
    · simp only [nextHeader, if_neg htag]

end Steps

/-! ## Walks under two tables -/

section Walks

variable {tags tags' : List Bytes} {d : Bytes} {w : Walk}
  {ss xs ys : List Section} {n m : ℕ} {Q : ℕ → Prop}

theorem walkFrom_unique (h : walkFrom tags d n w = some xs)
    (h' : walkFrom tags d m w = some ys) : xs = ys := by
  have hmore := walkFrom_add h m
  have hmore' := walkFrom_add h' n
  rw [Nat.add_comm m n] at hmore'
  exact Option.some.inj (hmore.symm.trans hmore')

/-- A walk finds nothing if and only if it comes to no `AIQB` header. -/
theorem walkFrom_eq_nil_iff (haiqb : ascii "AIQB" ∈ tags)
    (h : walkFrom tags d n w = some ss) :
    ss = [] ↔ ¬ Leads tags d (HeaderAt [ascii "AIQB"] d) w.p := by
  induction n generalizing w ss with
  | zero => cases h
  | succ n ih =>
      rw [walkFrom] at h
      by_cases hhere : HeaderAt tags d w.p
      · obtain ⟨s, next, hstep, hsection, -⟩ | ⟨next, hstep, hother, hp⟩ :=
          walkStep_cases hhere
        · rw [hstep] at h
          obtain ⟨rest, -, rfl⟩ := Option.map_eq_some_iff.mp h
          exact iff_of_false (List.cons_ne_nil s rest)
            (not_not.mpr (.here hsection))
        · rw [hstep] at h
          rw [leads_next hhere hother, ← hp]
          exact ih h
      · rw [walkStep_end hhere] at h
        have hnil : ss = [] := (Option.some.inj h).symm
        refine iff_of_true hnil fun hleads => hhere ?_
        have hsection := (leads_end hhere).mp hleads
        exact hsection.mono (List.cons_subset.mpr ⟨haiqb, List.nil_subset _⟩)

/-- Under a table with more tags a walk finds the same sections, unless it comes
to an `AIQB` header after one of these tags. -/
theorem walkFrom_eq_iff (hsub : tags ⊆ tags') (haiqb : ascii "AIQB" ∈ tags)
    (hmore : ∀ p, Q p ↔ HeaderAt tags' d p ∧ ¬ HeaderAt tags d p)
    (h : walkFrom tags d n w = some xs)
    (h' : walkFrom tags' d n w = some ys) :
    xs = ys ↔ ¬ Leads tags' d
      (fun p => Q p ∧ Leads tags' d (HeaderAt [ascii "AIQB"] d) p) w.p := by
  induction n generalizing w xs ys with
  | zero => cases h
  | succ n ih =>
      by_cases hhere' : HeaderAt tags' d w.p
      · by_cases hhere : HeaderAt tags d w.p
        · -- Both walks do the same here, and go on from there.
          have hnext := leads_next (P := fun p => Q p ∧
            Leads tags' d (HeaderAt [ascii "AIQB"] d) p) hhere'
            fun hp => ((hmore w.p).mp hp.1).2 hhere
          rw [walkFrom] at h
          rw [walkFrom, ← walkStep_eq hhere hhere'] at h'
          obtain ⟨s, next, hstep, -, hp⟩ | ⟨next, hstep, -, hp⟩ :=
            walkStep_cases hhere
          · rw [hstep] at h h'
            obtain ⟨rest, hrest, rfl⟩ := Option.map_eq_some_iff.mp h
            obtain ⟨rest', hrest', rfl⟩ := Option.map_eq_some_iff.mp h'
            rw [List.cons_inj_right, hnext, ← hp]
            exact ih hrest hrest'
          · rw [hstep] at h h'
            rw [hnext, ← hp]
            exact ih h h'
        · -- The walk under the smaller table is over.
          have hq := (hmore w.p).mpr ⟨hhere', hhere⟩
          rw [walkFrom, walkStep_end hhere] at h
          obtain rfl : [] = xs := Option.some.inj h
          rw [eq_comm, walkFrom_eq_nil_iff (hsub haiqb) h', not_iff_not]
          constructor
          · exact fun hleads => .here ⟨hq, hleads⟩
          · exact fun hleads => hleads.trans fun p hp => hp.2
      · have hhere : ¬ HeaderAt tags d w.p := fun h => hhere' (h.mono hsub)
        rw [walkFrom, walkStep_end hhere] at h
        rw [walkFrom, walkStep_end hhere'] at h'
        refine iff_of_true (Option.some.inj (h.symm.trans h')) fun hleads => ?_
        have hp := (leads_end hhere').mp hleads
        exact hhere' ((hmore w.p).mp hp.1).1

end Walks

/-! ## The three tables -/

theorem exploreSectionTags_eq : exploreSectionTags = nrSectionTags := rfl

theorem sectionTags_subset : sectionTags ⊆ nrSectionTags := by decide

theorem mem_nrSectionTags_iff (tag : Bytes) :
    tag ∈ nrSectionTags ↔ tag ∈ [ascii "CPFF"] ∨ tag ∈ sectionTags := by
  constructor
  · revert tag
    decide
  · rintro (htag | htag)
    · exact (by decide : [ascii "CPFF"] ⊆ nrSectionTags) htag
    · exact sectionTags_subset htag

theorem headerAt_cpff_iff {d : Bytes} (p : ℕ) :
    HeaderAt [ascii "CPFF"] d p ↔
      HeaderAt nrSectionTags d p ∧ ¬ HeaderAt sectionTags d p := by
  have hnot : ascii "CPFF" ∉ sectionTags := by decide
  constructor
  · rintro ⟨hroom, htag⟩
    have hin := (mem_nrSectionTags_iff (slice d p 4)).mpr (.inl htag)
    refine ⟨⟨hroom, hin⟩, fun h => hnot ?_⟩
    rw [← List.mem_singleton.mp htag]
    exact h.2
  · rintro ⟨⟨hroom, htag⟩, hout⟩
    obtain hcpff | hin := (mem_nrSectionTags_iff _).mp htag
    · exact ⟨hroom, hcpff⟩
    · exact absurd ⟨hroom, hin⟩ hout

theorem chain_injective : Function.Injective Section.chain := by
  rintro ⟨path, hdr, stop⟩ ⟨path', hdr', stop'⟩ h
  simp only [Section.chain, Section.start, Prod.mk.injEq,
    Nat.add_right_cancel_iff] at h
  obtain ⟨rfl, rfl, rfl⟩ := h
  rfl

theorem map_chain_eq_iff {found : Option (List Section)} {ss : List Section} :
    found.map (·.map Section.chain) = some (ss.map Section.chain) ↔
      found = some ss :=
  (Option.map_injective (List.map_injective_iff.mpr chain_injective)).eq_iff'
    rfl

/-- The walkers visit the sections that the walk finds under either table. -/
theorem visited_iff {d : Bytes} {ss : List Section} :
    Visited d ss ↔ (∃ n, walkFrom sectionTags d n .start = some ss) ∧
      ∃ n, walkFrom nrSectionTags d n .start = some ss := by
  constructor
  · intro h
    obtain ⟨n, hn⟩ := h.decode
    obtain ⟨m, hm⟩ := h.explore
    rw [exploreWalkSections, exploreSectionTags_eq] at hm
    exact ⟨⟨n, map_chain_eq_iff.mp hn⟩, ⟨m, map_chain_eq_iff.mp hm⟩⟩
  · rintro ⟨⟨n, hn⟩, ⟨m, hm⟩⟩
    have hexplore : exploreWalkSections m d = some (ss.map Section.chain) := by
      rw [exploreWalkSections, exploreSectionTags_eq]
      exact map_chain_eq_iff.mpr hm
    have hpatch := congrArg (Option.map (List.map Section.headedChain)) hm
    refine ⟨⟨n, map_chain_eq_iff.mpr hn⟩, ⟨m, hexplore⟩, ⟨m, hpatch⟩, ?_⟩
    -- The patcher comes to the sections of the file as it was.
    intro F k r d' hrun
    obtain ⟨found, -, -, -, hfound, hedited, -⟩ :=
      patchSections_finds k (.start, none, []) (AgreeOn.refl _ d) hrun
    rw [walkFrom_unique hm hfound]
    exact hedited

/-- Where the three walkers come to their ends, they visit the same sections if
and only if no `AIQB` header comes after a `CPFF` header. -/
theorem walkersAgree_iff (d : Bytes) (hends : WalkersEnd d) :
    WalkersAgree d ↔ ¬ HidesSection d := by
  obtain ⟨n, hn⟩ := hends.decode
  obtain ⟨m, hm⟩ := hends.patch
  rw [walkSections, Option.isSome_map] at hn
  rw [nrWalkSections, Option.isSome_map] at hm
  obtain ⟨xs, hxs⟩ := Option.isSome_iff_exists.mp hn
  obtain ⟨ys, hys⟩ := Option.isSome_iff_exists.mp hm
  have hmore := walkFrom_add hys n
  rw [Nat.add_comm m n] at hmore
  have hiff : xs = ys ↔ ¬ HidesSection d :=
    walkFrom_eq_iff sectionTags_subset (by decide) headerAt_cpff_iff
      (walkFrom_add hxs m) hmore
  rw [← hiff]
  constructor
  · rintro ⟨ss, hvisited⟩
    obtain ⟨⟨k, hk⟩, ⟨l, hl⟩⟩ := visited_iff.mp hvisited
    exact (walkFrom_unique hxs hk).trans (walkFrom_unique hl hys)
  · rintro rfl
    exact ⟨xs, visited_iff.mpr ⟨⟨n, hxs⟩, ⟨m, hys⟩⟩⟩

/-! ### A container that the decoder does not know -/

/-- A file with one section of the video pipe, and these bytes before it. -/
def oneSection (front : Bytes) : Bytes :=
  ascii "CPFF" ++ List.replicate 0x14 0 ++ front ++
    (ascii "LISP" ++ [128, 1, 0].flatMap (toLe 4)) ++
    (ascii "DFLT" ++ [112, 1, 0].flatMap (toLe 4)) ++ nrSection

/-- A container without children. -/
def emptyContainer : Bytes := ascii "CPFF" ++ [16, 1, 0].flatMap (toLe 4)

theorem walkersAgree_oneSection : WalkersAgree (oneSection []) := by
  have hends : WalkersEnd (oneSection []) :=
    { decode := ⟨4, by decide +kernel⟩
      explore := ⟨4, by decide +kernel⟩
      patch := ⟨4, by decide +kernel⟩ }
  refine (walkersAgree_iff _ hends).mpr ?_
  have hno : ∀ p ∈ [0x18, 0x28, 0x38, 0x98],
      ¬ HeaderAt [ascii "CPFF"] (oneSection []) p := by decide +kernel
  have hclosed : ∀ p ∈ [0x18, 0x28, 0x38, 0x98],
      HeaderAt nrSectionTags (oneSection []) p →
        nextHeader (oneSection []) p ∈ [0x18, 0x28, 0x38, 0x98] := by
    decide +kernel
  exact not_leads_of_closed (fun p hp h => hno p hp h.1) hclosed (by decide)

/-- The patcher rescales a section that the decoder does not show. -/
theorem walkers_differ :
    WalkersEnd (oneSection emptyContainer) ∧
      (patch exactFloats 8 (oneSection emptyContainer)).1 = .ok () ∧
      ¬ WalkersAgree (oneSection emptyContainer) := by
  have hdecode : walkFrom sectionTags (oneSection emptyContainer) 5 .start =
      some [] := by decide +kernel
  have hpatch : walkFrom nrSectionTags (oneSection emptyContainer) 5 .start =
      some [⟨"LISP/DFLT", 0x48, 0xa8⟩] := by decide +kernel
  have hends : WalkersEnd (oneSection emptyContainer) :=
    { decode := ⟨5, by decide +kernel⟩
      explore := ⟨5, by decide +kernel⟩
      patch := ⟨5, by decide +kernel⟩ }
  refine ⟨hends, by decide +kernel, ?_⟩
  rintro ⟨ss, hvisited⟩
  obtain ⟨⟨n, hn⟩, ⟨m, hm⟩⟩ := visited_iff.mp hvisited
  have hnone := walkFrom_unique hdecode hn
  have hone := walkFrom_unique hpatch hm
  exact List.cons_ne_nil _ _ (hone.trans hnone.symm)

end Aiqb
end SurfaceCameras
