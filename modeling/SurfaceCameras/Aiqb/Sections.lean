import SurfaceCameras.Support.Bytes
import Mathlib.Data.List.DropRight
import Mathlib.Data.Nat.Notation
import Mathlib.Order.Interval.Set.Defs

/-!
# Walking the sections of a tuning file

A tuning file is a flat sequence of headers, each with a tag, a size counted
from the header itself and a version.  A walk goes from header to header: into
a container, and over an `AIQB` section.  It remembers the containers it is in
by name and end, and forgets one only at the next header past its end.
-/

namespace SurfaceCameras
namespace Aiqb

open Bytes

/-- The bytes of an ASCII text. -/
def ascii (s : String) : Bytes := s.toList.map fun c => BitVec.ofNat 8 c.toNat

/-- `bytes.decode` of ASCII bytes. -/
def decode (bs : Bytes) : String :=
  String.ofList (bs.map fun b => Char.ofNat b.toNat)

/-- An `AIQB` section: the names of its containers, joined, the position of its
header and where it ends. -/
structure Section where
  path : String
  hdr : ℕ
  stop : ℕ
  deriving DecidableEq, Repr

/-- The record chain of a section comes after its header. -/
def Section.start (s : Section) : ℕ := s.hdr + 0x18

/-- The next header, and the containers entered with their ends, innermost
first. -/
structure Walk where
  p : ℕ
  path : List (String × ℕ)
  deriving DecidableEq, Repr

/-- The first header of a file. -/
def Walk.start : Walk := ⟨0x18, []⟩

/-- What the walk does at a header. -/
inductive Move where
  | done
  | found (s : Section) (next : Walk)
  | enter (next : Walk)
  deriving DecidableEq, Repr

/-- `'/'.join` of the names of the containers, outermost first. -/
def joinNames (names : List String) : String :=
  String.intercalate "/" names.reverse

/-- The containers that do not end at or before `p`. -/
def openAt (p : ℕ) (path : List (String × ℕ)) : List (String × ℕ) :=
  path.dropWhile fun c => c.2 ≤ p

/-- The name of a container in a path; only `LMOD` carries its version. -/
def containerName (tag : Bytes) (ver : ℕ) : String :=
  decode tag ++ if tag = ascii "LMOD" then toString ver else ""

section Walking

variable (tags : List Bytes) (d : Bytes)

/-- One iteration of `walk_sections` over a table of tags. -/
def walkStep (w : Walk) : Move :=
  if w.p + 16 ≤ d.length ∧ slice d w.p 4 ∈ tags then
    let tag := slice d w.p 4
    let stop := w.p + word d (w.p + 4)
    let path := openAt w.p w.path
    if tag = ascii "AIQB" then
      .found ⟨joinNames (path.map Prod.fst), w.p, stop⟩ ⟨stop, path⟩
    else
      .enter ⟨w.p + 16, (containerName tag (word d (w.p + 8)), stop) :: path⟩
  else .done

/-- The sections that at most `n` iterations find, if the walk ends within
them. -/
def walkFrom : ℕ → Walk → Option (List Section)
  | 0, _ => none
  | n + 1, w =>
      match walkStep tags d w with
      | .done => some []
      | .found s next => (walkFrom n next).map (s :: ·)
      | .enter next => walkFrom n next

/-- Going from one header to another finds these sections. -/
inductive Visits : Walk → List Section → Walk → Prop
  | refl (w : Walk) : Visits w [] w
  | found {w next w' : Walk} {s : Section} {ss : List Section} :
      walkStep tags d w = .found s next → Visits next ss w' →
        Visits w (s :: ss) w'
  | enter {w next w' : Walk} {ss : List Section} :
      walkStep tags d w = .enter next → Visits next ss w' → Visits w ss w'

end Walking

section Lemmas

variable {tags : List Bytes} {d : Bytes} {w w' w'' : Walk}
  {ss ss' : List Section}

theorem Visits.trans (h : Visits tags d w ss w')
    (h' : Visits tags d w' ss' w'') : Visits tags d w (ss ++ ss') w'' := by
  induction h with
  | refl w => exact h'
  | found hstep _ ih => exact .found hstep (ih h')
  | enter hstep _ ih => exact .enter hstep (ih h')

/-- What goes on after the sections found so far. -/
theorem Visits.walkFrom (h : Visits tags d w ss w') :
    ∃ k, ∀ n, walkFrom tags d (n + k) w =
      (walkFrom tags d n w').map (ss ++ ·) := by
  induction h with
  | refl w => exact ⟨0, fun n => by simp⟩
  | found hstep _ ih =>
      obtain ⟨k, hk⟩ := ih
      refine ⟨k + 1, fun n => ?_⟩
      rw [← Nat.add_assoc]
      simp only [Aiqb.walkFrom, hstep, hk, Option.map_map]
      rfl
  | enter hstep _ ih =>
      obtain ⟨k, hk⟩ := ih
      refine ⟨k + 1, fun n => ?_⟩
      rw [← Nat.add_assoc]
      simp only [Aiqb.walkFrom, hstep, hk]

theorem Visits.finds (h : Visits tags d w ss w')
    (hdone : walkStep tags d w' = .done) :
    ∃ k, ∀ n, k ≤ n → Aiqb.walkFrom tags d n w = some ss := by
  obtain ⟨k, hk⟩ := h.walkFrom
  refine ⟨k + 1, fun n hn => ?_⟩
  obtain ⟨m, rfl⟩ := Nat.exists_eq_add_of_le hn
  rw [show k + 1 + m = (m + 1) + k by omega, hk]
  simp only [Aiqb.walkFrom, hdone, Option.map_some, List.append_nil]

/-! ### Positions -/

theorem walkStep_found {s : Section} {next : Walk}
    (h : walkStep tags d w = .found s next) :
    slice d w.p 4 = ascii "AIQB" ∧ s.hdr = w.p ∧
      s.stop = w.p + word d (w.p + 4) ∧ next = ⟨s.stop, openAt w.p w.path⟩ := by
  simp only [walkStep] at h
  split at h
  · split at h
    next htag =>
      obtain ⟨rfl, rfl⟩ : _ = s ∧ _ = next := by simpa using h
      exact ⟨htag, rfl, rfl, rfl⟩
    next => cases h
  · cases h

theorem walkStep_enter {next : Walk} (h : walkStep tags d w = .enter next) :
    next.p = w.p + 16 := by
  simp only [walkStep] at h
  split at h
  · split at h
    · cases h
    · obtain rfl : _ = next := by simpa using h
      rfl
  · cases h

theorem walkStep_congr {d' : Bytes} (h : AgreeOn (Set.Ici w.p) d d') :
    walkStep tags d w = walkStep tags d' w := by
  have hslice : ∀ p n, w.p ≤ p → slice d p n = slice d' p n := fun p n hp =>
    h.slice_eq fun i hi _ => hp.trans hi
  simp only [walkStep, word, uint, h.length, hslice w.p 4 le_rfl,
    hslice (w.p + 4) 4 (by omega), hslice (w.p + 8) 4 (by omega)]

/-- The sections on the way lie ahead. -/
theorem Visits.ahead (h : Visits tags d w ss w') :
    ∀ s ∈ ss, w.p ≤ s.hdr ∧ s.hdr ≤ s.stop := by
  induction h with
  | refl w => simp
  | found hstep _ ih =>
      obtain ⟨-, hhdr, hstop, rfl⟩ := walkStep_found hstep
      intro t ht
      rcases List.mem_cons.mp ht with rfl | ht
      · omega
      · have := ih t ht
        simp only at this
        omega
  | enter hstep _ ih =>
      have hp := walkStep_enter hstep
      intro t ht
      have := ih t ht
      omega

/-- No tag of the table can stand one, two or three bytes after an `AIQB`
tag. -/
def Spread (tags : List Bytes) : Prop :=
  ∀ tag ∈ tags, ∀ b ∈ (ascii "AIQB").tail, tag.head? ≠ some b

instance (tags : List Bytes) : Decidable (Spread tags) :=
  inferInstanceAs (Decidable (∀ tag ∈ tags, _))

theorem slice_notMem_of_spread (htags : Spread tags) {p k : ℕ}
    (hp : slice d p 4 = ascii "AIQB") (hk : 0 < k) (hk' : k < 4) :
    slice d (p + k) 4 ∉ tags := by
  intro hmem
  have hbyte : d[p + k]? = (ascii "AIQB")[k]? := by
    rw [← hp, getElem?_slice, if_pos hk']
  have hhead : (slice d (p + k) 4).head? = (ascii "AIQB")[k]? := by
    rw [List.head?_eq_getElem?, getElem?_slice, if_pos (by omega),
      Nat.add_zero, hbyte]
  have hin : k < (ascii "AIQB").length := hk'
  refine htags _ hmem (ascii "AIQB")[k] ?_ (hhead.trans
    (List.getElem?_eq_getElem hin))
  obtain ⟨j, rfl⟩ := Nat.exists_eq_add_of_lt hk
  simp only [Nat.zero_add]
  exact List.mem_iff_getElem.mpr ⟨j, by simpa using Nat.lt_sub_of_add_lt hin,
    by simp⟩

theorem Visits.stuck {s : Section} (hstep : walkStep tags d w = .found s w)
    (h : Visits tags d w ss w') : walkStep tags d w' ≠ .done := by
  induction h with
  | refl w =>
      rw [hstep]
      simp
  | found hstep' _ ih =>
      obtain ⟨rfl, rfl⟩ : s = _ ∧ _ = _ := by simpa [hstep] using hstep'
      exact ih hstep
  | enter hstep' _ ih =>
      rw [hstep] at hstep'
      cases hstep'

theorem walkStep_openAt :
    walkStep tags d ⟨w.p, openAt w.p w.path⟩ = walkStep tags d w := by
  have hopen : openAt w.p (openAt w.p w.path) = openAt w.p w.path :=
    List.dropWhile_idempotent _ w.path
  simp only [walkStep, hopen]

theorem Visits.eq_nil (h : Visits tags d w ss w')
    (hdone : walkStep tags d w = .done) : ss = [] := by
  cases h with
  | refl => rfl
  | found hstep _ => rw [hdone] at hstep; cases hstep
  | enter hstep _ => rw [hdone] at hstep; cases hstep

/-- In a walk that ends, the sections come one after the other, with room for
a tag at least. -/
theorem Visits.ordered (htags : Spread tags) (h : Visits tags d w ss w')
    (hdone : walkStep tags d w' = .done) :
    ss.Pairwise fun s t => s.stop ≤ t.hdr ∧ s.hdr + 4 ≤ t.hdr := by
  induction h with
  | refl w => exact List.Pairwise.nil
  | @found w next w' s ss hstep hrest ih =>
      obtain ⟨htag, hhdr, hstop, rfl⟩ := walkStep_found hstep
      refine List.Pairwise.cons (fun t ht => ?_) (ih hdone)
      have hahead := (hrest.ahead t ht).1
      simp only at hahead
      refine ⟨hahead, ?_⟩
      -- A section of less than four bytes is the last, or the walk is stuck.
      by_contra hnear
      obtain hzero | hpos := Nat.eq_zero_or_pos (word d (w.p + 4))
      · have hsame : s.stop = w.p := by omega
        rw [hsame] at hstep hrest
        exact hrest.stuck (walkStep_openAt.trans hstep) hdone
      · have hend : walkStep tags d ⟨s.stop, openAt w.p w.path⟩ = .done := by
          have hoff := slice_notMem_of_spread htags htag hpos (by omega)
          rw [← hstop] at hoff
          simp [walkStep, hoff]
        rw [hrest.eq_nil hend] at ht
        cases ht
  | enter hstep _ ih => exact ih hdone

end Lemmas

/-! ## The tables of tags -/

/-- `SECTION_TAGS` of `decode_aiqb`. -/
def sectionTags : List Bytes :=
  ["LCMC", "DFLT", "AIQB", "LAIQ", "LISP", "LMOD", "LTHR", "ULL3"].map ascii

/-- `decode_aiqb.walk_sections`: the path, and where the record chain starts
and ends. -/
def walkSections (n : ℕ) (d : Bytes) : Option (List (String × ℕ × ℕ)) :=
  (walkFrom sectionTags d n .start).map
    (·.map fun s => (s.path, s.start, s.stop))

end Aiqb
end SurfaceCameras
