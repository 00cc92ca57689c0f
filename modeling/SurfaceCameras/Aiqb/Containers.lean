import SurfaceCameras.Aiqb.Sections

/-!
# The container format

Containers nest, and the size in a container's header covers exactly its
children.  The leaves are sections with a record chain.  The file lays the tree
out flat, each container before its children, and walking it finds the leaves
in order, each under the names of its containers.

The walk keeps a list of the ends of containers in place of the tree, and drops
an end only when it next looks at a header.  Along a forest the list is
therefore only known up to containers that have already ended.
-/

namespace SurfaceCameras
namespace Aiqb

open Bytes

/-! ## Forests of containers -/

inductive Kind where
  | lcmc
  | laiq
  | lisp
  | lthr
  | dflt
  | ull3
  | lmod
  deriving DecidableEq, Repr

namespace Kind

def tagName : Kind → String
  | lcmc => "LCMC"
  | laiq => "LAIQ"
  | lisp => "LISP"
  | lthr => "LTHR"
  | dflt => "DFLT"
  | ull3 => "ULL3"
  | lmod => "LMOD"

/-- What a path calls a container of this kind and version. -/
def name (k : Kind) (ver : BitVec 32) : String :=
  match k with
  | lmod => "LMOD" ++ toString ver.toNat
  | _ => k.tagName

end Kind

/-- Containers and sections one after the other, `n` bytes in the file.  Of a
section's header the 16 bytes after tag and size are given; every size fits its
32-bit field. -/
inductive Forest : ℕ → Type where
  | nil : Forest 0
  | leaf {n m : ℕ} (header : { bs : Bytes // bs.length = 16 })
      (body : { bs : Bytes // bs.length = n }) (fits : 0x18 + n < 2 ^ 32)
      (rest : Forest m) : Forest (0x18 + n + m)
  | container {n m : ℕ} (kind : Kind) (ver pad : BitVec 32)
      (children : Forest n) (fits : 16 + n < 2 ^ 32) (rest : Forest m) :
      Forest (16 + n + m)

namespace Forest

/-- The bytes of a forest in the file. -/
def encode : {n : ℕ} → Forest n → Bytes
  | _, nil => []
  | _, leaf (n := n) header body _ rest =>
      ascii "AIQB" ++ (toLe 4 (0x18 + n) ++ (header.1 ++ (body.1 ++ rest.encode)))
  | _, container (n := n) kind ver pad children _ rest =>
      ascii kind.tagName ++ (toLe 4 (16 + n) ++ (toLe 4 ver.toNat ++
        (toLe 4 pad.toNat ++ (children.encode ++ rest.encode))))

/-- The sections of a forest at position `p` inside containers of the given
names, innermost first. -/
def leaves : {n : ℕ} → Forest n → List String → ℕ → List Section
  | _, nil, _, _ => []
  | _, leaf (n := n) _ _ _ rest, names, p =>
      ⟨joinNames names, p, p + (0x18 + n)⟩ :: rest.leaves names (p + (0x18 + n))
  | _, container (n := n) kind ver _ children _ rest, names, p =>
      children.leaves (kind.name ver :: names) (p + 16) ++
        rest.leaves names (p + (16 + n))

@[simp] theorem length_encode {n : ℕ} (f : Forest n) : f.encode.length = n := by
  induction f with
  | nil => rfl
  | leaf header body fits rest ih =>
      simp only [encode, List.length_append, length_toLe, header.2, body.2, ih]
      change 4 + _ = _
      omega
  | container kind ver pad children fits rest ihc ih =>
      have htag : (ascii kind.tagName).length = 4 := by cases kind <;> rfl
      simp only [encode, List.length_append, length_toLe, htag, ihc, ih]
      omega

end Forest

/-! ## One header -/

section Header

variable {d : Bytes} {p n : ℕ}

/-- What is read of a header that stands at `p`. -/
theorem read_header {tag rest : Bytes} {size : ℕ}
    (hat : At d p (tag ++ (toLe 4 size ++ rest))) (htag : tag.length = 4)
    (hrest : 8 ≤ rest.length) (hsize : size < 2 ^ 32) :
    p + 16 ≤ d.length ∧ slice d p 4 = tag ∧ word d (p + 4) = size ∧
      At d (p + 8) rest := by
  obtain ⟨hfirst, hsecond⟩ := at_append_iff.mp hat
  obtain ⟨hword, hlast⟩ := at_append_iff.mp hsecond
  have hend := hat.end_le (by simp only [List.length_append]; omega)
  simp only [List.length_append, length_toLe, htag] at hend
  rw [htag] at hsecond hword hlast
  rw [length_toLe] at hlast
  rw [At, htag] at hfirst
  exact ⟨by omega, hfirst, hword.uint hsize, hlast⟩

theorem walkStep_leaf (path : List (String × ℕ)) {m : ℕ}
    {header : { bs : Bytes // bs.length = 16 }}
    {body : { bs : Bytes // bs.length = n }} {fits : 0x18 + n < 2 ^ 32}
    {rest : Forest m}
    (hat : At d p (Forest.leaf header body fits rest).encode) :
    walkStep sectionTags d ⟨p, path⟩ =
        .found ⟨joinNames ((openAt p path).map Prod.fst), p, p + (0x18 + n)⟩
          ⟨p + (0x18 + n), openAt p path⟩ ∧
      At d (p + (0x18 + n)) rest.encode := by
  obtain ⟨hin, htag, hsize, hrest⟩ := read_header hat rfl
    (by simp only [List.length_append, header.2]; omega) fits
  have hbody := (at_append_iff.mp hrest).2
  have hnext := (at_append_iff.mp hbody).2
  rw [header.2, body.2] at hnext
  have hmem : ascii "AIQB" ∈ sectionTags := by decide
  refine ⟨?_, ?_⟩
  · simp only [walkStep, hin, htag, hmem, hsize, and_self, if_true]
  · rwa [show p + (0x18 + n) = p + 8 + 16 + n by omega]

theorem Kind.tag_mem (k : Kind) : ascii k.tagName ∈ sectionTags := by
  cases k <;> decide

theorem Kind.tag_ne (k : Kind) : ascii k.tagName ≠ ascii "AIQB" := by
  cases k <;> decide

theorem Kind.length_tag (k : Kind) : (ascii k.tagName).length = 4 := by
  cases k <;> rfl

theorem Kind.containerName_tag (k : Kind) (ver : BitVec 32) :
    containerName (ascii k.tagName) ver.toNat = k.name ver := by
  cases k with
  | lmod => rfl
  | lcmc => rfl
  | laiq => rfl
  | lisp => rfl
  | lthr => rfl
  | dflt => rfl
  | ull3 => rfl

theorem walkStep_container (path : List (String × ℕ)) {m : ℕ} {kind : Kind}
    {ver pad : BitVec 32} {children : Forest n} {fits : 16 + n < 2 ^ 32} {rest : Forest m}
    (hat : At d p (Forest.container kind ver pad children fits rest).encode) :
    walkStep sectionTags d ⟨p, path⟩ =
        .enter ⟨p + 16, (kind.name ver, p + (16 + n)) :: openAt p path⟩ ∧
      At d (p + 16) children.encode ∧ At d (p + (16 + n)) rest.encode := by
  obtain ⟨hin, htag, hsize, hrest⟩ := read_header hat kind.length_tag
    (by simp only [List.length_append, length_toLe]; omega) fits
  obtain ⟨hver, hpad⟩ := at_append_iff.mp hrest
  have hbody := (at_append_iff.mp hpad).2
  obtain ⟨hchildren, hnext⟩ := at_append_iff.mp hbody
  rw [length_toLe, length_toLe] at hchildren hnext
  rw [Forest.length_encode] at hnext
  have hword : word d (p + 8) = ver.toNat := hver.uint ver.isLt
  refine ⟨?_, hchildren, ?_⟩
  · simp only [walkStep, hin, htag, kind.tag_mem, kind.tag_ne, hsize, hword,
      kind.containerName_tag, and_self, if_true, if_false]
  · rwa [show p + (16 + n) = p + 8 + 4 + 4 + n by omega]

end Header

/-! ## A whole forest -/

theorem openAt_eq_self {p : ℕ} {path : List (String × ℕ)}
    (h : ∀ c ∈ path, p < c.2) : openAt p path = path := by
  cases path with
  | nil => rfl
  | cons c cs =>
      have hc := h c (by simp)
      simp [openAt, Nat.not_le.mpr hc]

/-- Walking over a forest inside the containers `cs` finds its leaves.  What is
remembered after it is `cs`, up to containers that have ended. -/
theorem Forest.visits {d : Bytes} {n : ℕ} (f : Forest n) {p : ℕ}
    (cs path : List (String × ℕ)) (hat : At d p f.encode)
    (hcs : ∀ c ∈ cs, p + n ≤ c.2) (hpath : openAt p path = openAt p cs) :
    ∃ path', Visits sectionTags d ⟨p, path⟩ (f.leaves (cs.map Prod.fst) p)
        ⟨p + n, path'⟩ ∧
      openAt (p + n) path' = openAt (p + n) cs := by
  induction f generalizing p cs path with
  | nil => exact ⟨path, .refl _, hpath⟩
  | @leaf n m header body fits rest ih =>
      obtain ⟨hstep, hrest⟩ := walkStep_leaf path hat
      have hopen : openAt p cs = cs := openAt_eq_self fun c hc => by
        have := hcs c hc
        omega
      rw [hpath, hopen] at hstep
      obtain ⟨path', hvisits, hpath'⟩ := ih cs cs hrest
        (fun c hc => by have := hcs c hc; omega) rfl
      rw [← Nat.add_assoc]
      exact ⟨path', .found hstep hvisits, hpath'⟩
  | @container n m kind ver pad children fits rest ihc ih =>
      obtain ⟨hstep, hchildren, hrest⟩ := walkStep_container path hat
      have hopen : openAt p cs = cs := openAt_eq_self fun c hc => by
        have := hcs c hc
        omega
      rw [hpath, hopen] at hstep
      -- The children are inside this container and the ones around it.
      obtain ⟨path', hinner, hpath'⟩ := ihc
        ((kind.name ver, p + (16 + n)) :: cs)
        ((kind.name ver, p + (16 + n)) :: cs) hchildren
        (by
          intro c hc
          rcases List.mem_cons.mp hc with rfl | hc
          · exact (Nat.add_assoc p 16 n).le
          · have := hcs c hc
            omega) rfl
      rw [Nat.add_assoc] at hinner hpath'
      -- At their end this container has ended too.
      have hended : openAt (p + (16 + n)) path' = openAt (p + (16 + n)) cs := by
        rw [hpath']
        simp [openAt]
      obtain ⟨path'', houter, hpath''⟩ := ih cs path' hrest
        (fun c hc => by have := hcs c hc; omega) hended
      rw [← Nat.add_assoc]
      exact ⟨path'', .enter hstep (hinner.trans houter), hpath''⟩

/-- Walking stops after a forest: the file ends, or what follows is no tag. -/
def EndsWalk (tail : Bytes) : Prop :=
  tail.length < 16 ∨ tail.take 4 ∉ sectionTags

/-- `walk_sections` inverts the format: of a forest laid out from offset `0x18`
on it finds exactly the sections, in order, each with the names of its
containers and the bounds of its record chain. -/
theorem walkSections_encode {size : ℕ} (f : Forest size) (front tail : Bytes)
    (hfront : front.length = 0x18) (htail : EndsWalk tail) :
    ∃ k, ∀ n, k ≤ n → walkSections n (front ++ (f.encode ++ tail)) =
      some ((f.leaves [] 0x18).map fun s => (s.path, s.hdr + 0x18, s.stop)) := by
  have hat : At (front ++ (f.encode ++ tail)) 0x18 f.encode := by
    rw [← hfront]
    exact at_self front f.encode tail
  obtain ⟨path, hvisits, -⟩ := f.visits [] [] hat (by simp) rfl
  have hdone : walkStep sectionTags (front ++ (f.encode ++ tail))
      ⟨0x18 + size, path⟩ = .done := by
    simp only [walkStep]
    rw [if_neg]
    rintro ⟨hin, htag⟩
    have hlen : (front ++ f.encode).length = 0x18 + size := by simp [hfront]
    rw [← List.append_assoc] at hin htag
    rcases htail with hshort | hother
    · simp only [List.length_append, Forest.length_encode] at hin
      omega
    · rw [slice, ← hlen, List.drop_left] at htag
      exact hother htag
  obtain ⟨k, hk⟩ := hvisits.finds hdone
  refine ⟨k, fun n hn => ?_⟩
  simp only [walkSections, Walk.start, hk n hn, Option.map_some]
  rfl

/-- A section of eight bytes inside `LISP` and `DFLT`, then an empty `LMOD`. -/
def smallForest : Forest (16 + (16 + (0x18 + 8 + 0) + (16 + 0 + 0)) + 0) :=
  .container .lisp 1 0
    (.container .dflt 1 0
      (.leaf ⟨List.replicate 16 0, rfl⟩ ⟨List.replicate 8 0, rfl⟩ (by decide) .nil)
      (by decide)
      (.container .lmod 2 0 .nil (by decide) .nil))
    (by decide) .nil

theorem walkSections_smallForest :
    EndsWalk [0, 0, 0, 0] ∧ ∃ k, ∀ n, k ≤ n →
      walkSections n
        (List.replicate 0x18 0 ++ (smallForest.encode ++ [0, 0, 0, 0])) =
      some [("LISP/DFLT", 0x50, 0x58)] := by
  have hends : EndsWalk [0, 0, 0, 0] := .inl (by decide)
  refine ⟨hends, ?_⟩
  obtain ⟨k, hk⟩ := walkSections_encode smallForest (List.replicate 0x18 0)
    [0, 0, 0, 0] rfl hends
  exact ⟨k, fun n hn => (hk n hn).trans (by decide)⟩

end Aiqb
end SurfaceCameras
