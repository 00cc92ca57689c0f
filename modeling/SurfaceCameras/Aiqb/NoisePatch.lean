import SurfaceCameras.Aiqb.Sections
import SurfaceCameras.Support.Program
import Mathlib.Data.Int.Notation
import Mathlib.Algebra.Order.Group.Unbundled.Int

/-!
# Raising the noise reduction

`patch_aiqb_nr` rescales parameters of the noise reduction in place.  It walks
the sections of the file while it changes them, rescales the values at high
gain of every eligible parameter in `LISP/DFLT`, and then writes the checksum
of a section and that of the file.

The floating-point arithmetic of the axis and of the factor is a parameter.
-/

namespace SurfaceCameras
namespace Aiqb

open Bytes Prog

/-- How the script ends without finishing: bytes that are not in the file or a
number that does not fit its field, an assertion, an error of the
floating-point conversion, or not at all. -/
inductive Stop where
  | structError
  | assertion
  | rounding
  | typeError
  | endless
  deriving DecidableEq, Repr

/-- A script over the bytes of the file. -/
abbrev Script : Type → Type := Prog Bytes Stop

/-- `struct.unpack_from` of a format of `n` bytes at `p`. -/
def unpackFrom {α : Type} (p n : ℕ) (fields : Bytes → α) : Script α := do
  let len ← gets List.length
  when (len < p + n) (raise .structError)
  gets fun d => fields (slice d p n)

/-- `struct.pack_into` of bytes at `p`. -/
def packInto (p : ℕ) (bs : Bytes) : Script Unit := do
  let len ← gets List.length
  when (len < p + bs.length) (raise .structError)
  modify fun d => write d p bs

/-- The signed number in a 32-bit word. -/
def toSigned (v : ℕ) : ℤ := if v < 2 ^ 31 then v else v - 2 ^ 32

/-- The 32-bit words of a byte string. -/
def words (n : ℕ) (bs : Bytes) : List ℕ :=
  (List.range n).map fun i => word bs (4 * i)

/-- Signed numbers as 32-bit words. -/
def packSigned (vs : List ℤ) : Bytes :=
  vs.flatMap fun v => toLe 4 (v % 2 ^ 32).toNat

/-! ## The parameters -/

/-- What is computed in floating point; an axis value is given by the bits of
its 32-bit float. -/
structure Floats where
  /-- `abs(x - 1.0) < 0.01` -/
  nearOne : ℕ → Bool
  /-- `x > 10` -/
  aboveTen : ℕ → Bool
  /-- `abs(v - x) <= 1` -/
  onAxis : ℤ → ℕ → Bool
  /-- `x >= GAIN_MIN` -/
  highGain : ℕ → Bool
  /-- `round(v * factor)`, unless it raises. -/
  scale : ℤ → Option ℤ

/-- A parameter that was rescaled: where, and its values before and after. -/
structure Patched where
  p : ℕ
  old : List ℤ
  new : List ℤ
  deriving DecidableEq, Repr

section Patch

variable (F : Floats)

/-- The values grow along the axis. -/
def monoUp (vals : List ℤ) : Bool :=
  decide (vals.IsChain (· ≤ ·)) && decide (vals.headD 0 < vals.getLastD 0)

/-- The values are the axis itself. -/
def isAxis (vals : List ℤ) (ax : List ℕ) : Bool :=
  (vals.zip ax).all fun v => F.onAxis v.1 v.2

/-- Thresholds are large and grow. -/
def eligible (vals : List ℤ) (ax : List ℕ) : Bool :=
  monoUp vals && decide (2 ≤ vals.headD 0) && !isAxis F vals ax &&
    vals.any fun v => decide (64 ≤ v)

/-- The values at high gain are rescaled. -/
def rescale : List ℤ → List ℕ → Option (List ℤ)
  | v :: vals, x :: ax =>
      (if F.highGain x then F.scale v else some v).bind fun v' =>
        (rescale vals ax).map (v' :: ·)
  | _, _ => some []

/-- Pack rescaled values; a value that is no 32-bit number raises. -/
def packValues (vo : ℕ) (new : List ℤ) : Script Unit := do
  when (¬ ∀ v ∈ new, -2 ^ 31 ≤ v ∧ v < 2 ^ 31) (raise .structError)
  packInto vo (packSigned new)

/-- The sub-record at `p` of the algorithm that is looked for. -/
def patchParam (p ssz n1 n2 : ℕ) : Script (List Patched) := do
  let ax ← unpackFrom (p + 28) (4 * n1) (words n1)
  let vo := p + 28 + 4 * n1 + 4 * n2
  if F.nearOne (ax.headD 0) ∧ F.aboveTen (ax.getLastD 0) ∧
      vo + 4 * n1 ≤ p + ssz then do
    let vals ← unpackFrom vo (4 * n1) fun bs => (words n1 bs).map toSigned
    if eligible F vals ax then
      match rescale F vals ax with
      | none => raise .rounding
      | some new => do
          packValues vo new
          pure [⟨p, vals, new⟩]
    else pure []
  else pure []

theorem rescaled_eq_ok {r : Option (List ℤ)} {f : List ℤ → Script (List Patched)}
    {out : List Patched} {d d₁ : Bytes}
    (h : (match r with
      | none => (raise .rounding : Script _)
      | some new => f new) d = (.ok out, d₁)) :
    ∃ new, r = some new ∧ f new d = (.ok out, d₁) := by
  cases r with
  | none => cases h
  | some new => exact ⟨new, rfl, h⟩

def targetUuid : ℕ := 28866

def stream : ℕ := 60001

/-- The sub-records of a record from `p` to `stop`. -/
def patchRecord (n p stop : ℕ) : Script (List Patched) :=
  iterate .endless (fun (v : ℕ × List Patched) => do
    if v.1 + 28 ≤ stop then do
      let (ssz, uuid) ← unpackFrom v.1 16 fun bs => (word bs 0, word bs 8)
      if ssz < 16 ∨ stop < v.1 + ssz then pure (.inr v.2)
      else do
        let (n1, n2, npts) ← unpackFrom (v.1 + 16) 12
          fun bs => (word bs 0, word bs 4, word bs 8)
        let new ←
          (if uuid = targetUuid ∧ 4 ≤ n1 ∧ n2 = 1 ∧ npts = 1 then
            patchParam F v.1 ssz n1 n2
          else pure [])
        pure (.inl (v.1 + ssz, v.2 ++ new))
    else pure (.inr v.2)) n (p, [])

/-- The record chain of a section from `start` to `stop`. -/
def patchChain (n start stop : ℕ) : Script (List Patched) :=
  iterate .endless (fun (v : ℕ × List Patched) => do
    if v.1 + 8 ≤ stop then do
      let (rsize, nid) ← unpackFrom v.1 8 fun bs => (word bs 0, uint bs 6 2)
      if rsize < 8 ∨ stop < v.1 + rsize then pure (.inr v.2)
      else do
        let new ←
          (if nid = stream then patchRecord F n (v.1 + 8) (v.1 + rsize)
          else pure [])
        pure (.inl (v.1 + rsize, v.2 ++ new))
    else pure (.inr v.2)) n (start, [])

/-- `SECTION_TAGS` of `patch_aiqb_nr`. -/
def nrSectionTags : List Bytes :=
  ["CPFF", "LCMC", "LAIQ", "LISP", "LTHR", "DFLT", "ULL3", "LMOD",
    "AIQB"].map ascii

/-- What the loop over the sections does with one. -/
def patchSection (n : ℕ) (s : Section) : Script (List Patched) :=
  if s.path ≠ "LISP/DFLT" then pure [] else patchChain F n s.start s.stop

/-- The section whose checksum is to be written. -/
def lispHdr (s : Section) (lisp : Option Section) : Option Section :=
  if s.path ≠ "LISP/DFLT" then lisp else some s

/-- One iteration of the loop over the sections, which are found while the file
changes. -/
def patchStep (n : ℕ) (v : Walk × Option Section × List Patched) :
    Script (Walk × Option Section × List Patched ⊕
      Option Section × List Patched) := do
  let d ← gets id
  match walkStep nrSectionTags d v.1 with
  | .done => pure (.inr v.2)
  | .enter next => pure (.inl (next, v.2))
  | .found s next => do
      let new ← patchSection F n s
      pure (.inl (next, lispHdr s v.2.1, v.2.2 ++ new))

def patchSections (n : ℕ) : Script (Option Section × List Patched) :=
  iterate .endless (patchStep F n) n (.start, none, [])

/-! ## Checksums -/

/-- The positions `range(lo, hi, 4)`. -/
def offsets (lo hi : ℕ) : List ℕ :=
  (List.range ((hi - lo + 3) / 4)).map fun i => lo + 4 * i

/-- Add the words at these positions, except the one at `pos`. -/
def addWords (pos : ℕ) : List ℕ → ℕ → Script ℕ
  | [], t => pure t
  | o :: os, t =>
      if o ≠ pos then do
        let w ← unpackFrom o 4 fun bs => word bs 0
        addWords pos os ((t + w) % 2 ^ 32)
      else addWords pos os t

def selfsum (lo hi pos : ℕ) : Script ℕ := addWords pos (offsets lo hi) 0

/-- Write the checksum of `lo` to `hi` at `pos`. -/
def writeSum (lo hi pos : ℕ) : Script Unit := do
  let t ← selfsum lo hi pos
  packInto pos (toLe 4 t)

/-- `patch`, from the bytes read to the bytes written. -/
def patch (n : ℕ) : Script Unit := do
  let head ← gets fun d => slice d 0 4
  when (head ≠ ascii "CPFF") (raise .assertion)
  let (lisp, patched) ← patchSections F n
  when (patched = []) (raise .assertion)
  match lisp with
  | none => raise .typeError
  | some s => do
      writeSum s.hdr s.stop (s.hdr + 0x14)
      let len ← gets List.length
      writeSum 0 len 0x14

end Patch

end Aiqb
end SurfaceCameras
