import SurfaceCameras.Aiqb.SectionWalkers

/-!
# Exploring the parameters

`lisp_explore` lists the parameters of the video pipe in `LISP/DFLT` whose first
axis is an analog gain: where their values are, the algorithm, a number within
the record, the axis and the values.  All of them are 32-bit floats for it, and
given by their bits here.
-/

namespace SurfaceCameras
namespace Aiqb

open Bytes Prog

/-- A parameter over a gain axis. -/
structure GainParam where
  po : ℕ
  uuid : ℕ
  idx : ℕ
  axes : List ℕ
  vals : List ℕ
  deriving DecidableEq, Repr

section Explore

variable (F : Floats)

/-- The sub-record at `p`, if its axis is one of gains. -/
def exploreParam (p ssz nn uuid idx : ℕ) : Script (List GainParam) := do
  let axes ← unpackFrom (p + 28) (4 * nn) (words nn)
  if F.nearOne (axes.headD 0) ∧ F.aboveTen (axes.getLastD 0) then do
    let po := p + 28 + 4 * nn
    let nv := (ssz - (28 + 4 * nn)) / 4
    let vals ← unpackFrom po (4 * nv) (words nv)
    pure [⟨po, uuid, idx, axes, vals⟩]
  else pure []

/-- One iteration over the sub-records of a record that ends at `stop`. -/
def exploreRound (stop : ℕ) (v : ℕ × ℕ × List GainParam) :
    Script (ℕ × ℕ × List GainParam ⊕ List GainParam) :=
  if v.1 + 28 ≤ stop then do
    let (ssz, uuid) ← unpackFrom v.1 16 fun bs => (word bs 0, word bs 8)
    if ssz < 16 ∨ stop < v.1 + ssz then pure (.inr v.2.2)
    else do
      let nn ← unpackFrom (v.1 + 16) 12 fun bs => word bs 0
      let new ←
        (if 2 ≤ nn ∧ nn ≤ 8 ∧ 28 + 4 * nn ≤ ssz then
          exploreParam F v.1 ssz nn uuid v.2.1
        else pure [])
      pure (.inl (v.1 + ssz, v.2.1 + 1, v.2.2 ++ new))
  else pure (.inr v.2.2)

/-- The sub-records of a record.  Each has a size, so that the loop is over
before the fuel. -/
def exploreRecord (r : Record) : Script (List GainParam) :=
  if r.nid ≠ stream then pure []
  else iterate .endless (exploreRound F (r.off + r.size))
    (r.off + r.size + 1) (r.off + 8, 0, [])

def exploreSection (s : Section) : Script (List GainParam) :=
  if s.path ≠ "LISP/DFLT" then pure []
  else do
    let params ← forChain (exploreRecord F) s.start s.stop
    pure params.flatten

/-- `gain_params`, with its default stream and section. -/
def gainParams (n : ℕ) : Script (List GainParam) := do
  let params ← forSections exploreSectionTags (exploreSection F) n
  pure params.flatten

end Explore

/-! ## What is printed -/

/-- How 32-bit floats are compared. -/
structure FloatOrder where
  /-- `x <= y` -/
  le : ℕ → ℕ → Bool
  /-- `x < y` -/
  lt : ℕ → ℕ → Bool

inductive Trend where
  | none
  | monoUp
  | monoDown
  deriving DecidableEq, Repr

/-- How many values there are for each node, if every node has as many. -/
def perNode (e : GainParam) : ℕ :=
  if e.axes.length ≠ 0 ∧ e.vals.length % e.axes.length = 0 then
    e.vals.length / e.axes.length
  else 0

/-- Whether values of which each node has one grow or shrink along the axis. -/
def trend (O : FloatOrder) (e : GainParam) : Trend :=
  let v := e.vals
  if perNode e = 1 then
    if (v.zip v.tail).all (fun w => O.le w.1 w.2) ∧
        O.lt (v.headD 0) (v.getLastD 0) then .monoUp
    else if (v.zip v.tail).all (fun w => O.le w.2 w.1) ∧
        O.lt (v.getLastD 0) (v.headD 0) then .monoDown
    else .none
  else .none

/-- The lines that `lisp_explore` prints; `n` bounds its walk. -/
def exploreMain (F : Floats) (O : FloatOrder) (n : ℕ) :
    Script (List (GainParam × ℕ × Trend)) := do
  let params ← gainParams F n
  pure (params.map fun e => (e, perNode e, trend O e))

end Aiqb
end SurfaceCameras
