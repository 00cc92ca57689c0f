import SurfaceCameras.Aiqb.Records
import Mathlib.Data.List.Sort

/-!
# Decoding a tuning file

`decode_aiqb` lists the records of every section (`--records`), or the
algorithms whose tuning the records of the `LISP` sections hold (`--isp`).  It
only reads.
-/

namespace SurfaceCameras
namespace Aiqb

open Bytes Prog

/-! ## Records -/

/-- A record, by where it is and what its header says. -/
structure Record where
  off : ℕ
  size : ℕ
  fmt : ℕ
  key : ℕ
  nid : ℕ
  deriving DecidableEq, Repr

def recordLayout : Layout Record where
  len := 8
  least := 8
  read := fun off bs => ⟨off, word bs 0, uint bs 4 1, uint bs 5 1, uint bs 6 2⟩
  size := Record.size
  least_pos := by decide

/-- Run `f` on the records that `walk_chain` goes over. -/
def forChain {α : Type} (f : Record → Script α) (start stop : ℕ) :
    Script (List α) :=
  recordLayout.forEach (fun _ => true) stop (fun _ => f) start

/-- `walk_chain`. -/
def walkChain (start stop : ℕ) : Script (List Record) :=
  forChain pure start stop

/-- A name that `walk_records` goes on at. -/
def knownName (r : Record) : Bool := decide (r.nid ≤ 200)

/-- `walk_records`. -/
def walkRecords (start : ℕ) : Script (List Record) := do
  let len ← gets List.length
  recordLayout.forEach knownName len (fun _ => pure) start

/-! ## Sections -/

section Sections

variable {α : Type} (tags : List Bytes) (f : Section → Script α)

/-- One iteration over the sections. -/
def sectionRound (v : Walk × List α) : Script (Walk × List α ⊕ List α) := do
  let d ← gets id
  match walkStep tags d v.1 with
  | .done => pure (.inr v.2)
  | .enter next => pure (.inl (next, v.2))
  | .found s next => do
      let a ← f s
      pure (.inl (next, v.2 ++ [a]))

/-- Run `f` on the sections that at most `n` iterations of `walk_sections`
find. -/
def forSections (n : ℕ) : Script (List α) :=
  iterate .endless (sectionRound tags f) n (.start, [])

end Sections

/-! ## `--records` -/

def cmcNames : List String :=
  ["reserved", "comment", "general_data", "black_level", "black_level_spatial",
    "saturation_level", "dynamic_range_and_linearity", "module_sensitivity",
    "defect_pixels", "noise", "lsc", "lsc_ratio", "gdc",
    "optics_and_mechanics", "module_spectral_response",
    "chromaticity_response", "flash_chromaticity", "nvm_info",
    "color_matrices", "analog_gain_conversion", "digital_gain",
    "sensor_metadata", "gdc2", "exposure_range",
    "multi_led_flash_chromaticity", "advanced_color_matrices", "hdr",
    "infrared_correction", "lsc_4x4", "lat_chromatic_aberration",
    "phase_difference", "black_level_global", "valid_image_area",
    "lsc_4x4_ratio", "multi_gain_conversions", "pipe_comp_decomp",
    "sensor_decomp", "media_format", "cbd"]

/-- What is printed of a section: its path, its bounds, and its records with
their names. -/
structure Listing where
  path : String
  start : ℕ
  stop : ℕ
  records : List (Record × String)
  deriving DecidableEq, Repr

def listSection (s : Section) : Script Listing := do
  let records ← walkChain s.start s.stop
  pure
    { path := if s.path = "" then "LCMC" else s.path
      start := s.start
      stop := s.stop
      records := records.map fun r =>
        (r, if s.path.startsWith "LCMC" then cmcNames.getD r.nid "" else "") }

def cmdRecords (n : ℕ) : Script (List Listing) :=
  forSections sectionTags listSection n

/-! ## `--isp` -/

/-- A sub-record, by where it is and what its header says. -/
structure Subrecord where
  p : ℕ
  ssz : ℕ
  tag : ℕ
  flags : ℕ
  uuid : ℕ
  ver : ℕ
  deriving DecidableEq, Repr

def subrecordLayout : Layout Subrecord where
  len := 16
  least := 16
  read := fun p bs =>
    ⟨p, word bs 0, uint bs 4 2, uint bs 6 2, word bs 8, word bs 12⟩
  size := Subrecord.ssz
  least_pos := by decide

/-- What is known of an algorithm: how many sub-records it has, how many bytes
they take, and the axis of the first one, as the bits of 32-bit floats. -/
structure Algo where
  n : ℕ
  bytes : ℕ
  axis : List ℕ
  deriving DecidableEq, Repr

/-- The axis of a sub-record, of which at most eight nodes are read. -/
def unpackAxis (p : ℕ) : Script (List ℕ) := do
  let nn ← unpackFrom (p + 16) 4 fun bs => word bs 0
  unpackFrom (p + 28) (4 * min nn 8) (words (min nn 8))

/-- Count a sub-record of the algorithm `uuid`. -/
def addAlgo (algos : List (ℕ × Algo)) (uuid ssz : ℕ) (axis : List ℕ) :
    List (ℕ × Algo) :=
  if algos.any (·.1 = uuid) then
    algos.map fun a =>
      if a.1 = uuid then
        (uuid, { a.2 with n := a.2.n + 1, bytes := a.2.bytes + ssz })
      else a
  else algos ++ [(uuid, ⟨1, ssz, axis⟩)]

/-- What is printed of a record: the stream, and the algorithms by the bytes
they take. -/
structure StreamReport where
  path : String
  nid : ℕ
  size : ℕ
  algos : List (ℕ × Algo)
  deriving DecidableEq, Repr

/-- The sub-records of a record, with their axes. -/
def forSubrecords (r : Record) : Script (List (Subrecord × List ℕ)) :=
  subrecordLayout.forEach (fun _ => true) (r.off + r.size)
    (fun p sub => do
      let axis ← unpackAxis p
      pure (sub, axis))
    (r.off + 8)

def reportStream (path : String) (r : Record) : Script StreamReport := do
  let subs ← forSubrecords r
  let algos := subs.foldl
    (fun algos sub => addAlgo algos sub.1.uuid sub.1.ssz sub.2) []
  pure
    { path := path
      nid := r.nid
      size := r.size
      algos := algos.mergeSort fun a b => decide (b.2.bytes ≤ a.2.bytes) }

def reportSection (s : Section) : Script (List StreamReport) :=
  if s.path.startsWith "LISP" then forChain (reportStream s.path) s.start s.stop
  else pure []

def cmdIsp (n : ℕ) : Script (List (List StreamReport)) :=
  forSections sectionTags reportSection n

/-! ## `decode_black_level` -/

/-- A table of black levels as it is shown, with what is shown of the gain and
of a channel. -/
structure BlackLevel (γ : Type) where
  expUs : ℕ
  again : γ
  levels : List γ
  deriving DecidableEq, Repr

section BlackLevels

variable {γ : Type} (again level : ℕ → γ)

/-- The tables from `p` on; `again` and `level` divide and round what is
shown. -/
def decodeLuts : ℕ → ℕ → Script (List (BlackLevel γ))
  | 0, _ => pure []
  | num + 1, p => do
      let (e, g) ← unpackFrom p 8 fun bs => (word bs 0, word bs 4)
      let cc ← unpackFrom (p + 8) 8 fun bs =>
        (List.range 4).map fun c => uint bs (2 * c) 2
      let out ← decodeLuts num (p + 16)
      pure (⟨e, again g, cc.map level⟩ :: out)

/-- `decode_black_level` of the record at `off`. -/
def decodeBlackLevel (off : ℕ) : Script (List (BlackLevel γ)) := do
  let num ← unpackFrom (off + 8) 4 fun bs => word bs 0
  decodeLuts again level num (off + 12)

end BlackLevels

/-! ## `main` -/

inductive Mode where
  | records
  | isp
  deriving DecidableEq, Repr

/-- `main` in the two modes that walk the sections; what is printed. -/
def decodeMain (n : ℕ) (mode : Mode) :
    Script (List Listing ⊕ List (List StreamReport)) := do
  let head ← gets fun d => slice d 0 4
  when (head ≠ ascii "CPFF") (raise .assertion)
  match mode with
  | .records => do
      let out ← cmdRecords n
      pure (.inl out)
  | .isp => do
      let out ← cmdIsp n
      pure (.inr out)

end Aiqb
end SurfaceCameras
