import SurfaceCameras.Aiqb.Decode
import Mathlib.Algebra.Order.Field.Rat

/-!
# Decoding the calibration

Besides listing records, `decode_aiqb` shows what the records of the first chain
say of the sensor: the noise model, the black level and the gains (`--noise`),
or the colour matrices of each light source.

The walk of these modes is not bounded by a section, and what is read of a
record is not bounded by the record.  A fraction with a power of two below it
is exact; of the other floating-point arithmetic only the results are used, and
it is a parameter.
-/

namespace SurfaceCameras
namespace Aiqb

open Bytes Prog

/-- How `decode_aiqb` ends without finishing: as a script does, by an index
outside the file, or by an error of the floating-point arithmetic. -/
inductive Failure where
  | script (e : Stop)
  | indexError
  | arithmetic
  deriving DecidableEq, Repr

abbrev Decoder : Type → Type := Prog Bytes Failure

/-- A script as a part of the decoder. -/
def lift {α : Type} (q : Script α) : Decoder α := fun d =>
  match q d with
  | (.ok a, d') => (.ok a, d')
  | (.error e, d') => (.error (.script e), d')

/-- `d[p]` -/
def byteAt (p : ℕ) : Decoder ℕ := do
  let byte ← gets fun d => d[p]?
  match byte with
  | none => raise .indexError
  | some b => pure b.toNat

/-- What was computed, unless that raised. -/
def computed {α : Type} : Option α → Decoder α
  | none => raise .arithmetic
  | some a => pure a

/-- The signed number in a 16-bit word. -/
def toSigned16 (v : ℕ) : ℤ := if v < 2 ^ 15 then v else v - 2 ^ 16

/-! ## `--noise` -/

structure GeneralData where
  w : ℕ
  h : ℕ
  bitDepth : ℕ
  bitDepthPacked : ℕ
  deriving DecidableEq, Repr

/-- The coefficients of the noise, each as the bits of a 32-bit float. -/
structure NoiseModel where
  c1Prnu2 : ℕ
  c2Shot : ℕ
  c3 : ℕ
  c4 : ℕ
  c5 : ℕ
  deriving DecidableEq, Repr

/-- A range of analog gains and the codes for it. -/
structure Segment where
  gain : ℚ × ℚ
  code : ℕ × ℕ
  step : ℕ
  m0c0m1c1 : List ℤ
  deriving DecidableEq, Repr

structure AnalogGains where
  type : ℕ
  segments : List Segment
  deriving DecidableEq, Repr

structure DigitalGains where
  minCode : ℕ
  maxCode : ℕ
  step : ℕ
  fractionBits : ℕ
  rangeX : ℚ × ℚ
  deriving DecidableEq, Repr

/-- What is printed of the noise. -/
structure NoiseReport (γ : Type) where
  general : Option GeneralData
  baseIso : Option ℕ
  noiseModel : Option NoiseModel
  blackLevel : Option (List (BlackLevel γ))
  analog : Option AnalogGains
  digital : Option DigitalGains
  deriving DecidableEq, Repr

/-- `offs.get(nid)`: a later record replaces an earlier one. -/
def offOf (nid : ℕ) (rs : List Record) : Option ℕ :=
  rs.foldl (fun off r => if r.nid = nid then some r.off else off) none

/-- Decode the record at an offset, if there is one. -/
def decodeAt {α : Type} (decode : ℕ → Decoder α) :
    Option ℕ → Decoder (Option α)
  | none => pure none
  | some off => do
      let a ← decode off
      pure (some a)

def decodeGeneral (off : ℕ) : Decoder GeneralData :=
  lift (unpackFrom (off + 8) 10 fun bs =>
    ⟨uint bs 0 2, uint bs 2 2, uint bs 4 2, uint bs 8 2⟩)

def decodeBaseIso (off : ℕ) : Decoder ℕ :=
  lift (unpackFrom (off + 8) 2 fun bs => uint bs 0 2)

def decodeNoiseModel (off : ℕ) : Decoder NoiseModel :=
  lift (unpackFrom (off + 8) 20 fun bs =>
    ⟨word bs 0, word bs 4, word bs 8, word bs 12, word bs 16⟩)

/-- `g / 65536` -/
def q16 (g : ℕ) : ℚ := (g : ℚ) / (2 ^ 16 : ℕ)

def decodeSegment (p : ℕ) : Decoder Segment := do
  let (gain, code, step) ← lift (unpackFrom p 20 fun bs =>
    ((q16 (word bs 0), q16 (word bs 4)), (word bs 8, word bs 12), word bs 16))
  let m0c0m1c1 ← lift (unpackFrom (p + 20) 8 fun bs =>
    (List.range 4).map fun c => toSigned16 (uint bs (2 * c) 2))
  pure ⟨gain, code, step, m0c0m1c1⟩

/-- `num` elements, the first one at `p` and each `stride` bytes after the one
before. -/
def decodeMany {α : Type} (decode : ℕ → Decoder α) (stride : ℕ) :
    ℕ → ℕ → Decoder (List α)
  | 0, _ => pure []
  | num + 1, p => do
      let a ← decode p
      let out ← decodeMany decode stride num (p + stride)
      pure (a :: out)

/-- The analog part of `decode_gain_conversions`. -/
def decodeAnalog (off : ℕ) : Decoder AnalogGains := do
  let (ct, nseg) ← lift (unpackFrom (off + 8) 8 fun bs =>
    (uint bs 0 2, uint bs 4 2))
  let segs ← decodeMany decodeSegment 28 nseg (off + 16)
  pure ⟨ct, segs⟩

/-- The digital part of `decode_gain_conversions`. -/
def decodeDigital (off : ℕ) : Decoder DigitalGains := do
  let (dmin, dmax) ← lift (unpackFrom (off + 8) 4 fun bs =>
    (uint bs 0 2, uint bs 2 2))
  let step ← byteAt (off + 12)
  let frac ← byteAt (off + 13)
  pure ⟨dmin, dmax, step, frac,
    ((dmin : ℚ) / (2 ^ frac : ℕ), (dmax : ℚ) / (2 ^ frac : ℕ))⟩

/-- An offset of zero counts as none. -/
def truthy (off : Option ℕ) : Option ℕ := off.filter fun p => decide (p ≠ 0)

section Reports

variable {γ : Type} (again level : ℕ → γ)

def cmdNoise : Decoder (NoiseReport γ) := do
  let rs ← lift (walkRecords 0x50)
  let general ← decodeAt decodeGeneral (offOf 2 rs)
  let baseIso ← decodeAt decodeBaseIso (offOf 7 rs)
  let noiseModel ← decodeAt decodeNoiseModel (offOf 9 rs)
  let blackLevel ← decodeAt
    (fun off => lift (decodeBlackLevel again level off)) (offOf 3 rs)
  let analog ← decodeAt decodeAnalog (truthy (offOf 19 rs))
  let digital ← decodeAt decodeDigital (truthy (offOf 20 rs))
  pure ⟨general, baseIso, noiseModel, blackLevel, analog, digital⟩

/-! ## Colour matrices -/

/-- What is computed of floats, which are given by their bits. -/
structure Shown (γ : Type) where
  /-- `round(mccamy_cct(x, y))`, unless it raises. -/
  cct : ℕ → ℕ → Option ℤ
  /-- `round(v, 4)` -/
  round4 : ℕ → γ
  /-- `round(1 / v, 4)`, unless it raises. -/
  inverse : ℕ → Option γ

structure LightSource (γ : Type) where
  src : String
  cct : ℤ
  rpg : γ
  bpg : γ
  awbGains : γ × γ
  ccm : List γ
  deriving DecidableEq, Repr

/-- `LS` -/
def lsNames : List String :=
  ["none", "A/tungsten", "B", "C", "D50", "D55", "D65", "D75", "E", "F1",
    "F2/coolwhite", "F3", "F4/warmwhite", "F5", "F6", "F7/D65sim", "F8", "F9",
    "F10", "F11/TL84", "F12"]

variable (shown : Shown γ)

def decodeLight (p : ℕ) : Decoder (LightSource γ) := do
  let src ← lift (unpackFrom p 4 fun bs => word bs 0)
  let (rg, bg, cx, cy) ← lift (unpackFrom (p + 4) 16 fun bs =>
    (word bs 0, word bs 4, word bs 8, word bs 12))
  let trad ← lift (unpackFrom (p + 20) 36 (words 9))
  let cct ← computed (shown.cct cx cy)
  let rgain ← computed (shown.inverse rg)
  let bgain ← computed (shown.inverse bg)
  pure
    { src := lsNames.getD src (toString src)
      cct := cct
      rpg := shown.round4 rg
      bpg := shown.round4 bg
      awbGains := (rgain, bgain)
      ccm := trad.map shown.round4 }

/-- `decode_advanced_ccm` of the record at `off`. -/
def decodeAdvancedCcm (off : ℕ) : Decoder (List (LightSource γ)) := do
  let (nls, nsec) ← lift (unpackFrom (off + 8) 4 fun bs =>
    (uint bs 0 2, uint bs 2 2))
  let out ← decodeMany (decodeLight shown) (56 + 36 * nsec) nls
    (off + 12 + 4 * nsec)
  pure (out.mergeSort fun a b => decide (a.cct ≤ b.cct))

/-- The first record with colour matrices is decoded; without one the decoder
exits. -/
def cmdColours : Decoder (Option (List (LightSource γ))) := do
  let rs ← lift (walkRecords 0x50)
  decodeAt (decodeAdvancedCcm shown)
    ((rs.find? fun r => decide (r.nid = 25)).map Record.off)

/-! ## `main` in all its modes -/

inductive Command where
  | records
  | isp
  | noise
  | colours
  deriving DecidableEq, Repr

inductive Report (γ : Type) where
  | records (listings : List Listing)
  | isp (streams : List (List StreamReport))
  | noise (report : NoiseReport γ)
  | colours (lights : Option (List (LightSource γ)))
  deriving DecidableEq, Repr

/-- `main` in the mode that the command line asks for; what is printed. -/
def decodeFile (n : ℕ) (command : Command) : Decoder (Report γ) := do
  let head ← gets fun d => slice d 0 4
  when (head ≠ ascii "CPFF") (raise (.script .assertion))
  match command with
  | .records => do
      let out ← lift (cmdRecords n)
      pure (.records out)
  | .isp => do
      let out ← lift (cmdIsp n)
      pure (.isp out)
  | .noise => do
      let out ← cmdNoise again level
      pure (.noise out)
  | .colours => do
      let out ← cmdColours shown
      pure (.colours out)

end Reports

end Aiqb
end SurfaceCameras
