import SurfaceCameras.Aiqb.Decode
import SurfaceCameras.Aiqb.Edits

/-!
# What raising the noise reduction changes

Of a record of the video pipe `patch_aiqb_nr` changes the values of the eligible
parameters, and of a chain the records of the video pipe.  Both loops read the
size of an element before they change it, and so go over the elements of the
file as it was.
-/

namespace SurfaceCameras
namespace Aiqb

open Bytes Prog

/-! ## Words that are written -/

/-- A signed number as a 32-bit word. -/
def ofSigned (v : ℤ) : ℕ := (v % 2 ^ 32).toNat

section Words

variable {d : Bytes} {p n i : ℕ} {vs : List ℤ}

theorem slice_packSigned (hi : i < vs.length) :
    slice (packSigned vs) (4 * i) 4 = toLe 4 (ofSigned vs[i]) := by
  induction vs generalizing i with
  | nil => exact absurd hi (Nat.not_lt_zero i)
  | cons v vs ih =>
      have hsplit : packSigned (v :: vs) = toLe 4 (ofSigned v) ++ packSigned vs :=
        List.flatMap_cons
      rw [hsplit]
      cases i with
      | zero => simp [slice]
      | succ i =>
          have hrest := ih (Nat.lt_of_succ_lt_succ hi)
          rw [slice, List.drop_append, length_toLe, List.drop_eq_nil_of_le
            (by rw [length_toLe]; omega), List.nil_append,
            show 4 * (i + 1) - 4 = 4 * i by omega]
          exact hrest

theorem ofSigned_lt (v : ℤ) : ofSigned v < 256 ^ 4 := by
  have hlo := Int.emod_nonneg v (show (2 ^ 32 : ℤ) ≠ 0 by decide)
  have hhi := Int.emod_lt_of_pos v (show (0 : ℤ) < 2 ^ 32 by decide)
  rw [ofSigned]
  omega

theorem word_write_packSigned (hroom : p + 4 * vs.length ≤ d.length)
    (hi : i < vs.length) :
    word (write d p (packSigned vs)) (p + 4 * i) = ofSigned vs[i] := by
  have hat : At (write d p (packSigned vs)) p (packSigned vs) :=
    slice_write (by rwa [length_packSigned])
  rw [word, hat.uint_inside (by rw [length_packSigned]; omega), uint,
    slice_packSigned hi, ofLe_toLe_of_lt (ofSigned_lt _)]

theorem getElem?_words (hi : i < n) :
    (words n (slice d p (4 * n)))[i]? = some (word d (p + 4 * i)) := by
  rw [words, List.getElem?_map, List.getElem?_range hi, Option.map_some]
  exact congrArg some (uint_slice d p (by omega))

end Words

/-! ## Parameters -/

/-- The header of a sub-record as the patch reads it. -/
structure Subparam where
  p : ℕ
  ssz : ℕ
  uuid : ℕ
  n1 : ℕ
  n2 : ℕ
  npts : ℕ
  deriving DecidableEq, Repr

def paramLayout : Layout Subparam where
  len := 28
  least := 16
  read := fun p bs =>
    ⟨p, word bs 0, word bs 8, word bs 16, word bs 20, word bs 24⟩
  size := Subparam.ssz
  least_pos := subrecordLayout.least_pos

/-- The algorithm and the shape that the patch looks for. -/
def Subparam.Targeted (e : Subparam) : Prop :=
  e.uuid = targetUuid ∧ 4 ≤ e.n1 ∧ e.n2 = 1 ∧ e.npts = 1

instance (e : Subparam) : Decidable e.Targeted :=
  inferInstanceAs (Decidable (_ ∧ _ ∧ _ ∧ _))

/-- Where the values are. -/
def Subparam.vo (e : Subparam) : ℕ := e.p + 28 + 4 * e.n1 + 4 * e.n2

section Params

variable (F : Floats)

/-- The axis of a parameter, and its values. -/
def axisOf (d : Bytes) (e : Subparam) : List ℕ :=
  words e.n1 (slice d (e.p + 28) (4 * e.n1))

def valuesOf (d : Bytes) (e : Subparam) : List ℤ :=
  (words e.n1 (slice d e.vo (4 * e.n1))).map toSigned

/-- The parameter is rescaled. -/
def Rescales (d : Bytes) (e : Subparam) : Prop :=
  e.Targeted ∧ (F.nearOne ((axisOf d e).headD 0) ∧
    F.aboveTen ((axisOf d e).getLastD 0) ∧ e.vo + 4 * e.n1 ≤ e.p + e.ssz) ∧
    eligible F (valuesOf d e) (axisOf d e)

instance (d : Bytes) (e : Subparam) : Decidable (Rescales F d e) :=
  inferInstanceAs (Decidable (_ ∧ (_ ∧ _ ∧ _) ∧ _))

/-- The values that are written. -/
def newValues (d : Bytes) (e : Subparam) : List ℤ :=
  (rescale F (valuesOf d e) (axisOf d e)).getD []

/-- The edit of the parameters of `d`. -/
def paramEdit (d : Bytes) : Edit where
  span p := {i | Rescales F d (paramLayout.elem d p) ∧
    (paramLayout.elem d p).vo ≤ i ∧
    i < (paramLayout.elem d p).vo + 4 * (paramLayout.elem d p).n1}
  edited p :=
    if Rescales F d (paramLayout.elem d p) then
      write d (paramLayout.elem d p).vo
        (packSigned (newValues F d (paramLayout.elem d p)))
    else d

variable {F} {d d₁ d₂ : Bytes} {p stop : ℕ}

theorem elem_p (d : Bytes) (p : ℕ) : (paramLayout.elem d p).p = p := rfl

theorem elem_words (d : Bytes) (p : ℕ) : paramLayout.elem d p =
    ⟨p, word d p, word d (p + 8), word d (p + 16), word d (p + 20),
      word d (p + 24)⟩ := by
  have hword : ∀ k, k + 4 ≤ 28 → word (slice d p 28) k = word d (p + k) :=
    fun k hk => uint_slice d p hk
  have hread : paramLayout.elem d p = paramLayout.read p (slice d p 28) := rfl
  rw [hread, paramLayout]
  dsimp only
  rw [hword 0 (by decide), hword 8 (by decide), hword 16 (by decide),
    hword 20 (by decide), hword 24 (by decide), Nat.add_zero]

theorem Rescales.inside (h : Rescales F d (paramLayout.elem d p)) :
    (paramLayout.elem d p).vo = p + 32 + 4 * (paramLayout.elem d p).n1 ∧
      4 ≤ (paramLayout.elem d p).n1 ∧
      (paramLayout.elem d p).vo + 4 * (paramLayout.elem d p).n1 ≤
        paramLayout.after d p := by
  obtain ⟨⟨-, hn1, hn2, -⟩, ⟨-, -, hroom⟩, -⟩ := h
  rw [elem_p] at hroom
  refine ⟨?_, hn1, hroom⟩
  rw [Subparam.vo, elem_p, hn2]
  omega

theorem paramEdit_inside (start : ℕ) :
    paramLayout.EditsInside (fun _ => true) stop d start (paramEdit F d) := by
  rintro p - i ⟨hrescales, hlo, hhi⟩
  obtain ⟨hvo, -, hroom⟩ := hrescales.inside
  exact ⟨by omega, by omega⟩

theorem length_rescale_eq {vals new : List ℤ} {ax : List ℕ}
    (h : rescale F vals ax = some new) :
    new.length = min vals.length ax.length := by
  induction vals generalizing ax new with
  | nil =>
      obtain rfl : [] = new := Option.some.inj h
      simp
  | cons v vals ih =>
      cases ax with
      | nil =>
          obtain rfl : [] = new := Option.some.inj h
          simp
      | cons x ax =>
          obtain ⟨v', -, hrest⟩ := Option.bind_eq_some_iff.mp h
          obtain ⟨rest, htail, rfl⟩ := Option.map_eq_some_iff.mp hrest
          simp [ih htail]

theorem length_words (n : ℕ) (bs : Bytes) : (words n bs).length = n := by
  simp [words]

theorem length_axisOf (d : Bytes) (e : Subparam) : (axisOf d e).length = e.n1 :=
  length_words _ _

theorem length_valuesOf (d : Bytes) (e : Subparam) :
    (valuesOf d e).length = e.n1 := by
  rw [valuesOf, List.length_map, length_words]

/-- The sub-record at `p` is edited. -/
theorem patchParam_edits {new : List Patched} {e : Subparam}
    (htarget : e.Targeted)
    (h : patchParam F e.p e.ssz e.n1 e.n2 d = (.ok new, d₁)) :
    (Rescales F d e ∧ e.vo + 4 * e.n1 ≤ d.length ∧
        rescale F (valuesOf d e) (axisOf d e) = some (newValues F d e) ∧
        (∀ v ∈ newValues F d e, -2 ^ 31 ≤ v ∧ v < 2 ^ 31) ∧
        d₁ = write d e.vo (packSigned (newValues F d e))) ∨
      (¬ Rescales F d e ∧ d₁ = d) := by
  obtain ⟨ax, d', hread, h⟩ := bind_eq_ok h
  obtain ⟨-, rfl, rfl⟩ := unpackFrom_eq_ok hread
  dsimp only at h
  split at h
  case isFalse hroom =>
    obtain ⟨-, rfl⟩ := Prod.mk.inj h
    exact .inr ⟨fun hr => hroom hr.2.1, rfl⟩
  case isTrue hroom =>
    obtain ⟨vals, d', hread, h⟩ := bind_eq_ok h
    obtain ⟨hinside, rfl, rfl⟩ := unpackFrom_eq_ok hread
    split at h
    case isFalse heligible =>
      obtain ⟨-, rfl⟩ := Prod.mk.inj h
      exact .inr ⟨fun hr => heligible hr.2.2, rfl⟩
    case isTrue heligible =>
      have hrescales : Rescales F d e := ⟨htarget, hroom, heligible⟩
      obtain ⟨vs, hnew, h⟩ := rescaled_eq_ok h
      have hnew : rescale F (valuesOf d e) (axisOf d e) = some vs := hnew
      obtain ⟨⟨⟩, d', hpack, hend⟩ := bind_eq_ok h
      obtain ⟨-, rfl⟩ := Prod.mk.inj hend
      obtain ⟨⟨⟩, d', hguard, hwrite⟩ := bind_eq_ok hpack
      obtain ⟨hfits, rfl⟩ := when_raise_ok hguard
      have hvs : newValues F d e = vs := by rw [newValues, hnew]; rfl
      have hlen : (packSigned vs).length = 4 * e.n1 := by
        rw [length_packSigned, length_rescale_eq hnew, length_axisOf,
          length_valuesOf, min_self]
      rw [packInto_ok (by rw [hlen]; exact hinside)] at hwrite
      obtain ⟨-, rfl⟩ := Prod.mk.inj hwrite
      rw [hvs]
      exact .inl ⟨hrescales, hinside, hnew, not_not.mp hfits, rfl⟩

/-! ### What an edit depends on -/

/-- An edit does not depend on what precedes its element. -/
theorem paramEdit_ahead (h : AgreeOn (Set.Ici p) d d₁) :
    paramLayout.elem d₁ p = paramLayout.elem d p ∧
      (Rescales F d₁ (paramLayout.elem d p) ↔
        Rescales F d (paramLayout.elem d p)) ∧
      newValues F d₁ (paramLayout.elem d p) =
        newValues F d (paramLayout.elem d p) := by
  have hslice : ∀ {k m}, p ≤ k → slice d₁ k m = slice d k m := fun hk =>
    (h.slice_eq fun i hi _ => hk.trans hi).symm
  have hax : axisOf d₁ (paramLayout.elem d p) =
      axisOf d (paramLayout.elem d p) := by
    rw [axisOf, axisOf, elem_p, hslice (Nat.le_add_right p 28)]
  have hvals : valuesOf d₁ (paramLayout.elem d p) =
      valuesOf d (paramLayout.elem d p) := by
    have hvo : p ≤ (paramLayout.elem d p).vo := by
      rw [Subparam.vo, elem_p]
      omega
    rw [valuesOf, valuesOf, hslice hvo]
  refine ⟨congrArg (paramLayout.read p) (hslice le_rfl), ?_, ?_⟩
  · rw [Rescales, Rescales, hax, hvals]
  · rw [newValues, newValues, hax, hvals]

/-- What is done to the sub-record at `p`, when the loop comes to it. -/
theorem patchParam_step {new : List Patched}
    (hahead : AgreeOn (Set.Ici p) d d₁)
    (h : (if (paramLayout.elem d p).Targeted then
        patchParam F p (paramLayout.elem d p).ssz (paramLayout.elem d p).n1
          (paramLayout.elem d p).n2
      else pure [] : Script (List Patched)) d₁ = (.ok new, d₂)) :
    AgreeOn ((paramEdit F d).span p)ᶜ d₁ d₂ ∧
      AgreeOn (Set.Ico p (paramLayout.after d p)) ((paramEdit F d).edited p)
        d₂ := by
  have hinto : AgreeOn (Set.Ico p (paramLayout.after d p)) d d₁ :=
    hahead.mono fun i hi => hi.1
  obtain ⟨-, hrescales, hvalues⟩ := paramEdit_ahead (F := F) hahead
  have hsame : ¬ Rescales F d (paramLayout.elem d p) → d₂ = d₁ →
      AgreeOn ((paramEdit F d).span p)ᶜ d₁ d₂ ∧
        AgreeOn (Set.Ico p (paramLayout.after d p)) ((paramEdit F d).edited p)
          d₂ := by
    rintro hnot rfl
    have hedited : (paramEdit F d).edited p = d := if_neg hnot
    rw [hedited]
    exact ⟨AgreeOn.refl _ d₂, hinto⟩
  by_cases htarget : (paramLayout.elem d p).Targeted
  · rw [if_pos htarget] at h
    obtain ⟨hr, hroom, hnew, -, rfl⟩ | ⟨hnot, hstate⟩ := patchParam_edits htarget h
    · rw [hvalues] at hnew ⊢
      have hedited : (paramEdit F d).edited p = write d (paramLayout.elem d p).vo
          (packSigned (newValues F d (paramLayout.elem d p))) :=
        if_pos (hrescales.mp hr)
      have hlen : (packSigned (newValues F d (paramLayout.elem d p))).length =
          4 * (paramLayout.elem d p).n1 := by
        rw [length_packSigned, length_rescale_eq hnew, length_axisOf,
          length_valuesOf, min_self]
      rw [hedited]
      refine ⟨(AgreeOn.refl _ d₁).write (by rwa [hlen]) fun i hi hspan => hi ?_, ?_⟩
      · rw [hlen] at hspan
        exact ⟨hrescales.mp hr, hspan⟩
      · exact hinto.write_both (by rw [hlen, hahead.length]; exact hroom)
    · exact hsame (fun hr => hnot (hrescales.mpr hr)) hstate
  · rw [if_neg htarget] at h
    exact hsame (fun hr => htarget hr.1) (Prod.mk.inj h).2.symm

end Params

/-! ## Records -/

section Records

variable {F : Floats} {d : Bytes} {p stop : ℕ}

theorem unpackFrom_at {α : Type} {q n : ℕ} {fields : Bytes → α}
    {P : Bytes → Prop} :
    Triple P (unpackFrom q n fields)
      (fun a d => P d ∧ q + n ≤ d.length ∧ a = fields (slice d q n))
      (fun _ _ => True) := by
  intro d hd
  by_cases hin : q + n ≤ d.length
  · rw [unpackFrom_ok fields hin]
    exact ⟨hd, hin, rfl⟩
  · rw [unpackFrom_error fields (Nat.lt_of_not_le hin)]
    trivial

/-- The parameters of a record are edited. -/
theorem patchRecord_edits (F : Floats) (n : ℕ) (d : Bytes) (p stop : ℕ) :
    Triple (· = d) (patchRecord F n p stop)
      (fun _ d' => paramLayout.AllEdited (fun _ => true) stop d p (paramEdit F d) d')
      (fun _ _ => True) := by
  let J : ℕ × List Patched → Bytes → Prop := fun v d₁ =>
    paramLayout.Reaches (fun _ => true) stop d p v.1 ∧
      paramLayout.EditedTo (fun _ => true) stop d p (paramEdit F d) v.1 d₁
  have hloop : Triple (J (p, [])) (patchRecord F n p stop)
      (fun _ d' => paramLayout.AllEdited (fun _ => true) stop d p (paramEdit F d) d')
      (fun _ _ => True) := by
    refine Triple.iterate (I := J) ?_ (fun _ _ _ => trivial) n _
    rintro ⟨q, acc⟩
    refine Triple.ite (fun hroom => ?_) fun hroom => Triple.pure fun d₁ hJ =>
      hJ.2.all hJ.1 fun hgo => hroom hgo.room
    refine Triple.bind unpackFrom_at ?_
    rintro ⟨ssz, uuid⟩
    refine Triple.ite (fun hsize => ?_) fun hsize => ?_
    · refine Triple.pure fun d₁ ⟨hJ, hin, hhead⟩ => hJ.2.all hJ.1 fun hgo => ?_
      have hsame : paramLayout.size (paramLayout.elem d q) = ssz := by
        rw [← (paramEdit_ahead (F := F) (hJ.2.ahead (paramEdit_inside p))).1,
          elem_words, (Prod.mk.inj hhead).1]
        exact (uint_slice d₁ q (q := 0) (m := 4) (n := 16) (by decide)).symm
      obtain ⟨hleast, hlimit, -⟩ := hgo.taken
      change 16 ≤ _ at hleast
      rw [hsame] at hleast hlimit
      omega
    · refine Triple.bind unpackFrom_at ?_
      rintro ⟨n1, n2, npts⟩ d₁ ⟨⟨hJ, hin, hhead⟩, hin', hhead'⟩
      have hahead := hJ.2.ahead (paramEdit_inside p)
      have helem : paramLayout.elem d q = ⟨q, ssz, uuid, n1, n2, npts⟩ := by
        rw [← (paramEdit_ahead (F := F) hahead).1]
        have hword : ∀ {k}, k + 4 ≤ 16 →
            word (slice d₁ q 16) k = word d₁ (q + k) := uint_slice d₁ q
        have hword' : ∀ {k}, k + 4 ≤ 12 → word (slice d₁ (q + 16) 12) k =
            word d₁ (q + 16 + k) := uint_slice d₁ (q + 16)
        simp only [Prod.mk.injEq] at hhead hhead'
        obtain ⟨hssz, huuid⟩ := hhead
        obtain ⟨hn1, hn2, hnpts⟩ := hhead'
        rw [elem_words, hssz, huuid, hn1, hn2, hnpts, hword (by decide),
          hword (by decide), hword' (by decide), hword' (by decide),
          hword' (by decide)]
        rfl
      have hgo : paramLayout.Goes (fun _ => true) stop d q := by
        refine ⟨hroom, ?_, ?_⟩
        · rw [hahead.length]
          exact hin'
        · rw [helem]
          obtain ⟨hleast, hlimit⟩ := not_or.mp hsize
          exact ⟨Nat.le_of_not_lt hleast, Nat.le_of_not_lt hlimit, rfl⟩
      have hafter : paramLayout.after d q = q + ssz := by
        rw [Layout.after, helem]
        rfl
      have hnext := hJ.1.next hgo
      rw [helem] at hnext
      change Post _ _ (((if uuid = targetUuid ∧ 4 ≤ n1 ∧ n2 = 1 ∧ npts = 1 then
          patchParam F q ssz n1 n2 else pure [] : Script (List Patched)) >>=
        fun new => pure (Sum.inl (q + ssz, acc ++ new))) d₁)
      rcases hstep : (if uuid = targetUuid ∧ 4 ≤ n1 ∧ n2 = 1 ∧ npts = 1 then
          patchParam F q ssz n1 n2 else pure [] : Script (List Patched)) d₁
        with ⟨e | new, d₂⟩
      · rw [bind_error hstep]
        trivial
      · rw [bind_ok hstep]
        have hstep' : (if (paramLayout.elem d q).Targeted then
            patchParam F q (paramLayout.elem d q).ssz (paramLayout.elem d q).n1
              (paramLayout.elem d q).n2
          else pure [] : Script (List Patched)) d₁ = (.ok new, d₂) := by
          rw [helem]
          exact hstep
        have hedit := patchParam_step hahead hstep'
        have hdone := hJ.2.next (paramEdit_inside p) ⟨hJ.1, hgo⟩ hedit.1 hedit.2
        rw [hafter] at hdone
        exact ⟨hnext, hdone⟩
  rintro _ rfl
  exact hloop _ ⟨.start, .refl⟩

end Records


/-! ## Chains -/

section Chains

variable (F : Floats) (n : ℕ) (d : Bytes) (start stop : ℕ)

/-- `p` is a parameter of the record at `off`. -/
def ParamOf (off p : ℕ) : Prop :=
  (recordLayout.elem d off).nid = stream ∧
    paramLayout.On (fun _ => true) (recordLayout.after d off) d (off + 8) p

/-- What the patch does with the record at `off`. -/
def recordParams (off : ℕ) : Script (List Patched) :=
  if (recordLayout.elem d off).nid = stream then
    patchRecord F n (off + 8) (recordLayout.after d off)
  else pure []

/-- The edit of the records of `d`. -/
def recordEdit : Edit where
  span off := {i | ∃ p, ParamOf d off p ∧ i ∈ (paramEdit F d).span p}
  edited off := (recordParams F n d off d).2

/-- The parameters of the records of the video pipe were edited, and nothing
else. -/
structure ChainEdited (d' : Bytes) : Prop where
  kept : AgreeOn {i | ∀ off, recordLayout.On (fun _ => true) stop d start off →
    ∀ p, ParamOf d off p → i ∉ (paramEdit F d).span p} d d'
  done : ∀ off, recordLayout.On (fun _ => true) stop d start off →
    ∀ p, ParamOf d off p → AgreeOn (Set.Ico p (paramLayout.after d p))
      ((paramEdit F d).edited p) d'

variable {F n d start stop} {d₁ d₂ : Bytes} {off p : ℕ}

theorem ParamOf.inside (h : ParamOf d off p) :
    off + 8 ≤ p ∧ paramLayout.after d p ≤ recordLayout.after d off :=
  ⟨h.2.start_le, h.2.le_limit⟩

theorem recordEdit_inside :
    recordLayout.EditsInside (fun _ => true) stop d start (recordEdit F n d) := by
  rintro off - i ⟨p, hp, hspan⟩
  obtain ⟨hlo, hhi⟩ := paramEdit_inside (F := F) _ p hp.2 i hspan
  obtain ⟨hstart, hend⟩ := hp.inside
  exact ⟨by omega, by omega⟩

/-- What the patch does with a record, when the loop comes to it. -/
theorem recordParams_step {new : List Patched}
    (hahead : AgreeOn (Set.Ici off) d d₁)
    (h : recordParams F n d off d₁ = (.ok new, d₂)) :
    AgreeOn ((recordEdit F n d).span off)ᶜ d₁ d₂ ∧
      AgreeOn (Set.Ico off (recordLayout.after d off))
        ((recordEdit F n d).edited off) d₂ ∧
      ∃ d', recordParams F n d off d = (.ok new, d') := by
  by_cases hstream : (recordLayout.elem d off).nid = stream
  · rw [recordParams, if_pos hstream] at h ⊢
    -- Alone, the record is edited in the same way.
    have hreads : Relates (AgreeOn (Set.Ici off)) (fun _ => True)
        (patchRecord F n (off + 8) (recordLayout.after d off)) :=
      patchRecord_relates fun i hi => (Nat.le_add_right off 8).trans hi
    have hsame := hreads d d₁ hahead
    rw [h] at hsame
    obtain ⟨d', hd'⟩ : ∃ d', patchRecord F n (off + 8) (recordLayout.after d off)
        d = (.ok new, d') :=
      ⟨(patchRecord F n (off + 8) (recordLayout.after d off) d).2,
        eq_ok hsame.1⟩
    have hedited : (recordEdit F n d).edited off = d' := by
      change (recordParams F n d off d).2 = d'
      rw [recordParams, if_pos hstream, hd']
    have hafter : AgreeOn (Set.Ici off) d' d₂ := by
      have hrel := hsame.2.1
      rwa [hd'] at hrel
    have hall := patchRecord_edits F n d (off + 8) (recordLayout.after d off) d rfl
    rw [hd'] at hall
    refine ⟨?_, ?_, d', hd'⟩
    · -- Before the record nothing changes, and from it on as in `d`.
      have hbefore : AgreeOn (Set.Iio off) d₁ d₂ := by
        have hwrites : Triple (AgreeOn (Set.Iio off) d₁)
            (patchRecord F n (off + 8) (recordLayout.after d off))
            (fun _ => AgreeOn (Set.Iio off) d₁)
            (fun _ => AgreeOn (Set.Iio off) d₁) :=
          patchRecord_spec fun i hi hin => by
            have hi : i < off := hi
            omega
        have hspec := hwrites d₁ (AgreeOn.refl _ d₁)
        rw [h] at hspec
        exact hspec
      have hfrom : AgreeOn {i | off ≤ i ∧ i ∉ (recordEdit F n d).span off}
          d₁ d₂ := by
        refine (hahead.symm.mono fun i hi => hi.1).trans ?_
        refine AgreeOn.trans (hall.kept.mono fun i hi p hp hspan => hi.2 ?_)
          (hafter.mono fun i hi => hi.1)
        exact ⟨p, ⟨hstream, hp⟩, hspan⟩
      refine ⟨hbefore.length, fun i hi => ?_⟩
      obtain hlo | hhi := Nat.lt_or_ge i off
      · exact hbefore.get i hlo
      · exact hfrom.get i ⟨hhi, hi⟩
    · rw [hedited]
      exact hafter.mono fun i hi => hi.1
  · rw [recordParams, if_neg hstream] at h ⊢
    obtain ⟨hnew, rfl⟩ := Prod.mk.inj h
    have hedited : (recordEdit F n d).edited off = d := by
      change (recordParams F n d off d).2 = d
      rw [recordParams, if_neg hstream]
      rfl
    rw [hedited]
    exact ⟨AgreeOn.refl _ d₁, hahead.mono fun i hi => hi.1, d, by
      rw [← hnew]
      rfl⟩

/-- The parameters of a chain are edited. -/
theorem patchChain_edits (F : Floats) (n : ℕ) (d : Bytes) (start stop : ℕ) :
    Triple (· = d) (patchChain F n start stop)
      (fun _ d' => ChainEdited F d start stop d') (fun _ _ => True) := by
  let Fine : ℕ → Prop := fun q =>
    ∀ off, recordLayout.On (fun _ => true) stop d start off →
      recordLayout.after d off ≤ q →
        ∃ new d', recordParams F n d off d = (.ok new, d')
  let J : ℕ × List Patched → Bytes → Prop := fun v d₁ =>
    recordLayout.Reaches (fun _ => true) stop d start v.1 ∧
      recordLayout.EditedTo (fun _ => true) stop d start (recordEdit F n d) v.1
        d₁ ∧ Fine v.1
  have hend : ∀ q acc d₁, J (q, acc) d₁ →
      ¬ recordLayout.Goes (fun _ => true) stop d q →
        ChainEdited F d start stop d₁ := by
    rintro q acc d₁ ⟨hq, hdone, hfine⟩ hnot
    have hall := hdone.all hq hnot
    refine ⟨hall.kept.mono fun i hi off hoff hspan => ?_, fun off hoff p hp => ?_⟩
    · obtain ⟨p, hp, hspan⟩ := hspan
      exact hi off hoff p hp hspan
    · obtain ⟨new, d', hrun⟩ := hfine off hoff (hoff.after_le hq hnot)
      have hrecord := hall.done off hoff
      have hedited : (recordEdit F n d).edited off = d' := by
        change (recordParams F n d off d).2 = d'
        rw [hrun]
      rw [recordParams, if_pos hp.1] at hrun
      have hparams :=
        patchRecord_edits F n d (off + 8) (recordLayout.after d off) d rfl
      rw [hrun] at hparams
      rw [hedited] at hrecord
      obtain ⟨hstart, hstop⟩ := hp.inside
      exact (hparams.done p hp.2).trans (hrecord.mono fun i hi =>
        ⟨by have hlo := hi.1; omega, hi.2.trans_le hstop⟩)
  have hloop : Triple (J (start, [])) (patchChain F n start stop)
      (fun _ d' => ChainEdited F d start stop d') (fun _ _ => True) := by
    refine Triple.iterate (I := J) ?_ (fun _ _ _ => trivial) n _
    rintro ⟨q, acc⟩
    refine Triple.ite (fun hroom => ?_) fun hroom => Triple.pure fun d₁ hJ =>
      hend q acc d₁ hJ fun hgo => hroom hgo.room
    refine Triple.bind unpackFrom_at ?_
    rintro ⟨rsize, nid⟩
    have hread : ∀ d₁, AgreeOn (Set.Ici q) d d₁ →
        (rsize, nid) = (word (slice d₁ q 8) 0, uint (slice d₁ q 8) 6 2) →
          (recordLayout.elem d q).size = rsize ∧
            (recordLayout.elem d q).nid = nid := by
      intro d₁ hahead hhead
      obtain ⟨rfl, rfl⟩ := Prod.mk.inj hhead
      have helem : recordLayout.elem d q = recordLayout.elem d₁ q :=
        congrArg (recordLayout.read q) (hahead.slice_eq fun i hi _ => hi)
      rw [helem]
      exact ⟨rfl, rfl⟩
    refine Triple.ite (fun hbad => ?_) fun hsize => ?_
    · refine Triple.pure fun d₁ ⟨hJ, hin, hhead⟩ => hend q acc d₁ hJ fun hgo => ?_
      obtain ⟨hrsize, -⟩ := hread d₁ (hJ.2.1.ahead recordEdit_inside) hhead
      obtain ⟨hleast, hlimit, -⟩ := hgo.taken
      change 8 ≤ (recordLayout.elem d q).size at hleast
      change q + (recordLayout.elem d q).size ≤ stop at hlimit
      rw [hrsize] at hleast hlimit
      omega
    · rintro d₁ ⟨hJ, hin, hhead⟩
      have hahead := hJ.2.1.ahead recordEdit_inside
      obtain ⟨hrsize, hnid⟩ := hread d₁ hahead hhead
      obtain ⟨hleast, hlimit⟩ := not_or.mp hsize
      have hgo : recordLayout.Goes (fun _ => true) stop d q := by
        refine ⟨hroom, ?_, ?_, ?_, rfl⟩
        · rw [hahead.length]
          exact hin
        · change 8 ≤ (recordLayout.elem d q).size
          rw [hrsize]
          exact Nat.le_of_not_lt hleast
        · change q + (recordLayout.elem d q).size ≤ stop
          rw [hrsize]
          exact Nat.le_of_not_lt hlimit
      have hafter : recordLayout.after d q = q + rsize := by
        rw [← hrsize]
        rfl
      have hon : recordLayout.On (fun _ => true) stop d start q := ⟨hJ.1, hgo⟩
      change Post _ _ (((if nid = stream then patchRecord F n (q + 8) (q + rsize)
          else pure [] : Script (List Patched)) >>=
        fun new => pure (Sum.inl (q + rsize, acc ++ new))) d₁)
      rw [← hnid, ← hafter]
      rcases hstep : recordParams F n d q d₁ with ⟨e | new, d₂⟩
      · rw [recordParams] at hstep
        rw [bind_error hstep]
        trivial
      · obtain ⟨hkeep, hdone, hfine⟩ := recordParams_step hahead hstep
        rw [recordParams] at hstep
        rw [bind_ok hstep]
        refine ⟨hJ.1.next hgo,
          hJ.2.1.next recordEdit_inside hon hkeep hdone, ?_⟩
        intro off hoff hle
        obtain rfl | hbefore | hlater := hoff.trichotomy hon
        · exact ⟨new, hfine⟩
        · exact hJ.2.2 off hoff hbefore
        · have hadvances := hoff.advances
          change recordLayout.after d off ≤ recordLayout.after d q at hle
          omega
  rintro _ rfl
  refine hloop _ ⟨.start, .refl, fun off hoff hle => ?_⟩
  have hstart := hoff.start_le
  have hadvances := hoff.advances
  omega

end Chains

end Aiqb
end SurfaceCameras
