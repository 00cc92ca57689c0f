import SurfaceCameras.Aiqb.BlackLevel

/-!
# What rescaling the black level changes

Every loop of the patch works on bytes of its own: a field on its bytes, a
table on its fields.  How many tables there are is read from the file, so that
the tables of a record may reach beyond the record.  Where they do not, the
patch changes nothing but black levels and checksums.
-/

namespace SurfaceCameras
namespace Aiqb

open Bytes Prog

/-! ## Records -/

/-- The loop over the records comes to the record at `q`. -/
def Walked (d : Bytes) (q : ℕ) : Prop :=
  recordLayout.Reaches knownName d.length d 0x50 q ∧
    recordLayout.Goes knownName d.length d q

/-- The number of tables that a record says it has. -/
def numAt (d : Bytes) (q : ℕ) : ℕ := word d (q + 8)

/-- The name of the record at `q`. -/
def nidAt (d : Bytes) (q : ℕ) : ℕ := (recordLayout.elem d q).nid

/-- The size of the record at `q`. -/
def sizeAt (d : Bytes) (q : ℕ) : ℕ := (recordLayout.elem d q).size

/-- The tables of a black level are inside its record. -/
def LutsInside (d : Bytes) : Prop :=
  ∀ q, Walked d q →
    (nidAt d q = 3 → numAt d q = 0 ∨ 12 + 16 * numAt d q ≤ sizeAt d q) ∧
      (nidAt d q = 31 → numAt d q = 0 ∨ 24 + 72 * numAt d q ≤ sizeAt d q)

/-- The bytes that rescaling the record at `q` may change. -/
def recordSpan (d : Bytes) (q : ℕ) : Set ℕ :=
  {i | nidAt d q = 3 ∧ i ∈ levelSpan (q + 8) (numAt d q) ∨
    nidAt d q = 31 ∧ i ∈ globalSpan (q + 8) (numAt d q)}

section Records

variable {d d₁ d₂ : Bytes} {p q i : ℕ}

theorem rescaleRecord_ok {ns : ℕ × ℕ}
    (h : rescaleRecord (recordLayout.elem d q) d = (.ok ns, d₁)) :
    AgreeOn (recordSpan d q)ᶜ d d₁ ∧
      (nidAt d q = 3 → LevelsScaled (q + 8) (numAt d q) d d₁) := by
  obtain ⟨n3, d₂, h3, hrest⟩ := bind_eq_ok h
  obtain ⟨n31, d₃, h31, hend⟩ := bind_eq_ok hrest
  obtain ⟨-, rfl⟩ := Prod.mk.inj hend
  by_cases hlevel : nidAt d q = 3
  · have hlevel' : (recordLayout.elem d q).nid = 3 := hlevel
    rw [if_pos hlevel'] at h3
    rw [if_neg (by rw [hlevel']; decide)] at h31
    obtain ⟨-, rfl⟩ := Prod.mk.inj h31
    obtain ⟨hkeep, hscaled⟩ := countedLuts_ok (levels_local (q + 8)) h3
    exact ⟨hkeep.mono fun i hi hspan => hi (.inl ⟨hlevel, hspan⟩),
      fun _ => hscaled⟩
  · have hlevel' : ¬ (recordLayout.elem d q).nid = 3 := hlevel
    rw [if_neg hlevel'] at h3
    obtain ⟨-, rfl⟩ := Prod.mk.inj h3
    refine ⟨?_, fun h3 => absurd h3 hlevel⟩
    by_cases hglobal : nidAt d q = 31
    · have hglobal' : (recordLayout.elem d q).nid = 31 := hglobal
      rw [if_pos hglobal'] at h31
      obtain ⟨hkeep, -⟩ := countedLuts_ok (globals_local (q + 8)) h31
      exact hkeep.mono fun i hi hspan => hi (.inr ⟨hglobal, hspan⟩)
    · have hglobal' : ¬ (recordLayout.elem d q).nid = 31 := hglobal
      rw [if_neg hglobal'] at h31
      obtain ⟨-, rfl⟩ := Prod.mk.inj h31
      exact AgreeOn.refl _ d

theorem rescaleRecord_ahead {ns : ℕ × ℕ} (h : AgreeOn (Set.Ici q) d d₁)
    (hrun : rescaleRecord (recordLayout.elem d q) d₁ = (.ok ns, d₂)) :
    AgreeOn (recordSpan d q)ᶜ d₁ d₂ ∧
      (nidAt d q = 3 → LevelsScaled (q + 8) (numAt d q) d₁ d₂) := by
  have helem : recordLayout.elem d q = recordLayout.elem d₁ q :=
    congrArg (recordLayout.read q) (h.slice_eq fun i hi _ => hi)
  have hnum : numAt d q = numAt d₁ q :=
    h.uint_eq fun i hi _ => (Nat.le_add_right q 8).trans hi
  rw [helem] at hrun
  rw [recordSpan, nidAt, helem, hnum]
  exact rescaleRecord_ok hrun

theorem LutsInside.span (hin : LutsInside d) (hq : Walked d q)
    (hi : i ∈ recordSpan d q) : q + 12 ≤ i ∧ i < q + sizeAt d q := by
  obtain ⟨h3, h31⟩ := hin q hq
  obtain ⟨hnid, k, hk, c, hc, hlo, hhi⟩ | ⟨hnid, k, hk, hlo, hhi⟩ := hi
  · have hfits := h3 hnid
    rw [levelAt] at hlo hhi
    omega
  · have hfits := h31 hnid
    rw [globalLutAt] at hlo hhi
    omega

/-- Of the bytes from a record on, its own tables cover some, and those of the
records after it cover others beyond its end. -/
theorem LutsInside.owner {q' : ℕ} (hin : LutsInside d) (hq : Walked d q)
    (hq' : Walked d q') (hi : i ∈ recordSpan d q') (hlo : q ≤ i) :
    q' = q ∨ q + sizeAt d q + 12 ≤ i := by
  obtain ⟨hafter, hbefore⟩ := hin.span hq' hi
  obtain hle | hend := hq'.1.apart hq'.2 hq.1
  · obtain hle' | hend' := hq.1.apart hq.2 hq'.1
    · exact .inl (le_antisymm hle' hle)
    · change q + sizeAt d q ≤ q' at hend'
      exact .inr (by omega)
  · change q' + sizeAt d q' ≤ q at hend
    omega

/-- The header of a record and the number of its tables are not covered. -/
theorem LutsInside.header {q' : ℕ} (hin : LutsInside d) (hq : Walked d q)
    (hq' : Walked d q') (hlo : q ≤ i) (hhi : i < q + 12) :
    i ∉ recordSpan d q' := by
  intro hi
  obtain rfl | hbeyond := hin.owner hq hq' hi hlo
  · have hafter := (hin.span hq hi).1
    omega
  · omega

theorem LutsInside.gain {q' k : ℕ} (hin : LutsInside d) (hq : Walked d q)
    (hnid : nidAt d q = 3) (hk : k < numAt d q) (hq' : Walked d q')
    (hlo : q + 12 + 16 * k ≤ i) (hhi : i < q + 12 + 16 * k + 8) :
    i ∉ recordSpan d q' := by
  intro hi
  have hsize := (hin q hq).1 hnid
  obtain rfl | hbeyond := hin.owner hq hq' hi (by omega)
  · obtain ⟨-, j, hj, c, hc, hafter, hbefore⟩ | ⟨hnid', -⟩ := hi
    · rw [levelAt] at hafter hbefore
      omega
    · omega
  · omega

/-- What the patch has done when it comes to `p`. -/
structure Rescaled (d : Bytes) (p : ℕ) (d₁ : Bytes) : Prop where
  kept : AgreeOn {i | ∀ q, Walked d q → q + sizeAt d q ≤ p → i ∉ recordSpan d q}
    d d₁
  scaled : ∀ q, Walked d q → q + sizeAt d q ≤ p → nidAt d q = 3 →
    LevelsScaled (q + 8) (numAt d q) d d₁

theorem Rescaled.start (d : Bytes) (hsize : ∀ q, Walked d q → 0x50 < q + sizeAt d q) :
    Rescaled d 0x50 d where
  kept := AgreeOn.refl _ d
  scaled q hq hle := absurd hle (Nat.not_le_of_lt (hsize q hq))

theorem Rescaled.ahead (hin : LutsInside d) (h : Rescaled d p d₁) :
    AgreeOn (Set.Ici p) d d₁ :=
  h.kept.mono fun i (hi : p ≤ i) q hq hle hspan => by
    have hlt := (hin.span hq hspan).2
    omega

/-- Bytes that no table of a record that was left covers are as they were. -/
theorem Rescaled.next (hin : LutsInside d) (hp : Walked d p)
    (h : Rescaled d p d₁)
    (hkeep : AgreeOn (recordSpan d p)ᶜ d₁ d₂)
    (hscaled : nidAt d p = 3 → LevelsScaled (p + 8) (numAt d p) d₁ d₂) :
    Rescaled d (p + sizeAt d p) d₂ := by
  have hbefore : ∀ q, Walked d q → q + sizeAt d q ≤ p + sizeAt d p →
      q = p ∨ q + sizeAt d q ≤ p := by
    intro q hq hle
    obtain hpq | hpq := hq.1.apart hq.2 hp.1
    · obtain hqp | hqp := hp.1.apart hp.2 hq.1
      · exact .inl (le_antisymm hqp hpq)
      · have hadvances := hq.2.advances
        change p + sizeAt d p ≤ q at hqp
        change q < q + sizeAt d q at hadvances
        omega
    · exact .inr hpq
  constructor
  · have hkeep' : AgreeOn {i | ∀ q, Walked d q → q + sizeAt d q ≤ p + sizeAt d p →
        i ∉ recordSpan d q} d₁ d₂ := hkeep.mono fun i hi => hi p hp le_rfl
    refine AgreeOn.trans (h.kept.mono fun i hi q hq hle => ?_) hkeep'
    exact hi q hq (hle.trans (Nat.le_add_right _ _))
  · intro q hq hle hnid
    obtain rfl | hbeforep := hbefore q hq hle
    · have hsame : AgreeOn (levelSpan (q + 8) (numAt d q)) d₁ d :=
        (h.ahead hin).symm.mono fun i hi => by
          have hlo := (hin.span hq (.inl ⟨hnid, hi⟩)).1
          change q ≤ i
          omega
      exact (levels_local _ _).effect_congr hsame (AgreeOn.refl _ d₂)
        (hscaled hnid)
    · have hsame : AgreeOn (levelSpan (q + 8) (numAt d q)) d₁ d₂ :=
        hkeep.mono fun i hi hspan => by
          have hhi := (hin.span hq (.inl ⟨hnid, hi⟩)).2
          have hlo := (hin.span hp hspan).1
          omega
      exact (levels_local _ _).effect_congr (AgreeOn.refl _ d) hsame
        (h.scaled q hq hbeforep hnid)

/-- What the loop over the records has done when it returns. -/
theorem rescaleRecords_ok {counts : List (ℕ × ℕ)} (hin : LutsInside d)
    (h : rescaleRecords d.length d = (.ok counts, d₁)) :
    AgreeOn {i | ∀ q, Walked d q → i ∉ recordSpan d q} d d₁ ∧
      ∀ q, Walked d q → nidAt d q = 3 →
        LevelsScaled (q + 8) (numAt d q) d d₁ := by
  have hstart : Rescaled d 0x50 d := Rescaled.start d fun q hq =>
    Nat.lt_of_le_of_lt hq.1.le hq.2.advances
  obtain ⟨p, hp, hstop, hdone⟩ := Layout.forEach_follows (I := Rescaled d)
    (fun _ hI => (hI.ahead hin).mono fun i hi => hi.1)
    (fun hp hgo hI hrun => by
      obtain ⟨hkeep, hscaled⟩ := rescaleRecord_ahead (hI.ahead hin) hrun
      exact hI.next hin ⟨hp, hgo⟩ hkeep hscaled)
    hstart h
  have hall : ∀ q, Walked d q → q + sizeAt d q ≤ p := fun q hq =>
    hq.1.le_stop hq.2 hp hstop
  exact ⟨hdone.kept.mono fun i hi q hq _ => hi q hq,
    fun q hq => hdone.scaled q hq (hall q hq)⟩

end Records

end Aiqb
end SurfaceCameras
