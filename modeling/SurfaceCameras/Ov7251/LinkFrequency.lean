import SurfaceCameras.Kernel.Device

/-!
# The link frequency the OV7251 driver picks

`ov7251_check_hwcfg` searches the link frequencies of the firmware for one of
the driver's own.  The index it keeps is the position in the firmware's list,
and it is used as a position in the driver's tables.
-/

namespace SurfaceCameras
namespace Ov7251

open Kernel

/-- `link_freq[]`. -/
def linkFreq : List ℕ := [240000000, 319200000]

/-- `pixel_rates[]`. -/
def pixelRates : List ℕ := [48000000, 63840000]

/-- The inner loop: the first table entry equal to `f`, or the length of the
table. -/
def tableIndex (f : ℕ) : ℕ := linkFreq.findIdx (fun g => f == g)

/-- The outer loop: the first firmware entry whose inner search succeeds, or
the length of the list. -/
def firmwareIndex : List ℕ → ℕ
  | [] => 0
  | f :: fs =>
      if tableIndex f < linkFreq.length then 0 else firmwareIndex fs + 1

/-- What the firmware node gives for the endpoint of the sensor. -/
inductive Endpoint where
  | missing
  | unparsed (e : Errno)
  | parsed (linkFrequencies : List ℕ)

/-- `ov7251_check_hwcfg`; the result is `link_freq_idx`. -/
def checkHwcfg : Endpoint → Except Errno ℕ
  | .missing => .error .eprobeDefer
  | .unparsed e => .error e
  | .parsed freqs =>
      if freqs.length = 0 then
        .error .einval
      else if firmwareIndex freqs = freqs.length then
        .error .einval
      else
        .ok (firmwareIndex freqs)

/-- An index of the driver's tables whose frequency the firmware lists. -/
def Advertised (freqs : List ℕ) (idx : ℕ) : Prop :=
  ∃ f, linkFreq[idx]? = some f ∧ f ∈ freqs

/-- The firmware lists for which position and table index agree: nothing in
them is supported, or the first supported entry is at position 0 or 1 and the
frequency at that position of `link_freq[]` is somewhere in the list. -/
def PositionsAgree (freqs : List ℕ) : Prop :=
  (∀ f ∈ freqs, f ∉ linkFreq) ∨
    (∃ f rest, freqs = f :: rest ∧ f ∈ linkFreq ∧ 240000000 ∈ freqs) ∨
    ∃ f g rest, freqs = f :: g :: rest ∧ f ∉ linkFreq ∧ g ∈ linkFreq ∧
      319200000 ∈ freqs

theorem tableIndex_lt_iff (f : ℕ) :
    tableIndex f < linkFreq.length ↔ f ∈ linkFreq := by
  rw [tableIndex, List.findIdx_lt_length]
  simp

theorem firmwareIndex_cons_of_mem {f : ℕ} {fs : List ℕ}
    (h : f ∈ linkFreq) : firmwareIndex (f :: fs) = 0 := by
  rw [firmwareIndex, if_pos ((tableIndex_lt_iff f).mpr h)]

theorem firmwareIndex_cons_of_not_mem {f : ℕ} {fs : List ℕ}
    (h : f ∉ linkFreq) :
    firmwareIndex (f :: fs) = firmwareIndex fs + 1 := by
  rw [firmwareIndex, if_neg (fun hlt => h ((tableIndex_lt_iff f).mp hlt))]

theorem firmwareIndex_eq_length_iff (freqs : List ℕ) :
    firmwareIndex freqs = freqs.length ↔ ∀ f ∈ freqs, f ∉ linkFreq := by
  induction freqs with
  | nil => simp [firmwareIndex]
  | cons f fs ih =>
      by_cases hf : f ∈ linkFreq
      · simp [firmwareIndex_cons_of_mem hf, hf]
      · simp [firmwareIndex_cons_of_not_mem hf, hf, ih]

/-- What a successful call returns. -/
theorem checkHwcfg_eq_ok_iff (freqs : List ℕ) (idx : ℕ) :
    checkHwcfg (.parsed freqs) = .ok idx ↔
      (∃ f ∈ freqs, f ∈ linkFreq) ∧ idx = firmwareIndex freqs := by
  rw [checkHwcfg]
  cases freqs with
  | nil => simp
  | cons f fs =>
      rw [if_neg (by simp)]
      by_cases hnone : ∀ g ∈ f :: fs, g ∉ linkFreq
      · rw [if_pos ((firmwareIndex_eq_length_iff _).mpr hnone)]
        constructor
        · intro h
          cases h
        · rintro ⟨⟨g, hg, hmem⟩, -⟩
          exact absurd hmem (hnone g hg)
      · rw [if_neg (fun h => hnone ((firmwareIndex_eq_length_iff _).mp h))]
        push Not at hnone
        constructor
        · intro h
          exact ⟨hnone, (Except.ok.inj h).symm⟩
        · rintro ⟨-, rfl⟩
          rfl

theorem advertised_zero_iff (freqs : List ℕ) :
    Advertised freqs 0 ↔ 240000000 ∈ freqs := by
  simp [Advertised, linkFreq]

theorem advertised_one_iff (freqs : List ℕ) :
    Advertised freqs 1 ↔ 319200000 ∈ freqs := by
  simp [Advertised, linkFreq]

theorem not_advertised_add_two (freqs : List ℕ) (n : ℕ) :
    ¬ Advertised freqs (n + 2) := by
  simp [Advertised, linkFreq]

/-- The frequency at position 0 is advertised when the first entry of the
firmware list is supported. -/
theorem positionsAgree_cons_of_mem {f : ℕ} {fs : List ℕ}
    (hf : f ∈ linkFreq) :
    PositionsAgree (f :: fs) ↔ 240000000 ∈ f :: fs := by
  constructor
  · rintro (hnone | ⟨g, rest, -, -, h240⟩ | ⟨g, g', rest, heq, hg, -⟩)
    · exact absurd hf (hnone f (by simp))
    · exact h240
    · rw [(List.cons.inj heq).1] at hf
      exact absurd hf hg
  · intro h240
    exact Or.inr (Or.inl ⟨f, fs, rfl, hf, h240⟩)

theorem positionsAgree_cons_of_not_mem {f : ℕ} {fs : List ℕ}
    (hf : f ∉ linkFreq) :
    PositionsAgree (f :: fs) ↔ (∀ g ∈ fs, g ∉ linkFreq) ∨
      ∃ g rest, fs = g :: rest ∧ g ∈ linkFreq ∧ 319200000 ∈ f :: fs := by
  constructor
  · rintro (hnone | ⟨g, rest, heq, hg, -⟩ | ⟨g, g', rest, heq, -, hg', h319⟩)
    · exact Or.inl fun g hg => hnone g (List.mem_cons_of_mem f hg)
    · rw [(List.cons.inj heq).1] at hf
      exact absurd hg hf
    · exact Or.inr ⟨g', rest, (List.cons.inj heq).2, hg', h319⟩
  · rintro (hnone | ⟨g, rest, rfl, hg, h319⟩)
    · refine Or.inl fun g hg => ?_
      rcases List.mem_cons.mp hg with rfl | hg
      · exact hf
      · exact hnone g hg
    · exact Or.inr (Or.inr ⟨f, g, rest, rfl, hf, hg, h319⟩)

/-- Where something in the list is supported, the call succeeds with the
position of the first supported entry. -/
theorem forall_checkHwcfg_iff {freqs : List ℕ} (P : ℕ → Prop) :
    (∀ idx, checkHwcfg (.parsed freqs) = .ok idx → P idx) ↔
      ((∃ f ∈ freqs, f ∈ linkFreq) → P (firmwareIndex freqs)) := by
  constructor
  · intro h hmem
    exact h _ ((checkHwcfg_eq_ok_iff freqs _).mpr ⟨hmem, rfl⟩)
  · intro h idx hidx
    obtain ⟨hmem, rfl⟩ := (checkHwcfg_eq_ok_iff freqs idx).mp hidx
    exact h hmem

/-- A successful `ov7251_check_hwcfg` names an advertised frequency exactly for
the lists in which positions and table indices agree. -/
theorem checkHwcfg_advertised_iff (freqs : List ℕ) :
    (∀ idx, checkHwcfg (.parsed freqs) = .ok idx → Advertised freqs idx) ↔
      PositionsAgree freqs := by
  rw [forall_checkHwcfg_iff]
  match freqs with
  | [] => simp [PositionsAgree]
  | f :: fs =>
      by_cases hf : f ∈ linkFreq
      · rw [positionsAgree_cons_of_mem hf, firmwareIndex_cons_of_mem hf,
          advertised_zero_iff]
        exact ⟨fun h => h ⟨f, by simp, hf⟩, fun h _ => h⟩
      · rw [positionsAgree_cons_of_not_mem hf,
          firmwareIndex_cons_of_not_mem hf]
        match fs with
        | [] => simp [hf]
        | g :: rest =>
            by_cases hg : g ∈ linkFreq
            · rw [firmwareIndex_cons_of_mem hg, advertised_one_iff]
              constructor
              · intro h
                exact Or.inr ⟨g, rest, rfl, hg, h ⟨g, by simp, hg⟩⟩
              · rintro (hnone | ⟨_, _, _, _, h319⟩) _
                · exact absurd hg (hnone g (by simp))
                · exact h319
            · rw [firmwareIndex_cons_of_not_mem hg]
              constructor
              · intro h
                refine Or.inl fun k hk hkmem => ?_
                exact not_advertised_add_two _ _
                  (h ⟨k, List.mem_cons_of_mem f hk, hkmem⟩)
              · rintro (hnone | ⟨k, _, heq, hk, -⟩) ⟨k', hk', hmem⟩
                · rcases List.mem_cons.mp hk' with rfl | hk'
                  · exact absurd hmem hf
                  · exact absurd hmem (hnone k' hk')
                · rw [(List.cons.inj heq).1] at hg
                  exact absurd hk hg

/-- With only the second table entry advertised, the driver picks the
first. -/
theorem checkHwcfg_not_advertised :
    ¬ ∀ (freqs : List ℕ) (idx : ℕ),
      checkHwcfg (.parsed freqs) = .ok idx → Advertised freqs idx := by
  intro h
  have hpick : checkHwcfg (.parsed [319200000]) = .ok 0 := by decide
  have hadv := h [319200000] 0 hpick
  rw [advertised_zero_iff] at hadv
  revert hadv
  decide

end Ov7251
end SurfaceCameras
