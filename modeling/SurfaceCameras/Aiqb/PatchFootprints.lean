import SurfaceCameras.Aiqb.DecodedNoisePatch
import SurfaceCameras.Support.Commuting

/-!
# What the patches look at

Without the checksum of the file, which both write last, `patch_aiqb_blc` looks
at the first section of a file and writes there, as long as the section is
filled with records and the tables are inside them.  `patch_aiqb_nr` looks at
the headers up to that section and at what comes after it, and writes there.
-/

namespace SurfaceCameras
namespace Aiqb

open Bytes Prog

/-! ## Checksums of the file -/

section Seal

variable {d out : Bytes}

/-- `patch` in both scripts ends with the checksum of the file. -/
def sealFile : Script Unit := do
  let len ← gets List.length
  writeSum 0 len 0x14

/-- Where the checksum of the file is. -/
def fileSumSpan : Set ℕ := Set.Ico 0x14 0x18

theorem sealFile_seals (h : sealFile d = (.ok (), out)) :
    Seals fileSumSpan d.length sealFile := by
  obtain ⟨t₀, d', hsum₀, hwrite⟩ := bind_eq_ok h
  obtain ⟨hlen₀, rfl⟩ := Prod.mk.inj hsum₀
  obtain rfl := Except.ok.inj hlen₀
  obtain ⟨t₁, d', hadd, hpack⟩ := bind_eq_ok hwrite
  obtain ⟨-, -, hroom, -, -⟩ := writeSum_ok (j := 5) hwrite
  have hwords := (addWords_sum (Nat.two_pow_pos 32) (congrArg Prod.fst hadd)).1
  have hinside : ∀ o ∈ offsets 0 d.length, o + 4 ≤ d.length := by
    intro o ho
    by_cases hpos : o = 0x14
    · rw [hpos]
      omega
    · exact hwords o ho hpos
  intro d₁ e₁ hlen hsame
  have hinside₁ : ∀ o ∈ offsets 0 d.length, o + 4 ≤ d₁.length := hlen ▸ hinside
  have hinside₂ : ∀ o ∈ offsets 0 d.length, o + 4 ≤ e₁.length :=
    hsame.length ▸ hinside₁
  obtain ⟨r, hr⟩ := addWords_runs hinside₁ 0x14 0
  obtain ⟨r', hr'⟩ := addWords_runs hinside₂ 0x14 0
  have hsums : r = r' := by
    have hcongr : (addWords 0x14 (offsets 0 d.length) 0 d₁).1 =
        (addWords 0x14 (offsets 0 d.length) 0 e₁).1 := by
      refine addWords_congr hsame.length fun o ho hne => ?_
      obtain ⟨-, -, i, rfl⟩ := mem_offsets ho
      refine hsame.slice_eq fun k hk hk' hspan => hne ?_
      obtain ⟨hlo, hhi⟩ := hspan
      omega
    rw [hr, hr'] at hcongr
    exact Except.ok.inj hcongr
  subst hsums
  have hpackLen : (toLe 4 r).length = 4 := length_toLe 4 r
  have hin : 0x14 + (toLe 4 r).length ≤ d₁.length := by omega
  have hin' : 0x14 + (toLe 4 r).length ≤ e₁.length := hsame.length ▸ hin
  have hruns : ∀ {c : Bytes}, c.length = d.length →
      addWords 0x14 (offsets 0 d.length) 0 c = (.ok r, c) →
      0x14 + (toLe 4 r).length ≤ c.length →
        sealFile c = (.ok (), Bytes.write c 0x14 (toLe 4 r)) := by
    intro c hc hsum hc'
    rw [sealFile, bind_ok (gets_apply _ c), hc, writeSum, selfsum, bind_ok hsum]
    exact packInto_ok hc'
  refine ⟨Bytes.write d₁ 0x14 (toLe 4 r), hruns hlen hr hin, ?_, ?_⟩
  · have heq : Bytes.write d₁ 0x14 (toLe 4 r) = Bytes.write e₁ 0x14 (toLe 4 r) := by
      refine List.ext_getElem? fun i => ?_
      rw [getElem?_write hin, getElem?_write hin']
      by_cases hi : 0x14 ≤ i ∧ i < 0x14 + (toLe 4 r).length
      · rw [if_pos hi, if_pos hi]
      · rw [if_neg hi, if_neg hi]
        refine hsame.get i fun hspan => hi ?_
        obtain ⟨hlo, hhi⟩ := hspan
        omega
    rw [heq]
    exact hruns (hsame.length ▸ hlen) hr' hin'
  · refine (AgreeOn.refl _ d₁).write hin fun i hi hspan => hi ?_
    rw [hpackLen] at hspan
    exact hspan

end Seal

/-! ## Pairs of runs -/

section Pairs

variable {S W : Set ℕ} {d e : Bytes} {α β : Type} {p n : ℕ}

theorem Relates.gets_bind {σ ε : Type} {R : σ → σ → Prop} {Q : β → Prop}
    {g : σ → α} {f : α → Prog σ ε β}
    (h : ∀ s t, R s t → g s = g t ∧ Relates R Q (f (g s))) :
    Relates R Q (Prog.gets g >>= f) := by
  intro s t hst
  obtain ⟨hvalue, hf⟩ := h s t hst
  have hrun := hf s t hst
  rw [bind_ok (gets_apply g s), bind_ok (gets_apply g t), ← hvalue]
  exact hrun

/-- Unpacking looks at the bytes it unpacks; where nothing is written, they are
those of the original. -/
theorem unpackFrom_paired {fields : Bytes → α}
    (hS : ∀ i, p ≤ i → i < p + n → i ∈ S) :
    Relates (Paired S W d e)
      (fun a => (∀ i, p ≤ i → i < p + n → i ∉ W) →
        a = fields (slice d p n) ∧ p + n ≤ d.length)
      (unpackFrom p n fields) := by
  intro d₁ e₁ h
  have hlen := h.same.length
  by_cases hin : p + n ≤ d₁.length
  · rw [unpackFrom_ok fields hin, unpackFrom_ok fields (hlen ▸ hin),
      h.same.slice_eq hS]
    refine ⟨rfl, h, fun a ha hW => ?_⟩
    rw [← Except.ok.inj ha, h.left.slice_eq hW, ← h.same.slice_eq hS]
    exact ⟨rfl, h.left.length ▸ hin⟩
  · have hout := Nat.lt_of_not_le hin
    rw [unpackFrom_error fields hout, unpackFrom_error fields (hlen ▸ hout)]
    exact ⟨rfl, h, fun _ ha => by cases ha⟩

theorem packInto_paired {bs : Bytes}
    (hW : ∀ i, p ≤ i → i < p + bs.length → i ∈ W) :
    Relates (Paired S W d e) (fun _ => True) (packInto p bs) := by
  intro d₁ e₁ h
  have hlen := h.same.length
  by_cases hin : p + bs.length ≤ d₁.length
  · rw [packInto_ok hin, packInto_ok (hlen ▸ hin)]
    exact ⟨rfl, h.write hin hW, fun _ _ => trivial⟩
  · have hout := Nat.lt_of_not_le hin
    rw [packInto_error hout, packInto_error (hlen ▸ hout)]
    exact ⟨rfl, h, fun _ ha => by cases ha⟩

theorem Relates.paired {q : Script α} {Q : α → Prop}
    (hS : Relates (AgreeOn S) Q q)
    (hW : ∀ d₀, Triple (AgreeOn Wᶜ d₀) q (fun _ => AgreeOn Wᶜ d₀)
      (fun _ => AgreeOn Wᶜ d₀)) :
    Relates (Paired S W d e) Q q := by
  intro d₁ e₁ h
  obtain ⟨hout, hsame, hvalue⟩ := hS d₁ e₁ h.same
  exact ⟨hout, ⟨hsame, Triple.final (hW d) h.left, Triple.final (hW e) h.right⟩,
    hvalue⟩

/-- A checksum is written inside `W` of words inside `S`. -/
theorem writeSum_paired {lo hi pos : ℕ}
    (hS : ∀ i, lo ≤ i → i < hi + 3 → i ∈ S)
    (hW : ∀ i, pos ≤ i → i < pos + 4 → i ∈ W) :
    Relates (Paired S W d e) (fun _ => True) (writeSum lo hi pos) := by
  have hsum : ∀ (os : List ℕ), (∀ o ∈ os, lo ≤ o ∧ o < hi) → ∀ t,
      Relates (Paired S W d e) (fun _ => True) (addWords pos os t) := by
    intro os
    induction os with
    | nil => exact fun _ _ => Relates.pure trivial
    | cons o os ih =>
        intro hos t
        obtain ⟨⟨hlo, hhi⟩, hrest⟩ := List.forall_mem_cons.mp hos
        refine Relates.ite (fun _ => ?_) fun _ => ih hrest t
        refine Relates.bind (unpackFrom_paired fun i hi hi' =>
          hS i (hlo.trans hi) (by omega)) fun w _ => ih hrest _
  refine Relates.bind (hsum _ (fun o ho => ?_) 0) fun t _ => ?_
  · obtain ⟨hlo, hhi, -⟩ := mem_offsets ho
    exact ⟨hlo, hhi⟩
  · exact packInto_paired fun i hi hi' => hW i hi (by rwa [length_toLe] at hi')

/-- Two walks that write no header go over the elements of the original. -/
theorem Layout.forEach_paired {η : Type} {L : Layout η} {known : η → Bool}
    {limit start : ℕ} {f : ℕ → η → Script α}
    (hread : ∀ p, L.Reaches known limit d start p → p + L.len ≤ limit →
      ∀ i, p ≤ i → i < p + L.len → i ∈ S ∧ i ∉ W)
    (hf : ∀ p, L.Reaches known limit d start p → L.Goes known limit d p →
      Relates (Paired S W d e) (fun _ => True) (f p (L.elem d p))) :
    Relates (Paired S W d e) (fun _ => True) (L.forEach known limit f start) := by
  refine Relates.iterate (I := fun v => L.Reaches known limit d start v.1) ?_ _ _
    .start
  rintro ⟨p, acc⟩ hp
  refine Relates.ite (fun hroom => ?_) fun _ => Relates.pure trivial
  have hheader := hread p hp hroom
  refine Relates.bind (unpackFrom_paired fun i hi hi' => (hheader i hi hi').1)
    fun h hknown => ?_
  obtain ⟨rfl, hin⟩ := hknown fun i hi hi' => (hheader i hi hi').2
  refine Relates.ite (fun htaken => ?_) fun _ => Relates.pure trivial
  have hgo : L.Goes known limit d p := ⟨hroom, hin, htaken⟩
  exact Relates.bind (hf p hp hgo) fun a _ => Relates.pure (hp.next hgo)

end Pairs

/-! ## Rescaling the black level -/

/-- `patch_aiqb_blc.patch` without the checksum of the file. -/
def blcBody : Script Unit := do
  let head ← gets fun d => slice d 0 4
  when (head ≠ ascii "CPFF") (raise .assertion)
  let len ← gets List.length
  let counts ← rescaleRecords len
  when (¬ ((counts.map Prod.fst).sum = 100 ∧ (counts.map Prod.snd).sum = 400))
    (raise .assertion)
  let size ← unpackFrom 0x3c 4 fun bs => word bs 0
  writeSum 0x38 (0x38 + size) 0x4c

theorem patchBlc_eq : patchBlc = blcBody >>= fun _ => sealFile := by
  simp only [patchBlc, blcBody, sealFile, bind_assoc]

/-- What the rescaling looks at: the first section and the bytes after it that
its walk comes to, but not the checksum of the file. -/
def blcView (d : Bytes) : Set ℕ :=
  {i | (i < 0x14 ∨ 0x18 ≤ i) ∧ i < 0x38 + word d 0x3c + 0x14}

/-- What it writes. -/
def blcSpan (d : Bytes) : Set ℕ :=
  {i | i ∈ Set.Ico 0x4c 0x50 ∨ ∃ q, Walked d q ∧ i ∈ recordSpan d q}

section BlackLevels

variable {d e : Bytes} {q i : ℕ} (hfirst : FirstFilled d) (hin : LutsInside d)

include hfirst hin

theorem blcSpan_inside (hi : i ∈ blcSpan d) :
    0x4c ≤ i ∧ i < 0x38 + word d 0x3c := by
  have hstart := hfirst.start_le
  obtain ⟨hlo, hhi⟩ | ⟨q, hq, hspan⟩ := hi
  · exact ⟨hlo, by omega⟩
  · have hfrom : 0x50 ≤ q := hq.1.le
    have hend := hfirst.walked_le hq
    obtain ⟨hlo, hhi⟩ := hin.span hq hspan
    exact ⟨by omega, by omega⟩

theorem blcSpan_view (hi : i ∈ blcSpan d) : i ∈ blcView d := by
  obtain ⟨hlo, hhi⟩ := blcSpan_inside hfirst hin hi
  exact ⟨.inr (by omega), by omega⟩

theorem rescaleField_paired {G : Field} {p : ℕ}
    (hspan : ∀ i, p ≤ i → i < p + G.width → i ∈ blcSpan d) :
    Relates (Paired (blcView d) (blcSpan d) d e) (fun _ => True)
      (rescaleField G p) := by
  refine Relates.bind (unpackFrom_paired fun i hi hi' =>
    blcSpan_view hfirst hin (hspan i hi hi')) fun v _ => ?_
  refine Relates.bind (Q := fun _ => True) ?_ fun _ _ => ?_
  · exact Relates.when (fun _ => Relates.raise _) fun _ => trivial
  · exact packInto_paired fun i hi hi' =>
      hspan i hi (by rwa [length_toLe] at hi')

theorem blc_header (hq : Walked d q) (hlo : q ≤ i) (hhi : i < q + 12) :
    i ∈ blcView d ∧ i ∉ blcSpan d := by
  have hstart : 0x50 ≤ q := hq.1.le
  have hend := hfirst.walked_le hq
  have hleast := sizeAt_least hq
  refine ⟨⟨.inr (by omega), by omega⟩, ?_⟩
  rintro (⟨-, hsum⟩ | ⟨q', hq', hspan⟩)
  · omega
  · exact hin.header hq hq' hlo hhi hspan

/-- The tables that a record says it has are rescaled. -/
theorem countedLuts_paired {k : ℕ} {loop : ℕ → Script Unit} (hq : Walked d q)
    (hloop : Relates (Paired (blcView d) (blcSpan d) d e) (fun _ => True)
      (loop (numAt d q))) :
    Relates (Paired (blcView d) (blcSpan d) d e) (fun _ => True)
      (countedLuts k loop (q + 8)) := by
  have hheader : ∀ i, q + 8 ≤ i → i < q + 8 + 4 →
      i ∈ blcView d ∧ i ∉ blcSpan d := fun i hi hi' =>
    blc_header hfirst hin hq (by omega) (by omega)
  refine Relates.bind (unpackFrom_paired fun i hi hi' => (hheader i hi hi').1)
    fun num hnum => ?_
  obtain ⟨hnum, -⟩ := hnum fun i hi hi' => (hheader i hi hi').2
  have hcount : num = numAt d q :=
    hnum.trans (uint_slice d (q + 8) (q := 0) (m := 4) (n := 4) (by decide))
  rw [hcount]
  exact Relates.bind hloop fun _ _ => Relates.pure trivial

/-- A table of floats is checked and rescaled. -/
theorem rescaleGlobalLut_paired {p : ℕ}
    (hspan : ∀ i, p ≤ i → i < p + 72 → i ∈ blcSpan d) :
    Relates (Paired (blcView d) (blcSpan d) d e) (fun _ => True)
      (rescaleGlobalLut p) := by
  have hview : ∀ i, p ≤ i → i < p + 72 → i ∈ blcView d := fun i hi hi' =>
    blcSpan_view hfirst hin (hspan i hi hi')
  refine Relates.bind (Q := fun _ => True) ?_ fun _ _ =>
    Relates.forEach _ fun c hc => rescaleField_paired hfirst hin
      fun i hi hi' => ?_
  · refine Relates.bind (unpackFrom_paired fun i hi hi' =>
      hview i hi (by omega)) fun x _ => ?_
    refine Relates.bind (unpackFrom_paired fun i hi hi' =>
      hview i (by omega) (by omega)) fun g _ => ?_
    exact Relates.when (fun _ => Relates.raise _) fun _ => trivial
  · have hc := List.mem_range.mp hc
    have hwidth : floatField.width = 4 := rfl
    exact hspan i (by omega) (by omega)

theorem rescaleRecord_paired (hq : Walked d q) :
    Relates (Paired (blcView d) (blcSpan d) d e) (fun _ => True)
      (rescaleRecord (recordLayout.elem d q)) := by
  refine Relates.bind (Q := fun _ => True) (Relates.ite (fun hnid => ?_)
    fun _ => Relates.pure trivial) fun n3 _ => ?_
  · refine countedLuts_paired hfirst hin hq (Relates.forEach _ fun i hi =>
      Relates.forEach _ fun c hc => rescaleField_paired hfirst hin
        fun k hk hk' => ?_)
    exact .inr ⟨q, hq, .inl ⟨hnid, i, List.mem_range.mp hi, c,
      List.mem_range.mp hc, hk, hk'⟩⟩
  refine Relates.bind (Q := fun _ => True) (Relates.ite (fun hnid => ?_)
    fun _ => Relates.pure trivial) fun n31 _ => Relates.pure trivial
  refine countedLuts_paired hfirst hin hq (Relates.forEach _ fun i hi =>
    rescaleGlobalLut_paired hfirst hin fun k hk hk' => ?_)
  exact .inr ⟨q, hq, .inr ⟨hnid, i, List.mem_range.mp hi, hk, hk'⟩⟩

theorem blc_walk (hp : recordLayout.Reaches knownName d.length d 0x50 q)
    (hlo : q ≤ i) (hhi : i < q + 8) : i ∈ blcView d ∧ i ∉ blcSpan d := by
  have hend := stops_after hfirst.short hfirst.followed
  have hstart := hfirst.start_le
  obtain rfl | ⟨hq, -⟩ := hfirst.filled.reaches hfirst.stop_le hend .start hp
  · refine ⟨⟨.inr (by omega), by omega⟩, fun hspan => ?_⟩
    have hinside := (blcSpan_inside hfirst hin hspan).2
    omega
  · exact blc_header hfirst hin hq hlo (by omega)

/-- Rescaling is a patch of the first section. -/
theorem blcBody_paired :
    Relates (Paired (blcView d) (blcSpan d) d e) (fun _ => True) blcBody := by
  have hstart := hfirst.start_le
  refine Relates.gets_bind fun d₁ e₁ h => ⟨?_, ?_⟩
  · exact h.same.slice_eq fun i _ hi => ⟨.inl (by omega), by omega⟩
  refine Relates.bind (Q := fun _ => True)
    (Relates.when (fun _ => Relates.raise _) fun _ => trivial) fun _ _ => ?_
  refine Relates.gets_bind fun d₂ e₂ h => ⟨h.same.length, ?_⟩
  rw [← h.left.length]
  refine Relates.bind (Layout.forEach_paired
    (fun p hp _ i hi hi' => blc_walk hfirst hin hp hi hi')
    fun p hp hgo => rescaleRecord_paired hfirst hin ⟨hp, hgo⟩) fun counts _ => ?_
  refine Relates.bind (Q := fun _ => True)
    (Relates.when (fun _ => Relates.raise _) fun _ => trivial) fun _ _ => ?_
  have hsize : ∀ i, 0x3c ≤ i → i < 0x3c + 4 → i ∈ blcView d ∧ i ∉ blcSpan d := by
    intro i hi hi'
    refine ⟨⟨.inr (by omega), by omega⟩, fun hspan => ?_⟩
    have hinside := (blcSpan_inside hfirst hin hspan).1
    omega
  refine Relates.bind (unpackFrom_paired fun i hi hi' => (hsize i hi hi').1)
    fun size hknown => ?_
  obtain ⟨hword, -⟩ := hknown fun i hi hi' => (hsize i hi hi').2
  have hsame : size = word d 0x3c :=
    hword.trans (uint_slice d 0x3c (q := 0) (m := 4) (n := 4) (by decide))
  rw [hsame]
  refine writeSum_paired (fun i hi hi' => ⟨.inr (by omega), by omega⟩)
    fun i hi hi' => .inl ⟨hi, by omega⟩

end BlackLevels

/-! ## Raising the noise reduction -/

/-- `patch_aiqb_nr.patch` without the checksum of the file. -/
def noiseBody (F : Floats) (n : ℕ) : Script Unit := do
  let head ← gets fun d => slice d 0 4
  when (head ≠ ascii "CPFF") (raise .assertion)
  let (lisp, patched) ← patchSections F n
  when (patched = []) (raise .assertion)
  match lisp with
  | none => raise .typeError
  | some s => writeSum s.hdr s.stop (s.hdr + 0x14)

theorem patch_eq (F : Floats) (n : ℕ) :
    patch F n = noiseBody F n >>= fun _ => sealFile := by
  simp only [patch, noiseBody, sealFile, bind_assoc]
  refine congrArg _ (funext fun head => congrArg _ (funext fun _ => ?_))
  refine congrArg _ (funext fun v => congrArg _ (funext fun _ => ?_))
  obtain ⟨lisp, patched⟩ := v
  cases lisp with
  | none => rfl
  | some s => rfl

/-- What the patch looks at: the headers up to the first section, and what comes
after that. -/
def noiseView (d : Bytes) : Set ℕ :=
  {i | (i < 0x14 ∨ 0x18 ≤ i) ∧ (i < 0x4c ∨ 0x38 + word d 0x3c ≤ i)}

/-- What comes after the header of the section after the first one, up to its
checksum. -/
def afterFirst (d : Bytes) : Set ℕ := {i | 0x38 + word d 0x3c + 0x14 ≤ i}

section Noise

variable {F : Floats} {n : ℕ} {d e : Bytes} (hfirst : FirstFilled d)

include hfirst

theorem patchSection_paired {s : Section} (hs : 0x38 + word d 0x3c ≤ s.hdr) :
    Relates (Paired (noiseView d) (afterFirst d) d e) (fun _ => True)
      (patchSection F n s) := by
  have hstart := hfirst.start_le
  refine Relates.paired (patchSection_relates fun i hi => ?_) fun d₀ =>
    patchSection_spec fun i hi hin => hi ?_
  · exact ⟨.inr (by omega), .inr (hs.trans hi)⟩
  · have hlo := hin.1
    rw [Section.start] at hlo
    show 0x38 + word d 0x3c + 0x14 ≤ i
    omega

/-- The walk of both runs is at one of the first headers of the original, or
after the first section. -/
def NoiseAt (d : Bytes) (w : Walk) : Prop :=
  (∃ ss, Visits nrSectionTags d .start ss w) ∧ w.p ≤ 0x38 ∨
    0x38 + word d 0x3c ≤ w.p

/-- The section whose checksum is to be written comes after the first one. -/
def LispAfter (d : Bytes) (lisp : Option Section) : Prop :=
  ∀ s, lisp = some s → 0x38 + word d 0x3c ≤ s.hdr

theorem noiseAt_of_visits {ss : List Section} {w : Walk}
    (h : Visits nrSectionTags d .start ss w) : NoiseAt d w := by
  obtain hw | hw | ⟨hw, -⟩ | hw := hfirst.visits_cases sectionTags_subset h
  · exact .inl ⟨⟨ss, h⟩, by omega⟩
  · exact .inl ⟨⟨ss, h⟩, by omega⟩
  · exact .inl ⟨⟨ss, h⟩, by omega⟩
  · exact .inr hw

/-- What is done at the header that both runs have come to. -/
theorem patchMove_paired (c : Bytes) (acc : List Patched) {w : Walk}
    {lisp : Option Section} (hw : NoiseAt d w) (hlisp : LispAfter d lisp)
    (hsame : w.p ≤ 0x38 → walkStep nrSectionTags d w = walkStep nrSectionTags c w) :
    Relates (Paired (noiseView d) (afterFirst d) d e)
      (Sum.elim (fun v => NoiseAt d v.1 ∧ LispAfter d v.2.1)
        fun r => LispAfter d r.1)
      (match walkStep nrSectionTags c w with
        | .done => pure (.inr (lisp, acc))
        | .enter next => pure (.inl (next, lisp, acc))
        | .found s next => do
            let new ← patchSection F n s
            pure (.inl (next, lispHdr s lisp, acc ++ new)) :
        Script (Walk × Option Section × List Patched ⊕
          Option Section × List Patched)) := by
  have hstart := hfirst.start_le
  cases hstep : walkStep nrSectionTags c w with
  | done => exact Relates.pure hlisp
  | enter next =>
      refine Relates.pure ⟨?_, hlisp⟩
      obtain ⟨⟨ss, hvisits⟩, hle⟩ | hle := hw
      · have henter := (hsame hle).trans hstep
        exact noiseAt_of_visits hfirst (hvisits.trans (.enter henter (.refl next)))
      · have hnext := walkStep_enter hstep
        exact .inr (hle.trans (hnext ▸ Nat.le_add_right _ _))
  | found s next =>
      obtain ⟨-, hhdr, hstop, hnext⟩ := walkStep_found hstep
      obtain ⟨⟨ss, hvisits⟩, hle⟩ | hle := hw
      · -- This is the first section, which is left alone.
        have hfound := (hsame hle).trans hstep
        have hother : s.path ≠ "LISP/DFLT" := by
          have hnone : ∀ path ∈ ["LCMC/DFLT", "LCMC", "DFLT", ""],
              path ≠ "LISP/DFLT" := by decide
          obtain ⟨-, -, hpath⟩ | ⟨hlater, -⟩ := hfirst.finds_cases
            sectionTags_subset ⟨ss, w, next, hvisits, hfound⟩
          · exact hnone _ hpath
          · omega
        have hvisits' := hvisits.trans (.found hfound (.refl next))
        simp only [patchSection, lispHdr, if_pos hother]
        exact Relates.bind (Q := fun _ => True) (Relates.pure trivial)
          fun new _ => Relates.pure ⟨noiseAt_of_visits hfirst hvisits', hlisp⟩
      · have hs : 0x38 + word d 0x3c ≤ s.hdr := hhdr ▸ hle
        refine Relates.bind (patchSection_paired hfirst hs) fun new _ =>
          Relates.pure ⟨.inr ?_, fun t ht => ?_⟩
        · rw [hnext]
          exact hle.trans (hstop ▸ Nat.le_add_right _ _)
        · rw [lispHdr] at ht
          split at ht
          · exact hlisp t ht
          · exact Option.some.inj ht ▸ hs

/-- One iteration over the sections. -/
theorem patchStep_paired {v : Walk × Option Section × List Patched}
    (hw : NoiseAt d v.1) (hlisp : LispAfter d v.2.1) :
    Relates (Paired (noiseView d) (afterFirst d) d e)
      (Sum.elim (fun v => NoiseAt d v.1 ∧ LispAfter d v.2.1)
        fun r => LispAfter d r.1)
      (patchStep F n v) := by
  have hstart := hfirst.start_le
  obtain ⟨w, lisp, acc⟩ := v
  have hlow : 0x18 ≤ w.p := by
    obtain ⟨⟨ss, hvisits⟩, -⟩ | hle := hw
    · exact hvisits.le
    · exact (hstart.trans hle).trans' (by decide)
  have hheader : ∀ i, w.p ≤ i → i < w.p + 16 → i ∈ noiseView d := by
    intro i hi hi'
    obtain ⟨-, hle⟩ | hle := hw
    · have hle : w.p ≤ 0x38 := hle
      exact ⟨.inr (by omega), .inl (by omega)⟩
    · exact ⟨.inr (by omega), .inr (hle.trans hi)⟩
  intro d₁ e₁ h
  have hsame : walkStep nrSectionTags d₁ w = walkStep nrSectionTags e₁ w :=
    walkStep_same h.same.length (h.same.slice_eq hheader)
  have hmove := patchMove_paired (F := F) (n := n) (e := e) hfirst d₁ acc hw
    hlisp fun hle => walkStep_same h.left.length
      (h.left.slice_eq fun i hi hi' hafter => by
        have hlate : 0x38 + word d 0x3c + 0x14 ≤ i := hafter
        omega)
  have hrun := hmove d₁ e₁ h
  rw [patchStep, bind_ok (gets_apply _ d₁), bind_ok (gets_apply _ e₁), id, id,
    ← hsame]
  exact hrun

/-- Raising the noise reduction is a patch of what comes after the first
section. -/
theorem noiseBody_paired :
    Relates (Paired (noiseView d) (afterFirst d) d e) (fun _ => True)
      (noiseBody F n) := by
  have hstart := hfirst.start_le
  refine Relates.gets_bind fun d₁ e₁ h => ⟨?_, ?_⟩
  · exact h.same.slice_eq fun i _ hi => ⟨.inl (by omega), .inl (by omega)⟩
  refine Relates.bind (Q := fun _ => True)
    (Relates.when (fun _ => Relates.raise _) fun _ => trivial) fun _ _ => ?_
  have hloop : Relates (Paired (noiseView d) (afterFirst d) d e)
      (fun r => LispAfter d r.1) (patchSections F n) :=
    Relates.iterate (I := fun v => NoiseAt d v.1 ∧ LispAfter d v.2.1)
      (fun v hv => patchStep_paired hfirst hv.1 hv.2) n _
      ⟨noiseAt_of_visits hfirst (.refl _), fun s hs => by cases hs⟩
  refine Relates.bind hloop ?_
  rintro ⟨lisp, patched⟩ hlisp
  refine Relates.bind (Q := fun _ => True)
    (Relates.when (fun _ => Relates.raise _) fun _ => trivial) fun _ _ => ?_
  cases lisp with
  | none => exact Relates.raise _
  | some L =>
      have hL : 0x38 + word d 0x3c ≤ L.hdr := hlisp L rfl
      refine writeSum_paired (fun i hi _ => ⟨.inr (by omega), .inr (by omega)⟩)
        fun i hi _ => ?_
      show 0x38 + word d 0x3c + 0x14 ≤ i
      omega

end Noise

end Aiqb
end SurfaceCameras
