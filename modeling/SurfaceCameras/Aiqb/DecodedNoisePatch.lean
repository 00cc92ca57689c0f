import SurfaceCameras.Aiqb.DecodedPatch
import SurfaceCameras.Aiqb.ExploredPatch

/-!
# Decoding a patched file

The decoder does not look at the values that `patch_aiqb_nr` writes, nor at
checksums.  Every mode of it shows of the patched file what it showed of the
original: the listings, as long as no axis is read beyond its section, and the
calibration, which is in a section of its own.
-/

namespace SurfaceCameras
namespace Aiqb

open Bytes Prog

/-! ## The decoder's walk -/

section Walks

variable {tags tags' : List Bytes} {d : Bytes} {w w' : Walk} {s : Section}
  {ss : List Section}

theorem Visits.mono (hsub : tags ⊆ tags') (h : Visits tags d w ss w') :
    Visits tags' d w ss w' := by
  induction h with
  | refl w => exact .refl w
  | found hfound _ ih =>
      have hsame := walkStep_more hsub
        fun hdone => Move.noConfusion (hfound.symm.trans hdone)
      exact .found (hsame.trans hfound) ih
  | enter henter _ ih =>
      have hsame := walkStep_more hsub
        fun hdone => Move.noConfusion (henter.symm.trans hdone)
      exact .enter (hsame.trans henter) ih

theorem Finds.mono (hsub : tags ⊆ tags') (h : Finds tags d s) :
    Finds tags' d s := by
  obtain ⟨ss, w, next, hvisits, hstep⟩ := h
  have hall : Visits tags d .start (ss ++ [s]) next :=
    hvisits.trans (.found hstep (.refl next))
  exact Visits.finds_mem (.refl _) (hall.mono hsub)
    (List.mem_append_right ss (List.mem_singleton.mpr rfl))

end Walks

/-! ## Black levels that stay -/

section Levels

variable {γ : Type} {again level : ℕ → γ} {d out : Bytes} {q n num k : ℕ}

theorem decodeLuts_mirrors (hsame : AgreeOn (Set.Ico q (q + n)) d out)
    (hk : k + 16 * num ≤ n) :
    Mirrors d out Eq (decodeLuts again level num (q + k))
      (decodeLuts again level num (q + k)) := by
  have hslice : ∀ {j m}, j + m ≤ n → slice d (q + j) m = slice out (q + j) m :=
    fun hj => hsame.slice_eq fun i hi hi' => ⟨by omega, by omega⟩
  induction num generalizing k with
  | zero => exact Mirrors.pure rfl
  | succ num ih =>
      refine (unpackFrom_mirrors hsame.length (hslice (by omega))).bind
        fun head head' hhead => ?_
      have hchannels : slice d (q + k + 8) 8 = slice out (q + k + 8) 8 := by
        rw [Nat.add_assoc]
        exact hslice (by omega)
      refine (unpackFrom_mirrors hsame.length hchannels).bind
        fun cc cc' hcc => ?_
      have hrest := ih (k := k + 16) (by omega)
      refine hrest.bind fun luts luts' hluts => ?_
      subst hhead hcc hluts
      exact Mirrors.pure rfl

theorem decodeBlackLevel_mirrors (hsame : AgreeOn (Set.Ico q (q + n)) d out)
    (hn : 12 ≤ n) (hnum : numAt d q = 0 ∨ 12 + 16 * numAt d q ≤ n) :
    Mirrors d out Eq (decodeBlackLevel again level q)
      (decodeBlackLevel again level q) := by
  have hhead : slice d (q + 8) 4 = slice out (q + 8) 4 :=
    hsame.slice_eq fun i hi hi' => ⟨by omega, by omega⟩
  refine (unpackFrom_known hsame.length hhead).bind fun num num' hread => ?_
  obtain ⟨rfl, hread, -⟩ := hread
  have hcount : num = numAt d q :=
    hread.trans (uint_slice d (q + 8) (q := 0) (m := 4) (n := 4) (by decide))
  exact decodeLuts_mirrors hsame (by omega)

end Levels

/-! ## What the decoder shows -/

/-- No axis that is shown is read beyond the checksum of the next section. -/
def AxesInside (d : Bytes) : Prop :=
  ∀ s, Finds sectionTags d s → s.path.startsWith "LISP" → ∀ p,
    recordLayout.On (fun _ => true) s.stop d s.start p → ∀ q,
      subrecordLayout.On (fun _ => true) (recordLayout.after d p) d (p + 8) q →
        q + 28 + 4 * min (word d (q + 16)) 8 ≤ s.stop + 0x14

namespace PatchRun

variable {F : Floats} {n : ℕ} {d out d₁ : Bytes} {xs ys : List Section}
  {L s : Section} {t : ℕ} (h : PatchRun F n d out xs L ys d₁ t)
  (hroom : L.start ≤ L.stop)

include h hroom

theorem sameChains : SameChains d out where
  length := (h.kept hroom).length
  sections ss w hvisits := by
    have hheader := h.header_kept hroom (hvisits.mono sectionTags_subset)
    exact hheader.slice_eq fun i hi hi' => ⟨hi, by omega⟩
  records s hs p hp hin :=
    h.record_kept hroom ((hs.mono sectionTags_subset).mem h.found) hp hin

theorem sameListing (haxes : AxesInside d) : SameListing d out where
  toSameChains := h.sameChains hroom
  subrecords s hs hlisp p hp q hq hin := by
    have hmem := (hs.mono sectionTags_subset).mem h.found
    have hkept := h.subrecord_kept hroom hmem hp hq hin
    have hend := hp.le_limit
    have hslice : ∀ k m, k + m ≤ 28 + 4 * min (word d (q + 16)) 8 →
        q + k + m ≤ s.stop + 0x14 → slice d (q + k) m = slice out (q + k) m :=
      fun k m hk hstop => hkept.slice_eq fun i hi hi' =>
        ⟨by omega, by omega, by omega⟩
    refine ⟨hslice 0 16 (by omega) (by omega), fun hgo => ⟨?_, ?_⟩⟩
    · exact hslice 16 4 (by omega) (by omega)
    · exact hslice 28 _ le_rfl (haxes s hs hlisp p hp q ⟨hq, hgo⟩)

/-- The first section is as it was. -/
theorem first_kept (hfirst : FirstFilled d) :
    AgreeOn (Set.Ico 0x50 (0x38 + word d 0x3c + 0x14)) d out := by
  obtain ⟨s, ⟨w, next, hvisits, hstep⟩, hhdr, hstop⟩ := hfirst.findsFirst
  have hs : Finds sectionTags d s := ⟨[], w, next, hvisits, hstep⟩
  have hmem := (hs.mono sectionTags_subset).mem h.found
  refine (h.chain_kept hroom hmem).mono fun i hi => ⟨?_, fun hspan => ?_⟩
  · rw [Section.start, hhdr, hstop]
    exact hi
  · have hnone : ∀ path ∈ ["LCMC/DFLT", "LCMC", "DFLT", ""],
        path ≠ "LISP/DFLT" := by decide
    obtain ⟨-, -, hpath⟩ | ⟨hlater, -⟩ := hfirst.finds_cases (List.Subset.refl _) hs
    · exact hnone _ hpath hspan.1
    · have hle := hfirst.start_le
      omega

theorem sameRecords (hfirst : FirstFilled d) : SameRecords d out where
  length := (h.kept hroom).length
  heads p hp _ := by
    have hend := stops_after hfirst.short hfirst.followed
    have hstart := hp.le
    have hle : p ≤ 0x38 + word d 0x3c := by
      obtain rfl | ⟨-, hinside⟩ :=
        hfirst.filled.reaches hfirst.stop_le hend .start hp
      · exact le_rfl
      · exact (Nat.le_add_right _ _).trans hinside
    exact (h.first_kept hroom hfirst).slice_eq fun i hi hi' =>
      ⟨hstart.trans hi, by omega⟩
  others q hq _ := by
    have hstart : 0x50 ≤ q := hq.1.le
    have hinside := hfirst.walked_le hq
    exact (h.first_kept hroom hfirst).mono fun i hi =>
      ⟨hstart.trans hi.1, by have hhi := hi.2; omega⟩

end PatchRun

/-- Before the checksum of the file nothing changes. -/
theorem patch_front {F : Floats} {n : ℕ} {d out : Bytes}
    (h : patch F n d = (.ok (), out)) : AgreeOn (Set.Iio 0x14) d out := by
  obtain ⟨head, _, ⟨⟩, hrest⟩ := bind_eq_ok h
  obtain ⟨_, _, hhead, hrest'⟩ := bind_eq_ok hrest
  obtain ⟨-, rfl⟩ := when_raise_ok hhead
  obtain ⟨⟨lisp, patched⟩, d₁, hloop, hend⟩ := bind_eq_ok hrest'
  obtain ⟨_, _, hsome, hend'⟩ := bind_eq_ok hend
  obtain ⟨-, rfl⟩ := when_raise_ok hsome
  obtain ⟨ss, w', hvisits, -, -, hedited, -⟩ :=
    patchSections_finds n (.start, none, []) (AgreeOn.refl _ d) hloop
  have hsections : AgreeOn (Set.Iio 0x14) d d₁ :=
    hedited.outside fun i (hi : i < 0x14) s hs hin => by
      have hahead : 0x18 ≤ s.hdr := (hvisits.ahead s hs).1
      rw [Section.start] at hin
      omega
  cases lisp with
  | none => cases hend'
  | some L =>
      obtain ⟨_, d₂, hwrite, hfinal⟩ := bind_eq_ok hend'
      obtain ⟨len, _, ⟨⟩, hfinal'⟩ := bind_eq_ok hfinal
      obtain ⟨t, -, hroom, rfl, -⟩ := writeSum_ok (j := 5) hwrite
      obtain ⟨t', -, hroom', rfl, -⟩ := writeSum_ok (j := 5) hfinal'
      refine AgreeOn.write ?_ (by rwa [length_toLe]) fun i (hi : i < 0x14) hin =>
        by omega
      exact hsections.write (by rwa [length_toLe]) fun i (hi : i < 0x14) hin =>
        by omega

/-- In every mode the decoder shows of a file that the patcher has finished what
it showed of the original. -/
theorem decodeFile_patch {γ : Type} (again level : ℕ → γ) (shown : Shown γ)
    (F : Floats) (n m : ℕ) (d out : Bytes) (command : Command)
    (hpatch : patch F n d = (.ok (), out)) (hfit : HeadersFit d)
    (haxes : command = .isp → AxesInside d)
    (hfirst : command ∈ [.noise, .colours] → FirstFilled d ∧ TablesInside d) :
    (decodeFile again level shown m command out).1 =
      (decodeFile again level shown m command d).1 := by
  obtain ⟨xs, L, ys, d₁, t, hrun⟩ := patch_run hpatch
  have hroom := hrun.room_of_headersFit hfit
  have halike : DecodedAlike again level level command d out :=
    { head := (patch_front hpatch).slice_eq fun i _ hi => by
        change i < 0x14
        omega
      chains := fun _ => hrun.sameChains hroom
      listing := fun hmode => hrun.sameListing hroom (haxes hmode)
      records := fun hmode =>
        ⟨hrun.sameRecords hroom (hfirst hmode).1, (hfirst hmode).2⟩
      levels := fun hmode q hq hnid => by
        obtain ⟨hfilled, hin⟩ := hfirst (by rw [hmode]; decide)
        have hstart : 0x50 ≤ q := hq.1.le
        have hinside := hfilled.walked_le hq
        have hsame : AgreeOn (Set.Ico q (q + (sizeAt d q + 20))) d out :=
          (hrun.first_kept hroom hfilled).mono fun i hi =>
            ⟨hstart.trans hi.1, by have hhi := hi.2; omega⟩
        refine decodeBlackLevel_mirrors hsame (by omega) ?_
        exact ((hin.luts q hq).1 hnid).imp id fun hle => hle.trans (by omega) }
  exact (halike.decodeFile shown m).eq.symm

/-! ### A file with a calibration -/

section Appended

variable {d : Bytes} {p : ℕ}

theorem elem_append (t : Bytes) (h : p + 8 ≤ d.length) :
    recordLayout.elem (d ++ t) p = recordLayout.elem d p :=
  congrArg (recordLayout.read p) (slice_append t h)

end Appended

section Files

/-- A section of the video pipe in its containers. -/
def pipeSection : Bytes :=
  (ascii "LISP" ++ [128, 1, 0].flatMap (toLe 4)) ++
    (ascii "DFLT" ++ [112, 1, 0].flatMap (toLe 4)) ++ nrSection

/-- A file with black levels and a section of the video pipe. -/
def fullFile : Bytes := tuningFile 412 ++ pipeSection

variable {d : Bytes} {q : ℕ}

theorem length_pipeSection : pipeSection.length = 128 := by decide +kernel

theorem length_fullFile : fullFile.length = 2444 := by
  rw [fullFile, List.length_append, length_tuningFile, length_pipeSection]

/-- The walk without a limit stops where the section of the video pipe
begins. -/
theorem stops_pipeSection (hlen : d.length = 2316) :
    recordLayout.Stops knownName 2444 (d ++ pipeSection) 2316 := by
  have hslice : slice (d ++ pipeSection) 2316 8 = slice pipeSection 0 8 := by
    rw [slice, List.drop_append, List.drop_eq_nil_of_le hlen.le, hlen,
      List.nil_append, slice]
  have helem : recordLayout.elem (d ++ pipeSection) 2316 =
      recordLayout.read 2316 (slice pipeSection 0 8) :=
    congrArg (recordLayout.read 2316) hslice
  refine fun _ => ⟨?_, ?_⟩
  · rw [List.length_append, hlen, length_pipeSection]
    decide
  · have hhead : slice pipeSection 0 8 = ascii "LISP" ++ toLe 4 128 := by
      decide +kernel
    rw [helem, hhead]
    decide

theorem fullFile_record (hq : Walked fullFile q) :
    Walked (tuningFile 412) q ∧ q + 12 ≤ 2316 ∧
      (nidAt fullFile q = 3 ∨ nidAt fullFile q = 31) := by
  have hlen := length_tuningFile 412
  have hstop := stops_pipeSection hlen
  have hfirst : recordLayout.elem fullFile 0x50 = ⟨0x50, 412, 0, 0, 3⟩ := by
    rw [fullFile, elem_append _ (by rw [hlen]; decide), tuningFile_firstRecord]
  have hlast : recordLayout.elem fullFile 0x1ec = ⟨0x1ec, 1824, 0, 0, 31⟩ := by
    rw [fullFile, elem_append _ (by rw [hlen]; decide), tuningFile_lastRecord 412]
  have hgo := goes_at hlen tuningFile_firstRecord (by decide) (by decide)
  have hgo' := goes_at hlen (tuningFile_lastRecord 412) (by decide) (by decide)
  have hreach := Layout.Reaches.next .start hgo
  rw [tuningFile_firstRecord] at hreach
  rw [Walked, length_fullFile] at hq
  rw [Walked, hlen]
  obtain rfl | ⟨-, hrest⟩ := hq.1.head
  · exact ⟨⟨.start, hgo⟩, by decide, .inl (congrArg Record.nid hfirst)⟩
  have hnext : 0x50 + recordLayout.size ⟨0x50, 412, 0, 0, 3⟩ = 0x1ec := by decide
  rw [hnext] at hreach
  rw [hfirst, hnext] at hrest
  obtain rfl | ⟨-, hrest⟩ := hrest.head
  · exact ⟨⟨hreach, hgo'⟩, by decide, .inr (congrArg Record.nid hlast)⟩
  have hend : 0x1ec + recordLayout.size ⟨0x1ec, 1824, 0, 0, 31⟩ = 2316 := by
    decide
  rw [hlast, hend] at hrest
  obtain rfl | ⟨hgo'', -⟩ := hrest.head
  · exact absurd hstop hq.2.not_stops
  · exact absurd hstop hgo''.not_stops

theorem fullFile_lutsInside : LutsInside fullFile := by
  intro q hq
  obtain ⟨hwalked, hroom, -⟩ := fullFile_record hq
  have hlen := length_tuningFile 412
  have helem : recordLayout.elem fullFile q = recordLayout.elem (tuningFile 412) q :=
    elem_append _ (by omega)
  have hnum : numAt fullFile q = numAt (tuningFile 412) q :=
    uint_append _ (by omega)
  rw [nidAt, sizeAt, helem, hnum]
  exact tuningFile_lutsInside q hwalked

theorem fullFile_firstFilled : FirstFilled fullFile := by
  have hfirst := tuningFile_firstFilled
  have hlen := length_tuningFile 412
  have hsame : ∀ {p n}, p + n ≤ 2316 →
      slice fullFile p n = slice (tuningFile 412) p n := fun hp =>
    slice_append _ (by rwa [hlen])
  have hstop : 0x38 + word fullFile 0x3c = 2316 := by
    have hword : word fullFile 0x3c = word (tuningFile 412) 0x3c :=
      uint_append _ (by rw [hlen]; decide)
    obtain ⟨hhead, -⟩ := tuningFile_at 412
    have hsize : word (tuningFile 412) 0x3c = 2260 :=
      hhead.uint_inside (q := 0x3c) (by decide)
    rw [hword, hsize]
  have hgoes : ∀ {p r}, recordLayout.elem (tuningFile 412) p = r → p + 8 ≤ 2316 →
      recordLayout.Taken knownName 2316 p r →
        recordLayout.Goes knownName 2316 fullFile p := by
    intro p r helem hroom htaken
    refine ⟨hroom, ?_, ?_⟩
    · rw [length_fullFile]
      exact hroom.trans (by decide)
    · rw [fullFile, elem_append _ (by rwa [hlen]), helem]
      exact htaken
  have hlast : Filled fullFile 2316 0x1ec := by
    refine .record (hgoes (tuningFile_lastRecord 412) (by decide) (by decide)) ?_
    rw [fullFile, elem_append _ (by rw [hlen]; decide), tuningFile_lastRecord 412]
    exact .full
  have hfilled : Filled fullFile 2316 0x50 := by
    refine .record (hgoes tuningFile_firstRecord (by decide) (by decide)) ?_
    rw [fullFile, elem_append _ (by rw [hlen]; decide), tuningFile_firstRecord]
    exact hlast
  exact
    { magic := (hsame (by decide)).trans hfirst.magic
      short := by rw [length_fullFile]; decide
      lcmc := (hsame (by decide)).trans hfirst.lcmc
      dflt := (hsame (by decide)).trans hfirst.dflt
      aiqb := (hsame (by decide)).trans hfirst.aiqb
      filled := by rw [hstop]; exact hfilled
      followed := by
        refine .inr ?_
        have hslice : slice fullFile 2316 4 = slice pipeSection 0 4 := by
          rw [slice, fullFile, List.drop_append, List.drop_eq_nil_of_le hlen.le,
            hlen, List.nil_append, slice]
        rw [hstop, hslice]
        decide }

theorem fullFile_tablesInside : TablesInside fullFile where
  luts := fullFile_lutsInside
  segments q hq hnid := by
    obtain ⟨-, -, hname | hname⟩ := fullFile_record hq <;>
      exact absurd (hname.symm.trans hnid) (by decide)
  lights q hq hnid := by
    obtain ⟨-, -, hname | hname⟩ := fullFile_record hq <;>
      exact absurd (hname.symm.trans hnid) (by decide)

theorem fullFile_axesInside : AxesInside fullFile := by
  have hfound : walkFrom sectionTags fullFile 8 .start =
      some [⟨"LCMC/DFLT", 0x38, 2316⟩, ⟨"LISP/DFLT", 2348, 2444⟩] := by
    decide +kernel
  intro s hs hlisp p hp q hq
  have hlcmc : ("LCMC/DFLT".startsWith "LISP") = false := by decide +kernel
  obtain rfl | hs := List.mem_cons.mp (hs.mem hfound)
  · rw [hlcmc] at hlisp
    cases hlisp
  obtain rfl := List.mem_singleton.mp hs
  have hrecord : recordLayout.after fullFile 2372 = 2444 := by
    decide +kernel
  have hstart : Section.start ⟨"LISP/DFLT", 2348, 2444⟩ = 2372 := rfl
  have hlast : p = 2372 := by
    have hadvances := hp.advances
    have hlimit : recordLayout.after fullFile p ≤ 2444 := hp.le_limit
    obtain hp | ⟨-, hrest⟩ := hp.1.head
    · exact hp
    · have hle := hrest.le
      rw [hstart] at hle
      rw [Layout.after] at hrecord
      omega
  subst hlast
  have hsub : subrecordLayout.after fullFile 2380 = 2444 := by
    decide +kernel
  have hbody : 2372 + 8 = 2380 := rfl
  have honly : q = 2380 := by
    have hadvances := hq.advances
    have hlimit := hq.le_limit
    obtain hq | ⟨-, hrest⟩ := hq.1.head
    · exact hq
    · have hle := hrest.le
      rw [hbody] at hle
      rw [Layout.after] at hsub
      omega
  subst honly
  show 2380 + 28 + 4 * min _ 8 ≤ 2444 + 0x14
  omega

theorem decodeFile_patch_fullFile :
    ∃ out, patch exactFloats 8 fullFile = (.ok (), out) ∧
      ∀ command, (decodeFile id id plain 8 command out).1 =
        (decodeFile id id plain 8 command fullFile).1 := by
  have hpatch : patch exactFloats 8 fullFile = (.ok (), _) :=
    patch_finishes (by decide +kernel)
  have hfound : walkFrom nrSectionTags fullFile 8 .start =
      some [⟨"LCMC/DFLT", 0x38, 2316⟩, ⟨"LISP/DFLT", 2348, 2444⟩] := by
    decide +kernel
  have hfit : HeadersFit fullFile := headersFit_of_found hfound (by decide)
  refine ⟨_, hpatch, fun command => ?_⟩
  exact decodeFile_patch id id plain exactFloats 8 8 fullFile _ command
    hpatch hfit (fun _ => fullFile_axesInside) fun _ =>
      ⟨fullFile_firstFilled, fullFile_tablesInside⟩

end Files

end Aiqb
end SurfaceCameras
