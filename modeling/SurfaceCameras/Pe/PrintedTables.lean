import SurfaceCameras.Pe.EntryRuns

/-!
# The tables that are printed

When `.rdata` is in the file, `extract_tables` comes to its end and prints the
long runs that its scan finds, each one whole and once.  A table is missed if
the scan jumps over its start, which happens to every second run of a chain.
-/

namespace SurfaceCameras
namespace Pe

open Bytes

section Reading

variable (d : Bytes) (s : PeSection)

/-- The entry at `p`, of a section that is in the file. -/
def accepted (p : ℤ) : Option Entry :=
  if p < s.raw ∨ s.raw + s.size < p + 16 then none
  else accept (slice d p.toNat 16)

variable {d s}

theorem entry_ok (hin : s.raw + s.size ≤ d.length) (p : ℤ) :
    entry d s p = .ok (accepted d s p) := by
  by_cases hout : p < s.raw ∨ s.raw + s.size < p + 16
  · rw [entry, accepted, if_pos hout, if_pos hout]
    rfl
  · have hroom : p.toNat + 16 ≤ d.length := by omega
    rw [entry, accepted, if_neg hout, if_neg hout, unpackFrom, if_pos hroom]
    rfl

theorem accepted_inside {p : ℤ} (h : (accepted d s p).isSome) :
    (s.raw : ℤ) ≤ p ∧ p + 16 ≤ s.raw + s.size := by
  by_contra hnot
  rw [accepted, if_pos (by omega)] at h
  cases h

/-- The words of an entry. -/
theorem accepted_words {p : ℤ} (h : (accepted d s p).isSome) :
    word d p.toNat = 0 ∧ 0 < word d (p.toNat + 4) ∧ 0 < word d (p.toNat + 8) := by
  obtain ⟨hlo, hhi⟩ := accepted_inside h
  have hflag : word (slice d p.toNat 16) 0 = word d p.toNat :=
    uint_slice d _ (by decide)
  have hsz : word (slice d p.toNat 16) 4 = word d (p.toNat + 4) :=
    uint_slice d _ (by decide)
  have hreg : word (slice d p.toNat 16) 8 = word d (p.toNat + 8) :=
    uint_slice d _ (by decide)
  rw [accepted, if_neg (by omega), accept, hflag, hsz, hreg] at h
  by_contra hnot
  rw [if_pos (by omega)] at h
  cases h

/-- An entry has no zero in its second and third word. -/
theorem accepted_spaced (d : Bytes) (s : PeSection) :
    Spaced (accepted d s) s.raw (s.raw + s.size) where
  inside h := accepted_inside h
  four {p} h := by
    by_contra hsome
    have h' := Option.isSome_iff_ne_none.mpr hsome
    have hlo := (accepted_inside h).1
    have hflag := (accepted_words h').1
    have hsz := (accepted_words h).2.1
    rw [show (p + 4).toNat = p.toNat + 4 by omega] at hflag
    omega
  eight {p} h := by
    by_contra hsome
    have h' := Option.isSome_iff_ne_none.mpr hsome
    have hlo := (accepted_inside h).1
    have hflag := (accepted_words h').1
    have hreg := (accepted_words h).2.2
    rw [show (p + 8).toNat = p.toNat + 8 by omega] at hflag
    omega

theorem entriesFrom_none (hin : s.raw + s.size ≤ d.length) {q : ℤ} (n : ℕ)
    (hq : accepted d s q = none) : entriesFrom d s (n + 1) q = .ok ([], q) := by
  rw [entriesFrom, entry_ok hin, hq]
  rfl

theorem entriesFrom_some (hin : s.raw + s.size ≤ d.length) {q q' : ℤ} {n : ℕ}
    {r : Entry} {regs : List Entry} (hq : accepted d s q = some r)
    (hrest : entriesFrom d s n (q + 16) = .ok (regs, q')) :
    entriesFrom d s (n + 1) q = .ok (r :: regs, q') := by
  rw [entriesFrom, entry_ok hin, hq]
  change (entriesFrom d s n (q + 16) >>= _) = _
  rw [hrest]
  rfl

theorem entriesFrom_ok (hin : s.raw + s.size ≤ d.length) (n : ℕ) (q : ℤ)
    (hn : (s.raw + s.size : ℤ) < q + 16 * n) :
    entriesFrom d s (n + 1) q =
      .ok (regsAt (accepted d s) n q,
        q + 16 * (regsAt (accepted d s) n q).length) := by
  induction n generalizing q with
  | zero =>
      have hnone : accepted d s q = none := by
        by_contra hsome
        have hhi := (accepted_inside (Option.isSome_iff_ne_none.mpr hsome)).2
        omega
      rw [entriesFrom_none hin 0 hnone]
      simp [regsAt]
  | succ n ih =>
      cases hq : accepted d s q with
      | none =>
          rw [entriesFrom_none hin (n + 1) hq]
          simp [regsAt, hq]
      | some r =>
          rw [entriesFrom_some hin hq (ih (q + 16) (by omega)), regsAt, hq,
            List.length_cons]
          congr 2
          omega

end Reading

/-! ## The scan -/

section Scanning

variable {d : Bytes} {s : PeSection} {p : ℤ} {n : ℕ}

/-- The scan of `.rdata` comes from the first position to the second. -/
def ScansTo (d : Bytes) (s : PeSection) : ℤ → ℤ → Prop :=
  Scans (nextAt (accepted d s) s.size) (s.raw + s.size - 15)

/-- A long run that is found is printed. -/
structure Prints (d : Bytes) (s : PeSection) (p : ℤ) (t : Printed) (q : ℤ) :
    Prop where
  found : ScansTo d s p q
  start : IsStart (accepted d s) q
  long : 8 ≤ (regsAt (accepted d s) s.size q).length
  printed : t = printTable s q (regsAt (accepted d s) s.size q)

theorem scanFrom_stop (hp : ¬ p + 16 ≤ s.raw + s.size) (n : ℕ) :
    scanFrom d s (n + 1) p = .ok [] := by
  rw [scanFrom, if_neg hp]
  rfl

theorem scanFrom_start (hin : s.raw + s.size ≤ d.length)
    (hp : IsStart (accepted d s) p) {out : List Printed}
    (hrest : scanFrom d s n (nextAt (accepted d s) s.size p) = .ok out) :
    scanFrom d s (n + 1) p =
      .ok (if 8 ≤ (regsAt (accepted d s) s.size p).length then
        printTable s p (regsAt (accepted d s) s.size p) :: out else out) := by
  obtain ⟨hlo, hhi⟩ := accepted_inside hp.1
  have hentries := entriesFrom_ok hin s.size p (by omega)
  have hbefore : (accepted d s (p - 16)).isNone := by rw [hp.2]; rfl
  rw [nextAt, if_pos hp] at hrest
  rw [scanFrom, if_pos hhi, entry_ok hin]
  change ((if (accepted d s p).isSome then entry d s (p - 16) else pure none)
    >>= _) = _
  rw [if_pos hp.1, entry_ok hin]
  change (if (accepted d s p).isSome ∧ (accepted d s (p - 16)).isNone then _
    else _) = _
  rw [if_pos ⟨hp.1, hbefore⟩, hentries]
  change (scanFrom d s n _ >>= _) = _
  rw [hrest]
  rfl

theorem scanFrom_next (hin : s.raw + s.size ≤ d.length)
    (hroom : p + 16 ≤ s.raw + s.size) (hp : ¬ IsStart (accepted d s) p) :
    scanFrom d s (n + 1) p = scanFrom d s n (p + 4) := by
  rw [scanFrom, if_pos hroom, entry_ok hin]
  change ((if (accepted d s p).isSome then entry d s (p - 16) else pure none)
    >>= _) = _
  by_cases hsome : (accepted d s p).isSome
  · rw [if_pos hsome, entry_ok hin]
    change (if (accepted d s p).isSome ∧ (accepted d s (p - 16)).isNone then _
      else _) = _
    rw [if_neg]
    rintro ⟨hsome, hnone⟩
    exact hp ⟨hsome, Option.isNone_iff_eq_none.mp hnone⟩
  · rw [if_neg hsome]
    change (if (accepted d s p).isSome ∧ _ then _ else _) = _
    rw [if_neg fun h => hsome h.1]

theorem not_prints (hp : ¬ p + 16 ≤ s.raw + s.size) {t : Printed} {q : ℤ} :
    ¬ Prints d s p t q := by
  rintro ⟨hfound, hstart, -, -⟩
  obtain rfl | ⟨hlt, -⟩ := hfound.head
  · exact hp (accepted_inside hstart.1).2
  · omega

/-- What is printed from `p` on: the run at `p`, if it is long, and what is
printed from the next position on. -/
theorem prints_next (hp : p + 16 ≤ s.raw + s.size) {t : Printed} {q : ℤ} :
    Prints d s p t q ↔ Prints d s p t p ∧ q = p ∨
      Prints d s (nextAt (accepted d s) s.size p) t q := by
  have hstop : p < s.raw + s.size - 15 := by omega
  constructor
  · rintro ⟨hfound, hstart, hlong, hprinted⟩
    obtain rfl | hrest := (Scans.iff_next hstop).mp hfound
    · exact .inl ⟨⟨hfound, hstart, hlong, hprinted⟩, rfl⟩
    · exact .inr ⟨hrest, hstart, hlong, hprinted⟩
  · rintro (⟨hprints, rfl⟩ | ⟨hfound, hstart, hlong, hprinted⟩)
    · exact hprints
    · exact ⟨Scans.of_next hstop hfound, hstart, hlong, hprinted⟩

theorem printTable_va (s : PeSection) (p : ℤ) (regs : List Entry) :
    (printTable s p regs).va = 0x140000000 + s.va + p - s.raw := rfl

theorem Prints.va {t : Printed} {q : ℤ} (h : Prints d s p t q) :
    t.va = 0x140000000 + s.va + q - s.raw := by
  rw [h.printed, printTable_va]

/-- The scan comes to its end, and prints every long run it finds, in order. -/
theorem scanFrom_ok (hin : s.raw + s.size ≤ d.length) (hsize : 0 < s.size)
    (n : ℕ) (p : ℤ) (hn : (s.raw + s.size - 15 : ℤ) ≤ p + n) :
    ∃ out, scanFrom d s (n + 1) p = .ok out ∧
      (∀ t, t ∈ out ↔ ∃ q, Prints d s p t q) ∧
      out.Pairwise fun t t' => t.va < t'.va := by
  induction n generalizing p with
  | zero =>
      have hend : ¬ p + 16 ≤ s.raw + s.size := by omega
      refine ⟨[], scanFrom_stop hend 0, fun t => ?_, .nil⟩
      exact iff_of_false List.not_mem_nil fun ⟨q, hq⟩ => not_prints hend hq
  | succ n ih =>
      by_cases hroom : p + 16 ≤ s.raw + s.size
      · have hlt := lt_nextAt (e := accepted d s) hsize p
        obtain ⟨out, hrun, hout, hsorted⟩ :=
          ih (nextAt (accepted d s) s.size p) (by omega)
        have hmem : ∀ t, (∃ q, Prints d s p t q) ↔
            Prints d s p t p ∨ t ∈ out := fun t => by
          rw [hout]
          constructor
          · rintro ⟨q, hq⟩
            exact ((prints_next hroom).mp hq).imp And.left fun h => ⟨q, h⟩
          · rintro (hp | ⟨q, hq⟩)
            · exact ⟨p, hp⟩
            · exact ⟨q, (prints_next hroom).mpr (.inr hq)⟩
        by_cases hstart : IsStart (accepted d s) p
        · have hscan := scanFrom_start hin hstart hrun
          by_cases hlong : 8 ≤ (regsAt (accepted d s) s.size p).length
          · rw [if_pos hlong] at hscan
            refine ⟨_, hscan, fun t => ?_, List.pairwise_cons.mpr ⟨?_, hsorted⟩⟩
            · rw [hmem, List.mem_cons]
              exact or_congr_left
                ⟨fun h => ⟨Scans.refl p, hstart, hlong, h⟩, Prints.printed⟩
            · intro t ht
              obtain ⟨q, hq⟩ := (hout t).mp ht
              have hle := hq.found.le (lt_nextAt hsize)
              rw [hq.va, printTable_va]
              omega
          · rw [if_neg hlong] at hscan
            refine ⟨_, hscan, fun t => ?_, hsorted⟩
            rw [hmem]
            exact (or_iff_right fun h => hlong h.long).symm
        · refine ⟨out, ?_, fun t => ?_, hsorted⟩
          · rw [scanFrom_next hin hroom hstart]
            rwa [nextAt, if_neg hstart] at hrun
          · rw [hmem]
            exact (or_iff_right fun h => hstart h.start).symm
      · refine ⟨[], scanFrom_stop hroom (n + 1), fun t => ?_, .nil⟩
        exact iff_of_false List.not_mem_nil fun ⟨q, hq⟩ => not_prints hroom hq

end Scanning

/-! ## Lines -/

theorem lines_flatten (regs : List Entry) : (lines regs).flatten = regs := by
  have htake : ∀ k, ((List.range k).map fun i =>
      (regs.drop (10 * i)).take 10).flatten = regs.take (10 * k) := by
    intro k
    induction k with
    | zero => rfl
    | succ k ih =>
        rw [List.range_succ, List.map_append, List.flatten_append, ih,
          List.map_singleton, List.flatten_singleton, Nat.mul_succ,
          List.take_add]
  rw [lines, htake, List.take_of_length_le (by omega)]

/-! ## The tables of a driver -/

/-- A register table of the section: a long run of entries. -/
structure Table (d : Bytes) (s : PeSection) (p : ℤ) (regs : List Entry) :
    Prop where
  aligned : 4 ∣ p - s.raw
  run : MaximalRun (accepted d s) p regs
  long : 8 ≤ regs.length

/-- What is printed shows this table, and all of it. -/
structure Shows (s : PeSection) (t : Printed) (p : ℤ) (regs : List Entry) :
    Prop where
  va : t.va = 0x140000000 + s.va + p - s.raw
  count : t.count = regs.length
  lines : t.lines.flatten = regs

/-- Every table is printed once, and nothing else is. -/
structure PrintsAll (d : Bytes) (s : PeSection) (out : List Printed) : Prop where
  once : out.Pairwise fun t t' => t.va ≠ t'.va
  complete : ∀ p regs, Table d s p regs → ∃ t ∈ out, Shows s t p regs
  nothingElse : ∀ t ∈ out, ∃ p regs, Table d s p regs ∧ Shows s t p regs

section Tables

variable {d : Bytes} {s : PeSection} {p : ℤ} {regs : List Entry}

theorem Table.isStart (h : Table d s p regs) : IsStart (accepted d s) p := by
  have hlong := h.long
  exact h.run.isStart (by omega)

theorem Table.regs_eq (h : Table d s p regs) :
    regsAt (accepted d s) s.size p = regs := by
  obtain ⟨hlo, hhi⟩ := accepted_inside h.isStart.1
  have hrun := h.isStart.maximalRun (accepted_spaced d s) (n := s.size) (by omega)
  exact hrun.unique h.run

/-- The scan finds a table exactly if it is the first of a chain, the third,
and so on. -/
theorem Table.chained_iff (h : Table d s p regs) :
    Chained (accepted d s) true p ↔ ScansTo d s s.raw p := by
  obtain ⟨hlo, hhi⟩ := accepted_inside h.isStart.1
  exact (Pe.chained_iff (accepted_spaced d s) (by omega) (by omega) h.isStart
    h.aligned).1

theorem Prints.table {t : Printed} (h : Prints d s s.raw t p) :
    Table d s p (regsAt (accepted d s) s.size p) := by
  obtain ⟨hlo, hhi⟩ := accepted_inside h.start.1
  have hrun := h.start.maximalRun (accepted_spaced d s) (n := s.size) (by omega)
  exact ⟨dvd_of_scans h.found, hrun, h.long⟩

theorem Prints.shows {t : Printed} {a : ℤ} (h : Prints d s a t p) :
    Shows s t p (regsAt (accepted d s) s.size p) := by
  obtain ⟨-, -, -, rfl⟩ := h
  exact ⟨rfl, rfl, lines_flatten _⟩

theorem Table.prints (h : Table d s p regs) (hfound : ScansTo d s s.raw p) :
    Prints d s s.raw (printTable s p regs) p := by
  have hregs := h.regs_eq
  exact ⟨hfound, h.isStart, by rw [hregs]; exact h.long, by rw [hregs]⟩

/-- `main` comes to its end, and prints the tables that its scan finds. -/
theorem main_ok (hs : rdata d = .ok s) (hin : s.raw + s.size ≤ d.length) :
    ∃ out, main d = .ok out ∧
      (∀ t, t ∈ out ↔ ∃ q, Prints d s s.raw t q) ∧
      out.Pairwise fun t t' => t.va < t'.va := by
  have hmain : main d = scanFrom d s (s.size + 1) s.raw := by
    rw [main, hs]
    rfl
  rw [hmain]
  obtain hzero | hsize := Nat.eq_zero_or_pos s.size
  · have hend : ¬ (s.raw : ℤ) + 16 ≤ s.raw + s.size := by omega
    refine ⟨[], scanFrom_stop hend _, fun t => ?_, .nil⟩
    exact iff_of_false List.not_mem_nil fun ⟨q, hq⟩ => not_prints hend hq
  · exact scanFrom_ok hin hsize s.size s.raw (by omega)

/-- If the section is in the file, every table is printed if and only if none
comes second in a chain of runs, or fourth, and so on. -/
theorem main_printsAll_iff (d : Bytes) (s : PeSection) (hs : rdata d = .ok s)
    (hin : s.raw + s.size ≤ d.length) :
    ∃ out, main d = .ok out ∧
      (PrintsAll d s out ↔
        ∀ p regs, Table d s p regs → Chained (accepted d s) true p) := by
  obtain ⟨out, hmain, hout, hsorted⟩ := main_ok hs hin
  refine ⟨out, hmain, ?_, ?_⟩
  · intro hall p regs htable
    obtain ⟨t, ht, hshows⟩ := hall.complete p regs htable
    obtain ⟨q, hq⟩ := (hout t).mp ht
    have hsame : q = p := by
      have hva := hshows.va
      have hva' := hq.va
      omega
    rw [htable.chained_iff, ← hsame]
    exact hq.found
  · intro hfirst
    have hcomplete : ∀ p regs, Table d s p regs → ∃ t ∈ out, Shows s t p regs := by
      intro p regs htable
      have hprints := htable.prints (htable.chained_iff.mp (hfirst p regs htable))
      have hshows := hprints.shows
      rw [htable.regs_eq] at hshows
      exact ⟨_, (hout _).mpr ⟨p, hprints⟩, hshows⟩
    have hnothing : ∀ t ∈ out, ∃ p regs, Table d s p regs ∧ Shows s t p regs := by
      intro t ht
      obtain ⟨q, hq⟩ := (hout t).mp ht
      exact ⟨q, _, hq.table, hq.shows⟩
    exact ⟨hsorted.imp fun hlt => hlt.ne, hcomplete, hnothing⟩

end Tables

/-! ## Small drivers -/

/-- A driver with `.rdata` as its only section, from `0x170` on. -/
def driver (bs : Bytes) : Bytes :=
  List.replicate 0x3c 0 ++ toLe 4 0x40 ++ List.replicate 6 0 ++ toLe 2 1 ++
    List.replicate 16 0 ++ toLe 2 0x20b ++ List.replicate 238 0 ++
    (rdataName ++ [0, 0]) ++ toLe 4 bs.length ++ toLe 4 0x1000 ++
    toLe 4 bs.length ++ toLe 4 0x170 ++ List.replicate 16 0 ++ bs

def driverSection (bs : Bytes) : PeSection where
  name := rdataName
  va := 0x1000
  raw := 0x170
  size := bs.length

/-- An entry of one byte. -/
def entryBytes (r : Entry) : Bytes :=
  toLe 4 0 ++ toLe 4 1 ++ toLe 4 r.1 ++ toLe 4 r.2

def eightRegs : List Entry :=
  (List.range 8).map fun i => (0x3800 + i, 0x01)

/-- Eight entries. -/
def tableBytes : Bytes := eightRegs.flatMap entryBytes

/-- Eight entries, the first of which begins in the last word of another one. -/
def hiddenBytes : Bytes := (entryBytes (0x0103, 0)).take 12 ++ tableBytes

/-- Nothing precedes the only table of the first one. -/
theorem driver_tableBytes_chained (p : ℤ) (regs : List Entry)
    (h : Table (driver tableBytes) (driverSection tableBytes) p regs) :
    Chained (accepted (driver tableBytes) (driverSection tableBytes)) true p := by
  have hstart := h.isStart
  obtain ⟨k, hk⟩ := h.aligned
  obtain ⟨hlo, hhi⟩ := accepted_inside hstart.1
  have honly : ∀ j ∈ List.range 29,
      IsStart (accepted (driver tableBytes) (driverSection tableBytes))
        (0x170 + 4 * j) → j = 0 := by
    decide +kernel
  have hraw : ((driverSection tableBytes).raw : ℤ) = 0x170 := rfl
  have hsize : ((driverSection tableBytes).size : ℤ) = 128 := by
    decide +kernel
  rw [hraw] at hk hlo hhi
  rw [hsize] at hhi
  obtain ⟨j, rfl⟩ := Int.eq_ofNat_of_zero_le (show 0 ≤ k by omega)
  have hp : p = 0x170 + 4 * j := by omega
  rw [hp] at hstart
  have hzero := honly j (List.mem_range.mpr (by omega)) hstart
  rw [hp]
  refine .first hstart ?_
  rw [hzero]
  decide +kernel

/-- It is printed, and nothing else. -/
theorem driver_tableBytes_printsAll :
    ∃ out, main (driver tableBytes) = .ok out ∧
      PrintsAll (driver tableBytes) (driverSection tableBytes) out := by
  obtain ⟨out, hmain, hall⟩ := main_printsAll_iff (driver tableBytes)
    (driverSection tableBytes) (by decide +kernel) (by decide +kernel)
  exact ⟨out, hmain, hall.mpr driver_tableBytes_chained⟩

theorem driver_hiddenBytes_table :
    Table (driver hiddenBytes) (driverSection hiddenBytes) 0x17c eightRegs where
  aligned := by decide +kernel
  run := ⟨by decide +kernel, by decide +kernel, by decide +kernel⟩
  long := by decide +kernel

/-- Of a table that is hidden behind another entry, nothing is printed. -/
theorem driver_hiddenBytes_missed :
    ¬ ∀ (d : Bytes) (s : PeSection), rdata d = .ok s →
      s.raw + s.size ≤ d.length →
      ∃ out, main d = .ok out ∧ PrintsAll d s out := by
  intro hclaim
  obtain ⟨out, hout, hall⟩ := hclaim (driver hiddenBytes)
    (driverSection hiddenBytes) (by decide +kernel) (by decide +kernel)
  have hempty : main (driver hiddenBytes) = .ok [] := by decide +kernel
  obtain rfl : [] = out := Except.ok.inj (hempty.symm.trans hout)
  obtain ⟨t, ht, -⟩ := hall.complete _ _ driver_hiddenBytes_table
  exact List.not_mem_nil ht

end Pe
end SurfaceCameras
