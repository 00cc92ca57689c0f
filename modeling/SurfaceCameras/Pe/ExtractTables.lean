import SurfaceCameras.Support.Bytes
import Mathlib.Data.Int.Notation
import Mathlib.Data.List.DropRight

/-!
# Extracting register tables

`extract_tables` prints the register tables of a Windows driver: runs of
entries of sixteen bytes in its `.rdata` section.  It looks for the start of a
run at every fourth byte, and goes on after the run once it has found one.
-/

namespace SurfaceCameras
namespace Pe

open Bytes

/-- How the script ends without finishing: bytes that are not in the file, no
section of that name, or not at all. -/
inductive Stop where
  | structError
  | keyError
  | endless
  deriving DecidableEq, Repr

/-- `struct.unpack_from` of a format of `n` bytes at `p`. -/
def unpackFrom (d : Bytes) (p n : ℕ) : Except Stop Bytes :=
  if p + n ≤ d.length then .ok (slice d p n) else .error .structError

/-! ## Sections -/

/-- What is kept of a section header: the name, without the zeros after it, the
address in memory, and where the section is in the file. -/
structure PeSection where
  name : Bytes
  va : ℕ
  raw : ℕ
  size : ℕ
  deriving DecidableEq, Repr

/-- The section headers from `off` on. -/
def sectionHeaders (d : Bytes) : ℕ → ℕ → Except Stop (List PeSection)
  | 0, _ => pure []
  | nsec + 1, off => do
      let bs ← unpackFrom d (off + 8) 16
      let rest ← sectionHeaders d nsec (off + 40)
      pure
        ({ name := (slice d off 8).rdropWhile (· = 0)
           va := word bs 4
           raw := word bs 12
           size := word bs 8 } :: rest)

def sections (d : Bytes) : Except Stop (List PeSection) := do
  let pe ← unpackFrom d 0x3c 4
  let nsec ← unpackFrom d (word pe 0 + 6) 2
  let magic ← unpackFrom d (word pe 0 + 24) 2
  sectionHeaders d (uint nsec 0 2)
    (word pe 0 + 24 + if uint magic 0 2 = 0x20b then 240 else 224)

/-- `.rdata` -/
def rdataName : Bytes := [0x2e, 0x72, 0x64, 0x61, 0x74, 0x61]

/-- The section of that name; of several, the last one. -/
def rdata (d : Bytes) : Except Stop PeSection := do
  let secs ← sections d
  match secs.reverse.find? fun s => decide (s.name = rdataName) with
  | none => .error .keyError
  | some s => pure s

/-! ## Entries -/

/-- A register and its value. -/
abbrev Entry : Type := ℕ × ℕ

/-- What sixteen bytes stand for, if they can be an entry. -/
def accept (bs : Bytes) : Option Entry :=
  if word bs 0 ≠ 0 ∨ ¬ (word bs 4 = 1 ∨ word bs 4 = 2) ∨
      ¬ (0x0100 ≤ word bs 8 ∧ word bs 8 < 0x6000) ∨ 0xffff < word bs 12 then none
  else some (word bs 8, word bs 12)

/-- A table that was printed: its address, how many registers it says it has,
and the registers, line by line. -/
structure Printed where
  va : ℤ
  count : ℕ
  lines : List (List Entry)
  deriving DecidableEq, Repr

/-- Ten registers in a line. -/
def lines (regs : List Entry) : List (List Entry) :=
  (List.range ((regs.length + 9) / 10)).map fun i =>
    (regs.drop (10 * i)).take 10

section Scanning

variable (d : Bytes) (s : PeSection)

/-- The entry at `p`, if there is one. -/
def entry (p : ℤ) : Except Stop (Option Entry) :=
  if p < s.raw ∨ s.raw + s.size < p + 16 then pure none
  else do
    let bs ← unpackFrom d p.toNat 16
    pure (accept bs)

/-- The entries from `q` on, and where they end. -/
def entriesFrom : ℕ → ℤ → Except Stop (List Entry × ℤ)
  | 0, _ => .error .endless
  | n + 1, q => do
      match ← entry d s q with
      | none => pure ([], q)
      | some r => do
          let (regs, q') ← entriesFrom n (q + 16)
          pure (r :: regs, q')

/-- What is printed of the entries from `p` on. -/
def printTable (p : ℤ) (regs : List Entry) : Printed where
  va := 0x140000000 + s.va + p - s.raw
  count := regs.length
  lines := lines regs

/-- The loop of `main`, with at most `n` iterations from `p` on. -/
def scanFrom : ℕ → ℤ → Except Stop (List Printed)
  | 0, _ => .error .endless
  | n + 1, p =>
      if p + 16 ≤ s.raw + s.size then do
        let here ← entry d s p
        let before ← (if here.isSome then entry d s (p - 16) else pure none)
        if here.isSome ∧ before.isNone then do
          let (regs, q) ← entriesFrom d s (s.size + 1) p
          let rest ← scanFrom n q
          pure (if 8 ≤ regs.length then printTable s p regs :: rest else rest)
        else scanFrom n (p + 4)
      else pure []

end Scanning

/-- `main` -/
def main (d : Bytes) : Except Stop (List Printed) := do
  let s ← rdata d
  scanFrom d s (s.size + 1) s.raw

end Pe
end SurfaceCameras
