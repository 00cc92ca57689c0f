import SurfaceCameras.Kernel.Moves
import SurfaceCameras.Kernel.Sensor

/-!
# Programs that only talk to the sensor

A program that neither changes the driver's state nor catches an error makes a
fixed list of register writes.  A transfer that fails cuts the list short; a
program that returns has made all of it.
-/

namespace SurfaceCameras
namespace Kernel

open Prog MaskedWrites

variable {δ : Type}

/-- The driver's state is `d`, and the registers hold `r`. -/
def At (d : δ) (r : Registers) (s : Machine δ) : Prop :=
  s.dev = d ∧ s.bus.regs = r

theorem At.update {τ : Type} {d : δ} {r : Registers} {s : Machine δ}
    (h : At d r s) (F : Field δ τ) (f : τ → τ) :
    At (F.update f d) r (F.ofDev.update f s) :=
  ⟨congrArg (F.update f) h.1, h.2⟩

/-- Some of the writes `ws`, from the first on, have been made to `r`. -/
def Partway (d : δ) (ws : List MaskedWrite) (r : Registers) (s : Machine δ) :
    Prop :=
  ∃ vs, vs <+: ws ∧ At d (applyAll vs r) s

theorem Partway.none {d : δ} {r : Registers} {s : Machine δ} (h : At d r s)
    (ws : List MaskedWrite) : Partway d ws r s :=
  ⟨[], List.nil_prefix, h⟩

/-- A program that returns has made the writes `ws`; one that fails has made
some of them. -/
def Emits (p : Prog (Machine δ) Fault Unit) (ws : δ → List MaskedWrite) :
    Prop :=
  ∀ d r, Triple (At d r) p (fun _ => At d (applyAll (ws d) r))
    (fun _ => Partway d (ws d) r)

namespace Emits

variable {p q : Prog (Machine δ) Fault Unit} {ws vs : δ → List MaskedWrite}

theorem pure : Emits (Pure.pure () : Prog (Machine δ) Fault Unit)
    (fun _ => []) :=
  fun _ _ => Triple.pure fun _ hs => hs

theorem raise (e : Fault) : Emits (Prog.raise e) ws :=
  fun d _ => Triple.raise fun _ hs => Partway.none hs (ws d)

theorem congr (hp : Emits p ws) (h : ∀ d, ws d = vs d) : Emits p vs := by
  intro d r
  rw [← h d]
  exact hp d r

theorem seq (hp : Emits p ws) (hq : Emits q vs) :
    Emits (p >>= fun _ => q) (fun d => ws d ++ vs d) := by
  intro d r
  apply Triple.bind (Q := fun _ => At d (applyAll (ws d) r))
  · apply (hp d r).consequence (fun _ hs => hs) (fun _ _ hs => hs)
    rintro _ s ⟨us, hus, hs⟩
    exact ⟨us, hus.trans (List.prefix_append _ _), hs⟩
  · intro _
    apply (hq d (applyAll (ws d) r)).consequence (fun _ hs => hs)
    · intro _ s hs
      rw [applyAll_append]
      exact hs
    · rintro _ s ⟨us, hus, hs⟩
      refine ⟨ws d ++ us, List.prefix_append_right_inj _ |>.mpr hus, ?_⟩
      rw [applyAll_append]
      exact hs

theorem gets {α : Type} (g : δ → α) {p : α → Prog (Machine δ) Fault Unit}
    {w : α → δ → List MaskedWrite} (hp : ∀ a, Emits (p a) (w a)) :
    Emits (Prog.gets (fun s => g s.dev) >>= p) (fun d => w (g d) d) := by
  intro d r
  apply Triple.bind (Q := fun a s => At d r s ∧ a = g d)
  · apply Triple.gets
    intro s hs
    exact ⟨hs, congrArg g hs.1⟩
  · intro a
    apply Triple.of_fact
    rintro rfl
    exact hp (g d) d r

theorem when {c : Prop} [Decidable c] (hp : Emits p ws) :
    Emits (Prog.when c p) (fun d => if c then ws d else []) := by
  by_cases hc : c
  · rw [Prog.when_pos hc]
    exact hp.congr fun d => (if_pos hc).symm
  · rw [Prog.when_neg hc]
    exact pure.congr fun d => (if_neg hc).symm

end Emits

/-! ## Register accesses -/

theorem transfer_at (d : δ) (r : Registers) :
    Triple (At d r) (transfer Machine.busField) (fun _ => At d r)
      (fun _ => At d r) := by
  apply Triple.bind (Q := fun _ => At d r)
  · exact Triple.gets fun _ hs => hs
  intro b
  split
  · exact Triple.pure fun _ hs => hs
  · apply Triple.bind (Q := fun _ => At d r)
    · exact Triple.modify fun _ hs => hs
    · intro _
      apply Triple.ite
      · exact fun _ => Triple.raise fun _ hs => hs
      · exact fun _ => Triple.pure fun _ hs => hs

theorem busWrite_at (a : ℕ) (bytes : List (BitVec 8)) (d : δ)
    (r : Registers) :
    Triple (At d r) (busWrite Machine.busField a bytes)
      (fun _ => At d (Bus.storeBytes r a bytes)) (fun _ => At d r) := by
  apply Triple.bind (transfer_at d r)
  intro _
  apply Triple.modify
  rintro s ⟨rfl, rfl⟩
  exact ⟨rfl, rfl⟩

theorem busWrite_emits (a : ℕ) (bytes : List (BitVec 8)) :
    Emits (δ := δ) (busWrite Machine.busField a bytes)
      (fun _ => bytesAt a bytes) := by
  intro d r
  rw [← storeBytes_eq_applyAll]
  exact (busWrite_at a bytes d r).consequence (fun _ hs => hs)
    (fun _ _ hs => hs) fun _ _ hs => Partway.none hs _

theorem cciWrite_emits (reg n : ℕ) (val : ℤ) :
    Emits (δ := δ) (cciWrite reg n val)
      (fun _ => bytesAt reg (bigEndian n val)) :=
  busWrite_emits reg (bigEndian n val)

theorem cciUpdateBits_emits (reg : ℕ) (mask val : BitVec 8) :
    Emits (δ := δ) (cciUpdateBits reg mask val) (fun _ => [⟨reg, mask, val⟩]) := by
  intro d r
  apply Triple.bind (Q := fun x s => At d r s ∧ x = r reg)
  · apply Triple.bind (Q := fun _ => At d r)
    · exact (transfer_at d r).consequence (fun _ hs => hs) (fun _ _ hs => hs)
        fun _ _ hs => Partway.none hs _
    · intro _
      apply Triple.gets
      rintro s ⟨hdev, hregs⟩
      exact ⟨⟨hdev, hregs⟩, congrFun hregs reg⟩
  intro readval
  apply Triple.of_fact
  rintro rfl
  exact (busWrite_at reg _ d r).consequence (fun _ hs => hs)
    (fun _ _ hs => hs) fun _ _ hs => Partway.none hs _

theorem cciMultiRegWrite_emits (table : List (ℕ × BitVec 8)) :
    Emits (δ := δ) (cciMultiRegWrite table) (fun _ => tableWrites table) := by
  induction table with
  | nil => exact Emits.pure
  | cons x table ih => exact (busWrite_emits x.1 [x.2]).seq ih

end Kernel
end SurfaceCameras
