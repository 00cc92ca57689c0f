import Mathlib.Tactic.Common
import Mathlib.Data.Nat.Notation

/-!
# Programs with mutable state and exceptions

A program reads and writes a state `σ` and either returns a value or raises an
exception; what it wrote before raising stays written.  This file develops the
program type, its Hoare triples with one postcondition for a normal return and
one for an exception, and frames: relations between the state before and after
that every outcome of a program respects.

Nothing here refers to a particular state, exception type or program.
-/

namespace SurfaceCameras

/-- A program over the state `σ` that returns an `α` or raises an `ε`. -/
def Prog (σ ε α : Type) : Type := σ → Except ε α × σ

namespace Prog

variable {σ ε α β : Type}

instance : Monad (Prog σ ε) where
  pure a := fun s => (.ok a, s)
  bind p f := fun s =>
    match p s with
    | (.ok a, s') => f a s'
    | (.error e, s') => (.error e, s')

instance : LawfulMonad (Prog σ ε) :=
  LawfulMonad.mk' (Prog σ ε)
    (fun p => by
      funext s
      change (match p s with
        | (.ok a, s') => (.ok a, s')
        | (.error e, s') => (.error e, s')) = p s
      rcases p s with ⟨_ | _, s'⟩ <;> rfl)
    (fun _ _ => rfl)
    (fun p f g => by
      funext s
      change (match (match p s with
          | (.ok a, s') => f a s'
          | (.error e, s') => (.error e, s')) with
        | (.ok b, s') => g b s'
        | (.error e, s') => (.error e, s')) =
        (match p s with
          | (.ok a, s') => (match f a s' with
            | (.ok b, s'') => g b s''
            | (.error e, s'') => (.error e, s''))
          | (.error e, s') => (.error e, s'))
      rcases p s with ⟨_ | _, s'⟩ <;> rfl)

/-- Read a part of the state. -/
def gets (f : σ → α) : Prog σ ε α := fun s => (.ok (f s), s)

/-- Change the state. -/
def modify (f : σ → σ) : Prog σ ε Unit := fun s => (.ok (), f s)

/-- Raise an exception. -/
def raise (e : ε) : Prog σ ε α := fun s => (.error e, s)

/-- Run `p`; an exception goes to the handler, which may raise it again. -/
def tryCatch (p : Prog σ ε α) (handler : ε → Prog σ ε α) : Prog σ ε α :=
  fun s =>
    match p s with
    | (.ok a, s') => (.ok a, s')
    | (.error e, s') => handler e s'

/-- Run `final` after `p`, whichever way `p` ends; an exception of `final`
replaces the outcome of `p`.  Exceptions for which `skips` holds are not
followed by `final`. -/
def tryFinally (skips : ε → Bool) (p : Prog σ ε α) (final : Prog σ ε Unit) :
    Prog σ ε α :=
  fun s =>
    match p s with
    | (.ok a, s') => (final >>= fun _ => pure a) s'
    | (.error e, s') =>
        if skips e then (.error e, s') else (final >>= fun _ => raise e) s'

/-- Run `p`; an exception runs `undo` on its way. -/
def unwinding (undo : Prog σ ε Unit) (p : Prog σ ε α) : Prog σ ε α :=
  tryCatch p fun e => do
    undo
    raise e

/-- Run `p` only if `c` holds. -/
def when (c : Prop) [Decidable c] (p : Prog σ ε Unit) : Prog σ ε Unit :=
  if c then p else pure ()

/-- Repeat `body` at most `fuel` times, carrying the loop variables `β`, until
it leaves the loop with a result.  Without fuel the exception `out` is
raised. -/
def iterate (out : ε) (body : β → Prog σ ε (β ⊕ α)) : ℕ → β → Prog σ ε α
  | 0, _ => raise out
  | n + 1, b => body b >>= fun r =>
      match r with
      | .inl b' => iterate out body n b'
      | .inr a => pure a

/-- Run `p` on every element of a list, in order. -/
def forEach (p : β → Prog σ ε Unit) : List β → Prog σ ε Unit
  | [] => pure ()
  | b :: bs => p b >>= fun _ => forEach p bs

/-! ## How the operations run -/

@[simp] theorem pure_apply (a : α) (s : σ) :
    (pure a : Prog σ ε α) s = (.ok a, s) := rfl

@[simp] theorem gets_apply (f : σ → α) (s : σ) :
    (gets f : Prog σ ε α) s = (.ok (f s), s) := rfl

@[simp] theorem modify_apply (f : σ → σ) (s : σ) :
    (modify f : Prog σ ε Unit) s = (.ok (), f s) := rfl

@[simp] theorem raise_apply (e : ε) (s : σ) :
    (raise e : Prog σ ε α) s = (.error e, s) := rfl

theorem bind_apply (p : Prog σ ε α) (f : α → Prog σ ε β) (s : σ) :
    (p >>= f) s =
      match p s with
      | (.ok a, s') => f a s'
      | (.error e, s') => (.error e, s') := rfl

/-- A program that returns, and the state it leaves. -/
theorem eq_ok {p : Prog σ ε α} {s : σ} {a : α} (h : (p s).1 = .ok a) :
    p s = (.ok a, (p s).2) :=
  Prod.ext h rfl

theorem bind_ok {p : Prog σ ε α} {f : α → Prog σ ε β} {s s' : σ} {a : α}
    (h : p s = (.ok a, s')) : (p >>= f) s = f a s' := by
  simp only [bind_apply, h]

theorem bind_error {p : Prog σ ε α} {f : α → Prog σ ε β} {s s' : σ} {e : ε}
    (h : p s = (.error e, s')) : (p >>= f) s = (.error e, s') := by
  simp only [bind_apply, h]

/-- A sequence that returns has returned from its first part. -/
theorem bind_eq_ok {p : Prog σ ε α} {f : α → Prog σ ε β} {s s' : σ} {b : β}
    (h : (p >>= f) s = (.ok b, s')) :
    ∃ a s₁, p s = (.ok a, s₁) ∧ f a s₁ = (.ok b, s') := by
  rw [bind_apply] at h
  rcases hp : p s with ⟨e | a, s₁⟩
  · rw [hp] at h
    cases h
  · rw [hp] at h
    exact ⟨a, s₁, rfl, h⟩

/-- What a last step makes of the result. -/
theorem bind_pure_fst (p : Prog σ ε α) (g : α → β) (s : σ) :
    ((p >>= fun a => pure (g a)) s).1 = (p s).1.map g := by
  rw [bind_apply]
  rcases p s with ⟨e | a, s'⟩
  · rfl
  · rfl

/-- Reading something off the state at the end leaves it. -/
theorem bind_gets_state (p : Prog σ ε α) (f : σ → β) (s : σ) :
    ((p >>= fun _ => gets f) s).2 = (p s).2 := by
  rw [bind_apply]
  rcases p s with ⟨_ | _, s'⟩
  · rfl
  · rfl

theorem tryCatch_ok {p : Prog σ ε α} {handler : ε → Prog σ ε α}
    {s s' : σ} {a : α} (h : p s = (.ok a, s')) :
    tryCatch p handler s = (.ok a, s') := by
  simp only [tryCatch, h]

theorem tryCatch_error {p : Prog σ ε α} {handler : ε → Prog σ ε α}
    {s s' : σ} {e : ε} (h : p s = (.error e, s')) :
    tryCatch p handler s = handler e s' := by
  simp only [tryCatch, h]

/-- After `p`, `final` runs from the state that `p` leaves. -/
theorem tryFinally_ends {skips : ε → Bool} {p : Prog σ ε α}
    {final : Prog σ ε Unit} {s s₁ s' : σ} {x r : Except ε α}
    (hp : p s = (x, s₁)) (hskip : ∀ e, x = .error e → skips e = false)
    (h : tryFinally skips p final s = (r, s')) :
    ∃ y, final s₁ = (y, s') ∧ ∀ e, y = .error e → r = .error e := by
  have hx : ∀ k : Prog σ ε α, (final >>= fun _ => k) s₁ = (r, s') →
      (∀ t, (k t).2 = t) →
      ∃ y, final s₁ = (y, s') ∧ ∀ e, y = .error e → r = .error e := by
    intro k hk hkeep
    rcases hfinal : final s₁ with ⟨e | u, s₂⟩
    · rw [bind_error hfinal, Prod.mk.injEq] at hk
      refine ⟨.error e, ?_, ?_⟩
      · rw [hk.2]
      · rintro e' ⟨⟩
        exact hk.1.symm
    · rw [bind_ok hfinal] at hk
      have hs := hkeep s₂
      rw [hk] at hs
      refine ⟨.ok u, ?_, fun _ hu => by cases hu⟩
      rw [show s' = s₂ from hs]
  simp only [tryFinally, hp] at h
  cases x with
  | ok a => exact hx (pure a) h fun _ => rfl
  | error e =>
      simp only [hskip e rfl] at h
      exact hx (raise e) h fun _ => rfl

theorem unwinding_ok {undo : Prog σ ε Unit} {p : Prog σ ε α} {s s' : σ} {a : α}
    (h : p s = (.ok a, s')) : unwinding undo p s = (.ok a, s') :=
  tryCatch_ok h

theorem when_pos {c : Prop} [Decidable c] (hc : c) (p : Prog σ ε Unit) :
    when c p = p := if_pos hc

theorem when_neg {c : Prop} [Decidable c] (hc : ¬ c) (p : Prog σ ε Unit) :
    when c p = pure () := if_neg hc

/-- A check that returns has not raised. -/
theorem when_raise_ok {c : Prop} [Decidable c] {e : ε} {s s' : σ} {u : Unit}
    (h : when c (raise e) s = (.ok u, s')) : ¬ c ∧ s = s' := by
  by_cases hc : c
  · rw [when_pos hc] at h
    cases h
  · rw [when_neg hc] at h
    cases h
    exact ⟨hc, rfl⟩

section Iterate

variable {out : ε} {body : β → Prog σ ε (β ⊕ α)} {b b' : β} {s s' : σ}

/-- A round that goes on. -/
theorem iterate_next (h : body b s = (.ok (.inl b'), s')) (n : ℕ) :
    iterate out body (n + 1) b s = iterate out body n b' s' := by
  rw [iterate, bind_ok h]

/-- A round that leaves the loop. -/
theorem iterate_done {a : α} (h : body b s = (.ok (.inr a), s')) (n : ℕ) :
    iterate out body (n + 1) b s = (.ok a, s') := by
  rw [iterate, bind_ok h]
  rfl

theorem iterate_error {e : ε} (h : body b s = (.error e, s')) (n : ℕ) :
    iterate out body (n + 1) b s = (.error e, s') := by
  rw [iterate, bind_error h]

/-- Rounds that lower a measure are fewer than it. -/
theorem iterate_ends {μ : β → ℕ}
    (hround : ∀ b s b' s', body b s = (.ok (.inl b'), s') → μ b' < μ b)
    (herror : ∀ b s e s', body b s = (.error e, s') → e ≠ out) (n : ℕ) (b : β)
    (s : σ) (hn : μ b < n) : (iterate out body n b s).1 ≠ .error out := by
  induction n generalizing b s with
  | zero => exact absurd hn (Nat.not_lt_zero _)
  | succ n ih =>
      rcases h : body b s with ⟨e | r, s'⟩
      · rw [iterate_error h]
        exact fun heq => herror b s e s' h (Except.error.inj heq)
      · cases r with
        | inl b' =>
            rw [iterate_next h]
            have hless := hround b s b' s' h
            exact ih b' s' (by omega)
        | inr a =>
            rw [iterate_done h]
            exact fun heq => by cases heq

end Iterate

theorem forEach_nil (p : β → Prog σ ε Unit) : forEach p [] = pure () := rfl

theorem forEach_cons (p : β → Prog σ ε Unit) (b : β) (bs : List β) :
    forEach p (b :: bs) = p b >>= fun _ => forEach p bs := rfl

/-! ## Triples -/

/-- The outcome satisfies `Q` if it is a return and `E` if it is an
exception. -/
def Post (Q : α → σ → Prop) (E : ε → σ → Prop) : Except ε α × σ → Prop
  | (.ok a, s) => Q a s
  | (.error e, s) => E e s

/-- From every state in `P`, the program ends in `Q` or raises into `E`. -/
def Triple (P : σ → Prop) (p : Prog σ ε α) (Q : α → σ → Prop)
    (E : ε → σ → Prop) : Prop :=
  ∀ s, P s → Post Q E (p s)

namespace Triple

variable {P P' : σ → Prop} {Q Q' : α → σ → Prop} {E E' J : ε → σ → Prop}

theorem pure {a : α} (h : ∀ s, P s → Q a s) :
    Triple P (Pure.pure a : Prog σ ε α) Q E :=
  h

theorem gets {f : σ → α} (h : ∀ s, P s → Q (f s) s) :
    Triple P (Prog.gets f) Q E :=
  h

theorem modify {f : σ → σ} {Q : Unit → σ → Prop}
    (h : ∀ s, P s → Q () (f s)) :
    Triple P (Prog.modify f) Q E :=
  h

theorem raise {e : ε} (h : ∀ s, P s → E e s) :
    Triple P (Prog.raise e : Prog σ ε α) Q E :=
  h

theorem consequence {p : Prog σ ε α} (hp : Triple P' p Q' E')
    (hpre : ∀ s, P s → P' s) (hpost : ∀ a s, Q' a s → Q a s)
    (herr : ∀ e s, E' e s → E e s) : Triple P p Q E := by
  intro s hs
  have h := hp s (hpre s hs)
  revert h
  rcases p s with ⟨_ | _, s'⟩
  · exact herr _ s'
  · exact hpost _ s'

theorem strengthenPre {p : Prog σ ε α} (hp : Triple P' p Q E)
    (hpre : ∀ s, P s → P' s) : Triple P p Q E :=
  fun s hs => hp s (hpre s hs)

theorem bind {p : Prog σ ε α} {f : α → Prog σ ε β} {R : β → σ → Prop}
    (hp : Triple P p Q E) (hf : ∀ a, Triple (Q a) (f a) R E) :
    Triple P (p >>= f) R E := by
  intro s hs
  have h := hp s hs
  rw [bind_apply]
  revert h
  rcases p s with ⟨_ | a, s'⟩
  · exact id
  · exact hf a s'

/-- What follows a read knows what was read. -/
theorem gets_bind {f : σ → α} {k : α → Prog σ ε β} {R : β → σ → Prop}
    (hk : ∀ a, Triple (fun s => P s ∧ f s = a) (k a) R E) :
    Triple P (Prog.gets f >>= k) R E :=
  fun s hs => hk (f s) s ⟨hs, rfl⟩

theorem ite {c : Prop} {_ : Decidable c} {p q : Prog σ ε α}
    (hp : c → Triple P p Q E) (hq : ¬ c → Triple P q Q E) :
    Triple P (if c then p else q) Q E := by
  split
  · exact hp ‹_›
  · exact hq ‹_›

theorem when {c : Prop} {_ : Decidable c} {p : Prog σ ε Unit}
    {Q : Unit → σ → Prop} (hp : c → Triple P p Q E)
    (hskip : ¬ c → ∀ s, P s → Q () s) : Triple P (Prog.when c p) Q E :=
  Triple.ite hp fun hc => Triple.pure (hskip hc)

theorem tryCatch {p : Prog σ ε α} {handler : ε → Prog σ ε α}
    (hp : Triple P p Q J) (hh : ∀ e, Triple (J e) (handler e) Q E) :
    Triple P (Prog.tryCatch p handler) Q E := by
  intro s hs
  have h := hp s hs
  revert h
  unfold Prog.tryCatch
  rcases p s with ⟨e | _, s'⟩
  · exact hh e s'
  · exact id

theorem tryFinally {skips : ε → Bool} {p : Prog σ ε α}
    {final : Prog σ ε Unit} {K : α → σ → Prop} (hp : Triple P p K J)
    (hok : ∀ a, Triple (K a) final (fun _ => Q a) E)
    (herr : ∀ e, skips e = false →
      Triple (J e) final (fun _ => E e) E)
    (hskip : ∀ e s, skips e = true → J e s → E e s) :
    Triple P (Prog.tryFinally skips p final) Q E := by
  intro s hs
  have h := hp s hs
  revert h
  unfold Prog.tryFinally
  rcases p s with ⟨e | a, s'⟩
  · intro h
    cases hsk : skips e with
    | true =>
        simp only [hsk, if_true]
        exact hskip e s' hsk h
    | false =>
        simp only [hsk]
        exact Triple.bind (herr e hsk) (fun _ => Triple.raise fun _ => id) s' h
  · exact Triple.bind (hok a) (fun _ => Triple.pure fun _ => id) s'

theorem unwinding {undo : Prog σ ε Unit} {p : Prog σ ε α}
    (hp : Triple P p Q J)
    (hundo : ∀ e, Triple (J e) undo (fun _ => E e) (fun _ _ => False)) :
    Triple P (Prog.unwinding undo p) Q E := by
  apply Triple.tryCatch hp
  intro e
  apply Triple.bind (Q := fun _ => E e)
  · exact (hundo e).consequence (fun _ h => h) (fun _ _ h => h)
      fun _ _ h => h.elim
  · exact fun _ => Triple.raise fun _ h => h

/-- The loop rule: `I` is kept by every iteration that goes on, and gives the
postcondition when the loop is left. -/
theorem iterate {out : ε} {body : β → Prog σ ε (β ⊕ α)} {I : β → σ → Prop}
    (hbody : ∀ b, Triple (I b) (body b)
      (fun r s => Sum.elim (fun b' => I b' s) (fun a => Q a s) r) E)
    (hout : ∀ b s, I b s → E out s) :
    ∀ (fuel : ℕ) (b : β), Triple (I b) (Prog.iterate out body fuel b) Q E
  | 0, b => Triple.raise (hout b)
  | n + 1, b => by
      refine Triple.bind (hbody b) ?_
      rintro (b' | a)
      · exact iterate hbody hout n b'
      · exact Triple.pure fun _ h => h

/-- A list of steps keeps what each of them keeps. -/
theorem forEach {p : β → Prog σ ε Unit} (bs : List β)
    (hp : ∀ b ∈ bs, Triple P (p b) (fun _ => P) E) :
    Triple P (Prog.forEach p bs) (fun _ => P) E := by
  induction bs with
  | nil => exact Triple.pure fun _ h => h
  | cons b bs ih =>
      refine Triple.bind (hp b (by simp)) fun _ => ih ?_
      intro b' hb'
      exact hp b' (List.mem_cons_of_mem b hb')

/-- An invariant that looks at the steps still to come. -/
theorem forEach_rest {p : β → Prog σ ε Unit} {I : List β → σ → Prop}
    (hp : ∀ b bs, Triple (I (b :: bs)) (p b) (fun _ => I bs) E)
    (bs : List β) : Triple (I bs) (Prog.forEach p bs) (fun _ => I []) E := by
  induction bs with
  | nil => exact Triple.pure fun _ h => h
  | cons b bs ih => exact Triple.bind (hp b bs) fun _ => ih

/-- One step of a list gives `R`, which the steps after it keep. -/
theorem forEach_at {p : β → Prog σ ε Unit} {R : Unit → σ → Prop}
    {xs ys : List β} {b : β}
    (hxs : ∀ x ∈ xs, Triple P (p x) (fun _ => P) E)
    (hb : Triple P (p b) R E)
    (hys : ∀ y ∈ ys, Triple (R ()) (p y) R E) :
    Triple P (Prog.forEach p (xs ++ b :: ys)) R E := by
  induction xs with
  | nil => exact Triple.bind hb fun _ => Triple.forEach ys hys
  | cons x xs ih =>
      refine Triple.bind (hxs x (by simp)) fun _ => ih ?_
      intro x' hx'
      exact hxs x' (List.mem_cons_of_mem x hx')

/-- What holds whichever way a program ends holds of the state it leaves. -/
theorem final {p : Prog σ ε α} {R : σ → Prop}
    (hp : Triple P p (fun _ => R) (fun _ => R)) {s : σ} (hs : P s) :
    R (p s).2 := by
  have h := hp s hs
  revert h
  rcases p s with ⟨_ | _, s'⟩
  · exact id
  · exact id

/-- A program that always returns. -/
theorem final_of_returns {p : Prog σ ε α} {R : σ → Prop}
    (hp : Triple P p (fun _ => R) (fun _ _ => False)) {s : σ} (hs : P s) :
    R (p s).2 := by
  have h := hp s hs
  revert h
  rcases p s with ⟨_ | _, s'⟩
  · exact False.elim
  · exact id

/-- Nothing is claimed about the outcome. -/
theorem any (p : Prog σ ε α) :
    Triple P p (fun _ _ => True) (fun _ _ => True) := by
  intro s _
  rcases p s with ⟨_ | _, s'⟩ <;> trivial

/-- A handler that raises its exception again does not return. -/
theorem rethrow (undo : Prog σ ε Unit) (e : ε) :
    Triple P (undo >>= fun _ => Prog.raise e) Q (fun _ _ => True) :=
  Triple.bind (Triple.any undo) fun _ => Triple.raise fun _ _ => trivial

/-- What holds where a program returns holds with anything undone where it
does not. -/
theorem unwinding_returns {undo : Prog σ ε Unit} {p : Prog σ ε α}
    (hp : Triple P p Q (fun _ _ => True)) :
    Triple P (Prog.unwinding undo p) Q (fun _ _ => True) :=
  Triple.tryCatch hp fun e => Triple.rethrow undo e

/-- A precondition that does not look at the state is a hypothesis. -/
theorem of_fact {c : Prop} {p : Prog σ ε α} (h : c → Triple P p Q E) :
    Triple (fun s => P s ∧ c) p Q E :=
  fun s hs => h hs.2 s hs.1

/-- What the precondition implies about no state in particular is a
hypothesis. -/
theorem with_fact {c : Prop} {p : Prog σ ε α} (hc : ∀ s, P s → c)
    (h : c → Triple P p Q E) : Triple P p Q E :=
  fun s hs => h (hc s hs) s hs

/-- Both postconditions of two triples over one program. -/
theorem and {p : Prog σ ε α} (h : Triple P p Q E) (h' : Triple P' p Q' E') :
    Triple (fun s => P s ∧ P' s) p (fun a s => Q a s ∧ Q' a s)
      (fun e s => E e s ∧ E' e s) := by
  rintro s ⟨hs, hs'⟩
  have h1 := h s hs
  have h2 := h' s hs'
  revert h1 h2
  rcases p s with ⟨_ | _, s'⟩
  · exact fun h1 h2 => ⟨h1, h2⟩
  · exact fun h1 h2 => ⟨h1, h2⟩

end Triple

/-! ## Frames -/

/-- A preorder between the state before and the state after: what a program
may change. -/
structure Frame (σ : Type) where
  Rel : σ → σ → Prop
  refl : ∀ s, Rel s s
  trans : ∀ {s t u}, Rel s t → Rel t u → Rel s u

/-- Both frames allow the change. -/
def Frame.and (F G : Frame σ) : Frame σ where
  Rel s t := F.Rel s t ∧ G.Rel s t
  refl s := ⟨F.refl s, G.refl s⟩
  trans h h' := ⟨F.trans h.1 h'.1, G.trans h.2 h'.2⟩

/-- The part `f` of the state stays as it is. -/
def Frame.fixing {τ : Type} (f : σ → τ) : Frame σ where
  Rel s t := f t = f s
  refl _ := rfl
  trans h h' := h'.trans h

/-- What the invariant `P` allows. -/
def Frame.invariant (P : σ → Prop) : Frame σ where
  Rel s t := P s → P t
  refl _ := id
  trans h h' := h' ∘ h

/-- Every outcome of `p` is reached by a change the frame allows, and every
exception that `p` raises satisfies `R`. -/
def Keeps (F : Frame σ) (R : ε → Prop) (p : Prog σ ε α) : Prop :=
  ∀ s₀, Triple (F.Rel s₀) p (fun _ => F.Rel s₀) (fun e s => F.Rel s₀ s ∧ R e)

namespace Keeps

variable {F : Frame σ} {R R' S : ε → Prop}

theorem pure (a : α) : Keeps F R (Pure.pure a : Prog σ ε α) :=
  fun _ => Triple.pure fun _ h => h

theorem gets (f : σ → α) : Keeps F R (Prog.gets f : Prog σ ε α) :=
  fun _ => Triple.gets fun _ h => h

theorem raise {e : ε} (h : R e) : Keeps F R (Prog.raise e : Prog σ ε α) :=
  fun _ => Triple.raise fun _ hs => ⟨hs, h⟩

theorem modify {f : σ → σ} (h : ∀ s, F.Rel s (f s)) :
    Keeps F R (Prog.modify f : Prog σ ε Unit) :=
  fun _ => Triple.modify fun s hs => F.trans hs (h s)

theorem bind {p : Prog σ ε α} {f : α → Prog σ ε β} (hp : Keeps F R p)
    (hf : ∀ a, Keeps F R (f a)) : Keeps F R (p >>= f) :=
  fun s₀ => Triple.bind (hp s₀) fun a => hf a s₀

theorem ite {c : Prop} {_ : Decidable c} {p q : Prog σ ε α}
    (hp : Keeps F R p) (hq : Keeps F R q) : Keeps F R (if c then p else q) :=
  fun s₀ => Triple.ite (fun _ => hp s₀) (fun _ => hq s₀)

theorem when {c : Prop} {_ : Decidable c} {p : Prog σ ε Unit}
    (hp : Keeps F R p) : Keeps F R (Prog.when c p) :=
  Keeps.ite hp (Keeps.pure ())

theorem tryCatch {p : Prog σ ε α} {handler : ε → Prog σ ε α}
    (hp : Keeps F S p) (hh : ∀ e, S e → Keeps F R (handler e)) :
    Keeps F R (Prog.tryCatch p handler) :=
  fun s₀ => Triple.tryCatch (hp s₀) fun e =>
    Triple.of_fact fun he => hh e he s₀

theorem iterate {out : ε} {body : β → Prog σ ε (β ⊕ α)} (hout : R out)
    (hbody : ∀ b, Keeps F R (body b)) (fuel : ℕ) (b : β) :
    Keeps F R (Prog.iterate out body fuel b) := by
  intro s₀
  refine Triple.iterate (I := fun _ => F.Rel s₀) (fun b => ?_)
    (fun _ s hs => ⟨hs, hout⟩) fuel b
  refine (hbody b s₀).consequence (fun _ hs => hs) ?_ (fun _ _ he => he)
  rintro (b' | a) s hs
  · exact hs
  · exact hs

theorem tryFinally {skips : ε → Bool} {p : Prog σ ε α}
    {final : Prog σ ε Unit} (hp : Keeps F R p) (hf : Keeps F R final) :
    Keeps F R (Prog.tryFinally skips p final) := by
  intro s₀
  refine Triple.tryFinally (hp s₀) (fun _ => hf s₀) (fun e _ => ?_)
    fun _ _ _ h => h
  exact Triple.of_fact fun he => (hf s₀).consequence (fun _ h => h)
    (fun _ _ h => ⟨h, he⟩) fun _ _ h => h

theorem forEach {p : β → Prog σ ε Unit} (bs : List β)
    (hp : ∀ b ∈ bs, Keeps F R (p b)) : Keeps F R (Prog.forEach p bs) :=
  fun s₀ => Triple.forEach bs fun b hb => hp b hb s₀

/-- A wider frame and a weaker condition on exceptions are kept too. -/
theorem mono {G : Frame σ} {p : Prog σ ε α} (hp : Keeps F R p)
    (hF : ∀ s t, F.Rel s t → G.Rel s t) (hR : ∀ e, R e → R' e) :
    Keeps G R' p := by
  intro s₀ s hs
  have h := hp s s (F.refl s)
  revert h
  rcases p s with ⟨_ | _, s'⟩
  · exact fun h => ⟨G.trans hs (hF s s' h.1), hR _ h.2⟩
  · exact fun h => G.trans hs (hF s s' h)

/-- A framed program keeps every property that the frame keeps. -/
theorem triple {p : Prog σ ε α} (hp : Keeps F R p) {P : σ → Prop}
    (hP : ∀ s t, F.Rel s t → P s → P t) :
    Triple P p (fun _ => P) (fun e s => P s ∧ R e) := by
  intro s hs
  have h := hp s s (F.refl s)
  revert h
  rcases p s with ⟨_ | _, s'⟩
  · exact fun h => ⟨hP s s' h.1 hs, h.2⟩
  · exact fun h => hP s s' h hs

/-- The change that a framed program makes. -/
theorem outcome {p : Prog σ ε α} (hp : Keeps F R p) (s : σ) :
    F.Rel s (p s).2 :=
  Triple.final ((hp s).consequence (fun _ h => h) (fun _ _ h => h)
    fun _ _ h => h.1) (F.refl s)

/-- The exception that a framed program raises. -/
theorem error {p : Prog σ ε α} (hp : Keeps F R p) {s s' : σ} {e : ε}
    (h : p s = (.error e, s')) : R e := by
  have hpost := hp s s (F.refl s)
  rw [h] at hpost
  exact hpost.2

/-- An exception that is never raised is none of those that are. -/
theorem never {p : Prog σ ε α} (hp : Keeps F R p) {e : ε}
    (he : ∀ s, (p s).1 ≠ .error e) : Keeps F (fun e' => R e' ∧ e' ≠ e) p := by
  intro s₀ s hs
  have hpost := hp s₀ s hs
  have hne := he s
  rcases h : p s with ⟨e' | a, s'⟩
  · rw [h] at hpost hne
    exact ⟨hpost.1, hpost.2, fun heq => hne (congrArg Except.error heq)⟩
  · rw [h] at hpost
    exact hpost

end Keeps

end Prog

end SurfaceCameras
