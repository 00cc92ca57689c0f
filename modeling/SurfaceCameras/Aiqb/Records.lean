import SurfaceCameras.Aiqb.PatchEffects

/-!
# Walking records

Records, and the sub-records inside some of them, stand one after the other,
each with its size in its header.  A walk goes from one to the next up to a
limit, and stops at a header whose size cannot be right.  How far it gets is a
question about the bytes alone, and so is whether it reads beyond them.
-/

namespace SurfaceCameras
namespace Aiqb

open Bytes Prog

/-! ## Reading -/

/-- `q` only reads, and fails only by reading too far. -/
def Reads {α : Type} (q : Script α) : Prop :=
  Keeps (Frame.fixing id) (· = .structError) q

theorem unpackFrom_reads {α : Type} (p n : ℕ) (fields : Bytes → α) :
    Reads (unpackFrom p n fields) :=
  Keeps.bind (Keeps.gets _) fun _ =>
    Keeps.bind (Keeps.when (Keeps.raise rfl)) fun _ => Keeps.gets _

namespace Reads

variable {α : Type} {q : Script α}

theorem ok (hq : Reads q) {d : Bytes} (hin : (q d).1 ≠ .error .structError) :
    ∃ a, q d = (.ok a, d) := by
  have hstate : (q d).2 = d := hq.outcome d
  rcases hd : q d with ⟨e | a, d'⟩
  · rw [hd, show e = .structError from hq.error hd] at hin
    exact absurd rfl hin
  · rw [hd] at hstate
    exact ⟨a, by rw [show d' = d from hstate]⟩

theorem ne_endless (hq : Reads q) (d : Bytes) : (q d).1 ≠ .error .endless := by
  intro hd
  have he : Stop.endless = .structError := hq.error (Prod.ext hd rfl)
  cases he

end Reads

/-! ## Elements with a size -/

/-- How elements of a kind are laid out: the length of the header, the least
size, and what the header of an element at a position says. -/
structure Layout (η : Type) where
  len : ℕ
  least : ℕ
  read : ℕ → Bytes → η
  size : η → ℕ
  least_pos : 0 < least

namespace Layout

variable {η α : Type} (L : Layout η) (known : η → Bool) (limit : ℕ)

/-- The header of the element at `p`. -/
def elem (d : Bytes) (p : ℕ) : η := L.read p (slice d p L.len)

/-- The element with this header at `p` is taken. -/
def Taken (p : ℕ) (h : η) : Prop :=
  L.least ≤ L.size h ∧ p + L.size h ≤ limit ∧ known h = true

instance (p : ℕ) (h : η) : Decidable (L.Taken known limit p h) :=
  inferInstanceAs (Decidable (_ ∧ _ ∧ _))

/-- One iteration over the elements. -/
def round (f : ℕ → η → Script α) (v : ℕ × List α) :
    Script (ℕ × List α ⊕ List α) :=
  if v.1 + L.len ≤ limit then do
    let h ← unpackFrom v.1 L.len (L.read v.1)
    if L.Taken known limit v.1 h then do
      let a ← f v.1 h
      pure (.inl (v.1 + L.size h, v.2 ++ [a]))
    else pure (.inr v.2)
  else pure (.inr v.2)

/-- Run `f` on the elements from `start` on.  The walk advances, so that it is
over before the fuel. -/
def forEach (f : ℕ → η → Script α) (start : ℕ) : Script (List α) :=
  iterate .endless (L.round known limit f) (limit + 1) (start, [])

/-- There is no room for another element at `p`, or its header cannot be
right. -/
def Stops (d : Bytes) (p : ℕ) : Prop :=
  p + L.len ≤ limit →
    p + L.len ≤ d.length ∧ ¬ L.Taken known limit p (L.elem d p)

/-- There is room for an element at `p`, but not in the file. -/
def Escapes (d : Bytes) (p : ℕ) : Prop :=
  p + L.len ≤ limit ∧ d.length < p + L.len

/-- The element at `p` is taken. -/
structure Goes (d : Bytes) (p : ℕ) : Prop where
  room : p + L.len ≤ limit
  inside : p + L.len ≤ d.length
  taken : L.Taken known limit p (L.elem d p)

/-- Going from element to element leads to this position. -/
inductive Reaches (d : Bytes) (start : ℕ) : ℕ → Prop
  | start : Reaches d start start
  | next {p : ℕ} : Reaches d start p → L.Goes known limit d p →
      Reaches d start (p + L.size (L.elem d p))

/-- These are the elements from `p` to the end of the walk. -/
inductive Yields (d : Bytes) : ℕ → List η → Prop
  | stop {p : ℕ} : L.Stops known limit d p → Yields d p []
  | next {p : ℕ} {hs : List η} : L.Goes known limit d p →
      Yields d (p + L.size (L.elem d p)) hs → Yields d p (L.elem d p :: hs)

/-- A walk that returns: what `f` returns of each element, and the bytes it
leaves. -/
inductive Runs (f : ℕ → η → Script α) : Bytes → ℕ → List α → Bytes → Prop
  | stop {d : Bytes} {p : ℕ} : L.Stops known limit d p → Runs f d p [] d
  | next {d d' d'' : Bytes} {p : ℕ} {a : α} {as : List α} :
      L.Goes known limit d p → f p (L.elem d p) d = (.ok a, d') →
      Runs f d' (p + L.size (L.elem d p)) as d'' → Runs f d p (a :: as) d''

theorem stops_or_escapes_or_goes (d : Bytes) (p : ℕ) :
    L.Stops known limit d p ∨ L.Escapes limit d p ∨ L.Goes known limit d p := by
  by_cases hroom : p + L.len ≤ limit
  · by_cases hin : p + L.len ≤ d.length
    · by_cases htaken : L.Taken known limit p (L.elem d p)
      · exact .inr (.inr ⟨hroom, hin, htaken⟩)
      · exact .inl fun _ => ⟨hin, htaken⟩
    · exact .inr (.inl ⟨hroom, Nat.lt_of_not_le hin⟩)
  · exact .inl fun h => absurd h hroom

variable {L known limit} {f : ℕ → η → Script α} {d d' : Bytes} {p start : ℕ}

theorem Goes.advances (h : L.Goes known limit d p) :
    p < p + L.size (L.elem d p) := by
  have hpos := L.least_pos
  have hleast := h.taken.1
  omega

/-! ### The rounds -/

theorem round_stops (h : L.Stops known limit d p) (acc : List α) :
    L.round known limit f (p, acc) d = (.ok (.inr acc), d) := by
  rw [round]
  by_cases hroom : p + L.len ≤ limit
  · obtain ⟨hin, hnot⟩ := h hroom
    have hnot : ¬ L.Taken known limit p (L.read p (slice d p L.len)) := hnot
    rw [if_pos hroom, bind_ok (unpackFrom_ok _ hin), if_neg hnot]
    rfl
  · rw [if_neg hroom]
    rfl

theorem round_escapes (h : L.Escapes limit d p) (acc : List α) :
    L.round known limit f (p, acc) d = (.error .structError, d) := by
  rw [round, if_pos h.1, bind_error (unpackFrom_error _ h.2)]

theorem round_goes (h : L.Goes known limit d p) (acc : List α) :
    L.round known limit f (p, acc) d =
      (f p (L.elem d p) >>= fun a =>
        pure (.inl (p + L.size (L.elem d p), acc ++ [a]))) d := by
  have htaken : L.Taken known limit p (L.read p (slice d p L.len)) := h.taken
  rw [round, if_pos h.room, bind_ok (unpackFrom_ok _ h.inside), if_pos htaken]
  rfl

theorem round_goes_ok (h : L.Goes known limit d p) {a : α}
    (hf : f p (L.elem d p) d = (.ok a, d')) (acc : List α) :
    L.round known limit f (p, acc) d =
      (.ok (.inl (p + L.size (L.elem d p), acc ++ [a])), d') := by
  rw [round_goes h, bind_ok hf]
  rfl

theorem round_goes_error (h : L.Goes known limit d p) {e : Stop}
    (hf : f p (L.elem d p) d = (.error e, d')) (acc : List α) :
    L.round known limit f (p, acc) d = (.error e, d') := by
  rw [round_goes h, bind_error hf]

/-! ### The end of a walk -/

/-- Each round advances, so a walk comes to its end. -/
theorem forEach_ends (hf : ∀ p h d, (f p h d).1 ≠ .error .endless) (start : ℕ)
    (d : Bytes) : (L.forEach known limit f start d).1 ≠ .error .endless := by
  apply iterate_ends (μ := fun v => limit - v.1)
  · rintro ⟨p, acc⟩ d b' d' hround
    obtain hstop | hescape | hgo :=
      stops_or_escapes_or_goes L known limit d p
    · rw [round_stops hstop] at hround
      cases hround
    · rw [round_escapes hescape] at hround
      cases hround
    · rw [round_goes hgo] at hround
      obtain ⟨a, d₁, -, hnext⟩ := bind_eq_ok hround
      obtain ⟨⟨⟩, -⟩ := Prod.mk.inj hnext
      have hroom := hgo.taken.2.1
      have hadvances := hgo.advances
      change limit - (p + L.size (L.elem d p)) < limit - p
      omega
  · rintro ⟨p, acc⟩ d e d' hround rfl
    obtain hstop | hescape | hgo :=
      stops_or_escapes_or_goes L known limit d p
    · rw [round_stops hstop] at hround
      cases hround
    · rw [round_escapes hescape] at hround
      cases hround
    · have hends := hf p (L.elem d p) d
      rcases hfp : f p (L.elem d p) d with ⟨e | a, d₁⟩
      · rw [round_goes_error hgo hfp] at hround
        obtain ⟨⟨⟩, -⟩ := Prod.mk.inj hround
        rw [hfp] at hends
        exact hends rfl
      · rw [round_goes_ok hgo hfp] at hround
        cases hround
  · change limit - start < limit + 1
    omega

theorem Goes.shrinks (h : L.Goes known limit d p) {n : ℕ}
    (hn : limit - p < n + 1) : limit - (p + L.size (L.elem d p)) < n := by
  have hroom := h.taken.2.1
  have hadvances := h.advances
  omega

theorem Runs.forEach {as : List α} (h : L.Runs known limit f d start as d') :
    L.forEach known limit f start d = (.ok as, d') := by
  suffices hrest : ∀ n acc, limit - start < n →
      iterate .endless (L.round known limit f) n (start, acc) d =
        (.ok (acc ++ as), d') by
    have hall := hrest (limit + 1) [] (by omega)
    rwa [List.nil_append] at hall
  induction h with
  | @stop d p hstop =>
      intro n acc hn
      obtain ⟨n, rfl⟩ := Nat.exists_eq_add_of_lt hn
      rw [iterate_done (round_stops hstop acc), List.append_nil]
  | @next d d₁ d₂ p a as hgo hf _ ih =>
      intro n acc hn
      obtain ⟨m, rfl⟩ : ∃ m, n = m + 1 := ⟨n - 1, by omega⟩
      rw [iterate_next (round_goes_ok hgo hf acc), ih m _ (hgo.shrinks hn),
        List.append_assoc, List.singleton_append]

theorem forEach_yields {hs : List η} (h : L.Yields known limit d start hs) :
    L.forEach known limit (fun _ => pure) start d = (.ok hs, d) := by
  refine Runs.forEach ?_
  induction h with
  | stop hstop => exact .stop hstop
  | next hgo _ ih => exact .next hgo rfl ih

/-! ### The positions of a walk -/

theorem Goes.not_stops (h : L.Goes known limit d p) :
    ¬ L.Stops known limit d p := fun hstop => (hstop h.room).2 h.taken

theorem Reaches.le {q : ℕ} (h : L.Reaches known limit d p q) : p ≤ q := by
  induction h with
  | start => exact le_rfl
  | next _ _ ih => exact ih.trans (Nat.le_add_right _ _)

theorem Reaches.head {q : ℕ} (h : L.Reaches known limit d p q) :
    q = p ∨ L.Goes known limit d p ∧
      L.Reaches known limit d (p + L.size (L.elem d p)) q := by
  induction h with
  | start => exact .inl rfl
  | @next q _ hgo ih =>
      obtain rfl | ⟨hgo', hrest⟩ := ih
      · exact .inr ⟨hgo, .start⟩
      · exact .inr ⟨hgo', hrest.next hgo⟩

theorem Reaches.total {q : ℕ} (hp : L.Reaches known limit d start p)
    (hq : L.Reaches known limit d start q) :
    L.Reaches known limit d p q ∨ L.Reaches known limit d q p := by
  induction hp with
  | start => exact .inl hq
  | @next p _ hgo ih =>
      obtain hpq | hqp := ih
      · obtain rfl | ⟨-, hrest⟩ := hpq.head
        · exact .inr (.next .start hgo)
        · exact .inl hrest
      · exact .inr (hqp.next hgo)

theorem Reaches.apart {q : ℕ} (hp : L.Reaches known limit d start p)
    (hgo : L.Goes known limit d p) (hq : L.Reaches known limit d start q) :
    q ≤ p ∨ p + L.size (L.elem d p) ≤ q := by
  obtain hpq | hqp := hp.total hq
  · obtain rfl | ⟨-, hrest⟩ := hpq.head
    · exact .inl le_rfl
    · exact .inr hrest.le
  · exact .inl hqp.le

theorem Reaches.le_stop {q : ℕ} (hp : L.Reaches known limit d start p)
    (hgo : L.Goes known limit d p) (hq : L.Reaches known limit d start q)
    (hstop : L.Stops known limit d q) : p + L.size (L.elem d p) ≤ q := by
  obtain hpq | hqp := hp.total hq
  · obtain rfl | ⟨-, hrest⟩ := hpq.head
    · exact absurd hstop hgo.not_stops
    · exact hrest.le
  · obtain rfl | ⟨hgo', -⟩ := hqp.head
    · exact absurd hstop hgo.not_stops
    · exact absurd hstop hgo'.not_stops

theorem goes_congr (h : AgreeOn (Set.Ico p (p + L.len)) d d') :
    L.elem d p = L.elem d' p ∧
      (L.Goes known limit d p ↔ L.Goes known limit d' p) ∧
      (L.Stops known limit d p ↔ L.Stops known limit d' p) := by
  have helem : L.elem d p = L.elem d' p := by
    rw [elem, elem, h.slice_eq fun i hi hi' => ⟨hi, hi'⟩]
  have hgoes : ∀ {d d'}, d.length = d'.length → L.elem d p = L.elem d' p →
      L.Goes known limit d p → L.Goes known limit d' p :=
    fun hlen helem hgo =>
      ⟨hgo.room, hlen ▸ hgo.inside, helem ▸ hgo.taken⟩
  refine ⟨helem, ⟨hgoes h.length helem, hgoes h.length.symm helem.symm⟩, ?_⟩
  rw [Stops, Stops, h.length, helem]

/-- A walk that changes the bytes, but no header it still has to come to, goes
the way it would go in the bytes as they were. -/
theorem forEach_follows {I : ℕ → Bytes → Prop} {as : List α}
    (hread : ∀ {p d₁}, L.Reaches known limit d start p → I p d₁ →
      AgreeOn (Set.Ico p (p + L.len)) d d₁)
    (hf : ∀ {p d₁ a d₂}, L.Reaches known limit d start p →
      L.Goes known limit d p → I p d₁ → f p (L.elem d p) d₁ = (.ok a, d₂) →
      I (p + L.size (L.elem d p)) d₂)
    (hstart : I start d) (h : L.forEach known limit f start d = (.ok as, d')) :
    ∃ p, L.Reaches known limit d start p ∧ L.Stops known limit d p ∧ I p d' := by
  suffices hrest : ∀ n p acc d₁, L.Reaches known limit d start p → I p d₁ →
      iterate .endless (L.round known limit f) n (p, acc) d₁ = (.ok as, d') →
      ∃ q, L.Reaches known limit d start q ∧ L.Stops known limit d q ∧ I q d'
    from hrest _ _ _ _ .start hstart h
  intro n
  induction n with
  | zero => exact fun _ _ _ _ _ h => nomatch h
  | succ n ih =>
      intro p acc d₁ hp hI hrun
      obtain ⟨helem, hgoes, hstops⟩ : L.elem d p = L.elem d₁ p ∧
          (L.Goes known limit d p ↔ L.Goes known limit d₁ p) ∧
          (L.Stops known limit d p ↔ L.Stops known limit d₁ p) :=
        goes_congr (hread hp hI)
      obtain hstop | hescape | hgo :=
        stops_or_escapes_or_goes L known limit d₁ p
      · rw [iterate_done (round_stops hstop acc)] at hrun
        obtain ⟨-, rfl⟩ := Prod.mk.inj hrun
        exact ⟨p, hp, hstops.mpr hstop, hI⟩
      · rw [iterate_error (round_escapes hescape acc)] at hrun
        cases hrun
      · have hgo' := hgoes.mpr hgo
        rcases hfp : f p (L.elem d₁ p) d₁ with ⟨e | a, d₂⟩
        · rw [iterate_error (round_goes_error hgo hfp acc)] at hrun
          cases hrun
        · rw [iterate_next (round_goes_ok hgo hfp acc), ← helem] at hrun
          rw [← helem] at hfp
          exact ih _ _ _ (hp.next hgo') (hf hp hgo' hI hfp) hrun

/-! ### Inside the file -/

/-- A walk that does not read too far comes to every position it leads to. -/
theorem Reaches.comes (hf : ∀ p h, Reads (f p h))
    (hin : (L.forEach known limit f start d).1 ≠ .error .structError)
    (h : L.Reaches known limit d start p) :
    ∃ n acc, limit - p < n ∧
      (iterate .endless (L.round known limit f) n (p, acc) d).1 =
        (L.forEach known limit f start d).1 := by
  induction h with
  | start => exact ⟨limit + 1, [], by omega, rfl⟩
  | @next p _ hgo ih =>
      obtain ⟨n, acc, hn, hsame⟩ := ih
      obtain ⟨m, rfl⟩ : ∃ m, n = m + 1 := ⟨n - 1, by omega⟩
      rw [← hsame] at hin
      have hfp : (f p (L.elem d p) d).1 ≠ .error .structError := by
        intro herror
        rw [iterate_error (round_goes_error hgo (Prod.ext herror rfl) acc)]
          at hin
        exact hin rfl
      obtain ⟨a, ha⟩ := (hf p _).ok hfp
      rw [iterate_next (round_goes_ok hgo ha acc)] at hsame
      exact ⟨m, acc ++ [a], hgo.shrinks hn, hsame⟩

/-- A walk stays inside the file if and only if, wherever it leads, the header
is inside and so is what is read of the element. -/
theorem forEach_inside_iff (hf : ∀ p h, Reads (f p h)) (start : ℕ) :
    (L.forEach known limit f start d).1 ≠ .error .structError ↔
      ∀ p, L.Reaches known limit d start p → ¬ L.Escapes limit d p ∧
        (L.Goes known limit d p →
          (f p (L.elem d p) d).1 ≠ .error .structError) := by
  constructor
  · intro hin p hp
    obtain ⟨n, acc, hn, hsame⟩ := hp.comes hf hin
    obtain ⟨m, rfl⟩ : ∃ m, n = m + 1 := ⟨n - 1, by omega⟩
    rw [← hsame] at hin
    constructor
    · intro hescape
      rw [iterate_error (round_escapes hescape acc)] at hin
      exact hin rfl
    · intro hgo herror
      rw [iterate_error (round_goes_error hgo (Prod.ext herror rfl) acc)]
        at hin
      exact hin rfl
  · intro hall
    suffices hrest : ∀ n p acc, L.Reaches known limit d start p →
        (iterate .endless (L.round known limit f) n (p, acc) d).1 ≠
          .error .structError from hrest _ _ _ .start
    intro n
    induction n with
    | zero => exact fun p acc _ heq => by cases heq
    | succ n ih =>
        intro p acc hp
        obtain ⟨hescape, hinside⟩ := hall p hp
        obtain hstop | hescape' | hgo :=
          stops_or_escapes_or_goes L known limit d p
        · rw [iterate_done (round_stops hstop acc)]
          exact fun heq => by cases heq
        · exact absurd hescape' hescape
        · obtain ⟨a, ha⟩ := (hf p _).ok (hinside hgo)
          rw [iterate_next (round_goes_ok hgo ha acc)]
          exact ih _ _ (hp.next hgo)

/-- Walking with what only reads only reads. -/
theorem forEach_reads (hf : ∀ p h, Reads (f p h)) (start : ℕ) :
    Reads (L.forEach known limit f start) := by
  have hround : ∀ v, Keeps (Frame.fixing id)
      (fun e => e = .structError ∨ e = .endless) (L.round known limit f v) := by
    intro v
    refine Keeps.ite (Keeps.bind ?_ fun h => Keeps.ite ?_ (Keeps.pure _))
      (Keeps.pure _)
    · exact (unpackFrom_reads _ _ _).mono (fun _ _ h => h) fun _ => .inl
    · exact Keeps.bind ((hf v.1 h).mono (fun _ _ h => h) fun _ => .inl)
        fun a => Keeps.pure _
  have hall : Keeps (Frame.fixing id)
      (fun e => e = .structError ∨ e = .endless)
      (L.forEach known limit f start) :=
    Keeps.iterate (.inr rfl) hround _ _
  have hnever := hall.never
    (forEach_ends (fun p h d => (hf p h).ne_endless d) start)
  exact hnever.mono (fun _ _ h => h) fun e he => he.1.resolve_right he.2

end Layout

end Aiqb
end SurfaceCameras
