/-
# Cooperative programs

An `async` function runs without interruption from one `await` to the next, and any other task
may run at an `await`.  `Prog σ ε α` is such a function over a shared state `σ`: it has returned,
it has raised, or it has a next SEGMENT -- a stretch that reads the state, updates it in one go
and says how to continue.  A segment is the unit of interleaving; everything between two `seg`
nodes is atomic.

One program text has two meanings:

* `Prog.run`: the program alone, from start to end;
* `Pool.exec`: several programs over one state, interleaved by a schedule.

`Prog.Keeps I G` says that every segment, started from any state that satisfies `I`, re-establishes
`I` and moves the state by `G`.  It is closed under `bind`, and it is all a concurrent environment
may assume: `Prog.run_keeps` lifts it to the program run alone.

`Prog.Safe I` says that no exception comes out of the program in an environment that keeps `I`.

`Prog.Wp R Q` is a precondition under interference: whatever an environment that moves by `R` does
between the segments, the program's result and final state satisfy `Q`.
-/
import Mathlib

namespace Relay

/-- A program: done, failed, or an atomic segment and what follows it.  The continuation reads
the state the segment started from. -/
inductive Prog (σ ε α : Type) : Type
  | ret (a : α)
  | raise (e : ε)
  | seg (f : σ → σ) (k : σ → Prog σ ε α)

namespace Prog

variable {σ τ ε α β : Type}

/-! ## 1. Sequencing -/

/-- Run `x`, then `g` on its result; an exception skips `g`. -/
def bind : Prog σ ε α → (α → Prog σ ε β) → Prog σ ε β
  | ret a, g => g a
  | raise e, _ => raise e
  | seg f k, g => seg f (fun s => (k s).bind g)

instance : Monad (Prog σ ε) where
  pure := ret
  bind := bind

@[simp] theorem pure_eq (a : α) : (pure a : Prog σ ε α) = ret a := rfl

@[simp] theorem bind_eq (x : Prog σ ε α) (g : α → Prog σ ε β) : x >>= g = x.bind g := rfl

@[simp] theorem ret_bind (a : α) (g : α → Prog σ ε β) : (ret a : Prog σ ε α).bind g = g a := rfl

@[simp] theorem raise_bind (e : ε) (g : α → Prog σ ε β) :
    (raise e : Prog σ ε α).bind g = raise e := rfl

@[simp] theorem seg_bind (f : σ → σ) (k : σ → Prog σ ε α) (g : α → Prog σ ε β) :
    (seg f k).bind g = seg f (fun s => (k s).bind g) := rfl

theorem bind_assoc {γ : Type} (x : Prog σ ε α) (g : α → Prog σ ε β) (h : β → Prog σ ε γ) :
    (x.bind g).bind h = x.bind (fun a => (g a).bind h) := by
  induction x with
  | ret a => rfl
  | raise e => rfl
  | seg f k ih => exact congrArg (seg f) (funext ih)

theorem bind_ret (x : Prog σ ε α) : x.bind ret = x := by
  induction x with
  | ret a => rfl
  | raise e => rfl
  | seg f k ih => exact congrArg (seg f) (funext ih)

/-- Return or raise, without touching the state. -/
def ofExcept : Except ε α → Prog σ ε α
  | .ok a => ret a
  | .error e => raise e

/-- An atomic step on the state that may fail: the state change stays either way. -/
def atomic (f : σ → Except ε α × σ) : Prog σ ε α :=
  seg (fun s => (f s).2) (fun s => ofExcept (f s).1)

/-- An atomic step that cannot fail. -/
def act (f : σ → α × σ) : Prog σ ε α := seg (fun s => (f s).2) (fun s => ret (f s).1)

/-- Read the state. -/
def get : Prog σ ε σ := seg id ret

/-- Update the state. -/
def modify (f : σ → σ) : Prog σ ε Unit := seg f (fun _ => ret ())

/-- `try: p except e: h e`. -/
def catch_ (h : ε → Prog σ ε α) : Prog σ ε α → Prog σ ε α
  | ret a => ret a
  | raise e => h e
  | seg f k => seg f (fun s => catch_ h (k s))

/-- Run `p` and hand its outcome on, exception or not. -/
def try_ : Prog σ ε α → Prog σ ε (Except ε α)
  | ret a => ret (.ok a)
  | raise e => ret (.error e)
  | seg f k => seg f (fun s => try_ (k s))

/-- `for a in l: p(a)`. -/
def forEach (p : α → Prog σ ε Unit) : List α → Prog σ ε Unit
  | [] => ret ()
  | a :: l => (p a).bind (fun _ => forEach p l)

/-- The same program over a larger state, of which it sees the part `get`. -/
def lift (get : τ → σ) (put : σ → τ → τ) : Prog σ ε α → Prog τ ε α
  | ret a => ret a
  | raise e => raise e
  | seg f k => seg (fun t => put (f (get t)) t) (fun t => lift get put (k (get t)))

/-- The program has returned. -/
def returned : Prog σ ε α → Bool
  | ret _ => true
  | _ => false

theorem returned_iff {p : Prog σ ε α} : p.returned = true ↔ ∃ a, p = ret a := by
  cases p <;> simp [returned]

/-- The program has raised. -/
def raised : Prog σ ε α → Bool
  | raise _ => true
  | _ => false

/-- What the program has returned. -/
def result? : Prog σ ε α → Option α
  | ret a => some a
  | _ => none

/-! ## 2. The program alone -/

/-- Run to the end, with nothing else in between. -/
def run : Prog σ ε α → σ → Except ε α × σ
  | ret a, s => (.ok a, s)
  | raise e, s => (.error e, s)
  | seg f k, s => (k s).run (f s)

@[simp] theorem run_ret (a : α) (s : σ) : (ret a : Prog σ ε α).run s = (.ok a, s) := rfl

@[simp] theorem run_raise (e : ε) (s : σ) : (raise e : Prog σ ε α).run s = (.error e, s) := rfl

@[simp] theorem run_seg (f : σ → σ) (k : σ → Prog σ ε α) (s : σ) :
    (seg f k).run s = (k s).run (f s) := rfl

theorem run_bind (x : Prog σ ε α) (g : α → Prog σ ε β) : ∀ s : σ,
    (x.bind g).run s = match x.run s with
      | (.ok a, s') => (g a).run s'
      | (.error e, s') => (.error e, s') := by
  induction x with
  | ret a => intro s; rfl
  | raise e => intro s; rfl
  | seg f k ih => intro s; exact ih s (f s)

/-- The next state when the first part succeeds. -/
theorem run_bind_ok {x : Prog σ ε α} {g : α → Prog σ ε β} {s s' : σ} {a : α}
    (h : x.run s = (.ok a, s')) : (x.bind g).run s = (g a).run s' := by
  rw [run_bind, h]

theorem run_bind_error {x : Prog σ ε α} {g : α → Prog σ ε β} {s s' : σ} {e : ε}
    (h : x.run s = (.error e, s')) : (x.bind g).run s = (.error e, s') := by
  rw [run_bind, h]

theorem run_atomic (f : σ → Except ε α × σ) (s : σ) : (atomic f).run s = f s := by
  unfold atomic
  rw [run_seg]
  cases h : (f s).1 with
  | ok a => exact Prod.ext h.symm rfl
  | error e => exact Prod.ext h.symm rfl

@[simp] theorem run_act (f : σ → α × σ) (s : σ) :
    (act f : Prog σ ε α).run s = (.ok (f s).1, (f s).2) := rfl

@[simp] theorem run_get (s : σ) : (get : Prog σ ε σ).run s = (.ok s, s) := rfl

@[simp] theorem run_modify (f : σ → σ) (s : σ) :
    (modify f : Prog σ ε Unit).run s = (.ok (), f s) := rfl

theorem run_try (p : Prog σ ε α) : ∀ s : σ,
    (try_ p).run s = (.ok (p.run s).1, (p.run s).2) := by
  induction p with
  | ret a => intro s; rfl
  | raise e => intro s; rfl
  | seg f k ih => intro s; exact ih s (f s)

/-- A program guarded as a whole is guarded from the point its first part has reached. -/
theorem run_try_bind (x : Prog σ ε α) (y : α → Prog σ ε β) {γ : Type}
    (k : Except ε β → Prog σ ε γ) (s : σ) :
    ((try_ (x.bind y)).bind k).run s = match x.run s with
      | (.ok a, s') => ((try_ (y a)).bind k).run s'
      | (.error e, s') => (k (.error e)).run s' := by
  rw [run_bind, run_try, run_bind]
  rcases x.run s with ⟨_ | a, s'⟩
  · rfl
  · simp only [run_bind, run_try]

/-- Lifting goes through sequencing. -/
theorem lift_bind (get : τ → σ) (put : σ → τ → τ) (x : Prog σ ε α) (g : α → Prog σ ε β) :
    lift get put (x.bind g) = (lift get put x).bind (fun a => lift get put (g a)) := by
  induction x with
  | ret a => rfl
  | raise e => rfl
  | seg f k ih => exact congrArg (seg _) (funext fun t => ih (get t))

/-- A lifted program runs as the original one on its part of the state.  The two laws of the
pair `get`/`put` are the ones the argument needs. -/
theorem run_lift {get : τ → σ} {put : σ → τ → τ} (hgp : ∀ s t, get (put s t) = s)
    (hpp : ∀ s s' t, put s (put s' t) = put s t) (hpg : ∀ t, put (get t) t = t)
    (p : Prog σ ε α) : ∀ t : τ,
    (lift get put p).run t = ((p.run (get t)).1, put (p.run (get t)).2 t) := by
  induction p with
  | ret a => intro t; simp [lift, hpg]
  | raise e => intro t; simp [lift, hpg]
  | seg f k ih =>
    intro t
    simp only [lift, run_seg]
    rw [ih (get t) (put (f (get t)) t), hgp, hpp]

/-! ## 3. What every segment keeps -/

/-- Every segment of the program, started in any state satisfying `I`, ends in one and moves the
state by `G`. -/
def Keeps (I : σ → Prop) (G : σ → σ → Prop) : Prog σ ε α → Prop
  | ret _ => True
  | raise _ => True
  | seg f k => ∀ s, I s → I (f s) ∧ G s (f s) ∧ (k s).Keeps I G

/-- Every value the program can return satisfies `P`. -/
def Returns (P : α → Prop) : Prog σ ε α → Prop
  | ret a => P a
  | raise _ => True
  | seg _ k => ∀ s, (k s).Returns P

/-- Every exception the program can raise satisfies `P`. -/
def Raises (P : ε → Prop) : Prog σ ε α → Prop
  | ret _ => True
  | raise e => P e
  | seg _ k => ∀ s, (k s).Raises P

section Raises

variable {P : ε → Prop}

theorem Raises.bind {x : Prog σ ε α} {g : α → Prog σ ε β} (hx : x.Raises P)
    (hg : ∀ a, (g a).Raises P) : (x.bind g).Raises P := by
  induction x with
  | ret a => exact hg a
  | raise e => exact hx
  | seg f k ih => exact fun s => ih s (hx s)

theorem raises_atomic {f : σ → Except ε α × σ} (h : ∀ s e, (f s).1 = .error e → P e) :
    (atomic f).Raises P := by
  intro s
  show (ofExcept (f s).1).Raises P
  cases hs : (f s).1 with
  | ok a => trivial
  | error e => exact h s e hs

theorem run_raises {p : Prog σ ε α} (hp : p.Raises P) : ∀ {s : σ} {e : ε},
    (p.run s).1 = .error e → P e := by
  induction p with
  | ret a => intro s e he; exact absurd he (by simp)
  | raise e' => intro s e he; exact Except.error.inj he ▸ hp
  | seg f k ih => intro s e he; exact ih s (hp s) he

end Raises

section Keeps

variable {I : σ → Prop} {G : σ → σ → Prop}

theorem keeps_ret (a : α) : (ret a : Prog σ ε α).Keeps I G := trivial

theorem keeps_raise (e : ε) : (raise e : Prog σ ε α).Keeps I G := trivial

theorem keeps_ofExcept : ∀ r : Except ε α, (ofExcept r : Prog σ ε α).Keeps I G
  | .ok a => keeps_ret a
  | .error e => keeps_raise e

theorem Keeps.bind {x : Prog σ ε α} {g : α → Prog σ ε β} (hx : x.Keeps I G)
    (hg : ∀ a, (g a).Keeps I G) : (x.bind g).Keeps I G := by
  induction x with
  | ret a => exact hg a
  | raise e => trivial
  | seg f k ih =>
    intro s hs
    obtain ⟨h1, h2, h3⟩ := hx s hs
    exact ⟨h1, h2, ih s h3⟩

theorem Returns.bind {P : α → Prop} {Q : β → Prop} {x : Prog σ ε α} {g : α → Prog σ ε β}
    (hx : x.Returns P) (hg : ∀ a, P a → (g a).Returns Q) : (x.bind g).Returns Q := by
  induction x with
  | ret a => exact hg a hx
  | raise e => trivial
  | seg f k ih => exact fun s => ih s (hx s)

theorem Returns.mono {P Q : α → Prop} (h : ∀ a, P a → Q a) {x : Prog σ ε α} (hx : x.Returns P) :
    x.Returns Q := by
  induction x with
  | ret a => exact h a hx
  | raise e => trivial
  | seg f k ih => exact fun s => ih s (hx s)

theorem Returns.any (x : Prog σ ε α) : x.Returns (fun _ => True) := by
  induction x with
  | ret a => trivial
  | raise e => trivial
  | seg f k ih => exact fun s => ih s

/-- What the program returns when it runs alone. -/
theorem run_returns {P : α → Prop} {p : Prog σ ε α} (hp : p.Returns P) : ∀ {s s' : σ} {a : α},
    p.run s = (.ok a, s') → P a := by
  induction p with
  | ret b => intro s s' a h; exact Except.ok.inj (congrArg Prod.fst h) ▸ hp
  | raise e => intro s s' a h; exact absurd (congrArg Prod.fst h) (by simp)
  | seg f k ih => intro s s' a h; exact ih s (hp s) h

/-- What follows a program may rely on what the program returns. -/
theorem Keeps.bind_returns {P : α → Prop} {x : Prog σ ε α} {g : α → Prog σ ε β}
    (hx : x.Keeps I G) (hr : x.Returns P) (hg : ∀ a, P a → (g a).Keeps I G) :
    (x.bind g).Keeps I G := by
  induction x with
  | ret a => exact hg a hr
  | raise e => trivial
  | seg f k ih =>
    intro s hs
    obtain ⟨h1, h2, h3⟩ := hx s hs
    exact ⟨h1, h2, ih s h3 (hr s)⟩

/-- Every program keeps what asks nothing. -/
theorem keeps_true (p : Prog σ ε α) : p.Keeps (fun _ => True) (fun _ _ => True) := by
  induction p with
  | ret a => trivial
  | raise e => trivial
  | seg f k ih => exact fun s _ => ⟨trivial, trivial, ih s⟩

theorem keeps_atomic {f : σ → Except ε α × σ} (h : ∀ s, I s → I (f s).2 ∧ G s (f s).2) :
    (atomic f).Keeps I G := by
  intro s hs
  exact ⟨(h s hs).1, (h s hs).2, keeps_ofExcept _⟩

theorem keeps_act {f : σ → α × σ} (h : ∀ s, I s → I (f s).2 ∧ G s (f s).2) :
    (act f : Prog σ ε α).Keeps I G :=
  fun s hs => ⟨(h s hs).1, (h s hs).2, trivial⟩

theorem keeps_modify {f : σ → σ} (h : ∀ s, I s → I (f s) ∧ G s (f s)) :
    (modify f : Prog σ ε Unit).Keeps I G :=
  fun s hs => ⟨(h s hs).1, (h s hs).2, trivial⟩

theorem Keeps.catch {h : ε → Prog σ ε α} {p : Prog σ ε α} (hp : p.Keeps I G)
    (hh : ∀ e, (h e).Keeps I G) : (catch_ h p).Keeps I G := by
  induction p with
  | ret a => trivial
  | raise e => exact hh e
  | seg f k ih =>
    intro s hs
    obtain ⟨h1, h2, h3⟩ := hp s hs
    exact ⟨h1, h2, ih s h3⟩

theorem Keeps.try {p : Prog σ ε α} (hp : p.Keeps I G) : (try_ p).Keeps I G := by
  induction p with
  | ret a => trivial
  | raise e => trivial
  | seg f k ih =>
    intro s hs
    obtain ⟨h1, h2, h3⟩ := hp s hs
    exact ⟨h1, h2, ih s h3⟩

theorem Keeps.forEach {p : α → Prog σ ε Unit} : ∀ {l : List α},
    (∀ a ∈ l, (p a).Keeps I G) → (Prog.forEach p l).Keeps I G
  | [], _ => trivial
  | a :: _, h => Keeps.bind (h a List.mem_cons_self)
      (fun _ => Keeps.forEach (fun b hb => h b (List.mem_cons_of_mem _ hb)))

theorem Keeps.mono {H : σ → σ → Prop} (h : ∀ s s', I s → G s s' → H s s') {p : Prog σ ε α}
    (hp : p.Keeps I G) : p.Keeps I H := by
  induction p with
  | ret a => trivial
  | raise e => trivial
  | seg f k ih =>
    intro s hs
    obtain ⟨h1, h2, h3⟩ := hp s hs
    exact ⟨h1, h s _ hs h2, ih s h3⟩

theorem Keeps.and {H : σ → σ → Prop} {p : Prog σ ε α} (hp : p.Keeps I G) (hq : p.Keeps I H) :
    p.Keeps I (fun s s' => G s s' ∧ H s s') := by
  induction p with
  | ret a => trivial
  | raise e => trivial
  | seg f k ih =>
    intro s hs
    obtain ⟨h1, h2, h3⟩ := hp s hs
    obtain ⟨-, h2', h3'⟩ := hq s hs
    exact ⟨h1, ⟨h2, h2'⟩, ih s h3 h3'⟩

/-- A lifted program keeps what its part keeps. -/
theorem Keeps.lift {J : τ → Prop} {H : τ → τ → Prop} {get : τ → σ} {put : σ → τ → τ}
    {p : Prog σ ε α} (hp : p.Keeps I G) (hJ : ∀ t, J t → I (get t))
    (hput : ∀ t s', J t → I s' → G (get t) s' → J (put s' t) ∧ H t (put s' t)) :
    (Prog.lift get put p).Keeps J H := by
  induction p with
  | ret a => trivial
  | raise e => trivial
  | seg f k ih =>
    intro t ht
    obtain ⟨h1, h2, h3⟩ := hp (get t) (hJ t ht)
    obtain ⟨h4, h5⟩ := hput t _ ht h1 h2
    exact ⟨h4, h5, ih (get t) h3⟩

/-- The program run alone keeps the invariant, and moves the state by a composition of `G`. -/
theorem run_keeps (hrefl : ∀ s, G s s) (htrans : ∀ a b c, G a b → G b c → G a c)
    {p : Prog σ ε α} (hp : p.Keeps I G) : ∀ {s : σ}, I s → I (p.run s).2 ∧ G s (p.run s).2 := by
  induction p with
  | ret a => intro s hs; exact ⟨hs, hrefl s⟩
  | raise e => intro s hs; exact ⟨hs, hrefl s⟩
  | seg f k ih =>
    intro s hs
    obtain ⟨h1, h2, h3⟩ := hp s hs
    obtain ⟨h4, h5⟩ := ih s h3 h1
    exact ⟨h4, htrans _ _ _ h2 h5⟩

end Keeps

/-! ## 4. Programs that do not raise -/

/-- Every segment started in a state satisfying `I` ends in one, and no exception comes out: the
program returns in every environment that keeps `I`. -/
def Safe (I : σ → Prop) : Prog σ ε α → Prop
  | ret _ => True
  | raise _ => False
  | seg f k => ∀ s, I s → I (f s) ∧ (k s).Safe I

section Safe

variable {I : σ → Prop}

theorem safe_ret (a : α) : (ret a : Prog σ ε α).Safe I := trivial

theorem Safe.bind {x : Prog σ ε α} {g : α → Prog σ ε β} (hx : x.Safe I)
    (hg : ∀ a, (g a).Safe I) : (x.bind g).Safe I := by
  induction x with
  | ret a => exact hg a
  | raise e => exact absurd hx id
  | seg f k ih =>
    intro s hs
    obtain ⟨h1, h2⟩ := hx s hs
    exact ⟨h1, ih s h2⟩

theorem safe_atomic {f : σ → Except ε α × σ} (h : ∀ s, I s → I (f s).2 ∧ ∃ a, (f s).1 = .ok a) :
    (atomic f).Safe I := by
  intro s hs
  obtain ⟨h1, a, ha⟩ := h s hs
  refine ⟨h1, ?_⟩
  show (ofExcept (f s).1).Safe I
  rw [ha]
  exact safe_ret a

theorem safe_act {f : σ → α × σ} (h : ∀ s, I s → I (f s).2) : (act f : Prog σ ε α).Safe I :=
  fun s hs => ⟨h s hs, safe_ret _⟩

theorem safe_modify {f : σ → σ} (h : ∀ s, I s → I (f s)) : (modify f : Prog σ ε Unit).Safe I :=
  fun s hs => ⟨h s hs, safe_ret ()⟩

theorem Safe.lift {J : τ → Prop} {get : τ → σ} {put : σ → τ → τ} {p : Prog σ ε α}
    (hp : p.Safe I) (hJ : ∀ t, J t → I (get t)) (hput : ∀ t s', J t → I s' → J (put s' t)) :
    (Prog.lift get put p).Safe J := by
  induction p with
  | ret a => exact safe_ret a
  | raise e => exact hp
  | seg f k ih =>
    intro t ht
    obtain ⟨h1, h2⟩ := hp (get t) (hJ t ht)
    exact ⟨hput t _ ht h1, ih (get t) h2⟩

/-- Run alone, the program returns. -/
theorem Safe.run {p : Prog σ ε α} (hp : p.Safe I) :
    ∀ {s : σ}, I s → ∃ a s', p.run s = (.ok a, s') ∧ I s' := by
  induction p with
  | ret a => exact fun hs => ⟨a, _, rfl, hs⟩
  | raise e => exact absurd hp id
  | seg f k ih =>
    intro s hs
    obtain ⟨h1, h2⟩ := hp s hs
    exact ih s h2 h1

end Safe

/-! ## 5. Preconditions under interference -/

/-- From `s`, with an environment that may move the state by `R` before every segment and at the
end, the program ends with a result and a state in `Q`. -/
def Wp (R : σ → σ → Prop) (Q : Except ε α → σ → Prop) : Prog σ ε α → σ → Prop
  | ret a, s => ∀ s', R s s' → Q (.ok a) s'
  | raise e, s => ∀ s', R s s' → Q (.error e) s'
  | seg f k, s => ∀ s', R s s' → (k s').Wp R Q (f s')

section Wp

variable {R : σ → σ → Prop} {Q : Except ε α → σ → Prop}

/-- The environment does not invalidate a precondition. -/
theorem Wp.stable (htrans : ∀ a b c, R a b → R b c → R a c) {p : Prog σ ε α} {s s' : σ}
    (h : p.Wp R Q s) (hr : R s s') : p.Wp R Q s' := by
  cases p with
  | ret a => exact fun t ht => h t (htrans _ _ _ hr ht)
  | raise e => exact fun t ht => h t (htrans _ _ _ hr ht)
  | seg f k => exact fun t ht => h t (htrans _ _ _ hr ht)

theorem Wp.mono {Q' : Except ε α → σ → Prop} (h : ∀ r s, Q r s → Q' r s) {p : Prog σ ε α} :
    ∀ {s : σ}, p.Wp R Q s → p.Wp R Q' s := by
  induction p with
  | ret a => exact fun hp s' hs => h _ _ (hp s' hs)
  | raise e => exact fun hp s' hs => h _ _ (hp s' hs)
  | seg f k ih => exact fun hp s' hs => ih s' (hp s' hs)

/-- An environment that does less. -/
theorem Wp.anti {R' : σ → σ → Prop} (h : ∀ s s', R' s s' → R s s') {p : Prog σ ε α} :
    ∀ {s : σ}, p.Wp R Q s → p.Wp R' Q s := by
  induction p with
  | ret a => exact fun hp s' hs => hp s' (h _ _ hs)
  | raise e => exact fun hp s' hs => hp s' (h _ _ hs)
  | seg f k ih => exact fun hp s' hs => ih s' (hp s' (h _ _ hs))

/-- The program with the move `m` of the environment before every segment and at the end. -/
def runWith (m : σ → σ) : Prog σ ε α → σ → Except ε α × σ
  | ret a, s => (.ok a, m s)
  | raise e, s => (.error e, m s)
  | seg f k, s => (k (m s)).runWith m (f (m s))

/-- It is one of the runs a precondition speaks of. -/
theorem Wp.runWith {m : σ → σ} (h : ∀ s, R s (m s)) {p : Prog σ ε α} :
    ∀ {s : σ}, p.Wp R Q s → Q (p.runWith m s).1 (p.runWith m s).2 := by
  induction p with
  | ret a => exact fun hp => hp _ (h _)
  | raise e => exact fun hp => hp _ (h _)
  | seg f k ih => exact fun hp => ih _ (hp _ (h _))

theorem runWith_id (p : Prog σ ε α) : ∀ s : σ, p.runWith id s = p.run s := by
  induction p with
  | ret a => exact fun _ => rfl
  | raise e => exact fun _ => rfl
  | seg f k ih => exact fun s => ih s (f s)

section Moves

/-! A move that does nothing when it is made again. -/

variable {m : σ → σ} (hm : ∀ s, m (m s) = m s)

include hm

theorem runWith_move (p : Prog σ ε α) (s : σ) : p.runWith m (m s) = p.runWith m s := by
  cases p with
  | ret a => exact congrArg (fun s => (Except.ok a, s)) (hm s)
  | raise e => exact congrArg (fun s => (Except.error e, s)) (hm s)
  | seg f k =>
    show (k (m (m s))).runWith m (f (m (m s))) = _
    rw [hm]
    rfl

theorem runWith_bind_ok {g : α → Prog σ ε β} {a : α} {s' : σ} {x : Prog σ ε α} : ∀ {s : σ},
    x.runWith m s = (.ok a, s') → (x.bind g).runWith m s = (g a).runWith m s' := by
  induction x with
  | ret b =>
    intro s h
    cases h
    exact (runWith_move hm (g a) s).symm
  | raise e => exact fun h => by cases h
  | seg f k ih => exact fun h => ih _ h

/-- The move has been made when the program ends. -/
theorem runWith_moved (p : Prog σ ε α) : ∀ s : σ, m (p.runWith m s).2 = (p.runWith m s).2 := by
  induction p with
  | ret a => exact hm
  | raise e => exact hm
  | seg f k ih => exact fun s => ih _ _

end Moves

theorem runWith_bind_error {m : σ → σ} {g : α → Prog σ ε β} {e : ε} {s' : σ} {x : Prog σ ε α} :
    ∀ {s : σ}, x.runWith m s = (.error e, s') → (x.bind g).runWith m s = (.error e, s') := by
  induction x with
  | ret b => exact fun h => by cases h
  | raise e' => exact fun h => by cases h; rfl
  | seg f k ih => exact fun h => ih _ h

theorem runWith_try {m : σ → σ} (p : Prog σ ε α) : ∀ s : σ,
    p.try_.runWith m s = (.ok (p.runWith m s).1, (p.runWith m s).2) := by
  induction p with
  | ret a => exact fun _ => rfl
  | raise e => exact fun _ => rfl
  | seg f k ih => exact fun s => ih _ _

theorem runWith_returns {m : σ → σ} {P : α → Prop} {p : Prog σ ε α} (hp : p.Returns P) :
    ∀ {s : σ} {a : α}, (p.runWith m s).1 = .ok a → P a := by
  induction p with
  | ret b => exact fun h => Except.ok.inj h ▸ hp
  | raise e => exact fun h => by cases h
  | seg f k ih => exact fun h => ih _ (hp _) h

/-- If the segments leave it nothing to do, the program runs as it does alone. -/
theorem runWith_of_keeps {m : σ → σ} {G : σ → σ → Prop} {p : Prog σ ε α} :
    ∀ {s : σ}, p.Keeps (fun s => m s = s) G → m s = s → p.runWith m s = p.run s := by
  induction p with
  | ret a => exact fun _ hs => congrArg (fun s => (Except.ok a, s)) hs
  | raise e => exact fun _ hs => congrArg (fun s => (Except.error e, s)) hs
  | seg f k ih =>
    intro s hp hs
    obtain ⟨hf, -, hk⟩ := hp s hs
    show (k (m s)).runWith m (f (m s)) = _
    rw [hs]
    exact ih s hk hf

/-- The program alone is another one. -/
theorem Wp.run (hrefl : ∀ s, R s s) {p : Prog σ ε α} {s : σ} (h : p.Wp R Q s) :
    Q (p.run s).1 (p.run s).2 := by
  rw [← runWith_id]
  exact h.runWith hrefl

/-- The program with the given moves of the environment, one before each segment and one at the end;
when the list has ended, none. -/
def runThrough : List (σ → σ) → Prog σ ε α → σ → Except ε α × σ
  | ms, ret a, s => (.ok a, ms.headD id s)
  | ms, raise e, s => (.error e, ms.headD id s)
  | ms, seg f k, s => runThrough ms.tail (k (ms.headD id s)) (f (ms.headD id s))

/-- So is this one. -/
theorem Wp.runThrough (hrefl : ∀ s, R s s) {p : Prog σ ε α} : ∀ {ms : List (σ → σ)} {s : σ},
    (∀ m ∈ ms, ∀ s, R s (m s)) → p.Wp R Q s →
      Q (p.runThrough ms s).1 (p.runThrough ms s).2 := by
  have hhead : ∀ {ms : List (σ → σ)}, (∀ m ∈ ms, ∀ s, R s (m s)) → ∀ s, R s (ms.headD id s) := by
    intro ms hms s
    cases ms with
    | nil => exact hrefl s
    | cons m ms => exact hms m List.mem_cons_self s
  induction p with
  | ret a => exact fun hms hp => hp _ (hhead hms _)
  | raise e => exact fun hms hp => hp _ (hhead hms _)
  | seg f k ih =>
    exact fun hms hp => ih _ (fun m hm => hms m (List.mem_of_mem_tail hm)) (hp _ (hhead hms _))

/-- What holds of every result and every state. -/
theorem wp_of_forall (h : ∀ r s, Q r s) (p : Prog σ ε α) : ∀ s, p.Wp R Q s := by
  induction p with
  | ret a => exact fun _ s' _ => h _ s'
  | raise e => exact fun _ s' _ => h _ s'
  | seg f k ih => exact fun _ s' _ => ih s' (f s')

theorem wp_bind (hrefl : ∀ s, R s s) {x : Prog σ ε β} {g : β → Prog σ ε α}
    (herr : ∀ e s, Q (.error e) s) :
    ∀ {s : σ}, x.Wp R (fun r s => ∀ b, r = .ok b → (g b).Wp R Q s) s → (x.bind g).Wp R Q s := by
  induction x with
  | ret b => exact fun hx => hx _ (hrefl _) b rfl
  | raise e => exact fun _ s' _ => herr e s'
  | seg f k ih => exact fun hx s' hs => ih s' (hx s' hs)

/-- An environment that may stay where it has moved to: its first move can be made beforehand. -/
theorem Wp.of_moved (hstay : ∀ s s', R s s' → R s' s') {p : Prog σ ε α} {s : σ}
    (h : ∀ s', R s s' → p.Wp R Q s') : p.Wp R Q s := by
  cases p with
  | ret a => exact fun s' hs => h s' hs s' (hstay _ _ hs)
  | raise e => exact fun s' hs => h s' hs s' (hstay _ _ hs)
  | seg f k => exact fun s' hs => h s' hs s' (hstay _ _ hs)

/-- The same where the exceptions of the first part matter. -/
theorem wp_bind_moved (hstay : ∀ s s', R s s' → R s' s') {x : Prog σ ε β} {g : β → Prog σ ε α} :
    ∀ {s : σ}, x.Wp R (fun r s => (∀ b, r = .ok b → (g b).Wp R Q s) ∧
      ∀ e, r = .error e → Q (.error e) s) s → (x.bind g).Wp R Q s := by
  induction x with
  | ret b => exact fun hx => Wp.of_moved hstay (fun s' hs => (hx s' hs).1 b rfl)
  | raise e => exact fun hx s' hs => (hx s' hs).2 e rfl
  | seg f k ih => exact fun hx s' hs => ih s' (hx s' hs)

theorem wp_bind_result (hrefl : ∀ s, R s s) {x : Prog σ ε β} {g : β → Prog σ ε α} {s : σ}
    (hx : x.Wp R (fun r s => (∀ b, r = .ok b → (g b).Wp R Q s) ∧
      ∀ e, r = .error e → Q (.error e) s) s) : (x.bind g).Wp R Q s :=
  wp_bind_moved (fun _ s' _ => hrefl s') hx

/-- A guarded program hands on what it ends with. -/
theorem wp_try {Q : Except ε (Except ε α) → σ → Prop} {p : Prog σ ε α} :
    ∀ {s : σ}, p.Wp R (fun r s => Q (.ok r) s) s → p.try_.Wp R Q s := by
  induction p with
  | ret a => exact fun h => h
  | raise e => exact fun h => h
  | seg f k ih => exact fun h s' hs => ih s' (h s' hs)

theorem wp_atomic {f : σ → Except ε α × σ} {s : σ}
    (h : ∀ s₁ s₂, R s s₁ → R (f s₁).2 s₂ → Q (f s₁).1 s₂) : (atomic f).Wp R Q s := by
  intro s₁ h₁
  show (ofExcept (f s₁).1).Wp R Q (f s₁).2
  have hf := h s₁
  cases hr : (f s₁).1 with
  | ok a => rw [hr] at hf; exact fun s₂ h₂ => hf s₂ h₁ h₂
  | error e => rw [hr] at hf; exact fun s₂ h₂ => hf s₂ h₁ h₂

/-- What holds for each of several postconditions holds for all of them. -/
theorem Wp.forall {ι : Type} {P : ι → Except ε α → σ → Prop} {p : Prog σ ε α} :
    ∀ {s : σ}, (∀ i, p.Wp R (P i) s) → p.Wp R (fun r s => ∀ i, P i r s) s := by
  induction p with
  | ret a => exact fun h s' hs i => h i s' hs
  | raise e => exact fun h s' hs i => h i s' hs
  | seg f k ih => exact fun h s' hs => ih s' (fun i => h i s' hs)

theorem Wp.and {Q' : Except ε α → σ → Prop} {p : Prog σ ε α} :
    ∀ {s : σ}, p.Wp R Q s → p.Wp R Q' s → p.Wp R (fun r s => Q r s ∧ Q' r s) s := by
  induction p with
  | ret a => exact fun h h' s' hs => ⟨h s' hs, h' s' hs⟩
  | raise e => exact fun h h' s' hs => ⟨h s' hs, h' s' hs⟩
  | seg f k ih => exact fun h h' s' hs => ih s' (h s' hs) (h' s' hs)

/-- An assertion that neither the environment nor the segments invalidate. -/
theorem wp_of_moves {A : σ → Prop} {P : α → Prop} {G : σ → σ → Prop}
    (hA : ∀ s s', A s → R s s' → A s') (hG : ∀ s s', A s → G s s' → A s')
    {p : Prog σ ε α} (hp : p.Keeps (fun _ => True) G) (hret : p.Returns P) :
    ∀ {s : σ}, A s → p.Wp R (fun r s => A s ∧ ∀ a, r = .ok a → P a) s := by
  induction p with
  | ret a => exact fun hs s' hr => ⟨hA _ _ hs hr, fun b hb => Except.ok.inj hb ▸ hret⟩
  | raise e => exact fun hs s' hr => ⟨hA _ _ hs hr, fun b hb => absurd hb (by simp)⟩
  | seg f k ih =>
    intro s hs s' hr
    obtain ⟨-, hmove, hk⟩ := hp s' trivial
    exact ih s' hk (hret s') (hG _ _ (hA _ _ hs hr) hmove)

/-- Segments that move by `R` themselves keep every assertion that is stable under `R`. -/
theorem wp_of_keeps {A : σ → Prop} {P : α → Prop} (hA : ∀ s s', A s → R s s' → A s')
    {p : Prog σ ε α} (hp : p.Keeps (fun _ => True) R) (hret : p.Returns P) {s : σ} (hs : A s) :
    p.Wp R (fun r s => A s ∧ ∀ a, r = .ok a → P a) s := wp_of_moves hA hA hp hret hs

/-- A program that does not raise, where the environment keeps its invariant. -/
theorem Safe.wp {I : σ → Prop} (hI : ∀ s s', I s → R s s' → I s') {p : Prog σ ε α} :
    ∀ {s : σ}, p.Safe I → I s → p.Wp R (fun r s => (∃ a, r = .ok a) ∧ I s) s := by
  induction p with
  | ret a => exact fun _ hs s' hr => ⟨⟨a, rfl⟩, hI _ _ hs hr⟩
  | raise e => exact fun hp _ => absurd hp id
  | seg f k ih =>
    intro s hp hs s' hr
    obtain ⟨h1, h2⟩ := hp s' (hI _ _ hs hr)
    exact ih s' h2 h1

/-- What follows such a program starts with the invariant. -/
theorem Safe.wp_bind {I : σ → Prop} (hI : ∀ s s', I s → R s s' → I s')
    (hstay : ∀ s s', R s s' → R s' s') {x : Prog σ ε β} {g : β → Prog σ ε α} {s : σ} (hx : x.Safe I)
    (hs : I s) (hg : ∀ b s', I s' → (g b).Wp R Q s') : (x.bind g).Wp R Q s := by
  refine wp_bind_moved hstay ((hx.wp hI hs).mono ?_)
  rintro r s' ⟨⟨a, rfl⟩, hs'⟩
  exact ⟨fun b _ => hg b s' hs', fun e he => absurd he (by simp)⟩

end Wp

end Prog

/-! ## 6. Many programs over one state -/

/-- Tasks over a shared state. -/
structure Pool (σ ε α : Type) where
  state : σ
  tasks : List (Prog σ ε α)

namespace Pool

variable {σ ε α : Type}

/-- Let task `i` run one segment.  A task that is finished, or does not exist, does nothing. -/
def step (p : Pool σ ε α) (i : Nat) : Pool σ ε α :=
  match p.tasks[i]? with
  | some (.seg f k) => ⟨f p.state, p.tasks.set i (k p.state)⟩
  | _ => p

/-- Follow a schedule. -/
def exec (p : Pool σ ε α) (sched : List Nat) : Pool σ ε α := sched.foldl step p

@[simp] theorem exec_nil (p : Pool σ ε α) : p.exec [] = p := rfl

@[simp] theorem exec_cons (p : Pool σ ε α) (i : Nat) (sched : List Nat) :
    p.exec (i :: sched) = (p.step i).exec sched := rfl

end Pool

end Relay
