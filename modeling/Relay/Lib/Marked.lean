/-
# Programs with marked segments

Some questions about a program are not about the states it reaches but about what it uses on the
way: the keys it builds, the names it looks up.  `Marked` is a program in which every segment also
says what it uses, as a function of the state the segment starts from.

`erase` forgets the marks and leaves the program; `mark` gives every segment of a program the same
marks.  So a marked program is written like the program, and `erase_bind`, `erase_mark` and the
other equations show that it is that program.

`log` is everything used along one run, with any moves of the environment in between.  `Only I P`
says that a program started where `I` holds uses nothing outside `P`, as long as the environment
keeps `I` (`Only.log`).
-/
import Mathlib
import Relay.Lib.Prog

namespace Relay

/-- A program whose segments say what they use. -/
inductive Marked (σ κ ε α : Type) : Type
  | ret (a : α)
  | raise (e : ε)
  | seg (f : σ → σ) (uses : σ → List κ) (k : σ → Marked σ κ ε α)

namespace Marked

variable {σ κ ε α β : Type}

/-! ## 1. Writing marked programs -/

/-- The program without its marks. -/
def erase : Marked σ κ ε α → Prog σ ε α
  | ret a => .ret a
  | raise e => .raise e
  | seg f _ k => .seg f (fun s => (k s).erase)

/-- A program all of whose segments have the same marks. -/
def mark (uses : σ → List κ) : Prog σ ε α → Marked σ κ ε α
  | .ret a => ret a
  | .raise e => raise e
  | .seg f k => seg f uses (fun s => mark uses (k s))

/-- A program that uses nothing. -/
def quiet (p : Prog σ ε α) : Marked σ κ ε α := mark (fun _ => []) p

/-- Run `x`, then `g` on its result. -/
def bind : Marked σ κ ε α → (α → Marked σ κ ε β) → Marked σ κ ε β
  | ret a, g => g a
  | raise e, _ => raise e
  | seg f uses k, g => seg f uses (fun s => (k s).bind g)

instance : Monad (Marked σ κ ε) where
  pure := ret
  bind := bind

/-- Run `p` and hand its outcome on, exception or not. -/
def try_ : Marked σ κ ε α → Marked σ κ ε (Except ε α)
  | ret a => ret (.ok a)
  | raise e => ret (.error e)
  | seg f uses k => seg f uses (fun s => (k s).try_)

/-- `for a in l: p(a)`. -/
def forEach (p : α → Marked σ κ ε Unit) : List α → Marked σ κ ε Unit
  | [] => ret ()
  | a :: l => (p a).bind (fun _ => forEach p l)

@[simp] theorem pure_eq (a : α) : (pure a : Marked σ κ ε α) = ret a := rfl

@[simp] theorem bind_eq (x : Marked σ κ ε α) (g : α → Marked σ κ ε β) : x >>= g = x.bind g := rfl

@[simp] theorem erase_ret (a : α) : (ret a : Marked σ κ ε α).erase = .ret a := rfl

@[simp] theorem erase_raise (e : ε) : (raise e : Marked σ κ ε α).erase = .raise e := rfl

@[simp] theorem erase_bind (x : Marked σ κ ε α) (g : α → Marked σ κ ε β) :
    (x.bind g).erase = x.erase.bind (fun a => (g a).erase) := by
  induction x with
  | ret a => rfl
  | raise e => rfl
  | seg f uses k ih => exact congrArg (Prog.seg f) (funext ih)

@[simp] theorem erase_mark (uses : σ → List κ) (p : Prog σ ε α) : (mark uses p).erase = p := by
  induction p with
  | ret a => rfl
  | raise e => rfl
  | seg f k ih => exact congrArg (Prog.seg f) (funext ih)

@[simp] theorem erase_quiet (p : Prog σ ε α) : (quiet p : Marked σ κ ε α).erase = p :=
  erase_mark _ p

@[simp] theorem erase_ite (b : Bool) (x y : Marked σ κ ε α) :
    (if b then x else y).erase = if b then x.erase else y.erase := apply_ite erase _ x y

@[simp] theorem erase_try (x : Marked σ κ ε α) : x.try_.erase = x.erase.try_ := by
  induction x with
  | ret a => rfl
  | raise e => rfl
  | seg f uses k ih => exact congrArg (Prog.seg f) (funext ih)

@[simp] theorem erase_forEach (p : α → Marked σ κ ε Unit) : ∀ l : List α,
    (forEach p l).erase = Prog.forEach (fun a => (p a).erase) l
  | [] => rfl
  | a :: l => by
    rw [forEach, erase_bind, Prog.forEach]
    exact congrArg _ (funext fun _ => erase_forEach p l)

/-! ## 2. What a run uses -/

/-- Everything used along the run with the given moves of the environment, one before each
segment. -/
def log : List (σ → σ) → Marked σ κ ε α → σ → List κ
  | _, ret _, _ => []
  | _, raise _, _ => []
  | ms, seg f uses k, s =>
    uses (ms.headD id s) ++ log ms.tail (k (ms.headD id s)) (f (ms.headD id s))

/-- Started where `I` holds, every segment uses names in `P` only and re-establishes `I`. -/
def Only (I : σ → Prop) (P : κ → Prop) : Marked σ κ ε α → Prop
  | ret _ => True
  | raise _ => True
  | seg f uses k => ∀ s, I s → (∀ c ∈ uses s, P c) ∧ I (f s) ∧ (k s).Only I P

section Only

variable {I : σ → Prop} {P : κ → Prop}

theorem only_ret (a : α) : (ret a : Marked σ κ ε α).Only I P := trivial

/-- Segments that move by `G`, under which `I` is stable. -/
theorem only_mark {uses : σ → List κ} (hu : ∀ s, I s → ∀ c ∈ uses s, P c) {G : σ → σ → Prop}
    (hI : ∀ s s', I s → G s s' → I s') {p : Prog σ ε α} (hp : p.Keeps (fun _ => True) G) :
    (mark uses p).Only I P := by
  induction p with
  | ret a => trivial
  | raise e => trivial
  | seg f k ih =>
    intro s hs
    obtain ⟨-, h2, h3⟩ := hp s trivial
    exact ⟨hu s hs, hI s _ hs h2, ih s h3⟩

theorem only_quiet {G : σ → σ → Prop} (hI : ∀ s s', I s → G s s' → I s') {p : Prog σ ε α}
    (hp : p.Keeps (fun _ => True) G) : (quiet p : Marked σ κ ε α).Only I P :=
  only_mark (fun _ _ _ hc => nomatch hc) hI hp

theorem only_modify {uses : σ → List κ} (hu : ∀ s, I s → ∀ c ∈ uses s, P c) {f : σ → σ}
    (hI : ∀ s, I s → I (f s)) : (mark uses (Prog.modify f : Prog σ ε Unit)).Only I P :=
  fun s hs => ⟨hu s hs, hI s hs, trivial⟩

/-- What follows a look at the state may rely on what was seen. -/
theorem only_act_bind {f : σ → α × σ} {g : α → Marked σ κ ε β}
    (h : ∀ s, I s → I (f s).2 ∧ (g (f s).1).Only I P) :
    ((quiet (Prog.act f)).bind g).Only I P := fun s hs =>
  ⟨(fun _ hc => nomatch hc), (h s hs).1, (h s hs).2⟩

theorem Only.bind {x : Marked σ κ ε α} {g : α → Marked σ κ ε β} (hx : x.Only I P)
    (hg : ∀ a, (g a).Only I P) : (x.bind g).Only I P := by
  induction x with
  | ret a => exact hg a
  | raise e => trivial
  | seg f uses k ih =>
    intro s hs
    obtain ⟨h1, h2, h3⟩ := hx s hs
    exact ⟨h1, h2, ih s h3⟩

theorem Only.try {x : Marked σ κ ε α} (hx : x.Only I P) : x.try_.Only I P := by
  induction x with
  | ret a => trivial
  | raise e => trivial
  | seg f uses k ih =>
    intro s hs
    obtain ⟨h1, h2, h3⟩ := hx s hs
    exact ⟨h1, h2, ih s h3⟩

theorem Only.forEach {p : α → Marked σ κ ε Unit} : ∀ {l : List α},
    (∀ a ∈ l, (p a).Only I P) → (Marked.forEach p l).Only I P
  | [], _ => trivial
  | a :: _, h => Only.bind (h a List.mem_cons_self)
      (fun _ => Only.forEach (fun b hb => h b (List.mem_cons_of_mem _ hb)))

/-- Along every run in an environment that keeps `I`, nothing outside `P` is used. -/
theorem Only.log {p : Marked σ κ ε α} : ∀ {ms : List (σ → σ)} {s : σ}, p.Only I P →
    (∀ m ∈ ms, ∀ s, I s → I (m s)) → I s → ∀ c ∈ p.log ms s, P c := by
  induction p with
  | ret a => exact fun _ _ _ _ hc => nomatch hc
  | raise e => exact fun _ _ _ _ hc => nomatch hc
  | seg f uses k ih =>
    intro ms s hp hms hs c hc
    have hm : I (ms.headD id s) := by
      cases ms with
      | nil => exact hs
      | cons m ms => exact hms m List.mem_cons_self s hs
    obtain ⟨h1, h2, h3⟩ := hp _ hm
    rcases List.mem_append.mp hc with hc | hc
    · exact h1 c hc
    · exact ih _ h3 (fun m hmem => hms m (List.mem_of_mem_tail hmem)) h2 c hc

end Only

/-! ## 3. The program alone -/

/-- What the first part uses, and then what the rest does with its result. -/
theorem log_bind_alone (x : Marked σ κ ε α) (g : α → Marked σ κ ε β) : ∀ s : σ,
    (x.bind g).log [] s = x.log [] s ++ match x.erase.run s with
      | (.ok a, s') => (g a).log [] s'
      | (.error _, _) => [] := by
  induction x with
  | ret a => exact fun _ => rfl
  | raise e => exact fun _ => rfl
  | seg f uses k ih =>
    intro s
    show uses s ++ ((k s).bind g).log [] (f s) = uses s ++ (k s).log [] (f s) ++ _
    rw [ih s (f s), List.append_assoc]
    rfl

theorem mem_log_bind_left {x : Marked σ κ ε α} {g : α → Marked σ κ ε β} {s : σ} {c : κ}
    (h : c ∈ x.log [] s) : c ∈ (x.bind g).log [] s := by
  rw [log_bind_alone]
  exact List.mem_append_left _ h

theorem mem_log_bind_right {x : Marked σ κ ε α} {g : α → Marked σ κ ε β} {s s' : σ} {a : α} {c : κ}
    (hx : x.erase.run s = (.ok a, s')) (h : c ∈ (g a).log [] s') : c ∈ (x.bind g).log [] s := by
  rw [log_bind_alone, hx]
  exact List.mem_append_right _ h

end Marked

end Relay
