/-
# Insertion-ordered dictionaries and sets

A Python `dict`, a JavaScript `Map` and a JavaScript `Set` all iterate in insertion order:
writing a key that is present keeps its place, writing a new key appends it, deleting a key and
writing it again moves it to the end.  `Dict` and `OSet` are these containers, with the absence
of repeated keys carried as a field, so that no operation below has to re-establish it.

Everything is stated through `get?` (for `Dict`) and membership (for `OSet`); the entry list
itself is only looked at by a program that iterates.  `Dict.count` counts the entries that
satisfy a predicate and is the one aggregate the rest of the development needs, so it comes with
an equation for each update.
-/
import Mathlib

namespace Relay

/-! ## 1. Dictionaries -/

/-- A dictionary: its entries in insertion order, no key twice. -/
structure Dict (κ ν : Type) where
  entries : List (κ × ν)
  nodup : (entries.map Prod.fst).Nodup

namespace Dict

variable {κ ν : Type} [DecidableEq κ]

/-- Overwrite the first entry at `k`, or append a new one. -/
def setL (k : κ) (v : ν) : List (κ × ν) → List (κ × ν)
  | [] => [(k, v)]
  | e :: t => if e.1 = k then (k, v) :: t else e :: setL k v t

/-- The value at the first entry with key `k`. -/
def getL (k : κ) : List (κ × ν) → Option ν
  | [] => none
  | e :: t => if e.1 = k then some e.2 else getL k t

theorem keys_setL (k : κ) (v : ν) : ∀ l : List (κ × ν),
    (setL k v l).map Prod.fst = if k ∈ l.map Prod.fst then l.map Prod.fst
      else l.map Prod.fst ++ [k]
  | [] => by simp [setL]
  | e :: t => by
    have ih := keys_setL k v t
    by_cases h : e.1 = k
    · simp [setL, h]
    · have hne : ¬ k = e.1 := fun hh => h hh.symm
      simp only [setL, h, if_false, List.map_cons, ih, List.mem_cons, hne, false_or]
      split <;> simp

theorem nodup_setL (k : κ) (v : ν) {l : List (κ × ν)} (h : (l.map Prod.fst).Nodup) :
    ((setL k v l).map Prod.fst).Nodup := by
  rw [keys_setL]
  split
  · exact h
  · rename_i hk
    exact List.Nodup.append h (List.nodup_singleton k) (List.disjoint_singleton.mpr hk)

omit [DecidableEq κ] in
theorem nodup_filterL (p : κ × ν → Bool) {l : List (κ × ν)} (h : (l.map Prod.fst).Nodup) :
    ((l.filter p).map Prod.fst).Nodup :=
  h.sublist (List.filter_sublist.map _)

/-- The empty dictionary. -/
def empty : Dict κ ν := ⟨[], List.nodup_nil⟩

/-- `d.get(k)`. -/
def get? (d : Dict κ ν) (k : κ) : Option ν := getL k d.entries

/-- `d.get(k, default)`. -/
def getD (d : Dict κ ν) (k : κ) (v : ν) : ν := (d.get? k).getD v

/-- `d[k] = v`. -/
def set (d : Dict κ ν) (k : κ) (v : ν) : Dict κ ν := ⟨setL k v d.entries, nodup_setL k v d.nodup⟩

/-- `d.pop(k, None)`, keeping the dictionary. -/
def erase (d : Dict κ ν) (k : κ) : Dict κ ν :=
  ⟨d.entries.filter (fun e => decide (e.1 ≠ k)), nodup_filterL _ d.nodup⟩

/-- Update the value at `k` in place, if there is one. -/
def modify (d : Dict κ ν) (k : κ) (f : ν → ν) : Dict κ ν :=
  match d.get? k with
  | some v => d.set k (f v)
  | none => d

/-- `len(d)`. -/
def size (d : Dict κ ν) : Nat := d.entries.length

/-- A dictionary written out entry by entry, a later entry at a key winning. -/
def ofList (l : List (κ × ν)) : Dict κ ν := l.foldl (fun d e => d.set e.1 e.2) empty

instance : Inhabited (Dict κ ν) := ⟨empty⟩

@[simp] theorem get?_empty (k : κ) : (empty : Dict κ ν).get? k = none := rfl

theorem getL_setL (k k' : κ) (v : ν) : ∀ l : List (κ × ν),
    getL k' (setL k v l) = if k' = k then some v else getL k' l
  | [] => by
    by_cases h : k' = k
    · simp [setL, getL, h]
    · have : ¬ k = k' := fun hh => h hh.symm
      simp [setL, getL, h, this]
  | e :: t => by
    have ih := getL_setL k k' v t
    by_cases h : e.1 = k
    · by_cases hk : k' = k
      · simp [setL, getL, h, hk]
      · have : ¬ k = k' := fun hh => hk hh.symm
        simp [setL, getL, h, hk, this]
    · by_cases hk : e.1 = k'
      · have : ¬ k' = k := fun hh => h (hk.trans hh)
        simp [setL, getL, hk, this]
      · simp [setL, getL, h, hk, ih]

theorem getL_filter_ne (k k' : κ) : ∀ l : List (κ × ν),
    getL k' (l.filter (fun e => decide (e.1 ≠ k))) = if k' = k then none else getL k' l
  | [] => by simp [getL]
  | e :: t => by
    have ih := getL_filter_ne k k' t
    by_cases h : e.1 = k
    · by_cases hk : k' = k
      · simp only [hk, if_true] at ih ⊢
        rw [List.filter_cons_of_neg (by simp [h])]
        exact ih
      · have : ¬ e.1 = k' := fun hh => hk (hh.symm.trans h)
        rw [List.filter_cons_of_neg (by simp [h]), ih]
        simp [getL, hk, this]
    · rw [List.filter_cons_of_pos (by simp [h])]
      by_cases hk : e.1 = k'
      · have : ¬ k' = k := fun hh => h (hk.trans hh)
        simp [getL, hk, this]
      · simp only [getL, hk, if_false, ih]

@[simp] theorem get?_set (d : Dict κ ν) (k k' : κ) (v : ν) :
    (d.set k v).get? k' = if k' = k then some v else d.get? k' := getL_setL k k' v d.entries

@[simp] theorem get?_erase (d : Dict κ ν) (k k' : κ) :
    (d.erase k).get? k' = if k' = k then none else d.get? k' := getL_filter_ne k k' d.entries

theorem get?_modify (d : Dict κ ν) (k k' : κ) (f : ν → ν) :
    (d.modify k f).get? k' = if k' = k then (d.get? k').map f else d.get? k' := by
  unfold modify
  cases h : d.get? k with
  | none =>
    by_cases hk : k' = k
    · subst hk; simp [h]
    · simp [hk]
  | some v =>
    by_cases hk : k' = k
    · subst hk; simp [h]
    · simp [hk]

theorem setL_self {k : κ} {v : ν} : ∀ {l : List (κ × ν)}, getL k l = some v → setL k v l = l
  | e :: t, h => by
    by_cases hk : e.1 = k
    · simp only [getL, hk, if_true, Option.some.injEq] at h
      simp only [setL, hk, if_true, ← h]
      rw [← hk]
    · simp only [getL, hk, if_false] at h
      simp only [setL, hk, if_false, setL_self h]

theorem modify_congr {d : Dict κ ν} {k : κ} {f g : ν → ν}
    (h : ∀ v, d.get? k = some v → f v = g v) : d.modify k f = d.modify k g := by
  unfold modify
  cases hv : d.get? k with
  | none => rfl
  | some v => simp only [h v hv]

theorem modify_self {d : Dict κ ν} {k : κ} {f : ν → ν} (h : ∀ v, d.get? k = some v → f v = v) :
    d.modify k f = d := by
  unfold modify
  cases hv : d.get? k with
  | none => rfl
  | some v =>
    simp only [h v hv, set]
    congr 1
    exact setL_self hv

@[simp] theorem get?_modify_self (d : Dict κ ν) (k : κ) (f : ν → ν) :
    (d.modify k f).get? k = (d.get? k).map f := by simp [get?_modify]

@[simp] theorem getD_empty (k : κ) (v : ν) : (empty : Dict κ ν).getD k v = v := rfl

theorem getD_set (d : Dict κ ν) (k k' : κ) (v w : ν) :
    (d.set k v).getD k' w = if k' = k then v else d.getD k' w := by
  unfold getD
  rw [get?_set]
  split <;> rfl

theorem getL_eq_some {k : κ} {v : ν} : ∀ {l : List (κ × ν)}, getL k l = some v → (k, v) ∈ l
  | e :: t, h => by
    simp only [getL] at h
    split at h
    · rename_i hk
      rw [← hk, ← Option.some.inj h]
      exact List.mem_cons_self
    · exact List.mem_cons_of_mem _ (getL_eq_some h)

theorem getL_of_mem {k : κ} {v : ν} : ∀ {l : List (κ × ν)}, (l.map Prod.fst).Nodup →
    (k, v) ∈ l → getL k l = some v
  | e :: t, hnd, hm => by
    rw [List.map_cons, List.nodup_cons] at hnd
    rcases List.mem_cons.mp hm with rfl | hm
    · simp [getL]
    · have hne : ¬ e.1 = k := fun hh => hnd.1 (hh ▸ List.mem_map.mpr ⟨(k, v), hm, rfl⟩)
      simp only [getL, hne, if_false]
      exact getL_of_mem hnd.2 hm

/-- Looking a key up and finding the entry are the same. -/
theorem mem_entries (d : Dict κ ν) (k : κ) (v : ν) : (k, v) ∈ d.entries ↔ d.get? k = some v :=
  ⟨getL_of_mem d.nodup, getL_eq_some⟩

/-! ### Counting entries -/

/-- How many entries satisfy `p`. -/
def count (d : Dict κ ν) (p : κ → ν → Bool) : Nat := d.entries.countP (fun e => p e.1 e.2)

omit [DecidableEq κ] in
@[simp] theorem count_empty (p : κ → ν → Bool) : (empty : Dict κ ν).count p = 0 := rfl

theorem countP_setL_new (p : κ × ν → Bool) (k : κ) (v : ν) : ∀ {l : List (κ × ν)},
    getL k l = none → (setL k v l).countP p = l.countP p + (if p (k, v) then 1 else 0)
  | [], _ => by simp [setL, List.countP_cons]
  | e :: t, h => by
    simp only [getL] at h
    split at h
    · exact absurd h (by simp)
    · rename_i hk
      simp only [setL, hk, if_false, List.countP_cons, countP_setL_new p k v h]
      omega

theorem countP_setL_old (p : κ × ν → Bool) (k : κ) (v : ν) {w : ν} : ∀ {l : List (κ × ν)},
    getL k l = some w →
      (setL k v l).countP p + (if p (k, w) then 1 else 0)
        = l.countP p + (if p (k, v) then 1 else 0)
  | e :: t, h => by
    obtain ⟨a, b⟩ := e
    simp only [getL] at h
    split at h
    · rename_i hk
      cases h
      subst hk
      simp only [setL, if_true, List.countP_cons]
      omega
    · rename_i hk
      have ih := countP_setL_old p k v h
      simp only [setL, hk, if_false, List.countP_cons]
      omega

theorem countP_filter_ne (p : κ × ν → Bool) (k : κ) {w : ν} : ∀ {l : List (κ × ν)},
    (l.map Prod.fst).Nodup → getL k l = some w →
      (l.filter (fun e => decide (e.1 ≠ k))).countP p + (if p (k, w) then 1 else 0) = l.countP p
  | e :: t, hnd, h => by
    obtain ⟨a, b⟩ := e
    rw [List.map_cons, List.nodup_cons] at hnd
    simp only [getL] at h
    split at h
    · rename_i hk
      cases h
      subst hk
      rw [List.filter_cons_of_neg (by simp)]
      have hid : t.filter (fun e => decide (e.1 ≠ a)) = t := by
        refine List.filter_eq_self.mpr (fun x hx => ?_)
        have : x.1 ≠ a := fun hh => hnd.1 (hh ▸ List.mem_map.mpr ⟨x, hx, rfl⟩)
        simpa using this
      rw [hid, List.countP_cons]
    · rename_i hk
      have ih := countP_filter_ne p k hnd.2 h
      rw [List.filter_cons_of_pos (by simpa using hk), List.countP_cons, List.countP_cons]
      omega

theorem count_set_new {d : Dict κ ν} {k : κ} (p : κ → ν → Bool) (v : ν) (h : d.get? k = none) :
    (d.set k v).count p = d.count p + (if p k v then 1 else 0) :=
  countP_setL_new (fun e => p e.1 e.2) k v h

theorem count_set_old {d : Dict κ ν} {k : κ} {w : ν} (p : κ → ν → Bool) (v : ν)
    (h : d.get? k = some w) :
    (d.set k v).count p + (if p k w then 1 else 0) = d.count p + (if p k v then 1 else 0) :=
  countP_setL_old (fun e => p e.1 e.2) k v h

theorem count_erase {d : Dict κ ν} {k : κ} {w : ν} (p : κ → ν → Bool) (h : d.get? k = some w) :
    (d.erase k).count p + (if p k w then 1 else 0) = d.count p :=
  countP_filter_ne (fun e => p e.1 e.2) k d.nodup h

/-- Only which keys are counted matters. -/
theorem count_congr {ν' : Type} {d : Dict κ ν} {d' : Dict κ ν'} {p : κ → ν → Bool}
    {p' : κ → ν' → Bool}
    (h : ∀ k, (∃ v, d.get? k = some v ∧ p k v = true) ↔
      ∃ v, d'.get? k = some v ∧ p' k v = true) : d.count p = d'.count p' := by
  have key : ∀ {μ : Type} (e : Dict κ μ) (q : κ → μ → Bool) (k : κ),
      k ∈ (e.entries.filter (fun a => q a.1 a.2)).map Prod.fst ↔
        ∃ v, e.get? k = some v ∧ q k v = true := by
    intro μ e q k
    simp only [List.mem_map, List.mem_filter]
    constructor
    · rintro ⟨⟨k', v⟩, ⟨hm, hq⟩, rfl⟩
      exact ⟨v, (mem_entries e _ _).mp hm, hq⟩
    · rintro ⟨v, hg, hq⟩
      exact ⟨(k, v), ⟨(mem_entries e _ _).mpr hg, hq⟩, rfl⟩
  have hperm : ((d.entries.filter (fun a => p a.1 a.2)).map Prod.fst).Perm
      ((d'.entries.filter (fun a => p' a.1 a.2)).map Prod.fst) := by
    refine (List.perm_ext_iff_of_nodup (nodup_filterL _ d.nodup) (nodup_filterL _ d'.nodup)).mpr ?_
    intro k
    rw [key, key]
    exact h k
  have hlen := hperm.length_eq
  rw [List.length_map, List.length_map] at hlen
  rw [count, count, List.countP_eq_length_filter, List.countP_eq_length_filter]
  exact hlen

/-- Something is counted exactly when some entry satisfies the predicate. -/
theorem count_pos_iff {d : Dict κ ν} {p : κ → ν → Bool} :
    0 < d.count p ↔ ∃ k v, d.get? k = some v ∧ p k v = true := by
  unfold count
  rw [List.countP_pos_iff]
  constructor
  · rintro ⟨⟨k, v⟩, hm, hp⟩
    exact ⟨k, v, (mem_entries d k v).mp hm, hp⟩
  · rintro ⟨k, v, hg, hp⟩
    exact ⟨(k, v), (mem_entries d k v).mpr hg, hp⟩

end Dict

/-! ## 2. Sets -/

/-- A set: its elements in insertion order, none twice. -/
structure OSet (α : Type) where
  elems : List α
  nodup : elems.Nodup

namespace OSet

variable {α : Type} [DecidableEq α]

/-- The empty set. -/
def empty : OSet α := ⟨[], List.nodup_nil⟩

instance : Inhabited (OSet α) := ⟨empty⟩

instance : Membership α (OSet α) := ⟨fun s a => a ∈ s.elems⟩

instance (a : α) (s : OSet α) : Decidable (a ∈ s) := inferInstanceAs (Decidable (a ∈ s.elems))

/-- `s.add(a)`. -/
def add (s : OSet α) (a : α) : OSet α :=
  if h : a ∈ s.elems then s
  else ⟨s.elems ++ [a],
    List.Nodup.append s.nodup (List.nodup_singleton a) (List.disjoint_singleton.mpr h)⟩

/-- `s.discard(a)`. -/
def discard (s : OSet α) (a : α) : OSet α :=
  ⟨s.elems.filter (fun b => decide (b ≠ a)), s.nodup.filter _⟩

omit [DecidableEq α] in
theorem mem_def {a : α} {s : OSet α} : a ∈ s ↔ a ∈ s.elems := Iff.rfl

omit [DecidableEq α] in
@[simp] theorem not_mem_empty (a : α) : a ∉ (empty : OSet α) := by
  simp [mem_def, empty]

@[simp] theorem mem_add {a b : α} {s : OSet α} : b ∈ s.add a ↔ b = a ∨ b ∈ s := by
  unfold add
  split
  · rename_i h
    constructor
    · exact Or.inr
    · rintro (rfl | hb)
      · exact h
      · exact hb
  · simp [mem_def, or_comm]

@[simp] theorem mem_discard {a b : α} {s : OSet α} : b ∈ s.discard a ↔ b ≠ a ∧ b ∈ s := by
  simp [mem_def, discard, and_comm]

theorem length_add_le (s : OSet α) (a : α) : (s.add a).elems.length ≤ s.elems.length + 1 := by
  unfold add
  split
  · exact Nat.le_succ _
  · exact (List.length_append).le

theorem length_discard_le (s : OSet α) (a : α) : (s.discard a).elems.length ≤ s.elems.length :=
  List.length_filter_le _ _

end OSet

end Relay
