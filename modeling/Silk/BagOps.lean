import Mathlib.Algebra.BigOperators.Group.List
import Mathlib.Data.Nat.SuccPred
import Silk.BagBase
/-! The rest of `Bag`'s operations in `pysilk/python/__init__.py` that are written in Python:
`add` and `remove` over `BagBase`'s `incr` and `decr`, `__isub__` (and `__sub__`, which runs it
on a copy), `__imul__`, `complement_intersect`, `__eq__`, `constrain_values`, `constrain_keys`
and `inversion`. `decr` raises `ValueError` rather than take a counter below zero, which
`__isub__` relies on. A loop over `iteritems` walks the entries as they were when it started,
also where its body sets or deletes counters of the bag it walks. The counters of the C bag are
64-bit: `incr` and `B[k] = v` raise `OverflowError` rather than pass `BAG_COUNTER_MAX`; the
other operations store no counter larger than one the bags already hold. -/
namespace Silk
namespace Bag
namespace BagBase

variable {K : Type} [DecidableEq K]

theorem count_of_mem {l : List (K × Nat)} (hl : (l.map Prod.fst).Nodup) {e : K × Nat}
    (he : e ∈ l) : count e.1 l = e.2 := by
  induction l with
  | nil => cases he
  | cons x xs ih =>
    rw [List.map_cons, List.nodup_cons] at hl
    rcases List.mem_cons.1 he with rfl | he
    · exact if_pos rfl
    · have hx : x.1 ≠ e.1 := fun h => hl.1 (h ▸ List.mem_map_of_mem _ he)
      rw [count, if_neg hx, ih hl.2 he]

theorem get_of_mem {b : BagBase K} {e : K × Nat} (he : e ∈ b.entries) : b.get e.1 = e.2 :=
  count_of_mem b.nodup he

/-- A key has an entry exactly when its counter is positive. -/
theorem mem_keys_iff {b : BagBase K} {k : K} : k ∈ b.entries.map Prod.fst ↔ 0 < b.get k := by
  refine ⟨fun hk => ?_, fun hk => by_contra fun h => by rw [get_eq_zero b h] at hk; cases hk⟩
  obtain ⟨e, he, rfl⟩ := List.mem_map.1 hk
  rw [get_of_mem he]
  exact b.pos e he

/-- A loop over entries with distinct keys whose body changes at most the counter of its entry's
key, to `F key counter value`: afterwards each key of the loop holds `F` of its counter before the
loop, and every other key its counter. -/
theorem get_foldl_local (st : BagBase K → K × Nat → BagBase K) (F : K → Nat → Nat → Nat)
    (hst : ∀ r e k, (st r e).get k = if k = e.1 then F e.1 (r.get e.1) e.2 else r.get k)
    (l : List (K × Nat)) (hl : (l.map Prod.fst).Nodup) (r : BagBase K) (k : K) :
    (l.foldl st r).get k = if k ∈ l.map Prod.fst then F k (r.get k) (count k l) else r.get k := by
  induction l generalizing r with
  | nil => simp
  | cons e es ih =>
    rw [List.map_cons, List.nodup_cons] at hl
    rw [List.foldl_cons, ih hl.2, hst]
    by_cases hk : k = e.1
    · subst hk
      simp [hl.1, count]
    · have : k ∈ e.1 :: es.map Prod.fst ↔ k ∈ es.map Prod.fst := by simp [hk]
      simp only [List.map_cons, this, count, Ne.symm hk, hk, if_false]

/-! ### `incr`, `decr`, `add` and `remove` -/

/-- `BAG_COUNTER_MAX`, the largest counter of the C bag: `UINT64_MAX`. -/
def bagCounterMax : Nat := 2 ^ 64 - 1

/-- `B.incr(key, value)`: `OverflowError` where the counter would pass `BAG_COUNTER_MAX`. -/
def incr (self : BagBase K) (k : K) (v : Nat) : Except PyError (BagBase K) :=
  if self.get k + v ≤ bagCounterMax then .ok (self.set k (self.get k + v)) else .error .overflowError

/-- `B.decr(key, value)`: `ValueError` where the counter would go below zero. -/
def decr (self : BagBase K) (k : K) (v : Nat) : Except PyError (BagBase K) :=
  if v ≤ self.get k then .ok (self.set k (self.get k - v)) else .error .valueError

/-- `B[key] = value` (`__setitem__`): `OverflowError` above `BAG_COUNTER_MAX`. -/
def setItem (self : BagBase K) (k : K) (v : Nat) : Except PyError (BagBase K) :=
  if v ≤ bagCounterMax then .ok (self.set k v) else .error .overflowError

theorem decr_eq (b : BagBase K) (k : K) (v : Nat) :
    b.decr k v = if v ≤ b.get k then .ok (b.set k (b.get k - v)) else .error .valueError := rfl

/-- An argument of `add` or `remove`: a key, or a sequence, which `incr` and `decr` refuse with
`TypeError`. -/
inductive Arg (K : Type)
  | key (k : K)
  | seq (items : List (Arg K))

/-- `self.incr(x)` for one argument `x`. -/
def incrArg (self : BagBase K) : Arg K → Except PyError (BagBase K)
  | .key k => self.incr k 1
  | .seq _ => .error .typeError

/-- `self.decr(x)` for one argument `x`. -/
def decrArg (self : BagBase K) : Arg K → Except PyError (BagBase K)
  | .key k => self.decr k 1
  | .seq _ => .error .typeError

/-- A `for` loop whose body changes the bag in place: the bag when the loop ends or its body
raises, and what it raised. -/
def forEach {α : Type} (body : BagBase K → α → Except PyError (BagBase K)) :
    BagBase K → List α → BagBase K × Option PyError
  | b, [] => (b, none)
  | b, x :: xs => match body b x with
    | .ok b' => forEach body b' xs
    | .error e => (b, some e)

/-- `B.add(*items)`. With one argument that is a sequence, `self.incr(items[0])` raises
`TypeError` and the `except` walks the sequence; with one key it is the loop over `items`. -/
def add (self : BagBase K) : List (Arg K) → BagBase K × Option PyError
  | [.seq xs] => forEach incrArg self xs
  | items => forEach incrArg self items

/-- `B.remove(*items)`, as `add` with `decr`. -/
def remove (self : BagBase K) : List (Arg K) → BagBase K × Option PyError
  | [.seq xs] => forEach decrArg self xs
  | items => forEach decrArg self items

omit [DecidableEq K] in
@[simp] theorem forEach_nil {α : Type} (body : BagBase K → α → Except PyError (BagBase K))
    (b : BagBase K) : forEach body b [] = (b, none) := rfl

omit [DecidableEq K] in
theorem forEach_cons_ok {α : Type} {body : BagBase K → α → Except PyError (BagBase K)}
    {b b' : BagBase K} {x : α} (h : body b x = .ok b') (xs : List α) :
    forEach body b (x :: xs) = forEach body b' xs := by
  simp only [forEach, h]

omit [DecidableEq K] in
theorem forEach_cons_error {α : Type} {body : BagBase K → α → Except PyError (BagBase K)}
    {b : BagBase K} {x : α} {e : PyError} (h : body b x = .error e) (xs : List α) :
    forEach body b (x :: xs) = (b, some e) := by
  simp only [forEach, h]

omit [DecidableEq K] in
theorem forEach_append_ok {α : Type} {body : BagBase K → α → Except PyError (BagBase K)}
    {b R : BagBase K} {l₁ : List α} (h : forEach body b l₁ = (R, none)) (l₂ : List α) :
    forEach body b (l₁ ++ l₂) = forEach body R l₂ := by
  induction l₁ generalizing b with
  | nil => cases h; rfl
  | cons x xs ih =>
    cases hx : body b x with
    | ok b' => rw [forEach_cons_ok hx] at h; rw [List.cons_append, forEach_cons_ok hx, ih h]
    | error e => rw [forEach_cons_error hx] at h; cases h

omit [DecidableEq K] in
/-- A loop whose body raises `err`, before any change, exactly at the items that fail `p`, and
otherwise applies `f`: done when every item passes; otherwise `err` at the first that fails,
after the items before it. -/
theorem forEach_guarded {α : Type} (p : α → Prop) [DecidablePred p] (f : BagBase K → α → BagBase K)
    {body : BagBase K → α → Except PyError (BagBase K)} {err : PyError}
    (hbody : ∀ r x, body r x = if p x then .ok (f r x) else .error err) (r : BagBase K) (l : List α) :
    ((∀ x ∈ l, p x) → forEach body r l = (l.foldl f r, none)) ∧
    (¬ (∀ x ∈ l, p x) → ∃ pre x post, l = pre ++ x :: post ∧ (∀ y ∈ pre, p y) ∧ ¬ p x ∧
      forEach body r l = (pre.foldl f r, some err)) := by
  induction l generalizing r with
  | nil => exact ⟨fun _ => rfl, fun h => absurd nofun h⟩
  | cons x xs ih =>
    by_cases hx : p x
    · rw [forEach_cons_ok ((hbody r x).trans (if_pos hx))]
      refine ⟨fun h => (ih _).1 fun y hy => h y (.tail _ hy), fun h => ?_⟩
      obtain ⟨pre, y, post, rfl, hpre, hy, hR⟩ :=
        (ih (f r x)).2 fun h' => h (List.forall_mem_cons.2 ⟨hx, h'⟩)
      exact ⟨x :: pre, y, post, rfl, List.forall_mem_cons.2 ⟨hx, hpre⟩, hy, hR⟩
    · rw [forEach_cons_error ((hbody r x).trans (if_neg hx))]
      exact ⟨fun h => absurd (h x (.head _)) hx, fun _ => ⟨[], x, xs, rfl, nofun, hx, rfl⟩⟩

/-! #### Loops that step counters by one

`incr(key)` and `decr(key)` take a counter `c` to `next c` where `ok c` holds, and raise before
any change where it does not. -/

/-- Every key of `l` can take its turns from `b`: its counter is `ok` before each. -/
def Fits (ok : Nat → Prop) (next : Nat → Nat) (b : BagBase K) (l : List K) : Prop :=
  ∀ k, ∀ i < l.count k, ok (next^[i] (b.get k))

section KeyLoop

variable {ok : Nat → Prop} {next : Nat → Nat}

theorem iterate_get_set (b : BagBase K) (k : K) (l : List K) (k' : K) :
    next^[l.count k'] ((b.set k (next (b.get k))).get k') = next^[(k :: l).count k'] (b.get k') := by
  rcases eq_or_ne k' k with rfl | hk
  · rw [get_set, if_pos rfl, List.count_cons_self]; rfl
  · rw [get_set, if_neg hk, List.count_cons_of_ne hk]

theorem fits_set {b : BagBase K} {k : K} (hb : ok (b.get k)) (l : List K) :
    Fits ok next (b.set k (next (b.get k))) l ↔ Fits ok next b (k :: l) := by
  refine forall_congr' fun k' => ?_
  rcases eq_or_ne k' k with rfl | hk
  · rw [get_set, if_pos rfl, List.count_cons_self]
    exact ⟨fun h i hi => i.casesOn (fun _ => hb) (fun i hi => h i (by omega)) hi,
      fun h i hi => h (i + 1) (by omega)⟩
  · rw [get_set, if_neg hk, List.count_cons_of_ne hk]

/-- A loop of a body that steps the counter of its key: done when every key fits its turns;
otherwise the body's exception at the first key that does not, with the keys before it
stepped. -/
theorem forEach_keys (ok : Nat → Prop) [DecidablePred ok] (next : Nat → Nat) {err : PyError}
    {body : BagBase K → Arg K → Except PyError (BagBase K)}
    (hstep : ∀ b k, body b (.key k) =
      if ok (b.get k) then .ok (b.set k (next (b.get k))) else .error err)
    (b : BagBase K) (ks : List K) :
    (Fits ok next b ks → ∃ R, forEach body b (ks.map .key) = (R, none) ∧
      ∀ k, R.get k = next^[ks.count k] (b.get k)) ∧
    (¬ Fits ok next b ks → ∃ pre k post R, ks = pre ++ k :: post ∧ Fits ok next b pre ∧
      ¬ ok (next^[pre.count k] (b.get k)) ∧ forEach body b (ks.map .key) = (R, some err) ∧
      ∀ k', R.get k' = next^[pre.count k'] (b.get k')) := by
  induction ks generalizing b with
  | nil => exact ⟨fun _ => ⟨b, rfl, fun _ => rfl⟩, fun h => absurd (fun _ _ hi => absurd hi
      (Nat.not_lt_zero _)) h⟩
  | cons k ks ih =>
    by_cases hb : ok (b.get k)
    · -- the body steps `k`, and the loop goes on from there
      rw [List.map_cons, forEach_cons_ok ((hstep b k).trans (if_pos hb))]
      refine ⟨fun h => ?_, fun h => ?_⟩
      · obtain ⟨R, hR, hget⟩ := (ih _).1 ((fits_set hb ks).2 h)
        exact ⟨R, hR, fun k' => (hget k').trans (iterate_get_set b k ks k')⟩
      · obtain ⟨pre, k₀, post, R, rfl, hpre, hk₀, hR, hget⟩ :=
          (ih _).2 fun h' => h ((fits_set hb ks).1 h')
        rw [iterate_get_set] at hk₀
        exact ⟨k :: pre, k₀, post, R, rfl, (fits_set hb pre).1 hpre, hk₀, hR,
          fun k' => (hget k').trans (iterate_get_set b k pre k')⟩
    · -- `k` does not fit: the exception before any change
      rw [List.map_cons, forEach_cons_error ((hstep b k).trans (if_neg hb))]
      exact ⟨fun h => absurd (h k 0 (by simp)) hb,
        fun _ => ⟨[], k, ks, b, rfl, fun _ _ hi => absurd hi (Nat.not_lt_zero _), hb, rfl, fun _ => rfl⟩⟩

end KeyLoop

theorem fits_incr_iff (b : BagBase K) (l : List K) :
    Fits (· + 1 ≤ bagCounterMax) Nat.succ b l ↔ ∀ k ∈ l, b.get k + l.count k ≤ bagCounterMax := by
  simp only [Fits, Nat.succ_iterate, ← List.count_pos_iff]
  exact forall_congr' fun k => ⟨fun h hk => by have := h (l.count k - 1) (by omega); omega,
    fun h i hi => by have := h (by omega); omega⟩

theorem fits_decr_iff (b : BagBase K) (l : List K) :
    Fits (1 ≤ ·) Nat.pred b l ↔ ∀ k, l.count k ≤ b.get k := by
  simp only [Fits, Nat.pred_iterate]
  exact forall_congr' fun k => ⟨fun h => by
    rcases Nat.eq_zero_or_pos (l.count k) with h0 | h0
    · omega
    · have := h (l.count k - 1) (by omega); omega, fun h i hi => by have := h; omega⟩

/-- Incrementing by each key of `ks` in turn adds the number of times a key occurs, when no
counter passes `BAG_COUNTER_MAX`; otherwise `OverflowError` at the first key whose counter has
reached it, with the keys before it incremented. -/
theorem forEach_incr_keys (b : BagBase K) (ks : List K) :
    ((∀ k ∈ ks, b.get k + ks.count k ≤ bagCounterMax) →
      ∃ R, forEach incrArg b (ks.map .key) = (R, none) ∧ ∀ k, R.get k = b.get k + ks.count k) ∧
    (¬ (∀ k ∈ ks, b.get k + ks.count k ≤ bagCounterMax) →
      ∃ pre k post R, ks = pre ++ k :: post ∧
        (∀ k' ∈ pre, b.get k' + pre.count k' ≤ bagCounterMax) ∧
        bagCounterMax ≤ b.get k + pre.count k ∧
        forEach incrArg b (ks.map .key) = (R, some .overflowError) ∧
        ∀ k', R.get k' = b.get k' + pre.count k') := by
  have h := forEach_keys (· + 1 ≤ bagCounterMax) Nat.succ
    (fun _ _ => rfl : ∀ b k, incrArg b (.key k) = _) b ks
  simp only [fits_incr_iff, Nat.succ_iterate, not_le, Nat.lt_succ_iff] at h
  exact h

/-- Decrementing by each key of `ks` in turn: done when no key occurs more often than its
counter; otherwise `ValueError` at the first key whose counter has run out, with the keys before
it decremented. -/
theorem forEach_decr_keys (b : BagBase K) (ks : List K) :
    ((∀ k, ks.count k ≤ b.get k) →
      ∃ R, forEach decrArg b (ks.map .key) = (R, none) ∧ ∀ k, R.get k = b.get k - ks.count k) ∧
    (¬ (∀ k, ks.count k ≤ b.get k) →
      ∃ pre k post R, ks = pre ++ k :: post ∧ (∀ k', pre.count k' ≤ b.get k') ∧
        pre.count k = b.get k ∧ forEach decrArg b (ks.map .key) = (R, some .valueError) ∧
        ∀ k', R.get k' = b.get k' - pre.count k') := by
  have h := forEach_keys (1 ≤ ·) Nat.pred (fun _ _ => rfl : ∀ b k, decrArg b (.key k) = _) b ks
  simp only [fits_decr_iff, Nat.pred_iterate] at h
  refine ⟨h.1, fun hn => ?_⟩
  obtain ⟨pre, k, post, R, hks, hpre, hk, hR⟩ := h.2 hn
  exact ⟨pre, k, post, R, hks, hpre, by have := hpre k; omega, hR⟩

theorem add_eq_forEach (self : BagBase K) {items : List (Arg K)} (h : ∀ xs, items ≠ [.seq xs]) :
    self.add items = forEach incrArg self items := by
  unfold add; split
  · exact absurd rfl (h _)
  · rfl

theorem remove_eq_forEach (self : BagBase K) {items : List (Arg K)} (h : ∀ xs, items ≠ [.seq xs]) :
    self.remove items = forEach decrArg self items := by
  unfold remove; split
  · exact absurd rfl (h _)
  · rfl

omit [DecidableEq K] in
theorem keys_ne_seq (ks : List K) (xs : List (Arg K)) : ks.map Arg.key ≠ [Arg.seq xs] := by
  rcases ks with _ | ⟨k, _ | ⟨k', ks⟩⟩ <;> simp

/-! ### `__isub__`, `__imul__`, `complement_intersect` and `__eq__` -/

/-- One turn of `__isub__`'s loop: `self.decr(key, value)`, and `del self[key]` where it raises
`ValueError`. -/
def isubStep (self : BagBase K) (e : K × Nat) : BagBase K :=
  match self.decr e.1 e.2 with
  | .ok b => b
  | .error _ => self.set e.1 0

/-- `B -= C` (`__isub__`), and `B - C` (`__sub__`) on a copy of `B`; the key type that
`_update_type` merges is left out. -/
def isub (self other : BagBase K) : BagBase K := other.entries.foldl isubStep self

/-- `B *= n` (`__imul__`), and `B * n` (`__mul__`, `__rmul__`) on a copy of `B`, for an `n` that
is not negative: `self[key] = value * other` for each entry. -/
def imul (self : BagBase K) (n : Nat) : BagBase K × Option PyError :=
  forEach (fun r e => r.setItem e.1 (e.2 * n)) self self.entries

/-- `key in B` (`__contains__`): `B[key] != 0`. -/
def contains (self : BagBase K) (k : K) : Bool := self.get k != 0

/-- `B.complement_intersect(other)`, `other` seen through its `in`. -/
def complementIntersect (self : BagBase K) (mem : K → Bool) : BagBase K :=
  self.entries.foldl (fun retval e => if !mem e.1 then retval.set e.1 e.2 else retval) empty

/-- `B == C` (`__eq__`); `B != C` (`__ne__`) is its negation. -/
def eq (self other : BagBase K) : Bool :=
  self.entries.length == other.entries.length && self.entries.all fun e => e.2 == other.get e.1

theorem get_isubStep (r : BagBase K) (e : K × Nat) (k : K) :
    (isubStep r e).get k = if k = e.1 then r.get e.1 - e.2 else r.get k := by
  unfold isubStep
  rw [decr_eq]
  by_cases h : e.2 ≤ r.get e.1
  · simp only [if_pos h, get_set]
  · simp only [if_neg h, get_set]
    split_ifs <;> omega

theorem get_isub (self other : BagBase K) (k : K) :
    (self.isub other).get k = self.get k - other.get k := by
  rw [isub, get_foldl_local isubStep (fun _ a v => a - v) get_isubStep _ other.nodup]
  split
  · rfl
  next h => rw [get_eq_zero other h, Nat.sub_zero]

theorem get_foldl_mul (self : BagBase K) (n : Nat) (k : K) :
    (self.entries.foldl (fun r e => r.set e.1 (e.2 * n)) self).get k = self.get k * n := by
  rw [get_foldl_set_all (fun _ v => v * n) _ self.nodup]
  split
  · rfl
  next h => rw [get_eq_zero self h, Nat.zero_mul]

theorem forall_entries_iff (self : BagBase K) (p : Nat → Prop) (h0 : p 0) :
    (∀ e ∈ self.entries, p e.2) ↔ ∀ k, p (self.get k) := by
  refine ⟨fun h k => ?_, fun h e he => get_of_mem he ▸ h e.1⟩
  by_cases hk : k ∈ self.entries.map Prod.fst
  · obtain ⟨e, he, rfl⟩ := List.mem_map.1 hk
    exact (get_of_mem he).symm ▸ h e he
  · exact (get_eq_zero self hk).symm ▸ h0

/-- `B *= n` multiplies every counter when no product passes `BAG_COUNTER_MAX`; otherwise it
raises `OverflowError` at the first entry whose product does, with the entries before it
multiplied. -/
theorem imul_cases (self : BagBase K) (n : Nat) :
    ((∀ k, self.get k * n ≤ bagCounterMax) →
      ∃ R, self.imul n = (R, none) ∧ ∀ k, R.get k = self.get k * n) ∧
    (¬ (∀ k, self.get k * n ≤ bagCounterMax) →
      ∃ pre e post R, self.entries = pre ++ e :: post ∧ (∀ e' ∈ pre, e'.2 * n ≤ bagCounterMax) ∧
        bagCounterMax < e.2 * n ∧ self.imul n = (R, some .overflowError) ∧
        ∀ k, R.get k = if k ∈ pre.map Prod.fst then self.get k * n else self.get k) := by
  have h := forEach_guarded (fun e : K × Nat => e.2 * n ≤ bagCounterMax)
    (fun r e => r.set e.1 (e.2 * n))
    (fun _ _ => rfl : ∀ (r : BagBase K) (e : K × Nat), r.setItem e.1 (e.2 * n) = _) self self.entries
  rw [forall_entries_iff self (· * n ≤ bagCounterMax) (by simp)] at h
  refine ⟨fun hn => ⟨_, h.1 hn, get_foldl_mul self n⟩, fun hn => ?_⟩
  obtain ⟨pre, e, post, hpe, hpre, he, hR⟩ := h.2 hn
  have hnd : (pre.map Prod.fst).Nodup := by
    have := self.nodup
    rw [hpe, List.map_append] at this
    exact this.of_append_left
  refine ⟨pre, e, post, _, hpe, hpre, not_le.1 he, hR, fun k => ?_⟩
  rw [get_foldl_set_all (fun _ v => v * n) pre hnd]
  split
  · next hk => rw [get, hpe, count_append, if_pos hk]
  · rfl

theorem get_complementIntersect (self : BagBase K) (mem : K → Bool) (k : K) :
    (self.complementIntersect mem).get k = if mem k then 0 else self.get k := by
  rw [complementIntersect, get_foldl_select (fun k => (!mem k) = true)]
  cases mem k <;> rfl

/-- `B == C` compares the sizes and then only `B`'s entries; since no key holds a zero counter,
that is exactly agreement of the two bags at every key. -/
theorem bag_eq_iff (self other : BagBase K) :
    self.eq other = true ↔ ∀ k, self.get k = other.get k := by
  simp only [eq, Bool.and_eq_true, beq_iff_eq, List.all_eq_true]
  constructor
  · rintro ⟨hlen, hall⟩
    -- every key of `self` is a key of `other`, and there are as many of each
    have hsub : self.entries.map Prod.fst ⊆ other.entries.map Prod.fst := fun k hk => by
      obtain ⟨e, he, rfl⟩ := List.mem_map.1 hk
      rw [mem_keys_iff, ← hall e he]
      exact self.pos e he
    have hperm := (List.subperm_of_subset self.nodup hsub).perm_of_length_le
      (by simp only [List.length_map, hlen, le_refl])
    intro k
    by_cases hk : k ∈ self.entries.map Prod.fst
    · obtain ⟨e, he, rfl⟩ := List.mem_map.1 hk
      rw [get_of_mem he, (hall e he)]
    · rw [get_eq_zero self hk, get_eq_zero other (hperm.mem_iff.not.1 hk)]
  · intro h
    have hperm : (self.entries.map Prod.fst).Perm (other.entries.map Prod.fst) :=
      (List.perm_ext_iff_of_nodup self.nodup other.nodup).2 fun k => by
        rw [mem_keys_iff, mem_keys_iff, h]
    refine ⟨by simpa using hperm.length_eq, fun e he => ?_⟩
    rw [← h, get_of_mem he]

/-! ### `constrain_values` and `constrain_keys` -/

/-- `(min and x < min) or (max and x > max)`. -/
def outside (min max : Option Int) (x : Int) : Bool :=
  (truthy min && decide (x < min.getD 0)) || (truthy max && decide (x > max.getD 0))

/-- What `constrain_values` and `constrain_keys` share: `ValueError` unless `min or max`, then
`del self[key]` for each entry whose `sel` lies outside the bounds. -/
def constrain (sel : K × Nat → Int) (self : BagBase K) (min max : Option Int) :
    Except PyError (BagBase K) :=
  if !(truthy min || truthy max) then .error .valueError
  else .ok (self.entries.foldl (fun r e => if outside min max (sel e) then r.set e.1 0 else r) self)

/-- `B.constrain_values(min, max)`, in place. -/
def constrainValues (self : BagBase K) (min max : Option Int) : Except PyError (BagBase K) :=
  constrain (fun e => e.2) self min max

/-- `B.constrain_keys(min, max)` on an integer bag, in place. -/
def constrainKeys (self : BagBase Nat) (min max : Option Int) : Except PyError (BagBase Nat) :=
  constrain (fun e => e.1) self min max

theorem constrain_error (sel : K × Nat → Int) (self : BagBase K) {min max : Option Int}
    (h : (truthy min || truthy max) = false) : constrain sel self min max = .error .valueError := by
  simp [constrain, h]

theorem get_constrain (sel : K × Nat → Int) (self : BagBase K) {min max : Option Int}
    (h : (truthy min || truthy max) = true) :
    ∃ R, constrain sel self min max = .ok R ∧
      ∀ k, R.get k = if outside min max (sel (k, self.get k)) then 0 else self.get k := by
  refine ⟨_, by rw [constrain, if_neg (by simp [h])], fun k => ?_⟩
  rw [get_foldl_local _ (fun k a v => if outside min max (sel (k, v)) then 0 else a)
    (fun r e k => by
      by_cases ho : outside min max (sel e)
      · simp [ho]
      · simp only [ho, if_false, Bool.false_eq_true]
        split_ifs with hk <;> simp [hk]) _ self.nodup]
  split
  · rfl
  next hk => rw [get_eq_zero self hk]; split <;> rfl

/-! ### `inversion` -/

/-- `B.inversion()`: an integer bag that counts, for each counter of `B` capped at `0xFFFFFFFF`,
the keys holding it; `retval.add(...)` is handed a generator, a sequence. -/
def inversion (self : BagBase K) : Except PyError (BagBase Nat) :=
  match empty.add [.seq (self.entries.map fun e => .key (Min.min e.2 0xFFFFFFFF))] with
  | (retval, none) => .ok retval
  | (_, some e) => .error e

omit [DecidableEq K] in
/-- `B.inversion()` of a bag of at most `BAG_COUNTER_MAX` keys never raises; its counter at `n`
is the number of `B`'s keys whose counter, capped at `0xFFFFFFFF`, is `n`, and its counters add
up to `len(B)`. -/
theorem bag_inversion_law (self : BagBase K) (hlen : self.entries.length ≤ bagCounterMax) :
    ∃ R, self.inversion = .ok R ∧
      (∀ n, R.get n = self.entries.countP fun e => Min.min e.2 0xFFFFFFFF = n) ∧
      (R.entries.map Prod.snd).sum = self.entries.length := by
  obtain ⟨R, hR, hget⟩ := (forEach_incr_keys (empty : BagBase Nat)
    (self.entries.map fun e => Min.min e.2 0xFFFFFFFF)).1 fun n _ => by
      rw [get_empty, Nat.zero_add]
      exact (List.count_le_length _ _).trans ((List.length_map _ _).symm ▸ hlen)
  simp only [get_empty, Nat.zero_add] at hget
  simp only [List.map_map, Function.comp_def] at hR
  refine ⟨R, by simp only [inversion, add, hR], fun n => ?_, ?_⟩
  · rw [hget, List.count, List.countP_map]
    exact List.countP_congr fun e _ => by simp
  · -- the keys of `R` are the capped counters, each once
    have hperm : (R.entries.map Prod.fst).Perm
        (self.entries.map fun e => Min.min e.2 0xFFFFFFFF).dedup :=
      (List.perm_ext_iff_of_nodup R.nodup (List.nodup_dedup _)).2 fun n => by
        rw [mem_keys_iff, List.mem_dedup, hget, List.count_pos_iff]
    calc (R.entries.map Prod.snd).sum
        = ((R.entries.map Prod.fst).map R.get).sum := by
          rw [List.map_map]
          exact congrArg List.sum (List.map_congr_left fun e he => (get_of_mem he).symm)
      _ = ((self.entries.map fun e => Min.min e.2 0xFFFFFFFF).dedup.map R.get).sum :=
          (hperm.map _).sum_eq
      _ = self.entries.length := by
          rw [funext hget, List.sum_map_count_dedup_eq_length, List.length_map]

theorem bag_inversion_law_pairs :
    (⟨[(1, 2), (3, 2)], by decide, by decide⟩ : BagBase Nat).entries.length ≤ bagCounterMax ∧
    ∃ R, BagBase.inversion (⟨[(1, 2), (3, 2)], by decide, by decide⟩ : BagBase Nat) = .ok R ∧
      (∀ n, R.get n = [((1 : Nat), (2 : Nat)), (3, 2)].countP fun e => Min.min e.2 0xFFFFFFFF = n) ∧
      (R.entries.map Prod.snd).sum = 2 :=
  ⟨by decide, bag_inversion_law (⟨[(1, 2), (3, 2)], by decide, by decide⟩ : BagBase Nat) (by decide)⟩

/-- `B.add(...)` of keys, or of one sequence of keys, adds to each key the number of times it is
named when no counter passes `BAG_COUNTER_MAX`; an argument that is a sequence among several then
raises `TypeError`, and the keys before it stay incremented. Otherwise `add` raises
`OverflowError` at the first key whose counter has reached `BAG_COUNTER_MAX`, and the keys before
it stay incremented. -/
theorem bag_add_law (self : BagBase K) (ks : List K) (xs rest : List (Arg K)) :
    self.add [.seq (ks.map .key)] = self.add (ks.map .key) ∧
    ((∀ k ∈ ks, self.get k + ks.count k ≤ bagCounterMax) →
      (∃ R, self.add (ks.map .key) = (R, none) ∧ ∀ k, R.get k = self.get k + ks.count k) ∧
      (ks ≠ [] ∨ rest ≠ [] → ∃ R, self.add (ks.map .key ++ .seq xs :: rest) = (R, some .typeError) ∧
        ∀ k, R.get k = self.get k + ks.count k)) ∧
    (¬ (∀ k ∈ ks, self.get k + ks.count k ≤ bagCounterMax) →
      ∃ pre k post R, ks = pre ++ k :: post ∧
        (∀ k' ∈ pre, self.get k' + pre.count k' ≤ bagCounterMax) ∧
        bagCounterMax ≤ self.get k + pre.count k ∧ self.add (ks.map .key) = (R, some .overflowError) ∧
        ∀ k', R.get k' = self.get k' + pre.count k') := by
  have hadd := add_eq_forEach self (keys_ne_seq ks)
  refine ⟨by rw [hadd]; rfl, fun h => ⟨by rw [hadd]; exact (forEach_incr_keys self ks).1 h, fun hne => ?_⟩,
    by rw [hadd]; exact (forEach_incr_keys self ks).2⟩
  obtain ⟨R, hR, hget⟩ := (forEach_incr_keys self ks).1 h
  refine ⟨R, ?_, hget⟩
  rw [add_eq_forEach self fun ys hys => ?_, forEach_append_ok hR, forEach_cons_error rfl]
  rcases ks with _ | ⟨k, ks⟩
  · simp only [List.map_nil, List.nil_append, List.cons.injEq] at hys
    exact hne.elim (fun h => h rfl) (fun h => h hys.2)
  · simp at hys

theorem bag_add_law_seq_second :
    (∀ k ∈ [3], BagBase.get (⟨[(1, 2)], by decide, by decide⟩ : BagBase Nat) k + [3].count k ≤
      bagCounterMax) ∧ (([3] : List Nat) ≠ [] ∨ ([] : List (Arg Nat)) ≠ []) ∧
      ∃ R, BagBase.add (⟨[(1, 2)], by decide, by decide⟩ : BagBase Nat)
        ([3].map .key ++ [.seq [.key 1]]) = (R, some .typeError) ∧
        ∀ k, R.get k = BagBase.get (⟨[(1, 2)], by decide, by decide⟩ : BagBase Nat) k + [3].count k :=
  ⟨by decide, .inl (by decide), ((bag_add_law _ [3] [.key 1] []).2.1 (by decide)).2 (.inl (by decide))⟩

/-- `B.remove(...)` of keys, or of one sequence of keys, takes from each key the number of times
it is named when no key is named more often than its counter. Otherwise it raises `ValueError` at
the first key whose counter has run out, and the keys before it stay decremented. -/
theorem bag_remove_law (self : BagBase K) (ks : List K) :
    self.remove [.seq (ks.map .key)] = self.remove (ks.map .key) ∧
    ((∀ k, ks.count k ≤ self.get k) →
      ∃ R, self.remove (ks.map .key) = (R, none) ∧ ∀ k, R.get k = self.get k - ks.count k) ∧
    (¬ (∀ k, ks.count k ≤ self.get k) →
      ∃ pre k post R, ks = pre ++ k :: post ∧ (∀ k', pre.count k' ≤ self.get k') ∧
        pre.count k = self.get k ∧ self.remove (ks.map .key) = (R, some .valueError) ∧
        ∀ k', R.get k' = self.get k' - pre.count k') := by
  rw [remove_eq_forEach self (keys_ne_seq ks)]
  exact ⟨rfl, forEach_decr_keys self ks⟩

/-- Removing `1, 3, 3` from `{1: 2, 3: 1}` fails at the second `3`, after taking one from `1`
and `3`; removing `1, 1` succeeds. -/
theorem bag_remove_law_runs_out :
    (¬ ∀ k, [1, 3, 3].count k ≤ BagBase.get (⟨[(1, 2), (3, 1)], by decide, by decide⟩ : BagBase Nat) k) ∧
      (∃ pre k post R, [1, 3, 3] = pre ++ k :: post ∧
        (∀ k', pre.count k' ≤ BagBase.get (⟨[(1, 2), (3, 1)], by decide, by decide⟩ : BagBase Nat) k') ∧
        pre.count k = BagBase.get (⟨[(1, 2), (3, 1)], by decide, by decide⟩ : BagBase Nat) k ∧
        BagBase.remove (⟨[(1, 2), (3, 1)], by decide, by decide⟩ : BagBase Nat) ([1, 3, 3].map .key) =
          (R, some .valueError) ∧
        ∀ k', R.get k' = BagBase.get (⟨[(1, 2), (3, 1)], by decide, by decide⟩ : BagBase Nat) k' -
          pre.count k') ∧
      (∀ k, [1, 1].count k ≤ BagBase.get (⟨[(1, 2), (3, 1)], by decide, by decide⟩ : BagBase Nat) k) ∧
      ∃ R, BagBase.remove (⟨[(1, 2), (3, 1)], by decide, by decide⟩ : BagBase Nat) ([1, 1].map .key) =
        (R, none) ∧ ∀ k, R.get k =
          BagBase.get (⟨[(1, 2), (3, 1)], by decide, by decide⟩ : BagBase Nat) k - [1, 1].count k := by
  have hfail : ¬ ∀ k, [1, 3, 3].count k ≤
      BagBase.get (⟨[(1, 2), (3, 1)], by decide, by decide⟩ : BagBase Nat) k :=
    fun h => absurd (h 3) (by decide)
  have hok : ∀ k, [1, 1].count k ≤
      BagBase.get (⟨[(1, 2), (3, 1)], by decide, by decide⟩ : BagBase Nat) k := by
    intro k
    rcases eq_or_ne k 1 with rfl | hk
    · decide
    · simp [List.count_cons, hk, Ne.symm hk]
  exact ⟨hfail, (bag_remove_law _ [1, 3, 3]).2.2 hfail, hok, (bag_remove_law _ [1, 1]).2.1 hok⟩

/-- `B - C`, `B * n` and `B.complement_intersect(other)`, key by key: `__sub__` stops at zero
and never raises; `__imul__` raises `OverflowError` at the first product past
`BAG_COUNTER_MAX`, after the entries before it. -/
theorem bag_sub_mul_complement (self other : BagBase K) (n : Nat) (mem : K → Bool) :
    (∀ k, (self.isub other).get k = self.get k - other.get k) ∧
    ((∀ k, self.get k * n ≤ bagCounterMax) →
      ∃ R, self.imul n = (R, none) ∧ ∀ k, R.get k = self.get k * n) ∧
    (¬ (∀ k, self.get k * n ≤ bagCounterMax) →
      ∃ pre e post R, self.entries = pre ++ e :: post ∧ (∀ e' ∈ pre, e'.2 * n ≤ bagCounterMax) ∧
        bagCounterMax < e.2 * n ∧ self.imul n = (R, some .overflowError) ∧
        ∀ k, R.get k = if k ∈ pre.map Prod.fst then self.get k * n else self.get k) ∧
    (∀ k, (self.complementIntersect mem).get k = if mem k then 0 else self.get k) :=
  ⟨get_isub self other, (imul_cases self n).1, (imul_cases self n).2, get_complementIntersect self mem⟩

/-- `{1: 4, 3: 1} * 3`, which stays below `BAG_COUNTER_MAX`. -/
theorem bag_sub_mul_complement_triple :
    (∀ k, BagBase.get (⟨[(1, 4), (3, 1)], by decide, by decide⟩ : BagBase Nat) k * 3 ≤ bagCounterMax) ∧
    ∃ R, BagBase.imul (⟨[(1, 4), (3, 1)], by decide, by decide⟩ : BagBase Nat) 3 = (R, none) ∧
      ∀ k, R.get k = BagBase.get (⟨[(1, 4), (3, 1)], by decide, by decide⟩ : BagBase Nat) k * 3 := by
  have h : ∀ k, BagBase.get (⟨[(1, 4), (3, 1)], by decide, by decide⟩ : BagBase Nat) k * 3 ≤
      bagCounterMax := fun k => by
    simp only [get, count]
    split_ifs <;> decide
  exact ⟨h, (bag_sub_mul_complement (⟨[(1, 4), (3, 1)], by decide, by decide⟩ : BagBase Nat) empty 3
    fun _ => false).2.1 h⟩

/-- `{1: 4, 3: 1} - {3: 5, 1: 1}`: `3` stops at zero and goes. -/
example : ((⟨[(1, 4), (3, 1)], by decide, by decide⟩ : BagBase Nat).isub
    ⟨[(3, 5), (1, 1)], by decide, by decide⟩).entries = [(1, 3)] := by
  decide

/-- `constrain_values` and `constrain_keys` raise `ValueError` unless one of `min` and `max` is
truthy, before any change. Otherwise they delete exactly the keys whose counter, or whose key, is
below a truthy `min` or above a truthy `max`: a bound `0` is passed over. -/
theorem bag_constrain_law (self : BagBase K) (ints : BagBase Nat) (min max : Option Int) :
    ((truthy min || truthy max) = false →
      self.constrainValues min max = .error .valueError ∧
        ints.constrainKeys min max = .error .valueError) ∧
    ((truthy min || truthy max) = true →
      (∃ R, self.constrainValues min max = .ok R ∧
        ∀ k, R.get k = if outside min max (self.get k) then 0 else self.get k) ∧
      (∃ R, ints.constrainKeys min max = .ok R ∧
        ∀ k, R.get k = if outside min max k then 0 else ints.get k)) :=
  ⟨fun h => ⟨constrain_error _ self h, constrain_error _ ints h⟩,
    fun h => ⟨get_constrain _ self h, get_constrain _ ints h⟩⟩

theorem bag_constrain_law_max_zero :
    ((truthy none || truthy (some 0)) = false ∧
      BagBase.constrainValues (⟨[(1, 4)], by decide, by decide⟩ : BagBase Nat) none (some 0) =
        .error .valueError ∧
      BagBase.constrainKeys (⟨[(1, 4)], by decide, by decide⟩ : BagBase Nat) none (some 0) =
        .error .valueError) ∧
    (truthy (some 2) || truthy (some 0)) = true ∧
      ∃ R, BagBase.constrainValues (⟨[(1, 4)], by decide, by decide⟩ : BagBase Nat) (some 2) (some 0) =
        .ok R ∧ ∀ k, R.get k = if outside (some 2) (some 0)
          (BagBase.get (⟨[(1, 4)], by decide, by decide⟩ : BagBase Nat) k) then 0
          else BagBase.get (⟨[(1, 4)], by decide, by decide⟩ : BagBase Nat) k :=
  ⟨⟨rfl, (bag_constrain_law (⟨[(1, 4)], by decide, by decide⟩ : BagBase Nat)
      ⟨[(1, 4)], by decide, by decide⟩ none (some 0)).1 rfl⟩, rfl,
    ((bag_constrain_law (⟨[(1, 4)], by decide, by decide⟩ : BagBase Nat)
      ⟨[(1, 4)], by decide, by decide⟩ (some 2) (some 0)).2 rfl).1⟩

end BagBase

end Bag

end Silk
