import Silk.Python
/-! The counters of a `Bag` (`BagBase`, the C type) and the Python operations of
`pysilk/python/__init__.py` built on them: `intersect`, which `B[...]` calls for a slice, a
tuple, an `IPSet` or an `IPWildcard`, and `min`, `max` and `__div__`. A bag stores one
positive counter per key: `B[k]` is 0 for a key it does not store, and `B[k] = 0` removes the
key. The order in which `iteritems` yields the entries is left open. -/
namespace Silk
namespace Bag

/-- The entries of a `BagBase`: distinct keys, each with a positive counter. -/
structure BagBase (K : Type) where
  entries : List (K × Nat)
  nodup : (entries.map Prod.fst).Nodup
  pos : ∀ e ∈ entries, 0 < e.2

namespace BagBase

variable {K : Type} [DecidableEq K]

/-- The counter of the first entry under `k`, 0 when there is none. -/
def count (k : K) : List (K × Nat) → Nat
  | [] => 0
  | e :: es => if e.1 = k then e.2 else count k es

/-- `Bag(_similar=self)`: a bag of the same kind with no entries. -/
def empty : BagBase K := ⟨[], List.nodup_nil, fun _ h => nomatch h⟩

/-- `B[k]`. -/
def get (b : BagBase K) (k : K) : Nat := count k b.entries

/-- `B[k] = v`: the entry under `k` is replaced, or removed when `v` is 0. -/
def set (b : BagBase K) (k : K) (v : Nat) : BagBase K where
  entries := b.entries.filter (·.1 ≠ k) ++ if 0 < v then [(k, v)] else []
  nodup := by
    have hf : ((b.entries.filter (·.1 ≠ k)).map Prod.fst).Nodup :=
      ((List.filter_sublist _).map _).nodup b.nodup
    split
    · rw [List.map_append, List.nodup_append]
      refine ⟨hf, List.nodup_singleton _, fun x hx hk => ?_⟩
      obtain ⟨e, he, rfl⟩ := List.mem_map.1 hx
      exact of_decide_eq_true (List.mem_filter.1 he).2 (List.mem_singleton.1 hk)
    · simpa using hf
  pos e he := by
    rcases List.mem_append.1 he with he | he
    · exact b.pos e (List.mem_of_mem_filter he)
    · split at he
      · rw [List.mem_singleton.1 he]; assumption
      · cases he

theorem count_append (k : K) (l₁ l₂ : List (K × Nat)) :
    count k (l₁ ++ l₂) = if k ∈ l₁.map Prod.fst then count k l₁ else count k l₂ := by
  induction l₁ with
  | nil => simp
  | cons e es ih =>
    by_cases h : e.1 = k
    · simp [count, h]
    · rw [List.cons_append, count, if_neg h, ih, List.map_cons, count, if_neg h]
      simp only [List.mem_cons, Ne.symm h, false_or]

theorem count_eq_zero {k : K} {l : List (K × Nat)} (h : k ∉ l.map Prod.fst) : count k l = 0 := by
  induction l with
  | nil => rfl
  | cons e es ih =>
    simp only [List.map_cons, List.mem_cons, not_or] at h
    simp [count, Ne.symm h.1, ih h.2]

theorem count_filter_ne {k k' : K} (h : k' ≠ k) (l : List (K × Nat)) :
    count k' (l.filter (·.1 ≠ k)) = count k' l := by
  induction l with
  | nil => rfl
  | cons e es ih =>
    by_cases he : e.1 = k
    · rw [List.filter_cons_of_neg (by simpa using he), ih]
      simp [count, he, Ne.symm h]
    · rw [List.filter_cons_of_pos (by simpa using he)]
      simp only [count, ih]

@[simp] theorem get_empty (k : K) : (empty : BagBase K).get k = 0 := rfl

theorem get_eq_zero (b : BagBase K) {k : K} (h : k ∉ b.entries.map Prod.fst) : b.get k = 0 :=
  count_eq_zero h

@[simp] theorem get_set (b : BagBase K) (k k' : K) (v : Nat) :
    (b.set k v).get k' = if k' = k then v else b.get k' := by
  simp only [get, set, count_append]
  by_cases hk : k' = k
  · subst hk
    rw [if_neg (by simp), if_pos rfl]
    split <;> simp [count]; omega
  · rw [if_neg hk, ← count_filter_ne hk b.entries]
    split
    · rfl
    next hmem =>
      rw [count_eq_zero hmem]
      split <;> simp [count, Ne.symm hk]

/-- A loop over entries with distinct keys that sets, at each key it keeps, a counter computed
from the entry's: afterwards each kept key holds that counter, and every other key the counter
it held before the loop. -/
theorem get_foldl_set (keep : K → Prop) [DecidablePred keep] (g : K → Nat → Nat) (l : List (K × Nat))
    (hl : (l.map Prod.fst).Nodup) (r : BagBase K) (k : K) :
    (l.foldl (fun r e => if keep e.1 then r.set e.1 (g e.1 e.2) else r) r).get k =
      if k ∈ l.map Prod.fst ∧ keep k then g k (count k l) else r.get k := by
  induction l generalizing r with
  | nil => simp
  | cons e es ih =>
    rw [List.map_cons, List.nodup_cons] at hl
    rw [List.foldl_cons, ih hl.2]
    by_cases hk : k = e.1
    · subst hk
      rw [if_neg (fun h => hl.1 h.1)]
      simp only [List.map_cons, List.mem_cons, true_or, true_and, count, if_pos rfl]
      split <;> simp
    · have : k ∈ e.1 :: es.map Prod.fst ↔ k ∈ es.map Prod.fst := by simp [hk]
      simp only [List.map_cons, this, count, Ne.symm hk, if_false]
      split
      · rfl
      · split <;> simp [hk]

theorem get_foldl_set_all (g : K → Nat → Nat) (l : List (K × Nat)) (hl : (l.map Prod.fst).Nodup)
    (r : BagBase K) (k : K) :
    (l.foldl (fun r e => r.set e.1 (g e.1 e.2)) r).get k =
      if k ∈ l.map Prod.fst then g k (count k l) else r.get k := by
  have h := get_foldl_set (fun _ => True) g l hl r k
  simp only [if_true] at h
  exact h.trans (if_congr (Iff.of_eq (and_true _)) rfl rfl)

/-- A loop that copies the entries whose key passes a test. -/
theorem get_foldl_select (p : K → Prop) [DecidablePred p] (b : BagBase K) (k : K) :
    (b.entries.foldl (fun r e => if p e.1 then r.set e.1 e.2 else r) empty).get k =
      if p k then b.get k else 0 := by
  rw [get_foldl_set p (fun _ v => v) _ b.nodup]
  by_cases hk : k ∈ b.entries.map Prod.fst
  · simp only [hk, true_and]; rfl
  · simp only [hk, false_and, if_false, get_empty, get_eq_zero b hk, ite_self]

/-! ### `min`, `max` and `__div__` -/

/-- `B.min(C)`: one loop, over `B`'s entries. -/
def min (self other : BagBase K) : BagBase K :=
  self.entries.foldl (fun retval e => retval.set e.1 (Min.min e.2 (other.get e.1))) empty

/-- `B.max(C)`: a loop over `C`'s entries, then one over `B`'s. -/
def max (self other : BagBase K) : BagBase K :=
  self.entries.foldl (fun retval e => retval.set e.1 (Max.max e.2 (other.get e.1)))
    (other.entries.foldl (fun retval e => retval.set e.1 (Max.max e.2 (self.get e.1))) empty)

/-- Python's `divmod` on non-negative ints. -/
def divmod (a b : Nat) : Except PyError (Nat × Nat) :=
  if b = 0 then .error .zeroDivisionError else .ok (a / b, a % b)

/-- The body of `__div__`'s loop for the entry `(key, a)`. -/
def divStep (other : BagBase K) (retval : BagBase K) (e : K × Nat) : Except PyError (BagBase K) :=
  let b := other.get e.1
  if b ≠ 0 then do
    let (v, r) ← divmod e.2 b
    pure (retval.set e.1 (if r * 2 ≥ b then v + 1 else v))
  else pure retval

/-- `B / C` (`__div__`, and `__truediv__` on Python 3). -/
def div (self other : BagBase K) : Except PyError (BagBase K) :=
  self.entries.foldlM (divStep other) empty

/-- The quotient `__div__` stores: `a / b` rounded half up. -/
theorem divmod_round (a b : Nat) (hb : 0 < b) :
    (if a % b * 2 ≥ b then a / b + 1 else a / b) = (2 * a + b) / (2 * b) := by
  have hr := Nat.mod_lt a hb
  have ha := Nat.div_add_mod a b
  have h : 2 * a + b = (2 * (a % b) + b) + 2 * b * (a / b) := by rw [Nat.mul_assoc]; omega
  rw [h, Nat.add_mul_div_left _ _ (by omega)]
  split
  · rw [Nat.div_eq_of_lt_le (k := 1) (m := 2 * (a % b) + b) (n := 2 * b) (by omega) (by omega)]
    omega
  · rw [Nat.div_eq_of_lt (by omega : 2 * (a % b) + b < 2 * b)]; omega

theorem divmod_round_le (a b : Nat) (hb : 0 < b) :
    (if a % b * 2 ≥ b then a / b + 1 else a / b) ≤ a := by
  have ha := Nat.div_add_mod a b
  have hq : a / b ≤ b * (a / b) := Nat.le_mul_of_pos_left _ hb
  split <;> omega

theorem divStep_eq (other retval : BagBase K) (e : K × Nat) :
    divStep other retval e = .ok (if other.get e.1 ≠ 0 then
      retval.set e.1 (if e.2 % other.get e.1 * 2 ≥ other.get e.1 then
        e.2 / other.get e.1 + 1 else e.2 / other.get e.1) else retval) := by
  by_cases h : other.get e.1 = 0
  · simp only [divStep, h, ne_eq, not_true_eq_false, if_false]; rfl
  · simp only [divStep, divmod, h, ne_eq, not_false_eq_true, if_true, if_false]; rfl

theorem foldlM_divStep (other : BagBase K) (l : List (K × Nat)) (r : BagBase K) :
    l.foldlM (divStep other) r = .ok (l.foldl (fun r e => if other.get e.1 ≠ 0 then
      r.set e.1 (if e.2 % other.get e.1 * 2 ≥ other.get e.1 then
        e.2 / other.get e.1 + 1 else e.2 / other.get e.1) else r) r) := by
  induction l generalizing r with
  | nil => rfl
  | cons e es ih => simp only [List.foldlM_cons, divStep_eq, bind, Except.bind, ih, List.foldl_cons]

theorem get_min (self other : BagBase K) (k : K) :
    (self.min other).get k = Min.min (self.get k) (other.get k) := by
  rw [min, get_foldl_set_all (fun k v => Min.min v (other.get k)) _ self.nodup]
  split
  · rfl
  next h => rw [get_empty, get_eq_zero self h, Nat.zero_min]

theorem get_max (self other : BagBase K) (k : K) :
    (self.max other).get k = Max.max (self.get k) (other.get k) := by
  rw [max, get_foldl_set_all (fun k v => Max.max v (other.get k)) _ self.nodup,
    get_foldl_set_all (fun k v => Max.max v (self.get k)) _ other.nodup]
  split
  · rfl
  next h =>
    rw [get_eq_zero self h]
    split
    · exact Nat.max_comm _ _
    next h' => rw [get_empty, get_eq_zero other h', Nat.max_self]

theorem get_div (self other : BagBase K) :
    ∃ r, self.div other = .ok r ∧ ∀ k, r.get k =
      (if other.get k > 0 then (2 * self.get k + other.get k) / (2 * other.get k) else 0) ∧
        r.get k ≤ self.get k := by
  refine ⟨_, foldlM_divStep other _ _, fun k => ?_⟩
  rw [get_foldl_set (fun k => other.get k ≠ 0)
    (fun k a => if a % other.get k * 2 ≥ other.get k then a / other.get k + 1 else a / other.get k)
    _ self.nodup]
  split
  next h =>
    have hb : 0 < other.get k := Nat.pos_of_ne_zero h.2
    rw [if_pos hb]
    exact ⟨divmod_round _ _ hb, divmod_round_le _ _ hb⟩
  next h =>
    refine ⟨?_, Nat.zero_le _⟩
    split
    next hb =>
      have hk : k ∉ self.entries.map Prod.fst := fun hk => h ⟨hk, by omega⟩
      rw [get_eq_zero self hk, get_empty, Nat.div_eq_of_lt (by omega)]
    · rfl

/-- `B.min(C)`, `B.max(C)` and `B / C` key by key. The quotient is `B[k] / C[k]` rounded
half up, 0 where `C[k]` is 0; `__div__` never raises, and its quotient never exceeds `B[k]`. -/
theorem bag_min_max_div (B C : BagBase K) :
    (∀ k, (B.min C).get k = Min.min (B.get k) (C.get k)) ∧
      (∀ k, (B.max C).get k = Max.max (B.get k) (C.get k)) ∧
      ∃ R, B.div C = .ok R ∧ ∀ k,
        R.get k = (if C.get k > 0 then (2 * B.get k + C.get k) / (2 * C.get k) else 0) ∧
          R.get k ≤ B.get k :=
  ⟨get_min B C, get_max B C, get_div B C⟩

end BagBase

/-! ### `intersect`, on a bag with integer keys

The keys of an integer bag are non-negative. -/

/-- A slice `start:stop:step`; each part is omitted (`None`) or an int. -/
structure Slice where
  start : Option Int
  stop : Option Int
  step : Option Int
  deriving DecidableEq, Repr

/-- Python's truth value of an optional int: `None` and `0` are false. -/
def truthy : Option Int → Bool
  | some n => n ≠ 0
  | none => false

/-- The two tests of the slice branch: a key is dropped when `s.start and key < s.start` or
`s.stop and key >= s.stop`. -/
def Slice.keeps (s : Slice) (key : Nat) : Bool :=
  !(truthy s.start && decide ((key : Int) < s.start.getD 0)) &&
    !(truthy s.stop && decide ((key : Int) ≥ s.stop.getD 0))

/-- An element of a tuple key. -/
inductive Part
  | slice (s : Slice)
  /-- an `IPSet` or an `IPWildcard`, through its `in` -/
  | coll (mem : Nat → Bool)
  /-- a single key: `key not in s` raises `TypeError` on an int, and `key != s` decides -/
  | key (k : Int)

/-- Whether the part keeps the bag key `n`. -/
def Part.keeps : Part → Nat → Bool
  | .slice s, n => s.keeps n
  | .coll mem, n => mem n
  | .key k, n => (n : Int) = k

/-- `isinstance(x, slice)` and `x.step`. -/
def Part.stepped : Part → Bool
  | .slice s => truthy s.step
  | _ => false

/-- The index of `B[...]` that `__getitem__` hands to `intersect`. -/
inductive Container
  | slice (s : Slice)
  | tuple (parts : List Part)
  /-- an `IPSet` or an `IPWildcard` -/
  | coll (mem : Nat → Bool)

/-- `B.intersect(container)`. The inner loop of the tuple branch stores the entry at the first
part that keeps its key, and `break`s. -/
def intersect (self : BagBase Nat) : Container → Except PyError (BagBase Nat)
  | .tuple parts =>
    if parts.any Part.stepped then .error .valueError
    else .ok (self.entries.foldl (fun newbag e =>
      if parts.any (·.keeps e.1) then newbag.set e.1 e.2 else newbag) .empty)
  | .slice s =>
    if truthy s.step then .error .valueError
    else .ok (self.entries.foldl (fun newbag e =>
      if s.keeps e.1 then newbag.set e.1 e.2 else newbag) .empty)
  | .coll mem =>
    .ok (self.entries.foldl (fun newbag e => if mem e.1 then newbag.set e.1 e.2 else newbag) .empty)

def Container.stepped : Container → Bool
  | .slice s => truthy s.step
  | .tuple parts => parts.any Part.stepped
  | .coll _ => false

def Container.keeps : Container → Nat → Bool
  | .slice s, n => s.keeps n
  | .tuple parts, n => parts.any (·.keeps n)
  | .coll mem, n => mem n

/-- Every branch of `intersect`: a stepped slice raises `ValueError`; otherwise the new bag
holds the counter of each key the container keeps. -/
theorem intersect_get (self : BagBase Nat) (c : Container) :
    (c.stepped = true → intersect self c = .error .valueError) ∧
      (c.stepped = false → ∃ R, intersect self c = .ok R ∧
        ∀ k, R.get k = if c.keeps k then self.get k else 0) := by
  cases c with
  | slice s => exact ⟨fun h => if_pos h, fun h => ⟨_, if_neg (ne_true_of_eq_false h),
      BagBase.get_foldl_select (s.keeps · = true) self⟩⟩
  | tuple parts => exact ⟨fun h => if_pos h, fun h => ⟨_, if_neg (ne_true_of_eq_false h),
      BagBase.get_foldl_select (fun n => parts.any (·.keeps n) = true) self⟩⟩
  | coll mem => exact ⟨nofun, fun _ => ⟨_, rfl, BagBase.get_foldl_select (mem · = true) self⟩⟩

/-! ### The entries a container selects, by the words of `B[...]` -/

/-- What the slice `lo:hi` selects by its words: `lo <= k` when `lo` is given, and `k < hi`
when `hi` is given. -/
def Slice.contains (s : Slice) (k : Nat) : Bool :=
  s.start.all (· ≤ (k : Int)) && s.stop.all ((k : Int) < ·)

def Part.contains : Part → Nat → Bool
  | .slice s, n => s.contains n
  | .coll mem, n => mem n
  | .key k, n => (n : Int) = k

def Container.contains : Container → Nat → Bool
  | .slice s, n => s.contains n
  | .tuple parts, n => parts.any (·.contains n)
  | .coll mem, n => mem n

/-- A slice with no step and no stop `0`. -/
def Slice.Plain (s : Slice) : Prop := truthy s.step = false ∧ s.stop ≠ some 0

def Part.Plain : Part → Prop
  | .slice s => s.Plain
  | _ => True

def Container.Plain : Container → Prop
  | .slice s => s.Plain
  | .tuple parts => ∀ p ∈ parts, p.Plain
  | .coll _ => True

/-- The tests of the slice branch read the bounds as the words do, except a stop `0`; a start
`0` is false too, but no key lies below it. -/
theorem Slice.keeps_eq_contains {s : Slice} (h : s.stop ≠ some 0) (n : Nat) :
    s.keeps n = s.contains n := by
  rcases s with ⟨_ | lo, _ | hi, step⟩ <;>
    simp only [Slice.keeps, Slice.contains, truthy, Option.all, Option.getD, ne_eq,
      Option.some.injEq] at h ⊢ <;>
    rw [Bool.eq_iff_iff] <;> simp <;> omega

theorem Part.keeps_eq_contains {p : Part} (h : p.Plain) (n : Nat) : p.keeps n = p.contains n := by
  cases p with
  | slice s => exact Slice.keeps_eq_contains h.2 n
  | _ => rfl

theorem Container.keeps_eq_contains {c : Container} (h : c.Plain) (n : Nat) :
    c.keeps n = c.contains n := by
  cases c with
  | slice s => exact Slice.keeps_eq_contains h.2 n
  | tuple parts =>
    rw [Bool.eq_iff_iff]
    simp only [Container.keeps, Container.contains, List.any_eq_true]
    exact exists_congr fun p => and_congr_right fun hp => by rw [Part.keeps_eq_contains (h p hp)]
  | coll mem => rfl

theorem Container.stepped_of_plain {c : Container} (h : c.Plain) : c.stepped = false := by
  cases c with
  | slice s => exact h.1
  | tuple parts =>
    refine List.any_eq_false.2 fun p hp => ?_
    cases p with
    | slice s => simp [Part.stepped, (h _ hp).1]
    | _ => simp [Part.stepped]
  | coll mem => rfl

/-- `B[c]` for a slice, a tuple, an `IPSet` or an `IPWildcard` with no stepped slice and no
slice stopping at `0`: exactly the entries whose key the container selects by its words. A
stepped slice raises `ValueError`. -/
theorem intersect_law (B : BagBase Nat) (c : Container) (hc : c.Plain) :
    ∃ R, intersect B c = .ok R ∧ ∀ k, R.get k = if c.contains k then B.get k else 0 := by
  obtain ⟨R, hR, hget⟩ := (intersect_get B c).2 (Container.stepped_of_plain hc)
  exact ⟨R, hR, fun k => by rw [hget, Container.keeps_eq_contains hc]⟩

theorem intersect_law_tuple : (Container.tuple [.slice ⟨some 2, some 5, none⟩, .key 9]).Plain ∧
    ∃ R, intersect ⟨[(1, 4), (3, 1), (9, 2)], by decide, by decide⟩
      (.tuple [.slice ⟨some 2, some 5, none⟩, .key 9]) = .ok R ∧
      ∀ k, R.get k = if (Container.tuple [.slice ⟨some 2, some 5, none⟩, .key 9]).contains k then
        BagBase.get ⟨[(1, 4), (3, 1), (9, 2)], by decide, by decide⟩ k else 0 :=
  ⟨fun p hp => by simp at hp; rcases hp with rfl | rfl <;> simp [Part.Plain, Slice.Plain, truthy],
    intersect_law _ _ (fun p hp => by
      simp at hp; rcases hp with rfl | rfl <;> simp [Part.Plain, Slice.Plain, truthy])⟩

/-- `B[lo:0]`, alone or in a tuple, is `B[lo:]`: the stop `0` is false, so it drops no key. By
its words the slice selects no key of an integer bag. -/
theorem bag_slice_stop_zero (B : BagBase Nat) (lo : Option Int) :
    (∃ R, intersect B (.slice ⟨lo, some 0, none⟩) = .ok R ∧
        ∀ k, R.get k = if (Slice.mk lo none none).contains k then B.get k else 0) ∧
      (∃ R, intersect B (.tuple [.slice ⟨lo, some 0, none⟩]) = .ok R ∧
        ∀ k, R.get k = if (Slice.mk lo none none).contains k then B.get k else 0) ∧
      ∀ k, (Slice.mk lo (some 0) none).contains k = false := by
  have hkeeps (n : Nat) : (Slice.mk lo (some 0) none).keeps n = (Slice.mk lo none none).contains n := by
    rw [← Slice.keeps_eq_contains (by simp)]; rfl
  obtain ⟨R, hR, hget⟩ := (intersect_get B (.slice ⟨lo, some 0, none⟩)).2 rfl
  obtain ⟨R', hR', hget'⟩ := (intersect_get B (.tuple [.slice ⟨lo, some 0, none⟩])).2 rfl
  refine ⟨⟨R, hR, fun k => ?_⟩, ⟨R', hR', fun k => ?_⟩, fun k => ?_⟩
  · rw [hget, Container.keeps, hkeeps]
  · rw [hget']; simp [Container.keeps, Part.keeps, hkeeps]
  · simp [Slice.contains]

end Bag

end Silk