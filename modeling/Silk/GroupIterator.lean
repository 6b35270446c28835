import Mathlib.Data.List.Sort
import Silk.Bag
/-! Every run of `Bag.group_iterator` on two bags whose entries `sorted_iter` yields with their
keys in increasing order. The generator yields each key of either bag once, in increasing order,
with each bag's counter, and returns; unless the last key of the second bag lies below a key of
the first without being one of them. Then the `bk < ak` branch is the one that finds the second
bag run out, and since it lacks the `return` of the other branches the generator never returns. -/
namespace Silk
namespace Bag

variable {K V : Type} [LinearOrder K]

/-- `list(A.group_iterator(B))` given `n` resumptions: the items, or `none` when the generator
has not returned within them. -/
def drain : Nat → Gen K V → Option (List (Item K V))
  | 0, _ => none
  | n + 1, g => match next g with
    | none => some []
    | some (x, g) => (drain n g).map (x :: ·)

/-- Whether `b`'s last key lies below a key of `a` without being one of them. -/
def endless (a b : List (K × V)) : Bool :=
  match b.getLast? with
  | none => false
  | some (bk, _) => !(a.map Prod.fst).contains bk && (a.map Prod.fst).any (bk < ·)

/-- What `group_iterator` is for, by its docstring: every key of either bag once, in increasing
order, with each bag's counter, `None` for a bag that has none. -/
def merge : List (K × V) → List (K × V) → List (Item K V)
  | [], b => b.map fun e => (e.1, none, some e.2)
  | (ak, av) :: a, [] => ((ak, av) :: a).map fun e => (e.1, some e.2, none)
  | (ak, av) :: a, (bk, bv) :: b =>
    if ak < bk then (ak, some av, none) :: merge a ((bk, bv) :: b)
    else if bk < ak then (bk, none, some bv) :: merge ((ak, av) :: a) b
    else (ak, some av, some bv) :: merge a b
termination_by a b => a.length + b.length

/-- Keys in increasing order. -/
abbrev Ascending (l : List (K × V)) : Prop := (l.map Prod.fst).Sorted (· < ·)

/-! ### The merge -/

theorem mem_merge_keys (a b : List (K × V)) (k : K) :
    k ∈ (merge a b).map (·.1) ↔ k ∈ a.map Prod.fst ∨ k ∈ b.map Prod.fst := by
  induction a, b using merge.induct with
  | case1 b => simp [merge]
  | case2 ak av a => simp [merge]
  | case3 ak av a bk bv b h ih =>
    rw [merge, if_pos h, List.map_cons, List.mem_cons, ih]
    simp only [List.map_cons, List.mem_cons, or_assoc]
  | case4 ak av a bk bv b h h' ih =>
    rw [merge, if_neg h, if_pos h', List.map_cons, List.mem_cons, ih]
    simp only [List.map_cons, List.mem_cons, or_assoc, or_left_comm]
  | case5 ak av a bk bv b h h' ih =>
    have hab : bk = ak := le_antisymm (not_lt.1 h) (not_lt.1 h')
    rw [merge, if_neg h, if_neg h', List.map_cons, List.mem_cons, ih]
    simp only [List.map_cons, List.mem_cons, hab, or_assoc, or_left_comm, or_self_left]

theorem length_merge_le (a b : List (K × V)) : (merge a b).length ≤ a.length + b.length := by
  induction a, b using merge.induct with
  | case1 b => simp [merge]
  | case2 ak av a => simp [merge]
  | case3 ak av a bk bv b h ih => rw [merge, if_pos h]; simp only [List.length_cons] at ih ⊢; omega
  | case4 ak av a bk bv b h h' ih =>
    rw [merge, if_neg h, if_pos h']; simp only [List.length_cons] at ih ⊢; omega
  | case5 ak av a bk bv b h h' ih =>
    rw [merge, if_neg h, if_neg h']; simp only [List.length_cons] at ih ⊢; omega

/-- Every key of an ascending list after its first lies above it. -/
theorem lt_of_ascending {x : K × V} {l : List (K × V)} (h : Ascending (x :: l)) :
    ∀ k ∈ l.map Prod.fst, x.1 < k :=
  (List.sorted_cons.1 h).1

theorem ascending_tail {x : K × V} {l : List (K × V)} (h : Ascending (x :: l)) : Ascending l :=
  (List.sorted_cons.1 h).2

theorem lt_keys_of_lt {x : K × V} {l : List (K × V)} (hl : Ascending (x :: l)) {y : K}
    (h : y < x.1) : ∀ k ∈ (x :: l).map Prod.fst, y < k := by
  intro k hk
  rcases List.mem_cons.1 hk with rfl | hk
  · exact h
  · exact h.trans (lt_of_ascending hl k hk)

theorem lt_merge_keys {a b : List (K × V)} {y : K} (ha : ∀ k ∈ a.map Prod.fst, y < k)
    (hb : ∀ k ∈ b.map Prod.fst, y < k) : ∀ k ∈ (merge a b).map (·.1), y < k :=
  fun k hk => ((mem_merge_keys a b k).1 hk).elim (ha k) (hb k)

theorem merge_sorted {a b : List (K × V)} (ha : Ascending a) (hb : Ascending b) :
    ((merge a b).map (·.1)).Sorted (· < ·) := by
  induction a, b using merge.induct with
  | case1 b => simpa [merge, Function.comp_def, Ascending] using hb
  | case2 ak av a => simpa [merge, Function.comp_def, Ascending] using ha
  | case3 ak av a bk bv b h ih =>
    rw [merge, if_pos h, List.map_cons, List.sorted_cons]
    exact ⟨lt_merge_keys (lt_of_ascending ha) (lt_keys_of_lt hb h), ih (ascending_tail ha) hb⟩
  | case4 ak av a bk bv b h h' ih =>
    rw [merge, if_neg h, if_pos h', List.map_cons, List.sorted_cons]
    exact ⟨lt_merge_keys (lt_keys_of_lt ha h') (lt_of_ascending hb), ih ha (ascending_tail hb)⟩
  | case5 ak av a bk bv b h h' ih =>
    have hab : bk = ak := le_antisymm (not_lt.1 h) (not_lt.1 h')
    rw [merge, if_neg h, if_neg h', List.map_cons, List.sorted_cons]
    exact ⟨lt_merge_keys (lt_of_ascending ha) (hab ▸ lt_of_ascending hb),
      ih (ascending_tail ha) (ascending_tail hb)⟩

theorem lookup_of_ascending {l : List (K × V)} (hl : Ascending l) {e : K × V} (he : e ∈ l) :
    l.lookup e.1 = some e.2 := by
  induction l with
  | nil => cases he
  | cons x l ih =>
    obtain ⟨k, v⟩ := x
    rcases List.mem_cons.1 he with rfl | he
    · simp
    · have hx : e.1 ≠ k := (lt_of_ascending hl _ (List.mem_map_of_mem _ he)).ne'
      rw [← ih (ascending_tail hl) he, List.lookup_cons, beq_false_of_ne hx]

theorem lookup_eq_none_of_lt {l : List (K × V)} {k : K} (h : ∀ k' ∈ l.map Prod.fst, k < k') :
    l.lookup k = none :=
  List.lookup_eq_none_iff.2 fun p hp => by
    simpa using (h p.1 (List.mem_map_of_mem _ hp)).ne

theorem lookup_cons_of_lt {x : K × V} {l : List (K × V)} {k : K} (h : x.1 < k) :
    (x :: l).lookup k = l.lookup k := by
  rw [List.lookup_cons, beq_false_of_ne h.ne']

theorem merge_lookup {a b : List (K × V)} (ha : Ascending a) (hb : Ascending b) :
    ∀ x ∈ merge a b, x.2.1 = a.lookup x.1 ∧ x.2.2 = b.lookup x.1 := by
  induction a, b using merge.induct with
  | case1 b =>
    simp only [merge, List.mem_map]
    rintro _ ⟨e, he, rfl⟩
    exact ⟨rfl, (lookup_of_ascending hb he).symm⟩
  | case2 ak av a =>
    simp only [merge, List.mem_map]
    rintro _ ⟨e, he, rfl⟩
    exact ⟨(lookup_of_ascending ha he).symm, rfl⟩
  | case3 ak av a bk bv b h ih =>
    rw [merge, if_pos h]
    rintro x (_ | ⟨_, hx⟩)
    · exact ⟨by simp, (lookup_eq_none_of_lt (lt_keys_of_lt hb h)).symm⟩
    · have hk := lt_merge_keys (lt_of_ascending ha) (lt_keys_of_lt hb h) x.1 (List.mem_map_of_mem _ hx)
      rw [lookup_cons_of_lt hk]
      exact ih (ascending_tail ha) hb x hx
  | case4 ak av a bk bv b h h' ih =>
    rw [merge, if_neg h, if_pos h']
    rintro x (_ | ⟨_, hx⟩)
    · exact ⟨(lookup_eq_none_of_lt (lt_keys_of_lt ha h')).symm, by simp⟩
    · have hk := lt_merge_keys (lt_keys_of_lt ha h') (lt_of_ascending hb) x.1 (List.mem_map_of_mem _ hx)
      rw [lookup_cons_of_lt (x := (bk, bv)) hk]
      exact ih ha (ascending_tail hb) x hx
  | case5 ak av a bk bv b h h' ih =>
    have hab : bk = ak := le_antisymm (not_lt.1 h) (not_lt.1 h')
    subst hab
    rw [merge, if_neg h, if_neg h']
    rintro x (_ | ⟨_, hx⟩)
    · exact ⟨by simp, by simp⟩
    · have hk := lt_merge_keys (lt_of_ascending ha) (lt_of_ascending hb) x.1 (List.mem_map_of_mem _ hx)
      rw [lookup_cons_of_lt (x := (bk, av)) hk, lookup_cons_of_lt (x := (bk, bv)) hk]
      exact ih (ascending_tail ha) (ascending_tail hb) x hx

/-! ### `endless` -/

@[simp] theorem endless_nil_left (b : List (K × V)) : endless [] b = false := by
  unfold endless; split <;> simp

@[simp] theorem endless_nil_right (a : List (K × V)) : endless a [] = false := rfl

@[simp] theorem endless_cons_cons (a : List (K × V)) (f g : K × V) (b : List (K × V)) :
    endless a (f :: g :: b) = endless a (g :: b) := by
  simp only [endless, List.getLast?_cons_cons]

/-- A first key below `b`'s last one changes nothing. -/
theorem endless_cons_of_lt {x : K × V} {a b : List (K × V)} (h : ∀ e ∈ b, x.1 < e.1) :
    endless (x :: a) b = endless a b := by
  unfold endless
  split
  · rfl
  next bk bv hl =>
    have hx : x.1 < bk := h _ (List.mem_of_getLast?_eq_some hl)
    simp [beq_false_of_ne hx.ne', not_lt.2 hx.le]

theorem endless_singleton_of_lt {ak bk : K} {av bv : V} {a : List (K × V)}
    (hA : Ascending ((ak, av) :: a)) (h : bk < ak) : endless ((ak, av) :: a) [(bk, bv)] = true := by
  have hA' := lt_keys_of_lt hA h
  simp only [endless, List.getLast?_singleton, Bool.and_eq_true, Bool.not_eq_true',
    List.contains_eq_any_beq, List.any_eq_true, List.any_eq_false, beq_iff_eq, decide_eq_true_eq]
  exact ⟨fun k hk hb => (hA' k hk).ne' hb.symm, ak, List.mem_cons_self _ _, h⟩

theorem endless_singleton_self (ak : K) (av bv : V) (a : List (K × V)) :
    endless ((ak, av) :: a) [(ak, bv)] = false := by
  simp [endless]

/-- The keys of an ascending list lie at or above its first. -/
theorem le_of_ascending {x : K × V} {l : List (K × V)} (h : Ascending (x :: l)) :
    ∀ e ∈ x :: l, x.1 ≤ e.1 := by
  intro e he
  rcases List.mem_cons.1 he with rfl | he
  · exact le_rfl
  · exact (lt_of_ascending h _ (List.mem_map_of_mem _ he)).le

/-! ### One step, and every run -/

namespace Gen

/-- What a state has yet to yield, on a run that returns. -/
def pending : Gen K V → List (Item K V)
  | .start a b => merge a b
  | .loop ak av bk bv a b => merge ((ak, av) :: a) ((bk, bv) :: b)
  | .restA a => a.map fun e => (e.1, some e.2, none)
  | .restB b => b.map fun e => (e.1, none, some e.2)
  | .restAThenLoop .. => []

/-- The states of a run on ascending bags that returns. -/
def Returning : Gen K V → Prop
  | .start a b => Ascending a ∧ Ascending b ∧ endless a b = false
  | .loop ak av bk bv a b => Ascending ((ak, av) :: a) ∧ Ascending ((bk, bv) :: b) ∧
    endless ((ak, av) :: a) ((bk, bv) :: b) = false
  | .restA _ | .restB _ => True
  | .restAThenLoop .. => False

/-- The states of a run on ascending bags that never returns. -/
def Spinning : Gen K V → Prop
  | .start a b => Ascending a ∧ Ascending b ∧ endless a b = true
  | .loop ak av bk bv a b => Ascending ((ak, av) :: a) ∧ Ascending ((bk, bv) :: b) ∧
    endless ((ak, av) :: a) ((bk, bv) :: b) = true
  | .restA _ | .restB _ => False
  | .restAThenLoop bk _ k _ a => bk < k ∧ ∀ e ∈ a, bk < e.1

end Gen

theorem loopStep_returning {ak bk : K} {av bv : V} {a b : List (K × V)}
    (h : (Gen.loop ak av bk bv a b).Returning) :
    (Gen.loop ak av bk bv a b).pending =
      (loopStep ak av bk bv a b).1 :: (loopStep ak av bk bv a b).2.pending ∧
      (loopStep ak av bk bv a b).2.Returning := by
  obtain ⟨hA, hB, he⟩ := h
  simp only [Gen.pending, loopStep]
  rw [merge]
  split_ifs with h₁ h₂
  · -- `ak < bk`: `a` moves on
    rw [endless_cons_of_lt fun e he => h₁.trans_le (le_of_ascending hB e he)] at he
    rcases a with _ | ⟨⟨ak', av'⟩, a⟩
    · exact ⟨by rw [merge], trivial⟩
    · exact ⟨rfl, ascending_tail hA, hB, he⟩
  · -- `bk < ak`: `b` moves on; it cannot have run out
    rcases b with _ | ⟨⟨bk', bv'⟩, b⟩
    · rw [endless_singleton_of_lt hA h₂] at he; cases he
    · exact ⟨rfl, hA, ascending_tail hB, by rwa [endless_cons_cons] at he⟩
  · -- equal keys: both move on
    have hab : bk = ak := le_antisymm (not_lt.1 h₁) (not_lt.1 h₂)
    subst hab
    rcases a with _ | ⟨⟨ak', av'⟩, a⟩ <;> rcases b with _ | ⟨⟨bk', bv'⟩, b⟩
    · exact ⟨by rw [merge], trivial⟩
    · exact ⟨by rw [merge], trivial⟩
    · exact ⟨by rw [merge], trivial⟩
    · have hlt := lt_of_ascending hB bk' (List.mem_cons_self _ _)
      rw [endless_cons_cons, endless_cons_of_lt (x := (bk, av)) fun e he => hlt.trans_le
        (le_of_ascending (ascending_tail hB) e he)] at he
      exact ⟨rfl, ascending_tail hA, ascending_tail hB, he⟩

theorem loopStep_spinning {ak bk : K} {av bv : V} {a b : List (K × V)}
    (h : (Gen.loop ak av bk bv a b).Spinning) : (loopStep ak av bk bv a b).2.Spinning := by
  obtain ⟨hA, hB, he⟩ := h
  simp only [loopStep]
  split_ifs with h₁ h₂
  · rw [endless_cons_of_lt fun e he => h₁.trans_le (le_of_ascending hB e he)] at he
    rcases a with _ | ⟨⟨ak', av'⟩, a⟩
    · rw [endless_nil_left] at he; cases he
    · exact ⟨ascending_tail hA, hB, he⟩
  · rcases b with _ | ⟨⟨bk', bv'⟩, b⟩
    · exact ⟨h₂, fun e he => h₂.trans (lt_of_ascending hA _ (List.mem_map_of_mem _ he))⟩
    · exact ⟨hA, ascending_tail hB, by rwa [endless_cons_cons] at he⟩
  · have hab : bk = ak := le_antisymm (not_lt.1 h₁) (not_lt.1 h₂)
    subst hab
    rcases b with _ | ⟨⟨bk', bv'⟩, b⟩
    · rw [endless_singleton_self] at he; cases he
    · have hlt := lt_of_ascending hB bk' (List.mem_cons_self _ _)
      rw [endless_cons_cons, endless_cons_of_lt (x := (bk, av)) fun e he => hlt.trans_le
        (le_of_ascending (ascending_tail hB) e he)] at he
      rcases a with _ | ⟨⟨ak', av'⟩, a⟩
      · rw [endless_nil_left] at he; cases he
      · exact ⟨ascending_tail hA, ascending_tail hB, he⟩

theorem next_returning {g : Gen K V} (h : g.Returning) :
    (next g = none ∧ g.pending = []) ∨
      ∃ x g', next g = some (x, g') ∧ g.pending = x :: g'.pending ∧ g'.Returning := by
  match g, h with
  | .start [] [], _ => exact .inl ⟨rfl, by simp [Gen.pending, merge]⟩
  | .start [] (_ :: _), _ => exact .inr ⟨_, _, rfl, by simp [Gen.pending, merge], trivial⟩
  | .start ((_, _) :: _) [], _ => exact .inr ⟨_, _, rfl, by simp [Gen.pending, merge], trivial⟩
  | .start ((_, _) :: _) ((_, _) :: _), h => exact .inr ⟨_, _, rfl, loopStep_returning h⟩
  | .loop .., h => exact .inr ⟨_, _, rfl, loopStep_returning h⟩
  | .restA [], _ => exact .inl ⟨rfl, rfl⟩
  | .restA ((_, _) :: _), _ => exact .inr ⟨_, _, rfl, rfl, trivial⟩
  | .restB [], _ => exact .inl ⟨rfl, rfl⟩
  | .restB ((_, _) :: _), _ => exact .inr ⟨_, _, rfl, rfl, trivial⟩

theorem next_spinning {g : Gen K V} (h : g.Spinning) : ∃ x g', next g = some (x, g') ∧ g'.Spinning := by
  match g, h with
  | .start [] _, ⟨_, _, h⟩ => rw [endless_nil_left] at h; cases h
  | .start (_ :: _) [], ⟨_, _, h⟩ => cases h
  | .start ((_, _) :: _) ((_, _) :: _), h => exact ⟨_, _, rfl, loopStep_spinning h⟩
  | .loop .., h => exact ⟨_, _, rfl, loopStep_spinning h⟩
  | .restAThenLoop bk bv k v [], ⟨h, _⟩ =>
    exact ⟨_, _, rfl, List.sorted_singleton _, List.sorted_singleton _,
      endless_singleton_of_lt (List.sorted_singleton _) h⟩
  | .restAThenLoop bk bv k v ((_, _) :: _), ⟨_, h⟩ =>
    exact ⟨_, _, rfl, h _ (List.mem_cons_self _ _), fun e he => h e (List.mem_cons_of_mem _ he)⟩

theorem drain_returning (n : Nat) {g : Gen K V} (h : g.Returning) (hn : g.pending.length < n) :
    drain n g = some g.pending := by
  induction n generalizing g with
  | zero => cases hn
  | succ n ih =>
    rcases next_returning h with ⟨hg, hp⟩ | ⟨x, g', hg, hp, h'⟩
    · simp only [drain, hg, hp]
    · rw [hp, List.length_cons] at hn
      simp only [drain, hg, ih h' (by omega), hp, Option.map_some']

theorem drain_spinning (n : Nat) {g : Gen K V} (h : g.Spinning) :
    drain n g = none ∧ (take n g).length = n := by
  induction n generalizing g with
  | zero => exact ⟨rfl, rfl⟩
  | succ n ih =>
    obtain ⟨x, g', hg, h'⟩ := next_spinning h
    rw [take_succ_of_next hg, List.length_cons, (ih h').2]
    simp only [drain, hg, (ih h').1, Option.map_none', and_true]

/-- `A.group_iterator(B)` on bags whose `sorted_iter` yields their keys in increasing order. Unless
`B`'s last key lies below a key of `A` without being one of them, `list(...)` returns, and holds
every key of either bag once, in increasing order, with the counter each bag has for it (`None`
for none). When it does lie so, the generator yields item after item and never returns. -/
theorem group_iterator_law (a b : List (K × V)) (ha : Ascending a) (hb : Ascending b) :
    (endless a b = false → ∃ out, drain (a.length + b.length + 1) (groupIterator a b) = some out ∧
      (out.map (·.1)).Sorted (· < ·) ∧
      (∀ k, k ∈ out.map (·.1) ↔ k ∈ a.map Prod.fst ∨ k ∈ b.map Prod.fst) ∧
      ∀ x ∈ out, x.2.1 = a.lookup x.1 ∧ x.2.2 = b.lookup x.1) ∧
    (endless a b = true →
      ∀ n, drain n (groupIterator a b) = none ∧ (take n (groupIterator a b)).length = n) :=
  ⟨fun he => ⟨merge a b, drain_returning _ (g := .start a b) ⟨ha, hb, he⟩
      (Nat.lt_succ_of_le (length_merge_le a b)),
    merge_sorted ha hb, mem_merge_keys a b, merge_lookup ha hb⟩,
  fun he n => drain_spinning n (g := .start a b) ⟨ha, hb, he⟩⟩

theorem group_iterator_law_two_bags :
    (Ascending [((1 : Nat), (1 : Nat)), (2, 2)] ∧ Ascending [((2 : Nat), (5 : Nat)), (3, 1)] ∧
      endless [((1 : Nat), (1 : Nat)), (2, 2)] [(2, 5), (3, 1)] = false) ∧
    (∃ out, drain (2 + 2 + 1) (groupIterator [((1 : Nat), (1 : Nat)), (2, 2)] [(2, 5), (3, 1)]) =
        some out ∧ (out.map (·.1)).Sorted (· < ·) ∧
      (∀ k, k ∈ out.map (·.1) ↔ k ∈ [1, 2] ∨ k ∈ [2, 3]) ∧
      ∀ x ∈ out, x.2.1 = [((1 : Nat), (1 : Nat)), (2, 2)].lookup x.1 ∧
        x.2.2 = [((2 : Nat), (5 : Nat)), (3, 1)].lookup x.1) ∧
    (Ascending [((2 : Nat), (1 : Nat))] ∧ Ascending [((1 : Nat), (1 : Nat))] ∧
      endless [((2 : Nat), (1 : Nat))] [(1, 1)] = true) ∧
    ∀ n, drain n (groupIterator [((2 : Nat), (1 : Nat))] [(1, 1)]) = none ∧
      (take n (groupIterator [((2 : Nat), (1 : Nat))] [(1, 1)])).length = n :=
  ⟨⟨by decide, by decide, rfl⟩,
    (group_iterator_law [(1, 1), (2, 2)] [(2, 5), (3, 1)] (by decide) (by decide)).1 rfl,
    ⟨by decide, by decide, rfl⟩,
    (group_iterator_law [(2, 1)] [(1, 1)] (by decide) (by decide)).2 rfl⟩

/-- The bags of the docstring: `{1: 1, 2: 2}` against `{1: 3, 3: 4}`. -/
example : drain 5 (groupIterator [((1 : Nat), (1 : Nat)), (2, 2)] [(1, 3), (3, 4)]) =
    some [(1, some 1, some 3), (2, some 2, none), (3, none, some 4)] := rfl

end Bag

end Silk
