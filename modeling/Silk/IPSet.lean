import Mathlib.Data.Finset.SymmDiff
/-! The Python layer of `IPSet` (`pysilk/python/__init__.py`) over `IPSetBase`, the C type,
taken as a finite set of addresses: its `update`, `intersection_update`,
`difference_update`, `add` and `discard` are union, intersection, difference, insertion and
removal, and its comparison is equality of the sets. A wildcard string denotes the set of
addresses `IPWildcard` gives it. A method reads its argument when it iterates it; a one-shot
iterator is empty at every later read, and an argument may be the receiver itself. -/
namespace Silk
namespace IPSet

/-- An item of an iterable argument: an address, or a wildcard string. -/
inductive Item (A : Type)
  | addr (a : A)
  | str (s : String)

/-- An argument: an `IPSet`, the receiver itself, a collection of items that can be iterated
again, or a one-shot iterator. -/
inductive Arg (A : Type)
  | ipset (s : Finset A)
  | self_
  | items (xs : List (Item A))
  | iterator (xs : List (Item A))

section
variable {A : Type} [DecidableEq A] (wild : String → Finset A)

def Item.denote : Item A → Finset A
  | .addr a => {a}
  | .str s => wild s

/-- The `for item in arg` loop of `update`: `IPSetBase.add` each item. -/
def addItems (s : Finset A) (xs : List (Item A)) : Finset A :=
  xs.foldl (fun s it => s ∪ it.denote wild) s

/-- The `for addr in items` loop of `difference_update`: `IPSetBase.discard` each item. -/
def discardItems (s : Finset A) (xs : List (Item A)) : Finset A :=
  xs.foldl (fun s it => s \ it.denote wild) s

/-- An argument as a later read finds it. -/
def Arg.after : Arg A → Arg A
  | .iterator _ => .iterator []
  | arg => arg

/-- `update(arg)` on the `IPSet` whose value is `t`, when the receiver `A` of the outer call
has the value `a`: the new value, and the argument after the read. -/
def update (a t : Finset A) (arg : Arg A) : Finset A × Arg A :=
  (match arg with
    | .ipset s => t ∪ s
    | .self_ => t ∪ a
    | .items xs | .iterator xs => addItems wild t xs, arg.after)

/-- `intersection_update(arg)`: an argument that is not an `IPSet` is first made one,
`IPSet(arg)`. -/
def intersectionUpdate (a t : Finset A) : Arg A → Finset A × Arg A
  | .ipset s => (t ∩ s, .ipset s)
  | .self_ => (t ∩ a, .self_)
  | arg => ((update wild a ∅ arg).1 ∩ t, (update wild a ∅ arg).2)

def differenceUpdate (a t : Finset A) (arg : Arg A) : Finset A × Arg A :=
  (match arg with
    | .ipset s => t \ s
    | .self_ => t \ a
    | .items xs | .iterator xs => discardItems wild t xs, arg.after)

/-- `IPSet().update(self)`. -/
def copy (a : Finset A) : Finset A := (update wild a ∅ (.ipset a)).1

def union (a : Finset A) (arg : Arg A) : Finset A × Arg A := update wild a (copy wild a) arg

def intersection (a : Finset A) (arg : Arg A) : Finset A × Arg A :=
  intersectionUpdate wild a (copy wild a) arg

def difference (a : Finset A) (arg : Arg A) : Finset A × Arg A :=
  differenceUpdate wild a (copy wild a) arg

/-- `intersect = self.intersection(arg)`, `combine = self.union(arg)`, then
`combine.difference_update(intersect)`; `arg` is read twice. -/
def symmetricDifference (a : Finset A) (arg : Arg A) : Finset A :=
  let intersect := intersection wild a arg
  let combine := union wild a intersect.2
  (differenceUpdate wild a combine.1 (.ipset intersect.1)).1

/-- The value `symmetric_difference_update` leaves in the receiver: `intersect =
self.intersection(arg)`, `self.update(arg)`, `self.difference_update(intersect)`. -/
def symmetricDifferenceUpdate (a : Finset A) (arg : Arg A) : Finset A :=
  let intersect := intersection wild a arg
  let a' := (update wild a a intersect.2).1
  (differenceUpdate wild a' a' (.ipset intersect.1)).1

/-- `not self.difference(arg)`: an `IPSet` is true when it is non-empty. -/
def issubset (a : Finset A) (arg : Arg A) : Bool := decide ((difference wild a arg).1 = ∅)

def issuperset (a : Finset A) (arg : Arg A) : Bool :=
  let newarg := match arg with
    | .ipset s => s
    | .self_ => a
    | arg => (update wild a ∅ arg).1
  decide ((difference wild newarg (.ipset a)).1 = ∅)

/-- The set of addresses an argument denotes when the call begins. -/
def Arg.denote (a : Finset A) : Arg A → Finset A
  | .ipset s => s
  | .self_ => a
  | .items xs | .iterator xs => addItems wild ∅ xs

/-! ### Each method on the set model -/

theorem addItems_eq (s : Finset A) (xs : List (Item A)) :
    addItems wild s xs = s ∪ addItems wild ∅ xs := by
  induction xs generalizing s with
  | nil => simp [addItems]
  | cons x xs ih =>
    show addItems wild (s ∪ x.denote wild) xs = s ∪ addItems wild (∅ ∪ x.denote wild) xs
    rw [ih, ih (∅ ∪ _), Finset.empty_union, Finset.union_assoc]

theorem discardItems_eq (s : Finset A) (xs : List (Item A)) :
    discardItems wild s xs = s \ addItems wild ∅ xs := by
  induction xs generalizing s with
  | nil => simp [discardItems, addItems]
  | cons x xs ih =>
    show discardItems wild (s \ x.denote wild) xs = s \ addItems wild (∅ ∪ x.denote wild) xs
    rw [ih, addItems_eq wild (∅ ∪ _), Finset.empty_union, sdiff_sdiff_left]
    rfl

@[simp] theorem update_fst (a t : Finset A) (arg : Arg A) :
    (update wild a t arg).1 = t ∪ arg.denote wild a := by
  cases arg <;> simp [update, Arg.denote, addItems_eq wild t]

@[simp] theorem update_snd (a t : Finset A) (arg : Arg A) : (update wild a t arg).2 = arg.after := rfl

@[simp] theorem intersectionUpdate_fst (a t : Finset A) (arg : Arg A) :
    (intersectionUpdate wild a t arg).1 = t ∩ arg.denote wild a := by
  cases arg <;> simp [intersectionUpdate, Arg.denote, Finset.inter_comm]

@[simp] theorem intersectionUpdate_snd (a t : Finset A) (arg : Arg A) :
    (intersectionUpdate wild a t arg).2 = arg.after := by
  cases arg <;> rfl

@[simp] theorem differenceUpdate_fst (a t : Finset A) (arg : Arg A) :
    (differenceUpdate wild a t arg).1 = t \ arg.denote wild a := by
  cases arg <;> simp [differenceUpdate, Arg.denote, discardItems_eq wild t]

@[simp] theorem copy_eq (a : Finset A) : copy wild a = a := by simp [copy, Arg.denote]

theorem difference_fst (a : Finset A) (arg : Arg A) :
    (difference wild a arg).1 = a \ arg.denote wild a := by
  simp [difference]

theorem union_fst (a : Finset A) (arg : Arg A) : (union wild a arg).1 = a ∪ arg.denote wild a := by
  simp [union]

theorem intersection_fst (a : Finset A) (arg : Arg A) :
    (intersection wild a arg).1 = a ∩ arg.denote wild a := by
  simp [intersection]

theorem issubset_eq (a : Finset A) (arg : Arg A) :
    issubset wild a arg = decide (a ⊆ arg.denote wild a) := by
  simp [issubset, difference_fst, Finset.sdiff_eq_empty_iff_subset]

theorem issuperset_eq (a : Finset A) (arg : Arg A) :
    issuperset wild a arg = decide (arg.denote wild a ⊆ a) := by
  cases arg <;> simp [issuperset, difference_fst, Finset.sdiff_eq_empty_iff_subset, Arg.denote]

/-- Both symmetric differences read the argument twice: the second read finds a one-shot
iterator empty. -/
theorem symmetricDifference_eq (a : Finset A) (arg : Arg A) :
    symmetricDifference wild a arg = (a ∪ arg.after.denote wild a) \ (a ∩ arg.denote wild a) ∧
      symmetricDifferenceUpdate wild a arg = (a ∪ arg.after.denote wild a) \ (a ∩ arg.denote wild a) := by
  simp [symmetricDifference, symmetricDifferenceUpdate, intersection, union, Arg.denote]

/-- A later read finds every argument but a one-shot iterator as the first did; the receiver
itself has not changed by then. -/
theorem Arg.denote_after {arg : Arg A} (h : ∀ xs, arg ≠ .iterator xs) (a : Finset A) :
    arg.after.denote wild a = arg.denote wild a := by
  cases arg with
  | iterator xs => exact absurd rfl (h xs)
  | _ => rfl

/-- The `IPSet` methods on the set model: `union`, `intersection`, `difference`, `issubset`
and `issuperset` compute the set operations against the set `S` the argument denotes, for
every argument; both symmetric differences compute `A Δ S` for every argument but a one-shot
iterator, the receiver itself included. -/
theorem ipset_set_law (a : Finset A) (arg : Arg A) :
    (union wild a arg).1 = a ∪ arg.denote wild a ∧
      (intersection wild a arg).1 = a ∩ arg.denote wild a ∧
      (difference wild a arg).1 = a \ arg.denote wild a ∧
      (issubset wild a arg = true ↔ a ⊆ arg.denote wild a) ∧
      (issuperset wild a arg = true ↔ arg.denote wild a ⊆ a) ∧
      ((∀ xs, arg ≠ .iterator xs) → symmetricDifference wild a arg = symmDiff a (arg.denote wild a) ∧
        symmetricDifferenceUpdate wild a arg = symmDiff a (arg.denote wild a)) := by
  refine ⟨union_fst wild a arg, intersection_fst wild a arg, difference_fst wild a arg,
    by simp [issubset_eq], by simp [issuperset_eq], fun h => ?_⟩
  rw [(symmetricDifference_eq wild a arg).1, (symmetricDifference_eq wild a arg).2,
    Arg.denote_after wild h, symmDiff_eq_sup_sdiff_inf]
  exact ⟨rfl, rfl⟩

/-- With a one-shot iterator, both symmetric differences return `A \ S`: `intersection`
consumes the iterator, and `union` (or `update`) then adds nothing. That is `A Δ S` exactly
when `S ⊆ A`. -/
theorem symmetric_difference_one_shot (a : Finset A) (xs : List (Item A)) :
    symmetricDifference wild a (.iterator xs) = a \ addItems wild ∅ xs ∧
      symmetricDifferenceUpdate wild a (.iterator xs) = a \ addItems wild ∅ xs ∧
      (symmetricDifference wild a (.iterator xs) = symmDiff a (addItems wild ∅ xs) ↔
        addItems wild ∅ xs ⊆ a) := by
  have h := symmetricDifference_eq wild a (.iterator xs)
  simp only [Arg.after, Arg.denote, addItems, List.foldl_nil, Finset.union_empty,
    Finset.sdiff_inter_self_left] at h
  refine ⟨h.1, h.2, ?_⟩
  rw [h.1]
  constructor
  · intro he
    have hs := symmDiff_sdiff_left (a := a) (b := addItems wild ∅ xs)
    rw [← he, sdiff_sdiff_left, sdiff_eq_bot_iff.2 le_sup_right] at hs
    exact sdiff_eq_bot_iff.1 hs.symm
  · exact fun hs => (symmDiff_of_ge hs).symm

end

end IPSet

end Silk
