import Mathlib.Order.Basic
/-! `Bag.group_iterator` of `pysilk/python/__init__.py`, as the generator it is: a state for
each point where it can resume after a `yield`, and a `next` that runs to the following
`yield`. A bag is seen through `sorted_iter`, the list of its `(key, counter)` entries in key
order. -/
namespace Silk
namespace Bag

variable {K V : Type} [LT K] [DecidableRel (α := K) (· < ·)]

/-- One item: the key, then each bag's counter, `None` where the bag has none. -/
abbrev Item (K V : Type) := K × Option V × Option V

/-- Where the generator resumes. -/
inductive Gen (K V : Type)
  /-- before the first `next(a)` -/
  | start (a b : List (K × V))
  /-- at `while True`, holding `ak, av` and `bk, bv` -/
  | loop (ak : K) (av : V) (bk : K) (bv : V) (a b : List (K × V))
  /-- in `for ak, av in a: yield (ak, av, None)`, before `return` -/
  | restA (a : List (K × V))
  /-- in `for bk, bv in b: yield (bk, None, bv)`, before `return` -/
  | restB (b : List (K × V))
  /-- the `bk < ak` branch after `b` ran out: the pending `(k, v)` and then `a` are yielded,
  and control falls back into `while True` with the last of them as `ak, av` -/
  | restAThenLoop (bk : K) (bv : V) (k : K) (v : V) (a : List (K × V))

/-- One pass of the `while True` body, up to its `yield`. -/
def loopStep (ak : K) (av : V) (bk : K) (bv : V) (a b : List (K × V)) : Item K V × Gen K V :=
  if ak < bk then
    ((ak, some av, none), match a with
      | [] => .restB ((bk, bv) :: b)
      | (ak, av) :: a => .loop ak av bk bv a b)
  else if bk < ak then
    ((bk, none, some bv), match b with
      | [] => .restAThenLoop bk bv ak av a
      | (bk, bv) :: b => .loop ak av bk bv a b)
  else
    ((ak, some av, some bv), match a, b with
      | [], b => .restB b
      | x :: a, [] => .restA (x :: a)
      | (ak, av) :: a, (bk, bv) :: b => .loop ak av bk bv a b)

/-- Run the generator to its next `yield`: the item and where it resumes, or `none` when it
returns. -/
def next : Gen K V → Option (Item K V × Gen K V)
  | .start [] [] => none
  | .start [] ((bk, bv) :: b) => some ((bk, none, some bv), .restB b)
  | .start ((ak, av) :: a) [] => some ((ak, some av, none), .restA a)
  | .start ((ak, av) :: a) ((bk, bv) :: b) => some (loopStep ak av bk bv a b)
  | .loop ak av bk bv a b => some (loopStep ak av bk bv a b)
  | .restA [] => none
  | .restA ((ak, av) :: a) => some ((ak, some av, none), .restA a)
  | .restB [] => none
  | .restB ((bk, bv) :: b) => some ((bk, none, some bv), .restB b)
  | .restAThenLoop bk bv k v [] => some ((k, some v, none), .loop k v bk bv [] [])
  | .restAThenLoop bk bv k v ((ak, av) :: a) => some ((k, some v, none), .restAThenLoop bk bv ak av a)

/-- The first `n` items the generator yields (fewer if it returns first). -/
def take : Nat → Gen K V → List (Item K V)
  | 0, _ => []
  | n + 1, g => match next g with
    | none => []
    | some (x, g) => x :: take n g

/-- `A.group_iterator(B)` over the entries `sorted_iter` yields. -/
def groupIterator (a b : List (K × V)) : Gen K V := .start a b

theorem take_succ_of_next {g g' : Gen K V} {x : Item K V} (h : next g = some (x, g')) (n : Nat) :
    take (n + 1) g = x :: take n g' := by
  simp [take, h]

/-- `Bag.integer({2: 1}).group_iterator(Bag.integer({1: 1}))` never returns: `b` runs out in
the `bk < ak` branch, which lacks the `return` of the other two, and the loop goes back to
comparing `2` with `1`. Whatever `n`, the first `n` items exist: `(1, None, 1)`,
`(2, 1, None)`, and again, forever. -/
theorem group_iterator_endless (n : Nat) :
    (take n (groupIterator [((2 : Int), (1 : Int))] [((1 : Int), (1 : Int))])).length = n ∧
      take 4 (groupIterator [((2 : Int), (1 : Int))] [((1 : Int), (1 : Int))]) =
        [(1, none, some 1), (2, some 1, none), (1, none, some 1), (2, some 1, none)] := by
  have h₀ : next (Gen.loop (2 : Int) (1 : Int) 1 1 [] []) =
      some ((1, none, some 1), .restAThenLoop 1 1 2 1 []) := rfl
  have h₁ : next (Gen.restAThenLoop (1 : Int) (1 : Int) 2 1 []) =
      some ((2, some 1, none), .loop 2 1 1 1 [] []) := rfl
  have hs : next (groupIterator [((2 : Int), (1 : Int))] [((1 : Int), (1 : Int))]) =
      some ((1, none, some 1), .restAThenLoop 1 1 2 1 []) := rfl
  have cycle : ∀ n, (take n (Gen.loop (2 : Int) (1 : Int) 1 1 [] [])).length = n ∧
      (take n (Gen.restAThenLoop (1 : Int) (1 : Int) 2 1 [])).length = n := by
    intro n
    induction n with
    | zero => exact ⟨rfl, rfl⟩
    | succ n ih => rw [take_succ_of_next h₀, take_succ_of_next h₁]; simp [ih.1, ih.2]
  refine ⟨?_, rfl⟩
  cases n with
  | zero => rfl
  | succ n => rw [take_succ_of_next hs]; simp [(cycle n).2]

end Bag

end Silk
