import Silk.Plugin.Fields
import Mathlib.Algebra.Order.BigOperators.Group.List
/-! The aggregate value fields of `silk/plugin.py`: `int_agg_conv` and `register_int_aggregator`
with its sum, max and min front ends. The engine folds records into bins with
`add_rec_to_bin` from `initial_value` and combines bins with `bin_merge`, in whatever
partition, order and grouping it likes: a `MergeTree`. Where the codec serves the width, a
bin is the big-endian image of a value in `[0, max]` and a tree's bin is the image of what
the aggregation computes on the values (`Lawful.sim_eval`); on Python 3 a width outside
`struct_map` fails at the first record. -/
namespace Silk
namespace Plugin
open Bytes

/-- The callbacks `register_field` stores for an aggregate value field. -/
structure AggField (R : Type) where
  binToText : List Byte → Except PyError String
  addRecToBin : R → List Byte → Except PyError (List Byte)
  binCompare : List Byte → List Byte → Except PyError Int
  binMerge : List Byte → List Byte → Except PyError (List Byte)
  initialValue : List Byte
  columnWidth : Int
  binBytes : Nat

/-- The keyword arguments of an aggregate field's `register_field` call, in the order of the
call. -/
def AggField.kwds {R : Type} (f : AggField R) : List (String × Value) :=
  [("bin_to_text", .fn 1), ("add_rec_to_bin", .fn 2), ("bin_compare", .fn 2), ("bin_merge", .fn 2),
   ("initial_value", .bytes f.initialValue), ("column_width", .int f.columnWidth),
   ("bin_bytes", .int f.binBytes)]

/-- Under a new name, `register_field` takes an aggregate field exactly when its width and its
`bin_bytes` are positive; otherwise its check raises `ValueError`. -/
theorem AggField.register_eq {R : Type} {py : Python} {name : Value} {data : List Entry}
    (h : NewName py name data) (f : AggField R) : ∃ n, registerCallbacks py name f f.kwds data =
      if 1 ≤ f.columnWidth ∧ 1 ≤ f.binBytes then .ok (f, data ++ [⟨setitem f.kwds "name" n, false⟩])
      else .error .valueError := by
  obtain ⟨n, hn⟩ := @registerCallbacks_eq _ py name data h f f.kwds (by simp [AggField.kwds])
  refine ⟨n, hn.trans ?_⟩
  by_cases h1 : 1 ≤ f.columnWidth <;> by_cases h2 : 1 ≤ f.binBytes <;>
    simp [AggField.kwds, checkType, checkArg_fn, checkArg_bytes, checkArg_positive, pluginNames,
      List.lookup_cons, h1, h2]

theorem AggField.register_ok {R : Type} {py : Python} {name : Value} {data : List Entry}
    (h : NewName py name data) {f : AggField R} (hw : 1 ≤ f.columnWidth) (hb : 1 ≤ f.binBytes) :
    ∃ d, registerCallbacks py name f f.kwds data = .ok (f, d) := by
  obtain ⟨n, hn⟩ := AggField.register_eq h f
  exact ⟨_, by rw [hn, if_pos ⟨hw, hb⟩]⟩

/-- The width `len(str(max))` taken when none is given is positive. -/
theorem one_le_width_getD {width : Option Int} (hw : ∀ w, width = some w → 1 ≤ w) (n : Nat) :
    1 ≤ width.getD (toString n).length := by
  cases width with
  | none => have := toString_nat_length_pos n; simp only [Option.getD_none]; omega
  | some w => exact hw w rfl

/-- `int_agg_conv(fn, max, name, agg)`. `max` is a natural number: on a negative one
`bytes_for_val` never returns. `name` only enters `sum`'s error message. -/
structure IntAggConv (R : Type) where
  bytes : Nat
  fn : R → Int
  maxval : Nat
  /-- the `agg` argument; `None` makes `self.agg` the conversion's own `sum` -/
  aggArg : Option (Int → Int → Except PyError Int)

def intAggConv {R : Type} (fn : R → Int) (max : Nat) (agg : Option (Int → Int → Except PyError Int)) :
    IntAggConv R :=
  { bytes := bytesForVal max, fn, maxval := max, aggArg := agg }

namespace IntAggConv
variable {R : Type} (py : Python) (c : IntAggConv R)

def sum (a b : Int) : Except PyError Int :=
  if a + b > c.maxval then .error .overflowError else .ok (a + b)

/-- `self.agg`. -/
def agg : Int → Int → Except PyError Int := c.aggArg.getD c.sum

def addRecToBin (rec : R) (bin : List Byte) : Except PyError (List Byte) := do
  let newval ← c.agg (← binToInt py bin c.bytes) (c.fn rec)
  intToBin py newval c.bytes

def binCompare (b1 b2 : List Byte) : Except PyError Int := do
  let n1 ← binToInt py b1 c.bytes
  let n2 ← binToInt py b2 c.bytes
  pure ((if n1 > n2 then 1 else 0) - (if n1 < n2 then 1 else 0))

def binMerge (b1 b2 : List Byte) : Except PyError (List Byte) := do
  let newval ← c.agg (← binToInt py b1 c.bytes) (← binToInt py b2 c.bytes)
  intToBin py newval c.bytes

def binToText (bin : List Byte) : Except PyError String := toString <$> binToInt py bin c.bytes

def binInitial (max : Bool) : Except PyError (List Byte) :=
  intToBin py (if max then c.maxval else 0) c.bytes

/-- The keyword arguments `register_int_aggregator` passes to `register_field`, once `init`
is settled. -/
def field (init : List Byte) (width : Int) : AggField R :=
  { binToText := c.binToText py, addRecToBin := c.addRecToBin py, binCompare := c.binCompare py,
    binMerge := c.binMerge py, initialValue := init, columnWidth := width, binBytes := c.bytes }

end IntAggConv

/-- The `init` argument of `register_int_aggregator` when one is given: the string
`"__maxval__"`, or any other value, which must be a bin. -/
inductive AggInit
  | maxval
  | bin (b : List Byte)

/-- `register_int_aggregator(name, int_function, max, width, agg=None, init=None)` on
`_plugin_data`. -/
def registerIntAggregator {R : Type} (py : Python) (name : Value) (intFunction : R → Int) (max : Nat)
    (width : Option Int) (agg : Option (Int → Int → Except PyError Int)) (init : Option AggInit)
    (data : List Entry) : Except PyError (AggField R × List Entry) := do
  let conv := intAggConv intFunction max agg
  let bytes := bytesForVal max
  let width := width.getD (toString conv.maxval).length
  let init ← match init with
    | none => conv.binInitial py false
    | some .maxval => conv.binInitial py true
    | some (.bin b) => if b.length ≠ bytes then .error .valueError else .ok b
  registerCallbacks py name (conv.field py init width) (conv.field py init width).kwds data

/-- `max64`, the front ends' default `max`. -/
def max64 : Nat := 2^64 - 1

def registerIntSumAggregator {R : Type} (py : Python) (name : Value) (intFunction : R → Int)
    (max : Nat) (width : Option Int) (data : List Entry) : Except PyError (AggField R × List Entry) :=
  registerIntAggregator py name intFunction max width none none data

/-- With `maxfn`, the builtin `max`. -/
def registerIntMaxAggregator {R : Type} (py : Python) (name : Value) (intFunction : R → Int)
    (max : Nat) (width : Option Int) (data : List Entry) : Except PyError (AggField R × List Entry) :=
  registerIntAggregator py name intFunction max width (some fun a b => .ok (Max.max a b)) none data

/-- With the builtin `min`, from `"__maxval__"`. -/
def registerIntMinAggregator {R : Type} (py : Python) (name : Value) (intFunction : R → Int)
    (max : Nat) (width : Option Int) (data : List Entry) : Except PyError (AggField R × List Entry) :=
  registerIntAggregator py name intFunction max width (some fun a b => .ok (Min.min a b)) (some .maxval)
    data

/-! ### The engine -/

/-- How the engine may have built a bin from a multiset of records: a leaf folds its records,
in its order, into `initial_value` with `add_rec_to_bin`; a node `bin_merge`s two bins. Every
partition of the records, order within the parts and grouping of the merges is a tree. -/
inductive MergeTree (R : Type)
  | leaf (recs : List R)
  | merge (l r : MergeTree R)

namespace MergeTree
variable {R : Type}

def records : MergeTree R → List R
  | .leaf recs => recs
  | .merge l r => l.records ++ r.records

/-- What a tree computes on plain values with the aggregation `g` from `init`. -/
def value (g : Int → Int → Except PyError Int) (init : Int) (fn : R → Int) :
    MergeTree R → Except PyError Int
  | .leaf recs => recs.foldlM (fun a rec => g a (fn rec)) init
  | .merge l r => do g (← l.value g init fn) (← r.value g init fn)

end MergeTree

/-- The engine's bin for a tree. -/
def AggField.eval {R : Type} (f : AggField R) : MergeTree R → Except PyError (List Byte)
  | .leaf recs => recs.foldlM (fun bin rec => f.addRecToBin rec bin) f.initialValue
  | .merge l r => do f.binMerge (← f.eval l) (← f.eval r)

/-! ### Bins simulate values -/

/-- An aggregation keeps values in `[0, max]`. -/
def Closed (max : Nat) (g : Int → Int → Except PyError Int) : Prop :=
  ∀ a b v : Int, 0 ≤ a → a ≤ max → 0 ≤ b → b ≤ max → g a b = .ok v → 0 ≤ v ∧ v ≤ max

namespace IntAggConv
variable {R : Type} {py : Python} (c : IntAggConv R)

/-- The bin of a value. -/
def binOf (v : Int) : List Byte := toBE c.bytes v.toNat

/-- What the law needs of a conversion: `max` fits its width, the codec serves that width,
and the aggregation keeps values in `[0, max]`. -/
structure Lawful (py : Python) (c : IntAggConv R) : Prop where
  fits : c.maxval < 256 ^ c.bytes
  pos : 0 < c.bytes
  served : Served py c.bytes
  closed : Closed c.maxval c.agg

/-- The byte-level result `e` simulates the value-level `x`: the same exception, or the bin
of the same value, which lies in `[0, max]`. -/
def Sim : Except PyError (List Byte) → Except PyError Int → Prop
  | e, .ok v => (0 ≤ v ∧ v ≤ c.maxval) ∧ e = .ok (c.binOf v)
  | e, .error err => e = .error err

theorem Sim.bind {c : IntAggConv R} {e : Except PyError (List Byte)} {x : Except PyError Int}
    {f : List Byte → Except PyError (List Byte)} {g : Int → Except PyError Int} (h : c.Sim e x)
    (hfg : ∀ v : Int, 0 ≤ v ∧ v ≤ c.maxval → c.Sim (f (c.binOf v)) (g v)) : c.Sim (e >>= f) (x >>= g) := by
  cases x with
  | error err => obtain rfl : e = .error err := h; rfl
  | ok v => obtain ⟨hv, rfl⟩ := h; exact hfg v hv

variable {c}

theorem Lawful.intToBin_eq (hc : c.Lawful py) {v : Int} (hv : 0 ≤ v ∧ v ≤ c.maxval) :
    intToBin py v c.bytes = .ok (c.binOf v) := by
  have hlt : v.toNat < 256 ^ c.bytes := by have := hc.fits; omega
  rw [binOf, ← intToBin_served hc.served hlt, Int.toNat_of_nonneg hv.1]

theorem Lawful.binToInt_eq (hc : c.Lawful py) {b : List Byte} (hb : b.length = c.bytes) :
    binToInt py b c.bytes = .ok (ofBE b) := by
  conv_lhs => rw [← toBE_ofBE b, hb]
  exact binToInt_served hc.pos hc.served (hb ▸ ofBE_lt b)

theorem Lawful.binToInt_binOf (hc : c.Lawful py) {v : Int} (hv : 0 ≤ v ∧ v ≤ c.maxval) :
    binToInt py (c.binOf v) c.bytes = .ok v.toNat := by
  have hlt : v.toNat < 256 ^ c.bytes := by have := hc.fits; omega
  exact binToInt_served hc.pos hc.served hlt

theorem Lawful.sim_agg (hc : c.Lawful py) {a b : Int} (ha : 0 ≤ a ∧ a ≤ c.maxval)
    (hb : 0 ≤ b ∧ b ≤ c.maxval) : c.Sim (c.agg a b >>= fun v => intToBin py v c.bytes) (c.agg a b) := by
  cases h : c.agg a b with
  | error err => rfl
  | ok v =>
    have hv := hc.closed a b v ha.1 ha.2 hb.1 hb.2 h
    exact ⟨hv, hc.intToBin_eq hv⟩

theorem Lawful.sim_addRecToBin (hc : c.Lawful py) {a : Int} (ha : 0 ≤ a ∧ a ≤ c.maxval) {rec : R}
    (hr : 0 ≤ c.fn rec ∧ c.fn rec ≤ c.maxval) :
    c.Sim (c.addRecToBin py rec (c.binOf a)) (c.agg a (c.fn rec)) := by
  simpa only [addRecToBin, hc.binToInt_binOf ha, bind, Except.bind, Int.toNat_of_nonneg ha.1]
    using hc.sim_agg ha hr

theorem Lawful.sim_binMerge (hc : c.Lawful py) {a b : Int} (ha : 0 ≤ a ∧ a ≤ c.maxval)
    (hb : 0 ≤ b ∧ b ≤ c.maxval) : c.Sim (c.binMerge py (c.binOf a) (c.binOf b)) (c.agg a b) := by
  simpa only [binMerge, hc.binToInt_binOf ha, hc.binToInt_binOf hb, bind, Except.bind,
    Int.toNat_of_nonneg ha.1, Int.toNat_of_nonneg hb.1] using hc.sim_agg ha hb

/-- A leaf: folding records into a bin simulates folding their values. -/
theorem Lawful.sim_foldRecs (hc : c.Lawful py) (recs : List R)
    (hr : ∀ r ∈ recs, 0 ≤ c.fn r ∧ c.fn r ≤ c.maxval) {a : Int} (ha : 0 ≤ a ∧ a ≤ c.maxval) :
    c.Sim (recs.foldlM (fun bin rec => c.addRecToBin py rec bin) (c.binOf a))
      (recs.foldlM (fun a rec => c.agg a (c.fn rec)) a) := by
  induction recs generalizing a with
  | nil => exact ⟨ha, rfl⟩
  | cons r rs ih =>
    exact (hc.sim_addRecToBin ha (hr r (.head _))).bind fun v hv =>
      ih (fun r' h => hr r' (.tail _ h)) hv

/-- The engine's bin for every tree simulates the tree's value. -/
theorem Lawful.sim_eval (hc : c.Lawful py) {init : Int} (hi : 0 ≤ init ∧ init ≤ c.maxval)
    (width : Int) (t : MergeTree R) (ht : ∀ r ∈ t.records, 0 ≤ c.fn r ∧ c.fn r ≤ c.maxval) :
    c.Sim ((c.field py (c.binOf init) width).eval t) (t.value c.agg init c.fn) := by
  induction t with
  | leaf recs => exact hc.sim_foldRecs recs ht hi
  | merge l r ihl ihr =>
    have hl := ihl fun x hx => ht x (List.mem_append_left _ hx)
    have hr := ihr fun x hx => ht x (List.mem_append_right _ hx)
    exact hl.bind fun a ha => hr.bind fun b hb => hc.sim_binMerge ha hb

theorem Lawful.binInitial_eq (hc : c.Lawful py) (m : Bool) :
    c.binInitial py m = .ok (c.binOf (if m then c.maxval else 0)) := by
  cases m <;> exact hc.intToBin_eq (by simp)

/-- Without `init`, or with `"__maxval__"`, the registration registers the field over what
`bin_initial` makes. -/
theorem registerIntAggregator_eq (py : Python) (name : Value) (fn : R → Int) (max : Nat)
    (width : Option Int) (agg : Option (Int → Int → Except PyError Int)) {init : Option AggInit}
    {m : Bool} (hm : init = none ∧ m = false ∨ init = some .maxval ∧ m = true) (data : List Entry) :
    registerIntAggregator py name fn max width agg init data =
      (intAggConv fn max agg).binInitial py m >>= fun b =>
        registerCallbacks py name ((intAggConv fn max agg).field py b (width.getD (toString max).length))
          ((intAggConv fn max agg).field py b (width.getD (toString max).length)).kwds data := by
  rcases hm with ⟨rfl, rfl⟩ | ⟨rfl, rfl⟩ <;> rfl

theorem Lawful.register_eq {fn : R → Int} {max : Nat} {agg : Option (Int → Int → Except PyError Int)}
    (hc : (intAggConv fn max agg).Lawful py) {name : Value} {data : List Entry}
    (hname : NewName py name data) {width : Option Int} (hw : ∀ w, width = some w → 1 ≤ w)
    {init : Option AggInit} {v : Int} (hv : init = none ∧ v = 0 ∨ init = some .maxval ∧ v = max) :
    ∃ d, registerIntAggregator py name fn max width agg init data = .ok ((intAggConv fn max agg).field py
      ((intAggConv fn max agg).binOf v) (width.getD (toString max).length), d) := by
  have hreg := AggField.register_ok hname (f := (intAggConv fn max agg).field py
    ((intAggConv fn max agg).binOf v) (width.getD (toString max).length)) (one_le_width_getD hw max)
    (by simpa [IntAggConv.field] using hc.pos)
  rcases hv with ⟨rfl, rfl⟩ | ⟨rfl, rfl⟩
  · rw [registerIntAggregator_eq py name fn max width agg (.inl ⟨rfl, rfl⟩), hc.binInitial_eq]
    exact hreg
  · rw [registerIntAggregator_eq py name fn max width agg (.inr ⟨rfl, rfl⟩), hc.binInitial_eq]
    exact hreg

end IntAggConv

/-- A field's bins of `bin_bytes` bytes read back as the big-endian value they hold, and
`bin_compare` is the sign of the difference of those values. -/
def AggField.Decodes {R : Type} (f : AggField R) : Prop :=
  ∀ b₁ b₂, b₁.length = f.binBytes → b₂.length = f.binBytes →
    f.binToText b₁ = .ok (toString (ofBE b₁)) ∧
      f.binCompare b₁ b₂ = .ok ((ofBE b₁ : Int) - ofBE b₂).sign

theorem sub_ite_eq_sign (a b : Nat) :
    ((if a > b then 1 else 0) - (if a < b then 1 else 0) : Int) = ((a : Int) - b).sign := by
  split_ifs with h₁ h₂ h₂
  · omega
  · rw [Int.sign_eq_one_of_pos (by omega)]; rfl
  · rw [Int.sign_eq_neg_one_of_neg (by omega)]; rfl
  · rw [show (a : Int) - b = 0 by omega]; rfl

theorem IntAggConv.Lawful.decodes {R : Type} {py : Python} {c : IntAggConv R} (hc : c.Lawful py)
    (init : List Byte) (width : Int) : (c.field py init width).Decodes := fun b₁ b₂ h₁ h₂ =>
  ⟨by simp only [IntAggConv.field, IntAggConv.binToText, hc.binToInt_eq h₁]; rfl,
    by simp only [IntAggConv.field, IntAggConv.binCompare, hc.binToInt_eq h₁, hc.binToInt_eq h₂,
      bind, Except.bind, pure, Except.pure, sub_ite_eq_sign]⟩

/-! ### What the three aggregations compute -/

/-- `op` is associative, keeps `S`, and has `e ∈ S` for identity on `S`: `max` on `[0, max]`
with `0`, and `min` with `max`. -/
structure IdOp (op : Int → Int → Int) (S : Int → Prop) (e : Int) : Prop where
  mem : S e
  closed : ∀ a b, S a → S b → S (op a b)
  assoc : ∀ a b c, op (op a b) c = op a (op b c)
  left_id : ∀ a, S a → op e a = a
  right_id : ∀ a, S a → op a e = a

namespace IdOp
variable {op : Int → Int → Int} {S : Int → Prop} {e : Int}

theorem foldl_mem (h : IdOp op S e) {xs : List Int} (hx : ∀ x ∈ xs, S x) {a : Int} (ha : S a) :
    S (xs.foldl op a) := by
  induction xs generalizing a with
  | nil => exact ha
  | cons x xs ih => exact ih (fun y hy => hx y (.tail _ hy)) (h.closed _ _ ha (hx x (.head _)))

/-- A fold from `a` is `a` combined with the fold from the identity. -/
theorem foldl_eq (h : IdOp op S e) {xs : List Int} (hx : ∀ x ∈ xs, S x) {a : Int} (ha : S a) :
    xs.foldl op a = op a (xs.foldl op e) := by
  induction xs generalizing a with
  | nil => exact (h.right_id a ha).symm
  | cons x xs ih =>
    have hx' : ∀ y ∈ xs, S y := fun y hy => hx y (.tail _ hy)
    have hxS := hx x (.head _)
    calc (x :: xs).foldl op a = op (op a x) (xs.foldl op e) := ih hx' (h.closed _ _ ha hxS)
      _ = op a (op x (xs.foldl op e)) := h.assoc _ _ _
      _ = op a ((x :: xs).foldl op e) := by rw [List.foldl_cons, h.left_id x hxS, ih hx' hxS]

theorem closed_ok {max : Nat} (h : IdOp op (fun v => 0 ≤ v ∧ v ≤ max) e) :
    Closed max fun a b => .ok (op a b) := by
  rintro a b v ha ha' hb hb' ⟨⟩
  exact h.closed a b ⟨ha, ha'⟩ ⟨hb, hb'⟩

end IdOp

theorem idOp_max (max : Nat) : IdOp Max.max (fun v => 0 ≤ v ∧ v ≤ max) 0 :=
  ⟨by omega, fun _ _ _ _ => by omega, max_assoc, fun _ _ => by omega, fun _ _ => by omega⟩

theorem idOp_min (max : Nat) : IdOp Min.min (fun v => 0 ≤ v ∧ v ≤ max) max :=
  ⟨by omega, fun _ _ _ _ => by omega, min_assoc, fun _ _ => by omega, fun _ _ => by omega⟩

namespace MergeTree
variable {R : Type} (fn : R → Int)

theorem foldlM_ok (op : Int → Int → Int) (recs : List R) (a : Int) :
    recs.foldlM (fun a rec => (.ok (op a (fn rec)) : Except PyError Int)) a =
      .ok ((recs.map fn).foldl op a) := by
  induction recs generalizing a with
  | nil => rfl
  | cons r rs ih => exact ih _

/-- With an operation that cannot fail, a tree computes the fold of all its values. -/
theorem value_op {op : Int → Int → Int} {S : Int → Prop} {e : Int} (h : IdOp op S e)
    (t : MergeTree R) (ht : ∀ r ∈ t.records, S (fn r)) :
    t.value (fun a b => .ok (op a b)) e fn = .ok ((t.records.map fn).foldl op e) := by
  induction t with
  | leaf recs => exact foldlM_ok fn op recs e
  | merge l r ihl ihr =>
    have hl : ∀ x ∈ l.records, S (fn x) := fun x hx => ht x (List.mem_append_left _ hx)
    have hr : ∀ x ∈ r.records, S (fn x) := fun x hx => ht x (List.mem_append_right _ hx)
    rw [value, ihl hl, ihr hr, records, List.map_append, List.foldl_append,
      h.foldl_eq (List.forall_mem_map.2 hr) (h.foldl_mem (List.forall_mem_map.2 hl) h.mem)]
    rfl

end MergeTree

namespace IntAggConv
variable {R : Type} (c : IntAggConv R)

theorem foldlM_sum (recs : List R) (hr : ∀ r ∈ recs, 0 ≤ c.fn r) {a : Int} (ha : a ≤ c.maxval) :
    recs.foldlM (fun a rec => c.sum a (c.fn rec)) a =
      if a + (recs.map c.fn).sum > c.maxval then .error .overflowError
      else .ok (a + (recs.map c.fn).sum) := by
  induction recs generalizing a with
  | nil => rw [List.foldlM_nil, List.map_nil, List.sum_nil, add_zero, if_neg (by omega)]; rfl
  | cons r rs ih =>
    have hr' : ∀ r ∈ rs, 0 ≤ c.fn r := fun r' h => hr r' (.tail _ h)
    have hrest : 0 ≤ (rs.map c.fn).sum := List.sum_nonneg (List.forall_mem_map.2 hr')
    have hfr := hr r (.head _)
    rw [List.foldlM_cons, List.map_cons, List.sum_cons, IntAggConv.sum]
    by_cases h : a + c.fn r > c.maxval
    · rw [if_pos h, if_pos (by omega)]; rfl
    · rw [if_neg h, ← add_assoc]; exact ih hr' (by omega)

/-- The sum of a tree overflows exactly when the total of its values exceeds `max`. -/
theorem value_sum (t : MergeTree R) (ht : ∀ r ∈ t.records, 0 ≤ c.fn r) :
    t.value c.sum 0 c.fn = if (t.records.map c.fn).sum > c.maxval then .error .overflowError
      else .ok (t.records.map c.fn).sum := by
  induction t with
  | leaf recs => simpa [MergeTree.value, MergeTree.records] using c.foldlM_sum recs ht (by omega : (0 : Int) ≤ c.maxval)
  | merge l r ihl ihr =>
    have hl := fun x hx => ht x (List.mem_append_left _ hx)
    have hr := fun x hx => ht x (List.mem_append_right _ hx)
    have hl0 : 0 ≤ (l.records.map c.fn).sum := List.sum_nonneg (List.forall_mem_map.2 hl)
    have hr0 : 0 ≤ (r.records.map c.fn).sum := List.sum_nonneg (List.forall_mem_map.2 hr)
    rw [MergeTree.value, ihl hl, ihr hr, MergeTree.records, List.map_append, List.sum_append]
    generalize (l.records.map c.fn).sum = a at *
    generalize (r.records.map c.fn).sum = b at *
    by_cases ha : a > c.maxval
    · rw [if_pos ha, if_pos (show a + b > (c.maxval : Int) by omega)]; rfl
    · by_cases hb : b > c.maxval
      · rw [if_neg ha, if_pos hb, if_pos (show a + b > (c.maxval : Int) by omega)]; rfl
      · rw [if_neg ha, if_neg hb]; rfl

end IntAggConv

/-! ### The law, and where it breaks -/

theorem lawful_intAggConv {R : Type} {py : Python} (fn : R → Int) {max : Nat}
    {agg : Option (Int → Int → Except PyError Int)} (hmax : 1 ≤ max)
    (hs : Served py (bytesForVal max)) (hg : Closed max (intAggConv fn max agg).agg) :
    (intAggConv fn max agg).Lawful py :=
  ⟨lt_pow_bytesForVal max, bytesForVal_pos hmax, hs, hg⟩

theorem closed_sum {R : Type} (fn : R → Int) (max : Nat) : Closed max (intAggConv fn max none).agg := by
  intro a b v ha _ hb _ h
  simp only [IntAggConv.agg, intAggConv, Option.getD, IntAggConv.sum] at h
  split at h
  · cases h
  · cases h; omega

theorem IntAggConv.Lawful.eval_eq_ok {R : Type} {py : Python} {c : IntAggConv R} (hc : c.Lawful py)
    {init : Int} (hi : 0 ≤ init ∧ init ≤ c.maxval) (width : Int) {t : MergeTree R}
    (ht : ∀ r ∈ t.records, 0 ≤ c.fn r ∧ c.fn r ≤ c.maxval) {v : Int}
    (hv : t.value c.agg init c.fn = .ok v) : (c.field py (c.binOf init) width).eval t = .ok (c.binOf v) := by
  have h := hc.sim_eval hi width t ht
  rw [hv] at h
  exact h.2

/-- The sum, max and min aggregators, registered under a new name at every width the codec
serves: however the engine partitions, orders and groups the records, the bin it ends with
holds their sum (or the engine meets `OverflowError`, exactly when that sum exceeds `max`),
their maximum (0 for none) or their minimum (`max` for none); and bins decode and compare as
their values. -/
theorem int_aggregators_law {R : Type} (py : Python) (fn : R → Int) {max : Nat} (hmax : 1 ≤ max)
    (hs : Served py (bytesForVal max)) {name : Value} {data : List Entry}
    (hname : NewName py name data) {width : Option Int} (hw : ∀ w, width = some w → 1 ≤ w) :
    (∃ f d, registerIntSumAggregator py name fn max width data = .ok (f, d) ∧ f.Decodes ∧
      ∀ t : MergeTree R, (∀ r ∈ t.records, 0 ≤ fn r ∧ fn r ≤ max) →
        f.eval t = if (t.records.map fn).sum > max then .error .overflowError
          else .ok (toBE f.binBytes (t.records.map fn).sum.toNat)) ∧
    (∃ f d, registerIntMaxAggregator py name fn max width data = .ok (f, d) ∧ f.Decodes ∧
      ∀ t : MergeTree R, (∀ r ∈ t.records, 0 ≤ fn r ∧ fn r ≤ max) →
        f.eval t = .ok (toBE f.binBytes ((t.records.map fn).foldl Max.max 0).toNat)) ∧
    (∃ f d, registerIntMinAggregator py name fn max width data = .ok (f, d) ∧ f.Decodes ∧
      ∀ t : MergeTree R, (∀ r ∈ t.records, 0 ≤ fn r ∧ fn r ≤ max) →
        f.eval t = .ok (toBE f.binBytes ((t.records.map fn).foldl Min.min (max : Int)).toNat)) := by
  have hsum := lawful_intAggConv fn hmax hs (closed_sum fn max)
  have hmx : (intAggConv fn max (some fun a b => .ok (Max.max a b))).Lawful py :=
    lawful_intAggConv fn hmax hs (idOp_max max).closed_ok
  have hmn : (intAggConv fn max (some fun a b => .ok (Min.min a b))).Lawful py :=
    lawful_intAggConv fn hmax hs (idOp_min max).closed_ok
  obtain ⟨d₁, h₁⟩ := hsum.register_eq hname hw (.inl ⟨rfl, rfl⟩)
  obtain ⟨d₂, h₂⟩ := hmx.register_eq hname hw (.inl ⟨rfl, rfl⟩)
  obtain ⟨d₃, h₃⟩ := hmn.register_eq hname hw (.inr ⟨rfl, rfl⟩)
  refine ⟨⟨_, d₁, h₁, hsum.decodes _ _, fun t ht => ?_⟩, ⟨_, d₂, h₂, hmx.decodes _ _, fun t ht => ?_⟩,
    ⟨_, d₃, h₃, hmn.decodes _ _, fun t ht => ?_⟩⟩
  · have h := hsum.sim_eval ⟨le_rfl, by omega⟩ (width.getD (toString max).length) t ht
    have hv := IntAggConv.value_sum (intAggConv fn max none) t fun r hr => (ht r hr).1
    dsimp only [intAggConv, IntAggConv.agg, Option.getD] at h hv
    rw [hv] at h
    split_ifs at h ⊢
    exacts [h, h.2]
  · exact hmx.eval_eq_ok ⟨le_rfl, by omega⟩ _ ht (MergeTree.value_op fn (idOp_max max) t ht)
  · exact hmn.eval_eq_ok ⟨by omega, le_rfl⟩ _ ht (MergeTree.value_op fn (idOp_min max) t ht)

theorem served_max64 (py : Python) : Served py (bytesForVal max64) := by
  right
  rw [max64, bytesForVal_eq (k := 7) (by norm_num) (by norm_num)]
  rfl

theorem int_aggregators_law_max64 : 1 ≤ max64 ∧ Served .py3 (bytesForVal max64) ∧
    NewName .py3 (.str "bytes") [] ∧ (∀ w, (none : Option Int) = some w → 1 ≤ w) ∧
    ∃ f d, registerIntSumAggregator .py3 (.str "bytes") (fun _ : Unit => (1 : Int)) max64 none [] =
      .ok (f, d) ∧ f.Decodes ∧
      ∀ t : MergeTree Unit, (∀ r ∈ t.records, (0 : Int) ≤ 1 ∧ (1 : Int) ≤ max64) →
        f.eval t = if (t.records.map fun _ => (1 : Int)).sum > max64 then .error .overflowError
          else .ok (toBE f.binBytes (t.records.map fun _ => (1 : Int)).sum.toNat) :=
  ⟨by decide, served_max64 .py3, newName_nil (s := "bytes") _ ⟨_, rfl⟩, fun _ h => Option.noConfusion h,
    (int_aggregators_law .py3 (fun _ : Unit => (1 : Int)) (by decide) (served_max64 .py3)
      (newName_nil (s := "bytes") _ ⟨_, rfl⟩) fun _ h => Option.noConfusion h).1⟩

/-- An unserved width still gives the zero initial value: `int_to_bin(0)` takes no digit. -/
theorem binInitial_unserved {R : Type} (fn : R → Int) {max : Nat}
    (hget : structMapGet (bytesForVal max) = none) (agg : Option (Int → Int → Except PyError Int)) :
    (intAggConv fn max agg).binInitial .py3 false = .ok (List.replicate (bytesForVal max) 0) := by
  simp [IntAggConv.binInitial, intAggConv, intToBin, hget, int2String]

/-- With an unserved width the first record raises: `add_rec_to_bin` reads the bin back
through `bin_to_int`. -/
theorem eval_leaf_unserved {R : Type} (fn : R → Int) {max : Nat}
    (hget : structMapGet (bytesForVal max) = none) (agg : Option (Int → Int → Except PyError Int))
    (w : Int) (rec : R) (recs : List R) :
    ((intAggConv fn max agg).field .py3 (List.replicate (bytesForVal max) 0) w).eval
      (.leaf (rec :: recs)) = .error .typeError := by
  simp only [AggField.eval, IntAggConv.field, List.foldlM_cons, IntAggConv.addRecToBin,
    intAggConv, binToInt_py3_unserved hget, bind, Except.bind]

/-- On Python 3, a `max` whose width `struct_map` lacks (`2^64` up to `2^120`, and from
`2^128` on) breaks every front end: the sum and max aggregators register under a new name
and a positive width, then raise `TypeError` at their first record; the min aggregator raises
it while registering, whatever its name and width. -/
theorem agg_unserved_width_raises {R : Type} (fn : R → Int) {max : Nat} (hmax : 1 ≤ max)
    (hget : structMapGet (bytesForVal max) = none) {name : Value} {data : List Entry}
    (hname : NewName .py3 name data) {width : Option Int} (hw : ∀ w, width = some w → 1 ≤ w) :
    (∃ f d, registerIntSumAggregator .py3 name fn max width data = .ok (f, d) ∧
      ∀ rec recs, f.eval (.leaf (rec :: recs)) = .error .typeError) ∧
    (∃ f d, registerIntMaxAggregator .py3 name fn max width data = .ok (f, d) ∧
      ∀ rec recs, f.eval (.leaf (rec :: recs)) = .error .typeError) ∧
    registerIntMinAggregator .py3 name fn max width data = .error .typeError := by
  have hb : 1 ≤ bytesForVal max := bytesForVal_pos hmax
  obtain ⟨d₁, h₁⟩ := AggField.register_ok hname (one_le_width_getD hw max)
    (f := (intAggConv fn max none).field .py3 (List.replicate (bytesForVal max) 0)
      (width.getD (toString max).length)) (by simpa [IntAggConv.field, intAggConv] using hb)
  obtain ⟨d₂, h₂⟩ := AggField.register_ok hname (one_le_width_getD hw max)
    (f := (intAggConv fn max (some fun a b => .ok (Max.max a b))).field .py3
      (List.replicate (bytesForVal max) 0) (width.getD (toString max).length))
    (by simpa [IntAggConv.field, intAggConv] using hb)
  refine ⟨⟨_, d₁, ?_, eval_leaf_unserved fn hget none (width.getD (toString max).length)⟩,
    ⟨_, d₂, ?_, eval_leaf_unserved fn hget (some fun a b => .ok (Max.max a b))
      (width.getD (toString max).length)⟩, ?_⟩
  · rw [registerIntSumAggregator, IntAggConv.registerIntAggregator_eq .py3 name fn max width _
      (.inl ⟨rfl, rfl⟩), binInitial_unserved fn hget]
    exact h₁
  · rw [registerIntMaxAggregator, IntAggConv.registerIntAggregator_eq .py3 name fn max width _
      (.inl ⟨rfl, rfl⟩), binInitial_unserved fn hget]
    exact h₂
  · rw [registerIntMinAggregator, IntAggConv.registerIntAggregator_eq .py3 name fn max width _
      (.inr ⟨rfl, rfl⟩), IntAggConv.binInitial, if_pos rfl, intAggConv,
      intToBin_py3_unserved hb hget (by omega : (max : Int) ≠ 0)]; rfl

theorem agg_unserved_width_raises_two_pow_64 : 1 ≤ 2^64 ∧ structMapGet (bytesForVal (2^64)) = none ∧
    NewName .py3 (.str "sum") [] ∧ (∀ w, (none : Option Int) = some w → 1 ≤ w) ∧
    (∃ f d, registerIntSumAggregator .py3 (.str "sum") (fun _ : Unit => (1 : Int)) (2^64) none [] =
      .ok (f, d) ∧ ∀ rec recs, f.eval (.leaf (rec :: recs)) = .error .typeError) ∧
    (∃ f d, registerIntMaxAggregator .py3 (.str "sum") (fun _ : Unit => (1 : Int)) (2^64) none [] =
      .ok (f, d) ∧ ∀ rec recs, f.eval (.leaf (rec :: recs)) = .error .typeError) ∧
    registerIntMinAggregator .py3 (.str "sum") (fun _ : Unit => (1 : Int)) (2^64) none [] =
      .error .typeError := by
  have hget : structMapGet (bytesForVal (2^64)) = none := by
    rw [bytesForVal_eq (k := 8) (by norm_num) (by norm_num)]
    rfl
  exact ⟨by decide, hget, newName_nil (s := "sum") _ ⟨_, rfl⟩, fun _ h => Option.noConfusion h,
    agg_unserved_width_raises _ (by decide) hget (newName_nil (s := "sum") _ ⟨_, rfl⟩) fun _ h => Option.noConfusion h⟩

/-- `register_int_field`, `_register_ip_field` and the aggregators hand `column_width` to
`register_field`, whose check raises `ValueError` below 1: under a new name each succeeds exactly
when its width is positive, appending one entry to `_plugin_data`. -/
theorem registration_width_checked {R : Type} (py : Python) {name : Value} {data : List Entry}
    (hname : NewName py name data) (fn : R → Int) {min max : Int} (hle : min ≤ max)
    (addrStr : IPAddr → String) (ip : R → IPAddr) {amax : Nat} (hmax : 1 ≤ amax)
    (hs : Served py (bytesForVal amax)) (w : Int) :
    (∃ n, registerIntField py name fn min max (some w) data =
      if 1 ≤ w then .ok (intField py fn min max (some w),
        data ++ [⟨setitem (intField py fn min max (some w)).kwds "name" n, false⟩])
      else .error .valueError) ∧
    (∃ n, registerIpField py addrStr ip name w data =
      if 1 ≤ w then .ok (ipField py addrStr ip w,
        data ++ [⟨setitem (ipField py addrStr ip w).kwds "name" n, false⟩])
      else .error .valueError) ∧
    (∃ n, registerIntSumAggregator py name fn amax (some w) data =
      if 1 ≤ w then .ok ((intAggConv fn amax none).field py ((intAggConv fn amax none).binOf 0) w,
        data ++ [⟨setitem ((intAggConv fn amax none).field py
          ((intAggConv fn amax none).binOf 0) w).kwds "name" n, false⟩])
      else .error .valueError) := by
  have hsum := lawful_intAggConv fn hmax hs (closed_sum fn amax)
  refine ⟨?_, ?_, ?_⟩
  · obtain ⟨n, hn⟩ := KeyField.register_eq hname (intField py fn min max (some w))
    refine ⟨n, ?_⟩
    rw [registerIntField, if_neg (not_lt.2 hle), hn]
    exact if_congr (and_iff_left (bytesForVal_pos (by omega))) rfl rfl
  · obtain ⟨n, hn⟩ := KeyField.register_eq hname (ipField py addrStr ip w)
    exact ⟨n, hn.trans (if_congr (and_iff_left (by simp [ipField])) rfl rfl)⟩
  · obtain ⟨n, hn⟩ := AggField.register_eq hname
      ((intAggConv fn amax none).field py ((intAggConv fn amax none).binOf 0) w)
    refine ⟨n, ?_⟩
    rw [registerIntSumAggregator, IntAggConv.registerIntAggregator_eq py name fn amax (some w) none
      (.inl ⟨rfl, rfl⟩) data, hsum.binInitial_eq]
    exact hn.trans (if_congr (and_iff_left (by simpa [IntAggConv.field] using hsum.pos)) rfl rfl)

theorem registration_width_checked_zero :
    NewName .py3 (.str "port") [] ∧ (0 : Int) ≤ 65535 ∧ 1 ≤ max64 ∧ Served .py3 (bytesForVal max64) ∧
    ∃ n, registerIntField .py3 (.str "port") (fun _ : Unit => (0 : Int)) 0 65535 (some 0) [] =
      if (1 : Int) ≤ 0 then .ok (intField .py3 (fun _ : Unit => (0 : Int)) 0 65535 (some 0),
        [⟨setitem (intField .py3 (fun _ : Unit => (0 : Int)) 0 65535 (some 0)).kwds "name" n, false⟩])
      else .error .valueError :=
  ⟨newName_nil (s := "port") _ ⟨_, rfl⟩, by decide, by decide, served_max64 .py3,
    (registration_width_checked .py3 (newName_nil (s := "port") _ ⟨_, rfl⟩) (fun _ : Unit => (0 : Int))
      (by decide : (0 : Int) ≤ 65535) (fun _ => "") (fun _ => .v4 0) (by decide : 1 ≤ max64)
      (served_max64 .py3) 0).1⟩

end Plugin

end Silk
