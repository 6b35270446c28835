import Silk.Plugin.Codec
import Silk.Plugin.Register
/-! The convenience key fields of `silk/plugin.py`: `register_int_field` over `int_conv`,
`_register_ip_field`, and `register_enum_field` over the stateful `enum_conv`. Each hands the
callbacks it builds to `register_field`, whose checks it passes through. Records are abstract; a
field sees a record only through the function it was registered with. -/
namespace Silk
namespace Plugin
open Bytes

/-- The callbacks `register_field` stores for a key field. -/
structure KeyField (R : Type) where
  recToText : R → String
  recToBin : R → Except PyError (List Byte)
  binToText : List Byte → Except PyError String
  columnWidth : Int
  binBytes : Nat

/-- The keyword arguments of a key field's `register_field` call, in the order of the call. -/
def KeyField.kwds {R : Type} (f : KeyField R) : List (String × Value) :=
  [("rec_to_text", .fn 1), ("rec_to_bin", .fn 1), ("bin_to_text", .fn 1),
   ("column_width", .int f.columnWidth), ("bin_bytes", .int f.binBytes)]

/-- Under a new name, `register_field` takes a key field exactly when its width and its
`bin_bytes` are positive; otherwise its check raises `ValueError`. -/
theorem KeyField.register_eq {R : Type} {py : Python} {name : Value} {data : List Entry}
    (h : NewName py name data) (f : KeyField R) : ∃ n, registerCallbacks py name f f.kwds data =
      if 1 ≤ f.columnWidth ∧ 1 ≤ f.binBytes then .ok (f, data ++ [⟨setitem f.kwds "name" n, false⟩])
      else .error .valueError := by
  obtain ⟨n, hn⟩ := @registerCallbacks_eq _ py name data h f f.kwds (by simp [KeyField.kwds])
  refine ⟨n, hn.trans ?_⟩
  by_cases h1 : 1 ≤ f.columnWidth <;> by_cases h2 : 1 ≤ f.binBytes <;>
    simp [KeyField.kwds, checkType, checkArg_fn, checkArg_positive, pluginNames, List.lookup_cons, h1, h2]

theorem KeyField.register_ok {R : Type} {py : Python} {name : Value} {data : List Entry}
    (h : NewName py name data) {f : KeyField R} (hw : 1 ≤ f.columnWidth) (hb : 1 ≤ f.binBytes) :
    ∃ d, registerCallbacks py name f f.kwds data = .ok (f, d) := by
  obtain ⟨n, hn⟩ := KeyField.register_eq h f
  exact ⟨_, by rw [hn, if_pos ⟨hw, hb⟩]⟩

/-! ### `int_conv` -/

/-- `bytes_for_val(num)`: how many `n >>= 8` steps bring `num` to zero. -/
def bytesForVal (num : Nat) : Nat := if num = 0 then 0 else bytesForVal (num >>> 8) + 1
termination_by num
decreasing_by rw [Nat.shiftRight_eq_div_pow]; omega

theorem lt_pow_bytesForVal (n : Nat) : n < 256 ^ bytesForVal n := by
  induction n using Nat.strong_induction_on with
  | _ n ih =>
    rw [bytesForVal]
    split
    · omega
    · have h := ih (n >>> 8) (by rw [Nat.shiftRight_eq_div_pow]; omega)
      rw [Nat.shiftRight_eq_div_pow] at h ⊢
      rw [Nat.pow_succ]; omega

@[simp] theorem bytesForVal_zero : bytesForVal 0 = 0 := by rw [bytesForVal]; rfl

theorem bytesForVal_of_pos {n : Nat} (h : 0 < n) : bytesForVal n = bytesForVal (n / 256) + 1 := by
  rw [bytesForVal, if_neg (by omega), Nat.shiftRight_eq_div_pow]

theorem bytesForVal_pos {n : Nat} (h : 0 < n) : 0 < bytesForVal n := by
  rw [bytesForVal_of_pos h]; omega

/-- `bytes_for_val` is the number of base-256 digits. -/
theorem bytesForVal_eq {n k : Nat} (h₁ : 256 ^ k ≤ n) (h₂ : n < 256 ^ (k + 1)) :
    bytesForVal n = k + 1 := by
  induction k generalizing n with
  | zero =>
    rw [bytesForVal_of_pos (by simpa using h₁), Nat.div_eq_of_lt (by simpa using h₂), bytesForVal_zero]
  | succ k ih =>
    rw [bytesForVal_of_pos (lt_of_lt_of_le (by positivity) h₁), ih]
    · exact (Nat.le_div_iff_mul_le (by norm_num)).2 (by rwa [← pow_succ])
    · exact (Nat.div_lt_iff_lt_mul (by norm_num)).2 (by rwa [← pow_succ])

/-- `int_conv(fn, min, max)`. `register_int_field` builds one only when `min <= max`, so
`range = max - min + 1` is positive. -/
structure IntConv (R : Type) where
  fn : R → Int
  min : Int
  bytes : Nat

def intConv {R : Type} (fn : R → Int) (min max : Int) : IntConv R :=
  { fn, min, bytes := bytesForVal (max - min + 1).toNat }

namespace IntConv
variable {R : Type} (py : Python) (c : IntConv R)

def recToBin (rec : R) : Except PyError (List Byte) := intToBin py (c.fn rec - c.min) c.bytes

def recToText (rec : R) : String := toString (c.fn rec)

def binToText (bin : List Byte) : Except PyError String := toString <$> binToInt py bin c.bytes

end IntConv

/-- The callbacks `register_int_field` builds, with the width `len(str(max))` by default. -/
def intField {R : Type} (py : Python) (intFunction : R → Int) (min max : Int) (width : Option Int) :
    KeyField R :=
  let conv := intConv intFunction min max
  { recToText := conv.recToText, recToBin := conv.recToBin py, binToText := conv.binToText py,
    columnWidth := width.getD (toString max).length, binBytes := conv.bytes }

/-- `register_int_field(name, int_function, min, max, width=None)` on `_plugin_data`. -/
def registerIntField {R : Type} (py : Python) (name : Value) (intFunction : R → Int) (min max : Int)
    (width : Option Int) (data : List Entry) : Except PyError (KeyField R × List Entry) :=
  if min > max then .error .valueError else
  registerCallbacks py name (intField py intFunction min max width)
    (intField py intFunction min max width).kwds data

section IntField
variable {R : Type} (py : Python) (fn : R → Int) (min max : Int)

theorem offset_lt {v : Int} (hlo : min ≤ v) (hhi : v ≤ max) :
    (v - min).toNat < 256 ^ bytesForVal (max - min + 1).toNat :=
  lt_of_lt_of_le (by omega) (Nat.le_of_lt_succ (Nat.lt_succ_of_lt (lt_pow_bytesForVal _)))

theorem intConv_recToBin {rec : R} (hlo : min ≤ fn rec) (hhi : fn rec ≤ max)
    (hs : Served py (bytesForVal (max - min + 1).toNat)) :
    (intConv fn min max).recToBin py rec =
      .ok (toBE (bytesForVal (max - min + 1).toNat) (fn rec - min).toNat) := by
  rw [IntConv.recToBin, intConv, ← intToBin_served hs (offset_lt min max hlo hhi),
    Int.toNat_of_nonneg (by omega)]

/-- With `min <= max` and the default width, the field is registered under any new name. -/
theorem registerIntField_ok (hle : min ≤ max) {name : Value} {data : List Entry}
    (hname : NewName py name data) :
    ∃ d, registerIntField py name fn min max none data = .ok (intField py fn min max none, d) := by
  rw [registerIntField, if_neg (not_lt.2 hle)]
  exact KeyField.register_ok hname (by have := toString_int_length_pos max; simp [intField]; omega)
    (bytesForVal_pos (by omega))

/-- What `register_int_field` computes for records in range: bins of `bin_bytes` bytes that
hold `int_function(rec) - min`, ordered as the values, and read back as the text of that
offset. -/
theorem registerIntField_bins (hle : min ≤ max) (hs : Served py (bytesForVal (max - min + 1).toNat))
    {name : Value} {data : List Entry} (hname : NewName py name data)
    {r₁ r₂ : R} (h₁ : min ≤ fn r₁ ∧ fn r₁ ≤ max) (h₂ : min ≤ fn r₂ ∧ fn r₂ ≤ max) :
    ∃ f d b₁ b₂, registerIntField py name fn min max none data = .ok (f, d) ∧ f.recToBin r₁ = .ok b₁ ∧
      f.recToBin r₂ = .ok b₂ ∧ b₁.length = f.binBytes ∧
      f.binToText b₁ = .ok (toString (fn r₁ - min).toNat) ∧
      (bytesLt b₁ b₂ = true ↔ fn r₁ < fn r₂) := by
  have hpos : 0 < bytesForVal (max - min + 1).toNat := bytesForVal_pos (by omega)
  have e₁ := intConv_recToBin py fn min max h₁.1 h₁.2 hs
  have e₂ := intConv_recToBin py fn min max h₂.1 h₂.2 hs
  obtain ⟨d, hd⟩ := registerIntField_ok py fn min max hle hname
  refine ⟨_, d, _, _, hd, e₁, e₂, length_toBE _ _, ?_, ?_⟩
  · show toString <$> binToInt py _ (bytesForVal (max - min + 1).toNat) = _
    rw [binToInt_served hpos hs (offset_lt min max h₁.1 h₁.2)]; rfl
  · rw [bytesLt_toBE (offset_lt min max h₁.1 h₁.2) (offset_lt min max h₂.1 h₂.2)]
    omega

end IntField

theorem registerIntField_bins_lower_port :
    (0 : Int) ≤ 0xffff ∧ Served .py3 (bytesForVal ((0xffff : Int) - 0 + 1).toNat) ∧
      NewName .py3 (.str "port") [] ∧
      ((0 : Int) ≤ 80 ∧ (80 : Int) ≤ 0xffff) ∧ ((0 : Int) ≤ 443 ∧ (443 : Int) ≤ 0xffff) ∧
      ∃ f d b₁ b₂, registerIntField .py3 (.str "port") (fun r : Int => r) 0 0xffff none [] = .ok (f, d) ∧
        f.recToBin 80 = .ok b₁ ∧ f.recToBin 443 = .ok b₂ ∧ b₁.length = f.binBytes ∧
        f.binToText b₁ = .ok (toString ((80 : Int) - 0).toNat) ∧ (bytesLt b₁ b₂ = true ↔ (80 : Int) < 443) := by
  have hs : Served .py3 (bytesForVal ((0xffff : Int) - 0 + 1).toNat) := by
    right
    rw [show bytesForVal ((0xffff : Int) - 0 + 1).toNat = 3 by
      rw [show ((0xffff : Int) - 0 + 1).toNat = 65536 from rfl]
      simp (disch := decide) [bytesForVal_of_pos]]
    rfl
  have hn : NewName .py3 (.str "port") [] := newName_nil _ ⟨_, rfl⟩
  exact ⟨by norm_num, hs, hn, by norm_num, by norm_num,
    registerIntField_bins .py3 (fun r : Int => r) 0 0xffff (by norm_num) hs hn (by norm_num) (by norm_num)⟩

/-- `register_int_field` with `min = 1` and `max = 10` over a record whose value is 5: its
bin reads back as the text `4`, while its text is `5`. -/
theorem int_field_offset_text (py : Python) :
    ∃ f d, registerIntField py (.str "f") (fun _ : Unit => (5 : Int)) 1 10 none [] = .ok (f, d) ∧
      (f.recToBin ()).bind f.binToText = .ok "4" ∧ f.recToText () = "5" := by
  have hb : bytesForVal ((10 : Int) - 1 + 1).toNat = 1 := by
    rw [show ((10 : Int) - 1 + 1).toNat = 10 from rfl]
    simp (disch := decide) [bytesForVal_of_pos]
  obtain ⟨d, hd⟩ := registerIntField_ok py (fun _ : Unit => (5 : Int)) 1 10 (by norm_num)
    (by cases py <;> exact newName_nil (s := "f") _ ⟨_, rfl⟩)
  refine ⟨_, d, hd, ?_, rfl⟩
  simp only [intField, IntConv.recToBin, IntConv.binToText, intConv, hb]
  cases py <;> rfl

/-! ### `_register_ip_field` -/

/-- An address object of pysilk. -/
inductive IPAddr
  | v4 (a : Fin (2^32))
  | v6 (a : Fin (2^128))
  deriving DecidableEq, Repr

/-- `int(ip)`: an `IPv4Addr` is its 32-bit value. -/
def IPAddr.toInt : IPAddr → Nat
  | .v4 a => a.val
  | .v6 a => a.val

theorem IPAddr.toInt_lt (ip : IPAddr) : ip.toInt < 256^16 := by
  have h4 : (2 : Nat)^32 < 256^16 := by norm_num
  have h6 : (2 : Nat)^128 ≤ 256^16 := by norm_num
  cases ip with
  | v4 a => exact lt_trans a.isLt h4
  | v6 a => exact lt_of_lt_of_le a.isLt h6

/-- `ip.to_ipv6()`: `a.b.c.d` maps to `::ffff:a.b.c.d`. -/
def IPAddr.toIpv6 : IPAddr → IPAddr
  | .v4 a => .v6 ⟨0xffff * 2^32 + a.val, by omega⟩
  | .v6 a => .v6 a

/-- `IPv6Addr.to_ipv4()`: an address exactly on `::ffff:0:0/96`. -/
def ipv6ToIpv4 (a : Fin (2^128)) : Option IPAddr :=
  if a.val / 2^32 = 0xffff then some (.v4 ⟨a.val % 2^32, Nat.mod_lt _ (by decide)⟩) else none

/-- `silk.IPv6Addr(n)` from an integer. -/
def mkIpv6Addr (n : Nat) : Except PyError (Fin (2^128)) :=
  if h : n < 2^128 then .ok ⟨n, h⟩ else .error .valueError

section IpField
variable {R : Type} (py : Python) (addrStr : IPAddr → String) (ipFunction : R → IPAddr)

/-- The `rec_to_bin` of `_register_ip_field`: it computes `to_ipv6()` and then packs the
unconverted `int(ip_function(rec))`. -/
def ipRecToBin (rec : R) : Except PyError (List Byte) :=
  let _ip := (ipFunction rec).toIpv6
  intToBin py (ipFunction rec).toInt 16

/-- The `bin_to_text` of `_register_ip_field`; `ip or ipv6` takes the IPv4 form when there is
one. -/
def ipBinToText (bin : List Byte) : Except PyError String := do
  let ipv6 ← mkIpv6Addr (← binToInt py bin 16)
  pure (addrStr ((ipv6ToIpv4 ipv6).getD (.v6 ipv6)))

/-- The callbacks `_register_ip_field` builds. -/
def ipField (width : Int) : KeyField R :=
  { recToText := fun rec => addrStr (ipFunction rec), recToBin := ipRecToBin py ipFunction,
    binToText := ipBinToText py addrStr, columnWidth := width, binBytes := 16 }

/-- `_register_ip_field(name, ip_function, width=39)` (`register_ip_field` when IPv6 is on) on
`_plugin_data`. -/
def registerIpField (name : Value) (width : Int) (data : List Entry) :
    Except PyError (KeyField R × List Entry) :=
  registerCallbacks py name (ipField py addrStr ipFunction width)
    (ipField py addrStr ipFunction width).kwds data

@[simp] theorem ipField_recToBin (width : Int) :
    (ipField py addrStr ipFunction width).recToBin = ipRecToBin py ipFunction := rfl
@[simp] theorem ipField_binToText (width : Int) :
    (ipField py addrStr ipFunction width).binToText = ipBinToText py addrStr := rfl
@[simp] theorem ipField_recToText (width : Int) (rec : R) :
    (ipField py addrStr ipFunction width).recToText rec = addrStr (ipFunction rec) := rfl

/-- A positive width and a new name register the field. -/
theorem registerIpField_ok {name : Value} {data : List Entry} (hname : NewName py name data)
    {width : Int} (hw : 1 ≤ width) :
    ∃ d, registerIpField py addrStr ipFunction name width data = .ok (ipField py addrStr ipFunction width, d) :=
  KeyField.register_ok hname hw (by simp [ipField])

theorem ipRecToBin_eq (rec : R) :
    ipRecToBin py ipFunction rec = .ok (toBE 16 (ipFunction rec).toInt) := by
  have h := intToBin_served (show Served py 16 from .inr rfl) (IPAddr.toInt_lt (ipFunction rec))
  rw [ipRecToBin]
  exact h

theorem ipBinToText_toBE (a : Fin (2^128)) :
    ipBinToText py addrStr (toBE 16 a.val) = .ok (addrStr ((ipv6ToIpv4 a).getD (.v6 a))) := by
  have hlt : a.val < 256^16 := lt_of_lt_of_le a.isLt (by norm_num)
  rw [ipBinToText, binToInt_served (by decide) (show Served py 16 from .inr rfl) hlt]
  show (mkIpv6Addr a.val).bind _ = _
  rw [mkIpv6Addr, dif_pos a.isLt]
  rfl

end IpField

/-- The IPv6 path: an address off `::ffff:0:0/96` reads back as its own text. -/
theorem ipField_ipv6_text {R : Type} (py : Python) (addrStr : IPAddr → String)
    (g : R → Fin (2^128)) (name : Value) (width : Int) (data : List Entry)
    (hname : NewName py name data) (hw : 1 ≤ width) (rec : R) (h : (g rec).val / 2^32 ≠ 0xffff) :
    ∃ f d, registerIpField py addrStr (fun r => .v6 (g r)) name width data = .ok (f, d) ∧
      (f.recToBin rec).bind f.binToText = .ok (addrStr (.v6 (g rec))) ∧
      f.recToText rec = addrStr (.v6 (g rec)) := by
  obtain ⟨d, hd⟩ := registerIpField_ok py addrStr _ hname hw
  refine ⟨_, d, hd, ?_, rfl⟩
  have hto := ipBinToText_toBE py addrStr (g rec)
  rw [show ipv6ToIpv4 (g rec) = none from if_neg h] at hto
  rw [ipField_recToBin, ipField_binToText, ipRecToBin_eq]
  exact hto

theorem ipField_ipv6_text_one :
    NewName .py3 (.str "dip") [] ∧ (1 : Int) ≤ 39 ∧ (1 : Nat) / 2^32 ≠ 0xffff ∧
    ∃ f d, registerIpField .py3 (fun a => toString a.toInt) (fun r : Fin (2^128) => .v6 r) (.str "dip")
        39 [] = .ok (f, d) ∧
      (f.recToBin 1).bind f.binToText = .ok (toString (IPAddr.v6 1).toInt) ∧
      f.recToText 1 = toString (IPAddr.v6 1).toInt :=
  have hn : NewName .py3 (.str "dip") [] := newName_nil _ ⟨_, rfl⟩
  ⟨hn, by norm_num, by norm_num, ipField_ipv6_text .py3 (fun a => toString a.toInt) (fun r => r)
    (.str "dip") 39 [] hn (by norm_num) 1 (by norm_num)⟩

/-! ### `enum_conv` -/

/-- The state of an `enum_conv`. `map` holds the dictionary's assignments newest first, so
`lookup` reads the value last written for a key. -/
structure EnumConv where
  nextindex : Nat
  map : List (String × Nat)
  list : List String
  deriving DecidableEq, Repr

namespace EnumConv

/-- The updates made for a key: `map[key] = nextindex`, `nextindex += 1`, `list.append(key)`. -/
def add (c : EnumConv) (key : String) : EnumConv :=
  { nextindex := c.nextindex + 1, map := (key, c.nextindex) :: c.map, list := c.list ++ [key] }

/-- `enum_conv.__init__(fn, ordering)`: every item of `ordering` is added, repeats included. -/
def init (ordering : List String) : EnumConv := ordering.foldl add ⟨0, [], []⟩

/-- `rec_to_bin` for a record whose `fn(rec)` is `key`: the new state and the result. -/
def recToBin (py : Python) (c : EnumConv) (key : String) : EnumConv × Except PyError (List Byte) :=
  match c.map.lookup key with
  | some i => (c, intToBin py i 4)
  | none =>
    if c.nextindex > 0xffffffff then (c, .error .runtimeError)
    else (c.add key, intToBin py c.nextindex 4)

/-- `bin_to_text`: `str(self.list[bin_to_int(bin, 4)])`. -/
def binToText (py : Python) (c : EnumConv) (bin : List Byte) : Except PyError String := do
  let i ← binToInt py bin 4
  match c.list.get? i with
  | some key => pure key
  | none => throw .indexError

/-- `list[map[k]] = k` for every key of `map`, and `len(list) = nextindex`. -/
def Inv (c : EnumConv) : Prop :=
  c.list.length = c.nextindex ∧ ∀ k i, c.map.lookup k = some i → c.list.get? i = some k

theorem lookup_cons_eq {k a : String} {b : Nat} {es : List (String × Nat)} :
    ((k, b) :: es).lookup a = if a = k then some b else es.lookup a := by
  by_cases h : a = k
  · simp [List.lookup_cons, h]
  · simp [List.lookup_cons, h, (beq_eq_false_iff_ne).2 h]

theorem inv_add {c : EnumConv} (hc : Inv c) (key : String) : Inv (c.add key) := by
  refine ⟨by simp [add, hc.1], fun k i hk => ?_⟩
  simp only [add, lookup_cons_eq] at hk ⊢
  split at hk
  · cases hk; subst k; simp [← hc.1]
  · have := hc.2 k i hk
    rw [List.get?_eq_getElem?, List.getElem?_append_left (List.get?_eq_some.1 this).1,
      ← List.get?_eq_getElem?, this]

theorem inv_init (ordering : List String) : Inv (init ordering) := by
  suffices ∀ c, Inv c → Inv (ordering.foldl add c) from this _ ⟨rfl, by simp⟩
  induction ordering with
  | nil => exact fun _ h => h
  | cons o os ih => exact fun c h => ih _ (inv_add h o)

theorem intToBin_four (py : Python) (n : Int) : intToBin py n 4 = structPack 4 n := rfl
theorem binToInt_four (py : Python) (s : List Byte) : binToInt py s 4 = structUnpack 4 s := rfl

/-- `rec_to_bin` spelled out: an old key keeps its index, a new key gets `nextindex` unless
that passed `0xffffffff`. -/
theorem recToBin_cases (py : Python) (c : EnumConv) (key : String) :
    (∃ i, c.map.lookup key = some i ∧ c.recToBin py key = (c, structPack 4 i)) ∨
    (c.map.lookup key = none ∧ 0xffffffff < c.nextindex ∧
      c.recToBin py key = (c, .error .runtimeError)) ∨
    (c.map.lookup key = none ∧ c.nextindex ≤ 0xffffffff ∧
      c.recToBin py key = (c.add key, .ok (toBE 4 c.nextindex))) := by
  unfold recToBin
  cases h : c.map.lookup key with
  | some i => exact .inl ⟨i, rfl, rfl⟩
  | none =>
    by_cases hn : c.nextindex > 0xffffffff
    · exact .inr (.inl ⟨rfl, hn, by simp [hn]⟩)
    · refine .inr (.inr ⟨rfl, by omega, ?_⟩)
      rw [if_neg hn, intToBin_four, structPack_of_lt (by omega)]

theorem structPack_four_ok {i : Nat} {b : List Byte} (h : structPack 4 i = .ok b) :
    i < 2^32 ∧ b = toBE 4 i := by
  have e : ((256 : Nat)^4 : Int) = 2^32 := by norm_num
  unfold structPack at h
  split at h
  · cases h; exact ⟨by push_cast at *; omega, by rw [Int.toNat_ofNat]⟩
  · cases h

theorem structPack_four_error {i : Nat} {e : PyError} (h : structPack 4 i = .error e) :
    e = .structError ∧ 2^32 ≤ i := by
  unfold structPack at h
  split at h
  · cases h
  · cases h; exact ⟨rfl, by push_cast at *; omega⟩

/-- A successful `rec_to_bin`: the bin packs an index below `2^32` that the new state maps the
key to and lists the key under. -/
theorem recToBin_ok {py : Python} {c c' : EnumConv} {key : String} {b : List Byte} (hc : Inv c)
    (h : c.recToBin py key = (c', .ok b)) :
    ∃ i, i < 2^32 ∧ b = toBE 4 i ∧ c'.map.lookup key = some i ∧ c'.list.get? i = some key := by
  rcases recToBin_cases py c key with ⟨i, hi, he⟩ | ⟨-, -, he⟩ | ⟨-, hn, he⟩ <;> rw [he] at h
  · obtain ⟨rfl, hb⟩ := Prod.mk.inj h
    exact ⟨i, (structPack_four_ok hb).1, (structPack_four_ok hb).2, hi, hc.2 key i hi⟩
  · cases h
  · obtain ⟨rfl, hb⟩ := Prod.mk.inj h
    cases hb
    refine ⟨c.nextindex, by omega, rfl, by simp [add, lookup_cons_eq], ?_⟩
    simp [add, ← hc.1]

theorem recToBin_error {py : Python} {c c' : EnumConv} {key : String} {e : PyError}
    (h : c.recToBin py key = (c', .error e)) :
    c' = c ∧ (e = .runtimeError ∧ c.map.lookup key = none ∧ 0xffffffff < c.nextindex ∨
      e = .structError ∧ ∃ i, c.map.lookup key = some i ∧ 2^32 ≤ i) := by
  rcases recToBin_cases py c key with ⟨i, hi, he⟩ | ⟨hk, hn, he⟩ | ⟨-, -, he⟩ <;> rw [he] at h
  · obtain ⟨rfl, he⟩ := Prod.mk.inj h
    exact ⟨rfl, .inr ⟨(structPack_four_error he).1, i, hi, (structPack_four_error he).2⟩⟩
  · obtain ⟨rfl, he⟩ := Prod.mk.inj h
    cases he
    exact ⟨rfl, .inl ⟨rfl, hk, hn⟩⟩
  · cases (Prod.mk.inj h).2

/-- One `rec_to_bin` keeps the invariant, every key's index and every listed key. -/
theorem recToBin_step (py : Python) {c : EnumConv} (hc : Inv c) (key : String) :
    Inv (c.recToBin py key).1 ∧
    (∀ k i, c.map.lookup k = some i → (c.recToBin py key).1.map.lookup k = some i) ∧
    c.list <+: (c.recToBin py key).1.list := by
  rcases recToBin_cases py c key with ⟨i, -, he⟩ | ⟨-, -, he⟩ | ⟨hk, -, he⟩ <;> rw [he]
  · exact ⟨hc, fun _ _ h => h, List.prefix_refl _⟩
  · exact ⟨hc, fun _ _ h => h, List.prefix_refl _⟩
  · refine ⟨inv_add hc key, fun k i h => ?_, List.prefix_append _ _⟩
    have hne : k ≠ key := by rintro rfl; simp [hk] at h
    simp [add, lookup_cons_eq, hne, h]

/-- The states a conv passes through as `rec_to_bin` meets one key after another. -/
inductive Steps (py : Python) : EnumConv → EnumConv → Prop
  | refl (c : EnumConv) : Steps py c c
  | step {c c' : EnumConv} (key : String) : Steps py c c' → Steps py c (c'.recToBin py key).1

/-- Along a run the invariant holds, indices stay, and the list only grows. -/
theorem Steps.run {py : Python} {c c' : EnumConv} (h : Steps py c c') (hc : Inv c) :
    Inv c' ∧ (∀ k i, c.map.lookup k = some i → c'.map.lookup k = some i) ∧ c.list <+: c'.list := by
  induction h with
  | refl => exact ⟨hc, fun _ _ h => h, List.prefix_refl _⟩
  | step key _ ih =>
    obtain ⟨hinv, hlook, hpre⟩ := recToBin_step py ih.1 key
    exact ⟨hinv, fun k i h => hlook k i (ih.2.1 k i h), ih.2.2.trans hpre⟩

theorem get?_of_extends {l l' : List String} (hpre : l <+: l') {i : Nat} {k : String}
    (h : l.get? i = some k) : l'.get? i = some k := by
  obtain ⟨t, rfl⟩ := hpre
  rw [List.get?_eq_getElem?, List.getElem?_append_left (List.get?_eq_some.1 h).1,
    ← List.get?_eq_getElem?, h]

theorem binToText_toBE {py : Python} {c : EnumConv} {i : Nat} {key : String} (hi : i < 2^32)
    (h : c.list.get? i = some key) : c.binToText py (toBE 4 i) = .ok key := by
  simp only [binToText, binToInt_four, structUnpack_toBE (show i < 256^4 by omega)]
  simp only [bind, Except.bind, h]
  rfl

/-- What holds at a point `c` of a run of an `enum_conv`. -/
structure RunFacts (py : Python) (c : EnumConv) : Prop where
  /-- `list[map[k]] = k`, and `len(list) = nextindex` -/
  inv : Inv c
  /-- a bin packs an index below `2^32`; the key gets the same bin ever after, and the bin
  reads back as the key at every later point -/
  stable : ∀ key c' b, c.recToBin py key = (c', .ok b) → b.length = 4 ∧ ofBE b < 2^32 ∧
    ∀ c'', Steps py c' c'' → c''.recToBin py key = (c'', .ok b) ∧ c''.binToText py b = .ok key
  /-- no two keys get one bin -/
  distinct : ∀ k₁ k₂ c₁ c₂ c₃ b, c.recToBin py k₁ = (c₁, .ok b) → Steps py c₁ c₂ →
    c₂.recToBin py k₂ = (c₃, .ok b) → k₁ = k₂
  /-- a failure leaves the state as it was: `RuntimeError` for a new key past `0xffffffff`,
  `struct.error` for a key the ordering placed at `2^32` or beyond -/
  raises : ∀ key c' e, c.recToBin py key = (c', .error e) → c' = c ∧
    (e = .runtimeError ∧ c.map.lookup key = none ∧ 0xffffffff < c.nextindex ∨
      e = .structError ∧ ∃ i, c.map.lookup key = some i ∧ 2^32 ≤ i)

theorem Inv.of_recToBin {py : Python} {c c' : EnumConv} {key : String}
    {r : Except PyError (List Byte)} (hc : Inv c) (h : c.recToBin py key = (c', r)) : Inv c' := by
  have := (recToBin_step py hc key).1
  rwa [h] at this

/-- A bin given to a key is four bytes packing an index below `2^32`; the key gets it again at
every later point of the run, and there it reads back as the key. -/
theorem recToBin_stable {py : Python} {c c' : EnumConv} {key : String} {b : List Byte}
    (hc : Inv c) (h : c.recToBin py key = (c', .ok b)) :
    b.length = 4 ∧ ofBE b < 2^32 ∧
      ∀ c'', Steps py c' c'' → c''.recToBin py key = (c'', .ok b) ∧ c''.binToText py b = .ok key := by
  obtain ⟨i, hi, rfl, hlook, hget⟩ := recToBin_ok hc h
  refine ⟨length_toBE _ _, by rw [ofBE_toBE (by omega)]; exact hi, fun c'' h'' => ?_⟩
  obtain ⟨-, hlook', hpre⟩ := h''.run (hc.of_recToBin h)
  refine ⟨?_, binToText_toBE hi (get?_of_extends hpre hget)⟩
  rw [recToBin, hlook' key i hlook]
  show (c'', intToBin py i 4) = (c'', .ok (toBE 4 i))
  rw [intToBin_four, structPack_of_lt (by omega)]

/-- Every point of every run of an `enum_conv`, from any ordering, repeats included. -/
theorem enum_conv_run (py : Python) (ordering : List String) {c : EnumConv}
    (hc : Steps py (init ordering) c) : RunFacts py c := by
  have hinv := (hc.run (inv_init ordering)).1
  refine ⟨hinv, fun _ _ _ h => recToBin_stable hinv h, fun k₁ k₂ c₁ c₂ c₃ b h₁ h₁₂ h₂ => ?_,
    fun _ _ _ h => recToBin_error h⟩
  obtain ⟨j, hj, rfl, -, hget⟩ := recToBin_ok (h₁₂.run (hinv.of_recToBin h₁)).1 h₂
  have h₃ : Steps py c₁ c₃ := by
    have := Steps.step k₂ h₁₂
    rwa [h₂] at this
  have h₁₃ := ((recToBin_stable hinv h₁).2.2 c₃ h₃).2
  rw [binToText_toBE hj hget] at h₁₃
  exact (Except.ok.inj h₁₃).symm

/-- The three protocols of the ordering, then a record whose key `GRE` the ordering lacks. -/
theorem enum_conv_run_protocols :
    Steps .py3 (init ["ICMP", "TCP", "UDP"]) ((init ["ICMP", "TCP", "UDP"]).recToBin .py3 "GRE").1 ∧
      RunFacts .py3 ((init ["ICMP", "TCP", "UDP"]).recToBin .py3 "GRE").1 :=
  ⟨.step "GRE" (.refl _), enum_conv_run .py3 _ (.step "GRE" (.refl _))⟩

theorem lookup_foldl_replicate (n : Nat) (k : String) (c : EnumConv) :
    ((List.replicate (n+1) k).foldl add c).map.lookup k = some (c.nextindex + n) := by
  induction n generalizing c with
  | zero => simp [add, lookup_cons_eq]
  | succ n ih => rw [List.replicate_succ, List.foldl_cons, ih]; simp [add]; omega

/-- An ordering of `2^32 + 1` copies of one key leaves it at index `2^32`: `rec_to_bin` then
raises `struct.error` from the 4-byte pack, where a new key past the limit would raise
`RuntimeError`. -/
theorem enum_ordering_past_limit :
    (init (List.replicate (2^32 + 1) "a")).recToBin .py3 "a" =
      (init (List.replicate (2^32 + 1) "a"), .error .structError) := by
  rw [recToBin, init, lookup_foldl_replicate]
  rfl

end EnumConv

end Plugin

end Silk
