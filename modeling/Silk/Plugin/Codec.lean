import Silk.Python
/-! The plug-in's integer codec (`silk/plugin.py`): `setup_struct_map` and the converters it
installs, the byte-loop fallback `Int2String`/`String2Int`, and `int_to_bin`/`bin_to_int`
choosing between them by width. -/
namespace Silk
namespace Plugin
open Bytes

/-- The sizes of `struct_fmts`: `'!B'`, `'!H'`, `'!L'`, `'!Q'`. -/
def structFmts : List Nat := [1, 2, 4, 8]

/-- The converter objects `setup_struct_map` stores. -/
inductive Converter
  /-- a `Struct` of `size` bytes -/
  | struct (size : Nat)
  /-- `convert_from_larger(fmt, size)` over the `Struct` of `fmt` bytes -/
  | fromLarger (fmt size : Nat)
  /-- `convert_128(struct_map[8])` -/
  | convert128
  deriving DecidableEq, Repr

/-- `setup_struct_map`: the dictionary assignments it makes, in order. -/
def setupStructMap : List (Nat × Converter) :=
  let loop := structFmts.foldl (fun (acc : List (Nat × Converter) × Nat) size =>
    (acc.1 ++ (size, .struct size) ::
      (List.range' acc.2 (size - acc.2)).map (fun i => (i, .fromLarger size i)), size + 1))
    ([], 1)
  match loop.1.lookup 16, loop.1.lookup 8 with
  | none, some (.struct _) => loop.1 ++ [(16, .convert128)]
  | _, _ => loop.1

/-- `struct_map.get(nbytes)`. -/
def structMapGet (nbytes : Nat) : Option Converter := setupStructMap.lookup nbytes

theorem setupStructMap_eq : setupStructMap =
    [(1, .struct 1), (2, .struct 2), (4, .struct 4), (3, .fromLarger 4 3), (8, .struct 8),
      (5, .fromLarger 8 5), (6, .fromLarger 8 6), (7, .fromLarger 8 7), (16, .convert128)] := by
  decide

/-- `Struct.pack(n)` of an unsigned big-endian format: `struct.error` out of range. -/
def structPack (size : Nat) (n : Int) : Except PyError (List Byte) :=
  if 0 ≤ n ∧ n < 256^size then .ok (toBE size n.toNat) else .error .structError

/-- `Struct.unpack(s)[0]` of an unsigned big-endian format. -/
def structUnpack (size : Nat) (s : List Byte) : Except PyError Nat :=
  if s.length = size then .ok (ofBE s) else .error .structError

/-- The converters' `pack`: `convert_from_larger` keeps `[-size:]` of the larger pack, and
`convert_128` packs `'!2Q'` from `num >> 64` and `num & 0xffffffffffffffff`. -/
def Converter.pack : Converter → Int → Except PyError (List Byte)
  | .struct size, n => structPack size n
  | .fromLarger fmt size, n => (structPack fmt n).map fun s => s.drop (s.length - size)
  | .convert128, n => do
    let hi ← structPack 8 (n >>> (64 : Nat))
    let lo ← structPack 8 (n % 2^64)
    pure (hi ++ lo)

/-- The converters' `unpack(s)[0]`: `convert_from_larger` pads with `b'\0'`s, and
`convert_128` returns `(a << 64) | b`. -/
def Converter.unpack : Converter → List Byte → Except PyError Nat
  | .struct size, s => structUnpack size s
  | .fromLarger fmt size, s => structUnpack fmt (List.replicate (fmt - size) 0 ++ s)
  | .convert128, s =>
    if s.length = 16 then .ok ((ofBE (s.take 8) <<< 64) ||| ofBE (s.drop 8))
    else .error .structError

/-- `Int2String`'s `while n:` loop over `bytearray(nbytes)`. `j` is `count + nbytes + 1`: the
write lands at `count`, read modulo `nbytes` as Python reads negative indices, and `j` reaches
zero exactly where the index falls off the front. The index is checked before the item, so
the `chr(...)` store fails on Python 3 only at a valid index. -/
def int2StringLoop (py : Python) (nbytes : Nat) : Nat → Int → List Byte → Except PyError (List Byte)
  | j, n, s =>
    if n = 0 then .ok s else
    match j, py with
    | 0, _ => .error .indexError
    | _ + 1, .py3 => .error .typeError
    | j + 1, .py2 => int2StringLoop py nbytes j (n >>> (8 : Nat)) (s.set (j % nbytes) (byteOf (n % 256).toNat))

/-- `Int2String(num, nbytes)` (the Python 2.6 and later version). -/
def int2String (py : Python) (num : Int) (nbytes : Nat) : Except PyError (List Byte) :=
  int2StringLoop py nbytes (2 * nbytes) num (List.replicate nbytes 0)

/-- `String2Int(str)`: `reduce(lambda x, y: (x << 8) | y, map(ord, str))`. On Python 3 the
first `ord` meets an int; `reduce` of nothing raises as well. -/
def string2Int : Python → List Byte → Except PyError Nat
  | .py3, _ => .error .typeError
  | .py2, [] => .error .typeError
  | .py2, b :: bs => .ok (bs.foldl (fun x y => (x <<< 8) ||| y.val) b.val)

def intToBin (py : Python) (num : Int) (nbytes : Nat) : Except PyError (List Byte) :=
  match structMapGet nbytes with
  | some fn => fn.pack num
  | none => int2String py num nbytes

def binToInt (py : Python) (s : List Byte) (nbytes : Nat) : Except PyError Nat :=
  match structMapGet nbytes with
  | some fn => fn.unpack s
  | none => string2Int py s

/-! ### Every converter of the map packs big-endian -/

theorem toBE_zero (w : Nat) : toBE w 0 = List.replicate w 0 := by
  induction w with
  | zero => rfl
  | succ w ih => simp [toBE, ih, List.replicate_succ, byteOf]

theorem structPack_of_lt {size n : Nat} (h : n < 256^size) :
    structPack size n = .ok (toBE size n) := by
  simp [structPack, h]; exact_mod_cast h

theorem structUnpack_toBE {size n : Nat} (h : n < 256^size) :
    structUnpack size (toBE size n) = .ok n := by
  simp [structUnpack, ofBE_toBE h]

/-- What a converter stored under width `k` must do: pack a number in range to its `k`
big-endian bytes, and unpack them back. -/
def Serves (k : Nat) (c : Converter) : Prop :=
  ∀ n : Nat, n < 256^k → c.pack n = .ok (toBE k n) ∧ c.unpack (toBE k n) = .ok n

theorem serves_struct (k : Nat) : Serves k (.struct k) := fun _ hn =>
  ⟨structPack_of_lt hn, structUnpack_toBE hn⟩

theorem serves_fromLarger {fmt size : Nat} (h : size ≤ fmt) : Serves size (.fromLarger fmt size) := by
  intro n hn
  have hfmt : n < 256^fmt := lt_of_lt_of_le hn (Nat.pow_le_pow_right (by decide) h)
  have hsplit : toBE fmt n = List.replicate (fmt - size) 0 ++ toBE size n := by
    have := toBE_add (fmt - size) size n
    rwa [Nat.sub_add_cancel h, Nat.div_eq_of_lt hn, Nat.mod_eq_of_lt hn, toBE_zero] at this
  refine ⟨?_, ?_⟩
  · simp only [Converter.pack, structPack_of_lt hfmt, Except.map, length_toBE]
    rw [hsplit, List.drop_left' (by simp)]
  · rw [Converter.unpack, ← hsplit, structUnpack_toBE hfmt]

theorem shiftLeft_or_byte (x : Nat) (y : Byte) : (x <<< 8) ||| y.val = x * 256 + y.val := by
  rw [Nat.shiftLeft_eq, Nat.mul_comm, ← Nat.mul_add_lt_is_or (show y.val < 2^8 from y.isLt)]

theorem serves_convert128 : Serves 16 .convert128 := by
  intro n hn
  have e : (256 : Nat)^8 = 2^64 := by norm_num
  have hsplit := toBE_add 8 8 n
  have hhi : n / 256^8 < 256^8 := Nat.div_lt_of_lt_mul (by simpa using hn)
  have hlo : n % 256^8 < 256^8 := Nat.mod_lt _ (by positivity)
  refine ⟨?_, ?_⟩
  · have h1 : ((n : Int) >>> (64 : Nat)) = ((n / 256^8 : Nat) : Int) := by
      rw [Int.shiftRight_eq_div_pow]; norm_num
    have h2 : ((n : Int) % 2^64) = ((n % 256^8 : Nat) : Int) := by norm_num
    simp only [Converter.pack, h1, h2, structPack_of_lt hhi, structPack_of_lt hlo]
    rw [hsplit]; rfl
  · have hor : (n / 2^64) <<< 64 ||| n % 2^64 = n := by
      rw [Nat.shiftLeft_eq, Nat.mul_comm, ← Nat.mul_add_lt_is_or (Nat.mod_lt n (by positivity)),
        Nat.div_add_mod]
    rw [hsplit, Converter.unpack, if_pos (by simp), List.take_left' (length_toBE _ _),
      List.drop_left' (length_toBE _ _), ofBE_toBE hhi, ofBE_toBE hlo, e, hor]

/-- Every converter `setup_struct_map` stores serves its own width. -/
theorem serves_of_structMapGet {k : Nat} {c : Converter} (h : structMapGet k = some c) :
    Serves k c := by
  obtain ⟨l₁, l₂, hl, -⟩ := List.lookup_eq_some_iff.1 h
  have hmem : (k, c) ∈ setupStructMap := by rw [hl]; simp
  rw [setupStructMap_eq] at hmem
  cases c with
  | struct size =>
    obtain rfl : size = k := by simp at hmem; omega
    exact serves_struct _
  | fromLarger fmt size =>
    obtain ⟨rfl, hle⟩ : size = k ∧ k ≤ fmt := by simp at hmem; omega
    exact serves_fromLarger hle
  | convert128 =>
    obtain rfl : k = 16 := by simpa using hmem
    exact serves_convert128

/-! ### The byte-loop fallback -/

theorem toBE_succ_low (m n : Nat) : toBE (m+1) n = toBE m (n / 256) ++ [byteOf (n % 256)] := by
  simpa [toBE] using toBE_add m 1 n

@[simp] theorem int2StringLoop_zero (py : Python) (nbytes j : Nat) (s : List Byte) :
    int2StringLoop py nbytes j 0 s = .ok s := by
  rw [int2StringLoop.eq_def]; simp

theorem int2StringLoop_py2_succ {n : Int} (h : n ≠ 0) (nbytes j : Nat) (s : List Byte) :
    int2StringLoop .py2 nbytes (j+1) n s =
      int2StringLoop .py2 nbytes j (n >>> (8 : Nat)) (s.set (j % nbytes) (byteOf (n % 256).toNat)) := by
  rw [int2StringLoop.eq_def]; simp [h]

theorem set_zeros_append (m : Nat) (b : Byte) (t : List Byte) :
    (List.replicate (m+1) 0 ++ t).set m b = List.replicate m 0 ++ b :: t := by
  rw [List.replicate_succ', List.append_assoc, List.set_append_right _ _ (by simp)]
  simp

/-- On Python 2 the loop writes the low `m` bytes of `n` in front of the `t` it has written. -/
theorem int2StringLoop_py2 {k m n : Nat} (t : List Byte) (hm : m + t.length = k) (hn : n < 256^m) :
    int2StringLoop .py2 k (k + m) n (List.replicate m 0 ++ t) = .ok (toBE m n ++ t) := by
  induction m generalizing n t with
  | zero =>
    obtain rfl : n = 0 := by simpa using hn
    simp [toBE]
  | succ m ih =>
    by_cases h0 : n = 0
    · subst h0
      simp [toBE_zero]
    · have hnext : n / 256 < 256^m := Nat.div_lt_of_lt_mul (by rwa [Nat.mul_comm, ← Nat.pow_succ])
      have hmk : (k + m) % k = m := by rw [Nat.add_mod_left, Nat.mod_eq_of_lt (by omega)]
      have hstep : int2StringLoop .py2 k (k + (m + 1)) n (List.replicate (m+1) 0 ++ t) =
          int2StringLoop .py2 k (k + m) (n / 256 : Nat) (List.replicate m 0 ++ byteOf (n % 256) :: t) := by
        have e1 : ((n : Int) >>> (8 : Nat)) = ((n / 256 : Nat) : Int) := by
          rw [Int.shiftRight_eq_div_pow]; norm_num
        have e2 : ((n : Int) % 256).toNat = n % 256 := by omega
        rw [← Nat.add_assoc, int2StringLoop_py2_succ (by exact_mod_cast h0), hmk, set_zeros_append,
          e1, e2]
      rw [hstep, ih _ (by simp; omega) hnext, toBE_succ_low, List.append_assoc]
      rfl

theorem int2String_py2 {k n : Nat} (hn : n < 256^k) : int2String .py2 n k = .ok (toBE k n) := by
  simpa [int2String, Nat.two_mul] using int2StringLoop_py2 (k := k) [] (by simp) hn

theorem string2Int_py2 {bs : List Byte} (h : bs ≠ []) : string2Int .py2 bs = .ok (ofBE bs) := by
  obtain ⟨b, bs, rfl⟩ := List.exists_cons_of_ne_nil h
  have hf : (fun x (y : Byte) => (x <<< 8) ||| y.val) = fun x y => x * 256 + y.val := by
    funext x y; exact shiftLeft_or_byte x y
  simp [string2Int, hf, foldl_ofBE]

/-! ### The codec law -/

/-- The widths the codec serves on an interpreter line: every width on Python 2; on Python 3
only those `struct_map` stores, since there the fallback's `chr`/`ord` calls raise. -/
def Served (py : Python) (k : Nat) : Prop := py = .py2 ∨ (structMapGet k).isSome

theorem intToBin_served {py : Python} {k n : Nat} (h : Served py k) (hn : n < 256^k) :
    intToBin py n k = .ok (toBE k n) := by
  unfold intToBin
  cases hget : structMapGet k with
  | some c => exact (serves_of_structMapGet hget n hn).1
  | none =>
    obtain rfl : py = .py2 := by simpa [Served, hget] using h
    exact int2String_py2 hn

theorem binToInt_served {py : Python} {k n : Nat} (hk : 0 < k) (h : Served py k)
    (hn : n < 256^k) : binToInt py (toBE k n) k = .ok n := by
  unfold binToInt
  cases hget : structMapGet k with
  | some c => exact (serves_of_structMapGet hget n hn).2
  | none =>
    obtain rfl : py = .py2 := by simpa [Served, hget] using h
    rw [string2Int_py2 (by rw [← List.length_pos, length_toBE]; exact hk), ofBE_toBE hn]

/-- The codec law wherever the width is served: `int_to_bin(n, k)` is `k` bytes that
`bin_to_int` turns back into `n`, and packing orders byte strings as it orders numbers. -/
theorem codec_law {py : Python} {k : Nat} (hk : 0 < k) (h : Served py k) {a b : Nat}
    (ha : a < 256^k) (hb : b < 256^k) :
    ∃ sa sb, intToBin py a k = .ok sa ∧ intToBin py b k = .ok sb ∧ sa.length = k ∧
      binToInt py sa k = .ok a ∧ (bytesLt sa sb = true ↔ a < b) :=
  ⟨_, _, intToBin_served h ha, intToBin_served h hb, length_toBE k a, binToInt_served hk h ha,
    bytesLt_toBE ha hb⟩

theorem codec_law_python2_nine : 0 < 9 ∧ Served .py2 9 ∧ 1 < 256^9 ∧ 2 < 256^9 ∧
    ∃ sa sb, intToBin .py2 1 9 = .ok sa ∧ intToBin .py2 2 9 = .ok sb ∧ sa.length = 9 ∧
      binToInt .py2 sa 9 = .ok 1 ∧ (bytesLt sa sb = true ↔ 1 < 2) :=
  ⟨by decide, .inl rfl, by norm_num, by norm_num, codec_law (by decide) (.inl rfl) (by norm_num) (by norm_num)⟩

/-- The Python 3 fallback of `Int2String`: `bytes(c)` of the first digit, an `int`, raises. -/
theorem intToBin_py3_unserved {k : Nat} (hk : 0 < k) (hget : structMapGet k = none) {n : Int}
    (hn : n ≠ 0) : intToBin .py3 n k = .error .typeError := by
  obtain ⟨j, hj⟩ : ∃ j, 2 * k = j + 1 := ⟨2 * k - 1, by omega⟩
  simp only [intToBin, hget, int2String, hj]
  rw [int2StringLoop.eq_def]
  simp [hn]

theorem binToInt_py3_unserved {k : Nat} (hget : structMapGet k = none) (s : List Byte) :
    binToInt .py3 s k = .error .typeError := by
  simp [binToInt, hget, string2Int]

/-- On Python 3 every width outside `struct_map` fails: `int_to_bin` raises `TypeError` for
every nonzero value, and `bin_to_int` for every byte string. -/
theorem py3_fallback_raises {k : Nat} (hk : 0 < k) (hget : structMapGet k = none) :
    (∀ n : Int, n ≠ 0 → intToBin .py3 n k = .error .typeError) ∧
      ∀ s, binToInt .py3 s k = .error .typeError :=
  ⟨fun _ hn => intToBin_py3_unserved hk hget hn, binToInt_py3_unserved hget⟩

/-- Width 9 on Python 3: the fallback raises for the value 1 both ways. -/
theorem int_to_bin_nine_py3 :
    intToBin .py3 1 9 = .error .typeError ∧ binToInt .py3 (toBE 9 1) 9 = .error .typeError :=
  ⟨rfl, rfl⟩

end Plugin

end Silk
