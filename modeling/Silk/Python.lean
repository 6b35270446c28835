import Mathlib.Data.List.Basic
import Mathlib.Tactic.Ring
import Mathlib.Tactic.Positivity
import Mathlib.Tactic.NormNum.Ineq
import Mathlib.Data.Nat.Digits
/-! The part of the Python runtime the modelled code leans on: the exceptions it raises or
lets escape, the interpreter line where `bytes` behave differently, and the unsigned
big-endian `struct` formats as lists of bytes. -/
namespace Silk

/-- Exceptions the modelled code raises or lets escape. -/
inductive PyError
  | runtimeError | structError | typeError | indexError | valueError | eofError
  | keyError | attributeError | unicodeDecodeError | reError | osError | triggerError
  | overflowError | zeroDivisionError
  deriving DecidableEq, Repr

/-- The interpreter line. Items of `bytes` are one-character strings on Python 2 and ints on
Python 3; a `bytearray` item accepts a `chr(...)` only on Python 2. `py3` is Python 3.0 to 3.6:
on 3.7 and later `plugin.py` does not import, as `convert_128` adds `bytes` to the `str` that
`Struct.format` has become. -/
inductive Python
  | py2 | py3
  deriving DecidableEq, Repr

/-- One item of a Python `bytes` object. -/
abbrev Byte := Fin 256

namespace Bytes

def byteOf (n : Nat) : Byte := ⟨n % 256, Nat.mod_lt _ (by decide)⟩

@[simp] theorem byteOf_val (n : Nat) : (byteOf n).val = n % 256 := rfl

/-- `struct.pack('!…', n)` for a format of `w` bytes: most significant byte first. -/
def toBE : Nat → Nat → List Byte
  | 0, _ => []
  | w+1, n => byteOf (n / 256^w) :: toBE w (n % 256^w)

/-- The value of a big-endian byte string, as `String2Int`'s `(x << 8) | y` fold reads it. -/
def ofBE (bs : List Byte) : Nat := bs.foldl (fun x y => x * 256 + y.val) 0

@[simp] theorem length_toBE (w n : Nat) : (toBE w n).length = w := by
  induction w generalizing n <;> simp_all [toBE]

theorem foldl_ofBE (bs : List Byte) (x : Nat) :
    bs.foldl (fun x y => x * 256 + y.val) x = x * 256^bs.length + ofBE bs := by
  induction bs generalizing x with
  | nil => simp [ofBE]
  | cons b bs ih =>
    rw [List.foldl_cons, ih]
    show _ = x * _ + List.foldl _ (0 * 256 + b.val) bs
    rw [ih, List.length_cons, Nat.pow_succ]
    ring

@[simp] theorem ofBE_nil : ofBE [] = 0 := rfl

theorem ofBE_append (xs ys : List Byte) : ofBE (xs ++ ys) = ofBE xs * 256^ys.length + ofBE ys := by
  rw [ofBE, List.foldl_append, foldl_ofBE]; rfl

@[simp] theorem ofBE_cons (b : Byte) (bs : List Byte) :
    ofBE (b :: bs) = b.val * 256^bs.length + ofBE bs := by
  rw [← List.singleton_append, ofBE_append]; simp [ofBE]

theorem ofBE_toBE_mod (w n : Nat) : ofBE (toBE w n) = n % 256^w := by
  induction w generalizing n with
  | zero => simp [toBE, Nat.mod_one]
  | succ w ih =>
    rw [toBE, ofBE_cons, ih, length_toBE, byteOf_val, Nat.mod_mod, Nat.pow_succ, Nat.mod_mul]
    ring

theorem ofBE_toBE {w n : Nat} (h : n < 256^w) : ofBE (toBE w n) = n := by
  rw [ofBE_toBE_mod, Nat.mod_eq_of_lt h]

theorem ofBE_lt (bs : List Byte) : ofBE bs < 256^bs.length := by
  induction bs with
  | nil => simp
  | cons b bs ih =>
    rw [ofBE_cons, List.length_cons, Nat.pow_succ]
    have hb := Nat.mul_le_mul_right (256 ^ bs.length) (Nat.le_of_lt_succ b.isLt)
    omega

theorem toBE_ofBE (bs : List Byte) : toBE bs.length (ofBE bs) = bs := by
  induction bs with
  | nil => rfl
  | cons b bs ih =>
    have hlt := ofBE_lt bs
    have hdiv : (b.val * 256^bs.length + ofBE bs) / 256^bs.length = b.val := by
      rw [Nat.add_comm, Nat.add_mul_div_right _ _ (by positivity), Nat.div_eq_of_lt hlt,
        Nat.zero_add]
    have hmod : (b.val * 256^bs.length + ofBE bs) % 256^bs.length = ofBE bs := by
      rw [Nat.add_comm, Nat.add_mul_mod_self_right, Nat.mod_eq_of_lt hlt]
    simp only [List.length_cons, toBE, ofBE_cons, hdiv, hmod, ih]
    exact congrArg (· :: bs) (Fin.ext (Nat.mod_eq_of_lt b.isLt))

@[simp] theorem toBE_mod (w n : Nat) : toBE w (n % 256^w) = toBE w n := by
  have h := toBE_ofBE (toBE w n)
  rwa [length_toBE, ofBE_toBE_mod] at h

/-- Splitting a format into a high and a low part, as `convert_128` and
`convert_from_larger` do. -/
theorem toBE_add (v w n : Nat) : toBE (v + w) n = toBE v (n / 256^w) ++ toBE w (n % 256^w) := by
  induction v generalizing n with
  | zero => simp [toBE]
  | succ v ih =>
    have hP : 256^(v+w) = 256^w * 256^v := by rw [Nat.add_comm, Nat.pow_add]
    rw [Nat.add_right_comm, toBE, ih, toBE, List.cons_append, Nat.div_div_eq_div_mul, hP,
      Nat.mod_mul_right_div_self, Nat.mod_mul_right_mod]

/-! ### Order -/

/-- Python's `b1 < b2` on `bytes`: the first differing item decides, and a proper prefix is
the smaller. -/
def bytesLt : List Byte → List Byte → Bool
  | [], [] => false
  | [], _ :: _ => true
  | _ :: _, [] => false
  | a :: as, b :: bs => decide (a < b) || (a == b && bytesLt as bs)

theorem lt_iff_div_mod (P a b : Nat) :
    a < b ↔ a / P < b / P ∨ a / P = b / P ∧ a % P < b % P := by
  have ha := Nat.div_add_mod a P
  have hb := Nat.div_add_mod b P
  constructor
  · intro h
    rcases (Nat.div_le_div_right (c := P) h.le).lt_or_eq with h1 | h1
    · exact .inl h1
    · exact .inr ⟨h1, by rw [h1] at ha; omega⟩
  · rintro (h | ⟨h, h'⟩)
    · exact Nat.lt_of_div_lt_div h
    · rw [h] at ha; omega

/-- Big-endian packing of one width orders byte strings as it orders the numbers. -/
theorem bytesLt_toBE {w a b : Nat} (ha : a < 256^w) (hb : b < 256^w) :
    bytesLt (toBE w a) (toBE w b) = true ↔ a < b := by
  induction w generalizing a b with
  | zero =>
    simp only [Nat.pow_zero, Nat.lt_one_iff] at ha hb
    simp [ha, hb, toBE, bytesLt]
  | succ w ih =>
    have hP : 0 < 256^w := by positivity
    have hq : ∀ n, n < 256^(w+1) → (byteOf (n / 256^w)).val = n / 256^w := fun n hn =>
      Nat.mod_eq_of_lt (Nat.div_lt_of_lt_mul (by rwa [← Nat.pow_succ]))
    rw [toBE, toBE, bytesLt, lt_iff_div_mod _ a b, ← ih (Nat.mod_lt _ hP) (Nat.mod_lt _ hP)]
    simp only [Bool.or_eq_true, decide_eq_true_eq, Bool.and_eq_true, beq_iff_eq,
      Fin.lt_iff_val_lt_val, Fin.ext_iff, hq a ha, hq b hb]

end Bytes

/-! ### `str` of a number -/

theorem toDigitsCore_ne_nil (base fuel n : Nat) (ds : List Char) :
    Nat.toDigitsCore base (fuel + 1) n ds ≠ [] := by
  induction fuel generalizing n ds with
  | zero => rw [Nat.toDigitsCore]; split <;> simp [Nat.toDigitsCore]
  | succ fuel ih =>
    rw [Nat.toDigitsCore]
    split
    · simp
    · exact ih _ _

theorem toString_nat_length_pos (n : Nat) : 0 < (toString n).length :=
  List.length_pos.2 (toDigitsCore_ne_nil 10 n n [])

/-- `str(n)` has at least one character. -/
theorem toString_int_length_pos (n : Int) : 0 < (toString n).length := by
  cases n with
  | ofNat m => exact toString_nat_length_pos m
  | negSucc m => simp [toString, Int.repr, String.length_append, show "-".length = 1 from rfl]

end Silk
