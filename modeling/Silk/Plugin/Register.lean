import Silk.Python
/-! The registration functions of `silk/plugin.py`: `register_field`, `register_filter` and
`register_switch`, the argument check `_check_type` they share, and the tables of entries that
the C side of the plug-in reads through `_get_generic_data`. A value handed to them is seen by its
Python type, a function by the number of parameters it takes. The module-level lists are the
state: a registration appends one entry, and a read of a table hands out the entries not handed
out before. An exception is its class and its text. -/
namespace Silk
namespace Plugin
open Bytes

/-- A keyword argument's value, by its Python type. A byte string of Python 2 is a `str`. -/
inductive Value
  | str (s : String)
  | bytes (bs : List Byte)
  | int (n : Int)
  | bool (b : Bool)
  /-- a function object taking `params` arguments -/
  | fn (params : Nat)
  | none
  deriving DecidableEq, Repr

/-- The types `_check_type` tests with `isinstance`. -/
inductive PyType
  | str | int | bytes | bool
  deriving DecidableEq, Repr

/-- `isinstance(val, t)`: a `bool` is an `int`, and on Python 2 `bytes` is `str`. -/
def isinstance (py : Python) : Value → PyType → Bool
  | .str _, .str | .bytes _, .bytes | .int _, .int | .bool _, .int | .bool _, .bool => true
  | .str _, .bytes | .bytes _, .str => decide (py = .py2)
  | _, _ => false

/-- `callable(val)`, and `hasattr(val, '__call__')` on Python 3. -/
def callable : Value → Bool
  | .fn _ => true
  | _ => false

/-- `'%s' % t` for a type object. -/
def PyType.text (py : Python) (t : PyType) : String :=
  let n := match t, py with
    | .str, _ | .bytes, .py2 => "str"
    | .bytes, .py3 => "bytes"
    | .int, _ => "int"
    | .bool, _ => "bool"
  match py with
  | .py2 => "<type '" ++ n ++ "'>"
  | .py3 => "<class '" ++ n ++ "'>"

/-- An entry of a table of names: a type, a type with a test and its failure text, or an arity. -/
inductive Spec
  | type (t : PyType)
  | checked (t : PyType) (check : Value → Bool) (errmsg : String)
  | fn (nargs : Nat)

/-- `lambda x: x >= 1`, on a value that passed `isinstance(x, int)`. -/
def atLeastOne : Value → Bool
  | .int n => decide (1 ≤ n)
  | .bool b => b
  | _ => false

/-- `_plugin_names`. -/
def pluginNames : List (String × Spec) :=
  [("description", .type .str), ("initialize", .fn 0),
   ("column_width", .checked .int atLeastOne "must be positive"), ("rec_to_text", .fn 1),
   ("bin_bytes", .checked .int atLeastOne "must be positive"), ("rec_to_bin", .fn 1),
   ("bin_to_text", .fn 1), ("add_rec_to_bin", .fn 2), ("bin_merge", .fn 2),
   ("bin_compare", .fn 2), ("initial_value", .type .bytes)]

/-- `_filter_names`. -/
def filterNames : List (String × Spec) := [("filter", .fn 1), ("initialize", .fn 0), ("finalize", .fn 0)]

/-- `_cmd_line_names`. -/
def cmdLineNames : List (String × Spec) :=
  [("name", .type .str), ("handler", .fn 1), ("arg", .type .bool), ("help", .type .str)]

/-- `_plugin_name_list`, the order of `field_index_t` in `silkpython.c`. -/
def pluginNameList : List String :=
  ["name", "description", "initialize", "column_width", "rec_to_text", "bin_bytes", "rec_to_bin",
   "bin_to_text", "add_rec_to_bin", "bin_merge", "bin_compare", "initial_value"]

/-- `_filter_name_list`. -/
def filterNameList : List String := ["filter", "initialize", "finalize"]

/-- `_cmd_line_name_list`. -/
def cmdLineNameList : List String := ["name", "handler", "arg", "help"]

/-! ### `_check_type` -/

/-- The body of `_check_type`'s loop for one keyword argument. -/
def checkArg (py : Python) (names : List (String × Spec)) (kwd : String) (val : Value) :
    Except (PyError × String) Unit :=
  match names.lookup kwd with
  | none => .error (.valueError, "Illegal argument name '" ++ kwd ++ "'")
  | some (.type t) =>
    if isinstance py val t then .ok ()
    else .error (.typeError, "Argument '" ++ kwd ++ "' must be of type " ++ t.text py)
  | some (.checked t check errmsg) =>
    if !isinstance py val t then
      .error (.typeError, "Argument '" ++ kwd ++ "' must be of type " ++ t.text py)
    else if !check val then .error (.valueError, "Argument '" ++ kwd ++ "' " ++ errmsg)
    else .ok ()
  | some (.fn n) =>
    if callable val then .ok ()
    else .error (.typeError, "Argument '" ++ kwd ++ "' must be a function of " ++ toString n ++
      " arguments")

/-- `_check_type(names, kwds)`, the keyword arguments in the order the dict yields them. -/
def checkType (py : Python) (names : List (String × Spec)) :
    List (String × Value) → Except (PyError × String) Unit
  | [] => .ok ()
  | (kwd, val) :: kwds =>
    match checkArg py names kwd val with
    | .ok () => checkType py names kwds
    | .error e => .error e

/-- What an entry of a names table admits; a function entry takes anything callable. -/
def Spec.admits (py : Python) : Spec → Value → Bool
  | .type t, v => isinstance py v t
  | .checked t check _, v => isinstance py v t && check v
  | .fn _, v => callable v

/-- A keyword argument is accepted when it names an entry of the table that admits its value. -/
def accepts (py : Python) (names : List (String × Spec)) (kwd : String) (val : Value) : Bool :=
  match names.lookup kwd with
  | some s => s.admits py val
  | none => false

section CheckType
variable {py : Python} {names : List (String × Spec)}

theorem checkArg_eq_ok_iff {kwd : String} {val : Value} :
    checkArg py names kwd val = .ok () ↔ accepts py names kwd val = true := by
  unfold checkArg accepts
  cases names.lookup kwd with
  | none => simp
  | some s => cases s <;> simp only [Spec.admits] <;> split_ifs <;> simp_all

/-- Every exception of `_check_type` names the keyword argument it is about. -/
theorem checkArg_error_text {kwd : String} {val : Value} {e : PyError × String}
    (h : checkArg py names kwd val = .error e) :
    (names.lookup kwd = none ∧ e = (.valueError, "Illegal argument name '" ++ kwd ++ "'")) ∨
      ((names.lookup kwd).isSome ∧ ∃ rest, e.2 = "Argument '" ++ kwd ++ "' " ++ rest) := by
  unfold checkArg at h
  split at h
  · injection h with h; exact .inl ⟨by assumption, h.symm⟩
  all_goals
    right
    refine ⟨by simp_all, ?_⟩
    split_ifs at h <;> injection h with h <;> rw [← h] <;> simp only [String.append_assoc] <;>
      exact ⟨_, rfl⟩

theorem checkType_eq_ok_iff {kwds : List (String × Value)} :
    checkType py names kwds = .ok () ↔ ∀ kv ∈ kwds, accepts py names kv.1 kv.2 = true := by
  induction kwds with
  | nil => simp [checkType]
  | cons kv kwds ih =>
    rw [checkType, List.forall_mem_cons, ← checkArg_eq_ok_iff, ← ih]
    cases checkArg py names kv.1 kv.2 <;> simp

/-- `_check_type` raises the exception of the first keyword argument its table does not accept. -/
theorem checkType_eq_error {kwds : List (String × Value)} {e : PyError × String}
    (h : checkType py names kwds = .error e) :
    ∃ pre kwd val post, kwds = pre ++ (kwd, val) :: post ∧
      (∀ kv ∈ pre, accepts py names kv.1 kv.2 = true) ∧ checkArg py names kwd val = .error e := by
  induction kwds with
  | nil => cases h
  | cons kv kwds ih =>
    rw [checkType] at h
    split at h
    · obtain ⟨pre, kwd, val, post, rfl, hpre, he⟩ := ih h
      refine ⟨kv :: pre, kwd, val, post, rfl, ?_, he⟩
      exact List.forall_mem_cons.2 ⟨checkArg_eq_ok_iff.1 (by assumption), hpre⟩
    · injection h with h
      exact ⟨[], kv.1, kv.2, kwds, rfl, by simp, h ▸ by assumption⟩

/-- Every exception of `_check_type`, for every table, names one of the keyword arguments. -/
theorem checkType_error_text {kwds : List (String × Value)} {e : PyError × String}
    (h : checkType py names kwds = .error e) : ∃ kwd ∈ kwds.map Prod.fst,
      (names.lookup kwd = none ∧ e = (.valueError, "Illegal argument name '" ++ kwd ++ "'")) ∨
        ((names.lookup kwd).isSome ∧ ∃ rest, e.2 = "Argument '" ++ kwd ++ "' " ++ rest) := by
  obtain ⟨pre, kwd, val, post, rfl, -, he⟩ := checkType_eq_error h
  exact ⟨kwd, by simp, checkArg_error_text he⟩

end CheckType

/-- `_check_type` passes exactly when its table accepts every keyword argument; otherwise it
raises the exception of the first one it does not. -/
theorem check_type_law (py : Python) (names : List (String × Spec)) (kwds : List (String × Value)) :
    (checkType py names kwds = .ok () ↔ ∀ kv ∈ kwds, accepts py names kv.1 kv.2 = true) ∧
    ∀ e, checkType py names kwds = .error e → ∃ pre kwd val post, kwds = pre ++ (kwd, val) :: post ∧
      (∀ kv ∈ pre, accepts py names kv.1 kv.2 = true) ∧ accepts py names kwd val = false ∧
      checkArg py names kwd val = .error e := by
  refine ⟨checkType_eq_ok_iff, fun e h => ?_⟩
  obtain ⟨pre, kwd, val, post, rfl, hpre, he⟩ := checkType_eq_error h
  refine ⟨pre, kwd, val, post, rfl, hpre, ?_, he⟩
  rw [← Bool.not_eq_true, ← checkArg_eq_ok_iff, he]
  nofun

/-- A `bool` passes for a positive `int`, and a function of any arity for a callback. -/
example : checkType .py3 pluginNames [("column_width", .bool true), ("rec_to_bin", .fn 5)] = .ok () := by
  rfl

/-! ### `b` and `_byteify_string_values` -/

/-- `'%0*x' % (width, n)`. -/
def hexPad (width n : Nat) : String :=
  let ds := Nat.toDigits 16 n
  String.mk (List.replicate (width - ds.length) '0' ++ ds)

/-- How Python writes a character in an encoding error: `'\xe9'`, `'\u20ac'`, `'\U0001f600'`. -/
def charText (c : Char) : String :=
  if c.toNat < 0x100 then "'\\x" ++ hexPad 2 c.toNat ++ "'"
  else if c.toNat < 0x10000 then "'\\u" ++ hexPad 4 c.toNat ++ "'"
  else "'\\U" ++ hexPad 8 c.toNat ++ "'"

/-- The first run of characters past 127 and its start, which the ASCII encoder reports. -/
def nonAsciiRun : List Char → Nat → Option (Nat × List Char)
  | [], _ => none
  | c :: cs, i =>
    if c.toNat < 128 then nonAsciiRun cs (i + 1)
    else some (i, c :: cs.takeWhile fun c => 128 ≤ c.toNat)

/-- The text of the `UnicodeEncodeError` for a run starting at `i`. -/
def encodeErrorText (i : Nat) : List Char → String
  | [c] => "'ascii' codec can't encode character " ++ charText c ++ " in position " ++ toString i ++
      ": ordinal not in range(128)"
  | run => "'ascii' codec can't encode characters in position " ++ toString i ++ "-" ++
      toString (i + run.length - 1) ++ ": ordinal not in range(128)"

/-- `b(o)`: `o.encode("ascii")` on Python 3, `o` itself on Python 2. -/
def b (py : Python) (s : String) : Except (PyError × String) Value :=
  match py with
  | .py2 => .ok (.str s)
  | .py3 =>
    match nonAsciiRun s.data 0 with
    | none => .ok (.bytes (s.data.map fun c => byteOf c.toNat))
    | some (i, run) => .error (.valueError, encodeErrorText i run)

/-- `_byteify_string_values(kwds)`: on Python 3, every `str` value becomes `b(val)`. -/
def byteifyStringValues (py : Python) :
    List (String × Value) → Except (PyError × String) (List (String × Value))
  | [] => .ok []
  | (kwd, val) :: kwds => do
    let val ← match py, val with
      | .py3, .str s => b .py3 s
      | _, v => pure v
    let kwds ← byteifyStringValues py kwds
    pure ((kwd, val) :: kwds)

/-! ### The tables and the registration functions -/

/-- A registered entry: its keyword arguments, and whether `'__used__'` is set. -/
structure Entry where
  kwds : List (String × Value)
  used : Bool
  deriving DecidableEq, Repr

/-- `kwds[k] = v`: a key already there keeps its place, a new one goes last. -/
def setitem : List (String × Value) → String → Value → List (String × Value)
  | [], k, v => [(k, v)]
  | (k', v') :: kwds, k, v => if k' = k then (k, v) :: kwds else (k', v') :: setitem kwds k v

@[simp] theorem lookup_setitem_self (kwds : List (String × Value)) (k : String) (v : Value) :
    (setitem kwds k v).lookup k = some v := by
  induction kwds with
  | nil => simp [setitem]
  | cons kv kwds ih =>
    obtain ⟨k', v'⟩ := kv
    unfold setitem
    split_ifs with h
    · simp
    · simp [List.lookup_cons, beq_false_of_ne (Ne.symm h), ih]

/-- `kwds.setdefault(k, v)`. -/
def setdefault (kwds : List (String × Value)) (k : String) (v : Value) : List (String × Value) :=
  if (kwds.lookup k).isSome then kwds else kwds ++ [(k, v)]

/-- `_register_fieldlike(name, data, names, prereqs, kwds)`, whose `prereqs` check is off. -/
def registerFieldlike (py : Python) (name : Value) (data : List Entry)
    (names : List (String × Spec)) (kwds : List (String × Value)) :
    Except (PyError × String) (List Entry) :=
  match name with
  | .str strName => do
    let name ← b py strName
    if data.any (fun val => val.kwds.lookup "name" == some name) then
      throw (.valueError, "A field '" ++ strName ++ "' has already been registered")
    checkType py names kwds
    let kwds ← byteifyStringValues py kwds
    pure (data ++ [⟨setitem kwds "name" name, false⟩])
  | _ => throw (.typeError, "Name must be a string")

/-- `register_field(name, **kwds)`. -/
def registerField (py : Python) (name : Value) (kwds : List (String × Value)) (data : List Entry) :
    Except (PyError × String) (List Entry) :=
  registerFieldlike py name data pluginNames kwds

/-- `register_filter(filter, **kwds)`. -/
def registerFilter (py : Python) (filter : Value) (kwds : List (String × Value))
    (data : List Entry) : Except (PyError × String) (List Entry) := do
  let kwds := setitem kwds "filter" filter
  checkType py filterNames kwds
  pure (data ++ [⟨kwds, false⟩])

/-- `register_switch(name, **kwds)`, with `arg=True` and `help='No help for this switch'`. -/
def registerSwitch (py : Python) (name : Value) (kwds : List (String × Value))
    (data : List Entry) : Except (PyError × String) (List Entry) := do
  let kwds := setdefault (setdefault (setitem kwds "name" name) "arg" (.bool true)) "help"
    (.str "No help for this switch")
  checkType py cmdLineNames kwds
  let kwds ← byteifyStringValues py kwds
  pure (data ++ [⟨kwds, false⟩])

theorem checkType_append_of_accepted {py : Python} {names : List (String × Spec)}
    (kwds : List (String × Value)) {extra : List (String × Value)}
    (h : ∀ kv ∈ extra, accepts py names kv.1 kv.2 = true) :
    checkType py names (kwds ++ extra) = checkType py names kwds := by
  induction kwds with
  | nil => exact checkType_eq_ok_iff.2 h
  | cons kv kwds ih => rw [List.cons_append, checkType, checkType, ih]

theorem checkType_setdefault {py : Python} {names : List (String × Spec)}
    (kwds : List (String × Value)) {k : String} {v : Value} (h : accepts py names k v = true) :
    checkType py names (setdefault kwds k v) = checkType py names kwds := by
  unfold setdefault
  split
  · rfl
  · exact checkType_append_of_accepted kwds (by simpa using h)

/-- The defaults `register_switch` fills in pass its own check. -/
theorem checkType_registerSwitch_defaults (py : Python) (name : Value) (kwds : List (String × Value)) :
    checkType py cmdLineNames (setdefault (setdefault (setitem kwds "name" name) "arg" (.bool true))
      "help" (.str "No help for this switch")) = checkType py cmdLineNames (setitem kwds "name" name) := by
  rw [checkType_setdefault _ (by cases py <;> rfl), checkType_setdefault _ (by cases py <;> rfl)]

/-- A field is registered under a name no field of the table has, as one new entry. -/
theorem registerFieldlike_eq_ok {py : Python} {name : Value} {data : List Entry}
    {names : List (String × Spec)} {kwds : List (String × Value)} {d : List Entry}
    (h : registerFieldlike py name data names kwds = .ok d) :
    ∃ n kwds', d = data ++ [⟨setitem kwds' "name" n, false⟩] ∧
      ∀ x ∈ data, x.kwds.lookup "name" ≠ some n := by
  unfold registerFieldlike at h
  split at h
  · cases hb : b py _ with
    | error e => rw [hb] at h; cases h
    | ok n =>
      simp only [hb, bind, Except.bind, pure, Except.pure] at h
      split_ifs at h with hdup
      split at h
      · cases h
      split at h
      · cases h
      injection h with h
      exact ⟨n, _, h.symm, fun x hx hn => hdup (List.any_eq_true.2 ⟨x, hx, by simp [hn]⟩)⟩
  · cases h

/-! ### What the convenience functions hand `register_field` -/

theorem checkArg_fn {py : Python} {names : List (String × Spec)} {kwd : String} {n : Nat}
    (h : names.lookup kwd = some (.fn n)) (k : Nat) : checkArg py names kwd (.fn k) = .ok () := by
  simp [checkArg, h, callable]

theorem checkArg_bytes {py : Python} {names : List (String × Spec)} {kwd : String}
    (h : names.lookup kwd = some (.type .bytes)) (bs : List Byte) :
    checkArg py names kwd (.bytes bs) = .ok () := by
  simp [checkArg, h, isinstance]

theorem checkArg_positive {py : Python} {names : List (String × Spec)} {kwd : String}
    (h : names.lookup kwd = some (.checked .int atLeastOne "must be positive")) (w : Int) :
    checkArg py names kwd (.int w) =
      if 1 ≤ w then .ok () else .error (.valueError, "Argument '" ++ kwd ++ "' must be positive") := by
  by_cases hw : 1 ≤ w <;> simp [checkArg, h, hw, isinstance, atLeastOne, String.append_assoc]

theorem byteifyStringValues_eq_self {py : Python} {kwds : List (String × Value)}
    (h : ∀ kv ∈ kwds, ∀ s, kv.2 ≠ .str s) : byteifyStringValues py kwds = .ok kwds := by
  induction kwds with
  | nil => rfl
  | cons kv kwds ih =>
    obtain ⟨k, v⟩ := kv
    have ih' := ih fun kv hkv => h kv (.tail _ hkv)
    cases py
    · simp only [byteifyStringValues, ih', bind, Except.bind, pure, Except.pure]
    · cases v
      case str s => exact absurd rfl (h _ (.head _) s)
      all_goals simp only [byteifyStringValues, ih', bind, Except.bind, pure, Except.pure]

/-- A string that `b` encodes to a name no field of `data` has. -/
def NewName (py : Python) (name : Value) (data : List Entry) : Prop :=
  ∃ s n, name = .str s ∧ b py s = .ok n ∧ ∀ e ∈ data, e.kwds.lookup "name" ≠ some n

theorem newName_nil (py : Python) {s : String} (hs : ∃ n, b py s = .ok n) : NewName py (.str s) [] :=
  let ⟨n, hn⟩ := hs
  ⟨s, n, rfl, hn, nofun⟩

/-- The `register_field(name, **kwds)` call of a convenience function, on the callbacks `f`. -/
def registerCallbacks {α : Type} (py : Python) (name : Value) (f : α) (kwds : List (String × Value))
    (data : List Entry) : Except PyError (α × List Entry) :=
  ((registerField py name kwds data).mapError Prod.fst).map fun d => (f, d)

/-- Under a new name, a convenience registration appends its entry when `_check_type` passes. -/
theorem registerCallbacks_eq {α : Type} {py : Python} {name : Value} {data : List Entry}
    (h : NewName py name data) (f : α) {kwds : List (String × Value)}
    (hs : ∀ kv ∈ kwds, ∀ s, kv.2 ≠ .str s) : ∃ n, registerCallbacks py name f kwds data =
      match checkType py pluginNames kwds with
      | .ok () => .ok (f, data ++ [⟨setitem kwds "name" n, false⟩])
      | .error e => .error e.1 := by
  obtain ⟨s, n, rfl, hb, hfresh⟩ := h
  have hany : data.any (fun val => val.kwds.lookup "name" == some n) = false :=
    List.any_eq_false.2 fun e he => by simpa using hfresh e he
  refine ⟨n, ?_⟩
  simp only [registerCallbacks, registerField, registerFieldlike, hb, hany, bind, Except.bind,
    byteifyStringValues_eq_self hs]
  cases checkType py pluginNames kwds <;> rfl

/-- A registration that raises, or appends one entry not handed out yet. -/
def Appends (data : List Entry) (res : Except (PyError × String) (List Entry)) : Prop :=
  ∀ d, res = .ok d → ∃ e, d = data ++ [e] ∧ e.used = false

theorem appends_registerField (py : Python) (name : Value) (kwds : List (String × Value))
    (data : List Entry) : Appends data (registerField py name kwds data) := fun _ h =>
  let ⟨_, _, hd, _⟩ := registerFieldlike_eq_ok h
  ⟨_, hd, rfl⟩

theorem appends_registerFilter (py : Python) (filter : Value) (kwds : List (String × Value))
    (data : List Entry) : Appends data (registerFilter py filter kwds data) := by
  intro d h
  simp only [registerFilter, bind, Except.bind, pure, Except.pure] at h
  split at h
  · cases h
  injection h with h
  exact ⟨_, h.symm, rfl⟩

theorem appends_registerSwitch (py : Python) (name : Value) (kwds : List (String × Value))
    (data : List Entry) : Appends data (registerSwitch py name kwds data) := by
  intro d h
  simp only [registerSwitch, bind, Except.bind, pure, Except.pure] at h
  split at h
  · cases h
  split at h
  · cases h
  injection h with h
  exact ⟨_, h.symm, rfl⟩

/-- `tuple(item.get(x, None) for x in attr_list)`. -/
def Entry.row (attrList : List String) (item : Entry) : List (Option Value) :=
  attrList.map item.kwds.lookup

/-- `_get_generic_data(data, attr_list)`: the rows not handed out yet; every entry marked used. -/
def getGenericData (data : List Entry) (attrList : List String) :
    List (List (Option Value)) × List Entry :=
  (data.filterMap fun item => if item.used then none else some (item.row attrList),
    data.map fun item => { item with used := true })

/-- What a table owes its reader: the entries handed out are a prefix, marked `'__used__'`. -/
def Delivered (attrList : List String) (data : List Entry) (handed : List (List (Option Value))) :
    Prop :=
  ∃ u v, data = u ++ v ∧ (∀ e ∈ u, e.used = true) ∧ (∀ e ∈ v, e.used = false) ∧
    handed = u.map (Entry.row attrList)

section Delivered
variable {attrList : List String} {data : List Entry} {hd : List (List (Option Value))}

theorem delivered_nil : Delivered attrList [] [] := ⟨[], [], rfl, nofun, nofun, rfl⟩

theorem Delivered.append (h : Delivered attrList data hd) {e : Entry} (he : e.used = false) :
    Delivered attrList (data ++ [e]) hd := by
  obtain ⟨u, v, rfl, hu, hv, rfl⟩ := h
  refine ⟨u, v ++ [e], List.append_assoc .., hu, ?_, rfl⟩
  simpa [or_imp, forall_and, he] using hv

/-- A read hands out the rest: with the rows before it, the rows of the whole table. -/
theorem Delivered.read_rows (h : Delivered attrList data hd) :
    hd ++ (getGenericData data attrList).1 = data.map (Entry.row attrList) := by
  obtain ⟨u, v, rfl, hu, hv, rfl⟩ := h
  have hu' : u.filterMap (fun item => if item.used then none else some (item.row attrList)) = [] :=
    List.filterMap_eq_nil_iff.2 fun e he => by simp [hu e he]
  have hv' : v.filterMap (fun item => if item.used then none else some (item.row attrList)) =
      v.map (Entry.row attrList) := by
    rw [← List.filterMap_eq_map]
    exact List.filterMap_congr fun e he => by simp [hv e he]
  simp only [getGenericData, List.filterMap_append, hu', hv', List.nil_append, List.map_append]

theorem Delivered.read (h : Delivered attrList data hd) :
    Delivered attrList (getGenericData data attrList).2 (hd ++ (getGenericData data attrList).1) :=
  ⟨_, [], (List.append_nil _).symm, by simp [getGenericData], nofun, by
    rw [h.read_rows, getGenericData, List.map_map]; rfl⟩

end Delivered

/-- The names of the fields: no two entries of `_plugin_data` share one. -/
def FieldNames (data : List Entry) : Prop := (data.map fun e => e.kwds.lookup "name").Nodup

theorem fieldNames_registerField {py : Python} {name : Value} {kwds : List (String × Value)}
    {data d : List Entry} (h : FieldNames data) (hd : registerField py name kwds data = .ok d) :
    FieldNames d := by
  obtain ⟨n, kwds', rfl, hn⟩ := registerFieldlike_eq_ok hd
  rw [FieldNames, List.map_append, List.nodup_append_comm]
  refine List.nodup_cons.2 ⟨?_, h⟩
  simpa [lookup_setitem_self] using hn

theorem fieldNames_getGenericData {data : List Entry} (h : FieldNames data) (attrList : List String) :
    FieldNames (getGenericData data attrList).2 := by
  rwa [FieldNames, getGenericData, List.map_map]

/-- The tables the C side of the plug-in reads, each with the `attr_list` of its reader. -/
inductive Table
  /-- `_plugin_data`, read by `_get_field_data` -/
  | plugin
  /-- `_filter_data`, read by `_get_filter_data` -/
  | filter
  /-- `_cmd_line_args`, read by `_get_cmd_line_args` -/
  | cmdLine
  deriving DecidableEq, Repr

/-- The `attr_list` a table's reader hands `_get_generic_data`. -/
def Table.attrList : Table → List String
  | .plugin => pluginNameList
  | .filter => filterNameList
  | .cmdLine => cmdLineNameList

/-- The module-level lists of `plugin.py`. -/
structure Registry where
  pluginData : List Entry
  filterData : List Entry
  cmdLineArgs : List Entry
  deriving DecidableEq, Repr

namespace Registry

/-- The lists as the module is imported: empty. -/
def init : Registry := ⟨[], [], []⟩

/-- The list of a table. -/
def data (r : Registry) : Table → List Entry
  | .plugin => r.pluginData
  | .filter => r.filterData
  | .cmdLine => r.cmdLineArgs

/-- The registry with the list of one table replaced. -/
def set (r : Registry) : Table → List Entry → Registry
  | .plugin, d => { r with pluginData := d }
  | .filter, d => { r with filterData := d }
  | .cmdLine, d => { r with cmdLineArgs := d }

@[simp] theorem data_set_self (r : Registry) (t : Table) (d : List Entry) : (r.set t d).data t = d := by
  cases t <;> rfl

@[simp] theorem data_set_of_ne (r : Registry) {t t' : Table} (h : t' ≠ t) (d : List Entry) :
    (r.set t d).data t' = r.data t' := by
  cases t <;> cases t' <;> first | rfl | exact absurd rfl h

end Registry

/-- A call of the module: a registration, or a read of a table by the C side. -/
inductive Op
  | registerField (name : Value) (kwds : List (String × Value))
  | registerFilter (filter : Value) (kwds : List (String × Value))
  | registerSwitch (name : Value) (kwds : List (String × Value))
  /-- `_get_field_data()`, `_get_filter_data()` or `_get_cmd_line_args()` -/
  | get (t : Table)

/-- What a call returns: nothing, an exception, or the rows a read hands out. -/
inductive Reply
  | done
  | raised (e : PyError × String)
  | rows (t : Table) (rs : List (List (Option Value)))
  deriving DecidableEq, Repr

/-- The rows a reply hands out from table `t`. -/
def Reply.handed (t : Table) : Reply → List (List (Option Value))
  | .rows t' rs => if t' = t then rs else []
  | _ => []

/-- The rows a run hands out from table `t`, over all its reads. -/
def handed (t : Table) (reps : List Reply) : List (List (Option Value)) := reps.flatMap (Reply.handed t)

namespace Registry

/-- A registration into table `t`: its list grows, or nothing changes. -/
def commit (r : Registry) (t : Table) : Except (PyError × String) (List Entry) → Registry × Reply
  | .ok d => (r.set t d, .done)
  | .error e => (r, .raised e)

/-- One call of the module. -/
def step (py : Python) (r : Registry) : Op → Registry × Reply
  | .registerField name kwds => r.commit .plugin (registerField py name kwds r.pluginData)
  | .registerFilter filter kwds => r.commit .filter (registerFilter py filter kwds r.filterData)
  | .registerSwitch name kwds => r.commit .cmdLine (registerSwitch py name kwds r.cmdLineArgs)
  | .get t => (r.set t (getGenericData (r.data t) t.attrList).2,
      .rows t (getGenericData (r.data t) t.attrList).1)

/-- A sequence of calls, with the reply to each. -/
def run (py : Python) (r : Registry) : List Op → Registry × List Reply
  | [] => (r, [])
  | op :: ops => ((r.step py op).1.run py ops |>.1, (r.step py op).2 :: ((r.step py op).1.run py ops).2)

theorem run_append (py : Python) (r : Registry) (ops ops' : List Op) :
    r.run py (ops ++ ops') =
      (((r.run py ops).1.run py ops').1, (r.run py ops).2 ++ ((r.run py ops).1.run py ops').2) := by
  induction ops generalizing r with
  | nil => rfl
  | cons op ops ih => simp [run, ih]

/-- What holds between the registry and the rows each table has handed out. -/
structure Inv (r : Registry) (hs : Table → List (List (Option Value))) : Prop where
  delivered : ∀ t, Delivered t.attrList (r.data t) (hs t)
  fieldNames : FieldNames r.pluginData

theorem inv_init : init.Inv fun _ => [] :=
  ⟨fun t => by cases t <;> exact delivered_nil, List.nodup_nil⟩

/-- A failed registration leaves every table as it was. -/
theorem step_raised {py : Python} {r r' : Registry} {op : Op} {e : PyError × String}
    (h : r.step py op = (r', .raised e)) : r' = r := by
  cases op <;> simp only [step, commit] at h
  all_goals first | (split at h <;> simp_all) | simp_all

theorem inv_commit {r : Registry} {hs : Table → List (List (Option Value))} (h : r.Inv hs)
    {t : Table} {res : Except (PyError × String) (List Entry)} (happ : Appends (r.data t) res)
    (hnames : t = .plugin → ∀ d, res = .ok d → FieldNames d) :
    (r.commit t res).1.Inv fun t' => hs t' ++ (r.commit t res).2.handed t' := by
  cases res with
  | error e => simpa [commit, Reply.handed] using h
  | ok d =>
    obtain ⟨e, rfl, he⟩ := happ _ rfl
    refine ⟨fun t' => ?_, ?_⟩
    · simp only [commit, Reply.handed, List.append_nil]
      by_cases ht : t' = t
      · subst ht; simpa using (h.delivered t').append he
      · simpa [ht] using h.delivered t'
    · cases t
      · exact hnames rfl _ rfl
      all_goals exact h.fieldNames

/-- One call keeps the invariant, the rows it hands out added to those of its table. -/
theorem inv_step (py : Python) {r : Registry} {hs : Table → List (List (Option Value))}
    (h : r.Inv hs) (op : Op) : (r.step py op).1.Inv fun t => hs t ++ (r.step py op).2.handed t := by
  cases op with
  | registerField name kwds =>
    exact inv_commit h (appends_registerField py name kwds _) fun _ _ hd => fieldNames_registerField h.fieldNames hd
  | registerFilter filter kwds => exact inv_commit h (appends_registerFilter py filter kwds _) nofun
  | registerSwitch name kwds => exact inv_commit h (appends_registerSwitch py name kwds _) nofun
  | get t =>
    refine ⟨fun t' => ?_, ?_⟩
    · simp only [step, Reply.handed]
      by_cases ht : t = t'
      · subst ht; simpa using (h.delivered t).read
      · simpa [ht, Ne.symm ht] using h.delivered t'
    · cases t
      · exact fieldNames_getGenericData h.fieldNames pluginNameList
      all_goals exact h.fieldNames

theorem inv_run (py : Python) {r : Registry} {hs : Table → List (List (Option Value))}
    (h : r.Inv hs) (ops : List Op) : (r.run py ops).1.Inv fun t => hs t ++ handed t (r.run py ops).2 := by
  induction ops generalizing r hs with
  | nil => simpa [run, handed] using h
  | cons op ops ih => simpa [run, handed, List.append_assoc] using ih (inv_step py h op)

end Registry

/-- Over any sequence of registrations and reads from the module's import on: a registration
that raises changes no table; every table has handed out a prefix of its entries, each once and
in order, a read after it hands out the rest, and no two fields share a name. -/
theorem registry_run_law (py : Python) (ops : List Op) (t : Table) :
    (∀ (r r' : Registry) (op : Op) (e : PyError × String), r.step py op = (r', .raised e) → r' = r) ∧
    Delivered t.attrList ((Registry.init.run py ops).1.data t) (handed t (Registry.init.run py ops).2) ∧
    handed t (Registry.init.run py (ops ++ [.get t])).2 =
      ((Registry.init.run py ops).1.data t).map (Entry.row t.attrList) ∧
    FieldNames (Registry.init.run py ops).1.pluginData := by
  have h := Registry.inv_run py Registry.inv_init ops
  simp only [List.nil_append] at h
  refine ⟨fun _ _ _ _ => Registry.step_raised, h.delivered t, ?_, h.fieldNames⟩
  rw [Registry.run_append, handed, List.flatMap_append, ← handed, ← (h.delivered t).read_rows]
  simp [Registry.run, Registry.step, Reply.handed, handed]

/-- A second field of the same name raises, and the read hands out the first one's row. -/
example : (Registry.init.run .py3 [.registerField (.str "f") [("bin_bytes", .int 4)],
    .registerField (.str "f") [], .get .plugin]).2 =
    [.done, .raised (.valueError, "A field 'f' has already been registered"),
     .rows .plugin [[some (.bytes [102]), none, none, none, none, some (.int 4), none, none, none,
       none, none, none]]] := by
  decide

end Plugin

end Silk
