import Silk.Site
/-! `SiteRepoIter` of `silk/site.py`: how the arguments of `repository_iter` and its siblings
become the start, the end, the `(class, type)` pairs and the sensors handed to the C iterator
`pysilk.RepoIter`. An argument is seen by its Python type, two levels deep: a sequence of items,
each a scalar or a sequence of scalars. `basestring` is Python 3's `str`. -/
namespace Silk
namespace Site

/-- A Python value the code does not look into. -/
inductive Scalar
  | none
  | str (s : String)
  | int (n : Int)
  deriving DecidableEq, Repr

/-- An item of a sequence argument: a scalar, or a list or tuple of scalars. -/
inductive Item
  | scalar (a : Scalar)
  | list (xs : List Scalar)
  | tuple (xs : List Scalar)
  deriving DecidableEq, Repr

/-- An argument: a scalar, or a list or tuple of items. -/
inductive Arg
  | scalar (a : Scalar)
  | list (xs : List Item)
  | tuple (xs : List Item)
  deriving DecidableEq, Repr

/-- What `SiteRepoIter.__init__` raises: an exception with its text, or a `KeyError` of the site
lookups. -/
inductive RepoError
  | raise (e : PyError) (msg : String)
  | key (k : KeyArg)
  deriving DecidableEq, Repr

/-! ### The builtins the code applies -/

namespace Scalar

/-- `type(a).__name__`. -/
def typeName : Scalar → String
  | .none => "NoneType"
  | .str _ => "str"
  | .int _ => "int"

/-- `str(a)`. -/
def text : Scalar → String
  | .none => "None"
  | .str s => s
  | .int n => toString n

/-- `repr(a)`, for strings without quotes, backslashes or unprintable characters. -/
def repr : Scalar → String
  | .str s => "'" ++ s ++ "'"
  | a => a.text

/-- `isinstance(a, basestring)`. -/
def isStr : Scalar → Bool
  | .str _ => true
  | _ => false

end Scalar

/-- The one-character strings of a string, as iterating over it yields them. -/
def chars (s : String) : List Scalar := s.data.map fun c => .str (String.singleton c)

/-- The `TypeError` of `len(a)` on a scalar that is not a string. -/
def noLen (a : Scalar) : RepoError := .raise .typeError ("object of type '" ++ a.typeName ++ "' has no len()")

namespace Item

/-- `len(item)`. -/
def len : Item → Except RepoError Nat
  | .scalar (.str s) => .ok s.length
  | .list xs | .tuple xs => .ok xs.length
  | .scalar a => .error (noLen a)

/-- `item[i]`, for `i` below `len(item)`. -/
def getitem (item : Item) (i : Nat) : Scalar :=
  match item with
  | .scalar (.str s) => (chars s).getD i .none
  | .list xs | .tuple xs => xs.getD i .none
  | .scalar _ => .none

/-- `str(item)`: a tuple of one item keeps its comma. -/
def text : Item → String
  | .scalar a => a.text
  | .list xs => "[" ++ ", ".intercalate (xs.map Scalar.repr) ++ "]"
  | .tuple [x] => "(" ++ x.repr ++ ",)"
  | .tuple xs => "(" ++ ", ".intercalate (xs.map Scalar.repr) ++ ")"

end Item

namespace Arg

/-- `len(arg)`. -/
def len : Arg → Except RepoError Nat
  | .scalar (.str s) => .ok s.length
  | .list xs | .tuple xs => .ok xs.length
  | .scalar a => .error (noLen a)

/-- The items `for x in arg` goes through. -/
def iter : Arg → Except RepoError (List Item)
  | .scalar (.str s) => .ok ((chars s).map .scalar)
  | .list xs | .tuple xs => .ok xs
  | .scalar a => .error (.raise .typeError ("'" ++ a.typeName ++ "' object is not iterable"))

/-- `arg[i]`, for `i` below `len(arg)`. -/
def getitem (arg : Arg) (i : Nat) : Item :=
  match arg with
  | .scalar (.str s) => .scalar ((chars s).getD i .none)
  | .list xs | .tuple xs => xs.getD i (.scalar .none)
  | .scalar _ => .scalar .none

/-- `isinstance(arg, basestring)`. -/
def isStr : Arg → Bool
  | .scalar (.str _) => true
  | _ => false

/-- `arg is None`. -/
def isNone : Arg → Bool
  | .scalar .none => true
  | _ => false

end Arg

/-- `isinstance(item, basestring)`. -/
def Item.isStr : Item → Bool
  | .scalar a => a.isStr
  | _ => false

/-! ### `SiteRepoIter.__init__` -/

/-- The body of the loop over `classtypes`: an item must be a pair of strings. -/
def checkPair (item : Item) : Except RepoError Unit := do
  let n ← item.len
  if n != 2 || !(item.getitem 0).isStr || !(item.getitem 1).isStr then
    throw (.raise .valueError ("\"" ++ item.text ++ "\" is not a valid (class, type) pair"))

/-- `tuple(x)` of an item that passed `checkPair`. -/
def pairOf (x : Item) : Scalar × Item := (x.getitem 0, .scalar (x.getitem 1))

/-- `[classtypes]` for a list or tuple of two strings. -/
def wrapPair : Arg → Scalar → Scalar → Arg
  | .tuple _, a, b => .list [.tuple [a, b]]
  | _, a, b => .list [.list [a, b]]

/-- The `classtypes` argument, when it is not `None`, read as a list of pairs. -/
def readClasstypes (classtypes : Arg) : Except RepoError (List (Scalar × Item)) := do
  let classtypes : Arg := match classtypes with
    | .scalar (.str s) => .list [.scalar (.str s)]
    | c => c
  let n ← classtypes.len
  let classtypes : Arg := match n == 2, classtypes.getitem 0, classtypes.getitem 1 with
    | true, .scalar (.str a), .scalar (.str b) => wrapPair classtypes (.str a) (.str b)
    | _, _, _ => classtypes
  let items ← classtypes.iter
  items.forM checkPair
  pure (items.map pairOf)

/-- `[(cls, t) for t in default_types(cls)]`. -/
def defaultPairs (env : Env) (cls : String) : Except RepoError (List (Scalar × Item)) := do
  let ts ← (defaultTypes env cls).mapError .key
  pure (ts.map fun t => (.str cls, .scalar (.str t)))

/-- `[sensors]` for a string, the argument itself otherwise. -/
def wrapSensors : Arg → Arg
  | .scalar (.str s) => .list [.scalar (.str s)]
  | s => s

/-- What `SiteRepoIter.__init__` hands `pysilk.RepoIter.__init__`, with the root directory it
records; `D` is the type of dates. -/
structure RepoArgs (D : Type) where
  rootdir : String
  start : D
  end_ : Option D
  classtypes : Option (List (Scalar × Item))
  sensors : Arg
  missing : Bool
  deriving DecidableEq, Repr

/-- `SiteRepoIter.__init__`, given the root directory `get_data_rootdir()` returns and the date
`datetime.date.today()` returns. The class name is a string or `None`. -/
def SiteRepoIter.init {D : Type} (env : Env) (rootdir : String) (today : D) (start end_ : Option D)
    (classname : Option String) (types classtypes sensors : Arg) (missing : Bool) :
    Except RepoError (RepoArgs D) := do
  let start ← match start with
    | some start => pure start
    | none =>
      if end_.isSome then throw (.raise .valueError "end may not be specified without start")
      else pure today
  let classtypes ← if classtypes.isNone then pure none else do
    if classname.isSome || !types.isNone then
      throw (.raise .valueError "classtypes cannot be specified alongside classname or types")
    some <$> readClasstypes classtypes
  let classtypes ← match classname with
    | none =>
      if !types.isNone then throw (.raise .valueError "types requires classname to be specified")
      else if classtypes.isNone then do
        let dc ← (defaultClass env).mapError .key
        match dc with
        | none => pure classtypes
        | some dc => some <$> defaultPairs env dc
      else pure classtypes
    | some classname =>
      if types.isNone then some <$> defaultPairs env classname
      else match types with
        | .scalar (.str t) => pure (some [(.str classname, .scalar (.str t))])
        | _ => do
          let ts ← types.iter
          pure (some (ts.map fun t => (.str classname, t)))
  pure ⟨rootdir, start, end_, classtypes, wrapSensors sensors, missing⟩

/-- `SiteRepoIter.__iter__`, before it hands over to the C iterator. -/
def SiteRepoIter.iter {D : Type} (self : RepoArgs D) (rootdir : String) : Except RepoError Unit :=
  if self.rootdir != rootdir then
    throw (.raise .runtimeError "Underlying root directory changed during iteration")
  else pure ()

/-! ### What the arguments select -/

/-- The pairs a class of the site selects by default: its name with the type of each of its
default flowtypes. -/
def siteDefaultPairs (env : Env) (c : ClassItem) : List (Scalar × Item) :=
  (c.defaultFlowtypes.filterMap fun x => (env.flowtypeInfo.lookup x).map (·.type)).map
    fun t => (.str c.name, .scalar (.str t))

theorem defaultPairs_eq {env : Env} (hav : env.available = true) (hwf : WellFormed env)
    {p : Nat × ClassItem} (hp : p ∈ env.classInfo) :
    defaultPairs env p.2.name = .ok (siteDefaultPairs env p.2) := by
  simp [defaultPairs, (types_eq hav hwf hp).2, Except.mapError, bind, Except.bind, pure, Except.pure,
    siteDefaultPairs]

theorem readClasstypes_str (s : String) : readClasstypes (.scalar (.str s)) =
    if s.length = 2 then .ok [((chars s).getD 0 .none, .scalar ((chars s).getD 1 .none))]
    else .error (.raise .valueError ("\"" ++ s ++ "\" is not a valid (class, type) pair")) := by
  by_cases h : s.length = 2
  · obtain ⟨c0, c1, hs⟩ : ∃ c0 c1, s.data = [c0, c1] := List.length_eq_two.1 (by cases s; exact h)
    have hc : chars s = [.str (String.singleton c0), .str (String.singleton c1)] := by simp [chars, hs]
    simp [readClasstypes, checkPair, Arg.len, Arg.iter, Arg.getitem, Item.len, Item.getitem, h, pairOf,
      bind, Except.bind, pure, Except.pure, Functor.map, Except.map, List.forM_cons, hc, Scalar.isStr]
  · simp [readClasstypes, checkPair, Arg.len, Arg.iter, Arg.getitem, Item.len, Item.getitem, h, pairOf,
      bind, Except.bind, pure, Except.pure, Functor.map, Except.map, List.forM_cons, Item.text, Scalar.text]

theorem readClasstypes_pair (a b : String) :
    readClasstypes (.list [.scalar (.str a), .scalar (.str b)]) = .ok [(.str a, .scalar (.str b))] ∧
    readClasstypes (.tuple [.scalar (.str a), .scalar (.str b)]) = .ok [(.str a, .scalar (.str b))] := by
  constructor <;> simp [readClasstypes, checkPair, Arg.len, Arg.iter, Arg.getitem, Item.len, Item.getitem, pairOf,
    wrapPair, bind, Except.bind, pure, Except.pure, Functor.map, Except.map, List.forM_cons,
    Scalar.isStr]

/-- With no end and no `types`: with no class and no `classtypes`, the default class of a
well-formed site with its default types, or nothing when the site has no default class; with a
class of the site, that class with its default types. A `classtypes` string is read as the pair
of its two characters, and fails for any other length; a list or a tuple of two strings is read
as one pair. -/
theorem site_repo_iter_law (env : Env) (hav : env.available = true) (hwf : WellFormed env) {D : Type}
    (rootdir : String) (today : D) (start : Option D) (sensors : Arg) (missing : Bool) :
    (∀ p ∈ env.classInfo, env.defaultClassid = some p.1 →
      SiteRepoIter.init env rootdir today start none none (.scalar .none) (.scalar .none) sensors
        missing = .ok ⟨rootdir, start.getD today, none, some (siteDefaultPairs env p.2),
          wrapSensors sensors, missing⟩) ∧
    (env.defaultClassid = none →
      SiteRepoIter.init env rootdir today start none none (.scalar .none) (.scalar .none) sensors
        missing = .ok ⟨rootdir, start.getD today, none, none, wrapSensors sensors, missing⟩) ∧
    (∀ p ∈ env.classInfo,
      SiteRepoIter.init env rootdir today start none (some p.2.name) (.scalar .none) (.scalar .none)
        sensors missing = .ok ⟨rootdir, start.getD today, none, some (siteDefaultPairs env p.2),
          wrapSensors sensors, missing⟩) ∧
    (∀ s : String, SiteRepoIter.init env rootdir today start none none (.scalar .none)
      (.scalar (.str s)) sensors missing =
        if s.length = 2 then .ok ⟨rootdir, start.getD today, none,
          some [((chars s).getD 0 .none, .scalar ((chars s).getD 1 .none))], wrapSensors sensors, missing⟩
        else .error (.raise .valueError ("\"" ++ s ++ "\" is not a valid (class, type) pair"))) ∧
    (∀ a b : String, SiteRepoIter.init env rootdir today start none none (.scalar .none)
      (.list [.scalar (.str a), .scalar (.str b)]) sensors missing =
        .ok ⟨rootdir, start.getD today, none, some [(.str a, .scalar (.str b))], wrapSensors sensors,
          missing⟩ ∧
      SiteRepoIter.init env rootdir today start none none (.scalar .none)
        (.tuple [.scalar (.str a), .scalar (.str b)]) sensors missing =
        .ok ⟨rootdir, start.getD today, none, some [(.str a, .scalar (.str b))], wrapSensors sensors,
          missing⟩) := by
  refine ⟨fun p hp hd => ?_, fun hd => ?_, fun p hp => ?_, fun s => ?_, fun a b => ?_⟩
  · have hdc : defaultClass env = .ok (some p.2.name) := by
      rw [defaultClass_eq hav hwf, hd]; simp [lookup_of_mem hwf.classKeys hp]
    cases start <;> simp [SiteRepoIter.init, Arg.isNone, hdc, defaultPairs_eq hav hwf hp,
      Except.mapError, bind, Except.bind, pure, Except.pure, Functor.map, Except.map]
  · have hdc : defaultClass env = .ok none := by rw [defaultClass_eq hav hwf, hd]; rfl
    cases start <;> simp [SiteRepoIter.init, Arg.isNone, hdc, Except.mapError, bind, Except.bind,
      pure, Except.pure]
  · cases start <;> simp [SiteRepoIter.init, Arg.isNone, defaultPairs_eq hav hwf hp, bind,
      Except.bind, pure, Except.pure, Functor.map, Except.map]
  · cases start <;> by_cases h : s.length = 2 <;> simp [SiteRepoIter.init, Arg.isNone,
      readClasstypes_str, h, bind, Except.bind, pure, Except.pure, Functor.map, Except.map]
  · cases start <;> simp [SiteRepoIter.init, Arg.isNone, readClasstypes_pair, bind, Except.bind,
      pure, Except.pure, Functor.map, Except.map]

theorem site_repo_iter_law_defaults : twoSensorSite.available = true ∧ WellFormed twoSensorSite ∧
    SiteRepoIter.init twoSensorSite "/data" (0 : Nat) none none none (.scalar .none) (.scalar .none)
      (.scalar (.str "S0")) false =
      .ok ⟨"/data", 0, none, some [(.str "all", .scalar (.str "in"))], .list [.scalar (.str "S0")], false⟩ :=
  ⟨rfl, twoSensorSite_wellFormed, (site_repo_iter_law twoSensorSite rfl twoSensorSite_wellFormed "/data"
    (0 : Nat) none (.scalar (.str "S0")) false).1 (0, ⟨0, "all", [0, 1], [0, 1], [0]⟩) (by decide) rfl⟩

end Site

end Silk
