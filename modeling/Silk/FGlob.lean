import Mathlib.Data.List.DropRight
import Silk.Python
/-! `FGlob` of `silk/fglob.py`: the command line it builds for `rwfglob` from a specification of
files, and the file names it yields from the program's output. An argument is seen by its Python
type; `date.today()` and what the program prints are inputs. The interpreter is Python 3.5 or
later, where every `time` object is true; before 3.5 midnight was false. -/
namespace Silk
namespace FGlob

/-- An item of a list argument. -/
inductive Elem
  | str (s : String)
  | int (n : Int)
  deriving DecidableEq, Repr

/-- An argument of `FGlob`, by its Python type. -/
inductive Value
  | none
  | str (s : String)
  | int (n : Int)
  | list (items : List Elem)
  | datetime (year month day hour : Nat)
  | date (year month day : Nat)
  | time (hour : Nat)
  deriving DecidableEq, Repr

/-- The truth value of an argument; `time` objects are true, as on Python 3.5 and later. -/
def Value.truthy : Value → Bool
  | .none => false
  | .str s => s != ""
  | .int n => n != 0
  | .list items => !items.isEmpty
  | .datetime .. | .date .. | .time _ => true

/-- `str(e)`. -/
def Elem.text : Elem → String
  | .str s => s
  | .int n => toString n

/-- `str(n)` of an integer is never empty, so an integer sensor in a list always adds one. -/
theorem toString_int_ne_empty (n : Int) : toString n ≠ "" := fun h =>
  absurd (congrArg String.length h) (toString_int_length_pos n).ne'

/-- `'%02d' % n`. -/
def pad2 (n : Nat) : String := if n < 10 then "0" ++ toString n else toString n

/-- `strftime("%Y/%m/%d")`. -/
def strftimeDay (year month day : Nat) : String :=
  toString year ++ "/" ++ pad2 month ++ "/" ++ pad2 day

/-- `strftime("%Y/%m/%d:%H")`. -/
def strftimeHour (year month day hour : Nat) : String :=
  strftimeDay year month day ++ ":" ++ pad2 hour

/-- The conversion of `start_date` and `end_date`: a `datetime` to its hour, a `date` to its day,
a `time` to that hour of `today`. -/
def convertDate (today : Nat × Nat × Nat) : Value → Value
  | .datetime y m d h => .str (strftimeHour y m d h)
  | .date y m d => .str (strftimeDay y m d)
  | .time h => .str (strftimeHour today.1 today.2.1 today.2.2 h)
  | v => v

/-- `",".join(map(str, sensors))` for a list. -/
def convertSensors : Value → Value
  | .list items => .str (",".intercalate (items.map Elem.text))
  | v => v

/-- `",".join(items)`, which takes strings only. -/
def join (items : List Elem) : Except (PyError × String) String :=
  match items.findIdx? (fun | .str _ => false | .int _ => true) with
  | some i => .error (.typeError, "sequence item " ++ toString i ++ ": expected str instance, int found")
  | none => .ok (",".intercalate (items.map Elem.text))

/-- `",".join(type)` for a list. -/
def convertType : Value → Except (PyError × String) Value
  | .list items => .str <$> join items
  | v => pure v

/-- `rwfglob_executable`. -/
def rwfglobExecutable : String := "rwfglob"

/-- The body of the loop over the specifications: a true one must be a string, and adds its
option and value. -/
def addSpec (args : List String) (spec : Value × String) : Except (PyError × String) (List String) :=
  if spec.1.truthy then
    match spec.1 with
    | .str val => .ok (args ++ ["--" ++ spec.2, val])
    | _ => .error (.valueError, "Specifications must be strings")
  else .ok args

/-- The specifications the loop of `__init__` reads, paired with their options. -/
def specs (classname type sensors startDate endDate dataRootdir siteConfigFile : Value) :
    List (Value × String) :=
  [(classname, "class"), (type, "type"), (sensors, "sensors"), (startDate, "start-date"),
    (endDate, "end-date"), (dataRootdir, "data-rootdir"), (siteConfigFile, "site-config-file")]

/-- `FGlob.__init__`: `self.args`. -/
def init (today : Nat × Nat × Nat)
    (classname type sensors startDate endDate dataRootdir siteConfigFile : Value) :
    Except (PyError × String) (List String) := do
  if !(classname.truthy || type.truthy || sensors.truthy || startDate.truthy || endDate.truthy) then
    throw (.valueError, "Must contain a specification")
  if endDate.truthy && !startDate.truthy then
    throw (.valueError, "An end_date requires a start_date")
  let sensors := convertSensors sensors
  let type ← convertType type
  let startDate := convertDate today startDate
  let endDate := convertDate today endDate
  (specs classname type sensors startDate endDate dataRootdir siteConfigFile).foldlM
    addSpec [rwfglobExecutable, "--no-summary"]

/-- `line.rstrip('\n\r')`. -/
def rstripNewlines (line : String) : String :=
  String.mk (line.data.rdropWhile (fun c => c == '\n' || c == '\r'))

/-- The `rwfglob` process as `Popen` gives it: its output lines, and `returncode`, which only
`poll()` and `wait()` set. -/
structure Proc where
  stdout : List String
  returncode : Option Int

/-- The body of the loop over `rwfglob.stdout`. -/
def iterLine (proc : Proc) (line : String) : Except (PyError × String) String :=
  if proc.returncode ∉ [none, some 0] then .error (.runtimeError, "rwfglob failed")
  else .ok (rstripNewlines line)

/-- `FGlob.__iter__`: the names yielded, given what `Popen` did: an `OSError` with its `errno`
(one other than `ENOENT` is raised again, named here by the number), or the process. The loop
calls neither `poll()` nor `wait()`. -/
def iter (args : List String) (popen : Except Nat (List String)) :
    Except (PyError × String) (List String) :=
  match popen with
  | .error errno =>
    if errno = 2 then .error (.runtimeError, "Cannot find the " ++ args.headD "" ++ " program in PATH")
    else .error (.osError, toString errno)
  | .ok stdout =>
    let rwfglob : Proc := ⟨stdout, none⟩
    rwfglob.stdout.mapM (iterLine rwfglob)

/-! ### The command line

What the loop of `__init__` adds, said once: a specification passes when it is false or a
string, and a true string adds its option and itself. -/

/-- Whether a specification passes the loop's check: a false value, or a string. -/
def Value.passes (v : Value) : Bool := !v.truthy || v matches .str _

/-- The option and value a specification adds to the command line. -/
def specOption : Value × String → Option (String × String)
  | (.str val, arg) => if val = "" then none else some (arg, val)
  | _ => none

/-- Options and their values as they stand on a command line. -/
def encode (opts : List (String × String)) : List String :=
  opts.flatMap fun o => ["--" ++ o.1, o.2]

@[simp] theorem encode_nil : encode [] = [] := rfl

@[simp] theorem encode_cons (o : String × String) (opts : List (String × String)) :
    encode (o :: opts) = ("--" ++ o.1) :: o.2 :: encode opts := rfl

/-- The options of `rwfglob` the loop knows, in its order. -/
def optionNames : List String :=
  ["class", "type", "sensors", "start-date", "end-date", "data-rootdir", "site-config-file"]

theorem addSpec_eq (args : List String) (sp : Value × String) :
    addSpec args sp = if sp.1.passes then .ok (args ++ encode (specOption sp).toList)
      else .error (.valueError, "Specifications must be strings") := by
  obtain ⟨v, arg⟩ := sp
  cases v with
  | str s => by_cases hs : s = "" <;> simp [addSpec, Value.passes, Value.truthy, specOption, hs]
  | _ => simp [addSpec, Value.passes, Value.truthy, specOption]

/-- The loop, in one equation: it raises at the first specification that does not pass, and
otherwise appends the options of all. -/
theorem foldlM_addSpec (sps : List (Value × String)) (acc : List String) :
    sps.foldlM addSpec acc = if sps.all (·.1.passes) then .ok (acc ++ encode (sps.filterMap specOption))
      else .error (.valueError, "Specifications must be strings") := by
  induction sps generalizing acc with
  | nil => simp [pure, Except.pure]
  | cons sp sps ih =>
    rw [List.foldlM_cons, addSpec_eq]
    by_cases hp : sp.1.passes
    · rw [List.all_cons, hp, Bool.true_and]
      cases ho : specOption sp <;> simp [ho, ih, bind, Except.bind, List.filterMap_cons]
    · simp [hp, bind, Except.bind]

theorem names_filterMap_specOption (sps : List (Value × String)) :
    ((sps.filterMap specOption).map Prod.fst).Sublist (sps.map Prod.snd) := by
  induction sps with
  | nil => simp
  | cons sp sps ih =>
    obtain ⟨v, arg⟩ := sp
    cases v with
    | str s => by_cases hs : s = "" <;> simp [specOption, hs, ih.cons, ih.cons₂]
    | _ => simpa [specOption] using ih.cons _

theorem values_filterMap_specOption {sps : List (Value × String)} {o : String × String}
    (h : o ∈ sps.filterMap specOption) : o.2 ≠ "" := by
  obtain ⟨⟨v, arg⟩, -, ho⟩ := List.mem_filterMap.1 h
  cases v <;> simp only [specOption, Option.some.injEq, reduceCtorEq] at ho
  split_ifs at ho with hs
  cases ho
  exact hs

theorem init_eq_ok {today : Nat × Nat × Nat} {c t s sd ed dr sc : Value} {args : List String}
    (h : init today c t s sd ed dr sc = .ok args) :
    ∃ t', convertType t = .ok t' ∧
      (specs c t' (convertSensors s) (convertDate today sd) (convertDate today ed) dr sc).all
        (·.1.passes) ∧
      args = rwfglobExecutable :: "--no-summary" :: encode
        ((specs c t' (convertSensors s) (convertDate today sd) (convertDate today ed) dr sc).filterMap
          specOption) := by
  simp only [init, bind, Except.bind, pure, Except.pure] at h
  split_ifs at h
  cases ht : convertType t with
  | error e => simp [ht] at h
  | ok t' =>
    simp only [ht, foldlM_addSpec] at h
    split_ifs at h with hp
    cases h
    exact ⟨t', rfl, hp, rfl⟩

theorem iterLine_eq_ok (line : String) (stdout : List String) :
    iterLine ⟨stdout, none⟩ line = .ok (rstripNewlines line) := by
  simp [iterLine]

theorem mapM_iterLine (lines stdout : List String) :
    lines.mapM (iterLine ⟨stdout, none⟩) = .ok (lines.map rstripNewlines) := by
  induction lines with
  | nil => rfl
  | cons l ls ih => rw [List.mapM_cons, iterLine_eq_ok, ih]; rfl

theorem rstripNewlines_last (line : String) :
    ∀ c ∈ (rstripNewlines line).data.getLast?, c ≠ '\n' ∧ c ≠ '\r' := by
  intro c hc
  obtain ⟨hl, rfl⟩ := List.mem_getLast?_eq_getLast hc
  simpa [not_or] using List.rdropWhile_last_not _ _ hl

/-- What `FGlob` does. A built command line is the program, `--no-summary` and the options
of the true specifications, each once, in the loop's order and with a non-empty value, and
starting it where the program is missing names it. An integer for `sensors` raises, where a
list of it passes; a `time` is that hour of today. Iteration yields every line of the output
without its line end and never raises `rwfglob failed`, since `returncode` stays `None`. -/
theorem fglob_law (today : Nat × Nat × Nat) (c t s sd ed dr sc : Value) (args lines : List String)
    (n : Int) (hour : Nat) :
    (init today c t s sd ed dr sc = .ok args →
      ∃ t', convertType t = .ok t' ∧ ∃ opts,
        opts = (specs c t' (convertSensors s) (convertDate today sd) (convertDate today ed) dr
          sc).filterMap specOption ∧
        args = rwfglobExecutable :: "--no-summary" :: encode opts ∧
        (opts.map Prod.fst).Sublist optionNames ∧ (∀ o ∈ opts, o.2 ≠ "") ∧
        iter args (.error 2) = .error (.runtimeError, "Cannot find the rwfglob program in PATH")) ∧
    (n ≠ 0 → (∀ args, init today c t (.int n) sd ed dr sc ≠ .ok args) ∧
      init today .none .none (.list [.int n]) .none .none .none .none =
        .ok [rwfglobExecutable, "--no-summary", "--sensors", toString n]) ∧
    init today c t s (.time hour) ed dr sc =
      init today c t s (.datetime today.1 today.2.1 today.2.2 hour) ed dr sc ∧
    iter args (.ok lines) = .ok (lines.map rstripNewlines) ∧
    ∀ l ∈ lines, ∀ ch ∈ (rstripNewlines l).data.getLast?, ch ≠ '\n' ∧ ch ≠ '\r' := by
  refine ⟨fun h => ?_, fun hn => ⟨fun args h => ?_, ?_⟩, rfl, mapM_iterLine lines lines,
    fun l _ => rstripNewlines_last l⟩
  · obtain ⟨t', ht, -, rfl⟩ := init_eq_ok h
    exact ⟨t', ht, _, rfl, rfl, names_filterMap_specOption _, fun _ => values_filterMap_specOption,
      rfl⟩
  · obtain ⟨t', -, hp, -⟩ := init_eq_ok h
    simp [specs, convertSensors, Value.passes, Value.truthy, hn] at hp
  · simp only [init, Value.truthy, convertType, pure, Except.pure, bind, Except.bind]
    rw [foldlM_addSpec]
    simp [specs, Value.truthy, convertSensors, convertDate, Value.passes, specOption, Elem.text,
      List.filterMap_cons, show ",".intercalate [toString n] = toString n from rfl,
      toString_int_ne_empty]

/-- A class and a start time of day: the command line, and the error where `rwfglob` is
missing. -/
theorem fglob_law_class_start :
    init (2026, 11, 9) (.str "all") .none .none (.time 13) .none .none .none =
        .ok ["rwfglob", "--no-summary", "--class", "all", "--start-date", "2026/11/09:13"] ∧
      iter ["rwfglob", "--no-summary", "--class", "all", "--start-date", "2026/11/09:13"] (.error 2) =
        .error (.runtimeError, "Cannot find the rwfglob program in PATH") := by
  obtain ⟨_, _, _, _, _, _, _, h⟩ := (fglob_law (2026, 11, 9) (.str "all") .none .none (.time 13)
    .none .none .none ["rwfglob", "--no-summary", "--class", "all", "--start-date", "2026/11/09:13"]
    [] 1 0).1 rfl
  exact ⟨rfl, h⟩

end FGlob

end Silk
