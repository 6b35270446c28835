import Silk.Python
/-! The site maps of `silk/site.py`. `_init_maps` turns what the C module reports of the site
configuration, dicts keyed by numeric id, into dicts keyed by name, and the lookups of the module
read them. The C module's reports are the environment, the same at every call; so the maps
`_init_maps` leaves behind are the ones a fresh call computes, and a `KeyError` it raises is raised
again by every later call, before any lookup sees the maps it left half filled. A dict is its list
of items in insertion order: the interpreter is Python 3.7 or later, where dicts keep that order,
so that the names `sensors()` and `classes()` list come in the order of the site. -/
namespace Silk
namespace Site

/-- The argument of a `KeyError` the module raises: an id, a name, or the builtin `id`. -/
inductive KeyArg
  | id (n : Nat)
  | name (s : String)
  | builtinId
  deriving DecidableEq, Repr

/-- An item of `pysilk.sensor_info()`. -/
structure SensorItem where
  id : Nat
  name : String
  classes : List Nat
  description : Option String
  deriving DecidableEq, Repr

/-- An item of `pysilk.class_info()['data']`. -/
structure ClassItem where
  id : Nat
  name : String
  sensors : List Nat
  flowtypes : List Nat
  defaultFlowtypes : List Nat
  deriving DecidableEq, Repr

/-- An item of `pysilk.flowtype_info()`; `cls` is its `'class'`. -/
structure FlowtypeItem where
  id : Nat
  name : String
  cls : Nat
  type : String
  deriving DecidableEq, Repr

/-- What the C module reports: `have_site_config() or init_site()`, and the info dicts by id. -/
structure Env where
  available : Bool
  sensorInfo : List (Nat × SensorItem)
  defaultClassid : Option Nat
  classInfo : List (Nat × ClassItem)
  flowtypeInfo : List (Nat × FlowtypeItem)
  deriving DecidableEq, Repr

/-- An item of `_sensor_map`: a sensor item with its classes by name. -/
structure SensorEntry where
  id : Nat
  name : String
  classes : List String
  description : Option String
  deriving DecidableEq, Repr

/-- An item of `_class_map`: a class item with its sensors and flowtypes by name. -/
structure ClassEntry where
  id : Nat
  name : String
  sensors : List String
  flowtypes : List String
  defaultFlowtypes : List String
  deriving DecidableEq, Repr

/-- An item of `_flowtype_map`: a flowtype item with its class by name. -/
structure FlowtypeEntry where
  id : Nat
  name : String
  cls : String
  type : String
  deriving DecidableEq, Repr

/-- The module's maps and `_default_class`. -/
structure Maps where
  sensorMap : List (String × SensorEntry)
  classMap : List (String × ClassEntry)
  flowtypeMap : List (String × FlowtypeEntry)
  classtypeMap : List (String × List (String × FlowtypeEntry))
  defaultClass : Option String
  deriving DecidableEq, Repr

/-- The maps as the module is imported. -/
def Maps.empty : Maps := ⟨[], [], [], [], none⟩

/-! ### Dicts -/

/-- `d[k] = v` on a dict keyed by name: a key already there keeps its place. -/
def setitem {α : Type} : List (String × α) → String → α → List (String × α)
  | [], k, v => [(k, v)]
  | (k', v') :: d, k, v => if k' = k then (k, v) :: d else (k', v') :: setitem d k v

/-- `d[k]` on a dict keyed by id. -/
def getId {α : Type} (d : List (Nat × α)) (k : Nat) : Except KeyArg α :=
  match d.lookup k with
  | some v => .ok v
  | none => .error (.id k)

/-- `d[k]` on a dict keyed by name. -/
def getName {α : Type} (d : List (String × α)) (k : String) : Except KeyArg α :=
  match d.lookup k with
  | some v => .ok v
  | none => .error (.name k)

/-- `tuple(d[x]['name'] for x in ids)`. -/
def names {α : Type} (d : List (Nat × α)) (name : α → String) :
    List Nat → Except KeyArg (List String)
  | [] => .ok []
  | x :: xs => do
    let v ← getId d x
    let rest ← names d name xs
    pure (name v :: rest)

section Dicts
variable {α : Type}

theorem bind_eq_ok {ε β : Type} {x : Except ε α} {f : α → Except ε β} {r : β} :
    x >>= f = .ok r ↔ ∃ a, x = .ok a ∧ f a = .ok r := by
  cases x <;> simp [bind, Except.bind]

theorem bind_eq_error {ε β : Type} {x : Except ε α} {f : α → Except ε β} {e : ε} :
    x >>= f = .error e ↔ x = .error e ∨ ∃ a, x = .ok a ∧ f a = .error e := by
  cases x <;> simp [bind, Except.bind]

theorem exists_bind_eq_ok {ε β : Type} {x : Except ε α} {f : α → Except ε β} :
    (∃ r, x >>= f = .ok r) ↔ ∃ a, x = .ok a ∧ ∃ r, f a = .ok r := by
  simp only [bind_eq_ok]
  exact ⟨fun ⟨r, a, h1, h2⟩ => ⟨a, h1, r, h2⟩, fun ⟨a, h1, r, h2⟩ => ⟨r, a, h1, h2⟩⟩

theorem exists_pure_eq_ok {ε : Type} (a : α) : ∃ r, (pure a : Except ε α) = .ok r := ⟨a, rfl⟩

theorem lookup_cons_ite {β : Type} [BEq β] [LawfulBEq β] [DecidableEq β] (a : β) (b : α) (l : List (β × α)) (k : β) :
    ((a, b) :: l).lookup k = if k = a then some b else l.lookup k := by
  by_cases h : k = a
  · subst h; simp
  · simp [List.lookup_cons, beq_false_of_ne h, h]

@[simp] theorem lookup_setitem (d : List (String × α)) (k k' : String) (v : α) :
    (setitem d k v).lookup k' = if k' = k then some v else d.lookup k' := by
  induction d with
  | nil => simp only [setitem, lookup_cons_ite]
  | cons kv d ih =>
    obtain ⟨k'', v''⟩ := kv
    by_cases h : k'' = k
    · subst h; simp only [setitem, if_pos, lookup_cons_ite]; split_ifs <;> rfl
    · simp only [setitem, if_neg h, lookup_cons_ite, ih]
      rcases eq_or_ne k' k'' with rfl | h1 <;> rcases eq_or_ne k' k with rfl | h2 <;> simp_all

theorem keys_setitem (d : List (String × α)) (k : String) (v : α) :
    (setitem d k v).map Prod.fst = if k ∈ d.map Prod.fst then d.map Prod.fst else d.map Prod.fst ++ [k] := by
  induction d with
  | nil => simp only [setitem, List.map_cons, List.map_nil, List.not_mem_nil, ↓reduceIte, List.nil_append]
  | cons kv d ih =>
    obtain ⟨k', v'⟩ := kv
    unfold setitem
    by_cases h : k' = k
    · subst h; simp only [↓reduceIte, List.map_cons, List.mem_cons_self]
    · simp only [if_neg h, List.map_cons, ih, List.mem_cons, Ne.symm h, false_or]
      split_ifs <;> rfl

theorem lookup_eq_none_iff {β : Type} [BEq β] [LawfulBEq β] [DecidableEq β] (d : List (β × α)) (k : β) :
    d.lookup k = none ↔ k ∉ d.map Prod.fst := by
  induction d with
  | nil => simp
  | cons kv d ih =>
    obtain ⟨k', v'⟩ := kv
    by_cases h : k = k'
    · subst h
      simp only [lookup_cons_ite, ↓reduceIte, reduceCtorEq, List.map_cons, List.mem_cons_self,
        not_true_eq_false]
    · simp only [lookup_cons_ite, h, ↓reduceIte, ih, List.map_cons, List.mem_cons, false_or]

theorem getId_eq_ok {d : List (Nat × α)} {k : Nat} {v : α} : getId d k = .ok v ↔ d.lookup k = some v := by
  unfold getId; cases d.lookup k <;> simp

theorem getId_eq_error {d : List (Nat × α)} {k : Nat} {e : KeyArg} :
    getId d k = .error e ↔ e = .id k ∧ k ∉ d.map Prod.fst := by
  rw [← lookup_eq_none_iff]; unfold getId
  cases d.lookup k <;> simp [eq_comm]

theorem exists_getId_eq_ok {d : List (Nat × α)} {k : Nat} :
    (∃ v, getId d k = .ok v) ↔ k ∈ d.map Prod.fst := by
  simp only [getId_eq_ok, ← Option.ne_none_iff_exists', ne_eq, lookup_eq_none_iff, not_not]

theorem getName_eq_ok {d : List (String × α)} {k : String} {v : α} :
    getName d k = .ok v ↔ d.lookup k = some v := by
  unfold getName; cases d.lookup k <;> simp

theorem names_ok_iff {d : List (Nat × α)} {name : α → String} {ids : List Nat} :
    (∃ r, names d name ids = .ok r) ↔ ∀ x ∈ ids, x ∈ d.map Prod.fst := by
  induction ids with
  | nil => exact iff_of_true ⟨[], rfl⟩ fun _ => False.elim ∘ List.not_mem_nil _
  | cons x xs ih =>
    simp only [names, exists_bind_eq_ok, exists_pure_eq_ok, and_true, exists_and_right,
      exists_getId_eq_ok, ih, List.forall_mem_cons]

theorem names_eq_error {d : List (Nat × α)} {name : α → String} {ids : List Nat} {e : KeyArg}
    (h : names d name ids = .error e) : ∃ x ∈ ids, e = .id x ∧ x ∉ d.map Prod.fst := by
  induction ids with
  | nil => cases h
  | cons x xs ih =>
    simp only [names, bind_eq_error, pure, Except.pure, reduceCtorEq, and_false, exists_false,
      or_false] at h
    rcases h with hx | ⟨_, -, h⟩
    · exact ⟨x, List.mem_cons_self _ _, getId_eq_error.1 hx⟩
    · obtain ⟨y, hy, hye⟩ := ih h
      exact ⟨y, List.mem_cons_of_mem _ hy, hye⟩

end Dicts

/-! ### `_init_maps`, loop by loop -/

/-- The body of the loop over `itervalues(si)`. -/
def addSensor (ci : List (Nat × ClassItem)) (m : List (String × SensorEntry)) (item : SensorItem) :
    Except KeyArg (List (String × SensorEntry)) := do
  let classes ← names ci (·.name) item.classes
  pure (setitem m item.name ⟨item.id, item.name, classes, item.description⟩)

/-- The body of the loop over `itervalues(ci)`. -/
def addClass (si : List (Nat × SensorItem)) (fi : List (Nat × FlowtypeItem))
    (m : List (String × ClassEntry)) (item : ClassItem) : Except KeyArg (List (String × ClassEntry)) := do
  let sensors ← names si (·.name) item.sensors
  let flowtypes ← names fi (·.name) item.flowtypes
  let defaultFlowtypes ← names fi (·.name) item.defaultFlowtypes
  pure (setitem m item.name ⟨item.id, item.name, sensors, flowtypes, defaultFlowtypes⟩)

/-- The body of the loop over `itervalues(fi)`; the class's name, read twice, is read once here. -/
def addFlowtype (ci : List (Nat × ClassItem))
    (m : List (String × FlowtypeEntry) × List (String × List (String × FlowtypeEntry)))
    (item : FlowtypeItem) :
    Except KeyArg (List (String × FlowtypeEntry) × List (String × List (String × FlowtypeEntry))) := do
  let c ← getId ci item.cls
  let newitem : FlowtypeEntry := ⟨item.id, item.name, c.name, item.type⟩
  pure (setitem m.1 item.name newitem,
    setitem m.2 c.name (setitem ((m.2.lookup c.name).getD []) item.type newitem))

/-- The sensor loop of `_init_maps`. -/
def sensorLoop (env : Env) : Except KeyArg (List (String × SensorEntry)) :=
  env.sensorInfo.foldlM (fun m p => addSensor env.classInfo m p.2) []

/-- `_default_class = ci[default_classid]['name']` when the id is not `None`. -/
def defaultStage (env : Env) : Except KeyArg (Option String) :=
  match env.defaultClassid with
  | none => .ok none
  | some i => do
    let c ← getId env.classInfo i
    pure (some c.name)

/-- The class loop of `_init_maps`. -/
def classLoop (env : Env) : Except KeyArg (List (String × ClassEntry)) :=
  env.classInfo.foldlM (fun m p => addClass env.sensorInfo env.flowtypeInfo m p.2) []

/-- The flowtype loop of `_init_maps`. -/
def flowtypeLoop (env : Env) :
    Except KeyArg (List (String × FlowtypeEntry) × List (String × List (String × FlowtypeEntry))) :=
  env.flowtypeInfo.foldlM (fun m p => addFlowtype env.classInfo m p.2) ([], [])

/-- `_init_maps()`: whether the maps are filled, and the maps. -/
def initMaps (env : Env) : Except KeyArg (Bool × Maps) :=
  if !env.available then .ok (false, .empty) else do
    let sensorMap ← sensorLoop env
    let defaultClass ← defaultStage env
    let classMap ← classLoop env
    let (flowtypeMap, classtypeMap) ← flowtypeLoop env
    pure (true, ⟨sensorMap, classMap, flowtypeMap, classtypeMap, defaultClass⟩)

/-! ### Loops in `Except` -/

section Fold
variable {α σ ε : Type} (body : σ → α → Except ε σ)

/-- A loop whose body fails or not by its item alone runs through when every item passes. -/
theorem foldlM_ok_iff (P : α → Prop) (hP : ∀ m a, (∃ r, body m a = .ok r) ↔ P a) (l : List α)
    (m0 : σ) : (∃ r, l.foldlM body m0 = .ok r) ↔ ∀ a ∈ l, P a := by
  induction l generalizing m0 with
  | nil => exact iff_of_true ⟨m0, rfl⟩ fun _ => False.elim ∘ List.not_mem_nil _
  | cons a l ih =>
    simp only [List.foldlM_cons, exists_bind_eq_ok, ih, exists_and_right, hP, List.forall_mem_cons]

/-- A loop that raises raises what the body raised at some item. -/
theorem foldlM_eq_error (Q : α → ε → Prop) (hQ : ∀ m a e, body m a = .error e → Q a e)
    {l : List α} {m0 : σ} {e : ε} (h : l.foldlM body m0 = .error e) : ∃ a ∈ l, Q a e := by
  induction l generalizing m0 with
  | nil => cases h
  | cons a l ih =>
    rw [List.foldlM_cons, bind_eq_error] at h
    rcases h with hb | ⟨_, -, h⟩
    · exact ⟨a, List.mem_cons_self _ _, hQ _ _ _ hb⟩
    · obtain ⟨b, hb', hq⟩ := ih h
      exact ⟨b, List.mem_cons_of_mem _ hb', hq⟩

variable {K β : Type} [DecidableEq K] (key : α → K) (look : σ → K → Option β) (Good : α → β → Prop)

/-- The body sets the value of its item's key, to a value good for the item, and no other. -/
def Updates : Prop :=
  ∀ m a r, body m a = .ok r → ∃ v, Good a v ∧ ∀ k, look r k = if k = key a then some v else look m k

theorem foldlM_look_frame (hb : Updates body key look Good) {l : List α} {m0 m : σ} {k : K}
    (h : l.foldlM body m0 = .ok m) (hk : k ∉ l.map key) : look m k = look m0 k := by
  induction l generalizing m0 with
  | nil => cases h; rfl
  | cons a l ih =>
    rw [List.foldlM_cons, bind_eq_ok] at h
    obtain ⟨r, hba, h⟩ := h
    obtain ⟨v, _, hv⟩ := hb _ _ _ hba
    simp only [List.map_cons, List.mem_cons, not_or] at hk
    rw [ih h hk.2, hv, if_neg hk.1]

/-- After a loop over items of distinct keys, each key holds a value good for its item. -/
theorem foldlM_look (hb : Updates body key look Good) {l : List α} {m0 m : σ}
    (hnd : (l.map key).Nodup) (h : l.foldlM body m0 = .ok m) :
    ∀ a ∈ l, ∃ v, look m (key a) = some v ∧ Good a v := by
  induction l generalizing m0 with
  | nil => simp
  | cons a l ih =>
    rw [List.foldlM_cons, bind_eq_ok] at h
    obtain ⟨r, hba, h⟩ := h
    rw [List.map_cons, List.nodup_cons] at hnd
    intro b hb'
    rcases List.mem_cons.1 hb' with rfl | hb'
    · obtain ⟨v, hg, hv⟩ := hb _ _ _ hba
      exact ⟨v, by rw [foldlM_look_frame body key look Good hb h hnd.1, hv, if_pos rfl], hg⟩
    · exact ih hnd.2 h b hb'

omit [DecidableEq K] in
/-- A loop over items of distinct new keys appends their keys, in order. -/
theorem foldlM_keys (keys : σ → List K)
    (hk : ∀ m a r, body m a = .ok r → key a ∉ keys m → keys r = keys m ++ [key a])
    {l : List α} {m0 m : σ} (hnd : (l.map key).Nodup) (hd : ∀ a ∈ l, key a ∉ keys m0)
    (h : l.foldlM body m0 = .ok m) : keys m = keys m0 ++ l.map key := by
  induction l generalizing m0 with
  | nil => cases h; simp
  | cons a l ih =>
    rw [List.foldlM_cons, bind_eq_ok] at h
    obtain ⟨r, hba, h⟩ := h
    rw [List.map_cons, List.nodup_cons] at hnd
    have hr := hk _ _ _ hba (hd a (List.mem_cons_self _ _))
    have hd' : ∀ b ∈ l, key b ∉ keys r := by
      intro b hb hmem
      rw [hr, List.mem_append, List.mem_singleton] at hmem
      rcases hmem with hmem | hmem
      · exact hd b (List.mem_cons_of_mem _ hb) hmem
      · exact hnd.1 (hmem ▸ List.mem_map_of_mem _ hb)
    rw [ih hnd.2 hd' h, hr, List.map_cons, List.append_assoc, List.singleton_append]

end Fold

/-! ### What each loop body does -/

section Bodies
variable {si : List (Nat × SensorItem)} {ci : List (Nat × ClassItem)} {fi : List (Nat × FlowtypeItem)}

theorem addSensor_eq_ok {m r : List (String × SensorEntry)} {item : SensorItem}
    (h : addSensor ci m item = .ok r) :
    ∃ classes, r = setitem m item.name ⟨item.id, item.name, classes, item.description⟩ := by
  simp only [addSensor, bind_eq_ok, pure, Except.pure, Except.ok.injEq] at h
  obtain ⟨classes, -, rfl⟩ := h
  exact ⟨classes, rfl⟩

theorem addSensor_ok_iff {m : List (String × SensorEntry)} {item : SensorItem} :
    (∃ r, addSensor ci m item = .ok r) ↔ ∀ x ∈ item.classes, x ∈ ci.map Prod.fst := by
  simp only [addSensor, exists_bind_eq_ok, exists_pure_eq_ok, and_true, names_ok_iff]

theorem addSensor_eq_error {m : List (String × SensorEntry)} {item : SensorItem} {e : KeyArg}
    (h : addSensor ci m item = .error e) : ∃ x ∈ item.classes, e = .id x ∧ x ∉ ci.map Prod.fst := by
  simp only [addSensor, bind_eq_error, pure, Except.pure, reduceCtorEq, and_false, exists_false,
    or_false] at h
  exact names_eq_error h

theorem addClass_eq_ok {m r : List (String × ClassEntry)} {item : ClassItem}
    (h : addClass si fi m item = .ok r) :
    ∃ sensors flowtypes defaultFlowtypes, names fi (·.name) item.flowtypes = .ok flowtypes ∧
      names fi (·.name) item.defaultFlowtypes = .ok defaultFlowtypes ∧
      r = setitem m item.name ⟨item.id, item.name, sensors, flowtypes, defaultFlowtypes⟩ := by
  simp only [addClass, bind_eq_ok, pure, Except.pure, Except.ok.injEq] at h
  obtain ⟨sensors, -, flowtypes, hf, defaultFlowtypes, hd, rfl⟩ := h
  exact ⟨sensors, flowtypes, defaultFlowtypes, hf, hd, rfl⟩

theorem addClass_ok_iff {m : List (String × ClassEntry)} {item : ClassItem} :
    (∃ r, addClass si fi m item = .ok r) ↔ (∀ x ∈ item.sensors, x ∈ si.map Prod.fst) ∧
      ∀ x ∈ item.flowtypes ++ item.defaultFlowtypes, x ∈ fi.map Prod.fst := by
  simp only [addClass, exists_bind_eq_ok, exists_pure_eq_ok, and_true, exists_and_right, names_ok_iff,
    List.forall_mem_append]

theorem addClass_eq_error {m : List (String × ClassEntry)} {item : ClassItem} {e : KeyArg}
    (h : addClass si fi m item = .error e) : ∃ x, e = .id x ∧
      ((x ∈ item.sensors ∧ x ∉ si.map Prod.fst) ∨
        (x ∈ item.flowtypes ++ item.defaultFlowtypes ∧ x ∉ fi.map Prod.fst)) := by
  simp only [addClass, bind_eq_error, pure, Except.pure, reduceCtorEq, and_false, exists_false,
    or_false] at h
  rcases h with hs | ⟨_, -, hf | ⟨_, -, hd⟩⟩
  · obtain ⟨x, hx, rfl, hn⟩ := names_eq_error hs
    exact ⟨x, rfl, .inl ⟨hx, hn⟩⟩
  · obtain ⟨x, hx, rfl, hn⟩ := names_eq_error hf
    exact ⟨x, rfl, .inr ⟨List.mem_append_left _ hx, hn⟩⟩
  · obtain ⟨x, hx, rfl, hn⟩ := names_eq_error hd
    exact ⟨x, rfl, .inr ⟨List.mem_append_right _ hx, hn⟩⟩

theorem addFlowtype_eq_ok
    {m r : List (String × FlowtypeEntry) × List (String × List (String × FlowtypeEntry))}
    {item : FlowtypeItem} (h : addFlowtype ci m item = .ok r) : ∃ c, ci.lookup item.cls = some c ∧
      r = (setitem m.1 item.name ⟨item.id, item.name, c.name, item.type⟩,
        setitem m.2 c.name (setitem ((m.2.lookup c.name).getD []) item.type
          ⟨item.id, item.name, c.name, item.type⟩)) := by
  simp only [addFlowtype, bind_eq_ok, pure, Except.pure, Except.ok.injEq] at h
  obtain ⟨c, hc, rfl⟩ := h
  exact ⟨c, getId_eq_ok.1 hc, rfl⟩

theorem addFlowtype_ok_iff
    {m : List (String × FlowtypeEntry) × List (String × List (String × FlowtypeEntry))}
    {item : FlowtypeItem} : (∃ r, addFlowtype ci m item = .ok r) ↔ item.cls ∈ ci.map Prod.fst := by
  simp only [addFlowtype, exists_bind_eq_ok, exists_pure_eq_ok, and_true, exists_getId_eq_ok]

theorem addFlowtype_eq_error
    {m : List (String × FlowtypeEntry) × List (String × List (String × FlowtypeEntry))}
    {item : FlowtypeItem} {e : KeyArg} (h : addFlowtype ci m item = .error e) :
    e = .id item.cls ∧ item.cls ∉ ci.map Prod.fst := by
  simp only [addFlowtype, bind_eq_error, pure, Except.pure, reduceCtorEq, and_false, exists_false,
    or_false] at h
  exact getId_eq_error.1 h

end Bodies

/-! ### When `_init_maps` raises -/

/-- Every id the site info refers to is a key of the dict it is looked up in. -/
structure Resolves (env : Env) : Prop where
  sensorClasses : ∀ p ∈ env.sensorInfo, ∀ x ∈ p.2.classes, x ∈ env.classInfo.map Prod.fst
  defaultClass : ∀ i, env.defaultClassid = some i → i ∈ env.classInfo.map Prod.fst
  classSensors : ∀ p ∈ env.classInfo, ∀ x ∈ p.2.sensors, x ∈ env.sensorInfo.map Prod.fst
  classFlowtypes : ∀ p ∈ env.classInfo, ∀ x ∈ p.2.flowtypes ++ p.2.defaultFlowtypes,
    x ∈ env.flowtypeInfo.map Prod.fst
  flowtypeClass : ∀ p ∈ env.flowtypeInfo, p.2.cls ∈ env.classInfo.map Prod.fst

/-- An id the site info refers to that is not a key of the dict it is looked up in. -/
inductive Dangling (env : Env) : Nat → Prop
  | sensorClass {p x} : p ∈ env.sensorInfo → x ∈ p.2.classes → x ∉ env.classInfo.map Prod.fst →
      Dangling env x
  | defaultClass {x} : env.defaultClassid = some x → x ∉ env.classInfo.map Prod.fst → Dangling env x
  | classSensor {p x} : p ∈ env.classInfo → x ∈ p.2.sensors → x ∉ env.sensorInfo.map Prod.fst →
      Dangling env x
  | classFlowtype {p x} : p ∈ env.classInfo → x ∈ p.2.flowtypes ++ p.2.defaultFlowtypes →
      x ∉ env.flowtypeInfo.map Prod.fst → Dangling env x
  | flowtypeClass {p} : p ∈ env.flowtypeInfo → p.2.cls ∉ env.classInfo.map Prod.fst →
      Dangling env p.2.cls

section Stages
variable (env : Env)

theorem sensorLoop_ok_iff : (∃ r, sensorLoop env = .ok r) ↔
    ∀ p ∈ env.sensorInfo, ∀ x ∈ p.2.classes, x ∈ env.classInfo.map Prod.fst :=
  by unfold sensorLoop; exact foldlM_ok_iff _ _ (fun m (p : Nat × SensorItem) => @addSensor_ok_iff _ m p.2) _ _

theorem defaultStage_ok_iff : (∃ r, defaultStage env = .ok r) ↔
    ∀ i, env.defaultClassid = some i → i ∈ env.classInfo.map Prod.fst := by
  unfold defaultStage
  cases env.defaultClassid with
  | none => exact iff_of_true ⟨none, rfl⟩ fun _ h => nomatch h
  | some i =>
    simp only [Option.some.injEq, forall_eq', exists_bind_eq_ok, exists_pure_eq_ok, and_true,
      exists_getId_eq_ok]

theorem classLoop_ok_iff : (∃ r, classLoop env = .ok r) ↔ ∀ p ∈ env.classInfo,
    (∀ x ∈ p.2.sensors, x ∈ env.sensorInfo.map Prod.fst) ∧
      ∀ x ∈ p.2.flowtypes ++ p.2.defaultFlowtypes, x ∈ env.flowtypeInfo.map Prod.fst :=
  by unfold classLoop; exact foldlM_ok_iff _ _ (fun m (p : Nat × ClassItem) => @addClass_ok_iff _ _ m p.2) _ _

theorem flowtypeLoop_ok_iff : (∃ r, flowtypeLoop env = .ok r) ↔
    ∀ p ∈ env.flowtypeInfo, p.2.cls ∈ env.classInfo.map Prod.fst :=
  by unfold flowtypeLoop; exact foldlM_ok_iff _ _ (fun m (p : Nat × FlowtypeItem) => @addFlowtype_ok_iff _ m p.2) _ _

/-- Each stage of `_init_maps` raises the `KeyError` of an id that dangles. -/
theorem stage_error_dangling {e : KeyArg}
    (h : sensorLoop env = .error e ∨ defaultStage env = .error e ∨ classLoop env = .error e ∨
      flowtypeLoop env = .error e) : ∃ i, e = .id i ∧ Dangling env i := by
  rcases h with h | h | h | h
  · unfold sensorLoop at h
    obtain ⟨p, hp, x, hx, rfl, hn⟩ := foldlM_eq_error _ _ (fun m (p : Nat × SensorItem) e => @addSensor_eq_error _ m p.2 e) h
    exact ⟨x, rfl, .sensorClass hp hx hn⟩
  · unfold defaultStage at h
    split at h
    · cases h
    · rename_i i hi
      cases hc : getId env.classInfo i with
      | error e' =>
        simp only [hc, bind, Except.bind, Except.error.injEq] at h; subst h
        obtain ⟨rfl, hn⟩ := getId_eq_error.1 hc
        exact ⟨i, rfl, .defaultClass hi hn⟩
      | ok c => simp [hc, bind, Except.bind, pure, Except.pure] at h
  · unfold classLoop at h
    obtain ⟨p, hp, x, rfl, hx⟩ := foldlM_eq_error _ _ (fun m (p : Nat × ClassItem) e => @addClass_eq_error _ _ m p.2 e) h
    rcases hx with ⟨hx, hn⟩ | ⟨hx, hn⟩
    · exact ⟨x, rfl, .classSensor hp hx hn⟩
    · exact ⟨x, rfl, .classFlowtype hp hx hn⟩
  · unfold flowtypeLoop at h
    obtain ⟨p, hp, rfl, hn⟩ := foldlM_eq_error _ _ (fun m (p : Nat × FlowtypeItem) e => @addFlowtype_eq_error _ m p.2 e) h
    exact ⟨_, rfl, .flowtypeClass hp hn⟩

theorem initMaps_of_unavailable (hav : env.available = false) : initMaps env = .ok (false, .empty) := by
  simp [initMaps, hav]

/-- With a site configuration, `_init_maps` fills the maps from its four stages. -/
theorem initMaps_eq_ok_iff (hav : env.available = true) {r : Bool × Maps} :
    initMaps env = .ok r ↔ ∃ sm dc cm fm ctm, sensorLoop env = .ok sm ∧ defaultStage env = .ok dc ∧
      classLoop env = .ok cm ∧ flowtypeLoop env = .ok (fm, ctm) ∧ r = (true, ⟨sm, cm, fm, ctm, dc⟩) := by
  simp only [initMaps, hav, Bool.not_true, Bool.false_eq_true, if_false, bind_eq_ok, Prod.exists, pure,
    Except.pure, Except.ok.injEq]
  simp only [eq_comm, exists_and_left]

theorem initMaps_eq_error (hav : env.available = true) {e : KeyArg} (h : initMaps env = .error e) :
    sensorLoop env = .error e ∨ defaultStage env = .error e ∨ classLoop env = .error e ∨
      flowtypeLoop env = .error e := by
  simp only [initMaps, hav, Bool.not_true, Bool.false_eq_true, if_false, bind_eq_error, pure,
    Except.pure, reduceCtorEq, and_false, exists_false, or_false] at h
  rcases h with h | ⟨_, -, h | ⟨_, -, h | ⟨_, -, h⟩⟩⟩
  · exact .inl h
  · exact .inr (.inl h)
  · exact .inr (.inr (.inl h))
  · exact .inr (.inr (.inr h))

/-- `_init_maps` runs through exactly when every id the site info refers to resolves. -/
theorem initMaps_ok_iff (hav : env.available = true) : (∃ r, initMaps env = .ok r) ↔ Resolves env := by
  have hok : (∃ r, initMaps env = .ok r) ↔ (∃ r, sensorLoop env = .ok r) ∧
      (∃ r, defaultStage env = .ok r) ∧ (∃ r, classLoop env = .ok r) ∧ ∃ r, flowtypeLoop env = .ok r := by
    simp only [initMaps_eq_ok_iff env hav]
    constructor
    · rintro ⟨_, sm, dc, cm, fm, ctm, h1, h2, h3, h4, -⟩
      exact ⟨⟨_, h1⟩, ⟨_, h2⟩, ⟨_, h3⟩, ⟨_, h4⟩⟩
    · rintro ⟨⟨sm, h1⟩, ⟨dc, h2⟩, ⟨cm, h3⟩, ⟨⟨fm, ctm⟩, h4⟩⟩
      exact ⟨_, sm, dc, cm, fm, ctm, h1, h2, h3, h4, rfl⟩
  rw [hok, sensorLoop_ok_iff, defaultStage_ok_iff, classLoop_ok_iff, flowtypeLoop_ok_iff]
  constructor
  · rintro ⟨h1, h2, h3, h4⟩
    exact ⟨h1, h2, fun p hp => (h3 p hp).1, fun p hp => (h3 p hp).2, h4⟩
  · rintro ⟨h1, h2, h3, h4, h5⟩
    exact ⟨h1, h2, fun p hp => ⟨h3 p hp, h4 p hp⟩, h5⟩

end Stages

/-! ### The lookups -/

/-- `default_class()`. -/
def defaultClass (env : Env) : Except KeyArg (Option String) := do
  let (_, m) ← initMaps env
  pure m.defaultClass

/-- `sensors()`: the names of `_sensor_map`. -/
def sensors (env : Env) : Except KeyArg (List String) := do
  let (_, m) ← initMaps env
  pure (m.sensorMap.map Prod.fst)

/-- `classes()`: the names of `_class_map`. -/
def classes (env : Env) : Except KeyArg (List String) := do
  let (_, m) ← initMaps env
  pure (m.classMap.map Prod.fst)

/-- An attribute of `_sensor_map[sensor]`. -/
def sensorAttr {β : Type} (attr : SensorEntry → β) (env : Env) (sensor : String) :
    Except KeyArg β := do
  let (_, m) ← initMaps env
  let s ← getName m.sensorMap sensor
  pure (attr s)

/-- `sensor_classes(sensor)`. -/
def sensorClasses (env : Env) (sensor : String) : Except KeyArg (List String) :=
  sensorAttr (·.classes) env sensor

/-- `sensor_description(sensor)`. -/
def sensorDescription (env : Env) (sensor : String) : Except KeyArg (Option String) :=
  sensorAttr (·.description) env sensor

/-- `sensor_id(sensor)`. -/
def sensorId (env : Env) (sensor : String) : Except KeyArg Nat :=
  sensorAttr (·.id) env sensor

/-- `class_sensors(cls)`. -/
def classSensors (env : Env) (cls : String) : Except KeyArg (List String) := do
  let (_, m) ← initMaps env
  let c ← getName m.classMap cls
  pure c.sensors

/-- `tuple(_flowtype_map[x]['type'] for x in _class_map[cls][attr])`. -/
def typesOf (attr : ClassEntry → List String) (env : Env) (cls : String) :
    Except KeyArg (List String) := do
  let (_, m) ← initMaps env
  let c ← getName m.classMap cls
  (attr c).mapM fun x => do
    let f ← getName m.flowtypeMap x
    pure f.type

/-- `types(cls)`. -/
def types (env : Env) (cls : String) : Except KeyArg (List String) := typesOf (·.flowtypes) env cls

/-- `default_types(cls)`. -/
def defaultTypes (env : Env) (cls : String) : Except KeyArg (List String) :=
  typesOf (·.defaultFlowtypes) env cls

/-- `classtypes()`: read from the C module's info again, not from the maps. -/
def classtypes (env : Env) : Except KeyArg (List (String × String)) := do
  let _ ← initMaps env
  env.flowtypeInfo.mapM fun p => do
    let c ← getId env.classInfo p.2.cls
    pure (c.name, p.2.type)

/-- `sensor_from_id(id)`. -/
def sensorFromId (env : Env) (id : Nat) : Except KeyArg String := do
  let (ok, _) ← initMaps env
  if !ok then throw (.id id)
  let s ← getId env.sensorInfo id
  pure s.name

/-- `classtype_id(classtype)`; its `KeyError(id)` carries the builtin `id`. -/
def classtypeId (env : Env) (classtype : String × String) : Except KeyArg Nat := do
  let (ok, m) ← initMaps env
  if !ok then throw .builtinId
  let cdict ← getName m.classtypeMap classtype.1
  let f ← getName cdict classtype.2
  pure f.id

/-- `classtype_from_id(id)`. -/
def classtypeFromId (env : Env) (id : Nat) : Except KeyArg (String × String) := do
  let (ok, _) ← initMaps env
  if !ok then throw (.id id)
  let finfo ← getId env.flowtypeInfo id
  let c ← getId env.classInfo finfo.cls
  pure (c.name, finfo.type)

/-- A small two-way site: class `all` with the types `in` and `out`, and two sensors. -/
def twoSensorSite : Env where
  available := true
  sensorInfo := [(0, ⟨0, "S0", [0], some "first"⟩), (1, ⟨1, "S1", [0], none⟩)]
  defaultClassid := some 0
  classInfo := [(0, ⟨0, "all", [0, 1], [0, 1], [0]⟩)]
  flowtypeInfo := [(0, ⟨0, "iw", 0, "in"⟩), (1, ⟨1, "ow", 0, "out"⟩)]

/-- With a site configuration, `_init_maps` raises exactly when an id of the site info dangles,
and the `KeyError` carries such an id. Without one, nothing is filled: `sensors()` and
`classes()` are empty, `default_class()` is `None`, and the lookups by id raise `KeyError`,
`classtype_id`'s with the builtin `id` as its argument. -/
theorem init_maps_law (env : Env) :
    (env.available = true →
      ((∃ r, initMaps env = .ok r) ↔ Resolves env) ∧
      ∀ e, initMaps env = .error e → ∃ i, e = .id i ∧ Dangling env i) ∧
    (env.available = false →
      initMaps env = .ok (false, .empty) ∧ sensors env = .ok [] ∧ classes env = .ok [] ∧
      defaultClass env = .ok none ∧ ∀ i ct, sensorFromId env i = .error (.id i) ∧
        classtypeFromId env i = .error (.id i) ∧ classtypeId env ct = .error .builtinId) := by
  refine ⟨fun hav => ⟨initMaps_ok_iff env hav, fun e h =>
    stage_error_dangling env (initMaps_eq_error env hav h)⟩, fun hav => ?_⟩
  have h := initMaps_of_unavailable env hav
  simp [h, sensors, classes, defaultClass, sensorFromId, classtypeFromId, classtypeId, bind,
    Except.bind, pure, Except.pure, Maps.empty, throw, throwThe, MonadExceptOf.throw]

/-- A sensor naming a class id the site lacks makes every lookup raise `KeyError` of that id. -/
example : sensors { twoSensorSite with sensorInfo := [(0, ⟨0, "S0", [7], none⟩)] } = .error (.id 7) := by
  rfl

/-! ### Round trips -/

/-- The `(class, type)` pair of a flowtype item, when its class id resolves. -/
def classtypeOf (env : Env) (f : FlowtypeItem) : Option (String × String) :=
  (env.classInfo.lookup f.cls).map fun c => (c.name, f.type)

/-- `_classtype_map[c][t]`, when both keys are there. -/
def classtypeLookup (ctm : List (String × List (String × FlowtypeEntry))) (ct : String × String) :
    Option FlowtypeEntry :=
  (ctm.lookup ct.1).bind (·.lookup ct.2)

/-- What a site configuration guarantees: ids resolve, items sit under their ids, names differ. -/
structure WellFormed (env : Env) : Prop where
  resolves : Resolves env
  sensorKeys : (env.sensorInfo.map Prod.fst).Nodup
  sensorIds : ∀ p ∈ env.sensorInfo, p.2.id = p.1
  sensorNames : (env.sensorInfo.map (·.2.name)).Nodup
  classKeys : (env.classInfo.map Prod.fst).Nodup
  classNames : (env.classInfo.map (·.2.name)).Nodup
  flowtypeKeys : (env.flowtypeInfo.map Prod.fst).Nodup
  flowtypeIds : ∀ p ∈ env.flowtypeInfo, p.2.id = p.1
  flowtypeNames : (env.flowtypeInfo.map (·.2.name)).Nodup
  classtypes : (env.flowtypeInfo.map fun p => classtypeOf env p.2).Nodup

theorem lookup_of_mem {α β : Type} [BEq α] [LawfulBEq α] [DecidableEq α] {l : List (α × β)}
    (hnd : (l.map Prod.fst).Nodup) {p : α × β} (hp : p ∈ l) : l.lookup p.1 = some p.2 := by
  induction l with
  | nil => cases hp
  | cons q l ih =>
    obtain ⟨a, b⟩ := q
    rw [List.map_cons, List.nodup_cons] at hnd
    rw [lookup_cons_ite]
    rcases List.mem_cons.1 hp with rfl | hp
    · simp
    · have : p.1 ≠ a := fun h => hnd.1 (List.mem_map.2 ⟨p, hp, h⟩)
      rw [if_neg this, ih hnd.2 hp]

theorem mem_of_lookup {α β : Type} [BEq α] [LawfulBEq α] [DecidableEq α] {l : List (α × β)} {k : α}
    {v : β} (h : l.lookup k = some v) : (k, v) ∈ l := by
  induction l with
  | nil => cases h
  | cons q l ih =>
    obtain ⟨a, b⟩ := q
    rw [lookup_cons_ite] at h
    split_ifs at h with hk
    · cases h; subst hk; exact List.mem_cons_self _ _
    · exact List.mem_cons_of_mem _ (ih h)

section Loops
variable {env : Env}

theorem sensorLoop_lookup {sm : List (String × SensorEntry)} (h : sensorLoop env = .ok sm)
    (hnd : (env.sensorInfo.map (·.2.name)).Nodup) :
    ∀ p ∈ env.sensorInfo, ∃ v, sm.lookup p.2.name = some v ∧ v.id = p.2.id := by
  unfold sensorLoop at h
  refine foldlM_look _ (fun p => p.2.name) (fun m k => m.lookup k) (fun p v => v.id = p.2.id)
    (fun m p r hr => ?_) hnd h
  obtain ⟨classes, rfl⟩ := addSensor_eq_ok hr
  exact ⟨_, rfl, fun k => lookup_setitem _ _ _ _⟩

theorem sensorLoop_keys {sm : List (String × SensorEntry)} (h : sensorLoop env = .ok sm)
    (hnd : (env.sensorInfo.map (·.2.name)).Nodup) :
    sm.map Prod.fst = env.sensorInfo.map (·.2.name) := by
  unfold sensorLoop at h
  refine foldlM_keys _ (fun p => p.2.name) (fun m => m.map Prod.fst) (fun m p r hr hk => ?_) hnd
    (by simp) h
  obtain ⟨classes, rfl⟩ := addSensor_eq_ok hr
  dsimp only at hk ⊢
  rw [keys_setitem, if_neg hk]

theorem classLoop_keys {cm : List (String × ClassEntry)} (h : classLoop env = .ok cm)
    (hnd : (env.classInfo.map (·.2.name)).Nodup) :
    cm.map Prod.fst = env.classInfo.map (·.2.name) := by
  unfold classLoop at h
  refine foldlM_keys _ (fun p => p.2.name) (fun m => m.map Prod.fst) (fun m p r hr hk => ?_) hnd
    (by simp) h
  obtain ⟨_, _, _, _, _, rfl⟩ := addClass_eq_ok hr
  dsimp only at hk ⊢
  rw [keys_setitem, if_neg hk]

theorem classLoop_lookup {cm : List (String × ClassEntry)} (h : classLoop env = .ok cm)
    (hnd : (env.classInfo.map (·.2.name)).Nodup) : ∀ p ∈ env.classInfo, ∃ e, cm.lookup p.2.name = some e ∧
      names env.flowtypeInfo (·.name) p.2.flowtypes = .ok e.flowtypes ∧
      names env.flowtypeInfo (·.name) p.2.defaultFlowtypes = .ok e.defaultFlowtypes := by
  unfold classLoop at h
  refine foldlM_look _ (fun p => p.2.name) (fun m k => m.lookup k)
    (fun p e => names env.flowtypeInfo (·.name) p.2.flowtypes = .ok e.flowtypes ∧
      names env.flowtypeInfo (·.name) p.2.defaultFlowtypes = .ok e.defaultFlowtypes)
    (fun m p r hr => ?_) hnd h
  obtain ⟨_, _, _, hf, hd, rfl⟩ := addClass_eq_ok hr
  exact ⟨_, ⟨hf, hd⟩, fun k => lookup_setitem _ _ _ _⟩

theorem flowtypeLoop_lookup {fm : List (String × FlowtypeEntry)}
    {ctm : List (String × List (String × FlowtypeEntry))} (h : flowtypeLoop env = .ok (fm, ctm))
    (hnd : (env.flowtypeInfo.map (·.2.name)).Nodup) :
    ∀ p ∈ env.flowtypeInfo, ∃ v, fm.lookup p.2.name = some v ∧ v.type = p.2.type := by
  unfold flowtypeLoop at h
  refine foldlM_look _ (fun p => p.2.name) (fun m k => m.1.lookup k) (fun p v => v.type = p.2.type)
    (fun m p r hr => ?_) hnd h
  obtain ⟨c, -, rfl⟩ := addFlowtype_eq_ok hr
  exact ⟨_, rfl, fun k => lookup_setitem _ _ _ _⟩

/-- The types of the flowtypes a class names, looked up through their names. -/
theorem types_of_names {fm : List (String × FlowtypeEntry)}
    (hfm : ∀ p ∈ env.flowtypeInfo, ∃ v, fm.lookup p.2.name = some v ∧ v.type = p.2.type)
    {ids : List Nat} {ns : List String} (h : names env.flowtypeInfo (·.name) ids = .ok ns) :
    (ns.mapM fun x => do
      let f ← getName fm x
      pure f.type) = .ok (ids.filterMap fun x => (env.flowtypeInfo.lookup x).map (·.type)) := by
  induction ids generalizing ns with
  | nil => cases h; rfl
  | cons x xs ih =>
    rw [names] at h
    cases hx : getId env.flowtypeInfo x with
    | error e => simp [hx, bind, Except.bind] at h
    | ok v =>
      cases hr : names env.flowtypeInfo (·.name) xs with
      | error e => simp [hx, hr, bind, Except.bind] at h
      | ok rest =>
        simp only [hx, hr, bind, Except.bind, pure, Except.pure, Except.ok.injEq] at h
        subst h
        have hl := getId_eq_ok.1 hx
        obtain ⟨f, hf, hft⟩ := hfm (x, v) (mem_of_lookup hl)
        have hg : getName fm v.name = .ok f := getName_eq_ok.2 hf
        rw [List.mapM_cons, ih hr]
        simp [hg, hft, hl, bind, Except.bind, pure, Except.pure]

theorem classtypeLookup_setitem (ctm : List (String × List (String × FlowtypeEntry)))
    (c t : String) (v : FlowtypeEntry) (ct : String × String) :
    classtypeLookup (setitem ctm c (setitem ((ctm.lookup c).getD []) t v)) ct =
      if ct = (c, t) then some v else classtypeLookup ctm ct := by
  obtain ⟨c', t'⟩ := ct
  unfold classtypeLookup
  by_cases hc : c' = c
  · subst hc
    by_cases ht : t' = t
    · simp [ht]
    · cases ctm.lookup c' <;> simp [ht]
  · simp [hc]

theorem flowtypeLoop_classtype {fm : List (String × FlowtypeEntry)}
    {ctm : List (String × List (String × FlowtypeEntry))} (h : flowtypeLoop env = .ok (fm, ctm))
    (hnd : (env.flowtypeInfo.map fun p => classtypeOf env p.2).Nodup) :
    ∀ p ∈ env.flowtypeInfo, ∃ ct v, classtypeOf env p.2 = some ct ∧ classtypeLookup ctm ct = some v ∧
      v.id = p.2.id := by
  unfold flowtypeLoop at h
  have := foldlM_look _ (fun p => classtypeOf env p.2) (fun m k => k.bind (classtypeLookup m.2))
    (fun p v => ∃ ct, classtypeOf env p.2 = some ct ∧ v.id = p.2.id) (fun m p r hr => ?_) hnd h
  · intro p hp
    obtain ⟨v, hv, ct, hct, hid⟩ := this p hp
    simp only [hct, Option.some_bind] at hv
    exact ⟨ct, v, hct, hv, hid⟩
  · obtain ⟨c, hc, rfl⟩ := addFlowtype_eq_ok hr
    have hct : classtypeOf env p.2 = some (c.name, p.2.type) := by simp [classtypeOf, hc]
    refine ⟨⟨p.2.id, p.2.name, c.name, p.2.type⟩, ⟨_, hct, rfl⟩, fun k => ?_⟩
    cases k with
    | none => simp [hct]
    | some ct =>
      dsimp only
      simp only [Option.some_bind, classtypeLookup_setitem, hct, Option.some.injEq]

end Loops

section WellFormedSite
variable {env : Env} (hav : env.available = true) (hwf : WellFormed env)
include hav hwf

theorem initMaps_of_wellFormed : ∃ sm dc cm fm ctm,
    initMaps env = .ok (true, ⟨sm, cm, fm, ctm, dc⟩) ∧ sensorLoop env = .ok sm ∧
      defaultStage env = .ok dc ∧ classLoop env = .ok cm ∧ flowtypeLoop env = .ok (fm, ctm) := by
  obtain ⟨r, hr⟩ := (initMaps_ok_iff env hav).2 hwf.resolves
  obtain ⟨sm, dc, cm, fm, ctm, h1, h2, h3, h4, rfl⟩ := (initMaps_eq_ok_iff env hav).1 hr
  exact ⟨sm, dc, cm, fm, ctm, hr, h1, h2, h3, h4⟩

theorem sensor_round_trip {p : Nat × SensorItem} (hp : p ∈ env.sensorInfo) :
    sensorId env p.2.name = .ok p.1 ∧ sensorFromId env p.1 = .ok p.2.name := by
  obtain ⟨sm, dc, cm, fm, ctm, hr, h1, -⟩ := initMaps_of_wellFormed hav hwf
  obtain ⟨v, hv, hid⟩ := sensorLoop_lookup h1 hwf.sensorNames p hp
  constructor
  · simp [sensorId, sensorAttr, hr, getName, hv, hid, hwf.sensorIds p hp, bind, Except.bind, pure,
      Except.pure]
  · simp [sensorFromId, hr, getId, lookup_of_mem hwf.sensorKeys hp, bind, Except.bind, pure,
      Except.pure]

theorem classtype_round_trip {p : Nat × FlowtypeItem} (hp : p ∈ env.flowtypeInfo) :
    ∃ ct, classtypeOf env p.2 = some ct ∧ classtypeFromId env p.1 = .ok ct ∧
      classtypeId env ct = .ok p.1 := by
  obtain ⟨sm, dc, cm, fm, ctm, hr, -, -, -, h4⟩ := initMaps_of_wellFormed hav hwf
  obtain ⟨ct, v, hct, hv, hid⟩ := flowtypeLoop_classtype h4 hwf.classtypes p hp
  refine ⟨ct, hct, ?_, ?_⟩
  · unfold classtypeOf at hct
    cases hc : env.classInfo.lookup p.2.cls with
    | none => simp [hc] at hct
    | some c =>
      simp only [hc, Option.map_some', Option.some.injEq] at hct
      subst hct
      simp [classtypeFromId, hr, getId, lookup_of_mem hwf.flowtypeKeys hp, hc, bind, Except.bind,
        pure, Except.pure]
  · unfold classtypeLookup at hv
    cases hd : ctm.lookup ct.1 with
    | none => simp [hd] at hv
    | some cdict =>
      simp only [hd, Option.some_bind] at hv
      simp [classtypeId, hr, getName, hd, hv, hid, hwf.flowtypeIds p hp, bind, Except.bind, pure,
        Except.pure]

theorem sensors_classes_eq : sensors env = .ok (env.sensorInfo.map (·.2.name)) ∧
    classes env = .ok (env.classInfo.map (·.2.name)) := by
  obtain ⟨sm, dc, cm, fm, ctm, hr, h1, -, h3, -⟩ := initMaps_of_wellFormed hav hwf
  constructor
  · simp [sensors, hr, sensorLoop_keys h1 hwf.sensorNames, bind, Except.bind, pure, Except.pure]
  · simp [classes, hr, classLoop_keys h3 hwf.classNames, bind, Except.bind, pure, Except.pure]

theorem types_eq {p : Nat × ClassItem} (hp : p ∈ env.classInfo) :
    types env p.2.name = .ok (p.2.flowtypes.filterMap fun x => (env.flowtypeInfo.lookup x).map (·.type)) ∧
    defaultTypes env p.2.name =
      .ok (p.2.defaultFlowtypes.filterMap fun x => (env.flowtypeInfo.lookup x).map (·.type)) := by
  obtain ⟨sm, dc, cm, fm, ctm, hr, -, -, h3, h4⟩ := initMaps_of_wellFormed hav hwf
  obtain ⟨e, he, hf, hd⟩ := classLoop_lookup h3 hwf.classNames p hp
  have hfm := flowtypeLoop_lookup h4 hwf.flowtypeNames
  have hg : getName cm p.2.name = .ok e := getName_eq_ok.2 he
  simp only [types, defaultTypes, typesOf, hr, hg, bind, Except.bind]
  exact ⟨types_of_names hfm hf, types_of_names hfm hd⟩

theorem defaultClass_eq :
    defaultClass env = .ok ((env.defaultClassid.bind env.classInfo.lookup).map (·.name)) := by
  obtain ⟨sm, dc, cm, fm, ctm, hr, -, h2, -⟩ := initMaps_of_wellFormed hav hwf
  simp only [defaultClass, hr, bind, Except.bind, pure, Except.pure, Except.ok.injEq]
  unfold defaultStage at h2
  cases hd : env.defaultClassid with
  | none => simp [hd] at h2; simp [h2]
  | some i =>
    simp only [hd] at h2
    cases hc : getId env.classInfo i with
    | error e => simp [hc, bind, Except.bind] at h2
    | ok c =>
      simp only [hc, bind, Except.bind, pure, Except.pure, Except.ok.injEq] at h2
      simp [← h2, getId_eq_ok.1 hc]

end WellFormedSite

/-- On a well-formed site, the lookups by name and by id invert each other: a sensor's name gives
back its id and its id its name, a flowtype's `(class, type)` pair gives back its id and its id
the pair; `sensors()` and `classes()` list the names in the order of the site, and `types(cls)`
and `default_types(cls)` the types of the class's flowtypes in its order. -/
theorem site_round_trips (env : Env) (hav : env.available = true) (hwf : WellFormed env) :
    (∀ p ∈ env.sensorInfo, sensorId env p.2.name = .ok p.1 ∧ sensorFromId env p.1 = .ok p.2.name) ∧
    (∀ p ∈ env.flowtypeInfo, ∃ ct, classtypeOf env p.2 = some ct ∧
      classtypeFromId env p.1 = .ok ct ∧ classtypeId env ct = .ok p.1) ∧
    sensors env = .ok (env.sensorInfo.map (·.2.name)) ∧
    classes env = .ok (env.classInfo.map (·.2.name)) ∧
    ∀ p ∈ env.classInfo,
      types env p.2.name = .ok (p.2.flowtypes.filterMap fun x => (env.flowtypeInfo.lookup x).map (·.type)) ∧
      defaultTypes env p.2.name =
        .ok (p.2.defaultFlowtypes.filterMap fun x => (env.flowtypeInfo.lookup x).map (·.type)) :=
  ⟨fun _ hp => sensor_round_trip hav hwf hp, fun _ hp => classtype_round_trip hav hwf hp,
    (sensors_classes_eq hav hwf).1, (sensors_classes_eq hav hwf).2, fun _ hp => types_eq hav hwf hp⟩

theorem twoSensorSite_wellFormed : WellFormed twoSensorSite :=
  ⟨⟨by decide, by rintro i ⟨⟩; decide, by decide, by decide, by decide⟩, by decide, by decide,
    by decide, by decide, by decide, by decide, by decide, by decide, by decide⟩

theorem site_round_trips_two_sensors : twoSensorSite.available = true ∧ WellFormed twoSensorSite ∧
    (∀ p ∈ twoSensorSite.sensorInfo, sensorId twoSensorSite p.2.name = .ok p.1 ∧
      sensorFromId twoSensorSite p.1 = .ok p.2.name) ∧
    (∀ p ∈ twoSensorSite.flowtypeInfo, ∃ ct, classtypeOf twoSensorSite p.2 = some ct ∧
      classtypeFromId twoSensorSite p.1 = .ok ct ∧ classtypeId twoSensorSite ct = .ok p.1) ∧
    sensors twoSensorSite = .ok (twoSensorSite.sensorInfo.map (·.2.name)) ∧
    classes twoSensorSite = .ok (twoSensorSite.classInfo.map (·.2.name)) ∧
    ∀ p ∈ twoSensorSite.classInfo, types twoSensorSite p.2.name =
      .ok (p.2.flowtypes.filterMap fun x => (twoSensorSite.flowtypeInfo.lookup x).map (·.type)) ∧
      defaultTypes twoSensorSite p.2.name =
        .ok (p.2.defaultFlowtypes.filterMap fun x => (twoSensorSite.flowtypeInfo.lookup x).map (·.type)) := by
  exact ⟨rfl, twoSensorSite_wellFormed, site_round_trips twoSensorSite rfl twoSensorSite_wellFormed⟩

end Site

end Silk
