import Silk.Python
import Mathlib.Data.List.Perm.Basic
/-! The key and certificate pools of `src/sendrcv/tests/gencerts.py`. The module's code fills
them from the test directory: the keys, the CA pairs and the PKCS#12 files of each CA. The
sendrcv tests draw from them through `generate_ca_cert` and `generate_signed_cert`, and give
everything back with `reset_all_certs_and_keys`. The file system and `certtool` are the
environment: a call is told whether its key file exists, `certtool` is taken to succeed, and
the files it writes are not modelled. -/
namespace Silk
namespace Harness
namespace Gencerts

/-- `list.pop()`: the last item and the rest; `none` where it raises `IndexError`. -/
def pop {α : Type} (l : List α) : Option (α × List α) := l.getLast?.map fun x => (x, l.dropLast)

/-- `os.path.join(a, b)` for a relative `b`. -/
def pathJoin (a b : String) : String := if a = "" ∨ a.endsWith "/" then a ++ b else a ++ "/" ++ b

/-- `os.path.basename(p)`: what follows the last `/`. -/
def basename (p : String) : String := ⟨(p.data.reverse.takeWhile (· ≠ '/')).reverse⟩

/-- `os.path.splitext(p)[0]` for a `p` without `/`: `p` cut at its last `.`, unless only dots
stand before that one. -/
def splitextRoot (p : String) : String :=
  match p.data.reverse.dropWhile (· ≠ '.') with
  | _ :: pre => if pre.all (· = '.') then p else ⟨pre.reverse⟩
  | [] => p

/-- `p12_map[k] = v` on the dict as a list of items. -/
def setItem (m : List (String × List String)) (k : String) (v : List String) :
    List (String × List String) :=
  match m with
  | [] => []
  | (k', l) :: m => if k' = k then (k', v) :: m else (k', l) :: setItem m k v

/-- The module's globals. -/
structure Pools where
  potentials : List String
  potentialsUsed : List String
  caCerts : List (String × String)
  caCertsUsed : List (String × String)
  p12Map : List (String × List String)
  p12sUsed : List (String × String)
  deriving DecidableEq, Repr

/-- The pools as the module's code leaves them: the keys, CA pairs and PKCS#12 files it found,
none of them used. -/
def Pools.init (potentials : List String) (caCerts : List (String × String))
    (p12Map : List (String × List String)) : Pools :=
  ⟨potentials, [], caCerts, [], p12Map, []⟩

/-- The body shared by `get_key` and `get_ca_cert`: `if pool: x = pool.pop();
used.append(x); return x`. -/
def handOut {α : Type} (pool used : List α) : Option α × List α × List α :=
  match pop pool with
  | some (x, pool) => (some x, pool, used ++ [x])
  | none => (none, pool, used)

/-- `get_key()`. -/
def getKey (s : Pools) : Option String × Pools :=
  match handOut s.potentials s.potentialsUsed with
  | (key, potentials, potentialsUsed) =>
    (key, { s with potentials := potentials, potentialsUsed := potentialsUsed })

/-- `get_ca_cert()`. -/
def getCaCert (s : Pools) : Option (String × String) × Pools :=
  match handOut s.caCerts s.caCertsUsed with
  | (cert, caCerts, caCertsUsed) =>
    (cert, { s with caCerts := caCerts, caCertsUsed := caCertsUsed })

/-- `generate_key(filename)`: a key of the pool, or `filename` once `certtool` has written a
new key there. -/
def generateKey (filename : String) (s : Pools) : String × Pools :=
  match getKey s with
  | (some name, s) => if name ≠ "" then (name, s) else (filename, s)
  | (none, s) => (filename, s)

/-- `generate_ca_cert(tmpdir, filename)`: a CA pair of the pool, or a new one made with a key
from `generate_key`. -/
def generateCaCert (tmpdir filename : String) (s : Pools) : (String × String) × Pools :=
  match getCaCert s with
  | (some caCert, s) => (caCert, s)
  | (none, s) =>
    match generateKey (pathJoin tmpdir "ca_key.pem") s with
    | (key, s) => ((key, filename), s)

/-- `generate_signed_cert(tmpdir, ca_cert_pair, key, filename)`: a PKCS#12 file of the pool
made for the CA, or `filename` once `certtool` has written one there, with a key from
`generate_key` when the file `key` does not exist. -/
def generateSignedCert (caCertPair : String × String) (key filename : String) (keyExists : Bool)
    (s : Pools) : Except PyError (String × Pools) :=
  let basecert := splitextRoot (basename caCertPair.2)
  match s.p12Map.lookup basecert with
  | some plist =>
    match pop plist with
    | some (p12, plist) =>
      .ok (p12, { s with
        p12Map := setItem s.p12Map basecert plist
        p12sUsed := s.p12sUsed ++ [(basecert, p12)] })
    | none => .error .indexError
  | none => .ok (filename, if keyExists then s else (generateKey key s).2)

/-- `reset_used_keys()`: its `used = []` binds a local, so `potentials_used` is kept. -/
def resetUsedKeys (s : Pools) : Pools := { s with potentials := s.potentials ++ s.potentialsUsed }

/-- `reset_ca_certs()`. -/
def resetCaCerts (s : Pools) : Pools :=
  { s with caCerts := s.caCerts ++ s.caCertsUsed, caCertsUsed := [] }

/-- The loop `for key, value in p12s_used: p12_map[key].append(value)`; a key the dict lacks
raises `KeyError`. -/
def giveBack (m : List (String × List String)) : List (String × String) →
    Except PyError (List (String × List String))
  | [] => .ok m
  | (k, value) :: used =>
    match m.lookup k with
    | some l => giveBack (setItem m k (l ++ [value])) used
    | none => .error .keyError

/-- `reset_used_certs()`. -/
def resetUsedCerts (s : Pools) : Except PyError Pools :=
  match giveBack s.p12Map s.p12sUsed with
  | .ok m => .ok { s with p12Map := m, p12sUsed := [] }
  | .error e => .error e

/-- `reset_all_certs_and_keys()`. -/
def resetAllCertsAndKeys (s : Pools) : Except PyError Pools :=
  resetUsedCerts (resetCaCerts (resetUsedKeys s))

/-- A call the tests can make. -/
inductive Call
  | getKey
  | generateKey (filename : String)
  | getCaCert
  | generateCaCert (tmpdir filename : String)
  | generateSignedCert (caCertPair : String × String) (key filename : String) (keyExists : Bool)
  | resetAllCertsAndKeys
  deriving DecidableEq, Repr

/-- What a call returns: `None`, a path, or a pair of paths. -/
inductive Ret
  | none
  | path (p : String)
  | pair (p : String × String)
  deriving DecidableEq, Repr

/-- One call. -/
def step (s : Pools) : Call → Except PyError (Ret × Pools)
  | .getKey =>
    match getKey s with
    | (some key, s) => .ok (.path key, s)
    | (none, s) => .ok (.none, s)
  | .generateKey filename => .ok (.path (generateKey filename s).1, (generateKey filename s).2)
  | .getCaCert =>
    match getCaCert s with
    | (some cert, s) => .ok (.pair cert, s)
    | (none, s) => .ok (.none, s)
  | .generateCaCert tmpdir filename =>
    .ok (.pair (generateCaCert tmpdir filename s).1, (generateCaCert tmpdir filename s).2)
  | .generateSignedCert pair key filename keyExists =>
    match generateSignedCert pair key filename keyExists s with
    | .ok (p, s) => .ok (.path p, s)
    | .error e => .error e
  | .resetAllCertsAndKeys =>
    match resetAllCertsAndKeys s with
    | .ok s => .ok (.none, s)
    | .error e => .error e

/-- The calls in turn: what each returned, and the pools left; the first exception ends the
run. -/
def run (s : Pools) : List Call → Except PyError (List Ret × Pools)
  | [] => .ok ([], s)
  | c :: cs =>
    match step s c with
    | .ok (r, s) =>
      match run s cs with
      | .ok (rs, s) => .ok (r :: rs, s)
      | .error e => .error e
    | .error e => .error e

/-! ### Popping and handing out -/

@[simp] theorem pop_append_singleton {α : Type} (l : List α) (x : α) : pop (l ++ [x]) = some (x, l) := by
  simp [pop]

@[simp] theorem pop_nil {α : Type} : pop ([] : List α) = none := rfl

theorem eq_of_pop_eq_some {α : Type} {l l' : List α} {x : α} (h : pop l = some (x, l')) :
    l = l' ++ [x] := by
  induction l using List.reverseRecOn with
  | nil => cases h
  | append_singleton l y _ =>
    simp only [pop_append_singleton, Option.some.injEq, Prod.mk.injEq] at h
    rw [h.1, h.2]

theorem handOut_perm {α : Type} (pool used : List α) :
    ((handOut pool used).2.1 ++ (handOut pool used).2.2).Perm (pool ++ used) := by
  unfold handOut
  split
  · next x p h =>
    rw [eq_of_pop_eq_some h, List.append_assoc]
    exact List.perm_append_comm.append_left p
  · exact .refl _

/-! ### The keys -/

/-- From any pools with a key: a key taken, two resets, then two keys taken hands the last key
out twice after the second reset, and `potentials ++ potentials_used` then holds two more
copies of it than the initial list. -/
theorem reset_hands_key_twice (keys : List String) (cas : List (String × String))
    (m : List (String × List String)) (hk : keys ≠ []) :
    run (Pools.init keys cas m)
        [.getKey, .resetAllCertsAndKeys, .resetAllCertsAndKeys, .getKey, .getKey] =
      .ok ([.path (keys.getLast hk), .none, .none, .path (keys.getLast hk), .path (keys.getLast hk)],
        ⟨keys.dropLast, [keys.getLast hk, keys.getLast hk, keys.getLast hk], cas, [], m, []⟩) ∧
    ¬(keys.dropLast ++ [keys.getLast hk, keys.getLast hk, keys.getLast hk]).Perm keys := by
  obtain ⟨ks, k, rfl⟩ : ∃ ks k, keys = ks ++ [k] :=
    ⟨_, _, (List.dropLast_concat_getLast hk).symm⟩
  simp only [List.getLast_concat, List.dropLast_concat]
  refine ⟨?_, fun hp => by simpa using hp.length_eq⟩
  simp [run, step, getKey, handOut, pop, resetAllCertsAndKeys, resetUsedCerts, resetCaCerts,
    resetUsedKeys, giveBack, Pools.init]

theorem reset_hands_key_twice_one :
    ["key1.pem"] ≠ [] ∧
    run (Pools.init ["key1.pem"] [] [])
        [.getKey, .resetAllCertsAndKeys, .resetAllCertsAndKeys, .getKey, .getKey] =
      .ok ([.path "key1.pem", .none, .none, .path "key1.pem", .path "key1.pem"],
        ⟨[], ["key1.pem", "key1.pem", "key1.pem"], [], [], [], []⟩) ∧
    ¬([] ++ ["key1.pem", "key1.pem", "key1.pem"]).Perm ["key1.pem"] :=
  ⟨List.cons_ne_nil _ _, reset_hands_key_twice ["key1.pem"] [] [] (List.cons_ne_nil _ _)⟩

/-! ### The CA pairs and the PKCS#12 files -/

/-- The PKCS#12 files of the dict, in order. -/
def p12Files (m : List (String × List String)) : List String := (m.map Prod.snd).flatten

/-- The CA pairs of the pools are those of `cas` and their PKCS#12 files those of `p12s`, each
as often, whether in the pool or handed out. -/
structure Conserved (cas : List (String × String)) (p12s : List String) (s : Pools) : Prop where
  ca : (s.caCerts ++ s.caCertsUsed).Perm cas
  p12 : (p12Files s.p12Map ++ s.p12sUsed.map Prod.snd).Perm p12s

section Conserved

variable {cas : List (String × String)} {p12s : List String}

theorem setItem_perm {m : List (String × List String)} {k : String} {l : List String}
    (h : m.lookup k = some l) (v : List String) :
    (p12Files (setItem m k v) ++ l).Perm (p12Files m ++ v) := by
  induction m with
  | nil => cases h
  | cons e m ih =>
    obtain ⟨k', l'⟩ := e
    by_cases hk : k' = k
    · subst hk
      simp only [List.lookup_cons, beq_self_eq_true, Option.some.injEq] at h
      subst h
      refine List.perm_iff_count.2 fun a => ?_
      simp only [setItem, ↓reduceIte, p12Files, List.map_cons, List.flatten_cons, List.count_append]
      omega
    · have h' : m.lookup k = some l := by
        rwa [List.lookup_cons, beq_false_of_ne (Ne.symm hk)] at h
      simp only [setItem, if_neg hk, p12Files, List.map_cons, List.flatten_cons, List.append_assoc]
      exact (ih h').append_left l'

theorem giveBack_perm {m m' : List (String × List String)} {used : List (String × String)}
    (h : giveBack m used = .ok m') : (p12Files m').Perm (p12Files m ++ used.map Prod.snd) := by
  induction used generalizing m with
  | nil => cases h; simp
  | cons e used ih =>
    obtain ⟨k, value⟩ := e
    simp only [giveBack] at h
    split at h
    · next l hl =>
      have hs := List.perm_iff_count.1 (setItem_perm hl (l ++ [value]))
      refine (ih h).trans (List.perm_iff_count.2 fun a => ?_)
      have := hs a
      simp only [p12Files, List.count_append, List.map_cons, List.count_cons, List.count_nil] at this ⊢
      omega
    · cases h

variable {s s' : Pools}

theorem Conserved.getKey (h : Conserved cas p12s s) {k : Option String}
    (hk : getKey s = (k, s')) : Conserved cas p12s s' := by
  unfold Gencerts.getKey at hk
  split at hk
  cases hk
  exact ⟨h.ca, h.p12⟩

theorem Conserved.generateKey (h : Conserved cas p12s s) {filename name : String}
    (hk : generateKey filename s = (name, s')) : Conserved cas p12s s' := by
  unfold Gencerts.generateKey at hk
  split at hk
  · next hg => split at hk <;> (cases hk; exact h.getKey hg)
  · next hg => cases hk; exact h.getKey hg

theorem Conserved.getCaCert (h : Conserved cas p12s s) {c : Option (String × String)}
    (hc : getCaCert s = (c, s')) : Conserved cas p12s s' := by
  unfold Gencerts.getCaCert at hc
  split at hc
  next hh =>
  cases hc
  have hp := handOut_perm s.caCerts s.caCertsUsed
  rw [hh] at hp
  exact ⟨hp.trans h.ca, h.p12⟩

theorem Conserved.generateCaCert (h : Conserved cas p12s s) {tmpdir filename : String}
    {c : String × String} (hc : generateCaCert tmpdir filename s = (c, s')) :
    Conserved cas p12s s' := by
  unfold Gencerts.generateCaCert at hc
  split at hc
  · next hg => cases hc; exact h.getCaCert hg
  · next hg =>
    split at hc
    next hk => cases hc; exact (h.getCaCert hg).generateKey hk

theorem Conserved.generateSignedCert (h : Conserved cas p12s s) {pair : String × String}
    {key filename p : String} {keyExists : Bool}
    (hs : generateSignedCert pair key filename keyExists s = .ok (p, s')) :
    Conserved cas p12s s' := by
  unfold Gencerts.generateSignedCert at hs
  dsimp only at hs
  cases hl : s.p12Map.lookup (splitextRoot (basename pair.2)) with
  | none =>
    rw [hl] at hs
    cases hs
    cases keyExists
    · exact h.generateKey rfl
    · exact h
  | some plist =>
    cases hp : pop plist with
    | none => simp only [hl, hp] at hs; cases hs
    | some q =>
      obtain ⟨p12, rest⟩ := q
      simp only [hl, hp, Except.ok.injEq, Prod.mk.injEq] at hs
      obtain ⟨-, rfl⟩ := hs
      have hc := List.perm_iff_count.1 (setItem_perm hl rest)
      refine ⟨h.ca, List.perm_iff_count.2 fun a => ?_⟩
      have h₁ := hc a
      have h₂ := List.perm_iff_count.1 h.p12 a
      rw [eq_of_pop_eq_some hp] at h₁
      simp only [List.count_append, List.map_append, List.map_cons, List.map_nil] at h₁ h₂ ⊢
      omega

theorem Conserved.resetAllCertsAndKeys (h : Conserved cas p12s s)
    (hs : resetAllCertsAndKeys s = .ok s') : Conserved cas p12s s' := by
  unfold Gencerts.resetAllCertsAndKeys resetUsedCerts at hs
  split at hs
  · next m hm =>
    cases hs
    exact ⟨by simpa [resetCaCerts] using h.ca, by simpa using (giveBack_perm hm).trans h.p12⟩
  · cases hs

theorem Conserved.step (h : Conserved cas p12s s) {c : Call} {r : Ret}
    (hs : step s c = .ok (r, s')) : Conserved cas p12s s' := by
  cases c with
  | getKey =>
    simp only [Gencerts.step] at hs
    split at hs <;> (cases hs; next hk => exact h.getKey hk)
  | generateKey filename =>
    simp only [Gencerts.step, Except.ok.injEq, Prod.mk.injEq] at hs
    exact hs.2 ▸ h.generateKey rfl
  | getCaCert =>
    simp only [Gencerts.step] at hs
    split at hs <;> (cases hs; next hk => exact h.getCaCert hk)
  | generateCaCert tmpdir filename =>
    simp only [Gencerts.step, Except.ok.injEq, Prod.mk.injEq] at hs
    exact hs.2 ▸ h.generateCaCert rfl
  | generateSignedCert pair key filename keyExists =>
    simp only [Gencerts.step] at hs
    split at hs
    · next hk => cases hs; exact h.generateSignedCert hk
    · cases hs
  | resetAllCertsAndKeys =>
    simp only [Gencerts.step] at hs
    split at hs
    · next hk => cases hs; exact h.resetAllCertsAndKeys hk
    · cases hs

theorem Conserved.run (h : Conserved cas p12s s) {cs : List Call} {rs : List Ret}
    (hs : run s cs = .ok (rs, s')) : Conserved cas p12s s' := by
  induction cs generalizing s rs with
  | nil => cases hs; exact h
  | cons c cs ih =>
    simp only [Gencerts.run] at hs
    split at hs
    · next hc =>
      split at hs
      · next hr => cases hs; exact ih (h.step hc) hr
      · cases hs
    · cases hs

end Conserved

/-- Over every sequence of calls from the pools the module's code fills, the CA pairs and the
PKCS#12 files are conserved: in the pools or handed out, each as often as at the start; so
when those start without repeats, none is handed out twice between two resets. -/
theorem gencerts_certs_conserved (keys : List String) (cas : List (String × String))
    (m : List (String × List String)) (cs : List Call) (rs : List Ret) (s : Pools)
    (h : run (Pools.init keys cas m) cs = .ok (rs, s)) :
    (s.caCerts ++ s.caCertsUsed).Perm cas ∧
    (p12Files s.p12Map ++ s.p12sUsed.map Prod.snd).Perm (p12Files m) ∧
    (cas.Nodup → s.caCertsUsed.Nodup) ∧ ((p12Files m).Nodup → (s.p12sUsed.map Prod.snd).Nodup) := by
  have hc : Conserved cas (p12Files m) s :=
    Conserved.run ⟨by simp [Pools.init], by simp [Pools.init]⟩ h
  exact ⟨hc.ca, hc.p12, fun hn => (hc.ca.nodup_iff.2 hn).of_append_right,
    fun hn => (hc.p12.nodup_iff.2 hn).of_append_right⟩

/-- One TLS test: a CA pair and its PKCS#12 file are drawn, then given back. -/
theorem gencerts_certs_conserved_one_test :
    run (Pools.init ["key1.pem"] [("key9.pem", "ca_cert_key9.pem")]
        [("ca_cert_key9", ["cert-key1-ca_cert_key9.p12"])])
        [.generateCaCert "/tmp" "/tmp/ca_cert.pem",
          .generateSignedCert ("key9.pem", "ca_cert_key9.pem") "/tmp/key.pem" "/tmp/key.p12" false,
          .resetAllCertsAndKeys] =
      .ok ([.pair ("key9.pem", "ca_cert_key9.pem"), .path "cert-key1-ca_cert_key9.p12", .none],
        ⟨["key1.pem"], [], [("key9.pem", "ca_cert_key9.pem")], [],
          [("ca_cert_key9", ["cert-key1-ca_cert_key9.p12"])], []⟩) ∧
    ([("key9.pem", "ca_cert_key9.pem")] ++ []).Perm [("key9.pem", "ca_cert_key9.pem")] ∧
    (p12Files [("ca_cert_key9", ["cert-key1-ca_cert_key9.p12"])] ++
        ([] : List (String × String)).map Prod.snd).Perm
      (p12Files [("ca_cert_key9", ["cert-key1-ca_cert_key9.p12"])]) ∧
    ([("key9.pem", "ca_cert_key9.pem")].Nodup → ([] : List (String × String)).Nodup) ∧
    ((p12Files [("ca_cert_key9", ["cert-key1-ca_cert_key9.p12"])]).Nodup →
      (([] : List (String × String)).map Prod.snd).Nodup) :=
  have h : run (Pools.init ["key1.pem"] [("key9.pem", "ca_cert_key9.pem")]
        [("ca_cert_key9", ["cert-key1-ca_cert_key9.p12"])])
        [.generateCaCert "/tmp" "/tmp/ca_cert.pem",
          .generateSignedCert ("key9.pem", "ca_cert_key9.pem") "/tmp/key.pem" "/tmp/key.p12" false,
          .resetAllCertsAndKeys] =
      .ok ([.pair ("key9.pem", "ca_cert_key9.pem"), .path "cert-key1-ca_cert_key9.p12", .none],
        ⟨["key1.pem"], [], [("key9.pem", "ca_cert_key9.pem")], [],
          [("ca_cert_key9", ["cert-key1-ca_cert_key9.p12"])], []⟩) := by
    rfl
  ⟨h, gencerts_certs_conserved _ _ _ _ _ _ h⟩

end Gencerts

end Harness

end Silk
