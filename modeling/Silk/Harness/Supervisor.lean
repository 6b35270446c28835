import Silk.Python
/-! The supervisor of the sendrcv test harness (`Daemon._child` in `sendrcv_tests.py`, with
`_handle_log`, `_handle_parent`, `_start`, `_stop`, `_kill` and `_end`) as a state machine:
one `pass` is one turn of the `select` loop. The daemon, the clock and the operating system
are the environment: a pass is told what `select` found readable and what each read,
`poll()` and `time.time()` returned. The `re` module is abstract. -/
namespace Silk
namespace Harness
namespace Supervisor

/-- The part of `re` the supervisor uses: whether `re.compile(p)` succeeds, and whether the
compiled `p` finds a match in `line`. -/
structure Re where
  compiles : String → Bool
  search : String → String → Bool

/-- `re` on patterns without metacharacters: a pattern matches where it occurs in the line. -/
def Re.literal : Re where
  compiles _ := true
  search p line := (List.range (line.length + 1)).any fun i => p.data.isPrefixOf (line.data.drop i)

/-- The dict `{'pid', 'id', 'match', 'timeout'}` of a trigger request. -/
structure TriggerSpec where
  pid : Bool
  id : Nat
  pattern : String
  timeout : Nat
  deriving DecidableEq, Repr

/-- A request off the pipe: `request[0]`, and `request[1]` when there is one. -/
structure Request where
  tag : String
  arg : Option TriggerSpec
  deriving DecidableEq, Repr

/-- What the supervisor writes to the pipe with `self.dump`. -/
inductive Reply
  /-- `('start',)`, `('stop',)`, `('kill',)` -/
  | start | stop | kill
  /-- `("stopped", returncode)` -/
  | stopped (returncode : Option Int)
  /-- `('trigger', id, True, line)` -/
  | fired (id : Nat) (line : String)
  /-- `('trigger', id, False)` -/
  | timedOut (id : Nat)
  deriving DecidableEq, Repr

/-- The reply is a `('trigger', ...)`. -/
def Reply.isTrigger : Reply → Bool
  | .fired .. | .timedOut .. => true
  | _ => false

/-- `self.process`: its pid, and its `returncode` as the last `poll()` left it. -/
structure Proc where
  pid : Nat
  returncode : Option Int
  deriving DecidableEq, Repr

/-- `Popen.poll()` when the process's exit status is `rc`: a return code, once read, stays. -/
def Proc.poll (p : Proc) (rc : Option Int) : Proc := { p with returncode := p.returncode.or rc }

/-- `self.trigger`: the request's dict, with under `'re'` the pattern compiled for it once it
is armed. -/
structure Trigger where
  spec : TriggerSpec
  re : Option String
  deriving DecidableEq, Repr

/-- A trigger reply with what it was decided on: the trigger it resolves, the pattern
searched, the clock when that trigger was registered, the clock the timeout check read, and
`logdata` when the reply was sent. -/
structure Fire where
  reply : Reply
  spec : TriggerSpec
  re : String
  registered : Option Nat
  now : Option Nat
  logdata : List String

/-- The supervisor. `self.channels` always holds the pipe, which is never removed; `stderrIn`
says whether it holds the process's stderr too. `sent` is all it wrote to the pipe, in order.
The last three fields are proof-only. -/
structure Sup where
  process : Option Proc
  logdata : List String
  pendingLine : Option String
  trigger : Option Trigger
  timeout : Option Nat
  stderrIn : Bool
  alive : Bool
  sent : List Reply
  /-- the current process's stderr is at its end: all it will ever deliver has been read -/
  atEof : Bool
  /-- the clock when the pending trigger was registered -/
  regAt : Option Nat
  /-- every trigger reply sent, with what it was decided on -/
  fires : List Fire

/-- The supervisor as `start()` enters `_child` after the fork: `channels = [pipe]`. -/
def Sup.init : Sup := ⟨none, [], none, none, none, false, true, [], false, none, []⟩

/-- What one read of the process's stderr returned, and whether the stream is then at its end
(the daemon closed it and everything was read). Each byte is the character of its code. -/
structure Chunk where
  data : List Char
  eof : Bool

/-- What the world answers while a request is handled: the pid `Popen` gives (`none` when it
raises), the exit status a `poll()` finds (also the one `_end` reads within `KILL_DELAY`), the
status after `_end`'s `SIGKILL`, what `_end`'s `_handle_log` calls read, and `time.time()`
when a trigger is registered. -/
structure Env where
  spawn : Option Nat := none
  polled : Option Int := none
  status : Int := 0
  drain : List Chunk := []
  clock : Nat := 0

/-- One turn of the loop as the world shapes it: what `_handle_log` reads if stderr is
readable, what `self.load()` returns if the pipe is, and `time.time()` at the timeout check. -/
structure Pass where
  log : Option Chunk := none
  request : Option (Except PyError Request) := none
  env : Env := {}
  now : Nat := 0

/-- How a supervisor method ends, with the state it leaves: it returns, raises, or calls
`os._exit(0)`. -/
inductive Ret (α : Type)
  | ok (a : α) (s : Sup)
  | raised (e : PyError) (s : Sup)
  | exited (s : Sup)

namespace Ret
variable {α β : Type}

def state : Ret α → Sup
  | .ok _ s | .raised _ s | .exited s => s

/-- Go on with `k` after a method that returned. -/
def andThen (r : Ret α) (k : α → Sup → Ret β) : Ret β :=
  match r with
  | .ok a s => k a s
  | .raised e s => .raised e s
  | .exited s => .exited s

@[simp] theorem ok_andThen (a : α) (s : Sup) (k : α → Sup → Ret β) : (ok a s).andThen k = k a s := rfl

end Ret

/-! ### The methods -/

/-- `self.dump(r)`; a closed pipe swallows it, which the reader sees as end of file. -/
def dump (r : Reply) (s : Sup) : Sup := { s with sent := s.sent ++ [r] }

/-- `self.dump` of a trigger reply, with its record. -/
def fire (f : Fire) (s : Sup) : Sup := { s with sent := s.sent ++ [f.reply], fires := s.fires ++ [f] }

/-- `_kill`: `SIGKILL` to a running process (the world's business), then `('kill',)`. -/
def kill (s : Sup) : Sup := dump .kill s

/-- `_stop`: `SIGTERM` to a running process, then `('stop',)`. -/
def stop (s : Sup) : Sup := dump .stop s

/-- `str(line, encoding='ascii')`. -/
def decodeAscii (seg : List Char) : Except PyError String :=
  if seg.all (·.toNat < 128) then .ok (String.mk seg) else .error .unicodeDecodeError

/-- The lines `for line in fd` yields from what one read returned: cut after each newline,
an unterminated tail last. -/
def segments : List Char → List (List Char)
  | [] => []
  | c :: cs => if c = '\n' then ['\n'] :: segments cs else
    match segments cs with
    | [] => [[c]]
    | seg :: segs => (c :: seg) :: segs

/-- The body of `for line in fd` in `_handle_log`, from `got_line` = `got`. -/
def handleLines (re : Re) : Sup → List (List Char) → Bool → Ret Bool
  | s, [], got => .ok got s
  | s, seg :: segs, got =>
    match decodeAscii seg with
    | .error e => .raised e s
    | .ok line =>
      let line := s.pendingLine.getD "" ++ line
      if line.back ≠ '\n' then .ok got { s with pendingLine := some line } else
      let s := { s with pendingLine := none, logdata := s.logdata ++ [line] }
      match s.trigger with
      | none => handleLines re s segs true
      | some t => match t.re with
        | none => .raised .keyError s
        | some p =>
          if re.search p line then
            handleLines re (fire ⟨.fired t.spec.id line, t.spec, p, s.regAt, none, s.logdata⟩
              { s with timeout := none, trigger := none, regAt := none }) segs true
          else handleLines re s segs true

/-- `_handle_log(self.process.stderr)` over what the read returned: `true` when it got a
whole line. -/
def handleLog (re : Re) (c : Chunk) (s : Sup) : Ret Bool :=
  handleLines re { s with atEof := s.atEof || c.eof } (segments c.data) false

/-- `while self._handle_log(self.process.stderr): pass`, over the reads it makes. -/
def drain (re : Re) : List Chunk → Sup → Ret Unit
  | [], s => .ok () s
  | c :: cs, s => (handleLog re c s).andThen fun got s => if got then drain re cs s else .ok () s

/-- `_start`: drop the old stderr from the channels, spawn, watch the new stderr. -/
def start (env : Env) (s : Sup) : Ret Unit :=
  let s := if s.process.isSome && s.stderrIn then { s with stderrIn := false } else s
  match env.spawn with
  | none => .raised .osError s
  | some pid => .ok () (dump .start { s with process := some ⟨pid, none⟩, stderrIn := true, atEof := false })

/-- `_end`: wait up to `KILL_DELAY` for the process to exit, `_kill` it if it has not and wait
for it, then read its log until `_handle_log` returns False. -/
def end_ (re : Re) (env : Env) (s : Sup) : Ret Bool :=
  match s.process with
  | none => .raised .attributeError s
  | some p =>
    let p := p.poll env.polled
    if p.returncode.isSome then (drain re env.drain { s with process := some p }).andThen fun _ s => .ok true s
    else (drain re env.drain { (kill s) with process := some (p.poll (some env.status)) }).andThen
      fun _ s => .ok false s

/-- The pattern a trigger request compiles: `r"\[%s\].*%s" % (self.process.pid, match)` with
pid scope, else the match itself. -/
def triggerPattern (spec : TriggerSpec) : Option Proc → Except PyError String
  | some p => .ok (if spec.pid then "\\[" ++ toString p.pid ++ "\\].*" ++ spec.pattern else spec.pattern)
  | none => if spec.pid then .error .attributeError else .ok spec.pattern

/-- The `'trigger'` branch of `_handle_parent`: answer at once from `logdata`, or arm. -/
def registerTrigger (re : Re) (clock : Nat) (spec : TriggerSpec) (s : Sup) : Ret Unit :=
  let s := { s with trigger := some ⟨spec, none⟩ }
  match triggerPattern spec s.process with
  | .error e => .raised e s
  | .ok p =>
    if re.compiles p = false then .raised .reError s else
    match s.logdata.find? (re.search p) with
    | some line => .ok () (fire ⟨.fired spec.id line, spec, p, none, none, s.logdata⟩
        { s with trigger := none, regAt := none })
    | none => .ok ()
      { s with trigger := some ⟨spec, some p⟩, timeout := some (clock + spec.timeout), regAt := some clock }

/-- `_handle_parent` on the request `self.load()` returned. -/
def handleParent (re : Re) (env : Env) (r : Request) (s : Sup) : Ret Unit :=
  let s := if r.tag = "stop" then stop s else s
  if r.tag = "start" then
    match s.process with
    | some p =>
      if (p.poll env.polled).returncode.isNone then .raised .runtimeError { s with process := some (p.poll env.polled) }
      else start env { s with process := some (p.poll env.polled) }
    | none => start env s
  else if r.tag = "kill" then .ok () (kill s)
  else if r.tag = "end" then (end_ re env s).andThen fun _ s => match s.process with
    | some p => .ok () (dump (.stopped p.returncode) s)
    | none => .raised .attributeError s
  else if r.tag = "exit" then .exited s
  else if r.tag = "trigger" then match r.arg with
    | some spec => registerTrigger re env.clock spec s
    | none => .raised .indexError s
  else .ok () s

/-! ### One turn of `_child` -/

/-- The stderr branch of the loop: `_handle_log`, and the stream dropped when it returns False. -/
def logPhase (re : Re) (c : Option Chunk) (s : Sup) : Ret Unit :=
  match c with
  | some c =>
    if s.process.isSome && s.stderrIn then
      (handleLog re c s).andThen fun got s => .ok () (if got then s else { s with stderrIn := false })
    else .ok () s
  | none => .ok () s

/-- The pipe branch of the loop. -/
def requestPhase (re : Re) (env : Env) : Option (Except PyError Request) → Sup → Ret Unit
  | none, s => .ok () s
  | some (.error e), s => .raised e s
  | some (.ok r), s => handleParent re env r s

/-- The timeout check that ends each turn; it reads `self.trigger` for its log message. -/
def checkTimeout (now : Nat) (s : Sup) : Ret Unit :=
  match s.timeout with
  | some d =>
    if d < now then
      match s.trigger with
      | some t => .ok () (fire ⟨.timedOut t.spec.id, t.spec, t.re.getD "", s.regAt, some now, s.logdata⟩
          { s with timeout := none, trigger := none, regAt := none })
      | none => .raised .typeError s
    else .ok () s
  | none => .ok () s

/-- The handler around `_child` in `start()`: `_kill()`, then `os._exit(0)`. -/
def crash (s : Sup) : Sup := { (kill s) with alive := false }

/-- One turn of the `_child` loop; an exception ends the supervisor through `crash`. -/
def pass (re : Re) (s : Sup) (p : Pass) : Sup :=
  if s.alive then
    match ((logPhase re p.log s).andThen fun _ => requestPhase re p.env p.request).andThen
      fun _ => checkTimeout p.now with
    | .ok _ s => s
    | .raised _ s => crash s
    | .exited s => { s with alive := false }
  else s

/-- Turns one after another. -/
def run (re : Re) (s : Sup) (ps : List Pass) : Sup := ps.foldl (pass re) s

/-- The states the supervisor can reach. -/
inductive Reachable (re : Re) : Sup → Prop
  | init : Reachable re Sup.init
  | step {s : Sup} (p : Pass) : Reachable re s → Reachable re (pass re s p)

theorem Reachable.run {re : Re} {s : Sup} (h : Reachable re s) (ps : List Pass) :
    Reachable re (run re s ps) := by
  induction ps generalizing s with
  | nil => exact h
  | cons p ps ih => exact ih (h.step p)

/-- A read that returns only the fragment `abc` of a line makes `_handle_log` return False, and
`_child` drops the stream though it is not at its end: the rest of the line, and every line
after it, is never read. -/
theorem fragment_drops_stderr :
    ∃ s, run Re.literal Sup.init
        [{ request := some (.ok ⟨"start", none⟩), env := { spawn := some 7 } }, { log := some ⟨"abc".data, false⟩ }] = s ∧
      Reachable Re.literal s ∧ s.process.isSome ∧ s.stderrIn = false ∧ s.atEof = false ∧
      (pass Re.literal s { log := some ⟨"def\n".data, false⟩ }).logdata = [] :=
  ⟨_, rfl, Reachable.init.run _, rfl, rfl, rfl, rfl⟩

/-- A trigger left pending (`never`, due at 105) is replaced by one that `logdata` answers at
once: `_handle_parent` clears `self.trigger` but not `self.timeout`. At 106 the timeout check
indexes `None`, and the supervisor dies through its crash handler after a `('kill',)`. -/
theorem stale_timeout_crash :
    ∃ s, run Re.literal Sup.init
        [{ request := some (.ok ⟨"start", none⟩), env := { spawn := some 7 } },
          { log := some ⟨"ready\n".data, false⟩ },
          { request := some (.ok ⟨"trigger", some ⟨false, 1, "never", 5⟩⟩), env := { clock := 100 }, now := 100 },
          { request := some (.ok ⟨"trigger", some ⟨false, 2, "ready", 5⟩⟩), env := { clock := 101 }, now := 101 }] = s ∧
      Reachable Re.literal s ∧ s.trigger = none ∧ s.timeout = some 105 ∧
      (pass Re.literal s { now := 106 }).alive = false ∧
      (pass Re.literal s { now := 106 }).sent = [.start, .fired 2 "ready\n", .kill] :=
  ⟨_, rfl, Reachable.init.run _, rfl, rfl, rfl, rfl⟩

/-! ### Trigger replies -/

section Sound
variable (re : Re)

/-- What a trigger reply promises. It resolves a trigger whose pattern is the one a trigger
request compiles; a fired reply carries a whole line of `logdata` that the pattern matches;
a timeout comes strictly after the registration plus `'timeout'`, with no line of `logdata`
matching. -/
def Fire.Sound (f : Fire) : Prop :=
  (∃ proc, triggerPattern f.spec proc = .ok f.re) ∧
  match f.reply with
  | .fired id line => id = f.spec.id ∧ line ∈ f.logdata ∧ line.back = '\n' ∧ re.search f.re line = true
  | .timedOut id => id = f.spec.id ∧ (∃ r n, f.registered = some r ∧ f.now = some n ∧ r + f.spec.timeout < n) ∧
      ∀ l ∈ f.logdata, re.search f.re l = false
  | _ => False

/-- What every state keeps: each trigger reply sent has its record, and each record is sound. -/
structure Hist (s : Sup) : Prop where
  sound : ∀ f ∈ s.fires, f.Sound re
  recorded : s.fires.map Fire.reply = s.sent.filter Reply.isTrigger

/-- A pending trigger is armed: its pattern compiled, registered at `regAt`, due at
`regAt + 'timeout'`, and matching no line seen so far. -/
def Armed (s : Sup) : Prop :=
  ∀ t, s.trigger = some t → ∃ p r, t.re = some p ∧ (∃ proc, triggerPattern t.spec proc = .ok p) ∧
    s.regAt = some r ∧ s.timeout = some (r + t.spec.timeout) ∧ ∀ l ∈ s.logdata, re.search p l = false

/-- What a live supervisor keeps between turns. -/
structure Inv (s : Sup) extends Hist re s : Prop where
  lines : ∀ l ∈ s.logdata, l.back = '\n'
  armed : Armed re s

/-- What a method leaves: the invariant if it returns, the history if it raises or exits. -/
def Post {α : Type} : Ret α → Prop
  | .ok _ s => Inv re s
  | .raised _ s | .exited s => Hist re s

variable {re}

theorem Inv.init : Inv re Sup.init :=
  ⟨⟨by simp [Sup.init], rfl⟩, by simp [Sup.init], by simp [Armed, Sup.init]⟩

theorem Hist.dump {s : Sup} (h : Hist re s) (r : Reply) (hr : r.isTrigger = false) :
    Hist re (dump r s) :=
  ⟨h.sound, by simp [Supervisor.dump, List.filter_append, hr, h.recorded]⟩

theorem Hist.fire {s : Sup} (h : Hist re s) {f : Fire} (hf : f.Sound re) (ht : f.reply.isTrigger = true) :
    Hist re (fire f s) := by
  refine ⟨fun g hg => ?_, by simp [Supervisor.fire, List.filter_append, ht, h.recorded]⟩
  rcases List.mem_append.1 hg with hg | hg
  · exact h.sound g hg
  · rw [List.mem_singleton.1 hg]; exact hf

theorem Inv.dump {s : Sup} (h : Inv re s) (r : Reply) (hr : r.isTrigger = false) : Inv re (dump r s) :=
  ⟨h.toHist.dump r hr, h.lines, h.armed⟩

/-- The invariant reads only these fields. -/
theorem Inv.congr {s s' : Sup} (h : Inv re s) (h1 : s'.fires = s.fires) (h2 : s'.sent = s.sent)
    (h3 : s'.logdata = s.logdata) (h4 : s'.trigger = s.trigger) (h5 : s'.regAt = s.regAt)
    (h6 : s'.timeout = s.timeout) : Inv re s' := by
  obtain ⟨⟨hs, hr⟩, hl, ha⟩ := h
  exact ⟨⟨h1 ▸ hs, h1 ▸ h2 ▸ hr⟩, h3 ▸ hl, by simpa only [Armed, h3, h4, h5, h6] using ha⟩

/-- A fire that leaves no trigger pending keeps the invariant. -/
theorem Inv.fire_disarmed {s : Sup} (h : Hist re s) (hl : ∀ l ∈ s.logdata, l.back = '\n')
    (htr : s.trigger = none) {f : Fire} (hf : f.Sound re) (ht : f.reply.isTrigger = true) :
    Inv re (fire f s) :=
  ⟨h.fire hf ht, hl, fun t h => by simp [Supervisor.fire, htr] at h⟩

theorem Post.andThen {α β : Type} {r : Ret α} {k : α → Sup → Ret β} (hr : Post re r)
    (hk : ∀ a s, Inv re s → Post re (k a s)) : Post re (r.andThen k) := by
  cases r with
  | ok a s => exact hk a s hr
  | raised e s => exact hr
  | exited s => exact hr

theorem lines_append {ls : List String} (h : ∀ l ∈ ls, l.back = '\n') {l : String} (hl : l.back = '\n') :
    ∀ x ∈ ls ++ [l], x.back = '\n' := by
  simp only [List.mem_append, List.mem_singleton]
  rintro x (hx | rfl)
  exacts [h x hx, hl]

/-- A whole line the pending trigger does not match joins `logdata`. -/
theorem Inv.append {s : Sup} (h : Inv re s) {l : String} (hl : l.back = '\n')
    (hnm : ∀ t p, s.trigger = some t → t.re = some p → re.search p l = false) :
    Inv re { s with pendingLine := none, logdata := s.logdata ++ [l] } := by
  refine ⟨⟨h.sound, h.recorded⟩, lines_append h.lines hl, fun t ht => ?_⟩
  obtain ⟨p, r, hp, hpat, hr, hto, hnm'⟩ := h.armed t ht
  refine ⟨p, r, hp, hpat, hr, hto, ?_⟩
  simp only [List.mem_append, List.mem_singleton]
  rintro x (hx | rfl)
  exacts [hnm' x hx, hnm t p ht hp]

theorem handleLines_post {s : Sup} (h : Inv re s) (segs : List (List Char)) (got : Bool) :
    Post re (handleLines re s segs got) := by
  induction segs generalizing s got with
  | nil => exact h
  | cons seg segs ih =>
    rw [handleLines]
    split
    · exact h.toHist
    next line _ =>
      dsimp only
      split
      · exact ⟨⟨h.sound, h.recorded⟩, h.lines, h.armed⟩
      next hb =>
        have hb : (s.pendingLine.getD "" ++ line).back = '\n' := not_not.1 hb
        split
        next htr => exact ih (h.append hb (by simp [htr])) true
        next t htr =>
          obtain ⟨p, r, hp, hpat, -, -, -⟩ := h.armed t htr
          rw [hp]
          dsimp only
          split
          next hs =>
            refine ih (Inv.fire_disarmed ?_ ?_ ?_ ?_ ?_) true
            · exact ⟨h.sound, h.recorded⟩
            · exact lines_append h.lines hb
            · rfl
            · exact ⟨hpat, rfl, List.mem_append_right _ (List.mem_singleton_self _), hb, hs⟩
            · rfl
          next hs =>
            refine ih (h.append hb fun t' p' ht' hp' => ?_) true
            rw [htr] at ht'; cases ht'; rw [hp] at hp'; cases hp'; simpa using hs

theorem handleLog_post {s : Sup} (h : Inv re s) (c : Chunk) : Post re (handleLog re c s) := by
  refine handleLines_post ?_ _ _
  exact ⟨⟨h.sound, h.recorded⟩, h.lines, h.armed⟩

theorem drain_post {s : Sup} (h : Inv re s) (cs : List Chunk) : Post re (drain re cs s) := by
  induction cs generalizing s with
  | nil => exact h
  | cons c cs ih =>
    refine (handleLog_post h c).andThen fun got s' h' => ?_
    split
    · exact ih h'
    · exact h'

theorem start_post {s : Sup} (h : Inv re s) (env : Env) : Post re (start env s) := by
  unfold start
  dsimp only
  split <;> split
  all_goals first
    | exact ⟨h.sound, h.recorded⟩
    | (refine Inv.dump ?_ .start rfl; exact ⟨⟨h.sound, h.recorded⟩, h.lines, h.armed⟩)

theorem end_post {s : Sup} (h : Inv re s) (env : Env) : Post re (end_ re env s) := by
  unfold end_
  split
  · exact h.toHist
  · dsimp only
    split
    · refine (drain_post ?_ _).andThen fun _ _ h' => h'
      exact ⟨⟨h.sound, h.recorded⟩, h.lines, h.armed⟩
    · refine (drain_post ?_ _).andThen fun _ _ h' => h'
      have hk : Inv re (kill s) := h.dump .kill rfl
      exact ⟨⟨hk.sound, hk.recorded⟩, hk.lines, hk.armed⟩

theorem registerTrigger_post {s : Sup} (h : Inv re s) (clock : Nat) (spec : TriggerSpec) :
    Post re (registerTrigger re clock spec s) := by
  unfold registerTrigger
  dsimp only
  split
  · exact ⟨h.sound, h.recorded⟩
  next p hp =>
    split
    · exact ⟨h.sound, h.recorded⟩
    · split
      next line hl =>
        refine Inv.fire_disarmed ?_ ?_ ?_ ?_ ?_
        · exact ⟨h.sound, h.recorded⟩
        · exact h.lines
        · rfl
        · have hmem := List.mem_of_find?_eq_some hl
          exact ⟨⟨_, hp⟩, rfl, hmem, h.lines _ hmem, List.find?_some hl⟩
        · rfl
      next hl =>
        refine ⟨⟨h.sound, h.recorded⟩, h.lines, fun t ht => ?_⟩
        cases ht
        exact ⟨p, clock, rfl, ⟨_, hp⟩, rfl, rfl, fun l hl' => by simpa using List.find?_eq_none.1 hl l hl'⟩

theorem handleParent_post {s : Sup} (h : Inv re s) (env : Env) (r : Request) :
    Post re (handleParent re env r s) := by
  have h0 : Inv re (if r.tag = "stop" then stop s else s) := by
    split
    · exact h.dump .stop rfl
    · exact h
  unfold handleParent
  generalize (if r.tag = "stop" then stop s else s) = s0 at h0 ⊢
  by_cases hstart : r.tag = "start"
  · rw [if_pos hstart]
    match hp : s0.process with
    | some p =>
      dsimp only
      have h1 : Inv re { s0 with process := some (p.poll env.polled) } :=
        ⟨⟨h0.sound, h0.recorded⟩, h0.lines, h0.armed⟩
      split
      · exact h1.toHist
      · exact start_post h1 env
    | none => exact start_post h0 env
  rw [if_neg hstart]
  by_cases hkill : r.tag = "kill"
  · rw [if_pos hkill]; exact h0.dump .kill rfl
  rw [if_neg hkill]
  by_cases hend : r.tag = "end"
  · rw [if_pos hend]
    refine (end_post h0 env).andThen fun _ s' h' => ?_
    split
    · exact h'.dump _ rfl
    · exact h'.toHist
  rw [if_neg hend]
  by_cases hexit : r.tag = "exit"
  · rw [if_pos hexit]; exact h0.toHist
  rw [if_neg hexit]
  by_cases htrig : r.tag = "trigger"
  · rw [if_pos htrig]
    split
    · exact registerTrigger_post h0 _ _
    · exact h0.toHist
  rw [if_neg htrig]
  exact h0

theorem logPhase_post {s : Sup} (h : Inv re s) (c : Option Chunk) : Post re (logPhase re c s) := by
  unfold logPhase
  split
  · split
    · refine (handleLog_post h _).andThen fun got s' h' => ?_
      split
      · exact h'
      · exact ⟨⟨h'.sound, h'.recorded⟩, h'.lines, h'.armed⟩
    · exact h
  · exact h

theorem requestPhase_post {s : Sup} (h : Inv re s) (env : Env) (q : Option (Except PyError Request)) :
    Post re (requestPhase re env q s) := by
  match q with
  | none => exact h
  | some (.error e) => exact h.toHist
  | some (.ok r) => exact handleParent_post h env r

theorem checkTimeout_post {s : Sup} (h : Inv re s) (now : Nat) : Post re (checkTimeout now s) := by
  unfold checkTimeout
  split
  next d hd =>
    split
    next hlt =>
      split
      next t ht =>
        obtain ⟨p, r, hp, hpat, hr, hto, hnm⟩ := h.armed t ht
        rw [hto] at hd
        cases hd
        refine Inv.fire_disarmed ?_ ?_ ?_ ?_ ?_
        · exact ⟨h.sound, h.recorded⟩
        · exact h.lines
        · rfl
        · rw [hp, hr]
          exact ⟨hpat, rfl, ⟨r, now, rfl, rfl, hlt⟩, hnm⟩
        · rfl
      next => exact h.toHist
    next => exact h
  next => exact h

/-- A turn keeps the history, and the invariant while the supervisor lives. -/
theorem pass_inv {s : Sup} (h : Hist re s ∧ (s.alive = true → Inv re s)) (p : Pass) :
    Hist re (pass re s p) ∧ ((pass re s p).alive = true → Inv re (pass re s p)) := by
  unfold pass
  split
  next ha =>
    have hp := ((logPhase_post (h.2 ha) p.log).andThen fun _ _ h' => requestPhase_post h' p.env p.request).andThen
      fun _ _ h' => checkTimeout_post h' p.now
    split
    next s' heq => rw [heq] at hp; exact ⟨hp.toHist, fun _ => hp⟩
    next s' heq =>
      rw [heq] at hp
      have hk := Hist.dump hp .kill rfl
      exact ⟨⟨hk.sound, hk.recorded⟩, fun h => by simp [crash] at h⟩
    next s' heq => rw [heq] at hp; exact ⟨⟨hp.sound, hp.recorded⟩, fun h => by simp at h⟩
  next => exact h

theorem Reachable.inv {s : Sup} (h : Reachable re s) : Hist re s ∧ (s.alive = true → Inv re s) := by
  induction h with
  | init => exact ⟨Inv.init.toHist, fun _ => Inv.init⟩
  | step p _ ih => exact pass_inv ih p

theorem handleParent_trigger (re : Re) (env : Env) (spec : TriggerSpec) (s : Sup) :
    handleParent re env ⟨"trigger", some spec⟩ s = registerTrigger re env.clock spec s := rfl

/-- Every trigger reply a supervisor sends is sound, in every run: each one sent has its
record, and each record is sound. And a trigger request that a line of `logdata` already
matches is answered while it is handled, with the first such line. -/
theorem trigger_replies_sound (re : Re) :
    (∀ s, Reachable re s →
      (∀ f ∈ s.fires, f.Sound re) ∧ s.fires.map Fire.reply = s.sent.filter Reply.isTrigger) ∧
    ∀ (env : Env) (spec : TriggerSpec) (s : Sup) (p line : String),
      triggerPattern spec s.process = .ok p → re.compiles p = true → s.logdata.find? (re.search p) = some line →
      ∃ s', handleParent re env ⟨"trigger", some spec⟩ s = .ok () s' ∧
        s'.sent = s.sent ++ [.fired spec.id line] ∧ s'.trigger = none := by
  refine ⟨fun s h => ⟨h.inv.1.sound, h.inv.1.recorded⟩, fun env spec s p line hp hc hl => ?_⟩
  rw [handleParent_trigger]
  simp only [registerTrigger, hp, hc, hl]
  exact ⟨_, rfl, rfl, rfl⟩

theorem trigger_replies_sound_ready :
    ∃ s', handleParent Re.literal {} ⟨"trigger", some ⟨false, 1, "ready", 5⟩⟩
        { Sup.init with logdata := ["ready\n"] } = .ok () s' ∧
      s'.sent = [] ++ [.fired 1 "ready\n"] ∧ s'.trigger = none :=
  (trigger_replies_sound Re.literal).2 {} ⟨false, 1, "ready", 5⟩ { Sup.init with logdata := ["ready\n"] }
    "ready" "ready\n" rfl rfl rfl

/-- While the supervisor lives, a pending trigger is armed: compiled under `'re'`, due at its
registration clock plus `'timeout'`, and matching no line of `logdata`. -/
theorem pending_trigger_armed {re : Re} {s : Sup} (h : Reachable re s) (ha : s.alive = true) :
    Armed re s :=
  (h.inv.2 ha).armed

theorem pending_trigger_armed_never :
    ∃ s, run Re.literal Sup.init
        [{ request := some (.ok ⟨"start", none⟩), env := { spawn := some 7 } },
          { request := some (.ok ⟨"trigger", some ⟨false, 1, "never", 5⟩⟩), env := { clock := 100 }, now := 100 }] = s ∧
      s.trigger.isSome ∧ Armed Re.literal s :=
  ⟨_, rfl, rfl, pending_trigger_armed (Reachable.init.run _) rfl⟩

/-- A pending trigger past its deadline is answered at the next turn that reads nothing: a
timeout reply naming it, with the trigger and its deadline cleared. -/
theorem overdue_trigger_times_out {re : Re} {s : Sup} (h : Reachable re s) (ha : s.alive = true)
    {t : Trigger} (ht : s.trigger = some t) {r now : Nat} (hr : s.regAt = some r)
    (hnow : r + t.spec.timeout < now) :
    (pass re s { now }).sent = s.sent ++ [.timedOut t.spec.id] ∧
      (pass re s { now }).trigger = none ∧ (pass re s { now }).timeout = none := by
  obtain ⟨p, r', -, -, hr', hto, -⟩ := (h.inv.2 ha).armed t ht
  rw [hr] at hr'
  cases hr'
  simp [pass, ha, logPhase, requestPhase, checkTimeout, hto, ht, hnow, fire]

theorem overdue_trigger_times_out_never :
    ∃ s, run Re.literal Sup.init
        [{ request := some (.ok ⟨"start", none⟩), env := { spawn := some 7 } },
          { request := some (.ok ⟨"trigger", some ⟨false, 1, "never", 5⟩⟩), env := { clock := 100 }, now := 100 }] = s ∧
      Reachable Re.literal s ∧ s.alive = true ∧ s.trigger = some ⟨⟨false, 1, "never", 5⟩, some "never"⟩ ∧
      s.regAt = some 100 ∧ 100 + 5 < 106 ∧
      (pass Re.literal s { now := 106 }).sent = s.sent ++ [.timedOut 1] ∧
      (pass Re.literal s { now := 106 }).trigger = none ∧ (pass Re.literal s { now := 106 }).timeout = none :=
  let ps : List Pass := [{ request := some (.ok ⟨"start", none⟩), env := { spawn := some 7 } },
    { request := some (.ok ⟨"trigger", some ⟨false, 1, "never", 5⟩⟩), env := { clock := 100 }, now := 100 }]
  have hs : Reachable Re.literal (run Re.literal Sup.init ps) := Reachable.init.run ps
  ⟨_, rfl, hs, rfl, rfl, rfl, by decide, overdue_trigger_times_out hs rfl rfl rfl (by decide)⟩

end Sound

end Supervisor

end Harness

end Silk
