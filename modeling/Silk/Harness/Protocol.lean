import Silk.Harness.Supervisor
/-! The test program's side of the sendrcv harness: the calls of a `Daemon` handle (`start`,
`stop`, `kill`, `end`, each waiting in `expect`) and the module function `trigger`, over whole
messages (the framing is `Silk.Harness.Frame`). A `World` holds every handle with its
supervisor and the call the program is inside; a run interleaves supervisor turns with the
program's calls and reads in any order. -/
namespace Silk
namespace Harness
namespace Protocol
open Supervisor

/-- `rv[0]` of a reply. -/
def replyTag : Reply → String
  | .start => "start"
  | .stop => "stop"
  | .kill => "kill"
  | .stopped _ => "stopped"
  | .fired .. | .timedOut .. => "trigger"

/-- A handle whose `start()` has forked its supervisor: the requests the handle wrote, how many
of them the supervisor has loaded, and how many of its replies the handle has loaded. Once the
supervisor has exited, what the handle writes is lost and its reads find the end of file. -/
structure Link where
  sup : Sup
  requests : List Request
  served : Nat
  read : Nat

namespace Link

/-- The replies sent and not yet loaded, oldest first. -/
def waiting (l : Link) : List Reply := l.sup.sent.drop l.read

/-- `self.dump(request)` on the handle's side. -/
def send (r : Request) (l : Link) : Link := { l with requests := l.requests ++ [r] }

/-- A turn of the supervisor; when `select` found the pipe readable, it loads the oldest
request not yet loaded. -/
def turn (re : Re) (log : Option Chunk) (readPipe : Bool) (env : Env) (now : Nat) (l : Link) : Link :=
  match l.requests.get? l.served with
  | some r =>
    if readPipe && l.sup.alive then
      { l with sup := pass re l.sup ⟨log, some (.ok r), env, now⟩, served := l.served + 1 }
    else { l with sup := pass re l.sup ⟨log, none, env, now⟩ }
  | none => { l with sup := pass re l.sup ⟨log, none, env, now⟩ }

end Link

/-- `trigger`'s wait loop: `trigger_id`, `first`, the dict `pipes` (a daemon and the index of
its spec, in insertion order, one entry per daemon), `count` and `retval`. -/
structure TrigLoop where
  id : Nat
  first : Bool
  pipes : List (Nat × Nat)
  count : Nat
  retval : List (Option String)

/-- `pipes[daemon.pipe] = (..., idx)`: a daemon already there keeps its place and takes the
new index. -/
def insertPipe (d idx : Nat) : List (Nat × Nat) → List (Nat × Nat)
  | [] => [(d, idx)]
  | (d', i) :: ps => if d' = d then (d, idx) :: ps else (d', i) :: insertPipe d idx ps

/-- The call the program is inside. -/
inductive Call
  /-- `d.expect(cmd)`, from `start`, `stop`, `kill` (`cmd` their own tag) or `end` (`'stopped'`) -/
  | expect (d : Nat) (cmd : String)
  /-- the wait loop of `trigger` -/
  | waitTrigger (t : TrigLoop)

/-- What a call of the program ended with: the reply `expect` returned, `None` for a handle
never started, `trigger`'s `retval`, or an exception. -/
inductive Outcome
  | replied (r : Reply)
  | noProcess
  | triggered (retval : List (Option String))
  | raised (e : PyError)
  deriving DecidableEq, Repr

/-- A call the program makes. A trigger spec is `(daemon, timeout, match)`; `t(timeout)` is
the timeout itself at the default `TIMEOUT_FACTOR` of 1. -/
inductive Api
  | start (d : Nat)
  | stop (d : Nat)
  | kill (d : Nat)
  | end_ (d : Nat)
  | trigger (specs : List (Nat × Nat × String)) (pid first : Bool)

/-- The test program with its handles: `links[d]` is handle `d` once started, `triggerId` the
global `trigger_id`, `call` the call in progress, and `returned` what each finished call ended
with, in order. -/
structure World where
  links : List (Option Link)
  triggerId : Nat
  call : Option Call
  returned : List Outcome

namespace World

/-- `n` handles, none started. -/
def init (n : Nat) : World := ⟨List.replicate n none, 0, none, []⟩

def link (w : World) (d : Nat) : Option Link := (w.links.get? d).join

def setLink (w : World) (d : Nat) (l : Link) : World := { w with links := w.links.set d (some l) }

/-- End the call in progress with `o`. -/
def finish (o : Outcome) (w : World) : World := { w with call := none, returned := w.returned ++ [o] }

/-- `d.dump(request)` then `d.expect(cmd)`; a handle never started returns `None` at once. -/
def request (d : Nat) (r : Request) (cmd : String) (w : World) : World :=
  match w.link d with
  | some l => { w.setLink d (l.send r) with call := some (.expect d cmd) }
  | none => w.finish .noProcess

/-- The loop of `trigger` that writes one request per spec and fills `pipes` and `retval`;
an exception keeps what was written before it. -/
def sendSpecs (pid : Bool) (id : Nat) : List (Nat × Nat × String) → World → List (Nat × Nat) →
    List (Option String) → World × Except PyError (List (Nat × Nat) × List (Option String))
  | [], w, pipes, retval => (w, .ok (pipes, retval))
  | (d, timeout, pattern) :: specs, w, pipes, retval =>
    match w.link d with
    | some l => sendSpecs pid id specs (w.setLink d (l.send ⟨"trigger", some ⟨pid, id, pattern, timeout⟩⟩))
        (insertPipe d retval.length pipes) (retval ++ [none])
    | none => (w, .error .attributeError)

/-- The program calls `api` (when no call is in progress). -/
def begin (api : Api) (w : World) : World :=
  if w.call.isSome then w else
  match api with
  | .start d => match w.link d with
    | some l => { w.setLink d (l.send ⟨"start", none⟩) with call := some (.expect d "start") }
    | none => { w.setLink d ⟨Sup.init, [⟨"start", none⟩], 0, 0⟩ with call := some (.expect d "start") }
  | .stop d => w.request d ⟨"stop", none⟩ "stop"
  | .kill d => w.request d ⟨"kill", none⟩ "kill"
  | .end_ d => w.request d ⟨"end", none⟩ "stopped"
  | .trigger specs pid first =>
    let w := { w with triggerId := w.triggerId + 1 }
    match sendSpecs pid w.triggerId specs w [] [] with
    | (w', .error e) => w'.finish (.raised e)
    | (w', .ok (pipes, retval)) =>
      if specs.length = 0 then w'.finish (.triggered retval)
      else { w' with call := some (.waitTrigger ⟨w.triggerId, first, pipes, specs.length, retval⟩) }

/-- Supervisor `d` takes a turn. -/
def turn (re : Re) (d : Nat) (log : Option Chunk) (readPipe : Bool) (env : Env) (now : Nat) (w : World) : World :=
  match w.link d with
  | some l => w.setLink d (l.turn re log readPipe env now)
  | none => w

/-- Where `trigger`'s loop goes after a reply. -/
inductive TrigNext
  | wait (t : TrigLoop)
  | done (retval : List (Option String))
  | raised (e : PyError)

/-- What `trigger`'s loop does with a reply `rv` loaded from daemon `d`, whose spec index in
`pipes` is `idx`. -/
def onTriggerReply (t : TrigLoop) (d idx : Nat) : Reply → TrigNext
  | .fired id line =>
    if id ≠ t.id then .wait t else
    let t := { t with
      count := t.count - 1
      retval := t.retval.set idx (some line)
      pipes := t.pipes.filter (·.1 ≠ d) }
    if t.first || t.count = 0 then .done t.retval else .wait t
  | .timedOut id => if id ≠ t.id then .wait t else .raised .triggerError
  | _ => .raised .triggerError

/-- The call in progress loads one reply from daemon `d`, if it is waiting on it: `expect`
keeps the first reply with its tag and drops the others; `trigger` keeps replies to its own
id. On an empty channel whose supervisor has exited, `load` raises `RuntimeError`; on an empty
live one it blocks, and nothing happens. -/
def load (d : Nat) (w : World) : World :=
  match w.call, w.link d with
  | some (.expect d' cmd), some l =>
    if d' ≠ d then w else
    match l.waiting with
    | rv :: _ =>
      let w := w.setLink d { l with read := l.read + 1 }
      if replyTag rv = cmd then w.finish (.replied rv) else w
    | [] => if l.sup.alive then w else w.finish (.raised .runtimeError)
  | some (.waitTrigger t), some l =>
    match t.pipes.find? (·.1 = d) with
    | none => w
    | some (_, idx) =>
      match l.waiting with
      | rv :: _ =>
        let w := w.setLink d { l with read := l.read + 1 }
        match onTriggerReply t d idx rv with
        | .wait t => { w with call := some (.waitTrigger t) }
        | .done retval => w.finish (.triggered retval)
        | .raised e => w.finish (.raised e)
      | [] => if l.sup.alive then w else w.finish (.raised .runtimeError)
  | _, _ => w

end World

/-- One move of the whole system. -/
inductive Move
  | turn (d : Nat) (log : Option Chunk) (readPipe : Bool) (env : Env) (now : Nat)
  | call (api : Api)
  | load (d : Nat)

def World.move (re : Re) (w : World) : Move → World
  | .turn d log readPipe env now => w.turn re d log readPipe env now
  | .call api => w.begin api
  | .load d => w.load d

def World.run (re : Re) (w : World) (ms : List Move) : World := ms.foldl (World.move re) w

/-- One handle, started and logging `ready`. `trigger((d, 5, "never"), (d, 5, "ready"),
pid=False, first=True)` arms `never`, then replaces it with `ready`, which `logdata` answers at
once, and returns. The stale deadline then crashes the supervisor, whose handler sends
`('kill',)`. A later `d.kill()` writes a request that no one will ever load, and returns on
that `('kill',)`. -/
theorem kill_returns_unsolicited_reply :
    ∃ w, World.run Re.literal (World.init 1)
        [.call (.start 0), .turn 0 none true { spawn := some 7 } 0, .load 0,
          .turn 0 (some ⟨"ready\n".data, false⟩) false {} 0,
          .call (.trigger [(0, 5, "never"), (0, 5, "ready")] false true),
          .turn 0 none true { clock := 100 } 100, .turn 0 none true { clock := 101 } 101, .load 0,
          .turn 0 none false {} 106,
          .call (.kill 0), .load 0] = w ∧
      w.returned = [.replied .start, .triggered [none, some "ready\n"], .replied .kill] ∧
      ∃ l, w.link 0 = some l ∧ l.sup.alive = false ∧ l.served < l.requests.length ∧
        l.requests.getLast? = some ⟨"kill", none⟩ :=
  ⟨_, rfl, rfl, _, rfl, rfl, by decide, rfl⟩

/-- A `trigger` loop with nothing left in `pipes` waits on nothing: no move ends it. -/
theorem World.move_stuck {w : World} {t : TrigLoop} (hc : w.call = some (.waitTrigger t))
    (hp : t.pipes = []) (re : Re) (m : Move) :
    (w.move re m).call = w.call ∧ (w.move re m).returned = w.returned := by
  cases m with
  | turn d log readPipe env now =>
    simp only [World.move, World.turn]
    split <;> exact ⟨rfl, rfl⟩
  | call api => simp [World.move, World.begin, hc]
  | load d =>
    show (w.load d).call = w.call ∧ (w.load d).returned = w.returned
    unfold World.load
    split
    · next h _ => rw [hc] at h; cases h
    · next h _ =>
      rw [hc] at h
      cases h
      simp [hp]
    · exact ⟨rfl, rfl⟩

theorem World.run_stuck {w : World} {t : TrigLoop} (hc : w.call = some (.waitTrigger t))
    (hp : t.pipes = []) (re : Re) (ms : List Move) :
    (w.run re ms).call = w.call ∧ (w.run re ms).returned = w.returned := by
  induction ms generalizing w with
  | nil => exact ⟨rfl, rfl⟩
  | cons m ms ih =>
    obtain ⟨h1, h2⟩ := World.move_stuck hc hp re m
    obtain ⟨h3, h4⟩ := ih (h1.trans hc)
    exact ⟨h3.trans h1, h4.trans h2⟩

/-- `trigger((d, 5, "a"), (d, 5, "b"), pid=False)` names one daemon twice: `pipes` holds one
entry and `count` is 2. The second request replaces the first in the supervisor; once `b`
fires, `count` is 1 and `pipes` is empty, and the loop waits for good. -/
theorem trigger_same_daemon_hangs :
    ∃ w, World.run Re.literal (World.init 1)
        [.call (.start 0), .turn 0 none true { spawn := some 7 } 0, .load 0,
          .call (.trigger [(0, 5, "a"), (0, 5, "b")] false false),
          .turn 0 none true {} 1, .turn 0 none true {} 2,
          .turn 0 (some ⟨"b\n".data, false⟩) false {} 3, .load 0] = w ∧
      w.call = some (.waitTrigger ⟨1, false, [], 1, [none, some "b\n"]⟩) ∧
      ∀ ms, (w.run Re.literal ms).call = w.call ∧ (w.run Re.literal ms).returned = w.returned :=
  ⟨_, rfl, rfl, World.run_stuck rfl rfl Re.literal⟩

end Protocol

end Harness

end Silk
