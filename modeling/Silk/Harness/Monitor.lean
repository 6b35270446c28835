import Silk.Harness.Supervisor
/-! The monitor loop of the daemon tests `flowcap-daemon.py`, `rwflowpack-daemon.py`,
`rwflowappend-daemon.py` and `rwpollexec-daemon.py`. Each starts its daemon, reads the daemon's
log a line at a time with `TimedReadline` (an empty line when a second passes without one), counts
what the daemon reports, and stops it: `SIGTERM` once it has been silent for `daemon_timeout`
seconds or has reported the expected count, `SIGKILL` when it has not stopped 15 seconds later.
The log and the clock are the environment: each turn of the loop is handed its line and one
clock reading, which stands for every `time.time()` of that turn. Patterns without
metacharacters are searched as `Supervisor.Re.literal` does; what the others find is left open.
The signals sent are kept as a ghost log. -/
namespace Silk
namespace Harness
namespace Monitor

/-- A signal sent to the daemon, with the clock of the turn of the loop that sent it, or `none`
for one sent after the loop. -/
inductive Signal
  | sigterm (t : Int)
  | sigkill (t : Option Int)
  deriving DecidableEq, Repr

/-- The variables the four loops share, and the signals sent so far. -/
structure Mon where
  count : Nat
  clean : Bool
  term : Bool
  starttime : Int
  shutdowntime : Option Int
  signals : List Signal
  deriving DecidableEq, Repr

namespace Mon

/-- `count = 0`, `clean = False`, `term = False`, `starttime = time.time()` and
`shutdowntime = None`. -/
def init (starttime : Int) : Mon := ⟨0, false, false, starttime, none, []⟩

/-- `shutdowntime = time.time()`, `term = True` and `os.kill(proc.pid, signal.SIGTERM)`. -/
def sigterm (s : Mon) (now : Int) : Mon :=
  { s with shutdowntime := some now, term := true, signals := s.signals ++ [.sigterm now] }

/-- `if time.time() - starttime > options.daemon_timeout and not term:` -/
def checkTimeout (s : Mon) (daemonTimeout now : Int) : Mon :=
  if now - s.starttime > daemonTimeout && !s.term then s.sigterm now else s

/-- A line that counts: `count += n`, `starttime = time.time()`, and the `SIGTERM` of
`if reached(count) and not term:`. -/
def bump (s : Mon) (n : Nat) (reached : Nat → Bool) (now : Int) : Mon :=
  let s := { s with count := s.count + n, starttime := now }
  if reached s.count && !s.term then s.sigterm now else s

/-- `if closing.search(line): clean = True`. -/
def checkClosing (s : Mon) (closed : Bool) : Mon := if closed then { s with clean := true } else s

/-- `shutdowntime and time.time() - shutdowntime > 15`. -/
def overdue (s : Mon) (now : Int) : Bool :=
  match s.shutdowntime with
  | some t => t ≠ 0 && now - t > 15
  | none => false

/-- The `SIGKILL` of `if shutdowntime and time.time() - shutdowntime > 15:`, which also sets
`shutdowntime = None`. -/
def checkKill (s : Mon) (now : Int) : Mon :=
  if s.overdue now then { s with shutdowntime := none, signals := s.signals ++ [.sigkill (some now)] }
  else s

/-- The `finally` block: `proc.poll()` and a `SIGKILL` when the daemon has not exited. -/
def finish (s : Mon) (returncode : Option Int) : Mon :=
  if returncode.isNone then { s with signals := s.signals ++ [.sigkill none] } else s

@[simp] theorem sigterm_count (s : Mon) (now : Int) : (s.sigterm now).count = s.count := rfl
@[simp] theorem sigterm_term (s : Mon) (now : Int) : (s.sigterm now).term = true := rfl
@[simp] theorem sigterm_clean (s : Mon) (now : Int) : (s.sigterm now).clean = s.clean := rfl

theorem checkTimeout_count (s : Mon) (d now : Int) : (s.checkTimeout d now).count = s.count := by
  unfold checkTimeout; split <;> rfl

theorem checkClosing_count (s : Mon) (c : Bool) : (s.checkClosing c).count = s.count := by
  unfold checkClosing; split <;> rfl

theorem checkKill_count (s : Mon) (now : Int) : (s.checkKill now).count = s.count := by
  unfold checkKill; split <;> rfl

theorem bump_count (s : Mon) (n : Nat) (r : Nat → Bool) (now : Int) :
    (s.bump n r now).count = s.count + n := by
  unfold bump; dsimp only; split <;> rfl

theorem checkTimeout_term (s : Mon) (d now : Int) (h : s.term = true) :
    (s.checkTimeout d now).term = true := by
  unfold checkTimeout; split <;> simp [h]

theorem checkClosing_term (s : Mon) (c : Bool) : (s.checkClosing c).term = s.term := by
  unfold checkClosing; split <;> rfl

theorem checkKill_term (s : Mon) (now : Int) : (s.checkKill now).term = s.term := by
  unfold checkKill; split <;> rfl

/-! ### The signals of one loop -/

/-- The signals sent so far, as the loop's variables record them: none yet; one `SIGTERM`,
whose `SIGKILL` is due 15 seconds after its clock; or that `SIGTERM` and, more than 15 seconds
later by the clock, one `SIGKILL`. -/
def Disciplined (s : Mon) : Prop :=
  (s.signals = [] ∧ s.term = false ∧ s.shutdowntime = none) ∨
  (∃ t, s.signals = [.sigterm t] ∧ s.term = true ∧ s.shutdowntime = some t) ∨
  (∃ t t', s.signals = [.sigterm t, .sigkill (some t')] ∧ t' - t > 15 ∧ s.term = true ∧
    s.shutdowntime = none)

theorem Disciplined.init (starttime : Int) : (init starttime).Disciplined := .inl ⟨rfl, rfl, rfl⟩

/-- An update that leaves the signals, `term` and `shutdowntime` alone. -/
theorem Disciplined.frame {s s' : Mon} (h : s.Disciplined) (h₁ : s'.signals = s.signals)
    (h₂ : s'.term = s.term) (h₃ : s'.shutdowntime = s.shutdowntime) : s'.Disciplined := by
  unfold Disciplined; rw [h₁, h₂, h₃]; exact h

theorem Disciplined.sigterm {s : Mon} (h : s.Disciplined) (ht : s.term = false) (now : Int) :
    (s.sigterm now).Disciplined := by
  rcases h with ⟨hs, -, -⟩ | ⟨_, -, h, -⟩ | ⟨_, _, -, -, h, -⟩
  · exact .inr (.inl ⟨now, by simp [Mon.sigterm, hs], rfl, rfl⟩)
  all_goals rw [ht] at h; cases h

theorem Disciplined.checkTimeout {s : Mon} (h : s.Disciplined) (d now : Int) :
    (s.checkTimeout d now).Disciplined := by
  unfold Mon.checkTimeout
  split
  next hc =>
    simp only [Bool.and_eq_true, Bool.not_eq_true'] at hc
    exact h.sigterm hc.2 now
  · exact h

theorem Disciplined.bump {s : Mon} (h : s.Disciplined) (n : Nat) (r : Nat → Bool) (now : Int) :
    (s.bump n r now).Disciplined := by
  have h' : ({ s with count := s.count + n, starttime := now } : Mon).Disciplined :=
    h.frame rfl rfl rfl
  unfold Mon.bump
  dsimp only
  split
  next hc =>
    simp only [Bool.and_eq_true, Bool.not_eq_true'] at hc
    exact h'.sigterm hc.2 now
  · exact h'

theorem Disciplined.checkClosing {s : Mon} (h : s.Disciplined) (c : Bool) :
    (s.checkClosing c).Disciplined := by
  unfold Mon.checkClosing; split
  · exact h.frame rfl rfl rfl
  · exact h

theorem Disciplined.checkKill {s : Mon} (h : s.Disciplined) (now : Int) :
    (s.checkKill now).Disciplined := by
  unfold Mon.checkKill
  split
  next ho =>
    rcases h with ⟨-, -, hn⟩ | ⟨t, hs, ht, hn⟩ | ⟨_, _, -, -, -, hn⟩
    · simp [Mon.overdue, hn] at ho
    · simp only [Mon.overdue, hn, Bool.and_eq_true, decide_eq_true_eq] at ho
      exact .inr (.inr ⟨t, now, by simp [hs], ho.2, ht, rfl⟩)
    · simp [Mon.overdue, hn] at ho
  · exact h

end Mon

/-- What the loop can have sent: nothing, one `SIGTERM`, or a `SIGTERM` and more than 15 seconds
later one `SIGKILL`. -/
def LoopSignals (l : List Signal) : Prop :=
  l = [] ∨ (∃ t, l = [.sigterm t]) ∨ ∃ t t', l = [.sigterm t, .sigkill (some t')] ∧ t' - t > 15

theorem Mon.Disciplined.loopSignals {s : Mon} (h : s.Disciplined) : LoopSignals s.signals := by
  rcases h with ⟨h, -⟩ | ⟨t, h, -⟩ | ⟨t, t', h, ht, -⟩
  · exact .inl h
  · exact .inr (.inl ⟨t, h⟩)
  · exact .inr (.inr ⟨t, t', h, ht⟩)

theorem Mon.Disciplined.sigterm_sent {s : Mon} (h : s.Disciplined) (ht : s.term = true) :
    ∃ t, Signal.sigterm t ∈ s.signals := by
  rcases h with ⟨-, h, -⟩ | ⟨t, hs, -⟩ | ⟨t, _, hs, -⟩
  · rw [ht] at h; cases h
  all_goals exact ⟨t, by simp [hs]⟩

@[simp] theorem finish_count (s : Mon) (returncode : Option Int) :
    (s.finish returncode).count = s.count := by
  unfold Mon.finish; split <;> rfl

theorem sigterm_mem_finish {s : Mon} {t : Int} (h : Signal.sigterm t ∈ s.signals)
    (returncode : Option Int) : Signal.sigterm t ∈ (s.finish returncode).signals := by
  unfold Mon.finish; split
  · exact List.mem_append_left _ h
  · exact h

theorem finish_signals (s : Mon) (returncode : Option Int) :
    (s.finish returncode).signals =
      s.signals ++ (if returncode = none then [.sigkill none] else []) := by
  unfold Mon.finish; cases returncode <;> simp

/-- Once a line has counted, a count that `reached` accepts finds `term` set: the test follows
every change of the count. -/
def Mon.Reached (reached : Nat → Bool) (s : Mon) : Prop :=
  0 < s.count → reached s.count = true → s.term = true

theorem Mon.Reached.init (reached : Nat → Bool) (starttime : Int) :
    (Mon.init starttime).Reached reached := fun h => absurd h (Nat.lt_irrefl 0)

theorem Mon.Reached.checkTimeout {r : Nat → Bool} {s : Mon} (h : s.Reached r) (d now : Int) :
    (s.checkTimeout d now).Reached r := by
  unfold Reached; rw [checkTimeout_count]
  exact fun hc hr => checkTimeout_term s d now (h hc hr)

theorem Mon.Reached.bump {r : Nat → Bool} (s : Mon) (n : Nat) (now : Int) :
    (s.bump n r now).Reached r := by
  unfold Reached Mon.bump
  dsimp only
  split
  · exact fun _ _ => rfl
  next hc =>
    simp only [Bool.and_eq_true, Bool.not_eq_true', not_and, Bool.not_eq_false] at hc
    exact fun _ => hc

theorem Mon.Reached.checkClosing {r : Nat → Bool} {s : Mon} (h : s.Reached r) (c : Bool) :
    (s.checkClosing c).Reached r := by
  unfold Reached; rw [checkClosing_count, checkClosing_term]; exact h

theorem Mon.Reached.checkKill {r : Nat → Bool} {s : Mon} (h : s.Reached r) (now : Int) :
    (s.checkKill now).Reached r := by
  unfold Reached; rw [checkKill_count, checkKill_term]; exact h

/-! ### `flowcap-daemon.py` and `rwflowpack-daemon.py` -/

/-- The options the loop of `flowcap-daemon.py` or `rwflowpack-daemon.py` reads. -/
structure Options where
  daemonTimeout : Int := 60
  limit : Option Int := none
  deriving DecidableEq, Repr

/-- `options.limit and count >= options.limit`. -/
def reached (limit : Option Int) (count : Nat) : Bool :=
  match limit with
  | some l => l ≠ 0 && decide (l ≤ count)
  | none => false

/-- `match = regexp.search(line)`, `num = int(match.group('recs'))` and `if num > 0:`. -/
def countRecs (o : Options) (s : Mon) (recs : Option Nat) (now : Int) : Mon :=
  match recs with
  | some num => if num > 0 then s.bump num (reached o.limit) now else s
  | none => s

/-- Whether `started` is still a pattern (it is set to `None` once it has matched), how many
times `send_network_data` ran, and how many times the after-data was copied and moved. -/
structure Net where
  started : Bool
  sends : Nat
  afters : Nat
  deriving DecidableEq, Repr

/-- `started = re.compile(...)` and `send_list = None`. -/
def Net.init : Net := ⟨true, 0, 0⟩

/-- One turn of the loop of `flowcap-daemon.py` or `rwflowpack-daemon.py` on `line` at clock
`now`. The two differ only in what a line that `started` matches does. -/
def netTurn (onStarted : Net → Net) (o : Options) (recs : String → Option Nat)
    (started closing : String → Bool) (s : Mon × Net) (line : String) (now : Int) : Mon × Net :=
  (((countRecs o (s.1.checkTimeout o.daemonTimeout now) (recs line) now).checkClosing
      (closing line)).checkKill now,
    if s.2.started && started line then onStarted s.2 else s.2)

/-- What `main` prints after the loop, and its exit status. -/
def recordReport (o : Options) (s : Mon) (returncode : Option Int) : List String × Int :=
  (("Record count: " ++ toString s.count) ::
    (match o.limit with
      | some l => if l ≠ 0 && l ≠ s.count then
          ["ERROR: expecting " ++ toString l ++ " records, got " ++ toString s.count ++ " records"]
        else []
      | none => []) ++
    (if s.clean then [] else ["ERROR: shutdown was not clean"]),
  returncode.getD 1)

namespace FlowcapDaemon

/-- A line `started` matches: `send_list = send_network_data(options)` and `started = None`, when
`send_list is None`. -/
def onStarted (n : Net) : Net :=
  if n.sends = 0 then { n with sends := n.sends + 1, started := false } else n

/-- `main()` once the daemon runs, on the line and clock reading of each turn of the loop and the
return code `proc.poll()` finds after it: the state, the printed lines and the exit status. -/
def main (o : Options) (recs : String → Option Nat) (started : String → Bool) (starttime : Int)
    (turns : List (String × Int)) (returncode : Option Int) : (Mon × Net) × List String × Int :=
  let s := turns.foldl (fun s t => netTurn onStarted o recs started
    (Supervisor.Re.literal.search "Stopped logging") s t.1 t.2) (Mon.init starttime, Net.init)
  ((s.1.finish returncode, s.2), recordReport o s.1 returncode)

end FlowcapDaemon

namespace RwflowpackDaemon

/-- A line `started` matches: `send_network_data` when `send_list is None`, then
`copy_files(dirobj, options.copy_after)`, `move_files(dirobj, options.move_after)` and
`started = None`. -/
def onStarted (n : Net) : Net :=
  { n with sends := if n.sends = 0 then n.sends + 1 else n.sends, afters := n.afters + 1,
           started := false }

/-- `main()` once the daemon runs, as `FlowcapDaemon.main` with `Starting flush timer` for
`started`. -/
def main (o : Options) (recs : String → Option Nat) (starttime : Int)
    (turns : List (String × Int)) (returncode : Option Int) : (Mon × Net) × List String × Int :=
  let s := turns.foldl (fun s t => netTurn onStarted o recs
    (Supervisor.Re.literal.search "Starting flush timer")
    (Supervisor.Re.literal.search "Stopped logging") s t.1 t.2) (Mon.init starttime, Net.init)
  ((s.1.finish returncode, s.2), recordReport o s.1 returncode)

end RwflowpackDaemon

/-! ### `rwflowappend-daemon.py` -/

namespace RwflowappendDaemon

/-- `limit = len(options.copy) + len(options.move) + options.file_limit`. -/
def limitOf (copy move : List String) (fileLimit : Int) : Int := copy.length + move.length + fileLimit

/-- One turn of the loop: an `APPEND OK` line counts one, against `limit`. -/
def turn (daemonTimeout limit : Int) (s : Mon) (line : String) (now : Int) : Mon :=
  let s := s.checkTimeout daemonTimeout now
  let s := if Supervisor.Re.literal.search "APPEND OK" line then
    s.bump 1 (fun c => decide (limit ≤ c)) now else s
  (s.checkClosing (Supervisor.Re.literal.search "Stopped logging" line)).checkKill now

/-- What `main` prints after the loop, and its exit status. -/
def report (limit : Int) (s : Mon) (returncode : Option Int) : List String × Int :=
  (("File count: " ++ toString s.count) ::
    (if limit ≠ s.count then
      ["ERROR: expecting " ++ toString limit ++ " files, got " ++ toString s.count ++ " files"]
    else []) ++
    (if s.clean then [] else ["ERROR: shutdown was not clean"]),
  returncode.getD 1)

/-- `main()`: with a zero limit it prints an error and exits with 1 before starting the daemon. -/
def main (daemonTimeout : Int) (copy move : List String) (fileLimit : Int) (starttime : Int)
    (turns : List (String × Int)) (returncode : Option Int) : Mon × List String × Int :=
  if 0 = limitOf copy move fileLimit then (Mon.init starttime, ["ERROR: File limit is zero"], 1)
  else
    let s := turns.foldl (fun s t => turn daemonTimeout (limitOf copy move fileLimit) s t.1 t.2)
      (Mon.init starttime)
    (s.finish returncode, report (limitOf copy move fileLimit) s returncode)

end RwflowappendDaemon

/-! ### `rwpollexec-daemon.py` -/

namespace RwpollexecDaemon

/-- The group of `complete` that matched. -/
inductive Completion
  | success | nonzero | killed
  deriving DecidableEq, Repr

/-- The variables only this loop keeps, and whether it has been left by `break`. -/
structure Poll where
  runCount : Nat
  successCount : Nat
  nonzeroCount : Nat
  killedCount : Nat
  endedtime : Option Int
  stopped : Bool
  deriving DecidableEq, Repr

def Poll.init : Poll := ⟨0, 0, 0, 0, none, false⟩

/-- `if match.group('success') is not None: success_count += 1` and its two `elif`s. -/
def Poll.tally (q : Poll) : Completion → Poll
  | .success => { q with successCount := q.successCount + 1 }
  | .nonzero => { q with nonzeroCount := q.nonzeroCount + 1 }
  | .killed => { q with killedCount := q.killedCount + 1 }

/-- What one turn of the loop meets: the line, the clock, whether `proc.poll()` finds the daemon
exited, and whether `os.killpg` raises `OSError`. -/
structure Turn where
  line : String
  now : Int
  exited : Bool
  killpgFails : Bool
  deriving DecidableEq, Repr

/-- `if regexp.search(line): run_count += 1; starttime = time.time()`. -/
def countRunning (running : Bool) (now : Int) (s : Mon × Poll) : Mon × Poll :=
  if running then ({ s.1 with starttime := now }, { s.2 with runCount := s.2.runCount + 1 }) else s

/-- `match = complete.search(line)`: the group's count, `complete_count += 1`, and the timer and
limit of every counted line. -/
def countComplete (limit : Nat) (c : Option Completion) (now : Int) (s : Mon × Poll) : Mon × Poll :=
  match c with
  | some c => (s.1.bump 1 (fun n => decide (limit ≤ n)) now, s.2.tally c)
  | none => s

/-- `if endedtime is None: proc.poll()`, then the `break` of
`if endedtime and time.time() - endedtime > 5:`. -/
def checkEnded (exited : Bool) (now : Int) (q : Poll) : Poll :=
  let q := if q.endedtime.isNone && exited then { q with endedtime := some now } else q
  if q.endedtime.any (fun e => e ≠ 0 && now - e > 5) then { q with stopped := true } else q

/-- One turn of the loop. Its `SIGKILL` goes to the process group with `os.killpg`, and the loop
is left by `break` when that does not raise. -/
def turn (daemonTimeout : Int) (limit : Nat) (running : String → Bool)
    (complete : String → Option Completion) (s : Mon × Poll) (t : Turn) : Mon × Poll :=
  let s := countComplete limit (complete t.line) t.now
    (countRunning (running t.line) t.now (s.1.checkTimeout daemonTimeout t.now, s.2))
  let m := s.1.checkClosing (Supervisor.Re.literal.search "Stopped logging" t.line)
  if m.overdue t.now && !t.killpgFails then (m.checkKill t.now, { s.2 with stopped := true })
  else (m.checkKill t.now, checkEnded t.exited t.now s.2)

/-- `while line is not None:`, left early by `break`. -/
def loop (daemonTimeout : Int) (limit : Nat) (running : String → Bool)
    (complete : String → Option Completion) : Mon × Poll → List Turn → Mon × Poll
  | s, [] => s
  | s, t :: ts =>
    let s := turn daemonTimeout limit running complete s t
    if s.2.stopped then s else loop daemonTimeout limit running complete s ts

/-- What `main` prints after the loop, and its exit status. -/
def report (limit : Nat) (s : Mon × Poll) (returncode : Option Int) : List String × Int :=
  (["Run count: " ++ toString s.2.runCount,
    "Complete count (success, failure): (" ++ toString s.2.successCount ++ ", " ++
      toString (s.2.nonzeroCount + s.2.killedCount) ++ ") = " ++ toString s.1.count] ++
    (if limit ≠ s.1.count then
      ["ERROR: expecting " ++ toString limit ++ " files, got " ++ toString s.1.count ++ " files"]
    else []) ++
    (if s.1.clean then [] else ["ERROR: shutdown was not clean"]),
  returncode.getD 1)

/-- `main()` with `limit = len(options.infile)`: with no file it exits with 255 before starting
the daemon. After the loop, the `SIGKILL` of the `finally` block when the daemon has not exited,
and the one sent "for good luck" in any case. -/
def main (daemonTimeout : Int) (infile : List String) (running : String → Bool)
    (complete : String → Option Completion) (starttime : Int) (turns : List Turn)
    (returncode : Option Int) : (Mon × Poll) × List String × Int :=
  if infile.length = 0 then ((Mon.init starttime, Poll.init), [], 255)
  else
    let s := loop daemonTimeout infile.length running complete (Mon.init starttime, Poll.init) turns
    let m := s.1.finish returncode
    (({ m with signals := m.signals ++ [.sigkill none] }, s.2), report infile.length s returncode)

end RwpollexecDaemon

/-! ### Every turn, and every run -/

theorem countRecs_count (o : Options) (s : Mon) (recs : Option Nat) (now : Int) :
    (countRecs o s recs now).count = s.count + recs.getD 0 := by
  unfold countRecs
  rcases recs with _ | num
  · rfl
  · simp only [Option.getD_some]
    split
    · exact Mon.bump_count _ _ _ _
    · omega

theorem countRecs_disciplined (o : Options) {s : Mon} (h : s.Disciplined) (recs : Option Nat)
    (now : Int) : (countRecs o s recs now).Disciplined := by
  unfold countRecs; split
  · split
    · exact h.bump _ _ _
    · exact h
  · exact h

theorem countRecs_reached (o : Options) {s : Mon} (h : s.Reached (reached o.limit))
    (recs : Option Nat) (now : Int) : (countRecs o s recs now).Reached (reached o.limit) := by
  unfold countRecs; split
  · split
    · exact Mon.Reached.bump _ _ _
    · exact h
  · exact h

section NetTurn

variable (f : Net → Net) (o : Options) (recs : String → Option Nat) (started closing : String → Bool)

theorem netTurn_disciplined {s : Mon × Net} (h : s.1.Disciplined) (line : String) (now : Int) :
    (netTurn f o recs started closing s line now).1.Disciplined :=
  ((countRecs_disciplined o (h.checkTimeout _ _) _ _).checkClosing _).checkKill _

theorem netTurn_reached {s : Mon × Net} (h : s.1.Reached (reached o.limit)) (line : String)
    (now : Int) : (netTurn f o recs started closing s line now).1.Reached (reached o.limit) :=
  ((countRecs_reached o (h.checkTimeout _ _) _ _).checkClosing _).checkKill _

theorem netTurn_count (s : Mon × Net) (line : String) (now : Int) :
    (netTurn f o recs started closing s line now).1.count = s.1.count + (recs line).getD 0 := by
  simp only [netTurn, Mon.checkKill_count, Mon.checkClosing_count, countRecs_count,
    Mon.checkTimeout_count]

/-- The invariants of the signals and of the limit over a whole run of the loop, and its count. -/
theorem foldl_netTurn (turns : List (String × Int)) (starttime : Int) :
    (turns.foldl (fun s t => netTurn f o recs started closing s t.1 t.2)
        (Mon.init starttime, Net.init)).1.Disciplined ∧
      (turns.foldl (fun s t => netTurn f o recs started closing s t.1 t.2)
        (Mon.init starttime, Net.init)).1.Reached (reached o.limit) ∧
      (turns.foldl (fun s t => netTurn f o recs started closing s t.1 t.2)
        (Mon.init starttime, Net.init)).1.count = (turns.map fun t => (recs t.1).getD 0).sum := by
  refine ⟨List.foldlRecOn (motive := fun s : Mon × Net => s.1.Disciplined) turns _ _
      (Mon.Disciplined.init starttime)
      fun s h t _ => netTurn_disciplined f o recs started closing h t.1 t.2,
    List.foldlRecOn (motive := fun s : Mon × Net => s.1.Reached (reached o.limit)) turns _ _
      (Mon.Reached.init _ starttime)
      fun s h t _ => netTurn_reached f o recs started closing h t.1 t.2, ?_⟩
  suffices ∀ (s : Mon × Net), (turns.foldl (fun s t => netTurn f o recs started closing s t.1 t.2)
      s).1.count = s.1.count + (turns.map fun t => (recs t.1).getD 0).sum from
    (this _).trans (Nat.zero_add _)
  induction turns with
  | nil => exact fun s => rfl
  | cons t ts ih =>
    intro s
    rw [List.foldl_cons, ih, netTurn_count, List.map_cons, List.sum_cons, Nat.add_assoc]

/-- Once `started` is `None`, the senders' part stays as it is. -/
theorem foldl_netTurn_net_stopped (turns : List (String × Int)) (s : Mon × Net)
    (hs : s.2.started = false) :
    (turns.foldl (fun s t => netTurn f o recs started closing s t.1 t.2) s).2 = s.2 := by
  induction turns generalizing s with
  | nil => rfl
  | cons t ts ih =>
    have h : (netTurn f o recs started closing s t.1 t.2).2 = s.2 := by simp [netTurn, hs]
    rw [List.foldl_cons, ih _ (h ▸ hs), h]

/-- From the start, the senders' part changes once, at the first line `started` matches. -/
theorem foldl_netTurn_net (hf : (f Net.init).started = false) (turns : List (String × Int))
    (m : Mon) :
    (turns.foldl (fun s t => netTurn f o recs started closing s t.1 t.2) (m, Net.init)).2 =
      if turns.any (fun t => started t.1) then f Net.init else Net.init := by
  induction turns generalizing m with
  | nil => rfl
  | cons t ts ih =>
    rw [List.foldl_cons, List.any_cons]
    by_cases ht : started t.1 = true
    · rw [foldl_netTurn_net_stopped f o recs started closing _ _ (by simpa [netTurn, ht] using hf)]
      simp [netTurn, ht, Net.init]
    · have h : netTurn f o recs started closing (m, Net.init) t.1 t.2 =
          ((netTurn f o recs started closing (m, Net.init) t.1 t.2).1, Net.init) :=
        Prod.ext rfl (by simp [netTurn, ht])
      rw [h, ih, Bool.eq_false_iff.2 ht, Bool.false_or]

end NetTurn

namespace RwflowappendDaemon

variable (daemonTimeout limit : Int)

theorem turn_disciplined {s : Mon} (h : s.Disciplined) (line : String) (now : Int) :
    (turn daemonTimeout limit s line now).Disciplined := by
  unfold turn; dsimp only
  refine (Mon.Disciplined.checkClosing ?_ _).checkKill _
  split
  · exact (h.checkTimeout _ _).bump _ _ _
  · exact h.checkTimeout _ _

theorem turn_reached {s : Mon} (h : s.Reached (fun c => decide (limit ≤ c))) (line : String)
    (now : Int) : (turn daemonTimeout limit s line now).Reached (fun c => decide (limit ≤ c)) := by
  unfold turn; dsimp only
  refine (Mon.Reached.checkClosing ?_ _).checkKill _
  split
  · exact Mon.Reached.bump _ _ _
  · exact h.checkTimeout _ _

theorem turn_count (s : Mon) (line : String) (now : Int) :
    (turn daemonTimeout limit s line now).count =
      s.count + if Supervisor.Re.literal.search "APPEND OK" line then 1 else 0 := by
  unfold turn; dsimp only
  rw [Mon.checkKill_count, Mon.checkClosing_count]
  split
  · rw [Mon.bump_count, Mon.checkTimeout_count]
  · rw [Mon.checkTimeout_count]; rfl

theorem foldl_turn_count (turns : List (String × Int)) (s : Mon) :
    (turns.foldl (fun s t => turn daemonTimeout limit s t.1 t.2) s).count =
      s.count + (turns.filter fun t => Supervisor.Re.literal.search "APPEND OK" t.1).length := by
  induction turns generalizing s with
  | nil => rfl
  | cons t ts ih =>
    rw [List.foldl_cons, ih, turn_count, List.filter_cons]
    split <;> simp_all [Nat.add_assoc, Nat.add_comm 1]

end RwflowappendDaemon

namespace RwpollexecDaemon

variable (daemonTimeout : Int) (limit : Nat) (running : String → Bool)
  (complete : String → Option Completion)

/-- `complete_count` is the sum of the three counts. -/
def Tallied (s : Mon × Poll) : Prop :=
  s.1.count = s.2.successCount + s.2.nonzeroCount + s.2.killedCount

theorem turn_fst (s : Mon × Poll) (t : Turn) :
    (turn daemonTimeout limit running complete s t).1 =
      ((countComplete limit (complete t.line) t.now (countRunning (running t.line) t.now
        (s.1.checkTimeout daemonTimeout t.now, s.2))).1.checkClosing
          (Supervisor.Re.literal.search "Stopped logging" t.line)).checkKill t.now := by
  unfold turn; dsimp only; split <;> rfl

theorem turn_tallies (s : Mon × Poll) (t : Turn) :
    (turn daemonTimeout limit running complete s t).2.successCount =
        (countComplete limit (complete t.line) t.now (countRunning (running t.line) t.now
          (s.1.checkTimeout daemonTimeout t.now, s.2))).2.successCount ∧
    (turn daemonTimeout limit running complete s t).2.nonzeroCount =
        (countComplete limit (complete t.line) t.now (countRunning (running t.line) t.now
          (s.1.checkTimeout daemonTimeout t.now, s.2))).2.nonzeroCount ∧
    (turn daemonTimeout limit running complete s t).2.killedCount =
        (countComplete limit (complete t.line) t.now (countRunning (running t.line) t.now
          (s.1.checkTimeout daemonTimeout t.now, s.2))).2.killedCount := by
  unfold turn checkEnded; dsimp only
  split
  · exact ⟨rfl, rfl, rfl⟩
  · split <;> split <;> exact ⟨rfl, rfl, rfl⟩

theorem countRunning_fst (running : Bool) (now : Int) (s : Mon × Poll) :
    (countRunning running now s).1.count = s.1.count ∧
      (countRunning running now s).1.signals = s.1.signals ∧
      (countRunning running now s).1.term = s.1.term ∧
      (countRunning running now s).1.shutdowntime = s.1.shutdowntime := by
  unfold countRunning; split <;> exact ⟨rfl, rfl, rfl, rfl⟩

theorem turn_disciplined {s : Mon × Poll} (h : s.1.Disciplined) (t : Turn) :
    (turn daemonTimeout limit running complete s t).1.Disciplined := by
  rw [turn_fst]
  refine (Mon.Disciplined.checkClosing ?_ _).checkKill _
  have hr := countRunning_fst (running t.line) t.now (s.1.checkTimeout daemonTimeout t.now, s.2)
  have h' := (h.checkTimeout daemonTimeout t.now).frame hr.2.1 hr.2.2.1 hr.2.2.2
  unfold countComplete; split
  · exact h'.bump _ _ _
  · exact h'

theorem turn_reached {s : Mon × Poll} (h : s.1.Reached (fun n => decide (limit ≤ n))) (t : Turn) :
    (turn daemonTimeout limit running complete s t).1.Reached (fun n => decide (limit ≤ n)) := by
  rw [turn_fst]
  refine (Mon.Reached.checkClosing ?_ _).checkKill _
  unfold countComplete; split
  · exact Mon.Reached.bump _ _ _
  · have hr := countRunning_fst (running t.line) t.now (s.1.checkTimeout daemonTimeout t.now, s.2)
    have h' := h.checkTimeout daemonTimeout t.now
    unfold Mon.Reached at h' ⊢
    rw [hr.1, hr.2.2.1]; exact h'

theorem Poll.tally_total (q : Poll) (c : Completion) :
    (q.tally c).successCount + (q.tally c).nonzeroCount + (q.tally c).killedCount =
      q.successCount + q.nonzeroCount + q.killedCount + 1 := by
  cases c <;> simp only [Poll.tally] <;> omega

theorem turn_tallied {s : Mon × Poll} (h : Tallied s) (t : Turn) :
    Tallied (turn daemonTimeout limit running complete s t) := by
  obtain ⟨h₁, h₂, h₃⟩ := turn_tallies daemonTimeout limit running complete s t
  unfold Tallied
  rw [turn_fst, Mon.checkKill_count, Mon.checkClosing_count, h₁, h₂, h₃]
  have hr := countRunning_fst (running t.line) t.now (s.1.checkTimeout daemonTimeout t.now, s.2)
  have hc : (countRunning (running t.line) t.now (s.1.checkTimeout daemonTimeout t.now, s.2)).2 =
      if running t.line then { s.2 with runCount := s.2.runCount + 1 } else s.2 := by
    unfold countRunning; split <;> rfl
  unfold countComplete
  split
  next c _ =>
    rw [Mon.bump_count, hr.1, Mon.checkTimeout_count, h, Poll.tally_total, hc]
    split <;> rfl
  · rw [hr.1, Mon.checkTimeout_count, h, hc]; split <;> rfl

/-- A property every turn keeps holds after the whole loop, however it was left. -/
theorem loop_inv (I : Mon × Poll → Prop)
    (hI : ∀ s t, I s → I (turn daemonTimeout limit running complete s t)) :
    ∀ (turns : List Turn) (s : Mon × Poll), I s → I (loop daemonTimeout limit running complete s turns)
  | [], _, h => h
  | t :: ts, s, h => by
    unfold loop; dsimp only
    split
    · exact hI s t h
    · exact loop_inv I hI ts _ (hI s t h)

end RwpollexecDaemon

/-- Whatever the daemon logs and whatever the clock reads: the loop of each of the four monitors
sends at most one `SIGTERM` and at most one `SIGKILL`, the `SIGKILL` only after the `SIGTERM`
and more than 15 seconds after it by the clock. After the loop a `SIGKILL` goes out when
`proc.poll()` finds the daemon still running, and `rwpollexec-daemon.py` sends one more in any
case. A monitor that exits before starting its daemon (`rwflowappend-daemon.py` with a file
limit of 0, `rwpollexec-daemon.py` with no input file) sends nothing. -/
theorem monitor_signals (o : Options) (recs : String → Option Nat) (started : String → Bool)
    (starttime : Int) (turns : List (String × Int)) (rc : Option Int) (daemonTimeout : Int)
    (copy move : List String) (fileLimit : Int) (infile : List String) (running : String → Bool)
    (complete : String → Option RwpollexecDaemon.Completion) (pturns : List RwpollexecDaemon.Turn) :
    (∃ pre, LoopSignals pre ∧ (FlowcapDaemon.main o recs started starttime turns rc).1.1.signals =
      pre ++ (if rc = none then [.sigkill none] else [])) ∧
    (∃ pre, LoopSignals pre ∧ (RwflowpackDaemon.main o recs starttime turns rc).1.1.signals =
      pre ++ (if rc = none then [.sigkill none] else [])) ∧
    (∃ pre, LoopSignals pre ∧
      (RwflowappendDaemon.main daemonTimeout copy move fileLimit starttime turns rc).1.signals =
        pre ++ (if 0 ≠ RwflowappendDaemon.limitOf copy move fileLimit ∧ rc = none then
          [.sigkill none] else [])) ∧
    (∃ pre, LoopSignals pre ∧
      (RwpollexecDaemon.main daemonTimeout infile running complete starttime pturns rc).1.1.signals =
        pre ++ (if infile = [] then [] else
          (if rc = none then [.sigkill none] else []) ++ [.sigkill none])) ∧
    (0 = RwflowappendDaemon.limitOf copy move fileLimit →
      (RwflowappendDaemon.main daemonTimeout copy move fileLimit starttime turns rc).1.signals = []) ∧
    (infile = [] →
      (RwpollexecDaemon.main daemonTimeout infile running complete starttime pturns rc).1.1.signals =
        []) := by
  refine ⟨⟨_, (foldl_netTurn _ o recs started _ turns starttime).1.loopSignals,
      finish_signals _ _⟩,
    ⟨_, (foldl_netTurn _ o recs _ _ turns starttime).1.loopSignals, finish_signals _ _⟩, ?_, ?_,
    fun h => by rw [RwflowappendDaemon.main, if_pos h]; rfl,
    fun h => by rw [RwpollexecDaemon.main, if_pos (List.length_eq_zero.2 h)]; rfl⟩
  · unfold RwflowappendDaemon.main
    split
    next h => exact ⟨[], .inl rfl, by simp [h, Mon.init]⟩
    next h =>
      refine ⟨_, (List.foldlRecOn (motive := Mon.Disciplined) turns _ _
        (Mon.Disciplined.init starttime) fun s hs t _ =>
          RwflowappendDaemon.turn_disciplined daemonTimeout
            (RwflowappendDaemon.limitOf copy move fileLimit) hs t.1 t.2).loopSignals, ?_⟩
      rw [finish_signals]
      simp [h]
  · unfold RwpollexecDaemon.main
    split
    next h => exact ⟨[], .inl rfl, by simp [List.length_eq_zero.1 h, Mon.init]⟩
    next h =>
      refine ⟨_, (RwpollexecDaemon.loop_inv daemonTimeout infile.length running complete
        (fun s => s.1.Disciplined) (fun s t hs => RwpollexecDaemon.turn_disciplined _ _ _ _ hs t)
        pturns (Mon.init starttime, RwpollexecDaemon.Poll.init)
        (Mon.Disciplined.init starttime)).loopSignals, ?_⟩
      rw [if_neg (mt List.length_eq_zero.2 h)]
      simp only [finish_signals, List.append_assoc]

/-- `flowcap-daemon.py` and `rwflowpack-daemon.py` count the sum of the `recs` their daemon's log
reports. Once a line has counted and the count reaches a truthy `limit` (a negative one at the
first counted line), the loop has sent `SIGTERM`. -/
theorem monitor_record_counts (o : Options) (recs : String → Option Nat) (started : String → Bool)
    (starttime : Int) (turns : List (String × Int)) (rc : Option Int) :
    (FlowcapDaemon.main o recs started starttime turns rc).1.1.count =
        (turns.map fun t => (recs t.1).getD 0).sum ∧
    (0 < (FlowcapDaemon.main o recs started starttime turns rc).1.1.count →
      reached o.limit (FlowcapDaemon.main o recs started starttime turns rc).1.1.count = true →
      ∃ t, Signal.sigterm t ∈ (FlowcapDaemon.main o recs started starttime turns rc).1.1.signals) ∧
    (RwflowpackDaemon.main o recs starttime turns rc).1.1.count =
        (turns.map fun t => (recs t.1).getD 0).sum ∧
    (0 < (RwflowpackDaemon.main o recs starttime turns rc).1.1.count →
      reached o.limit (RwflowpackDaemon.main o recs starttime turns rc).1.1.count = true →
      ∃ t, Signal.sigterm t ∈ (RwflowpackDaemon.main o recs starttime turns rc).1.1.signals) := by
  obtain ⟨hd, hr, hc⟩ := foldl_netTurn FlowcapDaemon.onStarted o recs started
    (Supervisor.Re.literal.search "Stopped logging") turns starttime
  obtain ⟨hd', hr', hc'⟩ := foldl_netTurn RwflowpackDaemon.onStarted o recs
    (Supervisor.Re.literal.search "Starting flush timer")
    (Supervisor.Re.literal.search "Stopped logging") turns starttime
  refine ⟨(finish_count _ _).trans hc, fun h₁ h₂ => ?_, (finish_count _ _).trans hc',
    fun h₁ h₂ => ?_⟩
  · rw [FlowcapDaemon.main, finish_count] at h₁ h₂
    obtain ⟨t, ht⟩ := hd.sigterm_sent (hr h₁ h₂)
    exact ⟨t, sigterm_mem_finish ht rc⟩
  · rw [RwflowpackDaemon.main, finish_count] at h₁ h₂
    obtain ⟨t, ht⟩ := hd'.sigterm_sent (hr' h₁ h₂)
    exact ⟨t, sigterm_mem_finish ht rc⟩

theorem monitor_record_counts_limit_two :
    0 < (FlowcapDaemon.main { limit := some 2 } (fun _ => some 2) (fun _ => false) 0 [("", 1)]
      (some 0)).1.1.count ∧
    reached (some 2) (FlowcapDaemon.main { limit := some 2 } (fun _ => some 2) (fun _ => false) 0
      [("", 1)] (some 0)).1.1.count = true ∧
    ∃ t, Signal.sigterm t ∈ (FlowcapDaemon.main { limit := some 2 } (fun _ => some 2)
      (fun _ => false) 0 [("", 1)] (some 0)).1.1.signals :=
  have h := monitor_record_counts { limit := some 2 } (fun _ => some 2) (fun _ => false) 0 [("", 1)]
    (some 0)
  have h₁ : 0 < (FlowcapDaemon.main { limit := some 2 } (fun _ => some 2) (fun _ => false) 0
      [("", 1)] (some 0)).1.1.count := by rw [h.1]; decide
  have h₂ : reached (some 2) (FlowcapDaemon.main { limit := some 2 } (fun _ => some 2)
      (fun _ => false) 0 [("", 1)] (some 0)).1.1.count = true := by rw [h.1]; decide
  ⟨h₁, h₂, h.2.1 h₁ h₂⟩

/-- `rwflowappend-daemon.py` counts the `APPEND OK` lines, and `rwpollexec-daemon.py` counts each
completion once, under the group that matched, so that the two numbers it prints as
`(success, failure)` add up to its count. Once a line has counted and the count reaches the limit,
the loop has sent `SIGTERM`. -/
theorem monitor_file_counts (daemonTimeout : Int) (copy move : List String) (fileLimit : Int)
    (starttime : Int) (turns : List (String × Int)) (rc : Option Int) (infile : List String)
    (running : String → Bool) (complete : String → Option RwpollexecDaemon.Completion)
    (pturns : List RwpollexecDaemon.Turn) :
    (0 ≠ RwflowappendDaemon.limitOf copy move fileLimit →
      (RwflowappendDaemon.main daemonTimeout copy move fileLimit starttime turns rc).1.count =
        (turns.filter fun t => Supervisor.Re.literal.search "APPEND OK" t.1).length) ∧
    (0 < (RwflowappendDaemon.main daemonTimeout copy move fileLimit starttime turns rc).1.count →
      RwflowappendDaemon.limitOf copy move fileLimit ≤
        (RwflowappendDaemon.main daemonTimeout copy move fileLimit starttime turns rc).1.count →
      ∃ t, Signal.sigterm t ∈
        (RwflowappendDaemon.main daemonTimeout copy move fileLimit starttime turns rc).1.signals) ∧
    (RwpollexecDaemon.main daemonTimeout infile running complete starttime pturns rc).1.1.count =
      (RwpollexecDaemon.main daemonTimeout infile running complete starttime pturns rc).1.2.successCount +
      (RwpollexecDaemon.main daemonTimeout infile running complete starttime pturns rc).1.2.nonzeroCount +
      (RwpollexecDaemon.main daemonTimeout infile running complete starttime pturns rc).1.2.killedCount ∧
    (0 < (RwpollexecDaemon.main daemonTimeout infile running complete starttime pturns rc).1.1.count →
      infile.length ≤
        (RwpollexecDaemon.main daemonTimeout infile running complete starttime pturns rc).1.1.count →
      ∃ t, Signal.sigterm t ∈
        (RwpollexecDaemon.main daemonTimeout infile running complete starttime pturns rc).1.1.signals) := by
  have hpoll := RwpollexecDaemon.loop_inv daemonTimeout infile.length running complete
    (fun s => s.1.Disciplined ∧ s.1.Reached (fun n => decide (infile.length ≤ n)) ∧
      RwpollexecDaemon.Tallied s)
    (fun s t hs => ⟨RwpollexecDaemon.turn_disciplined _ _ _ _ hs.1 t,
      RwpollexecDaemon.turn_reached _ _ _ _ hs.2.1 t, RwpollexecDaemon.turn_tallied _ _ _ _ hs.2.2 t⟩)
    pturns (Mon.init starttime, RwpollexecDaemon.Poll.init)
    ⟨Mon.Disciplined.init starttime, Mon.Reached.init _ starttime, rfl⟩
  refine ⟨fun h => ?_, fun h₁ h₂ => ?_, ?_, fun h₁ h₂ => ?_⟩
  · unfold RwflowappendDaemon.main
    rw [if_neg h, finish_count, RwflowappendDaemon.foldl_turn_count]
    exact Nat.zero_add _
  · by_cases h0 : 0 = RwflowappendDaemon.limitOf copy move fileLimit
    · rw [RwflowappendDaemon.main, if_pos h0] at h₁; cases h₁
    · rw [RwflowappendDaemon.main, if_neg h0] at h₁ h₂ ⊢
      dsimp only at h₁ h₂ ⊢
      rw [finish_count] at h₁ h₂
      have hs := List.foldlRecOn (motive := fun s : Mon => s.Disciplined ∧
        s.Reached fun c => decide (RwflowappendDaemon.limitOf copy move fileLimit ≤ c)) turns _ _
        ⟨Mon.Disciplined.init starttime, Mon.Reached.init _ starttime⟩ fun s hs t _ =>
          ⟨RwflowappendDaemon.turn_disciplined daemonTimeout _ hs.1 t.1 t.2,
            RwflowappendDaemon.turn_reached daemonTimeout _ hs.2 t.1 t.2⟩
      obtain ⟨t, ht⟩ := hs.1.sigterm_sent (hs.2 h₁ (decide_eq_true h₂))
      exact ⟨t, sigterm_mem_finish ht rc⟩
  · unfold RwpollexecDaemon.main
    split
    · rfl
    · exact (finish_count _ _).trans hpoll.2.2
  · by_cases h0 : infile.length = 0
    · rw [RwpollexecDaemon.main, if_pos h0] at h₁; cases h₁
    · rw [RwpollexecDaemon.main, if_neg h0] at h₁ h₂ ⊢
      dsimp only at h₁ h₂ ⊢
      rw [finish_count] at h₁ h₂
      obtain ⟨t, ht⟩ := hpoll.1.sigterm_sent (hpoll.2.1 h₁ (decide_eq_true h₂))
      exact ⟨t, List.mem_append_left _ (sigterm_mem_finish ht rc)⟩

theorem monitor_file_counts_one_file :
    (RwflowappendDaemon.main 60 ["a"] [] 0 0 [("APPEND OK", 1)] (some 0)).1.count =
      ([("APPEND OK", (1 : Int))].filter fun t =>
        Supervisor.Re.literal.search "APPEND OK" t.1).length ∧
    (∃ t, Signal.sigterm t ∈
      (RwflowappendDaemon.main 60 ["a"] [] 0 0 [("APPEND OK", 1)] (some 0)).1.signals) ∧
    ∃ t, Signal.sigterm t ∈ (RwpollexecDaemon.main 60 ["f"] (fun _ => false)
      (fun _ => some .success) 0 [⟨"", 1, false, false⟩] (some 0)).1.1.signals :=
  have h := monitor_file_counts 60 ["a"] [] 0 0 [("APPEND OK", 1)] (some 0) ["f"] (fun _ => false)
    (fun _ => some .success) [⟨"", 1, false, false⟩]
  have hc := h.1 (by decide)
  ⟨hc, h.2.1 (by rw [hc]; decide) (by rw [hc]; decide), h.2.2.2 (by decide) (by decide)⟩

/-- `send_network_data` runs at most once, exactly when a line of the log matches `started`; in
`rwflowpack-daemon.py` the after-data is copied and moved then too, and only then. -/
theorem monitor_network_once (o : Options) (recs : String → Option Nat) (started : String → Bool)
    (starttime : Int) (turns : List (String × Int)) (rc : Option Int) :
    (FlowcapDaemon.main o recs started starttime turns rc).1.2.sends =
        (if turns.any (fun t => started t.1) then 1 else 0) ∧
    (RwflowpackDaemon.main o recs starttime turns rc).1.2.sends =
        (if turns.any (fun t => Supervisor.Re.literal.search "Starting flush timer" t.1) then 1
        else 0) ∧
    (RwflowpackDaemon.main o recs starttime turns rc).1.2.afters =
        (if turns.any (fun t => Supervisor.Re.literal.search "Starting flush timer" t.1) then 1
        else 0) := by
  have hf := foldl_netTurn_net FlowcapDaemon.onStarted o recs started
    (Supervisor.Re.literal.search "Stopped logging") rfl turns (Mon.init starttime)
  have hp := foldl_netTurn_net RwflowpackDaemon.onStarted o recs
    (Supervisor.Re.literal.search "Starting flush timer")
    (Supervisor.Re.literal.search "Stopped logging") rfl turns (Mon.init starttime)
  simp only [FlowcapDaemon.main, RwflowpackDaemon.main, hf, hp]
  refine ⟨?_, ?_, ?_⟩ <;> split <;> rfl

end Monitor

end Harness

end Silk
