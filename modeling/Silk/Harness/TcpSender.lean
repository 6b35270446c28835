import Silk.Python
/-! `TcpSender.go` of `tests/daemon_test.py`, which replays a file to a daemon over TCP: it
reads the file `TCPBUF` bytes at a time and hands each piece to `sock.send` until the socket has
taken all of it. Connecting and the log are left out. The network and the other threads are the
environment: each turn of the inner loop is told what the `send` did, or that `stop()` was
called before it. -/
namespace Silk
namespace Harness
namespace TcpSender

/-- `TCPBUF`. -/
def tcpbuf : Nat := 2048

/-- What one turn of the inner loop meets. -/
inductive Outcome
  /-- `sock.send(pdu)` takes the first `n` bytes of `pdu`, all of them when `n` is larger, and
  returns their number. -/
  | sent (n : Nat)
  /-- `sock.send` raises `socket.timeout`, which is passed over. -/
  | timeout
  /-- `sock.send` raises `socket.error`: it is logged and `self._running` set to `False`. -/
  | error
  /-- `stop()` was called first: `self._running` is `False`. -/
  | stop
  deriving DecidableEq, Repr

/-- Whether a `send` takes at least one byte. -/
def Outcome.takes : Outcome → Bool
  | .sent n => 0 < n
  | _ => false

/-- How the loops of `go` were left. -/
inductive Ending
  /-- `self._file.read(TCPBUF)` returned nothing, and `self._running` was set to `False`. -/
  | finished
  /-- a `socket.error` -/
  | failed
  /-- `stop()` -/
  | stopped
  /-- the outcomes ran out with bytes still to send: `go` is still in its loops -/
  | running
  deriving DecidableEq, Repr

/-- `pdu = self._file.read(TCPBUF)` on the unread part `file`: `none` when it reads nothing,
otherwise the piece read and what is left. -/
def readPdu (file : List Byte) : Option (List Byte × List Byte) :=
  let pdu := file.take tcpbuf
  if pdu = [] then none else some (pdu, file.drop tcpbuf)

/-- The inner loop `while self._running and count` on `pdu`, then the outer loop on the unread
`file`: the bytes each `send` took, in order, and how the loops ended. -/
def sendLoop (file pdu : List Byte) (count : Nat) : List Outcome → List (List Byte) × Ending
  | [] => ([], .running)
  | .stop :: _ => ([], .stopped)
  | .error :: _ => ([], .failed)
  | .timeout :: os => sendLoop file pdu count os
  | .sent n :: os =>
    let numSent := min n pdu.length
    let r :=
      if count - numSent = 0 then
        match readPdu file with
        | none => ([], .finished)
        | some (pdu, file) => sendLoop file pdu pdu.length os
      else sendLoop file (pdu.drop numSent) (count - numSent) os
    (pdu.take numSent :: r.1, r.2)

/-- `go` on the file's content, once connected. -/
def go (content : List Byte) (os : List Outcome) : List (List Byte) × Ending :=
  match readPdu content with
  | none => ([], .finished)
  | some (pdu, file) => sendLoop file pdu pdu.length os

theorem readPdu_eq_none {file : List Byte} (h : readPdu file = none) : file = [] := by
  simp only [readPdu] at h
  split at h
  · next he => simpa [tcpbuf] using he
  · cases h

theorem readPdu_eq_some {file pdu rest : List Byte} (h : readPdu file = some (pdu, rest)) :
    pdu ++ rest = file ∧ pdu ≠ [] := by
  simp only [readPdu] at h
  split at h
  · cases h
  · next hp =>
    simp only [Option.some.injEq, Prod.mk.injEq] at h
    obtain ⟨rfl, rfl⟩ := h
    exact ⟨List.take_append_drop _ _, hp⟩

/-! ### What the bytes sent can be -/

/-- What a run of the loops over `content` with the outcomes `os` has done: the bytes sent are
an initial part of `content`, all of it once the file was read to its end, and only a
`socket.error` fails the loops and only `stop()` stops them. -/
structure Sends (content : List Byte) (os : List Outcome) (r : List (List Byte) × Ending) :
    Prop where
  sent_initial : r.1.flatten <+: content
  finished_all : r.2 = .finished → r.1.flatten = content
  failed_error : r.2 = .failed → .error ∈ os
  stopped_stop : r.2 = .stopped → .stop ∈ os

theorem Sends.cons {content : List Byte} {os : List Outcome} {r : List (List Byte) × Ending}
    (h : Sends content os r) (chunk : List Byte) (o : Outcome) :
    Sends (chunk ++ content) (o :: os) (chunk :: r.1, r.2) where
  sent_initial := by simpa using h.sent_initial
  finished_all hf := by simpa using h.finished_all hf
  failed_error hf := .tail _ (h.failed_error hf)
  stopped_stop hs := .tail _ (h.stopped_stop hs)

theorem Sends.tail {content : List Byte} {os : List Outcome} {r : List (List Byte) × Ending}
    (h : Sends content os r) (o : Outcome) : Sends content (o :: os) r where
  sent_initial := h.sent_initial
  finished_all := h.finished_all
  failed_error hf := .tail _ (h.failed_error hf)
  stopped_stop hs := .tail _ (h.stopped_stop hs)

theorem sendLoop_sends (file pdu : List Byte) (os : List Outcome) :
    Sends (pdu ++ file) os (sendLoop file pdu pdu.length os) := by
  induction os generalizing file pdu with
  | nil => constructor <;> simp [sendLoop]
  | cons o os ih =>
    cases o with
    | stop | error => constructor <;> simp [sendLoop]
    | timeout => exact (ih file pdu).tail _
    | sent n =>
      simp only [sendLoop]
      split
      · next hc =>
        rw [List.take_of_length_le (by omega)]
        split
        · next hr =>
          rw [readPdu_eq_none hr]
          exact Sends.cons ⟨by simp, by simp, by simp, by simp⟩ pdu _
        · next p f hr =>
          obtain ⟨rfl, -⟩ := readPdu_eq_some hr
          exact (ih f p).cons pdu _
      · have h := (ih file (pdu.drop (min n pdu.length))).cons (pdu.take (min n pdu.length)) (.sent n)
        rwa [← List.append_assoc, List.take_append_drop, List.length_drop] at h

theorem go_sends (content : List Byte) (os : List Outcome) : Sends content os (go content os) := by
  unfold go
  split
  · next h => rw [readPdu_eq_none h]; constructor <;> simp
  · next p f h =>
    obtain ⟨rfl, -⟩ := readPdu_eq_some h
    exact sendLoop_sends f p os

/-- Without a `socket.error` or a `stop()`, as many sends that take a byte as bytes are left
bring the loops to the end of the file, whatever timeouts and empty sends come between. -/
theorem sendLoop_finished {os : List Outcome} (he : .error ∉ os) (hs : .stop ∉ os)
    {file pdu : List Byte} (hp : pdu ≠ []) (hl : pdu.length + file.length ≤ os.countP Outcome.takes) :
    (sendLoop file pdu pdu.length os).2 = .finished := by
  induction os generalizing file pdu with
  | nil => exact absurd (List.length_pos.2 hp) (by simp only [List.countP_nil] at hl; omega)
  | cons o os ih =>
    have he' : .error ∉ os := fun h => he (.tail _ h)
    have hs' : .stop ∉ os := fun h => hs (.tail _ h)
    have hp₀ : 0 < pdu.length := List.length_pos.2 hp
    cases o with
    | stop => exact absurd (.head _) hs
    | error => exact absurd (.head _) he
    | timeout => exact ih he' hs' hp (by simpa [Outcome.takes] using hl)
    | sent n =>
      have hl' : pdu.length + file.length ≤ os.countP Outcome.takes + if 0 < n then 1 else 0 := by
        simpa [List.countP_cons, Outcome.takes] using hl
      simp only [sendLoop]
      split
      · next hc =>
        split
        · rfl
        · next p f hr =>
          obtain ⟨rfl, hp'⟩ := readPdu_eq_some hr
          simp only [List.length_append] at hl'
          exact ih he' hs' hp' (by split_ifs at hl' <;> omega)
      · next hc =>
        rw [← List.length_drop]
        exact ih he' hs' (List.ne_nil_of_length_pos (by simp only [List.length_drop]; omega))
          (by simp only [List.length_drop]; split_ifs at hl' <;> omega)

theorem go_finished {content : List Byte} {os : List Outcome} (he : .error ∉ os) (hs : .stop ∉ os)
    (hl : content.length ≤ os.countP Outcome.takes) : (go content os).2 = .finished := by
  unfold go
  split
  · rfl
  · next p f h =>
    obtain ⟨rfl, hp⟩ := readPdu_eq_some h
    exact sendLoop_finished he hs hp (by simpa using hl)

/-- Whatever each `send` takes and wherever it times out: the bytes the sends took, in order,
are an initial part of the file's content; they are all of it when `go` has read the file to its
end; and without a `socket.error` or a `stop()`, `go` has either done so or is still sending,
and it has done so, having sent the whole file, once as many sends as the file has bytes took a
byte each. -/
theorem tcp_sender_sends (content : List Byte) (os : List Outcome) :
    (go content os).1.flatten <+: content ∧
    ((go content os).2 = .finished → (go content os).1.flatten = content) ∧
    (.error ∉ os → .stop ∉ os → (go content os).2 = .finished ∨ (go content os).2 = .running) ∧
    (.error ∉ os → .stop ∉ os → content.length ≤ os.countP Outcome.takes →
      (go content os).2 = .finished ∧ (go content os).1.flatten = content) := by
  have h := go_sends content os
  refine ⟨h.sent_initial, h.finished_all, fun he hs => ?_, fun he hs hl =>
    ⟨go_finished he hs hl, h.finished_all (go_finished he hs hl)⟩⟩
  cases hr : (go content os).2 with
  | finished => exact .inl rfl
  | failed => exact absurd (h.failed_error hr) he
  | stopped => exact absurd (h.stopped_stop hr) hs
  | running => exact .inr rfl

/-- Two bytes taken, a timeout, a send that takes nothing, then the last byte. -/
example : go [1, 2, 3] [.sent 2, .timeout, .sent 0, .sent 5] = ([[1, 2], [], [3]], .finished) := by
  decide

/-! ### Sends that make progress -/

/-- When every `send` takes at least one byte and there are as many sends as bytes, `go` reads
the file to its end, having sent all of it. -/
theorem tcp_sender_finishes (content : List Byte) (ns : List Nat) (hn : ∀ n ∈ ns, 0 < n)
    (hl : content.length ≤ ns.length) :
    (go content (ns.map .sent)).2 = .finished ∧ (go content (ns.map .sent)).1.flatten = content := by
  have hc : (ns.map Outcome.sent).countP Outcome.takes = ns.length := by
    rw [List.countP_map, List.countP_eq_length.2 fun n h => by simpa [Outcome.takes] using hn n h]
  have hf := @go_finished content (ns.map .sent) (by simp) (by simp) (hc ▸ hl)
  exact ⟨hf, (go_sends content _).finished_all hf⟩

theorem tcp_sender_finishes_three :
    (∀ n ∈ [1, 4, 2], 0 < n) ∧ ([7, 8, 9] : List Byte).length ≤ [1, 4, 2].length ∧
      (go [7, 8, 9] ([1, 4, 2].map .sent)).2 = .finished ∧
      (go [7, 8, 9] ([1, 4, 2].map .sent)).1.flatten = [7, 8, 9] :=
  ⟨by decide, by decide, tcp_sender_finishes [7, 8, 9] [1, 4, 2] (by decide) (by decide)⟩

end TcpSender

end Harness

end Silk
