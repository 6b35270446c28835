import Silk.Python
/-! The framed channel of the sendrcv test harness (`Daemon.dump`, `Daemon.load` in
`sendrcv_tests.py`): a native `'L'` length prefix, then the JSON payload, over a stream
socket. The kernel may hand a `recv(k)` any number of bytes from one to `k`; a schedule
lists its choices, one per `recv`, so that every split of the stream is one schedule. -/
namespace Silk
namespace Harness
open Bytes

/-- `slen = struct.calcsize("L")`: a native unsigned long, eight bytes on the LP64 hosts the
tests run on. -/
def slen : Nat := 8

/-- `struct.pack("L", n)` in native order, least significant byte first on those hosts. -/
def packL (n : Nat) : Except PyError (List Byte) :=
  if n < 256^slen then .ok (toBE slen n).reverse else .error .structError

/-- `struct.unpack("L", rv)[0]`. -/
def unpackL (rv : List Byte) : Except PyError Nat :=
  if rv.length = slen then .ok (ofBE rv.reverse) else .error .structError

/-- The bytes `Daemon.dump` hands to `sendall` for the payload
`value = conv.dumps(arg).encode('ascii')`. -/
def dump (value : List Byte) : Except PyError (List Byte) := (packL value.length).map (· ++ value)

/-- The reading end of the socket pair: the bytes sent and not yet read, and whether the
other end has closed. -/
structure Sock where
  unread : List Byte
  closed : Bool

/-- `sock.recv(k)` when the kernel's choice is `c`: it returns `min (c + 1) k` of the unread
bytes (fewer if fewer wait), `b""` at the end of a closed stream, and blocks (`none`) on an
empty open one. -/
def recv (s : Sock) (k c : Nat) : Option (List Byte × Sock) :=
  if s.unread = [] then (if s.closed then some ([], s) else none)
  else some (s.unread.take (min (c + 1) k), { s with unread := s.unread.drop (min (c + 1) k) })

/-- How a read off the socket ends: a value with the socket and the schedule left, an
exception, a `recv` that blocks for good, or a schedule that ran out first. -/
inductive Loaded (α : Type)
  | ok (value : α) (s : Sock) (sched : List Nat)
  | raised (e : PyError)
  | blocked
  | unfinished

/-- `while len(value) != length: value += self.pipe.recv(length)`. -/
def readPayload (length : Nat) : List Byte → Sock → List Nat → Loaded (List Byte)
  | value, s, sched =>
    if value.length = length then .ok value s sched else
    match sched with
    | [] => .unfinished
    | c :: sched => match recv s length c with
      | none => .blocked
      | some (b, s) => readPayload length (value ++ b) s sched

/-- `Daemon.load` up to the payload it hands to `conv.loads`: one `recv(slen)` for the prefix,
the explicit length check, then the payload loop. -/
def load (s : Sock) : List Nat → Loaded (List Byte)
  | [] => .unfinished
  | c :: sched => match recv s slen c with
    | none => .blocked
    | some (rv, s) =>
      if rv.length ≠ slen then .raised .runtimeError else
      match unpackL rv with
      | .error e => .raised e
      | .ok length => readPayload length [] s sched

/-- `n` successive `load`s. -/
def loadMany : Nat → Sock → List Nat → Loaded (List (List Byte))
  | 0, s, sched => .ok [] s sched
  | n + 1, s, sched => match load s sched with
    | .ok v s sched => match loadMany n s sched with
      | .ok vs s sched => .ok (v :: vs) s sched
      | .raised e => .raised e
      | .blocked => .blocked
      | .unfinished => .unfinished
    | .raised e => .raised e
    | .blocked => .blocked
    | .unfinished => .unfinished

/-! ### Splits that respect the frames -/

/-- A split of a payload of `length` bytes that stays inside it: each read gets at least one
byte, and together they get exactly `length`. -/
def PayloadSplit (length : Nat) (cs : List Nat) : Prop := (cs.map (· + 1)).sum = length

/-- A split of the frames of `values`, in order: each length prefix in one read, then the
payload in reads that never reach past its end. -/
inductive FrameSplit : List (List Byte) → List Nat → Prop
  | nil : FrameSplit [] []
  | cons {v : List Byte} {vs : List (List Byte)} {c : Nat} {cs rest : List Nat} :
      slen ≤ c + 1 → PayloadSplit v.length cs → FrameSplit vs rest →
      FrameSplit (v :: vs) (c :: (cs ++ rest))

theorem recv_append {r more : List Byte} {closed : Bool} {k c : Nat} (hr : r ≠ [])
    (hm : min (c + 1) k ≤ r.length) :
    recv ⟨r ++ more, closed⟩ k c =
      some (r.take (min (c + 1) k), ⟨r.drop (min (c + 1) k) ++ more, closed⟩) := by
  simp only [recv, List.append_eq_nil, hr, false_and, if_false, List.take_append_of_le_length hm,
    List.drop_append_of_le_length hm]

theorem readPayload_of_eq {length : Nat} {value : List Byte} (h : value.length = length)
    (s : Sock) (sched : List Nat) : readPayload length value s sched = .ok value s sched := by
  unfold readPayload; simp [h]

theorem readPayload_cons {length : Nat} {value : List Byte} (h : value.length ≠ length)
    (s : Sock) (c : Nat) (sched : List Nat) :
    readPayload length value s (c :: sched) = match recv s length c with
      | none => .blocked
      | some (b, s) => readPayload length (value ++ b) s sched := by
  rw [readPayload.eq_def]; simp [h]

/-- The payload loop reads exactly the rest `r` of its payload when the reads stay inside it. -/
theorem readPayload_split {p value r more : List Byte} {closed : Bool} {cs : List Nat}
    (hp : p = value ++ r) (hcs : PayloadSplit r.length cs) (sched : List Nat) :
    readPayload p.length value ⟨r ++ more, closed⟩ (cs ++ sched) = .ok p ⟨more, closed⟩ sched := by
  induction cs generalizing value r with
  | nil =>
    obtain rfl : r = [] := List.length_eq_zero.1 (by simpa [PayloadSplit] using hcs.symm)
    rw [List.append_nil] at hp; subst hp
    exact readPayload_of_eq rfl _ _
  | cons c cs ih =>
    have hlen : r.length = c + 1 + (cs.map (· + 1)).sum := by simpa [PayloadSplit] using hcs.symm
    have hmin : min (c + 1) p.length = c + 1 := by rw [hp, List.length_append]; omega
    have hp' : p = (value ++ r.take (c + 1)) ++ r.drop (c + 1) := by
      rw [List.append_assoc, List.take_append_drop, hp]
    rw [List.cons_append, readPayload_cons (by rw [hp, List.length_append]; omega),
      recv_append (List.ne_nil_of_length_pos (by omega)) (by omega), hmin]
    exact ih hp' (by simp [PayloadSplit, hlen])

theorem unpackL_header {n : Nat} (h : n < 256^slen) : unpackL (toBE slen n).reverse = .ok n := by
  simp [unpackL, ofBE_toBE h]

/-- A prefix read whole leaves the payload loop on the bytes after it. -/
theorem load_header {length : Nat} (hv : length < 256^slen) (rest : List Byte) (closed : Bool)
    {c : Nat} (hc : slen ≤ c + 1) (sched : List Nat) :
    load ⟨(toBE slen length).reverse ++ rest, closed⟩ (c :: sched) =
      readPayload length [] ⟨rest, closed⟩ sched := by
  have hmin : min (c + 1) slen = slen := Nat.min_eq_right hc
  have hlen : (toBE slen length).reverse.length = slen := by simp
  rw [load, recv_append (List.ne_nil_of_length_pos (by simp [slen])) (by omega), hmin,
    List.take_of_length_le (by omega), List.drop_eq_nil_of_le (by omega), List.nil_append]
  simp only [hlen, ne_eq, not_true_eq_false, ite_false, unpackL_header hv]

/-- One `load` over a frame `dump` wrote, split inside the frame: the payload comes back and
the bytes after the frame stay unread. -/
theorem load_frame {v frame more : List Byte} {closed : Bool} {c : Nat} {cs : List Nat}
    (hdump : dump v = .ok frame) (hc : slen ≤ c + 1) (hcs : PayloadSplit v.length cs)
    (sched : List Nat) :
    load ⟨frame ++ more, closed⟩ (c :: (cs ++ sched)) = .ok v ⟨more, closed⟩ sched := by
  unfold dump packL at hdump
  split at hdump
  · next hv =>
    cases hdump
    rw [List.append_assoc, load_header hv _ _ hc]
    exact readPayload_split (List.nil_append v).symm hcs sched
  · cases hdump

theorem load_short_prefix {s : Sock} {c : Nat} (hs : s.unread ≠ []) (hc : c + 1 < slen)
    (sched : List Nat) : load s (c :: sched) = .raised .runtimeError := by
  have hlen : (s.unread.take (min (c + 1) slen)).length ≠ slen := by
    rw [List.length_take]; omega
  simp only [load, recv, hs, if_false, ne_eq, hlen, not_false_eq_true, if_true]

/-- `Daemon.load` over the frames `Daemon.dump` wrote. When each length prefix arrives in one
read and no payload read reaches past its frame, `n` loads return the `n` payloads in order
and leave the bytes that follow unread; a prefix read that returns fewer than `slen` bytes
raises `RuntimeError`. -/
theorem load_frames_in_order {vs frames : List (List Byte)}
    (hdump : List.Forall₂ (fun v f => dump v = .ok f) vs frames) {cs : List Nat}
    (hsplit : FrameSplit vs cs) (more : List Byte) (closed : Bool) (sched : List Nat) :
    loadMany vs.length ⟨frames.flatten ++ more, closed⟩ (cs ++ sched) = .ok vs ⟨more, closed⟩ sched ∧
      ∀ (s : Sock) c rest, s.unread ≠ [] → c + 1 < slen → load s (c :: rest) = .raised .runtimeError := by
  refine ⟨?_, fun s c rest hs hc => load_short_prefix hs hc rest⟩
  induction hsplit generalizing frames sched with
  | nil => cases hdump; rfl
  | cons hc hcs _ ih =>
    cases hdump with
    | cons hf hfs =>
      rw [List.flatten_cons, List.append_assoc, List.length_cons, List.cons_append, List.append_assoc,
        loadMany, load_frame hf hc hcs]
      simp only [ih hfs]

theorem load_frames_in_order_one :
    List.Forall₂ (fun v f => dump v = .ok f) [[49]] [[1, 0, 0, 0, 0, 0, 0, 0, 49]] ∧
      FrameSplit [[49]] [7, 0] ∧
      (loadMany [[49]].length ⟨[[1, 0, 0, 0, 0, 0, 0, 0, 49]].flatten ++ [], false⟩ ([7, 0] ++ []) =
          .ok [[49]] ⟨[], false⟩ [] ∧
        ∀ (s : Sock) c rest, s.unread ≠ [] → c + 1 < slen → load s (c :: rest) = .raised .runtimeError) :=
  have hd : List.Forall₂ (fun v f => dump v = .ok f) [[49]] [[1, 0, 0, 0, 0, 0, 0, 0, 49]] :=
    .cons rfl .nil
  have hs : FrameSplit [[49]] (7 :: ([0] ++ [])) := .cons (by decide) rfl .nil
  ⟨hd, hs, load_frames_in_order hd hs [] false []⟩

/-- The payload `1` framed by `dump`, read with the prefix split after its first byte: `load`
raises `RuntimeError` instead of returning the payload. -/
theorem load_split_prefix :
    dump [49] = .ok [1, 0, 0, 0, 0, 0, 0, 0, 49] ∧
      loadMany 1 ⟨[1, 0, 0, 0, 0, 0, 0, 0, 49], false⟩ [0, 0] = .raised .runtimeError :=
  ⟨rfl, rfl⟩

/-- Once the payload loop holds more bytes than the prefix announced it never returns:
`len(value)` only grows, so `len(value) != length` stays true. -/
theorem readPayload_overshoot {length : Nat} {value : List Byte} (h : length < value.length)
    (s : Sock) (sched : List Nat) (v : List Byte) (s' : Sock) (sched' : List Nat) :
    readPayload length value s sched ≠ .ok v s' sched' := by
  induction sched generalizing value s with
  | nil => rw [readPayload]; simp [Nat.ne_of_gt h]
  | cons c sched ih =>
    rw [readPayload_cons (Nat.ne_of_gt h)]
    split
    · simp
    · exact ih (by simp; omega) _

/-- Two frames, the payload `12` then `3`, with the first payload read returning one byte and
the second two: the second reaches into the next frame's prefix, and `load` never returns. -/
theorem readPayload_overshoot_two_frames :
    dump [49, 50] = .ok [2, 0, 0, 0, 0, 0, 0, 0, 49, 50] ∧ dump [51] = .ok [1, 0, 0, 0, 0, 0, 0, 0, 51] ∧
      2 < [49, 50, 1].length ∧
      ∀ rest v s sched, load ⟨[2, 0, 0, 0, 0, 0, 0, 0, 49, 50] ++ [1, 0, 0, 0, 0, 0, 0, 0, 51], false⟩
        (7 :: 0 :: 1 :: rest) ≠ .ok v s sched :=
  ⟨rfl, rfl, by decide, fun rest v s sched =>
    readPayload_overshoot (by decide) ⟨[0, 0, 0, 0, 0, 0, 0, 51], false⟩ rest v s sched⟩

/-! ### A closed channel -/

theorem readPayload_ne_raised (length : Nat) (value : List Byte) (s : Sock) (sched : List Nat)
    (e : PyError) : readPayload length value s sched ≠ .raised e := by
  induction sched generalizing value s with
  | nil => rw [readPayload]; split <;> simp
  | cons c sched ih =>
    rw [readPayload]
    split
    · simp
    · split
      · simp
      · exact ih _ _

/-- On a closed channel the payload loop never ends once the bytes left cannot complete the
payload: each `recv` returns what remains, then `b""` for ever. -/
theorem readPayload_closed {length : Nat} {value r : List Byte} (h : value.length + r.length < length)
    (sched : List Nat) : readPayload length value ⟨r, true⟩ sched = .unfinished := by
  induction sched generalizing value r with
  | nil => rw [readPayload]; simp [show value.length ≠ length by omega]
  | cons c sched ih =>
    rw [readPayload_cons (by omega)]
    by_cases hr : r = []
    · subst hr
      exact ih (by simpa using h)
    · simp only [recv, hr, if_false]
      exact ih (by simp; omega)

/-- `load` never raises `EOFError`: the prefix check raises `RuntimeError`, and the payload
loop only returns or waits. -/
theorem load_ne_eofError (s : Sock) (sched : List Nat) : load s sched ≠ .raised .eofError := by
  cases sched with
  | nil => simp [load]
  | cons c sched =>
    rw [load]
    split
    · simp
    split
    · simp
    split
    next h =>
      rw [unpackL] at h
      split at h <;> cases h
      simp
    · exact readPayload_ne_raised _ _ _ _ _

/-- Closed with fewer than `slen` bytes left, none or part of a prefix: `RuntimeError`. -/
theorem load_closed_short {r : List Byte} (hr : r.length < slen) (c : Nat) (sched : List Nat) :
    load ⟨r, true⟩ (c :: sched) = .raised .runtimeError := by
  have hlen : (r.take (min (c + 1) slen)).length ≠ slen := by rw [List.length_take]; omega
  by_cases h0 : r = []
  · subst h0; rfl
  · simp only [load, recv, h0, if_false, ne_eq, hlen, not_false_eq_true, if_true]

/-- Closed inside the payload of a frame, once the whole prefix is read: `load` waits for
ever. -/
theorem load_closed_in_payload {v frame : List Byte} (hdump : dump v = .ok frame) {n : Nat}
    (hn' : n < frame.length) {c : Nat} (hc : slen ≤ c + 1) (sched : List Nat) (hn : slen ≤ n) :
    load ⟨frame.take n, true⟩ (c :: sched) = .unfinished := by
  unfold dump packL at hdump
  split at hdump
  · next hv =>
    cases hdump
    have hlen : (toBE slen v.length).reverse.length = slen := by simp
    simp only [List.length_append, hlen] at hn'
    rw [List.take_append_eq_append_take, List.take_of_length_le (by omega), hlen,
      load_header hv _ _ hc]
    exact readPayload_closed (by simp; omega) sched
  · cases hdump

/-- `load` never raises `EOFError`. On a closed channel with fewer than `slen` bytes left
(none, or part of a prefix) it raises `RuntimeError`; closed inside a payload, it never
returns once the prefix is read. -/
theorem load_closed_no_eof :
    (∀ s sched, load s sched ≠ .raised .eofError) ∧
    (∀ r : List Byte, r.length < slen → ∀ c sched, load ⟨r, true⟩ (c :: sched) = .raised .runtimeError) ∧
    (∀ v frame, dump v = .ok frame → ∀ n, slen ≤ n → n < frame.length → ∀ c, slen ≤ c + 1 →
      ∀ sched, load ⟨frame.take n, true⟩ (c :: sched) = .unfinished) :=
  ⟨load_ne_eofError, fun _ hr => load_closed_short hr,
    fun _ _ hdump _ hn hn' _ hc sched => load_closed_in_payload hdump hn' hc sched hn⟩

end Harness

end Silk
