import Silk.Python
/-! `UdpSender.go` of `tests/daemon_test.py`, the replayer that feeds `flowcap` its IPFIX
input: it reads messages from a file and sends each set of a message as a datagram of its own,
behind a copy of the message header whose length is the datagram's and whose sequence number
counts the data records sent before. The socket is taken as connected and its `send` as
succeeding (a failed one is only logged), `stop()` is never called, and the log and the
`sleep` are left out. A `struct.error` escapes `go` and ends the thread. -/
namespace Silk
namespace Harness
namespace UdpSender
open Bytes

/-- `hdrstruct.size` of `"!HHIII"`. -/
def hdrlen : Nat := 16

/-- `setstruct.size` of `"!HH"`. -/
def setlen : Nat := 4

/-- `MTU`, the loopback MTU. -/
def mtu : Nat := 4096

/-- Template ids with the length of one of their data records. -/
def tidtolength : List (Nat × Nat) :=
  [(0x9dd0, 48), (0x9dd1, 56), (0x9dd2, 56), (0x9dd3, 56), (0x9dd4, 56), (0x9ed0, 88),
    (0x9ed1, 88), (0x9ed2, 88), (0x9ed3, 88), (0x9ed4, 96), (0xafea, 120)]

/-- `struct.pack` of one unsigned big-endian field of `w` bytes: a value that does not fit
raises `struct.error`. -/
def packField (w n : Nat) : Except PyError (List Byte) :=
  if n < 256 ^ w then .ok (toBE w n) else .error .structError

/-- `hdrstruct.pack(vers, octets, exptime, count, domain)`. -/
def packHdr (vers octets exptime count domain : Nat) : Except PyError (List Byte) := do
  let a ← packField 2 vers
  let b ← packField 2 octets
  let c ← packField 4 exptime
  let d ← packField 4 count
  let e ← packField 4 domain
  pure (a ++ b ++ c ++ d ++ e)

/-- `hdrstruct.unpack(hdr)`: version, length, export time, sequence number, domain. -/
def unpackHdr (hdr : List Byte) : Nat × Nat × Nat × Nat × Nat :=
  (ofBE (hdr.take 2), ofBE ((hdr.drop 2).take 2), ofBE ((hdr.drop 4).take 4),
    ofBE ((hdr.drop 8).take 4), ofBE ((hdr.drop 12).take 4))

/-- `setstruct.unpack(msg[0:setlen])`: set id and set length. -/
def unpackSet (bs : List Byte) : Nat × Nat := (ofBE (bs.take 2), ofBE ((bs.drop 2).take 2))

/-- The records a sent set adds to `reccount`: `int((sz - setlen) / reclen)` for a template id
`>= 256` that `tidtolength` knows; an unknown one raises `KeyError`, which is logged. The
quotient is below `2^16`, so the float division of Python 3 floors it exactly. -/
def records (id sz : Nat) : Nat :=
  if id ≥ 256 then
    match tidtolength.lookup id with
    | some reclen => (sz - setlen) / reclen
    | none => 0
  else 0

/-- The inner `while len(msg) > setlen` loop over one message body: the datagrams it sends, in
order, then the record count it leaves or the exception that ends the thread. A set length
below `setlen` empties `msg`; a datagram above the MTU is not sent. -/
def sendSets (vers exptime domain : Nat) (msg : List Byte) (reccount : Nat) :
    List (List Byte) × Except PyError Nat :=
  if msg.length > setlen then
    match unpackSet (msg.take setlen) with
    | (id, sz) =>
      if sz < setlen then sendSets vers exptime domain [] reccount
      else
        let setdata := msg.take sz
        let mysize := hdrlen + sz
        if mysize > mtu then sendSets vers exptime domain (msg.drop sz) reccount
        else
          match packHdr vers mysize exptime reccount domain with
          | .error e => ([], .error e)
          | .ok hdr =>
            let r := sendSets vers exptime domain (msg.drop sz) (reccount + records id sz)
            ((hdr ++ setdata) :: r.1, r.2)
  else ([], .ok reccount)
termination_by msg.length
decreasing_by all_goals simp only [List.length_drop, List.length_nil, setlen] at *; omega

/-- One pass of the outer loop up to the inner one: read the header and check it, then read
the message. `none` where the pass sets `self._running = False`: a short header, a bad version
or length, or a short message. Otherwise the version, export time, domain, message body and the
unread rest of the file. -/
def readMsg (file : List Byte) : Option (Nat × Nat × Nat × List Byte × List Byte) :=
  let hdr := file.take hdrlen
  if hdr.length ≠ hdrlen then none
  else
    match unpackHdr hdr with
    | (vers, octets, exptime, _, domain) =>
      if vers ≠ 10 ∨ octets < hdrlen then none
      else
        let msg := (file.drop hdrlen).take (octets - hdrlen)
        if msg.length ≠ octets - hdrlen then none
        else some (vers, exptime, domain, msg, (file.drop hdrlen).drop (octets - hdrlen))

/-- Each pass reads at least a header. -/
theorem readMsg_rest {file : List Byte} {r : Nat × Nat × Nat × List Byte × List Byte}
    (h : readMsg file = some r) : r.2.2.2.2.length + hdrlen ≤ file.length := by
  dsimp only [readMsg] at h
  split at h
  · cases h
  next hl =>
    split at h
    · cases h
    split at h
    · cases h
    cases h
    simp only [List.length_drop, List.length_take] at hl ⊢
    omega

/-- The outer `while self._running` loop from the unread part `file` of the input: the
datagrams sent, and the exception that ended the thread, if any. -/
def loop (file : List Byte) (reccount : Nat) : List (List Byte) × Option PyError :=
  match h : readMsg file with
  | none => ([], none)
  | some (vers, exptime, domain, msg, rest) =>
    let r := sendSets vers exptime domain msg reccount
    match r.2 with
    | .error e => (r.1, some e)
    | .ok reccount =>
      let r' := loop rest reccount
      (r.1 ++ r'.1, r'.2)
termination_by file.length
decreasing_by have := readMsg_rest h; simp only [hdrlen] at this; omega

/-- `UdpSender.go` on the input `file`, from `reccount = 0`. -/
def go (file : List Byte) : List (List Byte) × Option PyError := loop file 0

theorem unpackHdr_toBE {a b c d e : Nat} (ha : a < 256 ^ 2) (hb : b < 256 ^ 2) (hc : c < 256 ^ 4)
    (hd : d < 256 ^ 4) (he : e < 256 ^ 4) :
    unpackHdr (toBE 2 a ++ toBE 2 b ++ toBE 4 c ++ toBE 4 d ++ toBE 4 e) = (a, b, c, d, e) := by
  simp [unpackHdr, List.take_append_eq_append_take, List.drop_append_eq_append_drop,
    List.drop_eq_nil_of_le, List.take_of_length_le, ofBE_toBE ha, ofBE_toBE hb, ofBE_toBE hc,
    ofBE_toBE hd, ofBE_toBE he]

theorem unpackSet_toBE {a b : Nat} (ha : a < 256 ^ 2) (hb : b < 256 ^ 2) (rest : List Byte) :
    unpackSet ((toBE 2 a ++ toBE 2 b ++ rest).take setlen) = (a, b) := by
  simp [unpackSet, setlen, List.take_append_eq_append_take, List.drop_append_eq_append_drop,
    List.take_of_length_le, ofBE_toBE ha, ofBE_toBE hb]

/-! ### One step of each loop -/

/-- A bind that succeeds ran both of its parts successfully. -/
theorem ok_of_bind_ok {α β : Type} {x : Except PyError α} {f : α → Except PyError β} {b : β}
    (h : x >>= f = .ok b) : ∃ a, x = .ok a ∧ f a = .ok b := by
  cases x with
  | error e => cases h
  | ok a => exact ⟨a, rfl, h⟩

theorem packField_ok {w n : Nat} {b : List Byte} (h : packField w n = .ok b) :
    n < 256 ^ w ∧ b = toBE w n := by
  unfold packField at h
  split at h <;> cases h
  exact ⟨‹_›, rfl⟩

theorem packHdr_ok {vers octets exptime count domain : Nat} {hdr : List Byte}
    (h : packHdr vers octets exptime count domain = .ok hdr) :
    octets < 256 ^ 2 ∧
      hdr = toBE 2 vers ++ toBE 2 octets ++ toBE 4 exptime ++ toBE 4 count ++ toBE 4 domain := by
  obtain ⟨_, ha, h⟩ := ok_of_bind_ok h
  obtain ⟨_, hb, h⟩ := ok_of_bind_ok h
  obtain ⟨_, hc, h⟩ := ok_of_bind_ok h
  obtain ⟨_, hd, h⟩ := ok_of_bind_ok h
  obtain ⟨_, he, h⟩ := ok_of_bind_ok h
  cases h
  rw [(packField_ok ha).2, (packField_ok hb).2, (packField_ok hc).2, (packField_ok hd).2,
    (packField_ok he).2]
  exact ⟨(packField_ok hb).1, rfl⟩

theorem packHdr_of_lt {vers octets exptime domain : Nat} (hv : vers < 256 ^ 2)
    (ho : octets < 256 ^ 2) (he : exptime < 256 ^ 4) (hd : domain < 256 ^ 4) (count : Nat) :
    packHdr vers octets exptime count domain = if count < 256 ^ 4 then
      .ok (toBE 2 vers ++ toBE 2 octets ++ toBE 4 exptime ++ toBE 4 count ++ toBE 4 domain)
    else .error .structError := by
  simp only [packHdr, packField, if_pos hv, if_pos ho, if_pos he, if_pos hd]
  split <;> rfl

section
variable {vers exptime domain : Nat}

theorem sendSets_short {msg : List Byte} (h : msg.length ≤ setlen) (n : Nat) :
    sendSets vers exptime domain msg n = ([], .ok n) := by
  rw [sendSets, if_neg (by omega)]

/-- A set length below `setlen` ends the message. -/
theorem sendSets_bad_length {msg : List Byte} {id sz : Nat} (h : setlen < msg.length)
    (hu : unpackSet (msg.take setlen) = (id, sz)) (hsz : sz < setlen) (n : Nat) :
    sendSets vers exptime domain msg n = ([], .ok n) := by
  rw [sendSets, if_pos h, hu]
  exact (if_pos hsz).trans (sendSets_short (Nat.zero_le _) n)

/-- A set whose datagram would exceed the MTU is skipped. -/
theorem sendSets_large {msg : List Byte} {id sz : Nat} (h : setlen < msg.length)
    (hu : unpackSet (msg.take setlen) = (id, sz)) (hsz : setlen ≤ sz) (hbig : mtu < hdrlen + sz)
    (n : Nat) : sendSets vers exptime domain msg n = sendSets vers exptime domain (msg.drop sz) n := by
  rw [sendSets, if_pos h, hu]
  exact (if_neg (by omega)).trans (if_pos hbig)

/-- A set that fits is sent behind its header, once `hdrstruct.pack` accepts the count. -/
theorem sendSets_send {msg : List Byte} {id sz : Nat} (h : setlen < msg.length)
    (hu : unpackSet (msg.take setlen) = (id, sz)) (hsz : setlen ≤ sz) (hfit : hdrlen + sz ≤ mtu)
    (n : Nat) : sendSets vers exptime domain msg n =
      match packHdr vers (hdrlen + sz) exptime n domain with
      | .error e => ([], .error e)
      | .ok hdr => ((hdr ++ msg.take sz) ::
          (sendSets vers exptime domain (msg.drop sz) (n + records id sz)).1,
          (sendSets vers exptime domain (msg.drop sz) (n + records id sz)).2) := by
  rw [sendSets, if_pos h, hu]
  exact (if_neg (by omega)).trans (if_neg (by omega))

end

theorem loop_stop {file : List Byte} (h : readMsg file = none) (n : Nat) :
    loop file n = ([], none) := by
  rw [loop]
  split
  · rfl
  next heq => rw [h] at heq; cases heq

@[simp] theorem loop_nil (n : Nat) : loop [] n = ([], none) := loop_stop (show readMsg [] = none from rfl) n

/-- A message that passes the checks: its sets are sent, and the loop goes on after it unless
they raised. -/
theorem loop_msg {file msg rest : List Byte} {vers exptime domain : Nat}
    (h : readMsg file = some (vers, exptime, domain, msg, rest)) (n : Nat) :
    loop file n =
      match (sendSets vers exptime domain msg n).2 with
      | .error e => ((sendSets vers exptime domain msg n).1, some e)
      | .ok n' => ((sendSets vers exptime domain msg n).1 ++ (loop rest n').1, (loop rest n').2) := by
  rw [loop]
  split
  next heq => rw [h] at heq; cases heq
  next heq => rw [h] at heq; cases heq; rfl

/-! ### What every datagram carries -/

/-- The length field of a datagram's header, as a collector reads it. -/
def lengthField (d : List Byte) : Nat := ofBE ((d.drop 2).take 2)

/-- A datagram within the MTU whose length field does not fall short of its size. -/
def Bounded (d : List Byte) : Prop := d.length ≤ lengthField d ∧ lengthField d ≤ mtu

theorem bounded_of_packHdr {vers sz exptime n domain : Nat} {hdr msg : List Byte}
    (h : packHdr vers (hdrlen + sz) exptime n domain = .ok hdr) (hfit : hdrlen + sz ≤ mtu) :
    Bounded (hdr ++ msg.take sz) := by
  obtain ⟨hlt, rfl⟩ := packHdr_ok h
  have hfield : lengthField (toBE 2 vers ++ toBE 2 (hdrlen + sz) ++ toBE 4 exptime ++ toBE 4 n ++
      toBE 4 domain ++ msg.take sz) = hdrlen + sz := by
    simp only [lengthField, List.append_assoc]
    rw [List.drop_append_of_le_length (by simp), List.drop_eq_nil_of_le (by simp), List.nil_append,
      List.take_append_of_le_length (by simp), List.take_of_length_le (by simp), ofBE_toBE hlt]
  rw [Bounded, hfield]
  simp only [List.length_append, length_toBE, List.length_take, hdrlen] at hfit ⊢
  omega

section
variable {vers exptime domain : Nat}

theorem sendSets_bounded (msg : List Byte) (n : Nat) :
    ∀ d ∈ (sendSets vers exptime domain msg n).1, Bounded d := by
  by_cases h : setlen < msg.length
  · rcases hu : unpackSet (msg.take setlen) with ⟨id, sz⟩
    by_cases hsz : sz < setlen
    · simp [sendSets_bad_length h hu hsz]
    by_cases hbig : mtu < hdrlen + sz
    · rw [sendSets_large h hu (by omega) hbig]
      exact sendSets_bounded (msg.drop sz) n
    rw [sendSets_send h hu (by omega) (by omega)]
    split
    · simp
    next hdr hp =>
      intro d hd
      rcases List.mem_cons.1 hd with rfl | hd
      · exact bounded_of_packHdr hp (by omega)
      · exact sendSets_bounded (msg.drop sz) _ d hd
  · simp [sendSets_short (Nat.le_of_not_lt h)]
termination_by msg.length
decreasing_by all_goals simp only [List.length_drop, setlen] at *; omega

end

theorem loop_bounded (file : List Byte) (n : Nat) : ∀ d ∈ (loop file n).1, Bounded d := by
  cases hr : readMsg file with
  | none => simp [loop_stop hr]
  | some r =>
    obtain ⟨vers, exptime, domain, msg, rest⟩ := r
    have := readMsg_rest hr
    rw [loop_msg hr]
    split
    · exact sendSets_bounded msg n
    · intro d hd
      rcases List.mem_append.1 hd with hd | hd
      · exact sendSets_bounded msg n d hd
      · exact loop_bounded rest _ d hd
termination_by file.length
decreasing_by simp only [hdrlen] at this; omega

/-- `go` stops on every input, and every datagram it sends is within the MTU with a length field
no smaller than its size. A set whose length reaches past the end of its message is sent cut
short, behind a header that gives its full length: the 22-byte datagram below says 24. -/
theorem udp_sender_length_field :
    (∀ file, ∀ d ∈ (go file).1, d.length ≤ mtu ∧ d.length ≤ lengthField d) ∧
      ∃ d, go [0, 10, 0, 22, 0, 0, 0, 1, 0, 0, 0, 0, 0, 0, 0, 7, 0, 2, 0, 8, 0xaa, 0xbb] =
        ([d], none) ∧ d.length = 22 ∧ lengthField d = 24 := by
  refine ⟨fun file d hd => ?_, ?_⟩
  · have := loop_bounded file 0 d hd
    exact ⟨this.1.trans this.2, this.1⟩
  have hr : readMsg [0, 10, 0, 22, 0, 0, 0, 1, 0, 0, 0, 0, 0, 0, 0, 7, 0, 2, 0, 8, 0xaa, 0xbb] =
      some (10, 1, 7, [0, 2, 0, 8, 0xaa, 0xbb], []) := by decide
  have hs : sendSets 10 1 7 [0, 2, 0, 8, 0xaa, 0xbb] 0 = _ :=
    sendSets_send (by decide)
      (show unpackSet (([0, 2, 0, 8, 0xaa, 0xbb] : List Byte).take setlen) = (2, 8) from rfl)
      (by decide) (by decide) 0
  rw [packHdr_of_lt (by decide) (by decide) (by decide) (by decide), if_pos (by decide),
    sendSets_short (show (List.drop 8 [0, 2, 0, 8, 0xaa, 0xbb] : List Byte).length ≤ setlen
      by decide)] at hs
  refine ⟨[0, 10, 0, 24, 0, 0, 0, 1, 0, 0, 0, 0, 0, 0, 0, 7, 0, 2, 0, 8, 0xaa, 0xbb], ?_, rfl, rfl⟩
  rw [go, loop_msg hr, hs]
  simp only [loop_nil]
  rfl

/-! ### Streams of well-formed messages -/

/-- An IPFIX set: its template id, and the bytes after its 4-byte header. -/
structure IpfixSet where
  id : Nat
  body : List Byte
  id_lt : id < 256 ^ 2
  size_lt : setlen + body.length < 256 ^ 2

/-- The set length its header carries. -/
def IpfixSet.size (s : IpfixSet) : Nat := setlen + s.body.length

def IpfixSet.bytes (s : IpfixSet) : List Byte := toBE 2 s.id ++ toBE 2 s.size ++ s.body

/-- A well-formed IPFIX message: version 10, a length equal to its size, and a body that is its
sets one after another. -/
structure Message where
  exptime : Nat
  count : Nat
  domain : Nat
  sets : List IpfixSet
  exptime_lt : exptime < 256 ^ 4
  count_lt : count < 256 ^ 4
  domain_lt : domain < 256 ^ 4
  size_lt : hdrlen + (sets.map IpfixSet.size).sum < 256 ^ 2

def Message.body (m : Message) : List Byte := (m.sets.map IpfixSet.bytes).flatten

def Message.bytes (m : Message) : List Byte :=
  toBE 2 10 ++ toBE 2 (hdrlen + (m.sets.map IpfixSet.size).sum) ++ toBE 4 m.exptime ++
    toBE 4 m.count ++ toBE 4 m.domain ++ m.body

/-- The input file: the messages one after another. -/
def stream (ms : List Message) : List Byte := (ms.map Message.bytes).flatten

/-- The datagram of the set `s` of the message `m` with the sequence number `seq`: the set's
bytes behind a header with version 10, the length `16 + s`, and `m`'s export time and
observation domain. -/
def datagram (m : Message) (s : IpfixSet) (seq : Nat) : List Byte :=
  toBE 2 10 ++ toBE 2 (hdrlen + s.size) ++ toBE 4 m.exptime ++ toBE 4 seq ++ toBE 4 m.domain ++
    s.bytes

/-- The sets of a stream, each with its message. -/
def entries (ms : List Message) : List (Message × IpfixSet) := ms.flatMap fun m => m.sets.map (m, ·)

/-- The sets whose datagram fits the MTU, each with the number of data records in the fitting
sets before it, from `n` on. -/
def numbered : List (Message × IpfixSet) → Nat → List (Message × IpfixSet × Nat)
  | [], _ => []
  | (m, s) :: rest, n =>
    if hdrlen + s.size ≤ mtu then (m, s, n) :: numbered rest (n + records s.id s.size)
    else numbered rest n

/-- The datagrams by the words of the documentation: one per set that fits the MTU, in order,
with the record count before it modulo `2^32` as its sequence number. -/
def documentedDatagrams (ms : List Message) : List (List Byte) :=
  (numbered (entries ms) 0).map fun e => datagram e.1 e.2.1 (e.2.2 % 2 ^ 32)

/-- The sets the inner loop reads: all but a last set of `setlen` bytes, which
`len(msg) > setlen` leaves unread. -/
def keptSets : List IpfixSet → List IpfixSet
  | [] => []
  | [s] => if s.size ≤ setlen then [] else [s]
  | s :: rest => s :: keptSets rest

def keptEntries (ms : List Message) : List (Message × IpfixSet) :=
  ms.flatMap fun m => (keptSets m.sets).map (m, ·)

/-- The inner loop on the sets it reads, set by set: a set that fits is sent while the count
fits the 32-bit field of the header, and `hdrstruct.pack` raises `struct.error` once it does
not. -/
def emit : List (Message × IpfixSet) → Nat → List (List Byte) × Except PyError Nat
  | [], n => ([], .ok n)
  | (m, s) :: rest, n =>
    if hdrlen + s.size ≤ mtu then
      if n < 256 ^ 4 then
        (datagram m s n :: (emit rest (n + records s.id s.size)).1,
          (emit rest (n + records s.id s.size)).2)
      else ([], .error .structError)
    else emit rest n

/-- The outcome of `go` from the outcome of its last inner loop. -/
def finish (r : List (List Byte) × Except PyError Nat) : List (List Byte) × Option PyError :=
  (r.1, match r.2 with
    | .error e => some e
    | .ok _ => none)

theorem IpfixSet.length_bytes (s : IpfixSet) : s.bytes.length = s.size := by
  simp only [IpfixSet.bytes, IpfixSet.size, List.length_append, length_toBE, setlen]

theorem IpfixSet.setlen_le_size (s : IpfixSet) : setlen ≤ s.size := Nat.le_add_right _ _

theorem Message.length_body (m : Message) : m.body.length = (m.sets.map IpfixSet.size).sum := by
  simp only [Message.body, List.length_flatten, List.map_map]
  congr 1
  exact List.map_congr_left fun s _ => s.length_bytes

theorem readMsg_bytes (m : Message) (rest : List Byte) :
    readMsg (m.bytes ++ rest) = some (10, m.exptime, m.domain, m.body, rest) := by
  have hl : (toBE 2 10 ++ toBE 2 (hdrlen + (m.sets.map IpfixSet.size).sum) ++ toBE 4 m.exptime ++
      toBE 4 m.count ++ toBE 4 m.domain).length = hdrlen := by simp [hdrlen]
  have ho : hdrlen + (m.sets.map IpfixSet.size).sum < 256 ^ 2 := m.size_lt
  rw [Message.bytes, List.append_assoc, readMsg]
  dsimp only
  rw [List.take_left' hl, List.drop_left' hl, if_neg (not_not.2 hl)]
  rw [unpackHdr_toBE (by norm_num) ho m.exptime_lt m.count_lt m.domain_lt]
  simp only [Nat.add_sub_cancel_left, ← m.length_body, List.take_left, List.drop_left]
  rw [if_neg (by simp [hdrlen]), if_neg (by simp)]

/-- The byte loop reads the sets of a well-formed body back: the inner loop on `m.body` is
`emit` on the sets it reads. -/
theorem sendSets_body (m : Message) (sets : List IpfixSet) (n : Nat) :
    sendSets 10 m.exptime m.domain (sets.map IpfixSet.bytes).flatten n =
      emit ((keptSets sets).map (m, ·)) n := by
  induction sets generalizing n with
  | nil => exact sendSets_short (by simp) n
  | cons s rest ih =>
    rw [List.map_cons, List.flatten_cons]
    by_cases hbare : rest = [] ∧ s.size ≤ setlen
    · obtain ⟨rfl, hs⟩ := hbare
      rw [sendSets_short (by simpa [s.length_bytes] using hs)]
      simp only [keptSets, if_pos hs, List.map_nil]
      rfl
    have hkept : keptSets (s :: rest) = s :: keptSets rest := by
      cases rest with
      | nil => exact if_neg (by simpa using hbare)
      | cons t rest => rfl
    have hlen : setlen < (s.bytes ++ (rest.map IpfixSet.bytes).flatten).length := by
      rw [List.length_append, s.length_bytes]
      cases rest with
      | nil => simp only [true_and, not_le] at hbare; simpa using hbare
      | cons t rest =>
        rw [List.map_cons, List.flatten_cons, List.length_append, t.length_bytes]
        have := t.setlen_le_size
        have := s.setlen_le_size
        simp only [setlen] at *
        omega
    have hu : unpackSet ((s.bytes ++ (rest.map IpfixSet.bytes).flatten).take setlen) =
        (s.id, s.size) := by
      rw [IpfixSet.bytes, List.append_assoc, unpackSet_toBE (b := s.size) s.id_lt s.size_lt]
    rw [hkept, List.map_cons, emit]
    by_cases hfit : hdrlen + s.size ≤ mtu
    · rw [sendSets_send hlen hu s.setlen_le_size hfit, if_pos hfit,
        packHdr_of_lt (by norm_num) (by simp only [hdrlen, mtu] at hfit ⊢; omega) m.exptime_lt
          m.domain_lt, List.take_left' s.length_bytes, List.drop_left' s.length_bytes]
      by_cases hn : n < 256 ^ 4
      · rw [if_pos hn, if_pos hn, ih]; rfl
      · rw [if_neg hn, if_neg hn]
    · rw [sendSets_large hlen hu s.setlen_le_size (by omega), if_neg hfit,
        List.drop_left' s.length_bytes, ih]

theorem emit_append (l₁ l₂ : List (Message × IpfixSet)) (n : Nat) :
    emit (l₁ ++ l₂) n = match (emit l₁ n).2 with
      | .error e => ((emit l₁ n).1, .error e)
      | .ok n' => ((emit l₁ n).1 ++ (emit l₂ n').1, (emit l₂ n').2) := by
  induction l₁ generalizing n with
  | nil => rfl
  | cons e rest ih =>
    obtain ⟨m, s⟩ := e
    rw [List.cons_append]
    simp only [emit]
    split_ifs
    · rw [ih]
      dsimp only
      cases (emit rest (n + records s.id s.size)).2 <;> rfl
    · rfl
    · exact ih n

/-- The outer loop on a stream of well-formed messages is `emit` on the sets it reads. -/
theorem loop_stream (ms : List Message) (n : Nat) :
    loop (stream ms) n = finish (emit (keptEntries ms) n) := by
  induction ms generalizing n with
  | nil => exact loop_nil n
  | cons m ms ih =>
    rw [stream, List.map_cons, List.flatten_cons, loop_msg (readMsg_bytes m _), Message.body,
      sendSets_body, keptEntries, List.flatMap_cons, emit_append]
    split
    · rfl
    · rw [← stream, ih]; rfl

/-- `emit` in the words of the documentation: the datagrams of the numbered sets, up to the
first whose count no longer fits the header, and `struct.error` if there is one. -/
theorem finish_emit (l : List (Message × IpfixSet)) (n : Nat) :
    finish (emit l n) = (((numbered l n).takeWhile (·.2.2 < 256 ^ 4)).map
        (fun e => datagram e.1 e.2.1 e.2.2),
      if ∀ e ∈ numbered l n, e.2.2 < 256 ^ 4 then none else some .structError) := by
  induction l generalizing n with
  | nil => simp [finish, emit, numbered]
  | cons e rest ih =>
    obtain ⟨m, s⟩ := e
    by_cases hfit : hdrlen + s.size ≤ mtu
    · by_cases hn : n < 256 ^ 4
      · have h := ih (n + records s.id s.size)
        simp only [finish, Prod.mk.injEq] at h
        simp only [finish, emit, numbered, if_pos hfit, if_pos hn, List.takeWhile_cons,
          decide_eq_true hn, ite_true, List.map_cons, List.mem_cons, forall_eq_or_imp, hn,
          decide_True, true_and, h]
      · simp only [finish, emit, numbered, if_pos hfit, if_neg hn, List.takeWhile_cons,
          decide_eq_false hn, Bool.false_eq_true, ite_false, List.map_nil, List.mem_cons,
          forall_eq_or_imp, hn, decide_False, false_and]
    · simpa only [emit, numbered, if_neg hfit] using ih n

theorem keptSets_of_last {sets : List IpfixSet} (h : ∀ s ∈ sets.getLast?, setlen < s.size) :
    keptSets sets = sets := by
  induction sets with
  | nil => rfl
  | cons s rest ih =>
    cases rest with
    | nil => exact if_neg (Nat.not_le.2 (h s rfl))
    | cons t rest =>
      show s :: keptSets (t :: rest) = s :: t :: rest
      rw [ih (fun s' hs' => h s' (by rwa [List.getLast?_cons_cons]))]

/-- On every stream of well-formed messages `go` sends, in order, one datagram per set it reads
whose datagram fits the MTU: the set behind a header with version 10, the length `16 + s`, the
message's export time and domain, and the record count before it. It reads no last set of
`setlen` bytes of a message, and a count that reaches `2^32` makes `hdrstruct.pack` raise
`struct.error` instead of wrapping. A message whose only set is a bare set header gets no
datagram, where the documentation gives it one. -/
theorem udp_sender_sets (ms : List Message) :
    go (stream ms) = (((numbered (keptEntries ms) 0).takeWhile (·.2.2 < 256 ^ 4)).map
        (fun e => datagram e.1 e.2.1 e.2.2),
      if ∀ e ∈ numbered (keptEntries ms) 0, e.2.2 < 256 ^ 4 then none else some .structError) ∧
    ∀ m s, m.sets = [s] → s.body = [] → go (stream [m]) = ([], none) ∧
      documentedDatagrams [m] = [datagram m s 0] := by
  refine ⟨(loop_stream ms 0).trans (finish_emit _ 0), fun m s hm hs => ⟨?_, ?_⟩⟩
  · have hk : keptEntries [m] = [] := by
      simp [keptEntries, hm, keptSets, IpfixSet.size, hs]
    rw [go, loop_stream, hk]
    rfl
  · have hfit : hdrlen + s.size ≤ mtu := by simp [IpfixSet.size, hs, hdrlen, setlen, mtu]
    simp [documentedDatagrams, entries, hm, numbered, hfit]

/-- Where no message ends with a bare set header and no count reaches `2^32`, `go` sends
exactly the datagrams the documentation describes, and returns. -/
theorem udp_sender_law (ms : List Message) (hlast : ∀ m ∈ ms, ∀ s ∈ m.sets.getLast?, setlen < s.size)
    (hseq : ∀ e ∈ numbered (entries ms) 0, e.2.2 < 2 ^ 32) :
    go (stream ms) = (documentedDatagrams ms, none) := by
  have hk : keptEntries ms = entries ms := by
    simp only [keptEntries, entries]
    exact List.flatMap_congr fun m hm => by rw [keptSets_of_last (hlast m hm)]
  have hseq' : ∀ e ∈ numbered (entries ms) 0, e.2.2 < 256 ^ 4 := by
    rwa [show (2 : Nat) ^ 32 = 256 ^ 4 by norm_num] at hseq
  rw [go, loop_stream, finish_emit, hk, if_pos hseq',
    List.takeWhile_eq_self_iff.2 fun e he => decide_eq_true (hseq' e he), documentedDatagrams]
  exact congrArg (·, none) (List.map_congr_left fun e he => by rw [Nat.mod_eq_of_lt (hseq e he)])

theorem udp_sender_law_two_sets : ∃ m : Message, m.sets.length = 2 ∧
    (∀ m' ∈ [m], ∀ s ∈ m'.sets.getLast?, setlen < s.size) ∧
    (∀ e ∈ numbered (entries [m]) 0, e.2.2 < 2 ^ 32) ∧
    go (stream [m]) = (documentedDatagrams [m], none) := by
  let m : Message := ⟨1, 0, 7, [⟨0x9dd0, List.replicate 48 0, by decide, by decide⟩,
    ⟨0x9dd0, [1, 2], by decide, by decide⟩], by decide, by decide, by decide, by decide⟩
  have h₁ : ∀ m' ∈ [m], ∀ s ∈ m'.sets.getLast?, setlen < s.size := by decide
  have h₂ : ∀ e ∈ numbered (entries [m]) 0, e.2.2 < 2 ^ 32 := by decide
  exact ⟨m, rfl, h₁, h₂, udp_sender_law [m] h₁ h₂⟩

end UdpSender

end Harness

end Silk
