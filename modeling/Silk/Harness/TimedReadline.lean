import Silk.Harness.LogLines
/-! `TimedReadline` of `tests/daemon_test.py`, the line reader of the daemon tests' main loops
(`flowcap-daemon.py` calls it until it returns `None` and logs each non-empty value). One call
is one run of `__call__`'s `while True` loop: it returns the first line buffered, or waits on
`select`. The descriptor is the environment: each wait is told whether `select` timed out or
what `os.read` returned, empty at end of file. -/
namespace Silk
namespace Harness
namespace TimedReadline
open Supervisor (linesFrom)

/-- What one wait on the descriptor gives. -/
inductive Event
  /-- `select` finds the descriptor readable and `os.read(self.fd, LINEBUF)` returns `more`:
  empty at end of file. -/
  | read (more : List Byte)
  /-- `select` times out. -/
  | timeout
  deriving DecidableEq, Repr

/-- A wait after which a call returns without a line: a timeout, or the end of file. -/
def Event.stops : Event → Bool
  | .read more => more.isEmpty
  | .timeout => true

/-- `more.decode('latin_1')`: each byte is the character of its code. -/
def latin1 (bs : List Byte) : List Char := bs.map fun b => Char.ofNat b.val

/-- `__call__` on the buffer `buf`, with the events `evs` to come: the value returned (`none`
for `None`), the buffer left and the events not used; `none` when the events run out first.
`self.buf.find('\n')` is `indexOf?`, with `none` for `-1`. -/
def call (buf : List Char) (evs : List Event) : Option (Option String × List Char × List Event) :=
  match buf.indexOf? '\n', evs with
  | some x, evs => some (some (String.mk (buf.take (x + 1))), buf.drop (x + 1), evs)
  | none, [] => none
  | none, .timeout :: evs => some (some "", buf, evs)
  | none, .read more :: evs =>
    if more ≠ [] then call (buf ++ latin1 more) evs else some (none, buf, evs)

/-- `n` successive calls from the buffer `buf`: the values returned, in order, then the buffer
and the events left. -/
def calls : Nat → List Char → List Event → Option (List (Option String) × List Char × List Event)
  | 0, buf, evs => some ([], buf, evs)
  | n + 1, buf, evs =>
    match call buf evs with
    | none => none
    | some (r, buf, evs) =>
      match calls n buf evs with
      | none => none
      | some (rs, buf, evs) => some (r :: rs, buf, evs)

/-- The bytes the reads among `evs` deliver, in order. -/
def delivered : List Event → List Byte
  | [] => []
  | .read more :: evs => more ++ delivered evs
  | .timeout :: evs => delivered evs

/-- The non-empty strings among the values returned: what the main loops log. -/
def logged (rs : List (Option String)) : List String := (rs.filterMap id).filter (· != "")

@[simp] theorem latin1_nil : latin1 [] = [] := rfl

@[simp] theorem latin1_append (xs ys : List Byte) : latin1 (xs ++ ys) = latin1 xs ++ latin1 ys :=
  List.map_append _ _ _

@[simp] theorem delivered_append (xs ys : List Event) :
    delivered (xs ++ ys) = delivered xs ++ delivered ys := by
  induction xs with
  | nil => rfl
  | cons e evs ih => cases e <;> simp [delivered, ih]

@[simp] theorem delivered_reads (reads : List (List Byte)) :
    delivered (reads.map .read) = reads.flatten := by
  induction reads <;> simp_all [delivered]

theorem logged_cons (r : Option String) (rs : List (Option String)) :
    logged (r :: rs) = logged [r] ++ logged rs := by
  cases r with
  | none => rfl
  | some s => by_cases hs : s = "" <;> simp [logged, List.filter_cons, hs]

/-! ### One call -/

/-- What one call does, said without the loop: it returns the first line of the buffer and the
non-empty reads it waited for; or, when they hold no newline, `""` after a timeout or `None` at
end of file. -/
inductive Returns (buf : List Char) : Option String → List Char → List Event → Prop
  | line (reads : List (List Byte)) (body rest : List Char) : (∀ m ∈ reads, m ≠ []) →
      '\n' ∉ body → buf ++ latin1 reads.flatten = body ++ '\n' :: rest →
      Returns buf (some (String.mk (body ++ ['\n']))) rest (reads.map .read)
  | timeout (reads : List (List Byte)) : (∀ m ∈ reads, m ≠ []) →
      '\n' ∉ buf ++ latin1 reads.flatten →
      Returns buf (some "") (buf ++ latin1 reads.flatten) (reads.map .read ++ [.timeout])
  | eof (reads : List (List Byte)) : (∀ m ∈ reads, m ≠ []) →
      '\n' ∉ buf ++ latin1 reads.flatten →
      Returns buf none (buf ++ latin1 reads.flatten) (reads.map .read ++ [.read []])

theorem indexOf?_newline {buf : List Char} {x : Nat} (h : buf.indexOf? '\n' = some x) :
    ∃ body rest, '\n' ∉ body ∧ buf = body ++ '\n' :: rest ∧ x = body.length := by
  induction buf generalizing x with
  | nil => cases h
  | cons c cs ih =>
    rw [List.indexOf?_cons] at h
    by_cases hc : c = '\n'
    · subst hc
      simp only [beq_self_eq_true, ite_true, Option.some.injEq] at h
      exact ⟨[], cs, List.not_mem_nil _, rfl, h.symm⟩
    · rw [if_neg (by simpa using hc)] at h
      obtain ⟨y, hy, rfl⟩ := Option.map_eq_some'.1 h
      obtain ⟨body, rest, hb, rfl, rfl⟩ := ih hy
      exact ⟨c :: body, rest, by simp [hb, Ne.symm hc], rfl, rfl⟩

theorem not_mem_of_indexOf?_none {buf : List Char} (h : buf.indexOf? '\n' = none) : '\n' ∉ buf :=
  fun hm => by simpa using List.indexOf?_eq_none_iff.1 h _ hm

theorem Returns.cons_read {buf buf' : List Char} {r : Option String} {used : List Event}
    {more : List Byte} (hm : more ≠ []) (h : Returns (buf ++ latin1 more) r buf' used) :
    Returns buf r buf' (.read more :: used) := by
  cases h with
  | line reads body _ hr hb he =>
    exact .line (more :: reads) body buf' (List.forall_mem_cons.2 ⟨hm, hr⟩) hb (by simpa using he)
  | timeout reads hr hn =>
    simpa using Returns.timeout (more :: reads) (List.forall_mem_cons.2 ⟨hm, hr⟩) (by simpa using hn)
  | eof reads hr hn =>
    simpa using Returns.eof (more :: reads) (List.forall_mem_cons.2 ⟨hm, hr⟩) (by simpa using hn)

theorem call_returns {buf : List Char} {evs evs' : List Event} {r : Option String}
    {buf' : List Char} (h : call buf evs = some (r, buf', evs')) :
    ∃ used, evs = used ++ evs' ∧ Returns buf r buf' used := by
  induction buf, evs using call.induct with
  | case1 buf x evs hx =>
    simp only [call, hx, Option.some.injEq, Prod.mk.injEq] at h
    obtain ⟨rfl, rfl, rfl⟩ := h
    obtain ⟨body, rest, hb, rfl, rfl⟩ := indexOf?_newline hx
    refine ⟨[], rfl, ?_⟩
    simpa [List.take_append_eq_append_take, List.drop_append_eq_append_drop, List.take_of_length_le,
      List.drop_eq_nil_of_le] using
      @Returns.line (body ++ '\n' :: rest) [] body rest (by simp) hb (by simp)
  | case2 buf hx => simp [call, hx] at h
  | case3 buf evs hx =>
    simp only [call, hx, Option.some.injEq, Prod.mk.injEq] at h
    obtain ⟨rfl, rfl, rfl⟩ := h
    refine ⟨[.timeout], rfl, ?_⟩
    simpa using @Returns.timeout buf [] (by simp) (by simpa using not_mem_of_indexOf?_none hx)
  | case4 buf more evs hx hm ih =>
    simp only [call, hx, if_pos hm] at h
    obtain ⟨used, rfl, hr⟩ := ih h
    exact ⟨_, rfl, hr.cons_read hm⟩
  | case5 buf more evs hx hm =>
    simp only [call, hx, if_neg hm, Option.some.injEq, Prod.mk.injEq] at h
    obtain ⟨rfl, rfl, rfl⟩ := h
    rw [not_not.1 hm]
    refine ⟨[.read []], rfl, ?_⟩
    simpa using @Returns.eof buf [] (by simp) (by simpa using not_mem_of_indexOf?_none hx)

theorem line_ne_empty (body : List Char) : String.mk (body ++ ['\n']) ≠ "" := fun h => by
  simpa using congrArg String.length h

/-- A call that returns `""` waited for a timeout and left no line in the buffer. -/
theorem Returns.empty {buf buf' : List Char} {used : List Event}
    (h : Returns buf (some "") buf' used) : used.getLast? = some .timeout ∧ '\n' ∉ buf' := by
  generalize hr : some "" = r at h
  cases h with
  | line reads body _ _ _ _ => exact absurd (Option.some.inj hr).symm (line_ne_empty body)
  | timeout reads _ hn => exact ⟨by simp, hn⟩
  | eof reads _ _ => cases hr

/-- A call that returns `None` read the end of file and left no line in the buffer. -/
theorem Returns.none {buf buf' : List Char} {used : List Event}
    (h : Returns buf none buf' used) : used.getLast? = some (.read []) ∧ '\n' ∉ buf' := by
  cases h with
  | eof reads _ hn => exact ⟨by simp, hn⟩

/-- The lines of the stream from the buffer on: a call takes off the line it returns. -/
theorem Returns.lines {buf buf' : List Char} {r : Option String} {used : List Event}
    (h : Returns buf r buf' used) (cs : List Char) :
    (linesFrom [] (buf ++ latin1 (delivered used) ++ cs)).1 = logged [r] ++ (linesFrom [] (buf' ++ cs)).1 := by
  cases h with
  | line reads body _ _ hb he =>
    rw [delivered_reads, he, List.append_assoc, List.cons_append, Supervisor.linesFrom_line hb]
    simp [logged, line_ne_empty]
  | timeout reads _ _ => simp [logged, delivered]
  | eof reads _ _ => simp [logged, delivered]

/-- A call returns something other than a line only by waiting, and never reads past the end
of file; one that waits for nothing takes a line off the buffer. -/
theorem Returns.progress {buf buf' : List Char} {s : String} {used : List Event}
    (h : Returns buf (some s) buf' used) :
    .read [] ∉ used ∧ (used = [] → buf'.count '\n' < buf.count '\n') := by
  cases h with
  | line reads body rest hr hb he =>
    refine ⟨fun hm => ?_, fun hu => ?_⟩
    · obtain ⟨m, hm, he'⟩ := List.mem_map.1 hm
      exact hr m hm (Event.read.inj he')
    · rw [List.map_eq_nil_iff.1 hu] at he
      simp only [List.flatten_nil, latin1_nil, List.append_nil] at he
      subst he
      simp only [List.count_append, List.count_cons_self]
      omega
  | timeout reads hr hn =>
    refine ⟨fun hm => ?_, fun hu => by simp at hu⟩
    rcases List.mem_append.1 hm with hm | hm
    · obtain ⟨m, hm, he'⟩ := List.mem_map.1 hm
      exact hr m hm (Event.read.inj he')
    · simp at hm

/-- A call returns exactly when its buffer or the reads it waits for hold a newline, or it
meets a timeout or the end of file. -/
theorem call_eq_none_iff (buf : List Char) (evs : List Event) :
    call buf evs = none ↔ '\n' ∉ buf ++ latin1 (delivered evs) ∧ ∀ e ∈ evs, e.stops = false := by
  induction buf, evs using call.induct with
  | case1 buf x evs hx =>
    obtain ⟨body, rest, -, rfl, -⟩ := indexOf?_newline hx
    simp [call, hx]
  | case2 buf hx => simp [call, hx, delivered, not_mem_of_indexOf?_none hx]
  | case3 buf evs hx => simp [call, hx, Event.stops]
  | case4 buf more evs hx hm ih =>
    rw [show call buf (.read more :: evs) = call (buf ++ latin1 more) evs by
      simp only [call, hx, if_pos hm], ih]
    simp [delivered, Event.stops, hm]
  | case5 buf more evs hx hm =>
    rw [not_not.1 hm]
    simp [call, hx, Event.stops]

/-! ### Successive calls -/

theorem calls_succ {n : Nat} {buf buf' : List Char} {evs rest : List Event}
    {rs : List (Option String)} (h : calls (n + 1) buf evs = some (rs, buf', rest)) :
    ∃ r b₁ e₁ rs', call buf evs = some (r, b₁, e₁) ∧ calls n b₁ e₁ = some (rs', buf', rest) ∧
      rs = r :: rs' := by
  rw [calls] at h
  split at h
  · cases h
  · next r b₁ e₁ hc =>
    split at h
    · cases h
    · next rs' _ _ hn => cases h; exact ⟨r, b₁, e₁, rs', hc, hn, rfl⟩

theorem calls_nil {n : Nat} {buf buf' : List Char} {evs rest : List Event}
    (h : calls n buf evs = some ([], buf', rest)) : buf' = buf := by
  cases n with
  | zero => simp only [calls, Option.some.injEq, Prod.mk.injEq] at h; exact h.2.1.symm
  | succ n => obtain ⟨_, _, _, _, -, -, h⟩ := calls_succ h; cases h

theorem calls_lines {n : Nat} {buf buf' : List Char} {evs rest : List Event}
    {rs : List (Option String)} (h : calls n buf evs = some (rs, buf', rest)) :
    ∃ used, evs = used ++ rest ∧
      (∀ cs, (linesFrom [] (buf ++ latin1 (delivered used) ++ cs)).1 =
        logged rs ++ (linesFrom [] (buf' ++ cs)).1) ∧
      (rs.getLast? = some none → '\n' ∉ buf') := by
  induction n generalizing buf evs rs with
  | zero =>
    simp only [calls, Option.some.injEq, Prod.mk.injEq] at h
    obtain ⟨rfl, rfl, rfl⟩ := h
    exact ⟨[], rfl, fun cs => by simp [logged, delivered], by simp⟩
  | succ n ih =>
    obtain ⟨r, b₁, e₁, rs', hc, hn, rfl⟩ := calls_succ h
    obtain ⟨u₁, rfl, hr⟩ := call_returns hc
    obtain ⟨u₂, rfl, hlines, hlast⟩ := ih hn
    refine ⟨u₁ ++ u₂, by simp, fun cs => ?_, fun hl => ?_⟩
    · calc (linesFrom [] (buf ++ latin1 (delivered (u₁ ++ u₂)) ++ cs)).1
          = (linesFrom [] (buf ++ latin1 (delivered u₁) ++ (latin1 (delivered u₂) ++ cs))).1 := by
            simp
        _ = logged [r] ++ (linesFrom [] (b₁ ++ (latin1 (delivered u₂) ++ cs))).1 := hr.lines _
        _ = logged (r :: rs') ++ (linesFrom [] (buf' ++ cs)).1 := by
            rw [← List.append_assoc b₁, hlines, logged_cons r rs', List.append_assoc]
    · cases rs' with
      | nil =>
        obtain rfl : r = none := by simpa using hl
        exact calls_nil hn ▸ hr.none.2
      | cons r' rs' => exact hlast (by simpa using hl)

/-- Calls from any buffer, over waits that hold an end of file, come to one that returns
`None`: each call waits for a read, or takes a line off the buffer. -/
theorem calls_reach_eof (evs : List Event) (heof : .read [] ∈ evs) (buf : List Char) :
    ∃ n rs buf' rest, calls (n + 1) buf evs = some (rs, buf', rest) ∧ rs.getLast? = some none := by
  obtain ⟨k, hk⟩ : ∃ k, evs.length = k := ⟨_, rfl⟩
  induction k using Nat.strong_induction_on generalizing evs buf with
  | _ k ihk =>
  obtain ⟨c, hc⟩ : ∃ c, buf.count '\n' = c := ⟨_, rfl⟩
  induction c using Nat.strong_induction_on generalizing buf with
  | _ c ihc =>
  have hne : call buf evs ≠ none := fun h =>
    absurd ((call_eq_none_iff buf evs).1 h |>.2 _ heof) (by decide)
  obtain ⟨⟨r, b₁, e₁⟩, hcall⟩ := Option.ne_none_iff_exists'.1 hne
  obtain ⟨used, rfl, hr⟩ := call_returns hcall
  have hnext : ∀ n rs buf' rest, calls (n + 1) b₁ e₁ = some (rs, buf', rest) →
      rs.getLast? = some none → ∃ n rs buf' rest, calls (n + 1) buf (used ++ e₁) = some (rs, buf', rest) ∧
        rs.getLast? = some none := fun n rs buf' rest h hl =>
    ⟨n + 1, r :: rs, buf', rest, by rw [calls, hcall]; simp only [h], by simp [List.getLast?_cons, hl]⟩
  cases r with
  | none => exact ⟨0, [none], b₁, e₁, by simp [calls, hcall], rfl⟩
  | some s =>
    have he₁ : .read [] ∈ e₁ := (List.mem_append.1 heof).resolve_left hr.progress.1
    by_cases hu : used = []
    · subst hu
      obtain ⟨n, rs, buf', rest, h, hl⟩ :=
        ihc _ (hc ▸ hr.progress.2 rfl) b₁ rfl
      exact hnext n rs buf' rest (by simpa using h) hl
    · obtain ⟨n, rs, buf', rest, h, hl⟩ :=
        ihk e₁.length (by rw [← hk, List.length_append]; have := List.length_pos.2 hu; omega) e₁ he₁ b₁ rfl
      exact hnext n rs buf' rest h hl

/-- A line reader fed any stream in reads of any sizes, with any timeouts between them: one
call returns the first line it has, `""` only after a timeout with no line buffered, and
`None` only at end of file with no line buffered; and over successive calls from an empty
buffer, the non-empty values returned and the lines still buffered are the lines of the
latin-1 text read, in order, so all of them once a call has returned `None`. A call returns
once its waits hold a line, a timeout or the end of file; and calls over a stream that ends
come to the `None` after which every line read has been returned. -/
theorem timed_readline_lines :
    (∀ buf evs r buf' evs', call buf evs = some (r, buf', evs') →
      ∃ used, evs = used ++ evs' ∧ Returns buf r buf' used ∧
        (r = some "" → used.getLast? = some .timeout ∧ '\n' ∉ buf') ∧
        (r = none → used.getLast? = some (.read []) ∧ '\n' ∉ buf')) ∧
    (∀ n evs rs buf rest, calls n [] evs = some (rs, buf, rest) →
      ∃ used, evs = used ++ rest ∧
        (linesFrom [] (latin1 (delivered used))).1 = logged rs ++ (linesFrom [] buf).1 ∧
        (rs.getLast? = some none → (linesFrom [] (latin1 (delivered used))).1 = logged rs)) ∧
    (∀ buf evs, call buf evs = none ↔
      '\n' ∉ buf ++ latin1 (delivered evs) ∧ ∀ e ∈ evs, e.stops = false) ∧
    ∀ evs, .read [] ∈ evs → ∃ n rs buf used rest, calls n [] evs = some (rs, buf, rest) ∧
      evs = used ++ rest ∧ rs.getLast? = some none ∧
      logged rs = (linesFrom [] (latin1 (delivered used))).1 := by
  refine ⟨fun buf evs r buf' evs' h => ?_, ⟨fun n evs rs buf rest h => ?_, call_eq_none_iff,
    fun evs heof => ?_⟩⟩
  · obtain ⟨used, rfl, hr⟩ := call_returns h
    exact ⟨used, rfl, hr, by rintro rfl; exact hr.empty, by rintro rfl; exact hr.none⟩
  · obtain ⟨used, rfl, hlines, hlast⟩ := calls_lines h
    have hall := hlines []
    simp only [List.nil_append, List.append_nil] at hall
    exact ⟨used, rfl, hall, fun hl => by simp [hall, Supervisor.linesFrom_of_not_mem (hlast hl)]⟩
  · obtain ⟨n, rs, buf, rest, h, hl⟩ := calls_reach_eof evs heof []
    obtain ⟨used, rfl, hlines, hlast⟩ := calls_lines h
    have hall := hlines []
    simp only [List.nil_append, List.append_nil] at hall
    exact ⟨n + 1, rs, buf, used, rest, h, rfl, hl,
      by simp [hall, Supervisor.linesFrom_of_not_mem (hlast hl)]⟩

/-- `ab`, a timeout, `c\nd` and the end of file: `""`, the line, then `None`, with `d` left. -/
example : calls 3 [] [.read [97, 98], .timeout, .read [99, 10, 100], .read []] =
    some ([some "", some "abc\n", none], ['d'], []) := by
  decide

end TimedReadline

end Harness

end Silk
