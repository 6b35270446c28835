import Silk.Harness.Supervisor
import Mathlib.Data.String.Basic
/-! What `_handle_log` makes of the daemon's stderr over several reads: the lines it appends
to `logdata` and the text it leaves in `pending_line` are the newline-terminated lines and the
unterminated tail of everything read, wherever the reads cut the stream. -/
namespace Silk
namespace Harness
namespace Supervisor

/-- The newline-terminated lines of `acc ++ cs`, each with its newline, and the unterminated
tail. -/
def linesFrom (acc : List Char) : List Char → List String × List Char
  | [] => ([], acc)
  | c :: cs => if c = '\n' then
      (String.mk (acc ++ ['\n']) :: (linesFrom [] cs).1, (linesFrom [] cs).2)
    else linesFrom (acc ++ [c]) cs

/-- `pending_line` holding a tail: `None` for none. -/
def ofTail (t : List Char) : Option String := if t = [] then none else some (String.mk t)

/-- `_handle_log` called on each read in turn. -/
def handleLogs (re : Re) : List Chunk → Sup → Ret Unit
  | [], s => .ok () s
  | c :: cs, s => (handleLog re c s).andThen fun _ s => handleLogs re cs s

/-! ### The lines of a stream -/

theorem linesFrom_append (acc xs ys : List Char) :
    linesFrom acc (xs ++ ys) = ((linesFrom acc xs).1 ++ (linesFrom (linesFrom acc xs).2 ys).1,
      (linesFrom (linesFrom acc xs).2 ys).2) := by
  induction xs generalizing acc with
  | nil => rfl
  | cons c cs ih =>
    by_cases hc : c = '\n'
    · rw [List.cons_append]; simp only [linesFrom, if_pos hc, ih, List.cons_append]
    · rw [List.cons_append]; simp only [linesFrom, if_neg hc, ih]

theorem linesFrom_of_not_mem {cs : List Char} (h : '\n' ∉ cs) (acc : List Char) :
    linesFrom acc cs = ([], acc ++ cs) := by
  induction cs generalizing acc with
  | nil => simp [linesFrom]
  | cons c cs ih =>
    rw [List.mem_cons, not_or] at h
    simp [linesFrom, Ne.symm h.1, ih h.2]

/-- A stream that starts with a line gives that line first. -/
theorem linesFrom_line {body : List Char} (h : '\n' ∉ body) (cs : List Char) :
    linesFrom [] (body ++ '\n' :: cs) =
      (String.mk (body ++ ['\n']) :: (linesFrom [] cs).1, (linesFrom [] cs).2) := by
  rw [linesFrom_append, linesFrom_of_not_mem h]
  simp [linesFrom]

/-! ### `_handle_log` over one read -/

/-- What `handleLines` makes of its segments: a segment completes the pending text into a
line when it ends with a newline, and is left pending otherwise. -/
def procSegs (acc : List Char) : List (List Char) → List String × List Char
  | [] => ([], acc)
  | seg :: segs => if (acc ++ seg).getLast? = some '\n' then
      (String.mk (acc ++ seg) :: (procSegs [] segs).1, (procSegs [] segs).2)
    else ([], acc ++ seg)

/-- Cutting a read after each newline and completing line by line is splitting it into
lines. -/
theorem procSegs_segments (acc l : List Char) : procSegs acc (segments l) = linesFrom acc l := by
  induction l generalizing acc with
  | nil => rfl
  | cons c cs ih =>
    by_cases hc : c = '\n'
    · simp [segments, linesFrom, procSegs, hc, ← ih]
    · rw [segments, if_neg hc, linesFrom, if_neg hc, ← ih]
      cases segments cs with
      | nil => simp [procSegs, hc]
      | cons seg segs => simp [procSegs]

theorem segments_ne_nil (l : List Char) : ∀ seg ∈ segments l, seg ≠ [] := by
  induction l with
  | nil => simp [segments]
  | cons c cs ih =>
    rw [segments]
    split
    · simpa using ih
    · split
      · simp
      · next seg segs h =>
        rw [h] at ih
        simpa using fun s hs => ih s (List.mem_cons_of_mem _ hs)

theorem segments_join (l : List Char) : (segments l).flatten = l := by
  induction l with
  | nil => rfl
  | cons c cs ih =>
    rw [segments]
    split
    · simp [ih, *]
    · cases h : segments cs <;> simp_all

variable {re : Re}

theorem back_mk {l : List Char} (h : l ≠ []) : (String.mk l).back = '\n' ↔ l.getLast? = some '\n' := by
  rw [String.back_eq, List.getLastD_eq_getLast?, List.getLast?_eq_getLast l h]
  simp

/-- The pending trigger, if any, has its pattern compiled. -/
def Compiled (s : Sup) : Prop := ∀ t, s.trigger = some t → t.re.isSome

theorem handleLines_lines (acc : List Char) {s : Sup} (hp : s.pendingLine = ofTail acc)
    (hc : Compiled s) (segs : List (List Char)) (hne : ∀ seg ∈ segs, seg ≠ [])
    (hasc : ∀ seg ∈ segs, ∀ x ∈ seg, x.toNat < 128) (got : Bool) :
    ∃ got' s', handleLines re s segs got = .ok got' s' ∧ Compiled s' ∧
      s'.logdata = s.logdata ++ (procSegs acc segs).1 ∧ s'.pendingLine = ofTail (procSegs acc segs).2 := by
  induction segs generalizing acc s got with
  | nil => exact ⟨got, s, rfl, hc, by simp [procSegs], hp⟩
  | cons seg segs ih =>
    have hseg : acc ++ seg ≠ [] := by simp [hne seg (.head _)]
    have hdec : decodeAscii seg = .ok (String.mk seg) :=
      if_pos (List.all_eq_true.2 fun x hx => decide_eq_true (hasc seg (.head _) x hx))
    have hline : s.pendingLine.getD "" ++ String.mk seg = String.mk (acc ++ seg) := by
      rw [hp, ofTail]
      split
      · next h => subst h; rfl
      · rfl
    by_cases hb : (acc ++ seg).getLast? = some '\n'
    · obtain ⟨s₁, hs₁, hc₁, hl₁, hp₁⟩ : ∃ s₁, handleLines re s (seg :: segs) got = handleLines re s₁ segs true ∧
          Compiled s₁ ∧ s₁.logdata = s.logdata ++ [String.mk (acc ++ seg)] ∧ s₁.pendingLine = ofTail [] := by
        rw [handleLines, hdec]
        dsimp only
        rw [hline, if_neg (not_not.2 ((back_mk hseg).2 hb))]
        cases ht : s.trigger with
        | none => exact ⟨_, rfl, fun t h => by simp [ht] at h, rfl, rfl⟩
        | some t =>
          obtain ⟨p, hp⟩ := Option.isSome_iff_exists.1 (hc t ht)
          simp only [hp]
          split
          · exact ⟨_, rfl, fun t h => by simp [fire] at h, rfl, rfl⟩
          · exact ⟨_, rfl, fun t' h => hc t' (by simpa [ht] using h), rfl, rfl⟩
      obtain ⟨got', s', h1, h2, h3, h4⟩ := ih [] hp₁ hc₁ (fun s h => hne s (.tail _ h))
        (fun s h => hasc s (.tail _ h)) true
      exact ⟨got', s', hs₁.trans h1, h2, by simp [h3, hl₁, procSegs, hb], by simp [h4, procSegs, hb]⟩
    · refine ⟨got, { s with pendingLine := some (String.mk (acc ++ seg)) }, ?_, hc, ?_, ?_⟩
      · rw [handleLines, hdec]
        dsimp only
        rw [hline, if_pos (mt (back_mk hseg).1 hb)]
      · rw [procSegs, if_neg hb, List.append_nil]
      · rw [procSegs, if_neg hb, ofTail, if_neg hseg]

theorem handleLog_lines (acc : List Char) {s : Sup} (hp : s.pendingLine = ofTail acc)
    (hc : Compiled s) (c : Chunk) (hasc : ∀ x ∈ c.data, x.toNat < 128) :
    ∃ got s', handleLog re c s = .ok got s' ∧ Compiled s' ∧
      s'.logdata = s.logdata ++ (linesFrom acc c.data).1 ∧
      s'.pendingLine = ofTail (linesFrom acc c.data).2 := by
  rw [← procSegs_segments]
  exact handleLines_lines (s := { s with atEof := s.atEof || c.eof }) acc hp hc (segments c.data) (segments_ne_nil _)
    (fun seg hseg x hx => hasc x (segments_join c.data ▸ List.mem_flatten.2 ⟨seg, hseg, hx⟩)) false

theorem handleLogs_lines (acc : List Char) {s : Sup} (hp : s.pendingLine = ofTail acc)
    (hc : Compiled s) (cs : List Chunk) (hasc : ∀ c ∈ cs, ∀ x ∈ c.data, x.toNat < 128) :
    ∃ s', handleLogs re cs s = .ok () s' ∧
      s'.logdata = s.logdata ++ (linesFrom acc (cs.map Chunk.data).flatten).1 ∧
      s'.pendingLine = ofTail (linesFrom acc (cs.map Chunk.data).flatten).2 := by
  induction cs generalizing acc s with
  | nil => exact ⟨s, rfl, by simp [linesFrom], hp⟩
  | cons c cs ih =>
    obtain ⟨got, s₁, h1, hc₁, hl₁, hp₁⟩ := handleLog_lines acc hp hc c (hasc c (.head _))
    obtain ⟨s', h2, hl₂, hp₂⟩ := ih _ hp₁ hc₁ fun c' h => hasc c' (.tail _ h)
    refine ⟨s', by rw [handleLogs, h1]; exact h2, ?_, ?_⟩
    · rw [hl₂, hl₁, List.map_cons, List.flatten_cons, linesFrom_append, List.append_assoc]
    · rw [hp₂, List.map_cons, List.flatten_cons, linesFrom_append]

/-- Successive reads of ASCII text from a supervisor with no pending line and no uncompiled
trigger: `logdata` gains the newline-terminated lines of everything read, and
`pending_line` holds its unterminated tail, whatever the reads' boundaries. -/
theorem handle_log_lines (re : Re) {s : Sup} (hc : Compiled s) (hp : s.pendingLine = none)
    (cs : List Chunk) (hasc : ∀ c ∈ cs, ∀ x ∈ c.data, x.toNat < 128) :
    ∃ s', handleLogs re cs s = .ok () s' ∧
      s'.logdata = s.logdata ++ (linesFrom [] (cs.map Chunk.data).flatten).1 ∧
      s'.pendingLine = ofTail (linesFrom [] (cs.map Chunk.data).flatten).2 :=
  handleLogs_lines [] hp hc cs hasc

/-- A line cut across two reads, `ab` and `c\nd`, enters `logdata` once and whole, and `d`
waits in `pending_line`. -/
theorem handle_log_lines_split_line : Compiled Sup.init ∧ Sup.init.pendingLine = none ∧
    (∀ c ∈ [⟨"ab".data, false⟩, ⟨"c\nd".data, false⟩], ∀ x ∈ Chunk.data c, x.toNat < 128) ∧
    ∃ s', handleLogs Re.literal [⟨"ab".data, false⟩, ⟨"c\nd".data, false⟩] Sup.init = .ok () s' ∧
      s'.logdata = ["abc\n"] ∧ s'.pendingLine = some "d" := by
  have hc : Compiled Sup.init := fun t h => by simp [Sup.init] at h
  obtain ⟨s', h, hl, hp⟩ := handle_log_lines Re.literal hc rfl
    [⟨"ab".data, false⟩, ⟨"c\nd".data, false⟩] (by decide)
  exact ⟨hc, rfl, by decide, s', h, hl.trans rfl, hp.trans rfl⟩

end Supervisor

end Harness

end Silk
