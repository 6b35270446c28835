import Silk.Harness.Supervisor
import Mathlib.Data.List.Infix
/-! A concrete `re` for the supervisor: Python's pattern syntax without character classes,
anchors, counted or lazy repeats, extensions and backslash classes, parsed into regular
expressions, with `re.search` as "some substring is in the language". The matcher runs on
Brzozowski derivatives and is proved to compute the language (`accepts_iff`,
`searchRx_iff`). Patterns outside the covered syntax are refused. -/
namespace Silk
namespace Harness
namespace Regex

/-- Regular expressions; `any` is `.`, which matches every character but a newline. -/
inductive Rx
  | empty
  | eps
  | chr (c : Char)
  | any
  | seq (r s : Rx)
  | alt (r s : Rx)
  | star (r : Rx)
  deriving DecidableEq, Repr

/-- The language of a regular expression. -/
inductive Matches : Rx → List Char → Prop
  | eps : Matches .eps []
  | chr (c : Char) : Matches (.chr c) [c]
  | any {c : Char} (h : c ≠ '\n') : Matches .any [c]
  | seq {r s : Rx} {u v : List Char} : Matches r u → Matches s v → Matches (.seq r s) (u ++ v)
  | altL {r s : Rx} {u : List Char} : Matches r u → Matches (.alt r s) u
  | altR {r s : Rx} {u : List Char} : Matches s u → Matches (.alt r s) u
  | starNil {r : Rx} : Matches (.star r) []
  | starCons {r : Rx} {u v : List Char} : Matches r u → Matches (.star r) v → Matches (.star r) (u ++ v)

namespace Matches

@[simp] theorem empty_iff (w : List Char) : Matches .empty w ↔ False :=
  ⟨fun h => (by cases h), False.elim⟩

@[simp] theorem eps_iff (w : List Char) : Matches .eps w ↔ w = [] :=
  ⟨fun h => by cases h; rfl, fun h => h ▸ .eps⟩

@[simp] theorem chr_iff (c : Char) (w : List Char) : Matches (.chr c) w ↔ w = [c] :=
  ⟨fun h => by cases h; rfl, fun h => h ▸ .chr c⟩

@[simp] theorem any_iff (w : List Char) : Matches .any w ↔ ∃ c, c ≠ '\n' ∧ w = [c] :=
  ⟨fun h => by cases h; exact ⟨_, ‹_›, rfl⟩, fun ⟨_, hc, h⟩ => h ▸ .any hc⟩

@[simp] theorem seq_iff (r s : Rx) (w : List Char) :
    Matches (.seq r s) w ↔ ∃ u v, w = u ++ v ∧ Matches r u ∧ Matches s v :=
  ⟨fun h => by cases h; exact ⟨_, _, rfl, ‹_›, ‹_›⟩, fun ⟨_, _, h, hr, hs⟩ => h ▸ .seq hr hs⟩

@[simp] theorem alt_iff (r s : Rx) (w : List Char) :
    Matches (.alt r s) w ↔ Matches r w ∨ Matches s w :=
  ⟨fun h => by cases h <;> simp [*], fun h => h.elim .altL .altR⟩

/-- A non-empty word in a star starts with a non-empty word of its body. -/
theorem star_cons {r : Rx} {c : Char} {w : List Char} (h : Matches (.star r) (c :: w)) :
    ∃ u v, w = u ++ v ∧ Matches r (c :: u) ∧ Matches (.star r) v := by
  generalize hr : Rx.star r = x at h
  generalize hw : c :: w = y at h
  induction h generalizing w with
  | starCons hu hv _ ihv =>
    cases hr
    rcases List.cons_eq_append_iff.1 hw with ⟨rfl, rfl⟩ | ⟨u', rfl, rfl⟩
    · exact ihv rfl rfl
    · exact ⟨u', _, rfl, hu, hv⟩
  | starNil => cases hw
  | _ => cases hr

end Matches

def nullable : Rx → Bool
  | .empty | .chr _ | .any => false
  | .eps | .star _ => true
  | .seq r s => nullable r && nullable s
  | .alt r s => nullable r || nullable s

/-- The derivative: what is left of `r` to match after the character `c`. -/
def deriv (c : Char) : Rx → Rx
  | .empty | .eps => .empty
  | .chr d => if c = d then .eps else .empty
  | .any => if c = '\n' then .empty else .eps
  | .seq r s => if nullable r then .alt (.seq (deriv c r) s) (deriv c s) else .seq (deriv c r) s
  | .alt r s => .alt (deriv c r) (deriv c s)
  | .star r => .seq (deriv c r) (.star r)

theorem nullable_iff (r : Rx) : nullable r = true ↔ Matches r [] := by
  induction r with
  | seq r s ihr ihs => simp [nullable, ihr, ihs, and_assoc]
  | alt r s ihr ihs => simp [nullable, ihr, ihs]
  | star r => exact ⟨fun _ => .starNil, fun _ => rfl⟩
  | _ => simp [nullable]

theorem deriv_iff (c : Char) (r : Rx) (w : List Char) : Matches (deriv c r) w ↔ Matches r (c :: w) := by
  induction r generalizing w with
  | empty => simp [deriv]
  | eps => simp [deriv]
  | chr d => by_cases h : c = d <;> simp [deriv, h, eq_comm]
  | any =>
    simp only [deriv, Matches.any_iff, List.cons.injEq]
    split
    · next h =>
      simp only [Matches.empty_iff, false_iff]
      rintro ⟨x, hx, rfl, -⟩
      exact hx h
    · next h =>
      simp only [Matches.eps_iff]
      exact ⟨fun hw => ⟨c, h, rfl, hw⟩, fun ⟨_, _, _, hw⟩ => hw⟩
  | seq r s ihr ihs =>
    have split : Matches (.seq r s) (c :: w) ↔ (Matches r [] ∧ Matches s (c :: w)) ∨
        ∃ u v, w = u ++ v ∧ Matches r (c :: u) ∧ Matches s v := by
      simp only [Matches.seq_iff, List.cons_eq_append_iff]
      constructor
      · rintro ⟨u, v, ⟨rfl, rfl⟩ | ⟨u', rfl, rfl⟩, hr, hs⟩
        exacts [.inl ⟨hr, hs⟩, .inr ⟨u', v, rfl, hr, hs⟩]
      · rintro (⟨hr, hs⟩ | ⟨u, v, rfl, hr, hs⟩)
        exacts [⟨[], c :: w, .inl ⟨rfl, rfl⟩, hr, hs⟩, ⟨c :: u, v, .inr ⟨u, rfl, rfl⟩, hr, hs⟩]
    rw [split, deriv]
    cases hn : nullable r
    · have : ¬ Matches r [] := by rw [← nullable_iff, hn]; simp
      simp [ihr, this]
    · simp [ihr, ihs, (nullable_iff r).1 hn, or_comm]
  | alt r s ihr ihs => simp [deriv, ihr, ihs]
  | star r ihr =>
    simp only [deriv, Matches.seq_iff, ihr]
    constructor
    · rintro ⟨u, v, rfl, hu, hv⟩
      exact .starCons hu hv
    · exact Matches.star_cons

/-- Whether `r` matches `w`, by derivatives. -/
def accepts (r : Rx) : List Char → Bool
  | [] => nullable r
  | c :: cs => accepts (deriv c r) cs

theorem accepts_iff (r : Rx) (w : List Char) : accepts r w = true ↔ Matches r w := by
  induction w generalizing r with
  | nil => exact nullable_iff r
  | cons c cs ih => rw [accepts, ih, deriv_iff]

/-- Whether some prefix of `l` is in the language of `r`. -/
def matchPrefix (r : Rx) : List Char → Bool
  | [] => nullable r
  | c :: cs => nullable r || matchPrefix (deriv c r) cs

/-- `re.search`: whether some substring of `l` is in the language of `r`. -/
def searchRx (r : Rx) : List Char → Bool
  | [] => nullable r
  | c :: cs => matchPrefix r (c :: cs) || searchRx r cs

theorem matchPrefix_iff (r : Rx) (l : List Char) :
    matchPrefix r l = true ↔ ∃ u v, l = u ++ v ∧ Matches r u := by
  induction l generalizing r with
  | nil => simp [matchPrefix, nullable_iff]
  | cons c cs ih =>
    simp only [matchPrefix, Bool.or_eq_true, ih, nullable_iff, deriv_iff]
    constructor
    · rintro (h | ⟨u, v, rfl, h⟩)
      exacts [⟨[], _, rfl, h⟩, ⟨c :: u, v, rfl, h⟩]
    · rintro ⟨u, v, h, hm⟩
      rcases List.cons_eq_append_iff.1 h with ⟨rfl, -⟩ | ⟨u', rfl, rfl⟩
      exacts [.inl hm, .inr ⟨u', v, rfl, hm⟩]

theorem searchRx_iff (r : Rx) (l : List Char) :
    searchRx r l = true ↔ ∃ t u v, l = t ++ u ++ v ∧ Matches r u := by
  induction l with
  | nil =>
    rw [searchRx, nullable_iff]
    constructor
    · exact fun h => ⟨[], [], [], rfl, h⟩
    · rintro ⟨t, u, v, h, hm⟩
      rw [(List.append_eq_nil.1 (List.append_eq_nil.1 h.symm).1).2] at hm
      exact hm
  | cons c cs ih =>
    simp only [searchRx, Bool.or_eq_true, ih, matchPrefix_iff]
    constructor
    · rintro (⟨u, v, h, hm⟩ | ⟨t, u, v, rfl, hm⟩)
      exacts [⟨[], u, v, h, hm⟩, ⟨c :: t, u, v, rfl, hm⟩]
    · rintro ⟨t, u, v, h, hm⟩
      cases t with
      | nil => exact .inl ⟨u, v, h, hm⟩
      | cons d t =>
        obtain ⟨rfl, rfl⟩ := List.cons.inj h
        exact .inr ⟨t, u, v, rfl, hm⟩

/-! ### The pattern syntax -/

def mkSeq : List Rx → Rx
  | [] => .eps
  | [r] => r
  | r :: rs => .seq r (mkSeq rs)

def mkAlt : List Rx → Rx
  | [] => .empty
  | [r] => r
  | r :: rs => .alt r (mkAlt rs)

/-- A group being parsed: its finished branches, the pieces of the current branch, and
whether the last piece already carries a repeat. -/
structure Frame where
  alts : List Rx
  seq : List Rx
  repeated : Bool

namespace Frame

def init : Frame := ⟨[], [], false⟩

def close (f : Frame) : Rx := mkAlt (f.alts ++ [mkSeq f.seq])

def push (r : Rx) (f : Frame) : Frame := { f with seq := f.seq ++ [r], repeated := false }

/-- `*`, `+` or `?` after the last piece; none before it ("nothing to repeat"), and a second
repeat (a lazy or possessive form, or "multiple repeat") is outside the model. -/
def repeat_ (q : Char) (f : Frame) : Option Frame :=
  match f.seq.getLast?, f.repeated with
  | some r, false =>
    let r' := if q = '*' then .star r else if q = '+' then .seq r (.star r) else .alt .eps r
    some { f with seq := f.seq.dropLast ++ [r'], repeated := true }
  | _, _ => none

end Frame

/-- `re.compile` over the covered syntax, with the groups still open. -/
def parseAux : List Frame → Frame → List Char → Option Rx
  | [], f, [] => some f.close
  | _ :: _, _, [] => none
  | st, f, '(' :: cs => parseAux (f :: st) Frame.init cs
  | [], _, ')' :: _ => none
  | g :: st, f, ')' :: cs => parseAux st (g.push f.close) cs
  | st, f, '|' :: cs => parseAux st ⟨f.alts ++ [mkSeq f.seq], [], false⟩ cs
  | st, f, '*' :: cs => (f.repeat_ '*').bind fun f => parseAux st f cs
  | st, f, '+' :: cs => (f.repeat_ '+').bind fun f => parseAux st f cs
  | st, f, '?' :: cs => (f.repeat_ '?').bind fun f => parseAux st f cs
  | st, f, '.' :: cs => parseAux st (f.push .any) cs
  | st, f, '\\' :: c :: cs => if c.isAlphanum then none else parseAux st (f.push (.chr c)) cs
  | _, _, ['\\'] => none
  | st, f, c :: cs =>
    if c = '^' ∨ c = '$' ∨ c = '[' ∨ c = '{' then none else parseAux st (f.push (.chr c)) cs

def parse (p : String) : Option Rx := parseAux [] Frame.init p.data

end Regex

namespace Supervisor
open Regex

/-- `re` on the covered syntax. -/
def Re.python : Re where
  compiles p := (parse p).isSome
  search p line := match parse p with
    | some r => searchRx r line.data
    | none => false

/-- With pid scope, the pattern `a|b` of process 7 becomes `\[7\].*a|b`, whose second branch
is a bare `b`: the line `b` fires the trigger though it carries no `[7]`. -/
theorem pid_trigger_alternation :
    triggerPattern ⟨true, 1, "a|b", 5⟩ (some ⟨7, none⟩) = .ok "\\[7\\].*a|b" ∧
      Re.python.search "\\[7\\].*a|b" "b\n" = true ∧ ¬ "[7]".data <:+: "b\n".data ∧
      ∃ s, run Re.python Sup.init
          [{ request := some (.ok ⟨"start", none⟩), env := { spawn := some 7 } },
            { log := some ⟨"b\n".data, false⟩ },
            { request := some (.ok ⟨"trigger", some ⟨true, 1, "a|b", 5⟩⟩) }] = s ∧
        s.sent = [.start, .fired 1 "b\n"] :=
  ⟨rfl, rfl, by decide, _, rfl, rfl⟩

end Supervisor

end Harness

end Silk
