import Mathlib
import ExtensionAudit.Proofs.Lifecycle.Widgets
import ExtensionAudit.Waiting

/-!
# Calls inside a function that can be cancelled

A call needs nothing to cancel by if it stands in a function that takes such a thing as a
parameter.  The walk keeps one function of this kind in mind, with the blocks that are open before
it, and a later one takes its place (`covered_run_iff`).  So a call is let pass iff the *last* such
function up to its line is still open there.

If an outer function covers a line, an inner one that has ended before the line hides it, and the
call is reported (`looseCalls_covered`).
-/

namespace ExtensionAudit.Waiting

open Lifecycle (scripted)
open Source (balance surplus balance_cons balance_take_succ)

/-- The line calls an operation and names nothing to cancel it by. -/
def calls (line : Text) : Bool :=
  Text.occursIn "_async(".toList line && !Text.occursIn "cancellable".toList (Text.lower line)

/-! ## One line -/

namespace CallScan

variable {s : CallScan} {line : Text} {lines : List Text}

theorem depth_step (s : CallScan) (line : Text) :
    (s.step line).1.depth = s.depth + surplus line := rfl

theorem covered_step (s : CallScan) (line : Text) :
    (s.step line).1.covered? =
      (if takesCancellable line then some s.depth else s.covered?).filter fun start =>
        s.depth + surplus line > start := rfl

theorem loose_step (s : CallScan) (line : Text) :
    (s.step line).2 = (calls line && (s.step line).1.covered?.isNone) := rfl

/-! ## All lines -/

/-- Where the walk stands after some lines. -/
def run (s : CallScan) (lines : List Text) : CallScan :=
  lines.foldl (fun s line => (s.step line).1) s

theorem run_take_succ (s : CallScan) {k : Nat} (h : lines[k]? = some line) :
    s.run (lines.take (k + 1)) = ((s.run (lines.take k)).step line).1 := by
  rw [List.take_add_one, h, run, run, List.foldl_append]
  rfl

theorem depth_run (s : CallScan) (lines : List Text) :
    (s.run lines).depth = s.depth + balance lines := by
  induction lines generalizing s with
  | nil => simp [run]
  | cons line lines ih =>
      have hstep : s.run (line :: lines) = (s.step line).1.run lines := rfl
      rw [hstep, ih, depth_step, balance_cons, Int.add_assoc]

end CallScan

open CallScan

theorem looseCallsFrom_cons {line : Text} (h : Source.isCommentLine line = false) (n : Nat)
    (s : CallScan) (lines : List Text) :
    looseCallsFrom n s (line :: lines) =
      (if (s.step line).2 then [n] else []) ++ looseCallsFrom (n + 1) (s.step line).1 lines := by
  rw [looseCallsFrom, if_neg (by simp [h])]
  obtain ⟨s', loose⟩ := s.step line
  cases loose <;> rfl

/-- Without comments, a line is put down by the step that the walk takes there. -/
theorem mem_looseCallsFrom {lines : List Text}
    (h : ∀ line ∈ lines, Source.isCommentLine line = false) {n m : Nat} {s : CallScan} :
    m ∈ looseCallsFrom n s lines ↔ ∃ k line, lines[k]? = some line ∧ m = n + k ∧
      ((s.run (lines.take k)).step line).2 = true := by
  induction lines generalizing n s with
  | nil => simp [looseCallsFrom]
  | cons line lines ih =>
      obtain ⟨hline, hlines⟩ := List.forall_mem_cons.mp h
      rw [looseCallsFrom_cons hline, List.mem_append, ih hlines]
      constructor
      · rintro (hmem | ⟨k, line', hk, rfl, hloose⟩)
        · split at hmem
          next hloose => exact ⟨0, line, rfl, List.mem_singleton.mp hmem, hloose⟩
          next => cases hmem
        · exact ⟨k + 1, line', hk, by omega, hloose⟩
      · rintro ⟨_ | k, line', hk, rfl, hloose⟩
        · cases hk
          have hloose : (s.step line).2 = true := hloose
          exact .inl (by simp [hloose])
        · exact .inr ⟨k, line', hk, by omega, hloose⟩

/-! ## Functions that are open -/

/-- Line `i` starts a function that takes something to cancel by. -/
def Heads (lines : List Text) (i : Nat) : Prop := lines[i]?.any takesCancellable = true

instance (lines : List Text) (i : Nat) : Decidable (Heads lines i) :=
  inferInstanceAs (Decidable (_ = _))

/-- Line `i` starts such a function, and from there on more blocks are open at the end of each of
the first `k` lines than before it. -/
@[mk_iff]
structure Covers (lines : List Text) (i k : Nat) : Prop where
  /-- It is one of these lines. -/
  lt : i < k
  /-- It starts a function. -/
  head : Heads lines i
  /-- The function stays open. -/
  stays : ∀ m < k, i ≤ m → balance (lines.take i) < balance (lines.take (m + 1))

instance (lines : List Text) (i k : Nat) : Decidable (Covers lines i k) :=
  decidable_of_iff _ (covers_iff lines i k).symm

/-- Line `i` is the last of the first `k` lines that starts such a function. -/
@[mk_iff]
structure LastHead (lines : List Text) (i k : Nat) : Prop where
  /-- It is one of these lines. -/
  lt : i < k
  /-- It starts a function. -/
  head : Heads lines i
  /-- No later line does. -/
  last : ∀ m < k, i < m → ¬ Heads lines m

instance (lines : List Text) (i k : Nat) : Decidable (LastHead lines i k) :=
  decidable_of_iff _ (lastHead_iff lines i k).symm

variable {lines : List Text} {line : Text} {i j k : Nat}

theorem heads_iff (h : lines[k]? = some line) : Heads lines k ↔ takesCancellable line = true := by
  rw [Heads, h, Option.any_some]

theorem LastHead.eq (hi : LastHead lines i k) (hj : LastHead lines j k) : i = j := by
  rcases Nat.lt_trichotomy i j with hlt | heq | hlt
  · exact absurd hj.head (hi.last j hj.lt hlt)
  · exact heq
  · exact absurd hi.head (hj.last i hi.lt hlt)

/-- From a line that starts a function on, there is a last one. -/
theorem exists_lastHead (h : Heads lines i) (hi : i < k) : ∃ j, i ≤ j ∧ LastHead lines j k := by
  induction k, hi using Nat.le_induction with
  | base =>
      refine ⟨i, le_rfl, i.lt_succ_self, h, fun m hm him => ?_⟩
      omega
  | succ k hik ih =>
      by_cases hk : Heads lines k
      · refine ⟨k, (Nat.lt_of_succ_le hik).le, k.lt_succ_self, hk, fun m hm hkm => ?_⟩
        omega
      · obtain ⟨j, hij, hj⟩ := ih
        refine ⟨j, hij, hj.lt.trans k.lt_succ_self, hj.head, fun m hm hjm => ?_⟩
        rcases Nat.lt_succ_iff_lt_or_eq.mp hm with hm | rfl
        · exact hj.last m hm hjm
        · exact hk

/-- The last function is on the next line or was the last one before. -/
theorem lastHead_succ_iff : LastHead lines i (k + 1) ↔
    (i = k ∧ Heads lines k) ∨ (LastHead lines i k ∧ ¬ Heads lines k) := by
  constructor
  · intro h
    rcases Nat.lt_succ_iff_lt_or_eq.mp h.lt with hi | rfl
    · exact .inr ⟨⟨hi, h.head, fun m hm => h.last m (hm.trans k.lt_succ_self)⟩,
        h.last k k.lt_succ_self hi⟩
    · exact .inl ⟨rfl, h.head⟩
  · rintro (⟨rfl, hk⟩ | ⟨h, hk⟩)
    · exact ⟨i.lt_succ_self, hk, fun m hm him => absurd hm (by omega)⟩
    · refine ⟨h.lt.trans k.lt_succ_self, h.head, fun m hm him => ?_⟩
      rcases Nat.lt_succ_iff_lt_or_eq.mp hm with hm | rfl
      · exact h.last m hm him
      · exact hk

/-- A function covers the next line if it is still open at its end. -/
theorem covers_succ_iff : Covers lines i (k + 1) ↔
    ((i = k ∧ Heads lines k) ∨ Covers lines i k) ∧
      balance (lines.take i) < balance (lines.take (k + 1)) := by
  constructor
  · intro h
    have hopen := h.stays k k.lt_succ_self (Nat.lt_succ_iff.mp h.lt)
    rcases Nat.lt_succ_iff_lt_or_eq.mp h.lt with hi | rfl
    · exact ⟨.inr ⟨hi, h.head, fun m hm => h.stays m (hm.trans k.lt_succ_self)⟩, hopen⟩
    · exact ⟨.inl ⟨rfl, h.head⟩, hopen⟩
  · rintro ⟨⟨rfl, hk⟩ | h, hopen⟩
    · refine ⟨i.lt_succ_self, hk, fun m hm him => ?_⟩
      obtain rfl : m = i := by omega
      exact hopen
    · refine ⟨h.lt.trans k.lt_succ_self, h.head, fun m hm him => ?_⟩
      rcases Nat.lt_succ_iff_lt_or_eq.mp hm with hm | rfl
      · exact h.stays m hm him
      · exact hopen

/-- The walk has the last function in mind, as long as it is open. -/
theorem covered_run_iff (hk : k ≤ lines.length) (d : Int) :
    (run {} (lines.take k)).covered? = some d ↔
      ∃ i, LastHead lines i k ∧ Covers lines i k ∧ d = balance (lines.take i) := by
  induction k generalizing d with
  | zero =>
      refine iff_of_false (Option.some_ne_none d).symm ?_
      rintro ⟨i, hi, -⟩
      exact absurd hi.lt i.not_lt_zero
  | succ k ih =>
      obtain ⟨line, hline⟩ : ∃ line, lines[k]? = some line := ⟨_, List.getElem?_eq_getElem hk⟩
      have hdepth : (run {} (lines.take k)).depth = balance (lines.take k) := by
        simp [depth_run]
      rw [run_take_succ _ hline, covered_step, hdepth, ← balance_take_succ hline,
        Option.filter_eq_some_iff]
      simp only [lastHead_succ_iff, covers_succ_iff]
      by_cases hhead : takesCancellable line = true
      · have hk := (heads_iff hline).mpr hhead
        rw [if_pos hhead]
        constructor
        · rintro ⟨heq, hopen⟩
          cases heq
          exact ⟨k, .inl ⟨rfl, hk⟩, ⟨.inl ⟨rfl, hk⟩, by simpa using hopen⟩, rfl⟩
        · rintro ⟨i, ⟨rfl, -⟩ | ⟨-, hnot⟩, ⟨-, hopen⟩, rfl⟩
          · exact ⟨rfl, by simpa using hopen⟩
          · exact absurd hk hnot
      · have hnot : ¬ Heads lines k := mt (heads_iff hline).mp hhead
        rw [if_neg hhead, ih (Nat.le_of_succ_le hk)]
        constructor
        · rintro ⟨⟨i, hlast, hcovers, rfl⟩, hopen⟩
          exact ⟨i, .inr ⟨hlast, hnot⟩, ⟨.inr hcovers, by simpa using hopen⟩, rfl⟩
        · rintro ⟨i, ⟨-, hk⟩ | ⟨hlast, -⟩, ⟨⟨-, hk⟩ | hcovers, hopen⟩, rfl⟩
          · exact absurd hk hnot
          · exact absurd hk hnot
          · exact absurd hk hnot
          · exact ⟨⟨i, hlast, hcovers, rfl⟩, by simpa using hopen⟩

/-- A call is loose iff the last function before it does not cover it. -/
theorem loose_run_iff (hline : lines[k]? = some line) :
    ((run {} (lines.take k)).step line).2 = true ↔
      calls line = true ∧ ¬ ∃ i, LastHead lines i (k + 1) ∧ Covers lines i (k + 1) := by
  have hlength : k + 1 ≤ lines.length := (List.getElem?_eq_some_iff.mp hline).1
  have hcovered := covered_run_iff hlength
  rw [run_take_succ _ hline] at hcovered
  rw [loose_step, Bool.and_eq_true, Option.isNone_iff_eq_none, Option.eq_none_iff_forall_ne_some]
  refine and_congr_right fun _ => ?_
  constructor
  · rintro hnone ⟨i, hlast, hcovers⟩
    exact hnone _ ((hcovered _).mpr ⟨i, hlast, hcovers, rfl⟩)
  · intro hnone d hd
    obtain ⟨i, hlast, hcovers, -⟩ := (hcovered d).mp hd
    exact hnone ⟨i, hlast, hcovers⟩

/-- A line that a function covers lies outside of the last function iff a later one has ended. -/
theorem Covers.not_exists_iff (h : Covers lines i k) :
    (¬ ∃ i, LastHead lines i k ∧ Covers lines i k) ↔
      ∃ j, i < j ∧ LastHead lines j k ∧ ¬ Covers lines j k := by
  obtain ⟨j, hij, hj⟩ := exists_lastHead h.head h.lt
  constructor
  · intro hnone
    have hclosed : ¬ Covers lines j k := fun hcovers => hnone ⟨j, hj, hcovers⟩
    refine ⟨j, lt_of_le_of_ne hij ?_, hj, hclosed⟩
    rintro rfl
    exact hclosed h
  · rintro ⟨j, -, hj, hclosed⟩ ⟨m, hm, hcovers⟩
    exact hclosed (hj.eq hm ▸ hcovers)

/-! ## The report -/

/-- The places of the calls in texts that nothing can cancel. -/
def loosePlaces (texts : List (Path × Text)) : List String :=
  texts.flatMap fun x => (looseCalls x.2).map x.1.atLine

/-- The number of places that a report leaves out, as text. -/
def omitted (places : List String) : String :=
  if places.length > 3 then s!" (+{places.length - 3} more)" else ""

/-- The check warns of the first three loose calls. -/
theorem ends_checkCallCancellable {ext : Extension} {texts : List (Path × Text)}
    (h : ext.texts ext.runtimeScripts = .ok texts) :
    Trace.Ends (checkCallCancellable ext)
      [if loosePlaces texts = [] then
        ⟨.pass, "async/missing-cancellable", "All _async() calls have cancellable argument"⟩
      else
        ⟨.warn, "async/missing-cancellable",
          "_async() calls without Gio.Cancellable at " ++
            ", ".intercalate ((loosePlaces texts).take 3) ++
            s!"{omitted (loosePlaces texts)} — async operations may run after disable()"⟩] () := by
  refine Trace.ends_lift_bind h ?_
  rw [apply_ite (fun f => [f])]
  exact Trace.ends_isEmpty (Trace.ends_write.mpr rfl) (Trace.ends_write.mpr rfl)

/-- A call that names nothing to cancel by is reported iff the last function up to its line that
takes such a thing is not open there.  So if a function covers the line, the call is reported iff a
later function of this kind has started since and has ended again. -/
theorem looseCalls_covered (ext : Extension) (texts : List (Path × Text))
    (htexts : ext.texts ext.runtimeScripts = .ok texts) :
    Trace.Ends (checkCallCancellable ext)
      [if loosePlaces texts = [] then
        ⟨.pass, "async/missing-cancellable", "All _async() calls have cancellable argument"⟩
      else
        ⟨.warn, "async/missing-cancellable",
          "_async() calls without Gio.Cancellable at " ++
            ", ".intercalate ((loosePlaces texts).take 3) ++
            s!"{omitted (loosePlaces texts)} — async operations may run after disable()"⟩] () ∧
    ∀ t, Text.occursIn "_destroyed".toList t = false →
      (∀ line ∈ Text.linesWithEnds t, Source.isCommentLine line = false) →
      ∀ j line, (Text.linesWithEnds t)[j]? = some line →
        (j + 1 ∈ looseCalls t ↔ calls line = true ∧ ¬ ∃ i,
          LastHead (Text.linesWithEnds t) i (j + 1) ∧ Covers (Text.linesWithEnds t) i (j + 1)) ∧
        ∀ i, Covers (Text.linesWithEnds t) i (j + 1) →
          (j + 1 ∈ looseCalls t ↔ calls line = true ∧ ∃ h, i < h ∧
            LastHead (Text.linesWithEnds t) h (j + 1) ∧
              ¬ Covers (Text.linesWithEnds t) h (j + 1)) := by
  refine ⟨ends_checkCallCancellable htexts, fun t hdestroyed hcomments j line hj => ?_⟩
  have hloose : j + 1 ∈ looseCalls t ↔ calls line = true ∧ ¬ ∃ i,
      LastHead (Text.linesWithEnds t) i (j + 1) ∧ Covers (Text.linesWithEnds t) i (j + 1) := by
    rw [looseCalls, hdestroyed, if_neg Bool.false_ne_true, mem_looseCallsFrom hcomments,
      ← loose_run_iff hj]
    constructor
    · rintro ⟨k, line', hk, hnumber, hstep⟩
      obtain rfl : j = k := by omega
      cases hj.symm.trans hk
      exact hstep
    · intro hstep
      exact ⟨j, line, hj, Nat.add_comm j 1, hstep⟩
  refine ⟨hloose, fun i hi => ?_⟩
  rw [hloose, hi.not_exists_iff]

/-- A call in a function that can be cancelled, inside of a callback. -/
def callbackScript : Text :=
  "async load(cancellable) \x7b\nrun(() => \x7b\nfile.read_async(null);\n\x7d);\n\x7d".toList

/-- The callback does not hide the function around it. -/
theorem looseCalls_covered_callback : 3 ∉ looseCalls callbackScript := by
  have hscript : (scripted callbackScript).texts (scripted callbackScript).runtimeScripts =
        .ok [(["extension.js"], callbackScript)] ∧
      Text.occursIn "_destroyed".toList callbackScript = false ∧
      (∀ line ∈ Text.linesWithEnds callbackScript, Source.isCommentLine line = false) ∧
      (Text.linesWithEnds callbackScript)[2]? = some "file.read_async(null);\n".toList ∧
      LastHead (Text.linesWithEnds callbackScript) 0 3 ∧
      Covers (Text.linesWithEnds callbackScript) 0 3 := by
    decide +kernel
  obtain ⟨htexts, hdestroyed, hcomments, hline, hlast, hcovers⟩ := hscript
  obtain ⟨-, hcalls⟩ := looseCalls_covered _ _ htexts
  obtain ⟨hiff, -⟩ := hcalls callbackScript hdestroyed hcomments 2 _ hline
  exact fun hmem => (hiff.mp hmem).2 ⟨0, hlast, hcovers⟩

/-- A function that can be cancelled, with another one in it. -/
def nestedScript : Text :=
  ("async load(cancellable) \x7b\nfunction part(cancel) \x7b\n\x7d\n" ++
    "file.read_async(null);\n\x7d").toList

/-- The inner function has ended, and the call is reported though the outer one is open. -/
theorem looseCalls_nestedScript :
    Text.occursIn "_destroyed".toList nestedScript = false ∧
      (∀ line ∈ Text.linesWithEnds nestedScript, Source.isCommentLine line = false) ∧
      Covers (Text.linesWithEnds nestedScript) 0 4 ∧ looseCalls nestedScript = [4] := by
  decide +kernel

end ExtensionAudit.Waiting
