import Mathlib
import ExtensionAudit.Pattern.Search

/-!
# The ways of a pattern

`Node.run` finds the first way to match by going back after a failure, with marks that are set
and taken back on the way.  `Node.ways` lists the ways themselves, the one that is tried first in
front.  Main statement: for a pattern whose groups do not nest and are numbered from left to right,
and which repeats single characters only, the match from a cursor is the first of its ways whose
end is allowed (`matchFrom_eq_ways`).

*Descriptions.*  What follows a node is described by a function of the place and the marks
(`Then.Is`), as long as no mark beyond a bound is set: then a failure keeps the marks that were
there, so what is tried next starts from the same marks.

*Leads.*  A repetition passes over places that cannot be followed by what comes next.  No way is
lost, since what comes next has no way there (`Awaits`).

*Choices.*  A branch that the next character rules out is not tried, and has no way either.  After a
branch that has failed the next one starts from the same marks (`branch_holds`).

*Optional parts.*  A part that may be missing does what its own ways and then what follows it say
(`Node.run_missing`).
-/

namespace ExtensionAudit.Pattern

/-! ## Moving a cursor -/

/-- The place a number of characters on. -/
def Cursor.forward (c : Cursor) (n : Nat) : Cursor :=
  ⟨c.place + n, (c.after.take n).reverse ++ c.before, c.after.drop n⟩

@[simp] theorem Cursor.place_forward (c : Cursor) (n : Nat) :
    (c.forward n).place = c.place + n := rfl

@[simp] theorem Cursor.after_forward (c : Cursor) (n : Nat) :
    (c.forward n).after = c.after.drop n := rfl

@[simp] theorem Cursor.forward_zero (c : Cursor) : c.forward 0 = c := rfl

theorem Cursor.forward_cons (place : Nat) (before : List Char) (x : Char) (rest : List Char)
    (n : Nat) :
    Cursor.forward ⟨place, before, x :: rest⟩ (n + 1) =
      Cursor.forward ⟨place + 1, x :: before, rest⟩ n := by
  simp [Cursor.forward, Nat.add_comm, Nat.add_left_comm]

theorem Cursor.forward_forward (c : Cursor) (m n : Nat) :
    (c.forward m).forward n = c.forward (m + n) := by
  simp only [Cursor.forward, List.take_add, List.reverse_append, List.drop_drop,
    List.append_assoc, Nat.add_assoc]

theorem Cursor.textTo_forward (c : Cursor) (n : Nat) : c.textTo (c.forward n) = c.after.take n := by
  simp [Cursor.textTo]

/-! ## Setting marks -/

/-- A mark that is put beyond the end is padded with empty ones. -/
theorem Marks.put_eq {ms : Marks} {i : Nat} (h : ms.length ≤ i) (c : Cursor) :
    ms.put i c = ms ++ List.replicate (i - ms.length) none ++ [some c] := by
  induction ms generalizing i with
  | nil =>
      induction i with
      | zero => rfl
      | succ i ih =>
          have ih := ih (Nat.zero_le i)
          simp only [List.nil_append, List.length_nil, Nat.sub_zero] at ih ⊢
          rw [Marks.put, ih, List.replicate_succ, List.cons_append]
  | cons m ms ih =>
      cases i with
      | zero => simp at h
      | succ i =>
          have h : ms.length ≤ i := Nat.le_of_succ_le_succ h
          rw [Marks.put, ih h]
          simp

theorem Marks.length_put {ms : Marks} {i : Nat} (h : ms.length ≤ i) (c : Cursor) :
    (ms.put i c).length = i + 1 := by
  rw [Marks.put_eq h]
  simp
  omega

/-- A mark beyond those that are set leaves them as they are. -/
theorem Marks.prefix_put {ms : Marks} {i : Nat} (h : ms.length ≤ i) (c : Cursor) :
    ms <+: ms.put i c := by
  rw [Marks.put_eq h, List.append_assoc]
  exact List.prefix_append ..

/-! ## Ways -/

/-- The numbers of characters after which a repetition of a test can stop, the greatest first.
`need` more are needed, and `room` bounds their number. -/
def stops (t : CharTest) : Nat → Option Nat → List Char → List Nat
  | need, _, [] => if need == 0 then [0] else []
  | need, room, x :: rest =>
      if room != some 0 && t.passes x then
        (stops t (need - 1) (room.map (· - 1)) rest).map (· + 1) ++
          if need == 0 then [0] else []
      else if need == 0 then [0] else []

/-- The ways to match a node from a place with marks: where each ends, and with which marks.  What
is outside the patterns treated here has no ways. -/
def Node.ways : Node → Cursor → Marks → List (Cursor × Marks)
  | .empty, c, ms => [(c, ms)]
  | .one t, c, ms => if c.after.head?.any t.passes then [(c.forward 1, ms)] else []
  | .seq a b, c, ms => (a.ways c ms).flatMap fun w => b.ways w.1 w.2
  | .alt a b, c, ms => a.ways c ms ++ b.ways c ms
  | .rep .greedy least most (.one t), c, ms =>
      (stops t least most c.after).map fun n => (c.forward n, ms)
  | .rep .lazy least none (.one t), c, ms =>
      (stops t least none c.after).reverse.map fun n => (c.forward n, ms)
  | .rep .greedy 0 (some 1) body, c, ms => body.ways c ms ++ [(c, ms)]
  | .group i body, c, ms =>
      (body.ways c (ms.put (openMark i) c)).map fun w => (w.1, w.2.put (closeMark i) w.1)
  | .anchor a, c, ms => if a.holds c then [(c, ms)] else []
  | _, _, _ => []

theorem Node.mem_ways_seq {a b : Node} {c : Cursor} {ms : Marks} {w : Cursor × Marks} :
    w ∈ (Node.seq a b).ways c ms ↔ ∃ u ∈ a.ways c ms, w ∈ b.ways u.1 u.2 := by
  rw [Node.ways, List.mem_flatMap]

/-- The patterns treated here: `n` sets marks from the first bound on and below the second. -/
inductive Node.Flat : Nat → Node → Nat → Prop where
  | empty {b : Nat} : Flat b .empty b
  | one {b : Nat} {t : CharTest} : Flat b (.one t) b
  | seq {b d e : Nat} {m n : Node} : Flat b m d → Flat d n e → Flat b (.seq m n) e
  | alt {b d e : Nat} {m n : Node} : Flat b m d → Flat b n e → Flat b (.alt m n) (max d e)
  | rep {b least : Nat} {most : Option Nat} {t : CharTest} :
      t.isStepwise = false → Flat b (.rep .greedy least most (.one t)) b
  | lazy {b least : Nat} {t : CharTest} : Flat b (.rep .lazy least none (.one t)) b
  | optional {b d : Nat} {n : Node} :
      (∀ t, n ≠ .one t) → Flat b n d → Flat b (.rep .greedy 0 (some 1) n) d
  | anchor {b : Nat} {a : Anchor} : Flat b (.anchor a) b
  | group {b i : Nat} {n : Node} :
      b ≤ openMark i → Flat (closeMark i) n (closeMark i) → Flat b (.group i n) (closeMark i + 1)

/-- A flat pattern only adds marks. -/
theorem Node.Flat.le {n : Node} {b d : Nat} (h : n.Flat b d) : b ≤ d := by
  induction h with
  | empty | one | rep | lazy | anchor => exact Nat.le_refl _
  | seq _ _ iha ihb => exact iha.trans ihb
  | alt _ _ iha _ => exact iha.trans (Nat.le_max_left ..)
  | optional _ _ ih => exact ih
  | @group b i n hb _ _ =>
      have hmarks : openMark i < closeMark i + 1 := by
        unfold openMark closeMark
        omega
      omega

theorem Node.Flat.spelled {b d : Nat} {n : Node} (h : n.Flat b d) (t : Text) :
    (Node.spelled t n).Flat b d := by
  induction t with
  | nil => exact h
  | cons x rest ih => exact .seq .one ih

/-- A spelled word has one way, if it stands there. -/
theorem Node.ways_spelled (t : Text) (n : Node) (c : Cursor) (ms : Marks) :
    (Node.spelled t n).ways c ms =
      if t.isPrefixOf c.after then n.ways (c.forward t.length) ms else [] := by
  induction t generalizing c with
  | nil => simp [Node.spelled]
  | cons x rest ih =>
      obtain ⟨place, before, after⟩ := c
      cases after with
      | nil => rfl
      | cons y after =>
          by_cases hxy : x = y
          · simp [Node.spelled, Node.ways, ih, hxy, CharTest.passes, Cursor.forward_cons]
          · have hne : ¬ y.toNat = x.toNat := fun h => hxy (Char.toNat_inj.mp h).symm
            simp [Node.spelled, Node.ways, hxy, hne, CharTest.passes]

/-! ## Descriptions -/

/-- What a run ends with, if it has matched. -/
def Run.result : Run → Option Memory
  | .matched m => some m
  | .failed _ => none

/-- With at most `b` marks set, `f` says what `k` ends with, and a failure keeps the marks. -/
structure Then.Is (k : Then) (b : Nat) (f : Cursor → Marks → Option Memory) : Prop where
  result : ∀ {c : Cursor} {m : Memory}, m.marks.length ≤ b → (k c m).result = f c m.marks
  keeps : ∀ {c : Cursor} {m n : Memory}, m.marks.length ≤ b → k c m = .failed n →
    m.marks <+: n.marks

/-- Nothing matches where the code point does not come next. -/
def Awaits (lead : Option Nat) (f : Cursor → Marks → Option Memory) : Prop :=
  ∀ code, lead = some code → ∀ c ms, c.after.head?.any (·.toNat == code) = false → f c ms = none

theorem awaits_none (f : Cursor → Marks → Option Memory) : Awaits none f := by
  intro code h
  cases h

/-- What the ways of a node and what follows them give. -/
def Node.through (n : Node) (f : Cursor → Marks → Option Memory) (c : Cursor) (ms : Marks) :
    Option Memory :=
  (n.ways c ms).findSome? fun w => f w.1 w.2

theorem Node.isSome_through {n : Node} {f : Cursor → Marks → Option Memory} {c : Cursor}
    {ms : Marks} :
    (n.through f c ms).isSome = true ↔ ∃ w ∈ n.ways c ms, (f w.1 w.2).isSome = true := by
  rw [Node.through, List.findSome?_isSome_iff]

/-! ## Leads -/

theorem Node.ways_of_isVoid {n : Node} (h : n.isVoid = true) (c : Cursor) (ms : Marks) :
    n.ways c ms = [(c, ms)] := by
  induction n generalizing c ms with
  | empty => rfl
  | seq a b iha ihb =>
      obtain ⟨ha, hb⟩ := Bool.and_eq_true_iff.mp h
      simp [Node.ways, iha ha, ihb hb]
  | _ => cases h

/-- A node that starts with a test has no way where the next character does not pass it. -/
theorem Node.ways_of_first? {n : Node} {t : CharTest} (h : n.first? = some t) {c : Cursor}
    (hc : c.after.head?.any t.passes = false) (ms : Marks) : n.ways c ms = [] := by
  induction n generalizing ms with
  | one u =>
      cases h
      simp [Node.ways, hc]
  | seq a b iha ihb =>
      rw [Node.first?] at h
      split at h
      next ha => simp [Node.ways, Node.ways_of_isVoid ha, ihb h]
      next => simp [Node.ways, iha h]
  | _ => cases h

/-- A pattern awaits its first character, or the one that is awaited after it. -/
theorem Node.awaits_through {n : Node} {lead : Option Nat}
    {f : Cursor → Marks → Option Memory} (hf : Awaits lead f) :
    Awaits (n.leadOr lead) (n.through f) := by
  intro code hcode c ms hc
  rw [Node.leadOr] at hcode
  split at hcode
  next hn =>
      rw [Node.through, Node.ways_of_isVoid hn]
      simp [hf code hcode c ms hc]
  next =>
      split at hcode
      next first hfirst =>
          cases hcode
          rw [Node.through, Node.ways_of_first? hfirst hc]
          rfl
      next => cases hcode

/-! ## Repetitions -/

/-- From the marks `ms`, `h` says what `k` ends with, and a failure gives the same marks. -/
structure Then.Holds (k : Then) (ms : Marks) (h : Cursor → Option Memory) : Prop where
  result : ∀ {c : Cursor} {m : Memory}, m.marks = ms → (k c m).result = h c
  keeps : ∀ {c : Cursor} {m n : Memory}, m.marks = ms → k c m = .failed n → n.marks = ms

@[simp] theorem Run.result_mapFailed (r : Run) (g : Memory → Memory) :
    (r.mapFailed g).result = r.result := by
  cases r <;> rfl

/-- Once settled, what follows fails with the marks that were there before it. -/
theorem settle_holds {lead : Option Nat} {k : Then} {b : Nat}
    {f : Cursor → Marks → Option Memory} (hk : k.Is b f) (hf : Awaits lead f) (looping : Bool)
    (before : Memory) (hb : before.marks.length ≤ b) :
    Then.Holds (settle looping lead k before) before.marks (fun c => f c before.marks) where
  result := by
    intro c m hm
    rw [settle]
    split
    next =>
        rw [Run.result_mapFailed, hk.result (by simpa [Memory.at, hm] using hb)]
        simp [Memory.at, hm]
    next hlead =>
        cases lead with
        | none => simp at hlead
        | some code =>
            exact (hf code rfl c before.marks (by simpa using hlead)).symm
  keeps := by
    intro c m n hm hfail
    rw [settle] at hfail
    split at hfail
    next =>
        cases hrun : k c (m.at c) with
        | matched r => simp [hrun, Run.mapFailed, Run.orElse] at hfail
        | failed r =>
            have hpre := hk.keeps (by simpa [Memory.at, hm] using hb) hrun
            have hpre : before.marks <+: r.marks := by simpa [Memory.at, hm] using hpre
            simp only [hrun, Run.mapFailed, Run.orElse, Run.failed.injEq] at hfail
            subst hfail
            cases looping with
            | true => rfl
            | false => simpa [Memory.restore] using (List.prefix_iff_eq_take.mp hpre).symm
    next =>
        cases hfail
        exact hm

/-- A repetition that can only stop at once. -/
theorem Then.Holds.stopAt {here : Then} {ms : Marks} {h : Cursor → Option Memory}
    (hhere : here.Holds ms h) {m : Memory} (hm : m.marks = ms) (need : Nat) (c : Cursor) :
    (if (need == 0) = true then here c m else .failed m).result =
        (if (need == 0) = true then [0] else []).findSome? (fun n => h (c.forward n)) ∧
      ∀ n, (if (need == 0) = true then here c m else .failed m) = .failed n → n.marks = ms := by
  split
  next => exact ⟨by simp [hhere.result hm], fun n => hhere.keeps hm⟩
  next =>
      refine ⟨rfl, fun n hn => ?_⟩
      cases hn
      exact hm

/-- The characters are given back one by one, and each time what follows starts from the same
marks. -/
theorem greedyOnes_holds {t : CharTest} (ht : t.isStepwise = false) {here : Then} {ms : Marks}
    {h : Cursor → Option Memory} (hhere : here.Holds ms h) {m : Memory} (hm : m.marks = ms)
    (need : Nat) (room : Option Nat) (place : Nat) (before after : List Char) :
    (greedyOnes t here m need room place before after).result =
        (stops t need room after).findSome? (fun n => h (Cursor.forward ⟨place, before, after⟩ n)) ∧
      ∀ n, greedyOnes t here m need room place before after = .failed n → n.marks = ms := by
  induction after generalizing need room place before with
  | nil => simpa [greedyOnes, stops, ht] using hhere.stopAt hm need ⟨place, before, []⟩
  | cons x rest ih =>
      rw [greedyOnes, stops]
      by_cases hpass : (room != some 0 && t.passes x) = true
      · obtain ⟨hres, hkeep⟩ := ih (need - 1) (room.map (· - 1)) (place + 1) (x :: before)
        simp only [← Cursor.forward_cons] at hres
        simp only [hpass, if_true, List.findSome?_append, List.findSome?_map, Function.comp_def]
        rw [← hres]
        cases hlong : greedyOnes t here m (need - 1) (room.map (· - 1)) (place + 1) (x :: before)
            rest with
        | matched r =>
            constructor
            · split <;> simp [Run.result, Run.orElse]
            · intro n hn
              split at hn <;> simp [Run.orElse] at hn
        | failed r =>
            have hnow := hhere.stopAt (hkeep r hlong) need ⟨place, before, x :: rest⟩
            simpa [Run.result, Run.orElse, hlong] using hnow
      · simpa only [hpass, ht, if_false, Bool.false_eq_true] using
          hhere.stopAt hm need ⟨place, before, x :: rest⟩

/-- The characters are taken one by one, and each time what follows starts from the same marks. -/
theorem lazyOnes_holds {t : CharTest} {here : Then} {ms : Marks} {h : Cursor → Option Memory}
    (hhere : here.Holds ms h) {m : Memory} (hm : m.marks = ms) (need : Nat) (place : Nat)
    (before after : List Char) :
    (lazyOnes t here need none m place before after).result =
        (stops t need none after).reverse.findSome? (fun n =>
          h (Cursor.forward ⟨place, before, after⟩ n)) ∧
      ∀ n, lazyOnes t here need none m place before after = .failed n → n.marks = ms := by
  induction after generalizing need m place before with
  | nil =>
      cases need with
      | zero =>
          have hnow := hhere.result (c := ⟨place, before, []⟩) hm
          cases hrun : here ⟨place, before, []⟩ m with
          | matched r =>
              rw [hrun] at hnow
              simp [lazyOnes, stops, hrun, ← hnow, Run.mapFailed, Run.orElse]
          | failed r =>
              rw [hrun] at hnow
              simpa [lazyOnes, stops, hrun, ← hnow, Run.mapFailed, Run.orElse, Run.result,
                Memory.at] using hhere.keeps hm hrun
      | succ need =>
          cases hstep : t.isStepwise <;>
            simp [lazyOnes, stops, Run.result, Memory.at, hm, hstep]
  | cons x rest ih =>
      cases need with
      | zero =>
          have hnow := hhere.result (c := ⟨place, before, x :: rest⟩) hm
          cases hrun : here ⟨place, before, x :: rest⟩ m with
          | matched r =>
              rw [hrun] at hnow
              by_cases hpass : t.passes x = true <;>
                simp [lazyOnes, stops, hrun, ← hnow, Run.orElse, Run.result, hpass]
          | failed r =>
              rw [hrun] at hnow
              have hkept := hhere.keeps hm hrun
              by_cases hpass : t.passes x = true
              · have hrest := @ih (r.at (if t.isStepwise then ⟨place + 1, x :: before, rest⟩
                  else ⟨place, before, x :: rest⟩)) hkept 0 (place + 1) (x :: before)
                simp only [← Cursor.forward_cons] at hrest
                simpa [lazyOnes, stops, hrun, ← hnow, Run.orElse, Run.result, hpass,
                  ← List.map_reverse, List.findSome?_map, Function.comp_def] using hrest
              · simpa [lazyOnes, stops, hrun, ← hnow, Run.orElse, Run.result, hpass, Memory.at]
                  using hkept
      | succ need =>
          by_cases hpass : t.passes x = true
          · have hrest := ih hm need (place + 1) (x :: before)
            simp only [← Cursor.forward_cons] at hrest
            simpa [lazyOnes, stops, hpass, ← List.map_reverse, List.findSome?_map,
              Function.comp_def] using hrest
          · cases hstep : t.isStepwise <;>
              simp [lazyOnes, stops, Run.result, Memory.at, hm, hpass, hstep]

/-- Where too few characters follow, a repetition cannot stop. -/
theorem stops_of_not_follow {t : CharTest} {need : Nat} {room : Option Nat} {xs : List Char}
    (h : follow need xs = false) : stops t need room xs = [] := by
  induction xs generalizing need room with
  | nil =>
      cases need with
      | zero => cases h
      | succ need => rfl
  | cons x rest ih =>
      cases need with
      | zero => cases h
      | succ need =>
          have hrest : stops t need (room.map (· - 1)) rest = [] := ih h
          simp [stops, hrest]

/-- Without an upper bound a repetition can stop after each number of characters between those
it needs and those that pass. -/
theorem stops_none (t : CharTest) (need : Nat) (xs : List Char) :
    stops t need none xs =
      (List.range' need ((xs.takeWhile t.passes).length + 1 - need)).reverse := by
  induction xs generalizing need with
  | nil => cases need <;> simp [stops]
  | cons x rest ih =>
      by_cases hx : t.passes x = true
      · cases need with
        | zero =>
            simp [stops, hx, ih, List.map_reverse, ← List.range'_succ_left, List.range'_succ]
        | succ need => simp [stops, hx, ih, List.map_reverse, ← List.range'_succ_left]
      · cases need <;> simp [stops, hx]

theorem mem_stops_none {t : CharTest} {need n : Nat} {xs : List Char} :
    n ∈ stops t need none xs ↔ need ≤ n ∧ n ≤ (xs.takeWhile t.passes).length := by
  rw [stops_none, List.mem_reverse, List.mem_range'_1]
  omega

/-- The greatest number that what follows accepts is taken. -/
theorem findSome?_stops {β : Type} {t : CharTest} {need n : Nat} {xs : List Char}
    {f : Nat → Option β} (hneed : need ≤ n) (hn : n ≤ (xs.takeWhile t.passes).length)
    (hmore : ∀ i, n < i → i ≤ (xs.takeWhile t.passes).length → f i = none)
    (hf : (f n).isSome = true) : (stops t need none xs).findSome? f = f n := by
  have hsplit : List.range' need ((xs.takeWhile t.passes).length + 1 - need) =
      List.range' need (n - need) ++
        n :: List.range' (n + 1) ((xs.takeWhile t.passes).length - n) := by
    have hlength : (xs.takeWhile t.passes).length + 1 - need =
        (n - need) + ((xs.takeWhile t.passes).length - n + 1) := by
      omega
    rw [hlength, ← List.range'_append_1, Nat.add_sub_cancel' hneed, List.range'_succ]
  obtain ⟨b, hb⟩ := Option.isSome_iff_exists.mp hf
  have hlater : (List.range' (n + 1) ((xs.takeWhile t.passes).length - n)).reverse.findSome? f =
      none := by
    refine List.findSome?_eq_none_iff.mpr fun i hi => ?_
    have hi := List.mem_range'_1.mp (List.mem_reverse.mp hi)
    exact hmore i (by omega) (by omega)
  rw [stops_none, hsplit]
  simp [List.findSome?_append, hlater, hb]

/-! ## Runs -/

theorem Node.through_seq (a b : Node) (f : Cursor → Marks → Option Memory) :
    (Node.seq a b).through f = a.through (b.through f) := by
  funext c ms
  rw [Node.through, Node.ways, ← List.head?_filterMap, List.filterMap_flatMap, List.head?_flatMap]
  simp only [List.head?_filterMap]
  rfl

/-- A single character. -/
theorem Node.run_one (t : CharTest) (looping : Bool) (lead : Option Nat) (c : Cursor) (m : Memory)
    (k : Then) :
    (Node.one t).run looping lead c m k =
      if c.after.head?.any t.passes then k (c.forward 1) m else .failed m := by
  obtain ⟨place, before, after⟩ := c
  cases after with
  | nil => rfl
  | cons x rest => rfl

/-- What is tried under a test only fails at once where the test does. -/
theorem Then.is_tested {test : Cursor → Bool} {k : Then} {b : Nat}
    {f : Cursor → Marks → Option Memory} (hnone : ∀ c ms, test c = false → f c ms = none)
    (hk : ∀ {c : Cursor} {m : Memory}, test c = true → m.marks.length ≤ b →
      (k c m).result = f c m.marks ∧ ∀ r, k c m = .failed r → m.marks <+: r.marks) :
    Then.Is (fun c m => if test c then k c m else .failed m) b f := by
  constructor
  · intro c m hm
    split
    next htest => exact (hk htest hm).1
    next htest => exact (hnone c m.marks (by simpa using htest)).symm
  · intro c m r hm hrun
    split at hrun
    next htest => exact (hk htest hm).2 r hrun
    next =>
        cases hrun
        exact List.prefix_rfl

/-- A group sets its marks around its body. -/
theorem Then.Is.closing {k : Then} {i : Nat} {f : Cursor → Marks → Option Memory}
    (hk : k.Is (closeMark i + 1) f) :
    Then.Is (fun d n => k d { n with marks := n.marks.put (closeMark i) d }) (closeMark i)
      (fun d ms => f d (ms.put (closeMark i) d)) where
  result := by
    intro c m hm
    exact hk.result (Marks.length_put hm c).le
  keeps := by
    intro c m r hm hrun
    exact (Marks.prefix_put hm c).trans (hk.keeps (Marks.length_put hm c).le hrun)

/-- Fewer marks may be set than a description allows. -/
theorem Then.Is.mono {k : Then} {b d : Nat} {f : Cursor → Marks → Option Memory} (hk : k.Is d f)
    (hbd : b ≤ d) : k.Is b f where
  result := fun hm => hk.result (hm.trans hbd)
  keeps := fun hm => hk.keeps (hm.trans hbd)

theorem Node.through_alt (a b : Node) (f : Cursor → Marks → Option Memory) (c : Cursor)
    (ms : Marks) : (Node.alt a b).through f c ms = (a.through f c ms).or (b.through f c ms) := by
  rw [Node.through, Node.ways, List.findSome?_append]
  rfl

theorem Node.ways_of_not_mayMatch {n : Node} {c : Cursor} (h : n.mayMatch c = false) (ms : Marks) :
    n.ways c ms = [] := by
  rw [Node.mayMatch] at h
  split at h
  next code hfirst => exact Node.ways_of_first? hfirst h ms
  next s hfirst => exact Node.ways_of_first? hfirst (Bool.or_eq_false_iff.mp h).2 ms
  next => cases h

/-- A branch does what its ways say, and if it fails the marks are as they were. -/
theorem branch_holds {n : Node} {b : Nat} {run : Then} {f : Cursor → Marks → Option Memory}
    (hrun : run.Is b (n.through f)) (looping : Bool) (c : Cursor) {m : Memory}
    (hm : m.marks.length ≤ b) :
    (branch looping n run c m).result = n.through f c m.marks ∧
      ∀ r, branch looping n run c m = .failed r → r.marks = m.marks := by
  rw [branch]
  split
  next =>
      refine ⟨by rw [Run.result_mapFailed]; exact hrun.result (m := m.at c) hm, fun r hr => ?_⟩
      cases hnow : run c (m.at c) with
      | matched s => simp [hnow, Run.mapFailed, Run.orElse] at hr
      | failed s =>
          have hkept : m.marks <+: s.marks := hrun.keeps (m := m.at c) hm hnow
          simp only [hnow, Run.mapFailed, Run.orElse, Run.failed.injEq] at hr
          subst hr
          cases looping with
          | true => rfl
          | false => exact (List.prefix_iff_eq_take.mp hkept).symm
  next hnot =>
      refine ⟨?_, fun r hr => by cases hr; rfl⟩
      rw [Node.through, Node.ways_of_not_mayMatch (by simpa using hnot)]
      rfl

/-- The second branch is tried after the first has failed, from the same marks. -/
theorem Node.run_alt {a b : Node} {bound : Nat} {looping : Bool} {k : Then}
    {f : Cursor → Marks → Option Memory}
    (ha : Then.Is (fun c m => a.run looping none c m k) bound (a.through f))
    (hb : Then.Is (fun c m => b.run looping none c m k) bound (b.through f))
    (lead : Option Nat) :
    Then.Is (fun c m => (Node.alt a b).run looping lead c m k) bound
      ((Node.alt a b).through f) := by
  have hrun : ∀ c m, (Node.alt a b).run looping lead c m k =
      (branch looping a (fun c m => a.run looping none c m k) c m).orElse fun m =>
        if b.isAlt then b.run looping none c m k
        else branch looping b (fun c m => b.run looping none c m k) c m := fun _ _ => rfl
  have hsecond : ∀ {c : Cursor} {m : Memory}, m.marks.length ≤ bound →
      (if b.isAlt then b.run looping none c m k
        else branch looping b (fun c m => b.run looping none c m k) c m).result =
          b.through f c m.marks := by
    intro c m hm
    split
    next => exact hb.result hm
    next => exact (branch_holds hb looping c hm).1
  constructor
  · intro c m hm
    obtain ⟨hresult, hkept⟩ := branch_holds ha looping c hm
    rw [hrun, Node.through_alt, ← hresult]
    cases hfirst : branch looping a (fun c m => a.run looping none c m k) c m with
    | matched r => rfl
    | failed r =>
        have hr := hkept r hfirst
        have := hsecond (c := c) (m := r) (hr ▸ hm)
        rwa [hr] at this
  · intro c m r hm hfail
    rw [hrun] at hfail
    cases hfirst : branch looping a (fun c m => a.run looping none c m k) c m with
    | matched s => simp [hfirst, Run.orElse] at hfail
    | failed s =>
        have hs := (branch_holds ha looping c hm).2 s hfirst
        rw [← hs]
        rw [hfirst] at hfail
        simp only [Run.orElse] at hfail
        split at hfail
        next => exact hb.keeps (hs ▸ hm) hfail
        next => exact ((branch_holds hb looping c (hs ▸ hm)).2 r hfail) ▸ List.prefix_rfl

/-! ## A part that may be missing -/

/-- To look at the place before, and after a failure, changes no marks. -/
theorem Then.Is.looking {k : Then} {b : Nat} {f : Cursor → Marks → Option Memory} (hk : k.Is b f) :
    Then.Is (fun d n => (k d (n.at d)).mapFailed (·.at d)) b f where
  result := by
    intro c m hm
    rw [Run.result_mapFailed]
    exact hk.result (m := m.at c) hm
  keeps := by
    intro c m r hm hrun
    cases hnow : k c (m.at c) with
    | matched n => simp [hnow, Run.mapFailed, Run.orElse] at hrun
    | failed n =>
        simp only [hnow, Run.mapFailed, Run.orElse, Run.failed.injEq] at hrun
        have hkeep : m.marks <+: n.marks := hk.keeps (m := m.at c) hm hnow
        rwa [← hrun]

/-- A part that may be missing is tried first, and passed over from the marks that were there
before it. -/
theorem Node.run_missing {n : Node} (hone : ∀ t, n ≠ .one t) {b d : Nat} (hbd : b ≤ d)
    (looping : Bool) (lead : Option Nat) {k : Then} {f : Cursor → Marks → Option Memory}
    (hn : ∀ {k : Then}, k.Is d f → Then.Is (fun c m => n.run true none c m k) b (n.through f))
    (hk : k.Is d f) :
    Then.Is (fun c m => (Node.rep .greedy 0 (some 1) n).run looping lead c m k) b
      (fun c ms => (n.through f c ms).or (f c ms)) := by
  have hlast : ∀ last, turns .greedy 0 (some 1) looping (n.run true none) k 1 1 last =
      fun d m => (k d (m.at d)).mapFailed (·.at d) := by
    intro last
    funext d m
    simp [turns]
  have hrun : ∀ c m, (Node.rep .greedy 0 (some 1) n).run looping lead c m k =
      (n.run true none c (m.at c) fun d m =>
        (k d (m.at d)).mapFailed (·.at d)).orElse fun r =>
          (k c (((m.at c).restore true r).at c)).mapFailed (·.at c) := by
    intro c m
    rw [← hlast (some c.place)]
    cases n with
    | one t => exact absurd rfl (hone t)
    | _ => rfl
  have htaken := hn hk.looking
  have hmissing := hk.looking
  -- the marks that `restore` puts back are those at the start of the part
  have hback : ∀ {c : Cursor} {m : Memory} (r : Memory), m.marks.length ≤ b →
      ((m.at c).restore true r).marks.length ≤ d := fun _ hm => hm.trans hbd
  constructor
  · intro c m hm
    have hresult : _ = n.through f c m.marks := htaken.result (c := c) (m := m.at c) hm
    rw [hrun, ← hresult]
    cases n.run true none c (m.at c) fun d m => (k d (m.at d)).mapFailed (·.at d) with
    | matched r => rfl
    | failed r => exact hmissing.result (hback r hm)
  · intro c m r hm hfail
    rw [hrun] at hfail
    cases hfirst : n.run true none c (m.at c) fun d m => (k d (m.at d)).mapFailed (·.at d) with
    | matched r => simp [hfirst, Run.orElse] at hfail
    | failed s =>
        rw [hfirst] at hfail
        exact hmissing.keeps (hback s hm) hfail

/-- A pattern that may be missing is tried first and then left out. -/
theorem Node.through_missing {n : Node} (hone : ∀ t, n ≠ .one t)
    (f : Cursor → Marks → Option Memory) :
    (Node.rep .greedy 0 (some 1) n).through f = fun c ms => (n.through f c ms).or (f c ms) := by
  have hways : ∀ c ms, (Node.rep .greedy 0 (some 1) n).ways c ms = n.ways c ms ++ [(c, ms)] := by
    intro c ms
    cases n with
    | one t => exact absurd rfl (hone t)
    | _ => rfl
  funext c ms
  rw [Node.through, hways, List.findSome?_append, List.findSome?_singleton]
  rfl

/-! ## All nodes -/

/-- A node does what its ways say, if what follows it does what is said of it. -/
theorem Node.run_is {n : Node} {b d : Nat} (hn : n.Flat b d) (looping : Bool)
    {lead : Option Nat} {k : Then} {f : Cursor → Marks → Option Memory} (hk : k.Is d f)
    (hf : Awaits lead f) :
    Then.Is (fun c m => n.run looping lead c m k) b (n.through f) := by
  induction hn generalizing looping lead k f with
  | empty =>
      constructor
      · intro c m hm
        simpa [Node.run, Node.through, Node.ways] using hk.result hm
      · intro c m r hm hrun
        exact hk.keeps hm hrun
  | @one b t =>
      simp only [Node.run_one]
      refine Then.is_tested (fun c ms htest => ?_) fun {c m} htest hm => ⟨?_, fun r => hk.keeps hm⟩
      · rw [Node.through, Node.ways, htest]
        rfl
      · rw [Node.through, Node.ways, if_pos htest]
        simpa using hk.result hm
  | seq _ _ iha ihb =>
      rw [Node.through_seq]
      exact iha looping (ihb looping hk hf) (Node.awaits_through hf)
  | alt _ _ iha ihb =>
      exact Node.run_alt (iha looping (hk.mono (Nat.le_max_left ..)) (awaits_none _))
        (ihb looping (hk.mono (Nat.le_max_right ..)) (awaits_none _)) lead
  | @rep b least most t ht =>
      refine Then.is_tested (fun c ms hshort => ?_) fun {c m} _ hm => ?_
      · rw [Node.through, Node.ways, stops_of_not_follow hshort]
        rfl
      · obtain ⟨hresult, hmarks⟩ := greedyOnes_holds ht (settle_holds hk hf looping (m.at c) hm) rfl
          least most c.place c.before c.after
        rw [Node.through, Node.ways, List.findSome?_map]
        exact ⟨hresult, fun r hr => (hmarks r hr).symm ▸ List.prefix_rfl⟩
  | @lazy b least t =>
      refine Then.is_tested (fun c ms hshort => ?_) fun {c m} _ hm => ?_
      · rw [Node.through, Node.ways, stops_of_not_follow hshort]
        rfl
      · obtain ⟨hresult, hmarks⟩ := lazyOnes_holds (t := t)
          (settle_holds hk (awaits_none f) looping (m.at c) hm) rfl least c.place c.before c.after
        rw [Node.through, Node.ways, List.findSome?_map]
        exact ⟨hresult, fun r hr => (hmarks r hr).symm ▸ List.prefix_rfl⟩
  | optional hone hn ih =>
      rw [Node.through_missing hone]
      exact Node.run_missing hone hn.le looping lead (fun hk => ih true hk (awaits_none _)) hk
  | @anchor b a =>
      refine Then.is_tested (fun c ms htest => ?_) fun {c m} htest hm => ⟨?_, fun r => hk.keeps hm⟩
      · rw [Node.through, Node.ways, htest]
        rfl
      · rw [Node.through, Node.ways, if_pos htest]
        simpa using hk.result hm
  | @group b i n hb hn ih =>
      have hbody := ih looping hk.closing (awaits_none _)
      have hopen : ∀ {m : Memory} (c : Cursor), m.marks.length ≤ b →
          (m.marks.put (openMark i) c).length ≤ closeMark i := fun c hm =>
        (Marks.length_put (hm.trans hb) c).le
      constructor
      · intro c m hm
        rw [Node.through, Node.ways, List.findSome?_map]
        exact hbody.result (hopen c hm)
      · intro c m r hm hrun
        exact (Marks.prefix_put (hm.trans hb) c).trans (hbody.keeps (hopen c hm) hrun)

/-- A group that may be missing. -/
theorem Node.run_optional {i b d : Nat} {n : Node} (hn : (Node.group i n).Flat b d)
    (looping : Bool) (lead : Option Nat) {k : Then} {f : Cursor → Marks → Option Memory}
    (hk : k.Is d f) :
    Then.Is (fun c m => (Node.rep .greedy 0 (some 1) (.group i n)).run looping lead c m k) b
      (fun c ms => ((Node.group i n).through f c ms).or (f c ms)) :=
  Node.run_missing (n := .group i n) (fun _ h => Node.noConfusion h) hn.le looping lead
    (fun hk => Node.run_is hn true hk (awaits_none _)) hk

/-! ## Matches -/

/-- The end of a match, where the goal allows it. -/
theorem is_done (goal : Cursor → Bool) (b : Nat) :
    Then.Is (fun d m => if goal d then stop d m else .failed m) b
      (fun d ms => if goal d then some ⟨ms, d⟩ else none) := by
  constructor
  · intro d m hm
    split <;> rfl
  · intro d m r hm hrun
    split at hrun
    next => cases hrun
    next =>
        cases hrun
        exact List.prefix_rfl

/-- The match from a cursor is what the run of the pattern up to its end gives. -/
theorem matchFrom_of_is {p : Pattern} {goal : Cursor → Bool}
    {f : Cursor → Marks → Option Memory}
    (h : Then.Is (fun c m => p.node.run false none c m fun d m =>
      if goal d then stop d m else .failed m) 0 f) (c : Cursor) :
    p.matchFrom goal c = (f c []).map fun m => ⟨⟨c, m.reach⟩, m.marks⟩ := by
  have hrun := h.result (c := c) (m := ⟨[], c⟩) (Nat.le_refl 0)
  rw [matchFrom, ← hrun]
  generalize p.node.run false none c ⟨[], c⟩ _ = r
  cases r <;> rfl

/-- The match from a cursor is the first way whose end is allowed. -/
theorem matchFrom_eq_ways {p : Pattern} {b : Nat} (hp : p.node.Flat 0 b) (goal : Cursor → Bool)
    (c : Cursor) :
    p.matchFrom goal c =
      ((p.node.ways c []).find? fun w => goal w.1).map fun w => ⟨⟨c, w.1⟩, w.2⟩ := by
  have hfirst : p.node.through (fun d ms => if goal d then some ⟨ms, d⟩ else none) c [] =
      ((p.node.ways c []).find? fun w => goal w.1).map fun w => ⟨w.2, w.1⟩ := by
    rw [Node.through, ← List.findSome?_guard, List.map_findSome?]
    congr 1
    funext w
    by_cases hw : goal w.1 <;> simp [Option.guard, hw]
  rw [matchFrom_of_is (Node.run_is hp false (is_done goal b) (awaits_none _)), hfirst,
    Option.map_map]
  rfl

/-- If a match can start wherever there is a way, the match at a cursor is the first way. -/
theorem matchAt_eq_ways {p : Pattern} {b : Nat} (hp : p.node.Flat 0 b)
    (hset : ∀ s, p.start.set = some s → p.node.first? = some (.inSet s)) (c : Cursor) :
    p.matchAt c = (p.node.ways c []).head?.map fun w => ⟨⟨c, w.1⟩, w.2⟩ := by
  have hfirst : p.matchFrom (fun _ => true) c =
      (p.node.ways c []).head?.map fun w => ⟨⟨c, w.1⟩, w.2⟩ := by
    rw [matchFrom_eq_ways hp]
    cases p.node.ways c [] <;> rfl
  rw [matchAt, hfirst]
  split
  next => rfl
  next hstart =>
      cases hs : p.start.set with
      | none => simp [hs] at hstart
      | some s =>
          have hc : c.after.head?.any s.has = false := by simpa [hs] using hstart
          rw [Node.ways_of_first? (hset s hs) hc]
          rfl

/-- The text of the first group, from its marks. -/
theorem Found.group_one (s : Span) (c : Cursor) (n : Nat) (ms : Marks) :
    Found.group ⟨s, some c :: some (c.forward n) :: ms⟩ 1 = c.after.take n := by
  have hspan : Marks.group? (some c :: some (c.forward n) :: ms) 1 = some ⟨c, c.forward n⟩ :=
    Option.filter_eq_some_iff.mpr ⟨rfl, by simp [Span.isCrossed]⟩
  have hgroup : Found.group? ⟨s, some c :: some (c.forward n) :: ms⟩ 1 = some (c.after.take n) := by
    rw [Found.group?, hspan, ← Cursor.textTo_forward]
    rfl
  rw [Found.group, hgroup]
  rfl

end ExtensionAudit.Pattern
