import Mathlib
import ExtensionAudit.Lifecycle.References
import ExtensionAudit.Proofs.Source.Scope
import ExtensionAudit.Proofs.Table
import ExtensionAudit.Proofs.Trace

/-!
# The lines of `enable`

The check on widgets walks through the main script and takes some of its lines for lines of
`enable` (`Tracked`).  What it reports is what these lines create (`mem_enableWidgets`), so the
question is where they end.

The walk counts the braces from the head of `enable` on, at least until a head of `disable` comes
(`count_run_eq_balance`).  But it looks at the count only in lines that have an opening brace
(`WidgetScan.ends`).  A closing brace on a line of its own does not end `enable`, and the lines
after it are tracked like the lines before (`ClosesAt.exists_endsAt_iff`).
-/

namespace ExtensionAudit.Lifecycle

open Source (hasWordCall surplus opens balance)

/-- The lines of a script as the walk reads them. -/
def trimmedLines (t : Text) : List Text := (Text.lines t).map Text.trim

/-- The property in which a line creates a widget. -/
def widgetOf? (line : Text) : Option Text := (newWidget.search line).map fun m => m.group 1

/-! ## One line -/

namespace WidgetScan

variable {s : WidgetScan} {line : Text}

/-- The open blocks that the walk counts for `enable` at the end of a line. -/
def count (s : WidgetScan) (line : Text) : Int :=
  (if hasWordCall "enable" line || hasWordCall "disable" line then 0 else s.depth) + surplus line

/-- The line ends `enable`: no block is open at its end, and it has an opening brace itself. -/
def ends (s : WidgetScan) (line : Text) : Bool := s.count line ≤ 0 && opens line

theorem inEnable_step (s : WidgetScan) (line : Text) :
    (s.step line).1.inEnable = ((s.inEnable || hasWordCall "enable" line) && !s.ends line) := by
  cases h : s.inEnable || hasWordCall "enable" line <;> simp [step, h, ends, count]

theorem created_step (s : WidgetScan) (line : Text) :
    (s.step line).2 =
      if s.inEnable || hasWordCall "enable" line then widgetOf? line else none := rfl

theorem inDisable_step (h : s.inDisable = false) (hline : hasWordCall "disable" line = false) :
    (s.step line).1.inDisable = false := by
  simp [step, h, hline]

/-- A line of `enable` alone counts once. -/
theorem depth_step (henable : (s.inEnable || hasWordCall "enable" line) = true)
    (hdisable : s.inDisable = false) (hline : hasWordCall "disable" line = false) :
    (s.step line).1.depth = s.count line := by
  simp [step, henable, hdisable, hline, count]

/-! ## All lines -/

/-- Where the walk stands after some lines. -/
def run (s : WidgetScan) (lines : List Text) : WidgetScan :=
  lines.foldl (fun s line => (s.step line).1) s

theorem run_take_succ (s : WidgetScan) {lines : List Text} {k : Nat}
    (h : lines[k]? = some line) :
    s.run (lines.take (k + 1)) = ((s.run (lines.take k)).step line).1 := by
  rw [List.take_add_one, h, run, run, List.foldl_append]
  rfl

theorem inDisable_run {lines : List Text} (h : s.inDisable = false)
    (hlines : ∀ line ∈ lines, hasWordCall "disable" line = false) :
    (s.run lines).inDisable = false := by
  induction lines generalizing s with
  | nil => exact h
  | cons line lines ih =>
      obtain ⟨hline, hlines⟩ := List.forall_mem_cons.mp hlines
      exact ih (inDisable_step h hline) hlines

end WidgetScan

open WidgetScan

/-- Line `k` of a script ends `enable`, as the walk stands before it. -/
def EndsAt (lines : List Text) (k : Nat) : Prop :=
  lines[k]?.any (run {} (lines.take k)).ends = true

/-- The walk takes line `k` for a line of the `enable` that starts in line `i`: no line before
ends it. -/
structure Tracked (lines : List Text) (i k : Nat) : Prop where
  /-- The line does not stand before the head. -/
  le : i ≤ k
  /-- No line from the head on ends `enable` before it. -/
  goes_on : ∀ j, i ≤ j → j < k → ¬ EndsAt lines j

/-- Line `i` of a script is the only head of `enable`. -/
@[mk_iff]
structure OneEnable (lines : List Text) (i : Nat) : Prop where
  /-- It is a head. -/
  head : lines[i]?.any (hasWordCall "enable") = true
  /-- There is no other. -/
  only : ∀ k < lines.length, lines[k]?.any (hasWordCall "enable") = true → k = i

instance (lines : List Text) (i : Nat) : Decidable (OneEnable lines i) :=
  decidable_of_iff _ (oneEnable_iff lines i).symm

variable {lines : List Text} {i k : Nat} {line : Text}

theorem tracked_self (lines : List Text) (i : Nat) : Tracked lines i i :=
  ⟨le_rfl, fun _ hij hj => absurd hj hij.not_gt⟩

/-- A line more keeps the tracking unless it ends there. -/
theorem tracked_succ_iff (hi : i ≤ k) :
    Tracked lines i (k + 1) ↔ Tracked lines i k ∧ ¬ EndsAt lines k := by
  constructor
  · intro h
    exact ⟨⟨hi, fun j hij hj => h.goes_on j hij (Nat.lt_succ_of_lt hj)⟩,
      h.goes_on k hi k.lt_succ_self⟩
  · rintro ⟨h, hlast⟩
    refine ⟨hi.trans k.le_succ, fun j hij hj => ?_⟩
    rcases Nat.lt_succ_iff_lt_or_eq.mp hj with hj | rfl
    · exact h.goes_on j hij hj
    · exact hlast

theorem endsAt_iff (h : lines[k]? = some line) :
    EndsAt lines k ↔ (run {} (lines.take k)).ends line = true := by
  rw [EndsAt, h, Option.any_some]

theorem OneEnable.heads_iff (h : OneEnable lines i) (hk : lines[k]? = some line) :
    hasWordCall "enable" line = true ↔ k = i := by
  constructor
  · intro hline
    exact h.only k (List.getElem?_eq_some_iff.mp hk).1 (by rw [hk, Option.any_some, hline])
  · rintro rfl
    simpa [hk] using h.head

/-- The walk is inside `enable` from the line after its head on, until a line ends it. -/
theorem inEnable_run_iff (h : OneEnable lines i) (hk : k ≤ lines.length) :
    (run {} (lines.take k)).inEnable = true ↔ i < k ∧ Tracked lines i k := by
  induction k with
  | zero => exact iff_of_false Bool.false_ne_true fun h => absurd h.1 i.not_lt_zero
  | succ k ih =>
      obtain ⟨line, hline⟩ : ∃ line, lines[k]? = some line := ⟨_, List.getElem?_eq_getElem hk⟩
      rw [run_take_succ _ hline, inEnable_step, Bool.and_eq_true, Bool.or_eq_true,
        ih (Nat.le_of_succ_le hk), h.heads_iff hline, Bool.not_eq_true', ← Bool.not_eq_true,
        ← endsAt_iff hline]
      constructor
      · rintro ⟨⟨hi, htracked⟩ | rfl, hlast⟩
        · exact ⟨hi.trans k.lt_succ_self, (tracked_succ_iff hi.le).mpr ⟨htracked, hlast⟩⟩
        · exact ⟨k.lt_succ_self, (tracked_succ_iff le_rfl).mpr ⟨tracked_self lines k, hlast⟩⟩
      · rintro ⟨hi, htracked⟩
        obtain ⟨hbefore, hlast⟩ := (tracked_succ_iff (Nat.lt_succ_iff.mp hi)).mp htracked
        refine ⟨?_, hlast⟩
        rcases Nat.lt_succ_iff_lt_or_eq.mp hi with hi | rfl
        · exact .inl ⟨hi, hbefore⟩
        · exact .inr rfl

/-- The walk takes a line for one of `enable` iff it is tracked. -/
theorem open_run_iff (h : OneEnable lines i) (hk : lines[k]? = some line) :
    ((run {} (lines.take k)).inEnable || hasWordCall "enable" line) = true ↔
      Tracked lines i k := by
  have hlen : k < lines.length := (List.getElem?_eq_some_iff.mp hk).1
  rw [Bool.or_eq_true, inEnable_run_iff h hlen.le, h.heads_iff hk]
  constructor
  · rintro (⟨-, htracked⟩ | rfl)
    · exact htracked
    · exact tracked_self lines k
  · intro htracked
    rcases htracked.le.lt_or_eq with hi | rfl
    · exact .inl ⟨hi, htracked⟩
    · exact .inr rfl

theorem created_run_iff (h : OneEnable lines i) (hk : lines[k]? = some line) (name : Text) :
    ((run {} (lines.take k)).step line).2 = some name ↔
      Tracked lines i k ∧ widgetOf? line = some name := by
  rw [created_step, ← open_run_iff h hk]
  split
  next htracked => rw [and_iff_right htracked]
  next hnot => exact iff_of_false (Option.some_ne_none name).symm fun hand => hnot hand.1

/-! ## Widgets -/

theorem widgetsFrom_cons (n : Nat) (s : WidgetScan) (line : Text) (lines : List Text) :
    widgetsFrom n s (line :: lines) =
      ((s.step (Text.trim line)).2.map fun name => (name, n)).toList ++
        widgetsFrom (n + 1) (s.step (Text.trim line)).1 lines := by
  rw [widgetsFrom]
  obtain ⟨s', created⟩ := s.step (Text.trim line)
  cases created <;> rfl

/-- A widget is put down for a line by the step that the walk takes there. -/
theorem mem_widgetsFrom {n m : Nat} {s : WidgetScan} {lines : List Text} {name : Text} :
    (name, m) ∈ widgetsFrom n s lines ↔ ∃ k line, (lines.map Text.trim)[k]? = some line ∧
      m = n + k ∧ ((s.run ((lines.map Text.trim).take k)).step line).2 = some name := by
  induction lines generalizing n s with
  | nil => simp [widgetsFrom]
  | cons line lines ih =>
      rw [widgetsFrom_cons, List.mem_append, ih]
      constructor
      · rintro (hmem | ⟨k, line, hk, rfl, hcreated⟩)
        · obtain ⟨_, hcreated, heq⟩ := Option.map_eq_some_iff.mp (Option.mem_toList.mp hmem)
          cases heq
          exact ⟨0, Text.trim line, rfl, rfl, hcreated⟩
        · exact ⟨k + 1, line, hk, by omega, hcreated⟩
      · rintro ⟨_ | k, line', hk, rfl, hcreated⟩
        · cases hk
          exact .inl (Option.mem_toList.mpr (Option.map_eq_some_iff.mpr ⟨name, hcreated, rfl⟩))
        · exact .inr ⟨k, line', hk, by omega, hcreated⟩

/-- Widgets are found in the order of their lines. -/
theorem pairwise_widgetsFrom (n : Nat) (s : WidgetScan) (lines : List Text) :
    (widgetsFrom n s lines).Pairwise fun v w => v.2 < w.2 := by
  induction lines generalizing n s with
  | nil => exact .nil
  | cons line lines ih =>
      rw [widgetsFrom_cons, List.pairwise_append]
      refine ⟨?_, ih _ _, ?_⟩
      · cases (s.step (Text.trim line)).2 <;> simp
      · rintro ⟨_, _⟩ hv ⟨name, m⟩ hw
        obtain ⟨_, -, heq⟩ := Option.map_eq_some_iff.mp (Option.mem_toList.mp hv)
        obtain ⟨k, -, -, rfl, -⟩ := mem_widgetsFrom.mp hw
        cases heq
        change n < n + 1 + k
        omega

/-- If the numbers go up, the last entry of a key has the greatest number. -/
theorem lookup_reverse_eq_some_iff {entries : List (Text × Nat)}
    (h : entries.Pairwise fun v w => v.2 < w.2) (name : Text) (n : Nat) :
    entries.reverse.lookup name = some n ↔ IsGreatest {m | (name, m) ∈ entries} n := by
  have hdown : entries.reverse.Pairwise fun v w => w.2 < v.2 := List.pairwise_reverse.mpr h
  rw [List.lookup_eq_some_iff]
  constructor
  · rintro ⟨later, earlier, heq, hlater⟩
    rw [heq, List.pairwise_append, List.pairwise_cons] at hdown
    refine ⟨List.mem_reverse.mp (heq ▸ List.mem_append_right _ List.mem_cons_self), ?_⟩
    intro m hm
    rw [Set.mem_ofPred_eq, ← List.mem_reverse, heq, List.mem_append, List.mem_cons] at hm
    rcases hm with hm | hm | hm
    · have := hlater _ hm
      simp at this
    · exact (Prod.mk.inj hm).2.le
    · exact (hdown.2.1.1 _ hm).le
  · rintro ⟨hmem, hgreatest⟩
    obtain ⟨later, earlier, heq⟩ := List.append_of_mem (List.mem_reverse.mpr hmem)
    refine ⟨later, earlier, heq, fun e he => ?_⟩
    by_contra hname
    have hname : name = e.1 := by simpa using hname
    rw [heq, List.pairwise_append] at hdown
    have hlt : n < e.2 := hdown.2.2 e he _ List.mem_cons_self
    have hle : e.2 ≤ n := by
      refine hgreatest ?_
      rw [Set.mem_ofPred_eq, hname, ← List.mem_reverse, heq]
      exact List.mem_append_left _ he
    omega

/-- A widget is put into the table under its name. -/
theorem putWidget_eq (table : Table Text Nat) (w : Text × Nat) :
    putWidget table w = table.put w.1 w.2 := by
  have hreplace : (fun e : Text × Nat => if e.1 == w.1 then w else e) =
      fun e => if e.1 == w.1 then (e.1, w.2) else e := by
    funext e
    split
    next heq => rw [beq_iff_eq.mp heq]
    next => rfl
  rw [putWidget, hreplace]
  rfl

theorem enableWidgets_eq (t : Text) :
    enableWidgets t = Table.putAll [] (widgetsFrom 1 {} (Text.lines t)) := by
  have hput : putWidget = fun table w => Table.put table w.1 w.2 := by
    funext table w
    exact putWidget_eq table w
  rw [enableWidgets, hput]
  rfl

/-- The numbers of the tracked lines that create a widget in a property. -/
def creations (lines : List Text) (i : Nat) (name : Text) : Set Nat :=
  {n | ∃ k line, n = k + 1 ∧ lines[k]? = some line ∧ Tracked lines i k ∧
    widgetOf? line = some name}

/-- A name is listed with the last line that creates it. -/
theorem mem_enableWidgets {t : Text} (h : OneEnable (trimmedLines t) i) (name : Text) (n : Nat) :
    (name, n) ∈ enableWidgets t ↔ IsGreatest (creations (trimmedLines t) i name) n := by
  have hset : {m | (name, m) ∈ widgetsFrom 1 {} (Text.lines t)} =
      creations (trimmedLines t) i name := by
    ext m
    rw [Set.mem_ofPred_eq, mem_widgetsFrom]
    refine exists_congr fun k => exists_congr fun line => ?_
    rw [Nat.add_comm 1 k, and_left_comm]
    refine and_congr_right fun _ => and_congr_right fun hk => created_run_iff h hk name
  have hnodup : (Table.putAll [] (widgetsFrom 1 {} (Text.lines t))).keys.Nodup :=
    Table.nodup_keys_putAll (t := []) List.nodup_nil _
  rw [enableWidgets_eq, ← Table.get?_eq_some_iff hnodup, Table.get?_putAll, ← hset,
    ← lookup_reverse_eq_some_iff (pairwise_widgetsFrom ..)]
  cases (widgetsFrom 1 {} (Text.lines t)).reverse.lookup name <;> rfl

theorem mem_leakedWidgets {t name : Text} {n : Nat} :
    (name, n) ∈ leakedWidgets t ↔ (name, n) ∈ enableWidgets t ∧
      (takedownOf name).found t = false ∧ (nullOf name).found t = false := by
  simp [leakedWidgets]

/-! ## Where the walk leaves `enable` -/

/-- The lines `i` to `k` of a script. -/
def stretch (lines : List Text) (i k : Nat) : List Text := (lines.take (k + 1)).drop i

/-- Line `z` is the first from line `i` on at whose end as many braces have closed as opened. -/
@[mk_iff]
structure ClosesAt (lines : List Text) (i z : Nat) : Prop where
  /-- It does not stand before line `i`. -/
  le : i ≤ z
  /-- The script has that many lines. -/
  lt : z < lines.length
  /-- All that opens closes. -/
  balance_eq : balance (stretch lines i z) = 0
  /-- It does not close before. -/
  first : ∀ k < z, i ≤ k → balance (stretch lines i k) ≠ 0

instance (lines : List Text) (i z : Nat) : Decidable (ClosesAt lines i z) :=
  decidable_of_iff _ (closesAt_iff lines i z).symm

theorem Tracked.of_le {m : Nat} (h : Tracked lines i m) (hi : i ≤ k) (hk : k ≤ m) :
    Tracked lines i k :=
  ⟨hi, fun j hij hj => h.goes_on j hij (hj.trans_le hk)⟩

/-- Where lines are not tracked any more, a tracked line has ended `enable`. -/
theorem exists_endsAt {m : Nat} (hi : i ≤ m) (h : ¬ Tracked lines i m) :
    ∃ k, k < m ∧ Tracked lines i k ∧ EndsAt lines k := by
  induction m, hi using Nat.le_induction with
  | base => exact absurd (tracked_self lines i) h
  | succ m hi ih =>
      by_cases hm : Tracked lines i m
      · refine ⟨m, m.lt_succ_self, hm, ?_⟩
        by_contra hends
        exact h ((tracked_succ_iff hi).mpr ⟨hm, hends⟩)
      · obtain ⟨k, hk, htracked, hends⟩ := ih hm
        exact ⟨k, hk.trans m.lt_succ_self, htracked, hends⟩

theorem stretch_self (h : lines[i]? = some line) : stretch lines i i = [line] := by
  obtain ⟨hi, rfl⟩ := List.getElem?_eq_some_iff.mp h
  rw [stretch, List.take_add_one, h, List.drop_append_of_le_length (by simp [hi.le])]
  simp

theorem stretch_succ (hi : i ≤ k + 1) (h : lines[k + 1]? = some line) :
    stretch lines i (k + 1) = stretch lines i k ++ [line] := by
  obtain ⟨hk, -⟩ := List.getElem?_eq_some_iff.mp h
  rw [stretch, List.take_add_one, h, List.drop_append_of_le_length (by simp; omega)]
  rfl

theorem mem_take_succ (h : lines[k]? = some line) : line ∈ lines.take (k + 1) := by
  refine List.mem_of_getElem? (i := k) ?_
  rwa [List.getElem?_take_of_lt k.lt_succ_self]

/-- As long as there is no head of `disable`, the walk counts the braces from the head of `enable`
on. -/
theorem count_run_eq_balance (h : OneEnable lines i) (hk : lines[k]? = some line)
    (htracked : Tracked lines i k)
    (hdisable : ∀ line ∈ lines.take (k + 1), hasWordCall "disable" line = false) :
    (run {} (lines.take k)).count line = balance (stretch lines i k) := by
  have hle := htracked.le
  induction k, hle using Nat.le_induction generalizing line with
  | base =>
      have hhead : hasWordCall "enable" line = true := (h.heads_iff hk).mpr rfl
      simp [stretch_self hk, count, hhead]
  | succ k hi ih =>
      have hlen : k + 1 < lines.length := (List.getElem?_eq_some_iff.mp hk).1
      obtain ⟨last, hlast⟩ : ∃ last, lines[k]? = some last :=
        ⟨_, List.getElem?_eq_getElem (Nat.lt_of_succ_lt hlen)⟩
      have hprevious := htracked.of_le hi k.le_succ
      have hbefore : ∀ line ∈ lines.take (k + 1), hasWordCall "disable" line = false :=
        fun line hline => hdisable line (List.take_subset_take_left lines (k + 1).le_succ hline)
      have hquiet := hdisable line (mem_take_succ hk)
      have hinDisable : (run {} (lines.take k)).inDisable = false :=
        inDisable_run rfl fun line hline =>
          hbefore line (List.take_subset_take_left lines k.le_succ hline)
      have hdepth := depth_step ((open_run_iff h hlast).mpr hprevious) hinDisable
        (hbefore last (mem_take_succ hlast))
      have hhead : hasWordCall "enable" line = false := by
        rw [← Bool.not_eq_true, h.heads_iff hk]
        omega
      rw [ih hlast hprevious hbefore] at hdepth
      rw [stretch_succ (hi.trans k.le_succ) hk, run_take_succ _ hlast, count, hhead, hquiet, hdepth]
      simp

/-- Up to a line before which there is no head of `disable`, the walk leaves `enable` at the first
line that has an opening brace and at whose end no block is open. -/
theorem endsAt_iff_balance (h : OneEnable lines i) (hk : k < lines.length)
    (htracked : Tracked lines i k)
    (hdisable : ∀ line ∈ lines.take (k + 1), hasWordCall "disable" line = false) :
    EndsAt lines k ↔ lines[k]?.any opens = true ∧ balance (stretch lines i k) ≤ 0 := by
  have hline := List.getElem?_eq_getElem hk
  rw [endsAt_iff hline, ends, count_run_eq_balance h hline htracked hdisable, hline,
    Option.any_some, Bool.and_eq_true, decide_eq_true_eq, and_comm]

/-- The tracked lines go no further than line `z` iff the script does not, or a line up to there
ends `enable`. -/
theorem forall_tracked_le_iff {z : Nat} (hi : i ≤ z) :
    (∀ k < lines.length, Tracked lines i k → k ≤ z) ↔
      lines.length ≤ z + 1 ∨ ∃ k, i ≤ k ∧ k ≤ z ∧ EndsAt lines k := by
  constructor
  · intro hbound
    refine or_iff_not_imp_left.mpr fun hlen => ?_
    have hnot : ¬ Tracked lines i (z + 1) := by
      intro htracked
      have := hbound (z + 1) (by omega) htracked
      omega
    obtain ⟨k, hk, htracked, hends⟩ := exists_endsAt (hi.trans z.le_succ) hnot
    exact ⟨k, htracked.le, Nat.lt_succ_iff.mp hk, hends⟩
  · rintro (hlen | ⟨k, hik, hkz, hends⟩) j hj htracked
    · omega
    · by_contra hlt
      exact htracked.goes_on k hik (by omega) hends

/-- If no head of `disable` comes first, `enable` is ended up to its closing line iff that line has
an opening brace, or a line before has one and closes more than has opened. -/
theorem ClosesAt.exists_endsAt_iff {z : Nat} (hz : ClosesAt lines i z) (h : OneEnable lines i)
    (hdisable : ∀ line ∈ lines.take (z + 1), hasWordCall "disable" line = false) :
    (∃ k, i ≤ k ∧ k ≤ z ∧ EndsAt lines k) ↔ lines[z]?.any opens = true ∨
      ∃ k, i ≤ k ∧ k < z ∧ lines[k]?.any opens = true ∧ balance (stretch lines i k) < 0 := by
  have hends {k : Nat} (hk : k ≤ z) (htracked : Tracked lines i k) :
      EndsAt lines k ↔ lines[k]?.any opens = true ∧ balance (stretch lines i k) ≤ 0 :=
    endsAt_iff_balance h (hk.trans_lt hz.lt) htracked fun line hline =>
      hdisable line (List.take_subset_take_left lines (Nat.succ_le_succ hk) hline)
  have hleaves {k : Nat} (hik : i ≤ k) (hk : k ≤ z) (hopens : lines[k]?.any opens = true)
      (hclosed : balance (stretch lines i k) ≤ 0) : ∃ k, i ≤ k ∧ k ≤ z ∧ EndsAt lines k := by
    by_cases htracked : Tracked lines i k
    · exact ⟨k, hik, hk, (hends hk htracked).mpr ⟨hopens, hclosed⟩⟩
    · obtain ⟨j, hj, htracked, hends⟩ := exists_endsAt hik htracked
      exact ⟨j, htracked.le, (hj.trans_le hk).le, hends⟩
  constructor
  · rintro ⟨k, hik, hkz, hk⟩
    have hnot : ¬ Tracked lines i (z + 1) := fun htracked =>
      htracked.goes_on k hik (Nat.lt_succ_iff.mpr hkz) hk
    obtain ⟨j, hj, htracked, hend⟩ := exists_endsAt (hz.le.trans z.le_succ) hnot
    obtain ⟨hopens, hclosed⟩ := (hends (Nat.lt_succ_iff.mp hj) htracked).mp hend
    rcases Nat.lt_succ_iff_lt_or_eq.mp hj with hj | rfl
    · exact .inr ⟨j, htracked.le, hj, hopens, hclosed.lt_of_ne (hz.first j hj htracked.le)⟩
    · exact .inl hopens
  · rintro (hopens | ⟨k, hik, hkz, hopens, hclosed⟩)
    · exact hleaves hz.le le_rfl hopens hz.balance_eq.le
    · exact hleaves hik hkz.le hopens hclosed.le

/-! ## The report -/

variable {ext : Extension} {t : Text}

/-- A widget in a report. -/
def shownWidget (w : Text × Nat) : String := s!"{String.ofList w.1}(L{w.2})"

/-- The check passes iff no widget is leaked, and else it names the first five. -/
theorem ends_checkWidgetLifecycle (hmain : mainCode? ext = .ok (some t)) :
    (leakedWidgets t = [] → ∃ detail, Trace.Ends (checkWidgetLifecycle ext)
      [⟨.pass, "lifecycle/widget-destroy", detail⟩] ()) ∧
    (leakedWidgets t ≠ [] → Trace.Ends (checkWidgetLifecycle ext)
      [⟨.warn, "lifecycle/widget-destroy",
        "Widget(s) created in enable() but not destroyed/nulled in disable(): " ++
          ", ".intercalate (((leakedWidgets t).take 5).map shownWidget)⟩] ()) := by
  constructor
  · intro hnone
    by_cases hwidgets : (enableWidgets t).isEmpty = true
    · refine ⟨"No widgets tracked in enable()", Trace.ends_lift_bind hmain ?_⟩
      dsimp only
      rw [if_pos hwidgets]
      exact Trace.ends_write.mpr rfl
    · refine ⟨s!"All {(enableWidgets t).length} widget(s) properly cleaned up",
        Trace.ends_lift_bind hmain ?_⟩
      dsimp only
      rw [if_neg hwidgets, List.isEmpty_map, hnone, if_pos List.isEmpty_nil]
      exact Trace.ends_write.mpr rfl
  · intro hsome
    have hwidgets : enableWidgets t ≠ [] := by
      intro hnil
      rw [leakedWidgets, hnil] at hsome
      exact hsome rfl
    refine Trace.ends_lift_bind hmain ?_
    dsimp only
    rw [if_neg (mt List.isEmpty_iff.mp hwidgets), List.isEmpty_map,
      if_neg (mt List.isEmpty_iff.mp hsome), ← List.map_take]
    exact Trace.ends_write.mpr rfl

/-- The widgets of the report are those that tracked lines create, with the last such line, and that
the script neither takes down nor lets go.  The tracked lines go from the head of `enable` to the
first line that ends it as the walk counts.  They stay within the block of `enable` iff such a line
comes in time, and the closing line itself is one only if it has an opening brace. -/
theorem leakedWidgets_tracked (ext : Extension) (t : Text) (i : Nat)
    (hmain : mainCode? ext = .ok (some t)) (h : OneEnable (trimmedLines t) i) :
    ((leakedWidgets t = [] → ∃ detail, Trace.Ends (checkWidgetLifecycle ext)
        [⟨.pass, "lifecycle/widget-destroy", detail⟩] ()) ∧
      (leakedWidgets t ≠ [] → Trace.Ends (checkWidgetLifecycle ext)
        [⟨.warn, "lifecycle/widget-destroy",
          "Widget(s) created in enable() but not destroyed/nulled in disable(): " ++
            ", ".intercalate (((leakedWidgets t).take 5).map shownWidget)⟩] ())) ∧
    (∀ name n, (name, n) ∈ leakedWidgets t ↔ IsGreatest (creations (trimmedLines t) i name) n ∧
      (takedownOf name).found t = false ∧ (nullOf name).found t = false) ∧
    ∀ z, ClosesAt (trimmedLines t) i z →
      ((∀ k < (trimmedLines t).length, Tracked (trimmedLines t) i k → k ≤ z) ↔
        (trimmedLines t).length ≤ z + 1 ∨ ∃ k, i ≤ k ∧ k ≤ z ∧ EndsAt (trimmedLines t) k) ∧
      ((∀ line ∈ (trimmedLines t).take (z + 1), hasWordCall "disable" line = false) →
        ((∃ k, i ≤ k ∧ k ≤ z ∧ EndsAt (trimmedLines t) k) ↔
          (trimmedLines t)[z]?.any opens = true ∨
            ∃ k, i ≤ k ∧ k < z ∧ (trimmedLines t)[k]?.any opens = true ∧
              balance (stretch (trimmedLines t) i k) < 0)) := by
  refine ⟨ends_checkWidgetLifecycle hmain, fun name n => ?_, fun z hz => ?_⟩
  · rw [mem_leakedWidgets, mem_enableWidgets h]
  · exact ⟨forall_tracked_le_iff hz.le, hz.exists_endsAt_iff h⟩

/-- An extension of one script. -/
def scripted (code : Text) : Extension :=
  ⟨⟨.dir [("extension.js", .file (Text.encode code) false)], .plain⟩, []⟩

/-- The line that closes `enable` has a brace of its own. -/
def bracedScript : Text :=
  "enable() \x7b\nthis._a = new St.Label();\n\x7d f() \x7b\x7d\nthis._b = new St.Icon();".toList

/-- The widget after `enable` is left out. -/
theorem leakedWidgets_tracked_braced :
    IsGreatest (creations (trimmedLines bracedScript) 0 "_a".toList) 2 ∧
      ∀ k < (trimmedLines bracedScript).length,
        Tracked (trimmedLines bracedScript) 0 k → k ≤ 2 := by
  have hscript : mainCode? (scripted bracedScript) = .ok (some bracedScript) ∧
      OneEnable (trimmedLines bracedScript) 0 ∧ ClosesAt (trimmedLines bracedScript) 0 2 ∧
      ("_a".toList, 2) ∈ leakedWidgets bracedScript ∧
      (∀ line ∈ (trimmedLines bracedScript).take 3, hasWordCall "disable" line = false) ∧
      (trimmedLines bracedScript)[2]?.any opens = true := by
    decide +kernel
  obtain ⟨hmain, hone, hcloses, hmem, hdisable, hopens⟩ := hscript
  obtain ⟨-, hleaked, hbound⟩ :=
    leakedWidgets_tracked (scripted bracedScript) bracedScript 0 hmain hone
  obtain ⟨hle, hends⟩ := hbound 2 hcloses
  exact ⟨((hleaked _ _).mp hmem).1, hle.mpr (.inr ((hends hdisable).mpr (.inl hopens)))⟩

/-- The line that closes `enable` has no other brace. -/
def plainScript : Text :=
  "enable() \x7b\n\x7d\nbuild() \x7b\n    this._label = new St.Label();\n\x7d\n".toList

/-- A widget of the next method is reported. -/
theorem leakedWidgets_beyond :
    mainCode? (scripted plainScript) = .ok (some plainScript) ∧
      OneEnable (trimmedLines plainScript) 0 ∧ (trimmedLines plainScript)[0]?.any opens = true ∧
      ClosesAt (trimmedLines plainScript) 0 1 ∧
      leakedWidgets plainScript = [("_label".toList, 4)] := by
  decide +kernel

end ExtensionAudit.Lifecycle
