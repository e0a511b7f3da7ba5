import Mathlib
import ExtensionAudit.Proofs.Pattern.Scan

/-!
# What a pattern takes

`Node.Takes` says which pieces of a text a node matches, where a piece stands between what comes
before and what comes after it, and which marks it sets.  It says nothing about the order in which
the pieces are tried.  Main statements: a node has a way to a place iff it takes the piece up to
there (`Node.mem_ways_iff`), a pattern is found in a text iff it takes some piece of it
(`Plain.found_iff`), and a search finds the leftmost of these pieces (`Plain.of_search`).

A search for all matches skips what lies inside of one: each place where the pattern matches is the
start of a match that is found, or lies inside of one (`Plain.mem_all_or_inside`).
-/

namespace ExtensionAudit.Pattern

/-! ## Places between two texts -/

/-- The place between two parts of a text. -/
def Cursor.between (front back : Text) : Cursor := ⟨front.length, front.reverse, back⟩

@[simp] theorem Cursor.place_between (front back : Text) :
    (Cursor.between front back).place = front.length := rfl

@[simp] theorem Cursor.after_between (front back : Text) :
    (Cursor.between front back).after = back := rfl

@[simp] theorem Cursor.before_between (front back : Text) :
    (Cursor.between front back).before = front.reverse := rfl

theorem Cursor.forward_between (front piece back : Text) :
    (Cursor.between front (piece ++ back)).forward piece.length =
      Cursor.between (front ++ piece) back := by
  simp [Cursor.forward, Cursor.between]

theorem Cursor.forward_between_take (front rest : Text) {n : Nat} (h : n ≤ rest.length) :
    (Cursor.between front rest).forward n =
      Cursor.between (front ++ rest.take n) (rest.drop n) := by
  have hpiece := Cursor.forward_between front (rest.take n) (rest.drop n)
  rwa [List.take_append_drop, List.length_take_of_le h] at hpiece

/-! ## Pieces -/

/-- The node takes `piece` where it stands between `front` and `back`, and goes from one list of
marks to another.  What is outside the patterns treated here takes nothing. -/
@[simp]
def Node.Takes : Node → Text → Text → Text → Marks → Marks → Prop
  | .empty, _, piece, _, ms, ns => piece = [] ∧ ns = ms
  | .one t, _, piece, _, ms, ns => (∃ x, piece = [x] ∧ t.passes x = true) ∧ ns = ms
  | .seq a b, front, piece, back, ms, ns => ∃ p q os, piece = p ++ q ∧
      a.Takes front p (q ++ back) ms os ∧ b.Takes (front ++ p) q back os ns
  | .alt a b, front, piece, back, ms, ns =>
      a.Takes front piece back ms ns ∨ b.Takes front piece back ms ns
  | .rep .greedy least most (.one t), _, piece, _, ms, ns =>
      (least ≤ piece.length ∧ ∀ r, most = some r → piece.length ≤ r) ∧
        (∀ x ∈ piece, t.passes x = true) ∧ ns = ms
  | .rep .lazy least none (.one t), _, piece, _, ms, ns =>
      least ≤ piece.length ∧ (∀ x ∈ piece, t.passes x = true) ∧ ns = ms
  | .rep .greedy 0 (some 1) body, front, piece, back, ms, ns =>
      body.Takes front piece back ms ns ∨ (piece = [] ∧ ns = ms)
  | .group i body, front, piece, back, ms, ns => ∃ os,
      body.Takes front piece back
        (ms.put (openMark i) (Cursor.between front (piece ++ back))) os ∧
      ns = os.put (closeMark i) (Cursor.between (front ++ piece) back)
  | .anchor a, front, piece, back, ms, ns =>
      piece = [] ∧ a.holds (Cursor.between front back) = true ∧ ns = ms
  | _, _, _, _, _, _ => False

/-- The numbers of characters after which a repetition can stop. -/
theorem mem_stops {t : CharTest} {need n : Nat} {room : Option Nat} {xs : List Char} :
    n ∈ stops t need room xs ↔ (need ≤ n ∧ ∀ r, room = some r → n ≤ r) ∧
      n ≤ (xs.takeWhile t.passes).length := by
  induction xs generalizing need room n with
  | nil => cases need <;> simp [stops] <;> omega
  | cons x rest ih =>
      by_cases hgo : (room != some 0 && t.passes x) = true
      · obtain ⟨hroom, hx⟩ := Bool.and_eq_true_iff.mp hgo
        rw [stops, if_pos hgo, List.mem_append, List.mem_map, List.takeWhile_cons_of_pos hx]
        simp only [ih, List.length_cons]
        cases n with
        | zero => cases need <;> simp
        | succ n =>
            have hneed : n + 1 ∈ (if (need == 0) = true then [0] else []) ↔ False := by
              split <;> simp
            rw [hneed, or_false]
            cases room with
            | none => simp
            | some r =>
                have hr : r ≠ 0 := by simpa using hroom
                simp; omega
      · have hstop : n ≤ ((x :: rest).takeWhile t.passes).length ∧ (∀ r, room = some r → n ≤ r) ↔
            n = 0 := by
          constructor
          · rintro ⟨hrun, hroom⟩
            by_cases hx : t.passes x = true
            · have hzero : room = some 0 := by simpa [hx] using hgo
              exact Nat.le_zero.mp (hroom 0 hzero)
            · simpa [List.takeWhile_cons_of_neg hx] using hrun
          · rintro rfl
            simp
        have hmem : n ∈ stops t need room (x :: rest) ↔ need = 0 ∧ n = 0 := by
          rw [stops, if_neg hgo]
          split
          next h => simp [beq_iff_eq.mp h]
          next h => simp [mt beq_iff_eq.mpr h]
        rw [hmem, and_right_comm, and_assoc, hstop]
        constructor <;> rintro ⟨h, rfl⟩ <;> simp_all

/-- Where a run of characters can stop, in terms of the piece up to there. -/
theorem exists_stop_iff {q : Char → Bool} {P : Nat → Prop} {front rest : Text} {ms : Marks}
    {w : Cursor × Marks} :
    (∃ n, (P n ∧ n ≤ (rest.takeWhile q).length) ∧
        ((Cursor.between front rest).forward n, ms) = w) ↔
      ∃ piece back, rest = piece ++ back ∧ w.1 = Cursor.between (front ++ piece) back ∧
        P piece.length ∧ (∀ x ∈ piece, q x = true) ∧ w.2 = ms := by
  constructor
  · rintro ⟨n, ⟨hP, hn⟩, rfl⟩
    have hlength : n ≤ rest.length := hn.trans (List.takeWhile_prefix q).length_le
    have hpiece : rest.take n <+: rest.takeWhile q :=
      List.prefix_of_prefix_length_le (List.take_prefix ..) (List.takeWhile_prefix q)
        ((List.length_take_le ..).trans hn)
    refine ⟨rest.take n, rest.drop n, (List.take_append_drop n rest).symm,
      Cursor.forward_between_take front rest hlength, ?_, ?_, rfl⟩
    · rwa [List.length_take_of_le hlength]
    · exact fun x hx => List.mem_takeWhile_imp (hpiece.mem hx)
  · obtain ⟨c, ns⟩ := w
    rintro ⟨piece, back, rfl, hc, hP, hq, hns⟩
    refine ⟨piece.length, ⟨hP, ?_⟩, ?_⟩
    · rw [List.takeWhile_append_of_pos hq, List.length_append]
      exact Nat.le_add_right ..
    · rw [Cursor.forward_between]
      exact Prod.ext hc.symm hns.symm

theorem Node.takes_optional {n : Node} (hone : ∀ t, n ≠ .one t) {front piece back : Text}
    {ms ns : Marks} :
    (Node.rep .greedy 0 (some 1) n).Takes front piece back ms ns ↔
      n.Takes front piece back ms ns ∨ (piece = [] ∧ ns = ms) := by
  cases n with
  | one t => exact absurd rfl (hone t)
  | _ => rfl

/-- A node has a way to a place iff it takes the piece up to there. -/
theorem Node.mem_ways_iff {n : Node} {front rest : Text} {ms : Marks} {w : Cursor × Marks} :
    w ∈ n.ways (Cursor.between front rest) ms ↔ ∃ piece back, rest = piece ++ back ∧
      w.1 = Cursor.between (front ++ piece) back ∧ n.Takes front piece back ms w.2 := by
  generalize hplace : Cursor.between front rest = place
  fun_induction Node.ways n place ms generalizing front rest w with
  | case1 place ms =>
      subst hplace
      simp [Prod.ext_iff]
  | case2 t place ms h =>
      subst hplace
      obtain ⟨x, back, rfl⟩ : ∃ x back, rest = x :: back := by
        cases rest with
        | nil => cases h
        | cons x back => exact ⟨x, back, rfl⟩
      have hstep := Cursor.forward_between front [x] back
      rw [List.singleton_append, List.length_singleton] at hstep
      rw [List.mem_singleton, hstep]
      constructor
      · rintro rfl
        exact ⟨[x], back, rfl, rfl, ⟨x, rfl, h⟩, rfl⟩
      · rintro ⟨_, back', heq, hc, ⟨y, rfl, -⟩, hms⟩
        obtain ⟨rfl, rfl⟩ := List.cons.inj heq
        exact Prod.ext hc hms
  | case3 t place ms h =>
      subst hplace
      refine iff_of_false List.not_mem_nil ?_
      rintro ⟨_, back, rfl, -, ⟨y, rfl, hy⟩, -⟩
      exact h hy
  | case4 a b place ms ihb iha =>
      subst hplace
      rw [List.mem_flatMap]
      constructor
      · rintro ⟨u, hu, hw⟩
        obtain ⟨p, rest', rfl, hu, ha⟩ := (iha rfl).mp hu
        obtain ⟨q, back, rfl, hc, hb⟩ := (ihb u hu.symm).mp hw
        exact ⟨p ++ q, back, by simp, by simpa using hc, p, q, u.2, rfl, ha, hb⟩
      · rintro ⟨_, back, rfl, hc, p, q, os, rfl, ha, hb⟩
        refine ⟨(Cursor.between (front ++ p) (q ++ back), os), ?_, ?_⟩
        · exact (iha rfl).mpr ⟨p, q ++ back, by simp, rfl, ha⟩
        · exact (ihb _ rfl).mpr ⟨q, back, rfl, by simpa using hc, hb⟩
  | case5 a b place ms iha ihb =>
      rw [List.mem_append, iha hplace, ihb hplace]
      simp only [Node.Takes, and_or_left, exists_or]
  | case6 least most t place ms =>
      subst hplace
      rw [List.mem_map]
      simp only [mem_stops, Cursor.after_between]
      exact exists_stop_iff
  | case7 least t place ms =>
      subst hplace
      rw [List.mem_map]
      simp only [List.mem_reverse, mem_stops_none, Cursor.after_between]
      exact exists_stop_iff
  | case8 body place ms hone ih =>
      subst hplace
      rw [List.mem_append, ih rfl, List.mem_singleton]
      simp only [Node.takes_optional hone, and_or_left, exists_or]
      simp [Prod.ext_iff]
  | case9 i body place ms ih =>
      subst hplace
      rw [List.mem_map]
      constructor
      · rintro ⟨u, hu, rfl⟩
        obtain ⟨piece, back, rfl, hc, hbody⟩ := (ih rfl).mp hu
        exact ⟨piece, back, rfl, hc, u.2, hbody, by rw [hc]⟩
      · rintro ⟨piece, back, rfl, hc, os, hbody, hns⟩
        refine ⟨(w.1, os), (ih rfl).mpr ⟨piece, back, rfl, hc, hbody⟩, ?_⟩
        exact Prod.ext rfl (by rw [hns, hc])
  | case10 a place ms h =>
      subst hplace
      simp [Prod.ext_iff, h]
  | case11 a place ms h =>
      subst hplace
      refine iff_of_false List.not_mem_nil ?_
      rintro ⟨_, back, rfl, -, rfl, hholds, -⟩
      exact h hholds
  | case12 n place ms =>
      refine iff_of_false List.not_mem_nil ?_
      rintro ⟨piece, back, -, -, h⟩
      rw [Node.Takes] at h <;> assumption

/-- A piece is no shorter than the node is wide. -/
theorem Node.Takes.width_le {n : Node} {front piece back : Text} {ms ns : Marks}
    (h : n.Takes front piece back ms ns) : n.width.least ≤ piece.length := by
  fun_induction Node.Takes n front piece back ms ns with
  | case1 => exact Nat.zero_le _
  | case2 =>
      obtain ⟨⟨x, rfl, -⟩, -⟩ := h
      exact le_rfl
  | case3 a b front piece back ms ns iha ihb =>
      obtain ⟨p, q, os, rfl, ha, hb⟩ := h
      have hp := iha p q os ha
      have hq := ihb p q os hb
      rw [List.length_append]
      exact (Nat.min_le_left ..).trans (Nat.add_le_add hp hq)
  | case4 a b front piece back ms ns iha ihb =>
      rcases h with h | h
      · exact (Nat.min_le_left ..).trans (iha h)
      · exact (Nat.min_le_right ..).trans (ihb h)
  | case5 least most t front piece back ms ns =>
      refine (Nat.min_le_left ..).trans ?_
      simpa [Node.width] using h.1.1
  | case6 least t front piece back ms ns =>
      refine (Nat.min_le_left ..).trans ?_
      simpa [Node.width] using h.1
  | case7 body front piece back ms ns _ ih =>
      refine (Nat.min_le_left ..).trans ?_
      simp
  | case8 i body front piece back ms ns ih =>
      obtain ⟨os, hbody, -⟩ := h
      exact ih os hbody
  | case9 => exact Nat.zero_le _
  | case10 => exact h.elim

/-- Which pieces are taken does not depend on the marks. -/
theorem Node.Takes.with_marks {n : Node} {front piece back : Text} {ms ns : Marks}
    (h : n.Takes front piece back ms ns) (os : Marks) :
    ∃ ps, n.Takes front piece back os ps := by
  fun_induction Node.Takes n front piece back ms ns generalizing os with
  | case1 => exact ⟨os, h.1, rfl⟩
  | case2 => exact ⟨os, h.1, rfl⟩
  | case3 a b front piece back ms ns iha ihb =>
      obtain ⟨p, q, ms', rfl, ha, hb⟩ := h
      obtain ⟨os', ha'⟩ := iha p q ms' ha os
      obtain ⟨ps, hb'⟩ := ihb p q ms' hb os'
      exact ⟨ps, p, q, os', rfl, ha', hb'⟩
  | case4 a b front piece back ms ns iha ihb =>
      rcases h with h | h
      · exact (iha h os).imp fun _ => .inl
      · exact (ihb h os).imp fun _ => .inr
  | case5 => exact ⟨os, h.1, h.2.1, rfl⟩
  | case6 => exact ⟨os, h.1, h.2.1, rfl⟩
  | case7 body front piece back ms ns hone ih =>
      simp only [Node.takes_optional hone] at h ⊢
      rcases h with h | ⟨rfl, -⟩
      · exact (ih h os).imp fun _ => .inl
      · exact ⟨os, .inr ⟨rfl, rfl⟩⟩
  | case8 i body front piece back ms ns ih =>
      obtain ⟨ms', hbody, -⟩ := h
      obtain ⟨ps, hbody'⟩ := ih ms' hbody (os.put (openMark i) (.between front (piece ++ back)))
      exact ⟨_, ps, hbody', rfl⟩
  | case9 => exact ⟨os, h.1, h.2.1, rfl⟩
  | case10 => exact h.elim

/-- Marks that are set are kept, and none is set beyond the second bound. -/
theorem Node.Takes.prefix_marks {n : Node} {b d : Nat} (hn : n.Flat b d) {front piece back : Text}
    {ms ns : Marks} (h : n.Takes front piece back ms ns) (hms : ms.length ≤ b) :
    ms <+: ns ∧ ns.length ≤ d := by
  induction hn generalizing front piece back ms ns with
  | empty | one | anchor =>
      obtain rfl : ns = ms := by simp_all
      exact ⟨List.prefix_rfl, hms⟩
  | rep | lazy =>
      obtain rfl : ns = ms := by simp_all
      exact ⟨List.prefix_rfl, hms⟩
  | seq _ _ iha ihb =>
      obtain ⟨p, q, os, -, ha, hb⟩ := h
      obtain ⟨hos, hlength⟩ := iha ha hms
      obtain ⟨hns, hlength⟩ := ihb hb hlength
      exact ⟨hos.trans hns, hlength⟩
  | alt _ _ iha ihb =>
      rcases h with h | h
      · exact (iha h hms).imp_right fun hlength => hlength.trans (Nat.le_max_left ..)
      · exact (ihb h hms).imp_right fun hlength => hlength.trans (Nat.le_max_right ..)
  | optional hone hn ih =>
      rcases (Node.takes_optional hone).mp h with h | ⟨-, rfl⟩
      · exact ih h hms
      · exact ⟨List.prefix_rfl, hms.trans hn.le⟩
  | @group b i n hb _ ih =>
      obtain ⟨os, hbody, rfl⟩ := h
      have hms : ms.length ≤ openMark i := hms.trans hb
      obtain ⟨hos, hlength⟩ := ih hbody (by rw [Marks.length_put hms, openMark, closeMark])
      refine ⟨((Marks.prefix_put hms _).trans hos).trans (Marks.prefix_put hlength _), ?_⟩
      exact (Marks.length_put hlength _).le

/-- The node takes `piece` where it stands between `front` and `back`. -/
def Node.Spans (n : Node) (front piece back : Text) : Prop :=
  ∃ ms, n.Takes front piece back [] ms

namespace Node

variable {n a b : Node} {front piece back : Text}

theorem Takes.spans {ms ns : Marks} (h : n.Takes front piece back ms ns) :
    n.Spans front piece back :=
  h.with_marks []

theorem spans_empty : Node.empty.Spans front piece back ↔ piece = [] := by
  simp [Spans]

theorem spans_seq : (Node.seq a b).Spans front piece back ↔
    ∃ p q, piece = p ++ q ∧ a.Spans front p (q ++ back) ∧ b.Spans (front ++ p) q back := by
  constructor
  · rintro ⟨ms, p, q, os, hpiece, ha, hb⟩
    exact ⟨p, q, hpiece, ha.spans, hb.spans⟩
  · rintro ⟨p, q, hpiece, ⟨os, ha⟩, ms, hb⟩
    obtain ⟨ps, hb⟩ := hb.with_marks os
    exact ⟨ps, p, q, os, hpiece, ha, hb⟩

theorem spans_alt : (Node.alt a b).Spans front piece back ↔
    a.Spans front piece back ∨ b.Spans front piece back :=
  exists_or

theorem spans_group {i : Nat} :
    (Node.group i n).Spans front piece back ↔ n.Spans front piece back := by
  constructor
  · rintro ⟨_, ms, h, -⟩
    exact h.spans
  · rintro ⟨_, h⟩
    obtain ⟨ms, h⟩ := h.with_marks (.put [] (openMark i) (.between front (piece ++ back)))
    exact ⟨_, ms, h, rfl⟩

theorem spans_optional (hone : ∀ t, n ≠ .one t) :
    (Node.rep .greedy 0 (some 1) n).Spans front piece back ↔
      n.Spans front piece back ∨ piece = [] := by
  simp only [Spans, takes_optional hone, exists_or]
  simp

theorem spans_anchor {k : Anchor} : (Node.anchor k).Spans front piece back ↔
    piece = [] ∧ k.holds (.between front back) = true := by
  simp [Spans]

theorem takes_literal {c : Char} {ms ns : Marks} :
    (Node.one (.literal c.toNat)).Takes front piece back ms ns ↔ piece = [c] ∧ ns = ms := by
  simp [CharTest.passes, Char.toNat_inj]

theorem spans_literal {c : Char} :
    (Node.one (.literal c.toNat)).Spans front piece back ↔ piece = [c] := by
  simp only [Spans, takes_literal, exists_and_left, exists_eq, and_true]

/-- A spelled word is taken before the rest of the pattern. -/
theorem takes_spelled {w : Text} {ms ns : Marks} :
    (Node.spelled w n).Takes front piece back ms ns ↔
      ∃ q, piece = w ++ q ∧ n.Takes (front ++ w) q back ms ns := by
  induction w generalizing front piece ms with
  | nil => simp [Node.spelled]
  | cons x w ih =>
      simp only [Node.spelled, Node.Takes.eq_3, takes_literal, ih]
      constructor
      · rintro ⟨_, _, _, rfl, ⟨rfl, rfl⟩, q, rfl, h⟩
        exact ⟨q, rfl, by simpa using h⟩
      · rintro ⟨q, rfl, h⟩
        exact ⟨[x], w ++ q, ms, rfl, ⟨rfl, rfl⟩, q, rfl, by simpa using h⟩

theorem spans_spelled {w : Text} : (Node.spelled w n).Spans front piece back ↔
    ∃ q, piece = w ++ q ∧ n.Spans (front ++ w) q back := by
  simp only [Spans, takes_spelled]
  rw [exists_comm]
  simp only [exists_and_left]

/-- The characters of a word one after the other. -/
def word (w : Text) : Node := .sequence (w.map fun c => .one (.literal c.toNat))

theorem flat_word (w : Text) {d : Nat} : (word w).Flat d d := by
  induction w with
  | nil => exact .empty
  | cons c w ih =>
      cases w with
      | nil => exact .one
      | cons c' w => exact .seq .one ih

/-- A word spans itself. -/
theorem spans_word {w : Text} : (word w).Spans front piece back ↔ piece = w := by
  induction w generalizing front piece with
  | nil => exact spans_empty
  | cons c w ih =>
      cases w with
      | nil => exact spans_literal
      | cons c' w =>
          have hseq : word (c :: c' :: w) = .seq (.one (.literal c.toNat)) (word (c' :: w)) := rfl
          simp only [hseq, spans_seq, spans_literal, ih]
          constructor
          · rintro ⟨_, _, rfl, rfl, rfl⟩
            rfl
          · rintro rfl
            exact ⟨[c], _, rfl, rfl, rfl⟩

/-- One of some words. -/
def oneOf : List Text → Node
  | [] => .empty
  | [w] => .word w
  | w :: rest => .alt (.word w) (oneOf rest)

theorem flat_oneOf (ws : List Text) {d : Nat} : (oneOf ws).Flat d d := by
  fun_induction oneOf ws with
  | case1 => exact .empty
  | case2 w => exact flat_word w
  | case3 w rest _ ih => simpa using (flat_word w).alt ih

theorem spans_oneOf {ws : List Text} (h : ws ≠ []) :
    (oneOf ws).Spans front piece back ↔ piece ∈ ws := by
  fun_induction oneOf ws with
  | case1 => exact absurd rfl h
  | case2 w => rw [spans_word, List.mem_singleton]
  | case3 w rest hrest ih => rw [spans_alt, spans_word, ih hrest, List.mem_cons]

theorem spans_many {t : CharTest} : (Node.rep .greedy 0 none (.one t)).Spans front piece back ↔
    ∀ x ∈ piece, t.passes x = true := by
  simp [Spans]

/-- Any number of blanks. -/
def blanks : Node :=
  .rep .greedy 0 none (.one (.inSet ⟨[.cls .blank false], false, false, false⟩))

theorem takes_blanks {ms ns : Marks} : blanks.Takes front piece back ms ns ↔
    (∀ x ∈ piece, Text.isBlank x = true) ∧ ns = ms := by
  simp [blanks, CharTest.passes, CharSet.has, Member.covers, CharClass.has]

theorem spans_blanks :
    blanks.Spans front piece back ↔ ∀ x ∈ piece, Text.isBlank x = true := by
  simp [Spans, takes_blanks]

/-- A node, blanks and an opening parenthesis. -/
def called (n : Node) : Node := .seq n (.seq .blanks (.one (.literal '('.toNat)))

theorem Flat.called {d e : Nat} (h : n.Flat d e) : n.called.Flat d e :=
  h.seq (.seq (.rep rfl) .one)

theorem spans_called : n.called.Spans front piece back ↔ ∃ p gap, piece = p ++ (gap ++ ['(']) ∧
    n.Spans front p (gap ++ '(' :: back) ∧ ∀ x ∈ gap, Text.isBlank x = true := by
  simp only [called, spans_seq, spans_blanks, spans_literal]
  constructor
  · rintro ⟨p, _, rfl, hp, gap, _, rfl, hgap, rfl⟩
    exact ⟨p, gap, rfl, by simpa using hp, hgap⟩
  · rintro ⟨p, gap, rfl, hp, hgap⟩
    exact ⟨p, _, rfl, by simpa using hp, gap, _, rfl, hgap, rfl⟩

/-- The test that all characters pass: blanks and all others. -/
def anyTest : CharTest := .inSet ⟨[.cls .blank false, .cls .blank true], false, false, false⟩

theorem passes_anyTest (x : Char) : anyTest.passes x = true := by
  cases h : Text.isBlank x <;>
    simp [anyTest, CharTest.passes, CharSet.has, Member.covers, CharClass.has, h]

end Node

/-- Before a word character a boundary is where no word runs on. -/
theorem holds_boundary {front rest : Text} {x : Char} (hx : Text.isWord x = true) :
    Anchor.holds (.between front (x :: rest)) (.boundary false) =
      !front.getLast?.any Text.isWord := by
  have hword : CharClass.word.has false = Text.isWord := by
    funext y
    simp [CharClass.has]
  simp [Anchor.holds, atBoundary, hword, hx, List.head?_reverse]

/-- One of the words is called in the text, and `after` follows the opening parenthesis. -/
def Calls (words : List Text) (after t : Text) : Prop :=
  ∃ front word gap, t = front ++ (word ++ (gap ++ '(' :: after)) ∧ word ∈ words ∧
    ∀ x ∈ gap, Text.isBlank x = true

theorem Calls.append {words : List Text} {after t : Text} (h : Calls words after t)
    (front back : Text) : Calls words (after ++ back) (front ++ (t ++ back)) := by
  obtain ⟨front', word, gap, rfl, hword, hgap⟩ := h
  exact ⟨front ++ front', word, gap, by simp, hword, hgap⟩

/-- Places where nothing is found can be left out at the end. -/
theorem findSome?_range_of_none {β : Type} {f : Nat → Option β} {k n : Nat} (hk : k ≤ n)
    (hnone : ∀ i, k ≤ i → i < n → f i = none) :
    (List.range n).findSome? f = (List.range k).findSome? f := by
  induction n, hk using Nat.le_induction with
  | base => rfl
  | succ n hk ih =>
      have hlast : f n = none := hnone n hk n.lt_succ_self
      rw [List.range_succ, List.findSome?_append, List.findSome?_singleton, hlast, Option.or_none]
      exact ih fun i hki hi => hnone i hki (hi.trans n.lt_succ_self)

theorem search_eq (p : Pattern) (t : Text) :
    p.search t = p.searchFrom ([] ++ t).length (Cursor.between [] t) false := rfl

/-- The text of the first group, from its marks. -/
theorem Found.group_one_between {m : Found} {front piece back : Text} {ms : Marks}
    (h : m.marks = some (.between front (piece ++ back)) ::
      some (.between (front ++ piece) back) :: ms) :
    m.group 1 = piece := by
  obtain ⟨span, marks⟩ := m
  obtain rfl : marks = _ := h
  rw [← Cursor.forward_between, Found.group_one]
  simp

theorem all_eq_nil_iff (p : Pattern) (t : Text) : p.all t = [] ↔ p.found t = false := by
  rw [all, allFrom, found, search]
  cases p.searchFrom t.length (Cursor.start t) false <;> simp

/-! ## First ways -/

/-- The ways of `n` are the ways of `a`, each followed by those of `b`. -/
def Node.Splits (n a b : Node) : Prop :=
  ∀ c ms, n.ways c ms = (a.ways c ms).flatMap fun w => b.ways w.1 w.2

theorem Node.splits_seq (a b : Node) : (Node.seq a b).Splits a b := fun _ _ => rfl

theorem Node.Splits.seq {n a b : Node} (h : n.Splits a b) (m : Node) :
    (Node.seq m n).Splits (.seq m a) b := by
  intro c ms
  simp only [Node.ways, h _ _, List.flatMap_assoc]

theorem Node.Splits.spelled {n a b : Node} (h : n.Splits a b) (w : Text) :
    (Node.spelled w n).Splits (.spelled w a) b := by
  induction w with
  | nil => exact h
  | cons x w ih => exact ih.seq _

/-- If the first part has only one way, the second part decides. -/
theorem Node.Splits.head?_ways {n a b : Node} (h : n.Splits a b) {c : Cursor} {ms : Marks}
    {w : Cursor × Marks} (hw : w ∈ a.ways c ms) (honly : ∀ u ∈ a.ways c ms, u = w) :
    (n.ways c ms).head? = (b.ways w.1 w.2).head? := by
  have hpos : 0 < (a.ways c ms).length := List.length_pos_of_mem hw
  rw [h, List.head?_flatMap, List.eq_replicate_of_mem honly,
    List.findSome?_replicate_of_pos hpos]

/-- A lazy repetition stops at the first character that follows it. -/
theorem head?_ways_lazy {t : CharTest} {c : Char} {i : Nat} {front body back : Text} {ms : Marks}
    (hbody : ∀ x ∈ body, t.passes x = true) (hfirst : c ∉ body) :
    ((Node.seq (.group i (.rep .lazy 0 none (.one t))) (.one (.literal c.toNat))).ways
      (.between front (body ++ c :: back)) ms).head? =
    some (.between (front ++ body ++ [c]) back,
      (ms.put (openMark i) (.between front (body ++ c :: back))).put (closeMark i)
        (.between (front ++ body) (c :: back))) := by
  have hplaces : (stops t 0 none (body ++ c :: back)).reverse =
      List.range' 0 body.length ++ body.length ::
        List.range' (body.length + 1)
          (((body ++ c :: back).takeWhile t.passes).length - body.length) := by
    have hlength : body.length ≤ ((body ++ c :: back).takeWhile t.passes).length := by
      rw [List.takeWhile_append_of_pos hbody, List.length_append]
      exact Nat.le_add_right ..
    have hsplit : ((body ++ c :: back).takeWhile t.passes).length + 1 - 0 =
        body.length + (((body ++ c :: back).takeWhile t.passes).length - body.length + 1) := by
      omega
    rw [stops_none, List.reverse_reverse, hsplit, ← List.range'_append_1, Nat.zero_add,
      List.range'_succ]
  rw [Node.ways, List.head?_flatMap, Node.ways, Node.ways, List.findSome?_map, List.findSome?_map,
    Cursor.after_between, hplaces, List.findSome?_eq_some_iff]
  refine ⟨_, _, _, rfl, ?_, fun n hn => ?_⟩
  · have hstep := Cursor.forward_between (front ++ body) [c] back
    rw [List.singleton_append, List.length_singleton] at hstep
    simp [Cursor.forward_between, Node.ways, CharTest.passes, hstep]
  · have hn : n < body.length := by simpa using hn
    have hne : body[n].toNat ≠ c.toNat := fun heq =>
      hfirst (Char.toNat_inj.mp heq ▸ List.getElem_mem hn)
    have hnext : (body ++ c :: back)[n]? = some body[n] := by
      rw [List.getElem?_append_left hn, List.getElem?_eq_getElem hn]
    simp [Node.ways, CharTest.passes, List.head?_drop, hnext, hne]

/-! ## Matches -/

/-- The least length to search for is at most that of the pattern. -/
theorem Start.least_of_le (narrow : Bool) (n : Node) :
    (Start.of narrow n).least ≤ n.width.least := by
  unfold Start.of
  dsimp only
  split
  next => exact Nat.zero_le _
  next =>
      split
      next => exact le_rfl
      next => split <;> exact le_rfl

/-- If a match must start with a character of a set, it is the set that the node starts with. -/
theorem Start.exists_firstSet {narrow : Bool} {n : Node} {s : CharSet}
    (h : (Start.of narrow n).set = some s) :
    ∃ r, n.firstSet? = some r ∧ s = { r with narrow } := by
  unfold Start.of at h
  dsimp only at h
  split at h
  next => cases h
  next =>
      split at h
      next => cases h
      next =>
          split at h
          next r hr => exact ⟨r, hr, (Option.some_inj.mp h).symm⟩
          next => cases h

/-- A pattern of the kind treated here that is tried wherever it can match: if a match must start
with a character of a set, all pieces start with one. -/
structure Plain (p : Pattern) (b : Nat) : Prop where
  /-- The groups are numbered from left to right, and only single characters are repeated. -/
  flat : p.node.Flat 0 b
  /-- No place is passed over because of the next character. -/
  starts : ∀ s, p.start.set = some s → ∀ front piece back,
    p.node.Spans front piece back → (piece ++ back).head?.any s.has = true
  /-- No place is passed over because too little follows. -/
  least : p.start.least ≤ p.node.width.least

namespace Plain

/-- A pattern that may start with any character is tried everywhere. -/
theorem of_flat {n : Node} {b least : Nat} (hflat : n.Flat 0 b) (hleast : least ≤ n.width.least) :
    Plain ⟨n, [], ⟨least, none, false⟩⟩ b where
  flat := hflat
  starts := by rintro s ⟨⟩
  least := hleast

variable {p : Pattern} {b : Nat} {front rest t : Text} {m : Found}

/-- A plain pattern matches by the first of its ways. -/
theorem matchAt_eq (h : p.Plain b) (front rest : Text) :
    p.matchAt (Cursor.between front rest) =
      (p.node.ways (Cursor.between front rest) []).head?.map fun w =>
        ⟨⟨Cursor.between front rest, w.1⟩, w.2⟩ := by
  have hfirst : p.matchFrom (fun _ => true) (Cursor.between front rest) =
      (p.node.ways (Cursor.between front rest) []).head?.map fun w =>
        ⟨⟨Cursor.between front rest, w.1⟩, w.2⟩ := by
    rw [matchFrom_eq_ways h.flat]
    cases p.node.ways (Cursor.between front rest) [] <;> rfl
  rw [matchAt, hfirst]
  split
  next => rfl
  next hstart =>
      cases hways : p.node.ways (Cursor.between front rest) [] with
      | nil => rfl
      | cons w ws =>
          exfalso
          have hw : w ∈ p.node.ways (Cursor.between front rest) [] := hways ▸ List.mem_cons_self
          obtain ⟨piece, back, rfl, -, htakes⟩ := Node.mem_ways_iff.mp hw
          refine hstart (Option.all_eq_true _ _ |>.mpr fun s hs => ?_)
          exact h.starts s hs front piece back ⟨w.2, htakes⟩

theorem of_matchAt (h : p.Plain b) (hm : p.matchAt (Cursor.between front rest) = some m) :
    ∃ piece back, rest = piece ++ back ∧
      m.span = ⟨Cursor.between front rest, Cursor.between (front ++ piece) back⟩ ∧
      p.node.Takes front piece back [] m.marks := by
  rw [h.matchAt_eq, Option.map_eq_some_iff] at hm
  obtain ⟨w, hw, rfl⟩ := hm
  obtain ⟨piece, back, hrest, hc, htakes⟩ := Node.mem_ways_iff.mp (List.mem_of_mem_head? hw)
  exact ⟨piece, back, hrest, by rw [← hc], htakes⟩

/-- A plain pattern does not match at a place iff it takes nothing there. -/
theorem matchAt_eq_none_iff (h : p.Plain b) :
    p.matchAt (Cursor.between front rest) = none ↔
      ∀ piece back ms, rest = piece ++ back → ¬ p.node.Takes front piece back [] ms := by
  rw [h.matchAt_eq, Option.map_eq_none_iff, List.head?_eq_none_iff, List.eq_nil_iff_forall_not_mem]
  constructor
  · intro hnone piece back ms hrest htakes
    exact hnone (Cursor.between (front ++ piece) back, ms)
      (Node.mem_ways_iff.mpr ⟨piece, back, hrest, rfl, htakes⟩)
  · intro hnone w hw
    obtain ⟨piece, back, hrest, -, htakes⟩ := Node.mem_ways_iff.mp hw
    exact hnone piece back w.2 hrest htakes

/-! ## Searches -/

/-- A search tries one place after the other. -/
theorem searchFrom_eq (h : p.Plain b) (front rest : Text) :
    p.searchFrom (front ++ rest).length (Cursor.between front rest) false =
      (List.range (rest.length + 1)).findSome? fun n =>
        p.matchAt ((Cursor.between front rest).forward n) := by
  have hlength : (front ++ rest).length - (Cursor.between front rest).place = rest.length := by
    simp
  rw [searchFrom, hlength]
  simp only [Bool.false_eq_true, if_false]
  rw [searchOn_eq]
  refine (findSome?_range_of_none (Nat.min_le_right ..) fun n hn hlast => ?_).symm
  have hrest : n ≤ rest.length := Nat.lt_succ_iff.mp hlast
  rw [Cursor.forward_between_take front rest hrest, h.matchAt_eq_none_iff]
  intro piece back ms hpiece htakes
  have hwidth := h.least.trans htakes.width_le
  have hroom := congrArg List.length hpiece
  rw [List.length_drop, List.length_append] at hroom
  rw [places] at hn
  simp only [Cursor.after_between] at hn
  split at hn
  next hshort => omega
  next =>
      split at hn
      next => omega
      next => omega

/-- A search fails iff there is no match at any place. -/
theorem searchFrom_eq_none_iff (h : p.Plain b) :
    p.searchFrom (front ++ rest).length (Cursor.between front rest) false = none ↔
      ∀ gap back, rest = gap ++ back →
        p.matchAt (Cursor.between (front ++ gap) back) = none := by
  rw [h.searchFrom_eq, List.findSome?_eq_none_iff]
  constructor
  · rintro hnone gap back rfl
    have hplace := hnone gap.length (List.mem_range.mpr (by simp))
    rwa [Cursor.forward_between] at hplace
  · intro hnone n hn
    have hrest : n ≤ rest.length := Nat.lt_succ_iff.mp (List.mem_range.mp hn)
    rw [Cursor.forward_between_take front rest hrest]
    exact hnone _ _ (List.take_append_drop n rest).symm

/-- A search finds the first place where the pattern matches. -/
theorem of_searchFrom (h : p.Plain b)
    (hm : p.searchFrom (front ++ rest).length (Cursor.between front rest) false = some m) :
    ∃ gap back, rest = gap ++ back ∧ p.matchAt (Cursor.between (front ++ gap) back) = some m ∧
      ∀ gap' back', rest = gap' ++ back' → gap'.length < gap.length →
        p.matchAt (Cursor.between (front ++ gap') back') = none := by
  rw [h.searchFrom_eq] at hm
  obtain ⟨n, hn, hmatch, hbefore⟩ := exists_of_findSome?_range hm
  have hrest : n ≤ rest.length := Nat.lt_succ_iff.mp hn
  refine ⟨rest.take n, rest.drop n, (List.take_append_drop n rest).symm, ?_, ?_⟩
  · rwa [← Cursor.forward_between_take front rest hrest]
  · rintro gap back rfl hlt
    rw [List.length_take_of_le hrest] at hlt
    have hnone := hbefore gap.length hlt
    rwa [Cursor.forward_between] at hnone

/-- A pattern is found in a text iff it takes a piece of it. -/
theorem found_iff (h : p.Plain b) :
    p.found t = true ↔ ∃ front piece back, t = front ++ (piece ++ back) ∧
      p.node.Spans front piece back := by
  rw [found, Option.isSome_iff_ne_none, search_eq, ne_eq, h.searchFrom_eq_none_iff]
  simp only [h.matchAt_eq_none_iff, not_forall, not_not, exists_prop, List.nil_append]
  constructor
  · rintro ⟨front, _, rfl, piece, back, ms, rfl, htakes⟩
    exact ⟨front, piece, back, rfl, ms, htakes⟩
  · rintro ⟨front, piece, back, rfl, ms, htakes⟩
    exact ⟨front, piece ++ back, rfl, piece, back, ms, rfl, htakes⟩

/-- A pattern that is made of calls is found in a text iff one of its words is called there. -/
theorem found_iff_calls (h : p.Plain b) {words : List Text}
    (hnode : ∀ front piece back, p.node.Spans front piece back ↔ ∃ word gap,
      piece = word ++ (gap ++ ['(']) ∧ word ∈ words ∧ ∀ x ∈ gap, Text.isBlank x = true) :
    p.found t = true ↔ ∃ after, Calls words after t := by
  rw [h.found_iff]
  simp only [hnode]
  constructor
  · rintro ⟨front, _, back, rfl, word, gap, rfl, hword, hgap⟩
    exact ⟨back, front, word, gap, by simp, hword, hgap⟩
  · rintro ⟨after, front, word, gap, rfl, hword, hgap⟩
    exact ⟨front, _, after, by simp, word, gap, rfl, hword, hgap⟩

/-- A search finds a piece that the pattern takes, and no piece starts before it. -/
theorem of_search (h : p.Plain b) (hm : p.search t = some m) :
    ∃ front piece back, t = front ++ (piece ++ back) ∧
      p.node.Takes front piece back [] m.marks ∧
      ∀ front' piece' back', t = front' ++ (piece' ++ back') →
        p.node.Spans front' piece' back' → front.length ≤ front'.length := by
  rw [search_eq] at hm
  obtain ⟨front, _, rfl, hmatch, hbefore⟩ := h.of_searchFrom hm
  obtain ⟨piece, back, rfl, -, htakes⟩ := h.of_matchAt hmatch
  refine ⟨front, piece, back, rfl, htakes, ?_⟩
  rintro front' piece' back' heq ⟨ms, htakes'⟩
  by_contra hlt
  exact h.matchAt_eq_none_iff.mp (hbefore front' _ heq (not_le.mp hlt)) piece' back' ms rfl htakes'

/-! ## All matches -/

/-- The search for all matches takes the first one and goes on after it, as long as pieces are not
empty. -/
theorem allFrom_succ (h : p.Plain b) (hpos : 0 < p.node.width.least) (fuel : Nat)
    (front rest : Text) :
    (p.allFrom (front ++ rest).length (fuel + 1) (Cursor.between front rest) false = [] ∧
      ∀ gap back, rest = gap ++ back → p.matchAt (Cursor.between (front ++ gap) back) = none) ∨
    ∃ gap piece back m, rest = gap ++ (piece ++ back) ∧ piece ≠ [] ∧
      p.matchAt (Cursor.between (front ++ gap) (piece ++ back)) = some m ∧
      m.start = (front ++ gap).length ∧ m.stop = (front ++ gap ++ piece).length ∧
      (∀ gap' back', rest = gap' ++ back' → gap'.length < gap.length →
        p.matchAt (Cursor.between (front ++ gap') back') = none) ∧
      p.allFrom (front ++ rest).length (fuel + 1) (Cursor.between front rest) false =
        m :: p.allFrom (front ++ gap ++ piece ++ back).length fuel
          (Cursor.between (front ++ gap ++ piece) back) false := by
  cases hsearch : p.searchFrom (front ++ rest).length (Cursor.between front rest) false with
  | none =>
      refine .inl ⟨?_, h.searchFrom_eq_none_iff.mp hsearch⟩
      rw [allFrom, hsearch]
  | some m =>
      obtain ⟨gap, _, rfl, hmatch, hbefore⟩ := h.of_searchFrom hsearch
      obtain ⟨piece, back, rfl, hspan, htakes⟩ := h.of_matchAt hmatch
      have hpiece : piece ≠ [] := List.length_pos_iff.mp (hpos.trans_le htakes.width_le)
      have hstart : m.start = (front ++ gap).length := by rw [Found.start, hspan]; rfl
      have hstop : m.stop = (front ++ gap ++ piece).length := by rw [Found.stop, hspan]; rfl
      have hmoves : (m.start == m.stop) = false := by
        have hlength := List.length_pos_iff.mpr hpiece
        rw [beq_eq_false_iff_ne, hstart, hstop]
        simp only [List.length_append]
        omega
      refine .inr ⟨gap, piece, back, m, rfl, hpiece, hmatch, hstart, hstop, hbefore, ?_⟩
      rw [allFrom, hsearch]
      simp only [hmoves, hspan, List.append_assoc]

/-- What a search for all finds is a match at some place. -/
theorem of_mem_allFrom (h : p.Plain b) (hpos : 0 < p.node.width.least) {fuel : Nat}
    (front rest : Text)
    (hm : m ∈ p.allFrom (front ++ rest).length fuel (Cursor.between front rest) false) :
    ∃ gap back, rest = gap ++ back ∧ p.matchAt (Cursor.between (front ++ gap) back) = some m := by
  induction fuel generalizing front rest with
  | zero => cases hm
  | succ fuel ih =>
      obtain ⟨hnil, -⟩ | ⟨gap, piece, back, m', rfl, -, hmatch, -, -, -, hcons⟩ :=
        h.allFrom_succ hpos fuel front rest
      · rw [hnil] at hm
        cases hm
      · rw [hcons, List.mem_cons] at hm
        rcases hm with rfl | hm
        · exact ⟨gap, piece ++ back, rfl, hmatch⟩
        · obtain ⟨gap', back', rfl, hmatch'⟩ := ih _ _ hm
          exact ⟨gap ++ (piece ++ gap'), back', by simp, by simpa using hmatch'⟩

theorem le_start_of_mem_allFrom (h : p.Plain b) (hpos : 0 < p.node.width.least) {fuel : Nat}
    {front rest : Text}
    (hm : m ∈ p.allFrom (front ++ rest).length fuel (Cursor.between front rest) false) :
    front.length ≤ m.start := by
  obtain ⟨gap, back, rfl, hmatch⟩ := h.of_mem_allFrom hpos front rest hm
  obtain ⟨piece, back, rfl, hspan, -⟩ := h.of_matchAt hmatch
  rw [Found.start, hspan]
  simp

/-- What is found is found from left to right, and does not overlap. -/
theorem pairwise_allFrom (h : p.Plain b) (hpos : 0 < p.node.width.least) (fuel : Nat)
    (front rest : Text) :
    (p.allFrom (front ++ rest).length fuel (Cursor.between front rest) false).Pairwise
      fun m m' => m.stop ≤ m'.start := by
  induction fuel generalizing front rest with
  | zero => exact .nil
  | succ fuel ih =>
      obtain ⟨hnil, -⟩ | ⟨gap, piece, back, m, rfl, -, -, -, hstop, -, hcons⟩ :=
        h.allFrom_succ hpos fuel front rest
      · rw [hnil]
        exact .nil
      · rw [hcons]
        refine List.pairwise_cons.mpr ⟨fun m' hm' => ?_, ih ..⟩
        exact hstop.trans_le (h.le_start_of_mem_allFrom hpos hm')

/-- What is found is what the pattern matches at some place. -/
theorem of_mem_all (h : p.Plain b) (hpos : 0 < p.node.width.least) (hm : m ∈ p.all t) :
    ∃ front back, t = front ++ back ∧ p.matchAt (Cursor.between front back) = some m :=
  h.of_mem_allFrom hpos [] t hm

/-- What is found is a piece of the text that the pattern takes. -/
theorem piece_of_mem_all (h : p.Plain b) (hpos : 0 < p.node.width.least) (hm : m ∈ p.all t) :
    ∃ front piece back, t = front ++ (piece ++ back) ∧ m.start = front.length ∧
      m.stop = (front ++ piece).length ∧ m.rest = back ∧ p.node.Spans front piece back := by
  obtain ⟨front, _, rfl, hmatch⟩ := h.of_mem_all hpos hm
  obtain ⟨piece, back, rfl, hspan, htakes⟩ := h.of_matchAt hmatch
  refine ⟨front, piece, back, rfl, ?_, ?_, ?_, _, htakes⟩
  · rw [Found.start, hspan]
    rfl
  · rw [Found.stop, hspan]
    rfl
  · rw [Found.rest, hspan]
    rfl

/-- No match that is found starts inside of another one. -/
theorem not_inside_of_mem_all (h : p.Plain b) (hpos : 0 < p.node.width.least) {m' : Found}
    (hm : m ∈ p.all t) (hm' : m' ∈ p.all t) : ¬ (m'.start < m.start ∧ m.start < m'.stop) := by
  rintro ⟨hstart, hstop⟩
  have hforward : m.start ≤ m.stop := by
    obtain ⟨front, _, rfl, hmatch⟩ := h.of_mem_all hpos hm
    obtain ⟨piece, back, rfl, hspan, -⟩ := h.of_matchAt hmatch
    simp [Found.start, Found.stop, hspan]
  have hapart := List.pairwise_iff_getElem.mp (h.pairwise_allFrom hpos (2 * t.length + 2) [] t)
  obtain ⟨i, hi, rfl⟩ := List.mem_iff_getElem.mp hm
  obtain ⟨j, hj, rfl⟩ := List.mem_iff_getElem.mp hm'
  rcases lt_trichotomy i j with hlt | rfl | hlt
  · exact absurd (hforward.trans (hapart i j hi hj hlt)) (not_le.mpr hstart)
  · exact lt_irrefl _ hstart
  · exact absurd (hapart j i hj hi hlt) (not_le.mpr hstop)

/-- A match at some place is found, or one is found that it starts inside of. -/
theorem mem_allFrom_or_inside (h : p.Plain b) (hpos : 0 < p.node.width.least) {fuel : Nat}
    (front gap : Text) {back : Text} (hfuel : (gap ++ back).length < fuel)
    (hm : p.matchAt (Cursor.between (front ++ gap) back) = some m) :
    m ∈ p.allFrom (front ++ (gap ++ back)).length fuel (Cursor.between front (gap ++ back)) false ∨
      ∃ m' ∈ p.allFrom (front ++ (gap ++ back)).length fuel
          (Cursor.between front (gap ++ back)) false,
        m'.start < (front ++ gap).length ∧ (front ++ gap).length < m'.stop := by
  induction fuel generalizing front gap with
  | zero => omega
  | succ fuel ih =>
      obtain ⟨-, hnone⟩ | ⟨gap', piece, back', m', hrest, hpiece, hmatch, hstart, hstop, hbefore,
        hcons⟩ := h.allFrom_succ hpos fuel front (gap ++ back)
      · rw [hnone gap back rfl] at hm
        cases hm
      rw [hcons]
      have hlength := congrArg List.length hrest
      have hpos' := List.length_pos_iff.mpr hpiece
      simp only [List.length_append] at hlength hfuel hstart hstop
      rcases lt_trichotomy gap.length gap'.length with hlt | heq | hlt
      · rw [hbefore gap back rfl hlt] at hm
        cases hm
      · obtain ⟨rfl, rfl⟩ := List.append_inj hrest heq
        rw [hm, Option.some_inj] at hmatch
        exact .inl (hmatch ▸ List.mem_cons_self)
      · by_cases hinside : gap.length < gap'.length + piece.length
        · refine .inr ⟨m', List.mem_cons_self, ?_, ?_⟩ <;>
            simp only [List.length_append] <;> omega
        · -- the place lies after the first match, and the search goes on there
          obtain ⟨gap'', rfl⟩ : ∃ gap'', gap = gap' ++ piece ++ gap'' := by
            have hle : (gap' ++ piece).length ≤ gap.length := by simp; omega
            have hfirst : gap' ++ piece <+: gap ++ back := ⟨back', by simp [hrest]⟩
            obtain ⟨gap'', hgap⟩ :=
              List.prefix_of_prefix_length_le hfirst (List.prefix_append ..) hle
            exact ⟨gap'', hgap.symm⟩
          obtain rfl : back' = gap'' ++ back := by simpa using hrest.symm
          have hlater := ih (front ++ gap' ++ piece) gap'' (by simp at hfuel ⊢; omega)
            (by simpa using hm)
          rcases hlater with hmem | ⟨m'', hmem, hstart', hstop'⟩
          · exact .inl (List.mem_cons_of_mem _ (by simpa using hmem))
          · refine .inr ⟨m'', List.mem_cons_of_mem _ (by simpa using hmem), ?_, ?_⟩
            · simpa using hstart'
            · simpa using hstop'

/-- A place where the pattern matches is the start of a match that is found, or lies inside of
one. -/
theorem mem_all_or_inside (h : p.Plain b) (hpos : 0 < p.node.width.least) {back : Text}
    (hm : p.matchAt (Cursor.between front back) = some m) :
    m ∈ p.all (front ++ back) ∨
      ∃ m' ∈ p.all (front ++ back), m'.start < front.length ∧ front.length < m'.stop :=
  h.mem_allFrom_or_inside hpos [] front (by simp; omega) hm

end Plain

end ExtensionAudit.Pattern
