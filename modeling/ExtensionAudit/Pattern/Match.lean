import ExtensionAudit.Pattern.Cursor

/-!
# Matching

A pattern is matched by ordered choice.  `Node.run` takes a cursor and what is to be done
after the node, and takes the first way in which all of it succeeds: a branch is tried
before the one after it, and a greedy repetition takes one more turn before it stops.

A run has a memory: the marks of the groups, and its *reach*, the place where it has last
looked.  The memory outlives a way that fails.  Before the next way is tried the marks that
are new are dropped, but a mark that the failed way has moved stays moved, unless the choice
stands in the body of a repetition: there all marks are put back.  The marks show in
references and in choices by group.  The reach shows after a possessive repetition: the
pattern goes on from the reach of its last turn, also when this turn has failed.

A repetition ends because a turn that takes no character is the last one.  Without a bound of
their own the turns are therefore at most the least count, one for each character that follows,
and two more (`turnBound`).
-/

namespace ExtensionAudit.Pattern

/-! ## Memory -/

/-- What a run remembers. -/
structure Memory where
  /-- The marks of the groups. -/
  marks : Marks
  /-- The place where the run has last looked. -/
  reach : Cursor
deriving DecidableEq, Repr

/-- The end of a run. -/
inductive Run where
  /-- It has matched, up to the reach. -/
  | matched (m : Memory)
  /-- It has failed. -/
  | failed (m : Memory)
deriving DecidableEq, Repr

/-- What is done after a match. -/
abbrev Then := Cursor → Memory → Run

/-- The end of a match. -/
def stop : Then := fun c m => .matched { m with reach := c }

/-- Looks at a place. -/
def Memory.at (m : Memory) (c : Cursor) : Memory := { m with reach := c }

/-- The memory after a way that has failed, from the memory before it. -/
def Memory.restore (looping : Bool) (before now : Memory) : Memory :=
  { now with
    marks := if looping then before.marks else now.marks.take before.marks.length }

/-- The run, or if it has failed what the memory then gives. -/
@[inline] def Run.orElse (r : Run) (next : Memory → Run) : Run :=
  match r with
  | .matched m => .matched m
  | .failed m => next m

/-- The run, with a change to the memory if it has failed. -/
@[inline] def Run.mapFailed (r : Run) (f : Memory → Memory) : Run :=
  r.orElse fun m => .failed (f m)

/-! ## Repetitions of one character -/

/-- At least so many characters follow. -/
def follow : Nat → List Char → Bool
  | 0, _ => true
  | _ + 1, [] => false
  | n + 1, _ :: rest => follow n rest

/-- A test that a repetition makes step by step, so that its reach goes along: a folded set,
unless it holds one letter alone. -/
def CharTest.isStepwise : CharTest → Bool
  | .inSet s =>
      s.folded &&
        match s.members with
        | [.one n] => (foldGroup s.narrow n).length > 1
        | _ => true
  | _ => false

/-- What comes after a repetition, at a place where it may stop.  If a code point must come
next, places before another character are passed over. -/
def settle (looping : Bool) (lead : Option Nat) (k : Then) (before : Memory) (c : Cursor)
    (m : Memory) : Run :=
  if lead.all fun n => c.after.head?.any (·.toNat == n) then
    (k c (m.at c)).mapFailed (before.restore looping)
  else .failed m

/-- Characters that pass a test, as many as possible first.  `need` more are needed, and `room`
bounds their number. -/
def greedyOnes (t : CharTest) (here : Cursor → Memory → Run) (m : Memory) :
    Nat → Option Nat → Nat → List Char → List Char → Run
  | need, _, place, before, [] =>
      let c : Cursor := ⟨place, before, []⟩
      let m := if t.isStepwise then m.at c else m
      if need == 0 then here c m else .failed m
  | need, room, place, before, x :: rest =>
      let c : Cursor := ⟨place, before, x :: rest⟩
      if room != some 0 && t.passes x then
        let longer :=
          greedyOnes t here m (need - 1) (room.map (· - 1)) (place + 1) (x :: before) rest
        if need == 0 then longer.orElse (here c) else longer
      else
        let m := if t.isStepwise then m.at c else m
        if need == 0 then here c m else .failed m

/-- Characters that pass a test, as few as possible first.  `need` more are needed, and `room`
bounds their number. -/
def lazyOnes (t : CharTest) (here : Cursor → Memory → Run) :
    Nat → Option Nat → Memory → Nat → List Char → List Char → Run
  | need, _, m, place, before, [] =>
      let c : Cursor := ⟨place, before, []⟩
      if need == 0 then (here c m).mapFailed (·.at c)
      else .failed (if t.isStepwise then m.at c else m)
  | need, room, m, place, before, x :: rest =>
      let c : Cursor := ⟨place, before, x :: rest⟩
      let d : Cursor := ⟨place + 1, x :: before, rest⟩
      if need == 0 then
        (here c m).orElse fun m =>
          if t.passes x then
            let m := m.at (if t.isStepwise then d else c)
            if room == some 0 then .failed m
            else lazyOnes t here 0 (room.map (· - 1)) m (place + 1) (x :: before) rest
          else .failed (m.at c)
      else if t.passes x then
        lazyOnes t here (need - 1) (room.map (· - 1)) m (place + 1) (x :: before) rest
      else .failed (if t.isStepwise then m.at c else m)

/-- The repetition of a test for one character. -/
def runOnes (greed : Greed) (least : Nat) (most : Option Nat) (t : CharTest) (looping : Bool)
    (lead : Option Nat) (c : Cursor) (m : Memory) (k : Then) : Run :=
  if follow least c.after then
    let m := m.at c
    match greed with
    | .greedy =>
        greedyOnes t (settle looping lead k m) m least most c.place c.before c.after
    | .lazy =>
        lazyOnes t (settle looping none k m) least most m c.place c.before c.after
    | .possessive =>
        let longest := greedyOnes t (fun d n => .matched (n.at d)) m least most c.place c.before
          c.after
        match longest with
        | .matched n => k n.reach (if t.isStepwise then n else n.at c)
        | .failed n => .failed n
  else .failed m

/-! ## Other repetitions -/

/-- More turns than a repetition can take at a cursor. -/
def turnBound (least : Nat) (most : Option Nat) (c : Cursor) : Nat :=
  match most with
  | some n => max least n + 1
  | none => least + c.after.length + 2

/-- The turns of a repetition.  `fuel` bounds the turns, `count` numbers them, and `last` is
where the turn before this one started. -/
def turns (greed : Greed) (least : Nat) (most : Option Nat) (looping : Bool)
    (body : Cursor → Memory → Then → Run) (k : Then) :
    Nat → Nat → Option Nat → Cursor → Memory → Run
  | 0, _, _, c, m => k c m
  | fuel + 1, count, last, c, m =>
      let m := m.at c
      let again := fun (last : Option Nat) (m : Memory) =>
        body c m (turns greed least most looping body k fuel (count + 1) last)
      if count < least then (again last m).mapFailed (·.at c)
      else
        let isLast := most.any (count ≥ ·) || last == some c.place
        match greed with
        | .lazy =>
            (k c m).orElse fun n =>
              let n := (m.restore looping n).at c
              if isLast then .failed n
              else (again (some c.place) n).mapFailed (·.at c)
        | _ =>
            if isLast then (k c m).mapFailed (·.at c)
            else
              (again (some c.place) m).orElse fun n =>
                (k c ((m.restore true n).at c)).mapFailed (·.at c)

/-- The turns of a repetition that gives nothing back: each turn is settled before the next.
The repetition started at `start`. -/
def settledTurns (least : Nat) (most : Option Nat) (start : Cursor)
    (body : Cursor → Memory → Then → Run) : Nat → Nat → Memory → Run
  | 0, _, m => .matched m
  | fuel + 1, count, m =>
      if count < least then
        match body m.reach m stop with
        | .matched n => settledTurns least most start body fuel (count + 1) n
        | .failed n => .failed (n.at start)
      else if most.any (count ≥ ·) then .matched m
      else
        match body m.reach m stop with
        | .matched n =>
            if n.reach.place == m.reach.place then .matched n
            else settledTurns least most start body fuel (count + 1) n
        | .failed n => .matched (m.restore true n)

/-! ## References -/

/-- The text follows the cursor, up to case or not. -/
def follows (anyCase narrow : Bool) : Text → Cursor → Option Cursor
  | [], c => some c
  | x :: rest, c =>
      match c.next? with
      | some (y, d) =>
          let same :=
            if anyCase then foldCode narrow x.toNat == foldCode narrow y.toNat else x == y
          if same then follows anyCase narrow rest d else none
      | none => none

/-! ## Nodes -/

/-- The next character does not rule out that a branch matches.  Only a branch that starts with a
literal or with a set that does not fold is ruled out so. -/
def Node.mayMatch (n : Node) (c : Cursor) : Bool :=
  match n.first? with
  | some (.literal code) => c.after.head?.any (·.toNat == code)
  | some (.inSet s) => s.folded || c.after.head?.any s.has
  | _ => true

/-- Tries one branch. -/
def branch (looping : Bool) (n : Node) (run : Cursor → Memory → Run) (c : Cursor) (m : Memory) :
    Run :=
  if n.mayMatch c then (run c (m.at c)).mapFailed (m.restore looping) else .failed m

/-- The first way to match a node and what comes after it.  `looping` says that the node stands
in the body of a repetition, and `lead` is the code point that must come after it, if that is
known. -/
def Node.run : Node → Bool → Option Nat → Cursor → Memory → Then → Run
  | .empty, _, _, c, m, k => k c m
  | .one t, _, _, c, m, k =>
      match c.next? with
      | some (x, d) => if t.passes x then k d m else .failed m
      | none => .failed m
  | .seq a b, looping, lead, c, m, k =>
      a.run looping (b.leadOr lead) c m fun d n => b.run looping lead d n k
  | .alt a b, looping, _, c, m, k =>
      (branch looping a (fun c m => a.run looping none c m k) c m).orElse fun m =>
        if b.isAlt then b.run looping none c m k
        else branch looping b (fun c m => b.run looping none c m k) c m
  | .rep greed least most (.one t), looping, lead, c, m, k =>
      runOnes greed least most t looping lead c m k
  | .rep .possessive least most body, looping, _, c, m, k =>
      match settledTurns least most c (body.run looping none) (turnBound least most c) 0
        (m.at c) with
      | .matched n => k n.reach n
      | .failed n => .failed n
  | .rep greed least most body, looping, _, c, m, k =>
      turns greed least most looping (body.run true none) k (turnBound least most c) 0 none c m
  | .group index body, looping, _, c, m, k =>
      body.run looping none c { m with marks := m.marks.put (openMark index) c } fun d n =>
        k d { n with marks := n.marks.put (closeMark index) d }
  | .atomic body, looping, _, c, m, k =>
      match body.run looping none c (m.at c) stop with
      | .matched n => k n.reach n
      | .failed n => .failed (n.at c)
  | .look dir negated body, looping, _, c, m, k =>
      let from? :=
        match dir with
        | .ahead => some c
        | .behind w => c.back? w.least
      match from? with
      | none => if negated then k c m else .failed m
      | some d =>
          match body.run looping none d (m.at d) stop with
          | .matched n => if negated then .failed n else k c n
          | .failed n => if negated then k c (m.restore looping n) else .failed n
  | .anchor a, _, _, c, m, k => if a.holds c then k c m else .failed m
  | .backref index anyCase narrow _, _, _, c, m, k =>
      match m.marks.group? index with
      | none => .failed m
      | some span =>
          match follows anyCase narrow span.text c with
          | some d => k d m
          | none => .failed m
  | .ifGroup index yes no, looping, lead, c, m, k =>
      if (m.marks.group? index).isSome then
        yes.run looping (if no == .empty then lead else none) c m k
      else no.run looping lead c m k

end ExtensionAudit.Pattern
