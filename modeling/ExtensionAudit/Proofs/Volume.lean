import Mathlib
import ExtensionAudit.Volume.Find

/-!
# Paths that lead somewhere

Following a path is a run on a stack of directories.  `Goes` has one rule for each step of a run
that does not fail, and `goes_of_follow` says that a path that is followed to its end is such a
run.  By induction on the run, the stack holds entries of the tree, each in its place
(`Goes.standing`).  So a path that leads somewhere leads to an entry of the tree
(`mem_everything_of_resolve`), and of those there are finitely many.
-/

namespace ExtensionAudit

/-! ## Names -/

/-- The component is the name of an entry, and not one of the texts that stand for a step. -/
def Path.IsName (c : String) : Prop := c ≠ "" ∧ c ≠ "." ∧ c ≠ ".."

/-- The components of the path are names. -/
def Path.Plain (p : Path) : Prop := ∀ c ∈ p, Path.IsName c

namespace Path

theorem plain_nil : Plain [] := by simp [Plain]

theorem plain_append {p q : Path} : Plain (p ++ q) ↔ Plain p ∧ Plain q := List.forall_mem_append

theorem plain_singleton {c : String} : Plain [c] ↔ IsName c := List.forall_mem_singleton

end Path

/-! ## Entries of a tree -/

namespace Entry

theorem mem_entries_of_child? {d e : Entry} {c : String} (h : d.child? c = some e) :
    (c, e) ∈ d.entries := by
  obtain ⟨before, after, heq, -⟩ := List.lookup_eq_some_iff.mp h
  simp [heq]

end Entry

theorem mem_insideAll {here : Path} {es : List (String × Entry)} {c : String} {e : Entry}
    (h : (c, e) ∈ es) : (here ++ [c], e) ∈ insideAll here es := by
  induction es with
  | nil => cases h
  | cons first rest ih =>
      rw [insideAll]
      rcases List.mem_cons.mp h with rfl | hrest
      · simp
      · exact List.mem_append_right _ (ih hrest)

theorem Entry.mem_inside_of_mem_entries {here : Path} {d e : Entry} {c : String}
    (h : (c, e) ∈ d.entries) : (here ++ [c], e) ∈ d.inside here := by
  cases d with
  | dir es => exact mem_insideAll h
  | file | unreadable | link => cases h

mutual

/-- What stands in a directory of the tree stands in the tree. -/
theorem Entry.mem_inside_of_mem_inside {q : Path} {d e : Entry} {c : String}
    (hc : (c, e) ∈ d.entries) :
    ∀ {here : Path} (root : Entry), (q, d) ∈ root.inside here → (q ++ [c], e) ∈ root.inside here
  | _, .dir es, h => mem_insideAll_of_mem_insideAll hc es h

/-- What is in a directory inside is inside. -/
theorem mem_insideAll_of_mem_insideAll {q : Path} {d e : Entry} {c : String}
    (hc : (c, e) ∈ d.entries) :
    ∀ {here : Path} (es : List (String × Entry)),
      (q, d) ∈ insideAll here es → (q ++ [c], e) ∈ insideAll here es
  | _, (_, first) :: rest, h => by
      rw [insideAll, List.mem_append, List.mem_cons] at h ⊢
      rcases h with (heq | hfirst) | hrest
      · cases heq
        exact .inl (.inr (Entry.mem_inside_of_mem_entries hc))
      · exact .inl (.inr (Entry.mem_inside_of_mem_inside hc first hfirst))
      · exact .inr (mem_insideAll_of_mem_insideAll hc rest hrest)

end

theorem depth_le_depthAll {es : List (String × Entry)} {c : String} {e : Entry}
    (h : (c, e) ∈ es) : e.depth ≤ depthAll es := by
  induction es with
  | nil => cases h
  | cons first rest ih =>
      rw [depthAll]
      rcases List.mem_cons.mp h with rfl | hrest
      · exact le_max_left _ _
      · exact (ih hrest).trans (le_max_right _ _)

theorem Entry.depth_lt_of_mem_entries {d e : Entry} {c : String} (h : (c, e) ∈ d.entries) :
    e.depth < d.depth := by
  cases d with
  | dir es =>
      rw [Entry.depth]
      exact Nat.lt_succ_of_le (depth_le_depthAll h)
  | file | unreadable | link => cases h

/-! ## Stacks of directories -/

/-- The entry at the top of a stack; below all of them lies the root. -/
def topOf (root : Entry) (above : List (String × Entry)) : Entry :=
  (above.head?.map (·.2)).getD root

/-- The path of the top of a stack, and the entry there. -/
def placeOf (root : Entry) (above : List (String × Entry)) : Path × Entry :=
  ((above.map (·.1)).reverse, topOf root above)

/-- A stack of entries of the tree, each in its place. -/
def Standing (root : Entry) (above : List (String × Entry)) : Prop :=
  ∀ lower, lower <:+ above → placeOf root lower ∈ ([], root) :: root.inside []

namespace Standing

variable {root : Entry} {above : List (String × Entry)}

theorem nil : Standing root [] := by
  intro lower hlower
  rw [List.suffix_nil.mp hlower]
  exact List.mem_cons_self

theorem of_suffix {lower : List (String × Entry)} (h : Standing root above)
    (hs : lower <:+ above) : Standing root lower :=
  fun stack hstack => h stack (hstack.trans hs)

/-- What stands in the top directory stands in the tree. -/
theorem push (h : Standing root above) {c : String} {e : Entry}
    (hc : (topOf root above).child? c = some e) : Standing root ((c, e) :: above) := by
  intro lower hlower
  rcases List.suffix_cons_iff.mp hlower with rfl | hlower
  · have hplace : placeOf root ((c, e) :: above) = ((placeOf root above).1 ++ [c], e) := by
      simp [placeOf, topOf]
    have hmem : (c, e) ∈ (placeOf root above).2.entries := Entry.mem_entries_of_child? hc
    rw [hplace]
    apply List.mem_cons_of_mem
    rcases List.mem_cons.mp (h above List.suffix_rfl) with heq | hinside
    · rw [heq] at hmem ⊢
      exact Entry.mem_inside_of_mem_entries hmem
    · exact Entry.mem_inside_of_mem_inside hmem root hinside
  · exact h lower hlower

end Standing

/-! ## Runs -/

/-- Following components from a stack, through at most so many links, ends on a stack. -/
inductive Goes (root : Entry) :
    Nat → List (String × Entry) → List String → List (String × Entry) → Prop where
  /-- Nothing is left to follow. -/
  | done {links : Nat} {above : List (String × Entry)} : Goes root links above [] above
  /-- Dots stay at the top directory or leave it. -/
  | dots {links : Nat} {above lower result : List (String × Entry)} {c : String}
      {rest : List String} : ¬ Path.IsName c → lower <:+ above → Goes root links lower rest result →
      Goes root links above (c :: rest) result
  /-- A name leads down to an entry that is no link. -/
  | down {links : Nat} {above result : List (String × Entry)} {c : String} {e : Entry}
      {rest : List String} : Path.IsName c → (topOf root above).child? c = some e →
      Goes root links ((c, e) :: above) rest result → Goes root links above (c :: rest) result
  /-- A name leads to a link, whose target is followed first. -/
  | jump {links : Nat} {above lower result : List (String × Entry)} {c target : String}
      {rest : List String} : Path.IsName c → (topOf root above).child? c = some (.link target) →
      lower <:+ above → Goes root links lower (Path.steps target ++ rest) result →
      Goes root (links + 1) above (c :: rest) result

/-- A path that is followed to its end is a run, if following from each link on is one. -/
theorem goes_of_descend {root : Entry} {links : Nat} {result : List (String × Entry)}
    {jump : List (String × Entry) → String → List String → Except Fault (List (String × Entry))}
    (hjump : ∀ above target rest, jump above target rest = .ok result →
      ∃ n lower, links = n + 1 ∧ lower <:+ above ∧
        Goes root n lower (Path.steps target ++ rest) result)
    {above : List (String × Entry)} {todo : List String}
    (h : Volume.descend false root jump above todo = .ok result) :
    Goes root links above todo result := by
  induction todo generalizing above with
  | nil =>
      cases h
      exact .done
  | cons c rest ih =>
      rw [Volume.descend] at h
      split at h
      next hdot =>
        have hnot : ¬ Path.IsName c := by
          rintro ⟨hempty, hone, -⟩
          simp [hempty, hone] at hdot
        split at h
        next => exact .dots hnot List.suffix_rfl (ih h)
        next => cases h
      next hdot =>
        split at h
        next hdots =>
          have hnot : ¬ Path.IsName c := fun hname => hname.2.2 (beq_iff_eq.mp hdots)
          split at h
          next => exact .dots hnot (List.tail_suffix _) (ih h)
          next => cases h
        next hdots =>
          have hname : Path.IsName c := by
            simp only [Bool.or_eq_true, beq_iff_eq, not_or] at hdot hdots
            exact ⟨hdot.2, hdot.1, hdots⟩
          split at h
          next => cases h
          next =>
            split at h
            next => cases h
            next target hc =>
              obtain ⟨n, lower, rfl, hlower, hgoes⟩ := hjump _ _ _ h
              exact .jump hname hc hlower hgoes
            next e _ hc => exact .down hname hc (ih h)

/-- A path that is followed goes where it ends. -/
theorem goes_of_follow {root : Entry} {links : Nat} {above result : List (String × Entry)}
    {todo : List String} (h : Volume.follow false root links above todo = .ok result) :
    Goes root links above todo result := by
  induction links generalizing above todo with
  | zero =>
      refine goes_of_descend (fun above target rest hj => ?_) h
      cases hj
  | succ links ih =>
      refine goes_of_descend (fun above target rest hj => ?_) h
      split at hj
      next => cases hj
      next =>
        refine ⟨links, _, rfl, ?_, ih hj⟩
        split
        · exact List.nil_suffix
        · exact List.suffix_rfl

namespace Goes

variable {root : Entry} {links : Nat} {above result : List (String × Entry)} {todo : List String}

/-- A run keeps to entries of the tree. -/
theorem standing (h : Goes root links above todo result) (hs : Standing root above) :
    Standing root result := by
  induction h with
  | done => exact hs
  | dots _ hlower _ ih => exact ih (hs.of_suffix hlower)
  | down _ hc _ ih => exact ih (hs.push hc)
  | jump _ _ hlower _ ih => exact ih (hs.of_suffix hlower)

/-- What holds of a tree and of what lies in its directories holds wherever a run leads. -/
theorem topOf_induction {P : Entry → Prop} (hP : ∀ d c e, (c, e) ∈ d.entries → P d → P e)
    (hroot : P root) (h : Goes root links above todo result) (habove : ∀ x ∈ above, P x.2) :
    P (topOf root result) := by
  have htop : ∀ {stack : List (String × Entry)}, (∀ x ∈ stack, P x.2) → P (topOf root stack) := by
    intro stack hstack
    cases stack with
    | nil => exact hroot
    | cons x stack => exact hstack x List.mem_cons_self
  induction h with
  | done => exact htop habove
  | dots _ hlower _ ih => exact ih fun x hx => habove x (hlower.subset hx)
  | down _ hc _ ih =>
      have hchild := hP _ _ _ (Entry.mem_entries_of_child? hc) (htop habove)
      exact ih (List.forall_mem_cons.mpr ⟨hchild, habove⟩)
  | jump _ _ hlower _ ih => exact ih fun x hx => habove x (hlower.subset hx)

end Goes

namespace Volume

/-- A spot that is found is where the path goes. -/
theorem goes_of_resolve {v : Volume} {p : Path} {s : Spot} (h : v.resolve p = .ok s) :
    ∃ result, Goes v.root linkBound [] p result ∧ s = v.spotOf result := by
  unfold resolve at h
  cases hf : follow false v.root linkBound [] p with
  | error e =>
      rw [hf] at h
      cases h
  | ok result =>
      rw [hf] at h
      cases h
      exact ⟨result, goes_of_follow hf, rfl⟩

/-- A path that leads somewhere leads to an entry of the tree. -/
theorem mem_everything_of_resolve {v : Volume} {p : Path} {s : Spot} (h : v.resolve p = .ok s) :
    (s.path, s.entry) ∈ v.everything := by
  obtain ⟨result, hgoes, rfl⟩ := goes_of_resolve h
  exact hgoes.standing Standing.nil result List.suffix_rfl

/-- What can be read are the contents of an entry of the tree. -/
theorem exists_mem_everything_of_bytes {v : Volume} {p : Path} {bytes : List UInt8}
    (h : v.bytes p = .ok bytes) : ∃ x ∈ v.everything, x.2.contents = bytes := by
  unfold Volume.bytes at h
  cases hresolve : v.resolve p with
  | error e =>
      rw [hresolve] at h
      cases h
  | ok s =>
      obtain ⟨path, entry⟩ := s
      refine ⟨_, mem_everything_of_resolve hresolve, ?_⟩
      rw [hresolve] at h
      cases entry with
      | file contents executable => exact Except.ok.inj h
      | unreadable | link | dir => cases h

end Volume

end ExtensionAudit
