import Mathlib
import ExtensionAudit.Proofs.Resource.Account
import ExtensionAudit.Proofs.Rule.Selection
import ExtensionAudit.Proofs.Text
import ExtensionAudit.Source.Imports

/-!
# Imports and the files that they name

An import binds a name to the file that the path of the module leads to from the directory of the
importing file.  The file is given as text, and under the same text its scan stands in the graph, so
that an object can be followed from the file that makes it to the file that defines its class
(`imports_statement`).  `Path.Leads` says where a path leads, step by step, and a path may climb
above the extension and come back.

A statement has three readers, one for each form, and each looks for its form all over the text.
That a statement is read once rests on two facts.

* A reader needs two quotes, and after the first quote of a statement there is only one
  (`Form.importsOf_quoted`).
* A reader needs the word `import` and a blank.  Before the quotes these stand together at the start
  only, or where the name itself ends in that word, and there no statement goes on
  (`Form.importsOf_word`).

Names in braces may have any characters.  The other two forms take words only, and a name with a
dollar sign, or with a mark that is no letter, is not bound by them (`imports_dollar`).
-/

namespace ExtensionAudit

/-! ## Where steps lead -/

/-- Steps lead from a directory to a place, by their names alone: nothing and a single dot stay
where they are, two dots go up, and any other name goes down. -/
inductive Path.Leads : Path → List String → Path → Prop where
  /-- No step is left. -/
  | done (dir : Path) : Leads dir [] dir
  /-- A step that stays. -/
  | stay {dir place : Path} {c : String} {steps : List String} (hc : c = "" ∨ c = ".") :
      Leads dir steps place → Leads dir (c :: steps) place
  /-- A step up. -/
  | up {dir place : Path} {steps : List String} :
      Leads dir.dropLast steps place → Leads dir (".." :: steps) place
  /-- A step down. -/
  | down {dir place : Path} {c : String} {steps : List String} (hc : IsName c) :
      Leads (dir ++ [c]) steps place → Leads dir (c :: steps) place

namespace Path

/-- Steps that lead somewhere are walked to there. -/
theorem Leads.walk_eq {dir place : Path} {steps : List String} (h : Leads dir steps place) :
    walk dir (steps.filter (· ≠ "")) = place := by
  induction h with
  | done dir => rfl
  | stay hc _ ih =>
      rcases hc with rfl | rfl
      · exact ih
      · exact ih
  | up _ ih => exact ih
  | @down dir place c steps hc _ ih =>
      obtain ⟨hempty, hdot, hdots⟩ := hc
      have hpush : push dir c = dir ++ [c] := by simp [push, hdot, hdots]
      rw [List.filter_cons_of_pos (by simpa using hempty), walk, List.foldl_cons, hpush]
      exact ih

/-- The steps of a text are read off it again, the empty ones apart. -/
theorem components_shown {steps : List String} (hne : steps ≠ [])
    (hslash : ∀ c ∈ steps, '/' ∉ c.toList) :
    components (shown steps) = steps.filter (· ≠ "") := by
  have htext : (shown steps).toList = Text.join ['/'] (steps.map String.toList) := by
    rw [shown, String.toList_intercalate]
    rfl
  have hpieces : Text.splitAt '/' (shown steps).toList = steps.map String.toList := by
    rw [htext]
    refine Text.splitAt_join (by simpa using hne) ?_
    simpa using hslash
  rw [components, hpieces, List.filter_map, List.map_map]
  have hid : String.ofList ∘ String.toList = id := funext fun s => String.ofList_toList
  rw [hid, List.map_id]
  refine List.filter_congr fun c _ => ?_
  rw [Bool.eq_iff_iff]
  simp

end Path

namespace Source

/-- The module of an import is the file that its path leads to. -/
theorem moduleFile_of_leads {base dir p : Path} {steps : List String} (hne : p ≠ [])
    (hsteps : steps ≠ []) (hslash : ∀ c ∈ steps, '/' ∉ c.toList)
    (hleads : Path.Leads dir steps (base ++ p)) :
    moduleFile base dir (Path.shown steps).toList = p.shown := by
  rw [moduleFile, String.ofList_toList, Path.components_shown hsteps hslash, hleads.walk_eq]
  simp [Path.relativeTo, Path.shared_append, hne, Path.shown]

/-! ## Statements -/

/-- The forms of an import. -/
inductive Form where
  /-- A list of names in braces. -/
  | list
  /-- One name for the default. -/
  | default
  /-- A star with one name for all. -/
  | star
deriving DecidableEq

namespace Form

/-- What stands between the words `import` and `from`, for one name. -/
def clause (name : Text) : Form → Text
  | list => "\x7b".toList ++ name ++ "\x7d".toList
  | default => name
  | star => "* as ".toList ++ name

/-- An import of one name from a module, as it is written. -/
def statement (form : Form) (name module : Text) : Text :=
  "import ".toList ++ form.clause name ++ " from '".toList ++ module ++ "'".toList

/-- The reader of a form. -/
def read? : Form → Text → Option (Import × Text)
  | list => listImport?
  | default => defaultImport?
  | star => starImport?

/-- What a reader does after the word `import` and blanks. -/
def body? : Form → Text → Option (Import × Text)
  | list, t => do
      let (inner, t) ← braced? t
      let (module, t) ← fromModule? t
      return (⟨((Text.splitAt ',' inner).map boundName).filter (!·.isEmpty), module⟩, t)
  | default, t => do
      let (name, t) ← word? t
      let (module, t) ← fromModule? t
      return (⟨[name], module⟩, t)
  | star, t => do
      let t ← afterText? ['*'] t
      let t ← afterText? ['a', 's'] (← afterBlanks? t)
      let (name, t) ← word? (← afterBlanks? t)
      let (module, t) ← fromModule? t
      return (⟨[name], module⟩, t)

end Form

/-- What follows the word `import` and blanks. -/
def afterImport? (t : Text) : Option Text :=
  (afterText? "import".toList t).bind afterBlanks?

theorem Form.read?_eq (form : Form) (t : Text) :
    form.read? t = (afterImport? t).bind form.body? := by
  cases form <;>
    simp only [read?, listImport?, defaultImport?, starImport?, afterImport?, Option.bind_eq_bind,
      Option.bind_assoc] <;>
    rfl

/-! ## Parts of a statement -/

theorem afterText?_append (part t : Text) : afterText? part (part ++ t) = some t := by
  simp [afterText?]

theorem eq_append_of_afterText? {part t rest : Text} (h : afterText? part t = some rest) :
    t = part ++ rest := by
  rw [afterText?] at h
  split at h
  next hfront =>
      cases h
      obtain ⟨rest, rfl⟩ := List.isPrefixOf_iff_prefix.mp hfront
      simp
  next => cases h

theorem afterBlanks?_cons {c : Char} (hc : Text.isBlank c = true) (t : Text) :
    afterBlanks? (c :: t) = some (t.dropWhile Text.isBlank) := by
  simp [afterBlanks?, hc]

/-- There is a blank before what follows blanks. -/
theorem exists_of_afterBlanks? {t rest : Text} (h : afterBlanks? t = some rest) :
    ∃ c more, t = c :: more ∧ Text.isBlank c = true ∧ rest = more.dropWhile Text.isBlank := by
  cases t with
  | nil => cases h
  | cons c more =>
      rw [afterBlanks?] at h
      split at h
      next hc =>
          cases h
          exact ⟨c, more, rfl, hc, rfl⟩
      next => cases h

/-- A word reaches up to the blank that follows it. -/
theorem takeWhile_word {w : Text} (hw : ∀ c ∈ w, Text.isBlank c = false) {c : Char}
    (hc : Text.isBlank c = true) (t : Text) :
    (w ++ c :: t).takeWhile (fun d => !Text.isBlank d) = w := by
  rw [List.takeWhile_append_of_pos (by simpa using hw), List.takeWhile_cons_of_neg (by simp [hc]),
    List.append_nil]

theorem isBlank_of_all {w : Text} (h : (w.all fun c => !Text.isBlank c) = true) :
    ∀ c ∈ w, Text.isBlank c = false := by
  simpa only [List.all_eq_true, Bool.not_eq_true'] using h

theorem isBlank_import : ∀ c ∈ "import".toList, Text.isBlank c = false :=
  isBlank_of_all (by decide)

/-- After a word and a blank, the word must be the one that is looked for. -/
theorem afterImport?_word {w : Text} (hw : ∀ c ∈ w, Text.isBlank c = false) (t : Text) :
    afterImport? (w ++ ' ' :: t) =
      if w = "import".toList then some (t.dropWhile Text.isBlank) else none := by
  split
  next h =>
      subst h
      rw [afterImport?, afterText?_append, Option.bind_some, afterBlanks?_cons (by decide)]
  next h =>
      rw [Option.eq_none_iff_forall_ne_some]
      intro rest hrest
      obtain ⟨more, hmore, hblank⟩ := Option.bind_eq_some_iff.mp hrest
      obtain ⟨c, after, rfl, hc, -⟩ := exists_of_afterBlanks? hblank
      have heq := congrArg (List.takeWhile fun d => !Text.isBlank d) (eq_append_of_afterText? hmore)
      rw [takeWhile_word hw (by decide), takeWhile_word isBlank_import hc] at heq
      exact h heq

/-! ## The search for statements -/

section Search

variable {form? : Text → Option (Import × Text)}

theorem importsOf_cons_of_none {c : Char} {t : Text} (h : form? (c :: t) = none) :
    importsOf form? (c :: t) = importsOf form? t := by
  rw [importsOf, importsOf, List.length_cons, importsFrom, h]

theorem importsOf_of_some {t : Text} {i : Import} (hne : t ≠ []) (h : form? t = some (i, [])) :
    importsOf form? t = [i] := by
  obtain ⟨c, t, rfl⟩ := List.exists_cons_of_ne_nil hne
  rw [importsOf, importsFrom, h]
  rfl

theorem importsOf_eq_nil {t : Text} (h : ∀ u, u <:+ t → form? u = none) :
    importsOf form? t = [] := by
  induction t with
  | nil => rfl
  | cons c t ih =>
      rw [importsOf_cons_of_none (h _ List.suffix_rfl)]
      exact ih fun u hu => h u (hu.trans (List.suffix_cons c t))

end Search

/-- Nothing is found in a word, unless it ends in the word that is looked for and a statement goes
on after it. -/
theorem Form.importsOf_word (form : Form) {w : Text} (hw : ∀ c ∈ w, Text.isBlank c = false)
    {t : Text} (hbody : "import".toList <:+ w → form.body? (t.dropWhile Text.isBlank) = none) :
    importsOf form.read? (w ++ ' ' :: t) = importsOf form.read? t := by
  induction w with
  | nil =>
      refine importsOf_cons_of_none ?_
      have hnone := @afterImport?_word [] hw t
      rw [List.nil_append, if_neg (by decide)] at hnone
      rw [read?_eq, hnone, Option.bind_none]
  | cons c w ih =>
      have hnone : form.read? (c :: w ++ ' ' :: t) = none := by
        rw [read?_eq, afterImport?_word hw]
        split
        next h => rw [Option.bind_some, hbody (h ▸ List.suffix_rfl)]
        next => rfl
      refine (importsOf_cons_of_none hnone).trans ?_
      exact ih (fun d hd => hw d (List.mem_cons_of_mem _ hd)) fun hsuffix =>
        hbody (hsuffix.trans (List.suffix_cons c w))

/-! ## The path in quotes -/

theorem suffix_of_afterText? {part t rest : Text} (h : afterText? part t = some rest) :
    rest <:+ t :=
  eq_append_of_afterText? h ▸ List.suffix_append part rest

theorem suffix_of_afterBlanks? {t rest : Text} (h : afterBlanks? t = some rest) : rest <:+ t := by
  obtain ⟨c, more, rfl, -, rfl⟩ := exists_of_afterBlanks? h
  exact (List.dropWhile_suffix _).trans (List.suffix_cons c more)

theorem suffix_of_word? {t : Text} {found : Text × Text} (h : word? t = some found) :
    found.2 <:+ t := by
  simp only [word?] at h
  split at h
  next => cases h
  next =>
      cases h
      exact List.drop_suffix _ _

/-- What follows a list in braces is the end of the text. -/
theorem suffix_of_braced? {t : Text} {found : Text × Text} (h : braced? t = some found) :
    found.2 <:+ t := by
  cases t with
  | nil => cases h
  | cons c rest =>
      simp only [braced?] at h
      split at h
      next =>
          split at h
          next d after hdrop =>
              cases h
              have hafter : d :: after <:+ rest := hdrop ▸ List.drop_suffix _ _
              exact ((List.suffix_cons d after).trans hafter).trans (List.suffix_cons c rest)
          next => cases h
      next => cases h

theorem drop_takeWhile (p : Char → Bool) (t : Text) :
    t.drop (t.takeWhile p).length = t.dropWhile p := by
  have hsplit : t.drop (t.takeWhile p).length =
      (t.takeWhile p ++ t.dropWhile p).drop (t.takeWhile p).length := by
    rw [List.takeWhile_append_dropWhile]
  rw [hsplit, List.drop_left]

/-- A path in quotes has two of them. -/
theorem two_le_countP_of_modulePath? {t : Text} {found : Text × Text}
    (h : modulePath? t = some found) : 2 ≤ t.countP isQuote := by
  cases t with
  | nil => cases h
  | cons c rest =>
      simp only [modulePath?] at h
      split at h
      next hopen =>
          split at h
          next d after hdrop =>
              have hsecond : isQuote d = true := by
                rw [drop_takeWhile] at hdrop
                have hstop := List.head?_dropWhile_not (fun d => !isQuote d) rest
                rw [hdrop] at hstop
                simpa using hstop
              have hmem : d ∈ rest := List.mem_of_mem_drop (hdrop ▸ List.mem_cons_self)
              have hcount : 0 < rest.countP isQuote :=
                List.countP_pos_iff.mpr ⟨d, hmem, hsecond⟩
              simp only [Bool.and_eq_true] at hopen
              rw [List.countP_cons_of_pos hopen.1.1]
              omega
          next => cases h
      next => cases h

theorem two_le_countP_of_fromModule? {t : Text} {found : Text × Text}
    (h : fromModule? t = some found) : 2 ≤ t.countP isQuote := by
  simp only [fromModule?, Option.bind_eq_bind, Option.bind_eq_some_iff] at h
  obtain ⟨x, hx, y, hy, z, hz, hpath⟩ := h
  have hsuffix := (suffix_of_afterBlanks? hz).trans
    ((suffix_of_afterText? hy).trans (suffix_of_afterBlanks? hx))
  exact (two_le_countP_of_modulePath? hpath).trans hsuffix.sublist.countP_le

/-- A statement has two quotes. -/
theorem Form.two_le_countP_of_read? {form : Form} {t : Text} {found : Import × Text}
    (h : form.read? t = some found) : 2 ≤ t.countP isQuote := by
  simp only [read?_eq, afterImport?, Option.bind_eq_some_iff] at h
  obtain ⟨x, ⟨y, hy, hx⟩, hbody⟩ := h
  have hsuffix := (suffix_of_afterBlanks? hx).trans (suffix_of_afterText? hy)
  refine le_trans ?_ hsuffix.sublist.countP_le
  cases form with
  | list =>
      simp only [body?, Option.bind_eq_bind, Option.bind_eq_some_iff] at hbody
      obtain ⟨z, hz, m, hm, -⟩ := hbody
      exact (two_le_countP_of_fromModule? hm).trans (suffix_of_braced? hz).sublist.countP_le
  | default =>
      simp only [body?, Option.bind_eq_bind, Option.bind_eq_some_iff] at hbody
      obtain ⟨z, hz, m, hm, -⟩ := hbody
      exact (two_le_countP_of_fromModule? hm).trans (suffix_of_word? hz).sublist.countP_le
  | star =>
      simp only [body?, Option.bind_eq_bind, Option.bind_eq_some_iff] at hbody
      obtain ⟨a, ha, b, hb, c, hc, d, hd, z, hz, m, hm, -⟩ := hbody
      have hsuffix := (suffix_of_word? hz).trans ((suffix_of_afterBlanks? hd).trans
        ((suffix_of_afterText? hc).trans
          ((suffix_of_afterBlanks? hb).trans (suffix_of_afterText? ha))))
      exact (two_le_countP_of_fromModule? hm).trans hsuffix.sublist.countP_le

/-- A path in quotes. -/
def quoted (module : Text) : Text := "'".toList ++ module ++ "'".toList

/-- Nothing is found from the quotes on. -/
theorem Form.importsOf_quoted (form : Form) {module : Text} (h : ∀ c ∈ module, isQuote c = false) :
    importsOf form.read? (quoted module) = [] := by
  have hquoted : quoted module = Char.ofNat 39 :: (module ++ [Char.ofNat 39]) := rfl
  have hfirst : form.read? (quoted module) = none := by
    have hnone : afterText? "import".toList (quoted module) = none := rfl
    rw [read?_eq, afterImport?, hnone, Option.bind_none, Option.bind_none]
  rw [hquoted] at hfirst ⊢
  rw [importsOf_cons_of_none hfirst]
  refine importsOf_eq_nil fun u hu => ?_
  rw [Option.eq_none_iff_forall_ne_some]
  intro found hfound
  have hcount := (two_le_countP_of_read? hfound).trans hu.sublist.countP_le
  have hmodule : module.countP isQuote = 0 := List.countP_eq_zero.mpr (by simpa using h)
  rw [List.countP_append, hmodule] at hcount
  exact absurd hcount (by decide)

/-! ## What readers make of a statement -/

/-- A name that an import can bind: it is not empty, and it holds no blank and no mark of the
statement.  Identifiers are such names. -/
structure Bindable (name : Text) : Prop where
  /-- There is a name. -/
  ne_nil : name ≠ []
  /-- It has no blanks. -/
  isBlank : ∀ c ∈ name, Text.isBlank c = false
  /-- It has no marks. -/
  marks : ∀ c ∈ name, c ∉ "\x7b\x7d,*".toList

theorem Bindable.dropWhile_isBlank {name : Text} (h : Bindable name) (t : Text) :
    (name ++ t).dropWhile Text.isBlank = name ++ t := by
  obtain ⟨c, rest, rfl⟩ := List.exists_cons_of_ne_nil h.ne_nil
  exact List.dropWhile_cons_of_neg (by simp [h.isBlank c List.mem_cons_self])

theorem Bindable.toNat_ne {name : Text} (h : Bindable name) {c d : Char} (hc : c ∈ name)
    (hd : d ∈ "\x7b\x7d,*".toList) : c.toNat ≠ d.toNat :=
  fun heq => h.marks c hc ((Char.toNat_inj.mp heq) ▸ hd)

/-- The path of a module that belongs to the extension: it starts with a dot, has another
character, and no quotes. -/
structure LocalPath (module : Text) : Prop where
  /-- It starts with a dot. -/
  dot : module.head? = some '.'
  /-- It has another character. -/
  length : 2 ≤ module.length
  /-- It has no quotes. -/
  isQuote : ∀ c ∈ module, isQuote c = false

theorem modulePath?_quoted {module : Text} (h : LocalPath module) :
    modulePath? (quoted module) = some (module, []) := by
  have hquoted : quoted module = Char.ofNat 39 :: (module ++ [Char.ofNat 39]) := rfl
  have hpath : (module ++ [Char.ofNat 39]).takeWhile (fun d => !isQuote d) = module := by
    rw [List.takeWhile_append_of_pos (by simpa using h.isQuote)]
    exact List.append_nil module
  rw [hquoted, modulePath?]
  simp only [hpath, h.dot, h.length, List.drop_left]
  rfl

/-- What stands between a clause and the end of a statement. -/
def fromClause (module : Text) : Text := "from".toList ++ ' ' :: quoted module

theorem fromModule?_fromClause {module : Text} (h : LocalPath module) :
    fromModule? (' ' :: fromClause module) = some (module, []) := by
  have hfrom : afterBlanks? (' ' :: fromClause module) = some (fromClause module) := rfl
  have hquoted : afterBlanks? (' ' :: quoted module) = some (quoted module) := rfl
  have htext : afterText? "from".toList (fromClause module) = some (' ' :: quoted module) :=
    afterText?_append _ _
  simp only [fromModule?, hfrom, htext, hquoted, Option.bind_eq_bind, Option.bind_some,
    modulePath?_quoted h]

/-- The end of a statement does not start one. -/
theorem Form.body?_fromClause (form : Form) (module : Text) :
    form.body? (fromClause module) = none := by
  cases form with
  | list => rfl
  | star => rfl
  | default =>
      have hword : word? (fromClause module) = some ("from".toList, ' ' :: quoted module) := rfl
      have hnone : fromModule? (' ' :: quoted module) = none := rfl
      simp only [body?, hword, Option.bind_eq_bind, Option.bind_some, hnone, Option.bind_none]

/-- A name before the end of a statement is read as a whole or not at all. -/
theorem Form.body?_default {name module : Text} (hname : Bindable name)
    (hmodule : LocalPath module) :
    Form.default.body? (name ++ ' ' :: fromClause module) =
      if name.all Text.isWord then some (⟨[name], module⟩, []) else none := by
  split
  next hall =>
      have htake : (name ++ ' ' :: fromClause module).takeWhile Text.isWord = name := by
        rw [List.takeWhile_append_of_pos (List.all_eq_true.mp hall)]
        exact List.append_nil name
      have hword : word? (name ++ ' ' :: fromClause module) =
          some (name, ' ' :: fromClause module) := by
        simp [word?, htake, hname.ne_nil]
      simp only [body?, hword, Option.bind_eq_bind, Option.bind_some,
        fromModule?_fromClause hmodule]
      rfl
  next hall =>
      -- The word ends inside the name, and no blank follows it.
      have hrest : name.dropWhile Text.isWord ≠ [] := by
        rw [ne_eq, List.dropWhile_eq_nil_iff]
        exact fun h => hall (List.all_eq_true.mpr h)
      obtain ⟨d, more, hd⟩ := List.exists_cons_of_ne_nil hrest
      have hsplit : name = name.takeWhile Text.isWord ++ d :: more := by
        rw [← hd, List.takeWhile_append_dropWhile]
      have hnone : fromModule? (d :: (more ++ ' ' :: fromClause module)) = none := by
        have hblank : Text.isBlank d = false := hname.isBlank d (hsplit ▸ by simp)
        simp [fromModule?, afterBlanks?, hblank]
      have hdrop : (name ++ ' ' :: fromClause module).dropWhile Text.isWord =
          d :: (more ++ ' ' :: fromClause module) := by
        rw [List.dropWhile_append, hd]
        rfl
      simp only [body?, word?, drop_takeWhile, hdrop]
      split
      next => rfl
      next => simp [hnone]

/-- A text without blanks renames nothing. -/
theorem piecesFrom_of_notMem {t : Text} (h : ' ' ∉ t) : piecesFrom " as ".toList 0 t = [t] := by
  induction t with
  | nil => rfl
  | cons c t ih =>
      obtain ⟨hc, ht⟩ := not_or.mp (List.mem_cons.not.mp h)
      have hfront : " as ".toList.isPrefixOf (c :: t) = false := by
        have hcons : " as ".toList = ' ' :: "as ".toList := rfl
        simp [hcons, List.isPrefixOf, hc]
      rw [piecesFrom, hfront, ih ht]
      rfl

theorem boundName_eq {name : Text} (hname : Bindable name) : boundName name = name := by
  have htrim : Text.trim name = name := by
    refine Text.trimOf_eq_self ?_ ?_
    · exact (Option.any_eq_false _ _).mpr fun c hc => hname.isBlank c (List.mem_of_head? hc)
    · exact (Option.any_eq_false _ _).mpr fun c hc => hname.isBlank c (List.mem_of_getLast? hc)
  have hblank : ' ' ∉ name := fun h => absurd (hname.isBlank _ h) (by decide)
  rw [boundName, htrim, piecesFrom_of_notMem hblank]
  exact htrim

/-- A written list of one name is read back. -/
theorem Form.body?_list {name module : Text} (hname : Bindable name) (hmodule : LocalPath module) :
    Form.list.body? (Form.list.clause name ++ ' ' :: fromClause module) =
      some (⟨[name], module⟩, []) := by
  have hclause : Form.list.clause name ++ ' ' :: fromClause module =
      Char.ofNat 123 :: (name ++ Char.ofNat 125 :: (' ' :: fromClause module)) := by
    simp [clause]
  have hinner : (name ++ Char.ofNat 125 :: (' ' :: fromClause module)).takeWhile
      (fun d => d.toNat != 125) = name := by
    rw [List.takeWhile_append_of_pos]
    · exact List.append_nil name
    · exact fun c hc =>
        bne_iff_ne.mpr (@Bindable.toNat_ne name hname c (Char.ofNat 125) hc (by decide))
  have hbraced : braced? (Form.list.clause name ++ ' ' :: fromClause module) =
      some (name, ' ' :: fromClause module) := by
    rw [hclause, braced?]
    simp only [hinner, List.drop_left]
    simp [hname.ne_nil]
  have hcomma : ',' ∉ name := fun h => hname.marks _ h (by decide)
  simp only [body?, hbraced, Option.bind_eq_bind, Option.bind_some, fromModule?_fromClause hmodule,
    Text.splitAt_of_notMem hcomma, List.map_cons, List.map_nil, boundName_eq hname]
  simp [hname.ne_nil]

/-- A clause is read by the reader of its form, and by no other one. -/
theorem Form.body?_clause (form reader : Form) {name module : Text} (hname : Bindable name)
    (hmodule : LocalPath module) :
    reader.body? (form.clause name ++ ' ' :: fromClause module) =
      if reader = form ∧ (form = .list ∨ name.all Text.isWord = true) then
        some (⟨[name], module⟩, []) else none := by
  cases form with
  | list =>
      cases reader with
      | list => rw [body?_list hname hmodule, if_pos ⟨rfl, .inl rfl⟩]
      | default => rfl
      | star => rfl
  | default =>
      obtain ⟨c, rest, rfl⟩ := List.exists_cons_of_ne_nil hname.ne_nil
      cases reader with
      | list =>
          have hc : c.toNat ≠ 123 :=
            @Bindable.toNat_ne _ hname c (Char.ofNat 123) List.mem_cons_self (by decide)
          simp [clause, body?, braced?, hc]
      | default => simpa [clause] using body?_default hname hmodule
      | star =>
          have hc : '*' ≠ c := fun h => hname.marks c List.mem_cons_self (h ▸ by decide)
          simp [clause, body?, afterText?, hc]
  | star =>
      cases reader with
      | list => rfl
      | default => rfl
      | star =>
          have hblank := hname.dropWhile_isBlank (' ' :: fromClause module)
          have hstar : Form.star.body? (Form.star.clause name ++ ' ' :: fromClause module) =
              Form.default.body? ((name ++ ' ' :: fromClause module).dropWhile Text.isBlank) := rfl
          rw [hblank] at hstar
          rw [hstar, body?_default hname hmodule]
          simp

/-- Nothing is found from a clause on. -/
theorem Form.importsOf_clause (form reader : Form) {name module : Text} (hname : Bindable name)
    (hmodule : LocalPath module) :
    importsOf reader.read? (form.clause name ++ ' ' :: fromClause module) = [] := by
  have hskip {w : Text} (hw : (w.all fun c => !Text.isBlank c) = true)
      (hend : ¬ "import".toList <:+ w) (t : Text) :
      importsOf reader.read? (w ++ ' ' :: t) = importsOf reader.read? t :=
    reader.importsOf_word (isBlank_of_all hw) fun h => absurd h hend
  have htail : importsOf reader.read? (fromClause module) = [] := by
    rw [fromClause, hskip (by decide) (by decide), reader.importsOf_quoted hmodule.isQuote]
  have hlast {w : Text} (hw : ∀ c ∈ w, Text.isBlank c = false) :
      importsOf reader.read? (w ++ ' ' :: fromClause module) = [] := by
    have hbody : reader.body? ((fromClause module).dropWhile Text.isBlank) = none :=
      reader.body?_fromClause module
    rw [reader.importsOf_word hw fun _ => hbody, htail]
  cases form with
  | list =>
      refine hlast ?_
      rw [clause, List.forall_mem_append, List.forall_mem_append]
      exact ⟨⟨isBlank_of_all (by decide), hname.isBlank⟩, isBlank_of_all (by decide)⟩
  | default => exact hlast hname.isBlank
  | star =>
      have hstar := @hskip ['*'] (by decide) (by decide)
        ("as ".toList ++ (name ++ ' ' :: fromClause module))
      have has := @hskip "as".toList (by decide) (by decide) (name ++ ' ' :: fromClause module)
      exact hstar.trans (has.trans (hlast hname.isBlank))

/-- A statement is read in its own form only, and a name by itself must be a word. -/
theorem Form.importsOf_statement (form reader : Form) {name module : Text} (hname : Bindable name)
    (hmodule : LocalPath module) :
    importsOf reader.read? (form.statement name module) =
      if reader = form ∧ (form = .list ∨ name.all Text.isWord = true) then
        [⟨[name], module⟩] else [] := by
  have hstatement : form.statement name module =
      "import".toList ++ ' ' :: (form.clause name ++ ' ' :: fromClause module) := by
    have happend (a c f m q : Text) :
        a ++ [' '] ++ c ++ (' ' :: (f ++ ' ' :: q)) ++ m ++ q =
          a ++ ' ' :: (c ++ ' ' :: (f ++ ' ' :: (q ++ m ++ q))) := by
      simp
    exact happend "import".toList (form.clause name) "from".toList module "'".toList
  have hfirst : (form.clause name ++ ' ' :: fromClause module).dropWhile Text.isBlank =
      form.clause name ++ ' ' :: fromClause module := by
    cases form with
    | list => rfl
    | default => exact hname.dropWhile_isBlank _
    | star => rfl
  have hbody := form.body?_clause reader hname hmodule
  rw [hstatement]
  split
  next h =>
      rw [if_pos h] at hbody
      refine importsOf_of_some (by simp) ?_
      rw [read?_eq, afterImport?_word isBlank_import, if_pos rfl, hfirst, Option.bind_some, hbody]
  next h =>
      rw [if_neg h] at hbody
      rw [reader.importsOf_word isBlank_import fun _ => by rw [hfirst, hbody]]
      exact form.importsOf_clause reader hname hmodule

/-! ## Names and files -/

/-- A statement binds its name, unless its form takes words only and the name is none. -/
theorem imports_eq (base file : Path) (form : Form) {name module : Text} (hname : Bindable name)
    (hmodule : LocalPath module) :
    imports base file (form.statement name module) =
      if form = .list ∨ name.all Text.isWord = true then
        [(name, moduleFile base file.parent module)] else [] := by
  have hlist := form.importsOf_statement .list hname hmodule
  have hdefault := form.importsOf_statement .default hname hmodule
  have hstar := form.importsOf_statement .star hname hmodule
  simp only [Form.read?] at hlist hdefault hstar
  rw [imports, hlist, hdefault, hstar]
  by_cases hword : name.all Text.isWord = true
  · cases form <;> simp [hword, Table.putAll, Table.put, Table.has]
  · cases form <;> simp [hword, Table.putAll, Table.put, Table.has]

end Source

/-- The scan of a script stands under the text of its path. -/
theorem Resource.get?_scanAll {ext : Extension} {scans : Scans} {p : Path}
    (hsound : ext.volume.root.isSound = true) (h : scanAll ext = .ok scans)
    (hp : p ∈ ext.runtimeScripts) :
    ∃ t, ext.text p = .ok t ∧ scans.get? p.shown = some (scan ext.base (ext.base ++ p) t) := by
  obtain ⟨found, htexts, hscans, hkeys⟩ := exists_texts_of_isSound hsound h
  have hfiles := Extension.map_fst_texts htexts
  rw [← hfiles] at hp
  obtain ⟨⟨p, t⟩, hmem, rfl⟩ := List.mem_map.mp hp
  refine ⟨t, (Extension.of_mem_texts htexts hmem).2, ?_⟩
  rw [Table.get?_eq_some_iff hkeys, hscans]
  exact List.mem_map.mpr ⟨_, hmem, rfl⟩

namespace Source

/-- An import of a name from a module of the extension binds the name to the text of the path that
the module's path leads to, and the scan of the file there stands under this text.  Only a list in
braces binds all names.  The other two forms bind words only. -/
theorem imports_statement (ext : Extension) (form : Form) (name : Text) (hname : Bindable name)
    (module : Text) (hmodule : LocalPath module) (steps : List String)
    (hsteps : (Path.shown steps).toList = module) (hslash : ∀ c ∈ steps, '/' ∉ c.toList)
    (q p : Path) (hne : p ≠ [])
    (hleads : Path.Leads (ext.base ++ q).parent steps (ext.base ++ p)) :
    imports ext.base (ext.base ++ q) (form.statement name module) =
        (if form = .list ∨ name.all Text.isWord = true then [(name, p.shown)] else []) ∧
      ∀ scans, ext.volume.root.isSound = true → Resource.scanAll ext = .ok scans →
        p ∈ ext.runtimeScripts → ∃ t, ext.text p = .ok t ∧
          scans.get? p.shown = some (Resource.scan ext.base (ext.base ++ p) t) := by
  subst hsteps
  have hstep : steps ≠ [] := by
    rintro rfl
    exact absurd hmodule.length (by decide)
  refine ⟨?_, fun scans hsound hscans hp => Resource.get?_scanAll hsound hscans hp⟩
  rw [imports_eq _ _ form hname hmodule, moduleFile_of_leads hne hstep hslash hleads]

/-- Two scripts in different directories of an extension. -/
def twoScripts : Extension :=
  ⟨⟨.dir [("tmp", .dir [("ext", .dir [("lib", .dir [("b.js", .file [] false)]),
      ("ui", .dir [("a.js", .file [] false)])])])], .plain⟩, ["tmp", "ext"]⟩

/-- The path climbs to the root and comes back. -/
theorem imports_statement_twoScripts :
    imports ["tmp", "ext"] ["tmp", "ext", "ui", "a.js"]
        (Form.star.statement "Panel".toList "../../.././tmp/ext//lib/b.js".toList) =
        [("Panel".toList, "lib/b.js")] ∧
      ∃ scans t, Resource.scanAll twoScripts = .ok scans ∧ scans.get? "lib/b.js" =
        some (Resource.scan ["tmp", "ext"] ["tmp", "ext", "lib", "b.js"] t) := by
  have hname : Bindable "Panel".toList :=
    ⟨by decide, isBlank_of_all (by decide), List.all_iff_forall_prop.mp (by decide)⟩
  have hmodule : LocalPath "../../.././tmp/ext//lib/b.js".toList :=
    ⟨by decide, by decide, List.all_iff_forall_prop.mp (by decide)⟩
  have hleads : Path.Leads ["tmp", "ext", "ui"]
      ["..", "..", "..", ".", "tmp", "ext", "", "lib", "b.js"] ["tmp", "ext", "lib", "b.js"] :=
    .up <| .up <| .up <| .stay (.inr rfl) <| .down (Path.isName_of_isProper (by decide)) <|
      .down (Path.isName_of_isProper (by decide)) <| .stay (.inl rfl) <|
      .down (Path.isName_of_isProper (by decide)) <|
      .down (Path.isName_of_isProper (by decide)) <| .done _
  obtain ⟨himports, hscans⟩ := imports_statement twoScripts .star _ hname _ hmodule _ rfl
    (by decide) ["ui", "a.js"] ["lib", "b.js"] (by decide) hleads
  refine ⟨himports.trans (if_pos (.inr (by decide))), ?_⟩
  have hisOk : (Resource.scanAll twoScripts).isOk = true := by decide
  cases hok : Resource.scanAll twoScripts with
  | error fault =>
      rw [hok] at hisOk
      cases hisOk
  | ok scans =>
      obtain ⟨t, -, hget⟩ := hscans scans (by decide) hok (by decide)
      exact ⟨scans, t, rfl, hget⟩

/-- A name with a dollar sign is bound in braces only. -/
theorem imports_dollar :
    imports ["ext"] ["ext", "extension.js"] (Form.default.statement ['$'] "./x.js".toList) = [] ∧
      imports ["ext"] ["ext", "extension.js"] (Form.list.statement ['$'] "./x.js".toList) =
        [(['$'], "x.js")] := by
  decide

end Source

end ExtensionAudit
