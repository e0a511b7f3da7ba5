import Mathlib
import ExtensionAudit.Proofs.Rule.Layout
import ExtensionAudit.Rule.Printer

/-!
# Rules that are written and read

Reading a rules file gives back the rules that it is laid out from, whatever blanks, blank lines and
comments stand around their lines.  The argument goes up level by level: a value is read back
(`readValue_writtenValue`), a field is added to the rule that is open (`addField_writtenField`), the
lines of a rule open it and fill it (`foldl_line_ruleLines`), and the lines of all rules add them in
order (`rules_foldl_line`).

A text may hold anything, since what could end it or its line is escaped.  An item of a list is not
escaped, so it must not hold a comma or a break, or a quote at either end (`IsItem`).  The name of a
field must not look like something else (`IsName`).
-/

namespace ExtensionAudit.Rule

/-! ## What can be written -/

/-- The name of a field that is read as one: it is not empty, has no colon and no blanks around it,
stands on one line, and starts neither a comment nor a rule. -/
@[mk_iff]
structure IsName (name : Text) : Prop where
  ne_nil : name ≠ []
  colon : ':' ∉ name
  unbroken : Unbroken name
  first : name.head?.any Text.isBlank = false
  last : name.getLast?.any Text.isBlank = false
  comment : name.head? ≠ some '#'
  hyphen : ¬ ['-', ' '] <+: name

/-- A quote of either kind. -/
def isQuote (c : Char) : Bool := c == '"' || c == '\''

/-- An item of a list that is read as one: no comma, no break, and no quote at either end. -/
@[mk_iff]
structure IsItem (item : Text) : Prop where
  comma : ',' ∉ item
  unbroken : Unbroken item
  first : item.head?.any isQuote = false
  last : item.getLast?.any isQuote = false

/-- The items of a list can be written; a text always can. -/
def Value.IsWritable : Value → Prop
  | .text _ => True
  | .list items => ∀ item ∈ items, IsItem item

/-- A rule that can be written: it has fields, each with a name of its own. -/
@[mk_iff]
structure IsWritable (r : Rule) : Prop where
  ne_nil : r.fields ≠ []
  nodup : (r.fields.map Prod.fst).Nodup
  names : ∀ f ∈ r.fields, IsName f.1
  values : ∀ f ∈ r.fields, f.2.IsWritable

instance (name : Text) : Decidable (IsName name) :=
  decidable_of_iff _ (isName_iff name).symm

instance (item : Text) : Decidable (IsItem item) :=
  decidable_of_iff _ (isItem_iff item).symm

instance : (v : Value) → Decidable v.IsWritable
  | .text _ => inferInstanceAs (Decidable True)
  | .list items => List.decidableBAll IsItem items

instance (r : Rule) : Decidable r.IsWritable :=
  decidable_of_iff _ (isWritable_iff r).symm

/-- The lines of a rule without blanks around them. -/
def ruleLines (r : Rule) : List Text :=
  match r.fields with
  | [] => []
  | f :: rest => ('-' :: ' ' :: writtenField f) :: rest.map writtenField

/-! ## Escapes -/

theorem unescape_cons {c : Char} (h : c ≠ '\\') (rest : Text) :
    unescape (c :: rest) = c :: unescape rest := by
  rw [unescape]
  rintro - - rfl
  exact absurd rfl h

/-- An escape stands for its character. -/
theorem unescape_escapedChar (c : Char) (rest : Text) :
    unescape (escapedChar c ++ rest) = c :: unescape rest := by
  unfold escapedChar
  split_ifs with h₁ h₂ h₃ h₄ h₅
  · rw [beq_iff_eq.mp h₁]
    rfl
  · rw [beq_iff_eq.mp h₂]
    rfl
  · rw [beq_iff_eq.mp h₃]
    rfl
  · rw [beq_iff_eq.mp h₄]
    rfl
  · rw [beq_iff_eq.mp h₅]
    rfl
  · exact unescape_cons (by simpa using h₁) rest

/-- What is escaped is read as it was. -/
theorem unescape_flatMap_escapedChar (t : Text) : unescape (t.flatMap escapedChar) = t := by
  induction t with
  | nil => rfl
  | cons c t ih => rw [List.flatMap_cons, unescape_escapedChar, ih]

theorem unbroken_escapedChar (c : Char) : Unbroken (escapedChar c) := by
  unfold escapedChar
  split_ifs with h₁ h₂ h₃ h₄ h₅
  · decide
  · decide
  · decide
  · decide
  · decide
  · simpa [Unbroken, isBreak] using ⟨by simpa using h₃, by simpa using h₅⟩

theorem unbroken_flatMap_escapedChar (t : Text) : Unbroken (t.flatMap escapedChar) := by
  intro c hc
  obtain ⟨d, -, hd⟩ := List.mem_flatMap.mp hc
  exact unbroken_escapedChar d c hd

/-! ## Texts between two characters -/

theorem isBetween_cons_append (first last a b : Char) (t : Text) :
    isBetween first last (a :: t ++ [b]) = (a == first && b == last) := by
  rw [isBetween, List.getLast?_concat]
  rfl

theorem inner_cons_append (a b : Char) (t : Text) : inner (a :: t ++ [b]) = t := by
  simp [inner]

theorem trim_cons_append {a b : Char} (ha : Text.isBlank a = false) (hb : Text.isBlank b = false)
    (t : Text) : Text.trim (a :: t ++ [b]) = a :: t ++ [b] := by
  apply Text.trimOf_eq_self
  · exact ha
  · rw [List.getLast?_concat]
    exact hb

/-! ## Lists -/

/-- An item between quotes. -/
def quotedItem (item : Text) : Text := '"' :: item ++ ['"']

theorem readItem_cons_blank {c : Char} (h : Text.isBlank c = true) (t : Text) :
    readItem (c :: t) = readItem t := by
  have hblank : Blank [c] := List.forall_mem_singleton.mpr h
  have htrim : Text.trim (c :: t) = Text.trim t := Text.trimOf_append_left hblank t
  rw [readItem, htrim, readItem]

/-- An item between quotes is read back. -/
theorem readItem_quotedItem {item : Text} (h : IsItem item) :
    readItem (quotedItem item) = item := by
  have hquote : ∀ o : Option Char, o.any isQuote = false →
      o.any (· == '"') = false ∧ o.any (· == '\'') = false := by
    rintro (_ | c) hc
    · exact ⟨rfl, rfl⟩
    · simpa [isQuote] using hc
  obtain ⟨hfirst, hfirst'⟩ := hquote _ h.first
  obtain ⟨hlast, hlast'⟩ := hquote _ h.last
  have hone : ∀ c ∈ ['"'], (c == '"') = true := by simp
  calc readItem (quotedItem item)
      = Text.trimOf (· == '\'') (Text.trimOf (· == '"') (['"'] ++ (item ++ ['"']))) := by
        rw [readItem, quotedItem, trim_cons_append (by decide) (by decide)]
        rfl
    _ = Text.trimOf (· == '\'') (Text.trimOf (· == '"') item) := by
        rw [Text.trimOf_append_left hone, Text.trimOf_append_right hone]
    _ = item := by rw [Text.trimOf_eq_self hfirst hlast, Text.trimOf_eq_self hfirst' hlast']

/-- The blank after a comma does not count. -/
theorem map_readItem_splitAt_cons {c : Char} (h : Text.isBlank c = true) (t : Text) :
    (Text.splitAt ',' (c :: t)).map readItem = (Text.splitAt ',' t).map readItem := by
  have hc : c ≠ ',' := by
    rintro rfl
    exact absurd h (by decide)
  obtain ⟨piece, pieces, ht⟩ := List.exists_cons_of_ne_nil (Text.splitAt_ne_nil ',' t)
  rw [Text.splitAt, ht]
  simp [hc, readItem_cons_blank h]

/-- Items between quotes, with commas between them, are read as they were. -/
theorem map_readItem_splitAt_join {items : List Text} (hne : items ≠ [])
    (h : ∀ item ∈ items, IsItem item) :
    (Text.splitAt ',' (Text.join [',', ' '] (items.map quotedItem))).map readItem = items := by
  induction items with
  | nil => exact absurd rfl hne
  | cons item items ih =>
      obtain ⟨hitem, hitems⟩ := List.forall_mem_cons.mp h
      have hcomma : ',' ∉ quotedItem item := by
        simpa [quotedItem] using hitem.comma
      cases items with
      | nil => simp [Text.join, Text.splitAt_of_notMem hcomma, readItem_quotedItem hitem]
      | cons next items =>
          have hjoin : Text.join [',', ' '] ((item :: next :: items).map quotedItem) =
              quotedItem item ++
                ',' :: ' ' :: Text.join [',', ' '] ((next :: items).map quotedItem) := by
            simp [Text.join, List.intercalate_cons_cons]
          rw [hjoin, Text.splitAt_append, Text.splitAt_of_notMem hcomma, List.map_append,
            map_readItem_splitAt_cons (by decide), ih (List.cons_ne_nil _ _) hitems,
            List.map_singleton, readItem_quotedItem hitem, List.singleton_append]

/-- What stands between the brackets of a list is blank only if the list is empty. -/
theorem isEmpty_trim_join (items : List Text) :
    (Text.trim (Text.join [',', ' '] (items.map quotedItem))).isEmpty = items.isEmpty := by
  cases items with
  | nil => rfl
  | cons item items =>
      obtain ⟨rest, hrest⟩ : ∃ rest,
          Text.join [',', ' '] ((item :: items).map quotedItem) = '"' :: rest := by
        cases items with
        | nil => exact ⟨_, rfl⟩
        | cons next items => exact ⟨_, rfl⟩
      have hhead : (Text.trim ('"' :: rest)).head? = some '"' :=
        Text.head?_trimOf_cons (by decide) rest
      obtain ⟨more, hmore⟩ := List.head?_eq_some_iff.mp hhead
      rw [hrest, hmore]
      rfl

/-! ## Values -/

theorem writtenValue_list (items : List Text) :
    writtenValue (.list items) = '[' :: Text.join [',', ' '] (items.map quotedItem) ++ [']'] := rfl

/-- A value is read as it was. -/
theorem readValue_writtenValue {v : Value} (h : v.IsWritable) : readValue (writtenValue v) = v := by
  cases v with
  | text t =>
      rw [writtenValue, writtenText, readValue]
      simp only [isBetween_cons_append, inner_cons_append]
      simp [unescape_flatMap_escapedChar]
  | list items =>
      rw [writtenValue_list, readValue]
      simp only [isBetween_cons_append, inner_cons_append, isEmpty_trim_join]
      cases items with
      | nil => rfl
      | cons item items =>
          rw [map_readItem_splitAt_join (List.cons_ne_nil item items) h]
          rfl

/-- A written value stands between two characters that are not blank. -/
theorem exists_writtenValue (v : Value) : ∃ a t b, writtenValue v = a :: t ++ [b] ∧
    Text.isBlank a = false ∧ Text.isBlank b = false := by
  cases v with
  | text t => exact ⟨_, _, _, rfl, by decide, by decide⟩
  | list items => exact ⟨_, _, _, rfl, by decide, by decide⟩

theorem trim_writtenValue (v : Value) : Text.trim (writtenValue v) = writtenValue v := by
  obtain ⟨a, t, b, hv, ha, hb⟩ := exists_writtenValue v
  rw [hv, trim_cons_append ha hb]

/-- Texts without breaks are joined to one without. -/
theorem unbroken_join {sep : Text} (hsep : Unbroken sep) {ts : List Text}
    (h : ∀ t ∈ ts, Unbroken t) : Unbroken (Text.join sep ts) := by
  induction ts with
  | nil => exact List.forall_mem_nil _
  | cons t ts ih =>
      obtain ⟨ht, hts⟩ := List.forall_mem_cons.mp h
      cases ts with
      | nil => simpa [Text.join] using ht
      | cons t' ts =>
          rw [Text.join, List.intercalate_cons_cons]
          exact unbroken_append.mpr ⟨unbroken_append.mpr ⟨ht, hsep⟩, ih hts⟩

/-- A written value stands on one line. -/
theorem unbroken_writtenValue {v : Value} (h : v.IsWritable) : Unbroken (writtenValue v) := by
  cases v with
  | text t =>
      rw [writtenValue, writtenText, unbroken_append, unbroken_cons]
      exact ⟨⟨by decide, unbroken_flatMap_escapedChar t⟩, by decide⟩
  | list items =>
      rw [writtenValue_list, unbroken_append, unbroken_cons]
      refine ⟨⟨by decide, unbroken_join (by decide) ?_⟩, by decide⟩
      rw [List.forall_mem_map]
      intro item hitem
      rw [quotedItem, unbroken_append, unbroken_cons]
      exact ⟨⟨by decide, (h item hitem).unbroken⟩, by decide⟩

/-! ## Fields -/

/-- A field is added as it was. -/
theorem addField_writtenField {f : Text × Value} (hname : IsName f.1) (hvalue : f.2.IsWritable)
    (r : Rule) : addField r (writtenField f) = r.set f.1 f.2 := by
  have hbreak : Text.breakAt ':' (writtenField f) = some (f.1, ' ' :: writtenValue f.2) :=
    Text.breakAt_eq_some_iff.mpr ⟨hname.colon, rfl⟩
  have hblank : Blank [' '] := by decide
  have htrim : Text.trim (' ' :: writtenValue f.2) = writtenValue f.2 :=
    (Text.trimOf_append_left hblank _).trans (trim_writtenValue f.2)
  have hself : Text.trim f.1 = f.1 := Text.trimOf_eq_self hname.first hname.last
  rw [addField, hbreak]
  dsimp only
  rw [hself, htrim, readValue_writtenValue hvalue]

/-- A written field is a line. -/
theorem isLine_writtenField {f : Text × Value} (hname : IsName f.1) (hvalue : f.2.IsWritable) :
    IsLine (writtenField f) := by
  have hhead : (writtenField f).head? = f.1.head? := List.head?_append_of_ne_nil _ hname.ne_nil
  constructor
  case unbroken =>
    rw [writtenField, unbroken_append, unbroken_cons, unbroken_cons]
    exact ⟨hname.unbroken, by decide, by decide, unbroken_writtenValue hvalue⟩
  case first =>
    rw [hhead]
    exact hname.first
  case last =>
    obtain ⟨a, t, b, hv, -, hb⟩ := exists_writtenValue f.2
    have hlast : writtenField f = (f.1 ++ ':' :: ' ' :: a :: t) ++ [b] := by
      rw [writtenField, hv]
      simp
    rw [hlast, List.getLast?_concat]
    exact hb
  case speaks =>
    have hne : writtenField f ≠ [] := by simp [writtenField]
    simp [speaks, hhead, hname.comment, hne]

/-- A field that is not the first one of its rule does not start a rule. -/
theorem not_prefix_writtenField {f : Text × Value} (hname : IsName f.1) :
    ¬ ['-', ' '] <+: writtenField f := by
  intro h
  obtain ⟨c, name, hc⟩ := List.exists_cons_of_ne_nil hname.ne_nil
  apply hname.hyphen
  rw [writtenField, hc] at h
  rw [hc]
  cases name with
  | nil => simp [List.cons_prefix_cons] at h
  | cons d name =>
      simpa [List.cons_prefix_cons] using h

/-- A field with a new name goes to the end. -/
theorem set_of_notMem {r : Rule} {name : Text} (h : name ∉ r.fields.map Prod.fst) (v : Value) :
    r.set name v = ⟨r.fields ++ [(name, v)]⟩ := by
  have hnone : r.fields.any (·.1 == name) = false := by
    rw [List.any_eq_false]
    intro f hf he
    exact h (List.mem_map.mpr ⟨f, hf, beq_iff_eq.mp he⟩)
  rw [set, hnone]
  rfl

/-! ## Rules -/

/-- So is a line that starts a rule. -/
theorem IsLine.item {l : Text} (h : IsLine l) : IsLine ('-' :: ' ' :: l) := by
  obtain ⟨hunbroken, -, hlast, hspeaks⟩ := h
  constructor
  case unbroken => exact unbroken_cons.mpr ⟨by decide, unbroken_cons.mpr ⟨by decide, hunbroken⟩⟩
  case first => rfl
  case last =>
    cases l with
    | nil => exact absurd hspeaks (by decide)
    | cons c l => exact hlast
  case speaks => rfl

/-- A line after a hyphen closes the rule that is open and opens the next one. -/
theorem Progress.line_item {l : Text} (h : IsLine l) (p : Progress) :
    p.line ('-' :: ' ' :: l) =
      { closed := p.current.toList ++ p.closed, current := some (addField empty l) } := by
  rw [Progress.line, h.item.trim]
  simp [h.trim]

/-- Any other line adds its field to the rule that is open. -/
theorem Progress.line_field {l : Text} (h : IsLine l) (hitem : ¬ ['-', ' '] <+: l) (p : Progress) :
    p.line l = { p with current := p.current.map (addField · l) } := by
  have hspeaks : (l.isEmpty || l.head? == some '#') = false := by
    simpa [speaks] using h.speaks
  rw [← List.isPrefixOf_iff_prefix] at hitem
  rw [Progress.line, h.trim]
  simp only [hspeaks, hitem]
  rfl

/-- The fields after the first one are added in order. -/
theorem foldl_line_writtenField {rest : List (Text × Value)} (r : Rule) (closed : List Rule)
    (hnodup : ((r.fields ++ rest).map Prod.fst).Nodup) (hnames : ∀ f ∈ rest, IsName f.1)
    (hvalues : ∀ f ∈ rest, f.2.IsWritable) :
    (rest.map writtenField).foldl Progress.line ⟨closed, some r⟩ =
      ⟨closed, some ⟨r.fields ++ rest⟩⟩ := by
  induction rest generalizing r with
  | nil => simp
  | cons f rest ih =>
      obtain ⟨hname, hnames⟩ := List.forall_mem_cons.mp hnames
      obtain ⟨hvalue, hvalues⟩ := List.forall_mem_cons.mp hvalues
      have hfresh : f.1 ∉ r.fields.map Prod.fst := by
        rw [List.map_append, List.nodup_append] at hnodup
        intro hmem
        exact hnodup.2.2 _ hmem _ (by simp) rfl
      have hset : r.set f.1 f.2 = ⟨r.fields ++ [f]⟩ := set_of_notMem hfresh f.2
      rw [List.map_cons, List.foldl_cons,
        Progress.line_field (isLine_writtenField hname hvalue) (not_prefix_writtenField hname)]
      dsimp only [Option.map_some]
      rw [addField_writtenField hname hvalue, hset, ih _ (by simpa using hnodup) hnames hvalues]
      simp

/-- The lines of a rule close the rule that is open and leave this one open. -/
theorem foldl_line_ruleLines {r : Rule} (h : r.IsWritable) (p : Progress) :
    (ruleLines r).foldl Progress.line p = ⟨p.current.toList ++ p.closed, some r⟩ := by
  obtain ⟨f, rest, hfields⟩ := List.exists_cons_of_ne_nil h.ne_nil
  obtain ⟨-, hnodup, hnames, hvalues⟩ := h
  rw [hfields] at hnodup hnames hvalues
  obtain ⟨hname, hnames⟩ := List.forall_mem_cons.mp hnames
  obtain ⟨hvalue, hvalues⟩ := List.forall_mem_cons.mp hvalues
  have hfirst : addField empty (writtenField f) = ⟨[f]⟩ := by
    rw [addField_writtenField hname hvalue]
    exact set_of_notMem List.not_mem_nil f.2
  have hr : r = ⟨[f] ++ rest⟩ := by
    cases r
    exact congrArg Rule.mk hfields
  rw [ruleLines, hfields]
  dsimp only
  rw [List.foldl_cons, Progress.line_item (isLine_writtenField hname hvalue), hfirst,
    foldl_line_writtenField ⟨[f]⟩ _ hnodup hnames hvalues, hr]

/-- The lines of all rules add the rules in order. -/
theorem rules_foldl_line {rules : List Rule} (h : ∀ r ∈ rules, r.IsWritable) (p : Progress) :
    ((rules.flatMap ruleLines).foldl Progress.line p).rules = p.rules ++ rules := by
  induction rules generalizing p with
  | nil => simp
  | cons r rules ih =>
      obtain ⟨hr, hrules⟩ := List.forall_mem_cons.mp h
      rw [List.flatMap_cons, List.foldl_append, foldl_line_ruleLines hr, ih hrules]
      simp [Progress.rules]

/-- The lines of a rule are lines. -/
theorem isLine_of_mem_ruleLines {r : Rule} (h : r.IsWritable) {l : Text} (hl : l ∈ ruleLines r) :
    IsLine l := by
  obtain ⟨hne, -, hnames, hvalues⟩ := h
  have hfield : ∀ f ∈ r.fields, IsLine (writtenField f) :=
    fun f hf => isLine_writtenField (hnames f hf) (hvalues f hf)
  obtain ⟨f, rest, hfields⟩ := List.exists_cons_of_ne_nil hne
  rw [ruleLines, hfields] at hl
  rw [hfields] at hfield
  rcases List.mem_cons.mp hl with rfl | hl
  · exact (hfield f List.mem_cons_self).item
  · obtain ⟨g, hg, rfl⟩ := List.mem_map.mp hl
    exact hfield g (List.mem_cons_of_mem _ hg)

/-! ## Files -/

/-- A file that says the lines of rules holds these rules. -/
theorem readAll_of_said {rules : List Rule} (h : ∀ r ∈ rules, r.IsWritable) {t : Text}
    (ht : said t = rules.flatMap ruleLines) : readAll (Text.unifyNewlines t) = rules := by
  rw [readAll_unifyNewlines, ht, rules_foldl_line h]
  rfl

/-- Reading gives back the rules that a file is laid out from: whatever the rules, the blanks around
their lines and the blank lines and comments between them. -/
theorem readAll_of_laid {rules : List Rule} (h : ∀ r ∈ rules, r.IsWritable) {lines : List Text}
    (hlaid : Laid (rules.flatMap ruleLines) lines) :
    readAll (Text.unifyNewlines (Text.join ['\n'] lines)) = rules := by
  refine readAll_of_said h (said_join_of_laid hlaid ?_)
  intro l hl
  obtain ⟨r, hr, hl⟩ := List.mem_flatMap.mp hl
  exact isLine_of_mem_ruleLines (h r hr) hl

/-- Rules whose texts look like other parts of a file: one ends in a backslash, one holds a colon,
brackets, quotes, a comment and a newline, and items hold a bracket and quotes. -/
def trickyRules : List Rule :=
  [⟨[("id".toList, .text "R\\".toList), ("-x".toList, .text "a: [\"b\"] # c\n".toList)]⟩,
   ⟨[("scope".toList, .list ["*.js".toList, [], " ]\"' ".toList, "#".toList]),
     ("none".toList, .list [])]⟩]

/-- The lines of these rules with blanks, blank lines and comments around them. -/
def trickyLines : List Text :=
  ["# rules".toList, "\t- id: \"R\\\\\" \r".toList, "  # - a: b".toList,
   "-x: \"a: [\\\"b\\\"] # c\\n\"".toList, " ".toList,
   "- scope: [\"*.js\", \"\", \" ]\"' \", \"#\"]".toList, "  none: []".toList, []]

/-- Rules that look like other parts of a file are read back. -/
theorem readAll_of_laid_trickyRules :
    (∀ r ∈ trickyRules, r.IsWritable) ∧ Laid (trickyRules.flatMap ruleLines) trickyLines ∧
      readAll (Text.unifyNewlines (Text.join ['\n'] trickyLines)) = trickyRules := by
  have hwritable : ∀ r ∈ trickyRules, r.IsWritable := by decide
  have hlaid : Laid (trickyRules.flatMap ruleLines) trickyLines :=
    .comment [] " rules".toList (by decide) (by decide) <|
    .line ['\t'] [' ', '\r'] (by decide) (by decide) <|
    .comment [' ', ' '] " - a: b".toList (by decide) (by decide) <|
    .line [] [] (by decide) (by decide) <|
    .blank [' '] (by decide) <|
    .line [] [] (by decide) (by decide) <|
    .line [' ', ' '] [] (by decide) (by decide) <|
    .blank [] (by decide) .nil
  exact ⟨hwritable, hlaid, readAll_of_laid hwritable hlaid⟩

end ExtensionAudit.Rule
