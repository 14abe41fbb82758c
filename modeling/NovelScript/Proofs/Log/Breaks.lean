import NovelScript.Proofs.Log.Line
import NovelScript.Proofs.Text.Decimal
import NovelScript.Proofs.Text.Newline
import NovelScript.Proofs.Text.Quoted

/-!
# Line breaks in the log

A line of the console ends with a line break. Numbers, lengths of time, truth values and quoted texts
have none in them, but a text is quoted only for what could be taken for the end of its value, and a
line break does not count as that. A text that is not quoted is copied with the breaks it has, and so
is what is said about a fault.

* **`count_shown`**: the line breaks of a shown value are those of what is copied (`Value.copied`).
* **`line_breaks`**: so a record is one line exactly when no line break is copied, and otherwise there
  is one line more for each.
-/

namespace NovelScript

namespace Text

/-- A number is written without a line break. -/
theorem newline_not_mem_ofNat (n : Nat) : newline ∉ ofNat n := fun h =>
  absurd (isDigit_of_mem_ofNat h) (by decide)

/-- A number with a sign is written without a line break. -/
theorem newline_not_mem_ofInt (n : Int) : newline ∉ ofInt n := by
  unfold ofInt
  split
  · exact List.not_mem_append (by decide) (newline_not_mem_ofNat _)
  · exact newline_not_mem_ofNat _

end Text

open Text (newline newline_not_mem_ofNat newline_not_mem_ofInt)

/-! ## Numbers -/

/-- Zeros in front bring no line break. -/
theorem Decimal.newline_not_mem_padded (width n : Nat) : newline ∉ Decimal.padded width n := by
  have hzeros : newline ∉ List.replicate (width - (Text.ofNat n).length) (0x30 : UInt8) := fun h =>
    absurd (List.mem_replicate.mp h).2 (by decide)
  exact List.not_mem_append hzeros (newline_not_mem_ofNat n)

/-- A decimal number is written without a line break. -/
theorem Decimal.newline_not_mem_positional (d : Decimal) : newline ∉ d.positional := by
  unfold Decimal.positional Decimal.withPlaces
  split
  · exact newline_not_mem_ofNat _
  split
  · exact newline_not_mem_ofNat _
  · exact List.not_mem_append (List.not_mem_append (newline_not_mem_ofNat _) (by decide))
      (Decimal.newline_not_mem_padded _ _)

/-- So the values that are not text are written without one: a floating number here, and durations
and lengths below. -/
theorem Double.newline_not_mem_plain (x : Double) : newline ∉ x.plain := by
  have hspecial : newline ∉ Double.special x := by
    unfold Double.special
    split <;> decide
  unfold Double.plain Double.written
  split
  · refine List.not_mem_append ?_ ?_
    · split <;> decide
    · split <;> exact Decimal.newline_not_mem_positional _
  · exact hspecial

namespace Log

/-- A number with a fraction is written without a line break. -/
theorem newline_not_mem_withFraction (n places : Nat) : newline ∉ withFraction n places := by
  refine List.not_mem_append (newline_not_mem_ofNat _) ?_
  split
  · exact List.not_mem_nil
  · refine List.not_mem_append (by decide) fun h => ?_
    have hpadded := List.mem_reverse.mp ((List.dropWhile_sublist _).subset (List.mem_reverse.mp h))
    exact Decimal.newline_not_mem_padded _ _ hpadded

/-- A length of time below a second is written without a line break. It has its own unit, unlike
those from a second on. -/
theorem newline_not_mem_lengthText (n : Nat) : newline ∉ lengthText n := by
  have hoptional (zero : Prop) [Decidable zero] {s : Text} (hs : newline ∉ s) :
      newline ∉ if zero then [] else s := by
    split
    · exact List.not_mem_nil
    · exact hs
  unfold lengthText
  dsimp only
  split
  · decide
  split
  · exact List.not_mem_append (newline_not_mem_ofNat n) (by decide)
  split
  · exact List.not_mem_append (newline_not_mem_withFraction n 3) (by decide)
  split
  · exact List.not_mem_append (newline_not_mem_withFraction n 6) (by decide)
  · have hcount (n : Nat) {unit : Text} (hunit : newline ∉ unit) : newline ∉ Text.ofNat n ++ unit :=
      List.not_mem_append (newline_not_mem_ofNat n) hunit
    refine List.not_mem_append (List.not_mem_append ?_ (newline_not_mem_withFraction _ 9)) (by decide)
    exact List.not_mem_append (hoptional _ (hcount _ (by decide))) (hoptional _ (hcount _ (by decide)))

/-- A duration is written without a line break, whatever its size and sign. -/
theorem newline_not_mem_durationText (n : Int) : newline ∉ durationText n := by
  refine List.not_mem_append ?_ (newline_not_mem_lengthText _)
  split <;> decide

/-- The name of a level has no line break: one of four names, with the distance to it as a
number. -/
theorem Level.newline_not_mem_short (l : Level) : newline ∉ l.short := by
  have hdistance (name : String) (d : Int) (h : newline ∉ Text.lit name) :
      newline ∉ Level.distance name d := by
    unfold Level.distance
    refine List.not_mem_append h ?_
    split
    · exact List.not_mem_nil
    split
    · exact List.not_mem_append (by decide) (newline_not_mem_ofInt d)
    · exact newline_not_mem_ofInt d
  have hname : newline ∉ l.name := by
    unfold Level.name
    split
    · exact hdistance _ _ (by decide)
    split
    · exact hdistance _ _ (by decide)
    split
    · exact hdistance _ _ (by decide)
    · exact hdistance _ _ (by decide)
  unfold Level.short
  split
  · decide
  split
  · decide
  split
  · decide
  split
  · decide
  · exact hname

/-! ## Values -/

/-- What of a value is copied as it is: a text that is not quoted, what is said about a fault, and
all of a group, in which nothing is quoted. -/
def Value.copied : Value → Text
  | .text s => if needsQuotes s then [] else s
  | .fault message => message
  | .group members => (Value.group members).bare
  | _ => []

/-- **A shown value has the line breaks of what is copied.** A value that is quoted has none, as its
breaks are escaped. -/
theorem count_shown (v : Value) : v.shown.count newline = v.copied.count newline := by
  have hnone {s : Text} (h : newline ∉ s) : s.count newline = ([] : Text).count newline := by
    rw [List.count_eq_zero.mpr h, List.count_nil]
  cases v with
  | text s =>
    unfold Value.shown Value.copied
    dsimp only
    split
    · exact hnone (Text.newline_not_mem_quoted s)
    · rfl
  | int n => exact hnone (newline_not_mem_ofInt n)
  | nat n => exact hnone (newline_not_mem_ofNat n)
  | double x => exact hnone (Double.newline_not_mem_plain x)
  | bool b => exact hnone (by cases b <;> decide)
  | duration n => exact hnone (newline_not_mem_durationText n)
  | fault message => rfl
  | nothing => exact hnone (by decide)
  | group members => rfl

/-- An attribute with a key of one line. -/
theorem count_attributeText {key : Text} (h : newline ∉ key) (v : Value) :
    (attributeText key v).count newline = v.copied.count newline := by
  have hfront : newline ∉ Text.lit " " ++ key ++ Text.lit "=" :=
    List.not_mem_append (List.not_mem_append (by decide) h) (by decide)
  rw [attributeText, List.count_append, List.count_eq_zero.mpr hfront, Nat.zero_add, count_shown]

/-- How many line breaks the values of attributes bring. -/
def breaks (as : List Attribute) : Nat :=
  (as.flatMap fun a => a.2.copied).count newline

/-- Line breaks are counted attribute by attribute. -/
theorem breaks_append (as bs : List Attribute) : breaks (as ++ bs) = breaks as + breaks bs := by
  rw [breaks, List.flatMap_append, List.count_append]
  rfl

/-- The breaks of one attribute are those of the text that it copies. -/
theorem breaks_cons (a : Attribute) (as : List Attribute) :
    breaks (a :: as) = a.2.copied.count newline + breaks as := by
  rw [breaks, List.flatMap_cons, List.count_append]
  rfl

/-- Attributes that are written one behind the other, those that say nothing left out. -/
theorem count_attributes (as : List Attribute) (name : Attribute → Text)
    (h : ∀ a ∈ as, newline ∉ name a) :
    (as.flatMap fun a => if isVoid a.1 a.2 then [] else attributeText (name a) a.2).count newline =
      breaks as := by
  rw [breaks, List.count_flatMap, List.count_flatMap]
  congr 1
  refine List.map_congr_left fun a ha => ?_
  rw [Function.comp_apply, Function.comp_apply]
  split
  · rename_i hvoid
    -- what is left out has no value
    obtain ⟨key, v⟩ := a
    cases v <;> simp_all [isVoid, Value.copied]
  · exact count_attributeText (h a ha) a.2

/-- An empty group brings none. It is dropped from the line, and so are the breaks that it might
have had. -/
theorem breaks_kept (as : List Attribute) : breaks (kept as) = breaks as := by
  induction as with
  | nil => rfl
  | cons a as ih =>
    rw [kept, List.filter_cons, ← kept]
    split
    · rw [breaks_cons, ih, breaks_cons]
    · rename_i hempty
      obtain ⟨key, v⟩ := a
      have hv : v.copied.count newline = 0 := by
        cases v with
        | group members =>
          cases members with
          | nil => decide
          | cons member members => simp [Value.isEmptyGroup] at hempty
        | _ => simp [Value.isEmptyGroup] at hempty
      rw [ih, breaks_cons, hv, Nat.zero_add]

/-- Under their full names the attributes have the same values. -/
theorem breaks_carried (chain : Chain) : breaks (carried chain) = breaks (chain.flatMap Step.added) := by
  induction chain using List.reverseRecOn with
  | nil => rfl
  | append_singleton chain step ih =>
    have hnamed (groups : List Text) (as : List Attribute) :
        breaks (as.map (inGroups groups)) = breaks as := by
      rw [breaks, List.flatMap_map]
      rfl
    rw [carried_concat, breaks_append, ih, hnamed, List.flatMap_append, breaks_append,
      List.flatMap_singleton]

/-! ## Lines -/

/-- A key in its groups has no line break when the key and the groups have none. -/
theorem newline_not_mem_fullName {groups : List Text} {key : Text}
    (hgroups : ∀ name ∈ groups, newline ∉ name) (hkey : newline ∉ key) :
    newline ∉ fullName groups key := by
  refine Text.not_mem_join (by decide) fun part hpart => ?_
  rcases List.mem_append.mp hpart with hpart | hpart
  · exact hgroups part hpart
  · rw [List.mem_singleton.mp hpart]
    exact hkey

/-- A group that is open was opened by a step of the chain. -/
theorem group_mem_of_mem_openGroups {chain : Chain} {name : Text} (h : name ∈ openGroups chain) :
    Step.group name ∈ chain := by
  obtain ⟨step, hstep, hname⟩ := List.mem_filterMap.mp h
  cases step with
  | attributes as => cases hname
  | group other =>
    dsimp only at hname
    split at hname
    · cases hname
    · rw [← Option.some_inj.mp hname]
      exact hstep

/-- The full names of what a logger carries are of one line when groups and keys are. -/
theorem newline_not_mem_of_mem_carried {chain : Chain}
    (hgroups : ∀ name, Step.group name ∈ chain → newline ∉ name)
    (hkeys : ∀ a ∈ chain.flatMap Step.added, newline ∉ a.1) {a : Attribute} (ha : a ∈ carried chain) :
    newline ∉ a.1 := by
  obtain ⟨⟨step, i⟩, hstep, ha⟩ := List.mem_flatMap.mp ha
  obtain ⟨b, hb, rfl⟩ := List.mem_map.mp ha
  have hmem := List.fst_mem_of_mem_zipIdx hstep
  refine newline_not_mem_fullName (fun name hname => ?_)
    (hkeys b (List.mem_flatMap.mpr ⟨step, hmem, hb⟩))
  exact hgroups name (List.mem_of_mem_take (group_mem_of_mem_openGroups hname))

/-- **The line of a record, counted**: one break at its end, and one more for each that a value
brings, as long as keys, groups, message and place bring none. A value that is copied without quotes
is the only way for a break to get into the line. -/
theorem lineOf_breaks {attributes : List Attribute} {groups : List Text} {r : Record}
    (hattributes : ∀ a ∈ attributes, newline ∉ a.1) (hgroups : ∀ name ∈ groups, newline ∉ name)
    (hmessage : newline ∉ r.message) (hplace : ∀ p ∈ r.place, newline ∉ p)
    (hkeys : ∀ a ∈ r.attributes, newline ∉ a.1) :
    ∃ body, lineOf attributes groups r = body ++ [newline] ∧
      body.count newline = breaks (attributes ++ r.attributes) := by
  have hlevel := List.count_eq_zero.mpr r.level.newline_not_mem_short
  have hsaid : (if r.message.isEmpty then [] else Text.lit " " ++ r.message).count newline = 0 := by
    rw [List.count_eq_zero]
    split
    · exact List.not_mem_nil
    · exact List.not_mem_append (by decide) hmessage
  have hcarried : (attributes.flatMap attributeShown).count newline = breaks attributes :=
    count_attributes attributes Prod.fst hattributes
  have hrecord := count_attributes (kept r.attributes) (fun a => groupText groups ++ a.1) fun a ha => by
    rw [groupText_append]
    exact newline_not_mem_fullName hgroups (hkeys a (List.filter_sublist.subset ha))
  have hsource : (r.place.elim [] fun p => Text.lit " src=" ++ p).count newline = 0 := by
    rw [List.count_eq_zero]
    cases hp : r.place with
    | none => exact List.not_mem_nil
    | some p => exact List.not_mem_append (by decide) (hplace p hp)
  refine ⟨_, rfl, ?_⟩
  rw [List.count_append, List.count_append, List.count_append, List.count_append, hlevel, hsaid,
    hcarried, hrecord, hsource, breaks_kept, breaks_append]
  omega

/-- **The line breaks of a record.** When message, keys and groups are of one line, the console line
ends with a line break, and has besides that those of what is copied: it is one line if and only if
every text with a line break among the values is quoted, which needs a blank, a tab, a double quote
or an equals sign in it, and there is no line break in what else is copied. -/
theorem line_breaks (sink : Sink) (time : Option Clock) (chain : Chain) (r : Record)
    (context : List Attribute) (hsink : sink.format = .console)
    (htime : ∀ t ∈ time, newline ∉ t.second) (hmessage : newline ∉ r.message)
    (hplace : ∀ p ∈ r.place, newline ∉ p) (hgroups : ∀ name, Step.group name ∈ chain → newline ∉ name)
    (hkeys : ∀ a ∈ chain.flatMap Step.added ++ (r.attributes ++ context), newline ∉ a.1) :
    ∃ body, sink.line time chain (r.within context) = body ++ [newline] ∧
      body.count newline = breaks (chain.flatMap Step.added ++ (r.attributes ++ context)) ∧
      (newline ∉ body ↔
        ∀ a ∈ chain.flatMap Step.added ++ (r.attributes ++ context), newline ∉ a.2.copied) := by
  obtain ⟨hadded, hwithin⟩ := List.forall_mem_append.mp hkeys
  have hopen : ∀ name ∈ openGroups chain, newline ∉ name := fun name hname =>
    hgroups name (group_mem_of_mem_openGroups hname)
  have hsourced : ∀ p ∈ (if sink.source then r.within context
      else { r.within context with place := none }).place, newline ∉ p := by
    split
    · exact hplace
    · simp
  have hattributes : (if sink.source then r.within context
      else { r.within context with place := none }).attributes = r.attributes ++ context := by
    split <;> rfl
  have hsaid : (if sink.source then r.within context
      else { r.within context with place := none }).message = r.message := by
    split <;> rfl
  obtain ⟨body, hbody, hcount⟩ := lineOf_breaks
    (fun a ha => newline_not_mem_of_mem_carried hgroups hadded ha) hopen (hsaid ▸ hmessage) hsourced
    (hattributes ▸ hwithin)
  have hclock : ((time.elim [] fun t => t.second ++ [Text.blank]) : Text).count newline = 0 := by
    rw [List.count_eq_zero]
    cases time with
    | none => exact List.not_mem_nil
    | some t => exact List.not_mem_append (htime t rfl) (by decide)
  have htotal : ((time.elim [] fun t => t.second ++ [Text.blank]) ++ body).count newline =
      breaks (chain.flatMap Step.added ++ (r.attributes ++ context)) := by
    rw [List.count_append, hclock, Nat.zero_add, hcount, hattributes, breaks_append, breaks_carried,
      ← breaks_append]
  refine ⟨_, ?_, htotal, ?_⟩
  · rw [Sink.line_console hsink, hbody, List.append_assoc]
  · rw [← List.count_eq_zero, htotal, breaks, List.count_eq_zero, List.mem_flatMap]
    simp only [not_exists, not_and]

/-- With a blank in it the text is quoted, so that its line break does no harm; the other text is
copied with its line break. -/
theorem line_breaks_of_two_texts :
    ∃ body, Sink.line ⟨.console, Level.info, false⟩ none
        [.group (Text.lit "g"), .attributes [(Text.lit "k", .text (Text.lit "a\nb c"))]]
        (Record.within ⟨Level.info, Text.lit "x", [(Text.lit "n", .int 1)], none⟩
          [(Text.lit "doc", .text (Text.lit "a\nb"))]) = body ++ [newline] ∧
      body = Text.lit "INF x g.k=\"a\\nb c\" g.n=1 g.doc=a\nb" ∧ body.count newline = 1 := by
  obtain ⟨body, hline, hcount, -⟩ := line_breaks ⟨.console, Level.info, false⟩ none
    [.group (Text.lit "g"), .attributes [(Text.lit "k", .text (Text.lit "a\nb c"))]]
    ⟨Level.info, Text.lit "x", [(Text.lit "n", .int 1)], none⟩
    [(Text.lit "doc", .text (Text.lit "a\nb"))] rfl (by simp) (by decide) (by simp)
    (fun name hname => by
      simp only [List.mem_cons, Step.group.injEq, reduceCtorEq, List.not_mem_nil, or_false] at hname
      rw [hname]
      decide)
    (by decide)
  refine ⟨body, hline, List.append_cancel_right (hline.symm.trans ?_), hcount.trans (by decide)⟩
  decide

/-- A text with a line break alone is not quoted, and what follows the break can look like a line of
its own. -/
theorem line_of_text_with_break :
    Sink.line ⟨.console, Level.info, false⟩ none
        [.attributes [(Text.lit "app", .text (Text.lit "mdrpy"))]]
        ⟨Level.info, Text.lit "x", [(Text.lit "doc", .text (Text.lit "a\nERR"))], none⟩ =
        Text.lit "INF x app=mdrpy doc=a\nERR\n" ∧
      ¬ ∃ body, newline ∉ body ∧
        Sink.line ⟨.console, Level.info, false⟩ none
          [.attributes [(Text.lit "app", .text (Text.lit "mdrpy"))]]
          ⟨Level.info, Text.lit "x", [(Text.lit "doc", .text (Text.lit "a\nERR"))], none⟩ =
            body ++ [newline] := by
  have hline : Sink.line ⟨.console, Level.info, false⟩ none
      [.attributes [(Text.lit "app", .text (Text.lit "mdrpy"))]]
      ⟨Level.info, Text.lit "x", [(Text.lit "doc", .text (Text.lit "a\nERR"))], none⟩ =
      Text.lit "INF x app=mdrpy doc=a\nERR\n" := by decide
  refine ⟨hline, ?_⟩
  rintro ⟨body, hbody, heq⟩
  have hcount := congrArg (List.count newline) (hline.symm.trans heq)
  rw [List.count_append, List.count_eq_zero.mpr hbody] at hcount
  exact absurd hcount (by decide)

end Log

end NovelScript
