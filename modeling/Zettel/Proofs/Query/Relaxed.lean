import Mathlib.Data.List.Forall2
import Mathlib.Data.Option.Basic
import Mathlib.Tactic.SplitIfs
import Zettel.Proofs.Query.Conditions

/-!
# Relaxed matching of attributes

With `ReadOptions.fuzzyAttributes` a query is read step by step as it is without: the same trees are
left at every point, and only the leaves that ask for an attribute differ. So the relaxed expression
is a relabelling of the exact one, and the operator that was replaced shows in one message only.

Main statements: `follows_path` and `follows_sequence`, the two readings of a path and of a sequence
stay in step, and `read_fuzzy`, the two readings of a query.
-/

namespace Zettel.Query

/-- The options that match attributes exactly. -/
def ReadOptions.exact (includeContent : Bool) : ReadOptions := ⟨includeContent, false⟩

/-- The options that match attributes by a part of their names and values. -/
def ReadOptions.fuzzy (includeContent : Bool) : ReadOptions := ⟨includeContent, true⟩

/-! ## Relaxed expressions -/

/-- The comparison that asks for an occurrence where it asked for equality. -/
def Comparator.relaxed (c : Comparator) : Comparator :=
  if c.operator = .equal then { c with operator := .contains } else c

namespace Expression

mutual

/-- The expression that is content with a beginning of each attribute's name and, where it asked for
equality, with an occurrence in the value. -/
def relaxed : Expression → Expression
  | allOf parts => .allOf (relaxedAll parts)
  | anyOf parts => .anyOf (relaxedAll parts)
  | not part => .not part.relaxed
  | attributeExists kind name _ => .attributeExists kind name true
  | attributeCompare kind name c => .attributeCompare kind name c.relaxed
  | relationWhere name target => .relationWhere name target.relaxed
  | descendantOf ancestor => .descendantOf ancestor.relaxed
  | childOf parent => .childOf parent.relaxed
  | parentOf child => .parentOf child.relaxed
  | orderByAndLimit inner order limit => .orderByAndLimit inner.relaxed order limit
  | fulltext tokens => .fulltext tokens
  | noteContent operator tokens => .noteContent operator tokens
  | protectedContent operator tokens => .protectedContent operator tokens
  | propertyComparison property c => .propertyComparison property c

/-- Each of some expressions relaxed. -/
def relaxedAll : List Expression → List Expression
  | [] => []
  | e :: es => e.relaxed :: relaxedAll es

end

/-- The recursion through a list of expressions is a map. -/
theorem relaxedAll_eq_map (es : List Expression) : relaxedAll es = es.map relaxed := by
  induction es with
  | nil => simp [relaxedAll]
  | cons e es ih => simp [relaxedAll, ih]

@[simp]
theorem relaxed_allOf (parts : List Expression) :
    (allOf parts).relaxed = .allOf (parts.map relaxed) := by
  rw [relaxed, relaxedAll_eq_map]

@[simp]
theorem relaxed_anyOf (parts : List Expression) :
    (anyOf parts).relaxed = .anyOf (parts.map relaxed) := by
  rw [relaxed, relaxedAll_eq_map]

/-- Conditions are relaxed before or after they are joined. -/
theorem joined_map_relaxed {wrap : List Expression → Expression}
    (hwrap : ∀ es, (wrap es).relaxed = wrap (es.map relaxed)) (es : List Expression) :
    joined wrap (es.map relaxed) = (joined wrap es).map relaxed := by
  match es with
  | [] => rfl
  | [e] => rfl
  | e :: e' :: es =>
    show some (wrap ((e :: e' :: es).map relaxed)) = some (wrap (e :: e' :: es)).relaxed
    rw [hwrap]

end Expression

open Expression

/-! ## Reports of two readings -/

/-- Faults of an exact and of a relaxed reading that are the same, but for the operator that a
relaxed reading puts in the place of `=`. -/
inductive Diagnostic.Alike : Diagnostic → Diagnostic → Prop
  | refl (d : Diagnostic) : Alike d d
  | missingValue :
    Alike (.missingValue (Operator.text .equal)) (.missingValue (Operator.text .contains))

/-- Reports of alike faults that highlight the same texts. -/
structure Report.Alike (r s : Report) : Prop where
  faults : List.Forall₂ Diagnostic.Alike r.faults s.faults
  highlighted : s.highlighted = r.highlighted

namespace Report

variable {r s r' s' : Report}

theorem Alike.refl (r : Report) : r.Alike r where
  faults := List.forall₂_same.2 fun d _ => .refl d
  highlighted := rfl

/-- Alike reports, one after the other, are alike. -/
theorem Alike.append (h : r.Alike s) (h' : r'.Alike s') : (r ++ r').Alike (s ++ s') where
  faults := List.rel_append h.faults h'.faults
  highlighted := by rw [highlighted_append, highlighted_append, h.highlighted, h'.highlighted]

theorem Alike.fault {d e : Diagnostic} (h : d.Alike e) : (Report.fault d).Alike (.fault e) where
  faults := .cons h .nil
  highlighted := rfl

/-- Alike reports tell alike faults, or none. -/
theorem Alike.diagnostic? (h : r.Alike s) :
    Option.Rel Diagnostic.Alike r.diagnostic? s.diagnostic? := by
  obtain ⟨hfaults, -⟩ := h
  unfold Report.diagnostic?
  generalize r.faults = ds at hfaults ⊢
  generalize s.faults = es at hfaults ⊢
  cases hfaults with
  | nil => exact .none
  | cons hd _ => exact .some hd

end Report

/-! ## Paths -/

/-- The relaxed reading `q` follows the exact reading `p`: it leaves the same trees and its result
is the other one relabelled by `f`. -/
structure Parsed.Follows {α : Type} (f : α → α) (p q : Parsed α) : Prop where
  value : q.value = p.value.map f
  rest : q.rest = p.rest
  report : p.report.Alike q.report

namespace Parsed

variable {α β : Type} {f : α → α} {g : β → β} {p q : Parsed α}

theorem Follows.fault {d e : Diagnostic} (h : d.Alike e) (rest : List Tree) :
    Follows f (.fault d rest) (.fault e rest) := ⟨rfl, rfl, .fault h⟩

/-- Both readings may note the same before they go on. -/
theorem Follows.noting (h : Follows f p q) (r : Report) : Follows f (p.noting r) (q.noting r) :=
  ⟨h.value, h.rest, (Report.Alike.refl r).append h.report⟩

/-- Results that are relabelled may be processed further, if this agrees with the relabelling. -/
theorem Follows.map (h : Follows f p q) {k k' : α → β} (hk : ∀ a, k' (f a) = g (k a)) :
    Follows g (p.map k) (q.map k') := by
  refine ⟨?_, h.rest, h.report⟩
  unfold Parsed.map
  simp only [h.value, Option.map_map]
  exact congrArg (p.value.map ·) (funext hk)

/-- A reading that asks for nothing relaxed follows itself. -/
theorem Follows.refl (h : ∀ a, p.value = some a → f a = a) : Follows f p p := by
  refine ⟨?_, rfl, .refl _⟩
  cases hvalue : p.value with
  | none => rfl
  | some a => rw [Option.map_some, h a hvalue]

/-- What becomes of a result that relaxing does not touch is the same in both readings. -/
theorem Follows.map_self {k : α → β} (h : ∀ a, g (k a) = k a) (p : Parsed α) :
    Follows g (p.map k) (p.map k) := by
  refine .refl fun b hb => ?_
  obtain ⟨a, -, rfl⟩ := Option.map_eq_some_iff.1 hb
  exact h a

end Parsed

/-- Only `=` is relaxed. -/
theorem Comparator.relaxed_of_ne {c : Comparator} (h : c.operator ≠ .equal) : c.relaxed = c :=
  if_neg h

/-- A comparison for containment is built where one for equality is. -/
theorem build_contains (value : String) :
    ∃ c : Comparator, Comparator.build (Operator.text .equal) value = .ok c ∧
      Comparator.build (Operator.text .contains) value = .ok c.relaxed := by
  unfold Comparator.build
  simp only [Operator.ofText?_text]
  exact ⟨_, rfl, rfl⟩

theorem follows_comparison (includeContent : Bool) (op : String) (ts : List Tree) :
    Parsed.Follows Comparator.relaxed
      (comparison ((ReadOptions.exact includeContent).attributeOperator op) ts)
      (comparison ((ReadOptions.fuzzy includeContent).attributeOperator op) ts) := by
  have hexact : (ReadOptions.exact includeContent).attributeOperator op = op := rfl
  rw [hexact]
  by_cases hop : op = Operator.text .equal
  · have hfuzzy : (ReadOptions.fuzzy includeContent).attributeOperator op =
        Operator.text .contains := by
      simp [ReadOptions.attributeOperator, ReadOptions.fuzzy, hop]
    rw [hfuzzy, hop]
    unfold comparison
    split
    · next t rest =>
      obtain ⟨c, hc, hc'⟩ := build_contains t.text
      rw [hc, hc']
      exact ⟨rfl, rfl, .refl _⟩
    · exact .fault .missingValue _
  · have hfuzzy : (ReadOptions.fuzzy includeContent).attributeOperator op = op := by
      simp [ReadOptions.attributeOperator, hop]
    rw [hfuzzy]
    refine .refl fun c hc => Comparator.relaxed_of_ne fun hequal => hop ?_
    -- the operator of what is built is the written one
    unfold comparison at hc
    split at hc
    · split at hc
      · next c' hbuild =>
        obtain rfl := Option.some.inj hc
        rw [← (Comparator.build_text hbuild).1, hequal]
      · cases hc
    · cases hc

theorem MarkedName.follows_read (m : MarkedName) (text : String) {rest : List Tree}
    {exact fuzzy : AttributeKind → String → Parsed Expression}
    (h : ∀ kind name, Parsed.Follows relaxed (exact kind name) (fuzzy kind name)) :
    Parsed.Follows relaxed (m.read text rest exact) (m.read text rest fuzzy) := by
  unfold MarkedName.read
  split
  · exact .fault (.refl _) _
  · refine (h m.kind m.name).map fun e => ?_
    unfold MarkedName.signed
    split
    · rw [relaxed]
    · rfl

mutual

theorem follows_predicate (includeContent : Bool) (kind : AttributeKind) (name : String)
    (ts : List Tree) : Parsed.Follows relaxed (predicate (.exact includeContent) kind name ts)
      (predicate (.fuzzy includeContent) kind name ts) := by
  have hexists : ∀ rest, Parsed.Follows relaxed
      ⟨some (.attributeExists kind name (ReadOptions.exact includeContent).fuzzyAttributes), rest,
        .highlight name⟩
      ⟨some (.attributeExists kind name (ReadOptions.fuzzy includeContent).fuzzyAttributes), rest,
        .highlight name⟩ := fun rest => by
    refine ⟨?_, rfl, .refl _⟩
    simp [relaxed, ReadOptions.fuzzy]
  match ts with
  | [] =>
    rw [predicate, predicate]
    exact hexists []
  | t :: rest =>
    rw [predicate, predicate]
    split
    · refine ((follows_path includeContent rest).map fun e => ?_).noting _
      rw [relaxed]
    · split
      · next op hop =>
        refine ((follows_comparison includeContent op rest).map fun c => ?_).noting _
        rw [relaxed]
      · exact hexists (t :: rest)

/-- The two readings of a path stay in step. -/
theorem follows_path (includeContent : Bool) (ts : List Tree) :
    Parsed.Follows relaxed (path (.exact includeContent) ts) (path (.fuzzy includeContent) ts) := by
  match ts with
  | [] => exact .fault (.refl _) _
  | .group _ :: rest => exact .fault (.refl _) _
  | .token t :: rest =>
    rw [path, path]
    split
    · exact follows_predicate includeContent _ _ _
    · split
      · exact MarkedName.follows_read _ _ fun kind name =>
          follows_predicate includeContent kind name rest
      · split
        · refine .map_self (fun c => ?_) _
          simp [contentCondition, relaxed]
        · refine .map_self (fun c => ?_) _
          rw [relaxed]
        · exact follows_predicate includeContent _ _ _
        · next r _ =>
          match rest with
          | [] => exact .fault (.refl _) _
          | dot :: rest =>
            dsimp only
            split
            · refine (follows_path includeContent rest).map fun e => ?_
              cases r <;> simp only [Relative.satisfies, relaxed]
            · exact .fault (.refl _) _
        · match rest with
          | [] => exact .fault (.refl _) _
          | dot :: rest =>
            dsimp only
            split
            · match rest with
              | [] => exact .fault (.refl _) _
              | .group _ :: rest => exact .fault (.refl _) _
              | .token name :: rest => exact follows_predicate includeContent _ _ _
            · exact .fault (.refl _) _

end

/-- A marked name leads to the same condition, relaxed. -/
theorem follows_markedCondition (includeContent : Bool) (m : MarkedName) (text : String)
    (rest : List Tree) :
    Parsed.Follows relaxed (markedCondition (.exact includeContent) m text rest)
      (markedCondition (.fuzzy includeContent) m text rest) :=
  m.follows_read text fun kind name => follows_predicate includeContent kind name rest

/-! ## Sequences -/

namespace Item

/-- The item with its condition relaxed. -/
def relaxed : Item → Item
  | condition e => condition e.relaxed
  | orWord => orWord

theorem alternatives_map_relaxed (items : List Item) :
    alternatives (items.map relaxed) = (alternatives items).map (·.map Expression.relaxed) := by
  induction items with
  | nil => simp [alternatives]
  | cons item items ih =>
    cases item with
    | orWord => simp [alternatives, relaxed, ih]
    | condition e =>
      simp only [List.map_cons, relaxed, alternatives, ih]
      cases alternatives items with
      | nil => rfl
      | cons first others => rfl

/-- What a sequence asks for is relaxed with its items. -/
theorem joined_map_relaxed (items : List Item) :
    joined (items.map relaxed) = (joined items).map Expression.relaxed := by
  unfold joined
  rw [← Expression.joined_map_relaxed relaxed_anyOf, alternatives_map_relaxed,
    List.filterMap_map, List.map_filterMap]
  refine congrArg (fun f => Expression.joined .anyOf ((alternatives items).filterMap f)) ?_
  exact funext (Expression.joined_map_relaxed relaxed_allOf)

theorem ofCondition?_map (c : Option Expression) :
    ofCondition? (c.map Expression.relaxed) = (ofCondition? c).map relaxed := by
  cases c <;> rfl

end Item

/-- The relaxed reading `t` of a sequence follows the exact reading `s`. -/
structure Sequence.Follows (s t : Sequence) : Prop where
  items : t.items = s.items.map Item.relaxed
  report : s.report.Alike t.report

namespace Sequence

variable {s t : Sequence} {r r' : Report}

/-- The condition of a sequence that is relaxed is the condition relaxed. -/
theorem Follows.condition (h : s.Follows t) : t.condition = s.condition.map relaxed := by
  unfold Sequence.condition
  rw [h.items, Item.joined_map_relaxed]

/-- Sequences go on alike if the items that are added are. -/
theorem Follows.after (h : s.Follows t) (items : List Item) (hr : r.Alike r') :
    (s.after items r).Follows (t.after (items.map Item.relaxed) r') where
  items := by simp [Sequence.after, h.items]
  report := hr.append h.report

/-- The same fault may be noted in both sequences. -/
theorem Follows.afterFault (h : s.Follows t) (d : Diagnostic) :
    (s.afterFault d).Follows (t.afterFault d) := h.after [] (.refl _)

/-- Sequences go on alike with a condition and the same condition relaxed. -/
theorem Follows.afterCondition (h : s.Follows t) {c c' : Option Expression}
    (hc : c' = c.map relaxed) (hr : r.Alike r') :
    (s.after (Item.ofCondition? c) r).Follows (t.after (Item.ofCondition? c') r') := by
  rw [hc, Item.ofCondition?_map]
  exact h.after _ hr

end Sequence

/-- The two readings of a sequence stay in step. -/
theorem follows_sequence (includeContent : Bool) (ts : List Tree) :
    (sequence (.exact includeContent) ts).Follows (sequence (.fuzzy includeContent) ts) := by
  fun_induction sequence (.exact includeContent) ts with
  | case1 =>
    rw [sequence_nil]
    exact ⟨rfl, .refl _⟩
  | case2 g rest inner ihg ih =>
    rw [sequence]
    exact ih.afterCondition ihg.condition ihg.report
  | case3 t rest hquotes ih =>
    rw [sequence.eq_def (.fuzzy includeContent)]
    simp only [hquotes, if_true]
    exact ih.afterFault _
  | case4 t rest hquotes hfiller ih =>
    rw [sequence.eq_def (.fuzzy includeContent)]
    simp only [hquotes, hfiller]
    exact ih
  | case5 t rest hquotes hor ih =>
    rw [sequence.eq_def (.fuzzy includeContent)]
    simp only [hquotes, hor]
    exact ih.after [.orWord] (.refl _)
  | case6 t hquotes hnot g rest inner ihg ih =>
    rw [sequence.eq_def (.fuzzy includeContent)]
    simp only [hquotes, hnot]
    refine ih.afterCondition ?_ ihg.report
    rw [ihg.condition, Option.map_map, Option.map_map]
    exact congrArg (Option.map · _) (funext fun e => by simp [relaxed])
  | case7 t hquotes hnot rest hgroup ih =>
    rw [sequence.eq_def (.fuzzy includeContent)]
    simp only [hquotes, hnot]
    exact ih.afterFault _
  | case8 t hquotes hnote =>
    rw [sequence.eq_def (.fuzzy includeContent)]
    simp only [hquotes, hnote]
    exact ⟨rfl, .refl _⟩
  | case9 t hquotes hnote dot rest hdot p hrest ih =>
    have hpath := follows_path includeContent rest
    rw [sequence.eq_def (.fuzzy includeContent)]
    simp only [hquotes, hnote, hdot, if_true, hpath.rest]
    exact ih.afterCondition hpath.value hpath.report
  | case10 t hquotes hnote dot rest hdot ih =>
    rw [sequence.eq_def (.fuzzy includeContent)]
    simp only [hquotes, hnote, hdot]
    exact ih.afterFault _
  | case11 t rest hquotes hclause =>
    rw [sequence.eq_def (.fuzzy includeContent)]
    simp only [hquotes, hclause]
    exact ⟨rfl, .refl _⟩
  | case12 t rest hquotes m hmarked p hrest ih =>
    have hcondition := follows_markedCondition includeContent m t.text rest
    rw [sequence.eq_def (.fuzzy includeContent)]
    simp only [hquotes, hmarked, hcondition.rest]
    exact ih.afterCondition hcondition.value hcondition.report
  | case13 t rest hquotes hoperator ih =>
    rw [sequence.eq_def (.fuzzy includeContent)]
    simp only [hquotes, hoperator]
    exact ih.afterFault _
  | case14 t rest hquotes hunknown ih =>
    rw [sequence.eq_def (.fuzzy includeContent)]
    simp only [hquotes, hunknown]
    exact ih.afterFault _

/-! ## Queries -/

theorem wordsCondition_fuzzy (includeContent : Bool) (words : List String) :
    wordsCondition (.fuzzy includeContent) words =
      (wordsCondition (.exact includeContent) words).map relaxed := by
  unfold wordsCondition
  split
  · rfl
  · cases includeContent with
    | true => simp [ReadOptions.exact, ReadOptions.fuzzy, relaxed, relaxedAll]
    | false => simp [ReadOptions.exact, ReadOptions.fuzzy, relaxed]

theorem expression_readTrees_fuzzy (includeContent : Bool) (words : List Token)
    (trees : List Tree) : (readTrees (.fuzzy includeContent) words trees).expression =
      (readTrees (.exact includeContent) words trees).expression.map relaxed := by
  have hjoined : ∀ c c' : Option Expression,
      Expression.joined .allOf ((c.map relaxed).toList ++ (c'.map relaxed).toList) =
        (Expression.joined .allOf (c.toList ++ c'.toList)).map relaxed := fun c c' => by
    rw [Option.toList_map, Option.toList_map, ← List.map_append,
      Expression.joined_map_relaxed relaxed_allOf]
  simp only [readTrees, wordsCondition_fuzzy, (follows_sequence includeContent _).condition,
    hjoined, Option.map_map]
  refine congrArg (Option.map · _) (funext fun e => ?_)
  dsimp only [Function.comp_apply]
  split_ifs
  · rfl
  · rw [relaxed]

/-- The expression of a relaxed reading is that of an exact reading, relaxed. -/
theorem expression_read_fuzzy (includeContent : Bool) (query : String) :
    (read (.fuzzy includeContent) query).expression =
      (read (.exact includeContent) query).expression.map relaxed :=
  expression_readTrees_fuzzy includeContent _ _

/-- Both readings find alike faults and highlight the same texts. -/
theorem report_readTrees_fuzzy (includeContent : Bool) (words : List Token) (trees : List Tree) :
    (readTrees (.exact includeContent) words trees).report.Alike
      (readTrees (.fuzzy includeContent) words trees).report :=
  ((Report.Alike.refl _).append (follows_sequence includeContent _).report).append (.refl _)

/-- **A relaxed reading relabels the exact one.** For every query it asks for something if that
does, and then for the same with every attribute relaxed. The same texts are highlighted, and if
there is a fault to tell, then to both, and it is the same but for the operator `=`. -/
theorem read_fuzzy (includeContent : Bool) (query : String) :
    (read (.fuzzy includeContent) query).expression =
        (read (.exact includeContent) query).expression.map relaxed ∧
      (read (.fuzzy includeContent) query).highlighted =
        (read (.exact includeContent) query).highlighted ∧
      Option.Rel Diagnostic.Alike (read (.exact includeContent) query).diagnostic?
        (read (.fuzzy includeContent) query).diagnostic? := by
  have hreport : (read (.exact includeContent) query).report.Alike
      (read (.fuzzy includeContent) query).report :=
    (Report.Alike.refl _).append (report_readTrees_fuzzy includeContent _ _)
  exact ⟨expression_read_fuzzy includeContent query, hreport.highlighted, hreport.diagnostic?⟩

end Zettel.Query
