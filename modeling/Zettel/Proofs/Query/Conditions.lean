import Mathlib.Data.List.Basic
import Zettel.Proofs.Query.Parentheses

/-!
# What queries ask for

A query asks for conditions on attributes, properties, content and words, and these are joined,
carried over to the relatives of a note, and negated. So what holds of conditions of the first kinds
and is kept when they are joined and carried over holds of all that a query asks for, if it is kept
by negation too, or if nothing in the query negates. Words apart, it need only be kept in the ways
in which conditions come to stand together (`IsComposed`).

Main statements: `all_path`, `all_sequence` and `all_conditionOf`, such a property holds of what a
path, a sequence and a query ask for.
-/

namespace Zettel.Query

namespace Expression

/-- A property of single conditions that is kept when conditions are joined and carried over to
relatives. -/
structure IsClosed (P : Expression → Prop) : Prop where
  allOf {parts : List Expression} : (∀ e ∈ parts, P e) → P (.allOf parts)
  anyOf {parts : List Expression} : (∀ e ∈ parts, P e) → P (.anyOf parts)
  fulltext (tokens : List String) : P (.fulltext tokens)
  noteContent (op : Operator) (tokens : List String) : P (.noteContent op tokens)
  protectedContent (op : Operator) (tokens : List String) : P (.protectedContent op tokens)
  attributeExists (kind : AttributeKind) (name : String) (byBeginning : Bool) :
    P (.attributeExists kind name byBeginning)
  attributeCompare (kind : AttributeKind) (name : String) (c : Comparator) :
    P (.attributeCompare kind name c)
  propertyComparison (p : Property) (c : Comparator) : P (.propertyComparison p c)
  relationWhere (name : String) {target : Expression} : P target → P (.relationWhere name target)
  descendantOf {ancestor : Expression} : P ancestor → P (.descendantOf ancestor)
  childOf {parent : Expression} : P parent → P (.childOf parent)
  parentOf {child : Expression} : P child → P (.parentOf child)

/-- A property of the conditions that stand in a sequence. Only several conditions are joined, and
content is looked for in unprotected and protected notes together. -/
structure IsComposed (P : Expression → Prop) : Prop where
  allOf {parts : List Expression} : 2 ≤ parts.length → (∀ e ∈ parts, P e) → P (.allOf parts)
  anyOf {parts : List Expression} : 2 ≤ parts.length → (∀ e ∈ parts, P e) → P (.anyOf parts)
  content (c : Comparator) : P (contentCondition c)
  attributeExists (kind : AttributeKind) (name : String) (byBeginning : Bool) :
    P (.attributeExists kind name byBeginning)
  attributeCompare (kind : AttributeKind) (name : String) (c : Comparator) :
    P (.attributeCompare kind name c)
  propertyComparison (p : Property) (c : Comparator) : P (.propertyComparison p c)
  relationWhere (name : String) {target : Expression} : P target → P (.relationWhere name target)
  descendantOf {ancestor : Expression} : P ancestor → P (.descendantOf ancestor)
  childOf {parent : Expression} : P parent → P (.childOf parent)
  parentOf {child : Expression} : P child → P (.parentOf child)

theorem IsClosed.isComposed {P : Expression → Prop} (hP : IsClosed P) : IsComposed P where
  allOf _ := hP.allOf
  anyOf _ := hP.anyOf
  content c := by
    refine hP.anyOf fun e he => ?_
    simp only [List.mem_cons, List.not_mem_nil, or_false] at he
    rcases he with rfl | rfl
    · exact hP.noteContent _ _
    · exact hP.protectedContent _ _
  attributeExists := hP.attributeExists
  attributeCompare := hP.attributeCompare
  propertyComparison := hP.propertyComparison
  relationWhere := hP.relationWhere
  descendantOf := hP.descendantOf
  childOf := hP.childOf
  parentOf := hP.parentOf

theorem of_joined {P : Expression → Prop} {wrap : List Expression → Expression}
    (hwrap : ∀ {parts}, 2 ≤ parts.length → (∀ e ∈ parts, P e) → P (wrap parts))
    {es : List Expression} (h : ∀ e ∈ es, P e) {e : Expression} (he : joined wrap es = some e) :
    P e := by
  match es with
  | [] => cases he
  | [e'] =>
    obtain rfl := Option.some.inj he
    exact h e' List.mem_cons_self
  | e' :: e'' :: es =>
    obtain rfl := Option.some.inj he
    exact hwrap (by simp) h

end Expression

open Expression

/-! ## Negations -/

/-- The token negates: it is the word `not`, or a marker with an exclamation mark. -/
def Token.negates (t : Token) : Bool :=
  !t.inQuotes && (t.text = "not" || (MarkedName.ofText? t.text).any MarkedName.negated)

/-- The word `not` negates unless it stands in quotes. -/
theorem Token.negates_not {t : Token} (hquotes : ¬ t.inQuotes = true) (ht : t.text = "not") :
    t.negates = true := by
  simp [negates, hquotes, ht]

/-- So does a marker with an exclamation mark. -/
theorem Token.negates_marked {t : Token} {m : MarkedName} (hquotes : ¬ t.inQuotes = true)
    (hm : MarkedName.ofText? t.text = some m) (hnegated : m.negated = true) : t.negates = true := by
  simp [negates, hquotes, hm, hnegated]

namespace Tree

/-- A token without a place is written the same. -/
theorem lexeme_unplaced (t : Token) : t.unplaced.lexeme = t.lexeme := by
  unfold Token.unplaced
  split_ifs with hopening hclosing
  · exact (Token.lexeme_of_isOpening hopening).symm
  · exact (Token.lexeme_of_isClosing hclosing).symm
  · rfl

/-- A token of some trees is a token of one of them. -/
theorem mem_flattenAll {u : Token} {ts : List Tree} :
    u ∈ flattenAll ts ↔ ∃ t ∈ ts, u ∈ t.flatten := by
  induction ts with
  | nil => simp [flattenAll]
  | cons t ts ih => simp [flattenAll, ih]

theorem mem_of_mem_withoutStraysBehind {t : Token} {front ts : List Token}
    (h : t ∈ withoutStraysBehind front ts) : t ∈ ts := by
  induction ts generalizing front with
  | nil => exact h
  | cons u ts ih =>
    unfold withoutStraysBehind at h
    split_ifs at h
    · exact List.mem_cons_of_mem _ (ih h)
    · rcases List.mem_cons.1 h with rfl | h
      · exact List.mem_cons_self
      · exact List.mem_cons_of_mem _ (ih h)

/-- The trees are made of the tokens, and of closing parentheses. -/
theorem exists_lexeme_eq_of_mem_trees {tokens : List Token} {u : Token}
    (hu : u ∈ flattenAll (nest tokens).trees) :
    u = .closing ∨ ∃ t ∈ tokens, u.lexeme = t.lexeme := by
  rw [Nesting.flattenAll_trees, (nest_spec tokens).1, List.mem_append, List.mem_map] at hu
  rcases hu with ⟨t, ht, rfl⟩ | hclosing
  · exact Or.inr ⟨t, mem_of_mem_withoutStraysBehind ht, lexeme_unplaced t⟩
  · exact Or.inl (List.eq_of_mem_replicate hclosing)

/-- If no token negates, then none in the trees does. -/
theorem negates_of_mem_trees {tokens : List Token} (h : ∀ t ∈ tokens, t.negates = false)
    {u : Token} (hu : u ∈ flattenAll (nest tokens).trees) : u.negates = false := by
  rcases exists_lexeme_eq_of_mem_trees hu with rfl | ⟨t, ht, hlexeme⟩
  · decide
  · obtain ⟨htext, hquotes⟩ := Prod.mk.inj hlexeme
    unfold Token.negates
    rw [htext, hquotes]
    exact h t ht

end Tree

/-- The property is kept by negation, or no token of the trees negates. -/
def AllowsNot (P : Expression → Prop) (ts : List Tree) : Prop :=
  (∀ e, P e → P (.not e)) ∨ ∀ t ∈ Tree.flattenAll ts, t.negates = false

section AllowsNot

variable {P : Expression → Prop} {ts us : List Tree}

/-- Fewer trees have fewer tokens that could negate. -/
theorem AllowsNot.of_subset (h : AllowsNot P ts) (hus : us ⊆ ts) : AllowsNot P us :=
  h.imp_right fun hnone t ht => by
    obtain ⟨tree, htree, ht⟩ := Tree.mem_flattenAll.1 ht
    exact hnone t (Tree.mem_flattenAll.2 ⟨tree, hus htree, ht⟩)

theorem AllowsNot.of_suffix (h : AllowsNot P ts) (hus : us <:+ ts) : AllowsNot P us :=
  h.of_subset hus.subset

theorem AllowsNot.tail {t : Tree} (h : AllowsNot P (t :: ts)) : AllowsNot P ts :=
  h.of_suffix (List.suffix_cons t ts)

/-- The trees in a group have no more tokens than the group. -/
theorem AllowsNot.of_group (h : AllowsNot P (.group us :: ts)) : AllowsNot P us :=
  h.imp_right fun hnone t ht =>
    hnone t (Tree.mem_flattenAll.2 ⟨.group us, List.mem_cons_self, by simp [Tree.flatten, ht]⟩)

/-- Behind a token that negates, negation must keep the property. -/
theorem AllowsNot.not {t : Token} (h : AllowsNot P (.token t :: ts)) (ht : t.negates = true)
    {e : Expression} (he : P e) : P (.not e) := by
  rcases h with hkept | hnone
  · exact hkept e he
  · have hfalse := hnone t (Tree.mem_flattenAll.2 ⟨.token t, List.mem_cons_self, by
      simp [Tree.flatten]⟩)
    rw [ht] at hfalse
    cases hfalse

end AllowsNot

/-! ## Paths -/

/-- What was read satisfies `P`, if anything was. -/
def Parsed.All {α : Type} (P : α → Prop) (p : Parsed α) : Prop := ∀ a, p.value = some a → P a

section Parsed

variable {α β : Type} {P : α → Prop} {Q : β → Prop} {p : Parsed α} {f : α → β} {a : α}

/-- Where nothing was read there is nothing to satisfy. -/
theorem Parsed.all_fault (d : Diagnostic) (rest : List Tree) : (Parsed.fault d rest).All P := nofun

theorem Parsed.all_some (h : P a) (rest : List Tree) (r : Report) :
    (⟨some a, rest, r⟩ : Parsed α).All P := fun _ ha => Option.some.inj ha ▸ h

theorem Parsed.All.noting (h : p.All P) (r : Report) : (p.noting r).All P := h

/-- Processing a result may change what it satisfies. -/
theorem Parsed.All.map (h : p.All P) (hf : ∀ a, P a → Q (f a)) : (p.map f).All Q := by
  intro b hb
  obtain ⟨a, ha, rfl⟩ := Option.map_eq_some_iff.1 hb
  exact hf a (h a ha)

/-- What satisfies `Q` however it came about does so in the end. -/
theorem Parsed.all_map (p : Parsed α) (hf : ∀ a, Q (f a)) : (p.map f).All Q :=
  Parsed.All.map (P := fun _ => True) (fun _ _ => trivial) fun a _ => hf a

end Parsed

section Composed

variable {P : Expression → Prop}

theorem MarkedName.all_read (m : MarkedName) (text : String) {rest : List Tree}
    {predicate : AttributeKind → String → Parsed Expression}
    (hnot : m.negated = true → ∀ e, P e → P (.not e))
    (h : ∀ kind name, (predicate kind name).All P) : (m.read text rest predicate).All P := by
  unfold MarkedName.read
  split
  · exact Parsed.all_fault _ _
  · refine (h m.kind m.name).map fun e he => ?_
    unfold MarkedName.signed
    split
    · next hnegated => exact hnot hnegated e he
    · exact he

mutual

theorem all_predicate (hP : IsComposed P) (o : ReadOptions) (kind : AttributeKind) (name : String)
    (ts : List Tree) (hnot : AllowsNot P ts) : (predicate o kind name ts).All P := by
  match ts with
  | [] =>
    rw [predicate]
    exact Parsed.all_some (hP.attributeExists _ _ _) _ _
  | t :: rest =>
    rw [predicate]
    split
    · exact Parsed.All.noting
        ((all_path hP o rest hnot.tail).map fun e he => hP.relationWhere name he) _
    · split
      · exact Parsed.All.noting (Parsed.all_map _ (hP.attributeCompare kind name)) _
      · exact Parsed.all_some (hP.attributeExists _ _ _) _ _

/-- What a path asks for has the property. -/
theorem all_path (hP : IsComposed P) (o : ReadOptions) (ts : List Tree) (hnot : AllowsNot P ts) :
    (path o ts).All P := by
  match ts with
  | [] => exact Parsed.all_fault _ _
  | .group _ :: rest => exact Parsed.all_fault _ _
  | .token t :: rest =>
    rw [path]
    split
    · exact all_predicate hP o _ _ _ hnot.tail
    · next hquotes =>
      split
      · next m hm =>
        refine MarkedName.all_read _ _ (fun hnegated e he => ?_) fun kind name =>
          all_predicate hP o kind name rest hnot.tail
        exact hnot.not (Token.negates_marked hquotes hm hnegated) he
      · split
        · exact Parsed.all_map _ hP.content
        · exact Parsed.all_map _ (hP.propertyComparison _)
        · exact all_predicate hP o _ _ _ hnot.tail
        · next r _ =>
          match rest with
          | [] => exact Parsed.all_fault _ _
          | dot :: rest =>
            dsimp only
            split
            · refine (all_path hP o rest hnot.tail.tail).map fun e he => ?_
              cases r with
              | parent => exact hP.childOf he
              | child => exact hP.parentOf he
              | ancestor => exact hP.descendantOf he
            · exact Parsed.all_fault _ _
        · match rest with
          | [] => exact Parsed.all_fault _ _
          | dot :: rest =>
            dsimp only
            split
            · match rest with
              | [] => exact Parsed.all_fault _ _
              | .group _ :: rest => exact Parsed.all_fault _ _
              | .token name :: rest => exact all_predicate hP o _ _ _ hnot.tail.tail.tail
            · exact Parsed.all_fault _ _

end

/-! ## Sequences -/

theorem condition_mem_of_mem_alternatives {items : List Item} : ∀ {es : List Expression},
    es ∈ Item.alternatives items → ∀ e ∈ es, .condition e ∈ items := by
  induction items with
  | nil =>
    intro es hes e he
    rw [List.mem_singleton.1 hes] at he
    exact absurd he (by simp)
  | cons item items ih =>
    intro es hes e he
    cases item with
    | orWord =>
      rcases List.mem_cons.1 hes with rfl | hes
      · exact absurd he (by simp)
      · exact List.mem_cons_of_mem _ (ih hes e he)
    | condition e' =>
      rw [Item.alternatives] at hes
      split at hes
      · rw [List.mem_singleton.1 hes, List.mem_singleton] at he
        exact he ▸ List.mem_cons_self
      · next first others halternatives =>
        rw [halternatives] at ih
        rcases List.mem_cons.1 hes with rfl | hes
        · rcases List.mem_cons.1 he with rfl | he
          · exact List.mem_cons_self
          · exact List.mem_cons_of_mem _ (ih List.mem_cons_self e he)
        · exact List.mem_cons_of_mem _ (ih (List.mem_cons_of_mem _ hes) e he)

/-- All conditions of the sequence satisfy `P`. -/
def Sequence.All (P : Expression → Prop) (s : Sequence) : Prop := ∀ e, .condition e ∈ s.items → P e

namespace Sequence

variable {s : Sequence} {items : List Item}

/-- The whole sequence satisfies what its conditions do, if joining them keeps it. -/
theorem All.condition (h : s.All P) (hP : IsComposed P) {e : Expression}
    (he : s.condition = some e) : P e := by
  refine of_joined hP.anyOf (fun e' he' => ?_) he
  obtain ⟨es, hes, hjoined⟩ := List.mem_filterMap.1 he'
  refine of_joined hP.allOf (fun e'' he'' => ?_) hjoined
  exact h e'' (condition_mem_of_mem_alternatives hes e'' he'')

/-- New items of a sequence have to satisfy it, too. -/
theorem All.after (h : s.All P) (hitems : ∀ e, .condition e ∈ items → P e) (r : Report) :
    (s.after items r).All P := fun e he => (List.mem_append.1 he).elim (hitems e) (h e)

theorem All.afterFault (h : s.All P) (d : Diagnostic) : (s.afterFault d).All P :=
  h.after (by simp) _

/-- So has a condition that is added, if there is one. -/
theorem All.afterCondition (h : s.All P) {c : Option Expression} (hc : ∀ e, c = some e → P e)
    (r : Report) : (s.after (Item.ofCondition? c) r).All P := by
  refine h.after (fun e he => hc e ?_) r
  cases c with
  | none => exact absurd he (by simp [Item.ofCondition?])
  | some e' => rw [Item.condition.inj (List.mem_singleton.1 he)]

/-- A sequence without items has no condition that could fail it. -/
theorem all_of_items_eq_nil (h : s.items = []) : s.All P := by
  intro e he
  rw [h] at he
  exact absurd he (by simp)

end Sequence

theorem SequenceWord.marked_of_ofText {s : String} {m : MarkedName}
    (h : SequenceWord.ofText s = .marked m) : MarkedName.ofText? s = some m := by
  unfold SequenceWord.ofText at h
  split at h <;> first | cases h | skip
  split at h
  · next hm =>
    cases h
    exact hm
  · split_ifs at h

/-- Only `not` is read as a negation. -/
theorem SequenceWord.eq_of_ofText {s : String} (h : SequenceWord.ofText s = .notWord) :
    s = "not" := by
  unfold SequenceWord.ofText at h
  split at h <;> first | rfl | cases h | skip
  split at h
  · cases h
  · split_ifs at h

/-- All that a sequence asks for has the property. -/
theorem all_sequence (hP : IsComposed P) (o : ReadOptions) (ts : List Tree)
    (hnot : AllowsNot P ts) : (sequence o ts).All P := by
  fun_induction sequence o ts with
  | case1 => exact Sequence.all_of_items_eq_nil rfl
  | case2 g rest inner ihg ih =>
    exact (ih hnot.tail).afterCondition (fun e => (ihg hnot.of_group).condition hP) _
  | case3 t rest hquotes ih => exact (ih hnot.tail).afterFault _
  | case4 t rest hquotes hfiller ih => exact ih hnot.tail
  | case5 t rest hquotes hor ih => exact (ih hnot.tail).after (by simp) _
  | case6 t hquotes hword g rest inner ihg ih =>
    refine (ih hnot.tail.tail).afterCondition (fun e he => ?_) _
    obtain ⟨part, hpart, rfl⟩ := Option.map_eq_some_iff.1 he
    exact hnot.not (Token.negates_not hquotes (SequenceWord.eq_of_ofText hword))
      ((ihg hnot.tail.of_group).condition hP hpart)
  | case7 t hquotes hword rest hgroup ih => exact (ih hnot.tail).afterFault _
  | case8 t hquotes hnote => exact Sequence.all_of_items_eq_nil rfl
  | case9 t hquotes hnote dot rest hdot p hrest ih =>
    have hafter := ih (hnot.tail.tail.of_suffix (rest_path_suffix o rest))
    exact hafter.afterCondition (all_path hP o rest hnot.tail.tail) _
  | case10 t hquotes hnote dot rest hdot ih => exact (ih hnot.tail).afterFault _
  | case11 t rest hquotes hclause => exact Sequence.all_of_items_eq_nil rfl
  | case12 t rest hquotes m hmarked p hrest ih =>
    have hafter := ih (hnot.tail.of_suffix (rest_markedCondition_suffix o m t.text rest))
    refine hafter.afterCondition (m.all_read t.text (fun hnegated e he => ?_) fun kind name =>
      all_predicate hP o kind name rest hnot.tail) _
    exact hnot.not
      (Token.negates_marked hquotes (SequenceWord.marked_of_ofText hmarked) hnegated) he
  | case13 t rest hquotes hoperator ih => exact (ih hnot.tail).afterFault _
  | case14 t rest hquotes hunknown ih => exact (ih hnot.tail).afterFault _

/-- What the sequence as a whole asks for has the property. -/
theorem all_condition_sequence (hP : IsComposed P) (o : ReadOptions) (ts : List Tree)
    (hnot : AllowsNot P ts) : ∀ e, (sequence o ts).condition = some e → P e :=
  fun _ he => (all_sequence hP o ts hnot).condition hP he

/-! ## Queries -/

/-- The words of a query ask for something of the first kinds, too. -/
theorem Expression.IsClosed.wordsCondition (hP : IsClosed P) {o : ReadOptions}
    {words : List String} {e : Expression} (he : wordsCondition o words = some e) : P e := by
  unfold Query.wordsCondition at he
  split at he
  · cases he
  · split at he
    · obtain rfl := Option.some.inj he
      refine hP.anyOf fun e he => ?_
      simp only [List.mem_cons, List.not_mem_nil, or_false] at he
      rcases he with rfl | rfl | rfl
      · exact hP.fulltext _
      · exact hP.noteContent _ _
      · exact hP.protectedContent _ _
    · obtain rfl := Option.some.inj he
      exact hP.fulltext _

/-- The condition of a query, without the clauses at its end. -/
def conditionOf (o : ReadOptions) (words : List Token) (trees : List Tree) : Option Expression :=
  Expression.joined .allOf ((wordsCondition o (words.map Token.text)).toList ++
    (sequence o (trees.takeWhile fun t => !t.word?.any isClauseWord)).condition.toList)

/-- **The condition of a query has the property**, if that is kept by negation or nothing in the
query negates. -/
theorem all_conditionOf (hP : IsClosed P) {o : ReadOptions} {words : List Token}
    {trees : List Tree} (hnot : AllowsNot P trees) {e : Expression}
    (he : conditionOf o words trees = some e) : P e := by
  refine of_joined hP.isComposed.allOf (fun e' he' => ?_) he
  rcases List.mem_append.1 he' with he' | he'
  · exact hP.wordsCondition (Option.mem_toList.1 he')
  · have hfront := fun p => hnot.of_subset (List.takeWhile_prefix (l := trees) p).subset
    exact all_condition_sequence hP.isComposed o _ (hfront _) _ (Option.mem_toList.1 he')

end Composed

end Zettel.Query
