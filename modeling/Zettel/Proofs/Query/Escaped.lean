import Zettel.Proofs.Query.RoundTrip

/-!
# Escaped values

A value can be written with a backslash in front of each of its characters. None of these then ends
the word or begins another one, whatever it is, so the value is one token. But the token is not
marked as escaped. What reads the tokens takes it for any other unquoted text, and so the values
that mean something by themselves are lost: the parentheses and the words that begin a clause.

Main statement: `readsAsValue_iff`.
-/

namespace Zettel.Query

open Lexed

/-! ## Reading escaped characters -/

/-- The text with a backslash in front of each character. -/
def escaped (s : String) : List Char := s.toList.flatMap fun c => ['\\', c]

section Escaped

variable {w : Word} {i : Nat} {b : Bool} {s : String}

theorem step_escaped (hw : w.Holds b none false s) (c : Char) (i : Nat) :
    Step.escaped w c i = ⟨[], w.pushFrom i c (i + 1)⟩ := by
  rw [Step.escaped, hw.quote, Step.plain, hw.isOperator]
  rfl

/-- Escaped characters add to the word, whichever they are. -/
theorem exists_reads_escaped (hw : w.Holds b none false s) (cs : List Char) :
    ∃ w', Reads w i (cs.flatMap fun c => ['\\', c]) ⟨[], []⟩ w' ∧
      w'.Holds b none false (s ++ String.ofList (cs.flatMap Text.lowerChar)) := by
  induction cs generalizing w i s with
  | nil => exact ⟨w, .nil w i, by simpa using hw⟩
  | cons c cs ih =>
    have hstep := step_escaped hw c i
    obtain ⟨w', hreads, hw'⟩ := ih (i := i + 2) (holds_pushFrom hw i c (i + 1))
    have hread : Reads w i ('\\' :: c :: cs.flatMap fun c => ['\\', c])
        (prepend w.inExpression (Step.escaped w c i).ended ⟨[], []⟩) w' :=
      .escaped (by rwa [hstep])
    rw [hstep, prepend_nil] at hread
    rw [List.flatMap_cons, List.flatMap_cons, String.ofList_append, ← String.append_assoc]
    exact ⟨w', hread, hw'⟩

theorem scan_nil_of_holds (hw : w.Holds true none false s) (hs : s ≠ "") (i : Nat) :
    ∃ t, scan w i [] = ⟨[], [t]⟩ ∧ t.lexeme = (s, false) := by
  refine ⟨⟨s, false, w.start, w.finish⟩, ?_, rfl⟩
  rw [scan, hw.quote, token?_of_holds hw hs, hw.inExpression]
  rfl

end Escaped

/-! ## The query for a value -/

/-- The query for the notes whose label `a` has the value `v`, which is escaped. -/
def valueQuery (v : String) : String := "#a = " ++ String.ofList (escaped v)

/-- The values that mean something by themselves. -/
def lostValues : List String := ["(", ")", "orderby", "limit"]

/-- The query is read as what it is written for, and nothing is wrong with it. -/
def ReadsAsValue (o : ReadOptions) (v : String) : Prop :=
  (Query.read o (valueQuery v)).expression = some (.attributeCompare .label "a"
      ⟨if o.fuzzyAttributes then .contains else .equal, v, none⟩) ∧
    (Query.read o (valueQuery v)).diagnostic? = none

section Value

variable {v : String}

/-- The tokens of the query are the label, the operator and the value. -/
theorem exists_lex_valueQuery (hv : v ≠ "") (hsmall : Text.lowercase v = v) :
    ∃ ts, lex (valueQuery v) = ⟨[], ts⟩ ∧
      ts.map Token.lexeme = [("#a", false), ("=", false), (v, false)] := by
  obtain ⟨ms, w₁, hms, hmarker, hw₁⟩ :=
    exists_reads_marker (w := {}) (i := 0) ⟨rfl, rfl, rfl, rfl⟩ ['a']
      (List.forall_mem_singleton.2 (by decide +kernel))
  obtain ⟨os, w₂, hos, hoperator, hw₂⟩ := lexes_operator (isOperatorText_text .equal) w₁ _ hw₁
  obtain ⟨w₃, hvalue, hw₃⟩ := exists_reads_escaped hw₂ v.toList
  have hletters : "" ++ String.ofList (v.toList.flatMap Text.lowerChar) = v := by
    rw [String.empty_append]
    exact smallLetters_eq_self hsmall
  rw [hletters] at hw₃
  obtain ⟨t, hlast, ht⟩ := scan_nil_of_holds hw₃ hv _
  have hscan := (hms.append (hos.append hvalue)).scan_append []
  rw [hlast, List.append_nil] at hscan
  have hquery : (valueQuery v).toList =
      '#' :: ['a'] ++ [' '] ++ ((Operator.equal.text.toList ++ [' ']) ++ escaped v) := by
    simp only [valueQuery, String.toList_append, String.toList_ofList]
    rfl
  refine ⟨ms ++ (os ++ [t]), ?_, ?_⟩
  · rw [lex, hquery]
    simpa [Lexed.append, prepend, escaped] using hscan
  · rw [List.map_append, List.map_append, hmarker, hoperator, List.map_singleton, ht]
    rfl

theorem build_attributeOperator (o : ReadOptions) (hsmall : Text.lowercase v = v) :
    Comparator.build (o.attributeOperator "=") v =
      .ok ⟨if o.fuzzyAttributes then .contains else .equal, v, none⟩ := by
  have hnew : ∀ op, op ≠ .regex → Comparator.new op v = .ok ⟨op, v, none⟩ := by
    intro op hop
    rw [Comparator.new, hsmall]
    exact hop
  rw [ReadOptions.attributeOperator]
  cases o.fuzzyAttributes
  · exact hnew .equal (by decide)
  · exact hnew .contains (by decide)

/-- The trees of these tokens ask for the comparison, without a fault. -/
theorem sequence_value (o : ReadOptions) (hsmall : Text.lowercase v = v) {ts : List Token}
    (hts : ts.map Token.lexeme = [("#a", false), ("=", false), (v, false)]) :
    (sequence o (ts.map .token)).condition = some (.attributeCompare .label "a"
      ⟨if o.fuzzyAttributes then .contains else .equal, v, none⟩) ∧
    (sequence o (ts.map .token)).report.faults = [] := by
  obtain ⟨i, j, us, rfl, hus⟩ := exists_of_map_lexeme hts
  obtain ⟨i', j', vs, rfl, hvs⟩ := exists_of_map_lexeme hus
  obtain ⟨i'', j'', ws, rfl, hws⟩ := exists_of_map_lexeme hvs
  obtain rfl := List.map_eq_nil_iff.1 hws
  have hmeaning : SequenceWord.ofText "#a" = .marked ⟨.label, false, "a"⟩ := by decide +kernel
  have hcompared : markedCondition o ⟨.label, false, "a"⟩ "#a"
      [.token ⟨"=", false, i', j'⟩, .token ⟨v, false, i'', j''⟩] =
      ⟨some (.attributeCompare .label "a"
        ⟨if o.fuzzyAttributes then .contains else .equal, v, none⟩), [],
        .highlight "a" ++ .highlight v⟩ := by
    have hoperator : (Tree.token ⟨"=", false, i', j'⟩).operator? = some "=" :=
      Option.filter_some_pos (isOperatorText_text .equal)
    rw [markedCondition, MarkedName.read, if_neg (by decide +kernel), predicate,
      if_neg (by simp), hoperator]
    simp only [comparison, build_attributeOperator o hsmall]
    rfl
  have hsequence : sequence o ((⟨"#a", false, i, j⟩ :: ⟨"=", false, i', j'⟩ ::
      ⟨v, false, i'', j''⟩ :: [] : List Token).map .token) =
      (sequence o []).after [.condition (.attributeCompare .label "a"
        ⟨if o.fuzzyAttributes then .contains else .equal, v, none⟩)]
        (.highlight "a" ++ .highlight v) := by
    rw [List.map_cons, List.map_cons, List.map_cons, List.map_nil, sequence.eq_def]
    simp only [hmeaning, hcompared]
    rfl
  rw [hsequence, sequence_nil]
  exact ⟨rfl, rfl⟩

/-- A query of these tokens asks for the comparison, if the value does not mean something by
itself. -/
theorem read_value (o : ReadOptions) {query : String} (hsmall : Text.lowercase v = v)
    (hlost : v ∉ lostValues) {ts : List Token} (hlex : lex query = ⟨[], ts⟩)
    (hts : ts.map Token.lexeme = [("#a", false), ("=", false), (v, false)]) :
    (Query.read o query).expression = some (.attributeCompare .label "a"
        ⟨if o.fuzzyAttributes then .contains else .equal, v, none⟩) ∧
      (Query.read o query).diagnostic? = none := by
  have hinner : ∀ t ∈ ts, isInner t.lexeme = true := by
    have hlexemes : ∀ l ∈ ts.map Token.lexeme, isInner l = true := by
      rw [hts]
      refine List.forall_mem_cons.2 ⟨by decide, List.forall_mem_cons.2 ⟨by decide, ?_⟩⟩
      simpa [isInner, lostValues] using hlost
    exact fun t ht => hlexemes _ (List.mem_map_of_mem ht)
  have hfree : IsClauseFree (ts.map .token) := by
    intro t ht
    obtain ⟨u, hu, rfl⟩ := List.mem_map.1 ht
    exact isClauseWord_of_isInner (hinner u hu)
  obtain ⟨hread, hdiagnostic⟩ := read_of_formTrees o hlex (formTrees_of_isInner hinner) hfree
  obtain ⟨hcondition, hfaults⟩ := sequence_value o hsmall hts
  refine ⟨?_, ?_⟩
  · rw [hread, hcondition]
    rfl
  · rw [hdiagnostic, Report.diagnostic?, hfaults]
    rfl

theorem readsAsValue (o : ReadOptions) (hv : v ≠ "") (hsmall : Text.lowercase v = v)
    (hlost : v ∉ lostValues) : ReadsAsValue o v := by
  obtain ⟨ts, hlex, hts⟩ := exists_lex_valueQuery hv hsmall
  exact read_value o hsmall hlost hlex hts

/-- Where the value means something by itself, something is wrong with the query. -/
theorem isSome_diagnostic?_of_lost : ∀ v ∈ lostValues, ∀ content fuzzy : Bool,
    (Query.read ⟨content, fuzzy⟩ (valueQuery v)).diagnostic?.isSome = true := by
  decide +kernel

/-- **Escaped, a value stands for itself, except if it is a parenthesis or begins a clause.** -/
theorem readsAsValue_iff (o : ReadOptions) (hv : v ≠ "") (hsmall : Text.lowercase v = v) :
    ReadsAsValue o v ↔ v ∉ lostValues := by
  refine ⟨fun hread hlost => ?_, readsAsValue o hv hsmall⟩
  have hfault := isSome_diagnostic?_of_lost v hlost o.includeContent o.fuzzyAttributes
  rw [hread.2] at hfault
  cases hfault

/-- A value of quotes, operators and a parenthesis stands for itself. -/
theorem readsAsValue_iff_operators : ReadsAsValue {} "='#or (" :=
  (readsAsValue_iff {} (by decide) (by decide +kernel)).2 (by decide)

/-- An opening parenthesis is taken for a group that is not closed. -/
theorem lost_parenthesis : "(" ≠ "" ∧ Text.lowercase "(" = "(" ∧ valueQuery "(" = "#a = \\(" ∧
    (Query.read {} (valueQuery "(")).expression.isNone = true ∧
    (Query.read {} (valueQuery "(")).diagnostic? = some (.unbalancedParenthesis 1 0) := by
  decide +kernel

end Value

end Zettel.Query
