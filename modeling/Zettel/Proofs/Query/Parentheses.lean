import Zettel.Proofs.Query.RoundTrip

/-!
# Parentheses and groups

Two parentheses belong together if what stands between them is balanced. Grouping loses nothing but
the closing parentheses without an opening one: written again, with a group between parentheses, the
trees are the other tokens, and behind them the closing parentheses that are missing. Trees without
parentheses among their tokens are the groups of what is written for them.

Main statements: `nest_spec`, what the groups are that are open after some tokens, and
`ofTokens_exact`, the trees of any list of tokens.
-/

namespace Zettel.Query

/-! ## Parentheses among tokens -/

namespace Token

/-- A parenthesis that opens a group does not close one. -/
theorem isClosing_of_isOpening {t : Token} (h : t.isOpening = true) : t.isClosing = false := by
  unfold isOpening isWord at h
  unfold isClosing isWord
  simp only [Bool.and_eq_true, decide_eq_true_eq] at h
  simp [h.2]

/-- The token is no parenthesis. -/
def isPlain (t : Token) : Bool := !t.isOpening && !t.isClosing

/-- The opening parenthesis, at no particular place. -/
def opening : Token := ⟨"(", false, 0, 0⟩

/-- The closing parenthesis, at no particular place. -/
def closing : Token := ⟨")", false, 0, 0⟩

/-- The token, but a parenthesis at no particular place. -/
def unplaced (t : Token) : Token :=
  if t.isOpening then opening else if t.isClosing then closing else t

theorem isOpening_unplaced (t : Token) : t.unplaced.isOpening = t.isOpening := by
  unfold unplaced
  split_ifs with hopening hclosing
  · exact hopening.symm
  · exact (Bool.not_eq_true _ ▸ hopening : t.isOpening = false).symm
  · rfl

theorem isClosing_unplaced (t : Token) : t.unplaced.isClosing = t.isClosing := by
  unfold unplaced
  split_ifs with hopening hclosing
  · exact (isClosing_of_isOpening hopening).symm
  · exact hclosing.symm
  · rfl

/-- A token that is no parenthesis keeps its place in a tree. -/
theorem unplaced_of_isPlain {t : Token} (h : t.isPlain = true) : t.unplaced = t := by
  simp only [isPlain, Bool.and_eq_true, Bool.not_eq_true'] at h
  simp [unplaced, h.1, h.2]

theorem lexeme_of_isOpening {t : Token} (h : t.isOpening = true) : t.lexeme = ("(", false) := by
  simp only [isOpening, isWord, Bool.and_eq_true, Bool.not_eq_true', decide_eq_true_eq] at h
  simp [lexeme, h.1, h.2]

theorem lexeme_of_isClosing {t : Token} (h : t.isClosing = true) : t.lexeme = (")", false) := by
  simp only [isClosing, isWord, Bool.and_eq_true, Bool.not_eq_true', decide_eq_true_eq] at h
  simp [lexeme, h.1, h.2]

end Token

/-- The number of opening parentheses. -/
def openings (ts : List Token) : Nat := ts.countP Token.isOpening

/-- The number of closing parentheses. -/
def closings (ts : List Token) : Nat := ts.countP Token.isClosing

section Counts

variable {t : Token} {ts us : List Token}

@[simp]
theorem openings_nil : openings [] = 0 := rfl

@[simp]
theorem closings_nil : closings [] = 0 := rfl

@[simp]
theorem openings_cons : openings (t :: ts) = openings ts + if t.isOpening then 1 else 0 :=
  List.countP_cons

@[simp]
theorem closings_cons : closings (t :: ts) = closings ts + if t.isClosing then 1 else 0 :=
  List.countP_cons

/-- Opening parentheses are counted part by part. -/
@[simp]
theorem openings_append : openings (ts ++ us) = openings ts + openings us := List.countP_append

/-- So are closing ones. -/
@[simp]
theorem closings_append : closings (ts ++ us) = closings ts + closings us := List.countP_append

end Counts

/-! ## Balanced tokens -/

/-- The parentheses among the tokens belong together in pairs: as many close as open and, up to each
place, no more. -/
structure IsBalanced (ts : List Token) : Prop where
  openings_eq : openings ts = closings ts
  closings_take_le : ∀ k, closings (ts.take k) ≤ openings (ts.take k)

instance : DecidablePred IsBalanced := fun ts =>
  decidable_of_iff (openings ts = closings ts ∧
      ∀ k < ts.length, closings (ts.take k) ≤ openings (ts.take k)) (by
    refine ⟨fun ⟨heq, hle⟩ => ⟨heq, fun k => ?_⟩, fun h => ⟨h.1, fun k _ => h.2 k⟩⟩
    by_cases hk : k < ts.length
    · exact hle k hk
    · rw [List.take_of_length_le (by omega)]
      omega)

section Balanced

variable {t u : Token} {ts us : List Token}

theorem isBalanced_nil : IsBalanced [] := ⟨rfl, by simp⟩

theorem isBalanced_singleton (h : t.isPlain = true) : IsBalanced [t] := by
  simp only [Token.isPlain, Bool.and_eq_true, Bool.not_eq_true'] at h
  refine ⟨by simp [h], fun k => ?_⟩
  cases k <;> simp [h]

/-- Balanced tokens, one after the other, are balanced. -/
theorem IsBalanced.append (h : IsBalanced ts) (h' : IsBalanced us) : IsBalanced (ts ++ us) := by
  refine ⟨by simp [h.openings_eq, h'.openings_eq], fun k => ?_⟩
  rw [List.take_append, closings_append, openings_append]
  exact Nat.add_le_add (h.closings_take_le k) (h'.closings_take_le _)

theorem IsBalanced.grouped (h : IsBalanced ts) (ht : t.isOpening = true)
    (hu : u.isClosing = true) : IsBalanced (t :: ts ++ [u]) := by
  have ht' := Token.isClosing_of_isOpening ht
  have hu' : u.isOpening = false := by
    by_contra hopening
    simp [Token.isClosing_of_isOpening (by simpa using hopening)] at hu
  refine ⟨by simp [ht, ht', hu, hu', h.openings_eq], fun k => ?_⟩
  cases k with
  | zero => simp
  | succ k =>
    have hinner := h.closings_take_le k
    have hlast : closings ([u].take (k - ts.length)) ≤ 1 := by
      cases k - ts.length <;> simp [hu]
    simp only [List.cons_append, List.take_succ_cons, List.take_append, openings_cons,
      closings_cons, openings_append, closings_append, ht, ht', if_true]
    simp only [Bool.false_eq_true, if_false]
    omega

/-- Up to the end, no more open than close. -/
theorem IsBalanced.openings_drop_le (h : IsBalanced ts) (k : Nat) :
    openings (ts.drop k) ≤ closings (ts.drop k) := by
  have heq := h.openings_eq
  have hle := h.closings_take_le k
  rw [← List.take_append_drop k ts, openings_append, closings_append] at heq
  omega

end Balanced

/-! ## Parentheses that belong together -/

/-- One of the tokens is the opening parenthesis for a closing one behind them. -/
def HasOpening (front : List Token) : Prop :=
  ∃ k, ∃ _ : k < front.length, front[k].isOpening = true ∧ IsBalanced (front.drop (k + 1))

/-- One of the tokens is the closing parenthesis for an opening one in front of them. -/
def HasClosing (back : List Token) : Prop :=
  ∃ k, ∃ _ : k < back.length, back[k].isClosing = true ∧ IsBalanced (back.take k)

instance : DecidablePred HasOpening := fun front =>
  inferInstanceAs (Decidable (∃ k, ∃ _ : k < front.length, _))

instance : DecidablePred HasClosing := fun back =>
  inferInstanceAs (Decidable (∃ k, ∃ _ : k < back.length, _))

/-- The token, behind `front`, is a closing parenthesis without an opening one. -/
def IsStray (front : List Token) (t : Token) : Prop := t.isClosing = true ∧ ¬ HasOpening front

/-- The token, in front of `back`, is an opening parenthesis without a closing one. -/
def IsUnclosed (t : Token) (back : List Token) : Prop := t.isOpening = true ∧ ¬ HasClosing back

instance (front : List Token) (t : Token) : Decidable (IsStray front t) :=
  inferInstanceAs (Decidable (_ ∧ _))

instance (t : Token) (back : List Token) : Decidable (IsUnclosed t back) :=
  inferInstanceAs (Decidable (_ ∧ _))

/-- The tokens that stand behind `front`, without the closing parentheses that have no opening
one. -/
def withoutStraysBehind (front : List Token) : List Token → List Token
  | [] => []
  | t :: ts =>
    if IsStray front t then withoutStraysBehind (front ++ [t]) ts
    else t :: withoutStraysBehind (front ++ [t]) ts

/-- The number of these closing parentheses. -/
def straysBehind (front : List Token) : List Token → Nat
  | [] => 0
  | t :: ts => (if IsStray front t then 1 else 0) + straysBehind (front ++ [t]) ts

/-- The tokens without the closing parentheses that have no opening one. -/
def withoutStrays (ts : List Token) : List Token := withoutStraysBehind [] ts

/-- The number of closing parentheses without an opening one. -/
def strays (ts : List Token) : Nat := straysBehind [] ts

/-- The number of opening parentheses without a closing one. -/
def unclosed : List Token → Nat
  | [] => 0
  | t :: ts => (if IsUnclosed t ts then 1 else 0) + unclosed ts

section Matching

variable {t : Token} {ts us : List Token}

/-- There is no closing parenthesis for one in front, exactly if no more close than open up to any
place. -/
theorem not_hasClosing_iff :
    ¬ HasClosing ts ↔ ∀ k, closings (ts.take k) ≤ openings (ts.take k) := by
  constructor
  · intro h k
    induction k using Nat.strong_induction_on with
    | _ k ih =>
      cases k with
      | zero => simp
      | succ k =>
        by_cases hk : k < ts.length
        · have hbefore := ih k (by omega)
          rw [List.take_succ_eq_append_getElem hk, closings_append, openings_append]
          by_cases hclosing : ts[k].isClosing = true
          · -- the first place with more that close than open would end a balanced part
            have hne : closings (ts.take k) ≠ openings (ts.take k) := by
              intro heq
              refine h ⟨k, hk, hclosing, heq.symm, fun j => ?_⟩
              rw [List.take_take]
              exact ih _ (by omega)
            simp [hclosing]
            omega
          · simp [hclosing]
            omega
        · have hall := ih k (by omega)
          rw [List.take_of_length_le (by omega)] at hall ⊢
          exact hall
  · rintro h ⟨k, hk, hclosing, hbalanced⟩
    have hle := h (k + 1)
    have hopening : ts[k].isOpening = false := by
      by_contra hopening
      simp [Token.isClosing_of_isOpening (by simpa using hopening)] at hclosing
    rw [List.take_succ_eq_append_getElem hk, closings_append, openings_append,
      hbalanced.openings_eq] at hle
    simp only [closings_cons, openings_cons, hclosing, hopening, closings_nil, openings_nil,
      if_true, Bool.false_eq_true, if_false] at hle
    omega

/-- Tokens in which no more close than open, up to any place, make no difference to those in front
of them. -/
theorem hasClosing_append (h : ∀ k, closings (us.take k) ≤ openings (us.take k)) :
    HasClosing (ts ++ us) ↔ HasClosing ts := by
  rw [← not_iff_not, not_hasClosing_iff, not_hasClosing_iff]
  constructor
  · intro hall k
    have hle := hall (min k ts.length)
    rwa [List.take_append_of_le_length (by omega), ← List.take_eq_take_min] at hle
  · intro hall k
    rw [List.take_append, closings_append, openings_append]
    exact Nat.add_le_add (hall k) (h _)

theorem unclosed_append (h : ∀ k, closings (us.take k) ≤ openings (us.take k)) :
    unclosed (ts ++ us) = unclosed ts + unclosed us := by
  induction ts with
  | nil => simp [unclosed]
  | cons t ts ih =>
    have hsame : IsUnclosed t (ts ++ us) ↔ IsUnclosed t ts := by
      rw [IsUnclosed, IsUnclosed, hasClosing_append h]
    simp only [List.cons_append, unclosed, hsame, ih, Nat.add_assoc]

theorem unclosed_eq_zero (h : ∀ k, openings (ts.drop k) ≤ closings (ts.drop k)) :
    unclosed ts = 0 := by
  induction ts with
  | nil => rfl
  | cons t ts ih =>
    have hrest : unclosed ts = 0 := ih fun k => h (k + 1)
    have hclosed : ¬ IsUnclosed t ts := by
      rintro ⟨hopening, hnone⟩
      have hall := not_hasClosing_iff.1 hnone ts.length
      have hle := h 0
      simp [hopening, Token.isClosing_of_isOpening hopening] at hle hall
      omega
    simp [unclosed, hrest, hclosed]

end Matching

/-! ## What is left open -/

/-- The tokens leave `n` groups open: behind the first part, which leaves none open, each of these
begins with its parenthesis, and what follows this is balanced. -/
inductive LeavesOpen : List Token → Nat → Prop
  | none {ts : List Token} (h : ∀ k, openings (ts.drop k) ≤ closings (ts.drop k)) :
    LeavesOpen ts 0
  | group {ts us : List Token} {t : Token} {n : Nat} (h : LeavesOpen ts n)
    (ht : t.isOpening = true) (hus : IsBalanced us) : LeavesOpen (ts ++ t :: us) (n + 1)

namespace LeavesOpen

variable {t : Token} {ts us : List Token} {n : Nat}

theorem nil : LeavesOpen [] 0 := none (by simp)

/-- Balanced tokens leave as many groups open as there are. -/
theorem append (h : LeavesOpen ts n) (hus : IsBalanced us) : LeavesOpen (ts ++ us) n := by
  cases h with
  | none h =>
    refine none fun k => ?_
    rw [List.drop_append, openings_append, closings_append]
    exact Nat.add_le_add (h k) (hus.openings_drop_le _)
  | group h ht hvs =>
    rw [List.append_assoc, List.cons_append]
    exact group h ht (hvs.append hus)

/-- An opening parenthesis leaves one more group open. -/
theorem opened (h : LeavesOpen ts n) (ht : t.isOpening = true) : LeavesOpen (ts ++ [t]) (n + 1) :=
  group h ht isBalanced_nil

/-- A closing parenthesis leaves one group less open. -/
theorem closed (h : LeavesOpen ts (n + 1)) (ht : t.isClosing = true) :
    LeavesOpen (ts ++ [t]) n := by
  cases h with
  | group h hopening hus =>
    rw [List.append_assoc]
    exact h.append (hus.grouped hopening ht)

theorem stray (h : LeavesOpen ts 0) (ht : t.isClosing = true) : LeavesOpen (ts ++ [t]) 0 := by
  cases h with
  | none h =>
    refine none fun k => ?_
    have hlast : openings ([t].drop (k - ts.length)) ≤ closings ([t].drop (k - ts.length)) := by
      cases k - ts.length <;> simp [ht, apply_ite]
      split_ifs <;> omega
    rw [List.drop_append, openings_append, closings_append]
    exact Nat.add_le_add (h k) hlast

/-- A closing parenthesis has an opening one if a group is open. -/
theorem hasOpening_iff (h : LeavesOpen ts n) : HasOpening ts ↔ n ≠ 0 := by
  cases h with
  | none h =>
    refine iff_of_false ?_ (by simp)
    rintro ⟨k, hk, hopening, hbalanced⟩
    have hle := h k
    rw [List.drop_eq_getElem_cons hk, openings_cons, closings_cons, hbalanced.openings_eq,
      if_pos hopening, if_neg (by simp [Token.isClosing_of_isOpening hopening])] at hle
    omega
  | @group ts us t n h ht hus =>
    have hdrop : (ts ++ t :: us).drop (ts.length + 1) = us := by simp [List.drop_append]
    exact iff_of_true ⟨ts.length, by simp, by simpa using ht, by rwa [hdrop]⟩ (by simp)

/-- The groups that are left open are those of the opening parentheses without a closing one. -/
theorem unclosed_eq (h : LeavesOpen ts n) : unclosed ts = n := by
  induction h with
  | none h => exact unclosed_eq_zero h
  | @group ts us t n h ht hus ih =>
    have hlight : ∀ k, closings ((t :: us).take k) ≤ openings ((t :: us).take k) := by
      intro k
      cases k with
      | zero => simp
      | succ k =>
        have hle := hus.closings_take_le k
        simp [ht, Token.isClosing_of_isOpening ht]
        omega
    have hunclosed : IsUnclosed t us := ⟨ht, not_hasClosing_iff.2 hus.closings_take_le⟩
    rw [unclosed_append hlight, ih, unclosed, if_pos hunclosed,
      unclosed_eq_zero hus.openings_drop_le]

end LeavesOpen

/-! ## Trees as they are written -/

namespace Tree

mutual

/-- The tokens of a tree, with a group between parentheses. -/
def flatten : Tree → List Token
  | token t => [t]
  | group ts => .opening :: flattenAll ts ++ [.closing]

/-- The tokens of several trees. -/
def flattenAll : List Tree → List Token
  | [] => []
  | t :: ts => t.flatten ++ flattenAll ts

end

mutual

/-- No token of the tree is a parenthesis. -/
def IsProper : Tree → Prop
  | token t => t.isPlain = true
  | group ts => AreProper ts

/-- No token of the trees is a parenthesis. -/
def AreProper : List Tree → Prop
  | [] => True
  | t :: ts => t.IsProper ∧ AreProper ts

end

theorem flattenAll_append (ts us : List Tree) :
    flattenAll (ts ++ us) = flattenAll ts ++ flattenAll us := by
  induction ts with
  | nil => rfl
  | cons t ts ih => simp [flattenAll, ih]

/-- Trees are proper if each of them is. -/
theorem areProper_iff {ts : List Tree} : AreProper ts ↔ ∀ t ∈ ts, t.IsProper := by
  induction ts with
  | nil => simp [AreProper]
  | cons t ts ih => simp [AreProper, ih]

/-! ## One token after the other -/

namespace Nesting

/-- What was read, as it is written, behind the trees `outer` in front of the groups that are
open. -/
def writtenIn : List (List Tree) → List Tree → List Token
  | [], current => flattenAll current.reverse
  | before :: outer, current =>
    writtenIn outer before ++ .opening :: flattenAll current.reverse

/-- What was read, as it is written, with the groups that are open. -/
def written (s : Nesting) : List Token := writtenIn s.outer s.current

/-- A tree that is added to the innermost group is written behind what was written before. -/
theorem writtenIn_cons (outer : List (List Tree)) (t : Tree) (current : List Tree) :
    writtenIn outer (t :: current) = writtenIn outer current ++ t.flatten := by
  cases outer <;> simp [writtenIn, flattenAll_append, flattenAll]

/-- Where every open group ends, a closing parenthesis is written. -/
theorem flattenAll_trees (s : Nesting) :
    flattenAll s.trees = s.written ++ List.replicate s.unclosed .closing := by
  obtain ⟨current, outer, stray⟩ := s
  simp only [trees, written, unclosed]
  induction outer generalizing current with
  | nil => simp [writtenIn]
  | cons before outer ih =>
    rw [List.foldl_cons, ih, writtenIn_cons, writtenIn, flatten, List.length_cons,
      List.replicate_succ]
    simp

/-- The trees that were read have no parentheses among their tokens. -/
def IsProper (s : Nesting) : Prop := AreProper s.current ∧ ∀ before ∈ s.outer, AreProper before

theorem IsProper.push {s : Nesting} (h : s.IsProper) (t : Token) : (s.push t).IsProper := by
  obtain ⟨current, outer, stray⟩ := s
  obtain ⟨hcurrent, houter⟩ := h
  unfold Nesting.push
  split_ifs with hopening hclosing
  · exact ⟨trivial, List.forall_mem_cons.2 ⟨hcurrent, houter⟩⟩
  · cases outer with
    | nil => exact ⟨hcurrent, houter⟩
    | cons before outer =>
      rw [List.forall_mem_cons] at houter
      have hgroup : AreProper current.reverse :=
        areProper_iff.2 fun t ht => areProper_iff.1 hcurrent t (List.mem_reverse.1 ht)
      exact ⟨⟨hgroup, houter.1⟩, houter.2⟩
  · exact ⟨⟨by simp [Tree.IsProper, Token.isPlain, hopening, hclosing], hcurrent⟩, houter⟩

theorem IsProper.trees {s : Nesting} (h : s.IsProper) : AreProper s.trees := by
  obtain ⟨current, outer, stray⟩ := s
  obtain ⟨hcurrent, houter⟩ := h
  have hreverse : ∀ ts : List Tree, AreProper ts → AreProper ts.reverse := fun ts hts =>
    areProper_iff.2 fun t ht => areProper_iff.1 hts t (List.mem_reverse.1 ht)
  simp only [Nesting.trees]
  simp only at hcurrent houter
  induction outer generalizing current with
  | nil => exact hreverse current hcurrent
  | cons before outer ih =>
    rw [List.forall_mem_cons] at houter
    exact ih _ ⟨hreverse current hcurrent, houter.1⟩ houter.2

/-- One more token is written behind the others, unless it is a stray parenthesis. -/
theorem push_spec {s : Nesting} {front : List Token} (h : LeavesOpen front s.unclosed)
    (t : Token) :
    (s.push t).written = s.written ++ (if IsStray front t then [] else [t.unplaced]) ∧
    (s.push t).stray = s.stray + (if IsStray front t then 1 else 0) ∧
    LeavesOpen (front ++ [t]) (s.push t).unclosed := by
  obtain ⟨current, outer, stray⟩ := s
  have hstray : IsStray front t ↔ t.isClosing = true ∧ outer = [] := by
    rw [IsStray, h.hasOpening_iff]
    simp [Nesting.unclosed]
  simp only [hstray]
  by_cases hopening : t.isOpening = true
  · have hnot := Token.isClosing_of_isOpening hopening
    have hpush : Nesting.push ⟨current, outer, stray⟩ t = ⟨[], current :: outer, stray⟩ :=
      if_pos hopening
    rw [hpush]
    refine ⟨?_, by simp [hnot], h.opened hopening⟩
    simp [written, writtenIn, flattenAll, hnot, Token.unplaced, hopening]
  · by_cases hclosing : t.isClosing = true
    · cases outer with
      | nil =>
        have hpush : Nesting.push ⟨current, [], stray⟩ t = ⟨current, [], stray + 1⟩ := by
          simp [Nesting.push, hopening, hclosing]
        rw [hpush]
        exact ⟨by simp [hclosing, written], by simp [hclosing], h.stray hclosing⟩
      | cons before outer =>
        have hpush : Nesting.push ⟨current, before :: outer, stray⟩ t =
            ⟨group current.reverse :: before, outer, stray⟩ := by
          simp [Nesting.push, hopening, hclosing]
        rw [hpush]
        refine ⟨?_, by simp, h.closed hclosing⟩
        simp [written, writtenIn_cons, writtenIn, flatten, Token.unplaced, hopening, hclosing]
    · have hplain : t.isPlain = true := by simp [Token.isPlain, hopening, hclosing]
      have hpush : Nesting.push ⟨current, outer, stray⟩ t =
          ⟨token t :: current, outer, stray⟩ := by
        simp [Nesting.push, hopening, hclosing]
      rw [hpush]
      refine ⟨?_, by simp [hclosing], h.append (isBalanced_singleton hplain)⟩
      simp [written, writtenIn_cons, flatten, Token.unplaced_of_isPlain hplain, hclosing]

/-- All tokens are, one after the other. -/
theorem foldl_push_spec (ts : List Token) {s : Nesting} {front : List Token}
    (h : LeavesOpen front s.unclosed) :
    (ts.foldl push s).written =
      s.written ++ (withoutStraysBehind front ts).map Token.unplaced ∧
    (ts.foldl push s).stray = s.stray + straysBehind front ts ∧
    LeavesOpen (front ++ ts) (ts.foldl push s).unclosed := by
  induction ts generalizing s front with
  | nil => simpa [withoutStraysBehind, straysBehind] using h
  | cons t ts ih =>
    obtain ⟨hwritten, hstray, hleaves⟩ := push_spec h t
    obtain ⟨hwritten', hstray', hleaves'⟩ := ih hleaves
    rw [List.foldl_cons, hwritten', hstray', hwritten, hstray]
    refine ⟨?_, ?_, by simpa using hleaves'⟩
    · rw [withoutStraysBehind]
      split_ifs <;> simp
    · rw [straysBehind]
      omega

end Nesting

/-- **What grouping keeps**: the tokens without the stray parentheses, the number of these, and the
number of groups that are not closed. -/
theorem nest_spec (ts : List Token) :
    (nest ts).written = (withoutStrays ts).map Token.unplaced ∧ (nest ts).stray = strays ts ∧
      (nest ts).unclosed = unclosed ts := by
  obtain ⟨hwritten, hstray, hleaves⟩ := Nesting.foldl_push_spec ts (s := {}) LeavesOpen.nil
  exact ⟨hwritten, hstray.trans (Nat.zero_add _), hleaves.unclosed_eq.symm⟩

/-- Whatever the tokens are, no leaf of their trees is a parenthesis. -/
theorem areProper_ofTokens (ts : List Token) : AreProper (ofTokens ts) := by
  have hproper : (nest ts).IsProper :=
    List.foldlRecOn ts _ (motive := Nesting.IsProper) ⟨trivial, by simp⟩ fun s hs t _ => hs.push t
  exact hproper.trees

/-! ## Reading what is written -/

section Flatten

variable {t : Tree} {ts : List Tree} {us : List Token}

mutual

/-- What is written for a tree without parentheses is read as this tree. -/
theorem formTrees_flatten : ∀ {t : Tree} {us : List Token}, t.IsProper →
    us.map Token.unplaced = t.flatten.map Token.unplaced → FormTrees us [t]
  | token t, us, ht, hus => by
    obtain ⟨u, rfl, hu⟩ := List.map_eq_singleton_iff.1 hus
    have hplain : t.isPlain = true := ht
    rw [Token.unplaced_of_isPlain hplain] at hu
    have hsame : u.isPlain = true := by
      rw [← hplain, ← hu, Token.isPlain, Token.isPlain, Token.isOpening_unplaced,
        Token.isClosing_unplaced]
    obtain rfl : u = t := by rw [← hu, Token.unplaced_of_isPlain hsame]
    simp only [Token.isPlain, Bool.and_eq_true, Bool.not_eq_true'] at hsame
    exact fun s => by simp [Nesting.push, hsame]
  | group ts, us, hts, hus => by
    rw [flatten, List.map_append, List.map_cons] at hus
    obtain ⟨front, back, rfl, hfront, hback⟩ := List.map_eq_append_iff.1 hus
    obtain ⟨o, inner, rfl, ho, hinner⟩ := List.map_eq_cons_iff.1 hfront
    obtain ⟨c, rfl, hc⟩ := List.map_eq_singleton_iff.1 hback
    have hopening : o.isOpening = true := by
      rw [← Token.isOpening_unplaced, ho]
      decide
    have hclosing : c.isClosing = true := by
      rw [← Token.isClosing_unplaced, hc]
      decide
    exact (formTrees_flattenAll hts hinner).grouped (Token.lexeme_of_isOpening hopening)
      (Token.lexeme_of_isClosing hclosing)

theorem formTrees_flattenAll : ∀ {ts : List Tree} {us : List Token}, AreProper ts →
    us.map Token.unplaced = (flattenAll ts).map Token.unplaced → FormTrees us ts
  | [], us, _, hus => by
    obtain rfl := List.map_eq_nil_iff.1 hus
    exact .nil
  | t :: ts, us, ⟨ht, hts⟩, hus => by
    rw [flattenAll, List.map_append] at hus
    obtain ⟨front, back, rfl, hfront, hback⟩ := List.map_eq_append_iff.1 hus
    exact (formTrees_flatten ht hfront).append (formTrees_flattenAll hts hback)

end

end Flatten

end Tree

open Zettel.Query.Tree

/-- **Grouping is exact.** Written again, the trees are the tokens without the stray parentheses,
and the missing ones behind them; a fault tells the numbers of both. And what is written for trees
without parentheses among their tokens is grouped into these trees, without a fault. -/
theorem ofTokens_exact (ts : List Token) :
    AreProper (ofTokens ts) ∧
    flattenAll (ofTokens ts) =
      (withoutStrays ts).map Token.unplaced ++ List.replicate (unclosed ts) .closing ∧
    (∀ r : Report, (ofTokensNoting r ts).1 = ofTokens ts ∧
      (ofTokensNoting r ts).2.diagnostic? = r.diagnostic?.or
        (if unclosed ts = 0 ∧ strays ts = 0 then none
          else some (.unbalancedParenthesis (unclosed ts) (strays ts)))) ∧
    ∀ trees : List Tree, AreProper trees → ∀ us : List Token,
      us.map Token.unplaced = (flattenAll trees).map Token.unplaced →
        ∀ r : Report, ofTokensNoting r us = (trees, r) ∧ ofTokens us = trees := by
  obtain ⟨hwritten, hstray, hunclosed⟩ := nest_spec ts
  refine ⟨areProper_ofTokens ts, ?_, fun r => ⟨rfl, ?_⟩, fun trees htrees us hus r => ?_⟩
  · rw [ofTokens, Nesting.flattenAll_trees, hwritten, hunclosed]
  · have hfault : Diagnostic.ofNesting? (nest ts) =
        if unclosed ts = 0 ∧ strays ts = 0 then none
        else some (.unbalancedParenthesis (unclosed ts) (strays ts)) := by
      rw [Diagnostic.ofNesting?, hunclosed, hstray]
      split_ifs with hpositive hzero hzero
      · omega
      · rfl
      · rfl
      · omega
    rw [ofTokensNoting, Report.diagnostic?_append, hfault]
    split_ifs <;> rfl
  · have hnoting := (formTrees_flattenAll htrees hus).ofTokensNoting_eq r
    exact ⟨hnoting, congrArg Prod.fst hnoting⟩

/-- A stray parenthesis, a group that is closed, and two that are not. -/
def unbalancedTokens : List Token :=
  [⟨")", false, 0, 0⟩, ⟨"(", false, 1, 1⟩, ⟨"a", false, 2, 2⟩, ⟨"(", true, 4, 4⟩,
    ⟨")", false, 6, 6⟩, ⟨"(", false, 7, 7⟩, ⟨"b", false, 8, 8⟩, ⟨"(", false, 9, 9⟩]

theorem ofTokens_exact_unbalancedTokens :
    flattenAll (ofTokens unbalancedTokens) =
      [.opening, ⟨"a", false, 2, 2⟩, ⟨"(", true, 4, 4⟩, .closing, .opening, ⟨"b", false, 8, 8⟩,
        .opening, .closing, .closing] ∧
    (ofTokensNoting {} unbalancedTokens).2.diagnostic? = some (.unbalancedParenthesis 2 1) ∧
    ofTokens (unbalancedTokens.drop 1 |>.take 4) =
      [.group [.token ⟨"a", false, 2, 2⟩, .token ⟨"(", true, 4, 4⟩]] := by
  obtain ⟨-, hwritten, hnoting, hback⟩ := ofTokens_exact unbalancedTokens
  refine ⟨hwritten.trans (by decide), (hnoting {}).2.trans (by decide), ?_⟩
  refine (hback _ ?_ _ ?_ {}).2
  · simp [AreProper, IsProper]
    decide
  · decide

end Zettel.Query
