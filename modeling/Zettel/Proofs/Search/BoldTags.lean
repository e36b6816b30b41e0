import Zettel.Proofs.Search.Markup
import Zettel.Search.Find
import Zettel.Vault

/-!
# Bold tags

In the end every brace of a title is shown as a bold tag. The braces that were put around
occurrences come in pairs, and what stands between the two of a pair has no braces, since words have
none. So they change nothing in how tags are nested. But a brace that the title or an attribute had
to begin with becomes a tag too, and is lost as a character.

Main statements: `nested_iff`, counting open tags decides whether tags are nested,
`pieces_flatMap_braceTag`, the tags that are shown are those of the braces, `sameNesting_wrapWords`,
wrapping does not change how they are nested, and `highlightResult_boldTags`.
-/

namespace Zettel.Search

/-! ## Nested tags -/

inductive BoldTag
  | opening
  | closing
  deriving DecidableEq, Repr

/-- How a tag is written. -/
def BoldTag.text : BoldTag → List Char
  | opening => "<b>".toList
  | closing => "</b>".toList

/-- Every tag is one of a pair, and pairs stand within or behind one another. -/
inductive Nested : List BoldTag → Prop
  | nil : Nested []
  | pair {inner rest : List BoldTag} (hinner : Nested inner) (hrest : Nested rest) :
    Nested (.opening :: (inner ++ .closing :: rest))

/-- How many tags are open behind the tag if `k` are open before it. There is no answer for a tag
that closes none. -/
def BoldTag.openAfter? (k : Nat) : BoldTag → Option Nat
  | opening => some (k + 1)
  | closing => if k = 0 then none else some (k - 1)

/-- How many tags are open behind all the tags if `k` are open before them. -/
def openAfter? (k : Nat) (ts : List BoldTag) : Option Nat := ts.foldlM BoldTag.openAfter? k

section Nested

variable {ts us rest : List BoldTag} {k : Nat}

/-- One more tag is open behind an opening one. -/
theorem openAfter?_opening : openAfter? k (.opening :: ts) = openAfter? (k + 1) ts := rfl

/-- One less is open behind a closing one. -/
theorem openAfter?_closing : openAfter? (k + 1) (.closing :: ts) = openAfter? k ts := rfl

/-- The tags of two texts open and close one after the other. -/
theorem openAfter?_append :
    openAfter? k (ts ++ us) = (openAfter? k ts).bind (openAfter? · us) := List.foldlM_append

/-- Nested tags leave open what was open before them. -/
theorem Nested.openAfter?_eq (h : Nested ts) (k : Nat) : openAfter? k ts = some k := by
  induction h generalizing k with
  | nil => rfl
  | pair _ _ ihinner ihrest =>
    rw [openAfter?_opening, openAfter?_append, ihinner, Option.bind_some, openAfter?_closing,
      ihrest]

theorem length_lt_of_eq_append {t : BoldTag} (h : ts = us ++ t :: rest) :
    rest.length < ts.length := by
  rw [h, List.length_append, List.length_cons]
  omega

/-- Where no tag stays open, the first that closes one of the tags before has nested tags in front
of it. -/
theorem exists_nested_of_openAfter? (ts : List BoldTag) {k : Nat}
    (h : openAfter? (k + 1) ts = some 0) :
    ∃ inner rest, ts = inner ++ .closing :: rest ∧ Nested inner ∧ openAfter? k rest = some 0 := by
  match ts with
  | [] => cases h
  | .closing :: ts => exact ⟨[], ts, rfl, .nil, h⟩
  | .opening :: ts =>
    -- the first part ends with the tag that closes this one, the second with the tag looked for
    obtain ⟨inner, rest, hts, hinner, hrest⟩ := exists_nested_of_openAfter? ts h
    have hshorter := length_lt_of_eq_append hts
    obtain ⟨inner', rest', hrest', hinner', hafter⟩ := exists_nested_of_openAfter? rest hrest
    exact ⟨_, rest', by rw [hts, hrest']; simp, .pair hinner hinner', hafter⟩
termination_by ts.length
decreasing_by
  · exact Nat.lt_succ_self _
  · exact Nat.lt_succ_of_lt hshorter

theorem nested_of_openAfter? (ts : List BoldTag) (h : openAfter? 0 ts = some 0) : Nested ts := by
  match ts with
  | [] => exact .nil
  | .closing :: ts => cases h
  | .opening :: ts =>
    obtain ⟨inner, rest, hts, hinner, hrest⟩ := exists_nested_of_openAfter? ts h
    have hshorter := length_lt_of_eq_append hts
    exact hts ▸ .pair hinner (nested_of_openAfter? rest hrest)
termination_by ts.length
decreasing_by exact Nat.lt_succ_of_lt hshorter

/-- **Tags are nested if none closes more than is open, and none stays open.** -/
theorem nested_iff : Nested ts ↔ openAfter? 0 ts = some 0 :=
  ⟨fun h => h.openAfter?_eq 0, nested_of_openAfter? ts⟩

instance (ts : List BoldTag) : Decidable (Nested ts) := decidable_of_iff _ nested_iff.symm

end Nested

/-! ## Tags of a text -/

/-- A text with its bold tags apart from the other characters. -/
def pieces : List Char → List (Char ⊕ BoldTag)
  | '<' :: 'b' :: '>' :: rest => .inr .opening :: pieces rest
  | '<' :: '/' :: 'b' :: '>' :: rest => .inr .closing :: pieces rest
  | c :: rest => .inl c :: pieces rest
  | [] => []

/-- The bold tags of a text. -/
def boldTags (cs : List Char) : List BoldTag := (pieces cs).filterMap Sum.getRight?

/-- A text without its bold tags. -/
def dropBoldTags (cs : List Char) : List Char := (pieces cs).filterMap Sum.getLeft?

/-- There is no bold tag in the text. -/
def HasNoBoldTag (cs : List Char) : Prop := ∀ t : BoldTag, ¬t.text <:+: cs

/-- What a character becomes in the end. -/
def bracePiece : Char → Char ⊕ BoldTag
  | '{' => .inr .opening
  | '}' => .inr .closing
  | c => .inl c

/-- The tags that the braces of a text become. -/
def braces (cs : List Char) : List BoldTag := cs.filterMap fun c => (bracePiece c).getRight?

section Pieces

variable {c : Char} {cs ds e : List Char}

/-- Only braces become tags. -/
theorem braceTag_of_not_isBrace (hc : isBrace c = false) : braceTag c = [c] := by
  unfold braceTag
  split
  · cases hc
  · cases hc
  · rfl

theorem bracePiece_of_not_isBrace (hc : isBrace c = false) : bracePiece c = .inl c := by
  unfold bracePiece
  split
  · cases hc
  · cases hc
  · rfl

theorem eq_or_eq_of_isBrace (hc : isBrace c = true) : c = '{' ∨ c = '}' := by
  simpa [isBrace] using hc

/-- A character that begins no tag stands for itself. -/
theorem pieces_cons (h : ∀ t : BoldTag, ¬t.text <+: c :: cs) :
    pieces (c :: cs) = .inl c :: pieces cs := by
  rw [pieces]
  · rintro rest rfl rfl
    exact h .opening ⟨rest, rfl⟩
  · rintro rest rfl rfl
    exact h .closing ⟨rest, rfl⟩

/-- Within a tag no other one begins. -/
theorem BoldTag.exists_text_eq (t : BoldTag) : ∃ e, t.text = '<' :: e ∧ '<' ∉ e := by
  cases t with
  | opening => exact ⟨_, rfl, by decide⟩
  | closing => exact ⟨_, rfl, by decide⟩

/-- Tags are written without braces. -/
theorem BoldTag.hasNoBrace_text (t : BoldTag) : HasNoBrace t.text := by cases t <;> decide

/-- What begins a text with tags for its braces, but not with a tag, begins the text itself. -/
theorem isPrefix_of_flatMap_braceTag (he : '<' ∉ e) (h : e <+: cs.flatMap braceTag) : e <+: cs := by
  induction e generalizing cs with
  | nil => exact List.nil_prefix
  | cons a e ih =>
    rw [List.mem_cons, not_or] at he
    cases cs with
    | nil => exact h
    | cons c cs =>
      rw [List.flatMap_cons] at h
      cases hc : isBrace c with
      | true =>
        obtain rfl | rfl := eq_or_eq_of_isBrace hc
        · exact absurd (List.cons_prefix_cons.1 h).1.symm he.1
        · exact absurd (List.cons_prefix_cons.1 h).1.symm he.1
      | false =>
        rw [braceTag_of_not_isBrace hc, List.singleton_append] at h
        obtain ⟨hac, htail⟩ := List.cons_prefix_cons.1 h
        exact List.cons_prefix_cons.2 ⟨hac, ih he.2 htail⟩

/-- There is no tag in the rest of a text without tags. -/
theorem HasNoBoldTag.tail (h : HasNoBoldTag (c :: cs)) : HasNoBoldTag cs :=
  fun t ht => h t (List.infix_cons ht)

/-- **The tags that are shown are those of the braces**, where the text has no bold tag itself. -/
theorem pieces_flatMap_braceTag (h : HasNoBoldTag cs) :
    pieces (cs.flatMap braceTag) = cs.map bracePiece := by
  induction cs with
  | nil => rfl
  | cons c cs ih =>
    rw [List.flatMap_cons, List.map_cons, ← ih h.tail]
    cases hc : isBrace c with
    | true => obtain rfl | rfl := eq_or_eq_of_isBrace hc <;> rfl
    | false =>
      rw [braceTag_of_not_isBrace hc, bracePiece_of_not_isBrace hc, List.singleton_append,
        pieces_cons]
      -- a tag that begins here goes on in the text itself, not in a tag that is shown
      intro t ht
      obtain ⟨e, he, hfree⟩ := t.exists_text_eq
      rw [he] at ht
      obtain ⟨hfirst, htail⟩ := List.cons_prefix_cons.1 ht
      have hstart := List.cons_prefix_cons.2 ⟨hfirst, isPrefix_of_flatMap_braceTag hfree htail⟩
      exact h t (he ▸ hstart.isInfix)

/-- Where no tag stood before, the tags are those that the braces become. -/
theorem boldTags_flatMap_braceTag (h : HasNoBoldTag cs) :
    boldTags (cs.flatMap braceTag) = braces cs := by
  rw [boldTags, pieces_flatMap_braceTag h, List.filterMap_map]
  rfl

theorem dropBoldTags_flatMap_braceTag (h : HasNoBoldTag cs) :
    dropBoldTags (cs.flatMap braceTag) = dropBraces cs := by
  rw [dropBoldTags, pieces_flatMap_braceTag h, List.filterMap_map, dropBraces,
    ← List.filterMap_eq_filter]
  refine List.filterMap_congr fun c _ => ?_
  cases hc : isBrace c with
  | true => obtain rfl | rfl := eq_or_eq_of_isBrace hc <;> rfl
  | false => simp [bracePiece_of_not_isBrace hc, Option.guard, hc]

/-- Braces put into a text make no tag in it. -/
theorem HasNoBoldTag.of_braced (h : HasNoBoldTag cs) (hbraced : Braced cs ds) : HasNoBoldTag ds :=
  fun t ht => h t (hbraced.isInfix t.hasNoBrace_text ht)

end Pieces

/-! ## Wrapping -/

/-- As many tags are open behind the braces of the one text as behind those of the other. -/
def SameNesting (cs ds : List Char) : Prop :=
  ∀ k, openAfter? k (braces cs) = openAfter? k (braces ds)

section Wrapping

variable {word cs ds cs' ds' : List Char} {words : List String}

/-- Only braces become tags. -/
theorem braces_eq_nil_iff : braces cs = [] ↔ HasNoBrace cs := by
  rw [braces, List.filterMap_eq_nil_iff]
  refine forall₂_congr fun c _ => ?_
  cases hc : isBrace c with
  | true => obtain rfl | rfl := eq_or_eq_of_isBrace hc <;> simp [bracePiece]
  | false => simp [bracePiece_of_not_isBrace hc]

/-- The braces of both texts are nested, or those of neither. -/
theorem SameNesting.nested_iff (h : SameNesting cs ds) :
    Nested (braces cs) ↔ Nested (braces ds) := by
  rw [Search.nested_iff, Search.nested_iff, h 0]

theorem isPartwise_sameNesting : IsPartwise SameNesting where
  refl _ _ := rfl
  trans h h' k := (h k).trans (h' k)
  append h h' k := by
    have hbraces : ∀ es es' : List Char, braces (es ++ es') = braces es ++ braces es' :=
      fun _ _ => List.filterMap_append
    rw [hbraces, hbraces, openAfter?_append, openAfter?_append, h k]
    exact Option.bind_congr fun j _ => h' j

/-- A pair of braces makes no difference if there is none in between. -/
theorem sameNesting_wrapped (h : HasNoBrace cs) : SameNesting cs ('{' :: (cs ++ ['}'])) := by
  intro k
  have hpair : braces ('{' :: (cs ++ ['}'])) = [.opening, .closing] := by
    change .opening :: braces (cs ++ ['}']) = _
    rw [braces, List.filterMap_append, ← braces, braces_eq_nil_iff.2 h]
    rfl
  rw [hpair, braces_eq_nil_iff.2 h]
  rfl

theorem hasNoBrace_nil : HasNoBrace [] := fun _ hc => absurd hc List.not_mem_nil

/-- Braces have no capitals. -/
theorem isBrace_of_sameIgnoringCase {w c : Char} (h : Text.sameIgnoringCase w c = true)
    (hc : isBrace c = true) : isBrace w = true := by
  have heq : w = c := by
    obtain rfl | rfl := eq_or_eq_of_isBrace hc
    · exact Text.eq_of_sameIgnoringCase (by decide +kernel) h
    · exact Text.eq_of_sameIgnoringCase (by decide +kernel) h
  rw [heq, hc]

/-- No brace differs from anything else in case alone, so what a word matches has none. -/
theorem hasNoBrace_take_of_beginsIgnoringCase (hword : HasNoBrace word)
    (h : beginsIgnoringCase word cs = true) : HasNoBrace (cs.take word.length) := by
  induction word generalizing cs with
  | nil => exact hasNoBrace_nil
  | cons w word ih =>
    cases cs with
    | nil => exact hasNoBrace_nil
    | cons c cs =>
      rw [beginsIgnoringCase, Bool.and_eq_true] at h
      obtain ⟨hw, hword⟩ := List.forall_mem_cons.1 hword
      refine List.forall_mem_cons.2 ⟨?_, ih hword h.2⟩
      rw [← Bool.not_eq_true] at hw ⊢
      exact fun hc => hw (isBrace_of_sameIgnoringCase h.1 hc)

theorem sameNesting_wrapAll (hword : HasNoBrace word) (cs : List Char) :
    SameNesting cs (wrapAll word cs) := by
  have hR := isPartwise_sameNesting
  fun_induction wrapAll word cs with
  | case1 => exact fun k => rfl
  | case2 => exact hR.refl []
  | case3 c rest _ ih =>
    exact hR.append (sameNesting_wrapped hasNoBrace_nil) (hR.append (hR.refl [c]) ih)
  | case4 c rest hne hbegins ih =>
    -- what is wrapped is as long as the word and differs from it in case alone
    have hmatch := hasNoBrace_take_of_beginsIgnoringCase hword hbegins
    rw [← Nat.sub_add_cancel (List.length_pos_iff.2 hne), List.take_succ_cons] at hmatch
    have hparts := hR.append (sameNesting_wrapped hmatch) ih
    simpa using hparts
  | case5 c rest _ _ ih => exact hR.append (hR.refl [c]) ih

/-- **Wrapping changes nothing in how tags are nested.** -/
theorem sameNesting_wrapWords (hwords : ∀ w ∈ words, HasNoBrace w.toList) (title : List Char) :
    SameNesting title (wrapWords words title) :=
  isPartwise_sameNesting.wrapWords (fun w hw => sameNesting_wrapAll (hwords w hw)) title

theorem mem_of_mem_dropRepeated {w : String} {ws : List String} (h : w ∈ dropRepeated ws) :
    w ∈ ws := by
  induction ws with
  | nil => exact h
  | cons v ws ih =>
    rcases List.mem_cons.1 h with rfl | h
    · exact List.mem_cons_self
    · exact List.mem_cons_of_mem v (ih ((List.dropWhile_sublist _).mem h))

/-- There are no braces in the words that are looked for. -/
theorem hasNoBrace_of_mem_highlightWords {tokens : List String} {w : String}
    (h : w ∈ highlightWords tokens) : HasNoBrace w.toList := by
  have hplain := List.mem_of_mem_filter (mem_sortBy.1 (mem_of_mem_dropRepeated h))
  obtain ⟨token, -, rfl⟩ := List.mem_map.1 hplain
  intro c hc
  rw [String.toList_ofList] at hc
  have hmark := (List.mem_filter.1 hc).2
  rw [← Bool.not_eq_true]
  intro hbrace
  obtain rfl | rfl := eq_or_eq_of_isBrace hbrace <;> cases hmark

/-- What is shown has the characters of the title but its braces, and its tags are nested if these
braces are. -/
theorem highlightTitle_spec (hwords : ∀ w ∈ words, HasNoBrace w.toList) {title : String}
    (htitle : HasNoBoldTag title.toList) :
    dropBoldTags (highlightTitle words title).toList = dropBraces title.toList ∧
      (Nested (boldTags (highlightTitle words title).toList) ↔ Nested (braces title.toList)) := by
  have hbraced := braced_wrapWords (words.filter canBeSought) title.toList
  have hfree := htitle.of_braced hbraced
  rw [highlightTitle, String.toList_ofList]
  refine ⟨(dropBoldTags_flatMap_braceTag hfree).trans hbraced.dropBraces_eq, ?_⟩
  rw [boldTags_flatMap_braceTag hfree]
  have hsought : ∀ w ∈ words.filter canBeSought, HasNoBrace w.toList :=
    fun w hw => hwords w (List.mem_of_mem_filter hw)
  exact (sameNesting_wrapWords hsought title.toList).nested_iff.symm

end Wrapping

/-! ## Attributes -/

/-- No brace is shown of the attribute. -/
def ShowsNoBrace (a : Attribute) : Prop :=
  HasNoBrace a.name.toList ∧ (a.isLabel = true → HasNoBrace a.value.toList)

section Attributes

variable {c : Char} {cs ds : List Char}

/-- Without an angle bracket there is no tag. -/
theorem hasNoBoldTag_of_not_mem (h : '<' ∉ cs) : HasNoBoldTag cs := by
  intro t ht
  obtain ⟨e, he, -⟩ := t.exists_text_eq
  exact h (ht.subset (he ▸ List.mem_cons_self))

/-- Two texts make no bold tag together if none could go over from the one to the other. -/
theorem HasNoBoldTag.append (hcs : HasNoBoldTag cs) (hds : HasNoBoldTag (c :: ds))
    (hc : ∀ t : BoldTag, c ∉ t.text.tail) : HasNoBoldTag (cs ++ c :: ds) := by
  induction cs with
  | nil => exact hds
  | cons a cs ih =>
    intro t ht
    rcases List.infix_cons_iff.1 ht with hstart | hpart
    · rcases List.prefix_or_prefix_of_prefix hstart (List.prefix_append (a :: cs) (c :: ds)) with
        hwithin | ⟨more, hmore⟩
      · exact hcs t hwithin.isInfix
      · cases more with
        | nil => exact hcs t ⟨[], [], by rw [← hmore]; simp⟩
        | cons d more =>
          rw [← hmore] at hstart
          have hfirst := (List.prefix_append_right_inj (a :: cs)).1 hstart
          refine hc t ?_
          rw [← hmore, ← (List.cons_prefix_cons.1 hfirst).1]
          simp
    · exact ih hcs.tail t hpart

/-- Two texts together have no brace if neither has one. -/
theorem hasNoBrace_append : HasNoBrace (cs ++ ds) ↔ HasNoBrace cs ∧ HasNoBrace ds :=
  List.forall_mem_append

/-- What a character is written as has no angle bracket that opens. -/
theorem not_mem_escapeChar (c : Char) : '<' ∉ escapeChar c := by
  unfold escapeChar
  split
  case h_6 _ hleft _ _ _ => exact fun h => hleft (List.mem_singleton.1 h).symm
  all_goals decide

/-- A brace is written as it is, and nothing else with one. -/
theorem hasNoBrace_escapeChar (c : Char) : HasNoBrace (escapeChar c) ↔ isBrace c = false := by
  unfold escapeChar
  split
  case h_6 => exact List.forall_mem_singleton
  all_goals decide

/-- What is written has no angle bracket that opens. -/
theorem not_mem_escapeHtml (s : String) : '<' ∉ (escapeHtml s).toList := by
  rw [escapeHtml, String.toList_ofList, List.mem_flatMap]
  rintro ⟨c, -, hc⟩
  exact not_mem_escapeChar c hc

/-- Writing a text for display brings in no brace and takes out none. -/
theorem hasNoBrace_escapeHtml (s : String) :
    HasNoBrace (escapeHtml s).toList ↔ HasNoBrace s.toList := by
  rw [escapeHtml, String.toList_ofList]
  refine List.forall_mem_flatMap.trans (forall₂_congr fun c _ => hasNoBrace_escapeChar c)

/-- Nor do the quotes around a value. -/
theorem hasNoBrace_shownValue (value : String) :
    HasNoBrace (shownValue value).toList ↔ HasNoBrace value.toList := by
  have hquote : HasNoBrace "\"".toList := by decide
  rw [shownValue]
  split
  · rfl
  · simp only [String.toList_append, hasNoBrace_append, hquote, true_and, and_true]

/-- An attribute is shown without an angle bracket that opens. -/
theorem not_mem_shownAttribute (a : Attribute) : '<' ∉ (shownAttribute a).toList := by
  have hescaped := not_mem_escapeHtml
  rw [shownAttribute]
  split
  · simp [hescaped]
  · split <;> simp [hescaped]

theorem hasNoBrace_shownAttribute (a : Attribute) :
    HasNoBrace (shownAttribute a).toList ↔ ShowsNoBrace a := by
  have hsigns : HasNoBrace "@".toList ∧ HasNoBrace "=…".toList ∧ HasNoBrace "#".toList ∧
      HasNoBrace "=".toList ∧ HasNoBrace "".toList := by decide
  obtain ⟨hat, hdots, hsharp, heq, hnone⟩ := hsigns
  rw [shownAttribute, ShowsNoBrace, Attribute.isLabel]
  split
  · next hkind =>
    simp only [String.toList_append, hasNoBrace_append, hasNoBrace_escapeHtml, hat, hdots, hkind]
    simp
  · next hkind =>
    simp only [String.toList_append, hasNoBrace_append, hasNoBrace_escapeHtml, hsharp, hkind,
      true_and, decide_true, forall_const]
    refine and_congr_right fun _ => ?_
    split
    · next hempty =>
      rw [String.isEmpty_iff.1 hempty]
    · simp only [String.toList_append, hasNoBrace_append, hasNoBrace_escapeHtml,
        hasNoBrace_shownValue, heq, true_and]

theorem snippets_cons (a : Attribute) (as : List Attribute) : (snippets (a :: as)).toList =
    ' ' :: ("<small>".toList ++ (shownAttribute a).toList ++ "</small>".toList) ++
      (snippets as).toList := by
  simp [snippets]

theorem hasNoBrace_snippets (as : List Attribute) :
    HasNoBrace (snippets as).toList ↔ ∀ a ∈ as, ShowsNoBrace a := by
  have htags : HasNoBrace [' '] ∧ HasNoBrace "<small>".toList ∧ HasNoBrace "</small>".toList := by
    decide
  obtain ⟨hblank, hopening, hclosing⟩ := htags
  induction as with
  | nil => simp [snippets, HasNoBrace]
  | cons a as ih =>
    rw [snippets_cons, hasNoBrace_append, List.forall_mem_cons]
    refine and_congr ?_ ih
    rw [← hasNoBrace_shownAttribute, ← List.singleton_append]
    simp only [hasNoBrace_append, hblank, hopening, hclosing, true_and, and_true]

/-- What follows a title for an attribute has no bold tag, whatever the attribute is. -/
theorem hasNoBoldTag_snippet (a : Attribute) :
    HasNoBoldTag (' ' :: ("<small>".toList ++ (shownAttribute a).toList ++ "</small>".toList)) := by
  have hopening : HasNoBoldTag ('<' :: ("small>".toList ++ (shownAttribute a).toList)) := by
    have htail : '<' ∉ "small>".toList ++ (shownAttribute a).toList := by
      simp [not_mem_shownAttribute a]
    intro t ht
    rcases List.infix_cons_iff.1 ht with hstart | hpart
    · cases t <;> cases (List.cons_prefix_cons.1 (List.cons_prefix_cons.1 hstart).2).1
    · exact hasNoBoldTag_of_not_mem htail t hpart
  have hclosing : HasNoBoldTag "</small>".toList := fun t => by cases t <;> decide
  have hblank : HasNoBoldTag " ".toList := hasNoBoldTag_of_not_mem (by decide)
  exact (hblank.append hopening fun t => by cases t <;> decide).append hclosing
    fun t => by cases t <;> decide

/-- The attributes behind a text bring in no bold tag. -/
theorem HasNoBoldTag.append_snippets (h : HasNoBoldTag cs) (as : List Attribute) :
    HasNoBoldTag (cs ++ (snippets as).toList) := by
  induction as generalizing cs with
  | nil => simpa [snippets] using h
  | cons a as ih =>
    rw [snippets_cons, ← List.append_assoc]
    exact ih (h.append (hasNoBoldTag_snippet a) fun t => by cases t <;> decide)

end Attributes

/-! ## Results -/

/-- The attributes that follow the title of a result. -/
def mentioned (g : Graph) (words : List String) (n : NoteId) (memo : Memo) : List Attribute :=
  (g.effective n memo).1.filter (isMentioned words)

/-- What is shown for a result, before words are highlighted. -/
def plainText (g : Graph) (words : List String) (r : Result) (memo : Memo) : String :=
  r.title ++ snippets (mentioned g words r.noteId memo)

/-- The highlighted text is added to the result, and nothing else is changed. -/
theorem fst_highlightResult (g : Graph) (words : List String) (r : Result) (memo : Memo) :
    (highlightResult g words r memo).1 =
      { r with highlighted := some (highlightTitle words (plainText g words r memo)) } := rfl

/-- **Highlighting adds nested tags alone, if there are no braces**: without its bold tags, what is
shown is the title and the attributes without their braces, and the tags are nested if these braces
are. So both are as they should be exactly if the title and the attributes show no brace. -/
theorem highlightResult_boldTags (g : Graph) (tokens : List String) (r : Result) (memo : Memo)
    (htitle : HasNoBoldTag r.title.toList) :
    ∃ text shown,
      text = (plainText g (highlightWords tokens) r memo).toList ∧
      (highlightResult g (highlightWords tokens) r memo).1.highlighted = some shown ∧
      dropBoldTags shown.toList = dropBraces text ∧
      (Nested (boldTags shown.toList) ↔ Nested (braces text)) ∧
      (Nested (boldTags shown.toList) ∧ dropBoldTags shown.toList = text ↔
        HasNoBrace r.title.toList ∧
          ∀ a ∈ mentioned g (highlightWords tokens) r.noteId memo, ShowsNoBrace a) := by
  have htext : HasNoBoldTag (plainText g (highlightWords tokens) r memo).toList := by
    rw [plainText, String.toList_append]
    exact htitle.append_snippets _
  obtain ⟨hdrop, hnested⟩ :=
    highlightTitle_spec (fun w hw => hasNoBrace_of_mem_highlightWords hw) htext
  refine ⟨_, _, rfl, congrArg Result.highlighted (fst_highlightResult ..), hdrop, hnested, ?_⟩
  rw [hdrop, hnested, dropBraces_eq_self_iff, ← hasNoBrace_snippets, ← hasNoBrace_append,
    ← String.toList_append, ← plainText]
  refine ⟨And.right, fun hfree => ⟨?_, hfree⟩⟩
  rw [braces_eq_nil_iff.2 hfree]
  exact .nil

/-- A note with a brace in its title, and one that has another brace in a label. -/
def braceVault : Vault := .ofSnapshot
  { notes := [{ id := "root", title := "root" }, { id := "a", title := "a \x7b b" },
      { id := "c", title := "c \x7b" }]
    branches := [{ id := "ra", child := "a", parent := "root" },
      { id := "rc", child := "c", parent := "root" }]
    attributes := [.label "l" "c" "k" "\x7d c"] }

/-- The two braces of the second note become a pair of tags, and are lost. -/
theorem highlightResult_boldTags_braceVault :
    HasNoBoldTag "c \x7b".toList ∧ ∃ shown,
      (highlightResult braceVault.graph (highlightWords ["c"]) ⟨["root", "c"], "c \x7b", none⟩
        braceVault.memo).1.highlighted = some shown ∧
      Nested (boldTags shown.toList) ∧
      dropBoldTags shown.toList = "c  <small>#k=&quot; c&quot;</small>".toList := by
  have htitle : HasNoBoldTag "c \x7b".toList := hasNoBoldTag_of_not_mem (by decide)
  obtain ⟨text, shown, rfl, hshown, hdrop, hnested, -⟩ :=
    highlightResult_boldTags braceVault.graph ["c"] ⟨["root", "c"], "c \x7b", none⟩ braceVault.memo
      htitle
  exact ⟨htitle, shown, hshown, hnested.2 (by decide +kernel), hdrop.trans (by decide +kernel)⟩

/-- The result for the first note. -/
def braceResult : Result := { path := ["root", "a"], title := "a \x7b b" }

/-- The brace of the first note becomes a tag that is never closed. -/
theorem unclosed_braceVault :
    (resultOf? braceVault.graph rootId "a" = some braceResult ∧
      HasNoBoldTag braceResult.title.toList ∧
      plainText braceVault.graph (highlightWords ["a"]) braceResult braceVault.memo =
        "a \x7b b") ∧
    ∃ shown, (highlightResult braceVault.graph (highlightWords ["a"]) braceResult
        braceVault.memo).1.highlighted = some shown ∧
      ¬Nested (boldTags shown.toList) ∧ dropBoldTags shown.toList = "a  b".toList := by
  have htitle : HasNoBoldTag braceResult.title.toList := hasNoBoldTag_of_not_mem (by decide)
  have htext : plainText braceVault.graph (highlightWords ["a"]) braceResult braceVault.memo =
      "a \x7b b" := by decide +kernel
  have hwords : ∀ w ∈ highlightWords ["a"], HasNoBrace w.toList :=
    fun w hw => hasNoBrace_of_mem_highlightWords hw
  obtain ⟨hdrop, hnested⟩ := highlightTitle_spec hwords htitle
  refine ⟨⟨by decide +kernel, htitle, htext⟩, _,
    congrArg Result.highlighted (fst_highlightResult ..), ?_⟩
  rw [htext]
  exact ⟨fun h => absurd (hnested.1 h) (by decide +kernel), hdrop.trans (by decide +kernel)⟩

end Zettel.Search
