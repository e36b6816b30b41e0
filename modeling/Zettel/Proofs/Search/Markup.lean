import Mathlib.Data.List.Infix
import Mathlib.Tactic.SplitIfs
import Zettel.Search.Highlight

/-!
# Markup of titles

Words are looked for in the texts between the tags and entities of a title, and the title that one
word leaves behind is parted anew for the next word. Braces can neither make nor break markup: they
are no part of an entity, and where a tag is not closed there is nothing that could close it. So
every word finds the markup that the title had to begin with.

Main statements: `isExact_parted`, a title is parted at the matches of the markup pattern, from the
left, `parted_wrapWords`, wrapping changes the texts between them alone, `IsPartwise.wrapWords`, what
wrapping does to each text it does to the title, and `markup_kept`.
-/

namespace Zettel.Search

/-! ## Braces -/

/-- The character `c` is a brace. -/
def isBrace (c : Char) : Bool := c = '{' || c = '}'

/-- A text without its braces. -/
def dropBraces (cs : List Char) : List Char := cs.filter (!isBrace ·)

/-- There is no brace in the text. -/
def HasNoBrace (cs : List Char) : Prop := ∀ c ∈ cs, isBrace c = false

instance (cs : List Char) : Decidable (HasNoBrace cs) :=
  decidable_of_iff ((cs.all fun c => !isBrace c) = true) (by simp [HasNoBrace])

/-- Nothing is dropped exactly from a text without braces. -/
theorem dropBraces_eq_self_iff {cs : List Char} : dropBraces cs = cs ↔ HasNoBrace cs := by
  simp only [dropBraces, List.filter_eq_self, Bool.not_eq_true', HasNoBrace]

/-! ## Tags and entities -/

/-- A tag: an angle bracket, and what follows it up to the next closing one. -/
def IsTag (cs : List Char) : Prop := ∃ body, '>' ∉ body ∧ cs = '<' :: (body ++ ['>'])

/-- An entity: a name or, behind a number sign, a number, up to a semicolon. -/
def IsEntity (cs : List Char) : Prop :=
  ∃ sign name, (sign = [] ∨ sign = ['#']) ∧ name ≠ [] ∧ (∀ c ∈ name, Text.isWordChar c = true) ∧
    cs = '&' :: (sign ++ name ++ [';'])

/-- A whole match of the markup pattern. -/
def IsMarkup (cs : List Char) : Prop := IsTag cs ∨ IsEntity cs

section Markup

variable {cs m : List Char} {n : Nat}

/-- Markup begins with a bracket or an ampersand. -/
theorem IsMarkup.exists_eq_cons (h : IsMarkup m) :
    ∃ c rest, m = c :: rest ∧ (c = '<' ∨ c = '&') := by
  rcases h with ⟨body, -, rfl⟩ | ⟨sign, name, -, -, -, rfl⟩
  · exact ⟨_, _, rfl, Or.inl rfl⟩
  · exact ⟨_, _, rfl, Or.inr rfl⟩

/-- Behind its first character an entity has none that could begin markup, and no brace at all. -/
theorem IsEntity.mem_tail (h : IsEntity m) :
    ∃ rest, m = '&' :: rest ∧ ∀ c ∈ rest, c ≠ '<' ∧ c ≠ '&' ∧ isBrace c = false := by
  obtain ⟨sign, name, hsign, -, hname, rfl⟩ := h
  refine ⟨_, rfl, fun c hc => ?_⟩
  rw [List.mem_append, List.mem_append, List.mem_singleton] at hc
  rcases hc with (hc | hc) | rfl
  · rcases hsign with rfl | rfl
    · cases hc
    · rw [List.mem_singleton.1 hc]
      decide
  · have hother : ∀ d, Text.isWordChar d = false → c ≠ d := by
      rintro d hd rfl
      rw [hname c hc] at hd
      cases hd
    refine ⟨hother _ (by decide), hother _ (by decide), ?_⟩
    rw [isBrace, decide_eq_false (hother '{' (by decide)), decide_eq_false (hother '}' (by decide))]
    rfl
  · decide

/-- Neither names nor numbers of entities have braces. -/
theorem IsEntity.hasNoBrace (h : IsEntity m) : HasNoBrace m := by
  obtain ⟨rest, rfl, hrest⟩ := h.mem_tail
  exact List.forall_mem_cons.2 ⟨rfl, fun c hc => (hrest c hc).2.2⟩

theorem entityBody?_eq_some_iff : entityBody? cs = some n ↔
    ∃ name rest, name ≠ [] ∧ (∀ c ∈ name, Text.isWordChar c = true) ∧
      cs = name ++ ';' :: rest ∧ name.length + 1 = n := by
  rw [entityBody?]
  constructor
  · intro h
    split_ifs at h with hbody
    obtain ⟨hname, hsemicolon⟩ := hbody
    obtain ⟨rest, hrest⟩ : ∃ rest, cs.drop (cs.takeWhile Text.isWordChar).length = ';' :: rest := by
      cases hdrop : cs.drop (cs.takeWhile Text.isWordChar).length with
      | nil => simp [hdrop] at hsemicolon
      | cons c rest =>
        rw [hdrop, List.head?_cons] at hsemicolon
        exact ⟨rest, by rw [Option.some.inj hsemicolon]⟩
    refine ⟨_, rest, hname, List.all_eq_true.1 List.all_takeWhile, ?_, Option.some.inj h⟩
    rw [← hrest]
    exact ((List.prefix_iff_eq_append.1 (List.takeWhile_prefix _))).symm
  · rintro ⟨name, rest, hne, hname, rfl, rfl⟩
    have htake : (name ++ ';' :: rest).takeWhile Text.isWordChar = name := by
      rw [List.takeWhile_append_of_pos hname, List.takeWhile_cons_of_neg (by decide),
        List.append_nil]
    simp [htake, hne]

/-- A tag goes up to the next closing bracket. -/
theorem takeWhile_tag {body : List Char} (h : '>' ∉ body) (rest : List Char) :
    (body ++ '>' :: rest).takeWhile (· ≠ '>') = body := by
  rw [List.takeWhile_append_of_pos, List.takeWhile_cons_of_neg (by simp), List.append_nil]
  intro c hc
  exact decide_eq_true fun heq => h (heq ▸ hc)

/-- Where an angle bracket is closed, a tag begins. -/
theorem exists_isTag_prefix (h : '>' ∈ cs) :
    ∃ m, IsTag m ∧ m <+: '<' :: cs ∧ m.length = (cs.takeWhile (· ≠ '>')).length + 2 := by
  obtain ⟨body, rest, rfl, hbody⟩ := List.eq_append_cons_of_mem h
  rw [takeWhile_tag hbody]
  exact ⟨'<' :: (body ++ ['>']), ⟨body, hbody, rfl⟩, ⟨rest, by simp⟩, by simp⟩

/-- **The length tells where a match of the markup pattern ends that the text begins with.** -/
theorem markupLength?_eq_some_iff :
    markupLength? cs = some n ↔ ∃ m, IsMarkup m ∧ m <+: cs ∧ m.length = n := by
  constructor
  · intro h
    unfold markupLength? at h
    split at h
    · next rest =>
      split_ifs at h with hclosed
      obtain ⟨m, hm, hstart, hlength⟩ := exists_isTag_prefix (List.contains_iff_mem.1 hclosed)
      exact ⟨m, Or.inl hm, hstart, hlength.trans (Option.some.inj h)⟩
    · next rest =>
      obtain ⟨k, hk, rfl⟩ := Option.map_eq_some_iff.1 h
      obtain ⟨name, tail, hne, hname, rfl, rfl⟩ := entityBody?_eq_some_iff.1 hk
      exact ⟨_, Or.inr ⟨['#'], name, Or.inr rfl, hne, hname, rfl⟩, ⟨tail, by simp⟩, by simp⟩
    · next rest _ =>
      obtain ⟨k, hk, rfl⟩ := Option.map_eq_some_iff.1 h
      obtain ⟨name, tail, hne, hname, rfl, rfl⟩ := entityBody?_eq_some_iff.1 hk
      exact ⟨_, Or.inr ⟨[], name, Or.inl rfl, hne, hname, rfl⟩, ⟨tail, by simp⟩, by simp⟩
    · cases h
  · rintro ⟨m, ⟨body, hbody, rfl⟩ | ⟨sign, name, hsign, hne, hname, rfl⟩, ⟨tail, rfl⟩, rfl⟩
    · have hcs : '<' :: (body ++ ['>']) ++ tail = '<' :: (body ++ '>' :: tail) := by simp
      have hclosed : (body ++ '>' :: tail).contains '>' = true := by simp
      rw [hcs, markupLength?, if_pos hclosed, takeWhile_tag hbody]
      simp
    · have hbody : entityBody? (name ++ ';' :: tail) = some (name.length + 1) :=
        entityBody?_eq_some_iff.2 ⟨name, tail, hne, hname, rfl, rfl⟩
      rcases hsign with rfl | rfl
      · obtain ⟨c, name, rfl⟩ := List.exists_cons_of_ne_nil hne
        have hc : c ≠ '#' := by
          rintro rfl
          exact absurd (hname '#' List.mem_cons_self) (by decide)
        simp_all [markupLength?]
      · simp [markupLength?, hbody]

theorem markupLength?_eq_none_iff :
    markupLength? cs = none ↔ ∀ m, IsMarkup m → ¬m <+: cs := by
  rw [Option.eq_none_iff_forall_ne_some]
  simp only [ne_eq, markupLength?_eq_some_iff]
  constructor
  · exact fun h m hm hstart => h m.length ⟨m, hm, hstart, rfl⟩
  · rintro h n ⟨m, hm, hstart, -⟩
    exact h m hm hstart

end Markup

/-! ## Exact partings -/

/-- No tag or entity begins in the text, where `after` follows it. -/
def NoneBegins (text after : List Char) : Prop :=
  ∀ b, b <:+ text → b ≠ [] → ∀ m, IsMarkup m → ¬m <+: b ++ after

namespace Parted

/-- The title is parted at the matches of the markup pattern, from the left: what stands as markup
is a match, and no match begins in a text before it. -/
def IsExact : Parted → Prop
  | last text => NoneBegins text []
  | before text markup rest =>
    NoneBegins text (markup ++ rest.chars) ∧ IsMarkup markup ∧ rest.IsExact

end Parted

section Exact

variable {c : Char} {text after : List Char}

/-- Nothing begins in an empty text. -/
theorem noneBegins_nil (after : List Char) : NoneBegins [] after :=
  fun _ hb hne => absurd (List.suffix_nil.1 hb) hne

theorem noneBegins_cons : NoneBegins (c :: text) after ↔
    markupLength? (c :: (text ++ after)) = none ∧ NoneBegins text after := by
  rw [markupLength?_eq_none_iff]
  constructor
  · intro h
    exact ⟨h _ (List.suffix_refl _) (by simp), fun b hb => h b (hb.trans (List.suffix_cons c text))⟩
  · rintro ⟨hfirst, hrest⟩ b hb hne
    rcases List.suffix_cons_iff.1 hb with rfl | hb
    · exact hfirst
    · exact hrest b hb hne

/-- A character that begins no markup belongs to the text in front. -/
theorem Parted.IsExact.addChar {p : Parted} (hp : p.IsExact)
    (hc : markupLength? (c :: p.chars) = none) : (p.addChar c).IsExact := by
  cases p with
  | last text => exact noneBegins_cons.2 ⟨by simpa [Parted.chars] using hc, hp⟩
  | before text markup rest => exact ⟨noneBegins_cons.2 ⟨hc, hp.1⟩, hp.2⟩

/-- **A title is parted at the matches of the markup pattern, from the left.** -/
theorem isExact_parted (cs : List Char) : (parted cs).IsExact := by
  fun_induction parted cs with
  | case1 => exact noneBegins_nil []
  | case2 c rest n hn ih =>
    refine ⟨noneBegins_nil _, ?_, ih⟩
    obtain ⟨m, hm, hstart, hlength⟩ := markupLength?_eq_some_iff.1 hn
    have hpos := markupLength?_pos hn
    have htake : m = c :: rest.take (n - 1) := by
      rw [← List.take_succ_cons, Nat.sub_add_cancel hpos, ← hlength]
      exact List.prefix_iff_eq_take.1 hstart
    exact htake ▸ hm
  | case3 c rest hnone ih => exact ih.addChar (by rw [chars_parted]; exact hnone)

/-- In front of markup the parting adds the characters of a text one by one. -/
theorem parted_append (h : NoneBegins text after) :
    parted (text ++ after) = text.foldr Parted.addChar (parted after) := by
  induction text with
  | nil => rfl
  | cons c text ih =>
    obtain ⟨hfirst, hrest⟩ := noneBegins_cons.1 h
    rw [List.cons_append, parted, hfirst, List.foldr_cons, ← ih hrest]

theorem parted_markup {m : List Char} (hm : IsMarkup m) (after : List Char) :
    parted (m ++ after) = .before [] m (parted after) := by
  have hlength : markupLength? (m ++ after) = some m.length :=
    markupLength?_eq_some_iff.2 ⟨m, hm, List.prefix_append m after, rfl⟩
  obtain ⟨c, m, rfl, -⟩ := hm.exists_eq_cons
  rw [List.cons_append] at hlength ⊢
  rw [parted, hlength]
  simp

/-- Characters go in front of a last text one by one. -/
theorem foldr_addChar_last (text front : List Char) :
    text.foldr Parted.addChar (.last front) = .last (text ++ front) := by
  induction text with
  | nil => rfl
  | cons c text ih => rw [List.foldr_cons, ih, Parted.addChar, List.cons_append]

/-- They go in front of a text before markup the same way. -/
theorem foldr_addChar_before (text front markup : List Char) (rest : Parted) :
    text.foldr Parted.addChar (.before front markup rest) =
      .before (text ++ front) markup rest := by
  induction text with
  | nil => rfl
  | cons c text ih => rw [List.foldr_cons, ih, Parted.addChar, List.cons_append]

/-- **There is no other way to part a title at its markup.** -/
theorem Parted.IsExact.parted_chars {p : Parted} (h : p.IsExact) : parted p.chars = p := by
  induction p with
  | last text =>
    have hparted := parted_append h
    rw [List.append_nil] at hparted
    rw [Parted.chars, hparted, parted, foldr_addChar_last, List.append_nil]
  | before text markup rest ih =>
    rw [Parted.chars, parted_append h.1, parted_markup h.2.1, ih h.2.2, foldr_addChar_before,
      List.append_nil]

end Exact

/-! ## Braces that are added -/

/-- The characters `ds` are `cs` and braces that were put in anywhere. -/
inductive Braced : List Char → List Char → Prop
  | nil : Braced [] []
  | keep {cs ds : List Char} (c : Char) (h : Braced cs ds) : Braced (c :: cs) (c :: ds)
  | add {cs ds : List Char} {b : Char} (hb : isBrace b = true) (h : Braced cs ds) :
    Braced cs (b :: ds)

namespace Braced

variable {cs ds cs' ds' e : List Char} {c : Char}

theorem refl (cs : List Char) : Braced cs cs := by
  induction cs with
  | nil => exact .nil
  | cons c cs ih => exact .keep c ih

/-- Braces may be put in part by part. -/
theorem append (h : Braced cs ds) (h' : Braced cs' ds') : Braced (cs ++ cs') (ds ++ ds') := by
  induction h with
  | nil => exact h'
  | keep c _ ih => exact .keep c ih
  | add hb _ ih => exact .add hb ih

theorem trans {bs : List Char} (h : Braced bs cs) (h' : Braced cs ds) : Braced bs ds := by
  induction h' generalizing bs with
  | nil => exact h
  | keep c _ ih =>
    cases h with
    | keep _ h => exact .keep c (ih h)
    | add hb h => exact .add hb (ih h)
  | add hb _ ih => exact .add hb (ih h)

/-- What is added are braces alone. -/
theorem dropBraces_eq (h : Braced cs ds) : dropBraces ds = dropBraces cs := by
  induction h with
  | nil => rfl
  | keep c _ ih =>
    simp only [dropBraces, List.filter_cons] at ih ⊢
    rw [ih]
  | add hb _ ih => exact (List.filter_cons_of_neg (by simp [hb])).trans ih

/-- What has no braces itself and begins the new text began the old one. -/
theorem isPrefix (h : Braced cs ds) (he : HasNoBrace e) (hstart : e <+: ds) : e <+: cs := by
  induction h generalizing e with
  | nil => exact hstart
  | keep c _ ih =>
    cases e with
    | nil => exact List.nil_prefix
    | cons a e =>
      rw [List.cons_prefix_cons] at hstart ⊢
      exact ⟨hstart.1, ih (fun c hc => he c (List.mem_cons_of_mem a hc)) hstart.2⟩
  | @add _ _ b hb _ ih =>
    cases e with
    | nil => exact List.nil_prefix
    | cons a e =>
      have hbrace : isBrace a = false := he a List.mem_cons_self
      rw [(List.cons_prefix_cons.1 hstart).1, hb] at hbrace
      cases hbrace

/-- What has no braces itself and stands in the new text stood in the old one. -/
theorem isInfix (h : Braced cs ds) (he : HasNoBrace e) (hpart : e <:+: ds) : e <:+: cs := by
  induction h with
  | nil => exact hpart
  | keep c h ih =>
    rcases List.infix_cons_iff.1 hpart with hstart | hpart
    · exact ((h.keep c).isPrefix he hstart).isInfix
    · exact (ih hpart).trans (List.suffix_cons _ _).isInfix
  | add hb h ih =>
    rcases List.infix_cons_iff.1 hpart with hstart | hpart
    · exact ((h.add hb).isPrefix he hstart).isInfix
    · exact ih hpart

theorem mem_iff (h : Braced cs ds) (hc : isBrace c = false) : c ∈ ds ↔ c ∈ cs := by
  induction h with
  | nil => rfl
  | keep a _ ih => rw [List.mem_cons, List.mem_cons, ih]
  | add hb _ ih =>
    rw [List.mem_cons, ih]
    refine or_iff_right ?_
    rintro rfl
    rw [hb] at hc
    cases hc

/-- The place of a character that is no brace. -/
theorem split (h : Braced cs (ds' ++ c :: ds)) (hc : isBrace c = false) :
    ∃ cs' rest, cs = cs' ++ c :: rest ∧ Braced rest ds := by
  induction ds' generalizing cs with
  | nil =>
    cases h with
    | keep _ h => exact ⟨[], _, rfl, h⟩
    | add hb _ =>
      rw [hb] at hc
      cases hc
  | cons d ds' ih =>
    cases h with
    | keep _ h =>
      obtain ⟨cs', rest, rfl, hrest⟩ := ih h
      exact ⟨d :: cs', rest, rfl, hrest⟩
    | add _ h => exact ih h

end Braced

theorem braced_wrapAll (word cs : List Char) : Braced cs (wrapAll word cs) := by
  fun_induction wrapAll word cs with
  | case1 => exact .add rfl (.add rfl .nil)
  | case2 => exact .nil
  | case3 c rest _ ih => exact .add rfl (.add rfl (.keep c ih))
  | case4 c rest _ _ ih =>
    refine .add rfl (.keep c ?_)
    have hparts := (Braced.refl (rest.take (word.length - 1))).append (ih.add (b := '}') rfl)
    rwa [List.take_append_drop] at hparts
  | case5 c rest _ _ ih => exact .keep c ih

/-! ## Part by part -/

/-- The relation of texts holds of every text and itself, goes on from text to text, and holds of
texts that are put together if it holds of their parts. -/
structure IsPartwise (R : List Char → List Char → Prop) : Prop where
  refl (cs : List Char) : R cs cs
  trans {cs ds es : List Char} : R cs ds → R ds es → R cs es
  append {cs ds cs' ds' : List Char} : R cs ds → R cs' ds' → R (cs ++ cs') (ds ++ ds')

/-- To have braces put in is a matter of parts. -/
theorem isPartwise_braced : IsPartwise Braced := ⟨.refl, .trans, .append⟩

section Partwise

variable {R : List Char → List Char → Prop} {words : List String}

/-- What holds of the texts between markup before and after a change holds of the whole title. -/
theorem IsPartwise.chars_mapTexts (hR : IsPartwise R) {f : List Char → List Char}
    (hf : ∀ t, R t (f t)) (p : Parted) : R p.chars (p.mapTexts f).chars := by
  induction p with
  | last text => exact hf text
  | before text markup rest ih => exact hR.append (hf text) (hR.append (hR.refl markup) ih)

theorem IsPartwise.foldl_wrapAll (hR : IsPartwise R)
    (hwords : ∀ w ∈ words, ∀ t, R t (wrapAll w.toList t)) (text : List Char) :
    R text (words.foldl (fun t word => wrapAll word.toList t) text) := by
  induction words generalizing text with
  | nil => exact hR.refl text
  | cons word words ih =>
    obtain ⟨hword, hwords⟩ := List.forall_mem_cons.1 hwords
    exact hR.trans (hword text) (ih hwords _)

end Partwise

/-! ## Markup stays -/

section Kept

variable {text text' after after' : List Char} {f : List Char → List Char} {p : Parted}

/-- An entity that begins in a text, where markup or nothing follows, also ends there. -/
theorem IsEntity.isPrefix {m b : List Char} (h : IsEntity m) (hb : b ≠ [])
    (hafter : ∀ c ∈ after.head?, c = '<' ∨ c = '&') (hstart : m <+: b ++ after) : m <+: b := by
  rcases List.prefix_or_prefix_of_prefix hstart (List.prefix_append b after) with hm | ⟨more, rfl⟩
  · exact hm
  · cases more with
    | nil => rw [List.append_nil]
    | cons c more =>
      obtain ⟨rest, hrest⟩ := (List.prefix_append_right_inj b).1 hstart
      have hc : c = '<' ∨ c = '&' := hafter c (by rw [← hrest]; rfl)
      obtain ⟨d, b, rfl⟩ := List.exists_cons_of_ne_nil hb
      obtain ⟨tail, heq, htail⟩ := h.mem_tail
      obtain ⟨hleft, hand, -⟩ := htail c (by rw [← (List.cons.inj heq).2]; simp)
      exact absurd hc (by simp [hleft, hand])

/-- **Braces make no markup**: an entity has none, and what could close a tag was there before. -/
theorem NoneBegins.of_braced (h : NoneBegins text after) (htext : Braced text text')
    (hclosing : '>' ∈ after' → '>' ∈ after) (hafter : ∀ c ∈ after'.head?, c = '<' ∨ c = '&') :
    NoneBegins text' after' := by
  rintro b hb hne m (⟨body, -, rfl⟩ | hm) hstart
  · obtain ⟨c, b, rfl⟩ := List.exists_cons_of_ne_nil hne
    obtain ⟨rfl, hbody⟩ := List.cons_prefix_cons.1 hstart
    obtain ⟨front, rfl⟩ := hb
    obtain ⟨front, rest, rfl, hrest⟩ := htext.split rfl
    have hclosed : '>' ∈ rest ++ after := by
      have hmem : '>' ∈ b ++ after' := hbody.subset (by simp)
      rw [List.mem_append] at hmem ⊢
      exact hmem.imp (hrest.mem_iff rfl).1 hclosing
    obtain ⟨m, hm, hbegins, -⟩ := exists_isTag_prefix hclosed
    exact h _ (List.suffix_append front _) (by simp) m (Or.inl hm) hbegins
  · have hpart := (hm.isPrefix hne hafter hstart).isInfix.trans hb.isInfix
    obtain ⟨front, back, rfl⟩ := htext.isInfix hm.hasNoBrace hpart
    obtain ⟨rest, hrest, -⟩ := hm.mem_tail
    exact h (m ++ back) ⟨front, by rw [List.append_assoc]⟩ (by simp [hrest]) m (Or.inr hm)
      ⟨back ++ after, by rw [List.append_assoc]⟩

namespace Parted

theorem IsExact.mapTexts (h : p.IsExact) (hf : ∀ t, Braced t (f t)) : (p.mapTexts f).IsExact := by
  induction p with
  | last text => exact h.of_braced (hf text) id (by simp)
  | before text markup rest ih =>
    obtain ⟨htext, hmarkup, hrest⟩ := h
    have hbraced := (Braced.refl markup).append (isPartwise_braced.chars_mapTexts hf rest)
    refine ⟨htext.of_braced (hf text) (hbraced.mem_iff rfl).1 fun c hc => ?_, hmarkup, ih hrest⟩
    obtain ⟨d, more, rfl, hd⟩ := hmarkup.exists_eq_cons
    exact Option.some.inj hc ▸ hd

theorem mapTexts_id (p : Parted) : p.mapTexts (fun t => t) = p := by
  induction p with
  | last text => rfl
  | before text markup rest ih => rw [mapTexts, ih]

/-- Two changes of the texts, one after the other, are one. -/
theorem mapTexts_mapTexts (f f' : List Char → List Char) (p : Parted) :
    (p.mapTexts f).mapTexts f' = p.mapTexts fun t => f' (f t) := by
  induction p with
  | last text => rfl
  | before text markup rest ih => rw [mapTexts, mapTexts, mapTexts, ih]

theorem mem_chars_of_mem_texts {c : Char} {t : List Char} (ht : t ∈ p.texts) (hc : c ∈ t) :
    c ∈ p.chars := by
  induction p with
  | last text => exact List.mem_singleton.1 ht ▸ hc
  | before text markup rest ih =>
    rw [chars, List.mem_append, List.mem_append]
    rcases List.mem_cons.1 ht with rfl | ht
    · exact Or.inl hc
    · exact Or.inr (Or.inr (ih ht))

end Parted

/-- One word changes the texts between the markup alone. -/
theorem parted_wrapOutsideMarkup (word title : List Char) :
    parted (wrapOutsideMarkup word title) = (parted title).mapTexts (wrapAll word) :=
  ((isExact_parted title).mapTexts (braced_wrapAll word)).parted_chars

/-- **Any number of words changes the texts between the markup alone**, and each of these as if it
stood by itself. -/
theorem parted_wrapWords (words : List String) (title : List Char) :
    parted (wrapWords words title) =
      (parted title).mapTexts fun t => words.foldl (fun t word => wrapAll word.toList t) t := by
  induction words generalizing title with
  | nil => exact (Parted.mapTexts_id _).symm
  | cons word words ih =>
    rw [wrapWords, List.foldl_cons, ← wrapWords, ih, parted_wrapOutsideMarkup,
      Parted.mapTexts_mapTexts]
    rfl

/-- What wrapping each text does in a partwise relation, wrapping the words of a title does. -/
theorem IsPartwise.wrapWords {R : List Char → List Char → Prop} (hR : IsPartwise R)
    {words : List String} (hwords : ∀ w ∈ words, ∀ t, R t (wrapAll w.toList t))
    (title : List Char) : R title (wrapWords words title) := by
  have hchars := hR.chars_mapTexts (hR.foldl_wrapAll hwords) (parted title)
  rwa [← parted_wrapWords, chars_parted, chars_parted] at hchars

/-- **Wrapping adds braces alone.** -/
theorem braced_wrapWords (words : List String) (title : List Char) :
    Braced title (wrapWords words title) :=
  isPartwise_braced.wrapWords (fun w _ => braced_wrapAll w.toList) title

/-- **Markup is kept**: after any number of words the title still has the same tags and entities in
the same order, and the texts around them are those of the title with braces put in. -/
theorem markup_kept (words : List String) {title : List Char} (htitle : HasNoBrace title)
    (k : Nat) :
    ((parted title).chars = title ∧ (parted title).IsExact) ∧
    ((parted (wrapWords (words.take k) title)).chars = wrapWords (words.take k) title ∧
      (parted (wrapWords (words.take k) title)).IsExact) ∧
    (parted (wrapWords (words.take k) title)).markups = (parted title).markups ∧
    (parted (wrapWords (words.take k) title)).texts.map dropBraces = (parted title).texts := by
  refine ⟨⟨chars_parted _, isExact_parted _⟩, ⟨chars_parted _, isExact_parted _⟩, ?_, ?_⟩
  · rw [parted_wrapWords, Parted.markups_mapTexts]
  · rw [parted_wrapWords, Parted.texts_mapTexts, List.map_map]
    refine (List.map_congr_left fun t ht => ?_).trans (List.map_id _)
    have htext : HasNoBrace t := fun c hc => htitle c <| by
      rw [← chars_parted title]
      exact Parted.mem_chars_of_mem_texts ht hc
    have hbraced := isPartwise_braced.foldl_wrapAll
      (fun w (_ : w ∈ words.take k) => braced_wrapAll w.toList) t
    exact hbraced.dropBraces_eq.trans (dropBraces_eq_self_iff.2 htext)

/-- A title with an entity and a tag, and with a bracket and an ampersand that begin neither. -/
def openTitle : List Char := "Amp &amp; <i>x & < amp".toList

theorem markup_kept_openTitle : HasNoBrace openTitle ∧
    wrapWords ["amp", "&"] openTitle = "\x7bAmp\x7d &amp; <i>x \x7b&\x7d < \x7bamp\x7d".toList ∧
    (parted (wrapWords ["amp", "&"] openTitle)).markups = ["&amp;".toList, "<i>".toList] ∧
    (parted (wrapWords ["amp", "&"] openTitle)).texts.map dropBraces =
      ["Amp ".toList, " ".toList, "x & < amp".toList] := by
  have htitle : HasNoBrace openTitle := by decide
  obtain ⟨-, -, hmarkups, htexts⟩ := markup_kept ["amp", "&"] htitle 2
  exact ⟨htitle, by decide +kernel, hmarkups.trans (by decide +kernel),
    htexts.trans (by decide +kernel)⟩

end Kept

end Zettel.Search
