import Mathlib.Data.List.Infix
import Zettel.Search.Content

/-!
# Text without markup

Markup is stripped in two passes: tags are dropped, and then a blank is put for every entity of a
space that does not break. The characters around a tag come together, and a blank comes between
others, but neither makes new markup. An angle bracket is kept only if none closes it, and then none
does in what is left; an entity that comes about where a tag was dropped is met by the second pass;
and a blank is no part of a tag or of an entity.

Main statements: `not_infix_replaceL`, replacing leaves nothing to be replaced,
`not_sublist_stripTags`, no angle bracket is closed where tags were dropped, and
`stripHtml_complete`.
-/

namespace Zettel

/-! ## Replacing every occurrence -/

namespace Text

variable {needle image xs cs : List Char}

/-- What stands in the result and belongs to no image stood in the text, in the same order. -/
theorem sublist_of_sublist_replaceL (hxs : ∀ x ∈ xs, x ∉ image)
    (h : xs.Sublist (replaceL needle image cs)) : xs.Sublist cs := by
  fun_induction replaceL needle image cs generalizing xs with
  | case1 => exact h
  | case2 c rest _ ih =>
    obtain ⟨us, vs, rfl, hus, hvs⟩ := List.sublist_append_iff.1 h
    have hnone : us = [] := List.eq_nil_iff_forall_not_mem.2 fun x hx =>
      hxs x (List.mem_append_left _ hx) (hus.subset hx)
    subst hnone
    exact (ih hxs hvs).trans (List.drop_sublist _ _)
  | case3 c rest _ ih =>
    rcases List.sublist_cons_iff.1 h with h | ⟨us, rfl, hus⟩
    · exact (ih hxs h).cons c
    · exact (ih (fun x hx => hxs x (List.mem_cons_of_mem _ hx)) hus).cons_cons c

/-- What begins the result and belongs to no image begins the text. -/
theorem prefix_of_prefix_replaceL (himage : image ≠ []) (hxs : ∀ x ∈ xs, x ∉ image)
    (h : xs <+: replaceL needle image cs) : xs <+: cs := by
  fun_induction replaceL needle image cs generalizing xs with
  | case1 => exact h
  | case2 c rest _ _ =>
    cases xs with
    | nil => exact List.nil_prefix
    | cons x xs =>
      obtain ⟨y, ys, rfl⟩ := List.exists_cons_of_ne_nil himage
      obtain ⟨rfl, -⟩ := List.cons_prefix_cons.1 h
      exact absurd List.mem_cons_self (hxs x List.mem_cons_self)
  | case3 c rest _ ih =>
    cases xs with
    | nil => exact List.nil_prefix
    | cons x xs =>
      obtain ⟨rfl, htail⟩ := List.cons_prefix_cons.1 h
      exact List.cons_prefix_cons.2
        ⟨rfl, ih (fun y hy => hxs y (List.mem_cons_of_mem _ hy)) htail⟩

/-- An occurrence that shares no character with `image` does not begin in it. -/
theorem infix_of_infix_append (hneedle : needle ≠ []) (hdisjoint : ∀ x ∈ needle, x ∉ image)
    (h : needle <:+: image ++ cs) : needle <:+: cs := by
  induction image with
  | nil => exact h
  | cons y ys ih =>
    rcases List.infix_cons_iff.1 h with hpre | hinfix
    · obtain ⟨x, xs, rfl⟩ := List.exists_cons_of_ne_nil hneedle
      obtain ⟨rfl, -⟩ := List.cons_prefix_cons.1 hpre
      exact absurd List.mem_cons_self (hdisjoint x List.mem_cons_self)
    · exact ih (fun x hx hmem => hdisjoint x hx (List.mem_cons_of_mem _ hmem)) hinfix

/-- **Replacing leaves nothing to be replaced**, if the image shares no character with what it
replaces. -/
theorem not_infix_replaceL (hneedle : needle ≠ []) (himage : image ≠ [])
    (hdisjoint : ∀ x ∈ needle, x ∉ image) : ¬needle <:+: replaceL needle image cs := by
  fun_induction replaceL needle image cs with
  | case1 => exact fun h => hneedle (List.infix_nil.1 h)
  | case2 c rest _ ih => exact fun h => ih (infix_of_infix_append hneedle hdisjoint h)
  | case3 c rest hkept ih =>
    intro h
    rcases List.infix_cons_iff.1 h with hpre | hinfix
    · -- the characters of the occurrence were kept, so it began here before
      obtain ⟨x, xs, rfl⟩ := List.exists_cons_of_ne_nil hneedle
      obtain ⟨rfl, htail⟩ := List.cons_prefix_cons.1 hpre
      have hbefore : xs <+: rest := prefix_of_prefix_replaceL himage
        (fun y hy => hdisjoint y (List.mem_cons_of_mem _ hy)) htail
      exact hkept ⟨hneedle,
        List.isPrefixOf_iff_prefix.2 (List.cons_prefix_cons.2 ⟨rfl, hbefore⟩)⟩
    · exact ih hinfix

/-- Where nothing is to be replaced, everything stays. -/
theorem replaceL_of_not_infix (h : ¬needle <:+: cs) : replaceL needle image cs = cs := by
  fun_induction replaceL needle image cs with
  | case1 => rfl
  | case2 c rest hoccurs _ =>
    exact absurd (List.isPrefixOf_iff_prefix.1 hoccurs.2).isInfix h
  | case3 c rest _ ih => rw [ih fun hinfix => h (List.infix_cons hinfix)]

end Text

namespace Search

variable {cs : List Char} {s : String}

/-! ## Dropping tags -/

/-- **Where tags were dropped no angle bracket is closed.** -/
theorem not_sublist_stripTags (cs : List Char) : ¬['<', '>'].Sublist (stripTags cs) := by
  fun_induction stripTags cs with
  | case1 => simp
  | case2 rest _ ih => exact ih
  | case3 rest hopen =>
    intro h
    have hclosed : ['>'].Sublist rest := List.cons_sublist_cons.1 h
    exact hopen (by simpa using hclosed)
  | case4 c rest hc ih =>
    intro h
    rcases List.sublist_cons_iff.1 h with h | ⟨us, hus, -⟩
    · exact ih h
    · exact hc (List.cons.inj hus).1.symm

/-- Where no angle bracket is closed everything stays. -/
theorem stripTags_of_not_sublist (h : ¬['<', '>'].Sublist cs) : stripTags cs = cs := by
  fun_induction stripTags cs with
  | case1 => rfl
  | case2 rest hclosed _ =>
    exact absurd (List.cons_sublist_cons.2 (List.singleton_sublist.2 (by simpa using hclosed))) h
  | case3 rest _ => rfl
  | case4 c rest _ ih => rw [ih fun hsub => h (hsub.cons c)]

/-! ## Plain text -/

/-- No angle bracket is closed by a later one, and there is no entity. -/
structure IsPlain (cs : List Char) : Prop where
  noTag : ¬['<', '>'].Sublist cs
  noEntity : ¬nonBreakingSpace.toList <:+: cs

theorem isPlain_stripHtml (s : String) : IsPlain (stripHtml s).toList := by
  rw [stripHtml, String.toList_ofList]
  constructor
  · intro h
    exact not_sublist_stripTags s.toList (Text.sublist_of_sublist_replaceL (by simp) h)
  · have hentity : ∀ x ∈ nonBreakingSpace.toList, x ∉ " ".toList := by simp [nonBreakingSpace]
    exact Text.not_infix_replaceL (by simp [nonBreakingSpace]) (by simp) hentity

theorem stripHtml_of_isPlain (h : IsPlain s.toList) : stripHtml s = s := by
  rw [stripHtml, stripTags_of_not_sublist h.noTag, Text.replaceL_of_not_infix h.noEntity,
    String.ofList_toList]

/-- **Stripping leaves no markup behind**: what it gives is plain, plain texts and no others stay as
they are, and so a second time changes nothing. -/
theorem stripHtml_complete (s : String) :
    ¬['<', '>'].Sublist (stripHtml s).toList ∧
    Text.occurs nonBreakingSpace (stripHtml s) = false ∧
    stripHtml (stripHtml s) = stripHtml s ∧
    (stripHtml s = s ↔ IsPlain s.toList) ∧
    ('<' ∉ s.toList ∧ Text.occurs nonBreakingSpace s = false → stripHtml s = s) := by
  have hplain := isPlain_stripHtml s
  refine ⟨hplain.noTag, ?_, stripHtml_of_isPlain hplain, ⟨fun h => h ▸ hplain,
    stripHtml_of_isPlain⟩, ?_⟩
  · rw [Text.occurs, ← Bool.not_eq_true, Text.occursL_iff]
    exact hplain.noEntity
  · rintro ⟨hopen, hentity⟩
    refine stripHtml_of_isPlain ⟨fun h => hopen (h.subset List.mem_cons_self), ?_⟩
    rwa [Text.occurs, ← Bool.not_eq_true, Text.occursL_iff] at hentity

example : stripHtml "&nb<i>sp;<<b>x < y" = " x < y" := by decide +kernel

end Search

end Zettel
