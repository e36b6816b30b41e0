import Mathlib.Data.List.Chain
import Zettel.Graph.Path
import Zettel.Proofs.Graph.Closure
import Zettel.Proofs.Locality

/-!
# Paths from the root note

The search for a path goes upwards, in rounds, and the places that it comes to are those of the walk
in rounds along parents. So it finds a path whenever parents lead to the note that it searches for.
In a graph whose edges are mirrored these are the same notes that the walk down visits.

Main statements: `Linked.isSome_pathUpTo_iff`, a path leads to the notes of a subtree,
`isWay_of_pathUpTo`, what the search finds is a path, and `isWay_of_somePath`, the path that a
result is shown under leads from the root note down to it and passes through the note asked for.
-/

namespace Zettel.Graph

variable {g : Graph} {mayUse mayUse' : NoteId → Bool} {n m p top hoisted : NoteId}
  {path path' : Path} {paths next : List Path} {seen : List NoteId}

/-! ## Paths -/

/-- The parents of a note that may be used. -/
def usableParents (g : Graph) (mayUse : NoteId → Bool) (n : NoteId) : List NoteId :=
  (g.parents n).filter mayUse

/-- The path leads down to the note `n`, at each step from a parent that may be used to its
child. -/
structure IsWay (g : Graph) (mayUse : NoteId → Bool) (n : NoteId) (path : Path) : Prop where
  last : path.getLast? = some n
  chain : path.IsChain fun p c => p ∈ g.usableParents mayUse c

theorem isWay_singleton (g : Graph) (mayUse : NoteId → Bool) (n : NoteId) :
    g.IsWay mayUse n [n] :=
  ⟨rfl, List.isChain_singleton n⟩

theorem IsWay.ne_nil (h : g.IsWay mayUse n path) : path ≠ [] := by
  rintro rfl
  exact absurd h.last (by simp)

/-- A parent of the first note continues the path upwards. -/
theorem IsWay.cons (h : g.IsWay mayUse n path)
    (hp : p ∈ g.usableParents mayUse (path.headD "")) : g.IsWay mayUse n (p :: path) := by
  obtain ⟨c, rest, rfl⟩ := List.exists_cons_of_ne_nil h.ne_nil
  exact ⟨h.last, List.isChain_cons_cons.2 ⟨hp, h.chain⟩⟩

theorem IsWay.mono (h : g.IsWay mayUse n path) (huse : ∀ p, mayUse p = true → mayUse' p = true) :
    g.IsWay mayUse' n path :=
  ⟨h.last, h.chain.imp fun _ _ hp => List.mem_filter.2
    ⟨(List.mem_filter.1 hp).1, huse _ (List.mem_filter.1 hp).2⟩⟩

/-- A path down to a note and one from there on, which do not say the note twice. -/
theorem IsWay.append (h : g.IsWay mayUse m path) (h' : g.IsWay mayUse n path')
    (hm : path'.head? = some m) : g.IsWay mayUse n (path ++ path'.drop 1) := by
  obtain ⟨rest, rfl⟩ := List.head?_eq_some_iff.1 hm
  obtain ⟨above, rfl⟩ := List.getLast?_eq_some_iff.1 h.last
  rw [List.drop_one, List.tail_cons, List.append_assoc, List.singleton_append]
  refine ⟨?_, List.isChain_split.2 ⟨h.chain, h'.chain⟩⟩
  rw [List.getLast?_append, h'.last]
  rfl

/-! ## A round of the search -/

/-- The first notes of paths. -/
def heads (paths : List Path) : List NoteId := paths.map fun path => path.headD ""

/-- Going on from a path puts usable parents in front of it, those that had not been seen. -/
theorem exists_extendUp_eq (g : Graph) (mayUse : NoteId → Bool) (next : List Path)
    (seen : List NoteId) (path : Path) : ∃ new,
      g.extendUp mayUse (next, seen) path = (next ++ new, seen ++ heads new) ∧
      addNew seen (g.usableParents mayUse (path.headD "")) = seen ++ heads new ∧
      ∀ q ∈ new, ∃ p ∈ g.usableParents mayUse (path.headD ""), q = p :: path := by
  rw [extendUp, usableParents]
  induction g.parents (path.headD "") generalizing next seen with
  | nil => exact ⟨[], by simp [addNew, heads]⟩
  | cons p ps ih =>
    rw [List.foldl_cons]
    by_cases huse : mayUse p = true
    · rw [List.filter_cons_of_pos huse]
      by_cases hseen : p ∈ seen
      · obtain ⟨new, hfold, hadd, hnew⟩ := ih next seen
        refine ⟨new, by simpa [huse, hseen] using hfold, ?_, fun q hq => ?_⟩
        · simpa [addNew, hseen] using hadd
        · obtain ⟨p', hp', rfl⟩ := hnew q hq
          exact ⟨p', List.mem_cons_of_mem _ hp', rfl⟩
      · obtain ⟨new, hfold, hadd, hnew⟩ := ih (next ++ [p :: path]) (seen ++ [p])
        refine ⟨(p :: path) :: new, by simpa [huse, hseen, heads] using hfold, ?_, ?_⟩
        · simpa [addNew, hseen, heads] using hadd
        · refine List.forall_mem_cons.2 ⟨⟨p, List.mem_cons_self, rfl⟩, fun q hq => ?_⟩
          obtain ⟨p', hp', rfl⟩ := hnew q hq
          exact ⟨p', List.mem_cons_of_mem _ hp', rfl⟩
    · rw [List.filter_cons_of_neg huse]
      obtain ⟨new, hfold, hrest⟩ := ih next seen
      exact ⟨new, by simpa [huse] using hfold, hrest⟩

/-- A round goes on from every path of the last one. -/
theorem exists_foldl_extendUp_eq (g : Graph) (mayUse : NoteId → Bool) (paths next : List Path)
    (seen : List NoteId) : ∃ new,
      paths.foldl (g.extendUp mayUse) (next, seen) = (next ++ new, seen ++ heads new) ∧
      addNew seen ((heads paths).flatMap (g.usableParents mayUse)) = seen ++ heads new ∧
      ∀ q ∈ new, ∃ path ∈ paths, ∃ p ∈ g.usableParents mayUse (path.headD ""), q = p :: path := by
  induction paths generalizing next seen with
  | nil => exact ⟨[], by simp [addNew, heads]⟩
  | cons path paths ih =>
    obtain ⟨new, hextend, hadd, hnew⟩ := exists_extendUp_eq g mayUse next seen path
    obtain ⟨others, hfold, hadds, hothers⟩ := ih (next ++ new) (seen ++ heads new)
    refine ⟨new ++ others, ?_, ?_, fun q hq => ?_⟩
    · rw [List.foldl_cons, hextend, hfold, heads, heads, heads, List.map_append,
        List.append_assoc, List.append_assoc]
    · rw [heads, List.map_cons, List.flatMap_cons, addNew_append, hadd]
      refine hadds.trans ?_
      rw [heads, heads, heads, List.map_append, List.append_assoc]
    · rcases List.mem_append.1 hq with hq | hq
      · obtain ⟨p, hp, rfl⟩ := hnew q hq
        exact ⟨path, List.mem_cons_self, p, hp, rfl⟩
      · obtain ⟨path', hpath', hrest⟩ := hothers q hq
        exact ⟨path', List.mem_cons_of_mem _ hpath', hrest⟩

/-! ## The search -/

/-- A search that finds a path finds it among those of the last round, or goes on from these. -/
theorem searchUp_succ_eq_some {rounds : Nat}
    (h : g.searchUp mayUse top (rounds + 1) paths seen = some path) :
    (path ∈ paths ∧ path.head? = some top) ∨
    (paths.find? (·.head? = some top) = none ∧ ∃ new,
      addNew seen ((heads paths).flatMap (g.usableParents mayUse)) = seen ++ heads new ∧
      (∀ q ∈ new, ∃ path ∈ paths, ∃ p ∈ g.usableParents mayUse (path.headD ""), q = p :: path) ∧
      g.searchUp mayUse top rounds new (seen ++ heads new) = some path) := by
  rw [searchUp] at h
  cases hfind : paths.find? (·.head? = some top) with
  | some found =>
    rw [hfind] at h
    obtain rfl := Option.some.inj h
    exact Or.inl ⟨List.mem_of_find?_eq_some hfind, by simpa using List.find?_some hfind⟩
  | none =>
    rw [hfind] at h
    obtain ⟨new, hfold, hadd, hnew⟩ := exists_foldl_extendUp_eq g mayUse paths [] seen
    rw [hfold, List.nil_append] at h
    refine Or.inr ⟨rfl, new, hadd, hnew, ?_⟩
    cases new with
    | nil => cases h
    | cons q new => exact h

/-- What the search finds leads down from the note that it searches for. -/
theorem isWay_of_searchUp : ∀ {rounds : Nat} {paths : List Path} {seen : List NoteId},
    (∀ q ∈ paths, g.IsWay mayUse n q) → g.searchUp mayUse top rounds paths seen = some path →
      path.head? = some top ∧ g.IsWay mayUse n path := by
  intro rounds
  induction rounds with
  | zero => exact fun _ h => absurd h (by simp [searchUp])
  | succ rounds ih =>
    intro paths seen hpaths h
    rcases searchUp_succ_eq_some h with ⟨hmem, hhead⟩ | ⟨-, new, -, hnew, h⟩
    · exact ⟨hhead, hpaths _ hmem⟩
    · refine ih (fun q hq => ?_) h
      obtain ⟨path, hpath, p, hp, rfl⟩ := hnew q hq
      exact (hpaths path hpath).cons hp

theorem find?_eq_none_iff_not_mem_heads (hpaths : ∀ q ∈ paths, q ≠ []) :
    paths.find? (·.head? = some top) = none ↔ top ∉ heads paths := by
  rw [List.find?_eq_none, heads, List.mem_map, not_exists]
  refine forall_congr' fun q => ?_
  rw [not_and]
  refine imp_congr_right fun hq => ?_
  obtain ⟨c, rest, rfl⟩ := List.exists_cons_of_ne_nil (hpaths q hq)
  simp

/-- The rounds of the search are those of the walk along usable parents: it finds a path if this
walk comes to the note that it searches for. -/
theorem isSome_searchUp_iff : ∀ {rounds : Nat} {paths : List Path} {seen : List NoteId},
    (∀ q ∈ paths, q ≠ []) → (top ∈ seen ↔ top ∈ heads paths) →
      ((g.searchUp mayUse top (rounds + 1) paths seen).isSome = true ↔
        top ∈ breadthFirst (g.usableParents mayUse) rounds (heads paths) seen) := by
  intro rounds
  induction rounds with
  | zero =>
    intro paths seen hpaths hseen
    rw [searchUp, breadthFirst, hseen]
    cases hfind : paths.find? (·.head? = some top) with
    | some found =>
      refine iff_of_true rfl (Decidable.not_not.1 fun htop => ?_)
      rw [(find?_eq_none_iff_not_mem_heads hpaths).2 htop] at hfind
      cases hfind
    | none =>
      refine iff_of_false ?_ ((find?_eq_none_iff_not_mem_heads hpaths).1 hfind)
      dsimp only
      split <;> simp [searchUp]
  | succ rounds ih =>
    intro paths seen hpaths hseen
    by_cases htop : top ∈ heads paths
    · refine iff_of_true ?_ (subset_breadthFirst _ _ _ _ (hseen.2 htop))
      cases hfind : paths.find? (·.head? = some top) with
      | some found =>
        rw [searchUp, hfind]
        rfl
      | none => exact absurd htop ((find?_eq_none_iff_not_mem_heads hpaths).1 hfind)
    · obtain ⟨new, hfold, hadd, hnew⟩ := exists_foldl_extendUp_eq g mayUse paths [] seen
      rw [searchUp, (find?_eq_none_iff_not_mem_heads hpaths).2 htop, hfold, List.nil_append,
        breadthFirst]
      simp only [hadd, List.drop_left]
      cases new with
      | nil => exact iff_of_false (by simp) (mt hseen.1 htop)
      | cons q new =>
        refine ih (fun q' hq' => ?_) ?_
        · obtain ⟨path, -, p, -, rfl⟩ := hnew q' hq'
          exact List.cons_ne_nil p path
        · rw [List.mem_append, hseen]
          exact or_iff_right htop

/-- Parents that may be used lead from the first note to the second. -/
def Climbs (g : Graph) (mayUse : NoteId → Bool) : NoteId → NoteId → Prop :=
  Relation.ReflTransGen fun c p => p ∈ g.usableParents mayUse c

/-- Every note may be used. -/
abbrev anyNote : NoteId → Bool := fun _ => true

theorem Climbs.mono (h : g.Climbs mayUse n m) : g.Climbs anyNote n m :=
  Relation.ReflTransGen.mono (fun _ _ hp => List.mem_filter.2 ⟨(List.mem_filter.1 hp).1, rfl⟩) _ _ h

theorem isSome_shortestUp_iff (hg : g.ParentsKnown) (hn : g.hasNote n = true) :
    (g.shortestUp mayUse n top).isSome = true ↔ g.Climbs mayUse n top := by
  have hplaces : ∀ a b, b ∈ g.usableParents mayUse a → b ∈ g.notes.keys := fun a b hb =>
    Table.contains_iff.1 (hg a b (List.mem_of_mem_filter hb))
  rw [shortestUp, isSome_searchUp_iff (by simp) (by simp [heads])]
  exact mem_breadthFirst_iff hplaces (length_keys g).le (Table.contains_iff.1 hn)

theorem isWay_of_shortestUp (h : g.shortestUp mayUse n top = some path) :
    path.head? = some top ∧ g.IsWay mayUse n path :=
  isWay_of_searchUp (by simpa using isWay_singleton g mayUse n) h

theorem pathUpTo_eq (g : Graph) (n top : NoteId) : g.pathUpTo n top =
    if g.hasNote n then
      (g.shortestUp (!g.archivesSubtree ·) n top).or (g.shortestUp anyNote n top)
    else none := by
  rw [pathUpTo]
  cases g.shortestUp (!g.archivesSubtree ·) n top <;> rfl

/-- **What the search finds is a path from the one note down to the other.** -/
theorem isWay_of_pathUpTo (h : g.pathUpTo n top = some path) :
    path.head? = some top ∧ g.IsWay anyNote n path := by
  rw [pathUpTo_eq] at h
  split_ifs at h
  rcases Option.or_eq_some_iff.1 h with hpath | ⟨-, hpath⟩
  · obtain ⟨hhead, hway⟩ := isWay_of_shortestUp hpath
    exact ⟨hhead, hway.mono fun _ _ => rfl⟩
  · exact isWay_of_shortestUp hpath

theorem isSome_pathUpTo_iff (hg : g.ParentsKnown) :
    (g.pathUpTo n top).isSome = true ↔ g.hasNote n = true ∧ g.Climbs anyNote n top := by
  rw [pathUpTo_eq]
  split_ifs with hn
  · rw [Option.isSome_or, Bool.or_eq_true, isSome_shortestUp_iff hg hn,
      isSome_shortestUp_iff hg hn, and_iff_right hn]
    exact or_iff_right_of_imp Climbs.mono
  · simp [hn]

/-! ## Paths and subtrees -/

/-- The walk down visits the notes from which parents lead to its first note. -/
theorem Linked.mem_subtree_iff (h : g.Linked) :
    m ∈ g.subtree n ↔ g.hasNote m = true ∧ g.Climbs anyNote m n := by
  have hstep : ∀ c p, p ∈ g.usableParents anyNote c ↔ StepsTo g.hasNote g.children p c := by
    intro c p
    rw [StepsTo, h.mirror, usableParents, List.filter_true]
    exact (and_iff_left_of_imp hasNote_of_mem_parents).symm
  have hclimbs : g.Climbs anyNote m n ↔
      Relation.ReflTransGen (StepsTo g.hasNote g.children) n m := by
    rw [← Relation.reflTransGen_swap, Climbs]
    simp only [hstep]
  rw [subtree, mem_walkDown_iff, hclimbs]
  refine and_congr_left fun hnm =>
    ⟨fun hn => hasNote_of_mem_walkDown (mem_walkDown_iff.2 ⟨hn, hnm⟩), fun hm => ?_⟩
  cases hnm.cases_head with
  | inl heq => rwa [heq]
  | inr hfirst =>
    obtain ⟨c, hc, -⟩ := hfirst
    exact hasNote_of_mem_children hc.1

/-- **A path leads to the notes of a subtree, and to no others.** -/
theorem Linked.isSome_pathUpTo_iff (h : g.Linked) :
    (g.pathUpTo n top).isSome = true ↔ n ∈ g.subtree top := by
  rw [Graph.isSome_pathUpTo_iff h.parentsKnown, h.mem_subtree_iff]

/-- **A result has a path if the note is found below the note asked for, and this one below the root
note.** -/
theorem Linked.isSome_somePath_iff (h : g.Linked) (hnote : g.hasNote hoisted = true) :
    (g.somePath n hoisted).isSome = true ↔
      n ∈ g.subtree hoisted ∧ hoisted ∈ g.subtree rootId := by
  rw [somePath]
  split_ifs with hroot
  · have heq : hoisted = rootId := by simpa [hnote] using hroot
    rw [h.isSome_pathUpTo_iff, heq]
    exact (and_iff_left (self_mem_walkDown (heq ▸ hnote))).symm
  · rw [← h.isSome_pathUpTo_iff, ← h.isSome_pathUpTo_iff]
    cases g.pathUpTo hoisted rootId with
    | none => simp
    | some above => cases g.pathUpTo n hoisted <;> simp

/-- **The path of a result leads from the root note down to it, through the note asked for.** -/
theorem isWay_of_somePath (hnote : g.hasNote hoisted = true)
    (h : g.somePath n hoisted = some path) :
    path.head? = some rootId ∧ hoisted ∈ path ∧ g.IsWay anyNote n path := by
  rw [somePath] at h
  split_ifs at h with hroot
  · obtain ⟨hhead, hway⟩ := isWay_of_pathUpTo h
    have heq : hoisted = rootId := by simpa [hnote] using hroot
    exact ⟨hhead, heq ▸ List.mem_of_head? hhead, hway⟩
  · obtain ⟨above, habove, h⟩ := Option.bind_eq_some_iff.1 h
    obtain ⟨below, hbelow, h⟩ := Option.bind_eq_some_iff.1 h
    obtain rfl := Option.some.inj h
    obtain ⟨hhead, hway⟩ := isWay_of_pathUpTo habove
    obtain ⟨htop, hrest⟩ := isWay_of_pathUpTo hbelow
    refine ⟨?_, List.mem_append_left _ (List.mem_of_getLast? hway.last), hway.append hrest htop⟩
    rw [List.head?_append, hhead]
    rfl

/-! ## What paths depend on -/

section Agrees

variable {g' : Graph}

/-- The search reads nothing of the graph but the parents. -/
theorem searchUp_congr (h : ∀ n, g'.parents n = g.parents n) : ∀ (rounds : Nat)
    (paths : List Path) (seen : List NoteId),
      g'.searchUp mayUse top rounds paths seen = g.searchUp mayUse top rounds paths seen
  | 0, _, _ => rfl
  | rounds + 1, paths, seen => by
    have hextend : g'.extendUp mayUse = g.extendUp mayUse := by
      funext found path
      rw [extendUp, extendUp, h]
    simp only [searchUp, hextend, searchUp_congr h rounds]

theorem pathUpTo_of_agrees (h : g.Agrees g' Set.univ) (n top : NoteId) :
    g'.pathUpTo n top = g.pathUpTo n top := by
  have hparents : ∀ m, g'.parents m = g.parents m := fun m => h.parents m (Set.mem_univ m)
  have hnotes : ∀ m, g'.hasNote m = g.hasNote m := fun m => h.hasNote m (Set.mem_univ m)
  have harchives : ∀ m, g'.archivesSubtree m = g.archivesSubtree m := fun m =>
    archivesSubtree_congr (h.owned m (Set.mem_univ m)) (h.stored m (Set.mem_univ m))
  simp only [pathUpTo, shortestUp, hnotes, noteCount_congr hnotes, harchives,
    searchUp_congr hparents]

/-- **Graphs with the same notes, parents and attributes show a note under the same path.** -/
theorem somePath_of_agrees (h : g.Agrees g' Set.univ) (n hoisted : NoteId) :
    g'.somePath n hoisted = g.somePath n hoisted := by
  simp only [somePath, h.hasNote hoisted (Set.mem_univ hoisted), pathUpTo_of_agrees h]

end Agrees

end Zettel.Graph
