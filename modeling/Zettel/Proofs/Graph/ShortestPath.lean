import Zettel.Proofs.Graph.Path
import Zettel.Proofs.Vault.Reachable

/-!
# Shortest paths

The search upwards goes through the notes by their distance from the note that it starts from: a
round holds one path for each note that it is the first to come to, and all its paths are equally
long. So the path that is found is as short as any, and no note is on it twice. The first of the two
searches for a path may only use parents that do not archive what is below them. It finds a path
exactly if there is one on which no note other than the last one archives its subtree.

Main statements: `isShortest_of_shortestUp`, a search finds a shortest path, and
`Reachable.pathUpTo_spec`, what is found in a reachable vault and when nothing is.
-/

namespace Zettel

namespace Graph

variable {g : Graph} {mayUse : NoteId → Bool} {n m p top : NoteId} {path w : Path}
  {paths new : List Path} {seen : List NoteId} {length rounds : Nat}

/-! ## Chains of edges -/

/-- The path leads from `top` down to `n`, at each step from a note to one of its children. -/
structure LeadsDown (g : Graph) (top n : NoteId) (path : Path) : Prop where
  first : path.head? = some top
  last : path.getLast? = some n
  steps : path.IsChain fun p c => c ∈ g.children p

/-- No note on the path other than `n` has an archived label that its subtree takes over. -/
def AvoidsArchived (g : Graph) (n : NoteId) (path : Path) : Prop :=
  ∀ m ∈ path, m ≠ n → g.archivesSubtree m = false

/-- The path has the property, and no path that has it is shorter. -/
def IsShortest (P : Path → Prop) (path : Path) : Prop :=
  P path ∧ ∀ w, P w → path.length ≤ w.length

theorem Linked.leadsDown_iff (h : g.Linked) :
    g.LeadsDown top n path ↔ path.head? = some top ∧ g.IsWay anyNote n path := by
  have hstep : ∀ p c, c ∈ g.children p ↔ p ∈ g.usableParents anyNote c := by
    intro p c
    rw [h.mirror, usableParents, List.filter_true]
  constructor
  · rintro ⟨hfirst, hlast, hsteps⟩
    exact ⟨hfirst, hlast, hsteps.imp fun p c => (hstep p c).1⟩
  · rintro ⟨hfirst, hlast, hchain⟩
    exact ⟨hfirst, hlast, hchain.imp fun p c => (hstep p c).2⟩

/-- A way goes on from the parent that it came to. -/
theorem IsWay.of_cons {rest : Path} (h : g.IsWay mayUse n (p :: m :: rest)) :
    p ∈ g.usableParents mayUse m ∧ g.IsWay mayUse n (m :: rest) := by
  obtain ⟨hstep, hrest⟩ := List.isChain_cons_cons.1 h.chain
  exact ⟨hstep, List.getLast?_cons_cons ▸ h.last, hrest⟩

/-- A way of one note goes nowhere. -/
theorem IsWay.eq_singleton (h : g.IsWay mayUse n [m]) : m = n := by
  simpa using h.last

/-- All notes of a path may be used, except for the one that it leads to. -/
theorem IsWay.mayUse_of_mem (h : g.IsWay mayUse n path) (hm : m ∈ path) (hne : m ≠ n) :
    mayUse m = true := by
  induction path with
  | nil => cases hm
  | cons p path ih =>
    cases path with
    | nil => exact absurd ((List.mem_singleton.1 hm).trans h.eq_singleton) hne
    | cons c rest =>
      obtain ⟨hstep, hrest⟩ := h.of_cons
      rcases List.mem_cons.1 hm with rfl | hm
      · exact (List.mem_filter.1 hstep).2
      · exact ih hrest hm

/-- A path may come to its last note before it ends, and this note need not be one that may be used.
Cut off where it first comes there, it only takes steps that may be used. -/
theorem IsWay.exists_usable (h : g.IsWay anyNote n path)
    (huse : ∀ m ∈ path, m ≠ n → mayUse m = true) :
    ∃ w, w.head? = path.head? ∧ g.IsWay mayUse n w ∧ w.length ≤ path.length := by
  induction path with
  | nil => exact absurd rfl h.ne_nil
  | cons p path ih =>
    by_cases hp : p = n
    · refine ⟨[p], rfl, hp ▸ isWay_singleton g mayUse n, ?_⟩
      rw [List.length_singleton, List.length_cons]
      exact Nat.le_add_left 1 _
    · cases path with
      | nil => exact absurd h.eq_singleton hp
      | cons c rest =>
        obtain ⟨hstep, hrest⟩ := h.of_cons
        obtain ⟨w, hhead, hway, hlen⟩ := ih hrest fun m hm => huse m (List.mem_cons_of_mem _ hm)
        obtain ⟨tail, rfl⟩ := List.head?_eq_some_iff.1 hhead
        have husable : p ∈ g.usableParents mayUse c :=
          List.mem_filter.2 ⟨(List.mem_filter.1 hstep).1, huse p List.mem_cons_self hp⟩
        exact ⟨p :: c :: tail, rfl, hway.cons husable, Nat.succ_le_succ hlen⟩

/-! ## The rounds of a search -/

/-- What holds before a round of the search for `top`. -/
structure Round (g : Graph) (mayUse : NoteId → Bool) (n top : NoteId) (length : Nat)
    (paths : List Path) (seen : List NoteId) : Prop where
  /-- The paths are equally long. -/
  lengths : ∀ q ∈ paths, q.length = length
  /-- No note is on a path twice. -/
  distinct : ∀ q ∈ paths, q.Nodup
  /-- The notes of the paths have been seen. -/
  passed : ∀ q ∈ paths, q ⊆ seen
  /-- No note has been seen twice. -/
  once : seen.Nodup
  started : n ∈ seen
  /-- The search has gone on from all notes that were seen before the last round. -/
  closed : ∀ m ∈ seen, m ∈ heads paths ∨ g.usableParents mayUse m ⊆ seen
  /-- The first notes of all paths that are no longer have been seen. -/
  covers : ∀ w, g.IsWay mayUse n w → w.length ≤ length → w.headD "" ∈ seen
  /-- No shorter path starts at `top`. -/
  shortest : ∀ w, g.IsWay mayUse n w → w.head? = some top → length ≤ w.length
  /-- The search has not come to `top` before. -/
  fresh : top ∈ seen → top ∈ heads paths

theorem Round.start : g.Round mayUse n top 1 [[n]] [n] where
  lengths := by simp
  distinct := by simp
  passed := by simp
  once := List.nodup_singleton n
  started := List.mem_singleton_self n
  closed := fun m hm => Or.inl hm
  covers := by
    intro w hw hlen
    obtain ⟨m, rest, rfl⟩ := List.exists_cons_of_ne_nil hw.ne_nil
    obtain rfl : rest = [] := by simpa using hlen
    simp [hw.eq_singleton]
  shortest := fun w hw _ => List.length_pos_iff.2 hw.ne_nil
  fresh := fun h => h

/-- Where a search that has not come to `top` yet goes on from its paths, the next round starts. -/
theorem Round.next (h : g.Round mayUse n top length paths seen) (htop : top ∉ heads paths)
    (hadd : addNew seen ((heads paths).flatMap (g.usableParents mayUse)) = seen ++ heads new)
    (hnew : ∀ q ∈ new, ∃ path ∈ paths, ∃ p ∈ g.usableParents mayUse (path.headD ""),
      q = p :: path) :
    g.Round mayUse n top (length + 1) new (seen ++ heads new) := by
  have honce : (seen ++ heads new).Nodup := hadd ▸ nodup_addNew h.once _
  have hsteps : ∀ m ∈ seen, g.usableParents mayUse m ⊆ seen ++ heads new := by
    intro m hm p hp
    rw [← hadd, mem_addNew]
    rcases h.closed m hm with hhead | hclosed
    · exact Or.inr (List.mem_flatMap.2 ⟨m, hhead, hp⟩)
    · exact Or.inl (hclosed hp)
  refine
    { lengths := ?_, distinct := ?_, passed := ?_, once := honce,
      started := List.mem_append_left _ h.started, closed := ?_, covers := ?_, shortest := ?_,
      fresh := ?_ }
  · intro q hq
    obtain ⟨path, hpath, p, -, rfl⟩ := hnew q hq
    rw [List.length_cons, h.lengths path hpath]
  · intro q hq
    obtain ⟨path, hpath, p, -, rfl⟩ := hnew q hq
    refine List.nodup_cons.2 ⟨fun hp => ?_, h.distinct path hpath⟩
    have hhead : p ∈ heads new := List.mem_map.2 ⟨p :: path, hq, rfl⟩
    exact (List.nodup_append.1 honce).2.2 p (h.passed path hpath hp) p hhead rfl
  · intro q hq
    obtain ⟨path, hpath, p, -, rfl⟩ := hnew q hq
    refine List.cons_subset.2 ⟨List.mem_append_right _ (List.mem_map.2 ⟨p :: path, hq, rfl⟩), ?_⟩
    exact fun m hm => List.mem_append_left _ (h.passed path hpath hm)
  · intro m hm
    rcases List.mem_append.1 hm with hm | hm
    · exact Or.inr (hsteps m hm)
    · exact Or.inl hm
  · intro w hw hlen
    obtain ⟨p, rest, rfl⟩ := List.exists_cons_of_ne_nil hw.ne_nil
    cases rest with
    | nil => exact List.mem_append_left _ (hw.eq_singleton ▸ h.started)
    | cons c rest =>
      obtain ⟨hstep, hrest⟩ := hw.of_cons
      exact hsteps c (h.covers _ hrest (Nat.le_of_succ_le_succ hlen)) hstep
  · intro w hw hhead
    refine Nat.lt_of_not_le fun hlen => htop (h.fresh ?_)
    obtain ⟨rest, rfl⟩ := List.head?_eq_some_iff.1 hhead
    exact h.covers _ hw hlen
  · intro hm
    rcases List.mem_append.1 hm with hm | hm
    · exact absurd (h.fresh hm) htop
    · exact hm

/-- If no path of a round begins at the top, the top has not been reached. -/
theorem Round.heads_of_find?_eq_none (h : g.Round mayUse n top length paths seen)
    (hlength : length ≠ 0) (hfind : paths.find? (·.head? = some top) = none) :
    top ∉ heads paths := by
  refine (find?_eq_none_iff_not_mem_heads fun q hq hnil => hlength ?_).1 hfind
  rw [← h.lengths q hq, hnil, List.length_nil]

/-- What a search finds from some round on is a shortest path, without repeats. -/
theorem Round.searchUp (h : g.Round mayUse n top length paths seen) (hlength : length ≠ 0)
    (hpath : g.searchUp mayUse top rounds paths seen = some path) :
    path.Nodup ∧ ∀ w, g.IsWay mayUse n w → w.head? = some top → path.length ≤ w.length := by
  induction rounds generalizing length paths seen with
  | zero => exact absurd hpath (by simp [Graph.searchUp])
  | succ rounds ih =>
    rcases searchUp_succ_eq_some hpath with ⟨hmem, -⟩ | ⟨hfind, new, hadd, hnew, hrest⟩
    · refine ⟨h.distinct path hmem, fun w hw hhead => ?_⟩
      rw [h.lengths path hmem]
      exact h.shortest w hw hhead
    · have hnext := h.next (h.heads_of_find?_eq_none hlength hfind) hadd hnew
      exact ih hnext length.succ_ne_zero hrest

/-- **A search finds a shortest path**, and no note is on it twice. -/
theorem isShortest_of_shortestUp (h : g.shortestUp mayUse n top = some path) :
    path.Nodup ∧ IsShortest (fun w => w.head? = some top ∧ g.IsWay mayUse n w) path := by
  obtain ⟨hnodup, hshortest⟩ := Round.start.searchUp Nat.one_ne_zero h
  exact ⟨hnodup, isWay_of_shortestUp h, fun w hw => hshortest w hw.2 hw.1⟩

/-! ## Around archived notes -/

/-- A path leads from every note that its edges come through. -/
theorem IsWay.climbs (h : g.IsWay mayUse n path) (hfirst : path.head? = some top) :
    g.Climbs mayUse n top := by
  induction path generalizing top with
  | nil => exact absurd rfl h.ne_nil
  | cons p path ih =>
    obtain rfl : p = top := by simpa using hfirst
    cases path with
    | nil => exact h.eq_singleton ▸ .refl
    | cons c rest =>
      obtain ⟨hstep, hrest⟩ := h.of_cons
      exact (ih hrest rfl).tail hstep

/-- To climb through any notes is to follow parents. -/
theorem climbs_anyNote_iff :
    g.Climbs anyNote n top ↔ Relation.ReflTransGen (fun c p => p ∈ g.parents c) n top := by
  simp only [Climbs, usableParents, List.filter_true]

/-- There is no path exactly where parents do not lead up. -/
theorem pathUpTo_eq_none_iff (hg : g.ParentsKnown) (hn : g.hasNote n = true) :
    g.pathUpTo n top = none ↔ ¬ Relation.ReflTransGen (fun c p => p ∈ g.parents c) n top := by
  rw [← climbs_anyNote_iff, ← Option.not_isSome_iff_eq_none, isSome_pathUpTo_iff hg,
    and_iff_right hn]

/-- The parents that the first search may use: those that do not archive their subtrees. -/
abbrev isUnarchived (g : Graph) (n : NoteId) : Bool := !g.archivesSubtree n

/-- A way past unarchived notes is a path that avoids archived ones. -/
theorem Linked.avoids_of_isWay (hg : g.Linked) (hfirst : path.head? = some top)
    (hway : g.IsWay g.isUnarchived n path) : g.LeadsDown top n path ∧ g.AvoidsArchived n path := by
  refine ⟨hg.leadsDown_iff.2 ⟨hfirst, hway.mono fun _ _ => rfl⟩, fun m hm hne => ?_⟩
  simpa using hway.mayUse_of_mem hm hne

/-- A path that avoids archived notes makes a way that is no longer. -/
theorem Linked.exists_isWay_of_avoids (hg : g.Linked) (hw : g.LeadsDown top n w)
    (havoids : g.AvoidsArchived n w) :
    ∃ w', w'.head? = some top ∧ g.IsWay g.isUnarchived n w' ∧ w'.length ≤ w.length := by
  obtain ⟨hfirst, hway⟩ := hg.leadsDown_iff.1 hw
  have huse : ∀ m ∈ w, m ≠ n → g.isUnarchived m = true := fun m hm hne => by
    rw [isUnarchived, havoids m hm hne, Bool.not_false]
  exact hfirst ▸ hway.exists_usable huse

/-- The first search finds a path exactly if there is one that avoids archived notes. -/
theorem Linked.isSome_shortestUp_iff (hg : g.Linked) (hn : g.hasNote n = true) :
    (g.shortestUp g.isUnarchived n top).isSome = true ↔
      ∃ w, g.LeadsDown top n w ∧ g.AvoidsArchived n w := by
  constructor
  · intro h
    obtain ⟨path, hpath⟩ := Option.isSome_iff_exists.1 h
    obtain ⟨hfirst, hway⟩ := isWay_of_shortestUp hpath
    exact ⟨path, hg.avoids_of_isWay hfirst hway⟩
  · rintro ⟨w, hw, havoids⟩
    obtain ⟨w', hfirst, hway, -⟩ := hg.exists_isWay_of_avoids hw havoids
    exact (Graph.isSome_shortestUp_iff hg.parentsKnown hn).2 (hway.climbs hfirst)

/-- **The path that is found is a shortest one around archived notes**, and a shortest one of all
where every path meets such a note. -/
theorem Linked.isShortest_of_pathUpTo (hg : g.Linked) (h : g.pathUpTo n top = some path) :
    path.Nodup ∧ g.LeadsDown top n path ∧
      ((∃ w, g.LeadsDown top n w ∧ g.AvoidsArchived n w) →
        IsShortest (fun w => g.LeadsDown top n w ∧ g.AvoidsArchived n w) path) ∧
      ((¬ ∃ w, g.LeadsDown top n w ∧ g.AvoidsArchived n w) →
        IsShortest (g.LeadsDown top n) path) := by
  rw [pathUpTo_eq] at h
  split_ifs at h with hn
  rcases Option.or_eq_some_iff.1 h with hpath | ⟨hnone, hpath⟩
  · obtain ⟨hnodup, ⟨hfirst, hway⟩, hshortest⟩ := isShortest_of_shortestUp hpath
    have hpath' := hg.avoids_of_isWay hfirst hway
    refine ⟨hnodup, hpath'.1, fun _ => ⟨hpath', fun w ⟨hw, havoids⟩ => ?_⟩, fun hno => ?_⟩
    · obtain ⟨w', hfirst', hway', hlen⟩ := hg.exists_isWay_of_avoids hw havoids
      exact (hshortest w' ⟨hfirst', hway'⟩).trans hlen
    · exact absurd ⟨path, hpath'⟩ hno
  · obtain ⟨hnodup, hway, hshortest⟩ := isShortest_of_shortestUp hpath
    have hno : ¬ ∃ w, g.LeadsDown top n w ∧ g.AvoidsArchived n w := by
      rw [← hg.isSome_shortestUp_iff hn, hnone]
      exact Bool.false_ne_true
    refine ⟨hnodup, hg.leadsDown_iff.2 hway, fun hsome => absurd hsome hno, fun _ => ?_⟩
    exact ⟨hg.leadsDown_iff.2 hway, fun w hw => hshortest w (hg.leadsDown_iff.1 hw)⟩

/-! ## Paths through a note -/

variable {hoisted : NoteId}

theorem somePath_eq_none_iff (hnote : g.hasNote hoisted = true) (hroot : hoisted ≠ rootId) :
    g.somePath n hoisted = none ↔
      g.pathUpTo hoisted rootId = none ∨ g.pathUpTo n hoisted = none := by
  rw [somePath, if_neg (by simp [hnote, hroot])]
  cases g.pathUpTo hoisted rootId with
  | none => simp
  | some above => cases g.pathUpTo n hoisted <;> simp

/-- The path through a note is the path to it, continued by the one from there. -/
theorem exists_somePath_eq (hnote : g.hasNote hoisted = true) (hroot : hoisted ≠ rootId)
    {above below : Path} (habove : g.pathUpTo hoisted rootId = some above)
    (hbelow : g.pathUpTo n hoisted = some below) :
    ∃ rest, below = hoisted :: rest ∧ g.somePath n hoisted = some (above ++ rest) := by
  obtain ⟨rest, rfl⟩ := List.head?_eq_some_iff.1 (isWay_of_pathUpTo hbelow).1
  refine ⟨rest, rfl, ?_⟩
  rw [somePath, if_neg (by simp [hnote, hroot]), habove, hbelow]
  rfl

end Graph

namespace Vault

open Zettel.Graph

variable {v : Vault} {n : NoteId}

/-- **The path to a note is a best one.** There is none exactly if no edges lead up; it has no
repeats and leads down along edges; it is a shortest one around archived notes where there is any,
and a shortest one of all otherwise. The path through a note joins two such paths. -/
theorem Reachable.pathUpTo_spec (hv : v.Reachable) (hn : v.graph.hasNote n = true) :
    (∀ top, v.graph.pathUpTo n top = none ↔
      ¬ Relation.ReflTransGen (fun c p => p ∈ v.graph.parents c) n top) ∧
    (∀ top path, v.graph.pathUpTo n top = some path →
      path.Nodup ∧ v.graph.LeadsDown top n path ∧
      ((∃ w, v.graph.LeadsDown top n w ∧ v.graph.AvoidsArchived n w) →
        IsShortest (fun w => v.graph.LeadsDown top n w ∧ v.graph.AvoidsArchived n w) path) ∧
      ((¬ ∃ w, v.graph.LeadsDown top n w ∧ v.graph.AvoidsArchived n w) →
        IsShortest (v.graph.LeadsDown top n) path)) ∧
    (∀ hoisted, v.graph.hasNote hoisted = true → hoisted ≠ rootId →
      (v.graph.somePath n hoisted = none ↔
        v.graph.pathUpTo hoisted rootId = none ∨ v.graph.pathUpTo n hoisted = none) ∧
      ∀ above below, v.graph.pathUpTo hoisted rootId = some above →
        v.graph.pathUpTo n hoisted = some below →
        ∃ rest, below = hoisted :: rest ∧ v.graph.somePath n hoisted = some (above ++ rest)) := by
  have hg := hv.consistent.toLinked
  refine ⟨fun top => pathUpTo_eq_none_iff hg.parentsKnown hn,
    fun top path => hg.isShortest_of_pathUpTo, fun hoisted hnote hroot => ?_⟩
  exact ⟨somePath_eq_none_iff hnote hroot, fun above below => exists_somePath_eq hnote hroot⟩

/-- The short way to the note `n` comes through an archived note, the long one does not. -/
def detourVault : Vault := .ofSnapshot
  { notes := [{ id := "root", title := "root" }, { id := "old", title := "old" },
      { id := "a", title := "a" }, { id := "b", title := "b" }, { id := "n", title := "n" }]
    branches := [{ id := "ro", child := "old", parent := "root" },
      { id := "on", child := "n", parent := "old" }, { id := "ra", child := "a", parent := "root" },
      { id := "ab", child := "b", parent := "a" }, { id := "ba", child := "a", parent := "b" },
      { id := "bn", child := "n", parent := "b" }]
    attributes := [{ id := "l", owner := "old", kind := .label, name := "archived"
                     isInheritable := true }] }

theorem pathUpTo_spec_detourVault :
    detourVault.graph.pathUpTo "n" rootId = some ["root", "a", "b", "n"] ∧
    (∃ w, detourVault.graph.LeadsDown rootId "n" w ∧ w.length < 4) ∧
    IsShortest (fun w => detourVault.graph.LeadsDown rootId "n" w ∧
      detourVault.graph.AvoidsArchived "n" w) ["root", "a", "b", "n"] ∧
    detourVault.graph.somePath "n" "old" = some ["root", "old", "n"] := by
  have hv : detourVault.Reachable := .ofSnapshot ⟨by decide, by decide, by decide⟩
  have hpath : detourVault.graph.pathUpTo "n" rootId = some ["root", "a", "b", "n"] := by
    decide +kernel
  obtain ⟨-, hfound, hthrough⟩ := hv.pathUpTo_spec (n := "n") (by decide +kernel)
  obtain ⟨-, hdown, haround, -⟩ := hfound rootId _ hpath
  obtain ⟨rest, hbelow, hjoined⟩ := (hthrough "old" (by decide +kernel) (by decide)).2
    ["root", "old"] ["old", "n"] (by decide +kernel) (by decide +kernel)
  obtain rfl : rest = ["n"] := (List.cons.inj hbelow).2.symm
  refine ⟨hpath, ⟨["root", "old", "n"], ⟨rfl, rfl, ?_⟩, by decide⟩, ?_, hjoined⟩
  · decide +kernel
  · refine haround ⟨_, hdown, ?_⟩
    unfold AvoidsArchived
    decide +kernel

end Vault

end Zettel
