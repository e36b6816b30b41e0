import Zettel.Proofs.Vault.Departure
import Zettel.Proofs.Vault.Reachable

/-!
# Updates that affect subtrees

Most updates forget everything that is reached from the changed note, so that a fresh vault stays
fresh. Only a change between attributes that are neither inheritable nor template relations forgets
less.

Main statement: `Reachable.fresh_apply`.
-/

namespace Zettel

/-- The update is not one of an attribute that has a bearing on its owner alone, before or after. -/
def Update.affectsSubtrees (v : Vault) : Update → Bool
  | .upsertAttribute row => (v.graph.attributes.get? row.id).all Attribute.affectsSubtree &&
      (Attribute.ofRow row).affectsSubtree
  | .deleteAttribute id => (v.graph.attributes.get? id).all Attribute.affectsSubtree
  | _ => true

namespace Vault

variable {v : Vault} {u : Update}

/-- **An update leaves a fresh vault fresh, if it affects subtrees.** -/
theorem Reachable.fresh_apply (hv : v.Reachable) (h : v.Fresh) (hu : u.affectsSubtrees v = true) :
    (v.apply u).Fresh := by
  have hconsistent := hv.consistent
  cases u with
  | upsertNote row => exact h.upsertNote hconsistent row
  | deleteNote n => exact h.deleteNote hconsistent n
  | upsertBranch row => exact h.upsertBranch hconsistent row
  | deleteBranch id => exact h.deleteBranch hconsistent id
  | upsertAttribute row =>
    rw [Update.affectsSubtrees, Bool.and_eq_true, Option.all_eq_true] at hu
    exact h.upsertAttribute hconsistent hu.1 hu.2
  | deleteAttribute id =>
    rw [Update.affectsSubtrees, Option.all_eq_true] at hu
    exact h.deleteAttribute hconsistent hu

/-! ## Reading -/

theorem fresh_of_remembers (h : v.graph.Remembers v.memo) : v.Fresh :=
  fresh_iff.2 fun n _ => h.fits n

theorem remembers_of_nothing (h : v.memo.keys = []) : v.graph.Remembers v.memo := by
  have hof : ∀ n, v.memo.of n = {} := fun n => by
    have hn : ¬v.memo.contains n = true := by
      rw [Table.contains_iff, h]
      simp
    rw [Memo.of, Option.not_isSome_iff_eq_none.1 hn]
    rfl
  constructor
  · intro n
    rw [hof]
    exact .nothing _ n
  · intro n a ha
    rw [hof] at ha
    exact absurd ha (by simp)

/-- Reading with a right memory leaves a right memory. -/
theorem remembers_ask (h : v.graph.Remembers v.memo) (q : ViewQuery) :
    (v.ask q).graph.Remembers (v.ask q).memo := by
  obtain ⟨a, ha⟩ := q.gives_answer (g := v.graph)
  exact (ha v.memo h).2

/-- A vault with cycles of which everything has been read. -/
def readVault : Vault :=
  (((ofSnapshot mutualSnapshot).ask (.flatText "a")).ask (.flatText "b")).ask (.ancestors "b")

theorem fresh_apply_readVault : readVault.Reachable ∧ readVault.Fresh ∧
    (readVault.memo.of "b").ancestors = some ["a"] ∧
    (readVault.apply (.upsertAttribute
      (AttributeRow.label "n" "b" "new" "").inheritable)).Fresh := by
  have hdistinct : mutualSnapshot.HasDistinctIds := by constructor <;> decide
  have hreachable : readVault.Reachable := ((Reachable.ofSnapshot hdistinct).ask _).ask _ |>.ask _
  have hfresh : readVault.Fresh := by
    refine fresh_of_remembers (remembers_ask (remembers_ask (remembers_ask ?_ _) _) _)
    exact .empty _
  exact ⟨hreachable, hfresh, by decide +kernel, hreachable.fresh_apply hfresh (by decide +kernel)⟩

end Vault

end Zettel
