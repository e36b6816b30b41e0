import Zettel.Proofs.Graph.Edges

/-!
# What attributes do to the edges

Putting an attribute on its owner and taking it off changes what the owner owns, what points at the
target, and the tables; nothing else of any note is touched.
-/

namespace Zettel.Graph

variable {g : Graph} {a : Attribute} {f : Edges → Edges} {m : NoteId}

/-! ## Tables and targets -/

/-- Puts other tables of attributes into the graph. -/
def setAttributes (g : Graph) (attributes : Table AttributeId Attribute)
    (index : Table (AttributeKind × String) (List AttributeId)) : Graph :=
  { g with attributes := attributes, index := index }

section SetAttributes

variable {attributes : Table AttributeId Attribute}
  {index : Table (AttributeKind × String) (List AttributeId)}

@[simp]
theorem edges_setAttributes : (g.setAttributes attributes index).edges m = g.edges m := rfl

@[simp]
theorem hasNote_setAttributes : (g.setAttributes attributes index).hasNote m = g.hasNote m := rfl

@[simp]
theorem bare?_setAttributes : (g.setAttributes attributes index).bare? m = g.bare? m := rfl

@[simp]
theorem branches_setAttributes : (g.setAttributes attributes index).branches = g.branches := rfl

@[simp]
theorem placements_setAttributes :
    (g.setAttributes attributes index).placements = g.placements := rfl

@[simp]
theorem attributes_setAttributes : (g.setAttributes attributes index).attributes = attributes := rfl

end SetAttributes

/-- Changes the edges of the note that an attribute points at. -/
def modifyTarget (g : Graph) (a : Attribute) (f : Edges → Edges) : Graph :=
  match a.target? with
  | some target => g.modifyEdges target f
  | none => g

@[simp]
theorem hasNote_modifyTarget : (g.modifyTarget a f).hasNote m = g.hasNote m := by
  rw [modifyTarget]
  split <;> simp

@[simp]
theorem bare?_modifyTarget : (g.modifyTarget a f).bare? m = g.bare? m := by
  rw [modifyTarget]
  split <;> simp

@[simp]
theorem attributes_modifyTarget : (g.modifyTarget a f).attributes = g.attributes := by
  rw [modifyTarget]
  split <;> rfl

@[simp]
theorem branches_modifyTarget : (g.modifyTarget a f).branches = g.branches := by
  rw [modifyTarget]
  split <;> rfl

@[simp]
theorem placements_modifyTarget : (g.modifyTarget a f).placements = g.placements := by
  rw [modifyTarget]
  split <;> rfl

theorem edges_modifyTarget : (g.modifyTarget a f).edges m =
    if a.target? = some m ∧ g.hasNote m = true then f (g.edges m) else g.edges m := by
  rw [modifyTarget]
  split
  · next target ht =>
    rw [edges_modifyEdges]
    simp only [ht, Option.some.injEq]
    by_cases hm : m = target
    · simp [hm]
    · simp [hm, Ne.symm hm]
  · next ht => simp [ht]

/-! ## Attaching -/

/-- The index with one attribute more. -/
def indexWith (g : Graph) (a : Attribute) : Table (AttributeKind × String) (List AttributeId) :=
  g.index.insert (a.kind, a.name) ((g.index.get? (a.kind, a.name)).getD [] ++ [a.id])

/-- Puts an attribute on its owner. -/
def attach (g : Graph) (a : Attribute) : Graph :=
  ((g.setAttributes (g.attributes.insert a.id a) (g.indexWith a)).modifyEdges a.owner
    fun e => { e with owned := e.owned ++ [a.id] }).modifyTarget a
    fun e => { e with incoming := e.incoming ++ [a.id] }

/-- An attribute is added only if its owner exists. -/
theorem addAttribute?_eq (g : Graph) (a : Attribute) :
    g.addAttribute? a = if g.hasNote a.owner then some (g.attach a) else none := by
  rw [addAttribute?, attach, modifyTarget]
  split_ifs
  · cases a.target? <;> rfl
  · rfl

@[simp]
theorem hasNote_attach : (g.attach a).hasNote m = g.hasNote m := by
  simp [attach]

@[simp]
theorem bare?_attach : (g.attach a).bare? m = g.bare? m := by
  simp [attach]

@[simp]
theorem branches_attach : (g.attach a).branches = g.branches := by
  simp [attach]

@[simp]
theorem placements_attach : (g.attach a).placements = g.placements := by
  simp [attach]

@[simp]
theorem attributes_attach : (g.attach a).attributes = g.attributes.insert a.id a := by
  simp [attach]

/-- Attaching an attribute leaves alone what does not read attributes. -/
theorem edges_attach_of {β : Type} (view : Edges → β)
    (h : ∀ e owned incoming, view { e with owned := owned, incoming := incoming } = view e)
    (m : NoteId) : view ((g.attach a).edges m) = view (g.edges m) := by
  rw [attach, edges_modifyTarget]
  have hinner : view (((g.setAttributes (g.attributes.insert a.id a)
      (g.indexWith a)).modifyEdges a.owner
        fun e => { e with owned := e.owned ++ [a.id] }).edges m) = view (g.edges m) :=
    edges_modifyEdges_of view (fun e => h e _ e.incoming) _ m
  split_ifs
  · rw [← hinner]
    exact h _ _ _
  · exact hinner

@[simp]
theorem parents_attach : (g.attach a).parents m = g.parents m :=
  edges_attach_of Edges.parents (fun _ _ _ => rfl) m

@[simp]
theorem children_attach : (g.attach a).children m = g.children m :=
  edges_attach_of Edges.children (fun _ _ _ => rfl) m

@[simp]
theorem parentBranches_attach : (g.attach a).parentBranches m = g.parentBranches m :=
  edges_attach_of Edges.parentBranches (fun _ _ _ => rfl) m

/-- The owner has the attribute as the last one. -/
theorem owned_attach (h : g.hasNote a.owner = true) : (g.attach a).owned m =
    if m = a.owner then g.owned m ++ [a.id] else g.owned m := by
  simp only [attach, owned, edges_modifyTarget, edges_modifyEdges]
  split_ifs <;> simp_all

/-- A note that a relation points at notes it as the last one. -/
theorem incoming_attach : (g.attach a).incoming m =
    if a.target? = some m ∧ g.hasNote m = true then g.incoming m ++ [a.id] else g.incoming m := by
  simp only [attach, incoming, edges_modifyTarget, edges_modifyEdges]
  split_ifs <;> simp_all

/-! ## Listing -/

/-- The attributes that are listed for a kind and a name. -/
def listed (g : Graph) (key : AttributeKind × String) : List AttributeId :=
  (g.index.get? key).getD []

theorem listed_attach {key : AttributeKind × String} : (g.attach a).listed key =
    if key = (a.kind, a.name) then g.listed key ++ [a.id] else g.listed key := by
  have hindex : (g.attach a).index = g.indexWith a := by
    rw [attach, modifyTarget]
    split <;> rfl
  rw [listed, hindex, indexWith, Table.get?_insert]
  split_ifs with hkey
  · rw [hkey]
    rfl
  · rfl

/-! ## Removing -/

/-- The index without an attribute. -/
def indexWithout (g : Graph) (a : Attribute) : Table (AttributeKind × String) (List AttributeId) :=
  let rest := ((g.index.get? (a.kind, a.name)).getD []).filter (· ≠ a.id)
  if rest.isEmpty then g.index.erase (a.kind, a.name) else g.index.insert (a.kind, a.name) rest

/-- An attribute is taken out of the table, of the index, and of the notes at both ends. -/
theorem removeAttribute_eq (g : Graph) (a : Attribute) : g.removeAttribute a =
    ((g.setAttributes (g.attributes.erase a.id) (g.indexWithout a)).modifyEdges a.owner
      fun e => { e with owned := e.owned.filter (· ≠ a.id) }).modifyTarget a
      fun e => { e with incoming := e.incoming.filter (· ≠ a.id) } := by
  rw [removeAttribute, modifyTarget]
  cases a.target? <;> rfl

@[simp]
theorem hasNote_removeAttribute : (g.removeAttribute a).hasNote m = g.hasNote m := by
  simp [removeAttribute_eq]

@[simp]
theorem bare?_removeAttribute : (g.removeAttribute a).bare? m = g.bare? m := by
  simp [removeAttribute_eq]

@[simp]
theorem branches_removeAttribute : (g.removeAttribute a).branches = g.branches := by
  simp [removeAttribute_eq]

@[simp]
theorem placements_removeAttribute : (g.removeAttribute a).placements = g.placements := by
  simp [removeAttribute_eq]

@[simp]
theorem attributes_removeAttribute :
    (g.removeAttribute a).attributes = g.attributes.erase a.id := by
  simp [removeAttribute_eq]

/-- Removing an attribute leaves alone what does not read attributes. -/
theorem edges_removeAttribute_of {β : Type} (view : Edges → β)
    (h : ∀ e owned incoming, view { e with owned := owned, incoming := incoming } = view e)
    (m : NoteId) : view ((g.removeAttribute a).edges m) = view (g.edges m) := by
  rw [removeAttribute_eq, edges_modifyTarget]
  have hinner : view (((g.setAttributes (g.attributes.erase a.id)
      (g.indexWithout a)).modifyEdges a.owner
        fun e => { e with owned := e.owned.filter (· ≠ a.id) }).edges m) = view (g.edges m) :=
    edges_modifyEdges_of view (fun e => h e _ e.incoming) _ m
  split_ifs
  · rw [← hinner]
    exact h _ _ _
  · exact hinner

@[simp]
theorem parents_removeAttribute : (g.removeAttribute a).parents m = g.parents m :=
  edges_removeAttribute_of Edges.parents (fun _ _ _ => rfl) m

@[simp]
theorem children_removeAttribute : (g.removeAttribute a).children m = g.children m :=
  edges_removeAttribute_of Edges.children (fun _ _ _ => rfl) m

@[simp]
theorem parentBranches_removeAttribute :
    (g.removeAttribute a).parentBranches m = g.parentBranches m :=
  edges_removeAttribute_of Edges.parentBranches (fun _ _ _ => rfl) m

/-- The owner loses the attribute. -/
theorem owned_removeAttribute : (g.removeAttribute a).owned m =
    if m = a.owner then (g.owned m).filter (· ≠ a.id) else g.owned m := by
  have hunknown : ∀ n, ¬g.hasNote n = true → g.edges n = {} := fun n => edges_of_unknown
  simp only [removeAttribute_eq, owned, edges_modifyTarget, edges_modifyEdges]
  split_ifs <;> simp_all

/-- The note that a relation points at loses it. -/
theorem incoming_removeAttribute : (g.removeAttribute a).incoming m =
    if a.target? = some m then (g.incoming m).filter (· ≠ a.id) else g.incoming m := by
  have hunknown : ∀ n, ¬g.hasNote n = true → g.edges n = {} := fun n => edges_of_unknown
  simp only [removeAttribute_eq, incoming, edges_modifyTarget, edges_modifyEdges]
  split_ifs <;> simp_all

theorem listed_removeAttribute {key : AttributeKind × String} : (g.removeAttribute a).listed key =
    if key = (a.kind, a.name) then (g.listed key).filter (· ≠ a.id) else g.listed key := by
  have hindex : (g.removeAttribute a).index = g.indexWithout a := by
    rw [removeAttribute_eq, modifyTarget]
    split <;> rfl
  rw [listed, hindex, indexWithout]
  split_ifs with hrest hkey hkey
  · rw [Table.get?_erase, if_pos hkey, hkey]
    exact (List.isEmpty_iff.1 hrest).symm
  · rw [Table.get?_erase, if_neg hkey]
    rfl
  · rw [Table.get?_insert, if_pos hkey, hkey]
    rfl
  · rw [Table.get?_insert, if_neg hkey]
    rfl

/-! ## The order of parents below the owner -/

/-- Puts the parents of the notes below the owner in order again, if the attribute may have archived
the owner. -/
def resortBelow (g : Graph) (a : Attribute) : Graph :=
  if a.isLabel && a.name = Attribute.archivedName then
    (g.children a.owner).foldl Graph.resortParents g
  else g

/-- What putting the parents of a note in order leaves alone, putting those of many does too. -/
theorem resortBelow_of {β : Type} (view : Graph → β)
    (h : ∀ g n, view (resortParents g n) = view g) : view (g.resortBelow a) = view g := by
  rw [resortBelow]
  split_ifs
  · exact view_foldl view h _ g
  · rfl

@[simp]
theorem hasNote_resortBelow : (g.resortBelow a).hasNote m = g.hasNote m :=
  resortBelow_of (hasNote · m) fun _ _ => hasNote_resortParents

@[simp]
theorem bare?_resortBelow : (g.resortBelow a).bare? m = g.bare? m :=
  resortBelow_of (bare? · m) fun _ _ => bare?_resortParents

@[simp]
theorem index_resortBelow : (g.resortBelow a).index = g.index :=
  resortBelow_of Graph.index fun _ _ => rfl

@[simp]
theorem attributes_resortBelow : (g.resortBelow a).attributes = g.attributes :=
  resortBelow_of Graph.attributes fun _ _ => rfl

@[simp]
theorem branches_resortBelow : (g.resortBelow a).branches = g.branches :=
  resortBelow_of Graph.branches fun _ _ => rfl

@[simp]
theorem owned_resortBelow : (g.resortBelow a).owned m = g.owned m :=
  resortBelow_of (owned · m) fun _ _ => owned_resortParents

@[simp]
theorem children_resortBelow : (g.resortBelow a).children m = g.children m :=
  resortBelow_of (children · m) fun _ _ => children_resortParents

@[simp]
theorem incoming_resortBelow : (g.resortBelow a).incoming m = g.incoming m :=
  resortBelow_of (incoming · m) fun _ _ => incoming_resortParents

@[simp]
theorem parentBranches_resortBelow : (g.resortBelow a).parentBranches m = g.parentBranches m :=
  resortBelow_of (parentBranches · m) fun _ _ => parentBranches_resortParents

/-- Only the parents of the notes that are named are put in order. -/
theorem parents_foldl_resortParents {ns : List NoteId} (hm : m ∉ ns) (g : Graph) :
    (ns.foldl resortParents g).parents m = g.parents m := by
  induction ns generalizing g with
  | nil => rfl
  | cons n ns ih =>
    rw [List.mem_cons, not_or] at hm
    rw [List.foldl_cons, ih hm.2, parents_resortParents, if_neg hm.1]

/-- Only the children of the owner have their parents put in order. -/
theorem parents_resortBelow (hm : m ∉ g.children a.owner) :
    (g.resortBelow a).parents m = g.parents m := by
  rw [resortBelow]
  split_ifs
  · exact parents_foldl_resortParents hm g
  · rfl

/-- No parent comes or goes when they are put in order below a note. -/
theorem parents_resortBelow_perm (g : Graph) (a : Attribute) (m : NoteId) :
    ((g.resortBelow a).parents m).Perm (g.parents m) := by
  rw [resortBelow]
  split_ifs
  · exact List.foldlRecOn _ _ (motive := fun g' => (g'.parents m).Perm (g.parents m)) (.refl _)
      fun g' h n _ => (parents_resortParents_perm g' n m).trans h
  · exact .refl _

end Zettel.Graph
