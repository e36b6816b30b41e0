import Zettel.Proofs.Text.Lowercase
import Zettel.Proofs.Vault.Tended

/-!
# Where attributes are listed

An attribute is listed on its owner, on the note that it points at and under its kind and name. Each
of these lists holds the stored attributes that belong there, each of them once, whatever branches
there are and however often rows come and go.

Main statement: `Tended.indexed`.
-/

namespace Zettel.Graph

variable {g g' : Graph} {a : Attribute} {ids ids' : List AttributeId} {passes : Attribute → Prop}
  {n m : NoteId}

/-! ## Lists of stored attributes -/

/-- The ids are those of the stored attributes that pass, each of them once. -/
structure Lists (g : Graph) (ids : List AttributeId) (passes : Attribute → Prop) : Prop where
  nodup : ids.Nodup
  mem_iff : ∀ id, id ∈ ids ↔ ∃ a, g.attributes.get? id = some a ∧ passes a

theorem Lists.congr (h : g.Lists ids passes) (hattributes : g'.attributes = g.attributes)
    (hids : ids'.Perm ids) : g'.Lists ids' passes where
  nodup := hids.nodup_iff.2 h.nodup
  mem_iff id := by rw [hids.mem_iff, h.mem_iff, hattributes]

theorem Lists.of_iff {passes' : Attribute → Prop} (h : g.Lists ids passes)
    (hiff : ∀ id a, g.attributes.get? id = some a → (passes a ↔ passes' a)) :
    g.Lists ids passes' where
  nodup := h.nodup
  mem_iff id := by
    rw [h.mem_iff]
    exact exists_congr fun a => and_congr_right (hiff id a)

/-- A new attribute that passes is put at the end. -/
theorem Lists.attach [DecidablePred passes] (h : g.Lists ids passes)
    (ha : g.attributes.get? a.id = none) :
    (g.attach a).Lists (if passes a then ids ++ [a.id] else ids) passes := by
  have hnew : a.id ∉ ids := by
    rw [h.mem_iff, ha]
    simp
  constructor
  · split_ifs
    · exact (List.nodup_cons.2 ⟨hnew, h.nodup⟩).perm (List.perm_append_singleton _ _).symm
    · exact h.nodup
  · intro id
    have hstored : (∃ a', (g.attach a).attributes.get? id = some a' ∧ passes a') ↔
        id ∈ ids ∨ id = a.id ∧ passes a := by
      rw [attributes_attach, Table.get?_insert, h.mem_iff]
      split_ifs with hid
      · simp [hid, ha]
      · simp [hid]
    rw [hstored]
    split_ifs with hpass <;> simp [hpass]

/-- An attribute that leaves is taken out. -/
theorem Lists.removeAttribute [DecidablePred passes] (h : g.Lists ids passes)
    (ha : g.attributes.get? a.id = some a) :
    (g.removeAttribute a).Lists (if passes a then ids.filter (· ≠ a.id) else ids) passes := by
  have hself : a.id ∈ ids ↔ passes a := by
    rw [h.mem_iff, ha]
    simp
  constructor
  · split_ifs
    · exact h.nodup.filter _
    · exact h.nodup
  · intro id
    have hstored : (∃ a', (g.removeAttribute a).attributes.get? id = some a' ∧ passes a') ↔
        id ∈ ids ∧ id ≠ a.id := by
      rw [attributes_removeAttribute, Table.get?_erase, h.mem_iff]
      split_ifs with hid
      · simp [hid]
      · simp [hid]
    rw [hstored]
    split_ifs with hpass
    · simp
    · refine ⟨fun hid => ⟨hid, ?_⟩, And.left⟩
      rintro rfl
      exact hpass (hself.1 hid)

/-! ## Every list of attributes -/

/-- Each list of attributes holds those that belong there. Names are in small letters. -/
structure Filed (g : Graph) : Prop where
  owned : ∀ n, g.Lists (g.owned n) fun a => n = a.owner
  incoming : ∀ n, g.hasNote n = true → g.Lists (g.incoming n) fun a => a.target? = some n
  listed : ∀ key, g.Lists (g.listed key) fun a => key = (a.kind, a.name)
  small : ∀ id a, g.attributes.get? id = some a → Text.lowercase a.name = a.name

/-- An attribute is listed by its owner, so this exists. -/
theorem Filed.owner_known (h : g.Filed) {id : AttributeId} (ha : g.attributes.get? id = some a) :
    g.hasNote a.owner = true :=
  hasNote_of_mem_owned (((h.owned a.owner).mem_iff id).2 ⟨a, ha, rfl⟩)

theorem Filed.of_eq (h : g.Filed) (hnote : ∀ n, g'.hasNote n = g.hasNote n)
    (hattributes : g'.attributes = g.attributes) (howned : ∀ n, g'.owned n = g.owned n)
    (hincoming : ∀ n, g'.incoming n = g.incoming n) (hindex : g'.index = g.index) : g'.Filed where
  owned n := by
    rw [howned]
    exact (h.owned n).congr hattributes (.refl _)
  incoming n hn := by
    rw [hincoming]
    exact (h.incoming n (hnote n ▸ hn)).congr hattributes (.refl _)
  listed key := by
    rw [Graph.listed, hindex]
    exact (h.listed key).congr hattributes (.refl _)
  small := by
    rw [hattributes]
    exact h.small

theorem Bare.filed (h : g.Bare) : g.Filed := by
  have hlists : ∀ passes, g.Lists [] passes := fun passes => ⟨.nil, by simp [h.attributes]⟩
  constructor
  · intro n
    rw [Graph.owned, h.edges]
    exact hlists _
  · intro n _
    rw [Graph.incoming, h.edges]
    exact hlists _
  · intro key
    rw [Graph.listed, h.index]
    exact hlists _
  · simp [h.attributes]

theorem Filed.attach (h : g.Filed) {row : AttributeRow} (hn : g.hasNote row.owner = true)
    (ha : g.attributes.get? row.id = none) : (g.attach (.ofRow row)).Filed where
  owned n := by
    rw [owned_attach hn]
    exact (h.owned n).attach ha
  incoming n hknown := by
    rw [hasNote_attach] at hknown
    rw [incoming_attach]
    simp only [hknown, and_true]
    exact (h.incoming n hknown).attach ha
  listed key := by
    rw [listed_attach]
    exact (h.listed key).attach ha
  small id a' ha' := by
    rw [attributes_attach, Table.get?_insert] at ha'
    split_ifs at ha'
    · obtain rfl := Option.some.inj ha'
      exact Text.lowercase_lowercase row.name
    · exact h.small id a' ha'

theorem Filed.removeAttribute (h : g.Filed) (ha : g.attributes.get? a.id = some a) :
    (g.removeAttribute a).Filed where
  owned n := by
    rw [owned_removeAttribute]
    exact (h.owned n).removeAttribute ha
  incoming n hknown := by
    rw [hasNote_removeAttribute] at hknown
    rw [incoming_removeAttribute]
    exact (h.incoming n hknown).removeAttribute ha
  listed key := by
    rw [listed_removeAttribute]
    exact (h.listed key).removeAttribute ha
  small id a' ha' := by
    rw [attributes_removeAttribute, Table.get?_erase] at ha'
    split_ifs at ha'
    exact h.small id a' ha'

/-- The relations to a note have distinct ids. -/
theorem Keyed.lists_relationsTo (h : g.Keyed) (n : NoteId) :
    g.Lists ((g.relationsTo n).map Attribute.id) fun a => a.target? = some n where
  nodup := by
    have hids : g.attributes.values.map Attribute.id = g.attributes.keys := by
      rw [Table.values, List.map_map]
      refine List.map_congr_left fun e he => ?_
      exact h.attribute_id (Table.get?_eq_some_iff.2 he)
    exact (hids ▸ g.attributes.nodup_keys).sublist (List.filter_sublist.map _)
  mem_iff id := by
    simp only [relationsTo, List.mem_map, List.mem_filter, Table.mem_values_iff,
      decide_eq_true_eq]
    constructor
    · rintro ⟨a, ⟨⟨id', ha⟩, ht⟩, rfl⟩
      obtain rfl := h.attribute_id ha
      exact ⟨a, ha, ht⟩
    · rintro ⟨a, ha, ht⟩
      exact ⟨a, ⟨⟨id, ha⟩, ht⟩, h.attribute_id ha⟩

theorem Filed.arrive (h : g.Filed) (hg : g.Keyed) {row : NoteRow}
    (hn : ¬g.hasNote row.id = true) : (g.arrive row).Filed where
  owned n := by
    rw [owned_arrive hn]
    exact (h.owned n).congr attributes_arrive (.refl _)
  incoming n hknown := by
    rw [incoming_arrive]
    split_ifs with heq
    · exact (hg.lists_relationsTo n).congr attributes_arrive (.refl _)
    · rw [hasNote_arrive, decide_eq_false heq, Bool.false_or] at hknown
      exact (h.incoming n hknown).congr attributes_arrive (.refl _)
  listed key := by
    rw [Graph.listed, index_arrive]
    exact (h.listed key).congr attributes_arrive (.refl _)
  small := by
    rw [attributes_arrive]
    exact h.small

/-- A note leaves with an empty list of attributes. -/
theorem Filed.eraseNote (h : g.Filed) (howned : ∀ id ∈ g.owned n, g.attributes.get? id = none) :
    (g.eraseNote n).Filed where
  owned m := by
    have hsame : (g.eraseNote n).owned m = g.owned m := by
      rw [Graph.owned, edges_eraseNote]
      split_ifs with hm
      · refine (List.eq_nil_iff_forall_not_mem.2 fun id hid => ?_).symm
        obtain ⟨a, ha, -⟩ := ((h.owned m).mem_iff id).1 hid
        rw [howned id (hm ▸ hid)] at ha
        exact absurd ha (by simp)
      · rfl
    rw [hsame]
    exact (h.owned m).congr rfl (.refl _)
  incoming m hknown := by
    rw [hasNote_eraseNote, Bool.and_eq_true, decide_eq_true_eq] at hknown
    rw [Graph.incoming, edges_eraseNote, if_neg hknown.1]
    exact (h.incoming m hknown.2).congr rfl (.refl _)
  listed key := (h.listed key).congr rfl (.refl _)
  small := h.small

/-- **No change of an update brings the lists out of line with the attributes.** -/
theorem isUpheld_filed : IsUpheld Filed where
  resortParents _ h := h.of_eq (by simp) (by simp) (by simp) (by simp) rfl
  addBranch _ _ h := h.of_eq (by simp) (by simp) (by simp) (by simp) index_addBranch
  eraseBranch _ _ h := h.of_eq (by simp) (by simp) (by simp) (by simp) (by simp)
  attach _ hn ha h := h.attach hn ha
  removeAttribute _ ha h := h.removeAttribute ha
  renewNote hn h := h.of_eq (fun _ => hasNote_renewNote hn) (by simp) (by simp [Graph.owned])
    (by simp [Graph.incoming]) rfl
  arrive hg hn h := h.arrive hg hn
  eraseNote _ _ howned h := h.eraseNote howned

/-! ## Looking attributes up -/

/-- Lists under different keys have nothing in common. -/
theorem Lists.flatMap {κ : Type} {key : Attribute → κ} {entries : List (κ × List AttributeId)}
    (hlists : ∀ e ∈ entries, g.Lists e.2 fun a => e.1 = key a)
    (hkeys : entries.Pairwise fun e e' => e.1 ≠ e'.1) :
    g.Lists (entries.flatMap Prod.snd) fun a => ∃ ids, (key a, ids) ∈ entries where
  nodup := by
    refine List.nodup_flatMap.2 ⟨fun e he => (hlists e he).nodup, ?_⟩
    refine hkeys.imp_of_mem fun {e e'} he he' hne id hid hid' => hne ?_
    obtain ⟨a, ha, hkey⟩ := ((hlists e he).mem_iff id).1 hid
    obtain ⟨a', ha', hkey'⟩ := ((hlists e' he').mem_iff id).1 hid'
    obtain rfl := Option.some.inj (ha.symm.trans ha')
    exact hkey.trans hkey'.symm
  mem_iff id := by
    rw [List.mem_flatMap]
    constructor
    · rintro ⟨⟨k, ids⟩, he, hid⟩
      obtain ⟨a, ha, rfl⟩ := ((hlists _ he).mem_iff id).1 hid
      exact ⟨a, ha, ids, he⟩
    · rintro ⟨a, ha, ids, he⟩
      exact ⟨_, he, ((hlists _ he).mem_iff id).2 ⟨a, ha, rfl⟩⟩

/-- An entry of the look-ups by kind and name lists what belongs there. -/
theorem Filed.entry (h : g.Filed) {e : (AttributeKind × String) × List AttributeId}
    (he : e ∈ g.index.entries) : g.Lists e.2 fun a => e.1 = (a.kind, a.name) := by
  have hlisted := h.listed e.1
  rwa [Graph.listed, Table.get?_eq_some_iff.2 he] at hlisted

/-- A stored attribute has an entry for its kind and name. -/
theorem Filed.exists_entry (h : g.Filed) {id : AttributeId} (ha : g.attributes.get? id = some a) :
    ∃ ids, ((a.kind, a.name), ids) ∈ g.index.entries := by
  have hid := ((h.listed (a.kind, a.name)).mem_iff id).2 ⟨a, ha, rfl⟩
  rw [Graph.listed] at hid
  cases hentry : g.index.get? (a.kind, a.name) with
  | none => simp [hentry] at hid
  | some ids => exact ⟨ids, Table.get?_eq_some_iff.1 hentry⟩

/-- Attributes with different names are different, so those under the names that begin alike are
listed once. -/
theorem Filed.lists_findAttributesBeginning (h : g.Filed) (kind : AttributeKind) (start : String) :
    g.Lists (g.findAttributesBeginning kind start) fun a =>
      a.kind = kind ∧ Text.beginsWith (Text.lowercase start) a.name = true := by
  let found := g.index.entries.filter fun e =>
    e.1.1 = kind && Text.beginsWith (Text.lowercase start) e.1.2
  have hkeys : found.Pairwise fun e e' => e.1 ≠ e'.1 :=
    (List.pairwise_map.1 g.index.nodup).sublist List.filter_sublist
  have hfound : g.Lists (found.flatMap Prod.snd) fun a =>
      ∃ ids, ((a.kind, a.name), ids) ∈ found :=
    .flatMap (fun e he => h.entry (List.mem_of_mem_filter he)) hkeys
  refine (hfound.of_iff fun id a ha => ?_).congr rfl ((sortBy_perm _ found).flatMap_right _)
  have hentry := h.exists_entry ha
  simp only [found, List.mem_filter, Bool.and_eq_true, decide_eq_true_eq, exists_and_right]
  exact and_iff_right hentry

/-- The attribute table and the lists of attributes agree. Every stored attribute has an owner that
exists. The attributes of a note, the relations to an existing note and the entries of the look-up
by kind and name are the stored attributes that belong there, each of them once; and attributes are
found, each of them once, by their kind and name and by how their name begins. -/
structure Indexed (g : Graph) : Prop where
  owner_known : ∀ id a, g.attributes.get? id = some a → a.id = id ∧ g.hasNote a.owner = true
  owned : ∀ n, g.Lists (g.owned n) fun a => a.owner = n
  incoming : ∀ n, g.hasNote n = true → g.Lists (g.incoming n) fun a => a.target? = some n
  entry : ∀ kind name ids, g.index.get? (kind, name) = some ids →
    g.Lists ids fun a => a.kind = kind ∧ a.name = name
  found : ∀ kind name, g.Lists (g.findAttributes kind name) fun a =>
    a.kind = kind ∧ a.name = Text.lowercase name
  found_by_name : ∀ id a, g.attributes.get? id = some a →
    id ∈ g.findAttributes a.kind a.name
  beginning : ∀ kind start, g.Lists (g.findAttributesBeginning kind start) fun a =>
    a.kind = kind ∧ Text.beginsWith (Text.lowercase start) a.name = true

end Zettel.Graph

namespace Zettel.Vault

variable {v : Vault}

/-- A load lists the attributes of the snapshot, whatever notes and branches there are twice. -/
theorem filed_ofSnapshot {s : Snapshot} (hs : s.HasDistinctAttributes) :
    (ofSnapshot s).graph.Filed := by
  refine ofSnapshot_induction (P := Graph.Filed) ?_ ?_ ?_ ?_ ?_ ?_
  · exact fun _ hg => hg.filed
  · exact fun _ _ _ h => h.of_eq (by simp) (by simp) (by simp) (by simp) (by simp)
  · exact fun _ _ hn hfree h => h.attach hn (hfree hs)
  · exact fun _ _ h => h.of_eq (by simp) (by simp) (by simp) (by simp) rfl
  · exact fun _ _ h => h.of_eq (by simp) (by simp) (by simp) (by simp) rfl
  · exact fun _ h => h.of_eq (fun _ => rfl) rfl (fun _ => rfl) (fun _ => rfl) rfl

theorem Tended.filed (h : v.Tended Snapshot.HasDistinctAttributes) : v.graph.Filed :=
  h.of_isUpheld Graph.isUpheld_filed Graph.Bare.empty.filed fun _ hs => filed_ofSnapshot hs

/-- **In a tended vault the attribute table and the lists of attributes agree.** -/
theorem Tended.indexed (h : v.Tended Snapshot.HasDistinctAttributes) : v.graph.Indexed := by
  have hfiled := h.filed
  have hlisted : ∀ kind name, v.graph.Lists (v.graph.listed (kind, name)) fun a =>
      a.kind = kind ∧ a.name = name := by
    intro kind name
    refine (hfiled.listed (kind, name)).of_iff fun _ a _ => ?_
    rw [Prod.mk.injEq, eq_comm, @eq_comm _ name]
  constructor
  · exact fun id a ha => ⟨h.keyed.attribute_id ha, hfiled.owner_known ha⟩
  · exact fun n => (hfiled.owned n).of_iff fun _ _ _ => eq_comm
  · exact hfiled.incoming
  · intro kind name ids hids
    have hentry := hlisted kind name
    rwa [Graph.listed, hids] at hentry
  · exact fun kind name => hlisted kind (Text.lowercase name)
  · intro id a ha
    refine ((hlisted a.kind (Text.lowercase a.name)).mem_iff id).2 ⟨a, ha, rfl, ?_⟩
    exact (hfiled.small id a ha).symm
  · exact hfiled.lists_findAttributesBeginning

/-- Relations between two notes, and one to a note that is missing. -/
def relatedSnapshot : Snapshot where
  notes := [{ id := "a", title := "A" }, { id := "b", title := "B" }]
  attributes := [.relation "x" "a" "Link" "b", .relation "y" "b" "link" "c",
    .label "z" "a" "Linked" "", .label "lost" "gone" "link" ""]

/-- A relation changes in every respect at once, the missing note comes, another one goes with its
attributes and comes back, and an attribute moves to a note that does not exist. -/
def relatedVault : Vault :=
  [.upsertAttribute (.relation "x" "b" "Other" "a"), .upsertNote { id := "c", title := "C" },
    .upsertAttribute (.relation "w" "c" "LINK" "a"), .deleteNote "a",
    .upsertNote { id := "a", title := "A" }, .upsertAttribute (.label "y" "gone" "link" "")].foldl
      apply (reload (.ok relatedSnapshot)).2

theorem indexed_relatedVault : relatedVault.Tended Snapshot.HasDistinctAttributes ∧
    relatedVault.graph.Indexed :=
  have htended : relatedVault.Tended Snapshot.HasDistinctAttributes := by
    refine .foldl_apply _ (.reload fun s hs => ?_)
    obtain rfl := Except.ok.inj hs
    decide
  ⟨htended, htended.indexed⟩

example : relatedVault.graph.incoming "a" = ["x", "w"] ∧
    relatedVault.graph.findAttributes .relation "Link" = ["w"] ∧
    relatedVault.graph.owned "a" = [] := by
  decide +kernel

end Zettel.Vault
