import ShapedObjects.Proofs.Relocation
import ShapedObjects.Proofs.SharedLayouts

/-!
# Objects that migrate between shapes

Migration reads every attribute from its old slot and stores it in its new one. Nothing is lost
on the way if the new shape has the same attributes and boxes at most some more of them: then
every value finds a slot that accepts it, and no two attributes get the same slot. Since the
slots of a shape are dense, the values of the attributes leave no freedom in what the storage
areas hold, so that it does not matter whether an object migrates at once or in two steps.
-/

namespace ShapedObjects

namespace Layout

/-- A layout has the same attributes as another one, in any order, each with a slot of the same kind
or with a boxed one. -/
structure WidensTo (layout wider : Layout) : Prop where
  /-- The two layouts have the same attributes. -/
  names : (wider.kinds.map Prod.fst).Perm (layout.kinds.map Prod.fst)
  /-- An attribute keeps the kind of its slot or is boxed. -/
  kinds : ∀ entry ∈ layout.kinds, ∀ target ∈ wider.kinds, target.1 = entry.1 →
    target.2 = entry.2 ∨ target.2 = .object

namespace WidensTo

variable {layout wider widest : Layout} {name : NameId}

/-- Every attribute has a slot in the wider layout. -/
theorem exists_location (h : layout.WidensTo wider) {location : Location}
    (hlocation : layout.location? name = some location) :
    ∃ target, wider.location? name = some target ∧
      (target.kind = location.kind ∨ target.kind = .object) := by
  have hentry : (name, location.kind) ∈ layout.kinds :=
    List.mem_map_of_mem (f := fun entry => (entry.1, entry.2.kind)) (mem_of_lookup hlocation)
  cases htarget : wider.location? name with
  | none =>
    have hname := h.names.mem_iff.mpr (List.mem_map_of_mem (f := Prod.fst) hentry)
    exact absurd hname (not_mem_kinds htarget)
  | some target =>
    have hwider : (name, target.kind) ∈ wider.kinds :=
      List.mem_map_of_mem (f := fun entry => (entry.1, entry.2.kind)) (mem_of_lookup htarget)
    exact ⟨target, rfl, h.kinds _ hentry _ hwider rfl⟩

/-- The wider layout has no attribute more. -/
theorem location?_eq_none (h : layout.WidensTo wider) (habsent : layout.location? name = none) :
    wider.location? name = none := by
  have hname := fun hmem => not_mem_kinds habsent (h.names.mem_iff.mp hmem)
  rw [map_fst_kinds] at hname
  exact lookup_eq_none_iff_not_mem.mpr hname

theorem trans (h : layout.WidensTo wider) (h' : wider.WidensTo widest) :
    layout.WidensTo widest where
  names := h'.names.trans h.names
  kinds := by
    intro entry hentry target htarget hname
    have hmiddle := h.names.mem_iff.mpr (List.mem_map_of_mem (f := Prod.fst) hentry)
    obtain ⟨middle, hmiddle, hsame⟩ := List.mem_map.mp hmiddle
    rcases h'.kinds middle hmiddle target htarget (hname.trans hsame.symm) with hkept | hboxed
    · rw [hkept]
      exact h.kinds entry hentry middle hmiddle hsame
    · exact Or.inr hboxed

end WidensTo

/-- A layout in which one of the attributes was boxed is wider. -/
theorem Packed.widensTo {layout wider : Layout} (h : layout.Packed) {name : NameId}
    (hmem : name ∈ layout.kinds.map Prod.fst)
    (hkinds : wider.kinds = assign layout.kinds name .object) : layout.WidensTo wider := by
  have hnodup := h.nodup_kinds
  constructor
  · rw [hkinds, map_fst_assign _ _ _ hmem]
  · intro entry hentry target htarget hsame
    rw [hkinds, assign_eq_map _ _ _ hmem hnodup] at htarget
    obtain ⟨source, hsource, rfl⟩ := List.mem_map.mp htarget
    split at hsame
    · next hname =>
      right
      rw [if_pos hname]
    · next hname =>
      left
      rw [if_neg hname]
      have hlookup := lookup_of_mem hnodup hsource
      rw [hsame, lookup_of_mem hnodup hentry] at hlookup
      exact (Option.some.inj hlookup).symm

end Layout

/-- The word of an integer or a float is the one that it was read from. -/
theorem Kind.word_decode {kind : Kind} {word : UInt64} (hprimitive : kind.isPrimitive = true)
    (hboolean : kind = .boolean → word = 0 ∨ word = 1) : (kind.decode word).word = word := by
  cases kind with
  | object => cases hprimitive
  | int => exact UInt64.toUInt64_toInt64 word
  | float => rfl
  | boolean =>
    rcases hboolean rfl with rfl | rfl <;> rfl

namespace Object

variable {object other : Object} {shape : Shape}

/-- The word of an unboxed attribute is the one that stands for its value. -/
theorem WellFormed.getElem?_words (h : object.WellFormed) {entry : NameId × Location}
    (hentry : entry ∈ object.shape.layout.attributes)
    (hprimitive : entry.2.kind.isPrimitive = true) :
    object.words[entry.2.index]? = some (object.valueAt entry.2).word := by
  have hrange := h.packed.index_lt_primitiveCount hentry hprimitive
  rw [← h.words] at hrange
  have hword := List.getElem?_eq_getElem hrange
  rw [valueAt, if_pos hprimitive, List.getD_eq_getElem?_getD, hword, Option.getD_some,
    Kind.word_decode hprimitive]
  intro hboolean
  simpa [hword] using h.booleans entry hentry hboolean

/-- The value of a boxed attribute is what its slot holds. -/
theorem Sized.getElem?_slots (h : object.Sized) {entry : NameId × Location}
    (hentry : entry ∈ object.shape.layout.attributes)
    (hboxed : entry.2.kind.isPrimitive = false) :
    object.slots[entry.2.index]? = some (object.valueAt entry.2) := by
  have hrange := h.index_lt hentry
  rw [areaLength, hboxed, if_neg Bool.false_ne_true] at hrange
  rw [valueAt, hboxed, if_neg Bool.false_ne_true, List.getD_eq_getElem?_getD,
    List.getElem?_eq_getElem hrange]
  rfl

/-- Two objects of one layout have the same storage if all their attributes are the same, since every
word and every slot belongs to an attribute. -/
theorem WellFormed.storage_eq_of_lookup_eq (h : object.WellFormed) (h' : other.WellFormed)
    (hlayout : object.shape.layout = other.shape.layout)
    (hcontents : ∀ name, object.contents.lookup name = other.contents.lookup name) :
    object.words = other.words ∧ object.slots = other.slots := by
  have hvalues : ∀ entry ∈ object.shape.layout.attributes,
      object.valueAt entry.2 = other.valueAt entry.2 := by
    intro entry hentry
    have hlocation : object.shape.layout.location? entry.1 = some entry.2 :=
      h.packed.location?_of_mem hentry
    have hlookup := hcontents entry.1
    rw [lookup_contents, lookup_contents, Shape.location?, Shape.location?, ← hlayout,
      hlocation] at hlookup
    exact Option.some.inj hlookup
  constructor
  · refine List.ext_getElem? fun index => ?_
    by_cases hrange : index < object.shape.layout.primitiveCount
    · obtain ⟨entry, ⟨hentry, hprimitive⟩, rfl⟩ := (h.packed.bijOn_index .int).surjOn hrange
      rw [h.getElem?_words hentry hprimitive, hvalues entry hentry,
        h'.getElem?_words (hlayout ▸ hentry) hprimitive]
    · rw [List.getElem?_eq_none (by rw [h.words]; omega),
        List.getElem?_eq_none (by rw [h'.words, ← hlayout]; omega)]
  · refine List.ext_getElem? fun index => ?_
    by_cases hrange : index < object.shape.layout.objectCount
    · obtain ⟨entry, ⟨hentry, hboxed⟩, rfl⟩ := (h.packed.bijOn_index .object).surjOn hrange
      rw [h.toSized.getElem?_slots hentry hboxed, hvalues entry hentry,
        h'.toSized.getElem?_slots (hlayout ▸ hentry) hboxed]
    · rw [List.getElem?_eq_none (by rw [h.slots]; omega),
        List.getElem?_eq_none (by rw [h'.slots, ← hlayout]; omega)]

/-- Two objects on one shape are the same if all their attributes are. -/
theorem WellFormed.eq_of_lookup_eq (h : object.WellFormed) (h' : other.WellFormed)
    (hshape : object.shape = other.shape)
    (hcontents : ∀ name, object.contents.lookup name = other.contents.lookup name) :
    object = other := by
  obtain ⟨hwords, hslots⟩ :=
    h.storage_eq_of_lookup_eq h' (congrArg Shape.layout hshape) hcontents
  obtain ⟨_, _, _⟩ := object
  obtain ⟨_, _, _⟩ := other
  simp_all

/-- An attribute finds room in every wider shape. -/
theorem Sized.findsRoom (h : object.Sized) (hwidens : object.shape.layout.WidensTo shape.layout)
    {entry : NameId × Location} (hentry : entry ∈ object.shape.layout.attributes) :
    object.FindsRoom shape entry := by
  obtain ⟨target, htarget, hkind⟩ := hwidens.exists_location (h.packed.location?_of_mem hentry)
  exact ⟨h.index_lt hentry, target, htarget,
    accepts_of_widened hkind (accepts_valueAt object entry.2)⟩

/-- An object that migrates to a wider shape keeps its attributes. -/
theorem Sized.migrate_wider (h : object.Sized) (hpacked : shape.layout.Packed)
    (hwidens : object.shape.layout.WidensTo shape.layout) :
    ∃ migrated, object.migrate shape = .ok migrated ∧ migrated.shape = shape ∧
      migrated.WellFormed ∧
      ∀ name, migrated.contents.lookup name = object.contents.lookup name := by
  obtain ⟨migrated, hmigrate, hshape, hmigrated, hcontents⟩ :=
    migrate_of_findsRoom object hpacked fun entry hentry => h.findsRoom hwidens hentry
  refine ⟨migrated, hmigrate, hshape, hmigrated, fun name => ?_⟩
  have hnodup : (object.contents.map Prod.fst).Nodup := by
    rw [map_fst_contents]
    exact h.packed.nodup
  rw [hcontents, lookup_foldl_assign _ hnodup, lookup_contents, lookup_contents]
  -- What is not in the object is not in the wider shape either.
  cases hlocation : object.shape.location? name with
  | some location => rfl
  | none =>
    have habsent : shape.location? name = none := hwidens.location?_eq_none hlocation
    change (none : Option Value).or ((shape.location? name).map _) = none
    rw [habsent]
    rfl

/-- In every step of a migration the value that is read is stored: none is refused and none is out
of bounds. -/
def StoresAll (object : Object) (shape : Shape) : Prop :=
  ∀ before entry after, object.shape.layout.attributes = before ++ entry :: after →
    ∃ storage target value copied,
      before.foldlM object.copyAttribute (new shape) = .ok storage ∧
      shape.location? entry.1 = some target ∧ entry.2.read object = .ok value ∧
      target.write storage value = .stored copied

/-- A migration to a wider shape stores all that it reads. -/
theorem Sized.storesAll (h : object.Sized) (hpacked : shape.layout.Packed)
    (hwidens : object.shape.layout.WidensTo shape.layout) : object.StoresAll shape := by
  intro before entry after hsplit
  have hroom : ∀ other ∈ object.shape.layout.attributes, object.FindsRoom shape other :=
    fun other hother => h.findsRoom hwidens hother
  rw [hsplit] at hroom
  obtain ⟨storage, hfold, hshape, hstorage, _⟩ :=
    foldlM_copyAttribute before (wellFormed_new hpacked) fun other hother =>
      hroom other (List.mem_append_left _ hother)
  obtain ⟨hrange, target, htarget, haccepts⟩ := hroom entry (by simp)
  have hslot : storage.shape.location? entry.1 = some target := by
    rw [hshape]
    exact htarget
  exact ⟨storage, target, _, _, hfold, htarget, Location.read_of_lt hrange,
    Location.write_of_accepts (hstorage.toSized.index_lt_of_location? hslot) haccepts⟩

/-- Two migrations to wider and wider shapes come to the same as one. -/
theorem Sized.migrate_migrate (h : object.Sized) {widest : Shape} {migrated : Object}
    (hmigrate : object.migrate shape = .ok migrated) (hpacked : shape.layout.Packed)
    (hpacked' : widest.layout.Packed) (hwidens : object.shape.layout.WidensTo shape.layout)
    (hwidens' : shape.layout.WidensTo widest.layout) :
    ∃ last, migrated.migrate widest = .ok last ∧ object.migrate widest = .ok last := by
  obtain ⟨_, hmigrate', rfl, hwell, hlookup⟩ := h.migrate_wider hpacked hwidens
  cases hmigrate.symm.trans hmigrate'
  obtain ⟨last, hlast, hshape, hlastWell, hlastLookup⟩ :=
    hwell.toSized.migrate_wider hpacked' hwidens'
  obtain ⟨direct, hdirect, hshape', hdirectWell, hdirectLookup⟩ :=
    h.migrate_wider hpacked' (hwidens.trans hwidens')
  have hsame : last = direct :=
    hlastWell.eq_of_lookup_eq hdirectWell (hshape.trans hshape'.symm) fun name => by
      rw [hlastLookup, hlookup, hdirectLookup]
  exact ⟨last, hlast, hsame ▸ hdirect⟩

/-- An object that has the slots which its shape declares, whatever they hold, may migrate to every
shape of the registry with the same attributes of which at most some more are boxed. It keeps the
values of its attributes and gets the slots which the new shape declares, and every value that is
read on the way is stored. Migrating on to another such shape comes to the same as migrating there
at once. -/
theorem migration_keeps_attributes {serial : Nat} {registry : Registry}
    (h : (Registry.new serial).Becomes registry) (hissued : object.shape ∈ registry.shapes)
    (hwords : object.words.length = object.shape.layout.primitiveCount)
    (hslots : object.slots.length = object.shape.layout.objectCount)
    (hshape : shape ∈ registry.shapes) (hwidens : object.shape.layout.WidensTo shape.layout) :
    ∃ migrated, object.migrate shape = .ok migrated ∧ migrated.shape = shape ∧
      (∀ name, ∃ found, object.get name = .ok found ∧ migrated.get name = .ok found) ∧
      migrated.words.length = shape.layout.primitiveCount ∧
      migrated.slots.length = shape.layout.objectCount ∧
      object.StoresAll shape ∧
      ∀ widest ∈ registry.shapes, shape.layout.WidensTo widest.layout →
        ∃ last, migrated.migrate widest = .ok last ∧ object.migrate widest = .ok last := by
  obtain ⟨_, hwell, _⟩ := h.extends (Registry.wellFormed_new serial)
  have hsized : object.Sized := ⟨hwell.packed hissued, hwords, hslots⟩
  have hpacked := hwell.packed hshape
  obtain ⟨migrated, hmigrate, hon, hmigrated, hlookup⟩ := hsized.migrate_wider hpacked hwidens
  refine ⟨migrated, hmigrate, hon, ?_, ?_, ?_, hsized.storesAll hpacked hwidens, ?_⟩
  · intro name
    rw [hsized.get_eq, hmigrated.toSized.get_eq, hlookup]
    exact ⟨_, rfl, rfl⟩
  · rw [hmigrated.words, hon]
  · rw [hmigrated.slots, hon]
  · intro widest hwidest hwidens'
    exact hsized.migrate_migrate hmigrate hpacked (hwell.packed hwidest) hwidens hwidens'

/-- An integer and a float attribute are taken to a shape that has them in the other order and boxes
the integer. The float keeps its bits and goes into the first word. -/
theorem migration_keeps_attributes_reordered :
    let registry := (Registry.new 0).asks [(⟨0⟩, .add ⟨0⟩ .int), (⟨1⟩, .add ⟨1⟩ .float),
      (⟨0⟩, .add ⟨1⟩ .float), (⟨3⟩, .add ⟨0⟩ .object)]
    let shape : Shape := ⟨0, ⟨4⟩, Layout.ofKinds [(⟨1⟩, .float), (⟨0⟩, .object)]⟩
    let object : Object := ⟨⟨0, ⟨2⟩, Layout.ofKinds [(⟨0⟩, .int), (⟨1⟩, .float)]⟩, [7, 1], []⟩
    shape ∈ registry.shapes ∧ object.migrate shape = .ok ⟨shape, [1], [.int 7]⟩ ∧
      object.StoresAll shape := by
  intro registry shape object
  have hbecomes : (Registry.new 0).Becomes registry := Registry.Becomes.refl.asks _
  have hissued : object.shape ∈ registry.shapes := by decide
  have hshape : shape ∈ registry.shapes := by decide
  obtain ⟨_, _, _, _, _, _, hstores, _⟩ :=
    migration_keeps_attributes hbecomes hissued rfl rfl hshape ⟨by decide, by decide⟩
  exact ⟨hshape, by rfl, hstores⟩

end Object

end ShapedObjects
