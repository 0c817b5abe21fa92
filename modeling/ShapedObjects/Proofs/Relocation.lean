import ShapedObjects.Proofs.Contents

/-!
# Objects that move to another shape

An object gains an attribute by growing in place, and has one boxed by being copied
slot by slot. Growing keeps every value where it is, and copying finds room for every
value it meets. Either way the object stays well-formed, and its contents are those it
had, with the value of an unset slot behind them if an attribute is new.
-/

namespace ShapedObjects

section Resize

variable {α : Type} (items : List α) (length : Nat) (filler : α)

@[simp] theorem length_resize : (resize items length filler).length = length := by
  simp only [resize, List.length_append, List.length_take, List.length_replicate]
  omega

/-- Within its new length, a resized list holds what the list held, or the filler. -/
theorem getElem?_resize {index : Nat} (h : index < length) :
    (resize items length filler)[index]? = some (items.getD index filler) := by
  rw [resize, List.getD_eq_getElem?_getD]
  by_cases hold : index < items.length
  · rw [List.getElem?_append_left (by rw [List.length_take]; omega),
      List.getElem?_take_of_lt h, List.getElem?_eq_getElem hold]
    rfl
  · have htake : (items.take length).length = items.length := by
      rw [List.length_take]
      omega
    rw [List.getElem?_append_right (by omega), htake, List.getElem?_replicate_of_lt (by omega),
      List.getElem?_eq_none (by omega)]
    rfl

end Resize

namespace Object

section Extend

variable {object : Object} {shape : Shape}

/-- On a larger shape every slot holds what was found at its location before, which is the
unset value if there was no such slot. -/
theorem valueAt_extend {location : Location}
    (hrange : location.index < shape.layout.capacity location.kind) :
    (object.extend shape).valueAt location = object.valueAt location := by
  unfold valueAt Object.extend
  unfold Layout.capacity at hrange
  by_cases hprimitive : location.kind.isPrimitive = true
  · rw [if_pos hprimitive] at hrange
    rw [if_pos hprimitive, if_pos hprimitive, List.getD_eq_getElem?_getD,
      getElem?_resize _ _ _ hrange]
    rfl
  · rw [if_neg hprimitive] at hrange
    rw [if_neg hprimitive, if_neg hprimitive, List.getD_eq_getElem?_getD,
      getElem?_resize _ _ _ hrange]
    rfl

/-- An object can be extended to any packed layout. -/
theorem sized_extend (object : Object) (hpacked : shape.layout.Packed) :
    (object.extend shape).Sized where
  packed := hpacked
  words := length_resize _ _ _
  slots := length_resize _ _ _

/-- The contents on a larger shape are read at the locations of that shape. -/
theorem contents_extend (object : Object) (hpacked : shape.layout.Packed) :
    (object.extend shape).contents =
      shape.layout.attributes.map fun entry => (entry.1, object.valueAt entry.2) := by
  refine List.map_congr_left fun entry hentry => ?_
  rw [valueAt_extend (hpacked.index_lt hentry)]

/-- An object that gains one attribute keeps its contents and has the new attribute behind
them. -/
theorem contents_extend_append {name : NameId} {kind : Kind}
    (hlayout : shape.layout = object.shape.layout.append name kind)
    (hpacked : shape.layout.Packed) :
    ∃ value, (object.extend shape).contents = object.contents ++ [(name, value)] := by
  refine ⟨object.valueAt (object.shape.layout.nextLocation kind), ?_⟩
  rw [contents_extend object hpacked, hlayout, Layout.append, List.map_append, contents]
  rfl

/-- An object that gains one attribute stays well-formed. -/
theorem WellFormed.extend_append (h : object.WellFormed) {name : NameId} {kind : Kind}
    (hlayout : shape.layout = object.shape.layout.append name kind)
    (hpacked : shape.layout.Packed) : (object.extend shape).WellFormed where
  toSized := sized_extend object hpacked
  booleans := by
    intro entry hentry hkind
    have hrange := hpacked.index_lt_primitiveCount hentry (by rw [hkind]; rfl)
    change (resize object.words shape.layout.primitiveCount 0)[entry.2.index]? = some 0 ∨
      (resize object.words shape.layout.primitiveCount 0)[entry.2.index]? = some 1
    rw [getElem?_resize _ _ _ hrange, List.getD_eq_getElem?_getD]
    have hentry' : entry ∈ (object.shape.layout.append name kind).attributes := hlayout ▸ hentry
    rcases List.mem_append.mp hentry' with hold | hnew
    · rcases h.booleans entry hold hkind with hword | hword
      · exact Or.inl (by rw [hword]; rfl)
      · exact Or.inr (by rw [hword]; rfl)
    · -- The new word lies behind all words that there were.
      rw [List.mem_singleton] at hnew
      subst hnew
      have hprimitive : kind = .boolean := hkind
      have hindex : object.words.length ≤ (object.shape.layout.nextLocation kind).index := by
        rw [Layout.nextLocation_index, hprimitive, h.words]
        exact Nat.le_refl _
      exact Or.inl (by rw [List.getElem?_eq_none hindex]; rfl)

end Extend

section Migrate

variable {object : Object} {shape : Shape}

/-- A new object of a packed layout is well-formed. -/
theorem wellFormed_new (hpacked : shape.layout.Packed) : (new shape).WellFormed where
  packed := hpacked
  words := List.length_replicate
  slots := List.length_replicate
  booleans := by
    intro entry hentry hkind
    have hrange := hpacked.index_lt_primitiveCount hentry (by rw [hkind]; rfl)
    exact Or.inl (List.getElem?_replicate_of_lt hrange)

/-- An attribute finds room in storage of a shape that has it, in a slot of a kind that accepts
the attribute's value. -/
def FindsRoom (object : Object) (shape : Shape) (entry : NameId × Location) : Prop :=
  entry.2.index < object.areaLength entry.2.kind ∧
    ∃ target, shape.location? entry.1 = some target ∧
      target.kind.accepts (object.valueAt entry.2) = true

/-- Copying an attribute that finds room assigns its value and keeps the storage well-formed. -/
theorem copyAttribute_of_findsRoom {storage : Object} (hstorage : storage.WellFormed)
    {entry : NameId × Location} (hroom : object.FindsRoom storage.shape entry) :
    ∃ copied, object.copyAttribute storage entry = .ok copied ∧
      copied.shape = storage.shape ∧ copied.WellFormed ∧
      copied.contents = assign storage.contents entry.1 (object.valueAt entry.2) := by
  obtain ⟨hrange, target, htarget, haccepts⟩ := hroom
  have hread := Location.read_of_lt hrange
  have hwrite := Location.write_of_accepts
    (hstorage.toSized.index_lt_of_location? htarget) haccepts
  refine ⟨storage.overwrite target (object.valueAt entry.2), ?_, overwrite_shape _ _ _,
    hstorage.overwrite htarget haccepts, hstorage.toSized.contents_overwrite htarget haccepts⟩
  simp only [copyAttribute, htarget, hread, bind, Except.bind, hwrite]
  rfl

/-- Copying attributes that find room assigns their values one after the other. -/
theorem foldlM_copyAttribute (attributes : List (NameId × Location)) {storage : Object}
    (hstorage : storage.WellFormed)
    (hroom : ∀ entry ∈ attributes, object.FindsRoom storage.shape entry) :
    ∃ migrated, attributes.foldlM object.copyAttribute storage = .ok migrated ∧
      migrated.shape = storage.shape ∧ migrated.WellFormed ∧
      migrated.contents = (attributes.map fun entry => (entry.1, object.valueAt entry.2)).foldl
        (fun entries update => assign entries update.1 update.2) storage.contents := by
  induction attributes generalizing storage with
  | nil => exact ⟨storage, rfl, rfl, hstorage, rfl⟩
  | cons entry attributes ih =>
    obtain ⟨copied, hcopy, hshape, hcopied, hcontents⟩ :=
      copyAttribute_of_findsRoom hstorage (hroom entry List.mem_cons_self)
    obtain ⟨migrated, hfold, hshape', hmigrated, hcontents'⟩ := ih hcopied (by
      intro other hother
      rw [hshape]
      exact hroom other (List.mem_cons_of_mem _ hother))
    refine ⟨migrated, ?_, hshape'.trans hshape, hmigrated, ?_⟩
    · rw [List.foldlM_cons, hcopy]
      exact hfold
    · rw [hcontents', hcontents]
      rfl

/-- Migration to a packed layout in which all attributes find room assigns the contents, one
after the other, in a new object. -/
theorem migrate_of_findsRoom (object : Object) (hpacked : shape.layout.Packed)
    (hroom : ∀ entry ∈ object.shape.layout.attributes, object.FindsRoom shape entry) :
    ∃ migrated, object.migrate shape = .ok migrated ∧ migrated.shape = shape ∧
      migrated.WellFormed ∧ migrated.contents = object.contents.foldl
        (fun entries update => assign entries update.1 update.2) (new shape).contents :=
  foldlM_copyAttribute object.shape.layout.attributes (wellFormed_new hpacked) hroom

/-- A value stays accepted when its slot becomes boxed or keeps its kind. -/
theorem accepts_of_widened {kind wide : Kind} (hwide : wide = kind ∨ wide = .object)
    {value : Value} (haccepts : kind.accepts value = true) : wide.accepts value = true := by
  rcases hwide with rfl | rfl
  · exact haccepts
  · rfl

/-- When an attribute is boxed, every attribute finds room. -/
theorem Sized.findsRoom_widen (h : object.Sized) {name : NameId} {location : Location}
    (hlocation : object.shape.location? name = some location)
    (hlayout : shape.layout = object.shape.layout.widen name) {entry : NameId × Location}
    (hentry : entry ∈ object.shape.layout.attributes) : object.FindsRoom shape entry := by
  refine ⟨h.index_lt hentry, ?_⟩
  have haccepts := accepts_valueAt object entry.2
  rw [Shape.location?, hlayout]
  by_cases hname : entry.1 = name
  · obtain ⟨boxed, hboxed, hkind⟩ := h.packed.location?_widen_self hlocation
    exact ⟨boxed, hname ▸ hboxed, accepts_of_widened (Or.inr hkind) haccepts⟩
  · obtain ⟨moved, hmoved, hkind⟩ :=
      h.packed.location?_widen_of_ne hlocation hname (h.packed.location?_of_mem hentry)
    exact ⟨moved, hmoved, accepts_of_widened (Or.inl hkind) haccepts⟩

/-- An object of which one attribute is boxed keeps its contents. -/
theorem Sized.migrate_widen (h : object.Sized) {name : NameId} {location : Location}
    (hlocation : object.shape.location? name = some location)
    (hlayout : shape.layout = object.shape.layout.widen name) :
    ∃ migrated, object.migrate shape = .ok migrated ∧ migrated.shape = shape ∧
      migrated.WellFormed ∧ migrated.contents = object.contents := by
  have hpacked : shape.layout.Packed := hlayout ▸ h.packed.widen name
  obtain ⟨migrated, hmigrate, hshape, hmigrated, hcontents⟩ :=
    migrate_of_findsRoom object hpacked fun entry hentry =>
      h.findsRoom_widen hlocation hlayout hentry
  refine ⟨migrated, hmigrate, hshape, hmigrated, ?_⟩
  -- The new object has the same names in the same order, so nothing of it is left.
  have hkeys : object.contents.map Prod.fst = (new shape).contents.map Prod.fst := by
    rw [map_fst_contents, map_fst_contents]
    change _ = shape.layout.attributes.map Prod.fst
    rw [hlayout, Layout.map_fst_widen]
  have hnodup : ((new shape).contents.map Prod.fst).Nodup := by
    rw [map_fst_contents]
    exact hpacked.nodup
  rw [hcontents, foldl_assign_of_keys_eq _ _ hkeys hnodup]

end Migrate

end Object

end ShapedObjects
