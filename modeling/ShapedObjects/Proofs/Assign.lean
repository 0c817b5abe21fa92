import ShapedObjects.Name

/-!
# Updating ordered lists of attributes

The attributes of an object are a list without repeated names, in the order in which
they were added. Assigning to one of them replaces its item in place, or appends it
when the name is new. This file defines that update and its algebra.
-/

namespace ShapedObjects

/-- The list with the item of one attribute replaced where it stands, or appended if the
attribute is new. -/
def assign {α : Type} : List (NameId × α) → NameId → α → List (NameId × α)
  | [], name, item => [(name, item)]
  | entry :: entries, name, item =>
    if entry.1 = name then (name, item) :: entries else entry :: assign entries name item

section Lookup

variable {κ α : Type} [BEq κ] {entries : List (κ × α)} {name : κ} {item : α}

/-- Items that are changed one by one are found under the same names. -/
theorem lookup_map {β : Type} (f : α → β) :
    (entries.map fun entry => (entry.1, f entry.2)).lookup name =
      (entries.lookup name).map f := by
  induction entries with
  | nil => rfl
  | cons entry entries ih =>
    rw [List.map_cons, List.lookup_cons, List.lookup_cons, ih]
    split <;> rfl

variable [LawfulBEq κ]

/-- The first entry is skipped when another name is looked up. -/
theorem lookup_cons_of_ne {entry : κ × α} (hne : name ≠ entry.1) :
    (entry :: entries).lookup name = entries.lookup name := by
  have htest : (name == entry.1) = false := by simpa using hne
  rw [List.lookup_cons, htest]

/-- A name has no item exactly if it does not occur among the names of the list. -/
theorem lookup_eq_none_iff_not_mem : entries.lookup name = none ↔ name ∉ entries.map Prod.fst := by
  rw [List.lookup_eq_none_iff, List.mem_map]
  constructor
  · rintro h ⟨entry, hentry, rfl⟩
    simpa using h entry hentry
  · intro h entry hentry
    have hne : name ≠ entry.1 := fun heq => h ⟨entry, hentry, heq.symm⟩
    simpa using hne

/-- An item that is found under a name stands in the list under that name. -/
theorem mem_of_lookup (h : entries.lookup name = some item) : (name, item) ∈ entries := by
  obtain ⟨before, after, rfl, _⟩ := List.lookup_eq_some_iff.mp h
  simp

/-- A name under which an item is found is one of the names of the list. -/
theorem mem_map_fst_of_lookup (h : entries.lookup name = some item) :
    name ∈ entries.map Prod.fst :=
  List.mem_map_of_mem (f := Prod.fst) (mem_of_lookup h)

/-- In a list without repeated names every item is found under its name. -/
theorem lookup_of_mem (hnodup : (entries.map Prod.fst).Nodup) (hmem : (name, item) ∈ entries) :
    entries.lookup name = some item := by
  induction entries with
  | nil => simp at hmem
  | cons entry entries ih =>
    rw [List.map_cons, List.nodup_cons] at hnodup
    rcases List.mem_cons.mp hmem with rfl | hmem
    · exact List.lookup_cons_self
    · have hne : name ≠ entry.1 := by
        rintro rfl
        exact hnodup.1 (List.mem_map.mpr ⟨_, hmem, rfl⟩)
      rw [lookup_cons_of_ne hne]
      exact ih hnodup.2 hmem

end Lookup

section Assign

variable {α : Type} (entries : List (NameId × α)) (name : NameId) (item : α)

/-- The assigned item is found under its name. -/
@[simp] theorem lookup_assign_self : (assign entries name item).lookup name = some item := by
  induction entries with
  | nil => simp [assign]
  | cons entry entries ih =>
    by_cases h : entry.1 = name
    · simp [assign, h]
    · rw [assign, if_neg h, lookup_cons_of_ne (Ne.symm h), ih]

/-- The items of all other names are found as before. -/
theorem lookup_assign_of_ne {other : NameId} (hne : other ≠ name) :
    (assign entries name item).lookup other = entries.lookup other := by
  induction entries with
  | nil => exact lookup_cons_of_ne hne
  | cons entry entries ih =>
    by_cases h : entry.1 = name
    · subst h
      rw [assign, if_pos rfl, lookup_cons_of_ne hne]
      exact lookup_cons_of_ne hne
    · rw [assign, if_neg h, List.lookup_cons, List.lookup_cons, ih]

/-- A new name is appended. -/
theorem assign_of_not_mem (h : name ∉ entries.map Prod.fst) :
    assign entries name item = entries ++ [(name, item)] := by
  induction entries with
  | nil => rfl
  | cons entry entries ih =>
    rw [List.map_cons, List.mem_cons, not_or] at h
    rw [assign, if_neg (Ne.symm h.1), ih h.2, List.cons_append]

/-- A name behind some others is reached past them. -/
theorem assign_append_of_not_mem (before : List (NameId × α)) (h : name ∉ before.map Prod.fst) :
    assign (before ++ entries) name item = before ++ assign entries name item := by
  induction before with
  | nil => rfl
  | cons entry before ih =>
    rw [List.map_cons, List.mem_cons, not_or] at h
    rw [List.cons_append, assign, if_neg (Ne.symm h.1), ih h.2, List.cons_append]

/-- Of two assignments to one name the second counts. -/
@[simp] theorem assign_assign (first : α) :
    assign (assign entries name first) name item = assign entries name item := by
  induction entries with
  | nil => simp [assign]
  | cons entry entries ih =>
    by_cases h : entry.1 = name
    · simp [assign, h]
    · rw [assign, if_neg h, assign, if_neg h, ih, assign, if_neg h]

/-- Assigning the item that a name has already changes nothing. -/
theorem assign_eq_self (h : entries.lookup name = some item) :
    assign entries name item = entries := by
  obtain ⟨before, after, rfl, hbefore⟩ := List.lookup_eq_some_iff.mp h
  have hnot : name ∉ before.map Prod.fst := by
    intro hmem
    obtain ⟨entry, hentry, rfl⟩ := List.mem_map.mp hmem
    simpa using hbefore entry hentry
  rw [assign_append_of_not_mem _ _ _ _ hnot, assign, if_pos rfl]

/-- In a list without repeated names an assignment is a change of one item. -/
theorem assign_eq_map (hmem : name ∈ entries.map Prod.fst)
    (hnodup : (entries.map Prod.fst).Nodup) :
    assign entries name item =
      entries.map fun entry => if entry.1 = name then (entry.1, item) else entry := by
  induction entries with
  | nil => simp at hmem
  | cons entry entries ih =>
    rw [List.map_cons, List.nodup_cons] at hnodup
    by_cases h : entry.1 = name
    · have hrest : ∀ other ∈ entries, other.1 ≠ name := by
        rintro other hother rfl
        exact hnodup.1 (h ▸ List.mem_map.mpr ⟨other, hother, rfl⟩)
      rw [assign, if_pos h, List.map_cons, if_pos h, h]
      congr 1
      calc entries = entries.map id := (List.map_id entries).symm
        _ = _ := List.map_congr_left fun other hother => (if_neg (hrest other hother)).symm
    · have hrest := List.mem_of_ne_of_mem (Ne.symm h) hmem
      rw [assign, if_neg h, List.map_cons, if_neg h, ih hrest hnodup.2]

/-- Assigning to a name of the list changes none of its names. -/
theorem map_fst_assign (hmem : name ∈ entries.map Prod.fst) :
    (assign entries name item).map Prod.fst = entries.map Prod.fst := by
  induction entries with
  | nil => cases hmem
  | cons entry entries ih =>
    by_cases hname : entry.1 = name
    · simp [assign, hname]
    · have hrest := List.mem_of_ne_of_mem (Ne.symm hname) hmem
      rw [assign, if_neg hname, List.map_cons, List.map_cons, ih hrest]

/-- Assignments to two names commute if one of them is in the list, so that at most one is
appended. -/
theorem assign_comm {first second : NameId} (hne : first ≠ second)
    (hmem : first ∈ entries.map Prod.fst) (item other : α) :
    assign (assign entries first item) second other =
      assign (assign entries second other) first item := by
  induction entries with
  | nil => cases hmem
  | cons entry entries ih =>
    by_cases hfirst : entry.1 = first
    · simp [assign, hfirst, hne]
    · have hrest := List.mem_of_ne_of_mem (Ne.symm hfirst) hmem
      by_cases hsecond : entry.1 = second
      · simp [assign, hsecond, hne.symm]
      · simp [assign, hfirst, hsecond, ih hrest]

/-- After some assignments to distinct names, each of these names has the item that was assigned to
it, and all others have the item that they had. -/
theorem lookup_foldl_assign (updates : List (NameId × α)) (hnodup : (updates.map Prod.fst).Nodup)
    (entries : List (NameId × α)) (name : NameId) :
    (updates.foldl (fun entries update => assign entries update.1 update.2) entries).lookup name =
      (updates.lookup name).or (entries.lookup name) := by
  induction updates generalizing entries with
  | nil => rfl
  | cons update updates ih =>
    rw [List.map_cons, List.nodup_cons] at hnodup
    rw [List.foldl_cons, ih hnodup.2]
    by_cases h : name = update.1
    · have hlast := lookup_eq_none_iff_not_mem.mpr hnodup.1
      rw [h, hlast, lookup_assign_self, List.lookup_cons_self]
      rfl
    · rw [lookup_assign_of_ne _ _ _ h, lookup_cons_of_ne h]

/-- Assigning items to all names of a list in their order leaves nothing of the list but its
names. -/
theorem foldl_assign_of_keys_eq (updates : List (NameId × α))
    (hkeys : updates.map Prod.fst = entries.map Prod.fst)
    (hnodup : (entries.map Prod.fst).Nodup) :
    updates.foldl (fun entries update => assign entries update.1 update.2) entries = updates := by
  -- Behind the updates that were made, the rest of the list is still untouched.
  suffices h : ∀ (made rest : List (NameId × α)),
      updates.map Prod.fst = rest.map Prod.fst → ((made ++ rest).map Prod.fst).Nodup →
      updates.foldl (fun entries update => assign entries update.1 update.2) (made ++ rest) =
        made ++ updates by
    exact h [] entries hkeys hnodup
  clear hkeys hnodup
  induction updates with
  | nil =>
    intro made rest hkeys _
    have hrest : rest = [] := by simpa using hkeys.symm
    simp [hrest]
  | cons update updates ih =>
    intro made rest hkeys hnodup
    cases rest with
    | nil => simp at hkeys
    | cons entry rest =>
      rw [List.map_cons, List.map_cons, List.cons.injEq] at hkeys
      obtain ⟨hname, hkeys⟩ := hkeys
      have hnot : update.1 ∉ made.map Prod.fst := by
        rw [List.map_append, List.nodup_append] at hnodup
        intro hmem
        exact hnodup.2.2 _ hmem _ (by simp [hname]) rfl
      have hstep : assign (made ++ entry :: rest) update.1 update.2 =
          (made ++ [update]) ++ rest := by
        rw [assign_append_of_not_mem _ _ _ _ hnot, assign, if_pos hname.symm]
        simp
      rw [List.foldl_cons, hstep, ih (made ++ [update]) rest hkeys (by simpa [hname] using hnodup)]
      simp

end Assign

end ShapedObjects
