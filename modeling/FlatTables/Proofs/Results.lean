/-!
# Results made from results

What the parts of a computation gave when the whole of it succeeded or failed, for the ways in
which results are put together: one after the other, mapped, and along a list. A list on which not
every item is as it should be has a first one that is not (`forall_or_exists_first`).
-/

set_option autoImplicit false
set_option relaxedAutoImplicit false

namespace FlatTables

variable {ε α β : Type} {fault : ε}

theorem exists_of_bind_eq_ok {first : Except ε α} {following : α → Except ε β} {result : β}
    (hbind : (first >>= following) = .ok result) :
    ∃ value, first = .ok value ∧ following value = .ok result := by
  cases first with
  | error found => cases hbind
  | ok value => exact ⟨value, rfl, hbind⟩

theorem of_bind_eq_error {first : Except ε α} {following : α → Except ε β}
    (hbind : (first >>= following) = .error fault) :
    first = .error fault ∨ ∃ value, first = .ok value ∧ following value = .error fault := by
  cases first with
  | error found =>
    cases hbind
    exact Or.inl rfl
  | ok value => exact Or.inr ⟨value, rfl, hbind⟩

theorem exists_of_map_eq_ok {found : Except ε α} {map : α → β} {result : β}
    (hmap : found.map map = .ok result) : ∃ value, found = .ok value ∧ map value = result := by
  cases found with
  | error other => cases hmap
  | ok value => exact ⟨value, rfl, Except.ok.inj hmap⟩

theorem eq_error_of_map {found : Except ε α} {map : α → β} (hmap : found.map map = .error fault) :
    found = .error fault := by
  cases found with
  | error other =>
    cases hmap
    rfl
  | ok value => cases hmap

theorem eq_ok_of_mapError {δ : Type} {found : Except ε α} {change : ε → δ} {value : α}
    (hfound : found.mapError change = .ok value) : found = .ok value := by
  cases found with
  | error other => cases hfound
  | ok result => exact congrArg Except.ok (Except.ok.inj hfound)

theorem eq_ok_of_toOption {found : Except ε α} {value : α} (hfound : found.toOption = some value) :
    found = .ok value := by
  cases found with
  | error other => cases hfound
  | ok result => exact congrArg Except.ok (Option.some.inj hfound)

/-- All items of a list have a property, or there is a first one that has not. -/
theorem forall_or_exists_first (p : α → Prop) [DecidablePred p] (items : List α) :
    (∀ item ∈ items, p item) ∨ ∃ front item back, items = front ++ item :: back ∧
      (∀ earlier ∈ front, p earlier) ∧ ¬ p item := by
  cases hfirst : items.find? fun item ↦ ¬ p item with
  | none => exact Or.inl (by simpa using List.find?_eq_none.mp hfirst)
  | some item =>
    obtain ⟨hitem, front, back, hitems, hfront⟩ := List.find?_eq_some_iff_append.mp hfirst
    exact Or.inr ⟨front, item, back, hitems, by simpa using hfront, by simpa using hitem⟩

/-- Along a list, the fault is that of one of the items. -/
theorem exists_of_mapM_eq_error {check : α → Except ε β} (items : List α)
    (hitems : items.mapM check = .error fault) : ∃ item ∈ items, check item = .error fault := by
  induction items with
  | nil => cases hitems
  | cons item items ih =>
    rw [List.mapM_cons] at hitems
    rcases of_bind_eq_error hitems with hitem | ⟨value, -, hrest⟩
    · exact ⟨item, List.mem_cons_self, hitem⟩
    · rcases of_bind_eq_error hrest with hrest | ⟨values, -, hdone⟩
      · obtain ⟨other, hother, hfault⟩ := ih hrest
        exact ⟨other, List.mem_cons_of_mem _ hother, hfault⟩
      · cases hdone

/-- Along a list, every item gives what is worked out for it. -/
theorem mapM_eq_pure_map {m : Type → Type} [Monad m] [LawfulMonad m] {check : α → m β}
    {value : α → β} (items : List α) (hitems : ∀ item ∈ items, check item = pure (value item)) :
    items.mapM check = pure (items.map value) := by
  induction items with
  | nil => rw [List.mapM_nil, List.map_nil]
  | cons item items ih =>
    have hrest := ih fun other hother ↦ hitems other (List.mem_cons_of_mem _ hother)
    rw [List.mapM_cons, hitems item List.mem_cons_self, pure_bind, hrest, pure_bind, List.map_cons]

/-- Along a list that succeeded, every value is that of an item. -/
theorem exists_of_mem_of_mapM_eq_ok {check : α → Except ε β} (items : List α) :
    ∀ {values : List β}, items.mapM check = .ok values →
      ∀ value ∈ values, ∃ item ∈ items, check item = .ok value := by
  induction items with
  | nil =>
    intro values hitems value hvalue
    cases hitems
    exact absurd hvalue List.not_mem_nil
  | cons item items ih =>
    intro values hitems value hvalue
    rw [List.mapM_cons] at hitems
    obtain ⟨first, hfirst, hrest⟩ := exists_of_bind_eq_ok hitems
    obtain ⟨rest, htail, hdone⟩ := exists_of_bind_eq_ok hrest
    cases hdone
    rcases List.mem_cons.mp hvalue with rfl | hvalue
    · exact ⟨item, List.mem_cons_self, hfirst⟩
    · obtain ⟨other, hother, hcheck⟩ := ih htail value hvalue
      exact ⟨other, List.mem_cons_of_mem _ hother, hcheck⟩

end FlatTables
