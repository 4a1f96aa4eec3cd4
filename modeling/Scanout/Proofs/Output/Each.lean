import Scanout.Output.View

/-!
Changing some outputs of a device. An identity stands for the first output that has it, so a change
that is made for each of some identities reaches one output of each and no other: `find?_changeEach`
says what is found afterwards, and `filter_changeEach` that the rest is as it was.
-/

set_option autoImplicit false
set_option relaxedAutoImplicit false

namespace Scanout.Output

/-- The views with the first one of an identity changed. -/
def changeFirst (change : View → View) (id : Id) : List View → List View
  | [] => []
  | view :: rest =>
    if view.id = id then change view :: rest else view :: changeFirst change id rest

/-- The views changed for some identities, one after another. -/
def changeEach (change : View → View) : List Id → List View → List View
  | [], views => views
  | id :: rest, views => changeEach change rest (changeFirst change id views)

/-- No view of an identity is on but the first. -/
def FirstOnly (views : List View) : Prop :=
  views.Pairwise fun first later ↦ first.id = later.id → later.power = .off

/-- A view that is on is the one that its identity stands for. -/
theorem FirstOnly.find?_eq {views : List View} (hfirst : FirstOnly views) {view : View}
    (hview : view ∈ views) (hactive : view.isActive = true) :
    views.find? (fun other ↦ other.id = view.id) = some view := by
  induction views with
  | nil => cases hview
  | cons head rest ih =>
    rw [FirstOnly, List.pairwise_cons] at hfirst
    rcases List.mem_cons.mp hview with rfl | hrest
    · rw [List.find?_cons_of_pos (by simp)]
    · have hother : head.id ≠ view.id := by
        intro heq
        rw [View.isActive, hfirst.1 view hrest heq] at hactive
        cases hactive
      rw [List.find?_cons_of_neg (by simpa using hother), ih hfirst.2 hrest]

theorem mem_changeFirst {change : View → View} {id : Id} {views : List View} {view : View}
    (hview : view ∈ changeFirst change id views) :
    view ∈ views ∨ ∃ before ∈ views, before.id = id ∧ view = change before := by
  induction views with
  | nil => cases hview
  | cons head rest ih =>
    rw [changeFirst] at hview
    split at hview
    · rename_i hid
      rcases List.mem_cons.mp hview with rfl | hrest
      · exact .inr ⟨head, List.mem_cons_self, hid, rfl⟩
      · exact .inl (List.mem_cons_of_mem _ hrest)
    · rcases List.mem_cons.mp hview with rfl | hrest
      · exact .inl List.mem_cons_self
      · exact (ih hrest).imp (List.mem_cons_of_mem _) fun ⟨before, hbefore, hchange⟩ ↦
          ⟨before, List.mem_cons_of_mem _ hbefore, hchange⟩

variable (change : View → View) (hwiring : ∀ view, (change view).wiring = view.wiring)
include hwiring

theorem id_change (view : View) : (change view).id = view.id := by
  rw [View.id, View.id, hwiring]

theorem map_wiring_changeFirst (id : Id) (views : List View) :
    (changeFirst change id views).map View.wiring = views.map View.wiring := by
  induction views with
  | nil => rfl
  | cons view rest ih =>
    rw [changeFirst]
    split
    · rw [List.map_cons, List.map_cons, hwiring]
    · rw [List.map_cons, List.map_cons, ih]

theorem map_wiring_changeEach (ids : List Id) (views : List View) :
    (changeEach change ids views).map View.wiring = views.map View.wiring := by
  induction ids generalizing views with
  | nil => rfl
  | cons id rest ih => rw [changeEach, ih, map_wiring_changeFirst change hwiring]

theorem find?_changeFirst (id other : Id) (views : List View) :
    (changeFirst change id views).find? (fun view ↦ view.id = other) =
      (views.find? fun view ↦ view.id = other).map fun view ↦
        if other = id then change view else view := by
  induction views with
  | nil => rfl
  | cons view rest ih =>
    rw [changeFirst]
    by_cases hid : view.id = id
    · rw [if_pos hid, List.find?_cons, List.find?_cons, id_change change hwiring]
      by_cases hother : view.id = other
      · simp [hother, ← hid]
      · -- Another identity is looked for further on, where nothing was changed.
        have hne : other ≠ id := fun heq ↦ hother (hid.trans heq.symm)
        simp [hother, hne]
    · rw [if_neg hid, List.find?_cons, List.find?_cons, ih]
      by_cases hother : view.id = other
      · simp [hother, show other ≠ id from fun heq ↦ hid (hother.trans heq)]
      · simp [hother]

/-- What an identity stands for is changed if the identity is one of those named, however often it
is named. -/
theorem find?_changeEach (hagain : ∀ view, change (change view) = change view) (ids : List Id)
    (other : Id) (views : List View) :
    (changeEach change ids views).find? (fun view ↦ view.id = other) =
      (views.find? fun view ↦ view.id = other).map fun view ↦
        if other ∈ ids then change view else view := by
  induction ids generalizing views with
  | nil => simp [changeEach]
  | cons id rest ih =>
    rw [changeEach, ih, find?_changeFirst change hwiring, Option.map_map]
    congr 1
    funext view
    by_cases hid : other = id <;> by_cases hrest : other ∈ rest <;> simp [hid, hrest, hagain]

theorem filter_changeFirst (keep : Id → Bool) {id : Id} (hid : keep id = false)
    (views : List View) :
    (changeFirst change id views).filter (fun view ↦ keep view.id) =
      views.filter fun view ↦ keep view.id := by
  induction views with
  | nil => rfl
  | cons view rest ih =>
    rw [changeFirst]
    split
    · rename_i heq
      rw [List.filter_cons_of_neg (by simp [id_change change hwiring, heq, hid]),
        List.filter_cons_of_neg (by simp [heq, hid])]
    · rw [List.filter_cons, List.filter_cons, ih]

/-- The views of other identities are as they were. -/
theorem filter_changeEach (keep : Id → Bool) {ids : List Id} (hids : ∀ id ∈ ids, keep id = false)
    (views : List View) :
    (changeEach change ids views).filter (fun view ↦ keep view.id) =
      views.filter fun view ↦ keep view.id := by
  induction ids generalizing views with
  | nil => rfl
  | cons id rest ih =>
    rw [List.forall_mem_cons] at hids
    rw [changeEach, ih hids.2, filter_changeFirst change hwiring keep hids.1]

/-- Changes for two identities do not meet. -/
theorem changeFirst_comm {other : View → View} (hother : ∀ view, (other view).wiring = view.wiring)
    {id late : Id} (hne : id ≠ late) (views : List View) :
    changeFirst change id (changeFirst other late views) =
      changeFirst other late (changeFirst change id views) := by
  induction views with
  | nil => rfl
  | cons view rest ih =>
    by_cases hid : view.id = id
    · subst hid
      have hchanged : (change view).id ≠ late := by rwa [id_change change hwiring]
      simp only [changeFirst, hne, hchanged, if_true, if_false]
    · by_cases hlate : view.id = late
      · subst hlate
        have hchanged : (other view).id ≠ id := by rwa [id_change other hother]
        simp only [changeFirst, hid, hchanged, if_true, if_false]
      · simp only [changeFirst, hid, hlate, if_false, ih]

theorem changeEach_changeFirst {other : View → View}
    (hother : ∀ view, (other view).wiring = view.wiring) {ids : List Id} {late : Id}
    (hlate : late ∉ ids) (views : List View) :
    changeEach change ids (changeFirst other late views) =
      changeFirst other late (changeEach change ids views) := by
  induction ids generalizing views with
  | nil => rfl
  | cons id rest ih =>
    rw [List.mem_cons, not_or] at hlate
    rw [changeEach, changeFirst_comm change hwiring hother (Ne.symm hlate.1), ih hlate.2,
      changeEach]

/-- Neither do changes for two lists that have no identity in common. -/
theorem changeEach_comm {other : View → View} (hother : ∀ view, (other view).wiring = view.wiring)
    {ids late : List Id} (hapart : ∀ id ∈ late, id ∉ ids) (views : List View) :
    changeEach change ids (changeEach other late views) =
      changeEach other late (changeEach change ids views) := by
  induction late generalizing views with
  | nil => rfl
  | cons id rest ih =>
    rw [List.forall_mem_cons] at hapart
    rw [changeEach, ih hapart.2, changeEach_changeFirst change hwiring hother hapart.1, changeEach]

theorem FirstOnly.changeFirst {views : List View} (hfirst : FirstOnly views) (id : Id) :
    FirstOnly (changeFirst change id views) := by
  induction views with
  | nil => exact .nil
  | cons head rest ih =>
    rw [FirstOnly, List.pairwise_cons] at hfirst
    rw [Output.changeFirst]
    split
    · refine List.pairwise_cons.mpr ⟨fun later hlater heq ↦ hfirst.1 later hlater ?_, hfirst.2⟩
      rw [← heq, id_change change hwiring]
    · rename_i hid
      refine List.pairwise_cons.mpr ⟨fun later hlater heq ↦ ?_, ih hfirst.2⟩
      rcases mem_changeFirst hlater with hrest | ⟨before, -, hbefore, rfl⟩
      · exact hfirst.1 later hrest heq
      · rw [id_change change hwiring, hbefore] at heq
        exact absurd heq hid

theorem FirstOnly.changeEach {views : List View} (hfirst : FirstOnly views) (ids : List Id) :
    FirstOnly (changeEach change ids views) := by
  induction ids generalizing views with
  | nil => exact hfirst
  | cons id rest ih => exact ih (hfirst.changeFirst change hwiring id)

end Scanout.Output
