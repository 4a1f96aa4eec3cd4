/-!
Order as a condition on what came before. A list of events is guarded by a rule when the rule
admits each of its events after those that precede it. A guarded list stays guarded wherever it is
cut off, so a statement of this form covers every point at which a run may stop.

Most rules ask for something to have happened. They are checked with `Guarded.append` where it has:
nothing before that point needs it, and everything after it comes late enough.
-/

set_option autoImplicit false
set_option relaxedAutoImplicit false

namespace Scanout

variable {α : Type}

/-- The rule admits every event after the events before it. -/
def Guarded (rule : List α → α → Prop) (events : List α) : Prop :=
  ∀ before event after, events = before ++ event :: after → rule before event

namespace Guarded

variable {rule : List α → α → Prop} {early late : List α}

theorem nil : Guarded rule [] := by
  intro before event after heq
  cases before <;> cases heq

/-- What was guarded is so when it is cut off. -/
theorem cut {events whole : List α} (hwhole : Guarded rule whole)
    (hcut : events <+: whole) : Guarded rule events := by
  obtain ⟨rest, rfl⟩ := hcut
  rintro before event after rfl
  exact hwhole before event (after ++ rest) (by simp)

/-- The events of a sequence are those of its parts, the later ones after all the earlier ones. -/
theorem append (hearly : Guarded rule early)
    (hlate : Guarded (fun before event ↦ rule (early ++ before) event) late) :
    Guarded rule (early ++ late) := by
  intro before event after heq
  rcases List.append_eq_append_iff.mp heq with ⟨middle, rfl, hlater⟩ | ⟨middle, rfl, hearlier⟩
  · exact hlate middle event after hlater
  · cases middle with
    | nil =>
      have hfirst := hlate [] event after (by simpa using hearlier.symm)
      rwa [List.append_nil, List.append_nil] at hfirst
    | cons head rest =>
      obtain ⟨rfl, rfl⟩ := List.cons.inj hearlier
      exact hearly before event rest rfl

/-- Events that the rule admits anywhere. -/
theorem of_forall {events : List α} (hfree : ∀ event ∈ events, ∀ before, rule before event) :
    Guarded rule events := by
  rintro before event after rfl
  exact hfree event (by simp) before

end Guarded

end Scanout
