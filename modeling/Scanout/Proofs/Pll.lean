import Scanout.Pll
import Scanout.Proofs.Checked

/-!
What is known of a setting that the search for a pixel clock comes up with. The search keeps one of
the candidates that it looked at, so whatever holds of every candidate holds of the setting; that
its multiplier fits the feedback field is one case.

The search itself is bounded by the products of its dividers. Where `Limits.Sized` bounds them, no
step of it leaves its word for any target (`synthesize_faultless`). The steps that `candidate?`
takes over the natural numbers come to the same in words (`candidateWords?_eq`).
-/

set_option autoImplicit false
set_option relaxedAutoImplicit false

namespace Scanout.Pll

variable {limits : Limits} {target : Nat} {kind : Candidate → Prop}

/-- Every candidate that the limits accept is of a kind. -/
def Limits.Accepts (limits : Limits) (target : Nat) (kind : Candidate → Prop) : Prop :=
  ∀ reference post candidate,
    limits.candidate? target reference post = .ok (some candidate) → kind candidate

theorem Candidate.kind_improve {best : Option Candidate} {candidate : Candidate}
    (hbest : ∀ current ∈ best, kind current) (hcandidate : kind candidate) :
    kind (candidate.improve target best) := by
  cases best with
  | none => exact hcandidate
  | some current =>
    rw [improve]
    by_cases hbetter : Better target candidate current
    · rw [if_pos hbetter]
      exact hcandidate
    · rw [if_neg hbetter]
      exact hbest current rfl

namespace Limits

theorem kind_bestPost (haccepts : limits.Accepts target kind) {reference count post : Nat}
    {best found : Option Candidate} (hbest : ∀ candidate ∈ best, kind candidate)
    (hfound : limits.bestPost target reference count post best = .ok found) :
    ∀ candidate ∈ found, kind candidate := by
  induction count generalizing post best with
  | zero =>
    cases hfound
    exact hbest
  | succ count ih =>
    rw [bestPost] at hfound
    split at hfound
    · cases hfound
    · exact ih hbest hfound
    · rename_i candidate hcandidate
      refine ih ?_ hfound
      rintro _ ⟨⟩
      exact Candidate.kind_improve hbest (haccepts _ _ _ hcandidate)

theorem kind_bestReference (haccepts : limits.Accepts target kind) {count reference : Nat}
    {best found : Option Candidate} (hbest : ∀ candidate ∈ best, kind candidate)
    (hfound : limits.bestReference target count reference best = .ok found) :
    ∀ candidate ∈ found, kind candidate := by
  induction count generalizing reference best with
  | zero =>
    cases hfound
    exact hbest
  | succ count ih =>
    obtain ⟨start, -, hfound⟩ := Except.bind_eq_ok.mp hfound
    obtain ⟨stop, -, hfound⟩ := Except.bind_eq_ok.mp hfound
    obtain ⟨middle, hmiddle, hfound⟩ := Except.bind_eq_ok.mp hfound
    exact ih (kind_bestPost haccepts hbest hmiddle) hfound

end Limits

/-- A setting comes from a candidate that the limits accept. -/
theorem exists_candidate {target : UInt32} (haccepts : limits.Accepts target.toNat kind)
    {solution : Solution} (hsolution : synthesize limits target = .ok solution) :
    ∃ candidate, kind candidate ∧ solution = candidate.solution := by
  rw [synthesize] at hsolution
  split at hsolution
  · cases hsolution
  obtain ⟨range, -, hsolution⟩ := Except.bind_eq_ok.mp hsolution
  obtain ⟨found, hfound, hsolution⟩ := Except.bind_eq_ok.mp hsolution
  have hnone : ∀ candidate ∈ (none : Option Candidate), kind candidate := by simp
  have hkind := Limits.kind_bestReference haccepts hnone (Failure.ofFault_eq_ok.mp hfound)
  cases found with
  | none => cases hsolution
  | some candidate =>
    cases hsolution
    exact ⟨candidate, hkind candidate rfl, rfl⟩

/-- The multiplier of a candidate fits the feedback field. -/
theorem Limits.accepts_multiplier (limits : Limits) (target : Nat) :
    limits.Accepts target fun candidate ↦ candidate.multiplier ≤ multiplierLimit := by
  intro reference post candidate hcandidate
  obtain ⟨product, -, hcandidate⟩ := Except.bind_eq_ok.mp hcandidate
  split at hcandidate
  · cases hcandidate
  obtain ⟨scaled, -, hcandidate⟩ := Except.bind_eq_ok.mp hcandidate
  dsimp only at hcandidate
  split at hcandidate
  · cases hcandidate
  rename_i hmultiplier
  cases hcandidate
  rw [not_or, Nat.not_lt] at hmultiplier
  exact Nat.le_trans hmultiplier.2 (Nat.min_le_right _ _)

/-- What a candidate's clock is divided by is not zero: with a multiplier it has dividers. -/
theorem Limits.accepts_divisor (limits : Limits) (target : Nat) :
    limits.Accepts target fun candidate ↦ 0 < feedbackScale * candidate.product := by
  intro reference post candidate haccepted
  obtain ⟨product, hproduct, haccepted⟩ := Except.bind_eq_ok.mp haccepted
  obtain ⟨-, rfl⟩ := Checked.mul_eq_ok.mp hproduct
  split at haccepted
  · cases haccepted
  obtain ⟨scaled, hscaled, haccepted⟩ := Except.bind_eq_ok.mp haccepted
  obtain ⟨-, rfl⟩ := Checked.mul_eq_ok.mp hscaled
  dsimp only at haccepted
  split at haccepted
  · cases haccepted
  rename_i haccepts
  rw [not_or] at haccepts
  cases haccepted
  refine Nat.pos_of_ne_zero fun hzero ↦ haccepts.1 ?_
  rw [show feedbackScale * (reference * post) = 0 from hzero, Nat.mul_zero]
  exact Nat.div_eq_of_lt (by decide)

/-- The candidate of a pair of dividers, with every step of it in words. -/
def Limits.candidateWords? (limits : Limits) (target reference post : Nat) :
    Except Fault (Option Candidate) := do
  let product ← Checked.mul UInt32.size reference post
  if product < limits.minProduct.toNat then
    return none
  let scale ← Checked.mul UInt64.size feedbackScale product
  let scaled ← Checked.mul UInt64.size target scale
  let multiplier := (scaled + (scaledCrystal - 1)) / scaledCrystal
  if multiplier = 0 ∨ min limits.maxMultiplier.toNat multiplierLimit < multiplier then
    return none
  let steps ← Checked.mul UInt64.size multiplier scaledCrystal
  return some { reference, post, multiplier, achieved := steps / scale }

/-- A multiplier that the feedback field holds is too small for its clock to leave the word. -/
theorem steps_lt {multiplier : Nat} (hmultiplier : multiplier ≤ multiplierLimit) :
    multiplier * scaledCrystal < UInt64.size :=
  Nat.lt_of_le_of_lt (Nat.mul_le_mul_right scaledCrystal hmultiplier) (by decide)

/-- In words, a pair of dividers comes to the same candidate. -/
theorem Limits.candidateWords?_eq (limits : Limits) (target reference post : Nat) :
    limits.candidateWords? target reference post = limits.candidate? target reference post := by
  unfold candidateWords? candidate?
  refine Except.bind_congr fun product hproduct ↦ ?_
  obtain ⟨hword, rfl⟩ := Checked.mul_eq_ok.mp hproduct
  have hscale : feedbackScale * (reference * post) < UInt64.size := by
    simp only [feedbackScale, UInt32.size, UInt64.size] at hword ⊢
    omega
  split
  · rfl
  rw [Checked.mul_eq_ok.mpr ⟨hscale, rfl⟩, Except.ok_bind]
  refine Except.bind_congr fun scaled _ ↦ ?_
  dsimp only
  split
  · rfl
  rename_i haccepts
  rw [not_or, Nat.not_lt] at haccepts
  have hsteps := steps_lt (Nat.le_trans haccepts.2 (Nat.min_le_right _ _))
  rw [Checked.mul_eq_ok.mpr ⟨hsteps, rfl⟩, Except.ok_bind]

theorem multiplier_le {target : UInt32} {solution : Solution}
    (hsolution : synthesize limits target = .ok solution) :
    solution.multiplier.toNat ≤ multiplierLimit := by
  obtain ⟨candidate, hcandidate, rfl⟩ :=
    exists_candidate (limits.accepts_multiplier target.toNat) hsolution
  exact Nat.le_trans (Nat.mod_le _ _) hcandidate

/-- The multiplier of a setting is a byte. -/
theorem toNat_toUInt8_multiplier {target : UInt32} {solution : Solution}
    (hsolution : synthesize limits target = .ok solution) :
    solution.multiplier.toUInt8.toNat = solution.multiplier.toNat :=
  Nat.mod_eq_of_lt (Nat.lt_of_le_of_lt (multiplier_le hsolution) (by decide))

/-!
That the search does not fault. The largest product that it forms for a reference divider is the one
with the last post divider, so a bound on these bounds every step.
-/

/-- The products of the dividers in range are small enough for every target. -/
structure Limits.Sized (limits : Limits) : Prop where
  ordered : limits.reference = .fromCrystal → limits.referenceMin ≤ limits.referenceMax
  product : ∀ reference, limits.referenceMin.toNat ≤ reference →
    reference ≤ limits.referenceMax.toNat →
      feedbackScale * (reference * (reference + limits.postSpan.toNat)) < UInt32.size

namespace Limits

/-- Six reference dividers with forty post dividers each are few enough. -/
theorem sized_of_small (hmode : limits.reference = .search)
    (hmax : limits.referenceMax.toNat ≤ 6) (hspan : limits.postSpan.toNat ≤ 40) : limits.Sized := by
  refine ⟨fun hcrystal ↦ ?_, fun reference _ hreference ↦ ?_⟩
  · rw [hmode] at hcrystal
    cases hcrystal
  · have hle : reference * (reference + limits.postSpan.toNat) ≤ 6 * 46 :=
      Nat.mul_le_mul (Nat.le_trans hreference hmax) (by omega)
    simp only [feedbackScale, UInt32.size]
    omega

theorem exists_candidate? (limits : Limits) (htarget : target < UInt32.size)
    {reference post : Nat} (hproduct : feedbackScale * (reference * post) < UInt32.size) :
    ∃ found, limits.candidate? target reference post = .ok found := by
  have hword : Checked.mul UInt32.size reference post = .ok (reference * post) := by
    rw [Checked.mul_eq_ok]
    simp only [feedbackScale] at hproduct
    exact ⟨by omega, rfl⟩
  have hscaled : Checked.mul UInt64.size target (feedbackScale * (reference * post)) =
      .ok (target * (feedbackScale * (reference * post))) :=
    Checked.mul_eq_ok.mpr ⟨Nat.mul_lt_mul'' htarget hproduct, rfl⟩
  simp only [candidate?, hword, bind, Except.bind, hscaled]
  split
  · exact ⟨_, rfl⟩
  · split <;> exact ⟨_, rfl⟩

theorem exists_bestPost (limits : Limits) (htarget : target < UInt32.size) {reference last : Nat}
    (hproduct : feedbackScale * (reference * last) < UInt32.size) (count post : Nat)
    (hlast : post + count ≤ last + 1) (best : Option Candidate) :
    ∃ found, limits.bestPost target reference count post best = .ok found := by
  induction count generalizing post best with
  | zero => exact ⟨best, rfl⟩
  | succ count ih =>
    have hpost : feedbackScale * (reference * post) ≤ feedbackScale * (reference * last) :=
      Nat.mul_le_mul_left _ (Nat.mul_le_mul_left _ (by omega))
    obtain ⟨candidate, hcandidate⟩ := exists_candidate? limits htarget
      (Nat.lt_of_le_of_lt hpost hproduct)
    rw [bestPost, hcandidate]
    cases candidate <;> exact ih _ (by omega) _

theorem exists_bestReference (limits : Limits) (htarget : target < UInt32.size)
    (count reference : Nat)
    (hproduct : ∀ tried, reference ≤ tried → tried < reference + count →
      feedbackScale * (tried * (tried + limits.postSpan.toNat)) < UInt32.size)
    (best : Option Candidate) :
    ∃ found, limits.bestReference target count reference best = .ok found := by
  induction count generalizing reference best with
  | zero => exact ⟨best, rfl⟩
  | succ count ih =>
    have hlast := hproduct reference (Nat.le_refl _) (by omega)
    -- A divider of zero has products of zero, but it is also too small to leave its word.
    have hstop : reference + 1 < UInt32.size ∧
        reference + limits.postSpan.toNat < UInt32.size := by
      have hspan := limits.postSpan.toNat_lt_size
      rcases Nat.eq_zero_or_pos reference with rfl | hpos
      · exact ⟨by decide, by omega⟩
      · have hfactor : reference + limits.postSpan.toNat ≤
            reference * (reference + limits.postSpan.toNat) :=
          Nat.le_mul_of_pos_left _ hpos
        have hword : reference ≤ reference * (reference + limits.postSpan.toNat) :=
          Nat.le_trans (Nat.le_add_right _ _) hfactor
        simp only [feedbackScale] at hlast
        omega
    obtain ⟨middle, hmiddle⟩ := exists_bestPost limits htarget hlast
      (reference + limits.postSpan.toNat + 1 - (reference + 1)) (reference + 1) (by omega) best
    obtain ⟨found, hfound⟩ := ih (reference + 1)
      (fun tried hle hlt ↦ hproduct tried (by omega) (by omega)) middle
    refine ⟨found, ?_⟩
    rw [bestReference, Checked.add_eq_ok.mpr ⟨hstop.1, rfl⟩, Checked.add_eq_ok.mpr ⟨hstop.2, rfl⟩]
    simp only [bind, Except.bind, hmiddle, hfound]

/-- The dividers that are tried lie in range, if there is a range to move a divider into. -/
theorem exists_references
    (hordered : limits.reference = .fromCrystal → limits.referenceMin ≤ limits.referenceMax)
    (target : Nat) :
    ∃ low high, limits.references target = .ok (low, high) ∧ limits.referenceMin.toNat ≤ low ∧
      high ≤ limits.referenceMax.toNat := by
  unfold references
  split
  case h_1 => exact ⟨_, _, rfl, Nat.le_refl _, Nat.le_refl _⟩
  case h_2 hmode =>
    have hle : limits.referenceMin.toNat ≤ limits.referenceMax.toNat :=
      UInt32.le_iff_toNat_le.mp (hordered hmode)
    rw [Checked.clamp, if_pos hle]
    exact ⟨_, _, rfl, Nat.le_max_left _ _, Nat.max_le.mpr ⟨hle, Nat.min_le_right _ _⟩⟩

end Limits

/-- Where the products of the dividers that are tried are small enough, the search comes to a setting
or to the error that there is none. -/
theorem faultless_of_references {target : UInt32} {low high : Nat}
    (hreferences : limits.references target.toNat = .ok (low, high))
    (hproduct : ∀ tried, low ≤ tried → tried ≤ high →
      feedbackScale * (tried * (tried + limits.postSpan.toNat)) < UInt32.size) :
    Faultless (synthesize limits target) := by
  obtain ⟨found, hfound⟩ := limits.exists_bestReference target.toNat_lt_size (high + 1 - low) low
    (fun tried hle hlt ↦ hproduct tried hle (by omega)) none
  unfold synthesize
  split
  · exact .error _
  · refine .ofFault_bind hreferences (.ofFault_bind hfound ?_)
    cases found with
    | none => exact .error _
    | some candidate => exact .ok _

/-- Limits with small products never make the search fault, whatever the target. -/
theorem synthesize_faultless (hsized : limits.Sized) (target : UInt32) :
    Faultless (synthesize limits target) := by
  obtain ⟨low, high, hreferences, hlow, hhigh⟩ :=
    Limits.exists_references hsized.ordered target.toNat
  exact faultless_of_references hreferences fun tried hle hlt ↦
    hsized.product tried (Nat.le_trans hlow hle) (Nat.le_trans hlt hhigh)

end Scanout.Pll
