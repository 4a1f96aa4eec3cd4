import Scanout.Proofs.Pll.Search

/-!
How far the dividers reach, and how closely. The largest multiplier over the smallest product bounds
what any limits reach (`Limits.Admits.le_fastest`), and the usual limits reach everything up to that
bound. Above 25000 kHz their settings are less than half a percent off.

Both are found by showing a pair of dividers. Settings of a pair are off by less than the crystal
over its product, so a close one needs a large product, and the multiplier still has to fit. The
products of one reference divider are as far apart as the divider; the largest of them that fits
therefore leaves less than one step of it unused, and seven steps fit.
-/

set_option autoImplicit false
set_option relaxedAutoImplicit false

namespace Scanout.Pll

variable {limits : Limits} {target reference post : Nat}

/-- The setting of a pair of dividers, with the smallest multiplier that reaches the target. -/
def Candidate.of (target reference post : Nat) : Candidate where
  reference
  post
  multiplier := (target * (reference * post)) ⌈/⌉ crystal
  achieved := (target * (reference * post)) ⌈/⌉ crystal * crystal / (reference * post)

namespace Limits

/-- The fastest clock that limits leave room for, in kHz: the largest multiplier with the smallest
product. -/
def fastest (limits : Limits) : Nat :=
  min limits.maxMultiplier.toNat multiplierLimit * crystal / limits.minProduct.toNat

theorem Admits.le_fastest {candidate : Candidate} (hadmitted : limits.Admits target candidate)
    (hmin : 0 < limits.minProduct.toNat) : target ≤ limits.fastest := by
  rw [fastest, Nat.le_div_iff_mul_le hmin]
  calc target * limits.minProduct.toNat
      ≤ target * candidate.product := Nat.mul_le_mul_left _ hadmitted.product
    _ ≤ candidate.multiplier * crystal := hadmitted.multiplier_bounds.1
    _ ≤ min limits.maxMultiplier.toNat multiplierLimit * crystal :=
        Nat.mul_le_mul_right _ hadmitted.fits

theorem admits_of (hmin : limits.minProduct.toNat ≤ reference * post)
    (hpositive : 0 < target * (reference * post))
    (hfits : target * (reference * post) ≤
      min limits.maxMultiplier.toNat multiplierLimit * crystal) :
    limits.Admits target (.of target reference post) where
  product := hmin
  multiplier := rfl
  positive := by
    by_contra hzero
    have hle : target * (reference * post) ≤ crystal * 0 :=
      (ceilDiv_le_iff_le_mul (by decide : 0 < crystal)).mp (by simpa [Candidate.of] using hzero)
    omega
  fits := (ceilDiv_le_iff_le_mul (by decide : 0 < crystal)).mpr (by rwa [Nat.mul_comm crystal])
  achieved := rfl

end Limits

/-- What the usual limits leave of a pair of dividers. -/
theorem offers_usual (hpositive : 0 < target) (hlow : 2 ≤ reference) (hhigh : reference ≤ 6)
    (habove : reference < post) (hspan : post ≤ reference + 40) (hproduct : 21 ≤ reference * post)
    (hfits : target * (reference * post) ≤ multiplierLimit * crystal) :
    ({} : Limits).Offers target (.of target reference post) where
  tried := ⟨hlow, hhigh⟩
  above := habove
  inSpan := hspan
  admitted := Limits.admits_of hproduct (Nat.mul_pos hpositive (by omega)) hfits

theorem exists_offered_iff :
    (∃ candidate, ({} : Limits).Offers target candidate) ↔
      0 < target ∧ target ≤ ({} : Limits).fastest := by
  constructor
  · rintro ⟨candidate, hoffered⟩
    refine ⟨Nat.pos_of_ne_zero ?_, hoffered.admitted.le_fastest (by decide)⟩
    rintro rfl
    have hpositive := hoffered.admitted.positive
    rw [hoffered.admitted.multiplier, Nat.zero_mul, zero_ceilDiv] at hpositive
    exact absurd hpositive (by decide)
  · rintro ⟨hpositive, hreach⟩
    refine ⟨_, offers_usual hpositive (by decide) (by decide) (by decide : 3 < 7) (by decide)
      (by decide) ?_⟩
    exact (Nat.le_div_iff_mul_le (by decide)).mp hreach

/-- Of the products of one reference divider, the largest that fits leaves less than a step. -/
theorem exists_offered_of_steps (hpositive : 0 < target) (hlow : 3 ≤ reference)
    (hhigh : reference ≤ 6) (hseven : 7 * (reference * target) ≤ multiplierLimit * crystal)
    (hlast : multiplierLimit * crystal < (reference + 41) * (reference * target)) :
    ∃ candidate, ({} : Limits).Offers target candidate ∧
      200 * crystal ≤ target * candidate.product := by
  have hstep : 0 < reference * target := Nat.mul_pos (by omega) hpositive
  obtain ⟨post, hpost⟩ : ∃ post, post = multiplierLimit * crystal / (reference * target) := ⟨_, rfl⟩
  have hfirst : 7 ≤ post := by rwa [hpost, Nat.le_div_iff_mul_le hstep]
  have hspan : post < reference + 41 := by rwa [hpost, Nat.div_lt_iff_lt_mul hstep]
  have hscaled : target * (reference * post) = post * (reference * target) := by ac_rfl
  have hfits : post * (reference * target) ≤ multiplierLimit * crystal :=
    hpost ▸ Nat.div_mul_le_self _ _
  have hnext : multiplierLimit * crystal < (post + 1) * (reference * target) := by
    rw [← Nat.div_lt_iff_lt_mul hstep, hpost]
    exact Nat.lt_succ_self _
  have hproduct : 21 ≤ reference * post := Nat.mul_le_mul hlow hfirst
  refine ⟨.of target reference post, offers_usual hpositive (by omega) hhigh (by omega) (by omega)
    hproduct (hscaled.trans_le hfits), ?_⟩
  change 200 * crystal ≤ target * (reference * post)
  rw [hscaled]
  rw [Nat.add_mul, Nat.one_mul] at hnext
  simp only [multiplierLimit, crystal] at hnext hseven ⊢
  omega

theorem fastest_usual : ({} : Limits).fastest = 327857 := rfl

/-- There is always a setting with a product so large that it is close. -/
theorem exists_offered_close (hlow : 25000 ≤ target) (hreach : target ≤ ({} : Limits).fastest) :
    ∃ candidate, ({} : Limits).Offers target candidate ∧
      200 * crystal ≤ target * candidate.product := by
  rw [fastest_usual] at hreach
  -- A divider of six keeps slow clocks within its span, one of three has small enough products.
  rcases Nat.lt_or_ge target 100000 with hslow | hfast
  · refine exists_offered_of_steps (by omega) (by decide : 3 ≤ 6) (by decide) ?_ ?_ <;>
      · simp only [multiplierLimit, crystal]
        omega
  · refine exists_offered_of_steps (by omega) (by decide : 3 ≤ 3) (by decide) ?_ ?_ <;>
      · simp only [multiplierLimit, crystal]
        omega

section Usual

variable {target : UInt32} {solution : Solution}

theorem toNat_pos (hnonzero : target ≠ 0) : 0 < target.toNat :=
  Nat.pos_of_ne_zero fun hzero ↦ hnonzero (UInt32.toNat_inj.mp hzero)

/-- The usual dividers reach every clock up to the fastest. -/
theorem synthesize_usual_iff : (∃ solution, synthesize {} target = .ok solution) ↔
    target ≠ 0 ∧ target.toNat ≤ ({} : Limits).fastest := by
  constructor
  · rintro ⟨solution, hsolution⟩
    obtain ⟨hpositive, hreach⟩ :=
      exists_offered_iff.mp ⟨_, (optimal_of_synthesize hsolution).offered⟩
    refine ⟨?_, hreach⟩
    rintro rfl
    exact absurd hpositive (by decide)
  · rintro ⟨hnonzero, hreach⟩
    obtain ⟨candidate, hoffered⟩ := exists_offered_iff.mpr ⟨toNat_pos hnonzero, hreach⟩
    exact exists_synthesize (usual_faultless target) hnonzero hoffered

/-- What the usual dividers do not reach is refused, and nothing else is. -/
theorem synthesize_usual_eq_noPllSolution_iff {refused : UInt32} :
    synthesize {} target = .error (.error (.noPllSolution refused)) ↔
      refused = target ∧ ({} : Limits).fastest < target.toNat := by
  constructor
  · intro hsynthesize
    have hcomes := synthesize_comes {} target
    rw [hsynthesize] at hcomes
    cases hcomes with
    | nothing hnonzero hnone =>
      refine ⟨rfl, Nat.lt_of_not_le fun hreach ↦ ?_⟩
      obtain ⟨candidate, hoffered⟩ := exists_offered_iff.mpr ⟨toNat_pos hnonzero, hreach⟩
      exact hnone candidate hoffered
  · rintro ⟨rfl, hfast⟩
    have hnonzero : refused ≠ 0 := by
      rintro rfl
      exact absurd hfast (by decide)
    rw [synthesize_eq_noPllSolution_iff (usual_faultless refused) hnonzero, exists_offered_iff]
    exact fun hreach ↦ Nat.not_le_of_lt hfast hreach.2

/-- From 25000 kHz on, the setting that is found is off by less than half a percent. -/
theorem error_lt_of_synthesize (hlow : 25000 ≤ target)
    (hsolution : synthesize {} target = .ok solution) :
    200 * solution.error target < target.toNat := by
  have hoptimal := optimal_of_synthesize hsolution
  have hreach := hoptimal.offered.admitted.le_fastest (by decide)
  obtain ⟨candidate, hoffered, hlarge⟩ :=
    exists_offered_close (UInt32.le_iff_toNat_le.mp hlow) hreach
  have hnearest : solution.error target ≤ distance candidate.achieved target.toNat :=
    hoptimal.nearest hoffered
  have hclose := hoffered.admitted.distance_mul_lt
  refine Nat.lt_of_mul_lt_mul_right (a := candidate.product) ?_
  calc 200 * solution.error target * candidate.product
      ≤ 200 * distance candidate.achieved target.toNat * candidate.product :=
        Nat.mul_le_mul_right _ (Nat.mul_le_mul_left _ hnearest)
    _ = 200 * (distance candidate.achieved target.toNat * candidate.product) := Nat.mul_assoc _ _ _
    _ < 200 * crystal := Nat.mul_lt_mul_of_pos_left hclose (by decide)
    _ ≤ target.toNat * candidate.product := hlarge

end Usual

end Scanout.Pll
