import Mathlib.Algebra.Order.Floor.Div
import Scanout.Proofs.Pll

/-!
The search for a pixel clock is exact. `Limits.Offers` says without a loop which settings there are
for a target, and `Candidate.Preferred` which of two settings is the better one; they are never as
good as each other, since of two equally good ones the earlier wins. `Limits.Optimal` is the best of
all that are offered, and `synthesize_exact` is that the search comes up with it.

The search is followed pair by pair. `Leads` says of what it holds that it is the best candidate of
a kind, and the kind that grows is `Limits.Seen`: whatever is offered before a pair of dividers.
That later candidates are tried later is what lets the one that is held win a tie.
-/

set_option autoImplicit false
set_option relaxedAutoImplicit false

namespace Scanout.Pll

variable {limits wider : Limits} {target : Nat}

namespace Candidate

variable {candidate middle other : Candidate}

/-- The candidate is tried before a pair of dividers. -/
def Before (candidate : Candidate) (reference post : Nat) : Prop :=
  candidate.reference < reference ∨ candidate.reference = reference ∧ candidate.post < post

theorem before_succ_iff {reference post : Nat} : candidate.Before reference (post + 1) ↔
    candidate.Before reference post ∨ candidate.reference = reference ∧ candidate.post = post := by
  simp only [Before]
  omega

/-- The first candidate is preferred to the second: it is nearer the target, or as near with larger
dividers, or its dividers are as large and it is tried first. -/
def Preferred (target : Nat) (candidate other : Candidate) : Prop :=
  Better target candidate other ∨
    distance candidate.achieved target = distance other.achieved target ∧
      candidate.product = other.product ∧ candidate.Before other.reference other.post

theorem Preferred.nearer (hpreferred : Preferred target candidate other) :
    distance candidate.achieved target ≤ distance other.achieved target := by
  rcases hpreferred with (hless | ⟨hequal, -⟩) | ⟨hequal, -⟩
  · exact hless.le
  · exact hequal.le
  · exact hequal.le

theorem Preferred.asymm (hpreferred : Preferred target candidate other) :
    ¬Preferred target other candidate := by
  intro hback
  simp only [Preferred, Better, Before] at hpreferred hback
  omega

theorem Better.trans_preferred (hbetter : Better target candidate middle)
    (hpreferred : Preferred target middle other) : Better target candidate other := by
  simp only [Preferred, Better] at hbetter hpreferred ⊢
  omega

/-- The earlier candidate keeps its place unless the later one is better. -/
theorem Before.preferred (hbefore : candidate.Before other.reference other.post)
    (hworse : ¬Better target other candidate) : Preferred target candidate other := by
  simp only [Preferred, Better, Before] at hbefore hworse ⊢
  omega

/-- The largest values of a candidate still fit words. -/
structure Fits (candidate : Candidate) : Prop where
  reference : candidate.reference < UInt32.size
  post : candidate.post < UInt32.size
  multiplier : candidate.multiplier < UInt32.size
  achieved : candidate.achieved < UInt32.size

end Candidate

/-- A setting as numbers. -/
def Solution.candidate (solution : Solution) : Candidate where
  reference := solution.reference.toNat
  post := solution.post.toNat
  multiplier := solution.multiplier.toNat
  achieved := solution.achieved.toNat

/-- The words of a candidate that fits them stand for it. -/
theorem Candidate.candidate_solution {candidate : Candidate} (hfits : candidate.Fits) :
    candidate.solution.candidate = candidate := by
  simp only [Solution.candidate, solution, Nat.toUInt32_eq, UInt32.toNat_ofNat_of_lt',
    hfits.reference, hfits.post, hfits.multiplier, hfits.achieved]

/-- What is held is the best candidate of a kind, or nothing if there is none of that kind. -/
structure Leads (target : Nat) (kind : Candidate → Prop) (best : Option Candidate) : Prop where
  member : ∀ current ∈ best, kind current
  leads : ∀ candidate, kind candidate →
    ∃ current ∈ best, candidate = current ∨ current.Preferred target candidate

namespace Leads

variable {kind same : Candidate → Prop} {best : Option Candidate}

theorem congr (hleads : Leads target kind best)
    (hsame : ∀ candidate, same candidate ↔ kind candidate) :
    Leads target same best where
  member current hcurrent := (hsame current).mpr (hleads.member current hcurrent)
  leads candidate hcandidate := hleads.leads candidate ((hsame candidate).mp hcandidate)

/-- A candidate that is tried after all others is held if it improves on what was held. -/
theorem improve (hleads : Leads target kind best) {candidate : Candidate}
    (hlast : ∀ earlier, kind earlier → earlier.Before candidate.reference candidate.post) :
    Leads target (fun other ↦ kind other ∨ other = candidate)
      (some (candidate.improve target best)) := by
  cases best with
  | none =>
    refine ⟨?_, fun other hother ↦ ⟨candidate, rfl, ?_⟩⟩
    · rintro _ ⟨⟩
      exact .inr rfl
    · rcases hother with hkind | rfl
      · obtain ⟨_, ⟨⟩, -⟩ := hleads.leads other hkind
      · exact .inl rfl
  | some current =>
    have hcurrent := hleads.member current rfl
    have hothers : ∀ other, kind other → other = current ∨ current.Preferred target other := by
      intro other hother
      obtain ⟨_, ⟨⟩, hleading⟩ := hleads.leads other hother
      exact hleading
    rw [Candidate.improve]
    by_cases hbetter : Candidate.Better target candidate current
    · rw [if_pos hbetter]
      refine ⟨?_, fun other hother ↦ ⟨candidate, rfl, ?_⟩⟩
      · rintro _ ⟨⟩
        exact .inr rfl
      · rcases hother with hkind | rfl
        · rcases hothers other hkind with rfl | hleading
          · exact .inr (.inl hbetter)
          · exact .inr (.inl (hbetter.trans_preferred hleading))
        · exact .inl rfl
    · rw [if_neg hbetter]
      refine ⟨?_, fun other hother ↦ ⟨current, rfl, ?_⟩⟩
      · rintro _ ⟨⟩
        exact .inl hcurrent
      · rcases hother with hkind | rfl
        · exact hothers other hkind
        · exact .inr ((hlast current hcurrent).preferred hbetter)

end Leads

namespace Limits

/-- The reference dividers that there are for a target: those in range, or the one that is nearest
in range to the crystal over the target. -/
def Tries (limits : Limits) (target reference : Nat) : Prop :=
  match limits.reference with
  | .search => limits.referenceMin.toNat ≤ reference ∧ reference ≤ limits.referenceMax.toNat
  | .fromCrystal => reference =
      max limits.referenceMin.toNat (min (crystal ⌈/⌉ target) limits.referenceMax.toNat)

/-- The dividers of a candidate are large enough, the smallest multiplier that reaches the target
fits its field, and the clock is what they make of the crystal. -/
structure Admits (limits : Limits) (target : Nat) (candidate : Candidate) : Prop where
  product : limits.minProduct.toNat ≤ candidate.product
  multiplier : candidate.multiplier = (target * candidate.product) ⌈/⌉ crystal
  positive : 1 ≤ candidate.multiplier
  fits : candidate.multiplier ≤ min limits.maxMultiplier.toNat multiplierLimit
  achieved : candidate.achieved = candidate.multiplier * crystal / candidate.product

/-- The settings that the limits leave for a target. -/
structure Offers (limits : Limits) (target : Nat) (candidate : Candidate) : Prop where
  tried : limits.Tries target candidate.reference
  above : candidate.reference < candidate.post
  inSpan : candidate.post ≤ candidate.reference + limits.postSpan.toNat
  admitted : limits.Admits target candidate

/-- The best setting that the limits leave for a target. -/
structure Optimal (limits : Limits) (target : Nat) (candidate : Candidate) : Prop where
  offered : limits.Offers target candidate
  preferred : ∀ other, limits.Offers target other → other ≠ candidate →
    candidate.Preferred target other

/-- There is one best setting at most. -/
theorem Optimal.unique {first second : Candidate} (hfirst : limits.Optimal target first)
    (hsecond : limits.Optimal target second) : first = second := by
  by_contra hne
  exact (hfirst.preferred second hsecond.offered (Ne.symm hne)).asymm
    (hsecond.preferred first hfirst.offered hne)

/-- The best setting is no further off than any other that is offered. -/
theorem Optimal.nearest {candidate other : Candidate} (hoptimal : limits.Optimal target candidate)
    (hoffered : limits.Offers target other) :
    distance candidate.achieved target ≤ distance other.achieved target := by
  by_cases hsame : other = candidate
  · rw [hsame]
  · exact (hoptimal.preferred other hoffered hsame).nearer

section Admitted

variable {candidate : Candidate} (hadmitted : limits.Admits target candidate)
include hadmitted

theorem Admits.product_pos : 0 < candidate.product := by
  refine Nat.pos_of_ne_zero fun hzero ↦ ?_
  have hpositive := hadmitted.positive
  rw [hadmitted.multiplier, hzero, Nat.mul_zero, zero_ceilDiv] at hpositive
  exact absurd hpositive (by decide)

/-- The multiplier reaches the target, and no smaller one does. -/
theorem Admits.multiplier_bounds : target * candidate.product ≤ candidate.multiplier * crystal ∧
    candidate.multiplier * crystal < target * candidate.product + crystal := by
  rw [hadmitted.multiplier, Nat.ceilDiv_eq_add_pred_div]
  simp only [crystal]
  omega

/-- No setting undershoots its target. -/
theorem Admits.le_achieved : target ≤ candidate.achieved := by
  rw [hadmitted.achieved, Nat.le_div_iff_mul_le hadmitted.product_pos]
  exact hadmitted.multiplier_bounds.1

/-- A setting is off by less than the crystal over its dividers. -/
theorem Admits.distance_mul_lt :
    distance candidate.achieved target * candidate.product < crystal := by
  have hdistance : distance candidate.achieved target = candidate.achieved - target := by
    have hle := hadmitted.le_achieved
    rw [distance]
    omega
  have hachieved : candidate.achieved * candidate.product ≤ candidate.multiplier * crystal := by
    rw [hadmitted.achieved]
    exact Nat.div_mul_le_self _ _
  have hbound := hadmitted.multiplier_bounds.2
  have hcrystal : 0 < crystal := by decide
  rw [hdistance, Nat.sub_mul]
  omega

/-- The values of a setting whose dividers were multiplied in a word fit words themselves. -/
theorem Admits.fitsWords (hproduct : candidate.product < UInt32.size) : candidate.Fits := by
  have hpos := hadmitted.product_pos
  have hmultiplier : candidate.multiplier ≤ multiplierLimit :=
    hadmitted.fits.trans (Nat.min_le_right _ _)
  have hreference : candidate.reference ≤ candidate.product :=
    Nat.le_mul_of_pos_right _ (Nat.pos_of_mul_pos_left hpos)
  have hpost : candidate.post ≤ candidate.product :=
    Nat.le_mul_of_pos_left _ (Nat.pos_of_mul_pos_right hpos)
  refine ⟨hreference.trans_lt hproduct, hpost.trans_lt hproduct,
    hmultiplier.trans_lt (by decide), ?_⟩
  rw [hadmitted.achieved]
  calc candidate.multiplier * crystal / candidate.product
      ≤ candidate.multiplier * crystal := Nat.div_le_self _ _
    _ ≤ multiplierLimit * crystal := Nat.mul_le_mul_right _ hmultiplier
    _ < UInt32.size := by decide

end Admitted

/-- In steps of the feedback path, the multiplier is the same. -/
theorem multiplier_eq (target product : Nat) :
    (target * (feedbackScale * product) + (scaledCrystal - 1)) / scaledCrystal =
      (target * product) ⌈/⌉ crystal := by
  rw [Nat.ceilDiv_eq_add_pred_div, Nat.mul_left_comm]
  simp only [scaledCrystal, feedbackScale, crystal]
  omega

theorem achieved_eq (multiplier product : Nat) :
    multiplier * scaledCrystal / (feedbackScale * product) = multiplier * crystal / product := by
  rw [scaledCrystal, Nat.mul_left_comm, Nat.mul_div_mul_left _ _ (by decide)]

/-- What is found for a pair of dividers is the admitted candidate of that pair. -/
theorem mem_candidate?_iff {reference post : Nat} {found : Option Candidate}
    (hfound : limits.candidate? target reference post = .ok found) (candidate : Candidate) :
    candidate ∈ found ↔
      candidate.reference = reference ∧ candidate.post = post ∧ limits.Admits target candidate := by
  obtain ⟨product, hproduct, hfound⟩ := Except.bind_eq_ok.mp hfound
  obtain ⟨-, rfl⟩ := Checked.mul_eq_ok.mp hproduct
  split at hfound
  · rename_i hsmall
    cases hfound
    refine ⟨by rintro ⟨⟩, ?_⟩
    rintro ⟨rfl, rfl, hadmits⟩
    exact absurd hadmits.product (Nat.not_le.mpr hsmall)
  rename_i hlarge
  obtain ⟨scaled, hscaled, hfound⟩ := Except.bind_eq_ok.mp hfound
  obtain ⟨-, rfl⟩ := Checked.mul_eq_ok.mp hscaled
  dsimp only at hfound
  rw [multiplier_eq, achieved_eq] at hfound
  split at hfound
  · rename_i hrefused
    cases hfound
    refine ⟨by rintro ⟨⟩, ?_⟩
    rintro ⟨rfl, rfl, hadmits⟩
    have hpositive := hadmits.positive
    have hfits := hadmits.fits
    rw [hadmits.multiplier, Candidate.product] at hpositive hfits
    omega
  · rename_i haccepted
    cases hfound
    rw [not_or, Nat.not_lt] at haccepted
    constructor
    · rintro ⟨⟩
      exact ⟨rfl, rfl, Nat.not_lt.mp hlarge, rfl, Nat.one_le_iff_ne_zero.mpr haccepted.1,
        haccepted.2, rfl⟩
    · rintro ⟨rfl, rfl, hadmits⟩
      have hachieved := hadmits.achieved
      rw [hadmits.multiplier] at hachieved
      rw [Option.mem_some_iff]
      obtain ⟨_, _, _, _⟩ := candidate
      exact (Candidate.mk.injEq ..).mpr ⟨rfl, rfl, hadmits.multiplier.symm, hachieved.symm⟩

/-- The range that is searched holds the dividers that there are. -/
theorem tries_iff {low high : Nat} (hreferences : limits.references target = .ok (low, high))
    (reference : Nat) : limits.Tries target reference ↔ low ≤ reference ∧ reference ≤ high := by
  rw [references] at hreferences
  rw [Tries]
  cases hmode : limits.reference with
  | search =>
    rw [hmode] at hreferences
    cases hreferences
    rfl
  | fromCrystal =>
    rw [hmode] at hreferences
    obtain ⟨only, honly, hreferences⟩ := Except.bind_eq_ok.mp hreferences
    cases hreferences
    obtain ⟨-, hclamp⟩ := Except.ite_eq_ok.mp honly
    have hceil : (crystal + (target - 1)) / target = crystal ⌈/⌉ target := by
      rw [Nat.ceilDiv_eq_add_pred_div]
      rcases Nat.eq_zero_or_pos target with rfl | hpos
      · rw [Nat.div_zero, Nat.div_zero]
      · rw [Nat.add_sub_assoc hpos]
    rw [← hclamp, hceil]
    exact ⟨fun heq ↦ ⟨heq.ge, heq.le⟩, fun ⟨hle, hge⟩ ↦ Nat.le_antisymm hge hle⟩

/-- What is offered from a reference divider on and tried before a pair of dividers. -/
structure Seen (limits : Limits) (target low reference post : Nat) (candidate : Candidate) :
    Prop where
  low : low ≤ candidate.reference
  above : candidate.reference < candidate.post
  inSpan : candidate.post ≤ candidate.reference + limits.postSpan.toNat
  admitted : limits.Admits target candidate
  before : candidate.Before reference post

/-- After one more pair of dividers, its candidate has been seen as well. -/
theorem seen_succ_iff {low reference post : Nat} {found : Option Candidate} (hlow : low ≤ reference)
    (habove : reference < post) (hspan : post ≤ reference + limits.postSpan.toNat)
    (hfound : limits.candidate? target reference post = .ok found) (candidate : Candidate) :
    limits.Seen target low reference (post + 1) candidate ↔
      limits.Seen target low reference post candidate ∨ candidate ∈ found := by
  rw [mem_candidate?_iff hfound]
  constructor
  · rintro ⟨hfrom, hover, hwithin, hadmitted, hbefore⟩
    rcases Candidate.before_succ_iff.mp hbefore with hearlier | ⟨hreference, hpost⟩
    · exact .inl ⟨hfrom, hover, hwithin, hadmitted, hearlier⟩
    · exact .inr ⟨hreference, hpost, hadmitted⟩
  · rintro (⟨hfrom, hover, hwithin, hadmitted, hearlier⟩ | ⟨rfl, rfl, hadmitted⟩)
    · exact ⟨hfrom, hover, hwithin, hadmitted, Candidate.before_succ_iff.mpr (.inl hearlier)⟩
    · exact ⟨hlow, habove, hspan, hadmitted, Candidate.before_succ_iff.mpr (.inr ⟨rfl, rfl⟩)⟩

/-- Where no pair of dividers in the span lies between two pairs, the same has been seen before
both. -/
theorem seen_congr {low reference post nextReference nextPost : Nat}
    (hsame : ∀ candidate : Candidate, candidate.reference < candidate.post →
      candidate.post ≤ candidate.reference + limits.postSpan.toNat →
        (candidate.Before nextReference nextPost ↔ candidate.Before reference post))
    (candidate : Candidate) :
    limits.Seen target low nextReference nextPost candidate ↔
      limits.Seen target low reference post candidate := by
  constructor
  · rintro ⟨hfrom, hover, hwithin, hadmitted, hbefore⟩
    exact ⟨hfrom, hover, hwithin, hadmitted, (hsame candidate hover hwithin).mp hbefore⟩
  · rintro ⟨hfrom, hover, hwithin, hadmitted, hbefore⟩
    exact ⟨hfrom, hover, hwithin, hadmitted, (hsame candidate hover hwithin).mpr hbefore⟩

theorem leads_bestPost {low reference count post : Nat} {best found : Option Candidate}
    (hlow : low ≤ reference) (habove : reference < post)
    (hspan : post + count ≤ reference + limits.postSpan.toNat + 1)
    (hbest : Leads target (limits.Seen target low reference post) best)
    (hfound : limits.bestPost target reference count post best = .ok found) :
    Leads target (limits.Seen target low reference (post + count)) found := by
  induction count generalizing post best with
  | zero =>
    cases hfound
    exact hbest
  | succ count ih =>
    rw [Nat.add_comm count, ← Nat.add_assoc]
    rw [bestPost] at hfound
    split at hfound
    · cases hfound
    · rename_i hcandidate
      refine ih (by omega) (by omega) (hbest.congr fun candidate ↦ ?_) hfound
      rw [seen_succ_iff hlow habove (by omega) hcandidate]
      exact or_iff_left (by rintro ⟨⟩)
    · rename_i candidate hcandidate
      obtain ⟨hreference, hpost, -⟩ := (mem_candidate?_iff hcandidate candidate).mp rfl
      refine ih (by omega) (by omega) ((hbest.improve fun earlier hearlier ↦ ?_).congr
        fun other ↦ ?_) hfound
      · rw [hreference, hpost]
        exact hearlier.before
      · rw [seen_succ_iff hlow habove (by omega) hcandidate, Option.mem_some_iff, eq_comm]

theorem leads_bestReference {low count reference : Nat} {best found : Option Candidate}
    (hlow : low ≤ reference) (hbest : Leads target (limits.Seen target low reference 0) best)
    (hfound : limits.bestReference target count reference best = .ok found) :
    Leads target (limits.Seen target low (reference + count) 0) found := by
  induction count generalizing reference best with
  | zero =>
    cases hfound
    exact hbest
  | succ count ih =>
    obtain ⟨start, hstart, hstops⟩ := Except.bind_eq_ok.mp hfound
    obtain ⟨stop, hstop, hposts⟩ := Except.bind_eq_ok.mp hstops
    obtain ⟨middle, hmiddle, hrest⟩ := Except.bind_eq_ok.mp hposts
    obtain ⟨-, rfl⟩ := Checked.add_eq_ok.mp hstart
    obtain ⟨-, rfl⟩ := Checked.add_eq_ok.mp hstop
    -- No post divider is as small as its reference divider, and none is past the span.
    have hfirst : Leads target (limits.Seen target low reference (reference + 1)) best := by
      refine hbest.congr (seen_congr fun candidate hover hwithin ↦ ?_)
      simp only [Candidate.Before]
      omega
    have hlast := leads_bestPost hlow (Nat.lt_succ_self _) (by omega) hfirst hmiddle
    rw [Nat.add_comm count, ← Nat.add_assoc]
    refine ih (by omega) (hlast.congr (seen_congr fun candidate hover hwithin ↦ ?_)) hrest
    simp only [Candidate.Before]
    omega

/-- The search holds the best of all that is offered. -/
theorem leads_search {low high : Nat} {found : Option Candidate}
    (hreferences : limits.references target = .ok (low, high))
    (hfound : limits.bestReference target (high + 1 - low) low none = .ok found) :
    Leads target (limits.Offers target) found := by
  have hnone : Leads target (limits.Seen target low low 0) none := by
    refine ⟨by rintro _ ⟨⟩, ?_⟩
    rintro candidate ⟨hfrom, -, -, -, hbefore⟩
    rw [Candidate.Before] at hbefore
    omega
  refine (leads_bestReference (Nat.le_refl low) hnone hfound).congr fun candidate ↦ ?_
  constructor
  · rintro ⟨htried, hover, hwithin, hadmitted⟩
    obtain ⟨hfrom, hto⟩ := (tries_iff hreferences _).mp htried
    exact ⟨hfrom, hover, hwithin, hadmitted, .inl (by omega)⟩
  · rintro ⟨hfrom, hover, hwithin, hadmitted, hbefore⟩
    rw [Candidate.Before] at hbefore
    exact ⟨(tries_iff hreferences _).mpr ⟨hfrom, by omega⟩, hover, hwithin, hadmitted⟩

/-- The dividers of a candidate were multiplied in a word. -/
theorem accepts_word (limits : Limits) (target : Nat) :
    limits.Accepts target fun candidate ↦ candidate.product < UInt32.size := by
  intro reference post candidate hcandidate
  obtain ⟨hreference, hpost, -⟩ := (mem_candidate?_iff hcandidate candidate).mp rfl
  obtain ⟨product, hproduct, -⟩ := Except.bind_eq_ok.mp hcandidate
  rw [Candidate.product, hreference, hpost]
  exact (Checked.mul_eq_ok.mp hproduct).1

/-- The same search with more to try. -/
structure Widens (limits wider : Limits) : Prop where
  search : limits.reference = .search ∧ wider.reference = .search
  referenceMin : wider.referenceMin = limits.referenceMin
  referenceMax : limits.referenceMax ≤ wider.referenceMax
  postSpan : limits.postSpan ≤ wider.postSpan
  minProduct : wider.minProduct = limits.minProduct
  maxMultiplier : limits.maxMultiplier ≤ wider.maxMultiplier

theorem Offers.widen {candidate : Candidate} (hwidens : limits.Widens wider)
    (hoffered : limits.Offers target candidate) : wider.Offers target candidate := by
  obtain ⟨htried, habove, hspan, hadmitted⟩ := hoffered
  have hmax := UInt32.le_iff_toNat_le.mp hwidens.referenceMax
  have hpost := UInt32.le_iff_toNat_le.mp hwidens.postSpan
  have hmultiplier := UInt32.le_iff_toNat_le.mp hwidens.maxMultiplier
  refine ⟨?_, habove, by omega, ?_⟩
  · rw [Tries, hwidens.search.1] at htried
    rw [Tries, hwidens.search.2]
    exact ⟨by rw [hwidens.referenceMin]; exact htried.1, htried.2.trans hmax⟩
  · exact { hadmitted with
      product := by rw [hwidens.minProduct]; exact hadmitted.product
      fits := hadmitted.fits.trans (min_le_min_right _ hmultiplier) }

end Limits

/-- What the search may come to: a fault, an error that says what is wrong with the target, or the
best setting that is offered. -/
inductive Comes (limits : Limits) (target : UInt32) :
    Except (Failure Error) Solution → Prop where
  | zero (hzero : target = 0) : Comes limits target (.error (.error .zeroClock))
  | fault (hnonzero : target ≠ 0) (reason : Fault) : Comes limits target (.error (.fault reason))
  | nothing (hnonzero : target ≠ 0) (hnone : ∀ candidate, ¬limits.Offers target.toNat candidate) :
    Comes limits target (.error (.error (.noPllSolution target)))
  | best (hnonzero : target ≠ 0) {solution : Solution}
    (hoptimal : limits.Optimal target.toNat solution.candidate) : Comes limits target (.ok solution)

theorem synthesize_comes (limits : Limits) (target : UInt32) :
    Comes limits target (synthesize limits target) := by
  unfold synthesize
  split
  case isTrue hzero => exact .zero hzero
  case isFalse hnonzero =>
    cases hreferences : limits.references target.toNat with
    | error reason => exact .fault hnonzero reason
    | ok range =>
      obtain ⟨low, high⟩ := range
      simp only [Failure.ofFault, Except.ok_bind]
      cases hfound : limits.bestReference target.toNat (high + 1 - low) low none with
      | error reason => exact .fault hnonzero reason
      | ok found =>
        have hleads := Limits.leads_search hreferences hfound
        cases found with
        | none =>
          refine .nothing hnonzero fun candidate hoffered ↦ ?_
          obtain ⟨_, ⟨⟩, -⟩ := hleads.leads candidate hoffered
        | some candidate =>
          have hoffered := hleads.member candidate rfl
          have hword := Limits.kind_bestReference (limits.accepts_word target.toNat)
            (by rintro _ ⟨⟩) hfound candidate rfl
          refine .best hnonzero ?_
          rw [Candidate.candidate_solution (hoffered.admitted.fitsWords hword)]
          refine ⟨hoffered, fun other hother hne ↦ ?_⟩
          obtain ⟨_, ⟨⟩, heq | hpreferred⟩ := hleads.leads other hother
          · exact absurd heq hne
          · exact hpreferred

section Outcome

variable {target : UInt32} {solution : Solution}

/-- The setting that the search comes up with is the best of all. -/
theorem optimal_of_synthesize (hsolution : synthesize limits target = .ok solution) :
    limits.Optimal target.toNat solution.candidate := by
  have hcomes := synthesize_comes limits target
  rw [hsolution] at hcomes
  cases hcomes with
  | best _ hoptimal => exact hoptimal

/-- A search that does not fault and that is offered a setting comes up with one. -/
theorem exists_synthesize (hfaultless : Faultless (synthesize limits target))
    (hnonzero : target ≠ 0) {candidate : Candidate}
    (hoffered : limits.Offers target.toNat candidate) :
    ∃ solution, synthesize limits target = .ok solution := by
  have hcomes := synthesize_comes limits target
  generalize synthesize limits target = result at hcomes hfaultless
  cases hcomes with
  | zero hzero => exact absurd hzero hnonzero
  | fault _ reason => exact absurd rfl (hfaultless reason)
  | nothing _ hnone => exact absurd hoffered (hnone candidate)
  | best _ _ => exact ⟨_, rfl⟩

theorem synthesize_eq_zeroClock_iff :
    synthesize limits target = .error (.error .zeroClock) ↔ target = 0 := by
  constructor
  · intro hsynthesize
    have hcomes := synthesize_comes limits target
    rw [hsynthesize] at hcomes
    cases hcomes with
    | zero hzero => exact hzero
  · rintro rfl
    rfl

theorem synthesize_eq_noPllSolution_iff (hfaultless : Faultless (synthesize limits target))
    (hnonzero : target ≠ 0) :
    synthesize limits target = .error (.error (.noPllSolution target)) ↔
      ¬∃ candidate, limits.Offers target.toNat candidate := by
  constructor
  · rintro hsynthesize ⟨candidate, hoffered⟩
    have hcomes := synthesize_comes limits target
    rw [hsynthesize] at hcomes
    cases hcomes with
    | nothing _ hnone => exact hnone candidate hoffered
  · intro hnone
    have hcomes := synthesize_comes limits target
    generalize synthesize limits target = result at hcomes hfaultless
    cases hcomes with
    | zero hzero => exact absurd hzero hnonzero
    | fault _ reason => exact absurd rfl (hfaultless reason)
    | nothing _ _ => rfl
    | best _ hoptimal => exact absurd ⟨_, hoptimal.offered⟩ hnone

end Outcome

/-- The search does not fault if the products of its dividers are bounded. It refuses a target of
zero and one that no setting is offered for; else it comes up with the best setting that is offered,
which never undershoots, and with more to try the best setting is never further off. -/
theorem synthesize_exact (limits : Limits) (target : UInt32)
    (hproduct : ∀ reference, limits.Tries target.toNat reference →
      reference * (reference + limits.postSpan.toNat) ≤ 107374182)
    (hordered : limits.reference = .fromCrystal → limits.referenceMin ≤ limits.referenceMax) :
    Faultless (synthesize limits target) ∧
      (synthesize limits target = .error (.error .zeroClock) ↔ target = 0) ∧
      (target ≠ 0 → (synthesize limits target = .error (.error (.noPllSolution target)) ↔
        ¬∃ candidate, limits.Offers target.toNat candidate)) ∧
      (target ≠ 0 → (∃ candidate, limits.Offers target.toNat candidate) →
        ∃ solution, synthesize limits target = .ok solution ∧
          limits.Optimal target.toNat solution.candidate ∧ target ≤ solution.achieved) ∧
      ∀ wider, limits.Widens wider → Faultless (synthesize wider target) →
        ∀ solution, synthesize limits target = .ok solution →
          ∃ improved, synthesize wider target = .ok improved ∧
            improved.error target ≤ solution.error target := by
  obtain ⟨low, high, hreferences, -⟩ := Limits.exists_references hordered target.toNat
  have hfaultless : Faultless (synthesize limits target) := by
    refine faultless_of_references hreferences fun tried hle hlt ↦ ?_
    have hbound := hproduct tried ((Limits.tries_iff hreferences tried).mpr ⟨hle, hlt⟩)
    simp only [feedbackScale, UInt32.size]
    omega
  refine ⟨hfaultless, synthesize_eq_zeroClock_iff, synthesize_eq_noPllSolution_iff hfaultless,
    fun hnonzero hexists ↦ ?_, fun wider hwidens hwider solution hsolution ↦ ?_⟩
  · obtain ⟨candidate, hoffered⟩ := hexists
    obtain ⟨solution, hsolution⟩ := exists_synthesize hfaultless hnonzero hoffered
    have hoptimal := optimal_of_synthesize hsolution
    exact ⟨solution, hsolution, hoptimal,
      UInt32.le_iff_toNat_le.mpr hoptimal.offered.admitted.le_achieved⟩
  · have hoffered := (optimal_of_synthesize hsolution).offered.widen hwidens
    have hnonzero : target ≠ 0 := by
      rintro rfl
      cases hsolution
    obtain ⟨improved, himproved⟩ := exists_synthesize hwider hnonzero hoffered
    exact ⟨improved, himproved, (optimal_of_synthesize himproved).nearest hoffered⟩

/-- The usual limits never make the search fault. -/
theorem usual_faultless (target : UInt32) : Faultless (synthesize {} target) :=
  synthesize_faultless (Limits.sized_of_small rfl (by decide) (by decide)) target

/-- Dividers of which there are few, and a multiplier of seven bits. -/
def narrowLimits : Limits where
  referenceMax := 3
  postSpan := 13
  maxMultiplier := 127

/-- Among few dividers the best setting for 28322 kHz is 62 kHz off. Among the usual ones there is
none that is further off. -/
theorem synthesize_exact_narrow :
    (∃ solution, synthesize narrowLimits 28322 = .ok solution ∧
      narrowLimits.Optimal 28322 solution.candidate ∧ 28322 ≤ solution.achieved) ∧
      narrowLimits.Widens {} ∧ ∃ improved, synthesize {} 28322 = .ok improved ∧
        improved.error 28322 ≤ 62 := by
  have hsized : narrowLimits.Sized := Limits.sized_of_small rfl (by decide) (by decide)
  have hproduct : ∀ reference, narrowLimits.Tries 28322 reference →
      reference * (reference + narrowLimits.postSpan.toNat) ≤ 107374182 := by
    intro reference htried
    have hword := hsized.product reference htried.1 htried.2
    simp only [feedbackScale, UInt32.size] at hword
    omega
  have hwidens : narrowLimits.Widens {} :=
    ⟨⟨rfl, rfl⟩, rfl, by decide, by decide, rfl, by decide⟩
  have hfound : synthesize narrowLimits 28322 = .ok ⟨3, 41, 13, 28384⟩ := by decide +kernel
  have hoffered := (optimal_of_synthesize hfound).offered
  obtain ⟨-, -, -, hbest, hbetter⟩ := synthesize_exact narrowLimits 28322 hproduct (by rintro ⟨⟩)
  exact ⟨hbest (by decide) ⟨_, hoffered⟩, hwidens, hbetter {} hwidens (usual_faultless _) _ hfound⟩

end Scanout.Pll
