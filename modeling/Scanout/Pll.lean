import Scanout.Checked
import Scanout.Error
import Scanout.Log

/-!
# Pixel clock synthesis

A PLL produces `multiplier * 27000 / (reference * post)` kHz. Only whole dividers in bounded
ranges are accepted, so `Pll.synthesize` tries every pair of a reference and a post divider,
rounds the multiplier up, and keeps the candidate nearest the target. Of candidates equally near,
the larger product of dividers wins, then the one tried first. Every step of the arithmetic is
checked against the width of its word.
-/

set_option autoImplicit false
set_option relaxedAutoImplicit false

namespace Scanout.Pll

/-- Steps of the feedback path for one step of the multiplier. -/
def feedbackScale : Nat := 40

/-- The crystal's frequency in kHz. -/
def crystal : Nat := 27000

/-- The crystal's frequency in steps of the feedback path. -/
def scaledCrystal : Nat := feedbackScale * crystal

/-- Largest multiplier that the feedback field holds. -/
def multiplierLimit : Nat := 255

/-- How the reference divider is chosen. -/
inductive Reference where
  /-- Try every divider in range. -/
  | search
  /-- Take the crystal over the target, rounded up and moved into range. -/
  | fromCrystal
  deriving DecidableEq, Repr

/-- The dividers that a chip accepts. Post dividers run from one past the reference divider over
`postSpan` values. -/
structure Limits where
  referenceMin : UInt32 := 2
  referenceMax : UInt32 := 6
  postSpan : UInt32 := 40
  minProduct : UInt32 := 21
  maxMultiplier : UInt32 := 255
  reference : Reference := .search
  deriving DecidableEq, Repr

/-- A setting of the dividers and the clock that it produces, in kHz. -/
structure Solution where
  reference : UInt32
  multiplier : UInt32
  post : UInt32
  achieved : UInt32
  deriving DecidableEq, Repr

/-- How far apart two clocks are. -/
def distance (a b : Nat) : Nat :=
  (a - b) + (b - a)

namespace Solution

/-- The product of both dividers. -/
def product (solution : Solution) : Except Fault Nat :=
  Checked.mul UInt32.size solution.reference.toNat solution.post.toNat

/-- How far the produced clock is from a target. -/
def error (solution : Solution) (target : UInt32) : Nat :=
  distance solution.achieved.toNat target.toNat

/-- The setting as a line of the log. -/
def report (solution : Solution) (target : UInt32) : Log.Entry where
  level := .debug
  text := s!"pll: {target} kHz -> ref {solution.reference} post {solution.post} mul " ++
    s!"{solution.multiplier} = {solution.achieved} kHz"

end Solution

/-- A setting under consideration, over the natural numbers. -/
structure Candidate where
  reference : Nat
  post : Nat
  multiplier : Nat
  achieved : Nat
  deriving DecidableEq, Repr

namespace Candidate

/-- The product of both dividers. -/
def product (candidate : Candidate) : Nat :=
  candidate.reference * candidate.post

/-- The first candidate is nearer the target than the second, or as near with larger dividers. -/
def Better (target : Nat) (candidate other : Candidate) : Prop :=
  distance candidate.achieved target < distance other.achieved target ∨
    distance candidate.achieved target = distance other.achieved target ∧
      other.product < candidate.product

instance (target : Nat) (candidate other : Candidate) :
    Decidable (Better target candidate other) :=
  inferInstanceAs (Decidable (_ ∨ _ ∧ _))

/-- The better of a candidate and the best one so far, which keeps its place on a tie. -/
def improve (target : Nat) (best : Option Candidate) (candidate : Candidate) : Candidate :=
  match best with
  | none => candidate
  | some current => if Better target candidate current then candidate else current

/-- The candidate as words. -/
def solution (candidate : Candidate) : Solution where
  reference := candidate.reference.toUInt32
  multiplier := candidate.multiplier.toUInt32
  post := candidate.post.toUInt32
  achieved := candidate.achieved.toUInt32

end Candidate

namespace Limits

/-- The candidate of a pair of dividers, if the limits accept one. -/
def candidate? (limits : Limits) (target reference post : Nat) :
    Except Fault (Option Candidate) := do
  let product ← Checked.mul UInt32.size reference post
  if product < limits.minProduct.toNat then
    return none
  let scale := feedbackScale * product
  let scaled ← Checked.mul UInt64.size target scale
  let multiplier := (scaled + (scaledCrystal - 1)) / scaledCrystal
  if multiplier = 0 ∨ min limits.maxMultiplier.toNat multiplierLimit < multiplier then
    return none
  return some { reference, post, multiplier, achieved := multiplier * scaledCrystal / scale }

/-- The best candidate among `count` post dividers from `post` on, and the best one so far. -/
def bestPost (limits : Limits) (target reference : Nat) :
    (count post : Nat) → Option Candidate → Except Fault (Option Candidate)
  | 0, _, best => .ok best
  | count + 1, post, best =>
    match limits.candidate? target reference post with
    | .error reason => .error reason
    | .ok none => limits.bestPost target reference count (post + 1) best
    | .ok (some candidate) =>
      limits.bestPost target reference count (post + 1) (some (candidate.improve target best))

/-- The best candidate among `count` reference dividers from `reference` on, each with its own
range of post dividers, and the best one so far. -/
def bestReference (limits : Limits) (target : Nat) :
    (count reference : Nat) → Option Candidate → Except Fault (Option Candidate)
  | 0, _, best => .ok best
  | count + 1, reference, best => do
    let start ← Checked.add UInt32.size reference 1
    let stop ← Checked.add UInt32.size reference limits.postSpan.toNat
    let best ← limits.bestPost target reference (stop + 1 - start) start best
    limits.bestReference target count (reference + 1) best

/-- The first and last reference divider to try for a target that is not zero. -/
def references (limits : Limits) (target : Nat) : Except Fault (Nat × Nat) :=
  match limits.reference with
  | .search => .ok (limits.referenceMin.toNat, limits.referenceMax.toNat)
  | .fromCrystal => do
    let reference ← Checked.clamp ((crystal + (target - 1)) / target)
      limits.referenceMin.toNat limits.referenceMax.toNat
    return (reference, reference)

end Limits

/-- The setting nearest a target clock in kHz. -/
def synthesize (limits : Limits) (target : UInt32) : Except (Failure Error) Solution := do
  if target = 0 then
    throw (.error .zeroClock)
  let (low, high) ← Failure.ofFault (limits.references target.toNat)
  let best ← Failure.ofFault (limits.bestReference target.toNat (high + 1 - low) low none)
  match best with
  | some candidate => return candidate.solution
  | none => throw (.error (.noPllSolution target))

end Scanout.Pll
