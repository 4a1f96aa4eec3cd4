import Scanout.Proofs.I2c.Containment
import Scanout.Proofs.I2c.Phase
import Scanout.Proofs.I2c.Staging

/-!
What a transfer of the hardware engine does to the bus. Each move has its deeds due, whatever the
registers answer (`Fulfils`), and since every move leaves nothing queued, those of a sequence are
those of its parts. A transfer whose waits are all complete does what is due for its moves
(`Controller.fulfilled_of_complete`).

Where the size register remembers what it is given, its bits beside the count stay what they were,
but for the prescale that is set where a disabled engine is set up (`Kept`).
-/

set_option autoImplicit false
set_option relaxedAutoImplicit false

namespace Scanout.I2c

open Register

section Words

/-- The number of bytes that a value of the size register asks for. -/
def countOf (size : UInt32) : Nat :=
  ((size &&& i2cCountMask) >>> i2cCountShift).toNat

/-- The bits of the size register beside the count and the prescale. -/
def sizeRest : UInt32 :=
  ~~~(i2cCountMask ||| i2cPrescaleMask)

theorem countBits_and_of_disjoint (count : Nat) {mask : UInt32} (hmask : i2cCountMask &&& mask = 0) :
    Controller.countBits count &&& mask = 0 := by
  rw [Controller.countBits, UInt32.and_assoc, hmask, UInt32.and_zero]

/-- The field holds every count that one transaction can have. -/
theorem countOf_counted (old : UInt32) {count : Nat} (hcount : count ≤ i2cCountLimit) :
    countOf ((old &&& ~~~i2cCountMask) ||| Controller.countBits count) = count := by
  have hall : ∀ count < 16,
      ((Controller.countBits count &&& i2cCountMask) >>> i2cCountShift).toNat = count := by decide
  rw [countOf, or_and_distrib, cleared_and_self, UInt32.zero_or]
  exact hall count (Nat.lt_succ_of_le hcount)

theorem counted_and_of_disjoint (old : UInt32) (count : Nat) {mask : UInt32}
    (hmask : i2cCountMask &&& mask = 0) :
    ((old &&& ~~~i2cCountMask) ||| Controller.countBits count) &&& mask = old &&& mask :=
  updated_and_of_disjoint hmask (countBits_and_of_disjoint count hmask) old

end Words

/-- The size register is what it was initially beside the count, but for the prescale of an engine
that was set up. -/
structure Kept (initial : UInt32) (staging : Staging) : Prop where
  rest : staging.size &&& sizeRest = initial &&& sizeRest
  prescale : staging.size &&& i2cPrescaleMask =
    if staging.setUp then 1 else initial &&& i2cPrescaleMask

namespace Kept

variable {initial : UInt32} {staging : Staging}

theorem start (size : UInt32) : Kept size { size } where
  rest := rfl
  prescale := rfl

/-- Giving the next transaction its count keeps the rest. -/
theorem counted (hkept : Kept initial staging) (count : Nat) (found : UInt32)
    (queued : List UInt32) :
    Kept initial { staging with
      queued, found, size := (staging.size &&& ~~~i2cCountMask) ||| Controller.countBits count } where
  rest := (counted_and_of_disjoint _ count (by decide)).trans hkept.rest
  prescale := (counted_and_of_disjoint _ count (by decide)).trans hkept.prescale

/-- Setting the engine up changes the prescale only. -/
theorem prescaled (hkept : Kept initial staging) (found : UInt32) :
    Kept initial { staging with
      found, size := (staging.size &&& ~~~i2cPrescaleMask) ||| 1, setUp := true } where
  rest := (updated_and_of_disjoint (by decide) (by decide) _).trans hkept.rest
  prescale := by
    rw [or_and_distrib, cleared_and_self, UInt32.zero_or]
    rfl

end Kept

/-- Where the deed is a transaction, the size register is kept beside its count. -/
def Deed.Kept (initial : UInt32) : Deed → Prop
  | kick staging _ => I2c.Kept initial staging
  | get _ => True

/-- A deed that is due: a transaction of some bytes with a count and commands, or a byte that is
taken. -/
inductive Due where
  | kick (bytes : List UInt8) (count : Nat) (commands : UInt32)
  | get
  deriving DecidableEq, Repr

/-- The deed is the one that is due. A transaction has its count in the size register, and the other
bits there are those that were found. -/
def Due.Fits : Due → Deed → Prop
  | kick bytes count commands, .kick staging given =>
    given = commands ∧ staging.queued = bytes.map UInt8.toUInt32 ∧
      countOf staging.size = count ∧
      staging.size &&& ~~~i2cCountMask = staging.found &&& ~~~i2cCountMask
  | get, .get _ => True
  | _, _ => False

namespace Move

/-- The deeds that are due for a move. -/
def dues : Move → List Due
  | kick address count bytes =>
    [.kick (address.header .write ++ bytes) count (i2cDone ||| i2cNack)]
  | wait _ => []
  | turn address count => [.kick [address.turnaround] count (i2cDone ||| i2cNack ||| i2cHalt)]
  | take count => List.replicate count .get

/-- The size register can hold the count of the move, if it has one. -/
def Countable : Move → Prop
  | kick _ count _ | turn _ count => count ≤ i2cCountLimit
  | wait _ | take _ => True

end Move

section Countable

variable {chunk : Nat} (hchunk : 0 < chunk) (hlimit : chunk ≤ i2cCountLimit)
include hchunk hlimit

theorem Move.countable_writeChunks (address : Address) (bytes : List UInt8) :
    ∀ move ∈ writeChunks chunk address bytes, move.Countable := by
  have hwrite {payload : List UInt8} (hlength : payload.length ≤ chunk) :
      ∀ move ∈ writeChunk address payload, move.Countable :=
    List.forall_mem_cons.mpr ⟨Nat.le_trans hlength hlimit, List.forall_mem_singleton.mpr trivial⟩
  unfold writeChunks
  split
  · exact hwrite (Nat.zero_le _)
  · rw [List.forall_mem_flatMap]
    exact fun payload hpayload ↦
      hwrite (length_le_of_mem_cut (le_of_mem_chunkSizes hchunk _) bytes payload hpayload)

theorem Move.countable_readEach (address : Address) (count : Nat) (offset : UInt8) :
    ∀ move ∈ readEach address (chunkSizes chunk count) offset, move.Countable := by
  induction count using chunk_induction hchunk generalizing offset with
  | zero => simp [chunkSizes_zero, readEach]
  | next count hcount ih =>
    rw [chunkSizes_cons hchunk hcount, readEach, List.forall_mem_append]
    have hone : 1 ≤ i2cCountLimit := by decide
    have hsize : min chunk count ≤ i2cCountLimit := Nat.le_trans (Nat.min_le_left _ _) hlimit
    refine ⟨?_, ih _⟩
    simp only [readChunk, List.forall_mem_cons, List.not_mem_nil, false_implies, implies_true,
      and_true]
    exact ⟨hone, trivial, hsize, trivial, trivial⟩

theorem Move.countable_runPhases (address : Address) (phases : List Phase) (offset : UInt8) :
    ∀ move ∈ runPhases chunk address phases offset, move.Countable := by
  induction phases generalizing offset with
  | nil => exact fun _ hmem ↦ absurd hmem List.not_mem_nil
  | cons phase rest ih =>
    cases phase with
    | write bytes =>
      exact List.forall_mem_append.mpr ⟨countable_writeChunks hchunk hlimit address bytes, ih _⟩
    | read count =>
      exact List.forall_mem_append.mpr ⟨countable_readEach hchunk hlimit address count _, ih _⟩

/-- No move of a transfer asks for more than the size register can hold. -/
theorem Transfer.countable_moves (transfer : Transfer) :
    ∀ move ∈ transfer.moves chunk, move.Countable := by
  cases transfer with
  | writeBytes address bytes => exact Move.countable_writeChunks hchunk hlimit address bytes
  | readAt address offset count => exact Move.countable_readEach hchunk hlimit address count offset
  | transact address phases => exact Move.countable_runPhases hchunk hlimit address phases 0
  | readSegment segment offset count =>
    have hone : 1 ≤ i2cCountLimit := by decide
    refine List.forall_mem_append.mpr ⟨?_, Move.countable_readEach hchunk hlimit _ count offset⟩
    exact List.forall_mem_cons.mpr ⟨hone, List.forall_mem_singleton.mpr trivial⟩

end Countable

/-- From nothing queued on, the deeds of the events are those due, and nothing is left queued. If
the size register remembers what it is given, it is kept. -/
structure Fulfilled (staging : Staging) (dues : List Due) (events : List Event) : Prop where
  deeds : List.Forall₂ Due.Fits dues (staging.deeds events)
  spent : (staging.after events).queued = []
  kept : ∀ initial, Kept initial staging → Remembers i2cSize staging.size events →
    (∀ deed ∈ staging.deeds events, deed.Kept initial) ∧ Kept initial (staging.after events)

/-- The events do what is due wherever nothing is queued. -/
def Fulfils (dues : List Due) (events : List Event) : Prop :=
  ∀ staging : Staging, staging.queued = [] → Fulfilled staging dues events

namespace Fulfils

theorem nil : Fulfils [] [] := fun staging hqueued ↦
  ⟨.nil, hqueued, fun _ hkept _ ↦ ⟨by simp, hkept⟩⟩

theorem append {first second : List Due} {early late : List Event}
    (hearly : Fulfils first early) (hlate : Fulfils second late) :
    Fulfils (first ++ second) (early ++ late) := by
  intro staging hqueued
  have hfirst := hearly staging hqueued
  have hsecond := hlate (staging.after early) hfirst.spent
  refine ⟨?_, ?_, fun initial hkept hremembers ↦ ?_⟩
  · rw [Staging.deeds_append]
    exact List.rel_append hfirst.deeds hsecond.deeds
  · rw [Staging.after_append]
    exact hsecond.spent
  · rw [remembers_append, ← Staging.size_after] at hremembers
    obtain ⟨hdeeds, hmiddle⟩ := hfirst.kept initial hkept hremembers.1
    obtain ⟨hmore, hleft⟩ := hsecond.kept initial hmiddle hremembers.2
    rw [Staging.deeds_append, Staging.after_append, List.forall_mem_append]
    exact ⟨⟨hdeeds, hmore⟩, hleft⟩

theorem of_idle {events : List Event} (hevents : ∀ event ∈ events, Staging.Idle event) :
    Fulfils [] events := by
  intro staging hqueued
  obtain ⟨hafter, hdeeds⟩ := staging.of_idle hevents
  refine ⟨?_, ?_, fun initial hkept _ ↦ ?_⟩
  · rw [hdeeds]
    exact .nil
  · rwa [hafter]
  · rw [hdeeds, hafter]
    exact ⟨by simp, hkept⟩

/-- A command kicks off what is queued, with the count that the size register was given. -/
theorem kicked {staging : Staging} {bytes : List UInt8}
    (hbytes : bytes ≠ []) {count : Nat} (hcount : count ≤ i2cCountLimit) {commands : UInt32}
    (hcommands : commands &&& i2cCommandMask = commands) {before : List Event} (size : UInt32)
    (hbefore : staging.after before = { staging with
      queued := bytes.map UInt8.toUInt32
      size := (size &&& ~~~i2cCountMask) ||| Controller.countBits count
      found := size } ∧ staging.deeds before = [])
    (hsize : Remembers i2cSize staging.size before → size = staging.size) (old : UInt32) :
    Fulfilled staging [.kick bytes count commands]
      (before ++ Event.update i2cStart i2cCommandMask commands old) := by
  have hstaged : (staging.after before).queued ≠ [] := by
    rw [hbefore.1]
    simpa using hbytes
  obtain ⟨hafter, hdeeds⟩ := (staging.after before).of_command hstaged hcommands old
  rw [hbefore.1] at hafter hdeeds
  refine ⟨?_, ?_, fun initial hkept hremembers ↦ ?_⟩
  · rw [Staging.deeds_append, hbefore.2, hbefore.1, hdeeds]
    exact .cons ⟨rfl, rfl, countOf_counted size hcount,
      counted_and_of_disjoint size count (by decide)⟩ .nil
  · rw [Staging.after_append, hbefore.1, hafter]
  · obtain rfl := hsize ((remembers_append ..).mp hremembers).1
    rw [Staging.deeds_append, Staging.after_append, hbefore.2, hbefore.1, hdeeds, hafter]
    exact ⟨List.forall_mem_singleton.mpr (hkept.counted count _ _), hkept.counted count _ _⟩

/-- Starting the bus is no deed; where the engine is set up, the prescale changes. -/
theorem opens {controller : Controller} {events : List Event}
    (hopens : controller.Opens events) : Fulfils [] events := by
  rintro ⟨queued, held, found, setUp⟩ hqueued
  obtain rfl : queued = [] := hqueued
  cases hopens with
  | enabled henabled start =>
    exact ⟨.nil, rfl, fun initial hkept _ ↦ ⟨fun _ hdeed ↦ absurd hdeed List.not_mem_nil, hkept⟩⟩
  | @disabled control hdisabled again size start =>
    refine ⟨.nil, rfl, fun initial hkept hremembers ↦
      ⟨fun _ hdeed ↦ absurd hdeed List.not_mem_nil, ?_⟩⟩
    obtain rfl : size = held := by
      simpa +decide [Controller.setup, Event.update, Event.writes, Controller.stopWrites]
        using hremembers
    exact hkept.prescaled size

theorem load {count : Nat} (hcount : count ≤ i2cCountLimit) {bytes : List UInt8}
    (hbytes : bytes ≠ []) (size acknowledge start : UInt32) :
    Fulfils [.kick bytes count (i2cDone ||| i2cNack)]
      (Controller.load count bytes size acknowledge start) := by
  rintro ⟨queued, held, found, setUp⟩ hqueued
  obtain rfl : queued = [] := hqueued
  refine kicked hbytes hcount (by decide) size ?_ (fun hremembers ↦ ?_) start
  · rw [Staging.after_append, Staging.after_append, Staging.deeds_append, Staging.deeds_append]
    exact Staging.of_queue _ bytes
  · rw [remembers_append, remembers_append] at hremembers
    exact (remembers_read_cons ..).mp hremembers.1.1 |>.1 rfl

theorem turnaround (address : Address) {count : Nat} (hcount : count ≤ i2cCountLimit)
    (size start : UInt32) :
    Fulfils [.kick [address.turnaround] count (i2cDone ||| i2cNack ||| i2cHalt)]
      (Controller.turnaround address count size start) := by
  rintro ⟨queued, held, found, setUp⟩ hqueued
  obtain rfl : queued = [] := hqueued
  refine kicked (List.cons_ne_nil _ _) hcount (by decide) size ⟨rfl, rfl⟩ (fun hremembers ↦ ?_) start
  rw [remembers_append] at hremembers
  exact (remembers_read_cons ..).mp hremembers.2 |>.1 rfl

theorem fits_taken (values : List UInt32) :
    List.Forall₂ Due.Fits (List.replicate values.length .get) (values.map .get) := by
  induction values with
  | nil => exact .nil
  | cons value rest ih => exact .cons trivial ih

theorem taken (values : List UInt32) :
    Fulfils (List.replicate values.length .get) (values.map (Event.read i2cData)) := by
  intro staging hqueued
  obtain ⟨hafter, hdeeds⟩ := staging.of_taken values
  refine ⟨?_, by rwa [hafter], fun initial hkept _ ↦ ?_⟩
  · rw [hdeeds]
    exact fits_taken values
  · rw [hdeeds, hafter]
    exact ⟨by simp [Deed.Kept], hkept⟩

theorem complete {polls : List Event} (hpolls : ∀ event ∈ polls, Controller.IsPoll event) :
    Fulfils [] (Controller.pending :: polls ++ [Event.write i2cStatus i2cDone]) := by
  refine of_idle (List.forall_mem_append.mpr ⟨List.forall_mem_cons.mpr ⟨?_, ?_⟩, ?_⟩)
  · exact fun _ ↦ ⟨rfl, rfl⟩
  · exact fun event hevent ↦ Staging.idle_poll (hpolls event hevent)
  · exact List.forall_mem_singleton.mpr fun _ ↦ ⟨rfl, rfl⟩

theorem shows {controller : Controller} {link left : Link} {move : Move} {events : List Event}
    (hshows : controller.Shows link move events (.ok ()) left) (hcount : move.Countable) :
    Fulfils move.dues events := by
  cases hshows with
  | @kick address count bytes _ hopens size acknowledge start =>
    have hbytes : address.header .write ++ bytes ≠ [] := by
      cases address <;> exact List.cons_ne_nil _ _
    exact (opens hopens).append (load hcount hbytes size acknowledge start)
  | complete hpolls => exact complete hpolls.polled
  | turn size start => exact turnaround _ hcount size start
  | take hlength =>
    subst hlength
    exact taken _

/-- Each move leaves nothing queued for the next. -/
theorem course {controller : Controller} {link left : Link} {moves : List Move}
    {events : List Event} (hcourse : controller.Course link moves events (.ok ()) left)
    (hcounts : ∀ move ∈ moves, move.Countable) : Fulfils (moves.flatMap Move.dues) events :=
  Controller.Course.of_dues Move.dues Fulfils nil append
    (fun move hmem _ _ _ hshows ↦ shows hshows (hcounts move hmem)) hcourse

end Fulfils

/-- The byte that a deed takes. -/
def Deed.byte? : Deed → Option UInt8
  | kick _ _ => none
  | get value => some value.toUInt8

theorem Due.Fits.byte?_kick {bytes : List UInt8} {count : Nat} {commands : UInt32} {deed : Deed}
    (hfits : (Due.kick bytes count commands).Fits deed) : deed.byte? = none := by
  cases deed with
  | kick staging given => rfl
  | get value => exact hfits.elim

namespace Controller

section Runs

variable {controller : Controller} {link left : Link} {events : List Event}

/-- The bytes that arrive on the link are those that the deeds take. -/
theorem Shows.received {move : Move} (hshows : controller.Shows link move events (.ok ()) left)
    (hcount : move.Countable) {staging : Staging} (hqueued : staging.queued = []) :
    left.received = link.received ++ (staging.deeds events).filterMap Deed.byte? := by
  have hdeeds := (Fulfils.shows hshows hcount staging hqueued).deeds
  have hkick {bytes : List UInt8} {count : Nat} {commands : UInt32} {deeds : List Deed}
      (hfits : List.Forall₂ Due.Fits [.kick bytes count commands] deeds) :
      deeds.filterMap Deed.byte? = [] := by
    obtain ⟨deed, _, hdeed, hnone, rfl⟩ := List.forall₂_cons_left_iff.mp hfits
    rw [List.forall₂_nil_left_iff.mp hnone, List.filterMap_cons_none hdeed.byte?_kick]
    rfl
  cases hshows with
  | kick | turn => rw [hkick hdeeds, List.append_nil]
  | complete => rw [List.forall₂_nil_left_iff.mp hdeeds, List.filterMap_nil, List.append_nil]
  | @take _ values hlength =>
    rw [(staging.of_taken values).2, List.filterMap_map]
    simp [Function.comp_def, Deed.byte?]

theorem Course.received {moves : List Move}
    (hcourse : controller.Course link moves events (.ok ()) left)
    (hcounts : ∀ move ∈ moves, move.Countable) {staging : Staging}
    (hqueued : staging.queued = []) :
    left.received = link.received ++ (staging.deeds events).filterMap Deed.byte? := by
  induction moves generalizing link events staging with
  | nil =>
    cases hcourse with
    | done => simp
  | cons move rest ih =>
    rw [List.forall_mem_cons] at hcounts
    cases hcourse with
    | next hmove hrest =>
      have hspent := (Fulfils.shows hmove hcounts.1 staging hqueued).spent
      rw [ih hrest hcounts.2 hspent, hmove.received hcounts.1 hqueued, Staging.deeds_append,
        List.filterMap_append, List.append_assoc]

/-- A valid chunk holds something, and the size register can hold its count. -/
theorem chunk_of_validate {config : Config.Controller} (hvalid : config.validate = .ok ()) :
    0 < config.chunk ∧ config.chunk ≤ i2cCountLimit := by
  unfold Config.Controller.validate at hvalid
  split at hvalid
  · cases hvalid
  · omega

/-- A transfer whose waits are all complete succeeds and does what is due for its moves, and the
bytes that it takes arrive. -/
theorem fulfilled_of_complete {transfer : Transfer} {result : Except Error Unit}
    (hplays : ((transfer.exchange controller).run.run link).Plays events (result, left))
    (hwaits : ∀ statuses ∈ waits events, verdict controller.config statuses = .complete)
    (hvalid : controller.config.validate = .ok ()) (staging : Staging)
    (hqueued : staging.queued = []) :
    result = .ok () ∧
      Fulfilled staging ((transfer.moves controller.config.chunk).flatMap Move.dues) events ∧
      left.received = link.received ++ (staging.deeds events).filterMap Deed.byte? := by
  cases result with
  | error cause => cases (contained_error hplays).succeeds.mpr hwaits
  | ok value =>
    obtain ⟨hchunk, hlimit⟩ := chunk_of_validate hvalid
    have hcounts := transfer.countable_moves hchunk hlimit
    obtain ⟨course, middle, hcourse, rfl, rfl⟩ := plays_exchange hplays
    have hstop := Fulfils.of_idle Staging.idle_stop
    have hfulfilled := (Fulfils.course hcourse hcounts).append hstop staging hqueued
    rw [List.append_nil] at hfulfilled
    have hnone := (Staging.of_idle (staging.after course) Staging.idle_stop).2
    rw [Staging.deeds_append, hnone, List.append_nil]
    exact ⟨rfl, hfulfilled, hcourse.received hcounts hqueued⟩

end Runs

end Controller

end Scanout.I2c
