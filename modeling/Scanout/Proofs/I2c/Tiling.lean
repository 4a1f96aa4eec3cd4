import Scanout.Proofs.I2c.Payload

/-!
Reads tile the memory of a slave. Each chunk of a read sends its own offset, turns the slave around
and takes as many bytes as the size register then asks for, and the next chunk begins where it ends
(`Due.tiles`). A slave that streams its memory from the last offset on (`Streams`) is therefore read
as if there were no chunks at all. A transfer carries the offset over its phases: a read begins
where the read before it ended, or at the last byte written (`StartsAt`).
-/

set_option autoImplicit false
set_option relaxedAutoImplicit false

namespace Scanout.I2c

open Register

/-- The deeds that are due for one chunk of a read. -/
def Due.tile (address : Address) (offset : UInt8) (count : Nat) : List Due :=
  .kick (address.header .write ++ [offset]) 1 (i2cDone ||| i2cNack) ::
    .kick [address.turnaround] count (i2cDone ||| i2cNack ||| i2cHalt) ::
      List.replicate count .get

/-- The deeds that are due for a read: as many chunks as it takes, full ones but for what is left at
the end, each at the offset of its place. -/
def Due.tiles (chunk : Nat) (address : Address) (offset : UInt8) (count : Nat) : List Due :=
  (List.range ((count + chunk - 1) / chunk)).flatMap fun index ↦
    tile address (offset + (index * chunk).toUInt8) (min chunk (count - index * chunk))

/-- Some bytes of a memory from an offset on, which wraps at the end. -/
def streamed (memory : UInt8 → UInt8) (offset : UInt8) (count : Nat) : List UInt8 :=
  (List.range count).map fun index ↦ memory (offset + index.toUInt8)

/-- Where a slave stands after a transaction: at the offset that was sent behind its address, and
where it stood if it was only turned around. Nothing is said of it after other transactions. -/
def pointed (address : Address) (queued : List UInt32) (place : Option UInt8) : Option UInt8 :=
  if queued = [address.turnaround.toUInt32] then place
  else if queued.dropLast = (address.header .write).map UInt8.toUInt32 then
    queued.getLast?.map UInt32.toUInt8
  else none

/-- Where a slave stands after a deed. -/
def Deed.moved (address : Address) (place : Option UInt8) : Deed → Option UInt8
  | kick staging _ => pointed address staging.queued place
  | get _ => place.map (· + 1)

/-- A byte that is taken is the one at the place, if it is known where the slave stands. -/
def Deed.Agrees (memory : UInt8 → UInt8) (place : Option UInt8) : Deed → Prop
  | kick _ _ => True
  | get value => ∀ offset ∈ place, value.toUInt8 = memory offset

/-- The slave answers the deeds from a memory, going on from byte to byte after an offset. -/
def Streams (memory : UInt8 → UInt8) (address : Address) : Option UInt8 → List Deed → Prop
  | _, [] => True
  | place, deed :: rest =>
    deed.Agrees memory place ∧ Streams memory address (deed.moved address place) rest

instance (memory : UInt8 → UInt8) (place : Option UInt8) (deed : Deed) :
    Decidable (deed.Agrees memory place) :=
  match deed with
  | .kick _ _ => .isTrue trivial
  | .get value => inferInstanceAs (Decidable (∀ offset ∈ place, value.toUInt8 = memory offset))

instance Streams.decidable (memory : UInt8 → UInt8) (address : Address) :
    (place : Option UInt8) → (deeds : List Deed) →
      Decidable (Streams memory address place deeds)
  | _, [] => .isTrue trivial
  | place, deed :: rest =>
    have := Streams.decidable memory address (deed.moved address place) rest
    inferInstanceAs (Decidable (_ ∧ _))

section Streaming

variable {memory : UInt8 → UInt8} {address : Address}

theorem streams_append (place : Option UInt8) (early late : List Deed) :
    Streams memory address place (early ++ late) ↔ Streams memory address place early ∧
      Streams memory address (early.foldl (Deed.moved address) place) late := by
  induction early generalizing place with
  | nil => simp [Streams]
  | cons deed rest ih => rw [List.cons_append, Streams, Streams, ih, and_assoc]; rfl

theorem streamed_append (memory : UInt8 → UInt8) (offset : UInt8) (first second : Nat) :
    streamed memory offset (first + second) =
      streamed memory offset first ++ streamed memory (offset + first.toUInt8) second := by
  simp only [streamed, List.range_add, List.map_append, List.map_map, Function.comp_def,
    Nat.toUInt8, UInt8.ofNat_add, UInt8.add_assoc]

@[simp] theorem length_streamed (memory : UInt8 → UInt8) (offset : UInt8) (count : Nat) :
    (streamed memory offset count).length = count := by
  rw [streamed, List.length_map, List.length_range]

theorem streamed_succ (memory : UInt8 → UInt8) (offset : UInt8) (count : Nat) :
    streamed memory offset (count + 1) = memory offset :: streamed memory (offset + 1) count := by
  have hfirst : streamed memory offset 1 = [memory offset] := by simp [streamed]
  rw [Nat.add_comm, streamed_append, hfirst]
  rfl

/-- Behind an offset the bytes come one after the other. -/
theorem taken_of_streams {count : Nat} {place : UInt8} {deeds : List Deed}
    (hfits : List.Forall₂ Due.Fits (List.replicate count .get) deeds)
    (hstreams : Streams memory address (some place) deeds) :
    deeds.filterMap Deed.byte? = streamed memory place count := by
  induction count generalizing place deeds with
  | zero =>
    rw [List.forall₂_nil_left_iff.mp hfits]
    rfl
  | succ count ih =>
    rw [List.replicate_succ] at hfits
    obtain ⟨deed, rest, hdeed, hrest, rfl⟩ := List.forall₂_cons_left_iff.mp hfits
    cases deed with
    | kick staging given => exact hdeed.elim
    | get value =>
      obtain ⟨hvalue, hlater⟩ := hstreams
      rw [streamed_succ, ← hvalue place rfl, ← ih hrest hlater]
      rfl

/-- A slave stands at the offset that was sent to it. -/
theorem pointed_offset (address : Address) (offset : UInt8) (place : Option UInt8) :
    pointed address ((address.header .write ++ [offset]).map UInt8.toUInt32) place =
      some offset := by
  have hother : (address.header .write ++ [offset]).map UInt8.toUInt32 ≠
      [address.turnaround.toUInt32] := by
    cases address <;> simp [Address.header]
  rw [pointed, if_neg hother, List.map_append, List.map_singleton, List.dropLast_concat,
    if_pos rfl, List.getLast?_concat, Option.map_some, UInt8.toUInt8_toUInt32]

theorem Due.Fits.moved_kick {bytes : List UInt8} {count : Nat} {commands : UInt32} {deed : Deed}
    (hfits : (Due.kick bytes count commands).Fits deed) (place : Option UInt8) :
    deed.moved address place = pointed address (bytes.map UInt8.toUInt32) place := by
  cases deed with
  | kick staging given => rw [Deed.moved, hfits.2.1]
  | get value => exact hfits.elim

/-- A chunk takes the bytes of the memory from its offset on, wherever the slave stood before. -/
theorem taken_of_tile {offset : UInt8} {count : Nat} {place : Option UInt8} {deeds : List Deed}
    (hfits : List.Forall₂ Due.Fits (Due.tile address offset count) deeds)
    (hstreams : Streams memory address place deeds) :
    deeds.filterMap Deed.byte? = streamed memory offset count := by
  obtain ⟨first, _, hfirst, hmore, rfl⟩ := List.forall₂_cons_left_iff.mp hfits
  obtain ⟨second, gets, hsecond, hgets, rfl⟩ := List.forall₂_cons_left_iff.mp hmore
  rw [List.filterMap_cons_none hfirst.byte?_kick, List.filterMap_cons_none hsecond.byte?_kick]
  obtain ⟨-, -, hstreams⟩ := hstreams
  rw [hfirst.moved_kick, pointed_offset, hsecond.moved_kick, pointed, List.map_singleton,
    if_pos rfl] at hstreams
  exact taken_of_streams hgets hstreams

end Streaming

section Tiles

variable {chunk : Nat} (hchunk : 0 < chunk) {address : Address}
include hchunk

theorem tiles_zero (offset : UInt8) : Due.tiles chunk address offset 0 = [] := by
  have hnone : (0 + chunk - 1) / chunk = 0 := chunkCount_zero hchunk
  rw [Due.tiles, hnone]
  rfl

/-- Behind the first chunk of a read is the read of what it leaves. -/
theorem tiles_cons {count : Nat} (hcount : 0 < count) (offset : UInt8) :
    Due.tiles chunk address offset count =
      Due.tile address offset (min chunk count) ++
        Due.tiles chunk address (offset + (min chunk count).toUInt8) (count - chunk) := by
  have hmore : (count + chunk - 1) / chunk = (count - chunk + chunk - 1) / chunk + 1 :=
    chunkCount_cons hchunk hcount
  rw [Due.tiles, hmore, List.range_succ_eq_map, List.flatMap_cons, List.flatMap_map]
  refine congrArg₂ (· ++ ·) (by simp) ?_
  rcases Nat.le_total count chunk with hshort | hfull
  · have hnone : (count - chunk + chunk - 1) / chunk = 0 := by
      rw [Nat.sub_eq_zero_of_le hshort]
      exact chunkCount_zero hchunk
    rw [Due.tiles, hnone]
    rfl
  · rw [Nat.min_eq_left hfull, Due.tiles]
    refine List.flatMap_congr fun index _ ↦ ?_
    have hoffset : ((index + 1) * chunk).toUInt8 = chunk.toUInt8 + (index * chunk).toUInt8 := by
      rw [Nat.succ_mul, Nat.add_comm]
      exact UInt8.ofNat_add _ _
    have hleft : count - (index + 1) * chunk = count - chunk - index * chunk := by
      rw [Nat.succ_mul]
      omega
    rw [Nat.succ_eq_add_one, hoffset, hleft, UInt8.add_assoc]

/-- What is due for the chunks of a read tiles it. -/
theorem dues_readEach (count : Nat) (offset : UInt8) :
    (Move.readEach address (chunkSizes chunk count) offset).flatMap Move.dues =
      Due.tiles chunk address offset count := by
  induction count using chunk_induction hchunk generalizing offset with
  | zero => rw [chunkSizes_zero, tiles_zero hchunk]; rfl
  | next count hcount ih =>
    rw [chunkSizes_cons hchunk hcount, tiles_cons hchunk hcount, Move.readEach,
      List.flatMap_append, ih]
    simp [Move.readChunk, Move.dues, Due.tile]

/-- A read takes the bytes of the memory from its offset on, whatever the chunks. -/
theorem taken_of_tiles {memory : UInt8 → UInt8} {count : Nat} {offset : UInt8}
    {place : Option UInt8} {deeds : List Deed}
    (hfits : List.Forall₂ Due.Fits (Due.tiles chunk address offset count) deeds)
    (hstreams : Streams memory address place deeds) :
    deeds.filterMap Deed.byte? = streamed memory offset count := by
  induction count using chunk_induction hchunk generalizing offset place deeds with
  | zero =>
    rw [tiles_zero hchunk] at hfits
    rw [List.forall₂_nil_left_iff.mp hfits]
    rfl
  | next count hcount ih =>
    rw [tiles_cons hchunk hcount] at hfits
    obtain ⟨first, later, rfl, hfirst, hlater⟩ := forall₂_append_left hfits
    obtain ⟨hearly, hlate⟩ := (streams_append place first later).mp hstreams
    rw [List.filterMap_append, taken_of_tile hfirst hearly, ih hlater hlate, ← streamed_append]
    congr 1
    omega

end Tiles

/-- The offset that a phase leaves to the next one. -/
def Phase.carry (offset : UInt8) : Phase → UInt8
  | write bytes => bytes.getLast?.getD offset
  | read count => offset + count.toUInt8

/-- Where a read begins behind some phases: a transfer begins at the bottom of the memory, a read
goes on where the one before it ended, and a write sets the offset to its last byte, if it has
one. -/
inductive StartsAt : List Phase → UInt8 → Prop
  | first : StartsAt [] 0
  | read {before : List Phase} {start : UInt8} (hstart : StartsAt before start) (count : Nat) :
      StartsAt (before ++ [.read count]) (start + count.toUInt8)
  | written (before : List Phase) (bytes : List UInt8) (last : UInt8) :
      StartsAt (before ++ [.write (bytes ++ [last])]) last
  | unwritten {before : List Phase} {start : UInt8} (hstart : StartsAt before start) :
      StartsAt (before ++ [.write []]) start

theorem StartsAt.carried {before : List Phase} {start : UInt8} (hstart : StartsAt before start) :
    before.foldl Phase.carry 0 = start := by
  induction hstart with
  | first => rfl
  | read _ count ih => rw [List.foldl_append, ih]; rfl
  | written before bytes last => simp [Phase.carry]
  | unwritten _ ih => rw [List.foldl_append, ih]; rfl

theorem Move.runPhases_append (chunk : Nat) (address : Address) (early late : List Phase)
    (offset : UInt8) :
    runPhases chunk address (early ++ late) offset =
      runPhases chunk address early offset ++
        runPhases chunk address late (early.foldl Phase.carry offset) := by
  induction early generalizing offset with
  | nil => rfl
  | cons phase rest ih =>
    cases phase with
    | write bytes => rw [List.cons_append, runPhases, ih, runPhases, List.append_assoc]; rfl
    | read count => rw [List.cons_append, runPhases, ih, runPhases, List.append_assoc]; rfl

theorem Move.count_get_dues (move : Move) : move.dues.count .get = move.taken := by
  cases move <;> simp [dues, taken]

/-- As many bytes are due to be taken as the phases read. -/
theorem Move.count_get_dues_runPhases (chunk : Nat) (address : Address) (phases : List Phase)
    (offset : UInt8) :
    ((runPhases chunk address phases offset).flatMap dues).count .get = Phase.asked phases := by
  induction phases generalizing offset with
  | nil => rfl
  | cons phase rest ih =>
    rw [runPhases.eq_def]
    cases phase with
    | write bytes =>
      have hnone : ((payloads chunk bytes).map (Due.write address)).count .get = 0 := by
        simp [List.count_eq_zero, Due.write]
      rw [List.flatMap_append, List.count_append, dues_writeChunks, hnone, ih, Nat.zero_add,
        Phase.asked]
    | read count =>
      rw [List.flatMap_append, List.count_append, count_readEach dues .get count_get_dues,
        chunkSizes_total, ih, Phase.asked]

/-- A byte is taken for each that is due. -/
theorem length_taken {dues : List Due} {deeds : List Deed}
    (hfits : List.Forall₂ Due.Fits dues deeds) :
    (deeds.filterMap Deed.byte?).length = dues.count .get := by
  induction hfits with
  | nil => rfl
  | @cons due deed dues deeds hdeed _ ih =>
    cases due with
    | kick bytes count commands =>
      rw [List.filterMap_cons_none hdeed.byte?_kick, ih, List.count_cons_of_ne (by simp)]
    | get =>
      cases deed with
      | kick staging given => exact hdeed.elim
      | get value =>
        rw [List.count_cons_self, ← ih]
        rfl

namespace Controller

/-- Whatever the registers answer, if every wait of a read is complete, the read succeeds and is
tiled; from a slave that streams a memory it brings the bytes from its offset on, which no longer
depend on the size of a chunk. A read in a transfer is tiled like that from where it starts. -/
theorem reads_tiled (controller : Controller) (address : Address) (link : Link)
    (hvalid : controller.config.validate = .ok ()) {σ : Type}
    (handler : Handler Access.signature σ) (state : σ) :
    (∀ offset count,
      let program := (controller.readAt address offset count).run.run link
      let trace := program.trace handler state
      let deeds := ({} : Staging).deeds trace
      (∀ statuses ∈ waits trace, verdict controller.config statuses = .complete) →
      (program.run handler state).1.1 = .ok () ∧
        List.Forall₂ Due.Fits (Due.tiles controller.config.chunk address offset count) deeds ∧
        ∀ memory, Streams memory address none deeds →
          (program.run handler state).1.2.received =
            link.received ++ streamed memory offset count) ∧
    ∀ before count after start, StartsAt before start →
      let phases := before ++ .read count :: after
      let program := (controller.transfer address phases).run.run link
      let trace := program.trace handler state
      let deeds := ({} : Staging).deeds trace
      (∀ statuses ∈ waits trace, verdict controller.config statuses = .complete) →
      (program.run handler state).1.1 = .ok () ∧
        ∃ early middle late, deeds = early ++ middle ++ late ∧
          List.Forall₂ Due.Fits
            ((Move.runPhases controller.config.chunk address before 0).flatMap Move.dues) early ∧
          List.Forall₂ Due.Fits (Due.tiles controller.config.chunk address start count) middle ∧
          ∀ memory, Streams memory address none deeds → ∃ arrived,
            (program.run handler state).1.2.received = link.received ++ arrived ∧
            Phase.buffers phases arrived =
              Phase.buffers before arrived ++ streamed memory start count ::
                Phase.buffers after (arrived.drop (Phase.asked before + count)) := by
  obtain ⟨hchunk, -⟩ := chunk_of_validate hvalid
  constructor
  · intro offset count program trace deeds hwaits
    have hplays : (((Transfer.readAt address offset count).exchange controller).run.run link).Plays
        trace (program.run handler state).1 := Program.plays_trace handler program state
    obtain ⟨hok, ⟨hdeeds, -, -⟩, hreceived⟩ := fulfilled_of_complete hplays hwaits hvalid {} rfl
    rw [Transfer.moves, dues_readEach hchunk] at hdeeds
    refine ⟨hok, hdeeds, fun memory hstreams ↦ ?_⟩
    rw [hreceived, taken_of_tiles hchunk hdeeds hstreams]
  · intro before count after start hstart phases program trace deeds hwaits
    have hplays : (((Transfer.transact address phases).exchange controller).run.run link).Plays
        trace (program.run handler state).1 := Program.plays_trace handler program state
    obtain ⟨hok, ⟨hdeeds, -, -⟩, hreceived⟩ := fulfilled_of_complete hplays hwaits hvalid {} rfl
    rw [Transfer.moves, Move.runPhases_append, hstart.carried, Move.runPhases, List.flatMap_append,
      List.flatMap_append, dues_readEach hchunk] at hdeeds
    obtain ⟨early, _, hparts, hearly, hrest⟩ := forall₂_append_left hdeeds
    obtain ⟨middle, late, rfl, hmiddle, -⟩ := forall₂_append_left hrest
    have hparts : deeds = early ++ (middle ++ late) := hparts
    refine ⟨hok, early, middle, late, by rw [hparts, List.append_assoc], hearly, hmiddle,
      fun memory hstreams ↦ ⟨deeds.filterMap Deed.byte?, hreceived, ?_⟩⟩
    rw [hparts] at hstreams
    have hstreamed := taken_of_tiles hchunk hmiddle
      ((streams_append _ middle late).mp ((streams_append none early _).mp hstreams).2).1
    have hbefore : (early.filterMap Deed.byte?).length = Phase.asked before :=
      (length_taken hearly).trans (Move.count_get_dues_runPhases ..)
    have harrived : (deeds.filterMap Deed.byte?).drop (Phase.asked before) =
        streamed memory start count ++ late.filterMap Deed.byte? := by
      rw [hparts, List.filterMap_append, List.filterMap_append, hstreamed, List.drop_left' hbefore]
    rw [Phase.buffers_append_read, harrived, Phase.fill_append (length_streamed ..)]

/-- An engine that is always done, with a slave behind it that streams a memory. It keeps what is
queued and where the slave stands. -/
def streaming (memory : UInt8 → UInt8) (address : Address) :
    Handler Access.signature (List UInt32 × Option UInt8) where
  answer
    | .read offset, (queued, place) =>
      if (⟨offset⟩ : Direct) = i2cData then
        (((place.map memory).getD 0).toUInt32, queued, place.map (· + 1))
      else (if (⟨offset⟩ : Direct) = i2cStatus then i2cDone else 0, queued, place)
    | .write offset value, (queued, place) =>
      if (⟨offset⟩ : Direct) = i2cData then ((), queued ++ [value], place)
      else if (⟨offset⟩ : Direct) = i2cStart ∧ queued ≠ [] then
        ((), [], pointed address queued place)
      else ((), queued, place)
    | .delay _, state | .note _, state => ((), state)

/-- Five bytes in chunks of two from an offset at which the memory wraps, on their own and in a
transfer behind a write and another read. -/
theorem reads_tiled_wrapping :
    let controller : Controller := ⟨{ chunk := 2 }, 1⟩
    let memory : UInt8 → UInt8 := fun place ↦ 3 * place + 1
    let handler := streaming memory (.seven 0x50)
    let single := (controller.readAt (.seven 0x50) 0xFE 5).run.run {}
    let phases : List Phase := [.write [7, 0xFC], .read 2, .read 5, .write [1]]
    let mixed := (controller.transfer (.seven 0x50) phases).run.run {}
    controller.config.validate = .ok () ∧
      StartsAt [.write [7, 0xFC], .read 2] 0xFE ∧
      (∀ statuses ∈ waits (single.trace handler ([], none)),
        verdict controller.config statuses = .complete) ∧
      Streams memory (.seven 0x50) none (({} : Staging).deeds (single.trace handler ([], none))) ∧
      (∀ statuses ∈ waits (mixed.trace handler ([], none)),
        verdict controller.config statuses = .complete) ∧
      Streams memory (.seven 0x50) none (({} : Staging).deeds (mixed.trace handler ([], none))) ∧
      (single.run handler ([], none)).1.2.received = streamed memory 0xFE 5 ∧
      ∃ arrived, (mixed.run handler ([], none)).1.2.received = arrived ∧
        (Phase.buffers phases arrived)[1]? = some (streamed memory 0xFE 5) := by
  intro controller memory handler single phases mixed
  have hvalid : controller.config.validate = .ok () := rfl
  have hstart : StartsAt [.write [7, 0xFC], .read 2] 0xFE := (StartsAt.written [] [7] 0xFC).read 2
  have hsingle : ∀ statuses ∈ waits (single.trace handler ([], none)),
      verdict controller.config statuses = .complete := by decide +kernel
  have hstreams : Streams memory (.seven 0x50) none
      (({} : Staging).deeds (single.trace handler ([], none))) := by decide +kernel
  have hmixed : ∀ statuses ∈ waits (mixed.trace handler ([], none)),
      verdict controller.config statuses = .complete := by decide +kernel
  have hstreams' : Streams memory (.seven 0x50) none
      (({} : Staging).deeds (mixed.trace handler ([], none))) := by decide +kernel
  obtain ⟨hread, htransfer⟩ :=
    reads_tiled controller (.seven 0x50) {} hvalid handler ([], none)
  obtain ⟨-, -, hreceived⟩ := hread 0xFE 5 hsingle
  obtain ⟨-, _, _, _, -, -, -, hbuffers⟩ :=
    htransfer [.write [7, 0xFC], .read 2] 5 [.write [1]] 0xFE hstart hmixed
  obtain ⟨arrived, harrived, hbuffer⟩ := hbuffers memory hstreams'
  refine ⟨hvalid, hstart, hsingle, hstreams, hmixed, hstreams', ?_, arrived, harrived, ?_⟩
  · exact hreceived memory hstreams
  · exact (congrArg (·[1]?) hbuffer).trans rfl

end Controller

end Scanout.I2c
