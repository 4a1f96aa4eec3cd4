import Scanout.Edid

/-!
A transfer of the hardware engine as a list of moves. Whatever is cut into chunks, and whatever
phases it comes from, the engine does four things only: it kicks a transaction off, waits for it,
turns the bus around, and takes the bytes that arrived. `Transfer.moves` is that list and depends on
the configuration through the size of a chunk alone; `Transfer.exchange_eq` says that a transfer
follows its moves and then stops. What is claimed of all transfers is then an induction on a list
with four cases, and for a kind of exchanges that sequences and stops do not leave this induction
is made once (`Composes.transfer`).
-/

set_option autoImplicit false
set_option relaxedAutoImplicit false

namespace Scanout.I2c

open Register

/-- One thing that the engine does in the course of a transfer. -/
inductive Move where
  | kick (address : Address) (count : Nat) (bytes : List UInt8)
  | wait (address : Address)
  | turn (address : Address) (count : Nat)
  | take (count : Nat)
  deriving DecidableEq, Repr

namespace Move

/-- The moves that write one chunk. -/
def writeChunk (address : Address) (bytes : List UInt8) : List Move :=
  [.kick address bytes.length bytes, .wait address]

/-- The moves that read one chunk. -/
def readChunk (address : Address) (offset : UInt8) (count : Nat) : List Move :=
  [.kick address 1 [offset], .wait address, .turn address count, .wait address, .take count]

/-- The moves that write bytes, cut into chunks. -/
def writeChunks (chunk : Nat) (address : Address) (bytes : List UInt8) : List Move :=
  if bytes.isEmpty then writeChunk address []
  else (cut (chunkSizes chunk bytes.length) bytes).flatMap (writeChunk address)

/-- The moves that read chunks of the given sizes. -/
def readEach (address : Address) : (sizes : List Nat) → (offset : UInt8) → List Move
  | [], _ => []
  | size :: sizes, offset =>
    readChunk address offset size ++ readEach address sizes (offset + size.toUInt8)

/-- The moves of some phases, which carry the offset from one to the next. -/
def runPhases (chunk : Nat) (address : Address) : List Phase → (offset : UInt8) → List Move
  | [], _ => []
  | .write bytes :: rest, offset =>
    writeChunks chunk address bytes ++ runPhases chunk address rest (bytes.getLast?.getD offset)
  | .read count :: rest, offset =>
    readEach address (chunkSizes chunk count) offset ++
      runPhases chunk address rest (offset + count.toUInt8)

/-- The slave that a move waits for. -/
def awaited : Move → Option Address
  | wait address => some address
  | kick _ _ _ | turn _ _ | take _ => none

/-- How many bytes a move takes. -/
def taken : Move → Nat
  | take count => count
  | kick _ _ _ | wait _ | turn _ _ => 0

end Move

/-- One call of the engine. -/
inductive Transfer where
  | writeBytes (address : Address) (bytes : List UInt8)
  | readAt (address : Address) (offset : UInt8) (count : Nat)
  | transact (address : Address) (phases : List Phase)
  | readSegment (segment offset : UInt8) (count : Nat)
  deriving DecidableEq, Repr

namespace Transfer

/-- The call as the engine makes it. -/
def exchange (controller : Controller) : Transfer → Controller.Exchange Unit
  | writeBytes address bytes => controller.writeBytes address bytes
  | readAt address offset count => controller.readAt address offset count
  | transact address phases => controller.transfer address phases
  | readSegment segment offset count => Edid.Segment.ofController controller segment offset count

/-- The moves of the call. -/
def moves (chunk : Nat) : Transfer → List Move
  | writeBytes address bytes => Move.writeChunks chunk address bytes
  | readAt address offset count => Move.readEach address (chunkSizes chunk count) offset
  | transact address phases => Move.runPhases chunk address phases 0
  | readSegment segment offset count =>
    Move.writeChunk (.seven Edid.segmentAddress) [segment] ++
      Move.readEach (.seven Edid.memoryAddress) (chunkSizes chunk count) offset

end Transfer

/-- A list of moves that begins with a kick that is waited for, if there is anything in it. -/
def Move.Kicking (moves : List Move) : Prop :=
  moves = [] ∨ ∃ address count bytes rest,
    moves = .kick address count bytes :: .wait address :: rest

theorem Move.Kicking.append {early late : List Move} (hearly : Kicking early)
    (hlate : Kicking late) : Kicking (early ++ late) := by
  obtain rfl | ⟨address, count, bytes, rest, rfl⟩ := hearly
  · exact hlate
  · exact .inr ⟨address, count, bytes, rest ++ late, rfl⟩

theorem Move.kicking_writeChunks (chunk : Nat) (address : Address) (bytes : List UInt8) :
    Kicking (writeChunks chunk address bytes) := by
  unfold writeChunks
  split
  · exact .inr ⟨_, _, _, _, rfl⟩
  · cases chunkSizes chunk bytes.length with
    | nil => exact .inl rfl
    | cons size sizes => exact .inr ⟨_, _, _, _, rfl⟩

theorem Move.kicking_readEach (address : Address) (sizes : List Nat) (offset : UInt8) :
    Kicking (readEach address sizes offset) := by
  cases sizes with
  | nil => exact .inl rfl
  | cons size sizes => exact .inr ⟨_, _, _, _, rfl⟩

theorem Move.kicking_runPhases (chunk : Nat) (address : Address) (phases : List Phase)
    (offset : UInt8) : Kicking (runPhases chunk address phases offset) := by
  induction phases generalizing offset with
  | nil => exact .inl rfl
  | cons phase rest ih =>
    cases phase with
    | write bytes => exact (kicking_writeChunks chunk address bytes).append (ih _)
    | read count => exact (kicking_readEach address _ offset).append (ih _)

/-- Nothing is waited for before it was kicked off. -/
theorem Transfer.kicking_moves (chunk : Nat) (transfer : Transfer) :
    Move.Kicking (transfer.moves chunk) := by
  cases transfer with
  | writeBytes address bytes => exact Move.kicking_writeChunks chunk address bytes
  | readAt address offset count => exact Move.kicking_readEach address _ offset
  | transact address phases => exact Move.kicking_runPhases chunk address phases 0
  | readSegment segment offset count => exact .inr ⟨_, _, _, _, rfl⟩

/-- Whatever shows an item for each byte that a move takes shows as many of a read as are asked
for. -/
theorem Move.count_readEach {α : Type} [BEq α] (shown : Move → List α) (item : α)
    (hshown : ∀ move, (shown move).count item = move.taken) (address : Address)
    (sizes : List Nat) (offset : UInt8) :
    ((readEach address sizes offset).flatMap shown).count item = sizes.foldr (· + ·) 0 := by
  induction sizes generalizing offset with
  | nil => rfl
  | cons size sizes ih =>
    rw [readEach, List.flatMap_append, List.count_append, ih, List.foldr_cons, List.count_flatMap]
    refine congrArg (· + _) ?_
    simp [readChunk, hshown, taken]

namespace Controller

/-- The move as the engine makes it. -/
def move (controller : Controller) : Move → Exchange Unit
  | .kick address count bytes => (controller.kick address count bytes : Step Unit)
  | .wait address => controller.wait address
  | .turn address count => do
    queue [address.turnaround]
    setCount count
    go (i2cDone ||| i2cNack ||| i2cHalt)
  | .take count => do
    let bytes ← take count
    modify fun link => { link with received := link.received ++ bytes }

/-- Some moves in order. -/
def follow (controller : Controller) : List Move → Exchange Unit
  | [] => return
  | next :: rest => do
    controller.move next
    controller.follow rest

variable (controller : Controller)

theorem follow_append (early late : List Move) :
    controller.follow (early ++ late) =
      controller.follow early >>= fun _ ↦ controller.follow late := by
  induction early with
  | nil => simp only [List.nil_append, follow, pure_bind]
  | cons next rest ih => simp only [List.cons_append, follow, ih, bind_assoc]

theorem follow_writeChunk (address : Address) (bytes : List UInt8) :
    controller.follow (Move.writeChunk address bytes) = controller.writeChunk address bytes := by
  simp only [Move.writeChunk, follow, move, writeChunk]
  exact bind_congr fun _ ↦ bind_pure _

theorem follow_readChunk (address : Address) (offset : UInt8) (count : Nat) :
    controller.follow (Move.readChunk address offset count) =
      controller.readChunk address offset count := by
  simp only [Move.readChunk, follow, move, readChunk, bind_assoc, bind_pure_unit]

theorem follow_writeEach (address : Address) (chunks : List (List UInt8)) :
    controller.follow (chunks.flatMap (Move.writeChunk address)) =
      controller.writeEach address chunks := by
  induction chunks with
  | nil => rfl
  | cons bytes rest ih => rw [List.flatMap_cons, follow_append, follow_writeChunk, ih, writeEach]

theorem follow_writeChunks (address : Address) (bytes : List UInt8) :
    controller.follow (Move.writeChunks controller.config.chunk address bytes) =
      controller.writeChunks address bytes := by
  unfold Move.writeChunks writeChunks
  split
  · exact controller.follow_writeChunk address []
  · exact controller.follow_writeEach address _

theorem follow_readEach (address : Address) (sizes : List Nat) (offset : UInt8) :
    controller.follow (Move.readEach address sizes offset) =
      controller.readEach address sizes offset := by
  induction sizes generalizing offset with
  | nil => rfl
  | cons size sizes ih => rw [Move.readEach, follow_append, follow_readChunk, ih, readEach]

theorem follow_runPhases (address : Address) (phases : List Phase) (offset : UInt8) :
    controller.follow (Move.runPhases controller.config.chunk address phases offset) =
      controller.runPhases address phases offset := by
  induction phases generalizing offset with
  | nil => rfl
  | cons phase rest ih =>
    cases phase with
    | write bytes => rw [Move.runPhases, follow_append, follow_writeChunks, ih, runPhases]
    | read count => rw [Move.runPhases, follow_append, follow_readEach, ih, runPhases, readChunks]

end Controller

/-- A transfer makes its moves, and then stops whatever came of them. -/
theorem Transfer.exchange_eq (controller : Controller) (transfer : Transfer) :
    transfer.exchange controller =
      Controller.closed (controller.follow (transfer.moves controller.config.chunk)) := by
  cases transfer with
  | writeBytes address bytes =>
    rw [moves, Controller.follow_writeChunks]
    rfl
  | readAt address offset count =>
    rw [moves, Controller.follow_readEach]
    rfl
  | transact address phases =>
    rw [moves, Controller.follow_runPhases]
    rfl
  | readSegment segment offset count =>
    rw [moves, Controller.follow_append, Controller.follow_writeChunk, Controller.follow_readEach]
    rfl

namespace Controller

/-- A kind of exchanges that doing nothing is of, one member after another is of, and a member with
the stop behind it is of. -/
structure Composes (kind : Exchange Unit → Prop) : Prop where
  done : kind (pure ())
  next : ∀ {first rest : Exchange Unit}, kind first → kind rest → kind (first >>= fun _ ↦ rest)
  closed : ∀ {exchange : Exchange Unit}, kind exchange → kind (closed exchange)

variable {kind : Exchange Unit → Prop} (hkind : Composes kind) {controller : Controller}
include hkind

theorem Composes.follow (hmove : ∀ move, kind (controller.move move)) (moves : List Move) :
    kind (controller.follow moves) := by
  induction moves with
  | nil => exact hkind.done
  | cons next rest ih => exact hkind.next (hmove next) ih

/-- A transfer is of the kind that its moves are of. -/
theorem Composes.transfer (hmove : ∀ move, kind (controller.move move)) (transfer : Transfer) :
    kind (transfer.exchange controller) := by
  rw [transfer.exchange_eq]
  exact hkind.closed (hkind.follow hmove _)

end Controller

end Scanout.I2c
