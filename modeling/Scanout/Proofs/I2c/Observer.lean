import Scanout.I2c.BitBang
import Scanout.Proofs.Program.Trace
import Mathlib.Data.List.Forall2

/-!
What an observer of the two lines makes of a transfer. It follows the levels that the master drives
and knows three signs: the data line falls while the clock is high, it rises while the clock is
high, or the clock goes through a whole pulse in which the data line stands still. Beside a pulse
it notes what was last sampled during it.

`frame` is the exchange that the phases ask for in these terms, with the bytes of the slave in the
places where the master listens.
-/

set_option autoImplicit false
set_option relaxedAutoImplicit false

namespace Scanout.I2c

/-- A sign on the bus: what the master drives, and for a pulse what was last sampled in it. -/
inductive Symbol where
  | start
  | stop
  | pulse (driven : Bool) (sampled : Option Bool)
  deriving DecidableEq, Repr

/-- An observer of the lines. `whole` holds from where the clock rose for as long as the data line
has stood still. -/
structure Observer where
  levels : Levels := .released
  whole : Bool := false
  sampled : Option Bool := none
  symbols : List Symbol := []
  deriving DecidableEq, Repr

namespace Observer

/-- The lines go over to new levels. -/
def drive (observer : Observer) (levels : Levels) : Observer :=
  match observer.levels.clock, levels.clock with
  | true, true =>
    if observer.levels.data = levels.data then observer
    else { observer with
      levels, whole := false
      symbols := observer.symbols ++ [if levels.data then .stop else .start] }
  | false, true => { observer with levels, whole := true, sampled := none }
  | true, false => { observer with
      levels, whole := false
      symbols := observer.symbols ++
        if observer.whole then [.pulse observer.levels.data observer.sampled] else [] }
  | false, false => { observer with levels }

/-- The master samples the data line. -/
def note (observer : Observer) (sampled : Option Bool) : Observer :=
  { observer with sampled }

/-- One exchange between the master and the lines. -/
def see (observer : Observer) : Scanout.Exchange WireAccess.signature → Observer
  | ⟨.drive levels, _⟩ => observer.drive levels
  | ⟨.sample, seen⟩ => observer.note (some seen.data)
  | ⟨.delay _, _⟩ | ⟨.note _, _⟩ => observer

@[simp] theorem note_note (observer : Observer) (first second : Option Bool) :
    (observer.note first).note second = observer.note second := rfl

/-- Whatever sign they make, the lines end on the levels that they go over to. -/
@[simp] theorem levels_drive (observer : Observer) (levels : Levels) :
    (observer.drive levels).levels = levels := by
  obtain ⟨⟨clock, data⟩, whole, sampled, symbols⟩ := observer
  obtain ⟨newClock, newData⟩ := levels
  cases clock <;> cases newClock <;> try rfl
  unfold drive
  dsimp only
  split
  · rename_i hdata
    rw [hdata]
  · rfl

end Observer

/-- The signs in a trace that begins with released lines. -/
def observe (trace : List (Scanout.Exchange WireAccess.signature)) : List Symbol :=
  (trace.foldl Observer.see {}).symbols

/-- A sign that is due: a bit is put on the line by the master, or left to the slave. -/
inductive Sign where
  | start
  | stop
  | put (bit : Bool)
  | get (bit : Bool)
  deriving DecidableEq, Repr

/-- The symbol is the sign that is due. Where the slave has the bit, the line is released and the
last sample is the bit. -/
def Sign.Shows : Sign → Symbol → Prop
  | start, .start => True
  | stop, .stop => True
  | put bit, .pulse driven _ => driven = bit
  | get bit, .pulse driven sampled => driven = true ∧ sampled = some bit
  | _, _ => False

namespace Frame

/-- A byte from the master and the slot in which the slave acknowledges it. -/
def written (byte : UInt8) : List Sign :=
  (BitBang.bits byte).map .put ++ [.get false]

/-- A byte from the slave and the slot in which the master acknowledges it or not. -/
def fetched (byte : UInt8) (acknowledge : Bool) : List Sign :=
  (BitBang.bits byte).map .get ++ [.put !acknowledge]

/-- A start and the slave's address. A ten-bit slave is turned around for reading by a second
start and the prefix alone. -/
def opening (address : Address) : Direction → List Sign
  | .write => .start :: (address.header .write).flatMap written
  | .read =>
    match address with
    | .seven _ => .start :: (address.header .read).flatMap written
    | .ten _ => .start :: (address.header .write).flatMap written ++
        .start :: written address.turnaround

/-- The opening of a phase: none where the phase before it went the same way. -/
def turn (address : Address) (previous : Option Direction) (direction : Direction) : List Sign :=
  if previous = some direction then [] else opening address direction

/-- Bytes from the slave, acknowledged but for the last one, which is only if more reading
`follows`. -/
def fetchedAll : List UInt8 → (follows : Bool) → List Sign
  | [], _ => []
  | byte :: rest, follows => fetched byte (!rest.isEmpty || follows) ++ fetchedAll rest follows

/-- The phases in order, each read phase with the bytes of its buffer. -/
def body (address : Address) :
    List Phase → (previous : Option Direction) → (buffers : List (List UInt8)) → List Sign
  | .write bytes :: rest, previous, buffers =>
    turn address previous .write ++ bytes.flatMap written ++ body address rest (some .write) buffers
  | .read _ :: rest, previous, buffer :: buffers =>
    turn address previous .read ++ fetchedAll buffer (BitBang.readsNext rest) ++
      body address rest (some .read) buffers
  | _, _, _ => []

end Frame

end Scanout.I2c
