import Scanout.Proofs.I2c.Framing
import Scanout.Proofs.I2c.Phase

/-!
What the line-by-line master answers to the bytes that it reads. Reads next to each other are one
run on the bus, with one opening, however the bytes are dealt out to them. A slave is let go by a
byte that is not acknowledged, so the last byte of a run should be the one that is not.

The master looks at the place of a byte in its own buffer and at the kind of the next phase. A read
of no bytes at the end of a run is therefore taken for more to come: the run is acknowledged to
its last byte exactly where its last read is empty (`transfer_acknowledges`).
-/

set_option autoImplicit false
set_option relaxedAutoImplicit false

namespace Scanout.I2c

namespace Phase

/-- Which way a phase goes. -/
def direction : Phase → Direction
  | write _ => .write
  | read _ => .read

/-- The buffers of a run of reads behind other phases, one behind the other. -/
def runData (before : List Phase) (counts : List Nat) (received : List UInt8) : List UInt8 :=
  (buffers (counts.map read) (received.drop (asked before))).flatten

@[simp] theorem length_runData (before : List Phase) (counts : List Nat) (received : List UInt8) :
    (runData before counts received).length = counts.sum := by
  rw [runData, flatten_buffers_length, asked_reads]

end Phase

namespace Frame

/-- Bytes from the slave, each with what the master puts into the slot behind it. -/
def answered (data : List UInt8) (high : Nat → Bool) : List Sign :=
  (data.mapIdx fun index byte ↦ (BitBang.bits byte).map .get ++ [.put (high index)]).flatten

/-- The way that the last of the phases goes. -/
def facing (phases : List Phase) (previous : Option Direction) : Option Direction :=
  (phases.getLast?.map Phase.direction).or previous

theorem facing_cons (phase : Phase) (rest : List Phase) (previous : Option Direction) :
    facing (phase :: rest) previous = facing rest (some phase.direction) := by
  rw [facing, List.getLast?_cons, facing]
  cases rest.getLast? <;> rfl

theorem facing_ne_read {phases : List Phase}
    (hlast : ∀ count, phases.getLast? ≠ some (.read count)) :
    facing phases none ≠ some .read := by
  unfold facing
  cases hphase : phases.getLast? with
  | none => simp
  | some phase =>
    cases phase with
    | write bytes => simp [Phase.direction]
    | read count => exact absurd hphase (hlast count)

/-- What follows decides whether the last of the early bytes is acknowledged. -/
theorem fetchedAll_append (early late : List UInt8) (follows : Bool) :
    fetchedAll (early ++ late) follows =
      fetchedAll early (!late.isEmpty || follows) ++ fetchedAll late follows := by
  induction early with
  | nil => rfl
  | cons byte rest ih =>
    cases rest <;> simp_all [fetchedAll]

/-- The line is high behind the last byte alone, and there only if no reading follows. -/
theorem fetchedAll_eq_answered (data : List UInt8) (follows : Bool) :
    fetchedAll data follows =
      answered data fun index ↦ decide (index + 1 = data.length) && !follows := by
  induction data with
  | nil => rfl
  | cons byte rest ih =>
    have hslot : (!(!rest.isEmpty || follows)) = (decide (1 = rest.length + 1) && !follows) := by
      cases rest <;> simp
    rw [fetchedAll, ih, answered, answered, List.mapIdx_cons, List.flatten_cons, fetched]
    simp only [hslot, List.length_cons, Nat.zero_add, Nat.add_left_inj]

/-- Where the early phases do not end with a read, the frame of the late ones does not touch
theirs. -/
theorem body_append (address : Address) {early : List Phase}
    (hearly : ∀ count, early.getLast? ≠ some (.read count)) (late : List Phase)
    (previous : Option Direction) (received : List UInt8) :
    body address (early ++ late) previous (Phase.buffers (early ++ late) received) =
      body address early previous (Phase.buffers early received) ++
        body address late (facing early previous)
          (Phase.buffers late (received.drop (Phase.asked early))) := by
  induction early generalizing previous received with
  | nil => rfl
  | cons phase rest ih =>
    have hrest : ∀ count, rest.getLast? ≠ some (.read count) := fun count hread ↦
      hearly count (by rw [List.getLast?_cons, hread]; rfl)
    cases phase with
    | write bytes =>
      rw [facing_cons, List.cons_append, Phase.buffers, body, ih hrest, Phase.buffers, body,
        Phase.asked]
      simp only [List.append_assoc, Phase.direction]
    | read length =>
      have hnext : BitBang.readsNext (rest ++ late) = BitBang.readsNext rest := by
        cases rest with
        | nil => exact absurd rfl (hearly length)
        | cons next rest => cases next <;> rfl
      rw [facing_cons, List.cons_append, Phase.buffers, body, ih hrest, hnext, Phase.buffers,
        body, Phase.asked, List.drop_drop]
      simp only [List.append_assoc, Phase.direction]

/-- A run of reads is opened once. A byte of it is not acknowledged only if it is the last one and
no read stands behind it, be it of no bytes. -/
theorem body_reads (address : Address) {counts : List Nat} (hcounts : counts ≠ [])
    {after : List Phase} (hafter : BitBang.readsNext after = false) (previous : Option Direction)
    (received : List UInt8) :
    body address (counts.map .read ++ after) previous
        (Phase.buffers (counts.map .read ++ after) received) =
      turn address previous .read ++
        fetchedAll (Phase.buffers (counts.map .read) received).flatten
          (decide (counts.getLast? = some 0)) ++
        body address after (some .read) (Phase.buffers after (received.drop counts.sum)) := by
  induction counts generalizing previous received with
  | nil => exact absurd rfl hcounts
  | cons count rest ih =>
    rw [List.map_cons, List.cons_append, Phase.buffers, body, Phase.buffers, List.flatten_cons]
    cases rest with
    | nil =>
      -- Of the only read, an empty one has no byte that could be acknowledged or not.
      have hlone : fetchedAll (Phase.fill count received) false =
          fetchedAll (Phase.fill count received) (decide (count = 0)) := by
        cases count with
        | zero => rfl
        | succ count => rfl
      simp [Phase.buffers, hafter, hlone]
    | cons next rest =>
      set later := (Phase.buffers ((next :: rest).map .read) (received.drop count)).flatten
        with hlater
      have hlength : later.length = (next :: rest).sum := by
        rw [hlater, Phase.flatten_buffers_length, Phase.asked_reads]
      have hmore : (!later.isEmpty || decide ((next :: rest).getLast? = some 0)) = true := by
        cases hdata : later with
        | cons byte bytes => rfl
        | nil =>
          rw [hdata, List.length_nil, eq_comm, List.sum_eq_zero_iff_forall_eq_nat] at hlength
          rw [List.getLast?_eq_some_getLast (List.cons_ne_nil next rest),
            hlength _ (List.getLast_mem _)]
          rfl
      have hopened : turn address (some .read) .read = [] := if_pos rfl
      rw [ih (List.cons_ne_nil next rest), hopened, List.nil_append, ← hlater, fetchedAll_append,
        List.getLast?_cons_cons, hmore, List.drop_drop, List.sum_cons]
      simp only [List.append_assoc]
      rfl

end Frame

namespace BitBang

theorem readsNext_eq_false {phases : List Phase}
    (hphases : ∀ count, phases.head? ≠ some (.read count)) : readsNext phases = false := by
  cases phases with
  | nil => rfl
  | cons phase rest =>
    cases phase with
    | write bytes => rfl
    | read count => exact absurd rfl (hphases count)

/-- Behind a run of reads comes the repeated start of a write or the stop. -/
theorem late_head (address : Address) {after : List Phase}
    (hafter : ∀ count, after.head? ≠ some (.read count)) (buffers : List (List UInt8))
    {late : List Symbol}
    (hlate : List.Forall₂ Sign.Shows (Frame.body address after (some .read) buffers) late) :
    (late ++ [Symbol.stop]).head? = some .start ∨
      (late ++ [Symbol.stop]).head? = some .stop := by
  cases after with
  | nil =>
    cases hlate
    exact .inr rfl
  | cons phase rest =>
    cases phase with
    | read count => exact absurd rfl (hafter count)
    | write bytes =>
      rw [Frame.body, Frame.turn, if_neg (by simp), Frame.opening] at hlate
      obtain ⟨symbol, _, hstart, -, rfl⟩ := List.forall₂_cons_left_iff.mp hlate
      cases symbol with
      | start => exact .inl rfl
      | stop | pulse driven sampled => exact hstart.elim

/-- Whatever the lines answer, a transfer that succeeds opens each run of reads once, and the slot
behind a byte of it is high if and only if the byte is the last one of the run and the last read
of the run is not empty. A start or the stop comes next. -/
theorem transfer_acknowledges (config : Config.BitBang) (address : Address)
    {before after : List Phase} {counts : List Nat}
    (hbefore : ∀ count, before.getLast? ≠ some (.read count))
    (hafter : ∀ count, after.head? ≠ some (.read count)) (hsome : counts.sum ≠ 0) {σ : Type}
    (handler : Handler WireAccess.signature σ) (state : σ) {master : Master}
    (hok : ((perform (transfer config address (before ++ counts.map .read ++ after))).run
      handler state).1 = (.ok (), master)) :
    ∃ early opening run late,
      observe ((perform (transfer config address (before ++ counts.map .read ++ after))).trace
        handler state) = early ++ opening ++ run ++ late ∧
      List.Forall₂ Sign.Shows
        (Frame.body address before none (Phase.buffers before master.received)) early ∧
      List.Forall₂ Sign.Shows (Frame.opening address .read) opening ∧
      List.Forall₂ Sign.Shows
        (Frame.answered (Phase.runData before counts master.received) fun index ↦
          decide (index + 1 = counts.sum ∧ counts.getLast? ≠ some 0)) run ∧
      (late.head? = some .start ∨ late.head? = some .stop) := by
  have hcounts : counts ≠ [] := by
    rintro rfl
    exact hsome rfl
  have hphases : before ++ counts.map .read ++ after ≠ [] := by simp [hcounts]
  obtain ⟨_, symbols, rfl, hshown, hsymbols⟩ :=
    (runPhases_frames config address _ none (absurd · hphases)).performed config handler state hok
  rw [List.append_assoc, Frame.body_append address hbefore,
    Frame.body_reads address hcounts (readsNext_eq_false hafter),
    Frame.turn, if_neg (Frame.facing_ne_read hbefore), ← Phase.runData,
    Frame.fetchedAll_eq_answered, Phase.length_runData] at hshown
  obtain ⟨early, _, rfl, hearly, hrest⟩ := forall₂_append_left hshown
  obtain ⟨_, late, rfl, hread, hlate⟩ := forall₂_append_left hrest
  obtain ⟨opening, run, rfl, hopening, hrun⟩ := forall₂_append_left hread
  have hhigh : (fun index ↦ decide (index + 1 = counts.sum) && !decide (counts.getLast? = some 0)) =
      fun index ↦ decide (index + 1 = counts.sum ∧ counts.getLast? ≠ some 0) := by
    simp
  rw [hhigh] at hrun
  refine ⟨early, opening, run, late ++ [.stop], ?_, hearly, hopening, hrun,
    late_head address hafter _ hlate⟩
  rw [transfer, hsymbols]
  simp only [List.append_assoc]

/-- Of three reads between two writes the one in the middle is empty; the third byte is the one
that is not acknowledged. -/
theorem transfer_acknowledges_heldData :
    (∀ count, ([.write [0x12]] : List Phase).getLast? ≠ some (.read count)) ∧
      (∀ count, ([.write [0x34]] : List Phase).head? ≠ some (.read count)) ∧
      [1, 0, 2].sum ≠ 0 ∧
      ((perform (transfer {} (.seven 0x50) ([.write [0x12]] ++ [1, 0, 2].map .read ++
        [.write [0x34]]))).run heldData ()).1 = (.ok (), { received := [0, 0, 0] }) ∧
      ∃ early opening run late,
        observe ((perform (transfer {} (.seven 0x50) ([.write [0x12]] ++ [1, 0, 2].map .read ++
          [.write [0x34]]))).trace heldData ()) = early ++ opening ++ run ++ late ∧
        List.Forall₂ Sign.Shows
          (Frame.body (.seven 0x50) [.write [0x12]] none
            (Phase.buffers [.write [0x12]] [0, 0, 0])) early ∧
        List.Forall₂ Sign.Shows (Frame.opening (.seven 0x50) .read) opening ∧
        List.Forall₂ Sign.Shows
          (Frame.answered (Phase.runData [.write [0x12]] [1, 0, 2] [0, 0, 0]) fun index ↦
            decide (index + 1 = [1, 0, 2].sum ∧ [1, 0, 2].getLast? ≠ some 0)) run ∧
        (late.head? = some .start ∨ late.head? = some .stop) := by
  have hbefore : ∀ count, ([.write [0x12]] : List Phase).getLast? ≠ some (.read count) := by simp
  have hafter : ∀ count, ([.write [0x34]] : List Phase).head? ≠ some (.read count) := by simp
  have hsome : [1, 0, 2].sum ≠ 0 := by decide
  have hok : ((perform (transfer {} (.seven 0x50) ([.write [0x12]] ++ [1, 0, 2].map .read ++
      [.write [0x34]]))).run heldData ()).1 = (.ok (), { received := [0, 0, 0] }) := by
    decide +kernel
  exact ⟨hbefore, hafter, hsome, hok,
    transfer_acknowledges {} (.seven 0x50) hbefore hafter hsome heldData () hok⟩

/-- An empty read behind a read of one byte: the slot behind the only byte of the run is low, and
the stop comes next. -/
theorem emptyRead_acknowledges_last :
    ((perform (transfer {} (.seven 0x50) [.read 1, .read 0])).run heldData ()).1 =
        (.ok (), { received := [0] }) ∧
      (observe ((perform (transfer {} (.seven 0x50) [.read 1, .read 0])).trace
        heldData ())).drop 18 = [.pulse false (some false), .stop] := by
  decide +kernel

end BitBang

end Scanout.I2c
