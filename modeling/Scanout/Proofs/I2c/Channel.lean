import Scanout.Proofs.Checked
import Scanout.Proofs.Hardware
import Scanout.Proofs.I2c.Move
import Scanout.Proofs.Register.Region

/-!
Talking to a monitor stays in the monitor channel. The hardware engine is followed move by move,
since each of them touches registers of its own; the line-by-line master is not, since it reaches
the registers through its pads only, whatever it does with the lines.
-/

set_option autoImplicit false
set_option relaxedAutoImplicit false

namespace Scanout

open Register

/-- The register belongs to the monitor channel. -/
def Register.IsChannel (register : Direct) : Prop :=
  region register.offset = .monitor

/-- The program writes the monitor channel only. -/
abbrev Program.StaysInChannel {α : Type} (program : Hardware α) : Prop :=
  program.IsWithin IsChannel

/-- Wherever it is started, the step writes the monitor channel only. -/
def StepStays {σ α : Type} (step : StateT σ Hardware α) : Prop :=
  ∀ state, (step.run state).StaysInChannel

namespace StepStays

variable {σ ε α β : Type}

theorem pure (value : α) : StepStays (pure value : StateT σ Hardware α) :=
  fun _ ↦ .done _

theorem bind {step : StateT σ Hardware α} {rest : α → StateT σ Hardware β}
    (hstep : StepStays step) (hrest : ∀ value, StepStays (rest value)) :
    StepStays (step >>= rest) := by
  intro state
  rw [StateT.run_bind]
  exact .bind (hstep state) fun out ↦ hrest out.1 out.2

theorem lift {program : Hardware α} (hprogram : program.StaysInChannel) :
    StepStays (liftM program : StateT σ Hardware α) :=
  fun _ ↦ .bind hprogram fun _ ↦ .done _

theorem modify (change : σ → σ) : StepStays (modify change : StateT σ Hardware PUnit) :=
  fun _ ↦ .done _

end StepStays

/-- The same of a step that may fail. -/
abbrev ExchangeStays {σ ε α : Type} (exchange : ExceptT ε (StateT σ Hardware) α) : Prop :=
  StepStays exchange.run

namespace ExchangeStays

variable {σ ε α β : Type}

theorem pure (value : α) : ExchangeStays (pure value : ExceptT ε (StateT σ Hardware) α) :=
  StepStays.pure _

theorem throw (cause : ε) : ExchangeStays (throw cause : ExceptT ε (StateT σ Hardware) α) :=
  StepStays.pure _

theorem bind {exchange : ExceptT ε (StateT σ Hardware) α}
    {rest : α → ExceptT ε (StateT σ Hardware) β} (hexchange : ExchangeStays exchange)
    (hrest : ∀ value, ExchangeStays (rest value)) : ExchangeStays (exchange >>= rest) := by
  refine StepStays.bind hexchange fun result ↦ ?_
  cases result with
  | ok value => exact hrest value
  | error cause => exact .pure _

theorem step {step : StateT σ Hardware α} (hstep : StepStays step) :
    ExchangeStays (liftM step : ExceptT ε (StateT σ Hardware) α) :=
  StepStays.bind hstep fun _ ↦ .pure _

theorem lift {program : Hardware α} (hprogram : program.StaysInChannel) :
    ExchangeStays (liftM program : ExceptT ε (StateT σ Hardware) α) :=
  step (.lift hprogram)

end ExchangeStays

namespace Hardware

theorem write_channel {register : Direct} (hregister : region register.offset = .monitor)
    (value : UInt32) : (write register value).StaysInChannel :=
  write_within hregister value

theorem update_channel {register : Direct} (hregister : region register.offset = .monitor)
    (clear set : UInt32) : (update register clear set).StaysInChannel :=
  update_within hregister clear set

end Hardware

open Hardware

namespace I2c.Controller

theorem stop_stays : StepStays stop :=
  .bind (.lift (write_channel rfl _)) fun _ ↦ .bind (.lift (write_channel rfl _)) fun _ ↦
    .bind (.lift (write_channel rfl _)) fun _ ↦ .modify _

theorem start_stays (controller : Controller) : StepStays controller.start := by
  have hkick : StepStays (do
      update i2cStart 0 i2cKick
      modify fun link : Link ↦ { link with started := true }) :=
    .bind (.lift (update_channel rfl _ _)) fun _ ↦ .modify _
  refine .bind (.lift (read_within _)) fun control ↦ ?_
  dsimp only
  split
  · exact .bind (.lift (update_channel rfl _ _)) fun _ ↦ .bind stop_stays fun _ ↦
      .bind (.lift (write_channel rfl _)) fun _ ↦ .bind (.lift (update_channel rfl _ _)) fun _ ↦
        hkick
  · exact hkick

theorem reset_stays : StepStays reset :=
  .bind stop_stays fun _ ↦ .lift (update_channel rfl _ _)

theorem queue_stays (bytes : List UInt8) : (queue bytes).StaysInChannel := by
  induction bytes with
  | nil => exact .done ()
  | cons byte rest ih => exact .bind (write_channel rfl _) fun _ ↦ ih

theorem take_stays (count : Nat) : (take count).StaysInChannel := by
  induction count with
  | zero => exact .done []
  | succ count ih => exact .bind (read_within _) fun _ ↦ .bind ih fun _ ↦ .done _

theorem poll_stays (config : Config.Controller) (polls done nacks : Nat) :
    (poll config polls done nacks).StaysInChannel := by
  induction polls generalizing done nacks with
  | zero => exact .done _
  | succ polls ih =>
    refine .bind (read_within _) fun status ↦ ?_
    split
    · split
      · exact .done _
      · exact .bind (delay_within _) fun _ ↦ ih _ _
    · split
      · split
        · exact .done _
        · exact .bind (delay_within _) fun _ ↦ ih _ _
      · split
        · exact .bind (delay_within _) fun _ ↦ ih _ _
        · exact .done _

theorem abandon_stays (error : Error) (text : String) : ExchangeStays (abandon error text) :=
  .bind (.lift (note_within _ _)) fun _ ↦ .bind (.step reset_stays) fun _ ↦ .throw error

theorem wait_stays (controller : Controller) (address : Address) :
    ExchangeStays (controller.wait address) := by
  refine .bind (.lift (write_channel rfl _)) fun _ ↦
    .bind (.lift (poll_stays _ _ _ _)) fun verdict ↦ ?_
  cases verdict with
  | complete => exact .lift (write_channel rfl _)
  | refused => exact abandon_stays _ _
  | unexpected status => exact abandon_stays _ _
  | undecided => exact abandon_stays _ _

theorem setCount_stays (count : Nat) : (setCount count).StaysInChannel :=
  update_channel rfl _ _

theorem latchAcknowledge_stays : latchAcknowledge.StaysInChannel :=
  .bind (read_within _) fun _ ↦ write_channel rfl _

theorem go_stays (commands : UInt32) : (go commands).StaysInChannel :=
  update_channel rfl _ _

theorem kick_stays (controller : Controller) (address : Address) (count : Nat)
    (bytes : List UInt8) : StepStays (controller.kick address count bytes) :=
  .bind controller.start_stays fun _ ↦ .bind (.lift (setCount_stays _)) fun _ ↦
    .bind (.lift latchAcknowledge_stays) fun _ ↦ .bind (.lift (queue_stays _)) fun _ ↦
      .bind (.lift (queue_stays _)) fun _ ↦ .lift (go_stays _)

theorem move_stays (controller : Controller) (move : Move) :
    ExchangeStays (controller.move move) := by
  cases move with
  | kick address count bytes => exact .step (controller.kick_stays address count bytes)
  | wait address => exact controller.wait_stays address
  | turn address count =>
    exact .bind (.lift (queue_stays _)) fun _ ↦ .bind (.lift (setCount_stays _)) fun _ ↦
      .lift (go_stays _)
  | take count => exact .bind (.lift (take_stays _)) fun _ ↦ .step (.modify _)

theorem composes_stays : Composes ExchangeStays where
  done := .pure ()
  next hfirst hrest := .bind hfirst fun _ ↦ hrest
  closed hexchange := StepStays.bind hexchange fun _ ↦ .bind stop_stays fun _ ↦ .pure _

theorem transfer_stays (controller : Controller) (transfer : Transfer) :
    ExchangeStays (transfer.exchange controller) :=
  composes_stays.transfer controller.move_stays transfer

end I2c.Controller

namespace I2c.Pads

/-- The end of the address map is the channel's, so a register that is reached from one of its pads
is the channel's as well. -/
theorem isChannel_of_stride {base reached : Direct} {delta : UInt32} (hbase : IsChannel base)
    (hstride : base.stride delta = .ok reached) : IsChannel reached := by
  obtain ⟨offset, hoffset, hreached⟩ := Except.bind_eq_ok.mp hstride
  cases hreached
  obtain ⟨hfits, rfl⟩ := Checked.add32_eq_ok.mp hoffset
  rw [IsChannel, region_eq_monitor, UInt32.le_iff_toNat_le] at hbase ⊢
  rw [UInt32.toNat_add, Nat.mod_eq_of_lt hfits]
  exact Nat.le_trans hbase (Nat.le_add_right _ _)

/-- A realisation that stays in the channel. -/
abbrev Stays {α : Type} (realisation : Realisation α) : Prop :=
  (ExceptT.run realisation).StaysInChannel

theorem Stays.bind {α β : Type} {realisation : Realisation α} {rest : α → Realisation β}
    (hrealisation : Stays realisation) (hrest : ∀ value, Stays (rest value)) :
    Stays (realisation >>= rest) := by
  refine Program.IsWithin.bind hrealisation fun result ↦ ?_
  cases result with
  | ok value => exact hrest value
  | error cause => exact .done _

theorem Stays.lift {α : Type} {program : Hardware α} (hprogram : program.StaysInChannel) :
    Stays (liftM program : Realisation α) :=
  Program.IsWithin.bind hprogram fun _ ↦ .done _

/-- What is done with a register of the pads is done in the channel. -/
theorem register_stays {base : Direct} (hbase : IsChannel base) {α : Type} (offset : UInt32)
    {rest : Direct → Realisation α} (hrest : ∀ reached, IsChannel reached → Stays (rest reached)) :
    Stays (register base offset >>= rest) := by
  show Stays (ExceptT.mk (pure (base.stride offset)) >>= rest)
  cases hstride : base.stride offset with
  | ok reached => exact hrest reached (isChannel_of_stride hbase hstride)
  | error cause => exact Program.IsWithin.done _

theorem realise_stays {base : Direct} (hbase : IsChannel base) (request : WireAccess) :
    Stays (realise base request) := by
  cases request with
  | drive levels =>
    exact register_stays hbase _ fun enable henable ↦
      .bind (.lift (update_within henable _ _)) fun _ ↦ .bind (.lift (read_within _)) fun _ ↦
        .lift (.done ())
  | sample =>
    exact register_stays hbase _ fun input _ ↦ .bind (.lift (read_within _)) fun _ ↦
      .lift (.done _)
  | delay microseconds => exact .lift (delay_within _)
  | note entry => exact .lift (note_within _ _)

theorem run_stays {base : Direct} (hbase : IsChannel base) {α : Type} (program : Wires α) :
    Stays (run base program) := by
  induction program with
  | done value => exact .lift (.done value)
  | ask request next ih => exact .bind (realise_stays hbase request) ih

theorem claim_stays {base : Direct} (hbase : IsChannel base) : Stays (claim base) :=
  register_stays hbase _ fun _ houtput ↦ .bind (.lift (update_within houtput _ _)) fun _ ↦
    register_stays hbase _ fun _ hmask ↦ .lift (update_within hmask _ _)

theorem attach_stays {base : Direct} (hbase : IsChannel base) : Stays (BitBang.attach base) :=
  .bind (claim_stays hbase) fun _ ↦ run_stays hbase _

end I2c.Pads

/-!
Fetching a description over the hardware engine.
-/

namespace Edid

open I2c

/-- What a transport does stays in the monitor channel. -/
structure Bus.Stays (bus : Bus Hardware) : Prop where
  exchange : ∀ address phases, (bus.exchange address phases).StaysInChannel
  readSegment : ∀ segment offset count, (bus.readSegment segment offset count).StaysInChannel
  note : ∀ entry, (bus.note entry).StaysInChannel

theorem Bus.ofController_stays (controller : I2c.Controller) :
    (Bus.ofController controller).Stays where
  exchange address phases := .bind
    (controller.transfer_stays (.transact (.seven address) phases) _) fun _ ↦ .done _
  readSegment segment offset count := .bind
    (controller.transfer_stays (.readSegment segment offset count) _) fun _ ↦ .done _
  note _ := note_within _ _

variable {bus : Bus Hardware} (hbus : bus.Stays)
include hbus

theorem probe_stays : (probe bus).StaysInChannel := by
  refine .bind (hbus.exchange _ _) fun outcome ↦ ?_
  cases outcome with
  | ok _ => exact .done _
  | error _ => exact .done _

theorem readFirst_stays (offset : UInt8) (count : Nat) :
    (readFirst bus offset count).StaysInChannel := by
  refine .bind (hbus.exchange _ _) fun outcome ↦ ?_
  cases outcome with
  | ok _ => exact .done _
  | error _ => exact .done _

theorem readBlock_stays (block : UInt8) : (readBlock bus block).StaysInChannel := by
  unfold readBlock
  split
  · refine .bind (readFirst_stays hbus _ _) fun outcome ↦ ?_
    cases outcome with
    | ok _ => exact .bind (hbus.note _) fun _ ↦ .done _
    | error _ => exact .done _
  · refine .bind (hbus.readSegment _ _ _) fun outcome ↦ ?_
    cases outcome with
    | ok _ => exact .bind (hbus.note _) fun _ ↦ .done _
    | error _ => exact .done _

end Edid

end Scanout
