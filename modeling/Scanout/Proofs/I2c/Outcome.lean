import Scanout.Proofs.I2c.Move
import Scanout.Proofs.Program.Contract

/-!
How transactions with a monitor fail. A configuration that does not fit the hardware is refused
where the engine is bound to its connector; from then on every failure is one of the bus, on either
transport and whatever the lines or the registers answer. The addresses of the pads are formed while
the lines are driven; where all four of them fit the word, none of that faults.
-/

set_option autoImplicit false
set_option relaxedAutoImplicit false

namespace Scanout

namespace I2c

/-- The error, if there is one, was met on the bus. -/
def OnBus {α : Type} (result : Except Error α) : Prop :=
  ∀ cause, result = .error cause → cause.isPrecondition = false

theorem OnBus.ok {α : Type} (value : α) : OnBus (.ok value : Except Error α) := by
  rintro _ ⟨⟩

theorem OnBus.map {α β : Type} {result : Except Error α} (hresult : OnBus result)
    (change : α → β) : OnBus (result.map change) := by
  cases result with
  | ok value => exact .ok _
  | error cause =>
    rintro _ ⟨⟩
    exact hresult cause rfl

/-- Wherever it is started and whatever is answered, the exchange only fails on the bus. -/
def FailsOnBus {S : Signature} {σ α : Type} (exchange : ExceptT Error (StateT σ (Program S)) α) :
    Prop :=
  ∀ state, (exchange.run.run state).Returns fun out ↦ OnBus out.1

namespace FailsOnBus

variable {S : Signature} {σ α β : Type}

theorem pure (value : α) : FailsOnBus (pure value : ExceptT Error (StateT σ (Program S)) α) :=
  fun _ ↦ .done (.ok value)

theorem throw {cause : Error} (hcause : cause.isPrecondition = false) :
    FailsOnBus (throw cause : ExceptT Error (StateT σ (Program S)) α) := by
  refine fun _ ↦ .done ?_
  rintro _ ⟨⟩
  exact hcause

theorem bind {exchange : ExceptT Error (StateT σ (Program S)) α}
    {rest : α → ExceptT Error (StateT σ (Program S)) β} (hexchange : FailsOnBus exchange)
    (hrest : ∀ value, FailsOnBus (rest value)) : FailsOnBus (exchange >>= rest) := by
  refine fun state ↦ .bind (hexchange state) ?_
  rintro ⟨result, left⟩ hresult
  cases result with
  | ok value => exact hrest value left
  | error cause =>
    refine .done ?_
    rintro _ ⟨⟩
    exact hresult cause rfl

/-- A step that cannot fail does not. -/
theorem step (step : StateT σ (Program S) α) :
    FailsOnBus (liftM step : ExceptT Error (StateT σ (Program S)) α) :=
  fun state ↦ .after (step.run state) fun out ↦ .done (.ok out.1)

theorem lift (program : Program S α) :
    FailsOnBus (liftM program : ExceptT Error (StateT σ (Program S)) α) :=
  step (liftM program)

/-- A transfer that is closed comes to what it came to before. -/
theorem closed {exchange : ExceptT Error (StateT σ (Program S)) α} (hexchange : FailsOnBus exchange)
    (finish : StateT σ (Program S) Unit) :
    FailsOnBus (ExceptT.mk do
      let outcome ← exchange.run
      finish
      return outcome) :=
  fun state ↦ .bind (hexchange state) fun out hout ↦ .after (finish.run out.2) fun _ ↦ .done hout

end FailsOnBus

namespace Controller

theorem abandon_onBus {error : Error} (herror : error.isPrecondition = false) (text : String) :
    FailsOnBus (abandon error text) :=
  .bind (.lift _) fun _ ↦ .bind (.step _) fun _ ↦ .throw herror

theorem wait_onBus (controller : Controller) (address : Address) :
    FailsOnBus (controller.wait address) := by
  refine .bind (.lift _) fun _ ↦ .bind (.lift _) fun verdict ↦ ?_
  cases verdict with
  | complete => exact .lift _
  | refused => exact abandon_onBus rfl _
  | unexpected status => exact abandon_onBus rfl _
  | undecided => exact abandon_onBus rfl _

theorem move_onBus (controller : Controller) (move : Move) : FailsOnBus (controller.move move) := by
  cases move with
  | kick address count bytes => exact .step _
  | wait address => exact controller.wait_onBus address
  | turn address count => exact .bind (.lift _) fun _ ↦ .bind (.lift _) fun _ ↦ .lift _
  | take count => exact .bind (.lift _) fun _ ↦ .step _

theorem composes_onBus : Composes FailsOnBus where
  done := .pure ()
  next hfirst hrest := .bind hfirst fun _ ↦ hrest
  closed hexchange := hexchange.closed stop

theorem transfer_onBus (controller : Controller) (transfer : Transfer) :
    FailsOnBus (transfer.exchange controller) :=
  composes_onBus.transfer controller.move_onBus transfer

end Controller

namespace BitBang

variable (config : Config.BitBang)

theorem clockHigh_onBus : FailsOnBus (clockHigh config) := by
  refine .bind (.step _) fun _ ↦ .bind (.lift _) fun seen ↦ ?_
  split
  · exact .bind (.lift _) fun _ ↦ .throw rfl
  · exact .pure ()

theorem start_onBus : FailsOnBus (start config) :=
  .bind (.step _) fun _ ↦ .bind (clockHigh_onBus config) fun _ ↦ .bind (.lift _) fun _ ↦
    .bind (.step _) fun _ ↦ .bind (.lift _) fun _ ↦ .bind (.step _) fun _ ↦ .lift _

theorem writeBit_onBus (bit : Bool) : FailsOnBus (writeBit config bit) :=
  .bind (.step _) fun _ ↦ .bind (.lift _) fun _ ↦ .bind (clockHigh_onBus config) fun _ ↦
    .bind (.lift _) fun _ ↦ .step _

theorem readBit_onBus : FailsOnBus (readBit config) :=
  .bind (.step _) fun _ ↦ .bind (.lift _) fun _ ↦ .bind (clockHigh_onBus config) fun _ ↦
    .bind (.lift _) fun _ ↦ .bind (.lift _) fun _ ↦ .bind (.step _) fun _ ↦ .pure _

theorem writeBits_onBus (bits : List Bool) : FailsOnBus (writeBits config bits) := by
  induction bits with
  | nil => exact .pure ()
  | cons bit rest ih => exact .bind (writeBit_onBus config bit) fun _ ↦ ih

theorem readBits_onBus (count : Nat) (byte : UInt8) : FailsOnBus (readBits config count byte) := by
  induction count generalizing byte with
  | zero => exact .pure byte
  | succ count ih => exact .bind (readBit_onBus config) fun _ ↦ ih _

theorem writeByte_onBus (byte : UInt8) : FailsOnBus (writeByte config byte) :=
  .bind (writeBits_onBus config _) fun _ ↦ .bind (.step _) fun _ ↦ .bind (.lift _) fun _ ↦
    .bind (clockHigh_onBus config) fun _ ↦ .bind (.lift _) fun _ ↦ .bind (.step _) fun _ ↦ .pure _

theorem send_onBus (address : Address) (byte : UInt8) : FailsOnBus (send config address byte) := by
  refine .bind (writeByte_onBus config byte) fun acknowledged ↦ ?_
  split
  · exact .throw rfl
  · exact .pure ()

theorem sendAll_onBus (address : Address) (bytes : List UInt8) :
    FailsOnBus (sendAll config address bytes) := by
  induction bytes with
  | nil => exact .pure ()
  | cons byte rest ih => exact .bind (send_onBus config address byte) fun _ ↦ ih

theorem select_onBus (address : Address) (direction : Direction) :
    FailsOnBus (select config address direction) := by
  refine .bind (start_onBus config) fun _ ↦ ?_
  split
  · exact .bind (sendAll_onBus config _ _) fun _ ↦ .bind (start_onBus config) fun _ ↦
      send_onBus config _ _
  · exact sendAll_onBus config _ _

theorem receive_onBus (count : Nat) (follows : Bool) :
    FailsOnBus (receive config count follows) := by
  induction count with
  | zero => exact .pure ()
  | succ count ih =>
    have hbyte : ∀ acknowledge, FailsOnBus (readByte config acknowledge) := fun acknowledge ↦
      .bind (readBits_onBus config 8 0) fun _ ↦ .bind (writeBit_onBus config _) fun _ ↦ .pure _
    exact .bind (hbyte _) fun _ ↦ .bind (.step _) fun _ ↦ ih

theorem runPhases_onBus (address : Address) (phases : List Phase) (previous : Option Direction) :
    FailsOnBus (runPhases config address phases previous) := by
  induction phases generalizing previous with
  | nil => exact .pure ()
  | cons phase rest ih =>
    -- A phase addresses the slave first where the direction changes.
    cases phase with
    | write bytes =>
      have hbytes : FailsOnBus (do
          sendAll config address bytes
          runPhases config address rest (some .write)) :=
        .bind (sendAll_onBus config address bytes) fun _ ↦ ih _
      rw [runPhases]
      dsimp only
      split
      · exact .bind (select_onBus config address .write) fun _ ↦ hbytes
      · exact hbytes
    | read count =>
      have hbytes : FailsOnBus (do
          receive config count (readsNext rest)
          runPhases config address rest (some .read)) :=
        .bind (receive_onBus config count _) fun _ ↦ ih _
      rw [runPhases]
      dsimp only
      split
      · exact .bind (select_onBus config address .read) fun _ ↦ hbytes
      · exact hbytes

theorem transfer_onBus (address : Address) (phases : List Phase) :
    FailsOnBus (transfer config address phases) :=
  (runPhases_onBus config address phases none).closed (stop config)

theorem readBehind_onBus (pointer : Address) (byte : UInt8) (address : Address) (offset : UInt8)
    (count : Nat) : FailsOnBus (readBehind config pointer byte address offset count) :=
  (FailsOnBus.bind (select_onBus config pointer .write) fun _ ↦
    .bind (send_onBus config pointer byte) fun _ ↦ runPhases_onBus config address _ none).closed
      (stop config)

end BitBang

/-- What a program over the lines returns, it returns on any pads, unless an address overflows. -/
theorem Pads.run_returns {α : Type} {goal : α → Prop} (base : Register.Direct)
    {program : Wires α} (hprogram : program.Returns goal) :
    (ExceptT.run (Pads.run base program)).Returns fun result ↦
      ∀ value, result = .ok value → goal value := by
  induction program with
  | done value =>
    refine .done ?_
    rintro _ ⟨⟩
    exact (Program.meets_done value ()).mp hprogram
  | ask request next ih =>
    refine .after _ fun result ↦ ?_
    cases result with
    | ok answer => exact ih answer (((Program.meets_ask request next ()).mp hprogram).2 answer)
    | error fault => exact .done (by rintro _ ⟨⟩)

/-- The last register of the pads, and so every one of them, has an address. -/
def Pads.Fits (base : Register.Direct) : Prop :=
  base.offset.toNat + Register.padInput.toNat < UInt32.size

instance (base : Register.Direct) : Decidable (Pads.Fits base) :=
  inferInstanceAs (Decidable (_ < _))

namespace Pads

open Register

variable {α β : Type} {base : Direct}

/-- Whatever is answered, no address overflows. -/
def Succeeds (realisation : Realisation α) : Prop :=
  (ExceptT.run realisation).Returns fun result ↦ ∃ value, result = .ok value

theorem Succeeds.bind {realisation : Realisation α} {rest : α → Realisation β}
    (hrealisation : Succeeds realisation) (hrest : ∀ value, Succeeds (rest value)) :
    Succeeds (realisation >>= rest) := by
  refine Program.Returns.bind hrealisation ?_
  rintro _ ⟨value, rfl⟩
  exact hrest value

theorem Succeeds.lift (program : Hardware α) : Succeeds (liftM program : Realisation α) :=
  Program.Returns.after program fun value ↦ .done ⟨value, rfl⟩

theorem register_succeeds (hfits : Pads.Fits base) {offset : UInt32} (hoffset : offset ≤ padInput) :
    Succeeds (register base offset) := by
  have hsum : base.offset.toNat + offset.toNat < UInt32.size :=
    Nat.lt_of_le_of_lt (Nat.add_le_add_left (UInt32.le_iff_toNat_le.mp hoffset) _) hfits
  have hstride : base.stride offset = .ok ⟨base.offset + offset⟩ := by
    rw [Direct.stride, Checked.add32, if_pos hsum]
    rfl
  exact Program.Returns.done ⟨_, hstride⟩

theorem realise_succeeds (hfits : Pads.Fits base) (request : WireAccess) :
    Succeeds (realise base request) := by
  cases request with
  | drive levels =>
    exact .bind (register_succeeds hfits (by decide)) fun _ ↦ .bind (.lift _) fun _ ↦
      .bind (.lift _) fun _ ↦ .lift (.done ())
  | sample =>
    exact .bind (register_succeeds hfits (by decide)) fun _ ↦ .bind (.lift _) fun _ ↦
      .lift (.done _)
  | delay microseconds => exact .lift _
  | note entry => exact .lift _

theorem run_succeeds (hfits : Pads.Fits base) (program : Wires α) :
    Succeeds (run base program) := by
  induction program with
  | done value => exact .lift (.done value)
  | ask request next ih => exact .bind (realise_succeeds hfits request) ih

theorem attach_succeeds (hfits : Pads.Fits base) : Succeeds (BitBang.attach base) :=
  .bind (.bind (register_succeeds hfits (by decide)) fun _ ↦ .bind (.lift _) fun _ ↦
    .bind (register_succeeds hfits (by decide)) fun _ ↦ .lift _) fun _ ↦ run_succeeds hfits _

end Pads

/-- Taking the pads over first may fail as well, but not otherwise. -/
theorem Pads.attach_bind_returns {α : Type} {goal : Except Fault α → Prop} (base : Register.Direct)
    {session : Pads.Realisation α} (hfault : ∀ reason, goal (.error reason))
    (hsession : (ExceptT.run session).Returns goal) :
    (ExceptT.run (BitBang.attach base >>= fun _ ↦ session)).Returns goal := by
  refine .after (ExceptT.run (BitBang.attach base)) fun result ↦ ?_
  cases result with
  | ok _ => exact hsession
  | error reason => exact .done (hfault reason)

end I2c

namespace Edid

open I2c

/-- Whatever is answered, a transaction over the transport only fails on the bus. -/
structure Bus.IsOnBus {S : Signature} (bus : Bus (Program S)) : Prop where
  exchange : ∀ address phases, (bus.exchange address phases).Returns OnBus
  readSegment : ∀ segment offset count, (bus.readSegment segment offset count).Returns OnBus

theorem Bus.ofController_onBus (controller : I2c.Controller) :
    (Bus.ofController controller).IsOnBus where
  exchange address phases := .bind
    (controller.transfer_onBus (.transact (.seven address) phases) _) fun _ hout ↦
      .done (hout.map _)
  readSegment segment offset count := .bind
    (controller.transfer_onBus (.readSegment segment offset count) _) fun _ hout ↦
      .done (hout.map _)

theorem Bus.ofBitBang_onBus (config : Config.BitBang) : (Bus.ofBitBang config).IsOnBus where
  exchange _ _ := .bind (BitBang.transfer_onBus config _ _ _) fun _ hout ↦ .done (hout.map _)
  readSegment _ _ _ := .bind (BitBang.readBehind_onBus config _ _ _ _ _ _) fun _ hout ↦
    .done (hout.map _)

variable {S : Signature} {bus : Bus (Program S)} (hbus : bus.IsOnBus)
include hbus

theorem readFirst_onBus (offset : UInt8) (count : Nat) :
    (readFirst bus offset count).Returns OnBus := by
  refine .bind (hbus.exchange _ _) fun outcome houtcome ↦ ?_
  cases outcome with
  | ok buffers => exact .done (.ok _)
  | error cause =>
    refine .done ?_
    rintro _ ⟨⟩
    exact houtcome cause rfl

/-- Noting that a block was read does not change what was read. -/
theorem readBlock_onBus (block : UInt8) : (readBlock bus block).Returns OnBus := by
  unfold readBlock
  dsimp only
  split
  · refine .bind (readFirst_onBus hbus _ _) fun outcome houtcome ↦ ?_
    cases outcome with
    | ok data => exact .after _ fun _ ↦ .done houtcome
    | error cause => exact .done houtcome
  · refine .bind (hbus.readSegment _ _ _) fun outcome houtcome ↦ ?_
    cases outcome with
    | ok data => exact .after _ fun _ ↦ .done houtcome
    | error cause => exact .done houtcome

end Edid

end Scanout
