import Scanout.Proofs.I2c.Lines

/-!
How the exchanges of the line-by-line master end, whatever the lines answer. `Ends` lists the three
ways: as it should, with a clock that a slave holds, or with a byte that nobody answers to; the
latter two are told from what was shown last. `AlwaysEnds` is that an exchange ends so wherever it
begins.

Between two bits the clock is low, so a sequence ends as its parts do (`AlwaysEnds.bind`). From the
bytes up an exchange says no more than which bytes it may be refused and how many it reads
(`Reads`).
-/

set_option autoImplicit false
set_option relaxedAutoImplicit false

namespace Scanout.I2c.BitBang

variable {α β : Type}

/-- Which bytes of a slave may go unanswered, by its number and by how many bytes were read
before. -/
abbrev Refusal := UInt16 → UInt8 → Nat → Prop

/-- How an exchange may end that begins with some bytes read: as it should and with the clock low,
with the clock held low by a slave, or with a byte that is not answered. -/
inductive Ends (config : Config.BitBang) (refusal : Refusal)
    (goal : α → Nat → List Signal → Prop) (entry : Nat) :
    List Signal → Except Error α → Master → Prop
  | done {signals : List Signal} {value : α} {left : Master} {taken : Nat}
      (hgoal : goal value taken signals) (hlow : left.levels.clock = false)
      (hreceived : left.received.length = entry + taken) :
      Ends config refusal goal entry signals (.ok value) left
  | stretched (early : List Signal) {late : List Signal} {data : Bool} {left : Master}
      (hlate : Stretched config data late) (hraised : left.levels.clock = true) :
      Ends config refusal goal entry (early ++ late) (.error .clockStretch) left
  | refused (early : List Signal) {clocked slot : List Signal} {number : UInt16} {byte : UInt8}
      {left : Master} {taken : Nat} (hrefusal : refusal number byte taken)
      (hclocked : ClockedAll config (bits byte) clocked) (hslot : Unanswered config slot)
      (hreceived : left.received.length = entry + taken) :
      Ends config refusal goal entry (early ++ (clocked ++ slot)) (.error (.nack number)) left

/-- Wherever it is begun and whatever is answered, the exchange ends in one of the ways. -/
def AlwaysEnds (config : Config.BitBang) (begins : Master → Prop) (refusal : Refusal)
    (goal : α → Nat → List Signal → Prop) (exchange : Exchange α) : Prop :=
  ∀ master signals result left, begins master →
    (exchange.run.run master).Plays signals (result, left) →
      Ends config refusal goal master.received.length signals result left

/-- The bytes of a slave may go unanswered, before any is read. -/
def Refusal.among (address : Address) (bytes : List UInt8) : Refusal :=
  fun number byte taken ↦ number = address.number ∧ byte ∈ bytes ∧ taken = 0

theorem Refusal.among_mono {address : Address} {few many : List UInt8} (hsub : few ⊆ many) :
    ∀ number byte taken, among address few number byte taken →
      among address many number byte taken :=
  fun _ _ _ hamong ↦ ⟨hamong.1, hsub hamong.2.1, hamong.2.2⟩

/-- The clock is low, as it is between two bits. -/
def Low (master : Master) : Prop := master.levels.clock = false

/-- Every master will do. -/
def Anyhow (_ : Master) : Prop := True

/-- The exchange reads so many bytes where it succeeds. -/
def Reads (config : Config.BitBang) (begins : Master → Prop) (refusal : Refusal) (count : Nat)
    (exchange : Exchange α) : Prop :=
  AlwaysEnds config begins refusal (fun _ taken _ ↦ taken = count) exchange

section Algebra

variable {config : Config.BitBang} {begins : Master → Prop} {refusal : Refusal}
  {goal : α → Nat → List Signal → Prop}

theorem Ends.mono {weaker : Refusal} {more : α → Nat → List Signal → Prop} {entry : Nat}
    {signals : List Signal} {result : Except Error α} {left : Master}
    (hends : Ends config refusal goal entry signals result left)
    (hrefusal : ∀ number byte taken, refusal number byte taken → weaker number byte taken)
    (hgoal : ∀ value taken signals, goal value taken signals → more value taken signals) :
    Ends config weaker more entry signals result left := by
  cases hends with
  | done hdone hlow hreceived => exact .done (hgoal _ _ _ hdone) hlow hreceived
  | stretched early hlate hraised => exact .stretched early hlate hraised
  | refused early hrefused hclocked hslot hreceived =>
    exact .refused early (hrefusal _ _ _ hrefused) hclocked hslot hreceived

/-- What ends behind something else ends it too. -/
theorem Ends.behind (early : List Signal) (taken : Nat) {entry : Nat} {late : List Signal}
    {result : Except Error α} {left : Master}
    (hends : Ends config (fun number byte more ↦ refusal number byte (taken + more))
      (fun value more late ↦ goal value (taken + more) (early ++ late)) (entry + taken) late
      result left) :
    Ends config refusal goal entry (early ++ late) result left := by
  cases hends with
  | done hgoal hlow hreceived => exact .done hgoal hlow (by rw [hreceived, Nat.add_assoc])
  | stretched middle hlate hraised =>
    rw [← List.append_assoc]
    exact .stretched (early ++ middle) hlate hraised
  | refused middle hrefusal hclocked hslot hreceived =>
    rw [← List.append_assoc]
    exact .refused (early ++ middle) hrefusal hclocked hslot (by rw [hreceived, Nat.add_assoc])

namespace AlwaysEnds

theorem mono {exchange : Exchange α} {weaker : Refusal} {more : α → Nat → List Signal → Prop}
    (hexchange : AlwaysEnds config begins refusal goal exchange)
    (hrefusal : ∀ number byte taken, refusal number byte taken → weaker number byte taken)
    (hgoal : ∀ value taken signals, goal value taken signals → more value taken signals) :
    AlwaysEnds config begins weaker more exchange :=
  fun master signals result left hbegins hplays ↦
    (hexchange master signals result left hbegins hplays).mono hrefusal hgoal

theorem pure {value : α} (hgoal : goal value 0 []) :
    AlwaysEnds config Low refusal goal (pure value) := by
  intro master signals result left hlow hplays
  obtain ⟨rfl, rfl, rfl⟩ := (plays_exchange_pure _ _ _).mp hplays
  exact .done hgoal hlow rfl

/-- What follows an exchange may look at all that was shown before. -/
theorem followed {exchange : Exchange α} {rest : α → Exchange β}
    {final : β → Nat → List Signal → Prop}
    (hexchange : AlwaysEnds config begins refusal goal exchange)
    (hrest : ∀ {value taken early middle late result left}, goal value taken early → Low middle →
      ((rest value).run.run middle).Plays late (result, left) → ∀ entry,
        middle.received.length = entry + taken →
          Ends config refusal final entry (early ++ late) result left) :
    AlwaysEnds config begins refusal final (exchange >>= rest) := by
  intro master signals result left hbegins hplays
  obtain ⟨early, late, value, middle, rfl, hearly, hlate⟩ | ⟨cause, hearly, rfl⟩ :=
    (plays_exchange_bind _ _ _ _).mp hplays
  · cases hexchange master _ _ _ hbegins hearly with
    | done hgoal hlow hreceived => exact hrest hgoal hlow hlate _ hreceived
  · cases hexchange master _ _ _ hbegins hearly with
    | stretched early hlate hraised => exact .stretched early hlate hraised
    | refused early hrefusal hclocked hslot hreceived =>
      exact .refused early hrefusal hclocked hslot hreceived

/-- A sequence ends as its parts do. -/
theorem bind {exchange : Exchange α} {rest : α → Exchange β}
    {final : β → Nat → List Signal → Prop}
    (hexchange : AlwaysEnds config begins refusal goal exchange)
    (hrest : ∀ value taken early, goal value taken early →
      AlwaysEnds config Low (fun number byte more ↦ refusal number byte (taken + more))
        (fun out more late ↦ final out (taken + more) (early ++ late)) (rest value)) :
    AlwaysEnds config begins refusal final (exchange >>= rest) := by
  refine hexchange.followed fun {value taken early middle late result left} hgoal hlow hlate entry
    hreceived ↦ .behind early taken ?_
  rw [← hreceived]
  exact hrest value taken early hgoal middle late result left hlow hlate

end AlwaysEnds

namespace Reads

theorem pure (value : α) : Reads config Low refusal 0 (pure value) := AlwaysEnds.pure rfl

theorem narrow {exchange : Exchange α} {count : Nat} {stricter : Master → Prop}
    (hexchange : Reads config begins refusal count exchange)
    (hbegins : ∀ master, stricter master → begins master) :
    Reads config stricter refusal count exchange :=
  fun master signals result left hstricter ↦
    hexchange master signals result left (hbegins master hstricter)

theorem widen {exchange : Exchange α} {count : Nat} {weaker : Refusal}
    (hexchange : Reads config begins refusal count exchange)
    (hrefusal : ∀ number byte taken, refusal number byte taken → weaker number byte taken) :
    Reads config begins weaker count exchange :=
  AlwaysEnds.mono hexchange hrefusal fun _ _ _ ↦ id

theorem bind {exchange : Exchange α} {rest : α → Exchange β} {first second : Nat}
    (hexchange : Reads config begins refusal first exchange)
    (hrest : ∀ value, Reads config Low (fun number byte more ↦ refusal number byte (first + more))
      second (rest value)) :
    Reads config begins refusal (first + second) (exchange >>= rest) := by
  refine AlwaysEnds.bind hexchange ?_
  rintro value _ early rfl
  refine (hrest value).mono (fun _ _ _ ↦ id) ?_
  rintro _ _ _ rfl
  rfl

/-- An exchange that reads nothing has what follows it read all there is. -/
theorem after {exchange : Exchange α} {rest : α → Exchange β} {count : Nat}
    (hexchange : Reads config begins refusal 0 exchange)
    (hrest : ∀ value, Reads config Low refusal count (rest value)) :
    Reads config begins refusal count (exchange >>= rest) := by
  rw [← Nat.zero_add count]
  exact hexchange.bind fun value ↦ by simpa only [Nat.zero_add] using hrest value

end Reads

end Algebra

/-!
A bit and what is like it: the data line is set, the clock raised, and something done while it is
up.
-/

/-- Set the data line, raise the clock, and go on. -/
def raising (config : Config.BitBang) (bit : Bool) (rest : Exchange α) : Exchange α := do
  setData bit
  halfPeriod config
  clockHigh config
  rest

section Exchanges

variable {config : Config.BitBang} {refusal : Refusal}

/-- Where the clock does not get up, what is done while it is up is left out. -/
theorem raising_ends {goal : α → Nat → List Signal → Prop} (bit : Bool) (rest : Exchange α)
    (hrest : ∀ {master rise late result left}, master.levels = ⟨true, bit⟩ →
      Rises config bit rise → (rest.run.run master).Plays late (result, left) →
        Ends config refusal goal master.received.length
          ([Signal.drive ⟨false, bit⟩, Signal.pause config] ++ rise ++ late) result left) :
    AlwaysEnds config Low refusal goal (raising config bit rest) := by
  rintro ⟨⟨_, data⟩, received⟩ signals result left rfl hplays
  simp only [raising, plays_exchange_step_bind, plays_setData, plays_exchange_lift_bind,
    plays_halfPeriod, Prod.mk.injEq] at hplays
  obtain ⟨_, _, _, _, rfl, ⟨rfl, -, rfl⟩, _, _, _, rfl, rfl, hraised⟩ := hplays
  obtain ⟨rise, late, hrise, rfl, hlate⟩ | ⟨rfl, hstretched, rfl⟩ := plays_clockHigh_bind hraised
  · simpa using hrest rfl hrise hlate
  · exact .stretched [_, _] hstretched rfl

theorem start_reads : Reads config Anyhow refusal 0 (start config) := by
  intro master signals result left _ hplays
  simp only [start, plays_exchange_step_bind, plays_setData, Prod.mk.injEq] at hplays
  obtain ⟨_, _, _, _, rfl, ⟨rfl, -, rfl⟩, hraised⟩ := hplays
  obtain ⟨rise, late, hrise, rfl, hlate⟩ | ⟨rfl, hstretched, rfl⟩ := plays_clockHigh_bind hraised
  · simp only [plays_exchange_step_bind, plays_setData, plays_setClock, plays_exchange_lift_bind,
      plays_exchange_lift, plays_halfPeriod, Prod.mk.injEq] at hlate
    obtain ⟨_, _, _, rfl, rfl, _, _, _, _, rfl, ⟨rfl, -, rfl⟩, _, _, _, rfl, rfl, _, _, _, _, rfl,
      ⟨rfl, -, rfl⟩, _, rfl, rfl, rfl⟩ := hlate
    exact .done rfl rfl rfl
  · exact .stretched [_] hstretched rfl

theorem writeBit_ends (bit : Bool) :
    AlwaysEnds config Low refusal (fun _ taken signals ↦ taken = 0 ∧ Clocked config bit signals)
      (writeBit config bit) := by
  refine raising_ends bit (do halfPeriod config; setClock false) ?_
  rintro ⟨_, received⟩ rise late result left rfl hrise hlate
  simp only [plays_exchange_lift_bind, plays_exchange_step, plays_halfPeriod, plays_setClock,
    Prod.mk.injEq] at hlate
  obtain ⟨_, _, _, rfl, rfl, _, ⟨rfl, -, rfl⟩, rfl⟩ := hlate
  exact .done ⟨rfl, rise, hrise, rfl⟩ rfl rfl

theorem readBit_reads : Reads config Low refusal 0 (readBit config) := by
  refine raising_ends true (do
    let seen ← Wires.sample
    halfPeriod config
    setClock false
    return seen.data) ?_
  rintro ⟨_, received⟩ rise late result left rfl hrise hlate
  simp only [plays_exchange_lift_bind, plays_exchange_step_bind, plays_exchange_pure, plays_sample,
    plays_halfPeriod, plays_setClock, Prod.mk.injEq] at hlate
  obtain ⟨_, _, _, rfl, rfl, _, _, _, rfl, rfl, _, _, _, _, rfl, ⟨rfl, -, rfl⟩, rfl, rfl,
    rfl⟩ := hlate
  exact .done rfl rfl rfl

theorem writeBits_ends (bits : List Bool) :
    AlwaysEnds config Low refusal
      (fun _ taken signals ↦ taken = 0 ∧ ClockedAll config bits signals)
      (writeBits config bits) := by
  induction bits generalizing refusal with
  | nil => exact .pure ⟨rfl, .nil⟩
  | cons bit rest ih =>
    refine .bind (writeBit_ends bit) ?_
    rintro _ _ early ⟨rfl, hbit⟩
    refine ih.mono (fun _ _ _ ↦ id) ?_
    rintro _ _ late ⟨rfl, hrest⟩
    exact ⟨rfl, .cons hbit hrest⟩

theorem readBits_reads (count : Nat) (byte : UInt8) :
    Reads config Low refusal 0 (readBits config count byte) := by
  induction count generalizing byte with
  | zero => exact .pure byte
  | succ count ih => exact .after readBit_reads fun bit ↦ ih _

theorem readByte_reads (acknowledge : Bool) :
    Reads config Low refusal 0 (readByte config acknowledge) := by
  have hanswer : Reads config Low refusal 0 (writeBit config !acknowledge) :=
    (writeBit_ends _).mono (fun _ _ _ ↦ id) fun _ _ _ ↦ And.left
  exact .after (readBits_reads 8 0) fun byte ↦ .after hanswer fun _ ↦ .pure byte

/-- A byte that is not acknowledged has gone out in full, and its slot has passed. -/
theorem writeByte_ends (byte : UInt8) :
    AlwaysEnds config Low refusal
      (fun acknowledged taken signals ↦ taken = 0 ∧ (acknowledged = false →
        ∃ clocked slot, signals = clocked ++ slot ∧ ClockedAll config (bits byte) clocked ∧
          Unanswered config slot))
      (writeByte config byte) := by
  refine .bind (writeBits_ends _) ?_
  rintro _ _ clocked ⟨rfl, hclocked⟩
  refine raising_ends true (do
    let acknowledged ← awaitAcknowledge config config.ackTimeout.toNat
    setClock false
    return acknowledged) ?_
  rintro ⟨_, received⟩ rise late result left rfl hrise hlate
  simp only [plays_exchange_lift_bind, plays_exchange_step_bind, plays_exchange_pure,
    plays_setClock, Prod.mk.injEq] at hlate
  obtain ⟨_, _, acknowledged, rfl, hawait, _, _, _, _, rfl, ⟨rfl, -, rfl⟩, rfl, rfl,
    rfl⟩ := hlate
  refine .done ⟨Nat.zero_add 0, ?_⟩ rfl rfl
  rintro rfl
  cases plays_awaitAcknowledge hawait with
  | never samples hall hnever =>
    exact ⟨clocked, _, rfl, hclocked, rise, hrise, samples, hall, by simpa using hnever, by simp⟩

theorem send_reads (address : Address) (byte : UInt8) :
    Reads config Low (.among address [byte]) 0 (send config address byte) := by
  refine (writeByte_ends byte).followed ?_
  rintro acknowledged _ early middle late result left ⟨rfl, hunanswered⟩ hlow hplays entry
    hreceived
  cases acknowledged with
  | true =>
    obtain ⟨rfl, rfl, rfl⟩ := (plays_exchange_pure _ _ _).mp hplays
    exact .done rfl hlow hreceived
  | false =>
    obtain ⟨rfl, rfl, rfl⟩ := (plays_exchange_throw _ _ _).mp hplays
    obtain ⟨clocked, slot, rfl, hclocked, hslot⟩ := hunanswered rfl
    rw [List.append_nil]
    exact .refused [] ⟨rfl, List.mem_singleton_self byte, rfl⟩ hclocked hslot hreceived

theorem sendAll_reads (address : Address) (bytes : List UInt8) :
    Reads config Low (.among address bytes) 0 (sendAll config address bytes) := by
  induction bytes with
  | nil => exact .pure ()
  | cons byte rest ih =>
    refine .after ((send_reads address byte).widen (Refusal.among_mono ?_)) fun _ ↦
      ih.widen (Refusal.among_mono (List.subset_cons_self byte rest))
    simp

/-- The bytes that select a slave. -/
def selection (address : Address) : Direction → List UInt8
  | .write => address.header .write
  | .read =>
    match address with
    | .seven _ => address.header .read
    | .ten _ => address.header .write ++ [address.turnaround]

theorem select_reads (address : Address) (direction : Direction) :
    Reads config Anyhow (.among address (selection address direction)) 0
      (select config address direction) := by
  refine .after start_reads fun _ ↦ ?_
  cases address with
  | seven value => cases direction <;> exact sendAll_reads _ _
  | ten value =>
    cases direction with
    | write => exact sendAll_reads _ _
    | read =>
      refine .after ((sendAll_reads _ _).widen (Refusal.among_mono ?_)) fun _ ↦
        .after (start_reads.narrow fun _ _ ↦ trivial) fun _ ↦
          (send_reads _ _).widen (Refusal.among_mono ?_)
      · exact List.subset_append_left _ _
      · exact List.subset_append_right _ _

theorem take_reads (byte : UInt8) :
    Reads config Low refusal 1
      (modify fun master => { master with received := master.received ++ [byte] }) := by
  rintro ⟨_, received⟩ signals result left hlow hplays
  obtain ⟨_, hmodify, rfl⟩ := (plays_exchange_step _ _ _).mp hplays
  obtain ⟨rfl, heq⟩ := (plays_step_modify _ _).mp hmodify
  cases heq
  exact .done rfl hlow (by simp)

theorem receive_reads (count : Nat) (follows : Bool) :
    Reads config Low refusal count (receive config count follows) := by
  induction count generalizing refusal with
  | zero => exact .pure ()
  | succ count ih =>
    refine .after (readByte_reads _) fun byte ↦ ?_
    rw [Nat.add_comm]
    exact (take_reads byte).bind fun _ ↦ ih

end Exchanges

end Scanout.I2c.BitBang
