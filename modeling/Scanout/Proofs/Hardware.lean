import Scanout.Hardware
import Scanout.Proofs.Program.Contract

/-!
Most of what is done to the device is a fixed list of register writes. `Hardware.writeAll` is the
program of such a list; what it requests, what it leaves in a register file and what it shows on a
trace are all read off the list.
-/

set_option autoImplicit false
set_option relaxedAutoImplicit false

namespace Scanout

open Register

/-- The access writes no register but those of a kind. -/
def Access.Within (kind : Direct → Prop) (access : Access) : Prop :=
  ∀ offset value, access = .write offset value → kind ⟨offset⟩

/-- The access writes no register. -/
abbrev Access.IsSilent : Access → Prop :=
  Access.Within fun _ ↦ False

instance (access : Access) : DecidableEq access.Answer :=
  match access with
  | .read _ => inferInstanceAs (DecidableEq UInt32)
  | .write _ _ | .delay _ | .note _ => inferInstanceAs (DecidableEq Unit)

/-- One access with its answer. -/
abbrev Event := Exchange Access.signature

/-- The event of a register being read. -/
def Event.read (register : Direct) (value : UInt32) : Event :=
  ⟨.read register.offset, value⟩

/-- The event of a register being written. -/
def Event.write (register : Direct) (value : UInt32) : Event :=
  ⟨.write register.offset value, ()⟩

/-- The event of a note being left. -/
def Event.note (entry : Log.Entry) : Event :=
  ⟨.note entry, ()⟩

/-- The register that an event writes, with the value that it gets. -/
def Event.written (event : Event) : Option (Direct × UInt32) :=
  match event.request with
  | .write offset value => some (⟨offset⟩, value)
  | .read _ | .delay _ | .note _ => none

@[simp] theorem Event.written_write (register : Direct) (value : UInt32) :
    (Event.write register value).written = some (register, value) := rfl

@[simp] theorem Event.written_read (register : Direct) (value : UInt32) :
    (Event.read register value).written = none := rfl

@[simp] theorem Event.written_note (entry : Log.Entry) : (Event.note entry).written = none := rfl

theorem Event.write_inj {first second : Direct} {a b : UInt32} :
    Event.write first a = Event.write second b ↔ first = second ∧ a = b := by
  constructor
  · intro heq
    have hwritten := congrArg Event.written heq
    simpa using hwritten
  · rintro ⟨rfl, rfl⟩
    rfl

theorem Event.read_inj {first second : Direct} {a b : UInt32} :
    Event.read first a = Event.read second b ↔ first = second ∧ a = b := by
  constructor
  · intro heq
    obtain ⟨first⟩ := first
    obtain ⟨second⟩ := second
    cases heq
    exact ⟨rfl, rfl⟩
  · rintro ⟨rfl, rfl⟩
    rfl

/-- The register that an event reads, with the value that is answered. -/
def Event.answered (event : Event) : Option (Direct × UInt32) :=
  match event with
  | ⟨.read offset, value⟩ => some (⟨offset⟩, value)
  | ⟨.write _ _, _⟩ | ⟨.delay _, _⟩ | ⟨.note _, _⟩ => none

@[simp] theorem Event.answered_read (register : Direct) (value : UInt32) :
    (Event.read register value).answered = some (register, value) := rfl

@[simp] theorem Event.answered_write (register : Direct) (value : UInt32) :
    (Event.write register value).answered = none := rfl

@[simp] theorem Event.answered_note (entry : Log.Entry) : (Event.note entry).answered = none := rfl

/-- The events of bits of a register being cleared and then set. -/
def Event.update (register : Direct) (clear set old : UInt32) : List Event :=
  [.read register old, .write register ((old &&& ~~~clear) ||| set)]

/-- The events of some registers being written in order. -/
def Event.writes (writes : List (Direct × UInt32)) : List Event :=
  writes.map fun entry ↦ Event.write entry.1 entry.2

theorem Event.writes_append (first second : List (Direct × UInt32)) :
    Event.writes (first ++ second) = Event.writes first ++ Event.writes second :=
  List.map_append

theorem Event.write_mem_writes {writes : List (Direct × UInt32)} {register : Direct}
    {value : UInt32} :
    Event.write register value ∈ Event.writes writes ↔ (register, value) ∈ writes := by
  constructor
  · intro hmem
    obtain ⟨entry, hentry, heq⟩ := List.mem_map.mp hmem
    obtain ⟨rfl, rfl⟩ := Event.write_inj.mp heq
    exact hentry
  · exact fun hentry ↦ List.mem_map.mpr ⟨_, hentry, rfl⟩

/-- Everything that is written among some events is of one kind. -/
def OnlyWrites (kind : Direct → UInt32 → Prop) (events : List Event) : Prop :=
  ∀ event ∈ events, ∀ register value, event.written = some (register, value) → kind register value

namespace OnlyWrites

variable {kind weaker : Direct → UInt32 → Prop} {first second : List Event}

theorem append (hfirst : OnlyWrites kind first) (hsecond : OnlyWrites kind second) :
    OnlyWrites kind (first ++ second) := fun event hevent ↦
  (List.mem_append.mp hevent).elim (hfirst event) (hsecond event)

theorem mono (hevents : OnlyWrites kind first)
    (himp : ∀ register value, kind register value → weaker register value) :
    OnlyWrites weaker first :=
  fun event hevent register value hwritten ↦
    himp register value (hevents event hevent register value hwritten)

theorem writes {entries : List (Direct × UInt32)}
    (hentries : ∀ entry ∈ entries, kind entry.1 entry.2) :
    OnlyWrites kind (Event.writes entries) := by
  intro event hevent register value hwritten
  obtain ⟨entry, hentry, rfl⟩ := List.mem_map.mp hevent
  cases hwritten
  exact hentries entry hentry

theorem read (register : Direct) (value : UInt32) : OnlyWrites kind [.read register value] := by
  intro event hevent written word hwritten
  obtain rfl := List.mem_singleton.mp hevent
  cases hwritten

theorem write {register : Direct} {value : UInt32} (hkind : kind register value) :
    OnlyWrites kind [.write register value] := by
  intro event hevent written word hwritten
  obtain rfl := List.mem_singleton.mp hevent
  cases hwritten
  exact hkind

theorem update {register : Direct} {clear set old : UInt32}
    (hkind : kind register ((old &&& ~~~clear) ||| set)) :
    OnlyWrites kind (Event.update register clear set old) :=
  append (read register old) (write hkind)

theorem of_silent (hsilent : ∀ event ∈ first, event.written = none) : OnlyWrites kind first := by
  intro event hevent register value hwritten
  rw [hsilent event hevent] at hwritten
  cases hwritten

/-- A program that writes registers of a kind shows writes of that kind. -/
theorem of_meets {α σ : Type} {registers : Direct → Prop} {program : Hardware α}
    {goal : α → Unit → Prop}
    (hmeets : program.Meets (.asking (Access.Within registers)) goal ())
    (handler : Handler Access.signature σ) (state : σ) :
    OnlyWrites (fun register _ ↦ registers register) (program.trace handler state) := by
  intro event hevent register value hwritten
  have hwithin := hmeets.asks handler state event hevent
  rw [Event.written] at hwritten
  split at hwritten
  · cases hwritten
    exact hwithin _ _ (by assumption)
  all_goals cases hwritten

end OnlyWrites

/-- The events write no register but the listed ones. -/
abbrev StaysIn (registers : List Direct) (events : List Event) : Prop :=
  OnlyWrites (fun register _ ↦ register ∈ registers) events

theorem StaysIn.widen {few registers : List Direct} {events : List Event}
    (hevents : StaysIn few events) (hfew : few ⊆ registers) : StaysIn registers events :=
  OnlyWrites.mono hevents fun _ _ hmem ↦ hfew hmem

/-- The program writes no register but those of a kind. -/
abbrev Program.IsWithin {α : Type} (kind : Direct → Prop) (program : Hardware α) : Prop :=
  program.Meets (.asking (Access.Within kind)) (fun _ _ ↦ True) ()

namespace Program.IsWithin

variable {α β : Type} {kind : Direct → Prop}

theorem done (value : α) : (Program.done value : Hardware α).IsWithin kind :=
  Meets.done trivial

theorem bind {program : Hardware α} {rest : α → Hardware β} (hprogram : program.IsWithin kind)
    (hrest : ∀ value, (rest value).IsWithin kind) : (program.bind rest).IsWithin kind :=
  Meets.bind hprogram fun value _ _ ↦ hrest value

end Program.IsWithin

namespace Hardware

variable {σ : Type} {kind : Direct → Prop}

theorem read_within (register : Direct) : (read register).IsWithin kind :=
  .ask (fun _ _ ↦ Access.noConfusion) fun _ ↦ .done trivial

theorem delay_within (microseconds : UInt32) : (delay microseconds).IsWithin kind :=
  .ask (fun _ _ ↦ Access.noConfusion) fun _ ↦ .done trivial

theorem note_within (level : Log.Level) (text : String) : (note level text).IsWithin kind :=
  .ask (fun _ _ ↦ Access.noConfusion) fun _ ↦ .done trivial

theorem write_within {register : Direct} (hkind : kind register) (value : UInt32) :
    (write register value).IsWithin kind := by
  refine .ask ?_ fun _ ↦ .done trivial
  rintro offset written ⟨⟩
  exact hkind

theorem update_within {register : Direct} (hkind : kind register) (clear set : UInt32) :
    (update register clear set).IsWithin kind :=
  .bind (.bind (read_within register) fun _ ↦ .bind (write_within hkind _) fun _ ↦ .done _)
    fun _ ↦ .done _

theorem plays_read (register : Direct) (events : List Event) (value : UInt32) :
    (read register).Plays events value ↔ events = [.read register value] :=
  Program.plays_perform _ _ _

theorem plays_write (register : Direct) (value : UInt32) (events : List Event) (out : Unit) :
    (write register value).Plays events out ↔ events = [.write register value] :=
  Program.plays_perform _ _ _

theorem plays_delay (microseconds : UInt32) (events : List Event) (out : Unit) :
    (delay microseconds).Plays events out ↔ events = [⟨.delay microseconds, ()⟩] :=
  Program.plays_perform _ _ _

theorem plays_note (level : Log.Level) (text : String) (events : List Event) (out : Unit) :
    (note level text).Plays events out ↔ events = [.note { level, text }] :=
  Program.plays_perform _ _ _

theorem plays_update (register : Direct) (clear set : UInt32) (events : List Event) (out : Unit) :
    (update register clear set).Plays events out ↔
      ∃ old, events = Event.update register clear set old := by
  simp only [update, modify, Program.bind_eq, Program.pure_eq, Program.plays_bind, plays_read,
    plays_write, Program.plays_done]
  constructor
  · rintro ⟨_, _, _, rfl, ⟨_, _, old, rfl, rfl, _, _, _, rfl, rfl, rfl, _⟩, rfl, _⟩
    exact ⟨old, rfl⟩
  · rintro ⟨old, rfl⟩
    exact ⟨_, [], _, (List.append_nil _).symm,
      ⟨_, _, old, rfl, rfl, _, [], (), (List.append_nil _).symm, rfl, rfl, rfl⟩, rfl, trivial⟩

/-- Give some registers their values, in order. -/
def writeAll : List (Direct × UInt32) → Hardware Unit
  | [] => .done ()
  | (register, value) :: rest => (write register value).bind fun _ ↦ writeAll rest

@[simp] theorem writeAll_nil : writeAll [] = .done () := rfl

theorem writeAll_append (first second : List (Direct × UInt32)) :
    writeAll (first ++ second) = (writeAll first).bind fun _ ↦ writeAll second := by
  induction first with
  | nil => rfl
  | cons head rest ih =>
    obtain ⟨register, value⟩ := head
    rw [List.cons_append, writeAll, writeAll, ih, Program.bind_bind]

theorem trace_writeAll (handler : Handler Access.signature σ) (writes : List (Direct × UInt32))
    (state : σ) :
    (writeAll writes).trace handler state = Event.writes writes := by
  induction writes generalizing state with
  | nil => rfl
  | cons head rest ih =>
    obtain ⟨register, value⟩ := head
    rw [writeAll, write, Program.ask_bind, Program.trace_ask, Program.done_bind, ih]
    rfl

/-- The list is all that is written. -/
theorem writeAll_within {writes : List (Direct × UInt32)}
    (hwrites : ∀ entry ∈ writes, kind entry.1) : (writeAll writes).IsWithin kind := by
  induction writes with
  | nil => exact .done ()
  | cons head rest ih =>
    rw [List.forall_mem_cons] at hwrites
    exact .bind (write_within hwrites.1 head.2) fun _ ↦ ih hwrites.2

end Hardware

/-- The last value that a list of writes gives to a register. -/
def latest : List (Direct × UInt32) → Direct → Option UInt32
  | [], _ => none
  | (written, value) :: rest, register =>
    (latest rest register).or (if written = register then some value else none)

theorem latest_eq_none {writes : List (Direct × UInt32)} {register : Direct}
    (hother : ∀ entry ∈ writes, entry.1 ≠ register) : latest writes register = none := by
  induction writes with
  | nil => rfl
  | cons head rest ih =>
    rw [List.forall_mem_cons] at hother
    rw [latest, ih hother.2, if_neg hother.1]
    rfl

/-- A register that is written ends with one of the values that it is written with. -/
theorem exists_latest {writes : List (Direct × UInt32)} {register : Direct}
    (hwritten : ∃ value, (register, value) ∈ writes) :
    ∃ value, latest writes register = some value ∧ (register, value) ∈ writes := by
  induction writes with
  | nil => simp at hwritten
  | cons head rest ih =>
    by_cases hrest : ∃ value, (register, value) ∈ rest
    · obtain ⟨value, hlatest, hmem⟩ := ih hrest
      exact ⟨value, by rw [latest, hlatest]; rfl, List.mem_cons_of_mem head hmem⟩
    · have hnone : latest rest register = none := by
        refine latest_eq_none fun entry hentry heq ↦ hrest ⟨entry.2, ?_⟩
        rw [← heq]
        exact hentry
      obtain ⟨value, hvalue⟩ := hwritten
      obtain rfl : (register, value) = head :=
        (List.mem_cons.mp hvalue).resolve_right fun hmem ↦ hrest ⟨value, hmem⟩
      exact ⟨value, by rw [latest, hnone, if_pos rfl]; rfl, hvalue⟩

/-- The last value is one that the list gives. -/
theorem mem_of_latest {writes : List (Direct × UInt32)} {register : Direct} {value : UInt32}
    (hlatest : latest writes register = some value) : (register, value) ∈ writes := by
  by_cases hwritten : ∃ value, (register, value) ∈ writes
  · obtain ⟨last, hlast, hmem⟩ := exists_latest hwritten
    cases hlast.symm.trans hlatest
    exact hmem
  · have hother : ∀ entry ∈ writes, entry.1 ≠ register := by
      rintro entry hentry rfl
      exact hwritten ⟨entry.2, hentry⟩
    rw [latest_eq_none hother] at hlatest
    cases hlatest

/-- A register that is written with one value only ends with that value. -/
theorem latest_of_forall {writes : List (Direct × UInt32)} {register : Direct} {value : UInt32}
    (hmem : (register, value) ∈ writes)
    (hvalue : ∀ entry ∈ writes, entry.1 = register → entry.2 = value) :
    latest writes register = some value := by
  obtain ⟨final, hlatest, hfinal⟩ := exists_latest ⟨value, hmem⟩
  obtain rfl : final = value := hvalue _ hfinal rfl
  exact hlatest

/-- Where no register is written twice, every write is the last one to its register. -/
theorem latest_of_mem {writes : List (Direct × UInt32)} {register : Direct} {value : UInt32}
    (hnodup : (writes.map Prod.fst).Nodup) (hmem : (register, value) ∈ writes) :
    latest writes register = some value := by
  induction writes with
  | nil => cases hmem
  | cons head rest ih =>
    rw [List.map_cons, List.nodup_cons] at hnodup
    rcases List.mem_cons.mp hmem with rfl | hrest
    · refine latest_of_forall hmem fun entry hentry heq ↦ ?_
      rcases List.mem_cons.mp hentry with rfl | hlater
      · rfl
      · exact absurd (List.mem_map.mpr ⟨entry, hlater, heq⟩) hnodup.1
    · rw [latest, ih hnodup.2 hrest]
      rfl

end Scanout
