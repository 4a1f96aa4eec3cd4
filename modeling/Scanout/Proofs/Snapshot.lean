import Scanout.Proofs.Device
import Scanout.Snapshot

/-!
Saving and restoring as seen from a register file. A snapshot that was saved holds what every entry
of the table held (`run_save`), and any snapshot that is written back in full leaves its values in
every entry that is not skipped, whatever was there before (`replayed_store`).

The first entry is the aperture behind the window, and the engine has to settle after it; all the
others are registers of their own, each with a single entry.
-/

set_option autoImplicit false
set_option relaxedAutoImplicit false

namespace Scanout

open Register

namespace Snapshot

/-- What an entry's place holds. -/
def Place.peek (device : Device) (file : RegisterFile) : Place → UInt32
  | direct register => file.value register
  | aperture => file.controllerValue device.aperture

/-- The register of an entry that has one of its own. -/
def Place.register? : Place → Option Direct
  | direct register => some register
  | aperture => none

/-- The entry of the aperture. -/
def apertureEntry : Entry :=
  ⟨"MC_MEMORY_MAP", .aperture, .controller, false⟩

/-- The entries of registers of their own. -/
def directEntries : List Entry :=
  table.tail

theorem table_eq : table = apertureEntry :: directEntries := rfl

/-- The registers of the table, each of which has one entry. -/
def registers : List Direct :=
  table.filterMap fun entry ↦ entry.place.register?

/-- The registers of a pipe that have entries, its cursor apart. -/
def scanRegisters : List PipeRegister :=
  rasterRegisters.map Prod.snd ++ scalerSettings.map Prod.fst ++ controlRegisters.map Prod.snd

/-- The registers of an encoder that have entries. -/
def blockRegisters : EncoderBlock → List BlockRegister
  | .dac1 | .dac2 => dacRegisters.map Prod.snd
  | .tmdsA | .lvtm => tmdsRegisters.map Prod.snd

theorem registers_eq : registers =
    [vgaMemoryBase, vgaSurfaceStart, vga1Control, vga2Control] ++
      Pipe.all.flatMap (fun pipe ↦ (pllRegisters.map Prod.snd).map pipe.pll) ++ [clockSource] ++
      Pipe.all.flatMap (fun pipe ↦ scanRegisters.map pipe.register) ++
      [EncoderBlock.dac1, .tmdsA, .dac2, .lvtm].flatMap (fun block ↦
        (blockRegisters block).map block.register) ++ [panelSequencer] ++
      Pipe.all.flatMap (fun pipe ↦ (cursorRegisters.map Prod.snd).map pipe.register) := by
  rfl

/-- No register of a pipe is missing from the table. -/
theorem pipe_mem_registers (pipe : Pipe) (register : PipeRegister) :
    pipe.register register ∈ registers := by
  have hpipe : pipe ∈ Pipe.all := by
    cases pipe <;> decide
  have hentry : register ∈ scanRegisters ∨ register ∈ cursorRegisters.map Prod.snd := by
    cases register <;> decide
  rw [registers_eq]
  simp only [List.mem_append, List.mem_flatMap]
  rcases hentry with hscan | hcursor
  · exact .inl (.inl (.inl (.inr ⟨pipe, hpipe, List.mem_map_of_mem hscan⟩)))
  · exact .inr ⟨pipe, hpipe, List.mem_map_of_mem hcursor⟩

/-- No register of a PLL is missing from the table. -/
theorem pll_mem_registers (pipe : Pipe) (register : PllRegister) :
    pipe.pll register ∈ registers := by
  have hpipe : pipe ∈ Pipe.all := by
    cases pipe <;> decide
  have hentry : register ∈ pllRegisters.map Prod.snd := by
    cases register <;> decide
  rw [registers_eq]
  simp only [List.mem_append, List.mem_flatMap]
  exact .inl (.inl (.inl (.inl (.inl (.inr ⟨pipe, hpipe, List.mem_map_of_mem hentry⟩)))))

/-- No register of an encoder is missing from the table. -/
theorem block_mem_registers {block : EncoderBlock} {register : BlockRegister}
    (hhas : block.has register = true) : block.register register ∈ registers := by
  have hblock : block ∈ [EncoderBlock.dac1, .tmdsA, .dac2, .lvtm] := by
    cases block <;> decide
  have hentry : register ∈ blockRegisters block := by
    revert hhas
    cases block <;> cases register <;> decide
  rw [registers_eq]
  simp only [List.mem_append, List.mem_flatMap]
  exact .inl (.inl (.inr ⟨block, hblock, List.mem_map_of_mem hentry⟩))

/-- Neither is any that stands by itself. -/
theorem mem_registers_of_single {register : Direct}
    (hsingle : register ∈ [vgaMemoryBase, vgaSurfaceStart, vga1Control, vga2Control] ∨
      register = clockSource ∨ register = panelSequencer) : register ∈ registers := by
  rw [registers_eq]
  simp only [List.mem_append, List.mem_singleton]
  rcases hsingle with hlegacy | hclock | hsequencer
  · exact .inl (.inl (.inl (.inl (.inl (.inl hlegacy)))))
  · exact .inl (.inl (.inl (.inl (.inr hclock))))
  · exact .inl (.inr hsequencer)

theorem registers_nodup : registers.Nodup :=
  nodup_of_offsets (by decide +kernel)

theorem registers_stored : ∀ register ∈ registers, (region register.offset).isStored = true := by
  decide +kernel

theorem directEntries_place : ∀ entry ∈ directEntries, entry.place ≠ .aperture := by
  decide +kernel

/-- The skipped entries are one sync width of each pipe. -/
theorem skipped_iff : ∀ entry ∈ table, entry.skipped = true ↔
    entry.place = .direct (Pipe.first.register .vSyncWidth) ∨
      entry.place = .direct (Pipe.second.register .hSyncWidth) := by
  decide +kernel

/-!
Saving. Only the aperture takes more than a read: it is selected first, which no other entry sees.
-/

/-- The write that selects the aperture for reading. -/
def selection (device : Device) : List (Direct × UInt32) :=
  [(controllerIndex, device.aperture.readIndex)]

theorem place_of_direct {entry : Entry} (hentry : entry ∈ directEntries) :
    ∃ register ∈ registers, entry.place = .direct register := by
  have haperture := directEntries_place entry hentry
  cases hplace : entry.place with
  | aperture => exact absurd hplace haperture
  | direct register =>
    refine ⟨register, List.mem_filterMap.mpr ⟨entry, ?_, by rw [hplace]; rfl⟩, rfl⟩
    exact List.mem_cons_of_mem apertureEntry hentry

/-- Selecting something behind the window is not seen in the registers of the table. -/
theorem value_store_selection (device : Device) (file : RegisterFile) {register : Direct}
    (hregister : register ∈ registers) :
    (file.store (selection device)).value register = file.value register := by
  have hstored := registers_stored register hregister
  refine file.value_store_of_ne ?_
  rintro written hwritten rfl
  rw [List.mem_singleton.mp hwritten] at hstored
  cases hstored

theorem run_readAll (device : Device) {entries : List Entry}
    (hentries : ∀ entry ∈ entries, entry ∈ directEntries) (file : RegisterFile) :
    (readAll device entries).run RegisterFile.port file =
      (entries.map fun entry ↦ entry.place.peek device file, file) := by
  induction entries with
  | nil => rfl
  | cons entry rest ih =>
    rw [List.forall_mem_cons] at hentries
    obtain ⟨register, hregister, hplace⟩ := place_of_direct hentries.1
    have hread : (entry.place.read device).run RegisterFile.port file =
        (entry.place.peek device file, file) := by
      rw [hplace]
      exact file.run_read (registers_stored register hregister)
    rw [readAll, Program.bind_eq, Program.run_bind, hread, Program.bind_eq, Program.run_bind,
      ih hentries.2]
    rfl

/-- The snapshot that a register file stands for. -/
def ofFile (device : Device) (file : RegisterFile) : Snapshot :=
  ⟨table.map fun entry ↦ entry.place.peek device file⟩

/-- The entries that follow the aperture, up to the cursors'. -/
def plainEntries : List Entry :=
  displayEntries.tail

theorem displayEntries_eq : displayEntries = apertureEntry :: plainEntries := rfl

theorem directEntries_eq : directEntries = plainEntries ++ cursorEntries := rfl

/-- A snapshot holds what every entry held. -/
theorem run_save (device : Device) (file : RegisterFile) :
    (save device).run RegisterFile.port file =
      (ofFile device file, file.store (selection device)) := by
  have hplain : ∀ entry ∈ plainEntries, entry ∈ directEntries := by
    rw [directEntries_eq]
    exact fun _ ↦ List.mem_append_left _
  have hcursor : ∀ entry ∈ cursorEntries, entry ∈ directEntries := by
    rw [directEntries_eq]
    exact fun _ ↦ List.mem_append_right _
  have hkept : (plainEntries.map fun entry ↦
      entry.place.peek device (file.store (selection device))) =
        plainEntries.map fun entry ↦ entry.place.peek device file := by
    refine List.map_congr_left fun entry hentry ↦ ?_
    obtain ⟨register, hregister, hplace⟩ := place_of_direct (hplain entry hentry)
    rw [hplace]
    exact value_store_selection device file hregister
  have haperture : (apertureEntry.place.read device).run RegisterFile.port file =
      (file.controllerValue device.aperture, file.store (selection device)) :=
    file.run_readController device.aperture
  rw [save, displayEntries_eq, readAll]
  simp only [Program.bind_eq, Program.run_bind, run_readAll device hcursor, haperture,
    run_readAll device hplain, hkept]
  rw [ofFile, table, displayEntries_eq, List.map_append, List.map_cons]
  rfl

/-!
Restoring. The aperture comes first and is followed by a wait; the rest is one list of writes.
-/

/-- The write that puts an entry back, if it is put back in a register of its own. -/
def replayed? (entry : Entry × UInt32) : Option (Direct × UInt32) :=
  if entry.1.skipped then none
  else entry.1.place.register?.map fun register ↦ (register, entry.2)

/-- The writes that put some entries back. -/
def replayWrites (entries : List (Entry × UInt32)) : List (Direct × UInt32) :=
  entries.filterMap replayed?

/-- Everything that is written to put back values of the entries after the aperture's. -/
def replay (values : List UInt32) : List (Direct × UInt32) :=
  replayWrites (directEntries.zip values)

theorem replayWrites_of_skipped {entry : Entry} (hskipped : entry.skipped = true) (value : UInt32)
    (rest : List (Entry × UInt32)) :
    replayWrites ((entry, value) :: rest) = replayWrites rest := by
  simp only [replayWrites, List.filterMap_cons, replayed?, hskipped, if_true]

theorem replayWrites_of_direct {entry : Entry} {register : Direct}
    (hskipped : entry.skipped = false) (hplace : entry.place = .direct register) (value : UInt32)
    (rest : List (Entry × UInt32)) :
    replayWrites ((entry, value) :: rest) = (register, value) :: replayWrites rest := by
  simp only [replayWrites, List.filterMap_cons, replayed?, hskipped, hplace, Bool.false_eq_true,
    if_false, Place.register?, Option.map_some]

variable {σ : Type}

theorem start_writeBack (device : Device) {entries : List (Entry × UInt32)}
    (hentries : ∀ entry ∈ entries, entry.1.place ≠ .aperture) (state : σ) :
    (writeBack device entries).start state =
      (Hardware.writeAll (replayWrites entries)).bind fun _ ↦ .done (.ok (), state) := by
  induction entries with
  | nil => rfl
  | cons head rest ih =>
    obtain ⟨entry, value⟩ := head
    rw [List.forall_mem_cons] at hentries
    have hrest := ih hentries.2
    rw [writeBack]
    cases hskipped : entry.skipped with
    | true => rw [replayWrites_of_skipped hskipped, ← hrest]; rfl
    | false =>
      cases hplace : entry.place with
      | aperture => exact absurd hplace hentries.1
      | direct register =>
        rw [replayWrites_of_direct hskipped hplace, Hardware.writeAll, Program.bind_bind, ← hrest]
        exact Action.start_lift_bind _ _ state

/-- What is noted when a snapshot was written back. -/
def restoredNote : Log.Entry :=
  ⟨.info, "restored display registers"⟩

theorem start_restore_nil (device : Device) (state : σ) :
    (restore device ⟨[]⟩).start state = .ask (.note restoredNote) fun _ ↦ .done (.ok (), state) :=
  rfl

/-- A replay in its two parts: the aperture with a wait, and all the rest at once. -/
theorem start_restore_cons (device : Device) (value : UInt32) (values : List UInt32) (state : σ) :
    (restore device ⟨value :: values⟩).start state =
      device.stage (RegisterFile.controllerWrites device.aperture value) state
        ((Hardware.writeAll (replay values)).bind fun _ ↦
          .ask (.note restoredNote) fun _ ↦ .done (.ok (), state)) := by
  have hplaces : ∀ entry ∈ directEntries.zip values, entry.1.place ≠ .aperture :=
    fun entry hentry ↦ directEntries_place entry.1 (List.of_mem_zip hentry).1
  have hwrite : (Place.aperture.write device value).start state =
      device.stage (RegisterFile.controllerWrites device.aperture value) state
        (.done (.ok (), state)) := by
    rw [Place.write, Action.start_lift_bind, RegisterFile.writeController_eq,
      Device.start_waitIdle, Device.writeAll_stage, List.append_nil]
  rw [restore, Action.start_bind, table_eq, List.zip_cons_cons, writeBack]
  show (((Place.aperture.write device value >>= fun _ ↦
    writeBack device (directEntries.zip values)).start state).bind _) = _
  rw [Action.start_bind, hwrite, Device.stage_follow, Program.done_bind, Action.follow_ok,
    start_writeBack device hplaces, Device.stage_follow, Program.bind_bind]
  rfl

/-- On a register file a replay stores the aperture, and everything else if it does not get
stuck. -/
theorem meets_restore_cons {device : Device} {value : UInt32} {values : List UInt32} {state : σ}
    {post : Except (Failure Error) Unit × σ → RegisterFile → Prop} {file : RegisterFile}
    (hstuck : ∀ status reads, post (.error (device.lockup status), state)
      ((file.store (RegisterFile.controllerWrites device.aperture value)).advance reads))
    (hdone : ∀ reads, post (.ok (), state)
      (((file.store (RegisterFile.controllerWrites device.aperture value)).advance reads).store
        (replay values))) :
    ((restore device ⟨value :: values⟩).start state).Meets (.of RegisterFile.port) post file := by
  rw [start_restore_cons]
  refine Device.meets_stage hstuck fun reads ↦ ?_
  rw [Program.meets_bind, Program.meets_of_iff, RegisterFile.run_writeAll, Program.meets_ask]
  exact .done (hdone reads)

/-!
What a replay leaves. It writes no register twice, and only registers of the table.
-/

theorem map_fst_replayWrites (entries : List Entry) (values : List UInt32) :
    ((replayWrites (entries.zip values)).map Prod.fst).Sublist
      (entries.filterMap fun entry ↦ entry.place.register?) := by
  induction entries generalizing values with
  | nil => exact List.Sublist.refl _
  | cons entry rest ih =>
    cases values with
    | nil => exact List.nil_sublist _
    | cons value values =>
      have hrest := ih values
      rw [List.zip_cons_cons]
      cases hplace : entry.place with
      | aperture =>
        have hnone : replayed? (entry, value) = none := by
          rw [replayed?, hplace]
          split <;> rfl
        rw [replayWrites, List.filterMap_cons, List.filterMap_cons, hnone, hplace]
        exact hrest
      | direct register =>
        rw [List.filterMap_cons, hplace]
        cases hskipped : entry.skipped with
        | true =>
          rw [replayWrites_of_skipped hskipped]
          exact hrest.cons register
        | false =>
          rw [replayWrites_of_direct hskipped hplace]
          exact hrest.cons_cons register

theorem replay_sublist (values : List UInt32) :
    ((replay values).map Prod.fst).Sublist registers :=
  map_fst_replayWrites directEntries values

theorem replay_mem (values : List UInt32) : ∀ entry ∈ replay values, entry.1 ∈ registers :=
  fun _ hentry ↦ (replay_sublist values).subset (List.mem_map_of_mem hentry)

/-- Every entry that is written back holds the value that the snapshot has for it. -/
def Replayed (device : Device) (snapshot : Snapshot) (file : RegisterFile) : Prop :=
  ∀ pair ∈ table.zip snapshot.values, pair.1.skipped = false →
    pair.1.place.peek device file = pair.2

/-- Once the aperture is back, writing the rest completes the replay. -/
theorem replayed_store {device : Device} {value : UInt32} {file : RegisterFile}
    (haperture : file.controllerValue device.aperture = value) (values : List UInt32) :
    Replayed device ⟨value :: values⟩ (file.store (replay values)) := by
  rintro ⟨entry, saved⟩ hpair hskipped
  rw [table_eq, List.zip_cons_cons, List.mem_cons] at hpair
  rcases hpair with hhead | hrest
  · cases hhead
    refine (file.controllerValue_store _ fun written hwritten heq ↦ ?_).trans haperture
    have hstored := registers_stored _ (replay_mem _ written hwritten)
    rw [heq] at hstored
    cases hstored
  · obtain ⟨register, -, hplace⟩ := place_of_direct (List.of_mem_zip hrest).1
    have hwritten : (register, saved) ∈ replay values := by
      refine List.mem_filterMap.mpr ⟨(entry, saved), hrest, ?_⟩
      rw [replayed?, hskipped, hplace]
      rfl
    have hlatest := latest_of_mem ((replay_sublist _).nodup registers_nodup) hwritten
    dsimp only
    rw [hplace, Place.peek, RegisterFile.value_store, hlatest]
    rfl

/-- Writing a snapshot back ends with its values, or gets stuck before anything but the window of
the memory controller was written. -/
theorem meets_replay {device : Device} {snapshot : Snapshot} {state : σ}
    {post : Except (Failure Error) Unit × σ → RegisterFile → Prop} {file : RegisterFile}
    (hstuck : ∀ status left,
      file.Agrees (fun register ↦ region register.offset ≠ .window) left →
        post (.error (device.lockup status), state) left)
    (hdone : ∀ left, Replayed device snapshot left → post (.ok (), state) left) :
    ((restore device snapshot).start state).Meets (.of RegisterFile.port) post file := by
  obtain ⟨_ | ⟨value, values⟩⟩ := snapshot
  · rw [start_restore_nil, Program.meets_ask]
    refine .done (hdone _ fun pair hpair ↦ ?_)
    rw [List.zip_nil_right] at hpair
    cases hpair
  · refine meets_restore_cons (fun status reads ↦ hstuck status _ ?_) fun reads ↦
      hdone _ (replayed_store ?_ values)
    · exact file.agrees_store (by simp [RegisterFile.controllerWrites]) reads
    · exact file.controllerValue_store_controllerWrites _ _

/-- A replay that gets stuck has not seen the engine idle. -/
theorem not_idle_of_restore {τ : Type} (device : Device) (snapshot : Snapshot) (state : σ)
    (handler : Handler Access.signature τ) (hardware : τ) {failure : Failure Error}
    (hfailure : (((restore device snapshot).start state).run handler hardware).1.1 =
      .error failure) :
    Event.idle ∉ ((restore device snapshot).start state).trace handler hardware := by
  obtain ⟨_ | ⟨value, values⟩⟩ := snapshot
  · cases hfailure
  · rw [start_restore_cons] at hfailure ⊢
    obtain ⟨statuses, hend⟩ := device.trace_stage (RegisterFile.controllerWrites device.aperture value)
      state ((Hardware.writeAll (replay values)).bind fun _ ↦
        .ask (.note restoredNote) fun _ ↦ .done (.ok (), state)) handler hardware
    rcases hend with ⟨left, hrun, -⟩ | ⟨hgives, -, htrace⟩
    · rw [hrun, Program.run_bind] at hfailure
      cases hfailure
    · rw [htrace]
      exact List.not_mem_append (Event.idle_not_mem_writes _) hgives.idle_not_mem

/-- The file holds what another one held in every entry that is written back: all of the table but
one sync width of each pipe. -/
def Restored (device : Device) (saved file : RegisterFile) : Prop :=
  ∀ entry ∈ table, entry.place ≠ .direct (Pipe.first.register .vSyncWidth) →
    entry.place ≠ .direct (Pipe.second.register .hSyncWidth) →
      entry.place.peek device file = entry.place.peek device saved

theorem Replayed.restored {device : Device} {saved file : RegisterFile}
    (hreplayed : Replayed device (ofFile device saved) file) : Restored device saved file := by
  intro entry hentry hfirst hsecond
  refine hreplayed (entry, entry.place.peek device saved) ?_ ?_
  · rw [ofFile, ← List.map_prod_left_eq_zip]
    exact List.mem_map.mpr ⟨entry, hentry, rfl⟩
  · rw [Bool.eq_false_iff, ne_eq, skipped_iff entry hentry, not_or]
    exact ⟨hfirst, hsecond⟩

/-- A snapshot of a register file that is written back leaves what the file held. -/
theorem meets_restore {device : Device} {saved : RegisterFile} {state : σ}
    {post : Except (Failure Error) Unit × σ → RegisterFile → Prop} {file : RegisterFile}
    (hstuck : ∀ status left,
      file.Agrees (fun register ↦ region register.offset ≠ .window) left →
        post (.error (device.lockup status), state) left)
    (hdone : ∀ left, Restored device saved left → post (.ok (), state) left) :
    ((restore device (ofFile device saved)).start state).Meets (.of RegisterFile.port) post
      file :=
  meets_replay hstuck fun left hreplayed ↦ hdone left hreplayed.restored

end Snapshot

end Scanout
