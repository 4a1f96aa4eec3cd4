import Scanout.Device
import Scanout.Output.Id
import Scanout.Register.Pipe

/-!
# Snapshots of the register footprint

`Snapshot.table` lists every register that the display engine programs, in the order in which a
snapshot is written back. Saving reads the cursor entries first and the rest in table order. A few
entries are saved for inspection and never written back.
-/

set_option autoImplicit false
set_option relaxedAutoImplicit false

namespace Scanout

open Register

namespace Snapshot

/-- Where an entry's value lives. -/
inductive Place where
  | direct (register : Direct)
  /-- The aperture register, whose address depends on the chip. -/
  | aperture
  deriving DecidableEq, Repr

/-- Which part of the device an entry belongs to. -/
inductive Group where
  | controller
  | vga
  | pll
  | pipe (pipe : Pipe)
  | outputs
  | cursor
  deriving DecidableEq, Repr

/-- One entry of the footprint. -/
structure Entry where
  name : String
  place : Place
  group : Group
  /-- Saved for inspection but never written back. -/
  skipped : Bool := false
  deriving DecidableEq, Repr

/-- Entries of the memory controller and the legacy core. -/
def memoryEntries : List Entry :=
  [⟨"MC_MEMORY_MAP", .aperture, .controller, false⟩,
    ⟨"VGA_MEMORY_BASE", .direct vgaMemoryBase, .vga, false⟩,
    ⟨"VGA_FB_START", .direct vgaSurfaceStart, .vga, false⟩,
    ⟨"VGA1_CONTROL", .direct vga1Control, .vga, false⟩,
    ⟨"VGA2_CONTROL", .direct vga2Control, .vga, false⟩]

/-- The registers of a PLL in the order in which they are written back. -/
def pllRegisters : List (String × PllRegister) :=
  [("REF_DIV_SRC", .referenceSource), ("REF_DIV", .reference), ("UPDATE_LOCK", .updateLock),
    ("FB_DIV", .feedback), ("POST_DIV_SRC", .postSource), ("POST_DIV", .post),
    ("EXT_CNTL", .extendedControl), ("CNTL", .control)]

/-- Entries of one PLL. -/
def pllEntries (pipe : Pipe) : List Entry :=
  pllRegisters.map fun (label, register) =>
    ⟨s!"PLL{pipe.index + 1}_{label}", .direct (pipe.pll register), .pll, false⟩

/-- The raster and surface registers of a pipe. -/
def rasterRegisters : List (String × PipeRegister) :=
  [("H_TOTAL", .hTotal), ("H_BLANK", .hBlank), ("H_SYNC_WID", .hSyncWidth),
    ("H_SYNC_POL", .hSyncPolarity), ("V_TOTAL", .vTotal), ("V_BLANK", .vBlank),
    ("V_SYNC_WID", .vSyncWidth), ("V_SYNC_POL", .vSyncPolarity), ("FB_FORMAT", .surfaceFormat),
    ("FB_LOCATION", .surfaceLocation), ("FB_END", .surfaceEnd), ("PITCH", .pitch),
    ("X_LENGTH", .xLength), ("Y_LENGTH", .yLength), ("MODE", .mode), ("FB_HEIGHT", .surfaceHeight),
    ("OFFSET_START", .offsetStart), ("OFFSET_END", .offsetEnd),
    ("EXPANSION_SOURCE", .expansionSource), ("EXPANSION_CNTL", .expansionControl)]

/-- The control registers of a pipe, written back after everything that they switch on. -/
def controlRegisters : List (String × PipeRegister) :=
  [("CNTL", .control), ("BLANK_CONTROL", .blankControl),
    ("INTERLACE_CONTROL", .interlaceControl), ("CNTL_60C0", .control60C0),
    ("SCAN_ENABLE", .scanEnable)]

/-- The cursor registers of a pipe. -/
def cursorRegisters : List (String × PipeRegister) :=
  [("CURSOR_CNTL", .cursorControl), ("CURSOR_LOCATION", .cursorLocation),
    ("CURSOR_SIZE", .cursorSize), ("CURSOR_POSITION", .cursorPosition)]

/-- The hexadecimal digits of an offset in capitals, as scaler entries are named. -/
def scalerLabel (register : Direct) : String :=
  "SCALER_" ++ String.ofList ((Nat.toDigits 16 register.offset.toNat).map Char.toUpper)

/-- The sync width registers that are saved but not written back. -/
def isSkipped : Pipe → PipeRegister → Bool
  | .first, .vSyncWidth => true
  | .second, .hSyncWidth => true
  | _, _ => false

/-- The entry of a pipe's register. -/
def pipeEntry (pipe : Pipe) (group : Group) (label : String) (register : PipeRegister) : Entry :=
  ⟨s!"{pipe.name}_{label}", .direct (pipe.register register), group, isSkipped pipe register⟩

/-- Entries of a pipe's block, its cursor apart. -/
def pipeEntries (pipe : Pipe) : List Entry :=
  rasterRegisters.map (fun (label, register) => pipeEntry pipe (.pipe pipe) label register) ++
    scalerSettings.map (fun (register, _) =>
      pipeEntry pipe (.pipe pipe) (scalerLabel (pipe.register register)) register) ++
    controlRegisters.map (fun (label, register) => pipeEntry pipe (.pipe pipe) label register)

/-- The registers of a converter. -/
def dacRegisters : List (String × BlockRegister) :=
  [("CNTL", .control), ("SOURCE_SELECT", .sourceSelect), ("BANDGAP", .bandgap),
    ("POWERDOWN", .powerDown)]

/-- The registers of a transmitter. -/
def tmdsRegisters : List (String × BlockRegister) :=
  [("CNTL", .control), ("SOURCE_SELECT", .sourceSelect), ("BIT_DEPTH_CONTROL", .bitDepth),
    ("DATA_SYNC", .dataSync), ("TRANSMITTER_ENABLE", .transmitterEnable),
    ("TRANSMITTER_CONTROL", .transmitterControl)]

/-- Entries of one encoder block. -/
def blockEntries (label : String) (block : EncoderBlock)
    (registers : List (String × BlockRegister)) : List Entry :=
  registers.map fun (name, register) =>
    ⟨s!"{label}_{name}", .direct (block.register register), .outputs, false⟩

/-- Entries of all encoders and of the panel's power sequencer. -/
def outputEntries : List Entry :=
  blockEntries "DAC1" .dac1 dacRegisters ++ blockEntries "TMDSA" .tmdsA tmdsRegisters ++
    blockEntries "DAC2" .dac2 dacRegisters ++ blockEntries "LVTMA" .lvtm tmdsRegisters ++
    [⟨"LVDS_PWRSEQ_CNTL", .direct panelSequencer, .outputs, false⟩]

/-- Every entry but the cursors'. -/
def displayEntries : List Entry :=
  memoryEntries ++ Pipe.all.flatMap pllEntries ++
    [⟨"CRTC_PLL_SOURCE", .direct clockSource, .pll, false⟩] ++
    Pipe.all.flatMap pipeEntries ++ outputEntries

/-- The cursors' entries. -/
def cursorEntries : List Entry :=
  Pipe.all.flatMap fun pipe =>
    cursorRegisters.map fun (label, register) => pipeEntry pipe .cursor label register

/-- Every register of the footprint, in the order in which it is written back. -/
def table : List Entry :=
  displayEntries ++ cursorEntries

/-- The name of the entry at a mapped offset. -/
def registerName? (offset : UInt32) : Option String :=
  (table.find? fun entry => entry.place = .direct ⟨offset⟩).map Entry.name

end Snapshot

/-- Saved register values, one for each entry of the table and in its order. -/
structure Snapshot where
  values : List UInt32
  deriving DecidableEq, Repr

namespace Snapshot

/-- The saved value of the entry of a name. -/
def get? (snapshot : Snapshot) (name : String) : Option UInt32 :=
  ((table.zip snapshot.values).find? fun (entry, _) => entry.name = name).map Prod.snd

/-- Read one entry. -/
def Place.read (device : Device) : Place → Hardware UInt32
  | direct register => Hardware.read register
  | aperture => Hardware.readController device.aperture

/-- Read some entries in order. -/
def readAll (device : Device) : List Entry → Hardware (List UInt32)
  | [] => return []
  | entry :: rest => do
    let value ← entry.place.read device
    let values ← readAll device rest
    return value :: values

/-- Read the whole footprint, the cursors first. -/
def save (device : Device) : Hardware Snapshot := do
  let cursors ← readAll device cursorEntries
  let display ← readAll device displayEntries
  Hardware.note .info (s!"saved {table.length} display registers")
  return ⟨display ++ cursors⟩

/-- Write one entry. The engine has to settle after the aperture moved. -/
def Place.write {σ : Type} (device : Device) (value : UInt32) : Place → Action σ Unit
  | direct register => Hardware.write register value
  | aperture => do
    Hardware.writeController device.aperture value
    device.waitIdle

/-- Write some entries in order, but for those that are skipped. -/
def writeBack {σ : Type} (device : Device) : List (Entry × UInt32) → Action σ Unit
  | [] => return
  | (entry, value) :: rest => do
    if !entry.skipped then
      entry.place.write device value
    writeBack device rest

/-- Write a snapshot back. -/
def restore {σ : Type} (device : Device) (snapshot : Snapshot) : Action σ Unit := do
  writeBack device (table.zip snapshot.values)
  Hardware.note .info "restored display registers"

end Snapshot

end Scanout
