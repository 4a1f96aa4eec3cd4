import Scanout.Register.Ddc
import Scanout.Register.Encoder
import Scanout.Register.Pipe

/-!
The address map of the device, as a partition of all offsets. Registers of different regions are
different registers, so code that stays inside one region leaves the others alone; no pair of
offsets is compared anywhere else.

Two blocks of the map interleave: the PLLs are not evenly spaced, and the engine status lies among
the registers of the first pipe. `EncoderBlock.has` keeps converters and transmitters apart, whose
registers would overlap if one block were given the other's.
-/

set_option autoImplicit false
set_option relaxedAutoImplicit false

namespace Scanout.Register

/-- A part of the address map. -/
inductive Region where
  /-- The window onto the memory controller. -/
  | window
  /-- The legacy core. -/
  | legacy
  | pll (pipe : Pipe)
  /-- The choice of the PLL for each pipe. -/
  | clock
  | status
  | pipe (pipe : Pipe)
  | encoder (block : EncoderBlock)
  /-- The monitor channel. -/
  | monitor
  deriving DecidableEq, Repr

/-- The pipe whose PLL an offset in the PLL blocks belongs to. -/
def pllOwner (offset : UInt32) : Pipe :=
  if PllRegister.all.any fun register ↦ Pipe.second.pll register = ⟨offset⟩ then .second
  else .first

/-- The region that an offset lies in. -/
def region (offset : UInt32) : Region :=
  if offset < 0x0300 then .window
  else if offset < 0x0400 then .legacy
  else if offset < 0x0480 then .pll (pllOwner offset)
  else if offset < 0x6000 then .clock
  else if offset = engineStatus.offset then .status
  else if offset < 0x6800 then .pipe .first
  else if offset < 0x7800 then .pipe .second
  else if offset < 0x7880 then .encoder .dac1
  else if offset < 0x7A00 then .encoder .tmdsA
  else if offset < 0x7A80 then .encoder .dac2
  else if offset < 0x7D00 then .encoder .lvtm
  else .monitor

/-- Registers of the region hold what was last written to them. -/
def Region.isStored : Region → Bool
  | window | status | monitor => false
  | legacy | pll _ | clock | pipe _ | encoder _ => true

/-- The register belongs to a block of this kind. -/
def EncoderBlock.has : EncoderBlock → BlockRegister → Bool
  | _, .control | _, .sourceSelect => true
  | dac1, .bandgap | dac1, .powerDown | dac2, .bandgap | dac2, .powerDown => true
  | tmdsA, .bitDepth | tmdsA, .dataSync | tmdsA, .transmitterEnable
  | tmdsA, .transmitterControl | lvtm, .bitDepth | lvtm, .dataSync | lvtm, .transmitterEnable
  | lvtm, .transmitterControl => true
  | _, _ => false

@[simp] theorem region_pipe (pipe : Pipe) (register : PipeRegister) :
    region (pipe.register register).offset = .pipe pipe := by
  cases pipe <;> cases register <;> rfl

@[simp] theorem region_pll (pipe : Pipe) (register : PllRegister) :
    region (pipe.pll register).offset = .pll pipe := by
  cases pipe <;> cases register <;> rfl

theorem region_encoder {block : EncoderBlock} {register : BlockRegister}
    (hhas : block.has register = true) :
    region (block.register register).offset = .encoder block := by
  cases block <;> cases register <;> first | rfl | cases hhas

/-- Every block has the first two registers. -/
theorem EncoderBlock.has_common (block : EncoderBlock) :
    block.has .control = true ∧ block.has .sourceSelect = true := by
  cases block <;> decide

@[simp] theorem region_control (block : EncoderBlock) :
    region (block.register .control).offset = .encoder block :=
  region_encoder block.has_common.1

@[simp] theorem region_sourceSelect (block : EncoderBlock) :
    region (block.register .sourceSelect).offset = .encoder block :=
  region_encoder block.has_common.2

/-- No other register of a block is in the place of one of its first two. -/
theorem eq_common {block : EncoderBlock} {register common : BlockRegister}
    (hcommon : common = .control ∨ common = .sourceSelect)
    (heq : block.register register = block.register common) : register = common := by
  revert heq
  rcases hcommon with rfl | rfl <;> cases block <;> cases register <;> decide

/-- No register of a block is the power sequencer. -/
theorem register_ne_panelSequencer (block : EncoderBlock) (register : BlockRegister) :
    block.register register ≠ panelSequencer := by
  cases block <;> cases register <;> decide

@[simp] theorem region_panelSequencer : region panelSequencer.offset = .encoder .lvtm := rfl

@[simp] theorem region_clockSource : region clockSource.offset = .clock := rfl

@[simp] theorem region_vga1Control : region vga1Control.offset = .legacy := rfl

@[simp] theorem region_vga2Control : region vga2Control.offset = .legacy := rfl

@[simp] theorem region_vgaMemoryBase : region vgaMemoryBase.offset = .legacy := rfl

@[simp] theorem region_vgaSurfaceStart : region vgaSurfaceStart.offset = .legacy := rfl

@[simp] theorem region_engineStatus : region engineStatus.offset = .status := rfl

@[simp] theorem region_controllerIndex : region controllerIndex.offset = .window := rfl

@[simp] theorem region_controllerData : region controllerData.offset = .window := rfl

/-- The monitor channel is the end of the map. -/
theorem region_eq_monitor {offset : UInt32} : region offset = .monitor ↔ 0x7D00 ≤ offset := by
  constructor
  · intro hregion
    refine UInt32.not_lt.mp fun hlt ↦ ?_
    by_cases hlow : offset < 0x6000
    · by_cases hwindow : offset < 0x0400
      · grind [region]
      · grind [region]
    · grind [region]
  · intro hle
    have hfar : ∀ bound ≤ (0x7D00 : UInt32), ¬offset < bound := fun bound hbound ↦
      UInt32.not_lt.mpr (UInt32.le_trans hbound hle)
    have hstatus : offset ≠ engineStatus.offset := by
      rintro rfl
      exact absurd hle (by decide)
    unfold region
    iterate 4 rw [if_neg (hfar _ (by decide))]
    rw [if_neg hstatus]
    iterate 6 rw [if_neg (hfar _ (by decide))]

/-- Registers of different regions are different. -/
theorem ne_of_region {first second : Direct}
    (hregion : region first.offset ≠ region second.offset) : first ≠ second :=
  fun heq ↦ hregion (by rw [heq])

/-- The registers of a pipe. -/
def PipeRegister.all : List PipeRegister :=
  [hTotal, hBlank, hSyncWidth, hSyncPolarity, vTotal, vBlank, vSyncWidth, vSyncPolarity, control,
    blankControl, interlaceControl, control60C0, scanEnable, surfaceFormat, surfaceLocation,
    surfaceEnd, pitch, xLength, yLength, mode, surfaceHeight, offsetStart, offsetEnd,
    expansionSource, expansionControl, scaler6594, scaler659C, scaler65A4, scaler65A8, scaler65AC,
    scaler65B0, scaler65B8, scaler65BC, scaler65C0, scaler65C8, cursorControl, cursorLocation,
    cursorSize, cursorPosition]

/-- A register of a pipe is found by its offset. -/
theorem PipeRegister.find_offset (register : PipeRegister) :
    all.find? (fun other ↦ other.offset = register.offset) = some register := by
  cases register <;> rfl

theorem PipeRegister.offset_injective {first second : PipeRegister}
    (hoffset : first.offset = second.offset) : first = second := by
  have hfound : some first = some second := by
    rw [← find_offset first, ← find_offset second, hoffset]
  exact Option.some.inj hfound

theorem pipe_register_injective (pipe : Pipe) (first second : PipeRegister)
    (heq : pipe.register first = pipe.register second) : first = second := by
  have hoffset := congrArg Direct.offset heq
  simp only [Pipe.register, UInt32.add_left_inj] at hoffset
  exact PipeRegister.offset_injective hoffset

/-!
Telling many registers apart at once. Comparing each with each would take long, so their offsets are
collected in a mask instead.
-/

/-- No number occurs twice in a list, nor has its bit set in a mask. -/
def distinct : List Nat → Nat → Bool
  | [], _ => true
  | key :: rest, seen => !seen.testBit key && distinct rest (seen ||| 1 <<< key)

theorem nodup_of_distinct {keys : List Nat} {seen : Nat} (hdistinct : distinct keys seen = true) :
    keys.Nodup ∧ ∀ key ∈ keys, seen.testBit key = false := by
  induction keys generalizing seen with
  | nil => exact ⟨List.nodup_nil, by simp⟩
  | cons key rest ih =>
    rw [distinct, Bool.and_eq_true, Bool.not_eq_true'] at hdistinct
    obtain ⟨hclear, hrest⟩ := hdistinct
    obtain ⟨hnodup, hmarked⟩ := ih hrest
    have hmark : (seen ||| 1 <<< key).testBit key = true := by
      simp [Nat.testBit_or]
    refine ⟨List.nodup_cons.mpr ⟨fun hmem ↦ ?_, hnodup⟩, fun other hother ↦ ?_⟩
    · rw [hmarked key hmem] at hmark
      cases hmark
    · rcases List.mem_cons.mp hother with rfl | hother
      · exact hclear
      · have hboth := hmarked other hother
        rw [Nat.testBit_or, Bool.or_eq_false_iff] at hboth
        exact hboth.1

theorem nodup_of_offsets {registers : List Direct}
    (hdistinct : distinct (registers.map fun register ↦ register.offset.toNat) 0 = true) :
    registers.Nodup :=
  List.Pairwise.of_map _ (fun _ _ hne heq ↦ hne (by rw [heq])) (nodup_of_distinct hdistinct).1

end Scanout.Register
