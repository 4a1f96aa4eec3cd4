import Scanout.Error
import Scanout.Pll
import Scanout.Register.Address

/-!
# Chips

Every device that can be driven, by its identifier on the bus. Families fall into two generations
that differ in where the memory controller keeps its aperture register.
-/

set_option autoImplicit false
set_option relaxedAutoImplicit false

namespace Scanout

open Register

/-- Chip family. -/
inductive Chip.Family where
  | r520
  | rv505
  | rv515
  | rv516
  | rv530
  | rv535
  | rv570
  | r580
  deriving DecidableEq, Repr

/-- Register layout generation. -/
inductive Chip.Generation where
  | rv515
  | r520
  deriving DecidableEq, Repr

/-- A device that can be driven. -/
structure Chip where
  device : UInt16
  name : String
  family : Chip.Family
  /-- The second digital transmitter drives an internal panel. -/
  mobile : Bool
  deriving DecidableEq, Repr

namespace Chip

/-- The family's written name. -/
def Family.name : Family → String
  | r520 => "R520"
  | rv505 => "Rv505"
  | rv515 => "Rv515"
  | rv516 => "Rv516"
  | rv530 => "Rv530"
  | rv535 => "Rv535"
  | rv570 => "Rv570"
  | r580 => "R580"

/-- The generation that a family belongs to. -/
def Family.generation : Family → Generation
  | rv505 | rv515 | rv516 => .rv515
  | r520 | rv530 | rv535 | rv570 | r580 => .r520

/-- The generation's written name. -/
def Generation.name : Generation → String
  | rv515 => "Rv515"
  | r520 => "R520"

/-- The memory controller register that holds the aperture. -/
def Generation.aperture : Generation → Controller
  | rv515 => ⟨0x0001⟩
  | r520 => ⟨0x0004⟩

/-- The dividers that the generation's PLLs accept. -/
def Generation.pllLimits : Generation → Pll.Limits
  | rv515 | r520 => {}

/-- The chip's generation. -/
def generation (chip : Chip) : Generation :=
  chip.family.generation

/-- Every chip that can be driven. -/
def table : List Chip :=
  [⟨0x7100, "R520", .r520, false⟩,
    ⟨0x7102, "R520 M58", .r520, true⟩,
    ⟨0x7103, "R520 M58", .r520, true⟩,
    ⟨0x7104, "R520", .r520, false⟩,
    ⟨0x7105, "R520", .r520, false⟩,
    ⟨0x7106, "R520 M58", .r520, true⟩,
    ⟨0x7108, "R520 M58", .r520, true⟩,
    ⟨0x7109, "R520", .r520, false⟩,
    ⟨0x710A, "R520", .r520, false⟩,
    ⟨0x710B, "R520", .r520, false⟩,
    ⟨0x710C, "R520", .r520, false⟩,
    ⟨0x7140, "RV515", .rv515, false⟩,
    ⟨0x7142, "RV515 PRO", .rv515, false⟩,
    ⟨0x7143, "RV505", .rv505, false⟩,
    ⟨0x7145, "RV515", .rv515, false⟩,
    ⟨0x7146, "RV515", .rv515, false⟩,
    ⟨0x7147, "RV505", .rv505, false⟩,
    ⟨0x7149, "RV515 M52", .rv515, true⟩,
    ⟨0x714A, "RV515 M52", .rv515, true⟩,
    ⟨0x714B, "RV515 M52", .rv515, true⟩,
    ⟨0x714C, "RV515 M52", .rv515, true⟩,
    ⟨0x714D, "RV515", .rv515, false⟩,
    ⟨0x714E, "RV515 LE", .rv515, false⟩,
    ⟨0x7152, "RV515 GL", .rv515, false⟩,
    ⟨0x7153, "RV515 GL", .rv515, false⟩,
    ⟨0x715E, "RV515", .rv515, false⟩,
    ⟨0x715F, "RV505 CE", .rv505, false⟩,
    ⟨0x7180, "RV516", .rv516, false⟩,
    ⟨0x7181, "RV516 XT", .rv516, false⟩,
    ⟨0x7183, "RV516", .rv516, false⟩,
    ⟨0x7187, "RV516", .rv516, false⟩,
    ⟨0x7188, "RV515 M64", .rv515, true⟩,
    ⟨0x718A, "RV515 M64", .rv515, true⟩,
    ⟨0x718C, "RV515 M62", .rv515, true⟩,
    ⟨0x718D, "RV515 M64", .rv515, true⟩,
    ⟨0x7193, "RV516", .rv516, false⟩,
    ⟨0x719F, "RV516 LE", .rv516, false⟩,
    ⟨0x71C0, "RV530", .rv530, false⟩,
    ⟨0x71C2, "RV530", .rv530, false⟩,
    ⟨0x71C4, "RV530 M56", .rv530, true⟩,
    ⟨0x71C5, "RV530 M56", .rv530, true⟩,
    ⟨0x71C6, "RV530 LE", .rv530, false⟩,
    ⟨0x71C7, "RV535", .rv535, false⟩,
    ⟨0x71CE, "RV530 LE", .rv530, false⟩,
    ⟨0x71D4, "RV530 M56", .rv530, true⟩,
    ⟨0x71D5, "RV530 M66", .rv530, true⟩,
    ⟨0x71D6, "RV530 M66", .rv530, true⟩,
    ⟨0x71DE, "RV530 LE", .rv530, false⟩,
    ⟨0x71E7, "RV535", .rv535, false⟩,
    ⟨0x7240, "R580", .r580, false⟩,
    ⟨0x7241, "R580", .r580, false⟩,
    ⟨0x7242, "R580", .r580, false⟩,
    ⟨0x7243, "R580", .r580, false⟩,
    ⟨0x7244, "R580", .r580, false⟩,
    ⟨0x7245, "R580", .r580, false⟩,
    ⟨0x7246, "R580", .r580, false⟩,
    ⟨0x7247, "R580", .r580, false⟩,
    ⟨0x7248, "R580", .r580, false⟩,
    ⟨0x7249, "R580", .r580, false⟩,
    ⟨0x724A, "R580", .r580, false⟩,
    ⟨0x724B, "R580", .r580, false⟩,
    ⟨0x724C, "R580", .r580, false⟩,
    ⟨0x724D, "R580", .r580, false⟩,
    ⟨0x726B, "R580", .r580, false⟩,
    ⟨0x7280, "RV570", .rv570, false⟩,
    ⟨0x7288, "RV570", .rv570, false⟩,
    ⟨0x7291, "RV530", .rv530, false⟩,
    ⟨0x7293, "RV530", .rv530, false⟩]

/-- The chip of a device identifier. -/
def lookup (device : UInt16) : Except Error Chip :=
  match table.find? fun chip => chip.device = device with
  | some chip => .ok chip
  | none => .error (.unsupportedChip device)

end Chip

end Scanout
