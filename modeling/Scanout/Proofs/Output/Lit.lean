import Scanout.Proofs.Output.Sequence

/-!
Outputs that show a picture. Lighting some outputs is a list of writes, each of which belongs to one
of them. Where no two of them share a block, what a block ends with is therefore what its own output
put there, and every output is lit in the end.
-/

set_option autoImplicit false
set_option relaxedAutoImplicit false

namespace Scanout.Output

open Register

/-- An output is fed from a pipe, its encoder holds the settings of one that is on, and its panel
has power if it is the link to one. -/
structure Lit (id : Id) (pipe : Pipe) (file : RegisterFile) : Prop where
  source : file.value (id.register .sourceSelect) = pipe.index.toUInt32
  settings : file.Holds (blockWrites id true)
  enabled : file.value (id.register .control) &&& enableBit id ≠ 0
  powered : id.kind = .lvds → file.value panelSequencer &&& panelPowered ≠ 0

/-- The writes light some outputs: each belongs to one of the outputs, and every output is
reached. -/
structure Lights (pipe : Pipe) (ids : List Id) (writes : List (Direct × UInt32)) : Prop where
  belongs : ∀ entry ∈ writes, ∃ id ∈ ids, ∃ sequencer, entry ∈ lightWrites id pipe sequencer
  reaches : ∀ id ∈ ids, ∃ sequencer, ∀ entry ∈ lightWrites id pipe sequencer, entry ∈ writes

/-- No register of a block is written twice. -/
theorem nodup_blockWrites (id : Id) (on : Bool) : ((blockWrites id on).map Prod.fst).Nodup := by
  unfold blockWrites Output.settings Id.register
  rcases id.kind_block with
    ⟨hkind, hblock | hblock⟩ | ⟨hkind, hblock | hblock⟩ | ⟨hkind, hblock⟩ <;>
    rw [hkind, hblock] <;> cases on <;> decide

/-- The settings of a block are the only values that it is lit with. -/
theorem value_of_lightWrites {id : Id} {pipe : Pipe} {sequencer value : UInt32}
    {entry : Direct × UInt32} (hentry : entry ∈ blockWrites id true)
    (hmem : (entry.1, value) ∈ lightWrites id pipe sequencer) : value = entry.2 := by
  rcases List.mem_cons.mp hmem with hroute | hswitch
  · have hselect : entry.1 = id.register .sourceSelect := congrArg Prod.fst hroute
    exact absurd hselect (switchWrites_ne_sourceSelect id true 0 entry
      (mem_switchWrites.mpr (.inl hentry)))
  · rcases mem_switchWrites.mp hswitch with hblock | ⟨-, hpanel⟩
    · have hfirst := latest_of_mem (nodup_blockWrites id true) hblock
      have hsecond := latest_of_mem (nodup_blockWrites id true) hentry
      exact Option.some.inj (hfirst.symm.trans hsecond)
    · exact absurd (congrArg Prod.fst hpanel) (blockWrites_ne id true entry hentry)

variable {pipe : Pipe} {ids : List Id} {writes : List (Direct × UInt32)}

/-- Where no two outputs share a block, a register that an output is lit with ends with a value that
this output is lit with. -/
theorem Lights.value_mem (hlights : Lights pipe ids writes)
    (hapart : ∀ first ∈ ids, ∀ second ∈ ids, first.block = second.block → first = second)
    (file : RegisterFile) {id : Id} (hid : id ∈ ids) :
    ∃ reached, ∀ entry ∈ lightWrites id pipe reached, ∃ sequencer,
      (entry.1, (file.store writes).value entry.1) ∈ lightWrites id pipe sequencer := by
  obtain ⟨reached, hreached⟩ := hlights.reaches id hid
  refine ⟨reached, fun entry hentry ↦ ?_⟩
  obtain ⟨other, hother, sequencer, hmem⟩ :=
    hlights.belongs _ (file.mem_store ⟨entry.2, hreached _ hentry⟩)
  have hregion := region_lightWrites id pipe reached _ hentry
  rw [region_lightWrites other pipe sequencer _ hmem] at hregion
  obtain rfl := hapart other hother id hid (Region.encoder.inj hregion)
  exact ⟨sequencer, hmem⟩

/-- Outputs on different blocks do not get into each other's way. -/
theorem Lights.lit (hlights : Lights pipe ids writes)
    (hapart : ∀ first ∈ ids, ∀ second ∈ ids, first.block = second.block → first = second)
    (file : RegisterFile) : ∀ id ∈ ids, Lit id pipe (file.store writes) := by
  intro id hid
  obtain ⟨reached, hown⟩ := hlights.value_mem hapart file hid
  have hsettings : (file.store writes).Holds (blockWrites id true) := by
    intro entry hentry
    obtain ⟨sequencer, hmem⟩ := hown entry
      (List.mem_cons_of_mem _ (mem_switchWrites.mpr (.inl hentry)))
    exact value_of_lightWrites hentry hmem
  refine ⟨?_, hsettings, ?_, fun hkind ↦ ?_⟩
  · obtain ⟨sequencer, hmem⟩ := hown (routeWrite id pipe) List.mem_cons_self
    rcases List.mem_cons.mp hmem with hroute | hswitch
    · exact congrArg Prod.snd hroute
    · exact absurd rfl (switchWrites_ne_sourceSelect id true sequencer _ hswitch)
  · have hcontrol : (file.store writes).value (id.register .control) = controlValue id true :=
      hsettings (id.register .control, _) (List.mem_map.mpr ⟨_, (settings_spec id true).2, rfl⟩)
    rw [hcontrol]
    exact (controlValue_enabled id id true).mpr rfl
  · obtain ⟨sequencer, hmem⟩ := hown (panelSequencer, panelPower true reached)
      (List.mem_cons_of_mem _ (mem_switchWrites.mpr (.inr ⟨hkind, rfl⟩)))
    rcases List.mem_cons.mp hmem with hroute | hswitch
    · exact absurd (congrArg Prod.fst hroute).symm (register_ne_panelSequencer id.block _)
    · have hpower := sequencer_of_switchWrites id true sequencer _ hswitch rfl
      rw [show (file.store writes).value panelSequencer = _ from hpower]
      exact (panelPower_powered true sequencer).mpr rfl

/-- The writes for several outputs light them. -/
theorem lights_lightAllWrites (pipe : Pipe) (ids : List Id) (sequencer : UInt32) :
    Lights pipe ids (lightAllWrites pipe ids sequencer) where
  belongs _ := exists_of_mem_eachWrites
  reaches := mem_eachWrites sequencer

end Scanout.Output
