import Landmark.Config.Basic

/-! # Configurations that can be used

What validation asks for, as facts that the searches rely on far from where they were
checked: windows are multiples of an alignment that is a power of two, and the calls
that are looked at are among those that have to be there.
-/

namespace Landmark.Config

variable {config : Config}

structure Valid (config : Config) : Prop where
  power : EntryConvention.isPowerOfTwo config.entries.alignment = true
  notifierWindow : config.notifier.entryWindow % config.entries.alignment = 0
  cvarWindow : config.cvar.entryWindow % config.entries.alignment = 0
  instructions : config.parser.maxInstructions ≠ 0
  resultIndex : config.player.resultIndex < config.player.minCalls
  gettextIndex : config.player.gettextIndex < config.player.minCalls

theorem passed_iff {failing : Prop} [Decidable failing] {fault : ConfigFault}
    {later : Option ConfigFault} :
    (if failing then some fault else later) = none ↔ ¬failing ∧ later = none := by
  split
  · next fails => simp [fails]
  · next passes => simp [passes]

theorem fault?_eq_none_iff : config.fault? = none ↔ config.Valid := by
  simp only [fault?, passed_iff, Bool.not_eq_true', Bool.not_eq_false, ne_eq, not_or,
    Decidable.not_not, Nat.not_le, and_true]
  constructor
  · rintro ⟨power, notifier, cvar, instructions, result, gettext⟩
    exact ⟨power, notifier, cvar, instructions, result, gettext⟩
  · intro valid
    exact ⟨valid.power, valid.notifierWindow, valid.cvarWindow, valid.instructions,
      valid.resultIndex, valid.gettextIndex⟩

theorem validate_eq_ok_iff : config.validate = .ok () ↔ config.Valid := by
  rw [← fault?_eq_none_iff, validate]
  cases config.fault? <;> simp

end Landmark.Config
