import Landmark.Proofs.LoadedModule.Lookup
import Landmark.Proofs.LoadedModule.Specimen
import Landmark.Proofs.Symbol.Outcome

/-! # Where the symbols lie

Each search looks whether an address lies in the module before it ends. Three of them
look at the addresses they give away. The search for the globals looks at what is
compared with zero and gives away the start of the globals, a configured distance in
front of it, which may lie anywhere below.
-/

namespace Landmark

open Log

namespace Symbol

/-- What a search vouches for when it succeeds: every address it gives away lies strictly in a
segment, except that for the globals it is the one compared with zero that does. -/
theorem resolved_inside [Decoder] (owner : LoadedModule) (config : Config) :
    (∀ found, (Notifier.resolve owner config).result = .ok found →
      owner.Inside found.instance ∧ owner.Inside found.notify) ∧
    (∀ start, (Globals.resolve owner config).result = .ok start →
      owner.Inside (start + config.globals.playerFieldOffset)) ∧
    (∀ target, (Player.resolve owner config).result = .ok target → owner.Inside target) ∧
    (∀ accessor, (Cvar.resolve owner config).result = .ok accessor → owner.Inside accessor) := by
  refine ⟨?_, ?_, ?_, ?_⟩
  · intro found resolved
    obtain ⟨_, _, _, _, _, _, _, _, _, _, _, _, _, _, inside, told⟩ :=
      Notifier.resolve_eq_ok_iff.mp resolved
    exact ⟨LoadedModule.inside_of_contains inside, LoadedModule.inside_of_contains told⟩
  · intro start resolved
    obtain ⟨_, _, _, _, _, inside⟩ := Globals.resolve_eq_ok_iff.mp resolved
    exact LoadedModule.inside_of_contains inside
  · intro target resolved
    obtain ⟨_, _, _, _, _, _, _, _, _, _, inside⟩ := Player.resolve_eq_ok_iff.mp resolved
    exact LoadedModule.inside_of_contains inside
  · intro accessor resolved
    obtain ⟨_, _, _, _, _, _, _, _, _, _, _, _, _, _, _, _, inside⟩ :=
      Cvar.resolve_eq_ok_iff.mp resolved
    exact LoadedModule.inside_of_contains inside

/-- Code that compares an address of the section behind it with zero. -/
def comparingImage : Image.View :=
  Specimen.image "?launchUpdate@Block@@AAE_NI@Z"
    ([0xCC, 0x83, 0x3D, 0x71, 0x01, 0x40, 0x00, 0x00] ++ List.replicate 8 0xCC) [0, 0, 0, 0]

def distantGlobals : Config := { globals := { playerFieldOffset := 0x1000 } }

/-- The start of the globals may lie in no segment, and even in front of the image. -/
theorem globals_start_outside :
    ∃ owner start, (LoadedModule.load "host.exe" comparingImage {}).result = .ok owner ∧
      distantGlobals.validate = .ok () ∧
      (Globals.resolve owner distantGlobals).result = .ok start ∧
      ¬owner.Inside start ∧ start < comparingImage.base := by
  have computed : (LoadedModule.openInOrder? "host.exe" comparingImage {}).any (fun owner =>
      (Globals.resolve owner distantGlobals).result.toOption = some 0x3FF171 ∧
      ∀ segment ∈ owner.segments, ¬segment.base < 0x3FF171) = true := by decide +kernel
  obtain ⟨owner, opened, holds⟩ := (Option.any_eq_true _ _).mp computed
  obtain ⟨resolved, above⟩ := of_decide_eq_true holds
  refine ⟨owner, 0x3FF171, LoadedModule.load_of_openInOrder? opened, rfl,
    toOption_eq_some_iff.mp resolved, ?_, by decide⟩
  rintro ⟨segment, member, below, _⟩
  exact above segment member below

end Symbol

end Landmark
