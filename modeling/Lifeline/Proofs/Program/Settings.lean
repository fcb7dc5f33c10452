import Lifeline.Proofs.Basic
import Lifeline.Proofs.Terminal.Rehearsal
/-! The settings that a run works with. A configuration file offers its settings if it is read and
accepted, and otherwise the standard ones stand in, so the overrides of the command line always meet
settings that were accepted. No override but a blank host can spoil these: either the run is refused
and never has a client, or its client is started with settings that it can work with. -/
namespace Lifeline

open CommandLine (ConnectArgs)

namespace ConnectionConfig

variable {args : ConnectArgs} {base c : ConnectionConfig}

theorem validate_standard : standard.validate = .ok () :=
  validate_eq_ok_iff.mpr ⟨by decide +kernel, by decide, by decide, by decide⟩

end ConnectionConfig

namespace Config

/-- Loading ends with the check, whatever was read. -/
theorem validate_of_load {content : Except String (List UInt8)} {c : Config}
    (h : load content = .ok c) : c.connection.validate = .ok () := by
  obtain ⟨bytes, -, h⟩ := Except.bind_eq_ok_iff.mp h
  obtain ⟨s, -, h⟩ := Except.bind_eq_ok_iff.mp h
  obtain ⟨c', -, h⟩ := Except.bind_eq_ok_iff.mp h
  obtain ⟨_, hvalid, h⟩ := Except.bind_eq_ok_iff.mp h
  cases h
  exact Except.mapError_eq_ok_iff.mp hvalid

end Config

namespace Program

/-- The configuration that a file leads to, and what is said about it on the way. -/
inductive Offers (path : String) (content : Except String (List UInt8)) :
    Config → List String → Prop
  | loaded {c : Config} (h : Config.load content = .ok c) : Offers path content c []
  | standard {e : LoadError} (h : Config.load content = .error e) :
      Offers path content .standard
        ["Warning: Could not load config from " ++ path ++ ": " ++ e.message,
          "Using default configuration"]

theorem Offers.validate {path : String} {content : Except String (List UInt8)} {c : Config}
    {warnings : List String} (h : Offers path content c warnings) :
    c.connection.validate = .ok () := by
  cases h with
  | loaded h => exact Config.validate_of_load h
  | standard h => exact ConnectionConfig.validate_standard

end Program

end Lifeline
