import SolanaWire.Builtin
import SolanaWire.Instruction.Decode
import SolanaWire.KeyTable
import SolanaWire.Log

/-!
# Decoder registries

A registry says for each program how its instructions are decoded and what the program is called.
The first registration of a program stands; a later one is refused and changes nothing.
-/
namespace SolanaWire

/-- Turns accounts and data into an instruction. -/
abbrev Decoder := List Account → List UInt8 → Except Failure Instruction

/-- What a registry knows about a program. -/
structure DecoderEntry where
  name : String
  decoder : Decoder

/-- The decoders of some programs. -/
abbrev DecoderRegistry := KeyTable DecoderEntry

/-- A program that already has a decoder, with the name that it was registered under. -/
structure DecoderConflict where
  program : Key
  name : String
  deriving DecidableEq

/-- The failure of a second registration. -/
def DecoderConflict.failure (c : DecoderConflict) : Failure :=
  .report
    { facts := .configuration
      message := s!"a decoder is already registered for program {c.program.text}"
      details := .record [("program_id", .text c.program.text), ("name", .text c.name)] }

/-- The decoder of a program with a definition. -/
def Program.decoder (program : Program) : Decoder := fun accounts data =>
  match program.decode accounts data with
  | .ok i => .ok (.structured i)
  | .error fault => .error (fault.failure program)

namespace DecoderRegistry

/-- The name that a program is registered under: its text where no name is given. -/
def nameFor (program : Key) (name : Option String) : String :=
  match name with
  | some name => if name.isEmpty then program.text else name
  | none => program.text

/-- Registers the decoder of a program that has none yet. -/
def register (r : DecoderRegistry) (program : Key) (decoder : Decoder) (name : Option String) :
    Except DecoderConflict DecoderRegistry :=
  match r.get? program with
  | some entry => .error ⟨program, entry.name⟩
  | none => .ok (KeyTable.set r program ⟨nameFor program name, decoder⟩)

/-- The log line of a registration. -/
def registered (program : Key) (name : Option String) : LogLine :=
  ⟨.debug, .decoderRegistry,
    s!"Registered decoder for {nameFor program name} ({program.text})"⟩

/-- The name of a registered program. -/
def nameOf? (r : DecoderRegistry) (program : Key) : Option String :=
  (r.get? program).map (·.name)

/-- Registers some programs one after the other, up to the first that is already registered.  The
log lines are those of the programs that were added. -/
def registerAll (r : DecoderRegistry) :
    List Program → DecoderRegistry × Option DecoderConflict × List LogLine
  | [] => (r, none, [])
  | p :: ps =>
    match r.register p.id p.decoder (some p.name) with
    | .error conflict => (r, some conflict, [])
    | .ok r =>
      let (r, conflict, log) := registerAll r ps
      (r, conflict, registered p.id (some p.name) :: log)

/-- Registers the built-in programs. -/
def registerBuiltin (r : DecoderRegistry) :
    DecoderRegistry × Option DecoderConflict × List LogLine :=
  r.registerAll Builtin.programs

/-- The registry of the built-in programs. -/
def builtin : DecoderRegistry := (registerBuiltin KeyTable.empty).1

end DecoderRegistry
end SolanaWire
