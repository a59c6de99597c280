import SolanaWire.DecoderRegistry
import SolanaWire.Journal

/-!
# The tables of a decoder registry

A registry keeps its decoders in one table and the names of the programs in another.  A registration
writes both, the decoder first.
-/
namespace SolanaWire

/-- The decoders of some programs and the names of the programs. -/
structure DecoderTables where
  decoders : KeyTable Decoder := {}
  names : KeyTable String := {}

namespace DecoderTables

/-- The decoder of a program. -/
def get? (t : DecoderTables) (program : Key) : Option Decoder := t.decoders.get? program

/-- The name of a program. -/
def nameOf? (t : DecoderTables) (program : Key) : Option String := t.names.get? program

/-- The programs, in the order of their registration. -/
def programs (t : DecoderTables) : List Key := t.decoders.keys

/-- Whether a program has a decoder. -/
def contains (t : DecoderTables) (program : Key) : Bool := t.decoders.contains program

/-- The number of programs. -/
def size (t : DecoderTables) : Nat := t.decoders.size

/-- Writes the decoder of a program. -/
def setDecoder (t : DecoderTables) (program : Key) (decoder : Decoder) : DecoderTables :=
  { t with decoders := t.decoders.set program decoder }

/-- Writes the name of a program. -/
def setName (t : DecoderTables) (program : Key) (name : String) : DecoderTables :=
  { t with names := t.names.set program name }

/-- The name that a program must have by now.  A program without a name is a missing key. -/
def knownName (program : Key) : Procedure Unit DecoderTables String := do
  match (← Procedure.state).nameOf? program with
  | some name => return name
  | none => throw (.undescribed .missingKey)

/-- Registers the decoder of a program that has none yet, and logs it. -/
def register (program : Key) (decoder : Decoder) (name : Option String) :
    Procedure Unit DecoderTables Unit := do
  if (← Procedure.state).contains program then
    let first ← knownName program
    throw (DecoderConflict.failure ⟨program, first⟩)
  Procedure.update (setDecoder · program decoder)
  Procedure.update (setName · program (DecoderRegistry.nameFor program name))
  let shown ← knownName program
  Procedure.log .debug .decoderRegistry s!"Registered decoder for {shown} ({program.text})"

end DecoderTables

/-- A call that registers a decoder. -/
structure RegisterCall where
  program : Key
  decoder : Decoder
  name : Option String

namespace RegisterCall

/-- The name that the program of a call is registered under. -/
def shownName (c : RegisterCall) : String := DecoderRegistry.nameFor c.program c.name

/-- What a call does with the tables of a registry. -/
def perform (c : RegisterCall) : Procedure Unit DecoderTables Unit :=
  DecoderTables.register c.program c.decoder c.name

/-- Makes some calls, the earliest first.  A call that fails does not keep the others from being
made. -/
def performAll (calls : List RegisterCall) (w : World Unit DecoderTables) :
    World Unit DecoderTables :=
  calls.foldl (fun w c => (c.perform w).2) w

end RegisterCall

/-- The registry after some calls, the earliest first. -/
def DecoderRegistry.registerEach (r : DecoderRegistry) (calls : List RegisterCall) :
    DecoderRegistry :=
  calls.foldl (fun r c => (r.register c.program c.decoder c.name).toOption.getD r) r

end SolanaWire
