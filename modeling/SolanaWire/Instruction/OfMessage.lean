import SolanaWire.DecoderRegistry

/-!
# The instructions of a message

Each instruction of a message is decoded by the decoder that its program is registered with, and
kept unparsed where there is none.  Decoding all of them stops at the first that fails.
-/
namespace SolanaWire

/-- Why an instruction of a message cannot be had. -/
inductive MessageFault
  | unresolved (fault : IndexFault)
  | rejected (program : Key) (name : String) (index : Int) (cause : Failure)

namespace MessageFault

/-- The reason for which a decoder refused: the message of a report about instruction data, and
the whole text of anything else. -/
def reason (cause : Failure) : String :=
  match cause.fault with
  | .reported ⟨.instructionDecode .., message, _⟩ => message
  | fault => fault.text

/-- The failure that the fault is. -/
def failure : MessageFault → Failure
  | unresolved fault => fault.failure
  | rejected program name index cause =>
    .because (.instructionDecode
      s!"unable to decode instruction {index} for program {name}: {reason cause}"
      (.key program) (.int index) [("program", .text name)]) cause

end MessageFault

namespace Message

/-- Decodes the instruction at a position. -/
def decode (r : DecoderRegistry) (m : Message) (index : Int) :
    Except MessageFault Instruction := do
  let compiled ← (m.instructionAt index).mapError .unresolved
  let (accounts, program) ← (m.resolve index).mapError .unresolved
  match r.get? program with
  | none => return .unparsed ⟨program, accounts, compiled.data⟩
  | some entry =>
    (entry.decoder accounts compiled.data).mapError (.rejected program entry.name index)

/-- The instruction decoded by the built-in programs. -/
def decodeBuiltin (m : Message) (index : Int) : Except MessageFault Instruction :=
  m.decode .builtin index

/-- Decodes the instructions at some positions, up to the first that fails. -/
def decodeEach (r : DecoderRegistry) (m : Message) :
    List Int → Except MessageFault (List Instruction)
  | [] => .ok []
  | index :: rest => do
    let i ← m.decode r index
    let is ← decodeEach r m rest
    return i :: is

/-- The positions of the instructions. -/
def positions (m : Message) : List Int := (List.range m.instructions.length).map Int.ofNat

/-- Decodes every instruction in order, up to the first that fails. -/
def decodeAll (r : DecoderRegistry) (m : Message) : Except MessageFault (List Instruction) :=
  m.decodeEach r m.positions

/-- What decoding the instruction at a position logs: that its program is not registered, or that
its decoder refused the data. -/
def decodeLog (r : DecoderRegistry) (m : Message) (index : Int) : List LogLine :=
  match m.resolve index with
  | .error _ => []
  | .ok (_, program) =>
    match r.get? program, m.decode r index with
    | none, _ => [⟨.debug, .messageDecoder,
      withContext "No decoder registered, keeping instruction opaque"
        [("program_id", .key program), ("index", .int index)]⟩]
    | some _, .error (.rejected _ name _ cause) => [⟨.debug, .messageDecoder,
      withContext "Instruction data rejected by decoder"
        [("program", .text name), ("index", .int index),
          ("reason", .text (MessageFault.reason cause))]⟩]
    | some _, _ => []

/-- What decoding the instructions at some positions logs. -/
def decodeEachLog (r : DecoderRegistry) (m : Message) : List Int → List LogLine
  | [] => []
  | index :: rest =>
    m.decodeLog r index ++
      (match m.decode r index with
        | .ok _ => decodeEachLog r m rest
        | .error _ => [])

/-- What decoding every instruction logs. -/
def decodeAllLog (r : DecoderRegistry) (m : Message) : List LogLine :=
  m.decodeEachLog r m.positions

end Message
end SolanaWire
