import SolanaWire.Text.Label

/-!
# Kinds of instruction errors

The errors that the runtime names when an instruction fails.
-/
namespace SolanaWire

/-- A named instruction error. -/
inductive InstructionErrorKind
  | genericError
  | invalidArgument
  | invalidInstructionData
  | invalidAccountData
  | accountDataTooSmall
  | insufficientFunds
  | incorrectProgramId
  | missingRequiredSignature
  | accountAlreadyInitialized
  | uninitializedAccount
  | unbalancedInstruction
  | modifiedProgramId
  | externalAccountLamportSpend
  | externalAccountDataModified
  | readonlyLamportChange
  | readonlyDataModified
  | duplicateAccountIndex
  | executableModified
  | rentEpochModified
  | notEnoughAccountKeys
  | accountDataSizeChanged
  | accountNotExecutable
  | accountBorrowFailed
  | accountBorrowOutstanding
  | duplicateAccountOutOfSync
  | invalidError
  | executableDataModified
  | executableLamportChange
  | executableAccountNotRentExempt
  | unsupportedProgramId
  | callDepth
  | missingAccount
  | reentrancyNotAllowed
  | maxSeedLengthExceeded
  | invalidSeeds
  | invalidRealloc
  | computationalBudgetExceeded
  | privilegeEscalation
  | programEnvironmentSetupFailure
  | programFailedToComplete
  | programFailedToCompile
  | immutable
  | incorrectAuthority
  | accountNotRentExempt
  | invalidAccountOwner
  | arithmeticOverflow
  | unsupportedSysvar
  | illegalOwner
  | maxAccountsDataAllocationsExceeded
  | maxAccountsExceeded
  | maxInstructionTraceLengthExceeded
  | builtinProgramsMustConsumeComputeUnits
  deriving DecidableEq

namespace InstructionErrorKind

/-- Every kind. -/
def all : List InstructionErrorKind :=
  [genericError, invalidArgument, invalidInstructionData, invalidAccountData, accountDataTooSmall,
    insufficientFunds, incorrectProgramId, missingRequiredSignature, accountAlreadyInitialized,
    uninitializedAccount, unbalancedInstruction, modifiedProgramId, externalAccountLamportSpend,
    externalAccountDataModified, readonlyLamportChange, readonlyDataModified,
    duplicateAccountIndex, executableModified, rentEpochModified, notEnoughAccountKeys,
    accountDataSizeChanged, accountNotExecutable, accountBorrowFailed, accountBorrowOutstanding,
    duplicateAccountOutOfSync, invalidError, executableDataModified, executableLamportChange,
    executableAccountNotRentExempt, unsupportedProgramId, callDepth, missingAccount,
    reentrancyNotAllowed, maxSeedLengthExceeded, invalidSeeds, invalidRealloc,
    computationalBudgetExceeded, privilegeEscalation, programEnvironmentSetupFailure,
    programFailedToComplete, programFailedToCompile, immutable, incorrectAuthority,
    accountNotRentExempt, invalidAccountOwner, arithmeticOverflow, unsupportedSysvar,
    illegalOwner, maxAccountsDataAllocationsExceeded, maxAccountsExceeded,
    maxInstructionTraceLengthExceeded, builtinProgramsMustConsumeComputeUnits]

/-- The name that stands for a kind in payloads. -/
def wireName : InstructionErrorKind → String
  | genericError => "GenericError"
  | invalidArgument => "InvalidArgument"
  | invalidInstructionData => "InvalidInstructionData"
  | invalidAccountData => "InvalidAccountData"
  | accountDataTooSmall => "AccountDataTooSmall"
  | insufficientFunds => "InsufficientFunds"
  | incorrectProgramId => "IncorrectProgramId"
  | missingRequiredSignature => "MissingRequiredSignature"
  | accountAlreadyInitialized => "AccountAlreadyInitialized"
  | uninitializedAccount => "UninitializedAccount"
  | unbalancedInstruction => "UnbalancedInstruction"
  | modifiedProgramId => "ModifiedProgramId"
  | externalAccountLamportSpend => "ExternalAccountLamportSpend"
  | externalAccountDataModified => "ExternalAccountDataModified"
  | readonlyLamportChange => "ReadonlyLamportChange"
  | readonlyDataModified => "ReadonlyDataModified"
  | duplicateAccountIndex => "DuplicateAccountIndex"
  | executableModified => "ExecutableModified"
  | rentEpochModified => "RentEpochModified"
  | notEnoughAccountKeys => "NotEnoughAccountKeys"
  | accountDataSizeChanged => "AccountDataSizeChanged"
  | accountNotExecutable => "AccountNotExecutable"
  | accountBorrowFailed => "AccountBorrowFailed"
  | accountBorrowOutstanding => "AccountBorrowOutstanding"
  | duplicateAccountOutOfSync => "DuplicateAccountOutOfSync"
  | invalidError => "InvalidError"
  | executableDataModified => "ExecutableDataModified"
  | executableLamportChange => "ExecutableLamportChange"
  | executableAccountNotRentExempt => "ExecutableAccountNotRentExempt"
  | unsupportedProgramId => "UnsupportedProgramId"
  | callDepth => "CallDepth"
  | missingAccount => "MissingAccount"
  | reentrancyNotAllowed => "ReentrancyNotAllowed"
  | maxSeedLengthExceeded => "MaxSeedLengthExceeded"
  | invalidSeeds => "InvalidSeeds"
  | invalidRealloc => "InvalidRealloc"
  | computationalBudgetExceeded => "ComputationalBudgetExceeded"
  | privilegeEscalation => "PrivilegeEscalation"
  | programEnvironmentSetupFailure => "ProgramEnvironmentSetupFailure"
  | programFailedToComplete => "ProgramFailedToComplete"
  | programFailedToCompile => "ProgramFailedToCompile"
  | immutable => "Immutable"
  | incorrectAuthority => "IncorrectAuthority"
  | accountNotRentExempt => "AccountNotRentExempt"
  | invalidAccountOwner => "InvalidAccountOwner"
  | arithmeticOverflow => "ArithmeticOverflow"
  | unsupportedSysvar => "UnsupportedSysvar"
  | illegalOwner => "IllegalOwner"
  | maxAccountsDataAllocationsExceeded => "MaxAccountsDataAllocationsExceeded"
  | maxAccountsExceeded => "MaxAccountsExceeded"
  | maxInstructionTraceLengthExceeded => "MaxInstructionTraceLengthExceeded"
  | builtinProgramsMustConsumeComputeUnits => "BuiltinProgramsMustConsumeComputeUnits"

/-- The message that describes a kind. -/
def message : InstructionErrorKind → String
  | genericError => "generic instruction error"
  | invalidArgument => "invalid program argument"
  | invalidInstructionData => "invalid instruction data"
  | invalidAccountData => "invalid account data for instruction"
  | accountDataTooSmall => "account data too small for instruction"
  | insufficientFunds => "insufficient funds for instruction"
  | incorrectProgramId => "incorrect program id for instruction"
  | missingRequiredSignature => "missing required signature for instruction"
  | accountAlreadyInitialized => "instruction requires an uninitialized account"
  | uninitializedAccount => "instruction requires an initialized account"
  | unbalancedInstruction => "sum of account balances before and after instruction do not match"
  | modifiedProgramId => "instruction modified the program id of an account"
  | externalAccountLamportSpend =>
    "instruction spent from the balance of an account it does not own"
  | externalAccountDataModified => "instruction modified data of an account it does not own"
  | readonlyLamportChange => "instruction changed the balance of a read-only account"
  | readonlyDataModified => "instruction modified data of a read-only account"
  | duplicateAccountIndex => "instruction contains duplicate accounts"
  | executableModified => "instruction changed executable bit of an account"
  | rentEpochModified => "instruction modified rent epoch of an account"
  | notEnoughAccountKeys => "insufficient account keys for instruction"
  | accountDataSizeChanged => "non-system instruction changed account size"
  | accountNotExecutable => "instruction expected an executable account"
  | accountBorrowFailed =>
    "instruction tries to borrow reference for an account which is already borrowed"
  | accountBorrowOutstanding => "instruction left account with an outstanding borrowed reference"
  | duplicateAccountOutOfSync => "instruction modifications of multiply-passed account differ"
  | invalidError => "program returned invalid error code"
  | executableDataModified => "instruction changed executable accounts data"
  | executableLamportChange => "instruction changed the balance of a executable account"
  | executableAccountNotRentExempt => "executable accounts must be rent exempt"
  | unsupportedProgramId => "Unsupported program id"
  | callDepth => "Cross-program invocation call depth too deep"
  | missingAccount => "An account required by the instruction is missing"
  | reentrancyNotAllowed => "Cross-program invocation reentrancy not allowed for this instruction"
  | maxSeedLengthExceeded => "Length of the seed is too long for address generation"
  | invalidSeeds => "Provided seeds do not result in a valid address"
  | invalidRealloc => "Failed to reallocate account data"
  | computationalBudgetExceeded => "Computational budget exceeded"
  | privilegeEscalation => "Cross-program invocation with unauthorized signer or writable account"
  | programEnvironmentSetupFailure => "Failed to create program execution environment"
  | programFailedToComplete => "Program failed to complete"
  | programFailedToCompile => "Program failed to compile"
  | immutable => "Account is immutable"
  | incorrectAuthority => "Incorrect authority provided"
  | accountNotRentExempt => "An account does not have enough lamports to be rent-exempt"
  | invalidAccountOwner => "Invalid account owner"
  | arithmeticOverflow => "Program arithmetic overflowed"
  | unsupportedSysvar => "Unsupported sysvar"
  | illegalOwner => "Provided owner is not allowed"
  | maxAccountsDataAllocationsExceeded =>
    "Accounts data allocations exceeded the maximum allowed per transaction"
  | maxAccountsExceeded => "Max accounts exceeded"
  | maxInstructionTraceLengthExceeded => "Max instruction trace length exceeded"
  | builtinProgramsMustConsumeComputeUnits => "Builtin programs must consume compute units"

/-- The kind that a name stands for. -/
def ofWireName? (name : String) : Option InstructionErrorKind := all.find? (·.wireName == name)

/-- The label of a kind. -/
def label (k : InstructionErrorKind) : String := Label.ofCamel k.wireName

theorem ofWireName?_wireName (k : InstructionErrorKind) : ofWireName? k.wireName = some k := by
  cases k <;> decide +kernel

theorem wireName_of_ofWireName? {name : String} {k : InstructionErrorKind}
    (h : ofWireName? name = some k) :
    k.wireName = name := by
  simpa using List.find?_some h

end InstructionErrorKind

end SolanaWire
