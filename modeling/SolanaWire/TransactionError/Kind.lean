import SolanaWire.Text.Label

/-!
# Kinds of transaction errors

The errors that the network names when it refuses or fails a transaction.
-/
namespace SolanaWire

/-- A named transaction error. -/
inductive TransactionErrorKind
  | accountInUse
  | accountLoadedTwice
  | accountNotFound
  | programAccountNotFound
  | insufficientFundsForFee
  | invalidAccountForFee
  | alreadyProcessed
  | blockhashNotFound
  | callChainTooDeep
  | missingSignatureForFee
  | invalidAccountIndex
  | signatureFailure
  | invalidProgramForExecution
  | sanitizeFailure
  | clusterMaintenance
  | accountBorrowOutstanding
  | wouldExceedMaxBlockCostLimit
  | unsupportedVersion
  | invalidWritableAccount
  | wouldExceedMaxAccountCostLimit
  | wouldExceedAccountDataBlockLimit
  | tooManyAccountLocks
  | addressLookupTableNotFound
  | invalidAddressLookupTableOwner
  | invalidAddressLookupTableData
  | invalidAddressLookupTableIndex
  | invalidRentPayingAccount
  | wouldExceedMaxVoteCostLimit
  | wouldExceedAccountDataTotalLimit
  | maxLoadedAccountsDataSizeExceeded
  | invalidLoadedAccountsDataSizeLimit
  | resanitizationNeeded
  | unbalancedTransaction
  | programCacheHitMaxLimit
  deriving DecidableEq

namespace TransactionErrorKind

/-- Every kind. -/
def all : List TransactionErrorKind :=
  [accountInUse, accountLoadedTwice, accountNotFound, programAccountNotFound,
    insufficientFundsForFee, invalidAccountForFee, alreadyProcessed, blockhashNotFound,
    callChainTooDeep, missingSignatureForFee, invalidAccountIndex, signatureFailure,
    invalidProgramForExecution, sanitizeFailure, clusterMaintenance, accountBorrowOutstanding,
    wouldExceedMaxBlockCostLimit, unsupportedVersion, invalidWritableAccount,
    wouldExceedMaxAccountCostLimit, wouldExceedAccountDataBlockLimit, tooManyAccountLocks,
    addressLookupTableNotFound, invalidAddressLookupTableOwner, invalidAddressLookupTableData,
    invalidAddressLookupTableIndex, invalidRentPayingAccount, wouldExceedMaxVoteCostLimit,
    wouldExceedAccountDataTotalLimit, maxLoadedAccountsDataSizeExceeded,
    invalidLoadedAccountsDataSizeLimit, resanitizationNeeded, unbalancedTransaction,
    programCacheHitMaxLimit]

/-- The name that stands for a kind in payloads. -/
def wireName : TransactionErrorKind → String
  | accountInUse => "AccountInUse"
  | accountLoadedTwice => "AccountLoadedTwice"
  | accountNotFound => "AccountNotFound"
  | programAccountNotFound => "ProgramAccountNotFound"
  | insufficientFundsForFee => "InsufficientFundsForFee"
  | invalidAccountForFee => "InvalidAccountForFee"
  | alreadyProcessed => "AlreadyProcessed"
  | blockhashNotFound => "BlockhashNotFound"
  | callChainTooDeep => "CallChainTooDeep"
  | missingSignatureForFee => "MissingSignatureForFee"
  | invalidAccountIndex => "InvalidAccountIndex"
  | signatureFailure => "SignatureFailure"
  | invalidProgramForExecution => "InvalidProgramForExecution"
  | sanitizeFailure => "SanitizeFailure"
  | clusterMaintenance => "ClusterMaintenance"
  | accountBorrowOutstanding => "AccountBorrowOutstanding"
  | wouldExceedMaxBlockCostLimit => "WouldExceedMaxBlockCostLimit"
  | unsupportedVersion => "UnsupportedVersion"
  | invalidWritableAccount => "InvalidWritableAccount"
  | wouldExceedMaxAccountCostLimit => "WouldExceedMaxAccountCostLimit"
  | wouldExceedAccountDataBlockLimit => "WouldExceedAccountDataBlockLimit"
  | tooManyAccountLocks => "TooManyAccountLocks"
  | addressLookupTableNotFound => "AddressLookupTableNotFound"
  | invalidAddressLookupTableOwner => "InvalidAddressLookupTableOwner"
  | invalidAddressLookupTableData => "InvalidAddressLookupTableData"
  | invalidAddressLookupTableIndex => "InvalidAddressLookupTableIndex"
  | invalidRentPayingAccount => "InvalidRentPayingAccount"
  | wouldExceedMaxVoteCostLimit => "WouldExceedMaxVoteCostLimit"
  | wouldExceedAccountDataTotalLimit => "WouldExceedAccountDataTotalLimit"
  | maxLoadedAccountsDataSizeExceeded => "MaxLoadedAccountsDataSizeExceeded"
  | invalidLoadedAccountsDataSizeLimit => "InvalidLoadedAccountsDataSizeLimit"
  | resanitizationNeeded => "ResanitizationNeeded"
  | unbalancedTransaction => "UnbalancedTransaction"
  | programCacheHitMaxLimit => "ProgramCacheHitMaxLimit"

/-- The message that describes a kind. -/
def message : TransactionErrorKind → String
  | accountInUse => "Account in use"
  | accountLoadedTwice => "Account loaded twice"
  | accountNotFound => "Attempt to debit an account but found no record of a prior credit."
  | programAccountNotFound => "Attempt to load a program that does not exist"
  | insufficientFundsForFee => "Insufficient funds for fee"
  | invalidAccountForFee => "This account may not be used to pay transaction fees"
  | alreadyProcessed => "This transaction has already been processed"
  | blockhashNotFound => "Blockhash not found"
  | callChainTooDeep => "Loader call chain is too deep"
  | missingSignatureForFee => "Transaction requires a fee but has no signature present"
  | invalidAccountIndex => "Transaction contains an invalid account reference"
  | signatureFailure => "Transaction did not pass signature verification"
  | invalidProgramForExecution => "This program may not be used for executing instructions"
  | sanitizeFailure => "Transaction failed to sanitize accounts offsets correctly"
  | clusterMaintenance => "Transactions are currently disabled due to cluster maintenance"
  | accountBorrowOutstanding =>
    "Transaction processing left an account with an outstanding borrowed reference"
  | wouldExceedMaxBlockCostLimit => "Transaction would exceed max Block Cost Limit"
  | unsupportedVersion => "Transaction version is unsupported"
  | invalidWritableAccount => "Transaction loads a writable account that cannot be written"
  | wouldExceedMaxAccountCostLimit => "Transaction would exceed max account limit within the block"
  | wouldExceedAccountDataBlockLimit =>
    "Transaction would exceed account data limit within the block"
  | tooManyAccountLocks => "Transaction locked too many accounts"
  | addressLookupTableNotFound => "Transaction loads an address table account that doesn't exist"
  | invalidAddressLookupTableOwner =>
    "Transaction loads an address table account with an invalid owner"
  | invalidAddressLookupTableData => "Transaction loads an address table account with invalid data"
  | invalidAddressLookupTableIndex => "Transaction address table lookup uses an invalid index"
  | invalidRentPayingAccount =>
    "Transaction leaves an account with a lower balance than rent-exempt minimum"
  | wouldExceedMaxVoteCostLimit => "Transaction would exceed max Vote Cost Limit"
  | wouldExceedAccountDataTotalLimit => "Transaction would exceed total account data limit"
  | maxLoadedAccountsDataSizeExceeded => "Transaction exceeded max loaded accounts data size cap"
  | invalidLoadedAccountsDataSizeLimit =>
    "LoadedAccountsDataSizeLimit set for transaction must be greater than 0."
  | resanitizationNeeded => "ResanitizationNeeded"
  | unbalancedTransaction => "Sum of account balances before and after transaction do not match"
  | programCacheHitMaxLimit => "Program cache hit max limit"

/-- The kind that a name stands for. -/
def ofWireName? (name : String) : Option TransactionErrorKind := all.find? (·.wireName == name)

/-- The label of a kind. -/
def label (k : TransactionErrorKind) : String := Label.ofCamel k.wireName

theorem ofWireName?_wireName (k : TransactionErrorKind) : ofWireName? k.wireName = some k := by
  cases k <;> decide +kernel

theorem wireName_of_ofWireName? {name : String} {k : TransactionErrorKind}
    (h : ofWireName? name = some k) :
    k.wireName = name := by
  simpa using List.find?_some h

end TransactionErrorKind

end SolanaWire
