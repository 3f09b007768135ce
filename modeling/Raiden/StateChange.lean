import Raiden.Event

/-! # State changes

Inputs of the state machines: user actions, received messages (with the
authenticated sender) and blockchain events. -/
namespace Raiden

open Lib

structure MediationFeeConfig where
  tokenToProportionalImbalanceFee : Dict Address Nat := .empty

def defaultMediationProportionalImbalanceFee : Nat := 3000

def MediationFeeConfig.getProportionalImbalanceFee (config : MediationFeeConfig) (token : Address) :
    Nat :=
  (config.tokenToProportionalImbalanceFee.get? token).getD defaultMediationProportionalImbalanceFee

structure Block where
  blockNumber : Nat
  blockHash : BlockHash

structure ActionInitInitiator where
  transfer : TransferDescriptionWithSecretState
  routes : List RouteState

structure ActionInitMediator where
  sender : Address
  balanceProof : BalanceProofSignedState
  fromHop : HopState
  candidateRouteStates : List RouteState
  fromTransfer : LockedTransferSignedState

structure ActionInitTarget where
  sender : Address
  balanceProof : BalanceProofSignedState
  fromHop : HopState
  transfer : LockedTransferSignedState
  receivedValidSecret : Bool := false

structure ActionTransferReroute where
  sender : Address
  balanceProof : BalanceProofSignedState
  transfer : LockedTransferSignedState
  secret : Secret

structure ReceiveTransferCancelRoute where
  sender : Address
  balanceProof : BalanceProofSignedState
  transfer : LockedTransferSignedState

structure ReceiveTransferRefund where
  sender : Address
  balanceProof : BalanceProofSignedState
  transfer : LockedTransferSignedState

structure ReceiveLockExpired where
  sender : Address
  balanceProof : BalanceProofSignedState
  secrethash : SecretHash
  messageIdentifier : MessageID

structure ReceiveUnlock where
  sender : Address
  balanceProof : BalanceProofSignedState
  messageIdentifier : MessageID
  secret : Secret

def ReceiveUnlock.secrethash (P : Primitives) (unlock : ReceiveUnlock) : SecretHash :=
  P.sha256Secrethash unlock.secret

structure ReceiveSecretRequest where
  sender : Address
  paymentIdentifier : PaymentID
  amount : Nat
  expiration : Nat
  secrethash : SecretHash
  revealsecret : Option SendSecretReveal := none

structure ReceiveSecretReveal where
  sender : Address
  secret : Secret

def ReceiveSecretReveal.secrethash (P : Primitives) (reveal : ReceiveSecretReveal) : SecretHash :=
  P.sha256Secrethash reveal.secret

structure ReceiveWithdrawRequest where
  sender : Address
  messageIdentifier : MessageID
  canonicalIdentifier : CanonicalIdentifier
  totalWithdraw : Nat
  nonce : Nat
  expiration : Nat
  signature : Signature
  participant : Address
  coopSettle : Bool := false
  senderMetadata : Option AddressMetadata := none

structure ReceiveWithdrawConfirmation where
  sender : Address
  messageIdentifier : MessageID
  canonicalIdentifier : CanonicalIdentifier
  totalWithdraw : Nat
  nonce : Nat
  expiration : Nat
  signature : Signature
  participant : Address

structure ReceiveWithdrawExpired where
  sender : Address
  messageIdentifier : MessageID
  canonicalIdentifier : CanonicalIdentifier
  totalWithdraw : Nat
  expiration : Nat
  nonce : Nat
  participant : Address

structure ActionChannelWithdraw where
  canonicalIdentifier : CanonicalIdentifier
  totalWithdraw : Int
  recipientMetadata : Option AddressMetadata := none

structure ActionChannelCoopSettle where
  canonicalIdentifier : CanonicalIdentifier
  recipientMetadata : Option AddressMetadata := none

structure ContractReceiveChannelDeposit where
  blockNumber : Nat
  blockHash : BlockHash
  canonicalIdentifier : CanonicalIdentifier
  participantAddress : Address
  contractBalance : Nat
  feeConfig : MediationFeeConfig

structure ContractReceiveChannelWithdraw where
  blockNumber : Nat
  blockHash : BlockHash
  canonicalIdentifier : CanonicalIdentifier
  participant : Address
  totalWithdraw : Nat
  feeConfig : MediationFeeConfig

structure ContractReceiveChannelClosed where
  blockNumber : Nat
  blockHash : BlockHash
  transactionFrom : Address
  canonicalIdentifier : CanonicalIdentifier

structure ContractReceiveChannelSettled where
  blockNumber : Nat
  blockHash : BlockHash
  canonicalIdentifier : CanonicalIdentifier
  ourOnchainLocksroot : Locksroot
  ourTransferredAmount : Nat
  partnerOnchainLocksroot : Locksroot
  partnerTransferredAmount : Nat

structure ContractReceiveChannelBatchUnlock where
  blockNumber : Nat
  blockHash : BlockHash
  canonicalIdentifier : CanonicalIdentifier
  receiver : Address
  sender : Address
  locksroot : Locksroot
  unlockedAmount : Nat
  returnedTokens : Nat

structure ContractReceiveUpdateTransfer where
  blockNumber : Nat
  blockHash : BlockHash
  canonicalIdentifier : CanonicalIdentifier
  nonce : Nat

structure ContractReceiveSecretReveal where
  blockNumber : Nat
  blockHash : BlockHash
  secretRegistryAddress : Address
  secrethash : SecretHash
  secret : Secret

inductive ChannelStateChange where
  | block (change : Block)
  | actionChannelClose (canonicalIdentifier : CanonicalIdentifier)
  | actionChannelCoopSettle (change : ActionChannelCoopSettle)
  | actionChannelWithdraw (change : ActionChannelWithdraw)
  | actionChannelSetRevealTimeout (canonicalIdentifier : CanonicalIdentifier)
      (revealTimeout : Nat)
  | receiveWithdrawRequest (change : ReceiveWithdrawRequest)
  | receiveWithdrawConfirmation (change : ReceiveWithdrawConfirmation)
  | receiveWithdrawExpired (change : ReceiveWithdrawExpired)
  | contractReceiveChannelClosed (change : ContractReceiveChannelClosed)
  | contractReceiveUpdateTransfer (change : ContractReceiveUpdateTransfer)
  | contractReceiveChannelSettled (change : ContractReceiveChannelSettled)
  | contractReceiveChannelDeposit (change : ContractReceiveChannelDeposit)
  | contractReceiveChannelWithdraw (change : ContractReceiveChannelWithdraw)
  | contractReceiveChannelBatchUnlock (change : ContractReceiveChannelBatchUnlock)

end Raiden
