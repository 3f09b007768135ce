import Raiden.State

/-! # Events

What a state transition asks the node to do: protocol messages, on-chain
transactions and notifications. -/
namespace Raiden

/-- The part every off-chain message shares. -/
structure SendMessageEvent where
  recipient : Address
  recipientMetadata : Option AddressMetadata
  canonicalIdentifier : CanonicalIdentifier
  messageIdentifier : MessageID
deriving DecidableEq

structure SendLockedTransfer extends SendMessageEvent where
  transfer : LockedTransferUnsignedState
deriving DecidableEq

structure SendUnlock extends SendMessageEvent where
  paymentIdentifier : PaymentID
  tokenAddress : Address
  balanceProof : BalanceProofUnsignedState
  secret : Secret
deriving DecidableEq

structure SendLockExpired extends SendMessageEvent where
  balanceProof : BalanceProofUnsignedState
  secrethash : SecretHash
deriving DecidableEq

structure SendSecretReveal extends SendMessageEvent where
  secret : Secret
deriving DecidableEq

structure SendSecretRequest extends SendMessageEvent where
  paymentIdentifier : PaymentID
  amount : Nat
  expiration : Nat
  secrethash : SecretHash
deriving DecidableEq

structure SendWithdrawRequest extends SendMessageEvent where
  totalWithdraw : Int
  participant : Address
  expiration : Nat
  nonce : Nat
  coopSettle : Bool := false
deriving DecidableEq

/-- Fields of both a withdraw confirmation and a withdraw expiration. -/
structure SendWithdraw extends SendMessageEvent where
  totalWithdraw : Int
  participant : Address
  expiration : Nat
  nonce : Nat
deriving DecidableEq

structure EventPaymentSentSuccess where
  tokenNetworkRegistryAddress : Address
  tokenNetworkAddress : Address
  identifier : PaymentID
  amount : Nat
  target : Address
  secret : Secret
  route : List Address
deriving DecidableEq

inductive Event where
  | sendLockedTransfer (message : SendLockedTransfer)
  | sendUnlock (message : SendUnlock)
  | sendLockExpired (message : SendLockExpired)
  | sendSecretReveal (message : SendSecretReveal)
  | sendSecretRequest (message : SendSecretRequest)
  | sendProcessed (message : SendMessageEvent)
  | sendWithdrawRequest (message : SendWithdrawRequest)
  | sendWithdrawConfirmation (message : SendWithdraw)
  | sendWithdrawExpired (message : SendWithdraw)
  | contractSendChannelWithdraw (canonicalIdentifier : CanonicalIdentifier)
      (totalWithdraw : Int) (expiration : Nat)
      (partnerSignature : Signature) (triggeredByBlockHash : BlockHash)
  | contractSendChannelCoopSettle (canonicalIdentifier : CanonicalIdentifier)
      (ourTotalWithdraw partnerTotalWithdraw : Int) (expiration : Nat)
      (signatureOurWithdraw signaturePartnerWithdraw : Signature) (triggeredByBlockHash : BlockHash)
  | contractSendChannelClose (canonicalIdentifier : CanonicalIdentifier)
      (balanceProof : Option BalanceProofSignedState) (triggeredByBlockHash : BlockHash)
  | contractSendChannelSettle (canonicalIdentifier : CanonicalIdentifier)
      (triggeredByBlockHash : BlockHash)
  | contractSendChannelUpdateTransfer (expiration : Nat)
      (balanceProof : BalanceProofSignedState) (triggeredByBlockHash : BlockHash)
  | contractSendChannelBatchUnlock (canonicalIdentifier : CanonicalIdentifier) (sender : Address)
      (triggeredByBlockHash : BlockHash)
  | contractSendSecretReveal (expiration : Nat) (secret : Secret)
      (triggeredByBlockHash : BlockHash)
  | updateServicesAddresses (serviceAddress : Address) (validity : Nat)
  | eventPaymentSentSuccess (payment : EventPaymentSentSuccess)
  | eventPaymentSentFailed (tokenNetworkRegistryAddress tokenNetworkAddress : Address)
      (identifier : PaymentID) (target : Address) (reason : String)
  | eventPaymentReceivedSuccess (tokenNetworkRegistryAddress tokenNetworkAddress : Address)
      (identifier : PaymentID) (amount : Nat) (initiator : Address)
  | eventInvalidReceivedTransferRefund (paymentIdentifier : PaymentID) (reason : String)
  | eventInvalidReceivedLockExpired (secrethash : SecretHash) (reason : String)
  | eventInvalidReceivedLockedTransfer (paymentIdentifier : PaymentID) (reason : String)
  | eventInvalidReceivedUnlock (secrethash : SecretHash) (reason : String)
  | eventInvalidReceivedWithdrawRequest (attemptedWithdraw : Int) (reason : String)
  | eventInvalidReceivedWithdraw (attemptedWithdraw : Int) (reason : String)
  | eventInvalidReceivedWithdrawExpired (attemptedWithdraw : Int) (reason : String)
  | eventInvalidActionWithdraw (attemptedWithdraw : Int) (reason : String)
  | eventInvalidActionCoopSettle (attemptedWithdraw : Int) (reason : String)
  | eventInvalidActionSetRevealTimeout (revealTimeout : Nat) (reason : String)
  | eventInvalidSecretRequest (paymentIdentifier : PaymentID) (intendedAmount actualAmount : Nat)
  | eventUnlockSuccess (identifier : PaymentID) (secrethash : SecretHash)
  | eventUnlockFailed (identifier : PaymentID) (secrethash : SecretHash) (reason : String)
  | eventUnlockClaimSuccess (identifier : PaymentID) (secrethash : SecretHash)
  | eventUnlockClaimFailed (identifier : PaymentID) (secrethash : SecretHash) (reason : String)
  | eventUnexpectedSecretReveal (secrethash : SecretHash) (reason : String)
  | eventRouteFailed (secrethash : SecretHash) (route : List Address) (tokenNetworkAddress : Address)
deriving DecidableEq

def Event.isInvalidReceived : Event → Bool
  | .eventInvalidReceivedTransferRefund .. | .eventInvalidReceivedLockExpired ..
  | .eventInvalidReceivedLockedTransfer .. | .eventInvalidReceivedUnlock ..
  | .eventInvalidReceivedWithdrawRequest .. | .eventInvalidReceivedWithdraw ..
  | .eventInvalidReceivedWithdrawExpired .. => true
  | _ => false

/-- The state after a transition and the events it produced; a transition that
removes its object returns no state. -/
structure TransitionResult (α : Type) where
  newState : α
  events : List Event

end Raiden
