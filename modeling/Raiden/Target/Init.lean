import Raiden.Target.System
import Raiden.Mediator.Spec

/-! # Accepting a payment

A transfer with a valid balance proof must be taken by the target whatever its
lock says, or the following balance proofs of the partner cannot be handled. The
test whether there is time to wait for the secret asserts that the lock expires
after more than `revealTimeout` blocks counted from the genesis block; a transfer
whose lock does not is accepted by the channel and then raises. -/
namespace Raiden.Target

open Lib Channel

variable {P : Primitives} {sc change : ActionInitTarget} {c : NettingChannelState} {now : Nat}

/-- The task exists, the transfer is acknowledged, and the secret is requested only
while there is time to unlock the lock on-chain. -/
structure Admitted (change : ActionInitTarget) (c : NettingChannelState) (now : Nat)
    (r : TargetIteration) : Prop where
  task : r.newState = some { fromHop := change.fromHop, transfer := change.transfer }
  acknowledged : processed change.transfer.balanceProof.sender change.transfer.payerAddressMetadata
    change.transfer.messageIdentifier ∈ r.events
  request : ∀ message, .sendSecretRequest message ∈ r.events →
    now + c.revealTimeout < change.transfer.lock.expiration

/-- The result of a valid transfer, with the request of the secret or without it. -/
theorem Admitted.of_events {c' : NettingChannelState} (requests : List Event)
    (h : requests ≠ [] → now + c.revealTimeout < sc.transfer.lock.expiration) :
    Admitted sc c now
      ⟨c', some { fromHop := sc.fromHop, transfer := sc.transfer },
        [processed sc.transfer.balanceProof.sender sc.transfer.payerAddressMetadata
          sc.transfer.messageIdentifier] ++ requests⟩ where
  task := rfl
  acknowledged := List.mem_append_left _ (List.mem_singleton.mpr rfl)
  request msg hmessage := by
    rcases List.mem_append.mp hmessage with hmessage | hmessage
    · cases List.mem_singleton.mp hmessage
    · exact h (List.ne_nil_of_mem hmessage)

/-- A valid transfer is taken exactly when its secret is already known to be valid or
its lock expires after more than `revealTimeout` blocks of the chain. -/
theorem inittarget_admits_iff {locks : List EncodedData} (hblock : 0 < now)
    (hreveal : 0 < c.revealTimeout)
    (hvalid : validLockedtransferCheck P c c.partnerState c.ourState "LockedTransfer"
      change.transfer.balanceProof change.transfer.lock = .ok locks) :
    Returns (handleInittarget P change c now) (Admitted change c now) ↔
      change.receivedValidSecret = true ∨ c.revealTimeout < change.transfer.lock.expiration := by
  have hidentifier : c.identifier = change.transfer.balanceProof.channelIdentifier := by
    have husable := ((validLockedtransferCheck_ok P).mp hvalid).usable
    exact congrArg CanonicalIdentifier.channelIdentifier husable.identifier.symm
  have hreceived : handleReceiveLockedtransfer P c change.transfer change.transfer.payerAddressMetadata =
      (withTransfer c change.transfer locks, ⟨true, [processed change.transfer.balanceProof.sender
        change.transfer.payerAddressMetadata change.transfer.messageIdentifier], none⟩) := by
    simp only [handleReceiveLockedtransfer, isValidLockedtransfer, hvalid]
    rfl
  unfold handleInittarget
  simp only [hreceived, if_true]
  constructor
  · intro h
    by_contra hneither
    obtain ⟨hsecret, hexpiration⟩ := not_or.mp hneither
    obtain ⟨r, prng, hrun, -⟩ := h (Stream'.const 0)
    obtain ⟨-, prng', -, hrun⟩ := run_bind_eq_ok.mp hrun
    rw [if_neg hsecret] at hrun
    obtain ⟨safe, prng'', hsafe, -⟩ := run_bind_eq_ok.mp hrun
    exact hexpiration (Mediator.isSafeToWait_returns_iff.mp ⟨safe, (run_lift_eq_ok.mp hsafe).1⟩).2.2
  · intro h
    refine .bind (Q := fun _ => True) (Returns.lift (assert_eq_ok (u := ()) |>.mpr hidentifier) trivial) ?_
    intro _ _
    by_cases hsecret : change.receivedValidSecret = true
    · rw [if_pos hsecret]
      exact .pure (.of_events [] (absurd rfl))
    · rw [if_neg hsecret]
      obtain ⟨safe, hsafe⟩ := Mediator.isSafeToWait_returns_iff.mpr
        ⟨hblock, hreveal, h.resolve_left hsecret⟩
      refine .bind (Returns.lift hsafe (Q := fun r => r = safe) rfl) ?_
      rintro _ rfl
      split
      · next hok =>
        have htime := (Mediator.isSafeToWait_isOk hsafe).mp hok
        exact .bind (Q := fun _ => True) (fun prng => ⟨_, _, rfl, trivial⟩)
          fun _ _ => .pure (.of_events [_] fun _ => htime)
      · exact .pure (.of_events [] (absurd rfl))

theorem inittarget_admits_toy :
    (∃ locks, validLockedtransferCheck toyPrimitives (toyChannel 0 100) (toyChannel 0 100).partnerState
      (toyChannel 0 100).ourState "LockedTransfer" toyInit.transfer.balanceProof toyInit.transfer.lock =
        .ok locks) ∧ Returns (handleInittarget toyPrimitives toyInit (toyChannel 0 100) 35)
        (Admitted toyInit (toyChannel 0 100) 35) := by
  have hvalid : validLockedtransferCheck toyPrimitives (toyChannel 0 100) (toyChannel 0 100).partnerState
      (toyChannel 0 100).ourState "LockedTransfer" toyInit.transfer.balanceProof toyInit.transfer.lock =
        .ok [(toyLock 50 7).encoded] := by
    decide +kernel
  refine ⟨⟨_, hvalid⟩, (inittarget_admits_iff (by decide) (by decide) hvalid).mpr (.inr ?_)⟩
  decide

/-- A lock that expired at block 5, although the partner has to reveal within 10 blocks. -/
def expiredLock : HashTimeLockState := toyLockUntil 5 50 7

def expiredInit : ActionInitTarget where
  sender := 2
  balanceProof := toyBalanceProof 0 0 50 [expiredLock]
  fromHop := ⟨2, 1⟩
  transfer := toyTransfer expiredLock (toyBalanceProof 0 0 50 [expiredLock])

/-- The channel accepts the transfer, and the target raises. -/
theorem expired_transfer_raises :
    (∃ locks, validLockedtransferCheck toyPrimitives (toyChannel 0 100) (toyChannel 0 100).partnerState
      (toyChannel 0 100).ourState "LockedTransfer" expiredInit.transfer.balanceProof
        expiredInit.transfer.lock = .ok locks) ∧
      (handleInittarget toyPrimitives expiredInit (toyChannel 0 100) 35).run (Stream'.const 0) =
        .error (.assertionError "lock_expiration must be larger than reveal_timeout") := by
  refine ⟨⟨[expiredLock.encoded], ?_⟩, rfl⟩
  decide +kernel

end Raiden.Target
