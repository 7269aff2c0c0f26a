import TokenClient.Proofs.Broadcast

/-! What a sealed transaction says. The bytes that go out and the bytes that are signed can both be
taken apart again, so neither of them leaves out or adds anything. -/
namespace TokenClient

open Rlp

namespace Bytes

theorem minimal_zero : minimal 0 = [] := by
  rw [minimal, if_pos rfl]

theorem minimal_injective {n m : Nat} (same : minimal n = minimal m) : n = m := by
  rw [← toNat_minimal n, same, toNat_minimal]

end Bytes

namespace Transaction

variable {t t' : Transaction} {signature : Secp256k1.Signature}

theorem destinationBytes_injective {destination other : Destination}
    (same : destinationBytes destination = destinationBytes other) : destination = other := by
  have read := readDestination_bytes destination
  rw [same, readDestination_bytes] at read
  exact (Option.some.inj read).symm

/-- The parts of a transaction as they are signed: the chain and two empty strings stand where the
signature will be. -/
def unsignedParts (t : Transaction) : List Bytes :=
  [Bytes.minimal t.nonce, Bytes.minimal t.gasPrice, Bytes.minimal t.gas,
    destinationBytes t.destination, Bytes.minimal t.value.toNat, t.input,
    Bytes.minimal t.chainId, [], []]

theorem signingBytes_eq (older : t.accessList = none) :
    t.signingBytes = (Item.list (t.unsignedParts.map Item.bytes)).encode := by
  simp [signingBytes, older, unsignedParts, items, Item.number, destinationItem_eq,
    Bytes.minimal_zero]

theorem readList_signingBytes (fits : t.Fits signature) :
    readList 9 t.signingBytes = some t.unsignedParts := by
  have room : (t.unsignedParts.map fun content => content.length + 9).sum < 256 ^ 8 := by
    have common := fits.room
    have chainId := length_minimal_lt fits.chainId
    simp only [unsignedParts, List.map_cons, List.map_nil, List.sum_cons, List.sum_nil,
      List.length_nil]
    omega
  rw [signingBytes_eq fits.older]
  exact readList_encode room

theorem eq_of_unsignedParts (older : t.accessList = none) (older' : t'.accessList = none)
    (same : t.unsignedParts = t'.unsignedParts) : t = t' := by
  simp only [unsignedParts, List.cons.injEq, and_true] at same
  obtain ⟨nonce, gasPrice, gas, destination, value, input, chainId⟩ := same
  rw [Transaction.mk.injEq]
  exact ⟨Bytes.minimal_injective nonce, Bytes.minimal_injective gasPrice,
    Bytes.minimal_injective gas, destinationBytes_injective destination,
    BitVec.eq_of_toNat_eq (Bytes.minimal_injective value), input,
    Bytes.minimal_injective chainId, older.trans older'.symm⟩

/-- What is signed for two transactions is the same only if they are. -/
theorem eq_of_signingBytes {signature' : Secp256k1.Signature} (fits : t.Fits signature)
    (fits' : t'.Fits signature') (same : t.signingBytes = t'.signingBytes) : t = t' := by
  have read := readList_signingBytes fits
  rw [same, readList_signingBytes fits'] at read
  exact eq_of_unsignedParts fits.older fits'.older (Option.some.inj read).symm

/-- What goes out for two transactions is the same only if they and their signatures are. -/
theorem eq_of_signedBytes {signature' : Secp256k1.Signature} (fits : t.Fits signature)
    (fits' : t'.Fits signature') (same : t.signedBytes signature = t'.signedBytes signature') :
    t = t' ∧ signature = signature' := by
  have read := ofRaw_signedBytes t signature fits
  rw [same, ofRaw_signedBytes t' signature' fits'] at read
  cases read
  exact ⟨rfl, rfl⟩

end Transaction

/-- A call with an input, or a creation with code. Sender, nonce, gas, prices, chain and value may
already be named, and it does not matter how. -/
structure TransactionRequest.Asks (request : TransactionRequest) (destination : Destination)
    (input : Bytes) : Prop where
  /-- No byte string in memory is longer. -/
  short : input.length < 2 ^ 63
  destination : request.destination = some destination
  input : request.input = some input
  plain : request.accessList = none

/-- An envelope that says what an authorization grants for a destination and an input. -/
structure Envelope.Carries (e : Envelope) (auth : Authorization) (destination : Destination)
    (input : Bytes) : Prop where
  signer : e.signer = auth.sender
  spelled : ∃ nonce gasPrice gas target value v r s,
    readList 9 e.raw = some [nonce, gasPrice, gas, target, value, input, v, r, s] ∧
    readNumber nonce = some auth.nonce ∧ readNumber gasPrice = some auth.gasPrice ∧
    readNumber gas = some auth.gasLimit ∧
    Transaction.readDestination target = some destination ∧ readNumber value = some 0 ∧
    readNumber v = some (35 + 2 * auth.chainId + e.signature.parity.toNat) ∧
    readNumber r = some e.signature.r ∧ readNumber s = some e.signature.s
  read : Transaction.ofRaw e.raw = some (⟨auth.nonce, auth.gasPrice, auth.gasLimit, destination, 0,
    input, auth.chainId, none⟩, e.signature)
  payload : e.transaction.signingBytes = (Item.list [.number auth.nonce, .number auth.gasPrice,
    .number auth.gasLimit, Transaction.destinationItem destination, .number 0, .bytes input,
    .number auth.chainId, .number 0, .number 0]).encode
  signature : e.signature = auth.credential.sign (digest e.transaction.signingBytes)

/-- The same grants for the same destination and input. The sender is not among them: a
transaction of the older kind names it through its signature alone. -/
structure Authorization.Agrees (auth other : Authorization) (destination destination' : Destination)
    (input input' : Bytes) : Prop where
  nonce : auth.nonce = other.nonce
  gasLimit : auth.gasLimit = other.gasLimit
  gasPrice : auth.gasPrice = other.gasPrice
  chainId : auth.chainId = other.chainId
  destination : destination = destination'
  input : input = input'

namespace Authorization

variable {auth other : Authorization} {request : TransactionRequest}
  {destination destination' : Destination} {input input' : Bytes}

theorem sign_eq (asks : request.Asks destination input) :
    auth.sign request = .ok (auth.credential.seal (auth.transaction destination input)) := by
  have payload : request.payload = input := by
    rw [TransactionRequest.payload, asks.input]
    rfl
  simp only [sign, asks.destination, asks.plain, payload]
  rfl

theorem fits_transaction (fits : auth.Fits) (destination : Destination)
    (short : input.length < 2 ^ 63) :
    (auth.transaction destination input).Fits
      (auth.credential.sign (auth.transaction destination input).signingHash) :=
  auth.credential.fits_seal rfl fits.nonce fits.gasLimit fits.gasPrice fits.chainId short

theorem carries_seal (fits : auth.Fits) (destination : Destination)
    (short : input.length < 2 ^ 63) :
    (auth.credential.seal (auth.transaction destination input)).Carries auth destination input := by
  have fitting := fits_transaction fits destination short
  have spelled := Transaction.readList_signedBytes _ _ fitting
  refine ⟨rfl, ⟨_, _, _, _, _, _, _, _, spelled, ?_⟩, ?_, rfl, rfl⟩
  · exact ⟨readNumber_minimal _, readNumber_minimal _, readNumber_minimal _,
      Transaction.readDestination_bytes _, readNumber_minimal _, readNumber_minimal _,
      readNumber_minimal _, readNumber_minimal _⟩
  · exact Transaction.ofRaw_signedBytes _ _ fitting

theorem agrees_of_transaction
    (same : auth.transaction destination input = other.transaction destination' input') :
    auth.Agrees other destination destination' input input' where
  nonce := congrArg Transaction.nonce same
  gasLimit := congrArg Transaction.gas same
  gasPrice := congrArg Transaction.gasPrice same
  chainId := congrArg Transaction.chainId same
  destination := congrArg Transaction.destination same
  input := congrArg Transaction.input same

/-- Whatever the request names besides, it is signed as a transaction on the terms of the
authorization; and two envelopes that spell the same, or of which the same is signed, are on the
same terms and for the same destination and input. -/
theorem sign_faithful (fits : auth.Fits) (asks : request.Asks destination input) :
    ∃ e, auth.sign request = .ok e ∧ e.Carries auth destination input ∧
    ∀ {other : Authorization} {request' : TransactionRequest} {destination' : Destination}
      {input' : Bytes} {e' : Envelope}, other.Fits → request'.Asks destination' input' →
      other.sign request' = .ok e' →
      (e.raw = e'.raw → auth.Agrees other destination destination' input input' ∧
        e.signature = e'.signature) ∧
      (e.transaction.signingBytes = e'.transaction.signingBytes →
        auth.Agrees other destination destination' input input') := by
  refine ⟨_, sign_eq asks, carries_seal fits destination asks.short, ?_⟩
  intro other request' destination' input' e' fits' asks' sealed
  rw [sign_eq asks'] at sealed
  cases sealed
  have fitting := fits_transaction fits destination asks.short
  have fitting' := fits_transaction fits' destination' asks'.short
  constructor
  · intro same
    obtain ⟨transaction, signature⟩ := Transaction.eq_of_signedBytes fitting fitting' same
    exact ⟨agrees_of_transaction transaction, signature⟩
  · intro same
    exact agrees_of_transaction (Transaction.eq_of_signingBytes fitting fitting' same)

/-- An authorization for the chain with the largest number. -/
def farAuthorization : Authorization := ⟨sampleSigner, 7, 90000, 1000000000, 2 ^ 64 - 1⟩

/-- Names everything that is not up to it. -/
def boldRequest : TransactionRequest where
  sender := some 0xbad
  destination := some (.account 0xc0)
  gasPrice := some 3
  gas := some 1
  value := some 5
  input := some [0x7f, 0x80]
  nonce := some 99
  chainId := some 77

/-- The number that holds chain and parity is longer than the chain's 64 bits. -/
theorem sign_faithful_far :
    farAuthorization.Fits ∧ boldRequest.Asks (.account 0xc0) [0x7f, 0x80] ∧
    ∃ e, farAuthorization.sign boldRequest = .ok e ∧ ∃ v, 2 ^ 65 < v ∧
      v = 35 + 2 * (2 ^ 64 - 1) + e.signature.parity.toNat ∧
      ((readList 9 e.raw).bind fun parts => parts[6]?.bind readNumber) = some v := by
  have fits : farAuthorization.Fits := ⟨by decide, by decide, by decide, by decide⟩
  have asks : boldRequest.Asks (.account 0xc0) [0x7f, 0x80] := ⟨by decide, rfl, rfl, rfl⟩
  obtain ⟨e, sealed, carries, _⟩ := sign_faithful fits asks
  obtain ⟨_, _, _, _, _, _, _, _, spelled, _, _, _, _, _, v, _⟩ := carries.spelled
  refine ⟨fits, asks, e, sealed, _, ?_, rfl, ?_⟩
  · omega
  · rw [spelled]
    exact v

end Authorization
end TokenClient
