import CallJournal.Proofs.SignedClaim
import CallJournal.Token.Signing

namespace CallJournal.Token

/-- A resolver stops a token for a reason of its own, or because of the signature, which is encoded
wrongly only where a public key is shown it. -/
theorem vouch_cases (libraries : Libraries) (keyfunc : Keyfunc) (header : Header) (parts : Parts) :
    let vouched := vouch libraries keyfunc header parts
    vouched = .ok () ∨ (∃ cause, keyfunc header = .error cause ∧ vouched = .error cause) ∨
      vouched = .error (.token .algorithm) ∨ vouched = .error (.token .signature) ∨
      ∃ key cause, keyfunc header = .ok key ∧ key.secret? = none ∧
        vouched = .error (.token (.base64 cause)) := by
  intro vouched
  unfold vouched vouch
  cases keyfunc header with
  | error cause => exact .inr (.inl ⟨cause, rfl, rfl⟩)
  | ok key =>
    rcases approve_cases libraries key header parts with
      passed | unsuited | forged | ⟨unshared, cause, -, unread⟩
    · exact .inl (congrArg faulty passed)
    · exact .inr (.inr (.inl (congrArg faulty unsuited)))
    · exact .inr (.inr (.inr (.inl (congrArg faulty forged))))
    · exact .inr (.inr (.inr (.inr ⟨key, cause, rfl, unshared, congrArg faulty unread⟩)))

/-- With a resolver the same is taken as without one, unless it stops the token. -/
theorem claim_some_cases (libraries : Libraries) (keyfunc : Keyfunc) (now : Int)
    (name token : String) :
    let verified := claim libraries (some keyfunc) now name token
    verified = claim libraries none now name token ∨
      (∃ header cause, keyfunc header = .error cause ∧ verified = .error cause) ∨
      verified = .error (.token .algorithm) ∨ verified = .error (.token .signature) ∨
      ∃ header key cause, keyfunc header = .ok key ∧ key.secret? = none ∧
        verified = .error (.token (.base64 cause)) := by
  intro verified
  cases looked : headerOf libraries token with
  | error fault =>
    -- A token that is cut or read wrongly is stopped before the resolver is asked.
    left
    simp only [verified, claim, looked]
    rfl
  | ok header =>
    obtain ⟨parts, made, read⟩ := headerOf_eq_ok_iff.mp looked
    simp only [verified, claim_none_of_make made read, claim_some_of_make made read]
    rcases vouch_cases libraries keyfunc header parts with
      passed | ⟨cause, refused, stopped⟩ | unsuited | forged | ⟨key, cause, known, unshared, unread⟩
    · rw [passed]
      exact .inl rfl
    · rw [stopped]
      exact .inr (.inl ⟨header, cause, refused, rfl⟩)
    · rw [unsuited]
      exact .inr (.inr (.inl rfl))
    · rw [forged]
      exact .inr (.inr (.inr (.inl rfl)))
    · rw [unread]
      exact .inr (.inr (.inr (.inr ⟨header, key, cause, known, unshared, rfl⟩)))

theorem eq_ok_of_toOption {α : Type _} {result : Except AuthError α} {value : α}
    (found : result.toOption = some value) : result = .ok value := by
  cases result with
  | error cause => cases found
  | ok value => exact congrArg Except.ok (Option.some.inj found)

/-- Whatever is taken with a resolver is taken without it too, unless it is the resolver's own
error or one of the signature; and under the right signature both take the same. -/
theorem field_agrees_unverified (libraries : Libraries) (metadata : Metadata) (name : String)
    (secretOf : Header → Except AuthError Octets) (now : Int)
    (own : ∀ header cause, secretOf header = .error cause →
      ∃ reason, cause = .keyResolution reason) :
    let verified := field libraries metadata name (some (.ofSecrets secretOf)) now
    let plain := field libraries metadata name none now
    ((∀ reason, verified ≠ .error (.keyResolution reason)) →
      verified ≠ .error (.token .algorithm) → verified ≠ .error (.token .signature) →
      plain = verified) ∧
    (∀ token parts header secret, Carries metadata token → Parts.Make parts token →
      Encodes Header.ofOctets? parts.header header → secretOf header = .ok secret →
      Signs secret (parts.header ++ '.' :: parts.payload) header.algorithm parts.signature →
      verified = plain) := by
  intro verified plain
  simp only [verified, plain]
  constructor
  · intro resolved algorithmic signed
    cases carried : ofMetadata metadata with
    | error cause =>
      rw [field, field, carried]
      rfl
    | ok token =>
      have taken (keyfunc? : Option Keyfunc) : field libraries metadata name keyfunc? now =
          claim libraries keyfunc? now name token :=
        field_of_carries (ofMetadata_eq_ok_iff.mp carried) keyfunc? name now
      rw [taken] at resolved algorithmic signed
      rw [taken, taken]
      rcases claim_some_cases libraries (.ofSecrets secretOf) now name token with
        same | ⟨header, cause, refused, stopped⟩ | unsuited | forged |
          ⟨header, key, cause, known, unshared, -⟩
      · exact same.symm
      · obtain ⟨reason, rfl⟩ := own header cause (ofSecrets_eq_error_iff.mp refused)
        exact absurd stopped (resolved reason)
      · exact absurd unsuited algorithmic
      · exact absurd forged signed
      · obtain ⟨secret, -, rfl⟩ := ofSecrets_eq_ok_iff.mp known
        cases unshared
  · intro token parts header secret carries made read known signs
    have resolved := ofSecrets_eq_ok_iff.mpr ⟨secret, known, rfl⟩
    rw [field_of_carries carries, field_of_carries carries, claim_none_of_make made read,
      claim_some_of_make made read, vouch_of_signs resolved signs]
    rfl

/-- A signed token gives its account both ways, and says the same about claims it lacks. -/
theorem field_agrees_unverified_on_test_token :
    let token := "eyJ0eXAiOiJKV1QiLCJhbGciOiJIUzI1NiJ9.eyJhY2NvdW50X2lkIjoiVGVzdEFjY291bnQifQ." ++
      "idLpKH5m0FF5ahL_eMYEuTEk4NCZKtJN0a5KBx_MoE4"
    let metadata : Metadata := ⟨[(authorizationHeader, octetsOf ("Bearer " ++ token))]⟩
    field .silent metadata accountField (some testKeyfunc) 0 = .ok "TestAccount" ∧
      field .silent metadata accountField none 0 = .ok "TestAccount" ∧
      field .silent metadata "roles" (some testKeyfunc) 0 =
        field .silent metadata "roles" none 0 := by
  intro token metadata
  let secretOf : Header → Except AuthError Octets := fun _ => .ok (octetsOf testSecret)
  have own : ∀ header cause, secretOf header = .error cause →
      ∃ reason, cause = .keyResolution reason := by
    simp [secretOf]
  have account : field .silent metadata accountField (some (.ofSecrets secretOf)) 0 =
      .ok "TestAccount" :=
    eq_ok_of_toOption (by decide +kernel)
  refine ⟨account, ?_, ?_⟩
  · have same := (field_agrees_unverified .silent metadata accountField secretOf 0 own).1
    rw [account] at same
    exact same (by simp) (by simp) (by simp)
  · obtain ⟨found, carried, taken⟩ := bind_eq_ok_iff.mp account
    obtain ⟨parts, header, secret, made, read, known, signs, -⟩ := claim_eq_ok_iff.mp taken
    exact (field_agrees_unverified .silent metadata "roles" secretOf 0 own).2 found parts header
      secret (ofMetadata_eq_ok_iff.mp carried) made read known signs

end CallJournal.Token
