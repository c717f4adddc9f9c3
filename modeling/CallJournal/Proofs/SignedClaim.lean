import CallJournal.Proofs.TokenChecks

namespace CallJournal.Token

/-- What a signature is under a shared secret. Only three algorithms have one. -/
inductive Signs (secret : Octets) (message : List Char) : Algorithm → List Char → Prop
  | hs256 : Signs secret message .hs256
      (Base64Url.encode (sha256.keyed secret (octetsOf (String.ofList message))))
  | hs384 : Signs secret message .hs384
      (Base64Url.encode (sha384.keyed secret (octetsOf (String.ofList message))))
  | hs512 : Signs secret message .hs512
      (Base64Url.encode (sha512.keyed secret (octetsOf (String.ofList message))))

/-- The token that the first authorization value carries behind one of the accepted schemes. -/
def Carries (metadata : Metadata) (token : String) : Prop :=
  ∃ value scheme rest,
    (metadata.values authorizationHeader).head? = some (octetsOf value) ∧
      (octetsOf value).all Metadata.isReadable = true ∧
      value.toList = scheme ++ ' ' :: rest ∧ ' ' ∉ scheme ∧
      (∃ accepted ∈ schemes, Text.sameFolded accepted (String.ofList scheme) = true) ∧
      Text.trim (String.ofList rest) = token ∧ token.isEmpty = false

def rendering : Json → String
  | .string value => value
  | value => value.text

theorem signature?_eq_some_iff {algorithm : Algorithm} {secret : Octets}
    {message signature : List Char} :
    algorithm.signature? secret message = some signature ↔
      Signs secret message algorithm signature := by
  constructor
  · intro computed
    obtain ⟨digest, keyed, rfl⟩ := Option.map_eq_some_iff.mp computed
    cases algorithm with
    | hs256 => exact Option.some.inj keyed ▸ .hs256
    | hs384 => exact Option.some.inj keyed ▸ .hs384
    | hs512 => exact Option.some.inj keyed ▸ .hs512
    | _ => cases keyed
  · intro signs
    cases signs <;> rfl

theorem ofMetadata_eq_ok_iff {metadata : Metadata} {token : String} :
    ofMetadata metadata = .ok token ↔ Carries metadata token := by
  have key : Metadata.textKey? authorizationHeader = some authorizationHeader := by decide
  have first := metadata.first?_eq_head? key
  constructor
  · intro carried
    unfold ofMetadata at carried
    split at carried
    · cases carried
    · rename_i scheme rest cut
      obtain ⟨value, text, parted⟩ := Option.bind_eq_some_iff.mp cut
      obtain ⟨found, readable⟩ := Metadata.text?_eq_some_iff.mp text
      obtain ⟨whole, plain⟩ := Text.cutFirst_eq_some_iff.mp parted
      split at carried
      · cases carried
      · rename_i known
        have accepted := List.any_eq_true.mp (Bool.not_not_eq.mp known)
        dsimp only at carried
        split at carried
        · cases carried
        · rename_i filled
          cases carried
          exact ⟨value, scheme, rest, first ▸ found, readable, whole, plain, accepted, rfl,
            Bool.eq_false_iff.mpr filled⟩
  · rintro ⟨value, scheme, rest, found, readable, whole, plain, accepted, rfl, filled⟩
    have text := Metadata.text?_eq_some_iff.mpr ⟨first.trans found, readable⟩
    have parted := Text.cutFirst_eq_some_iff.mpr ⟨whole, plain⟩
    have known := List.any_eq_true.mpr accepted
    simp only [ofMetadata, text, Option.bind_some, parted, known, Bool.not_true,
      Bool.false_eq_true, if_false, filled]

theorem render_eq_ok_iff {claims : Fields} {field value : String} :
    render claims field = .ok value ↔
      ∃ claim, claims.get? field = some claim ∧ claim ≠ .null ∧ rendering claim = value := by
  unfold render
  cases found : claims.get? field with
  | none => simp
  | some claim => cases claim <;> simp [rendering]

section

variable {libraries : Libraries} {parts : Parts} {token : String} {header : Header}

theorem field_of_carries {metadata : Metadata} (carries : Carries metadata token)
    (keyfunc? : Option Keyfunc) (name : String) (now : Int) :
    field libraries metadata name keyfunc? now = claim libraries keyfunc? now name token := by
  rw [field, ofMetadata_eq_ok_iff.mpr carries]
  rfl

/-- A shared secret is for three algorithms only, and signs again what was signed. -/
theorem approve_secret (secret : Octets) :
    approve libraries (.secret secret) ⟨header.algorithm, true⟩ header parts =
      match header.algorithm.signature? secret parts.message with
      | none => .error .algorithm
      | some expected => if parts.signature = expected then .ok () else .error .signature := by
  cases computed : header.algorithm.signature? secret parts.message with
  | none => exact approve_of_unsuited (Ne.symm (signature?_eq_none_iff.mp computed))
  | some expected =>
    have suited : Key.family (.secret secret) = header.algorithm.family := by
      apply Decidable.byContradiction
      intro unsuited
      cases computed.symm.trans (signature?_eq_none_iff.mpr (Ne.symm unsuited))
    have verified : verify libraries (.secret secret) header.algorithm parts =
        .ok (parts.signature == expected) := by
      rw [verify, Key.secret?, Option.bind_some, computed]
    rw [approve_of_suited suited, verified]
    by_cases same : parts.signature = expected
    · simp only [same, beq_self_eq_true, if_true]
    · simp only [beq_false_of_ne same, if_neg same]

theorem approve_secret_eq_ok_iff {secret : Octets} :
    approve libraries (.secret secret) ⟨header.algorithm, true⟩ header parts = .ok () ↔
      Signs secret parts.message header.algorithm parts.signature := by
  rw [← signature?_eq_some_iff, approve_secret]
  cases header.algorithm.signature? secret parts.message with
  | none => simp
  | some expected =>
    by_cases same : parts.signature = expected
    · simp [same]
    · simp [same, Ne.symm same]

theorem vouch_of_signs {keyfunc : Keyfunc} {secret : Octets}
    (resolved : keyfunc header = .ok (.secret secret))
    (signs : Signs secret parts.message header.algorithm parts.signature) :
    vouch libraries keyfunc header parts = .ok () := by
  rw [vouch, resolved]
  exact faulty_eq_ok_iff.mpr (approve_secret_eq_ok_iff.mpr signs)

section

variable {secretOf : Header → Except AuthError Octets}

theorem ofSecrets_eq_ok_iff {key : Key} : Keyfunc.ofSecrets secretOf header = .ok key ↔
    ∃ secret, secretOf header = .ok secret ∧ key = .secret secret := by
  rw [Keyfunc.ofSecrets]
  cases secretOf header with
  | error cause => simp [Except.map]
  | ok secret => simp [Except.map, eq_comm]

theorem ofSecrets_eq_error_iff {cause : AuthError} :
    Keyfunc.ofSecrets secretOf header = .error cause ↔ secretOf header = .error cause := by
  rw [Keyfunc.ofSecrets]
  cases secretOf header <;> simp [Except.map]

end

/-- A resolver knows shared secrets only if every key that it gives is one. -/
theorem exists_ofSecrets_iff {keyfunc : Keyfunc} :
    (∃ secretOf, keyfunc = .ofSecrets secretOf) ↔
      ∀ header key, keyfunc header = .ok key → ∃ secret, key = .secret secret := by
  constructor
  · rintro ⟨secretOf, rfl⟩ header key resolved
    obtain ⟨secret, -, same⟩ := ofSecrets_eq_ok_iff.mp resolved
    exact ⟨secret, same⟩
  · intro secrets
    refine ⟨fun header => (keyfunc header).map fun key => key.secret?.getD [], ?_⟩
    funext header
    rw [Keyfunc.ofSecrets]
    cases resolved : keyfunc header with
    | error cause => rfl
    | ok key =>
      obtain ⟨secret, rfl⟩ := secrets header key resolved
      rfl

/-- With a key resolver a claim comes from a signed token, and from no other. -/
theorem claim_eq_ok_iff {secretOf : Header → Except AuthError Octets} {now : Int}
    {name value : String} :
    claim libraries (some (.ofSecrets secretOf)) now name token = .ok value ↔
      ∃ parts header secret, Parts.Make parts token ∧
        Encodes Header.ofOctets? parts.header header ∧ secretOf header = .ok secret ∧
        Signs secret parts.message header.algorithm parts.signature ∧
        payloadClaim libraries parts now name = .ok value := by
  constructor
  · intro taken
    obtain ⟨header, looked, -⟩ := bind_eq_ok_iff.mp taken
    obtain ⟨parts, made, read⟩ := headerOf_eq_ok_iff.mp (faulty_eq_ok_iff.mp looked)
    rw [claim_some_of_make made read] at taken
    obtain ⟨_, vouched, claimed⟩ := bind_eq_ok_iff.mp taken
    obtain ⟨key, resolved, approved⟩ := bind_eq_ok_iff.mp vouched
    obtain ⟨secret, known, rfl⟩ := ofSecrets_eq_ok_iff.mp resolved
    exact ⟨parts, header, secret, made, read, known,
      approve_secret_eq_ok_iff.mp (faulty_eq_ok_iff.mp approved), claimed⟩
  · rintro ⟨parts, header, secret, made, read, known, signs, claimed⟩
    rw [claim_some_of_make made read,
      vouch_of_signs (ofSecrets_eq_ok_iff.mpr ⟨_, known, rfl⟩) signs]
    exact claimed

end

/-- A claim that a call's token yields to a key resolver was signed, with the secret found for the
token's own header and by the algorithm that this header names. -/
theorem field_eq_ok_iff_signed (libraries : Libraries) (metadata : Metadata) (name : String)
    (secretOf : Header → Except AuthError Octets) (now : Int) (value : String) :
    field libraries metadata name (some (.ofSecrets secretOf)) now = .ok value ↔
      ∃ token parts header secret claims registered claim, Carries metadata token ∧
        Parts.Make parts token ∧ Encodes Header.ofOctets? parts.header header ∧
        secretOf header = .ok secret ∧
        Signs secret (parts.header ++ '.' :: parts.payload) header.algorithm parts.signature ∧
        Encodes Claims.ofOctets? parts.payload claims ∧
        Encodes Registered.ofOctets? parts.payload registered ∧
        registered.isExpired now = false ∧
        claims.get? name = some claim ∧ claim ≠ .null ∧ rendering claim = value := by
  rw [field, bind_eq_ok_iff]
  constructor
  · rintro ⟨token, carried, taken⟩
    obtain ⟨parts, header, secret, made, read, known, signs, claimed⟩ := claim_eq_ok_iff.mp taken
    obtain ⟨claims, held, rendered⟩ := bind_eq_ok_iff.mp claimed
    obtain ⟨encoded, registered, dated, current⟩ :=
      readClaims_eq_ok_iff.mp (faulty_eq_ok_iff.mp held)
    obtain ⟨claim, found, filled, text⟩ := render_eq_ok_iff.mp rendered
    exact ⟨token, parts, header, secret, claims, registered, claim, ofMetadata_eq_ok_iff.mp carried,
      made, read, known, signs, encoded, dated, current, found, filled, text⟩
  · rintro ⟨token, parts, header, secret, claims, registered, claim, carried, made, read, known,
      signs, encoded, dated, current, found, filled, text⟩
    have held : readClaims libraries now parts.payload = .ok claims :=
      readClaims_eq_ok_iff.mpr ⟨encoded, registered, dated, current⟩
    have rendered := render_eq_ok_iff.mpr ⟨claim, found, filled, text⟩
    have claimed : payloadClaim libraries parts now name = .ok value :=
      bind_eq_ok_iff.mpr ⟨claims, faulty_eq_ok_iff.mpr held, rendered⟩
    exact ⟨token, ofMetadata_eq_ok_iff.mpr carried,
      claim_eq_ok_iff.mpr ⟨parts, header, secret, made, read, known, signs, claimed⟩⟩

end CallJournal.Token
