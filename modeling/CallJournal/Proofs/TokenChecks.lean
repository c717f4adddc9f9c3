import CallJournal.Token.Extraction

namespace CallJournal.Token

/-- The parts between and around the last two dots of a token. -/
structure Parts.Make (parts : Parts) (token : String) : Prop where
  whole : token.toList = parts.header ++ '.' :: parts.payload ++ '.' :: parts.signature
  payload : '.' ∉ parts.payload
  signature : '.' ∉ parts.signature

/-- A part of a token encodes octets that something is read from. -/
def Encodes {α : Type _} (read : Octets → Option α) (part : List Char) (found : α) : Prop :=
  ∃ octets, Base64Url.decode part = .ok octets ∧ read octets = some found

theorem split_eq_ok_iff {token : String} {parts : Parts} :
    split token = .ok parts ↔ parts.Make token := by
  constructor
  · intro made
    unfold split at made
    split at made
    · cases made
    · rename_i message signature last
      split at made
      · cases made
      · rename_i header payload second
        cases made
        obtain ⟨whole, plainSignature⟩ := Text.cutLast_eq_some_iff.mp last
        obtain ⟨rfl, plainPayload⟩ := Text.cutLast_eq_some_iff.mp second
        exact ⟨whole, plainPayload, plainSignature⟩
  · intro made
    have last := Text.cutLast_eq_some_iff.mpr ⟨made.whole, made.signature⟩
    have second := Text.cutLast_append parts.header made.payload
    simp only [split, last, second]

theorem signature?_eq_none_iff {algorithm : Algorithm} {secret : Octets} {message : List Char} :
    algorithm.signature? secret message = none ↔ algorithm.family ≠ .hmac := by
  cases algorithm <;> simp [Algorithm.signature?, Algorithm.digest?, Algorithm.family]

theorem faulty_eq_ok_iff {α : Type _} {result : Except TokenFault α} {value : α} :
    faulty result = .ok value ↔ result = .ok value := by
  cases result with
  | error fault =>
    constructor <;> intro reached <;> cases reached
  | ok found =>
    constructor
    · rintro ⟨⟩
      rfl
    · rintro ⟨⟩
      rfl

theorem bind_eq_ok_iff {ε α β : Type _} {result : Except ε α} {next : α → Except ε β} {value : β} :
    (result >>= next) = .ok value ↔ ∃ found, result = .ok found ∧ next found = .ok value := by
  constructor
  · intro reached
    cases result with
    | error cause => cases reached
    | ok found => exact ⟨found, rfl, reached⟩
  · rintro ⟨found, rfl, reached⟩
    exact reached

theorem decodePart_eq_ok_iff {part : List Char} {octets : Octets} :
    decodePart part = .ok octets ↔ Base64Url.decode part = .ok octets := by
  rw [decodePart]
  cases Base64Url.decode part with
  | error cause => constructor <;> intro reached <;> cases reached
  | ok found => constructor <;> intro reached <;> cases reached <;> rfl

section

variable {libraries : Libraries} {parts : Parts} {token : String} {header : Header}

theorem parse_eq_ok_iff {α : Type _} {target : Target} {read : Octets → Option α} {octets : Octets}
    {found : α} : libraries.parse target read octets = .ok found ↔ read octets = some found := by
  rw [Libraries.parse]
  cases read octets <;> simp

theorem readHeader_eq_ok_iff {part : List Char} :
    readHeader libraries part = .ok header ↔ Encodes Header.ofOctets? part header := by
  simp only [readHeader, bind_eq_ok_iff, decodePart_eq_ok_iff, parse_eq_ok_iff, Encodes]

theorem headerOf_eq_ok_iff : headerOf libraries token = .ok header ↔
    ∃ parts : Parts, parts.Make token ∧ Encodes Header.ofOctets? parts.header header := by
  simp only [headerOf, bind_eq_ok_iff, split_eq_ok_iff, readHeader_eq_ok_iff]

theorem readClaims_eq_ok_iff {now : Int} {part : List Char} {claims : Fields} :
    readClaims libraries now part = .ok claims ↔
      Encodes Claims.ofOctets? part claims ∧
        ∃ registered, Encodes Registered.ofOctets? part registered ∧
          registered.isExpired now = false := by
  simp only [readClaims, bind_eq_ok_iff, decodePart_eq_ok_iff, parse_eq_ok_iff, Encodes]
  constructor
  · rintro ⟨octets, encoded, found, read, registered, known, last⟩
    cases expired : registered.isExpired now with
    | true =>
      rw [expired] at last
      cases last
    | false =>
      rw [expired] at last
      cases last
      exact ⟨⟨octets, encoded, read⟩, registered, ⟨octets, encoded, known⟩, expired⟩
  · rintro ⟨⟨octets, encoded, read⟩, registered, ⟨others, again, known⟩, current⟩
    cases encoded.symm.trans again
    refine ⟨octets, encoded, claims, read, registered, known, ?_⟩
    rw [current]
    rfl

/-- What stands between a token that has been cut and read and its payload. -/
def approve (libraries : Libraries) (key : Key) (validation : Validation) (header : Header)
    (parts : Parts) : Except TokenFault Unit := do
  checkFamily key validation
  checkSignature libraries key validation header parts

/-- What a key resolver has to say about a token before its claims are read. -/
def vouch (libraries : Libraries) (keyfunc : Keyfunc) (header : Header) (parts : Parts) :
    Except AuthError Unit := do
  let key ← keyfunc header
  faulty (approve libraries key ⟨header.algorithm, true⟩ header parts)

/-- The claim in the payload of a token, whoever signed it. -/
def payloadClaim (libraries : Libraries) (parts : Parts) (now : Int) (field : String) :
    Except AuthError String := do
  let claims ← faulty (readClaims libraries now parts.payload)
  render claims field

/-- The header that a token is decoded with is the one that its key was found for. -/
theorem payloadOf_of_make (made : parts.Make token)
    (read : Encodes Header.ofOctets? parts.header header) (key : Key) (validation : Validation) :
    payloadOf libraries key validation token =
      approve libraries key validation header parts >>= fun _ => .ok parts.payload := by
  rw [payloadOf, approve, split_eq_ok_iff.mpr made]
  cases checkFamily key validation with
  | error fault => rfl
  | ok =>
    change (readHeader libraries parts.header >>= _) = _
    rw [readHeader_eq_ok_iff.mpr read]
    rfl

theorem claim_of_make (made : parts.Make token)
    (read : Encodes Header.ofOctets? parts.header header) (keyfunc? : Option Keyfunc) (now : Int)
    (name : String) :
    claim libraries keyfunc? now name token = keyFor keyfunc? header >>= fun found =>
      faulty (approve libraries found.1 found.2 header parts) >>= fun _ =>
        payloadClaim libraries parts now name := by
  rw [claim, headerOf_eq_ok_iff.mpr ⟨parts, made, read⟩]
  change (keyFor keyfunc? header >>= _) = _
  congr 1
  funext ⟨key, validation⟩
  simp only [decode, payloadOf_of_make made read]
  cases approve libraries key validation header parts <;> rfl

theorem approve_of_unsuited {key : Key} (unsuited : key.family ≠ header.algorithm.family) :
    approve libraries key ⟨header.algorithm, true⟩ header parts = .error .algorithm := by
  rw [approve, checkFamily, if_pos ⟨rfl, unsuited⟩]
  rfl

theorem approve_of_suited {key : Key} (suited : key.family = header.algorithm.family) :
    approve libraries key ⟨header.algorithm, true⟩ header parts =
      match verify libraries key header.algorithm parts with
      | .error fault => .error fault
      | .ok true => .ok ()
      | .ok false => .error .signature := by
  have signed : ¬ (!(Validation.mk header.algorithm true).isSigned) = true := Bool.false_ne_true
  have same : ¬ header.algorithm ≠ (Validation.mk header.algorithm true).algorithm :=
    not_not_intro rfl
  rw [approve, checkFamily, if_neg fun unsuited => unsuited.2 suited]
  change checkSignature libraries key (.mk header.algorithm true) header parts = _
  unfold checkSignature
  exact (if_neg signed).trans (if_neg same)

theorem verify_cases {key : Key} {algorithm : Algorithm} (suited : key.family = algorithm.family) :
    (∃ accepted, verify libraries key algorithm parts = .ok accepted) ∨
      key.secret? = none ∧ ∃ cause, Base64Url.decode parts.signature = .error cause ∧
        verify libraries key algorithm parts = .error (.base64 cause) := by
  cases unshared : key.secret? with
  | some secret =>
    left
    have shared : algorithm.family = .hmac := by
      cases key <;> cases unshared
      exact suited.symm
    cases computed : algorithm.signature? secret parts.message with
    | none => exact absurd shared (signature?_eq_none_iff.mp computed)
    | some expected =>
      refine ⟨parts.signature == expected, ?_⟩
      rw [verify, unshared, Option.bind_some, computed]
  | none =>
    rw [verify, unshared, decodePart]
    cases Base64Url.decode parts.signature with
    | error cause => exact .inr ⟨rfl, cause, rfl, rfl⟩
    | ok signature => exact .inl ⟨_, rfl⟩

/-- A key may be for another algorithm, and a signature may be another one or, where a public key is
shown it, encoded wrongly. -/
theorem approve_cases (libraries : Libraries) (key : Key) (header : Header) (parts : Parts) :
    let approved := approve libraries key ⟨header.algorithm, true⟩ header parts
    approved = .ok () ∨ approved = .error .algorithm ∨ approved = .error .signature ∨
      key.secret? = none ∧ ∃ cause, Base64Url.decode parts.signature = .error cause ∧
        approved = .error (.base64 cause) := by
  intro approved
  by_cases suited : key.family = header.algorithm.family
  · simp only [approved, approve_of_suited suited]
    rcases verify_cases suited with ⟨accepted, verified⟩ | ⟨unshared, cause, unread, verified⟩
    · rw [verified]
      cases accepted with
      | true => exact .inl rfl
      | false => exact .inr (.inr (.inl rfl))
    · rw [verified]
      exact .inr (.inr (.inr ⟨unshared, cause, unread, rfl⟩))
  · exact .inr (.inl (approve_of_unsuited suited))

theorem claim_none_of_make (made : parts.Make token)
    (read : Encodes Header.ofOctets? parts.header header) (now : Int) (name : String) :
    claim libraries none now name token = payloadClaim libraries parts now name :=
  claim_of_make made read none now name

theorem claim_some_of_make (made : parts.Make token)
    (read : Encodes Header.ofOctets? parts.header header) (keyfunc : Keyfunc) (now : Int)
    (name : String) :
    claim libraries (some keyfunc) now name token =
      vouch libraries keyfunc header parts >>= fun _ => payloadClaim libraries parts now name := by
  rw [claim_of_make made read, keyFor, vouch]
  cases keyfunc header <;> rfl

end

end CallJournal.Token
