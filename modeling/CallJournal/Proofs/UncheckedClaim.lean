import CallJournal.Proofs.TestTokens

/-! Without a key resolver no signature matters, but the payload must not be spoilt and must not
have expired. -/

namespace CallJournal.Token

/-- Among the members of a payload is an expiry date more than a minute in the past. -/
def Claims.Expired (entries : List (String × Json)) (now : Int) : Prop :=
  ∃ date second, entries.lookup "exp" = some date ∧ Registered.second? date = some second ∧
    (second : Int) + 60 < now

/-- The object that a text is has members that spoil it as a payload. -/
def Claims.IsSpoilt (text : String) : Prop :=
  ∃ members, Claims.written? text = some members ∧ Claims.Spoilt members

/-- A call carries a token of these parts. Its header can be read, and its payload is the text of an
object with these members. -/
structure Bears (metadata : Metadata) (parts : Parts) (text : String)
    (entries : List (String × Json)) : Prop where
  carried : ∃ token, Carries metadata token ∧ parts.Make token
  header : ∃ header, Encodes Header.ofOctets? parts.header header
  payload : Base64Url.decode parts.payload = .ok (octetsOf text)
  object : Json.read? text = some (.object entries)

section

variable {metadata : Metadata} {parts : Parts} {text : String} {entries : List (String × Json)}
variable {libraries : Libraries}

theorem isExpired_eq_true_iff {now : Int} :
    Registered.isExpired ⟨(entries.lookup "exp").bind Registered.second?⟩ now = true ↔
      Claims.Expired entries now := by
  rw [Registered.isExpired]
  constructor
  · intro expired
    cases found : (entries.lookup "exp").bind Registered.second? with
    | none =>
      rw [found] at expired
      cases expired
    | some second =>
      rw [found] at expired
      obtain ⟨date, dated, counted⟩ := Option.bind_eq_some_iff.mp found
      have late : (second : Int) < now - Registered.leeway := of_decide_eq_true expired
      exact ⟨date, second, dated, counted, by unfold Registered.leeway at late; omega⟩
  · rintro ⟨date, second, dated, counted, late⟩
    have found := Option.bind_eq_some_iff.mpr ⟨date, dated, counted⟩
    rw [found]
    exact decide_eq_true (by unfold Registered.leeway; omega)

theorem Bears.field_eq (bears : Bears metadata parts text entries) (name : String) (now : Int) :
    field libraries metadata name none now = payloadClaim libraries parts now name := by
  obtain ⟨token, carries, made⟩ := bears.carried
  obtain ⟨header, read⟩ := bears.header
  exact (field_of_carries carries none name now).trans (claim_none_of_make made read now name)

theorem Bears.field_of_isSpoilt (bears : Bears metadata parts text entries)
    (spoilt : Claims.IsSpoilt text) (name : String) (now : Int) :
    field libraries metadata name none now =
      .error (.token (.json (libraries.reason .registered (octetsOf text)))) := by
  obtain ⟨members, written, spoils⟩ := spoilt
  rw [bears.field_eq, payloadClaim, readClaims_of_written bears.payload written,
    Claims.ofMembers?_of_spoilt spoils]
  rfl

/-- The claims of a payload that is not spoilt are its members. -/
theorem Bears.exists_claims (bears : Bears metadata parts text entries)
    (sound : ¬ Claims.IsSpoilt text) (libraries : Libraries) :
    ∃ claims : Fields, claims.entries = entries ∧ ∀ now, readClaims libraries now parts.payload =
      if Registered.isExpired ⟨(entries.lookup "exp").bind Registered.second?⟩ now then
        .error .expired
      else .ok claims := by
  obtain ⟨members, written, sorted⟩ := Claims.exists_written?_iff.mp bears.object
  have kept := (Claims.entries_ofList_of_written written).trans sorted
  refine ⟨Fields.ofList members, kept, fun now => ?_⟩
  rw [readClaims_of_written bears.payload written,
    Claims.ofMembers?_of_not_spoilt fun spoils => sound ⟨members, written, spoils⟩,
    Fields.get?, kept]

theorem Bears.field_of_expired (bears : Bears metadata parts text entries)
    (sound : ¬ Claims.IsSpoilt text) {now : Int} (expired : Claims.Expired entries now)
    (name : String) : field libraries metadata name none now = .error (.token .expired) := by
  obtain ⟨claims, -, held⟩ := bears.exists_claims sound libraries
  rw [bears.field_eq, payloadClaim, held, if_pos (isExpired_eq_true_iff.mpr expired)]
  rfl

theorem Bears.field_of_current (bears : Bears metadata parts text entries)
    (sound : ¬ Claims.IsSpoilt text) {now : Int} (current : ¬ Claims.Expired entries now)
    {name : String} {claim : Json} (found : entries.lookup name = some claim)
    (present : claim ≠ .null) : field libraries metadata name none now = .ok (rendering claim) := by
  obtain ⟨claims, rfl, held⟩ := bears.exists_claims sound libraries
  rw [bears.field_eq, payloadClaim, held, if_neg (mt isExpired_eq_true_iff.mp current)]
  exact render_eq_ok_iff.mpr ⟨claim, found, present, rfl⟩

/-- Without a key resolver a claim is taken as it stands exactly if the payload is neither spoilt
nor expired. The signature plays no part in this. -/
theorem takes_unchecked_claim_iff_current (libraries : Libraries)
    (bears : Bears metadata parts text entries) {name : String} {claim : Json}
    (found : entries.lookup name = some claim) (present : claim ≠ .null) (now : Int) :
    (field libraries metadata name none now = .ok (rendering claim) ↔
        ¬ Claims.IsSpoilt text ∧ ¬ Claims.Expired entries now) ∧
      (Claims.IsSpoilt text → field libraries metadata name none now =
        .error (.token (.json (libraries.reason .registered (octetsOf text))))) ∧
      (¬ Claims.IsSpoilt text → Claims.Expired entries now →
        field libraries metadata name none now = .error (.token .expired)) := by
  refine ⟨⟨?_, ?_⟩, fun spoilt => bears.field_of_isSpoilt spoilt name now,
    fun sound expired => bears.field_of_expired sound expired name⟩
  · intro taken
    have sound : ¬ Claims.IsSpoilt text := by
      intro spoilt
      rw [bears.field_of_isSpoilt spoilt] at taken
      cases taken
    refine ⟨sound, ?_⟩
    intro expired
    rw [bears.field_of_expired sound expired] at taken
    cases taken
  · rintro ⟨sound, current⟩
    exact bears.field_of_current sound current found present

end

/-- A call with a token that anybody could have made: it is printed like a test token, but has no
signature. -/
def unsignedParts (claims : Fields) : Parts := testParts .hs256 claims.toJson []

def unsignedCall (claims : Fields) : Metadata :=
  ⟨[(authorizationHeader, octetsOf ("Bearer" ++ " " ++ (unsignedParts claims).token))]⟩

theorem bears_unsignedCall {claims : Fields} (faithful : claims.toJson.Faithful)
    (shallow : claims.toJson.depth ≤ 127) :
    Bears (unsignedCall claims) (unsignedParts claims) claims.text claims.entries where
  carried := by
    have accepted : "bearer" ∈ schemes := by decide
    have folded : Text.sameFolded "bearer" "Bearer" = true := by decide
    exact ⟨_, carries_of_isSolid accepted folded rfl isSolid_testParts (isEmpty_token _),
      make_testParts _ _ _⟩
  header := by
    obtain ⟨header, read, -⟩ := encodes_headerText .hs256
    exact ⟨header, read⟩
  payload := Base64Url.decode_encode _
  object := by
    apply Claims.exists_written?_iff.mpr
    exact ⟨claims.entries, Claims.written?_text faithful shallow, ascend_eq_self claims.ascending⟩

theorem isSpoilt_text_iff {claims : Fields} (faithful : claims.toJson.Faithful)
    (shallow : claims.toJson.depth ≤ 127) :
    Claims.IsSpoilt claims.text ↔ Claims.Spoilt claims.entries := by
  have written := Claims.written?_text faithful shallow
  constructor
  · rintro ⟨members, same, spoilt⟩
    exact Option.some.inj (written.symm.trans same) ▸ spoilt
  · intro spoilt
    exact ⟨claims.entries, written, spoilt⟩

/-- One minute after its expiry a token without a signature still yields its claims. -/
theorem takes_unsigned_claim_until_leeway :
    let claims : Fields := .ofList
      [(accountField, .string "TestAccount"), ("exp", .ofNat 1), ("nbf", .string "never"),
        ("sub", .null), ("aud", .array [.ofNat 7])]
    Bears (unsignedCall claims) (unsignedParts claims) claims.text claims.entries ∧
      field .silent (unsignedCall claims) accountField none 61 = .ok "TestAccount" := by
  intro claims
  have entries : claims.entries =
      [(accountField, .string "TestAccount"), ("aud", .array [.ofNat 7]), ("exp", .ofNat 1),
        ("nbf", .string "never"), ("sub", .null)] := rfl
  have faithful : claims.toJson.Faithful := by simp [Fields.toJson, entries]
  have shallow : claims.toJson.depth ≤ 127 := by decide
  have bears := bears_unsignedCall faithful shallow
  have sound : ¬ Claims.IsSpoilt claims.text := by
    rw [isSpoilt_text_iff faithful shallow, Claims.spoilt_iff, entries]
    decide
  have current : ¬ Claims.Expired claims.entries 61 := by
    rintro ⟨date, second, dated, counted, late⟩
    cases dated
    cases counted
    exact absurd late (by decide)
  have found : claims.entries.lookup accountField = some (.string "TestAccount") := rfl
  have present : Json.string "TestAccount" ≠ .null := by
    intro impossible
    cases impossible
  have taken := takes_unchecked_claim_iff_current .silent bears found present 61
  exact ⟨bears, taken.1.mpr ⟨sound, current⟩⟩

/-- A second later nothing is taken from the token any more. -/
theorem expired_claim_is_not_taken_as_it_stands :
    let claims : Fields := .ofList [(accountField, .string "TestAccount"), ("exp", .ofNat 1)]
    Bears (unsignedCall claims) (unsignedParts claims) claims.text claims.entries ∧
      claims.entries.lookup accountField = some (.string "TestAccount") ∧
      field .silent (unsignedCall claims) accountField none 62 = .error (.token .expired) := by
  intro claims
  have entries : claims.entries =
      [(accountField, .string "TestAccount"), ("exp", .ofNat 1)] := rfl
  have faithful : claims.toJson.Faithful := by simp [Fields.toJson, entries]
  have shallow : claims.toJson.depth ≤ 127 := by decide
  have bears := bears_unsignedCall faithful shallow
  have sound : ¬ Claims.IsSpoilt claims.text := by
    rw [isSpoilt_text_iff faithful shallow, Claims.spoilt_iff, entries]
    decide
  have expired : Claims.Expired claims.entries 62 := ⟨.ofNat 1, 1, rfl, rfl, by decide⟩
  exact ⟨bears, rfl, bears.field_of_expired sound expired accountField⟩

end CallJournal.Token
