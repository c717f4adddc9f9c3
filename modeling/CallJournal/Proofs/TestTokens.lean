import CallJournal.Proofs.Base64Text
import CallJournal.Proofs.UnverifiedClaim
import CallJournal.Proofs.WrittenClaims

/-! Signing prints, encodes and joins; taking a claim cuts, decodes and reads. Each step is undone
by its counterpart. -/

namespace CallJournal.Token

section Metadata

/-- Characters that can be read where they are sent, and at which no token is cut or trimmed. -/
def IsSolid (char : Char) : Prop :=
  (String.utf8EncodeChar char).all Metadata.isReadable = true ∧ Text.isBlank char = false

theorem isSolid_of_isSymbol {char : Char} (symbolic : Base64Url.IsSymbol char) : IsSolid char := by
  have readable : ∀ value < 64,
      (String.utf8EncodeChar (Base64Url.symbol value)).all Metadata.isReadable = true := by decide
  have visible : ∀ value < 64, Text.isBlank (Base64Url.symbol value) = false := by decide
  obtain ⟨value, small, rfl⟩ := symbolic
  exact ⟨readable value small, visible value small⟩

theorem isSolid_of_toLower {char : Char} (letter : char.toLower.isLower = true) :
    IsSolid char := by
  have every : ∀ code < 128, (Char.ofNat code).toLower.isLower = true →
      (String.utf8EncodeChar (Char.ofNat code)).all Metadata.isReadable = true ∧
        Text.isBlank (Char.ofNat code) = false := by
    decide
  have bounds := Bool.and_eq_true_iff.mp letter
  have ascii : char.toNat < 128 := by
    apply Text.toNat_lt_of_toLower
    exact Nat.lt_of_le_of_lt (UInt32.le_iff_toNat_le.mp (of_decide_eq_true bounds.2)) (by decide)
  have solid := every char.toNat ascii
  rw [Char.ofNat_toNat] at solid
  exact solid letter

/-- A scheme in any letter case is made of letters. -/
theorem isSolid_of_scheme {accepted scheme : String} (among : accepted ∈ schemes)
    (folded : Text.sameFolded accepted scheme = true) : ∀ char ∈ scheme.toList, IsSolid char := by
  have letters : ∀ accepted ∈ schemes,
      (Text.lowered accepted).toList.all Char.isLower = true := by
    decide
  intro char found
  apply isSolid_of_toLower
  apply List.all_eq_true.mp (letters accepted among)
  rw [Text.sameFolded_iff.mp folded, Text.toList_lowered]
  exact List.mem_map_of_mem found

/-- A token of solid characters is carried behind its scheme as it is. -/
theorem carries_of_isSolid {metadata : Metadata} {scheme accepted token : String}
    (among : accepted ∈ schemes) (folded : Text.sameFolded accepted scheme = true)
    (first : (metadata.values authorizationHeader).head? =
      some (octetsOf (scheme ++ " " ++ token)))
    (solid : ∀ char ∈ token.toList, IsSolid char) (filled : token.isEmpty = false) :
    Carries metadata token := by
  have named := isSolid_of_scheme among folded
  have whole : (scheme ++ " " ++ token).toList = scheme.toList ++ ' ' :: token.toList := by simp
  refine ⟨scheme ++ " " ++ token, scheme.toList, token.toList, first, ?_, whole, ?_,
    ⟨accepted, among, ?_⟩, ?_, filled⟩
  · apply Metadata.readable_of_chars
    intro char found
    rw [whole, List.mem_append, List.mem_cons] at found
    rcases found with before | rfl | after
    · exact (named char before).1
    · decide
    · exact (solid char after).1
  · intro inside
    exact Bool.noConfusion (named ' ' inside).2
  · rwa [String.ofList_toList]
  · rw [String.ofList_toList]
    exact Text.trim_eq_self fun char found => (solid char found).2

end Metadata

section Payload

variable {claims : Fields}

/-- Claims without dates and without a subject spoil no payload. -/
theorem not_spoilt_of_plain (plain : ∀ name ∈ ["exp", "nbf", "sub"], claims.get? name = none) :
    ¬ Claims.Spoilt claims.entries := by
  have absent {name : String} {value : Json} (named : name ∈ ["exp", "nbf", "sub"])
      (member : (name, value) ∈ claims.entries) : False := by
    have differs := List.lookup_eq_none_iff.mp (plain name named) (name, value) member
    simp at differs
  intro spoilt
  cases spoilt with
  | repeated name named twice =>
    rw [Claims.count_names] at twice
    exact Nat.not_le_of_lt twice (length_filter_le_one claims.ascending name)
  | date name value named member filled =>
    exact absent (List.mem_append_left ["sub"] named) member
  | subject value member container => exact absent (by decide) member

variable {libraries : Libraries} {part : List Char}

/-- Of members that are written down all are read, unless they spoil the payload or expired. -/
theorem readClaims_of_written {text : String} {members : List (String × Json)}
    (decoded : Base64Url.decode part = .ok (octetsOf text))
    (written : Claims.written? text = some members) (now : Int) :
    readClaims libraries now part =
      match Registered.ofMembers? members with
      | none => .error (.json (libraries.reason .registered (octetsOf text)))
      | some registered =>
        if registered.isExpired now then .error .expired else .ok (Fields.ofList members) := by
  rw [readClaims, decodePart, decoded]
  change (libraries.parse .claims Claims.ofOctets? (octetsOf text) >>= _) = _
  rw [Libraries.parse, Claims.ofOctets?_of_written written]
  change (libraries.parse .registered Registered.ofOctets? (octetsOf text) >>= _) = _
  rw [Libraries.parse, Claims.registered_of_written written]
  cases Registered.ofMembers? members <;> rfl

theorem readClaims_encode (encoded : part = Base64Url.encode (octetsOf claims.text))
    (faithful : claims.toJson.Faithful) (shallow : claims.toJson.depth ≤ 127)
    (plain : ∀ name ∈ ["exp", "nbf", "sub"], claims.get? name = none) (now : Int) :
    readClaims libraries now part = .ok claims := by
  have decoded : Base64Url.decode part = .ok (octetsOf claims.text) :=
    encoded ▸ Base64Url.decode_encode _
  have kept : Fields.ofList claims.entries = claims := Fields.empty_merge claims
  rw [readClaims_of_written decoded (Claims.written?_text faithful shallow),
    Claims.ofMembers?_of_not_spoilt (not_spoilt_of_plain plain), kept, plain "exp" (by decide)]
  rfl

end Payload

section Signing

theorem encodes_headerText (algorithm : Algorithm) :
    ∃ header, Encodes Header.ofOctets? (Base64Url.encode (octetsOf (headerText algorithm))) header ∧
      header.algorithm = algorithm := by
  have every : ∀ algorithm ∈ Algorithm.all,
      (Header.ofOctets? (octetsOf (headerText algorithm))).map Header.algorithm =
        some algorithm := by
    decide +kernel
  have listed : algorithm ∈ Algorithm.all := by cases algorithm <;> decide
  obtain ⟨header, read, same⟩ := Option.map_eq_some_iff.mp (every algorithm listed)
  exact ⟨header, ⟨_, Base64Url.decode_encode _, read⟩, same⟩

/-- The parts of a test token with a given digest. -/
def testParts (algorithm : Algorithm) (claims : Json) (digest : Octets) : Parts where
  header := Base64Url.encode (octetsOf (headerText algorithm))
  payload := Base64Url.encode (octetsOf claims.text)
  signature := Base64Url.encode digest

def Parts.token (parts : Parts) : String :=
  String.ofList (parts.message ++ '.' :: parts.signature)

theorem exists_digest {algorithm : Algorithm} (keyed : algorithm ∈ [.hs256, .hs384, .hs512])
    (secret message : Octets) : ∃ digest, algorithm.digest? secret message = some digest := by
  simp only [List.mem_cons, List.not_mem_nil, or_false] at keyed
  rcases keyed with rfl | rfl | rfl <;> exact ⟨_, rfl⟩

/-- With a shared secret a test token can be made, and it is signed with the test secret. -/
theorem sign_eq_ok {algorithm : Algorithm} (keyed : algorithm ∈ [.hs256, .hs384, .hs512])
    (claims : Json) :
    ∃ digest, sign algorithm claims = .ok (testParts algorithm claims digest).token ∧
      Signs (octetsOf testSecret) (testParts algorithm claims digest).message algorithm
        (testParts algorithm claims digest).signature := by
  obtain ⟨digest, keyedDigest⟩ := exists_digest keyed (octetsOf testSecret)
    (octetsOf (String.ofList (testParts algorithm claims []).message))
  have signature : algorithm.signature? (octetsOf testSecret)
      (testParts algorithm claims []).message = some (Base64Url.encode digest) := by
    rw [Algorithm.signature?, keyedDigest, Option.map_some]
  refine ⟨digest, ?_, signature?_eq_some_iff.mp signature⟩
  simp only [testParts, Parts.message] at signature
  simp only [sign, signature, testParts, Parts.token, Parts.message]

theorem not_mem_encode (octets : Octets) : '.' ∉ Base64Url.encode octets := by
  have every : ∀ value < 64, Base64Url.symbol value ≠ '.' := by decide
  intro found
  obtain ⟨value, small, same⟩ := Base64Url.isSymbol_of_mem_encode found
  exact every value small same

theorem make_testParts (algorithm : Algorithm) (claims : Json) (digest : Octets) :
    (testParts algorithm claims digest).Make (testParts algorithm claims digest).token where
  whole := by rw [Parts.token, String.toList_ofList, Parts.message]
  payload := not_mem_encode _
  signature := not_mem_encode _

theorem isSolid_testParts {algorithm : Algorithm} {claims : Json} {digest : Octets} :
    ∀ char ∈ (testParts algorithm claims digest).token.toList, IsSolid char := by
  intro char found
  rw [(make_testParts algorithm claims digest).whole] at found
  simp only [List.append_assoc, List.cons_append, List.mem_append, List.mem_cons] at found
  have symbolic {octets : Octets} (among : char ∈ Base64Url.encode octets) : IsSolid char :=
    isSolid_of_isSymbol (Base64Url.isSymbol_of_mem_encode among)
  rcases found with header | rfl | payload | rfl | signature
  · exact symbolic header
  · exact ⟨by decide, by decide⟩
  · exact symbolic payload
  · exact ⟨by decide, by decide⟩
  · exact symbolic signature

theorem isEmpty_token (parts : Parts) : parts.token.isEmpty = false := by
  simp [Parts.token]

end Signing

/-- Claims signed with the test secret are taken from the token again, verified or not: a string
as itself, null as missing, and everything else as its compact text. -/
theorem sign_gives_claims_back (algorithm : Algorithm)
    (keyed : algorithm ∈ [.hs256, .hs384, .hs512]) (claims : Fields)
    (faithful : claims.toJson.Faithful) (shallow : claims.toJson.depth ≤ 127)
    (plain : ∀ name ∈ ["exp", "nbf", "sub"], claims.get? name = none) :
    ∃ token, sign algorithm claims.toJson = .ok token ∧
      ∀ (libraries : Libraries) (metadata : Metadata) (scheme name : String) (now : Int),
        (∃ accepted ∈ ["bearer", "token"], Text.sameFolded accepted scheme = true) →
        (metadata.values "authorization").head? = some (octetsOf (scheme ++ " " ++ token)) →
        ∀ keyfunc? ∈ [none, some testKeyfunc],
          field libraries metadata name keyfunc? now =
            match claims.get? name with
            | none | some .null => .error (.missingClaim name)
            | some (.string value) => .ok value
            | some value => .ok value.text := by
  obtain ⟨digest, signed, signs⟩ := sign_eq_ok keyed claims.toJson
  refine ⟨_, signed, ?_⟩
  rintro libraries metadata scheme name now ⟨accepted, among, folded⟩ first keyfunc? either
  obtain ⟨header, read, rfl⟩ := encodes_headerText algorithm
  have carries := carries_of_isSolid among folded first isSolid_testParts (isEmpty_token _)
  have made := make_testParts header.algorithm claims.toJson digest
  let parts := testParts header.algorithm claims.toJson digest
  have held : readClaims libraries now parts.payload = .ok claims :=
    readClaims_encode rfl faithful shallow plain now
  have found : payloadClaim libraries parts now name = render claims name := by
    rw [payloadClaim, held]
    rfl
  rw [field_of_carries carries]
  simp only [List.mem_cons, List.not_mem_nil, or_false] at either
  rcases either with rfl | rfl
  · rw [claim_none_of_make made read, found]
    rfl
  · rw [claim_some_of_make made read, vouch_of_signs rfl signs]
    change payloadClaim libraries _ now name = _
    rw [found]
    rfl

/-- A text outside ASCII, a list, null and a name that is not there, each both ways. -/
theorem sign_gives_mixed_claims_back :
    let claims : Fields := .ofList
      [("näme", .string "Zoë \"\n"), ("roles", .array [.ofNat 7, .null]), ("none", .null)]
    ∃ token, sign .hs384 claims.toJson = .ok token ∧
      let metadata : Metadata := ⟨[("authorization", octetsOf ("bEaReR" ++ " " ++ token))]⟩
      ∀ keyfunc? ∈ [none, some testKeyfunc],
        field .silent metadata "näme" keyfunc? 0 = .ok "Zoë \"\n" ∧
        field .silent metadata "roles" keyfunc? 0 = .ok "[7,null]" ∧
        field .silent metadata "none" keyfunc? 0 = .error (.missingClaim "none") ∧
        field .silent metadata "other" keyfunc? 0 = .error (.missingClaim "other") := by
  intro claims
  have faithful : claims.toJson.Faithful := by
    refine .object fun member found => ?_
    have entries : claims.entries =
        [("none", .null), ("näme", .string "Zoë \"\n"), ("roles", .array [.ofNat 7, .null])] := rfl
    rw [entries] at found
    simp only [List.mem_cons, List.not_mem_nil, or_false] at found
    rcases found with rfl | rfl | rfl
    · exact .null
    · exact .string _
    · refine .array fun item listed => ?_
      simp only [List.mem_cons, List.not_mem_nil, or_false] at listed
      rcases listed with rfl | rfl
      · exact .whole _
      · exact .null
  have plain : ∀ name ∈ ["exp", "nbf", "sub"], claims.get? name = none := by
    intro name among
    simp only [List.mem_cons, List.not_mem_nil, or_false] at among
    rcases among with rfl | rfl | rfl <;> rfl
  obtain ⟨token, signed, taken⟩ := sign_gives_claims_back .hs384 (by decide) claims faithful
    (by decide) plain
  refine ⟨token, signed, fun keyfunc? either => ?_⟩
  let metadata : Metadata := ⟨[("authorization", octetsOf ("bEaReR" ++ " " ++ token))]⟩
  have found := fun name =>
    taken .silent metadata "bEaReR" name 0 ⟨"bearer", by decide, by decide⟩ rfl keyfunc? either
  exact ⟨found "näme", (found "roles").trans (congrArg Except.ok (by decide)), found "none",
    found "other"⟩

end CallJournal.Token
