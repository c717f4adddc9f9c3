import CallJournal.Reception

namespace CallJournal

namespace RequestId

/-- A metadata value that can be used as a request ID: it is readable and not empty. -/
def IsUsable (value : Octets) : Prop := value.all Metadata.isReadable = true ∧ value ≠ []

def ofOctets? (value : Octets) : Option RequestId := (Metadata.readable? value).bind ofText?

theorem isEmpty_eq_false_iff {id : RequestId} : id.isEmpty = false ↔ octetsOf id.text ≠ [] := by
  have nothing : octetsOf "" = [] := by decide
  have same : id.text = "" ↔ octetsOf id.text = [] := nothing ▸ octetsOf_inj.symm
  rw [isEmpty, Bool.eq_false_iff, ne_eq, String.isEmpty_iff]
  exact not_congr same

theorem ofOctets?_eq_some_iff {value : Octets} {id : RequestId} :
    ofOctets? value = some id ↔ octetsOf id.text = value ∧ IsUsable value := by
  constructor
  · intro found
    obtain ⟨text, read, held⟩ := Option.bind_eq_some_iff.mp found
    obtain ⟨rfl, filled⟩ := ofText?_eq_some_iff.mp held
    obtain ⟨rfl, readable⟩ := Metadata.readable?_eq_some_iff.mp read
    exact ⟨rfl, readable, isEmpty_eq_false_iff.mp filled⟩
  · rintro ⟨rfl, readable, filled⟩
    apply Option.bind_eq_some_iff.mpr
    refine ⟨id.text, Metadata.readable?_eq_some_iff.mpr ⟨rfl, readable⟩, ?_⟩
    exact ofText?_eq_some_iff.mpr ⟨rfl, isEmpty_eq_false_iff.mpr filled⟩

theorem exists_ofOctets?_iff {value : Octets} :
    (∃ id, ofOctets? value = some id) ↔ IsUsable value := by
  constructor
  · rintro ⟨id, found⟩
    exact (ofOctets?_eq_some_iff.mp found).2
  · intro usable
    obtain ⟨text, read⟩ : ∃ text, Metadata.readable? value = some text := ⟨_, if_pos usable.1⟩
    obtain ⟨same, -⟩ := Metadata.readable?_eq_some_iff.mp read
    exact ⟨⟨text⟩, ofOctets?_eq_some_iff.mpr ⟨same, usable⟩⟩

theorem ofOctets?_eq_none_iff {value : Octets} : ofOctets? value = none ↔ ¬ IsUsable value := by
  rw [← exists_ofOctets?_iff, Option.eq_none_iff_forall_ne_some, not_exists]

end RequestId

namespace Metadata

variable {metadata : Metadata}

abbrev idValues (metadata : Metadata) : List Octets := metadata.values RequestId.header

/-- The first value of the request ID header can be used. -/
def LeadsWithId (metadata : Metadata) : Prop :=
  ∃ value, metadata.idValues.head? = some value ∧ RequestId.IsUsable value

/-- A usable value stands behind a first value that cannot be used. -/
def HidesId (metadata : Metadata) : Prop :=
  ¬ metadata.LeadsWithId ∧ ∃ value ∈ metadata.idValues, RequestId.IsUsable value

theorem ofMetadata?_eq_head? (metadata : Metadata) :
    RequestId.ofMetadata? metadata = metadata.idValues.head?.bind RequestId.ofOctets? := by
  rw [RequestId.ofMetadata?, text?, first?_eq_head? metadata RequestId.textKey?_header,
    Option.bind_assoc]
  rfl

theorem ofMetadata?_eq_some_iff {id : RequestId} :
    RequestId.ofMetadata? metadata = some id ↔
      metadata.idValues.head? = some (octetsOf id.text) ∧ id.isReadable = true ∧
        id.isEmpty = false := by
  rw [ofMetadata?_eq_head?, RequestId.isEmpty_eq_false_iff]
  constructor
  · intro found
    obtain ⟨value, first, read⟩ := Option.bind_eq_some_iff.mp found
    obtain ⟨rfl, readable, filled⟩ := RequestId.ofOctets?_eq_some_iff.mp read
    exact ⟨first, readable, filled⟩
  · rintro ⟨first, readable, filled⟩
    have read := RequestId.ofOctets?_eq_some_iff.mpr ⟨rfl, readable, filled⟩
    exact Option.bind_eq_some_iff.mpr ⟨_, first, read⟩

theorem exists_ofMetadata?_iff :
    (∃ id, RequestId.ofMetadata? metadata = some id) ↔ metadata.LeadsWithId := by
  rw [ofMetadata?_eq_head?]
  constructor
  · rintro ⟨id, found⟩
    obtain ⟨value, first, read⟩ := Option.bind_eq_some_iff.mp found
    exact ⟨value, first, RequestId.exists_ofOctets?_iff.mp ⟨id, read⟩⟩
  · rintro ⟨value, first, usable⟩
    obtain ⟨id, read⟩ := RequestId.exists_ofOctets?_iff.mpr usable
    exact ⟨id, Option.bind_eq_some_iff.mpr ⟨value, first, read⟩⟩

theorem ofMetadata?_eq_none_iff :
    RequestId.ofMetadata? metadata = none ↔ ¬ metadata.LeadsWithId := by
  rw [← exists_ofMetadata?_iff, Option.eq_none_iff_forall_ne_some, not_exists]

/-- The first value of the request ID header that can be used, wherever it stands. -/
def firstUsable? (metadata : Metadata) : Option RequestId :=
  metadata.idValues.findSome? RequestId.ofOctets?

theorem firstUsable?_eq_none_iff :
    metadata.firstUsable? = none ↔ ∀ value ∈ metadata.idValues, ¬ RequestId.IsUsable value := by
  simp only [firstUsable?, List.findSome?_eq_none_iff, RequestId.ofOctets?_eq_none_iff]

theorem firstUsable?_of_found {id : RequestId}
    (found : RequestId.ofMetadata? metadata = some id) : metadata.firstUsable? = some id := by
  rw [ofMetadata?_eq_head?] at found
  obtain ⟨value, first, read⟩ := Option.bind_eq_some_iff.mp found
  obtain ⟨others, values⟩ := List.head?_eq_some_iff.mp first
  rw [firstUsable?, values, List.findSome?_cons, read]

/-- Nothing usable is hidden where the first value can be used, or none can. -/
theorem not_hidesId_iff :
    ¬ metadata.HidesId ↔ metadata.LeadsWithId ∨ metadata.firstUsable? = none := by
  rw [firstUsable?_eq_none_iff]
  constructor
  · intro exposed
    by_cases leads : metadata.LeadsWithId
    · exact .inl leads
    · right
      intro value member usable
      exact exposed ⟨leads, value, member, usable⟩
  · rintro (leads | unusable) ⟨unled, value, member, usable⟩
    · exact unled leads
    · exact unusable value member usable

theorem ofMetadata?_eq_firstUsable?_iff :
    RequestId.ofMetadata? metadata = metadata.firstUsable? ↔ ¬ metadata.HidesId := by
  rw [not_hidesId_iff]
  cases found : RequestId.ofMetadata? metadata with
  | some id =>
    have leads := exists_ofMetadata?_iff.mp ⟨id, found⟩
    simp only [firstUsable?_of_found found, leads, true_or]
  | none =>
    have unled := ofMetadata?_eq_none_iff.mp found
    simp only [unled, false_or, eq_comm]

end Metadata

/-- The server refuses nothing, and gives a call a fresh ID. -/
def TakesFreshId (call : Call) (shared : Shared) : Prop :=
  ∃ received after, accept call shared = .ok (received, after) ∧
    received.extensions.requestId? = some shared.freshId ∧
    after.supply.drawn = shared.supply.drawn + 1

theorem takesFreshId_iff {call : Call} {shared : Shared} :
    TakesFreshId call shared ↔ ¬ call.request.metadata.LeadsWithId := by
  rw [← Metadata.ofMetadata?_eq_none_iff]
  cases found : RequestId.ofMetadata? call.request.metadata with
  | some id =>
    simp only [reduceCtorEq, iff_false]
    rintro ⟨received, after, accepted, -, drawn⟩
    rw [accept_eq_ok, receive_of_found found] at accepted
    cases accepted
    exact Nat.succ_ne_self _ drawn.symm
  | none =>
    rw [TakesFreshId, accept_eq_ok, receive_of_not_found found]
    exact iff_of_true ⟨_, _, rfl, rfl, rfl⟩ rfl

/-- A server finds the first usable ID of a call exactly if the metadata hides none behind a first
value that is not. -/
theorem finds_first_usable_iff_not_hidden (call : Call) (shared : Shared) :
    (RequestId.ofMetadata? call.request.metadata = call.request.metadata.firstUsable? ↔
        ¬ call.request.metadata.HidesId) ∧
      ((TakesFreshId call shared →
          ∀ value ∈ call.request.metadata.idValues, ¬ RequestId.IsUsable value) ↔
        ¬ call.request.metadata.HidesId) := by
  refine ⟨Metadata.ofMetadata?_eq_firstUsable?_iff, ?_⟩
  rw [takesFreshId_iff, Metadata.not_hidesId_iff, Metadata.firstUsable?_eq_none_iff]
  exact Classical.or_iff_not_imp_left.symm

/-- Behind an empty value an ID is not found, and the call gets a fresh one. -/
theorem takes_fresh_id_behind_empty_value :
    let metadata : Metadata := ⟨[(RequestId.header, []), (RequestId.header, octetsOf "abc")]⟩
    let call : Call := ⟨⟨"/pkg.Service/Method", "", metadata⟩, .empty⟩
    let shared : Shared := .start (fun _ => ⟨⟨0, 0⟩, 0⟩) (fun _ => 0)
    metadata.firstUsable? = some ⟨"abc"⟩ ∧ RequestId.ofMetadata? metadata = none ∧
      TakesFreshId call shared := by
  intro metadata call shared
  have missing : RequestId.ofMetadata? metadata = none := by decide
  refine ⟨by decide, missing, ?_⟩
  exact takesFreshId_iff.mpr (Metadata.ofMetadata?_eq_none_iff.mp missing)

end CallJournal
