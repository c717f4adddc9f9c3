import CallJournal.MethodPath

namespace CallJournal.MethodPath

/-- How a path is put together from its parts. The method never holds a slash. -/
inductive IsJoined : MethodPath → String → Prop where
  | alone {method : String} (unslashed : '/' ∉ method.toList) : IsJoined ⟨"", method⟩ method
  /-- A service that begins with a slash would lose it in such a path. -/
  | bare {service method : String} (unslashed : '/' ∉ method.toList)
      (unled : service.toList.head? ≠ some '/') :
      IsJoined ⟨service, method⟩ (service ++ "/" ++ method)
  | led {service method : String} (unslashed : '/' ∉ method.toList) :
      IsJoined ⟨service, method⟩ ("/" ++ service ++ "/" ++ method)

variable {path : String} {parts : MethodPath}

theorem withoutSlash_of_unled {text : List Char} (unled : text.head? ≠ some '/') :
    withoutSlash text = text := by
  unfold withoutSlash
  split
  · exact absurd rfl unled
  · rfl

theorem split_of_unslashed (unslashed : '/' ∉ path.toList) : split path = ⟨"", path⟩ := by
  rw [split, Text.cutLast_eq_none_iff.mpr unslashed]

/-- The last slash of a path stands between its parts. -/
theorem split_of_whole {front back : List Char} (whole : path.toList = front ++ '/' :: back)
    (unslashed : '/' ∉ back) :
    split path = ⟨String.ofList (withoutSlash front), String.ofList back⟩ := by
  rw [split, Text.cutLast_eq_some_iff.mpr ⟨whole, unslashed⟩]

theorem IsJoined.split_eq (joined : IsJoined parts path) : split path = parts := by
  cases joined with
  | alone unslashed => exact split_of_unslashed unslashed
  | @bare service method unslashed unled =>
    have whole : (service ++ "/" ++ method).toList = service.toList ++ '/' :: method.toList := by
      simp
    rw [split_of_whole whole unslashed, withoutSlash_of_unled unled, String.ofList_toList,
      String.ofList_toList]
  | @led service method unslashed =>
    have whole : ("/" ++ service ++ "/" ++ method).toList =
        ('/' :: service.toList) ++ '/' :: method.toList := by
      simp
    rw [split_of_whole whole unslashed, withoutSlash, String.ofList_toList, String.ofList_toList]

theorem isJoined_split (path : String) : IsJoined (split path) path := by
  cases cut : Text.cutLast '/' path.toList with
  | none =>
    have unslashed := Text.cutLast_eq_none_iff.mp cut
    rw [split_of_unslashed unslashed]
    exact .alone unslashed
  | some pair =>
    obtain ⟨front, back⟩ := pair
    obtain ⟨whole, absent⟩ := Text.cutLast_eq_some_iff.mp cut
    have unslashed : '/' ∉ (String.ofList back).toList := by rwa [String.toList_ofList]
    rw [split_of_whole whole absent]
    by_cases led : front.head? = some '/'
    · obtain ⟨service, rfl⟩ := List.head?_eq_some_iff.mp led
      have joined : path = "/" ++ String.ofList service ++ "/" ++ String.ofList back := by
        apply String.toList_inj.mp
        simp [whole]
      rw [withoutSlash, joined]
      exact .led unslashed
    · have unled : (String.ofList front).toList.head? ≠ some '/' := by rwa [String.toList_ofList]
      have joined : path = String.ofList front ++ "/" ++ String.ofList back := by
        apply String.toList_inj.mp
        simp [whole]
      rw [withoutSlash_of_unled led, joined]
      exact .bare unslashed unled

theorem split_eq_iff : split path = parts ↔ IsJoined parts path := by
  constructor
  · rintro rfl
    exact isJoined_split path
  · exact IsJoined.split_eq

/-- A service and a method without slashes are given back by the path joined from them, and any
path is split into the only parts that it is joined from. -/
theorem split_loses_nothing (path service method : String) :
    ('/' ∉ method.toList → split ("/" ++ service ++ "/" ++ method) = ⟨service, method⟩) ∧
    (split path = ⟨service, method⟩ ↔ IsJoined ⟨service, method⟩ path) ∧
    '/' ∉ (split path).method.toList ∧
    (path = (split path).method ∨ path = "/" ++ (split path).method ∨
      path = (split path).service ++ "/" ++ (split path).method ∨
      path = "/" ++ (split path).service ++ "/" ++ (split path).method) := by
  refine ⟨fun unslashed => split_eq_iff.mpr (.led unslashed), split_eq_iff, ?_⟩
  have joined := isJoined_split path
  generalize split path = parts at joined
  cases joined with
  | alone unslashed => exact ⟨unslashed, .inl rfl⟩
  | bare unslashed _ => exact ⟨unslashed, .inr (.inr (.inl rfl))⟩
  | led unslashed => exact ⟨unslashed, .inr (.inr (.inr rfl))⟩

/-- A service with slashes at both ends and inside is given back. -/
theorem split_gives_slashed_service_back :
    '/' ∉ "Method".toList ∧ split "//pkg//Service//Method" = ⟨"/pkg//Service/", "Method"⟩ := by
  have unslashed : '/' ∉ "Method".toList := by decide
  exact ⟨unslashed, (split_loses_nothing "" "/pkg//Service/" "Method").1 unslashed⟩

end CallJournal.MethodPath
