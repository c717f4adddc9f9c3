import CallJournal.Journal
import CallJournal.Output.JsonLine
import CallJournal.Proofs.JsonReadBack

namespace CallJournal.Output

theorem arranged_toJson (fields : Fields) : fields.toJson.arranged = fields.toJson :=
  Json.arranged_eq_self fields.ordered_toJson

/-- A record's fields as they stand in its line. -/
def fieldsMember (fields : Fields) : Json :=
  if fields.toJson.depth ≤ 127 then fields.toJson else .string fields.text

/-- Fields that were written as one text are expanded to what they were, or left as that text. -/
theorem expand_text {fields : Fields} (faithful : fields.toJson.Faithful) :
    expand fields.text = fieldsMember fields := by
  have read := Json.read?_text faithful
  rw [arranged_toJson, Skeleton.maxDepth] at read
  rw [expand, Fields.text, read, fieldsMember]
  by_cases shallow : fields.toJson.depth ≤ 127
  · rw [if_pos shallow, if_pos shallow]
    rfl
  · rw [if_neg shallow, if_neg shallow]
    rfl

theorem arranged_fieldsMember (fields : Fields) :
    (fieldsMember fields).arranged = fieldsMember fields := by
  unfold fieldsMember
  split
  · exact arranged_toJson fields
  · rfl

theorem faithful_fieldsMember {fields : Fields} (faithful : fields.toJson.Faithful) :
    (fieldsMember fields).Faithful := by
  unfold fieldsMember
  split
  · exact faithful
  · exact .string _

/-- The line of a record has these members and no others. -/
theorem entries_jsonLine (stamp : String) {record : Record}
    (faithful : record.fields.toJson.Faithful) :
    (jsonLine stamp (.ofRecord record)).entries =
      [("fields", fieldsMember record.fields), ("level", .string record.level.name),
        ("message", .string record.message), ("target", .string Event.callTarget),
        ("timestamp", .string stamp)] := by
  rw [← arranged_fieldsMember, ← expand_text faithful]
  simp only [jsonLine, Event.ofRecord, Event.ofMessage, List.foldl_cons, List.foldl_nil,
    Fields.ofList, Fields.insert?, jsonValue?, Fields.insert, Fields.empty]
  simp +decide only [insertByKey, Event.messageKey, Event.fieldsKey, Json.arranged, if_true,
    if_false]

theorem faithful_jsonLine (stamp : String) {record : Record}
    (faithful : record.fields.toJson.Faithful) :
    (jsonLine stamp (.ofRecord record)).toJson.Faithful := by
  refine .object fun member found => ?_
  rw [entries_jsonLine stamp faithful] at found
  simp only [List.mem_cons, List.not_mem_nil, or_false] at found
  rcases found with rfl | rfl | rfl | rfl | rfl
  · exact faithful_fieldsMember faithful
  · exact .string _
  · exact .string _
  · exact .string _
  · exact .string _

theorem not_mem_text (value : Json) : '\n' ∉ value.text.toList := by
  intro member
  rw [Json.text, String.toList_ofList] at member
  exact Bool.noConfusion (List.all_eq_true.mp value.all_chars '\n' member)

/-- A record is one line, the text of an object with its level, message and fields beside target
and time. Read again the line is that object, unless it is nested too deeply. -/
theorem jsonText_gives_record_back (stamp : String) (record : Record)
    (faithful : record.fields.toJson.Faithful) :
    ∃ event, ∃ line : Fields,
      Sink.events.entry record = .event event ∧
      jsonText stamp event = line.text ++ "\n" ∧ '\n' ∉ line.text.toList ∧
      line.entries =
        [("fields",
            if record.fields.toJson.depth ≤ 127 then record.fields.toJson
            else .string record.fields.text),
          ("level", .string record.level.name), ("message", .string record.message),
          ("target", .string "gateway_log::calls"), ("timestamp", .string stamp)] ∧
      (line.toJson.depth ≤ 127 →
        Json.read? line.text = some line.toJson ∧
          Json.read? (jsonText stamp event) = some line.toJson) := by
  refine ⟨.ofRecord record, jsonLine stamp (.ofRecord record), rfl, rfl, not_mem_text _, ?_, ?_⟩
  · exact entries_jsonLine stamp faithful
  · intro shallow
    have whole := faithful_jsonLine stamp faithful
    have blank : "\n".toList.all Skeleton.isSpace = true := by decide
    have alone := Json.read?_text whole
    have ended := Json.read?_text_append whole blank
    rw [Skeleton.maxDepth, if_pos shallow, arranged_toJson] at alone ended
    exact ⟨alone, ended⟩

/-- Quotes, line breaks and other control characters come back, in keys and in texts, and so does
a float. -/
theorem jsonText_gives_escaped_record_back :
    let fields : Fields := .ofList
      [("key\n\"", .array [.number (.float ⟨0x3ff8000000000000⟩ (by decide)), .string "\\\x07"])]
    let record : Record := ⟨.warn, "two\nlines", fields⟩
    ∃ line : Fields, jsonText "now" (.ofRecord record) = line.text ++ "\n" ∧
      '\n' ∉ line.text.toList ∧ line.get? "message" = some (.string "two\nlines") ∧
      line.get? "fields" = some fields.toJson ∧
      Json.read? (jsonText "now" (.ofRecord record)) = some line.toJson := by
  intro fields record
  have back : (Number.float ⟨0x3ff8000000000000⟩ (by decide)).ReadsBack := by
    apply Number.read?_text_eq_some_iff.mpr
    refine ⟨⟨false, [1], [5], false, 0⟩, by decide +kernel, ?_⟩
    have value : Numeral.number? ⟨false, [1], [5], false, 0⟩ =
      some (.float ⟨0x3ff8000000000000⟩ (by decide)) := by decide +kernel
    rw [value, Option.map_some]
  have faithful : fields.toJson.Faithful := by
    refine .object fun member found => ?_
    cases List.mem_singleton.mp found
    refine .array fun item found => ?_
    simp only [Json.arrangedItems, Json.arranged, List.mem_cons, List.not_mem_nil,
      or_false] at found
    rcases found with rfl | rfl
    · exact .float back
    · exact .string _
  obtain ⟨event, line, emitted, written, single, entries, read⟩ :=
    jsonText_gives_record_back "now" record faithful
  cases emitted
  have shallow : fields.toJson.depth ≤ 127 := by decide
  rw [if_pos shallow] at entries
  refine ⟨line, written, single, ?_, ?_, (read ?_).2⟩
  · rw [Fields.get?, entries]
    rfl
  · rw [Fields.get?, entries]
    rfl
  · rw [Fields.toJson, entries]
    decide

end CallJournal.Output
