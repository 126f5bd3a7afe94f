import AssetCache.Log.Logger
import AssetCache.Proofs.Json.Values

/-!
# Log lines are JSON and lose nothing

A line in JSON may hold a name twice, for fields may be named like the members that every entry
has. Whoever reads it and lets the later member count finds under each name the field that was
added last, else what the entry says of itself; the elapsed time stands last in the line and no
field hides it (`json_line_lossless`).

The line holds no control characters, so it is one line indeed.
-/

set_option autoImplicit false

namespace AssetCache.Log

/-! ## Fields that are added -/

/-- A value that is added to the fields of an entry. -/
inductive Addition where
  | text (name value : String)
  | number (name : String) (value : UInt64)
  | list (name : String) (values : List String)

namespace Addition

/-- The field that is added. -/
def field : Addition → String × Json
  | text name value => (name, .str value)
  | number name value => (name, .nat value.toNat)
  | list name values => (name, .strings values)

/-- Add a value to fields. -/
def onto (fields : Fields) : Addition → Fields
  | text name value => fields.text name value
  | number name value => fields.number name value.toNat
  | list name values => fields.list name values

theorem onto_eq_insert (fields : Fields) (addition : Addition) :
    addition.onto fields = fields.insert addition.field.1 addition.field.2 := by
  cases addition <;> rfl

/-- The value that was added last under a name. -/
def last? (additions : List Addition) (name : String) : Option Json :=
  (additions.reverse.find? fun addition => addition.field.1 == name).map fun addition =>
    addition.field.2

end Addition

/-- The fields that come of adding values one after another. -/
def Fields.built (additions : List Addition) : Fields := additions.foldl Addition.onto .empty

theorem lookupEntry_map_field (name : String) (additions : List Addition) :
    lookupEntry name (additions.map Addition.field) =
      (additions.find? fun addition => addition.field.1 == name).map fun addition =>
        addition.field.2 := by
  induction additions with
  | nil => rfl
  | cons addition additions ih =>
    rw [List.map_cons, List.find?_cons]
    show (if addition.field.1 = name then _ else _) = _
    by_cases h : addition.field.1 = name
    · rw [if_pos h, beq_iff_eq.mpr h]
      rfl
    · rw [if_neg h, beq_eq_false_iff_ne.mpr h]
      exact ih

/-- The fields hold the last value under each name. -/
theorem Fields.get?_built (additions : List Addition) (name : String) :
    (Fields.built additions).get? name = Addition.last? additions name := by
  have hall : ∀ fields : Fields, additions.foldl Addition.onto fields =
      fields.insertAll (additions.map Addition.field) := by
    induction additions with
    | nil => intro fields; rfl
    | cons addition additions ih =>
      intro fields
      rw [List.foldl_cons, ih, Addition.onto_eq_insert]
      rfl
  rw [Fields.built, hall, ← Table.ofList, Table.get?_ofList, ← List.map_reverse,
    lookupEntry_map_field]
  rfl

/-! ## Members of an entry -/

namespace Entry

/-- What an entry says of itself under a name. -/
def own? (entry : Entry) : String → Option Json
  | "level" => some (.str entry.level.name)
  | "message" => some (.str entry.message)
  | "event_id" => some (.str entry.eventId)
  | "event" => some (.str entry.event.name)
  | "key" => entry.key.map .str
  | _ => none

/-- The members that every entry has, the last one first, are what the entry says of itself. -/
theorem lookupEntry_own (entry : Entry) (name : String) :
    (lookupEntry name ((match entry.key with
      | some key => [("key", Json.str key)]
      | none => []).reverse)).or
      (lookupEntry name [("event", .str entry.event.name), ("event_id", .str entry.eventId),
        ("message", .str entry.message), ("level", .str entry.level.name)]) =
      entry.own? name := by
  have hother : ∀ other : String, (name = other → False) → ¬ other = name :=
    fun other h heq => h heq.symm
  unfold own?
  cases entry.key
  all_goals
    dsimp only
    split
    · rfl
    · rfl
    · rfl
    · rfl
    · rfl
    next hlevel hmessage hid hevent hkey =>
      simp only [List.reverse_nil, List.reverse_singleton, lookupEntry, if_neg (hother _ hlevel),
        if_neg (hother _ hmessage), if_neg (hother _ hid), if_neg (hother _ hevent),
        if_neg (hother _ hkey), Option.or_none]

/-- Of the members of one name the last is the elapsed time, else a field, else what the entry says
of itself. -/
theorem get?_ofList_members (entry : Entry) {n : Nat} (helapsed : entry.elapsed = some n)
    (name : String) :
    (Table.ofList entry.members).get? name =
      if name = "elapsed_us" then some (.nat n)
      else (entry.fields.get? name).or (entry.own? name) := by
  have hfields : lookupEntry name entry.fields.entries.reverse = entry.fields.get? name := by
    rw [← Table.get?_ofList, Table.ofList_entries]
  rw [Table.get?_ofList, members, helapsed, List.reverse_append, List.reverse_append,
    List.reverse_append, lookupEntry_append, lookupEntry_append, lookupEntry_append, hfields,
    ← lookupEntry_own]
  by_cases hname : name = "elapsed_us"
  · rw [if_pos hname, hname]
    rfl
  · have hlast : lookupEntry name [("elapsed_us", Json.nat n)].reverse = none :=
      if_neg fun heq => hname heq.symm
    rw [if_neg hname, hlast]
    rfl

/-- What an entry holds is read back from JSON if its fields are. -/
theorem reads_members (entry : Entry) {depth : Nat}
    (hfields : ∀ field ∈ entry.fields.entries, Json.Reads depth field.2)
    (helapsed : ∀ n, entry.elapsed = some n → n ≤ Json.maxSignificand) :
    ∀ member ∈ entry.members, Json.Reads depth member.2 := by
  intro member hmember
  rw [members, List.mem_append, List.mem_append, List.mem_append] at hmember
  rcases hmember with ((hown | hkey) | hfield) | htime
  · simp only [List.mem_cons, List.not_mem_nil, or_false] at hown
    rcases hown with rfl | rfl | rfl | rfl <;> exact Json.reads_str _ _
  · split at hkey
    next => rw [List.mem_singleton.mp hkey]; exact Json.reads_str _ _
    next => cases hkey
  · exact hfields member hfield
  · split at htime
    next n heq =>
      rw [List.mem_singleton.mp htime]
      exact Json.reads_nat _ (helapsed n heq)
    next => cases htime

end Entry

/-! ## Lines -/

theorem toNat_le_maxSignificand (n : UInt64) : n.toNat ≤ Json.maxSignificand :=
  Nat.le_sub_one_of_lt n.toNat_lt

/-- Whatever was added is read back. -/
theorem reads_built {additions : List Addition} {depth : Nat} :
    ∀ field ∈ (Fields.built additions).entries, Json.Reads (depth + 1) field.2 := by
  rintro ⟨name, value⟩ hfield
  have hlast : Addition.last? additions name = some value := by
    rw [← Fields.get?_built]
    exact (Table.mem_entries_iff _).mp hfield
  obtain ⟨addition, _, rfl⟩ := Option.map_eq_some_iff.mp hlast
  cases addition with
  | text name value => exact Json.reads_str _ _
  | number name value => exact Json.reads_nat _ (toNat_le_maxSignificand value)
  | list name values => exact Json.reads_strings _ _

/-- What a logger writes in JSON is one object on one line. Whoever lets the later of two members
count finds there the elapsed time, the value that was added last under each other name, what the
entry says of itself under the names that were not added, and nothing else. -/
theorem json_line_lossless (logger : Logger) (elapsed : UInt64) (level : Level) (message : String)
    (additions : List Addition) (hformat : logger.format = .json)
    (hlevel : logger.least.rank ≤ level.rank) :
    ∃ line table,
      logger.render elapsed.toNat level message (Fields.built additions) = some line ∧
      (∀ c ∈ line.toList, 32 ≤ c.toNat) ∧
      Json.ofBytes (Bytes.ofText line) = .ok (.ofTable table) ∧
      table.get? "elapsed_us" = some (.nat elapsed.toNat) ∧
      (∀ name, name ≠ "elapsed_us" → ∀ value, Addition.last? additions name = some value →
        table.get? name = some value) ∧
      ∀ name, name ≠ "elapsed_us" → Addition.last? additions name = none →
        table.get? name = match name with
          | "level" => some (.str level.name)
          | "message" => some (.str message)
          | "event_id" => some (.str logger.eventId)
          | "event" => some (.str logger.event.name)
          | "key" => logger.key.map .str
          | _ => none := by
  let entry := logger.entry elapsed.toNat level message (Fields.built additions)
  have hmembers := entry.get?_ofList_members (n := elapsed.toNat) rfl
  have hfields : ∀ name, entry.fields.get? name = Addition.last? additions name :=
    Fields.get?_built additions
  refine ⟨entry.jsonLine, .ofList entry.members, ?_, ?_, ?_, ?_, ?_, ?_⟩
  · rw [Logger.render, if_neg (Nat.not_lt.mpr hlevel), hformat]
    rfl
  · intro c hc
    rw [Entry.jsonLine, Json.compact, String.toList_ofList] at hc
    exact Json.le_of_mem_chars hc
  · refine Json.ofBytes_compact_obj (entry.reads_members ?_ ?_)
    · exact reads_built
    · rintro n heq
      cases heq
      exact toNat_le_maxSignificand elapsed
  · rw [hmembers, if_pos rfl]
  · intro name hname value hadded
    rw [hmembers, if_neg hname, hfields, hadded]
    rfl
  · intro name hname hnone
    rw [hmembers, if_neg hname, hfields, hnone, Option.none_or]
    rfl

/-- A field hides the message, one that is called like the elapsed time is hidden, and one that was
added twice is the later one. -/
theorem json_line_lossless_of_clashes :
    let logger : Logger := ⟨.fetch, "fetch-1", some "k", .debug, .json⟩
    let additions : List Addition := [.number "n" 1, .text "message" "\n", .number "elapsed_us" 2,
      .list "n" ["a", "b"]]
    logger.format = .json ∧ logger.least.rank ≤ Level.info.rank ∧
      ∃ line table,
        logger.render 7 .info "done" (Fields.built additions) = some line ∧
        Json.ofBytes (Bytes.ofText line) = .ok (.ofTable table) ∧
        table.get? "elapsed_us" = some (.nat 7) ∧ table.get? "message" = some (.str "\n") ∧
        table.get? "n" = some (.strings ["a", "b"]) ∧ table.get? "key" = some (.str "k") ∧
        table.get? "url" = none := by
  intro logger additions
  have hformat : logger.format = .json := rfl
  have hlevel : logger.least.rank ≤ Level.info.rank := by decide
  obtain ⟨line, table, hline, _, hread, helapsed, hadded, hown⟩ :=
    json_line_lossless logger 7 .info "done" additions hformat hlevel
  refine ⟨hformat, hlevel, line, table, hline, hread, helapsed, ?_, ?_, ?_, ?_⟩
  · exact hadded "message" (by decide) _ rfl
  · exact hadded "n" (by decide) _ rfl
  · exact hown "key" (by decide) rfl
  · exact hown "url" (by decide) rfl

end AssetCache.Log
