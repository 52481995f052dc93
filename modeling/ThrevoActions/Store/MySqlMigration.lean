import ThrevoActions.Records.Conversion
import ThrevoActions.Store.MySqlStamps

/-!
# Migrating the datetimes of a MySQL proposal document

`threvo_actions_migrate_v1_datetime` at a JSON path, and the part of
`threvo_actions_canonicalize_v1_datetimes` that it calls for one row: five paths, then the items of
two arrays by index. Every call acts on the value under one key, so the calls amount to one
conversion for each key (`canonicalizeV1Datetimes_eq`), and the conversion of a document is put
together from conversions of its fields (`canonicalizeV1Datetimes_converts`).
-/

namespace ThrevoActions

namespace MySql

open Records

/-! ## JSON paths -/

inductive PathLeg
  | member (key : PyStr)
  | cell (index : ℕ)
  deriving DecidableEq

abbrev JsonPath := List PathLeg

/-- The value under a key. -/
def memberOf (key : PyStr) : JsonObject → Option JsonValue
  | [] => none
  | entry :: entries => if entry.1 = key then some entry.2 else memberOf key entries

def setMember (key : PyStr) (new : JsonValue) : JsonObject → JsonObject
  | [] => []
  | entry :: entries =>
    if entry.1 = key then (entry.1, new) :: entries else entry :: setMember key new entries

/-- `JSON_EXTRACT(document, path)`. A value that is no array is its own first cell. -/
def jsonExtract : JsonPath → JsonValue → Option JsonValue
  | [], document => some document
  | .member key :: path, .dict entries => (memberOf key entries).bind (jsonExtract path)
  | .member _ :: _, _ => none
  | .cell index :: path, .list items => items[index]?.bind (jsonExtract path)
  | .cell index :: path, document => if index = 0 then jsonExtract path document else none

/-- `JSON_SET(document, path, new)` at a path that is there. -/
def jsonSet (new : JsonValue) : JsonPath → JsonValue → JsonValue
  | [], _ => new
  | .member key :: path, .dict entries =>
    match memberOf key entries with
    | some value => .dict (setMember key (jsonSet new path value) entries)
    | none => .dict entries
  | .member _ :: _, document => document
  | .cell index :: path, .list items =>
    match items[index]? with
    | some item => .list (items.set index (jsonSet new path item))
    | none => .list items
  | .cell index :: path, document => if index = 0 then jsonSet new path document else document

/-- `JSON_LENGTH(document)`. -/
def jsonLength : JsonValue → ℕ
  | .list items => items.length
  | .dict entries => entries.length
  | _ => 1

/-! ## The procedures -/

section Procedures

variable [Collation]

/-- `threvo_actions_migrate_v1_datetime`: the document after the call. -/
def migrateV1Datetime (path : JsonPath) (document : JsonValue) :
    Except MigrationSignal JsonValue :=
  match jsonExtract path document with
  | some (.str text) => (migrateText text).map fun new ↦
      match new with
      | some new => jsonSet (.str new) path document
      | none => document
  | _ => .ok document

/-- The calls at the fields of one item. -/
def migrateItem (key : PyStr) (index : ℕ) : List PyStr → JsonValue → Except MigrationSignal JsonValue
  | [], document => .ok document
  | field :: fields, document =>
    (migrateV1Datetime [.member key, .cell index, .member field] document).bind
      (migrateItem key index fields)

/-- `COALESCE(JSON_LENGTH(JSON_EXTRACT(document, '$.key')), 0)`. -/
def lengthAt (key : PyStr) (document : JsonValue) : ℕ :=
  ((jsonExtract [.member key] document).map jsonLength).getD 0

/-- `WHILE sequence_index < … DO`, for that many turns at most. -/
def whileItems (key : PyStr) (fields : List PyStr) :
    ℕ → ℕ → JsonValue → Except MigrationSignal JsonValue
  | 0, _, document => .ok document
  | turns + 1, index, document =>
    if index < lengthAt key document then
      (migrateItem key index fields document).bind (whileItems key fields turns (index + 1))
    else .ok document

/-- A loop over the items under a key; no call changes how many there are. -/
def migrateItems (key : PyStr) (fields : List PyStr) (document : JsonValue) :
    Except MigrationSignal JsonValue :=
  whileItems key fields (lengthAt key document) 0 document

/-- `threvo_actions_canonicalize_v1_datetimes` on the document of one row. -/
def canonicalizeV1Datetimes (document : JsonValue) : Except MigrationSignal JsonValue := do
  let document ← migrateV1Datetime [.member (PyStr.ofString "created_at")] document
  let document ← migrateV1Datetime [.member (PyStr.ofString "expires_at")] document
  let document ← migrateV1Datetime [.member (PyStr.ofString "next_verification_at")] document
  let document ← migrateV1Datetime [.member (PyStr.ofString "erasure_pending_at")] document
  let document ← migrateV1Datetime [.member (PyStr.ofString "erased_at")] document
  let document ← migrateItems (PyStr.ofString "authority_evidence")
    [PyStr.ofString "issued_at", PyStr.ofString "expires_at"] document
  migrateItems (PyStr.ofString "receipts") [PyStr.ofString "observed_at"] document

end Procedures

/-! ## Calls act under one key -/

/-- A rewriting of the entries of an object; other values stay. -/
def onDict {ε : Type} (f : JsonObject → Except ε JsonObject) : JsonValue → Except ε JsonValue
  | .dict entries => (f entries).map .dict
  | value => .ok value

/-- A rewriting of the items of an array; other values stay. -/
def onList {ε : Type} (f : List JsonValue → Except ε (List JsonValue)) :
    JsonValue → Except ε JsonValue
  | .list items => (f items).map .list
  | value => .ok value

theorem atKey_eq {ε : Type} (key : PyStr) (f : JsonValue → Except ε JsonValue)
    (entries : JsonObject) :
    atKey key f entries = match memberOf key entries with
      | some value => (f value).map fun new ↦ setMember key new entries
      | none => .ok entries := by
  induction entries with
  | nil => rfl
  | cons entry entries ih =>
    rw [atKey, memberOf]
    split_ifs with hkey
    · simp [setMember, hkey]
    · rw [ih]
      cases memberOf key entries with
      | none => rfl
      | some value =>
        dsimp only
        cases f value with
        | error e => rfl
        | ok new => simp [Except.map, setMember, hkey]

theorem setMember_self {key : PyStr} {value : JsonValue} {entries : JsonObject}
    (h : memberOf key entries = some value) : setMember key value entries = entries := by
  induction entries with
  | nil => cases h
  | cons entry entries ih =>
    rw [memberOf] at h
    rw [setMember]
    split_ifs at h ⊢ with hkey
    · cases h
      rfl
    · rw [ih h]

theorem atKey_congr {ε : Type} {key : PyStr} {f g : JsonValue → Except ε JsonValue}
    {entries : JsonObject} (h : ∀ value, memberOf key entries = some value → f value = g value) :
    atKey key f entries = atKey key g entries := by
  rw [atKey_eq, atKey_eq]
  cases hmember : memberOf key entries with
  | none => rfl
  | some value =>
    dsimp only
    rw [h value hmember]

/-- Two rewritings at one key are one. -/
theorem atKey_bind {ε : Type} (key : PyStr) (f g : JsonValue → Except ε JsonValue)
    (entries : JsonObject) :
    (atKey key f entries).bind (atKey key g) = atKey key (fun value ↦ (f value).bind g) entries := by
  induction entries with
  | nil => rfl
  | cons entry entries ih =>
    rw [atKey, atKey]
    split_ifs with hkey
    · cases f entry.2 with
      | error e => rfl
      | ok new =>
        show atKey key g ((entry.1, new) :: entries) = _
        rw [atKey, if_pos hkey]
        rfl
    · rw [← ih]
      cases atKey key f entries with
      | error e => rfl
      | ok rest =>
        show atKey key g (entry :: rest) = _
        rw [atKey, if_neg hkey]
        rfl

theorem atKey_ok_eq {ε : Type} (key : PyStr) (entries : JsonObject) :
    atKey key (Except.ok (ε := ε)) entries = .ok entries := atKey_self fun _ _ _ ↦ rfl

theorem onDict_bind {ε : Type} (f g : JsonObject → Except ε JsonObject) (value : JsonValue) :
    (onDict f value).bind (onDict g) = onDict (fun entries ↦ (f entries).bind g) value := by
  cases value with
  | dict entries =>
    rw [onDict, onDict]
    cases f entries with
    | error e => rfl
    | ok new => rfl
  | _ => rfl

theorem map_eq_ok {ε α β : Type} {x : Except ε α} {f : α → β} {b : β} :
    x.map f = .ok b ↔ ∃ a, x = .ok a ∧ f a = b := by
  cases x <;> simp [Except.map]

theorem map_eq_error {ε α β : Type} {x : Except ε α} {f : α → β} {e : ε} :
    x.map f = .error e ↔ x = .error e := by
  cases x <;> simp [Except.map]

theorem onDict_bind_of {ε : Type} {f g : JsonObject → Except ε JsonObject}
    {G : JsonValue → Except ε JsonValue}
    (hG : ∀ entries, G (.dict entries) = onDict g (.dict entries)) (entries : JsonObject) :
    (onDict f (.dict entries)).bind G = onDict (fun entries ↦ (f entries).bind g) (.dict entries) := by
  rw [onDict, onDict]
  cases f entries with
  | error e => rfl
  | ok new => exact hG new

theorem lengthAt_dict (key : PyStr) (entries : JsonObject) :
    lengthAt key (.dict entries) = ((memberOf key entries).map jsonLength).getD 0 := by
  rw [lengthAt, jsonExtract]
  cases memberOf key entries <;> rfl

section Calls

variable [Collation]

/-- What a call does to the value at its path. -/
def migrateValue : JsonValue → Except MigrationSignal JsonValue := migrateV1Datetime []

theorem migrateV1Datetime_dict (key : PyStr) (path : JsonPath) (entries : JsonObject) :
    migrateV1Datetime (.member key :: path) (.dict entries) =
      (atKey key (migrateV1Datetime path) entries).map .dict := by
  rw [atKey_eq]
  cases hmember : memberOf key entries with
  | none => simp [migrateV1Datetime, jsonExtract, hmember, Except.map]
  | some value =>
    simp only [migrateV1Datetime, jsonExtract, jsonSet, hmember, Option.bind_some]
    split
    · rename_i text _
      cases migrateText text with
      | error signal => rfl
      | ok new =>
        cases new with
        | none => simp [Except.map, setMember_self hmember]
        | some new => rfl
    · simp [Except.map, setMember_self hmember]

theorem migrateV1Datetime_member (key : PyStr) (path : JsonPath) (document : JsonValue) :
    migrateV1Datetime (.member key :: path) document =
      onDict (atKey key (migrateV1Datetime path)) document := by
  cases document with
  | dict entries => exact migrateV1Datetime_dict key path entries
  | _ => rfl

theorem migrateV1Datetime_list (path : JsonPath) (done : List JsonValue) (item : JsonValue)
    (rest : List JsonValue) :
    migrateV1Datetime (.cell done.length :: path) (.list (done ++ item :: rest)) =
      (migrateV1Datetime path item).map fun new ↦ .list (done ++ new :: rest) := by
  have hitem : (done ++ item :: rest)[done.length]? = some item := by simp
  simp only [migrateV1Datetime, jsonExtract, jsonSet, hitem, Option.bind_some]
  split
  · rename_i text _
    cases migrateText text with
    | error signal => rfl
    | ok new =>
      cases new with
      | none => rfl
      | some new => simp [Except.map]
  · rfl

/-- The calls at the fields of one item, from the array. -/
def migrateCell (index : ℕ) : List PyStr → JsonValue → Except MigrationSignal JsonValue
  | [], value => .ok value
  | field :: fields, value =>
    (migrateV1Datetime [.cell index, .member field] value).bind (migrateCell index fields)

/-- The calls at the fields of one item, from the item. -/
def migrateFields : List PyStr → JsonValue → Except MigrationSignal JsonValue
  | [], value => .ok value
  | field :: fields, value => (migrateV1Datetime [.member field] value).bind (migrateFields fields)

/-- The loop, from the array. -/
def whileValue (fields : List PyStr) : ℕ → ℕ → JsonValue → Except MigrationSignal JsonValue
  | 0, _, value => .ok value
  | turns + 1, index, value =>
    if index < jsonLength value then
      (migrateCell index fields value).bind (whileValue fields turns (index + 1))
    else .ok value

theorem migrateItem_eq (key : PyStr) (index : ℕ) (fields : List PyStr) (document : JsonValue) :
    migrateItem key index fields document =
      onDict (atKey key (migrateCell index fields)) document := by
  induction fields generalizing document with
  | nil =>
    cases document with
    | dict entries =>
      show Except.ok _ = (atKey key Except.ok entries).map JsonValue.dict
      rw [atKey_ok_eq]
      rfl
    | _ => rfl
  | cons field fields ih =>
    rw [migrateItem, migrateV1Datetime_member, funext ih, onDict_bind]
    congr 1
    funext entries
    exact atKey_bind _ _ _ _

theorem whileItems_eq (key : PyStr) (fields : List PyStr) (turns index : ℕ)
    (entries : JsonObject) :
    whileItems key fields turns index (.dict entries) =
      onDict (atKey key (whileValue fields turns index)) (.dict entries) := by
  induction turns generalizing index entries with
  | zero =>
    show Except.ok _ = (atKey key Except.ok entries).map JsonValue.dict
    rw [atKey_ok_eq]
    rfl
  | succ turns ih =>
    rw [whileItems, lengthAt_dict]
    cases hmember : memberOf key entries with
    | none =>
      rw [onDict, atKey_eq, hmember]
      rfl
    | some value =>
      have hvalue : atKey key (whileValue fields (turns + 1) index) entries =
          if index < jsonLength value then
            atKey key (fun value ↦ (migrateCell index fields value).bind
              (whileValue fields turns (index + 1))) entries
          else .ok entries := by
        split_ifs with hindex
        · refine atKey_congr fun other hother ↦ ?_
          cases hmember.symm.trans hother
          rw [whileValue, if_pos hindex]
        · rw [← atKey_ok_eq (ε := MigrationSignal) key entries]
          refine atKey_congr fun other hother ↦ ?_
          cases hmember.symm.trans hother
          rw [whileValue, if_neg hindex]
      rw [onDict, hvalue, Option.map_some, Option.getD_some, migrateItem_eq]
      split_ifs with hindex
      · rw [← atKey_bind, onDict]
        cases atKey key (migrateCell index fields) entries with
        | error signal => rfl
        | ok new => exact ih (index + 1) new
      · rfl

theorem migrateItems_eq (key : PyStr) (fields : List PyStr) (entries : JsonObject) :
    migrateItems key fields (.dict entries) =
      onDict (atKey key fun value ↦ whileValue fields (jsonLength value) 0 value)
        (.dict entries) := by
  rw [migrateItems, whileItems_eq, onDict, onDict, lengthAt_dict]
  congr 1
  refine atKey_congr fun value hvalue ↦ ?_
  rw [hvalue]
  rfl

theorem migrateCell_list (fields : List PyStr) (done : List JsonValue) (item : JsonValue)
    (rest : List JsonValue) :
    migrateCell done.length fields (.list (done ++ item :: rest)) =
      (migrateFields fields item).map fun new ↦ .list (done ++ new :: rest) := by
  induction fields generalizing item with
  | nil => rfl
  | cons field fields ih =>
    rw [migrateCell, migrateFields, migrateV1Datetime_list]
    cases migrateV1Datetime [.member field] item with
    | error signal => rfl
    | ok new => exact ih new

/-- **The loop rewrites every item**, and the turns it is given are enough. -/
theorem whileValue_list (fields : List PyStr) {turns : ℕ} (done rest : List JsonValue)
    (hturns : rest.length ≤ turns) :
    whileValue fields turns done.length (.list (done ++ rest)) =
      (rest.mapM (migrateFields fields)).map fun new ↦ .list (done ++ new) := by
  induction rest generalizing turns done with
  | nil =>
    cases turns with
    | zero => rfl
    | succ turns =>
      rw [whileValue, if_neg (by simp [jsonLength])]
      rfl
  | cons item rest ih =>
    obtain ⟨turns, rfl⟩ := Nat.exists_eq_add_of_le' (Nat.one_le_of_lt hturns)
    rw [whileValue, if_pos (by simp [jsonLength]), migrateCell_list, List.mapM_cons]
    cases migrateFields fields item with
    | error signal => rfl
    | ok new =>
      have hnext := @ih turns (done ++ [new]) (by simpa using hturns)
      rw [List.length_append, List.length_singleton, List.append_assoc] at hnext
      show whileValue fields turns (done.length + 1) (.list (done ++ ([new] ++ rest))) = _
      rw [hnext]
      cases rest.mapM (migrateFields fields) with
      | error signal => rfl
      | ok others => simp [Except.map, bind, Except.bind, pure, Except.pure]

theorem migrateFields_eq (fields : List PyStr) (value : JsonValue) :
    migrateFields fields value = onDict (atKeys (fields.map (·, migrateValue))) value := by
  induction fields generalizing value with
  | nil => cases value <;> rfl
  | cons field fields ih =>
    rw [migrateFields, migrateV1Datetime_member, funext ih, onDict_bind]
    rfl

end Calls

/-! ## The datetimes of a proposal -/

/-- What is under a key: a datetime, or records with datetimes under some of their keys. -/
inductive FieldShape
  | datetime
  | records (datetimeFields : List PyStr) (nodup : datetimeFields.Nodup)

/-- The keys with datetimes: those of `StoredProposal` itself, of its `AuthorityEvidence` and of its
receipts. -/
def proposalShape : List (PyStr × FieldShape) :=
  [(PyStr.ofString "created_at", .datetime),
    (PyStr.ofString "expires_at", .datetime),
    (PyStr.ofString "next_verification_at", .datetime),
    (PyStr.ofString "erasure_pending_at", .datetime),
    (PyStr.ofString "erased_at", .datetime),
    (PyStr.ofString "authority_evidence",
      .records [PyStr.ofString "issued_at", PyStr.ofString "expires_at"] (by decide)),
    (PyStr.ofString "receipts", .records [PyStr.ofString "observed_at"] (by decide))]

theorem proposalShape_nodup : (proposalShape.map Prod.fst).Nodup := by decide

theorem proposalShape_unique {key : PyStr} {shape shape' : FieldShape}
    (h : (key, shape) ∈ proposalShape) (h' : (key, shape') ∈ proposalShape) : shape = shape' :=
  (Prod.mk.inj (List.inj_on_of_nodup_map proposalShape_nodup h h' rfl)).2

theorem Conversion.onDict {ε : Type} {P Q : JsonObject → Prop}
    {R : JsonObject → JsonObject → Prop} {f : JsonObject → Except ε JsonObject}
    (h : Conversion P Q R f) :
    Conversion (fun value ↦ ∃ entries, value = .dict entries ∧ P entries)
      (fun value ↦ ∃ entries, value = .dict entries ∧ Q entries)
      (fun value value' ↦ ∃ entries entries', value = .dict entries ∧ value' = .dict entries' ∧
        R entries entries')
      (onDict f) where
  relates := by
    rintro _ value' ⟨entries, rfl, hP⟩ hok
    obtain ⟨entries', hentries, rfl⟩ := map_eq_ok.mp hok
    exact ⟨entries, entries', rfl, rfl, h.relates hP hentries⟩
  settles := by
    rintro _ value' ⟨entries, rfl, hP⟩ hok
    obtain ⟨entries', hentries, rfl⟩ := map_eq_ok.mp hok
    exact map_eq_ok.mpr ⟨entries', h.settles hP hentries, rfl⟩
  refuses := by
    rintro _ e ⟨entries, rfl, hP⟩ herror
    exact ⟨entries, rfl, h.refuses hP (map_eq_error.mp herror)⟩

theorem Conversion.onList {ε : Type} {P Q : List JsonValue → Prop}
    {R : List JsonValue → List JsonValue → Prop}
    {f : List JsonValue → Except ε (List JsonValue)} (h : Conversion P Q R f) :
    Conversion (fun value ↦ ∃ items, value = .list items ∧ P items)
      (fun value ↦ ∃ items, value = .list items ∧ Q items)
      (fun value value' ↦ ∃ items items', value = .list items ∧ value' = .list items' ∧
        R items items')
      (onList f) where
  relates := by
    rintro _ value' ⟨items, rfl, hP⟩ hok
    obtain ⟨items', hitems, rfl⟩ := map_eq_ok.mp hok
    exact ⟨items, items', rfl, rfl, h.relates hP hitems⟩
  settles := by
    rintro _ value' ⟨items, rfl, hP⟩ hok
    obtain ⟨items', hitems, rfl⟩ := map_eq_ok.mp hok
    exact map_eq_ok.mpr ⟨items', h.settles hP hitems, rfl⟩
  refuses := by
    rintro _ e ⟨items, rfl, hP⟩ herror
    exact ⟨items, rfl, h.refuses hP (map_eq_error.mp herror)⟩

section Conversions

variable [Collation]

/-- What the procedures do under a key of that shape. -/
def FieldShape.migrate : FieldShape → JsonValue → Except MigrationSignal JsonValue
  | .datetime, value => migrateValue value
  | .records fields _, value => whileValue fields (jsonLength value) 0 value

/-- **The calls for one row are one conversion for each key.** -/
theorem canonicalizeV1Datetimes_eq (entries : JsonObject) :
    canonicalizeV1Datetimes (.dict entries) =
      onDict (atKeys (proposalShape.map (Prod.map id FieldShape.migrate))) (.dict entries) := by
  rw [canonicalizeV1Datetimes, migrateV1Datetime_member]
  refine onDict_bind_of (fun entries ↦ ?_) entries
  rw [migrateV1Datetime_member]
  refine onDict_bind_of (fun entries ↦ ?_) entries
  rw [migrateV1Datetime_member]
  refine onDict_bind_of (fun entries ↦ ?_) entries
  rw [migrateV1Datetime_member]
  refine onDict_bind_of (fun entries ↦ ?_) entries
  rw [migrateV1Datetime_member]
  refine onDict_bind_of (fun entries ↦ ?_) entries
  rw [migrateItems_eq]
  refine onDict_bind_of (fun entries ↦ ?_) entries
  rw [migrateItems_eq]
  exact congrArg (Except.map JsonValue.dict) (atKeys_singleton
    (PyStr.ofString "receipts", fun value ↦ whileValue [PyStr.ofString "observed_at"]
      (jsonLength value) 0 value) entries).symm

/-! ### Values -/

def ValidValue (value : JsonValue) : Prop := ∀ text, value = .str text → NamesDatetime text

def RefusedValue (value : JsonValue) : Prop := ∃ text, value = .str text ∧ NotConvertible text

/-- A text is converted; what is no text, the `null` of an absent datetime, stays. -/
def ConvertedValue (value value' : JsonValue) : Prop :=
  match value with
  | .str text => ∃ text', value' = .str text' ∧ ConvertedText text text'
  | _ => value' = value

theorem migrateValue_str (text : PyStr) :
    migrateValue (.str text) = (migrateText text).map fun new ↦ .str (new.getD text) := by
  rw [migrateValue, migrateV1Datetime, jsonExtract]
  dsimp only
  cases migrateText text with
  | error signal => rfl
  | ok new => cases new <;> rfl

theorem migrateText_settled {text : PyStr} (h : endsInZ text = true) :
    migrateText text = .ok none := by rw [migrateText, if_pos h]

theorem migrateValue_conversion :
    Conversion ValidValue RefusedValue ConvertedValue migrateValue where
  relates := by
    intro value value' hvalid hok
    cases value with
    | str text =>
      rw [migrateValue_str] at hok
      cases hnew : migrateText text with
      | error signal =>
        rw [hnew] at hok
        cases hok
      | ok new =>
        rw [hnew] at hok
        cases hok
        exact ⟨_, rfl, (migrateText_ok (hvalid text rfl) hnew).1⟩
    | _ =>
      cases hok
      rfl
  settles := by
    intro value value' hvalid hok
    cases value with
    | str text =>
      rw [migrateValue_str] at hok
      cases hnew : migrateText text with
      | error signal =>
        rw [hnew] at hok
        cases hok
      | ok new =>
        rw [hnew] at hok
        cases hok
        dsimp only
        rw [migrateValue_str, migrateText_settled (migrateText_ok (hvalid text rfl) hnew).2]
        rfl
    | _ =>
      cases hok
      rfl
  refuses := by
    intro value signal hvalid herror
    cases value with
    | str text =>
      rw [migrateValue_str] at herror
      cases hnew : migrateText text with
      | error signal => exact ⟨text, rfl, migrateText_error (hvalid text rfl) hnew⟩
      | ok new =>
        rw [hnew] at herror
        cases herror
    | _ => cases herror

/-! ### Records -/

/-- An object with unique keys whose datetimes are valid. -/
def ValidRecord (fields : List PyStr) (value : JsonValue) : Prop :=
  ∃ entries, value = .dict entries ∧ (entries.map Prod.fst).Nodup ∧
    ∀ entry ∈ entries, entry.1 ∈ fields → ValidValue entry.2

def RefusedRecord (fields : List PyStr) (value : JsonValue) : Prop :=
  ∃ entries, value = .dict entries ∧ ∃ entry ∈ entries, entry.1 ∈ fields ∧ RefusedValue entry.2

/-- The datetimes of the record are converted, and nothing else is changed. -/
def ConvertedRecord (fields : List PyStr) (value value' : JsonValue) : Prop :=
  ∃ entries entries', value = .dict entries ∧ value' = .dict entries' ∧
    List.Forall₂ (fun entry entry' : PyStr × JsonValue ↦ entry'.1 = entry.1 ∧
      if entry.1 ∈ fields then ConvertedValue entry.2 entry'.2 else entry'.2 = entry.2)
      entries entries'

theorem migrateFields_conversion {fields : List PyStr} (hfields : fields.Nodup) :
    Conversion (ValidRecord fields) (RefusedRecord fields) (ConvertedRecord fields)
      (migrateFields fields) := by
  have hkeys : (fields.map (·, migrateValue)).map Prod.fst = fields := by
    rw [List.map_map]
    exact List.map_id fields
  rw [funext (migrateFields_eq fields)]
  refine Conversion.onDict (Conversion.atKeys (P := fun key value ↦ key ∈ fields → ValidValue value)
    (Q := fun key value ↦ key ∈ fields ∧ RefusedValue value)
    (R := fun key value value' ↦ if key ∈ fields then ConvertedValue value value' else value' = value)
    (hkeys.symm ▸ hfields) ?_ ?_)
  · intro rule hrule
    obtain ⟨field, hfield, rfl⟩ := List.mem_map.mp hrule
    refine migrateValue_conversion.mono (fun value hvalue ↦ hvalue hfield)
      (fun value _ hrefused ↦ ⟨hfield, hrefused⟩) fun value value' _ hconverted ↦ ?_
    rw [if_pos hfield]
    exact hconverted
  · intro key hkey value
    rw [if_neg (hkeys ▸ hkey)]

/-- An array of such records. -/
def ValidRecords (fields : List PyStr) (value : JsonValue) : Prop :=
  ∃ items, value = .list items ∧ ∀ item ∈ items, ValidRecord fields item

def RefusedRecords (fields : List PyStr) (value : JsonValue) : Prop :=
  ∃ items, value = .list items ∧ ∃ item ∈ items, RefusedRecord fields item

def ConvertedRecords (fields : List PyStr) (value value' : JsonValue) : Prop :=
  ∃ items items', value = .list items ∧ value' = .list items' ∧
    List.Forall₂ (ConvertedRecord fields) items items'

theorem whileValue_eq_onList (fields : List PyStr) (items : List JsonValue) :
    whileValue fields (jsonLength (.list items)) 0 (.list items) =
      onList (List.mapM (migrateFields fields)) (.list items) :=
  whileValue_list fields [] items le_rfl

theorem whileValue_conversion {fields : List PyStr} (hfields : fields.Nodup) :
    Conversion (ValidRecords fields) (RefusedRecords fields) (ConvertedRecords fields)
      fun value ↦ whileValue fields (jsonLength value) 0 value := by
  refine (Conversion.onList (migrateFields_conversion hfields).mapM).congr ?_ ?_
  · rintro _ ⟨items, rfl, -⟩
    exact whileValue_eq_onList fields items
  · rintro _ _ - ⟨_, items', -, rfl, -⟩
    exact whileValue_eq_onList fields items'

/-! ### Proposals -/

def FieldShape.Valid : FieldShape → JsonValue → Prop
  | .datetime => ValidValue
  | .records fields _ => ValidRecords fields

def FieldShape.Refused : FieldShape → JsonValue → Prop
  | .datetime => RefusedValue
  | .records fields _ => RefusedRecords fields

def FieldShape.Converted : FieldShape → JsonValue → JsonValue → Prop
  | .datetime => ConvertedValue
  | .records fields _ => ConvertedRecords fields

theorem FieldShape.conversion (shape : FieldShape) :
    Conversion shape.Valid shape.Refused shape.Converted shape.migrate := by
  cases shape with
  | datetime => exact migrateValue_conversion
  | records fields hfields => exact whileValue_conversion hfields

/-- A proposal document: an object with unique keys, the evidence and the receipts arrays of such
objects, and every datetime valid. -/
def ValidProposal (value : JsonValue) : Prop :=
  ∃ entries, value = .dict entries ∧ (entries.map Prod.fst).Nodup ∧
    ∀ entry ∈ entries, ∀ shape, (entry.1, shape) ∈ proposalShape → shape.Valid entry.2

/-- Some datetime of the proposal cannot be converted. -/
def RefusedProposal (value : JsonValue) : Prop :=
  ∃ entries, value = .dict entries ∧
    ∃ entry ∈ entries, ∃ shape, (entry.1, shape) ∈ proposalShape ∧ shape.Refused entry.2

/-- Every datetime of the proposal is converted, and nothing else is changed. -/
def ConvertedProposal (value value' : JsonValue) : Prop :=
  ∃ entries entries', value = .dict entries ∧ value' = .dict entries' ∧
    List.Forall₂ (fun entry entry' : PyStr × JsonValue ↦ entry'.1 = entry.1 ∧
      ((∀ shape, (entry.1, shape) ∈ proposalShape → shape.Converted entry.2 entry'.2) ∧
        (entry.1 ∉ proposalShape.map Prod.fst → entry'.2 = entry.2)))
      entries entries'

theorem canonicalizeV1Datetimes_conversion :
    Conversion ValidProposal RefusedProposal ConvertedProposal canonicalizeV1Datetimes := by
  have hkeys : (proposalShape.map (Prod.map id FieldShape.migrate)).map Prod.fst =
      proposalShape.map Prod.fst := by
    rw [List.map_map]
    rfl
  refine (Conversion.onDict (Conversion.atKeys
    (P := fun key value ↦ ∀ shape, (key, shape) ∈ proposalShape → shape.Valid value)
    (Q := fun key value ↦ ∃ shape, (key, shape) ∈ proposalShape ∧ shape.Refused value)
    (R := fun key value value' ↦
      (∀ shape, (key, shape) ∈ proposalShape → shape.Converted value value') ∧
        (key ∉ proposalShape.map Prod.fst → value' = value))
    (hkeys.symm ▸ proposalShape_nodup) ?_ ?_)).congr ?_ ?_
  · intro rule hrule
    obtain ⟨⟨key, shape⟩, hshape, rfl⟩ := List.mem_map.mp hrule
    refine shape.conversion.mono (fun value hvalue ↦ hvalue shape hshape)
      (fun value _ hrefused ↦ ⟨shape, hshape, hrefused⟩) fun value value' _ hconverted ↦ ⟨?_, ?_⟩
    · intro other hother
      obtain rfl := proposalShape_unique hshape hother
      exact hconverted
    · intro hnone
      exact absurd (List.mem_map_of_mem hshape) hnone
  · intro key hkey value
    rw [hkeys] at hkey
    exact ⟨fun shape hshape ↦ absurd (List.mem_map_of_mem hshape) hkey, fun _ ↦ rfl⟩
  · rintro _ ⟨entries, rfl, -⟩
    exact canonicalizeV1Datetimes_eq entries
  · rintro _ _ - ⟨_, entries', -, rfl, -⟩
    exact canonicalizeV1Datetimes_eq entries'

/-- **The migration of a proposal document.** It is refused, and then some datetime in it cannot be
converted; or every datetime is converted and nothing else changed, once and for all. -/
theorem canonicalizeV1Datetimes_converts {document : JsonValue} (h : ValidProposal document) :
    (∃ signal, canonicalizeV1Datetimes document = .error signal ∧ RefusedProposal document) ∨
      ∃ document', canonicalizeV1Datetimes document = .ok document' ∧
        ConvertedProposal document document' ∧
        canonicalizeV1Datetimes document' = .ok document' := by
  cases hresult : canonicalizeV1Datetimes document with
  | error signal =>
    exact .inl ⟨signal, rfl, canonicalizeV1Datetimes_conversion.refuses h hresult⟩
  | ok document' =>
    exact .inr ⟨document', rfl, canonicalizeV1Datetimes_conversion.relates h hresult,
      canonicalizeV1Datetimes_conversion.settles h hresult⟩

end Conversions

/-! ### A proposal -/

theorem digit_ne_letterZ (c : CodePoint) (h : Json.isDigit c = true) :
    decide (c.val = 0x5a ∨ c.val = 0x7a) = false := by
  rw [Json.isDigit, decide_eq_true_eq] at h
  rw [decide_eq_false_iff_not]
  omega

/-- A collation without case, as the default one of a server is. -/
@[reducible] def caseless : Collation where
  equalsZ c := decide (c.val = 0x5a ∨ c.val = 0x7a)
  equalsZ_Z := rfl
  equalsZ_digit := digit_ne_letterZ

/-- A proposal with one item of evidence and one receipt. -/
def sampleProposal (createdAt issuedAt : PyStr) : JsonValue :=
  .dict [
    jsonField "proposal_reference" (.str (PyStr.ofString "proposal-1")),
    jsonField "created_at" (.str createdAt),
    jsonField "expires_at" (.str (PyStr.ofString "2024-02-01T00:00:00Z")),
    jsonField "authority_evidence" (.list [.dict [
      jsonField "channel_assurance" (.str (PyStr.ofString "signed")),
      jsonField "issued_at" (.str issuedAt),
      jsonField "expires_at" (.str (PyStr.ofString "2024-02-01T00:00:00Z"))]]),
    jsonField "receipts" (.list [.dict [
      jsonField "receipt_reference" (.str (PyStr.ofString "receipt-1")),
      jsonField "observed_at" (.str createdAt)]]),
    jsonField "next_verification_at" .null]

theorem valid_of_mem {key : PyStr} {shape : FieldShape} {value : JsonValue}
    (h : (key, shape) ∈ proposalShape) (hvalue : shape.Valid value) :
    ∀ other, (key, other) ∈ proposalShape → other.Valid value := by
  intro other hother
  obtain rfl := proposalShape_unique h hother
  exact hvalue

theorem validValue_str {text : PyStr} (h : NamesDatetime text) : ValidValue (.str text) := by
  intro other hother
  cases hother
  exact h

theorem namesDatetime_of_reads {text : PyStr} (h : (awareDatetime? text).isSome = true) :
    NamesDatetime text := fun _ ↦ h

theorem namesDatetime_of_not_like {text : PyStr} (h : regexpLike text = false) :
    NamesDatetime text := fun hlike ↦ absurd (h.symm.trans hlike) Bool.false_ne_true

theorem sampleProposal_valid {createdAt issuedAt : PyStr} (hcreated : NamesDatetime createdAt)
    (hissued : NamesDatetime issuedAt) : ValidProposal (sampleProposal createdAt issuedAt) := by
  have hexpires : NamesDatetime (PyStr.ofString "2024-02-01T00:00:00Z") :=
    namesDatetime_of_not_like (by decide +kernel)
  have hevidence : ValidRecord [PyStr.ofString "issued_at", PyStr.ofString "expires_at"]
      (.dict [jsonField "channel_assurance" (.str (PyStr.ofString "signed")),
        jsonField "issued_at" (.str issuedAt),
        jsonField "expires_at" (.str (PyStr.ofString "2024-02-01T00:00:00Z"))]) := by
    have hkeys : (["channel_assurance", "issued_at", "expires_at"].map PyStr.ofString).Nodup := by
      decide
    refine ⟨_, rfl, hkeys, ?_⟩
    simp only [List.forall_mem_cons]
    exact ⟨fun hkey ↦ absurd hkey (by decide), fun _ ↦ validValue_str hissued,
      fun _ ↦ validValue_str hexpires, by simp⟩
  have hreceipt : ValidRecord [PyStr.ofString "observed_at"]
      (.dict [jsonField "receipt_reference" (.str (PyStr.ofString "receipt-1")),
        jsonField "observed_at" (.str createdAt)]) := by
    have hkeys : (["receipt_reference", "observed_at"].map PyStr.ofString).Nodup := by decide
    refine ⟨_, rfl, hkeys, ?_⟩
    simp only [List.forall_mem_cons]
    exact ⟨fun hkey ↦ absurd hkey (by decide), fun _ ↦ validValue_str hcreated, by simp⟩
  have hkeys : (["proposal_reference", "created_at", "expires_at", "authority_evidence", "receipts",
      "next_verification_at"].map PyStr.ofString).Nodup := by decide
  have hreference : PyStr.ofString "proposal_reference" ∉ proposalShape.map Prod.fst := by decide
  refine ⟨_, rfl, hkeys, ?_⟩
  simp only [List.forall_mem_cons]
  refine ⟨fun shape hshape ↦ absurd (List.mem_map_of_mem hshape) hreference,
    valid_of_mem (.head _) (validValue_str hcreated),
    valid_of_mem (.tail _ (.head _)) (validValue_str hexpires),
    valid_of_mem (.tail _ (.tail _ (.tail _ (.tail _ (.tail _ (.head _))))))
      ⟨_, rfl, by simpa using hevidence⟩,
    valid_of_mem (.tail _ (.tail _ (.tail _ (.tail _ (.tail _ (.tail _ (.head _)))))))
      ⟨_, rfl, by simpa using hreceipt⟩,
    valid_of_mem (.tail _ (.tail _ (.head _))) (fun text htext ↦ by cases htext), by simp⟩

/-- Milliseconds in front of a `Z` are left as they are, where the adapter writes six digits. -/
theorem canonicalizeV1Datetimes_keeps_milliseconds :
    ValidProposal (sampleProposal (PyStr.ofString "2024-01-01T00:00:00.500Z")
        (PyStr.ofString "2024-01-01T00:00:00Z")) ∧
      @canonicalizeV1Datetimes caseless
          (sampleProposal (PyStr.ofString "2024-01-01T00:00:00.500Z")
            (PyStr.ofString "2024-01-01T00:00:00Z")) =
        .ok (sampleProposal (PyStr.ofString "2024-01-01T00:00:00.500Z")
          (PyStr.ofString "2024-01-01T00:00:00Z")) ∧
      ((Gregorian.date? 2024 1 1).bind fun date ↦
          (Gregorian.Moment.at? date 0 0 0 500000).bind fun moment ↦ mysqlJsonDatetime ⟨moment, 0⟩) =
        some (PyStr.ofString "2024-01-01T00:00:00.500000Z") := by
  refine ⟨sampleProposal_valid (namesDatetime_of_not_like (by decide +kernel))
    (namesDatetime_of_not_like (by decide +kernel)), ?_, ?_⟩
  · rfl
  · decide +kernel

/-- An offset is resolved over the turn of a year. -/
theorem canonicalizeV1Datetimes_converts_offsets :
    (∃ signal, @canonicalizeV1Datetimes caseless
        (sampleProposal (PyStr.ofString "2023-12-31T23:30:00.5-01:00")
          (PyStr.ofString "2024-01-01T02:00:00+03:00")) = .error signal ∧
      @RefusedProposal caseless (sampleProposal (PyStr.ofString "2023-12-31T23:30:00.5-01:00")
        (PyStr.ofString "2024-01-01T02:00:00+03:00"))) ∨
    ∃ document', @canonicalizeV1Datetimes caseless
        (sampleProposal (PyStr.ofString "2023-12-31T23:30:00.5-01:00")
          (PyStr.ofString "2024-01-01T02:00:00+03:00")) = .ok document' ∧
      @ConvertedProposal caseless (sampleProposal (PyStr.ofString "2023-12-31T23:30:00.5-01:00")
        (PyStr.ofString "2024-01-01T02:00:00+03:00")) document' ∧
      @canonicalizeV1Datetimes caseless document' = .ok document' :=
  @canonicalizeV1Datetimes_converts caseless _
    (sampleProposal_valid (namesDatetime_of_reads (by decide +kernel))
      (namesDatetime_of_reads (by decide +kernel)))

end MySql

end ThrevoActions
