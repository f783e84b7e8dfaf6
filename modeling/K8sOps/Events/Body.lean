import K8sOps.Python.Convert

/-! Event bodies on the wire. Writing a body looks only at its value; reading it back is directed by
the types of the fields, ignores or rejects unknown keys, and takes a default for a missing one. -/
namespace K8sOps.Events
open Python

section model

mutual

/-- The value of a field: plain JSON, a list of such values, or a body with its class and its
fields. -/
inductive Instance where
  | json (value : Value)
  | list (items : Instances)
  | body (owner : String) (fields : InstanceFields)

inductive Instances where
  | nil
  | cons (item : Instance) (rest : Instances)

/-- The attributes of a body with their payload names. -/
inductive InstanceFields where
  | nil
  | cons (name payloadName : String) (value : Instance) (rest : InstanceFields)

end

mutual

inductive FieldType where
  | bool
  | int
  | str
  -- `Any`, and what has no check of its own, such as `float`: the value is returned as it is.
  | any
  | dict
  | list (item : FieldType)
  | optional (item : FieldType)
  | body (owner : String) (fields : BodyFields)

/-- The fields of a body class in order, with what stands for a missing key. -/
inductive BodyFields where
  | nil
  | cons (name payloadName : String) (default : Option Instance) (type : FieldType)
      (rest : BodyFields)

end

mutual

/-- `_to_body_value`, and `to_body` for a body. -/
def Instance.encode : Instance → Value
  | .json value => value
  | .list items => .list items.encode
  | .body _ fields => .dict (fields.encode [])

def Instances.encode : Instances → List Value
  | .nil => []
  | .cons item rest => item.encode :: rest.encode

def InstanceFields.encode : InstanceFields → Entries → Entries
  | .nil, data => data
  | .cons _ payloadName value rest, data =>
    rest.encode (Entries.assign (.str payloadName) value.encode data)

end

def BodyFields.payloadNames : BodyFields → List String
  | .nil => []
  | .cons _ payloadName _ _ rest => payloadName :: rest.payloadNames

def extraKeys (fields : BodyFields) (raw : Entries) : List Scalar :=
  (raw.map Prod.fst).filter fun key => !fields.payloadNames.any fun name => key.same (.str name)

/-- The loop over the items of a list. -/
def decodeItems (decode : Value → Except String Instance) : List Value → Except String Instances
  | [] => .ok .nil
  | value :: rest =>
    match decode value with
    | .error message => .error message
    | .ok item =>
      match decodeItems decode rest with
      | .error message => .error message
      | .ok items => .ok (.cons item items)

mutual

/-- `_decode_value`. `names` writes the unknown keys of an error. -/
def FieldType.decode (names : List Scalar → String) (strict : Bool) (owner key : String) :
    FieldType → Value → Except String Instance
  | .any, value => .ok (.json value)
  | .optional item, value =>
    match value with
    | .scalar .none => .ok (.json (.scalar .none))
    | _ =>
      match item.decode names strict owner key value with
      | .ok found => .ok found
      | .error _ => .error (owner ++ ": invalid type for field: " ++ key)
  | .body inner fields, value =>
    match value with
    | .dict raw =>
      if strict && !(extraKeys fields raw).isEmpty then
        .error (inner ++ ": unexpected field(s): " ++ names (extraKeys fields raw))
      else
        match fields.decode names strict inner raw with
        | .ok values => .ok (.body inner values)
        | .error message => .error message
    | _ => .error (owner ++ ": field " ++ key ++ " must be an object")
  | .list item, value =>
    match value with
    | .list values =>
      match decodeItems (item.decode names strict owner (key ++ "[]")) values with
      | .ok items => .ok (.list items)
      | .error message => .error message
    | _ => .error (owner ++ ": field " ++ key ++ " must be a list")
  | .dict, value =>
    match value with
    | .dict raw => .ok (.json (.dict raw))
    | _ => .error (owner ++ ": field " ++ key ++ " must be an object")
  | .bool, value =>
    match value with
    | .scalar (.bool found) => .ok (.json (.scalar (.bool found)))
    | _ => .error (owner ++ ": field " ++ key ++ " must be bool")
  | .int, value =>
    match value with
    | .scalar (.int found) => .ok (.json (.scalar (.int found)))
    | _ => .error (owner ++ ": field " ++ key ++ " must be int")
  | .str, value =>
    match value with
    | .scalar (.str found) => .ok (.json (.scalar (.str found)))
    | _ => .error (owner ++ ": field " ++ key ++ " must be str")

/-- The loop over the fields of a class. -/
def BodyFields.decode (names : List Scalar → String) (strict : Bool) (owner : String) :
    BodyFields → Entries → Except String InstanceFields
  | .nil, _ => .ok .nil
  | .cons name payloadName default type rest, raw =>
    let found := match getKey payloadName raw with
      | some value => type.decode names strict owner payloadName value
      | none =>
        match default with
        | some value => .ok value
        | none => .error (owner ++ ": missing required field: " ++ payloadName)
    match found with
    | .error message => .error message
    | .ok value =>
      match rest.decode names strict owner raw with
      | .error message => .error message
      | .ok values => .ok (.cons name payloadName value values)

end

def fromBody (names : List Scalar → String) (strict : Bool) (owner : String) (fields : BodyFields)
    (raw : Value) : Except String Instance :=
  match raw with
  | .dict _ => (FieldType.body owner fields).decode names strict owner "" raw
  | _ => .error (owner ++ ": payload must be an object")

end model

section schemas

def Instances.Along (relation : Instance → Value → Prop) : Instances → List Value → Prop
  | .nil, values => values = []
  | .cons item rest, values =>
    ∃ value more, values = value :: more ∧ relation item value ∧ rest.Along relation more

def Instances.All (property : Instance → Prop) : Instances → Prop
  | .nil => True
  | .cons item rest => property item ∧ rest.All property

mutual

def FieldType.Types : FieldType → Instance → Prop
  | .bool, value => ∃ found, value = .json (.scalar (.bool found))
  | .int, value => ∃ found, value = .json (.scalar (.int found))
  | .str, value => ∃ found, value = .json (.scalar (.str found))
  | .any, value => ∃ plain, value = .json plain
  | .dict, value => ∃ raw, value = .json (.dict raw)
  | .list item, value => ∃ items : Instances, value = .list items ∧ items.All item.Types
  | .optional item, value => value = .json (.scalar .none) ∨ item.Types value
  | .body owner fields, value => ∃ values, value = .body owner values ∧ fields.Types values

def BodyFields.Types : BodyFields → InstanceFields → Prop
  | .nil, values => values = .nil
  | .cons name payloadName _ type rest, values =>
    ∃ value more, values = .cons name payloadName value more ∧ type.Types value ∧ rest.Types more

end

mutual

/-- The payload names are distinct within each body. -/
def FieldType.Distinct : FieldType → Prop
  | .list item | .optional item => item.Distinct
  | .body _ fields => fields.payloadNames.Nodup ∧ fields.Distinct
  | _ => True

def BodyFields.Distinct : BodyFields → Prop
  | .nil => True
  | .cons _ _ _ type rest => type.Distinct ∧ rest.Distinct

end

mutual

/-- A wire value with keys added to the objects of its bodies: every field of a body still has its
value, in which there may be more keys as well. -/
def FieldType.Pads : FieldType → Value → Value → Prop
  | .list item, value, wide =>
    ∃ values wides, value = .list values ∧ wide = .list wides ∧ List.Forall₂ item.Pads values wides
  | .optional item, value, wide =>
    value = .scalar .none ∧ wide = value ∨ value ≠ .scalar .none ∧ item.Pads value wide
  | .body _ fields, value, wide =>
    ∃ raw more, value = .dict raw ∧ wide = .dict more ∧ fields.Pads raw more
  | _, value, wide => wide = value

def BodyFields.Pads : BodyFields → Entries → Entries → Prop
  | .nil, _, _ => True
  | .cons _ payloadName _ type rest, raw, more =>
    (∃ value wide, getKey payloadName raw = some value ∧ getKey payloadName more = some wide ∧
      type.Pads value wide) ∧ rest.Pads raw more

end

mutual

/-- Some body of the wire value has an unknown key. -/
def FieldType.Extra : FieldType → Value → Prop
  | .list item, value => ∃ values, value = .list values ∧ ∃ found ∈ values, item.Extra found
  | .optional item, value => value ≠ .scalar .none ∧ item.Extra value
  | .body _ fields, value =>
    ∃ raw, value = .dict raw ∧ (extraKeys fields raw ≠ [] ∨ fields.Extra raw)
  | _, _ => False

def BodyFields.Extra : BodyFields → Entries → Prop
  | .nil, _ => False
  | .cons _ payloadName _ type rest, raw =>
    (∃ value, getKey payloadName raw = some value ∧ type.Extra value) ∨ rest.Extra raw

end

end schemas

section reading
variable {names : List Scalar → String} {strict : Bool}

theorem decodeItems_ok {decode : Value → Except String Instance} {items : Instances}
    {values : List Value} (each : items.Along (fun item value => decode value = .ok item) values) :
    decodeItems decode values = .ok items := by
  induction values generalizing items with
  | nil =>
    cases items with
    | nil => rfl
    | cons item rest =>
      obtain ⟨_, _, impossible, _⟩ := each
      cases impossible
  | cons value values ih =>
    cases items with
    | nil => cases each
    | cons item rest =>
      obtain ⟨_, _, same, first, later⟩ := each
      cases same
      rw [decodeItems, first]
      dsimp only
      rw [ih later]

theorem decodeItems_error {decode : Value → Except String Instance} {values : List Value}
    (member : value ∈ values) (fails : ∃ message, decode value = .error message) :
    ∃ message, decodeItems decode values = .error message := by
  induction values with
  | nil => cases member
  | cons first values ih =>
    rw [decodeItems]
    cases outcome : decode first with
    | error message => exact ⟨message, rfl⟩
    | ok item =>
      dsimp only
      obtain rfl | later := List.mem_cons.mp member
      · obtain ⟨message, failed⟩ := fails
        cases outcome.symm.trans failed
      · obtain ⟨message, failed⟩ := ih later
        rw [failed]
        exact ⟨message, rfl⟩

/-- What stands on the wire for the fields of a body. -/
def InstanceFields.Written : InstanceFields → Entries → Prop
  | .nil, _ => True
  | .cons _ payloadName value rest, raw =>
    getKey payloadName raw = some value.encode ∧ rest.Written raw

def InstanceFields.payloadNames : InstanceFields → List String
  | .nil => []
  | .cons _ payloadName _ rest => payloadName :: rest.payloadNames

theorem payloadNames_of_types (fields : BodyFields) (values : InstanceFields)
    (typed : fields.Types values) :
    values.payloadNames = fields.payloadNames := by
  cases fields with
  | nil =>
    cases typed
    rfl
  | cons fieldName fieldPayload default type others =>
    obtain ⟨value, rest, rfl, _, later⟩ := typed
    rw [InstanceFields.payloadNames, BodyFields.payloadNames,
      payloadNames_of_types others rest later]

theorem encode_unwritten (values : InstanceFields) (data : Entries)
    (absent : key ∉ values.payloadNames) :
    getKey key (values.encode data) = getKey key data := by
  cases values with
  | nil => rfl
  | cons name payloadName value rest =>
    rw [InstanceFields.payloadNames, List.mem_cons, not_or] at absent
    rw [InstanceFields.encode, encode_unwritten rest _ absent.2, getKey_assign_ne absent.1]

theorem encode_written (values : InstanceFields) (data : Entries)
    (distinct : values.payloadNames.Nodup) :
    values.Written (values.encode data) := by
  cases values with
  | nil => trivial
  | cons name payloadName value rest =>
    obtain ⟨fresh, distinct⟩ := List.nodup_cons.mp distinct
    rw [InstanceFields.encode]
    refine ⟨?_, encode_written rest _ distinct⟩
    rw [encode_unwritten rest _ fresh]
    exact Entries.lookup_assign _ _ _

theorem encode_keys (values : InstanceFields) (data : Entries) :
    ∀ key ∈ (values.encode data).map Prod.fst, key ∈ data.map Prod.fst ∨
      ∃ name ∈ values.payloadNames, key = .str name := by
  cases values with
  | nil => exact fun key member => .inl member
  | cons name payloadName value rest =>
    intro key member
    obtain assigned | ⟨other, among, same⟩ := encode_keys rest _ key member
    · obtain own | old := mem_assign_keys assigned
      · exact .inr ⟨payloadName, List.mem_cons_self, own⟩
      · exact .inl old
    · exact .inr ⟨other, List.mem_cons_of_mem _ among, same⟩
where
  mem_assign_keys {key : Scalar} {name : String} {value : Value} {data : Entries}
      (member : key ∈ (Entries.assign (.str name) value data).map Prod.fst) : key = .str name ∨
      key ∈ data.map Prod.fst := by
    induction data with
    | nil => exact .inl (List.mem_singleton.mp member)
    | cons entry data ih =>
      rw [Entries.assign] at member
      split at member
      · exact .inr member
      · obtain rfl | later := List.mem_cons.mp member
        · exact .inr List.mem_cons_self
        · exact (ih later).imp_right (List.mem_cons_of_mem _)

theorem encode_scalar {value : Instance} (written : value.encode = .scalar found) :
    value = .json (.scalar found) := by
  cases value with
  | json plain => exact congrArg Instance.json written
  | list | body => cases written

theorem pads_present (type : FieldType) (padded : type.Pads value wide)
    (present : value ≠ .scalar .none) :
    wide ≠ .scalar .none := by
  cases type with
  | bool | int | str | any | dict => exact fun isNone => present (Eq.trans (Eq.symm padded) isNone)
  | list item =>
    obtain ⟨_, _, _, rfl, _⟩ := padded
    exact fun impossible => by cases impossible
  | body owner fields =>
    obtain ⟨_, _, _, rfl, _⟩ := padded
    exact fun impossible => by cases impossible
  | optional item =>
    obtain ⟨isNone, _⟩ | ⟨_, inner⟩ := padded
    · exact absurd isNone present
    · exact pads_present item inner present

theorem along_of_pads {item : FieldType} {decode : Value → Except String Instance}
    (reads : ∀ value wide, item.Types value → item.Pads value.encode wide →
      (strict = true → ¬ item.Extra wide) →
      decode wide = .ok value)
    (items : Instances) (wides : List Value) (all : items.All item.Types)
    (each : List.Forall₂ item.Pads items.encode wides)
    (clean : strict = true → ∀ wide ∈ wides, ¬ item.Extra wide) :
    items.Along (fun found wide => decode wide = .ok found) wides := by
  cases items with
  | nil =>
    cases each
    rfl
  | cons first rest =>
    cases each with
    | cons padded later =>
      refine ⟨_, _, rfl, reads first _ all.1 padded fun isStrict =>
        clean isStrict _ List.mem_cons_self, ?_⟩
      exact along_of_pads reads rest _ all.2 later
        fun isStrict wide member => clean isStrict wide (List.mem_cons_of_mem _ member)

mutual

/-- A value with more keys in its bodies is read as the instance, if those keys are ignored or there
are none. -/
theorem decode_padded (type : FieldType) (owner key : String) (distinct : type.Distinct)
    (value : Instance) (wide : Value) (typed : type.Types value)
    (padded : type.Pads value.encode wide) (clean : strict = true → ¬ type.Extra wide) :
    type.decode names strict owner key wide = .ok value := by
  cases type with
  | bool | int | str | any | dict =>
    obtain ⟨found, rfl⟩ := typed
    cases padded
    rfl
  | list item =>
    obtain ⟨items, rfl, all⟩ := typed
    obtain ⟨values, wides, same, rfl, each⟩ := padded
    have along := along_of_pads (decode_padded item owner (key ++ "[]") distinct) items wides all
      (Value.list.inj same ▸ each) fun isStrict wide member extra =>
        clean isStrict ⟨wides, rfl, wide, member, extra⟩
    rw [FieldType.decode, decodeItems_ok along]
  | optional item =>
    obtain ⟨isNone, rfl⟩ | ⟨present, inner⟩ := padded
    · rw [isNone, encode_scalar isNone]
      rfl
    · have innerTyped : item.Types value :=
        typed.resolve_left fun isNone => present (congrArg Instance.encode isNone)
      have widePresent := pads_present item inner present
      have read := decode_padded item owner key distinct value wide innerTyped inner
        fun isStrict extra => clean isStrict ⟨widePresent, extra⟩
      rw [FieldType.decode, read]
      exact widePresent
  | body inner fields =>
    obtain ⟨values, rfl, fieldsTyped⟩ := typed
    obtain ⟨raw, more, same, rfl, fieldsPadded⟩ := padded
    have written : values.Written raw := by
      rw [← Value.dict.inj same]
      exact encode_written values [] (payloadNames_of_types fields values fieldsTyped ▸ distinct.1)
    have read :=
      decode_fields fields inner distinct.2 values raw more fieldsTyped written fieldsPadded
      fun isStrict extra => clean isStrict ⟨more, rfl, .inr extra⟩
    have accepted : (strict && !(extraKeys fields more).isEmpty) = false := by
      cases isStrict : strict with
      | false => rfl
      | true =>
        rw [Bool.true_and, Bool.not_eq_false', List.isEmpty_iff]
        by_contra extra
        exact clean isStrict ⟨more, rfl, .inl extra⟩
    rw [FieldType.decode, accepted, if_neg Bool.false_ne_true, read]

theorem decode_fields (fields : BodyFields) (owner : String) (distinct : fields.Distinct)
    (values : InstanceFields) (raw more : Entries) (typed : fields.Types values)
    (written : values.Written raw) (padded : fields.Pads raw more)
    (clean : strict = true → ¬ fields.Extra more) :
    fields.decode names strict owner more = .ok values := by
  cases fields with
  | nil =>
    cases typed
    rfl
  | cons name payloadName default type rest =>
    obtain ⟨value, others, rfl, valueTyped, othersTyped⟩ := typed
    obtain ⟨⟨found, wide, isFound, isWide, valuePadded⟩, restPadded⟩ := padded
    cases written.1.symm.trans isFound
    have first := decode_padded type owner payloadName distinct.1 value wide valueTyped valuePadded
      fun isStrict extra => clean isStrict (.inl ⟨wide, isWide, extra⟩)
    have later :=
      decode_fields rest owner distinct.2 others raw more othersTyped written.2 restPadded
      fun isStrict extra => clean isStrict (.inr extra)
    rw [BodyFields.decode.eq_def]
    dsimp only
    rw [isWide]
    dsimp only
    rw [first]
    dsimp only
    rw [later]

end

mutual

/-- Strict reading fails where some body has an unknown key. -/
theorem decode_extra (type : FieldType) (owner key : String) (wide : Value)
    (extra : type.Extra wide) :
    ∃ message, type.decode names true owner key wide = .error message := by
  cases type with
  | bool | int | str | any | dict => cases extra
  | list item =>
    obtain ⟨values, rfl, found, member, inner⟩ := extra
    obtain ⟨message, failed⟩ :=
      decodeItems_error member (decode_extra item owner (key ++ "[]") found inner)
    rw [FieldType.decode, failed]
    exact ⟨message, rfl⟩
  | optional item =>
    obtain ⟨present, inner⟩ := extra
    obtain ⟨message, failed⟩ := decode_extra item owner key wide inner
    refine ⟨owner ++ ": invalid type for field: " ++ key, ?_⟩
    rw [FieldType.decode, failed]
    exact present
  | body inner fields =>
    obtain ⟨raw, rfl, unknown | nested⟩ := extra
    · have refused : (true && !(extraKeys fields raw).isEmpty) = true := by simpa using unknown
      rw [FieldType.decode, refused, if_pos rfl]
      exact ⟨_, rfl⟩
    · obtain ⟨message, failed⟩ := fields_extra fields inner raw nested
      rw [FieldType.decode]
      split
      · exact ⟨_, rfl⟩
      · rw [failed]
        exact ⟨message, rfl⟩

theorem fields_extra (fields : BodyFields) (owner : String) (raw : Entries)
    (extra : fields.Extra raw) :
    ∃ message, fields.decode names true owner raw = .error message := by
  cases fields with
  | nil => cases extra
  | cons name payloadName default type rest =>
    rw [BodyFields.decode.eq_def]
    dsimp only
    split
    next message _ => exact ⟨message, rfl⟩
    next value read =>
      obtain ⟨wide, isWide, inner⟩ | later := extra
      · obtain ⟨message, failed⟩ := decode_extra type owner payloadName wide inner
        rw [isWide] at read
        cases failed.symm.trans read
      · obtain ⟨message, failed⟩ := fields_extra rest owner raw later
        rw [failed]
        exact ⟨message, rfl⟩

end

theorem mem_encode {property : Instance → Prop} (items : Instances) (all : items.All property)
    (member : value ∈ items.encode) :
    ∃ item : Instance, property item ∧ item.encode = value := by
  cases items with
  | nil => cases member
  | cons first rest =>
    obtain rfl | later := List.mem_cons.mp member
    · exact ⟨first, all.1, rfl⟩
    · exact mem_encode rest all.2 later

theorem extraKeys_encode {fields : BodyFields} {values : InstanceFields}
    (typed : fields.Types values) :
    extraKeys fields (values.encode []) = [] := by
  refine List.filter_eq_nil_iff.mpr fun key member => ?_
  obtain impossible | ⟨name, among, rfl⟩ := encode_keys values [] key member
  · cases impossible
  · rw [payloadNames_of_types fields values typed] at among
    rw [Bool.not_eq_true, Bool.not_eq_false']
    exact List.any_eq_true.mpr ⟨name, among, Scalar.same_iff.mpr rfl⟩

mutual

theorem encode_self (type : FieldType) (distinct : type.Distinct) (value : Instance)
    (typed : type.Types value) :
    type.Pads value.encode value.encode ∧ ¬ type.Extra value.encode := by
  cases type with
  | bool | int | str | any | dict => exact ⟨rfl, fun extra => extra⟩
  | list item =>
    obtain ⟨items, rfl, all⟩ := typed
    have each : ∀ value ∈ items.encode, item.Pads value value ∧ ¬ item.Extra value := by
      intro value member
      obtain ⟨found, foundTyped, rfl⟩ := mem_encode items all member
      exact encode_self item distinct found foundTyped
    refine ⟨⟨_, _, rfl, rfl, List.forall₂_same.mpr fun value member => (each value member).1⟩, ?_⟩
    rintro ⟨_, same, found, member, extra⟩
    cases same
    exact (each found member).2 extra
  | optional item =>
    by_cases isNone : value.encode = .scalar .none
    · exact ⟨.inl ⟨isNone, rfl⟩, fun extra => extra.1 isNone⟩
    · have inner := encode_self item distinct value
        (typed.resolve_left fun absent => isNone (congrArg Instance.encode absent))
      exact ⟨.inr ⟨isNone, inner.1⟩, fun extra => inner.2 extra.2⟩
  | body owner fields =>
    obtain ⟨values, rfl, fieldsTyped⟩ := typed
    have written :=
      encode_written values [] (payloadNames_of_types fields values fieldsTyped ▸ distinct.1)
    have inner := fields_self fields distinct.2 values fieldsTyped written
    refine ⟨⟨_, _, rfl, rfl, inner.1⟩, ?_⟩
    rintro ⟨_, same, unknown | nested⟩
    · cases same
      exact unknown (extraKeys_encode fieldsTyped)
    · cases same
      exact inner.2 nested

theorem fields_self (fields : BodyFields) (distinct : fields.Distinct) (values : InstanceFields)
    (typed : fields.Types values) (written : values.Written raw) :
    fields.Pads raw raw ∧ ¬ fields.Extra raw := by
  cases fields with
  | nil => exact ⟨trivial, fun extra => extra⟩
  | cons name payloadName default type rest =>
    obtain ⟨value, others, rfl, valueTyped, othersTyped⟩ := typed
    have first := encode_self type distinct.1 value valueTyped
    have later := fields_self rest distinct.2 others othersTyped written.2
    refine ⟨⟨⟨_, _, written.1, written.1, first.1⟩, later.1⟩, ?_⟩
    rintro (⟨found, isFound, extra⟩ | extra)
    · cases written.1.symm.trans isFound
      exact first.2 extra
    · exact later.2 extra

end

/-- A body of any schema is read back from what it writes, strictly or not. With unknown keys added
to its object or to the objects of bodies inside, it is still read back when they are ignored, and
never strictly. -/
theorem event_bodies_round_trip (owner : String) (fields : BodyFields)
    (distinct : (FieldType.body owner fields).Distinct) (values : InstanceFields)
    (typed : fields.Types values) :
    (∀ strict, fromBody names strict owner fields (Instance.body owner values).encode =
      .ok (.body owner values)) ∧
      ∀ wide, (FieldType.body owner fields).Pads (Instance.body owner values).encode wide →
        fromBody names false owner fields wide = .ok (.body owner values) ∧
          ((FieldType.body owner fields).Extra wide →
            ∃ message, fromBody names true owner fields wide = .error message) := by
  have bodyTyped : (FieldType.body owner fields).Types (.body owner values) := ⟨values, rfl, typed⟩
  have own := encode_self _ distinct _ bodyTyped
  refine ⟨fun strict => ?_, fun wide padded => ?_⟩
  · exact decode_padded _ owner "" distinct _ _ bodyTyped own.1 fun _ => own.2
  · obtain ⟨raw, more, same, rfl, fieldsPadded⟩ := padded
    refine ⟨?_, fun extra => ?_⟩
    · have lenient : false = true → ¬ (FieldType.body owner fields).Extra (.dict more) := nofun
      exact decode_padded _ owner "" distinct _ _ bodyTyped ⟨raw, more, same, rfl,
        fieldsPadded⟩ lenient
    · exact decode_extra _ owner "" _ extra

end reading

section accepting
variable {names : List Scalar → String} {strict : Bool}

mutual

/-- What stands for a missing key is of the type of the field. -/
def FieldType.Defaults : FieldType → Prop
  | .list item | .optional item => item.Defaults
  | .body _ fields => fields.Defaults
  | _ => True

def BodyFields.Defaults : BodyFields → Prop
  | .nil => True
  | .cons _ _ default type rest =>
    (∀ value ∈ default, type.Types value) ∧ type.Defaults ∧ rest.Defaults

end

theorem decodeItems_all {decode : Value → Except String Instance} {property : Instance → Prop}
    (each : ∀ raw value, decode raw = .ok value → property value) (raws : List Value)
    (items : Instances) (read : decodeItems decode raws = .ok items) : items.All property := by
  induction raws generalizing items with
  | nil =>
    cases read
    trivial
  | cons raw raws ih =>
    rw [decodeItems] at read
    split at read
    next => cases read
    next first =>
      split at read
      next => cases read
      next later =>
        cases read
        exact ⟨each raw _ first, ih _ later⟩

mutual

theorem decode_types (type : FieldType) (owner key : String) (defaults : type.Defaults)
    (raw : Value) (value : Instance) (read : type.decode names strict owner key raw = .ok value) :
    type.Types value := by
  rw [FieldType.decode.eq_def] at read
  cases type with
  | any =>
    cases read
    exact ⟨raw, rfl⟩
  | bool | int | str | dict =>
    dsimp only at read
    split at read
    · cases read
      exact ⟨_, rfl⟩
    · cases read
  | list item =>
    dsimp only at read
    split at read
    · split at read
      next inner =>
        cases read
        exact ⟨_, rfl, decodeItems_all (decode_types item owner (key ++ "[]") defaults) _ _ inner⟩
      next => cases read
    · cases read
  | optional item =>
    dsimp only at read
    split at read
    · cases read
      exact .inl rfl
    · split at read
      next inner =>
        cases read
        exact .inr (decode_types item owner key defaults _ value inner)
      next => cases read
  | body inner fields =>
    dsimp only at read
    split at read
    · split at read
      · cases read
      · split at read
        next found =>
          cases read
          exact ⟨_, rfl, fields_types fields inner defaults _ _ found⟩
        next => cases read
    · cases read

theorem fields_types (fields : BodyFields) (owner : String) (defaults : fields.Defaults)
    (raw : Entries) (values : InstanceFields)
    (read : fields.decode names strict owner raw = .ok values) : fields.Types values := by
  rw [BodyFields.decode.eq_def] at read
  cases fields with
  | nil =>
    cases read
    rfl
  | cons name payloadName default type rest =>
    obtain ⟨own, inside, later⟩ := defaults
    dsimp only at read
    split at read
    · cases read
    next value found =>
      split at read
      · cases read
      next others =>
        cases read
        refine ⟨value, _, rfl, ?_, fields_types rest owner later raw _ others⟩
        split at found
        · exact decode_types type owner payloadName inside _ value found
        · split at found
          · cases found
            exact own value rfl
          · cases found

end

/-- An accepted body is of its schema, and what it is written as is read as the same body. -/
theorem accepted_bodies_normal (owner : String) (fields : BodyFields)
    (distinct : (FieldType.body owner fields).Distinct) (defaults : fields.Defaults)
    (accepted : fromBody names strict owner fields raw = .ok value) :
    (FieldType.body owner fields).Types value ∧
    ∀ again, fromBody names again owner fields value.encode = .ok value := by
  unfold fromBody at accepted
  split at accepted
  · have typed := decode_types (.body owner fields) owner "" defaults _ value accepted
    obtain ⟨pads, clean⟩ := encode_self _ distinct value typed
    obtain ⟨values, rfl, inside⟩ := typed
    exact ⟨⟨values, rfl, inside⟩,
      fun again => decode_padded _ owner "" distinct _ _ ⟨values, rfl, inside⟩ pads fun _ => clean⟩
  · cases accepted

end accepting

section sample

def stepFields : BodyFields := .cons "count" "stepCount" none .int .nil

def planFields : BodyFields :=
  .cons "steps" "steps" none (.list (.optional (.body "Step" stepFields))) .nil

def planValues : InstanceFields :=
  .cons "steps" "steps"
    (.list (.cons (.json (.scalar .none))
      (.cons (.body "Step" (.cons "count" "stepCount" (.json (.scalar (.int 2))) .nil)) .nil)))
    .nil

def planWide : Value :=
  .dict [(.str "steps", .list [.scalar .none,
    .dict [(.str "stepCount", .scalar (.int 2)), (.str "label", .scalar (.str "new"))]])]

theorem event_bodies_round_trip_plan :
    (fromBody (fun _ => "label") false "Plan" planFields planWide = .ok (.body "Plan" planValues)) ∧
      ∃ message, fromBody (fun _ => "label") true "Plan" planFields planWide = .error message := by
  have distinct : (FieldType.body "Plan" planFields).Distinct := by
    simp [FieldType.Distinct, BodyFields.Distinct, planFields, stepFields, BodyFields.payloadNames]
  have typed : planFields.Types planValues :=
    ⟨_, _, rfl, ⟨_, rfl, .inl rfl, .inr ⟨_, rfl, _, _, rfl, ⟨2, rfl⟩, rfl⟩, trivial⟩, rfl⟩
  have stepPadded : (FieldType.optional (.body "Step" stepFields)).Pads
      (.dict [(.str "stepCount", .scalar (.int 2))])
      (.dict [(.str "stepCount", .scalar (.int 2)), (.str "label", .scalar (.str "new"))]) :=
    .inr ⟨nofun, _, _, rfl, rfl, ⟨_, _, rfl, rfl, rfl⟩, trivial⟩
  have padded : (FieldType.body "Plan" planFields).Pads (Instance.body "Plan" planValues).encode
      planWide :=
    ⟨_, _, rfl, rfl, ⟨_, _, rfl, rfl, _, _, rfl, rfl,
      .cons (.inl ⟨rfl, rfl⟩) (.cons stepPadded .nil)⟩, trivial⟩
  have extra : (FieldType.body "Plan" planFields).Extra planWide :=
    ⟨_, rfl, .inr (.inl ⟨_, rfl, _, rfl, _, List.mem_cons_of_mem _ List.mem_cons_self, nofun, _,
      rfl, .inl (by decide)⟩)⟩
  obtain ⟨read, refused⟩ :=
    (@event_bodies_round_trip (fun _ => "label") "Plan" planFields distinct planValues
      typed).2 planWide padded
  exact ⟨read, refused extra⟩

/-- The key that was ignored is not written again. -/
theorem accepted_bodies_normal_plan : fromBody (fun _ => "label") true "Plan" planFields
    (Instance.body "Plan" planValues).encode = .ok (.body "Plan" planValues) := by
  have distinct : (FieldType.body "Plan" planFields).Distinct := by
    simp [FieldType.Distinct, BodyFields.Distinct, planFields, stepFields, BodyFields.payloadNames]
  have defaults : planFields.Defaults := ⟨nofun, ⟨nofun, trivial, trivial⟩, trivial⟩
  have accepted : fromBody (fun _ => "label") false "Plan" planFields planWide =
      .ok (.body "Plan" planValues) := rfl
  exact (accepted_bodies_normal "Plan" planFields distinct defaults accepted).2 true

end sample

end K8sOps.Events
