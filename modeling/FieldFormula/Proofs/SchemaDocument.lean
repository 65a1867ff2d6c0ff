import FieldFormula.Proofs.Json.Document
import FieldFormula.Schema.Json

/-! Schemas as documents. The types of a schema are read back from what is written for them as long
as they leave room in the document, and with them the schema. -/

namespace FieldFormula

/-- Encoded items are decoded one by one. -/
theorem mapM_map_eq_some {α β : Type} {encode : α → β} {decode : β → Option α} {items : List α}
    (decoded : ∀ item ∈ items, decode (encode item) = some item) :
    (items.map encode).mapM decode = some items := by
  induction items with
  | nil => rfl
  | cons item items ih =>
    rw [List.forall_mem_cons] at decoded
    rw [List.map_cons, List.mapM_cons, decoded.1, ih decoded.2]
    rfl

namespace Table

variable {α : Type}

theorem eq_of_entries_eq {first second : Table α} (same : first.entries = second.entries) :
    first = second := by
  cases first
  cases second
  cases same
  rfl

theorem entries_insert_of_notMem {table : Table α} {key : String}
    (absent : key ∉ table.entries.map Prod.fst) (value : α) :
    (table.insert key value).entries = table.entries ++ [(key, value)] := by
  have kept : table.entries.filter (fun entry => entry.1 != key) = table.entries := by
    rw [List.filter_eq_self]
    intro entry member
    rw [bne_iff_ne]
    rintro rfl
    exact absent (List.mem_map_of_mem member)
  simp only [insert, kept]

theorem entries_foldl_insert (entries : List (String × α)) (table : Table α)
    (distinct : ((table.entries ++ entries).map Prod.fst).Nodup) :
    (entries.foldl (fun table entry => table.insert entry.1 entry.2) table).entries =
      table.entries ++ entries := by
  induction entries generalizing table with
  | nil => simp
  | cons entry entries ih =>
    have absent : entry.1 ∉ table.entries.map Prod.fst := by
      rw [List.map_append, List.nodup_append] at distinct
      intro present
      exact distinct.2.2 entry.1 present entry.1 List.mem_cons_self rfl
    have appended := entries_insert_of_notMem absent entry.2
    rw [List.foldl_cons, ih]
    · rw [appended, List.append_assoc, List.singleton_append]
    · rwa [appended, List.append_assoc, List.singleton_append]

/-- A table is made of its entries. -/
theorem ofList_entries (table : Table α) : ofList table.entries = table :=
  eq_of_entries_eq (entries_foldl_insert table.entries empty table.distinct)

end Table

namespace Json

variable {number string : String → Bool}

theorem members?_ofMembers (members : List (String × Json)) :
    (ofMembers members).members? = some members := by
  apply mapM_map_eq_some
  intro member _
  rw [textOf?_escape, Option.map_some]

theorem scalars_ofMembers {members : List (String × Json)}
    (spellings : ∀ text, string (escape text) = true)
    (values : ∀ member ∈ members, member.2.scalars number string = true) :
    (ofMembers members).scalars number string = true := by
  rw [ofMembers, scalars]
  induction members with
  | nil => rfl
  | cons member members ih =>
    rw [List.forall_mem_cons] at values
    simp [scalarsOfMembers, spellings, values.1, ih values.2]

end Json

namespace Ty

def nesting : Ty → Nat
  | .array element | .lookup element => element.nesting + 1
  | _ => 0

/-- A type takes one level more than its arrays and lookups, for the object it is written as. -/
theorem height_toJson (type : Ty) : type.toJson.height = type.nesting + 1 := by
  induction type with
  | array element ih | lookup element ih =>
    simp [toJson, nesting, Json.ofMembers, Json.height, Json.heightOfMembers, Json.ofText, ih]
  | _ => rfl

/-- What is written for a type has no other scalars than numerals of 32 bits and spellings. -/
theorem scalars_toJson {numeral spelling : String → Bool}
    (numerals : ∀ value, value < UInt32.size → numeral (toString value) = true)
    (spellings : ∀ text, spelling (Json.escape text) = true) (type : Ty) :
    type.toJson.scalars numeral spelling = true := by
  induction type with
  | number decimalPlaces =>
    have places := numerals decimalPlaces.toNat decimalPlaces.toNat_lt
    apply Json.scalars_ofMembers spellings
    simpa [Json.scalars, Json.ofText, Json.ofNat, spellings] using places
  | array element ih | lookup element ih =>
    apply Json.scalars_ofMembers spellings
    simpa [Json.scalars, Json.ofText, spellings] using ih
  | _ =>
    apply Json.scalars_ofMembers spellings
    simp [Json.scalars, Json.ofText, spellings]

theorem tagOf?_ofText {tag : String} (known : tag ∈ tags) (nested : Bool) :
    tagOf? nested (.ofText tag) = some tag := by
  simp [tagOf?, Json.text?_ofText, known]

theorem parts?_of_bare {tag : String} (known : tag ∈ tags) (bare : parameterKey? tag = none)
    (nested : Bool) : parts? nested (.ofMembers [("type", .ofText tag)]) = some (tag, none) := by
  have members := Json.members?_ofMembers [("type", .ofText tag)]
  rw [Json.ofMembers] at members ⊢
  simp only [parts?, members]
  simp [Json.only?, Json.valuesOf, tagOf?_ofText known, bare]

theorem parts?_of_parameter {tag key : String} (known : tag ∈ tags)
    (named : parameterKey? tag = some key) (other : key ≠ "type") (parameter : Json)
    (nested : Bool) :
    parts? nested (.ofMembers [("type", .ofText tag), (key, parameter)]) =
      some (tag, some parameter) := by
  have members := Json.members?_ofMembers [("type", .ofText tag), (key, parameter)]
  rw [Json.ofMembers] at members ⊢
  simp only [parts?, members]
  simp [Json.only?, Json.valuesOf, tagOf?_ofText known, named, other, other.symm]

/-- A type is read back if there is room for all of its levels. -/
theorem ofJsonWithin_toJson (type : Ty) {room : Nat} (fits : type.nesting < room) (nested : Bool) :
    ofJsonWithin nested room type.toJson = some type := by
  cases room with
  | zero => cases fits
  | succ room =>
    cases type with
    | untyped | text | boolean | duration | link =>
      rw [toJson, ofJsonWithin, parts?_of_bare (by decide) rfl]
      rfl
    | error message =>
      rw [toJson, ofJsonWithin, parts?_of_parameter (by decide) rfl (by decide)]
      simp [Json.text?_ofText]
    | number decimalPlaces =>
      have small : decimalPlaces.toNat < UInt32.size := decimalPlaces.toNat_lt
      rw [toJson, ofJsonWithin, parts?_of_parameter (by decide) rfl (by decide)]
      simp [Json.naturalBelow?, Json.natural?_ofNat, Option.filter, small]
    | date includeTime =>
      rw [toJson, ofJsonWithin, parts?_of_parameter (by decide) rfl (by decide)]
      rfl
    | array element | lookup element =>
      have inner := element.ofJsonWithin_toJson (Nat.lt_of_succ_lt_succ fits) true
      rw [toJson, ofJsonWithin, parts?_of_parameter (by decide) rfl (by decide)]
      simp [inner]

theorem ofJson?_toJson {type : Ty} {room : Nat} (fits : type.nesting < room) :
    ofJson? room type.toJson = some type := by
  have spelled (text : String) : (Json.textOf? (Json.escape text)).isSome = true := by
    rw [Json.textOf?_escape, Option.isSome_some]
  have scalars : type.toJson.scalars Json.inDoubleRange
      (fun spelling => (Json.textOf? spelling).isSome) = true :=
    type.scalars_toJson (fun _ small => Json.inDoubleRange_toString small) spelled
  have usable : type.toJson.isUsable room = true := by
    rw [Json.isUsable, height_toJson, scalars, Bool.and_true, decide_eq_true_eq]
    exact fits
  rw [ofJson?, if_pos usable, ofJsonWithin_toJson type fits]

end Ty

namespace Schema

/-- A map is read back if all of its values are. -/
theorem tableOf?_tableToJson {α : Type} {encode : α → Json} {decode : Json → Option α}
    {table : Table α}
    (decoded : ∀ entry ∈ table.entries, decode (encode entry.2) = some entry.2) :
    tableOf? decode (tableToJson encode table) = some table := by
  have entries : (table.entries.map fun entry => (entry.1, encode entry.2)).mapM
      (fun member => (decode member.2).map fun value => (member.1, value)) =
        some table.entries := by
    apply mapM_map_eq_some
    intro entry member
    rw [decoded entry member, Option.map_some]
  simp only [tableOf?, tableToJson, Json.members?_ofMembers]
  simp [entries, Table.ofList_entries]

theorem fieldsOf?_tableToJson {fields : Table Ty} {room : Nat}
    (fits : ∀ entry ∈ fields.entries, entry.2.nesting < room - 1) :
    fieldsOf? room (tableToJson Ty.toJson fields) = some fields :=
  tableOf?_tableToJson fun entry member => Ty.ofJson?_toJson (fits entry member)

theorem linksOf?_tableToJson {links : Table (Table Ty)} {room : Nat}
    (fits : ∀ link ∈ links.entries, ∀ entry ∈ link.2.entries, entry.2.nesting < room - 1 - 1) :
    linksOf? room (tableToJson (tableToJson Ty.toJson) links) = some links :=
  tableOf?_tableToJson fun link member => fieldsOf?_tableToJson (fits link member)

def types (schema : Schema) : List Ty :=
  schema.fields.entries.map Prod.snd ++
    schema.links.entries.flatMap fun link => link.2.entries.map Prod.snd

theorem scalars_tableToJson {α : Type} {encode : α → Json} {numeral spelling : String → Bool}
    (spellings : ∀ text, spelling (Json.escape text) = true)
    (values : ∀ value, (encode value).scalars numeral spelling = true) (table : Table α) :
    (tableToJson encode table).scalars numeral spelling = true := by
  apply Json.scalars_ofMembers spellings
  intro member written
  obtain ⟨entry, _, rfl⟩ := List.mem_map.1 written
  exact values entry.2

theorem scalars_toJson (schema : Schema) :
    schema.toJson.scalars Json.isNumeral Json.isSpelling = true := by
  have types (type : Ty) : type.toJson.scalars Json.isNumeral Json.isSpelling = true :=
    type.scalars_toJson (fun value _ => Json.isNumeral_toString value) Json.isSpelling_escape
  have fields := scalars_tableToJson Json.isSpelling_escape types
  have links := scalars_tableToJson Json.isSpelling_escape fields
  apply Json.scalars_ofMembers Json.isSpelling_escape
  simp [fields, links]

theorem ofJson?_toJson {schema : Schema} (shallow : ∀ type ∈ schema.types, type.nesting ≤ 100) :
    ofJson? schema.toJson = some schema := by
  -- The schema, the map of fields and the map of links each take a level of the document.
  have fieldTypes : ∀ entry ∈ schema.fields.entries,
      entry.2.nesting < Json.maxNesting - 1 - 1 := by
    intro entry member
    have few := shallow entry.2 (List.mem_append_left _ (List.mem_map_of_mem member))
    exact Nat.lt_of_le_of_lt few (by decide)
  have linkTypes : ∀ link ∈ schema.links.entries, ∀ entry ∈ link.2.entries,
      entry.2.nesting < Json.maxNesting - 1 - 1 - 1 := by
    intro link linked entry member
    have few := shallow entry.2
      (List.mem_append_right _ (List.mem_flatMap.2 ⟨link, linked, List.mem_map_of_mem member⟩))
    exact Nat.lt_of_le_of_lt few (by decide)
  have fields := fieldsOf?_tableToJson fieldTypes
  have links := linksOf?_tableToJson linkTypes
  have members := Json.members?_ofMembers
    [("fields", tableToJson Ty.toJson schema.fields),
      ("links", tableToJson (tableToJson Ty.toJson) schema.links)]
  rw [toJson]
  rw [Json.ofMembers] at members ⊢
  simp only [ofJson?, members]
  simp [Json.optional?, Json.valuesOf, fields, links]

/-- What is written for a schema is read as that schema, on one line or on many, with its entries in
whatever order they are. -/
theorem ofDocument?_write (schema : Schema)
    (shallow : ∀ type ∈ schema.types, type.nesting ≤ 100) (format : Json.Format) :
    ofDocument? (schema.toJson.write format) = some schema := by
  rw [ofDocument?, Json.read_write schema.scalars_toJson format, Option.bind_eq_bind,
    Option.bind_some, ofJson?_toJson shallow]

/-- Names and messages that have to be escaped, a lookup of lookups, and the most decimal places. -/
theorem ofDocument?_write_of_escaped :
    let schema : Schema :=
      ⟨.ofList [("\"a\"\n", .lookup (.lookup (.number 4294967295))), ("é\\", .array .link)],
        .ofList [("é\\", .ofList [("", .error "\x01")])]⟩
    schema.types.map Ty.nesting = [2, 1, 0] ∧
      ofDocument? (schema.toJson.write .compact) = some schema ∧
      ofDocument? (schema.toJson.write .pretty) = some schema := by
  intro schema
  have shallow : ∀ type ∈ schema.types, type.nesting ≤ 100 := by decide
  exact ⟨by decide, ofDocument?_write schema shallow .compact,
    ofDocument?_write schema shallow .pretty⟩

end Schema

end FieldFormula
