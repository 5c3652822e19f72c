import Web3Id.Construction.FrontEnd.SchemaPage
import Web3Id.Library.PressHistory

namespace Web3Id.SchemaPage

open Library

/-- The data of the attributes that are listed, beside the page. -/
structure Listing where
  page : Page
  listed : List AttributeData

namespace Listing

def loaded : Listing := ⟨Page.loaded, []⟩

def keys (listing : Listing) : List String := listing.listed.map AttributeData.key

/-- The page shows an error for the attribute. -/
def Refused (listing : Listing) (data : AttributeData) : Prop :=
  ∃ message, addAttribute listing.page.attributes data listing.page.credentialSchema =
    .error message

/-- An attribute is listed until the list is cleared. -/
def press (listing : Listing) (press : Press) : Listing where
  page := (listing.page.press press).1
  listed :=
    match press with
    | .addAttribute form =>
        match form.submit with
        | none => listing.listed
        | some data =>
            match addAttribute listing.page.attributes data listing.page.credentialSchema with
            | .error _ => listing.listed
            | .ok _ => listing.listed ++ [data]
    | .clearAttributes => []
    | _ => listing.listed

/-- The schema reads back as the attributes that are listed. -/
def Reads (listing : Listing) : Prop :=
  ∃ details, extractFromSchema listing.page.credentialSchema = some details ∧
    (details.map AttributeDetails.tag).Nodup ∧
    (∀ detail, detail ∈ details ↔
      ∃ data ∈ listing.listed, detail = ⟨data.key, data.type.text, data.required⟩) ∧
    ∀ data ∈ listing.listed, data.required = true →
      listing.page.credentialSchema.required.count data.key = 1

/-- After the press the schema agrees with the list, and an attribute that the form hands over was
refused exactly for a key that is listed, without any effect. -/
def Agrees (listing : Listing) (press : Press) : Prop :=
  (listing.press press).Reads ∧
    ∀ data, press = .addAttribute data → data.submit = some data →
      (listing.Refused data ↔ data.key ∈ listing.keys) ∧
        (listing.Refused data →
          (listing.press press).page.credentialSchema = listing.page.credentialSchema ∧
            (listing.press press).page.attributes = listing.page.attributes)

/-- An empty list may be cleared. The key of a new attribute is not `__proto__`, and beside other
attributes it is not another property of every object. -/
def Plain (listing : Listing) (press : Press) : Prop :=
  match press with
  | .addAttribute data =>
      data.submit = some data →
        data.key ≠ "__proto__" ∧
          (data.key ∈ objectPrototype → listing.listed = [] ∨ data.key ∈ listing.keys)
  | .clearAttributes => listing.listed = []
  | _ => True

/-- The schema has exactly the attributes that are listed. -/
structure Synchronized (listing : Listing) : Prop where
  attributes : listing.page.attributes = listing.listed.map newAttribute
  properties : listing.page.credentialSchema.properties =
    listing.listed.map fun data => (data.key, some data.schema)
  required : listing.page.credentialSchema.required =
    (listing.listed.filter AttributeData.required).map AttributeData.key
  distinct : listing.keys.Nodup
  keyed : "__proto__" ∉ listing.keys

theorem loaded_synchronized : loaded.Synchronized :=
  ⟨rfl, rfl, rfl, List.nodup_nil, by simp [keys, loaded]⟩

end Listing

/-- The type that is read from a schema is the chosen one. -/
@[simp] theorem AttributeData.schema_readType (data : AttributeData) :
    data.schema.readType = some data.type.text := by
  obtain ⟨title, description, type, required⟩ := data
  cases type <;> rfl

/-- The form hands over what was entered. -/
theorem AttributeData.submit_eq {form data : AttributeData} (submitted : form.submit = some data) :
    data = form := by
  unfold submit at submitted
  split at submitted
  · exact (Option.some.inj submitted).symm
  · cases submitted

theorem newAttribute_keyed {data : AttributeData} (keyed : data.key ≠ "__proto__") :
    newAttribute data = .keyed data.key data.schema := if_neg keyed

/-- The object of the attributes has one property for each of them. -/
theorem foldl_arrayToObject {listed : List AttributeData}
    (distinct : (listed.map AttributeData.key).Nodup)
    (keyed : "__proto__" ∉ listed.map AttributeData.key) :
    (listed.map newAttribute).foldl arrayToObject [] =
      listed.map fun data => (data.key, some data.schema) := by
  have entries : (listed.map fun data => (data.key, some data.schema)).foldl
      (fun result entry => assign result entry.1 entry.2) [] =
        [] ++ listed.map fun data => (data.key, some data.schema) :=
    foldl_assign (by simpa [List.map_map, Function.comp_def] using distinct)
  rw [List.nil_append] at entries
  rw [← entries, List.foldl_map, List.foldl_map]
  apply List.foldl_ext
  intro object data listed
  have other : data.key ≠ "__proto__" := fun same =>
    keyed (same ▸ List.mem_map_of_mem listed)
  rw [newAttribute_keyed other]
  rfl

/-- A schema with these properties reads back as the attributes. -/
theorem extractFromSchema_listed {schema : CredentialSchema} {listed : List AttributeData}
    (properties : schema.properties = listed.map fun data => (data.key, some data.schema)) :
    extractFromSchema schema = some (listed.map fun data =>
      ⟨data.key, data.type.text, schema.required.contains data.key⟩) := by
  have present : (listed.map fun data => (data.key, some data.schema)).filterMap
      (fun entry => entry.2.map fun obj => (entry.1, obj)) =
        listed.map fun data => (data.key, data.schema) := by
    simp [List.filterMap_map, List.filterMap_eq_map']
  unfold extractFromSchema
  rw [properties, present]
  clear properties present
  induction listed with
  | nil => rfl
  | cons data listed ih =>
      rw [List.map_cons, List.mapM_cons, ih]
      simp

namespace Listing

variable {listing : Listing}

/-- A key is required exactly when its attribute is. -/
theorem Synchronized.contains (sync : listing.Synchronized) {data : AttributeData}
    (listed : data ∈ listing.listed) :
    listing.page.credentialSchema.required.contains data.key = data.required := by
  rw [sync.required]
  cases required : data.required with
  | true =>
      rw [List.contains_iff_mem]
      exact List.mem_map_of_mem (List.mem_filter.mpr ⟨listed, required⟩)
  | false =>
      rw [Bool.eq_false_iff, ne_eq, List.contains_iff_mem]
      intro member
      obtain ⟨other, chosen, same⟩ := List.mem_map.mp member
      obtain ⟨present, flag⟩ := List.mem_filter.mp chosen
      have equal : other = data := List.inj_on_of_nodup_map sync.distinct present listed same
      rw [equal, required] at flag
      cases flag

theorem Synchronized.reads (sync : listing.Synchronized) : listing.Reads := by
  refine ⟨_, extractFromSchema_listed sync.properties, ?_, ?_, ?_⟩
  · rw [List.map_map]
    exact sync.distinct
  · intro detail
    rw [List.mem_map]
    constructor
    · rintro ⟨data, listed, rfl⟩
      exact ⟨data, listed, by rw [sync.contains listed]⟩
    · rintro ⟨data, listed, rfl⟩
      exact ⟨data, listed, by rw [sync.contains listed]⟩
  · intro data listed required
    have member : data.key ∈ (listing.listed.filter AttributeData.required).map AttributeData.key :=
      List.mem_map_of_mem (List.mem_filter.mpr ⟨listed, required⟩)
    have distinct : ((listing.listed.filter AttributeData.required).map AttributeData.key).Nodup :=
      sync.distinct.sublist ((List.filter_sublist).map _)
    rw [sync.required]
    exact List.count_eq_one_of_mem distinct member

/-- A key is taken for listed, too, when every object has it. -/
theorem Synchronized.refused_iff (sync : listing.Synchronized) (data : AttributeData) :
    listing.Refused data ↔
      data.key ∈ listing.keys ∨ (listing.listed ≠ [] ∧ data.key ∈ objectPrototype) := by
  have defines : (listing.page.attributes.any fun value => value.defines data.key) = true ↔
      ∃ other ∈ listing.listed, other.key = data.key ∨ data.key ∈ objectPrototype := by
    rw [sync.attributes, List.any_map, List.any_eq_true]
    refine exists_congr fun other => and_congr_right fun listed => ?_
    have keyed : other.key ≠ "__proto__" := fun same =>
      sync.keyed (same ▸ List.mem_map_of_mem listed)
    simp [newAttribute_keyed keyed, Attribute.defines]
  have listed : (∃ other ∈ listing.listed, other.key = data.key ∨ data.key ∈ objectPrototype) ↔
      data.key ∈ listing.keys ∨ (listing.listed ≠ [] ∧ data.key ∈ objectPrototype) := by
    rw [keys, List.mem_map]
    constructor
    · rintro ⟨other, listed, same | shared⟩
      · exact .inl ⟨other, listed, same⟩
      · exact .inr ⟨List.ne_nil_of_mem listed, shared⟩
    · rintro (⟨other, listed, same⟩ | ⟨nonempty, shared⟩)
      · exact ⟨other, listed, .inl same⟩
      · obtain ⟨other, listed⟩ := List.exists_mem_of_ne_nil _ nonempty
        exact ⟨other, listed, .inr shared⟩
  rw [← listed, ← defines, Refused, addAttribute]
  split <;> simp [*]

/-- Without a title or a description nothing happens. -/
theorem press_incomplete {form : AttributeData} (incomplete : form.submit ≠ some form) :
    listing.press (.addAttribute form) = listing := by
  have nothing : form.submit = none := by
    by_contra handed
    obtain ⟨data, submitted⟩ := Option.ne_none_iff_exists'.mp handed
    have same := AttributeData.submit_eq submitted
    rw [same] at submitted
    exact incomplete submitted
  simp [press, Page.press, nothing]

/-- A press that is refused shows its error only. -/
theorem press_refused {data : AttributeData} (complete : data.submit = some data)
    (refused : listing.Refused data) :
    (listing.press (.addAttribute data)).listed = listing.listed ∧
      (listing.press (.addAttribute data)).page.credentialSchema = listing.page.credentialSchema ∧
      (listing.press (.addAttribute data)).page.attributes = listing.page.attributes := by
  obtain ⟨message, failed⟩ := refused
  simp [press, Page.press, complete, failed]

/-- A press that is accepted lists the attribute and builds the schema from the whole list. -/
theorem press_accepted {data : AttributeData} (complete : data.submit = some data)
    (accepted : ¬listing.Refused data) :
    (listing.press (.addAttribute data)).listed = listing.listed ++ [data] ∧
      (listing.press (.addAttribute data)).page.attributes =
        listing.page.attributes ++ [newAttribute data] ∧
      (listing.press (.addAttribute data)).page.credentialSchema.properties =
        (listing.page.attributes ++ [newAttribute data]).foldl arrayToObject [] ∧
      (listing.press (.addAttribute data)).page.credentialSchema.required =
        if data.required then listing.page.credentialSchema.required ++ [data.key]
        else listing.page.credentialSchema.required := by
  cases added : addAttribute listing.page.attributes data listing.page.credentialSchema with
  | error message => exact absurd ⟨message, added⟩ accepted
  | ok result =>
      have fresh := added
      unfold addAttribute at fresh
      split at fresh
      · cases fresh
      · cases fresh
        simp [press, Page.press, complete, added]

theorem Synchronized.of_same {other : Listing} (sync : listing.Synchronized)
    (listed : other.listed = listing.listed)
    (attributes : other.page.attributes = listing.page.attributes)
    (schema : other.page.credentialSchema = listing.page.credentialSchema) :
    other.Synchronized := by
  obtain ⟨one, two, three, four, five⟩ := sync
  constructor
  · rw [attributes, listed, one]
  · rw [schema, listed, two]
  · rw [schema, listed, three]
  · rwa [keys, listed]
  · rwa [keys, listed]

theorem Synchronized.other (sync : listing.Synchronized) {event : Press}
    (add : ∀ data, event ≠ .addAttribute data) (clear : event ≠ .clearAttributes) :
    (listing.press event).Synchronized := by
  obtain ⟨attributes, schema⟩ := listing.page.press_other add clear
  have listed : (listing.press event).listed = listing.listed := by
    cases event with
    | addAttribute data => exact absurd rfl (add data)
    | clearAttributes => exact absurd rfl clear
    | _ => rfl
  exact sync.of_same listed attributes schema

/-- A new key is added to the list and to the schema. -/
theorem Synchronized.add (sync : listing.Synchronized) {data : AttributeData}
    (complete : data.submit = some data) (keyed : data.key ≠ "__proto__")
    (fresh : data.key ∉ listing.keys) (accepted : ¬listing.Refused data) :
    (listing.press (.addAttribute data)).Synchronized := by
  obtain ⟨listed, attributes, properties, required⟩ := press_accepted complete accepted
  have snoc : listing.page.attributes ++ [newAttribute data] =
      (listing.listed ++ [data]).map newAttribute := by
    rw [sync.attributes, List.map_append, List.map_singleton]
  have distinct : ((listing.listed ++ [data]).map AttributeData.key).Nodup := by
    rw [List.map_append, List.map_singleton]
    exact List.nodup_append.mpr ⟨sync.distinct, List.nodup_singleton _, by
      intro key member other single same
      exact fresh ((List.mem_singleton.mp single) ▸ same ▸ member)⟩
  have proto : "__proto__" ∉ (listing.listed ++ [data]).map AttributeData.key := by
    rw [List.map_append, List.map_singleton, List.mem_append, List.mem_singleton]
    exact fun either => either.elim sync.keyed (Ne.symm keyed)
  constructor
  · rw [attributes, listed, snoc]
  · rw [properties, listed, snoc, foldl_arrayToObject distinct proto]
  · rw [required, listed, sync.required, List.filter_append, List.map_append]
    cases flag : data.required <;> simp [flag]
  · rwa [keys, listed]
  · rwa [keys, listed]

/-- A plain press keeps the schema and the list synchronized. -/
theorem Synchronized.press (sync : listing.Synchronized) {event : Press}
    (plain : listing.Plain event) : (listing.press event).Synchronized := by
  cases event with
  | addAttribute data =>
      by_cases complete : data.submit = some data
      · by_cases refused : listing.Refused data
        · obtain ⟨listed, schema, attributes⟩ := press_refused complete refused
          exact sync.of_same listed attributes schema
        · have fresh : data.key ∉ listing.keys := fun member =>
            refused ((sync.refused_iff data).mpr (.inl member))
          exact sync.add complete (plain complete).1 fresh refused
      · rw [press_incomplete complete]
        exact sync
  | clearAttributes =>
      have empty : listing.listed = [] := plain
      have attributes : listing.page.attributes = [] := by rw [sync.attributes, empty, List.map_nil]
      exact sync.of_same empty.symm attributes.symm rfl
  | _ => exact sync.other (by simp) (by simp)

/-- What was listed when the list was cleared is still read from the schema. -/
theorem Synchronized.cleared_empty (sync : listing.Synchronized)
    (reads : (listing.press .clearAttributes).Reads) : listing.listed = [] := by
  obtain ⟨details, read, -, member, -⟩ := reads
  have same : extractFromSchema listing.page.credentialSchema = some details := read
  rw [extractFromSchema_listed sync.properties, Option.some.injEq] at same
  have none_listed : details = [] := List.eq_nil_iff_forall_not_mem.mpr fun detail present => by
    obtain ⟨data, listed, -⟩ := (member detail).mp present
    cases listed
  rw [none_listed] at same
  exact List.map_eq_nil_iff.mp same

/-- The key `__proto__` is not read from the schema. -/
theorem Synchronized.prototype_not_read (sync : listing.Synchronized) {data : AttributeData}
    (complete : data.submit = some data) (proto : data.key = "__proto__")
    (empty : listing.listed = []) : ¬(listing.press (.addAttribute data)).Reads := by
  have accepted : ¬listing.Refused data := by
    rw [sync.refused_iff, keys, empty]
    simp
  obtain ⟨listed, -, properties, -⟩ := press_accepted complete accepted
  rintro ⟨details, read, -, member, -⟩
  have keyless : newAttribute data = .prototyped data.schema := if_pos proto
  rw [sync.attributes, empty, keyless] at properties
  have nothing : extractFromSchema (listing.press (.addAttribute data)).page.credentialSchema =
      some [] := by
    unfold extractFromSchema
    rw [properties]
    rfl
  rw [nothing, Option.some.injEq] at read
  have present := (member ⟨data.key, data.type.text, data.required⟩).mpr
    ⟨data, by rw [listed]; simp, rfl⟩
  rw [← read] at present
  cases present

/-- From a synchronized page exactly the plain presses agree. -/
theorem Synchronized.agrees_iff (sync : listing.Synchronized) (event : Press) :
    listing.Agrees event ↔ listing.Plain event := by
  constructor
  · rintro ⟨reads, decides⟩
    cases event with
    | addAttribute data =>
        intro complete
        obtain ⟨refused, -⟩ := decides data rfl complete
        have shared : data.key ∈ objectPrototype →
            listing.listed = [] ∨ data.key ∈ listing.keys := by
          intro member
          by_cases empty : listing.listed = []
          · exact .inl empty
          · exact .inr (refused.mp ((sync.refused_iff data).mpr (.inr ⟨empty, member⟩)))
        refine ⟨fun proto => ?_, shared⟩
        have absent : data.key ∉ listing.keys := proto ▸ sync.keyed
        have empty : listing.listed = [] :=
          (shared (by rw [proto]; decide)).resolve_right absent
        exact sync.prototype_not_read complete proto empty reads
    | clearAttributes => exact sync.cleared_empty reads
    | _ => trivial
  · intro plain
    refine ⟨(sync.press plain).reads, ?_⟩
    rintro data rfl complete
    refine ⟨?_, fun refused => (press_refused complete refused).2⟩
    rw [sync.refused_iff]
    constructor
    · rintro (member | ⟨nonempty, shared⟩)
      · exact member
      · exact ((plain complete).2 shared).resolve_left nonempty
    · exact .inl

/-- The schema agrees with the list after every press, and every press is refused as it should be,
exactly when all presses are plain. -/
theorem schemaPage_agrees (presses : List Press) :
    PressHistory.Each Listing.press Agrees loaded presses ↔
      PressHistory.Each Listing.press Plain loaded presses := by
  have keeps (listing : Listing) (event : Press) (sync : listing.Synchronized)
      (plain : listing.Plain event) : (listing.press event).Synchronized := sync.press plain
  have means (listing : Listing) (event : Press) (sync : listing.Synchronized) :
      listing.Agrees event ↔ listing.Plain event := sync.agrees_iff event
  exact PressHistory.each_congr keeps means loaded_synchronized presses

/-- A cleared attribute stays in the schema. -/
theorem schemaPage_stale :
    ¬PressHistory.Each Listing.press Agrees loaded
      [.addAttribute ⟨"Degree", "The degree", .string, true⟩, .clearAttributes] := by
  rintro ⟨-, ⟨reads, -⟩, -⟩
  have plain : loaded.Plain (.addAttribute ⟨"Degree", "The degree", .string, true⟩) := by
    unfold Plain objectPrototype
    decide
  exact absurd ((loaded_synchronized.press plain).cleared_empty reads) (by decide)

end Listing

end Web3Id.SchemaPage
