import Web3Id.Library.AssignedKeys

/-
This file is the page that creates the schema and the metadata of a credential.
-/

namespace Web3Id.SchemaPage

open Library

inductive AttributeType where
  | string
  | integer
  | dateTime
  deriving DecidableEq, Repr

def AttributeType.text : AttributeType → String
  | .string => "string"
  | .integer => "integer"
  | .dateTime => "date-time"

/-- A date-time is an object with a type and a timestamp. -/
structure DateTimeProperties where
  type : String
  const : String
  timestampType : String
  timestampFormat : String
  deriving DecidableEq, Repr

structure AttributeSchema where
  title : String
  type : String
  description : String
  properties : Option DateTimeProperties
  required : Option (List String)
  deriving DecidableEq, Repr

/-- The form of an attribute. -/
structure AttributeData where
  title : String
  description : String
  type : AttributeType
  required : Bool
  deriving DecidableEq, Repr

/-- The spaces of the title are removed. -/
def AttributeData.key (data : AttributeData) : String :=
  String.ofList (data.title.toList.filter (· ≠ ' '))

def AttributeData.schema (data : AttributeData) : AttributeSchema :=
  if data.type = .dateTime then
    { title := data.title
      type := "object"
      description := data.description
      properties := some ⟨"string", "date-time", "string", "date-time"⟩
      required := some ["type", "timestamp"] }
  else
    { title := data.title
      type := data.type.text
      description := data.description
      properties := none
      required := none }

/-- An assignment to `__proto__` sets the prototype of the new object and adds no key. -/
inductive Attribute where
  | keyed (key : String) (schema : AttributeSchema)
  | prototyped (schema : AttributeSchema)
  deriving DecidableEq, Repr

def newAttribute (data : AttributeData) : Attribute :=
  if data.key = "__proto__" then .prototyped data.schema else .keyed data.key data.schema

/-- Every object has these properties from its prototype. -/
def objectPrototype : List String :=
  ["constructor", "__defineGetter__", "__defineSetter__", "hasOwnProperty", "__lookupGetter__",
    "__lookupSetter__", "isPrototypeOf", "propertyIsEnumerable", "toString", "valueOf",
    "__proto__", "toLocaleString"]

def AttributeSchema.keys (schema : AttributeSchema) : List String :=
  ["title", "type", "description"] ++ (schema.properties.map fun _ => "properties").toList ++
    (schema.required.map fun _ => "required").toList

/-- Reading the key of the object gives a value. -/
def Attribute.defines (value : Attribute) (key : String) : Bool :=
  match value with
  | .keyed own _ => own = key || objectPrototype.contains key
  | .prototyped schema => schema.keys.contains key || objectPrototype.contains key

/-- An object without a key of its own gives no value for the key `undefined`. -/
def arrayToObject (result : List (String × Option AttributeSchema)) (item : Attribute) :
    List (String × Option AttributeSchema) :=
  match item with
  | .keyed key schema => assign result key (some schema)
  | .prototyped _ => assign result "undefined" none

/-- The fields of the schema that the page reads or changes. -/
structure CredentialSchema where
  name : String
  description : String
  id : String
  properties : List (String × Option AttributeSchema)
  required : List String
  deriving DecidableEq, Repr

/-- The schema is one object, which is changed in place. -/
def addAttribute (attributes : List Attribute) (data : AttributeData)
    (credentialSchema : CredentialSchema) : Except String (List Attribute × CredentialSchema) :=
  if attributes.any fun value => value.defines data.key then
    .error ("Duplicate attribute title: \"" ++ data.title ++ "\"")
  else
    .ok (attributes ++ [newAttribute data],
      { credentialSchema with
        properties := (attributes ++ [newAttribute data]).foldl arrayToObject []
        required :=
          if data.required then credentialSchema.required ++ [data.key]
          else credentialSchema.required })

structure Link where
  url : String
  deriving DecidableEq, Repr

structure CredentialMetadata where
  title : String
  logo : Link
  backgroundColor : String
  image : Option Link
  deriving DecidableEq, Repr

structure IssuerMetadata where
  name : String
  icon : Link
  description : String
  url : String
  deriving DecidableEq, Repr

def exampleIssuerMetadata : IssuerMetadata where
  name := "Concordium"
  icon := ⟨"https://concordium.com/wp-content/uploads/2022/07/Concordium-1.png"⟩
  description := "A public-layer 1, science-backed blockchain"
  url := "https://concordium.com"

def exampleCredentialMetadata : CredentialMetadata where
  title := "Example Title"
  logo := ⟨"https://avatars.githubusercontent.com/u/39614219?s=200&v=4"⟩
  backgroundColor := "#92a8d1"
  image := none

def exampleCredentialSchema : CredentialSchema where
  name := "Education certificate"
  description := "Simple representation of an education certificate."
  id := "https://example-university.com/certificates/JsonSchema2023-education-certificate.json"
  properties := []
  required := []

/-- The title and the description of an attribute are required. -/
def AttributeData.submit (data : AttributeData) : Option AttributeData :=
  if data.title ≠ "" ∧ data.description ≠ "" then some data else none

/-- The three fields of the schema that have an input. -/
structure SchemaForm where
  name : String
  description : String
  id : String
  deriving DecidableEq, Repr

structure CredentialMetadataForm where
  title : String
  logoUrl : String
  backgroundColor : String
  imageUrl : String
  deriving DecidableEq, Repr

structure IssuerMetadataForm where
  name : String
  description : String
  url : String
  iconUrl : String
  deriving DecidableEq, Repr

/-- A form is handed over when its required fields are not empty. -/
def SchemaForm.submit (form : SchemaForm) : Option SchemaForm :=
  if form.name ≠ "" ∧ form.description ≠ "" ∧ form.id ≠ "" then some form else none

/-- The image is optional. -/
def CredentialMetadataForm.submit (form : CredentialMetadataForm) : Option CredentialMetadata :=
  if form.title ≠ "" ∧ form.logoUrl ≠ "" ∧ form.backgroundColor ≠ "" then
    some
      { title := form.title
        logo := ⟨form.logoUrl⟩
        backgroundColor := form.backgroundColor
        image := if form.imageUrl = "" then none else some ⟨form.imageUrl⟩ }
  else none

def IssuerMetadataForm.submit (form : IssuerMetadataForm) : Option IssuerMetadata :=
  if form.name ≠ "" ∧ form.description ≠ "" ∧ form.url ≠ "" ∧ form.iconUrl ≠ "" then
    some ⟨form.name, ⟨form.iconUrl⟩, form.description, form.url⟩
  else none

structure Page where
  credentialSchema : CredentialSchema
  attributes : List Attribute
  credentialMetadata : CredentialMetadata
  issuerMetadata : IssuerMetadata
  error : Option String
  schemaForm : SchemaForm
  credentialMetadataForm : CredentialMetadataForm
  issuerMetadataForm : IssuerMetadataForm
  deriving DecidableEq, Repr

/-- The page starts with the examples, and its inputs show them. -/
def Page.loaded : Page where
  credentialSchema := exampleCredentialSchema
  attributes := []
  credentialMetadata := exampleCredentialMetadata
  issuerMetadata := exampleIssuerMetadata
  error := none
  schemaForm :=
    ⟨exampleCredentialSchema.name, exampleCredentialSchema.description, exampleCredentialSchema.id⟩
  credentialMetadataForm :=
    ⟨exampleCredentialMetadata.title, exampleCredentialMetadata.logo.url,
      exampleCredentialMetadata.backgroundColor, ""⟩
  issuerMetadataForm :=
    ⟨exampleIssuerMetadata.name, exampleIssuerMetadata.description, exampleIssuerMetadata.url,
      exampleIssuerMetadata.icon.url⟩

inductive SavedFile where
  | credentialSchema (saved : CredentialSchema)
  | credentialMetadata (saved : CredentialMetadata)
  | issuerMetadata (saved : IssuerMetadata)
  deriving DecidableEq, Repr

/-- The buttons of the page, and the edits of its inputs. -/
inductive Press where
  | addAttribute (form : AttributeData)
  | clearAttributes
  | editSchema (form : SchemaForm)
  | createSchema
  | downloadSchema
  | editCredentialMetadata (form : CredentialMetadataForm)
  | createCredentialMetadata
  | downloadCredentialMetadata
  | editIssuerMetadata (form : IssuerMetadataForm)
  | createIssuerMetadata
  | downloadIssuerMetadata
  deriving DecidableEq, Repr

namespace Page

/-- A handler sees the values of the page from before its press. -/
def press (page : Page) : Press → Page × Option SavedFile
  | .addAttribute form =>
      match form.submit with
      | none => (page, none)
      | some data =>
          match SchemaPage.addAttribute page.attributes data page.credentialSchema with
          | .error message => ({ page with error := some message }, none)
          | .ok (attributes, credentialSchema) =>
              ({ page with attributes := attributes, credentialSchema := credentialSchema }, none)
  | .clearAttributes => ({ page with attributes := [] }, none)
  | .editSchema form => ({ page with schemaForm := form }, none)
  | .createSchema => (page, none)
  | .downloadSchema =>
      match page.schemaForm.submit with
      | none => (page, none)
      | some _ => (page, some (.credentialSchema page.credentialSchema))
  | .editCredentialMetadata form => ({ page with credentialMetadataForm := form }, none)
  | .createCredentialMetadata =>
      match page.credentialMetadataForm.submit with
      | none => (page, none)
      | some data => ({ page with credentialMetadata := data }, none)
  | .downloadCredentialMetadata =>
      match page.credentialMetadataForm.submit with
      | none => (page, none)
      | some data =>
          ({ page with credentialMetadata := data },
            some (.credentialMetadata page.credentialMetadata))
  | .editIssuerMetadata form => ({ page with issuerMetadataForm := form }, none)
  | .createIssuerMetadata =>
      match page.issuerMetadataForm.submit with
      | none => (page, none)
      | some data => ({ page with issuerMetadata := data }, none)
  | .downloadIssuerMetadata =>
      match page.issuerMetadataForm.submit with
      | none => (page, none)
      | some data =>
          ({ page with issuerMetadata := data }, some (.issuerMetadata page.issuerMetadata))

/-- The other buttons and the inputs leave the list and the schema alone. -/
theorem press_other (page : Page) {event : Press} (add : ∀ data, event ≠ .addAttribute data)
    (clear : event ≠ .clearAttributes) :
    (page.press event).1.attributes = page.attributes ∧
      (page.press event).1.credentialSchema = page.credentialSchema := by
  cases event with
  | addAttribute data => exact absurd rfl (add data)
  | clearAttributes => exact absurd rfl clear
  | editSchema | createSchema | editCredentialMetadata | editIssuerMetadata => exact ⟨rfl, rfl⟩
  | downloadSchema | createCredentialMetadata | downloadCredentialMetadata | createIssuerMetadata
  | downloadIssuerMetadata =>
      simp only [press]
      split <;> exact ⟨rfl, rfl⟩

end Page

/-- The attributes that the test front end reads from a schema. -/
structure AttributeDetails where
  tag : String
  type : String
  required : Bool
  deriving DecidableEq, Repr

/-- The type of a date-time is the constant of its property. -/
def AttributeSchema.readType (obj : AttributeSchema) : Option String :=
  if obj.type = "object" then obj.properties.map (·.const) else some obj.type

/-- A file has no entry for a key without a value. -/
def extractFromSchema (schema : CredentialSchema) : Option (List AttributeDetails) :=
  let properties := schema.properties.filterMap fun entry => entry.2.map fun obj => (entry.1, obj)
  properties.mapM fun entry => entry.2.readType.map fun type =>
    ⟨entry.1, type, schema.required.contains entry.1⟩

end Web3Id.SchemaPage
