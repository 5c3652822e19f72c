import Web3Id.Construction.FrontEnd.SchemaPage
import Web3Id.Library.PressHistory

namespace Web3Id.SchemaPage

open Library

namespace Page

/-- The file has the values of its form. -/
def Contains (page : Page) : SavedFile → Prop
  | .credentialSchema saved =>
      saved.name = page.schemaForm.name ∧ saved.description = page.schemaForm.description ∧
        saved.id = page.schemaForm.id
  | .credentialMetadata saved =>
      saved.title = page.credentialMetadataForm.title ∧
        saved.logo.url = page.credentialMetadataForm.logoUrl ∧
        saved.backgroundColor = page.credentialMetadataForm.backgroundColor ∧
        saved.image.map Link.url =
          if page.credentialMetadataForm.imageUrl = "" then none
          else some page.credentialMetadataForm.imageUrl
  | .issuerMetadata saved =>
      saved.name = page.issuerMetadataForm.name ∧
        saved.description = page.issuerMetadataForm.description ∧
        saved.url = page.issuerMetadataForm.url ∧
        saved.icon.url = page.issuerMetadataForm.iconUrl

/-- A press that saves a file saves the values of its form. -/
def Saves (page : Page) (press : Press) : Prop :=
  ∀ file, (page.press press).2 = some file → page.Contains file

def step (page : Page) (press : Press) : Page := (page.press press).1

/-- The metadata that a press hands over. -/
def submittedCredentialMetadata (page : Page) : Press → Option CredentialMetadata
  | .createCredentialMetadata => page.credentialMetadataForm.submit
  | .downloadCredentialMetadata => page.credentialMetadataForm.submit
  | _ => none

def submittedIssuerMetadata (page : Page) : Press → Option IssuerMetadata
  | .createIssuerMetadata => page.issuerMetadataForm.submit
  | .downloadIssuerMetadata => page.issuerMetadataForm.submit
  | _ => none

/-- The last metadata that was handed over, or the example. -/
def lastCredentialMetadata (before : List Press) : CredentialMetadata :=
  (PressHistory.collected step submittedCredentialMetadata loaded before).getLast?.getD
    exampleCredentialMetadata

def lastIssuerMetadata (before : List Press) : IssuerMetadata :=
  (PressHistory.collected step submittedIssuerMetadata loaded before).getLast?.getD
    exampleIssuerMetadata

/-- The fields of the schema that the form has. -/
def heading (schema : CredentialSchema) : SchemaForm := ⟨schema.name, schema.description, schema.id⟩

/-- A download hands over metadata that was just handed over already, or a schema with the name,
the description and the id of the example. -/
def Repeats (before : List Press) (press : Press) : Prop :=
  let page := PressHistory.after step loaded before
  match press with
  | .downloadSchema =>
      ∀ form, page.schemaForm.submit = some form →
        form = heading exampleCredentialSchema
  | .downloadCredentialMetadata =>
      ∀ data, page.credentialMetadataForm.submit = some data → data = lastCredentialMetadata before
  | .downloadIssuerMetadata =>
      ∀ data, page.issuerMetadataForm.submit = some data → data = lastIssuerMetadata before
  | _ => True

section Fields

variable (page : Page) (press : Press)

/-- Adding an attribute saves nothing, and changes the list, the schema below its heading and the
error only. -/
theorem press_add (form : AttributeData) :
    ∃ attributes credentialSchema error, heading credentialSchema = heading page.credentialSchema ∧
      page.press (.addAttribute form) =
        ({ page with
            attributes := attributes, credentialSchema := credentialSchema, error := error },
          none) := by
  simp only [Page.press]
  cases form.submit with
  | none => exact ⟨_, _, _, rfl, rfl⟩
  | some data =>
      simp only [SchemaPage.addAttribute]
      split
      · exact ⟨_, _, _, rfl, rfl⟩
      · rename_i added
        split at added
        · cases added
        · cases added
          refine ⟨_, _, _, ?_, rfl⟩
          rfl

/-- No press changes the heading of the schema. -/
theorem step_heading :
    heading (page.step press).credentialSchema = heading page.credentialSchema := by
  cases press with
  | addAttribute form =>
      obtain ⟨_, _, _, same, added⟩ := page.press_add form
      rw [step, added]
      exact same
  | clearAttributes => rfl
  | _ => exact congrArg heading (page.press_other (by simp) (by simp)).2

/-- The page keeps the metadata that was handed over. -/
theorem step_metadata :
    (page.step press).credentialMetadata =
        (page.submittedCredentialMetadata press).getD page.credentialMetadata ∧
      (page.step press).issuerMetadata =
        (page.submittedIssuerMetadata press).getD page.issuerMetadata := by
  cases press with
  | addAttribute form =>
      obtain ⟨_, _, _, -, added⟩ := page.press_add form
      rw [step, added]
      exact ⟨rfl, rfl⟩
  | createCredentialMetadata | downloadCredentialMetadata =>
      simp only [step, Page.press, submittedCredentialMetadata]
      cases page.credentialMetadataForm.submit <;> exact ⟨rfl, rfl⟩
  | createIssuerMetadata | downloadIssuerMetadata =>
      simp only [step, Page.press, submittedIssuerMetadata]
      cases page.issuerMetadataForm.submit <;> exact ⟨rfl, rfl⟩
  | downloadSchema =>
      simp only [step, Page.press]
      cases page.schemaForm.submit <;> exact ⟨rfl, rfl⟩
  | clearAttributes | editSchema | createSchema | editCredentialMetadata | editIssuerMetadata =>
      exact ⟨rfl, rfl⟩

end Fields

theorem after_credentialMetadata (before : List Press) :
    (PressHistory.after step loaded before).credentialMetadata = lastCredentialMetadata before :=
  PressHistory.field_after (fun page press => (step_metadata page press).1) loaded before

theorem after_issuerMetadata (before : List Press) :
    (PressHistory.after step loaded before).issuerMetadata = lastIssuerMetadata before :=
  PressHistory.field_after (fun page press => (step_metadata page press).2) loaded before

/-- The schema always has the name, the description and the id of the example. -/
theorem after_heading (before : List Press) :
    heading (PressHistory.after step loaded before).credentialSchema =
      heading exampleCredentialSchema := by
  have kept : ∀ page press, heading (step page press).credentialSchema =
      heading page.credentialSchema := step_heading
  exact @PressHistory.field_kept _ _ step _ (heading ·.credentialSchema) kept loaded before

/-- A file of metadata has the values of its form when it is what the form hands over. -/
theorem contains_credentialMetadata {page : Page} {data : CredentialMetadata}
    (submitted : page.credentialMetadataForm.submit = some data) (saved : CredentialMetadata) :
    page.Contains (.credentialMetadata saved) ↔ data = saved := by
  unfold CredentialMetadataForm.submit at submitted
  split at submitted
  · cases submitted
    obtain ⟨title, ⟨logo⟩, backgroundColor, image⟩ := saved
    have link : ∀ image : Option Link, image.map Link.url =
        (if page.credentialMetadataForm.imageUrl = "" then none
          else some page.credentialMetadataForm.imageUrl) ↔
        (if page.credentialMetadataForm.imageUrl = "" then none
          else some ⟨page.credentialMetadataForm.imageUrl⟩) = image := by
      rintro (_ | ⟨⟨url⟩⟩) <;> split <;> simp [eq_comm]
    simp only [Contains, link, CredentialMetadata.mk.injEq, Link.mk.injEq]
    tauto
  · cases submitted

theorem contains_issuerMetadata {page : Page} {data : IssuerMetadata}
    (submitted : page.issuerMetadataForm.submit = some data) (saved : IssuerMetadata) :
    page.Contains (.issuerMetadata saved) ↔ data = saved := by
  unfold IssuerMetadataForm.submit at submitted
  split at submitted
  · cases submitted
    obtain ⟨name, ⟨icon⟩, description, url⟩ := saved
    simp only [Contains, IssuerMetadata.mk.injEq, Link.mk.injEq]
    tauto
  · cases submitted

theorem contains_credentialSchema {page : Page} {form : SchemaForm}
    (submitted : page.schemaForm.submit = some form) (saved : CredentialSchema) :
    page.Contains (.credentialSchema saved) ↔ form = heading saved := by
  unfold SchemaForm.submit at submitted
  split at submitted
  · cases submitted
    simp only [Contains, heading]
    generalize page.schemaForm = form
    obtain ⟨name, description, id⟩ := form
    simp only [SchemaForm.mk.injEq]
    tauto
  · cases submitted

/-- A press that saves what a form hands over saves the values of the form. -/
theorem saves_iff {A : Type} {page : Page} {press : Press} {submitted : Option A}
    {file : SavedFile} {held : A}
    (saved : (page.press press).2 = submitted.map fun _ => file)
    (contains : ∀ data, submitted = some data → (page.Contains file ↔ data = held)) :
    page.Saves press ↔ ∀ data, submitted = some data → data = held := by
  unfold Saves
  rw [saved]
  cases submitted with
  | none => simp
  | some data => simpa using contains data rfl

/-- The other presses save nothing. -/
theorem saves_nothing {page : Page} {press : Press} (nothing : (page.press press).2 = none) :
    page.Saves press := by
  intro file saved
  rw [nothing] at saved
  cases saved

/-- A download saves the values of its form exactly when they were handed over already, and a
schema only under the name, the description and the id of the example. -/
theorem downloads_contain (before : List Press) (press : Press) :
    (PressHistory.after step loaded before).Saves press ↔ Repeats before press := by
  have metadata := after_credentialMetadata before
  have issuer := after_issuerMetadata before
  have schema := after_heading before
  unfold Repeats
  simp only
  rw [← metadata, ← issuer, ← schema]
  generalize PressHistory.after step loaded before = page
  cases press with
  | downloadSchema =>
      refine saves_iff ?_ fun form submitted => contains_credentialSchema submitted _
      simp only [Page.press]
      cases page.schemaForm.submit <;> rfl
  | downloadCredentialMetadata =>
      refine saves_iff ?_ fun data submitted => contains_credentialMetadata submitted _
      simp only [Page.press]
      cases page.credentialMetadataForm.submit <;> rfl
  | downloadIssuerMetadata =>
      refine saves_iff ?_ fun data submitted => contains_issuerMetadata submitted _
      simp only [Page.press]
      cases page.issuerMetadataForm.submit <;> rfl
  | addAttribute form =>
      obtain ⟨_, _, _, -, added⟩ := page.press_add form
      exact iff_of_true (saves_nothing (congrArg Prod.snd added)) trivial
  | createCredentialMetadata | createIssuerMetadata =>
      refine iff_of_true (saves_nothing ?_) trivial
      simp only [Page.press]
      split <;> rfl
  | _ => exact iff_of_true (saves_nothing rfl) trivial

/-- The first download after an edit saves the example. -/
theorem download_saves_example :
    let page := PressHistory.after step loaded
      [.editCredentialMetadata ⟨"Diploma", "https://a.b/logo.png", "#ffffff", ""⟩]
    (page.press .downloadCredentialMetadata).2 =
        some (.credentialMetadata exampleCredentialMetadata) ∧
      ¬page.Saves .downloadCredentialMetadata := by
  have saved : ((PressHistory.after step loaded
      [.editCredentialMetadata ⟨"Diploma", "https://a.b/logo.png", "#ffffff", ""⟩]).press
        .downloadCredentialMetadata).2 = some (.credentialMetadata exampleCredentialMetadata) := by
    decide
  refine ⟨saved, fun saves => ?_⟩
  have title : exampleCredentialMetadata.title = "Diploma" := (saves _ saved).1
  exact absurd title (by decide)

end Page

end Web3Id.SchemaPage
