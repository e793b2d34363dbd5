import StructuredData.SchemaType.Site

/-!
# Types for organizations and persons
-/

namespace StructuredData.SchemaType

open Property

/-- A labelled group of types of organizations. -/
def organizationGroup (key label : String) (types : List String) : Scalar × Value :=
  (key, .object [("label", label), ("options", plainOptions types)])

/-- The types of organizations. -/
def organizationTypes : Value := .object [
  organizationGroup "general" "General" ["Organization", "Corporation", "NGO"],
  organizationGroup "education" "Educational" ["EducationalOrganization", "CollegeOrUniversity",
    "ElementarySchool", "HighSchool", "MiddleSchool", "Preschool", "School"],
  organizationGroup "government" "Government" ["GovernmentOrganization", "FundingAgency"],
  organizationGroup "medical" "Medical" ["MedicalOrganization", "DiagnosticLab",
    "VeterinaryCare"],
  organizationGroup "arts" "Arts & Performance" ["PerformingGroup", "DanceGroup", "MusicGroup",
    "TheaterGroup"],
  organizationGroup "media" "Media" ["NewsMediaOrganization"],
  organizationGroup "research" "Research" ["Project", "ResearchProject", "Consortium"],
  organizationGroup "sports" "Sports" ["SportsOrganization", "SportsTeam"],
  organizationGroup "services" "Services" ["Airline", "LibrarySystem", "WorkersUnion"]]

/-- The organization behind the site. -/
def organization : SchemaType where
  name := "Organization"
  title := .ok "Organization"
  docsUrl := "https://schema.org/Organization"
  showOn := .ok { rules := ["basic-global"] }
  typeOptions := organizationTypes
  fields := .ok [
    idField siteId,
    titleField "Organization",
    { id := "@type", defaultValue := "Organization", visible := true,
      options := organizationTypes, label := "Type" },
    { Property.name with required := true, defaultValue := "%site.title%" },
    { id := "email", visible := true, label := "Email" },
    { id := "faxNumber", label := "Fax number" },
    { Property.person with id := "founder", cloneable := true, label := "Founder" },
    { id := "foundingDate", label := "Founding date" },
    { id := "keywords", label := "Keywords" },
    { id := "logo", defaultValue := "%site.icon%", visible := true, label := "Logo" },
    { id := "sameAs", defaultValue := "", cloneable := true, visible := true,
      label := "Same as" },
    { id := "slogan", defaultValue := "%site.description%", visible := true,
      label := "Slogan" },
    { id := "telephone", defaultValue := "", visible := true, label := "Telephone" },
    { Property.url with defaultValue := "%site.url%", visible := true }]

/-- The author of a post. -/
def person : SchemaType where
  name := "Person"
  title := .ok "Person"
  docsUrl := "https://schema.org/Person"
  showOn := .ok { rules := ["post|all"] }
  fields := .ok [
    titleField "Person",
    idField pageId,
    personName "Name",
    { id := "url", defaultValue := "%author.posts_url%", visible := true, label := "URL" },
    { id := "givenName", defaultValue := "%author.first_name%", visible := true,
      label := "Given name" },
    { id := "familyName", defaultValue := "%author.last_name%", visible := true,
      label := "Family name" },
    { id := "brand", defaultValue := "%site.title%", visible := true, label := "Brand" },
    { id := "mainEntityOfPage", defaultValue := "", visible := true,
      label := "Main entity of page" },
    { description with defaultValue := "%author.description%" },
    { id := "email", label := "Email" },
    { id := "image", defaultValue := "%author.avatar%", visible := true, label := "Image" },
    { id := "telephone", label := "Telephone" },
    { id := "sameAs", defaultValue := "", cloneable := true, visible := true,
      label := "Same as" }]

end StructuredData.SchemaType
