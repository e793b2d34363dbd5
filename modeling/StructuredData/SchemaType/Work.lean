import StructuredData.SchemaType.Site

/-!
# Types for what a site publishes and sells
-/

namespace StructuredData.SchemaType

open Property

/-- The types of articles. -/
def articleTypes : Value := plainOptions ["Article", "NewsArticle", "BlogPosting"]

/-- A post as an article. -/
def article : SchemaType where
  name := "Article"
  title := .ok "Article"
  docsUrl := "https://developers.google.com/search/docs/advanced/structured-data/article"
  showOn := .ok { rules := ["post|all"] }
  typeOptions := articleTypes
  fields := .ok [
    titleField "Article",
    idField pageId,
    { id := "@type", required := true, defaultValue := "Article", options := articleTypes,
      label := "Type" },
    { Property.name with visible := true },
    { Property.url with required := true, defaultValue := "%post.url%" },
    { id := "headline", required := true, defaultValue := "%post.title%",
      label := "Headline" },
    description,
    { datePublished with required := true, defaultValue := "%post.date%" },
    { dateModified with defaultValue := "%post.modified_date%" },
    { id := "commentCount", required := true, defaultValue := "%post.comment_count%",
      label := "Comment count" },
    { id := "wordCount", required := true, defaultValue := "%post.word_count%",
      label := "Word count" },
    { id := "keywords", required := true, defaultValue := "%post.tags%",
      label := "Keywords" },
    { id := "articleSection", required := true, defaultValue := "%post.categories%",
      label := "Article section" },
    { id := "author", required := true, defaultValue := "%schemas.person%",
      label := "Author" },
    { image with visible := true },
    { id := "hasPart", kind := .group, cloneable := true, label := "Paywalled content",
      children := [
        typeTag "WebPageElement",
        { id := "isAccessibleForFree", required := true, defaultValue := "true",
          options := .object [("true", "Yes"), ("false", "No")],
          label := "Accessible for free" },
        { id := "cssSelector", required := true, label := "CSS selector" }] },
    { id := "isPartOf", defaultValue := "%schemas.webpage%", visible := true,
      label := "Part of" },
    mainEntityOfPage,
    { id := "publisher", required := true, defaultValue := "%schemas.organization%",
      label := "Publisher" },
    mainEntity]

/-- The offer of a product, or the offers if there are several. -/
def offers : Field :=
  { id := "offers", kind := .group, visible := true, label := "Offers", children := [
      { id := "@type", required := true, defaultValue := "Offer",
        options := plainOptions ["Offer", "AggregateOffer"], label := "Offer type" },
      { id := "price", required := true, defaultValue := "%product.price%",
        variant := "Offer", label := "Price" },
      { id := "priceCurrency", required := true, defaultValue := "%product.currency%",
        label := "Currency" },
      { id := "availability", required := true, defaultValue := "%product.stock%",
        label := "Availability" },
      { id := "lowPrice", required := true, defaultValue := "%product.low_price%",
        variant := "AggregateOffer", label := "Low price" },
      { id := "highPrice", defaultValue := "%product.high_price%", visible := true,
        variant := "AggregateOffer", label := "High price" },
      { id := "offerCount", defaultValue := "%product.offer_count%", visible := true,
        variant := "AggregateOffer", label := "Offer count" }] }

/-- The product that a post presents. -/
def product : SchemaType where
  name := "Product"
  title := .ok "Product"
  docsUrl := "https://developers.google.com/search/docs/advanced/structured-data/product"
  showOn := .ok { rules := ["product|all"] }
  fields := .ok [
    titleField "Product",
    idField pageId,
    { Property.name with required := true },
    { description with visible := true },
    { id := "brand", kind := .group, visible := true, label := "Brand", children := [
        typeTag "Brand",
        { id := "name", defaultValue := "%site.title%", visible := true,
          label := "Brand name" }] },
    { Property.url with defaultValue := "%post.url%", visible := true },
    { id := "sku", defaultValue := "%product.sku%", visible := true, label := "SKU" },
    { id := "image", kind := .group, visible := true, label := "Image", children := [
        { id := "@id", kind := .hidden, defaultValue := "%product.image%",
          visible := true },
        visibleTypeTag "ImageObject",
        { id := "url", defaultValue := "%product.image%", visible := true, label := "URL" },
        { id := "width", defaultValue := "%product.image_width%", visible := true,
          label := "Width" },
        { id := "height", defaultValue := "%product.image_height%", visible := true,
          label := "Height" }] },
    mainEntityOfPage,
    { aggregateRating with visible := true },
    offers]

end StructuredData.SchemaType
